import Mathlib.Data.List.Forall2

namespace Refit

variable {α β ε δ : Type} {f : α → Except ε β} {l : List α} {r : List β} {a : α} {b : β}
  {x : Except ε α}

theorem exists_of_map_eq_ok {g : α → β} (h : x.map g = .ok b) : ∃ a, x = .ok a ∧ g a = b := by
  cases x with
  | error e => cases h
  | ok a => exact ⟨a, rfl, Except.ok.inj h⟩

theorem exists_of_bind_eq_ok (h : x >>= f = .ok b) : ∃ a, x = .ok a ∧ f a = .ok b := by
  cases x with
  | error e => cases h
  | ok a => exact ⟨a, rfl, h⟩

theorem eq_ok_of_mapError_eq_ok {g : ε → δ} (h : x.mapError g = .ok a) : x = .ok a := by
  cases x with
  | error e => cases h
  | ok a => exact congrArg Except.ok (Except.ok.inj h)

theorem exists_of_mapError_eq_error {g : ε → δ} {d : δ} (h : x.mapError g = .error d) :
    ∃ e, x = .error e ∧ g e = d := by
  cases x with
  | error e => exact ⟨e, rfl, Except.error.inj h⟩
  | ok a => cases h

theorem mapM_eq_ok_iff : l.mapM f = .ok r ↔ List.Forall₂ (fun a b => f a = .ok b) l r := by
  induction l generalizing r with
  | nil => cases r <;> simp [pure, Except.pure]
  | cons a l ih =>
    rw [List.mapM_cons]
    cases ha : f a with
    | error e => cases r <;> simp [Bind.bind, Except.bind, ha]
    | ok b =>
      cases hl : l.mapM f with
      | error e => cases r <;> simp [Bind.bind, Except.bind, ← ih, hl, ha]
      | ok bs => cases r <;> simp [Bind.bind, Except.bind, pure, Except.pure, ← ih, hl, ha]

theorem exists_of_mem_mapM (h : l.mapM f = .ok r) (hb : b ∈ r) :
    ∃ a ∈ l, f a = .ok b := by
  induction mapM_eq_ok_iff.mp h with
  | nil => cases hb
  | @cons a b' l r hab hlr ih =>
    rcases List.mem_cons.mp hb with rfl | hb
    · exact ⟨a, List.mem_cons_self, hab⟩
    · obtain ⟨a', ha', hfa⟩ := ih (mapM_eq_ok_iff.mpr hlr) hb
      exact ⟨a', List.mem_cons_of_mem _ ha', hfa⟩

theorem mapM_map_eq_some {read : β → Option α} {write : α → β}
    (h : ∀ a ∈ l, read (write a) = some a) : (l.map write).mapM read = some l := by
  induction l with
  | nil => rfl
  | cons a l ih =>
    obtain ⟨ha, hl⟩ := List.forall_mem_cons.mp h
    rw [List.map_cons, List.mapM_cons, ha, ih hl]
    rfl

end Refit
