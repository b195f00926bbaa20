import Refit.Proofs.Text.Cut
import Refit.Proofs.Text.Lines

namespace Refit.Text

variable {needle replacement start t rest : Text} {test : Option Char → Text → Bool}
  {before : Option Char}

theorem behind_or_within {u v x y : Text} (h : u ++ v = x ++ y) :
    (∃ r, x = u ++ r ∧ v = r ++ y) ∨ ∃ r, r ≠ [] ∧ u = x ++ r ∧ y = r ++ v := by
  rcases List.append_eq_append_iff.mp h with ⟨r, hx, hv⟩ | ⟨r, hu, hy⟩
  · exact .inl ⟨r, hx, hv⟩
  · cases r with
    | nil => exact .inl ⟨[], by simpa using hu.symm, by simpa using hy.symm⟩
    | cons c r => exact .inr ⟨c :: r, List.cons_ne_nil c r, hu, hy⟩

theorem behind_or_before {c : Char} {u v x y z : Text} (hz : c ∉ z)
    (h : x ++ z ++ y = u ++ c :: v) :
    (∃ r, u = x ++ z ++ r ∧ y = r ++ c :: v) ∨ ∃ r, x = u ++ c :: r ∧ v = r ++ z ++ y := by
  rw [List.append_assoc] at h
  rcases List.append_eq_append_iff.mp h with ⟨s, rfl, hs⟩ | ⟨s, rfl, hs⟩
  · rcases List.append_eq_append_iff.mp hs with ⟨r, rfl, rfl⟩ | ⟨r, rfl, hr⟩
    · exact .inl ⟨r, by simp, rfl⟩
    · cases r with
      | nil => exact .inl ⟨[], by simp, by simpa using hr.symm⟩
      | cons d r =>
        simp only [List.cons_append, List.cons.injEq] at hr
        exact absurd (by simp [hr.1]) hz
  · cases s with
    | nil =>
      cases z with
      | nil => exact .inl ⟨[], by simp, by simpa using hs.symm⟩
      | cons d z =>
        simp only [List.nil_append, List.cons_append, List.cons.injEq] at hs
        exact absurd (by simp [hs.1]) hz
    | cons d s =>
      simp only [List.cons_append, List.cons.injEq] at hs
      obtain ⟨rfl, rfl⟩ := hs
      exact .inr ⟨s, by simp, by simp⟩

theorem here_or_later {c : Char} {u v w x : Text} (hu : c ∉ u) (h : u ++ c :: v = x ++ c :: w) :
    (x = u ∧ w = v) ∨ ∃ r, x = u ++ c :: r ∧ v = r ++ c :: w := by
  rcases behind_or_before (x := []) hu h with ⟨r, rfl, hr⟩ | ⟨r, hr, -⟩
  · cases r with
    | nil => simp_all
    | cons d r =>
      simp only [List.cons_append, List.cons.injEq] at hr
      obtain ⟨rfl, rfl⟩ := hr
      exact .inr ⟨r, rfl, rfl⟩
  · simp at hr

theorem foreign_of_all {cs : List Char} (h : (cs.all fun c => !t.contains c) = true) :
    ∀ c ∈ cs, c ∉ t := by
  simpa using h

theorem dropStart?_eq_some_iff : dropStart? start t = some rest ↔ t = start ++ rest := by
  induction start generalizing t with
  | nil => simp [dropStart?]
  | cons b start ih =>
    cases t with
    | nil => simp [dropStart?]
    | cons c t =>
      by_cases h : b = c
      · simp [dropStart?, h, ih]
      · simp [dropStart?, h, Ne.symm h]

theorem hasInfix_iff : hasInfix needle t = true ↔ needle <:+: t := by
  induction t with
  | nil => simp [hasInfix]
  | cons c t ih => simp [hasInfix, ih, List.infix_cons_iff]

theorem infix_append_cons {c : Char} {u v : Text} (hc : c ∉ needle) :
    needle <:+: u ++ c :: v ↔ needle <:+: u ∨ needle <:+: v := by
  constructor
  · intro h
    obtain ⟨x, y, h⟩ := h
    cases behind_or_before hc h with
    | inl h =>
      obtain ⟨r, rfl, -⟩ := h
      exact .inl ⟨x, r, rfl⟩
    | inr h =>
      obtain ⟨r, -, rfl⟩ := h
      exact .inr ⟨r, y, rfl⟩
  · intro h
    cases h with
    | inl h => exact h.trans (List.prefix_append u _).isInfix
    | inr h => exact h.trans ((List.suffix_cons c v).trans (List.suffix_append u _)).isInfix

theorem infix_append_lineEnd (hne : needle ≠ []) (hr : '\r' ∉ needle) (hn : '\n' ∉ needle)
    (line : Text) (e : LineEnd) : needle <:+: line ++ e.text ↔ needle <:+: line := by
  rw [e.text_eq, ← List.append_assoc, infix_append_cons hn, List.infix_nil, or_iff_left hne]
  cases e with
  | lf => rw [LineEnd.lead, List.append_nil]
  | crlf => rw [LineEnd.lead, infix_append_cons hr, List.infix_nil, or_iff_left hne]

theorem anyPosition_iff : anyPosition test before t = true ↔
    ∃ x y, t = x ++ y ∧ test (x.getLast?.or before) y = true := by
  induction t generalizing before with
  | nil => simp [anyPosition]
  | cons c t ih =>
    rw [anyPosition, Bool.or_eq_true, ih]
    constructor
    · rintro (h | ⟨x, y, rfl, h⟩)
      · exact ⟨[], c :: t, rfl, h⟩
      · exact ⟨c :: x, y, rfl, by rwa [getLast?_cons_or]⟩
    · rintro ⟨x, y, hxy, h⟩
      cases x with
      | nil => exact .inl (by simpa [hxy] using h)
      | cons d x =>
        simp only [List.cons_append, List.cons.injEq] at hxy
        obtain ⟨rfl, rfl⟩ := hxy
        exact .inr ⟨x, y, rfl, by rwa [getLast?_cons_or] at h⟩

theorem literally_spells (h : needle ≠ []) : (literally needle).Spells fun _ => needle := by
  intro before t n a hf
  simp only [literally] at hf
  split at hf
  · next hp =>
    obtain ⟨rest, rfl⟩ := List.isPrefixOf_iff_prefix.mp hp
    simp only [Option.some.injEq, Prod.mk.injEq] at hf
    exact ⟨h, hf.1.symm, rest, rfl⟩
  · cases hf

theorem hits_literally_eq_nil_iff (h : needle ≠ []) :
    hits (literally needle) t = [] ↔ hasInfix needle t = false := by
  rw [hits_eq_nil_iff (literally_spells h), ← Bool.not_eq_true, hasInfix_iff]
  constructor
  · rintro hnone ⟨x, y, rfl⟩
    obtain ⟨c, u, rfl⟩ := List.exists_cons_of_ne_nil h
    simpa [literally] using hnone x c (u ++ y) (by simp)
  · intro hnot x c y ht
    simp only [literally]
    rw [if_neg]
    intro hp
    obtain ⟨rest, hrest⟩ := List.isPrefixOf_iff_prefix.mp hp
    exact hnot ⟨x, rest, by rw [ht, ← hrest, List.append_assoc]⟩

end Refit.Text
