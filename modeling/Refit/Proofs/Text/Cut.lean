import Mathlib.Data.List.Basic
import Refit.Text.Basic

namespace Refit.Text

variable {α : Type} {find : Finder α} {text : α → Text} {before : Option Char} {t : Text}
  {ps : List (Piece α)} {a : α}

theorem getLast?_cons_or (c : Char) (u : Text) (before : Option Char) :
    (c :: u).getLast?.or before = u.getLast?.or (some c) := by
  cases h : u.getLast? <;> simp [List.getLast?_cons, h]

theorem getLast?_append_cons (u : Text) (c : Char) (v : Text) :
    (u ++ c :: v).getLast? = v.getLast?.or (some c) := by
  simp [List.getLast?_cons]

def Piece.render (f : α → Text) : Piece α → Text
  | .gap c => [c]
  | .hit a => f a

def Piece.map {β : Type} (f : α → β) : Piece α → Piece β
  | .gap c => .gap c
  | .hit a => .hit (f a)

def Piece.hit? : Piece α → Option α
  | .gap _ => none
  | .hit a => some a

theorem hits_eq (find : Finder α) (t : Text) :
    hits find t = (pieces find t).filterMap Piece.hit? := by
  unfold hits
  congr 1

theorem replaceHits_eq (find : Finder α) (f : α → Text) (t : Text) :
    replaceHits find f t = (pieces find t).flatMap (Piece.render f) := by
  unfold replaceHits
  congr 1

theorem mem_hits : a ∈ hits find t ↔ .hit a ∈ pieces find t := by
  rw [hits_eq, List.mem_filterMap]
  constructor
  · rintro ⟨p, hp, hpa⟩
    cases p with
    | gap c => simp [Piece.hit?] at hpa
    | hit b => simp_all [Piece.hit?]
  · intro ha
    exact ⟨_, ha, rfl⟩

def Finder.Spells (find : Finder α) (text : α → Text) : Prop :=
  ∀ before t n a, find before t = some (n, a) →
    text a ≠ [] ∧ n = (text a).length ∧ ∃ rest, t = text a ++ rest

inductive Cut (find : Finder α) (text : α → Text) : Option Char → Text → List (Piece α) → Prop
  | nil {b : Option Char} : Cut find text b [] []
  | gap {b : Option Char} {c : Char} {s : Text} {ps : List (Piece α)} :
      find b (c :: s) = none → Cut find text (some c) s ps → Cut find text b (c :: s) (.gap c :: ps)
  | hit {b : Option Char} {a : α} {s : Text} {ps : List (Piece α)} :
      text a ≠ [] → find b (text a ++ s) = some ((text a).length, a) →
      Cut find text (text a).getLast? s ps → Cut find text b (text a ++ s) (.hit a :: ps)

theorem piecesFrom_skip (find : Finder α) (u t : Text) (before : Option Char) :
    piecesFrom find before u.length (u ++ t) = piecesFrom find (u.getLast?.or before) 0 t := by
  induction u generalizing before with
  | nil => simp
  | cons c u ih =>
    rw [List.length_cons, List.cons_append, piecesFrom, ih, getLast?_cons_or]

theorem piecesFrom_hit (ha : text a ≠ [])
    (h : find before (text a ++ t) = some ((text a).length, a)) :
    piecesFrom find before 0 (text a ++ t) = .hit a :: piecesFrom find (text a).getLast? 0 t := by
  obtain ⟨c, u, hu⟩ := List.exists_cons_of_ne_nil ha
  rw [hu] at h ⊢
  simp only [List.cons_append] at h ⊢
  rw [piecesFrom, h]
  simp only [List.length_cons, Nat.add_sub_cancel, piecesFrom_skip]
  rw [← getLast?_cons_or c u none, Option.or_none]

theorem piecesFrom_gaps {u : Text} (h : ∀ x c y, u = x ++ c :: y →
    find (x.getLast?.or before) (c :: (y ++ t)) = none) :
    piecesFrom find before 0 (u ++ t) =
      u.map .gap ++ piecesFrom find (u.getLast?.or before) 0 t := by
  induction u generalizing before with
  | nil => simp
  | cons c u ih =>
    have hfind : find before (c :: (u ++ t)) = none := by simpa using h [] c u rfl
    rw [List.cons_append, piecesFrom, hfind, getLast?_cons_or]
    simp only [List.map_cons, List.cons_append, List.cons.injEq, true_and]
    refine ih fun x d y hu => ?_
    rw [← getLast?_cons_or]
    exact h (c :: x) d y (by rw [hu]; rfl)

theorem cut_piecesFrom (h : find.Spells text) (before : Option Char) (t : Text) :
    Cut find text before t (piecesFrom find before 0 t) := by
  induction hn : t.length using Nat.strongRecOn generalizing before t with
  | ind n ih =>
    cases t with
    | nil => exact .nil
    | cons c rest =>
      cases hf : find before (c :: rest) with
      | none =>
        rw [piecesFrom, hf]
        exact .gap hf (ih rest.length (by simp [← hn]) _ _ rfl)
      | some found =>
        obtain ⟨k, a⟩ := found
        obtain ⟨ha, rfl, t, ht⟩ := h before (c :: rest) k a hf
        rw [ht] at hf hn ⊢
        rw [piecesFrom_hit ha hf]
        have hlen : 0 < (text a).length := List.length_pos_iff.mpr ha
        exact .hit ha hf (ih t.length (by simp at hn; omega) _ _ rfl)

theorem cut_pieces (h : find.Spells text) (t : Text) : Cut find text none t (pieces find t) :=
  cut_piecesFrom h none t

theorem Cut.piecesFrom_eq (h : Cut find text before t ps) : piecesFrom find before 0 t = ps := by
  induction h with
  | nil => rfl
  | gap hgap _ ih => rw [piecesFrom, hgap, ih]
  | hit ha hfound _ ih => rw [piecesFrom_hit ha hfound, ih]

theorem piecesFrom_append (h : find.Spells text) {u rest : Text}
    (hlocal : ∀ b x c y, u = x ++ c :: y → find b (c :: y ++ rest) = find b (c :: y)) :
    piecesFrom find before 0 (u ++ rest) =
      piecesFrom find before 0 u ++ piecesFrom find (u.getLast?.or before) 0 rest := by
  have hcut := cut_piecesFrom h before u
  generalize piecesFrom find before 0 u = ps at hcut ⊢
  induction hcut with
  | nil => rfl
  | @gap b c s ps hgap _ ih =>
    have hlater : ∀ b x d y, s = x ++ d :: y → find b (d :: y ++ rest) = find b (d :: y) :=
      fun b x d y hs => hlocal b (c :: x) d y (by rw [hs]; rfl)
    have hgap : find b (c :: (s ++ rest)) = none := (hlocal b [] c s rfl).trans hgap
    rw [List.cons_append, piecesFrom, hgap, getLast?_cons_or]
    exact congrArg (.gap c :: ·) (ih hlater)
  | @hit b a s ps ha hfound _ ih =>
    have hlater : ∀ b x d y, s = x ++ d :: y → find b (d :: y ++ rest) = find b (d :: y) :=
      fun b x d y hs => hlocal b (text a ++ x) d y (by simp [hs])
    obtain ⟨c, v, hv⟩ := List.exists_cons_of_ne_nil ha
    have hfound : find b (text a ++ (s ++ rest)) = some ((text a).length, a) := by
      have := hlocal b [] c (v ++ s) (by simp [hv])
      rw [← hfound, ← List.append_assoc]
      simpa [hv] using this
    rw [List.append_assoc, piecesFrom_hit ha hfound, List.getLast?_append, Option.or_assoc]
    have hlast : (text a).getLast?.or b = (text a).getLast? := by simp [hv, List.getLast?_cons]
    rw [hlast]
    exact congrArg (.hit a :: ·) (ih hlater)

theorem piecesFrom_congr {before' : Option Char} (h : ∀ t, find before t = find before' t)
    (t : Text) : piecesFrom find before 0 t = piecesFrom find before' 0 t := by
  cases t with
  | nil => rfl
  | cons c t => rw [piecesFrom, piecesFrom, h]

theorem Cut.flatMap_render (h : Cut find text before t ps) :
    ps.flatMap (Piece.render text) = t := by
  induction h with
  | nil => rfl
  | gap _ _ ih => simp [Piece.render, ih]
  | hit _ _ _ ih => simp [Piece.render, ih]

theorem Cut.exists_of_mem (h : Cut find text before t ps) (ha : .hit a ∈ ps) :
    ∃ x y, t = x ++ text a ++ y ∧
      find (x.getLast?.or before) (text a ++ y) = some ((text a).length, a) := by
  induction h with
  | nil => cases ha
  | @gap before c t ps _ _ ih =>
    obtain ⟨x, y, rfl, hf⟩ := ih (by simpa using ha)
    exact ⟨c :: x, y, rfl, by rwa [getLast?_cons_or]⟩
  | @hit before e t ps he hf _ ih =>
    rcases List.mem_cons.mp ha with hae | ha
    · obtain rfl : a = e := by simpa using hae
      exact ⟨[], t, by simp, by simpa using hf⟩
    · obtain ⟨x, y, rfl, hxy⟩ := ih ha
      refine ⟨text e ++ x, y, by simp, ?_⟩
      rw [List.getLast?_append, Option.or_assoc]
      cases hl : (text e).getLast? with
      | none => exact absurd (List.getLast?_eq_none_iff.mp hl) he
      | some c => rwa [hl] at hxy

theorem Cut.find_eq_none (h : Cut find text before t ps) (hps : ∀ a, .hit a ∉ ps)
    {x y : Text} {c : Char} (ht : t = x ++ c :: y) :
    find (x.getLast?.or before) (c :: y) = none := by
  induction h generalizing x with
  | nil => simp at ht
  | @gap before d t ps hd _ ih =>
    cases x with
    | nil =>
      cases ht
      exact hd
    | cons e x =>
      simp only [List.cons_append, List.cons.injEq] at ht
      obtain ⟨rfl, rfl⟩ := ht
      rw [getLast?_cons_or]
      exact ih (fun a ha => hps a (by simp [ha])) rfl
  | @hit _ a => exact absurd List.mem_cons_self (hps a)

section Hits

variable (h : find.Spells text)
include h

theorem replaceHits_text (t : Text) : replaceHits find text t = t := by
  rw [replaceHits_eq]
  exact (cut_pieces h t).flatMap_render

theorem exists_of_mem_hits (ha : a ∈ hits find t) :
    ∃ x y, t = x ++ text a ++ y ∧ find x.getLast? (text a ++ y) = some ((text a).length, a) := by
  simpa using (cut_pieces h t).exists_of_mem (mem_hits.mp ha)

theorem hits_eq_nil_iff :
    hits find t = [] ↔ ∀ x c y, t = x ++ c :: y → find x.getLast? (c :: y) = none := by
  constructor
  · intro hnil x c y ht
    have hps : ∀ a, Piece.hit a ∉ pieces find t := by
      intro a ha
      rw [← mem_hits, hnil] at ha
      cases ha
    simpa using (cut_pieces h t).find_eq_none hps ht
  · intro hnone
    by_contra hne
    obtain ⟨a, as, hcons⟩ := List.exists_cons_of_ne_nil hne
    obtain ⟨x, y, rfl, hf⟩ := exists_of_mem_hits h (a := a) (t := t) (by simp [hcons])
    obtain ⟨c, u, hu⟩ := List.exists_cons_of_ne_nil (h _ _ _ _ hf).1
    have := hnone x c (u ++ y) (by simp [hu])
    simp [hu, this] at hf

end Hits

theorem replaceHits_congr {f g : α → Text} (h : ∀ a ∈ hits find t, f a = g a) :
    replaceHits find f t = replaceHits find g t := by
  rw [replaceHits_eq, replaceHits_eq, List.flatMap_def, List.flatMap_def]
  congr 1
  apply List.map_congr_left
  intro p hp
  cases p with
  | gap c => rfl
  | hit a => exact h a (mem_hits.mpr hp)

theorem length_flatMap_le {β γ : Type} {f g : β → List γ} {l : List β}
    (h : ∀ b ∈ l, (f b).length ≤ (g b).length) : (l.flatMap f).length ≤ (l.flatMap g).length := by
  induction l with
  | nil => simp
  | cons a l ih =>
    simp only [List.mem_cons, forall_eq_or_imp] at h
    simpa using Nat.add_le_add h.1 (ih h.2)

theorem length_replaceHits_le (find : Finder α) {f g : α → Text}
    (h : ∀ a, (f a).length ≤ (g a).length) (t : Text) :
    (replaceHits find f t).length ≤ (replaceHits find g t).length := by
  rw [replaceHits_eq, replaceHits_eq]
  apply length_flatMap_le
  intro p _
  cases p with
  | gap c => exact Nat.le_refl 1
  | hit a => exact h a

theorem eq_of_flatMap_eq {β γ : Type} {f g : β → List γ} {l : List β}
    (hle : ∀ b ∈ l, (f b).length ≤ (g b).length) (heq : l.flatMap f = l.flatMap g) :
    ∀ b ∈ l, f b = g b := by
  induction l with
  | nil => simp
  | cons a l ih =>
    simp only [List.mem_cons, forall_eq_or_imp] at hle ⊢
    simp only [List.flatMap_cons] at heq
    have hrest := length_flatMap_le hle.2
    have hlen := congrArg List.length heq
    simp only [List.length_append] at hlen
    obtain ⟨ha, hl⟩ := List.append_inj heq (by omega)
    exact ⟨ha, ih hle.2 hl⟩

theorem eq_of_replaceHits_eq {f : α → Text} (h : find.Spells text)
    (hle : (∀ a ∈ hits find t, (f a).length ≤ (text a).length) ∨
      ∀ a ∈ hits find t, (text a).length ≤ (f a).length)
    (heq : replaceHits find f t = t) : ∀ a ∈ hits find t, f a = text a := by
  have hflat : (pieces find t).flatMap (Piece.render f) =
      (pieces find t).flatMap (Piece.render text) := by
    rw [← replaceHits_eq, heq, (cut_pieces h t).flatMap_render]
  have hall : ∀ p ∈ pieces find t, Piece.render f p = Piece.render text p := by
    rcases hle with hle | hle
    · apply eq_of_flatMap_eq _ hflat
      intro p hp
      cases p with
      | gap c => exact Nat.le_refl 1
      | hit a => exact hle a (mem_hits.mpr hp)
    · intro p hp
      apply Eq.symm
      apply eq_of_flatMap_eq _ hflat.symm p hp
      intro p hp
      cases p with
      | gap c => exact Nat.le_refl 1
      | hit a => exact hle a (mem_hits.mpr hp)
  intro a ha
  exact hall _ (mem_hits.mp ha)

theorem replaceHits_eq_self {f : α → Text} (h : find.Spells text) (hnil : hits find t = []) :
    replaceHits find f t = t := by
  rw [replaceHits_congr (g := text), replaceHits_text h]
  simp [hnil]

theorem replaceHits_ne_self {lit replacement : Text} (h : find.Spells fun _ => lit)
    (hr : replacement ≠ lit) (hhit : hits find t ≠ []) :
    replaceHits find (fun _ => replacement) t ≠ t := by
  intro heq
  obtain ⟨a, ha⟩ := List.exists_mem_of_ne_nil _ hhit
  refine hr (eq_of_replaceHits_eq h ?_ heq a ha)
  exact (Nat.le_total replacement.length lit.length).imp (fun h _ _ => h) fun h _ _ => h

end Refit.Text
