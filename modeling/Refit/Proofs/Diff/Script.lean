import Mathlib.Data.List.Basic
import Refit.Diff

namespace Refit.Diff

variable {α : Type}

namespace Edit

@[simp] theorem old_keep (xs : List α) : (keep xs).old = xs := rfl

@[simp] theorem old_delete (xs : List α) : (delete xs).old = xs := rfl

@[simp] theorem old_insert (xs : List α) : (insert xs).old = [] := rfl

@[simp] theorem new_keep (xs : List α) : (keep xs).new = xs := rfl

@[simp] theorem new_delete (xs : List α) : (delete xs).new = [] := rfl

@[simp] theorem new_insert (xs : List α) : (insert xs).new = xs := rfl

end Edit

namespace Script

variable {s t u : Script α} {a b a' b' : List α}

@[simp] theorem old_nil : old ([] : Script α) = [] := rfl

@[simp] theorem new_nil : new ([] : Script α) = [] := rfl

@[simp] theorem old_cons (e : Edit α) (s : Script α) : old (e :: s) = e.old ++ old s := rfl

@[simp] theorem new_cons (e : Edit α) (s : Script α) : new (e :: s) = e.new ++ new s := rfl

@[simp] theorem old_append (s t : Script α) : old (s ++ t) = old s ++ old t := List.flatMap_append

@[simp] theorem new_append (s t : Script α) : new (s ++ t) = new s ++ new t := List.flatMap_append

structure Between (s : Script α) (a b : List α) : Prop where
  old_eq : s.old = a
  new_eq : s.new = b

theorem Between.append (h : s.Between a b) (h' : t.Between a' b') :
    (s ++ t).Between (a ++ a') (b ++ b') where
  old_eq := by rw [old_append, h.old_eq, h'.old_eq]
  new_eq := by rw [new_append, h.new_eq, h'.new_eq]

def Same (s t : Script α) : Prop := s.Between t.old t.new

theorem Same.refl (s : Script α) : s.Same s := ⟨rfl, rfl⟩

theorem Same.trans (h : s.Same t) (h' : t.Same u) : s.Same u :=
  ⟨h.old_eq.trans h'.old_eq, h.new_eq.trans h'.new_eq⟩

theorem Same.cons (h : s.Same t) (e : Edit α) : Same (e :: s) (e :: t) :=
  ⟨congrArg (e.old ++ ·) h.old_eq, congrArg (e.new ++ ·) h.new_eq⟩

theorem Same.between (h : s.Same t) (ht : t.Between a b) : s.Between a b :=
  ⟨h.old_eq.trans ht.old_eq, h.new_eq.trans ht.new_eq⟩

theorem Between.cut {x y : Nat} (h : s.Between (a.take x) (b.take y))
    (h' : t.Between (a.drop x) (b.drop y)) : (s ++ t).Between a b := by
  simpa only [List.take_append_drop] using h.append h'

theorem Between.eq (h : s.Between a b) (hi : s.insertions = 0) (hd : s.deletions = 0) : a = b := by
  rw [← h.old_eq, ← h.new_eq, old, new]
  rw [insertions, List.length_eq_zero_iff, List.flatMap_eq_nil_iff] at hi
  rw [deletions, List.length_eq_zero_iff, List.flatMap_eq_nil_iff] at hd
  refine List.flatMap_congr fun e he => ?_
  cases e with
  | keep xs => rfl
  | delete xs => exact hd _ he
  | insert xs => exact (hi _ he).symm

end Script

theorem between_keep {xs ys : List α} (h : xs = ys) : Script.Between (stepOf .keep xs) xs ys := by
  subst h
  cases xs <;> constructor <;> simp [stepOf]

theorem between_delete (xs : List α) : Script.Between (stepOf .delete xs) xs [] := by
  cases xs <;> constructor <;> simp [stepOf]

theorem between_insert (xs : List α) : Script.Between (stepOf .insert xs) [] xs := by
  cases xs <;> constructor <;> simp [stepOf]

theorem between_replace (xs ys : List α) :
    Script.Between (stepOf .delete xs ++ stepOf .insert ys) xs ys := by
  simpa using (between_delete xs).append (between_insert ys)

section Shortest

variable [DecidableEq α]

theorem exists_commonStart (xs ys : List α) :
    ∃ z u v, xs = z ++ u ∧ ys = z ++ v ∧ z.length = commonStart xs ys := by
  fun_induction commonStart xs ys with
  | case1 xs x ys ih =>
    obtain ⟨z, u, v, hxs, hys, hz⟩ := ih
    exact ⟨x :: z, u, v, congrArg (x :: ·) hxs, congrArg (x :: ·) hys, congrArg (· + 1) hz⟩
  | case2 x xs y ys h => exact ⟨[], x :: xs, y :: ys, rfl, rfl, rfl⟩
  | case3 xs ys => exact ⟨[], xs, ys, rfl, rfl, rfl⟩

theorem exists_commonEnd (xs ys : List α) :
    ∃ z u v, xs = u ++ z ∧ ys = v ++ z ∧ z.length = commonEnd xs ys := by
  obtain ⟨z, u, v, hxs, hys, hz⟩ := exists_commonStart xs.reverse ys.reverse
  refine ⟨z.reverse, u.reverse, v.reverse, ?_, ?_, by rw [List.length_reverse, hz, commonEnd]⟩
  · rw [← List.reverse_append, ← hxs, List.reverse_reverse]
  · rw [← List.reverse_append, ← hys, List.reverse_reverse]

theorem take_commonStart (xs ys : List α) :
    xs.take (commonStart xs ys) = ys.take (commonStart xs ys) := by
  obtain ⟨z, u, v, hxs, hys, hz⟩ := exists_commonStart xs ys
  rw [← hz, hxs, hys, List.take_left, List.take_left]

theorem drop_commonEnd (xs ys : List α) :
    xs.drop (xs.length - commonEnd xs ys) = ys.drop (ys.length - commonEnd xs ys) := by
  obtain ⟨z, u, v, hxs, hys, hz⟩ := exists_commonEnd xs ys
  rw [← hz, hxs, hys]
  simp

theorem scriptWithin_between (cuts : Nat) (a b : List α) : (scriptWithin cuts a b).Between a b := by
  induction cuts generalizing a b with
  | zero => exact between_replace a b
  | succ cuts ih =>
    rw [scriptWithin]
    simp only [List.splitAt_eq, List.append_assoc]
    refine (between_keep (take_commonStart a b)).cut (.cut ?_ (between_keep (drop_commonEnd _ _)))
    split
    · exact between_replace _ _
    · split
      · exact between_replace _ _
      · exact (ih _ _).cut (ih _ _)

theorem script_between (a b : List α) : (script a b).Between a b := scriptWithin_between _ a b

end Shortest

section Tidy

theorem keepFirst_same (xs : List α) (s : Script α) :
    Script.Same (Focus.keepFirst xs s) (.keep xs :: s) := by
  rw [Focus.keepFirst.eq_def]
  split
  · constructor <;> simp
  · exact .refl _

theorem keepLast_same (xs : List α) (s : Script α) :
    Script.Same (Focus.keepLast xs s).reverse (Edit.keep xs :: s).reverse := by
  rw [Focus.keepLast.eq_def]
  split
  · constructor <;> simp
  · exact .refl _

variable [DecidableEq α] {f g : Focus α}

theorem up?_same (h : f.up? = some g) : g.close.Same f.close := by
  obtain ⟨before, edit, behind⟩ := f
  rw [Focus.up?] at h
  dsimp only at h
  split at h
  case h_3 xs before ys _ =>
    obtain ⟨z, u, v, rfl, rfl, hz⟩ := exists_commonEnd xs ys
    simp only [← hz, List.length_append, Nat.add_sub_cancel, List.take_left, List.drop_left] at h
    split at h
    · cases h
    · cases h
      have hlast := keepFirst_same z behind
      constructor
      · cases u <;> simp [Focus.close, hlast.old_eq]
      · cases u <;> simp [Focus.close, hlast.new_eq]
  all_goals cases h
  all_goals constructor <;> simp [Focus.close]

theorem down?_same (h : f.down? = some g) : g.close.Same f.close := by
  obtain ⟨before, edit, behind⟩ := f
  rw [Focus.down?] at h
  dsimp only at h
  split at h
  case h_3 ys xs behind _ =>
    obtain ⟨z, u, v, rfl, rfl, hz⟩ := exists_commonStart xs ys
    simp only [← hz, List.take_left, List.drop_left] at h
    split at h
    · cases h
    · cases h
      have hfirst := keepLast_same z before
      constructor
      · cases u <;> simp [Focus.close, hfirst.old_eq]
      · cases u <;> simp [Focus.close, hfirst.new_eq]
  all_goals cases h
  all_goals constructor <;> simp [Focus.close]

omit [DecidableEq α] in
theorem moves_same {move? : Focus α → Option (Focus α)}
    (hmove : ∀ f g, move? f = some g → g.close.Same f.close) (n : Nat) (f : Focus α) :
    (Focus.moves move? n f).close.Same f.close := by
  induction n generalizing f with
  | zero => exact .refl _
  | succ n ih =>
    rw [Focus.moves]
    split
    · exact .refl _
    · next g hg => exact (ih g).trans (hmove f g hg)

theorem settleFrom_same (chosen : Edit α → Bool) (room n : Nat) (done rest : List (Edit α)) :
    (settleFrom chosen room n done rest).Same (done.reverse ++ rest) := by
  induction n generalizing done rest with
  | zero => exact .refl _
  | succ n ih =>
    cases rest with
    | nil =>
      rw [settleFrom, List.append_nil]
      · exact .refl _
      · exact Nat.succ_ne_zero n
    | cons e rest =>
      rw [settleFrom]
      split
      · have hup := moves_same (fun _ _ => up?_same) room ⟨done, e, rest⟩
        have hdown := moves_same (fun _ _ => down?_same) room
          ((Focus.mk done e rest).moves Focus.up? room)
        refine (ih _ _).trans ?_
        rw [List.reverse_cons, List.append_assoc]
        exact hdown.trans hup
      · simpa using ih (e :: done) rest

omit [DecidableEq α] in
theorem join_same (e : Edit α) (s : Script α) : (join e s).Same (e :: s) := by
  rw [join.eq_def]
  split
  all_goals constructor <;> simp

theorem settle_same (s : Script α) : (settle s).Same s :=
  (settleFrom_same _ _ _ [] _).trans (settleFrom_same _ _ _ [] s)

theorem tidy_same (s : Script α) : (tidy s).Same s := by
  suffices ∀ t : Script α, (t.foldr join []).Same t from (this _).trans (settle_same s)
  intro t
  induction t with
  | nil => exact .refl _
  | cons e t ih => exact (join_same e _).trans (ih.cons e)

end Tidy

@[simp] theorem flatten_lines (t : Text) : (lines t).flatten = t := by
  fun_induction lines t with
  | case1 => rfl
  | case2 c rest h ih => simp [ih]
  | case3 c rest h hnil ih =>
    rw [hnil] at ih
    simp [← ih]
  | case4 c rest h l ls hcons ih =>
    rw [hcons] at ih
    simp [← ih]

theorem ofTexts_between (before after : Text) :
    (ofTexts before after).Between (lines before) (lines after) :=
  (tidy_same _).between (script_between _ _)

theorem eq_of_ofTexts {before after : Text} (hi : (ofTexts before after).insertions = 0)
    (hd : (ofTexts before after).deletions = 0) : before = after := by
  rw [← flatten_lines before, (ofTexts_between before after).eq hi hd, flatten_lines]

theorem Stats.files_ofTexts {before after : Text} (h : before ≠ after) :
    (Stats.ofTexts before after).files = 1 := by
  rw [ofTexts]
  refine if_neg fun hzero => h ?_
  obtain ⟨hi, hd⟩ := Nat.add_eq_zero_iff.mp hzero
  exact eq_of_ofTexts hi hd

end Refit.Diff
