import Refit.Yaml.Printer

namespace Refit.Yaml

variable {c : Char} {t u : Text} {l col n : Nat}

@[simp] theorem first_spotsFrom : first (spotsFrom l col t) = t.head?.getD endMark := by
  cases t <;> rfl

@[simp] theorem column_spotsFrom : column (spotsFrom l col t) = col := by
  cases t <;> rfl

@[simp] theorem line_spotsFrom : line (spotsFrom l col t) = l := by
  cases t <;> rfl

@[simp] theorem length_spotsFrom : (spotsFrom l col t).length = t.length + 1 := by
  induction t generalizing l col with
  | nil => rfl
  | cons c t ih =>
    rw [spotsFrom, List.length_cons, List.length_cons]
    split <;> rw [ih]

theorem spotsFrom_cons (h : isBreak c = false) :
    spotsFrom l col (c :: t) = ⟨c, l, col⟩ :: spotsFrom l (col + 1) t := by
  rw [spotsFrom, if_neg (by simp [h])]

theorem spotsFrom_break (h : isBreak c = true) :
    spotsFrom l col (c :: t) = ⟨c, l, col⟩ :: spotsFrom (l + 1) 0 t := by
  rw [spotsFrom, if_pos h]

theorem drop_spotsFrom (h : ∀ c ∈ u, isBreak c = false) (l col : Nat) (t : Text) :
    (spotsFrom l col (u ++ t)).drop u.length = spotsFrom l (col + u.length) t := by
  induction u generalizing col with
  | nil => rfl
  | cons c u ih =>
    obtain ⟨hc, hu⟩ := List.forall_mem_cons.mp h
    rw [List.cons_append, spotsFrom_cons hc, List.length_cons, List.drop_succ_cons, ih hu,
      Nat.add_right_comm, Nat.add_assoc]

theorem drop_one_spotsFrom (h : isBreak c = false) (l col : Nat) (t : Text) :
    (spotsFrom l col (c :: t)).drop 1 = spotsFrom l (col + 1) t := by
  rw [spotsFrom_cons h, List.drop_one, List.tail_cons]

theorem second_spotsFrom (h : isBreak c = false) (l col : Nat) (t : Text) :
    second (spotsFrom l col (c :: t)) = t.head?.getD endMark := by
  rw [second, drop_one_spotsFrom h, first_spotsFrom]

theorem map_take_spotsFrom (t : Text) :
    ((spotsFrom l col (u ++ t)).take u.length).map Spot.char = u := by
  induction u generalizing l col with
  | nil => rfl
  | cons c u ih =>
    rw [List.cons_append, spotsFrom, List.length_cons, List.take_succ_cons, List.map_cons]
    split <;> rw [ih]

theorem isMarker_eq_false (h : col ≠ 0) (c : Char) (t : Text) :
    isMarker c (spotsFrom l col t) = false := by
  simp [isMarker, h]

theorem atMarker_eq_false (h : col ≠ 0) (t : Text) : atMarker (spotsFrom l col t) = false := by
  rw [atMarker, isMarker_eq_false h, isMarker_eq_false h, Bool.or_false]

theorem ne_of_isPrintable {d : Char} (h : isPrintable c = true) (hd : isPrintable d = false) :
    c ≠ d := by
  rintro rfl
  rw [h] at hd
  cases hd

theorem ne_endMark (h : isPrintable c = true) : c ≠ endMark := ne_of_isPrintable h rfl

theorem ne_tab (h : isPrintable c = true) : c ≠ '\t' := ne_of_isPrintable h rfl

theorem isAllowed_of_isPrintable (h : isPrintable c = true) : isAllowed c = true := by
  simp only [isPrintable, isAllowed, Bool.or_eq_true, Bool.and_eq_true, beq_iff_eq,
    decide_eq_true_eq, bne_iff_ne] at h ⊢
  omega

theorem unifyBreaks_eq (h : ∀ c ∈ t, isPrintable c = true) : unifyBreaks t = t := by
  induction t with
  | nil => rfl
  | cons c t ih =>
    obtain ⟨hc, ht⟩ := List.forall_mem_cons.mp h
    rw [unifyBreaks, if_neg (ne_of_isPrintable hc rfl), if_neg (ne_of_isPrintable hc rfl), ih ht]

theorem isWhiteOrEnd_of_isWhite (h : isWhite c = true) : isWhiteOrEnd c = true := by
  rw [isWhiteOrEnd, h, Bool.true_or]

theorem isBreak_of_isWhite (h : isWhite c = false) : isBreak c = false :=
  (Bool.or_eq_false_iff.mp h).2

theorem eq_space (h : isPrintable c = true) (hbreak : isBreak c = false)
    (hwhite : isWhite c = true) :
    c = ' ' := by
  rw [isWhite, hbreak, Bool.or_false, isGap, Bool.or_eq_true, beq_iff_eq, beq_iff_eq] at hwhite
  exact hwhite.resolve_right (ne_tab h)

theorem indentLines_break (hc : isBreak c = true) (margin : Nat) (inside : Bool) (t : Text) :
    indentLines margin inside (c :: t) = c :: indentLines margin false t := by
  rw [indentLines, if_pos hc]

theorem indentLines_inside (hc : isBreak c = false) (margin : Nat) (t : Text) :
    indentLines margin true (c :: t) = c :: indentLines margin true t := by
  rw [indentLines, if_neg (Bool.eq_false_iff.mp hc), if_pos rfl]

theorem indentLines_start (hc : isBreak c = false) (margin : Nat) (t : Text) :
    indentLines margin false (c :: t) =
      List.replicate margin ' ' ++ c :: indentLines margin true t := by
  rw [indentLines, if_neg (Bool.eq_false_iff.mp hc), if_neg Bool.false_ne_true]

def BeginsWord (t : Text) : Prop :=
  ∀ c, t.head? = some c → isWhite c = false ∧ c ≠ endMark ∧ c ≠ '#' ∧ c ≠ '\uFEFF'

theorem beginsWord_cons (h : isWhite c = false ∧ c ≠ endMark ∧ c ≠ '#' ∧ c ≠ '\uFEFF') (t : Text) :
    BeginsWord (c :: t) := by
  intro d hd
  cases hd
  exact h

/-- A text that goes on with a word that is indented by at most `indent`, if it goes on. -/
def Resumes (indent : Nat) (rest : Text) : Prop :=
  ∃ k more, rest = List.replicate k ' ' ++ more ∧ k ≤ indent ∧ BeginsWord more

theorem Resumes.mono {rest : Text} {m : Nat} (h : Resumes n rest) (hle : n ≤ m) :
    Resumes m rest := by
  obtain ⟨k, more, rfl, hk, hmore⟩ := h
  exact ⟨k, more, rfl, Nat.le_trans hk hle, hmore⟩

end Refit.Yaml
