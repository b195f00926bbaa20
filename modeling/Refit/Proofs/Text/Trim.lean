import Mathlib.Data.List.DropRight
import Refit.Text.Lines

namespace Refit.Text

variable {t u v w blanks : Text} {c d : Char}

theorem trimStart_append (hblank : ∀ c ∈ blanks, isBlank c = true) (rest : Text) :
    trimStart (blanks ++ rest) = trimStart rest :=
  List.dropWhile_append_of_pos hblank

theorem leadingBlanks_append (hblank : ∀ c ∈ blanks, isBlank c = true) (rest : Text) :
    leadingBlanks (blanks ++ rest) = blanks ++ leadingBlanks rest :=
  List.takeWhile_append_of_pos hblank

theorem blank_leadingBlanks (t : Text) : ∀ c ∈ leadingBlanks t, isBlank c = true :=
  List.all_eq_true.mp List.all_takeWhile

theorem blank_trailingBlanks (t : Text) : ∀ c ∈ trailingBlanks t, isBlank c = true := by
  intro c hc
  rw [trailingBlanks, List.mem_reverse] at hc
  exact List.all_eq_true.mp List.all_takeWhile c hc

theorem leadingBlanks_append_trimStart (t : Text) : leadingBlanks t ++ trimStart t = t :=
  List.takeWhile_append_dropWhile

theorem trimEnd_append_trailingBlanks (t : Text) : trimEnd t ++ trailingBlanks t = t := by
  rw [trimEnd, trailingBlanks, ← List.reverse_append, List.takeWhile_append_dropWhile,
    List.reverse_reverse]

theorem mem_of_mem_trim (h : c ∈ trim t) : c ∈ t :=
  (List.dropWhile_suffix isBlank).subset ((List.rdropWhile_prefix isBlank _).subset h)

theorem isBlank_of_trimStart (h : trimStart t = c :: u) : isBlank c = false := by
  have hhead := List.head?_dropWhile_not isBlank t
  have h : t.dropWhile isBlank = c :: u := h
  simpa [h] using hhead

theorem isBlank_of_trim (h : trim t = c :: u) : isBlank c = false := by
  obtain ⟨v, hv⟩ := List.rdropWhile_prefix isBlank (trimStart t)
  refine isBlank_of_trimStart (t := t) (u := u ++ v) ?_
  rw [← List.cons_append, ← h]
  exact hv.symm

@[simp] theorem trim_trim (t : Text) : trim (trim t) = trim t := by
  have hstart : trimStart (trim t) = trim t := by
    cases h : trim t with
    | nil => rfl
    | cons c u => exact List.dropWhile_cons_of_neg (by simp [isBlank_of_trim h])
  rw [trim, hstart]
  exact List.rdropWhile_idempotent isBlank (trimStart t)

theorem trailingBlanks_trimStart (h : trim t ≠ []) :
    trailingBlanks (trimStart t) = trailingBlanks t := by
  have hrev : t.reverse = (trimStart t).reverse ++ (leadingBlanks t).reverse := by
    rw [← List.reverse_append, leadingBlanks_append_trimStart]
  have hsome : ¬ ((trimStart t).reverse.takeWhile isBlank).length =
      (trimStart t).reverse.length := by
    intro hall
    have hparts := congrArg List.length (List.takeWhile_append_dropWhile (p := isBlank)
      (l := (trimStart t).reverse))
    rw [List.length_append, hall] at hparts
    apply h
    rw [trim, trimEnd, List.reverse_eq_nil_iff, ← List.length_eq_zero_iff]
    omega
  rw [trailingBlanks, trailingBlanks, hrev, List.takeWhile_append, if_neg hsome]

theorem parts_eq (h : trim t ≠ []) : leadingBlanks t ++ (trim t ++ trailingBlanks t) = t := by
  rw [← trailingBlanks_trimStart h, trim, trimEnd_append_trailingBlanks,
    leadingBlanks_append_trimStart]

theorem trim_parts (hu : ∀ c ∈ u, isBlank c = true) (hv : ∀ c ∈ v, isBlank c = true)
    (hc : isBlank c = false) (hd : isBlank d = false) :
    trim (u ++ c :: (w ++ d :: v)) = c :: (w ++ [d]) := by
  have hstart : trimStart (u ++ c :: (w ++ d :: v)) = c :: (w ++ d :: v) := by
    rw [trimStart_append hu]
    exact List.dropWhile_cons_of_neg (by simp [hc])
  have hrev : (c :: (w ++ d :: v)).reverse = v.reverse ++ d :: (w.reverse ++ [c]) := by simp
  have hend : (c :: (w ++ d :: v)).reverse.dropWhile isBlank = d :: (w.reverse ++ [c]) := by
    rw [hrev, List.dropWhile_append_of_pos (by simpa using hv)]
    exact List.dropWhile_cons_of_neg (by simp [hd])
  rw [trim, hstart, trimEnd, hend]
  simp

section Ends

variable {p : Char → Bool}

theorem rdropWhile_append_all (h : ∀ c ∈ u, p c = true) (t : Text) :
    (t ++ u).rdropWhile p = t.rdropWhile p := by
  rw [List.rdropWhile, List.reverse_append, List.dropWhile_append_of_pos (by simpa using h)]
  rfl

theorem rtakeWhile_append_all (h : ∀ c ∈ u, p c = true) (t : Text) :
    (t ++ u).rtakeWhile p = t.rtakeWhile p ++ u := by
  rw [List.rtakeWhile, List.reverse_append, List.takeWhile_append_of_pos (by simpa using h),
    List.reverse_append, List.reverse_reverse]
  rfl

theorem rdropWhile_append_of_ne (h : u.rdropWhile p ≠ []) (t : Text) :
    (t ++ u).rdropWhile p = t ++ u.rdropWhile p := by
  have hne : u.reverse.dropWhile p ≠ [] := by simpa [List.rdropWhile] using h
  rw [List.rdropWhile, List.reverse_append, List.dropWhile_append, if_neg (by simpa using hne),
    List.reverse_append, List.reverse_reverse]
  rfl

theorem rtakeWhile_append_of_ne (h : u.rdropWhile p ≠ []) (t : Text) :
    (t ++ u).rtakeWhile p = u.rtakeWhile p := by
  have hsame : t ++ u.rdropWhile p ++ (t ++ u).rtakeWhile p =
      t ++ u.rdropWhile p ++ u.rtakeWhile p := by
    calc t ++ u.rdropWhile p ++ (t ++ u).rtakeWhile p
        = (t ++ u).rdropWhile p ++ (t ++ u).rtakeWhile p := by rw [rdropWhile_append_of_ne h]
      _ = t ++ (u.rdropWhile p ++ u.rtakeWhile p) := by
        rw [List.rdropWhile_append_rtakeWhile, List.rdropWhile_append_rtakeWhile]
      _ = t ++ u.rdropWhile p ++ u.rtakeWhile p := (List.append_assoc t _ _).symm
  exact List.append_cancel_left hsame

theorem rdropWhile_eq_self (h : t.getLast?.any p = false) : t.rdropWhile p = t := by
  rw [List.rdropWhile_eq_self_iff]
  intro hne
  rw [List.getLast?_eq_some_getLast hne] at h
  simpa using h

theorem rtakeWhile_eq_nil (h : t.getLast?.any p = false) : t.rtakeWhile p = [] := by
  have hall := List.rdropWhile_append_rtakeWhile (p := p) (l := t)
  rw [rdropWhile_eq_self h] at hall
  exact List.append_cancel_left (hall.trans (List.append_nil t).symm)

theorem head?_dropWhile_any (p : Char → Bool) (t : Text) :
    (t.dropWhile p).head?.any p = false := by
  have hhead := List.head?_dropWhile_not p t
  cases hu : t.dropWhile p with
  | nil => rfl
  | cons c u =>
    rw [hu] at hhead
    exact hhead

theorem rdropWhile_ne_nil (hne : u ≠ []) (hstart : u.head?.any p = false) :
    u.rdropWhile p ≠ [] := by
  obtain ⟨c, u, rfl⟩ := List.exists_cons_of_ne_nil hne
  rw [ne_eq, List.rdropWhile_eq_nil_iff]
  intro hall
  have hc := hall c List.mem_cons_self
  simp [hc] at hstart

end Ends

end Refit.Text
