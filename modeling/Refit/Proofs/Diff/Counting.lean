import Refit.Proofs.Diff.Script

namespace Refit.Diff

variable {α : Type} {e : Edit α} {s : Script α} {xs : List α} {n : Nat}

namespace Script

@[simp] theorem insertions_nil : insertions ([] : Script α) = 0 := rfl

@[simp] theorem deletions_nil : deletions ([] : Script α) = 0 := rfl

@[simp] theorem insertions_cons (e : Edit α) (s : Script α) :
    insertions (e :: s) = e.inserted.length + insertions s := List.length_append

@[simp] theorem deletions_cons (e : Edit α) (s : Script α) :
    deletions (e :: s) = e.deleted.length + deletions s := List.length_append

theorem insertions_add_length (s : Script α) :
    s.insertions + s.old.length = s.deletions + s.new.length := by
  induction s with
  | nil => rfl
  | cons e s ih =>
    have hstep : e.inserted.length + e.old.length = e.deleted.length + e.new.length := by
      cases e <;> simp [Edit.inserted, Edit.deleted]
    simp only [insertions_cons, deletions_cons, old_cons, new_cons, List.length_append]
    omega

def changes (s : Script α) : Script α :=
  s.filter fun
    | .keep _ => false
    | _ => true

@[simp] theorem changes_nil : changes ([] : Script α) = [] := rfl

@[simp] theorem changes_keep (xs : List α) (s : Script α) : changes (.keep xs :: s) = changes s :=
  rfl

@[simp] theorem changes_delete (xs : List α) (s : Script α) :
    changes (.delete xs :: s) = .delete xs :: changes s := rfl

@[simp] theorem changes_insert (xs : List α) (s : Script α) :
    changes (.insert xs :: s) = .insert xs :: changes s := rfl

@[simp] theorem changes_append (s t : Script α) : changes (s ++ t) = changes s ++ changes t :=
  List.filter_append s t

theorem insertions_changes (s : Script α) : s.changes.insertions = s.insertions := by
  induction s with
  | nil => rfl
  | cons e s ih => cases e <;> simp [ih, Edit.inserted]

theorem deletions_changes (s : Script α) : s.changes.deletions = s.deletions := by
  induction s with
  | nil => rfl
  | cons e s ih => cases e <;> simp [ih, Edit.deleted]

end Script

theorem changes_trimFirst (n : Nat) (s : Script α) :
    Script.changes (trimFirst n s) = s.changes := by
  rw [trimFirst.eq_def]
  split <;> rfl

theorem changes_trimLast (n : Nat) (s : Script α) : Script.changes (trimLast n s) = s.changes := by
  fun_induction trimLast n s with
  | case1 => rfl
  | case2 xs => rfl
  | case3 e rest _ ih => cases e <;> simp [ih]

theorem flatten_consFirst (e : Edit α) (gs : List (Script α)) :
    (consFirst e gs).flatten = e :: gs.flatten := by
  cases gs <;> rfl

theorem changes_cutRuns (n : Nat) (s : Script α) :
    Script.changes (cutRuns n s).flatten = s.changes := by
  fun_induction cutRuns n s with
  | case1 => rfl
  | case2 xs rest _ ih => simp [flatten_consFirst, ih]
  | case3 xs rest _ ih => simp [flatten_consFirst, ih]
  | case4 e rest _ ih => cases e <;> simp [flatten_consFirst, ih]

theorem changes_of_isIdle (h : isIdle s = true) : s.changes = [] := by
  rw [isIdle.eq_def] at h
  split at h
  · rfl
  · rfl
  · cases h

theorem changes_dropIdleLast (gs : List (Script α)) :
    Script.changes (dropIdleLast gs).flatten = Script.changes gs.flatten := by
  fun_induction dropIdleLast gs with
  | case1 => rfl
  | case2 g h => simp [changes_of_isIdle h]
  | case3 g h => rfl
  | case4 g gs _ ih => simp [ih]

theorem changes_hunks (n : Nat) (s : Script α) :
    Script.changes (hunks n s).flatten = s.changes := by
  rw [hunks]
  split
  · next h => rw [List.isEmpty_iff.mp h]; rfl
  · rw [changes_dropIdleLast, changes_cutRuns, changes_trimLast, changes_trimFirst]

theorem cutRuns_keep (h : xs.length ≤ 2 * n) : cutRuns n [.keep xs] = [[.keep xs]] := by
  rw [cutRuns, if_neg (Nat.not_lt.mpr h)]
  rfl

theorem hunks_stepOf_keep (n : Nat) (xs : List α) : hunks n (stepOf .keep xs) = [] := by
  rw [stepOf]
  split
  · rfl
  · have hshort : ((xs.drop (xs.length - n)).take n).length ≤ 2 * n := by
      rw [List.length_take]
      omega
    rw [hunks, if_neg (by simp), trimFirst, trimLast, cutRuns_keep hshort]
    rfl

section Equal

variable [DecidableEq α]

theorem commonStart_self (xs : List α) : commonStart xs xs = xs.length := by
  induction xs with
  | nil => rfl
  | cons x xs ih => rw [commonStart, if_pos rfl, ih, List.length_cons]

theorem script_self (xs : List α) : script xs xs = stepOf .keep xs := by
  rw [script, scriptWithin, commonStart_self]
  simp [stepOf]

theorem settleFrom_of_not_chosen {chosen : Edit α → Bool} (h : ∀ e ∈ s, chosen e = false)
    (room n : Nat) (done : List (Edit α)) :
    settleFrom chosen room n done s = done.reverse ++ s := by
  induction n generalizing done s with
  | zero => rfl
  | succ n ih =>
    cases s with
    | nil =>
      rw [settleFrom, List.append_nil]
      exact Nat.succ_ne_zero n
    | cons e s =>
      obtain ⟨he, hs⟩ := List.forall_mem_cons.mp h
      rw [settleFrom, he, if_neg Bool.false_ne_true, ih hs, List.reverse_cons, List.append_assoc,
        List.singleton_append]

theorem settle_of_forall_keep (h : ∀ e ∈ s, ∃ xs, e = .keep xs) : settle s = s := by
  have hsettled (chosen : Edit α → Bool) (hchosen : ∀ xs, chosen (.keep xs) = false)
      (room : Nat) : settleFrom chosen room room [] s = s := by
    refine settleFrom_of_not_chosen (fun e he => ?_) room room []
    obtain ⟨xs, rfl⟩ := h e he
    exact hchosen xs
  rw [settle, hsettled, hsettled]
  · exact fun _ => rfl
  · exact fun _ => rfl

theorem tidy_stepOf_keep (xs : List α) : tidy (stepOf .keep xs) = stepOf .keep xs := by
  rw [stepOf]
  split
  · rfl
  · rw [tidy, settle_of_forall_keep (by simp)]
    rfl

end Equal

theorem ofTexts_self (t : Text) : ofTexts t t = stepOf .keep (lines t) := by
  rw [ofTexts, script_self, tidy_stepOf_keep]

theorem Stats.ofTexts_self (t : Text) : ofTexts t t = {} := by
  rw [ofTexts, Diff.ofTexts_self, stepOf]
  split <;> rfl

def signedLines : Edit Text → List (Char × Text)
  | .keep ls => ls.map (' ', ·)
  | .delete ls => ls.map ('-', ·)
  | .insert ls => ls.map ('+', ·)

def painted (coloured : Bool) (sign : Char) (t : Text) : Text :=
  if sign = '-' then paint coloured .red t else if sign = '+' then paint coloured .green t else t

def writeLine (coloured : Bool) (l : Char × Text) : Text := signed l.1 (painted coloured l.1) l.2

theorem renderEdit_eq (coloured : Bool) (e : Edit Text) :
    renderEdit coloured e = (signedLines e).flatMap (writeLine coloured) := by
  cases e <;> rw [signedLines, List.flatMap_map] <;> rfl

theorem count_signedLines (s : Script Text) :
    (s.flatMap signedLines).countP (·.1 = '+') = s.insertions ∧
      (s.flatMap signedLines).countP (·.1 = '-') = s.deletions := by
  induction s with
  | nil => exact ⟨rfl, rfl⟩
  | cons e s ih =>
    rw [List.flatMap_cons, List.countP_append, List.countP_append, ih.1, ih.2]
    cases e <;> simp [signedLines, Edit.inserted, Edit.deleted, List.countP_map, Function.comp_def]

def signedHunks (before after : Text) : List (List (Char × Text)) :=
  (hunks contextLines (ofTexts before after)).map fun h => h.flatMap signedLines

theorem flatten_signedHunks (before after : Text) : (signedHunks before after).flatten =
    (hunks contextLines (ofTexts before after)).flatten.flatMap signedLines := by
  rw [signedHunks, ← List.flatMap_def, List.flatten_eq_flatMap, List.flatMap_assoc]
  rfl

theorem signedHunks_self (t : Text) : signedHunks t t = [] := by
  rw [signedHunks, ofTexts_self, hunks_stepOf_keep]
  rfl

theorem count_signedHunks (before after : Text) :
    (signedHunks before after).flatten.countP (·.1 = '+') = (ofTexts before after).insertions ∧
    (signedHunks before after).flatten.countP (·.1 = '-') = (ofTexts before after).deletions := by
  have hcount := count_signedLines (hunks contextLines (ofTexts before after)).flatten
  rwa [← Script.insertions_changes, ← Script.deletions_changes, changes_hunks,
    Script.insertions_changes, Script.deletions_changes, ← flatten_signedHunks] at hcount

theorem render_eq (coloured : Bool) (before after : Text) (p : Path) :
    render coloured before after p =
      paint coloured .cyan ("--- a/".toList ++ p.spelling) ++ ['\n'] ++
        (paint coloured .cyan ("+++ b/".toList ++ p.spelling) ++ ['\n']) ++
          Text.join ['\n'] ((signedHunks before after).map (·.flatMap (writeLine coloured))) := by
  have hhunk (h : Script Text) : h.flatMap (renderEdit coloured) =
      (h.flatMap signedLines).flatMap (writeLine coloured) := by
    rw [List.flatMap_assoc]
    exact List.flatMap_congr fun e _ => renderEdit_eq coloured e
  rw [render, signedHunks, List.map_map]
  simp only [hhunk, Function.comp_def]

/-- A carriage return ends a line, and the last line needs no end. -/
example : Stats.ofTexts "a\rb".toList "a\rc\nb\n".toList = ⟨1, 2, 1⟩ ∧
    signedHunks "a\rb".toList "a\rc\nb\n".toList = [[(' ', "a\r".toList), ('-', "b".toList),
      ('+', "c\n".toList), ('+', "b\n".toList)]] := by
  decide +kernel

end Refit.Diff
