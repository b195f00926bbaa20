import Mathlib.Data.List.DropRight
import Refit.Pattern.Search

namespace Refit.Pattern

inductive Step
  | one (s : CharSet)
  | look (l : Look)
  | save (slot : Nat)
  deriving Repr, DecidableEq

namespace Step

def instr (next : Nat) : Step → Instr
  | one s => .one s next
  | look l => .look l next
  | save slot => .save slot next

def takes : Step → Bool
  | one _ => true
  | look _ => false
  | save _ => false

end Step

/-- The program of a line of steps. A way that has `n` steps left stands at instruction `n`. -/
def lineCode : List Step → Code
  | [] => #[.done]
  | s :: left => (lineCode left).push (s.instr left.length)

def firstInstr : List Step → Instr
  | [] => .done
  | s :: left => s.instr left.length

def run : List Step → Nat → Option Char → Text → Slots → Option Slots
  | [], _, _, _, slots => some slots
  | .one _ :: _, _, _, [], _ => none
  | .one s :: left, index, _, c :: rest, slots =>
    if s.contains c then run left (index + 1) (some c) rest slots else none
  | .look l :: left, index, before, t, slots =>
    if l.holds before t.head? then run left index before t slots else none
  | .save slot :: left, index, before, t, slots => run left index before t ((slot, index) :: slots)

def firstRun (steps : List Step) : Nat → Option Char → Text → Option Slots
  | index, before, [] => run steps index before [] []
  | index, before, c :: rest =>
    (run steps index before (c :: rest) []).or (firstRun steps (index + 1) (some c) rest)

structure Trail where
  left : List Step
  slots : Slots

variable {steps left a b x : List Step} {w w' : Trail} {p : Place} {c : Char} {slots : Slots}
  {index n : Nat} {visited : Array Nat} {M N : Nat → Prop}

theorem size_lineCode (steps : List Step) : (lineCode steps).size = steps.length + 1 := by
  induction steps with
  | nil => rfl
  | cons s steps ih => rw [lineCode, Array.size_push, ih, List.length_cons]

theorem getElem?_lineCode (h : left <:+ steps) :
    (lineCode steps)[left.length]? = some (firstInstr left) := by
  induction steps with
  | nil =>
    rw [List.suffix_nil.mp h]
    rfl
  | cons s steps ih =>
    rcases List.suffix_cons_iff.mp h with rfl | h
    · rw [lineCode, List.length_cons, ← size_lineCode, Array.getElem?_push_size]
      rfl
    · have hlt : left.length < (lineCode steps).size := by
        rw [size_lineCode]
        exact Nat.lt_succ_of_le h.length_le
      rw [lineCode, Array.getElem?_push, if_neg (Nat.ne_of_lt hlt), ih h]

def taking (left : List Step) : List Step := left.dropWhile (!·.takes)

theorem taking_suffix (left : List Step) : taking left <:+ left := List.dropWhile_suffix _

@[simp] theorem taking_taking (left : List Step) : taking (taking left) = taking left :=
  List.dropWhile_idempotent _ _

theorem taking_cases (left : List Step) : taking left = [] ∨ ∃ s x, taking left = .one s :: x := by
  induction left with
  | nil => exact .inl rfl
  | cons s left ih =>
    cases s with
    | one s => exact .inr ⟨s, left, rfl⟩
    | look l => exact ih
    | save slot => exact ih

def Behind (a b : List Step) : Prop := ∃ s x, taking b = .one s :: x ∧ a <:+ x

theorem Behind.suffix (h : Behind a b) : a <:+ b := by
  obtain ⟨s, x, hb, ha⟩ := h
  exact (ha.trans (List.suffix_cons _ x)).trans (hb ▸ taking_suffix b)

theorem Behind.length_lt (h : Behind a b) : a.length < (taking b).length := by
  obtain ⟨s, x, hb, ha⟩ := h
  rw [hb, List.length_cons]
  exact Nat.lt_succ_of_le ha.length_le

theorem Behind.taking (h : Behind a b) : Behind (taking a) (taking b) := by
  obtain ⟨s, x, hb, ha⟩ := h
  exact ⟨s, x, by rw [taking_taking, hb], (taking_suffix a).trans ha⟩

theorem behind_of_suffix {s : CharSet} (ha : taking a = .one s :: x) (h : a <:+ b) :
    Behind x b := by
  have hx : x <:+ a := (List.suffix_cons _ x).trans (ha ▸ taking_suffix a)
  induction b with
  | nil =>
    rw [List.suffix_nil.mp h] at ha
    cases ha
  | cons d b ih =>
    rcases List.suffix_cons_iff.mp h with rfl | hb
    · exact ⟨s, x, ha, List.suffix_refl x⟩
    · cases d with
      | one r => exact ⟨r, b, rfl, hx.trans hb⟩
      | look l => exact ih hb
      | save slot => exact ih hb

namespace Trail

def way (w : Trail) : Way := ⟨w.left.length, w.slots⟩

def settleFrom (p : Place) : List Step → Slots → Option Trail
  | [], slots => some ⟨[], slots⟩
  | .one s :: left, slots => some ⟨.one s :: left, slots⟩
  | .look l :: left, slots => if l.holds p.before p.after then settleFrom p left slots else none
  | .save slot :: left, slots => settleFrom p left ((slot, p.index) :: slots)

def settle (p : Place) (w : Trail) : Option Trail := settleFrom p w.left w.slots

def take? (c : Char) (w : Trail) : Option Trail :=
  match w.left with
  | .one s :: left => if s.contains c then some ⟨left, w.slots⟩ else none
  | _ => none

def isDone (w : Trail) : Bool := w.left.isEmpty

theorem left_of_settleFrom (h : settleFrom p left slots = some w) : w.left = taking left := by
  induction left generalizing slots with
  | nil =>
    cases h
    rfl
  | cons s left ih =>
    cases s with
    | one s =>
      cases h
      rfl
    | look l =>
      rw [settleFrom] at h
      split at h
      · exact ih h
      · cases h
    | save slot => exact ih h

theorem left_of_settle (h : w.settle p = some w') : w'.left = taking w.left := left_of_settleFrom h

theorem taking_of_take? (h : w.take? c = some w') : ∃ s, taking w.left = .one s :: w'.left := by
  rw [take?] at h
  split at h
  · next s left hleft =>
    split at h
    · cases h
      exact ⟨s, by rw [hleft]; rfl⟩
    · cases h
  · cases h

end Trail

/-- The marks of instructions at a place: those that were set there belong to some instructions, and
all others are older. -/
def Marked (visited : Array Nat) (index : Nat) (M : Nat → Prop) : Prop :=
  ∀ n m, visited[n]? = some m → m ≤ index ∨ m = index + 1 ∧ M n

theorem Marked.mono (h : Marked visited index M) (hMN : ∀ n, M n → N n) :
    Marked visited index N :=
  fun n m hm => (h n m hm).imp_right fun ⟨hindex, hn⟩ => ⟨hindex, hMN n hn⟩

theorem Marked.mark (h : Marked visited index M) (k : Nat) :
    Marked (visited.setIfInBounds k (index + 1)) index fun n => M n ∨ n = k := by
  intro n m hm
  rw [Array.getElem?_setIfInBounds] at hm
  split at hm
  · next hk =>
    split at hm
    · exact .inr ⟨(Option.some.inj hm).symm, .inr hk.symm⟩
    · cases hm
  · exact (h n m hm).imp_right fun ⟨hindex, hn⟩ => ⟨hindex, .inl hn⟩

theorem Marked.next (h : Marked visited index M) : Marked visited (index + 1) fun _ => False :=
  fun n m hm => .inl ((h n m hm).elim Nat.le_succ_of_le fun ⟨hm, _⟩ => Nat.le_of_eq hm)

theorem Marked.not_visited (h : Marked visited index M) (hn : ¬ M n) :
    (visited[n]? == some (index + 1)) = false := by
  rw [beq_eq_false_iff_ne]
  intro hvisited
  rcases h n _ hvisited with hle | ⟨-, hmem⟩
  · omega
  · exact hn hmem

theorem follow_unvisited (hleft : left <:+ steps)
    (hnot : (visited[left.length]? == some (p.index + 1)) = false) (turns : Nat)
    (others : List Way) (front : Array Way) :
    follow (lineCode steps) p (turns + 1) (⟨left.length, slots⟩ :: others) ⟨front, visited⟩ =
      let visited := visited.setIfInBounds left.length (p.index + 1)
      match firstInstr left with
      | .look l next =>
        if l.holds p.before p.after then
          follow (lineCode steps) p turns (⟨next, slots⟩ :: others) ⟨front, visited⟩
        else follow (lineCode steps) p turns others ⟨front, visited⟩
      | .save slot next =>
        follow (lineCode steps) p turns (⟨next, (slot, p.index) :: slots⟩ :: others)
          ⟨front, visited⟩
      | _ =>
        follow (lineCode steps) p turns others ⟨front.push ⟨left.length, slots⟩, visited⟩ := by
  rw [follow, if_neg (by simp [hnot]), getElem?_lineCode hleft]
  rcases left with - | ⟨s | l | slot, left⟩ <;> rfl

def Followed (steps : List Step) (p : Place) (visited : Array Nat) (M : Nat → Prop)
    (left : List Step) (slots : Slots) : Prop :=
  ∃ used visited', used ≤ left.length + 1 - (taking left).length ∧
    Marked visited' p.index (fun n => M n ∨ n ≤ left.length) ∧
    ∀ turns others (front : List Way),
      follow (lineCode steps) p (turns + used) (⟨left.length, slots⟩ :: others)
          ⟨front.toArray, visited⟩ =
        follow (lineCode steps) p turns others
          ⟨(front ++ (Trail.settleFrom p left slots).toList.map Trail.way).toArray, visited'⟩

namespace Followed

theorem once (hmarks : Marked visited p.index M)
    (hturn : ∀ turns others (front : List Way),
      follow (lineCode steps) p (turns + 1) (⟨left.length, slots⟩ :: others)
          ⟨front.toArray, visited⟩ =
        follow (lineCode steps) p turns others
          ⟨(front ++ (Trail.settleFrom p left slots).toList.map Trail.way).toArray,
            visited.setIfInBounds left.length (p.index + 1)⟩) :
    Followed steps p visited M left slots := by
  have hlength : (taking left).length ≤ left.length := (taking_suffix left).length_le
  exact ⟨1, _, by omega, (hmarks.mark _).mono fun n => Or.imp_right Nat.le_of_eq, hturn⟩

theorem cons {s : Step} {slots' : Slots} (htaking : taking (s :: left) = taking left)
    (hsettle : Trail.settleFrom p (s :: left) slots = Trail.settleFrom p left slots')
    (hturn : ∀ turns others front,
      follow (lineCode steps) p (turns + 1) (⟨left.length + 1, slots⟩ :: others) ⟨front, visited⟩ =
        follow (lineCode steps) p turns (⟨left.length, slots'⟩ :: others)
          ⟨front, visited.setIfInBounds (left.length + 1) (p.index + 1)⟩)
    (h : Followed steps p (visited.setIfInBounds (left.length + 1) (p.index + 1))
      (fun n => M n ∨ n = left.length + 1) left slots') :
    Followed steps p visited M (s :: left) slots := by
  obtain ⟨used, visited', hused, hmarks, hfollow⟩ := h
  have hlength : (taking left).length ≤ left.length := (taking_suffix left).length_le
  refine ⟨used + 1, visited', ?_, hmarks.mono ?_, ?_⟩
  · rw [htaking, List.length_cons]
    omega
  · rintro n ((hn | rfl) | hn)
    · exact .inl hn
    · exact .inr (Nat.le_refl _)
    · exact .inr (Nat.le_succ_of_le hn)
  · intro turns others front
    rw [← Nat.add_assoc, List.length_cons, hturn, hfollow, hsettle]

theorem of_marked (hleft : left <:+ steps) (hmarks : Marked visited p.index M)
    (hfree : ∀ n, (taking left).length ≤ n → n ≤ left.length → ¬ M n) (slots : Slots) :
    Followed steps p visited M left slots := by
  induction left generalizing visited M slots with
  | nil =>
    have hnot := hmarks.not_visited (hfree 0 (Nat.le_refl 0) (Nat.le_refl 0))
    refine once hmarks fun turns others front => ?_
    rw [follow_unvisited hleft hnot]
    simp [firstInstr, Trail.settleFrom, Trail.way]
  | cons s left ih =>
    have hnot := hmarks.not_visited (hfree (s :: left).length (taking_suffix _).length_le
      (Nat.le_refl _))
    -- The mark is in front of all that a way comes to that goes on without taking a character.
    have hon (htaking : taking (s :: left) = taking left) :=
      ih ((List.suffix_cons s left).trans hleft) (hmarks.mark (s :: left).length)
        fun n hle hn hM => hM.elim (hfree n (htaking ▸ hle) (Nat.le_succ_of_le hn))
          (Nat.ne_of_lt (Nat.lt_succ_of_le hn))
    cases s with
    | one s =>
      refine once hmarks fun turns others front => ?_
      rw [follow_unvisited hleft hnot]
      simp [firstInstr, Step.instr, Trail.settleFrom, Trail.way]
    | look l =>
      by_cases hl : l.holds p.before p.after = true
      · refine cons rfl (if_pos hl) (fun turns others front => ?_) (hon rfl slots)
        exact (follow_unvisited hleft hnot turns others front).trans (if_pos hl)
      · refine once hmarks fun turns others front => ?_
        rw [follow_unvisited hleft hnot]
        simp [firstInstr, Step.instr, Trail.settleFrom, hl]
    | save slot =>
      refine cons rfl rfl (fun turns others front => ?_) (hon rfl ((slot, p.index) :: slots))
      exact follow_unvisited hleft hnot turns others front

end Followed

end Refit.Pattern
