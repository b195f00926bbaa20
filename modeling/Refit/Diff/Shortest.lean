import Refit.Diff.Script

/-! A shortest script is a path through a grid, from the corner before both lists to the corner
behind them; a diagonal step keeps an element, the others insert or delete one. Two searches, one
from either corner, spend the same number of insertions and deletions in each round. Diagonal `k`
holds the places where `k` more elements of the old list than of the new one are behind. Where the
searches meet is the middle. -/

namespace Refit.Diff

/-- How far a search has come on each diagonal, counted in elements of the old list. Diagonal 0 lies
at `origin`. -/
structure Reach where
  origin : Int
  cells : Array Nat
  deriving Repr

namespace Reach

def start (rounds : Nat) : Reach := ⟨rounds, .replicate (2 * rounds + 2) 0⟩

def get (r : Reach) (k : Int) : Nat := (r.cells[(k + r.origin).toNat]?).getD 0

def set (r : Reach) (k : Int) (x : Nat) : Reach :=
  { r with cells := r.cells.setIfInBounds (k + r.origin).toNat x }

def enter (r : Reach) (d : Nat) (k : Int) : Nat :=
  if k = -(d : Int) ∨ (k ≠ d ∧ r.get (k - 1) < r.get (k + 1)) then r.get (k + 1)
  else r.get (k - 1) + 1

end Reach

def equalRun [DecidableEq α] (a b : Array α) (x y : Nat) : Nat → Nat
  | 0 => 0
  | n + 1 =>
    match a[x]?, b[y]? with
    | some u, some v => if u = v then equalRun a b (x + 1) (y + 1) n + 1 else 0
    | _, _ => 0

structure Side (α : Type) where
  old : Array α
  new : Array α
  reach : Reach

def Side.extend [DecidableEq α] (s : Side α) (d : Nat) (k : Int) : Side α × Nat × Nat :=
  let x := s.reach.enter d k
  let y := ((x : Int) - k).toNat
  let x' := x + equalRun s.old s.new x y (s.old.size - x)
  ({ s with reach := s.reach.set k x' }, x', x)

/-- One round of a search over the diagonals `k`, `k - 2`, …. It ends at a diagonal within `bound`
of the last one on which the other search has come far enough to meet. The answer is the place where
the last diagonal was entered and how far it went. -/
def Side.round [DecidableEq α] (s : Side α) (other : Reach) (d : Nat) (bound : Option Int)
    (k : Int) : Nat → Side α × Option (Int × Nat × Nat)
  | 0 => (s, none)
  | left + 1 =>
    let delta : Int := s.old.size - s.new.size
    let (s, reached, entered) := s.extend d k
    let meets := match bound with
      | none => false
      | some b => (k - delta).natAbs ≤ b && s.old.size ≤ reached + other.get (delta - k)
    if meets then (s, some (k, entered, reached)) else s.round other d bound (k - 2) left

def meet [DecidableEq α] (front back : Side α) (d : Nat) : Nat → Option (Nat × Nat)
  | 0 => none
  | rounds + 1 =>
    let n := front.old.size
    let m := front.new.size
    let isOdd := (n + m) % 2 == 1
    match front.round back.reach d (if isOdd then some (d - 1) else none) d (d + 1) with
    | (_, some (k, entered, _)) => some (entered, ((entered : Int) - k).toNat)
    | (front, none) =>
      match back.round front.reach d (if isOdd then none else some d) d (d + 1) with
      | (_, some (k, _, reached)) => some (n - reached, m - ((reached : Int) - k).toNat)
      | (back, none) => meet front back (d + 1) rounds

def middle? [DecidableEq α] (a b : List α) : Option (Nat × Nat) :=
  let rounds := (a.length + b.length + 1) / 2 + 1
  meet ⟨a.toArray, b.toArray, .start rounds⟩
    ⟨a.reverse.toArray, b.reverse.toArray, .start rounds⟩ 0 rounds

variable {α : Type} [DecidableEq α]

def stepOf (make : List α → Edit α) (xs : List α) : Script α := if xs.isEmpty then [] else [make xs]

/-- A script from one list to another, with at most `cuts` cuts one inside the other; beyond them
all is deleted and inserted anew. -/
def scriptWithin : Nat → List α → List α → Script α
  | 0, a, b => stepOf .delete a ++ stepOf .insert b
  | cuts + 1, a, b =>
    let n := commonStart a b
    let (start, a) := a.splitAt n
    let b := b.drop n
    let m := commonEnd a b
    let (a, stop) := a.splitAt (a.length - m)
    let b := b.take (b.length - m)
    let inner :=
      if a.isEmpty || b.isEmpty then stepOf .delete a ++ stepOf .insert b
      else
        match middle? a b with
        | none => stepOf .delete a ++ stepOf .insert b
        | some (x, y) =>
          scriptWithin cuts (a.take x) (b.take y) ++ scriptWithin cuts (a.drop x) (b.drop y)
    stepOf .keep start ++ inner ++ stepOf .keep stop

def script (a b : List α) : Script α := scriptWithin (a.length + b.length + 1) a b

end Refit.Diff
