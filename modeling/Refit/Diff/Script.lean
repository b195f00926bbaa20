namespace Refit.Diff

inductive Edit (α : Type)
  | keep (xs : List α)
  | delete (xs : List α)
  | insert (xs : List α)
  deriving Repr, DecidableEq

abbrev Script (α : Type) := List (Edit α)

variable {α : Type}

namespace Edit

def old : Edit α → List α
  | keep xs | delete xs => xs
  | insert _ => []

def new : Edit α → List α
  | keep xs | insert xs => xs
  | delete _ => []

def elements : Edit α → List α
  | keep xs | delete xs | insert xs => xs

def deleted : Edit α → List α
  | delete xs => xs
  | _ => []

def inserted : Edit α → List α
  | insert xs => xs
  | _ => []

end Edit

namespace Script

def old (s : Script α) : List α := s.flatMap Edit.old

def new (s : Script α) : List α := s.flatMap Edit.new

def insertions (s : Script α) : Nat := (s.flatMap Edit.inserted).length

def deletions (s : Script α) : Nat := (s.flatMap Edit.deleted).length

end Script

def trimFirst (n : Nat) : Script α → Script α
  | .keep xs :: rest => .keep (xs.drop (xs.length - n)) :: rest
  | s => s

def trimLast (n : Nat) : Script α → Script α
  | [] => []
  | [.keep xs] => [.keep (xs.take n)]
  | e :: rest => e :: trimLast n rest

def consFirst (e : Edit α) : List (Script α) → List (Script α)
  | [] => [[e]]
  | g :: gs => (e :: g) :: gs

/-- Cuts a script in each kept run of more than `2 * n` elements, of which `n` stay on either side.
-/
def cutRuns (n : Nat) : Script α → List (Script α)
  | [] => [[]]
  | .keep xs :: rest =>
    if 2 * n < xs.length then
      [.keep (xs.take n)] :: consFirst (.keep (xs.drop (xs.length - n))) (cutRuns n rest)
    else consFirst (.keep xs) (cutRuns n rest)
  | e :: rest => consFirst e (cutRuns n rest)

def isIdle : Script α → Bool
  | [] | [.keep _] => true
  | _ => false

def dropIdleLast : List (Script α) → List (Script α)
  | [] => []
  | [g] => if isIdle g then [] else [g]
  | g :: gs => g :: dropIdleLast gs

def hunks (n : Nat) (s : Script α) : List (Script α) :=
  if s.isEmpty then [] else dropIdleLast (cutRuns n (trimLast n (trimFirst n s)))

variable [DecidableEq α]

def commonStart : List α → List α → Nat
  | x :: xs, y :: ys => if x = y then commonStart xs ys + 1 else 0
  | _, _ => 0

def commonEnd (xs ys : List α) : Nat := commonStart xs.reverse ys.reverse

end Refit.Diff
