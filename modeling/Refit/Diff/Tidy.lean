import Refit.Diff.Script

namespace Refit.Diff

variable {α : Type} [DecidableEq α]

structure Focus (α : Type) where
  before : List (Edit α)
  edit : Edit α
  behind : List (Edit α)

namespace Focus

def close (f : Focus α) : Script α := f.before.reverse ++ f.edit :: f.behind

def keepFirst (xs : List α) : List (Edit α) → List (Edit α)
  | .keep ys :: rest => .keep (xs ++ ys) :: rest
  | rest => .keep xs :: rest

def keepLast (xs : List α) : List (Edit α) → List (Edit α)
  | .keep ys :: rest => .keep (ys ++ xs) :: rest
  | rest => .keep xs :: rest

def up? (f : Focus α) : Option (Focus α) :=
  match f.before, f.edit with
  | [], _ => none
  | .keep [] :: before, _ => some { f with before }
  | .keep xs :: before, .insert ys =>
    let n := commonEnd xs ys
    if n = 0 then none
    else
      let kept := xs.take (xs.length - n)
      let moved := xs.drop (xs.length - n)
      some
        { before := if kept.isEmpty then before else .keep kept :: before
          edit := .insert (moved ++ ys.take (ys.length - n))
          behind := keepFirst (ys.drop (ys.length - n)) f.behind }
  | .delete xs :: before, .delete ys => some { f with before, edit := .delete (xs ++ ys) }
  | .insert xs :: before, .insert ys => some { f with before, edit := .insert (xs ++ ys) }
  | .insert xs :: before, .delete ys =>
    some { before, edit := .delete ys, behind := .insert xs :: f.behind }
  | .delete xs :: before, .insert ys =>
    some { before, edit := .insert ys, behind := .delete xs :: f.behind }
  | _, _ => none

/-- One move down: over an equal start of the kept run behind, past a change of the other kind, or
taking up a change of the same kind. -/
def down? (f : Focus α) : Option (Focus α) :=
  match f.edit, f.behind with
  | _, [] => none
  | _, .keep [] :: behind => some { f with behind }
  | .insert ys, .keep xs :: behind =>
    let n := commonStart xs ys
    if n = 0 then none
    else
      some
        { before := keepLast (ys.take n) f.before
          edit := .insert (ys.drop n ++ xs.take n)
          behind := if (xs.drop n).isEmpty then behind else .keep (xs.drop n) :: behind }
  | .delete xs, .delete ys :: behind => some { f with edit := .delete (xs ++ ys), behind }
  | .insert xs, .insert ys :: behind => some { f with edit := .insert (xs ++ ys), behind }
  | .delete xs, .insert ys :: behind =>
    some { before := .insert ys :: f.before, edit := .delete xs, behind }
  | .insert xs, .delete ys :: behind =>
    some { before := .delete ys :: f.before, edit := .insert xs, behind }
  | _, _ => none

def moves (move? : Focus α → Option (Focus α)) : Nat → Focus α → Focus α
  | 0, f => f
  | n + 1, f =>
    match move? f with
    | none => f
    | some f => moves move? n f

end Focus

/-- Moves each step of a kind up and down, from the first to the last. `done` lists the steps
before, the nearest first; `room` bounds the moves. -/
def settleFrom (chosen : Edit α → Bool) (room : Nat) :
    Nat → List (Edit α) → List (Edit α) → Script α
  | 0, done, rest => done.reverse ++ rest
  | _, done, [] => done.reverse
  | n + 1, done, e :: rest =>
    if chosen e then
      let f := (Focus.mk done e rest).moves Focus.up? room |>.moves Focus.down? room
      settleFrom chosen room n (f.edit :: f.before) f.behind
    else settleFrom chosen room n (e :: done) rest

def settle (s : Script α) : Script α :=
  let room := 4 * (s.flatMap Edit.elements).length + 4 * s.length + 4
  let isDelete : Edit α → Bool := fun | .delete _ => true | _ => false
  let isInsert : Edit α → Bool := fun | .insert _ => true | _ => false
  let s := settleFrom isDelete room room [] s
  settleFrom isInsert room room [] s

omit [DecidableEq α] in
def join (e : Edit α) (s : Script α) : Script α :=
  match e, s with
  | .keep xs, .keep ys :: rest => .keep (xs ++ ys) :: rest
  | .delete xs, .delete ys :: rest => .delete (xs ++ ys) :: rest
  | .insert xs, .insert ys :: rest => .insert (xs ++ ys) :: rest
  | .insert xs, .delete ys :: .insert zs :: rest => .delete ys :: .insert (xs ++ zs) :: rest
  | .insert xs, .delete ys :: rest => .delete ys :: .insert xs :: rest
  | e, s => e :: s

def tidy (s : Script α) : Script α := (settle s).foldr join []

end Refit.Diff
