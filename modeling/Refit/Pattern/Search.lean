import Refit.Pattern.Program

/-! A program is followed along all its ways at once, character by character. The ways are kept in
the order of preference, and of two ways that meet the preferred one survives, so each instruction
is visited at most once at each place. The first way that ends cuts off those behind it. -/

namespace Refit.Pattern

abbrev Slots := List (Nat × Nat)

structure Way where
  at_ : Nat
  slots : Slots
  deriving Repr, DecidableEq

structure Place where
  index : Nat
  before : Option Char
  after : Option Char
  deriving Repr, DecidableEq

/-- The ways that take a character next or end, in order of preference, and for each instruction the
last place (counted from 1) at which it was visited. -/
structure Front where
  ways : Array Way
  visited : Array Nat

/-- Follows ways up to the instructions that take a character or end. Every turn takes a way from
the list; an instruction is visited once at a place and puts at most two ways on it. -/
def follow (code : Code) (p : Place) : Nat → List Way → Front → Front
  | 0, _, front => front
  | _, [], front => front
  | turns + 1, w :: ws, front =>
    if front.visited[w.at_]? == some (p.index + 1) then follow code p turns ws front
    else
      let visited := front.visited.setIfInBounds w.at_ (p.index + 1)
      match code[w.at_]? with
      | none => follow code p turns ws ⟨front.ways, visited⟩
      | some (.one _ _) | some .done => follow code p turns ws ⟨front.ways.push w, visited⟩
      | some (.look l next) =>
        if l.holds p.before p.after then
          follow code p turns (⟨next, w.slots⟩ :: ws) ⟨front.ways, visited⟩
        else follow code p turns ws ⟨front.ways, visited⟩
      | some (.save slot next) =>
        follow code p turns (⟨next, (slot, p.index) :: w.slots⟩ :: ws) ⟨front.ways, visited⟩
      | some (.fork first second) =>
        follow code p turns (⟨first, w.slots⟩ :: ⟨second, w.slots⟩ :: ws) ⟨front.ways, visited⟩

def advance (code : Code) (c : Char) : List Way → List Way
  | [] => []
  | w :: ws =>
    match code[w.at_]? with
    | some (.one s next) =>
      if s.contains c then ⟨next, w.slots⟩ :: advance code c ws else advance code c ws
    | _ => []

def ended? (code : Code) (ways : List Way) : Option Slots :=
  (ways.find? fun w => code[w.at_]? == some .done).map Way.slots

def searchFrom (prog : Program) (best : Option Slots) (ways : List Way) (index : Nat)
    (before : Option Char) (visited : Array Nat) : Text → Option Slots
  | [] =>
    let starts := if best.isNone then [⟨prog.start, []⟩] else []
    let front := follow prog.code ⟨index, before, none⟩
      (ways.length + 2 * prog.code.size + 2) (ways ++ starts) ⟨#[], visited⟩
    (ended? prog.code front.ways.toList).or best
  | c :: rest =>
    if best.isSome && ways.isEmpty then best
    else
      let starts := if best.isNone then [⟨prog.start, []⟩] else []
      let front := follow prog.code ⟨index, before, some c⟩
        (ways.length + 2 * prog.code.size + 2) (ways ++ starts) ⟨#[], visited⟩
      let ways := front.ways.toList
      searchFrom prog ((ended? prog.code ways).or best) (advance prog.code c ways) (index + 1)
        (some c) front.visited rest

def Slots.get? (s : Slots) (slot : Nat) : Option Nat := s.lookup slot

structure Match where
  start : Nat
  stop : Nat
  group? : Nat → Option Text

def Program.search (prog : Program) (before : Option Char) (t : Text) : Option Match := do
  let slots ← searchFrom prog none [] 0 before (.replicate prog.code.size 0) t
  let start ← slots.get? 0
  let stop ← slots.get? 1
  return ⟨start, stop, fun i => do
    let a ← slots.get? (2 * i)
    let b ← slots.get? (2 * i + 1)
    return (t.drop a).take (b - a)⟩

end Refit.Pattern
