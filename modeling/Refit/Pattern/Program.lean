import Refit.Pattern.Expr

namespace Refit.Pattern

inductive Instr
  | one (s : CharSet) (next : Nat)
  | look (l : Look) (next : Nat)
  | save (slot : Nat) (next : Nat)
  | fork (first second : Nat)
  | done
  deriving Repr, DecidableEq

abbrev Code := Array Instr

namespace Code

def add (code : Code) (i : Instr) : Nat × Code := (code.size, code.push i)

def choice (greedy : Bool) (more less : Nat) : Instr :=
  if greedy then .fork more less else .fork less more

def several (part : Nat → Code → Nat × Code) : Nat → Nat → Code → Nat × Code
  | 0, next, code => (next, code)
  | n + 1, next, code =>
    let (start, code) := part next code
    several part n start code

def optional (part : Nat → Code → Nat × Code) (greedy : Bool) (leave : Nat) :
    Nat → Nat → Code → Nat × Code
  | 0, next, code => (next, code)
  | n + 1, next, code =>
    let (start, code) := part next code
    let (fork, code) := code.add (choice greedy start leave)
    optional part greedy leave n fork code

def loop (part : Nat → Code → Nat × Code) (greedy : Bool) (leave : Nat) (code : Code) :
    Nat × Nat × Code :=
  let (fork, code) := code.add .done
  let (start, code) := part fork code
  (start, fork, code.setIfInBounds fork (choice greedy start leave))

end Code

def Expr.emit : Expr → Nat → Code → Nat × Code
  | empty, next, code => (next, code)
  | set s, next, code => code.add (.one s next)
  | look l, next, code => code.add (.look l next)
  | group i a, next, code =>
    let (stop, code) := code.add (.save (2 * i + 1) next)
    let (start, code) := a.emit stop code
    code.add (.save (2 * i) start)
  | seq a b, next, code =>
    let (middle, code) := b.emit next code
    a.emit middle code
  | alt a b, next, code =>
    let (second, code) := b.emit next code
    let (first, code) := a.emit next code
    code.add (.fork first second)
  | times least (some most) greedy a, next, code =>
    let (next, code) := Code.optional a.emit greedy next (most - least) next code
    Code.several a.emit least next code
  | times 0 none greedy a, next, code =>
    let (start, fork, code) := Code.loop a.emit greedy next code
    if a.nullable then code.add (Code.choice greedy start next) else (fork, code)
  | times (least + 1) none greedy a, next, code =>
    let (start, _, code) := Code.loop a.emit greedy next code
    Code.several a.emit least start code

structure Program where
  code : Code
  start : Nat
  deriving Repr

/-- The program of an expression. Slots 0 and 1 take the ends of the whole match. -/
def Expr.program (e : Expr) : Program :=
  let (stop, code) := Code.add #[] .done
  let (start, code) := (Expr.group 0 e).emit stop code
  ⟨code, start⟩

end Refit.Pattern
