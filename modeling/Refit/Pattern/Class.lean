import Refit.Pattern.Escape

namespace Refit.Pattern

inductive SetOp
  | inter
  | diff
  | symmDiff
  deriving Repr, DecidableEq

def SetOp.apply : SetOp → CharSet → CharSet → CharSet
  | inter, a, b => .inter a b
  | diff, a, b => .diff a b
  | symmDiff, a, b => .symmDiff a b

structure OpenClass where
  negated : Bool
  before : Option (CharSet × SetOp) := none
  items : List CharSet := []
  depth : Nat := 0
  deriving Repr

namespace OpenClass

def push (k : OpenClass) (s : CharSet) (depth : Nat) : OpenClass :=
  { k with items := s :: k.items, depth := max k.depth depth }

def value (f : Flags) (k : OpenClass) : CharSet :=
  let right := CharSet.unions k.items.reverse
  match k.before with
  | none => right
  | some (left, op) => op.apply (f.fold left) (f.fold right)

def operate (f : Flags) (k : OpenClass) (op : SetOp) : OpenClass :=
  { k with before := some (k.value f, op), items := [] }

def close (f : Flags) (k : OpenClass) : CharSet :=
  let s := f.fold (k.value f)
  if k.negated then .compl s else s

end OpenClass

namespace Reader

def asciiClass? : Reader (Option CharSet) := do
  match Text.dropStart? ['[', ':'] (← rest) with
  | none => return none
  | some inner =>
    let negated := inner.head? == some '^'
    let name := (if negated then inner.drop 1 else inner).takeWhile (· != ':')
    let behind := inner.drop (name.length + if negated then 1 else 0)
    match Text.dropStart? [':', ']'] behind, lookup name asciiClasses with
    | some behind, some s => do
      goto behind
      let s := (← flags).fold s
      return some (if negated then .compl s else s)
    | _, _ => return none

def openClass : Reader OpenClass := do
  skipBlanks
  let negated ← accept ['^']
  if negated then skipBlanks
  let hyphens ← takeWhile (· == '-')
  let k : OpenClass := { negated, items := hyphens.map .single }
  if !hyphens.isEmpty then return k
  if ← accept [']'] then return k.push (.single ']') 0
  return k

def classAtom : Reader Atom := do
  match ← peek? with
  | none => throw .unclosedClass
  | some c =>
    bump
    if c = '\\' then escape
    else
      if !(← flags).unicode && 0x80 ≤ c.toNat then throw .notText
      return .literal c

def atRange : Reader Bool := do
  let r ← get
  match r.rest with
  | '-' :: behind =>
    let next := (if r.flags.spaced then dropBlanks false behind else behind).head?
    return next != some ']' && next != some '-'
  | _ => return false

def classItem : Reader CharSet := do
  let first ← classAtom
  skipBlanks
  if (← rest).isEmpty then throw .unclosedClass
  if ← atRange then
    bumpAndSkip
    let last ← classAtom
    match first, last with
    | .literal a, .literal b =>
      if a ≤ b then return .range a b else throw .badClassRange
    | _, _ => throw .badClassRange
  else
    match first with
    | .literal c => return .single c
    | .set s => return s
    | .look _ => throw .badClassItem

/-- Reads a class behind its bracket, with the classes that it stands in, the innermost one first.
The depth of the nesting comes with it. Each turn passes over at least one character, so there are
no more turns than characters. -/
def classRest (outer : List OpenClass) (k : OpenClass) : Nat → Reader (CharSet × Nat)
  | 0 => throw .unclosedClass
  | turns + 1 => do
    skipBlanks
    let f ← flags
    match ← rest with
    | [] => throw .unclosedClass
    | '[' :: _ =>
      match ← asciiClass? with
      | some s => classRest outer (k.push s 0) turns
      | none => do
        bump
        classRest (k :: outer) (← openClass) turns
    | ']' :: _ => do
      bump
      let s := k.close f
      let depth := k.depth + (if k.items.length < 2 then 1 else 2)
      match outer with
      | [] => return (s, depth)
      | around :: outer => classRest outer (around.push s depth) turns
    | '&' :: '&' :: _ => do bump; bump; classRest outer (k.operate f .inter) turns
    | '-' :: '-' :: _ => do bump; bump; classRest outer (k.operate f .diff) turns
    | '~' :: '~' :: _ => do bump; bump; classRest outer (k.operate f .symmDiff) turns
    | _ => do classRest outer (k.push (← classItem) 0) turns

def bracketed : Reader (CharSet × Nat) := do
  let k ← openClass
  let (s, depth) ← classRest [] k ((← rest).length + 1)
  return (← (← flags).checkText s, depth)

end Reader

end Refit.Pattern
