import Refit.Pattern.Class
import Refit.Text.Basic

namespace Refit.Pattern

structure Part where
  expr : Expr
  depth : Nat := 0
  repeatable : Bool := true
  deriving Repr

namespace Part

def seqs : List Part → Part
  | [] => { expr := .empty }
  | [p] => p
  | ps => { expr := .seqs (ps.map Part.expr), depth := 1 + (ps.map Part.depth).foldl max 0 }

def alts : List Part → Part
  | [] => { expr := .empty }
  | [p] => p
  | ps => { expr := .alts (ps.map Part.expr), depth := 1 + (ps.map Part.depth).foldl max 0 }

end Part

def Flags.lineStart (f : Flags) : Look :=
  if !f.multiLine then .textStart else if f.longLines then .longLineStart else .lineStart

def Flags.lineEnd (f : Flags) : Look :=
  if !f.multiLine then .textEnd else if f.longLines then .longLineEnd else .lineEnd

def Flags.dot (f : Flags) : CharSet :=
  if f.dotAll then .all
  else if f.longLines then .compl (.ofList ['\r', '\n'])
  else .compl (.single '\n')

def Flags.literal (f : Flags) (c : Char) : CharSet :=
  if !f.anyCase then .single c
  else .ofList (if f.unicode then caseVariants c else asciiCaseVariants c)

def Flags.set? (f : Flags) (on : Bool) : Char → Option Flags
  | 'i' => some { f with anyCase := on }
  | 'm' => some { f with multiLine := on }
  | 's' => some { f with dotAll := on }
  | 'U' => some { f with swapGreed := on }
  | 'u' => some { f with unicode := on }
  | 'R' => some { f with longLines := on }
  | 'x' => some { f with spaced := on }
  | _ => none

/-- The flags behind a list of changes. A hyphen, which stands once and not last, makes the changes
behind it clear their flags; no flag is named twice. -/
def Flags.change (f : Flags) (on : Bool) (seen : Text) : Text → Except Malformed Flags
  | [] => if seen.head? = some '-' then .error .badFlags else .ok f
  | c :: rest =>
    if seen.contains c then .error .badFlags
    else if c = '-' then f.change false (c :: seen) rest
    else
      match f.set? on c with
      | some f => f.change on (c :: seen) rest
      | none => .error .badFlags

namespace Reader

def decimal : Reader Nat := do
  goto ((← rest).dropWhile isBlank)
  let digits ← takeWhile Char.isDigit
  let r ← get
  goto (if r.flags.spaced then dropBlanks false (r.rest.dropWhile isBlank)
    else r.rest.dropWhile isBlank)
  if digits.isEmpty then throw .badCount
  let n := Text.toNat digits
  if n < Nat.pow 2 32 then return n else throw .badCount

def count : Reader (Nat × Option Nat) := do
  skipBlanks
  let least ← decimal
  let most ←
    if ← accept [','] then
      skipBlanks
      if (← peek?) = some '\x7d' then pure none else some <$> decimal
    else pure (some least)
  expect '\x7d' .badCount
  skipBlanks
  match most with
  | some n => if least ≤ n then return (least, most) else throw .badCount
  | none => return (least, most)

def repeated (least : Nat) (most : Option Nat) : List Part → Reader (List Part)
  | [] => throw .nothingToRepeat
  | p :: before => do
    if !p.repeatable then throw .nothingToRepeat
    let asked ← accept ['?']
    let greedy := asked == (← flags).swapGreed
    return { expr := .times least most greedy p.expr, depth := p.depth + 1 } :: before

def groupName : Reader Text := do
  let name := (← rest).takeWhile (· != '>')
  goto ((← rest).drop name.length)
  expect '>' .badGroupName
  match name with
  | [] => throw .badGroupName
  | c :: more =>
    let starts := c == '_' || isAlphabetic c
    let goesOn := more.all fun c => ['_', '.', '[', ']'].contains c || isAlphanumeric c
    if starts && goesOn then return name else throw .badGroupName

def newGroup (name? : Option Text) : Reader Nat := do
  let r ← get
  let index := r.groups + 1
  match name? with
  | none => set { r with groups := index }
  | some name =>
    if r.names.any (·.1 == name) then throw .repeatedGroupName
    set { r with groups := index, names := (name, index) :: r.names }
  return index

inductive Opening
  | group (index : Option Nat) (inner : Flags)
  | newFlags (f : Flags)

def opening : Reader Opening := do
  skipBlanks
  let looksAround := [['?', '='], ['?', '!'], ['?', '<', '='], ['?', '<', '!']]
  if looksAround.any (·.isPrefixOf (← rest)) then throw .lookAround
  let named ← do
    if ← accept ['?', 'P', '<'] then pure true else accept ['?', '<']
  if named then
    let index ← newGroup (some (← groupName))
    return .group (some index) (← flags)
  else if ← accept ['?'] then
    let r ← rest
    let changes := r.takeWhile fun c => c != ':' && c != ')'
    goto (r.drop changes.length)
    let f ← (← flags).change true [] changes
    match ← peek? with
    | some ':' => do bump; return .group none f
    | some ')' => do
      if changes.isEmpty then throw .nothingToRepeat
      bump
      return .newFlags f
    | _ => throw .unclosedGroup
  else
    let index ← newGroup none
    return .group (some index) (← flags)

def atom (c : Char) : Reader Part := do
  let f ← flags
  bump
  let a ← match c with
    | '\\' => escape
    | '.' => do
      if !f.unicode then throw .notText
      pure (.set f.dot)
    | '^' => pure (.look f.lineStart)
    | '$' => pure (.look f.lineEnd)
    | c => pure (.literal c)
  match a with
  | .literal c => return { expr := .set (f.literal c) }
  | .set s => return { expr := .set (← f.checkText s) }
  | .look l => return { expr := .look l }

structure OpenGroup where
  index : Option Nat
  flags : Flags
  branches : List Part := []
  parts : List Part := []

namespace OpenGroup

def push (g : OpenGroup) (p : Part) : OpenGroup := { g with parts := p :: g.parts }

def branch (g : OpenGroup) : OpenGroup :=
  { g with branches := .seqs g.parts.reverse :: g.branches, parts := [] }

def content (g : OpenGroup) : Part := .alts (g.branch.branches.reverse)

def part (g : OpenGroup) : Part :=
  let p := g.content
  { expr := match g.index with
      | some i => .group i p.expr
      | none => p.expr
    depth := p.depth + 1 }

end OpenGroup

def groupRest (outer : List OpenGroup) (g : OpenGroup) : Nat → Reader Part
  | 0 => throw .unclosedGroup
  | turns + 1 => do
    skipBlanks
    match ← rest with
    | [] => if outer.isEmpty then return g.content else throw .unclosedGroup
    | '(' :: _ => do
      bump
      let before ← flags
      match ← opening with
      | .newFlags f =>
        modify fun r => { r with flags := f }
        groupRest outer (g.push { expr := .empty, repeatable := false }) turns
      | .group index inner =>
        modify fun r => { r with flags := inner }
        groupRest (g :: outer) { index, flags := before } turns
    | ')' :: _ => do
      bump
      match outer with
      | [] => throw .unopenedGroup
      | around :: outer =>
        modify fun r => { r with flags := g.flags }
        groupRest outer (around.push g.part) turns
    | '|' :: _ => do bump; groupRest outer g.branch turns
    | '[' :: _ => do
      bump
      let (s, depth) ← bracketed
      groupRest outer (g.push { expr := .set s, depth }) turns
    | '?' :: _ => do
      bump
      groupRest outer { g with parts := ← repeated 0 (some 1) g.parts } turns
    | '*' :: _ => do
      bump
      groupRest outer { g with parts := ← repeated 0 none g.parts } turns
    | '+' :: _ => do
      bump
      groupRest outer { g with parts := ← repeated 1 none g.parts } turns
    | '\x7b' :: _ => do
      bump
      if g.parts.isEmpty then throw .nothingToRepeat
      let (least, most) ← count
      groupRest outer { g with parts := ← repeated least most g.parts } turns
    | c :: _ => do groupRest outer (g.push (← atom c)) turns

def whole : Reader Part := do
  groupRest [] { index := none, flags := ← flags } ((← rest).length + 1)

end Reader

end Refit.Pattern
