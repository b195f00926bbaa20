import Refit.Pattern.Parser
import Refit.Pattern.Search
import Refit.Text.Basic

namespace Refit

namespace Pattern

inductive GroupRef
  | number (n : Nat)
  | name (n : Text)
  deriving Repr, DecidableEq

inductive TemplatePart
  | char (c : Char)
  | group (r : GroupRef)
  deriving Repr, DecidableEq

/-- What a reference with a given text names: a number below `2 ^ 64`, with or without a plus sign,
or else a name. -/
def GroupRef.ofText (t : Text) : GroupRef :=
  let digits := match t with
    | '+' :: rest => rest
    | _ => t
  let n := Text.toNat digits
  if !digits.isEmpty && digits.all Char.isDigit && n < Nat.pow 2 64 then .number n else .name t

def isNameChar (c : Char) : Bool := c.isAlphanum || c == '_'

def reference? : Text → Option (GroupRef × Nat)
  | '\x7b' :: rest =>
    let name := rest.takeWhile (· != '\x7d')
    if name.length < rest.length then some (.ofText name, name.length + 2) else none
  | rest =>
    let name := rest.takeWhile isNameChar
    if name.isEmpty then none else some (.ofText name, name.length)

def templateParts : Nat → Text → List TemplatePart
  | _, [] => []
  | n + 1, _ :: rest => templateParts n rest
  | 0, c :: rest =>
    if c = '$' then
      if rest.head? = some '$' then .char '$' :: templateParts 1 rest
      else
        match reference? rest with
        | some (r, n) => .group r :: templateParts n rest
        | none => .char '$' :: templateParts 0 rest
    else .char c :: templateParts 0 rest

end Pattern

structure Pattern where
  source : Text
  program : Pattern.Program
  names : List (Text × Nat)
  deriving Repr

namespace Pattern

def maxDepth : Nat := 250

/-- How many bytes the automaton of a pattern may take. -/
def maxWeight : Nat := 10 * Nat.pow 2 20

def parse? (source : Text) : Except Malformed Pattern := do
  let (part, reading) ← Reader.whole.run { rest := source }
  if maxDepth < part.depth then throw .tooDeep
  if maxWeight < part.expr.weight then throw .tooLarge
  return ⟨source, part.expr.program, reading.names⟩

def occursIn (p : Pattern) (t : Text) : Bool := (p.program.search none t).isSome

/-- The pieces of a text along the matches of a pattern. An empty match directly behind another
match is no match; `last` says whether the text begins behind one. Each turn takes a match or passes
over a character. -/
def piecesFrom (p : Pattern) : Nat → Option Char → Bool → Text → List (Text.Piece Match)
  | 0, _, _, rest => rest.map .gap
  | turns + 1, before, last, rest =>
    match p.program.search before rest with
    | none => rest.map .gap
    | some m =>
      if last && m.stop == 0 then
        match rest with
        | [] => []
        | c :: rest => .gap c :: piecesFrom p turns (some c) false rest
      else
        let gap := rest.take m.start
        let found := (rest.drop m.start).take (m.stop - m.start)
        gap.map .gap ++ .hit m ::
          piecesFrom p turns ((gap ++ found).getLast?.or before) true (rest.drop m.stop)

def pieces (p : Pattern) (t : Text) : List (Text.Piece Match) :=
  piecesFrom p (2 * t.length + 2) none false t

def groupNumber? (p : Pattern) : GroupRef → Option Nat
  | .number n => some n
  | .name n => p.names.lookup n

def expand (p : Pattern) (parts : List TemplatePart) (m : Match) : Text :=
  parts.flatMap fun
    | .char c => [c]
    | .group r => ((p.groupNumber? r).bind m.group?).getD []

def replaceAll (p : Pattern) (template t : Text) : Text :=
  let parts := templateParts 0 template
  (p.pieces t).flatMap fun
    | .gap c => [c]
    | .hit m => p.expand parts m

end Pattern

end Refit
