import Refit.Text.Basic
import Refit.Yaml.Scalar

/-! The lexer turns indentation and signs into tokens. That a word is a key shows only at the colon
behind it, so the place of a word that might be one is kept, and the token for a key is put in there
later. -/

namespace Refit.Yaml

inductive Token
  | version (major minor : Nat)
  | docStart
  | docEnd
  | seqStart
  | mapStart
  | blockEnd
  | flowSeqStart
  | flowSeqEnd
  | flowMapStart
  | flowMapEnd
  | entry
  | comma
  | key
  | value
  | scalar (t : Text) (plain : Bool)
  deriving Repr, DecidableEq

structure KeyPlace where
  tokens : Nat
  line : Nat
  column : Nat
  required : Bool
  deriving Repr, DecidableEq

/-- How far a lexer has come: what is left, the tokens, the indentation of the open block
collections with the innermost one apart, the places of keys for the text and each open bracket, and
whether a key may begin here. -/
structure Lexer where
  spots : List Spot
  tokens : Array Token := #[]
  indent : Int := -1
  indents : List Int := []
  keys : List (Option KeyPlace) := [none]
  keyAllowed : Bool := true
  deriving Repr

namespace Lexer

def inFlow (l : Lexer) : Bool := 1 < l.keys.length

def emit (l : Lexer) (t : Token) : Lexer := { l with tokens := l.tokens.push t }

def drop (l : Lexer) (n : Nat) : Lexer := { l with spots := l.spots.drop n }

def insert (l : Lexer) (n : Nat) (t : Token) : Lexer :=
  { l with tokens := l.tokens.extract 0 n ++ #[t] ++ l.tokens.extract n l.tokens.size }

/-- Passes over blanks, comments and line breaks. A line break allows a key, except in brackets.
Tabs do not count as blanks where a key may begin. -/
def skip (inFlow keyAllowed : Bool) (inComment : Bool) : List Spot → List Spot × Bool
  | [] => ([], keyAllowed)
  | s :: rest =>
    if isBreak s.char then skip inFlow (keyAllowed || !inFlow) false rest
    else if inComment && s.char != endMark then skip inFlow keyAllowed true rest
    else if s.char == ' ' || (s.char == '\t' && (inFlow || !keyAllowed)) ||
        (s.char == '\uFEFF' && s.line == 0 && s.column == 0) then
      skip inFlow keyAllowed false rest
    else if s.char == '#' then skip inFlow keyAllowed true rest
    else (s :: rest, keyAllowed)

def maxKeySize : Nat := 1024

/-- Forgets the places of keys that cannot be keys any more, because the line has ended or gone on
for too long. One that has to be a key must not be lost. -/
def forgetKeys (l : Lexer) : Except Malformed Lexer := do
  let keys ← l.keys.mapM fun
    | none => pure none
    | some k =>
      if k.line < line l.spots || k.column + maxKeySize < column l.spots then
        if k.required then throw .lostKey else pure none
      else pure (some k)
  return { l with keys }

def removeKey (l : Lexer) : Except Malformed Lexer :=
  match l.keys with
  | some k :: keys => if k.required then .error .lostKey else .ok { l with keys := none :: keys }
  | _ => .ok l

def saveKey (l : Lexer) : Except Malformed Lexer :=
  if !l.keyAllowed then .ok l
  else do
    let l ← l.removeKey
    let here : KeyPlace :=
      { tokens := l.tokens.size, line := line l.spots, column := column l.spots
        required := !l.inFlow && l.indent == column l.spots }
    return { l with keys := some here :: l.keys.drop 1 }

def endBlocks (indent : Int) (tokens : Array Token) (col : Int) :
    List Int → Int × List Int × Array Token
  | [] => (indent, [], tokens)
  | outer :: indents =>
    if col < indent then endBlocks outer (tokens.push .blockEnd) col indents
    else (indent, outer :: indents, tokens)

def unroll (l : Lexer) (col : Int) : Lexer :=
  if l.inFlow then l
  else
    let (indent, indents, tokens) := endBlocks l.indent l.tokens col l.indents
    { l with indent, indents, tokens }

def roll (l : Lexer) (col : Nat) (n : Nat) (t : Token) : Lexer :=
  if l.inFlow || (col : Int) ≤ l.indent then l
  else { l.insert n t with indent := col, indents := l.indent :: l.indents }

def blockSign (l : Lexer) (start sign : Token) (otherwise : Malformed) :
    Except Malformed Lexer := do
  if !l.inFlow && !l.keyAllowed then throw otherwise
  let l ← (l.roll (column l.spots) l.tokens.size start).removeKey
  return (l.drop 1).emit sign

def entry (l : Lexer) : Except Malformed Lexer := do
  let l ← l.blockSign .seqStart .entry .entryHere
  return { l with keyAllowed := true }

def explicitKey (l : Lexer) : Except Malformed Lexer := do
  let l ← l.blockSign .mapStart .key .keyHere
  return { l with keyAllowed := !l.inFlow }

/-- Reads a colon: behind a word, which now is known to be a key, or by itself. -/
def value (l : Lexer) : Except Malformed Lexer := do
  match l.keys with
  | some k :: keys =>
    let l := (l.insert k.tokens .key).roll k.column k.tokens .mapStart
    return ({ l with keys := none :: keys, keyAllowed := false }.drop 1).emit .value
  | _ =>
    if !l.inFlow && !l.keyAllowed then throw .valueHere
    let l := l.roll (column l.spots) l.tokens.size .mapStart
    return ({ l with keyAllowed := !l.inFlow }.drop 1).emit .value

def openFlow (l : Lexer) (t : Token) : Except Malformed Lexer := do
  let l ← l.saveKey
  return ({ l with keys := none :: l.keys, keyAllowed := true }.drop 1).emit t

def closeFlow (l : Lexer) (t : Token) : Except Malformed Lexer := do
  let l ← l.removeKey
  let keys := if l.inFlow then l.keys.drop 1 else l.keys
  return ({ l with keys, keyAllowed := false }.drop 1).emit t

def comma (l : Lexer) : Except Malformed Lexer := do
  let l ← l.removeKey
  return ({ l with keyAllowed := true }.drop 1).emit .comma

def quoted (l : Lexer) (quote : Char) : Except Malformed Lexer := do
  let l ← l.saveKey
  let (t, spots) ← readQuoted quote {} 0 (l.spots.drop 1)
  return { l with spots, keyAllowed := false }.emit (.scalar t false)

def plain (l : Lexer) : Except Malformed Lexer := do
  let l ← l.saveKey
  let (t, broken, spots) ← readPlain l.inFlow (l.indent + 1) {} l.spots
  return { l with spots, keyAllowed := broken }.emit (.scalar t true)

def block (l : Lexer) (literal : Bool) : Except Malformed Lexer := do
  let l ← l.removeKey
  let (t, spots) ← readBlock literal l.indent (l.spots.drop 1)
  return { l with spots, keyAllowed := true }.emit (.scalar t false)

def versionNumber (s : List Spot) : Except Malformed (Nat × List Spot) :=
  let digits := (s.takeWhile fun p => p.char.isDigit).map Spot.char
  if digits.isEmpty || 9 < digits.length then .error .badDirective
  else .ok (Text.toNat digits, s.drop digits.length)

def directive (l : Lexer) : Except Malformed Lexer := do
  let l ← (l.unroll (-1)).removeKey
  if (l.spots.take 5).map Spot.char != "%YAML".toList then throw .badDirective
  let s := l.spots.drop 5
  if !isGap (first s) then throw .badDirective
  let (major, s) ← versionNumber (s.dropWhile fun p => isGap p.char)
  if first s != '.' then throw .badDirective
  let (minor, s) ← versionNumber (s.drop 1)
  let s := dropComment (s.dropWhile fun p => isGap p.char)
  if !isBreak (first s) && first s != endMark then throw .badDirective
  return { l with spots := s, keyAllowed := false }.emit (.version major minor)

def marker (l : Lexer) (t : Token) : Except Malformed Lexer := do
  let l ← (l.unroll (-1)).removeKey
  return ({ l with keyAllowed := false }.drop 3).emit t

def signs : List Char :=
  ['-', '?', ':', ',', '[', ']', '\x7b', '\x7d', '#', '&', '*', '!', '|', '>', '\'', '"', '%', '@',
   '\x60']

def next (l : Lexer) : Except Malformed (Lexer × Bool) := do
  let (spots, keyAllowed) := skip l.inFlow l.keyAllowed false l.spots
  let l ← { l with spots, keyAllowed }.forgetKeys
  let l := l.unroll (column l.spots)
  let c := first l.spots
  let ended := isWhiteOrEnd (second l.spots)
  if c = endMark then
    let l ← (l.unroll (-1)).removeKey
    return (l, false)
  let l ←
    if c = '%' && column l.spots == 0 then l.directive
    else if isMarker '-' l.spots then l.marker .docStart
    else if isMarker '.' l.spots then l.marker .docEnd
    else if c = '[' then l.openFlow .flowSeqStart
    else if c = '\x7b' then l.openFlow .flowMapStart
    else if c = ']' then l.closeFlow .flowSeqEnd
    else if c = '\x7d' then l.closeFlow .flowMapEnd
    else if c = ',' then l.comma
    else if c = '-' && ended then l.entry
    else if c = '?' && (l.inFlow || ended) then l.explicitKey
    else if c = ':' && (l.inFlow || ended) then l.value
    else if c = '|' && !l.inFlow then l.block true
    else if c = '>' && !l.inFlow then l.block false
    else if c = '\'' || c = '"' then l.quoted c
    else if !(isWhite c || signs.contains c) || (c = '-' && !isGap (second l.spots)) ||
        (!l.inFlow && (c = '?' || c = ':') && !ended) then
      l.plain
    else throw .badToken
  return (l, true)

def all : Nat → Lexer → Except Malformed (List Token)
  | 0, _ => .error .badToken
  | turns + 1, l => do
    match ← l.next with
    | (l, true) => all turns l
    | (l, false) => return l.tokens.toList

end Lexer

def Token.ofText (t : Text) : Except Malformed (List Token) :=
  if t.all isAllowed then
    let s := spots t
    Lexer.all (s.length + 1) { spots := s }
  else .error .control

end Refit.Yaml
