import Refit.Text.Basic
import Refit.Yaml.Spot

namespace Refit.Yaml

/-- Reads a plain scalar, of which a gap was read last. Inside brackets (`flow`) also a comma or
bracket ends it, outside them a line that is indented less than `indent`. The flag says whether the
line was ended behind the scalar. -/
def readPlain (flow : Bool) (indent : Int) (gap : Gap) :
    List Spot → Except Malformed (Text × Bool × List Spot)
  | [] => .ok ([], gap.broken, [])
  | s :: rest =>
    if isWhite s.char then
      if gap.broken && s.char == '\t' && s.column < indent then .error .tabIndent
      else readPlain flow indent (gap.push s.char) rest
    else if s.char == endMark ||
        (!gap.isEmpty &&
          ((!flow && s.column < indent) || atMarker (s :: rest) || s.char == '#')) then
      .ok ([], gap.broken, s :: rest)
    else if flow && s.char == ':' && [',', '?', '[', ']', '\x7b', '\x7d'].contains (first rest) then
      .error .badColon
    else if (s.char == ':' && isWhiteOrEnd (first rest)) ||
        (flow && [',', '[', ']', '\x7b', '\x7d'].contains s.char) then
      .ok ([], gap.broken, s :: rest)
    else do
      let (t, broken, behind) ← readPlain flow indent {} rest
      return (gap.text ++ s.char :: t, broken, behind)

def escape? : Char → Option (Char ⊕ Nat)
  | '0' => some (.inl '\x00')
  | 'a' => some (.inl '\x07')
  | 'b' => some (.inl '\x08')
  | 't' | '\t' => some (.inl '\t')
  | 'n' => some (.inl '\n')
  | 'v' => some (.inl '\x0B')
  | 'f' => some (.inl '\x0C')
  | 'r' => some (.inl '\r')
  | 'e' => some (.inl '\x1B')
  | ' ' => some (.inl ' ')
  | '"' => some (.inl '"')
  | '/' => some (.inl '/')
  | '\\' => some (.inl '\\')
  | 'N' => some (.inl '\x85')
  | '_' => some (.inl '\xA0')
  | 'L' => some (.inl '\u2028')
  | 'P' => some (.inl '\u2029')
  | 'x' => some (.inr 2)
  | 'u' => some (.inr 4)
  | 'U' => some (.inr 8)
  | _ => none

def readEscape : List Spot → Except Malformed (Char × Nat)
  | [] => .error .badEscape
  | s :: rest =>
    match escape? s.char with
    | none => .error .badEscape
    | some (.inl c) => .ok (c, 1)
    | some (.inr digits) =>
      let spelled := (rest.take digits).map Spot.char
      match (ofHex? spelled).bind charOfCode? with
      | some c => if spelled.length = digits then .ok (c, digits + 1) else .error .badEscape
      | none => .error .badEscape

def readQuoted (quote : Char) (gap : Gap) : Nat → List Spot → Except Malformed (Text × List Spot)
  | _, [] => .error .unclosedQuote
  | n + 1, _ :: rest => readQuoted quote gap n rest
  | 0, s :: rest =>
    if isWhite s.char then readQuoted quote (gap.push s.char) 0 rest
    else if s.char == endMark || atMarker (s :: rest) then .error .unclosedQuote
    else if s.char == quote then
      if quote == '\'' && first rest == '\'' then do
        let (t, behind) ← readQuoted quote {} 1 rest
        return (gap.text ++ '\'' :: t, behind)
      else .ok (gap.text, rest)
    else if quote == '"' && s.char == '\\' then
      if isBreak (first rest) then do
        let (t, behind) ← readQuoted quote { broken := true } 1 rest
        return (gap.text ++ t, behind)
      else do
        let (c, size) ← readEscape rest
        let (t, behind) ← readQuoted quote {} size rest
        return (gap.text ++ c :: t, behind)
    else do
      let (t, behind) ← readQuoted quote {} 0 rest
      return (gap.text ++ s.char :: t, behind)

inductive Chomp
  | strip
  | clip
  | keep
  deriving Repr, DecidableEq

structure BlockHeader where
  literal : Bool
  chomp : Chomp := .clip
  indent : Option Nat := none
  deriving Repr, DecidableEq

def readChomp (h : BlockHeader) (s : List Spot) : BlockHeader × List Spot :=
  if first s = '+' then ({ h with chomp := .keep }, s.drop 1)
  else if first s = '-' then ({ h with chomp := .strip }, s.drop 1)
  else (h, s)

def readIndent (h : BlockHeader) (s : List Spot) : Except Malformed (BlockHeader × List Spot) :=
  if !(first s).isDigit then .ok (h, s)
  else if first s = '0' then .error .badBlockHeader
  else .ok ({ h with indent := some ((first s).toNat - '0'.toNat) }, s.drop 1)

def readHeader (literal : Bool) (s : List Spot) : Except Malformed (BlockHeader × List Spot) := do
  let (h, s') := readChomp { literal } s
  let (h, s') ← readIndent h s'
  let (h, s') := if h.chomp = .clip then readChomp h s' else (h, s')
  let s' := dropComment (s'.dropWhile fun p => isGap p.char)
  if isBreak (first s') then return (h, s'.drop 1)
  else if first s' = endMark then return (h, s')
  else throw .badBlockHeader

def readBreaks (indent : Option Nat) : List Spot → Except Malformed (Text × Nat × List Spot)
  | [] => .ok ([], 0, [])
  | s :: rest =>
    let inside := indent.all (s.column < ·)
    if inside && s.char == ' ' then readBreaks indent rest
    else if inside && s.char == '\t' then .error .tabIndent
    else if isBreak s.char then do
      let (t, widest, behind) ← readBreaks indent rest
      return (s.char :: t, max s.column widest, behind)
    else .ok ([], s.column, s :: rest)

/-- Reads the lines of a block that are indented by `indent`. `previous` is the break before the
line at hand, `empty` the empty lines behind that, and `gapBefore` says whether the line before
began with a blank. The answer ends with the last break and the empty lines behind it. Each turn
reads a line. -/
def readBlockLines (literal : Bool) (indent : Nat) (previous empty : Text) (gapBefore : Bool) :
    Nat → List Spot → Except Malformed (Text × Text × Text × List Spot)
  | 0, s => .ok ([], previous, empty, s)
  | turns + 1, s =>
    if column s != indent || first s == endMark then .ok ([], previous, empty, s)
    else do
      let gapHere := isGap (first s)
      let joint :=
        if !literal && previous.head? == some '\n' && !gapBefore && !gapHere then
          if empty.isEmpty then [' '] else empty
        else previous ++ empty
      let here := (s.takeWhile fun p => !isBreak p.char && p.char != endMark).map Spot.char
      let rest := s.drop here.length
      let ended := if isBreak (first rest) then [first rest] else []
      let (breaks, _, rest) ← readBreaks (some indent) (rest.drop ended.length)
      let (t, last, empty, behind) ← readBlockLines literal indent ended breaks gapHere turns rest
      return (joint ++ here ++ t, last, empty, behind)

def readBlock (literal : Bool) (outer : Int) (s : List Spot) :
    Except Malformed (Text × List Spot) := do
  let (h, s') ← readHeader literal s
  let (empty, widest, s') ← readBreaks (h.indent.map fun n => (max outer 0).toNat + n) s'
  let indent := match h.indent with
    | some n => (max outer 0).toNat + n
    | none => max widest (max (outer + 1) 1).toNat
  let (t, last, empty, behind) ← readBlockLines literal indent [] empty false (s'.length + 1) s'
  let tail := match h.chomp with
    | .strip => []
    | .clip => last
    | .keep => last ++ empty
  return (t ++ tail, behind)

end Refit.Yaml
