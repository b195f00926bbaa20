import Refit.Text.Basic

namespace Refit.Yaml

inductive Malformed
  | control
  | badDirective
  | badVersion
  | badToken
  | tabIndent
  | lostKey
  | entryHere
  | keyHere
  | valueHere
  | badBlockHeader
  | unclosedQuote
  | badEscape
  | badColon
  | badStructure
  | noDocument
  | severalDocuments
  deriving Repr, DecidableEq

def Malformed.message : Malformed → Text
  | control => "control characters are not allowed".toList
  | badDirective => "could not read a directive".toList
  | badVersion => "found incompatible YAML document".toList
  | badToken => "found character that cannot start any token".toList
  | tabIndent => "found a tab character that violates indentation".toList
  | lostKey => "could not find expected ':'".toList
  | entryHere => "block sequence entries are not allowed in this context".toList
  | keyHere => "mapping keys are not allowed in this context".toList
  | valueHere => "mapping values are not allowed in this context".toList
  | badBlockHeader => "could not read the header of a block scalar".toList
  | unclosedQuote => "found unexpected end of a quoted scalar".toList
  | badEscape => "found unknown escape character".toList
  | badColon => "found unexpected ':'".toList
  | badStructure => "did not find expected node content".toList
  | noDocument => "EOF while parsing a value".toList
  | severalDocuments => "more than one document is not supported".toList

def isAllowed (c : Char) : Bool :=
  let n := c.toNat
  n == 0x09 || n == 0x0A || n == 0x0D || (0x20 ≤ n && n ≤ 0x7E) || n == 0x85 ||
    (0xA0 ≤ n && n ≤ 0xD7FF) || (0xE000 ≤ n && n ≤ 0xFFFD) || 0x10000 ≤ n

def unifyBreaks : Text → Text
  | [] => []
  | c :: rest =>
    if c = '\r' then
      if rest.head? = some '\n' then unifyBreaks rest else '\n' :: unifyBreaks rest
    else if c = '\x85' then '\n' :: unifyBreaks rest
    else c :: unifyBreaks rest

def isBreak (c : Char) : Bool := c == '\n' || c == '\u2028' || c == '\u2029'

def isGap (c : Char) : Bool := c == ' ' || c == '\t'

def isWhite (c : Char) : Bool := isGap c || isBreak c

def endMark : Char := '\x00'

def isWhiteOrEnd (c : Char) : Bool := isWhite c || c == endMark

structure Spot where
  char : Char
  line : Nat
  column : Nat
  deriving Repr, DecidableEq

def spotsFrom (line column : Nat) : Text → List Spot
  | [] => [⟨endMark, line, column⟩]
  | c :: rest =>
    ⟨c, line, column⟩ ::
      if isBreak c then spotsFrom (line + 1) 0 rest else spotsFrom line (column + 1) rest

def spots (t : Text) : List Spot := spotsFrom 0 0 (unifyBreaks t)

def first (s : List Spot) : Char := (s.head?.map Spot.char).getD endMark

def second (s : List Spot) : Char := first (s.drop 1)

def column (s : List Spot) : Nat := (s.head?.map Spot.column).getD 0

def line (s : List Spot) : Nat := (s.head?.map Spot.line).getD 0

/-- Whether three equal characters stand by themselves at the start of a line. -/
def isMarker (c : Char) (s : List Spot) : Bool :=
  column s == 0 && (s.take 3).map Spot.char == [c, c, c] && isWhiteOrEnd (first (s.drop 3))

def atMarker (s : List Spot) : Bool := isMarker '-' s || isMarker '.' s

def dropComment (s : List Spot) : List Spot :=
  if first s = '#' then s.dropWhile fun p => !isBreak p.char && p.char != endMark else s

structure Gap where
  broken : Bool := false
  blanks : Text := []
  firstBreak : Text := []
  moreBreaks : Text := []
  deriving Repr, DecidableEq

namespace Gap

def isEmpty (g : Gap) : Bool := !g.broken && g.blanks.isEmpty

def push (g : Gap) (c : Char) : Gap :=
  if isBreak c then
    if g.broken then { g with moreBreaks := g.moreBreaks ++ [c] }
    else { broken := true, firstBreak := [c] }
  else if g.broken then g
  else { g with blanks := g.blanks ++ [c] }

/-- Breaks folded: a line feed that stands alone is a space, and one before others is lost. -/
def fold (firstBreak moreBreaks : Text) : Text :=
  if firstBreak.head? = some '\n' then if moreBreaks.isEmpty then [' '] else moreBreaks
  else firstBreak ++ moreBreaks

def text (g : Gap) : Text := if g.broken then fold g.firstBreak g.moreBreaks else g.blanks

end Gap

end Refit.Yaml
