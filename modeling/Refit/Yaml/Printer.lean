import Refit.Text.Basic
import Refit.Yaml.Plain
import Refit.Yaml.Spot

namespace Refit.Yaml

inductive Style
  | plain
  | singleQuoted
  | doubleQuoted
  | literal
  deriving Repr, DecidableEq

def isPrintable (c : Char) : Bool :=
  let n := c.toNat
  n == 0x0A || (0x20 ≤ n && n ≤ 0x7E) || (0xA0 ≤ n && n ≤ 0xD7FF) ||
    (0xE000 ≤ n && n ≤ 0xFFFD && n != 0xFEFF) || 0x10000 ≤ n

def hasPair (before after : Char → Bool) : Text → Bool
  | a :: b :: rest => (before a && after b) || hasPair before after (b :: rest)
  | _ => false

def endsWord (rest : Text) : Bool := rest.head?.all isWhiteOrEnd

def leadingSigns : List Char :=
  ['#', ',', '[', ']', '\x7b', '\x7d', '&', '*', '!', '|', '>', '\'', '"', '%', '@', '\x60']

def beginsSign : Text → Bool
  | [] => false
  | c :: rest =>
    leadingSigns.contains c || (['?', ':', '-'].contains c && endsWord rest) ||
      (c :: rest).take 3 == ['-', '-', '-'] || (c :: rest).take 3 == ['.', '.', '.']

/-- Whether a text holds what would end a plain scalar: a colon at the end of a word, or a number
sign at the start of one. -/
def holdsSign : Text → Bool
  | [] => false
  | c :: rest =>
    (c == ':' && endsWord rest) || (isWhiteOrEnd c && rest.head? == some '#') || holdsSign rest

namespace Style

def allowsPlain (t : Text) : Bool :=
  t.all (fun c => isPrintable c && !isBreak c) && !t.head?.any isWhite && !t.getLast?.any isWhite &&
    !beginsSign t && !holdsSign t

def allowsSingleQuotes (t : Text) : Bool :=
  t.all isPrintable && !hasPair (· == ' ') isBreak t && !hasPair isBreak (· == ' ') t

def allowsBlock (t : Text) : Bool :=
  t.all isPrintable && !hasPair (· == ' ') isBreak t && t.getLast? != some ' '

def isAmbiguous (t : Text) : Bool := Plain.ofText t != .text || Plain.hasLeadingZero t

def ofText (t : Text) : Style :=
  if t.contains '\n' then if allowsBlock t then literal else doubleQuoted
  else if !isAmbiguous t && allowsPlain t then plain
  else if allowsSingleQuotes t then singleQuoted
  else doubleQuoted

end Style

inductive Layout
  | scalar (t : Text)
  | list (items : List Layout)
  | record (fields : List (Text × Layout))
  deriving Repr, Inhabited

def escape (c : Char) : Text :=
  match c with
  | '\x00' => ['\\', '0']
  | '\x07' => ['\\', 'a']
  | '\x08' => ['\\', 'b']
  | '\t' => ['\\', 't']
  | '\n' => ['\\', 'n']
  | '\x0B' => ['\\', 'v']
  | '\x0C' => ['\\', 'f']
  | '\r' => ['\\', 'r']
  | '\x1B' => ['\\', 'e']
  | '"' => ['\\', '"']
  | '\\' => ['\\', '\\']
  | '\x85' => ['\\', 'N']
  | '\u2028' => ['\\', 'L']
  | '\u2029' => ['\\', 'P']
  | c =>
    let code (sign : Char) (width : Nat) : Text :=
      ['\\', sign] ++ (Text.ofHex width c.toNat).map Char.toUpper
    if isPrintable c then [c]
    else if c.toNat ≤ 0xFF then code 'x' 2
    else if c.toNat ≤ 0xFFFF then code 'u' 4
    else code 'U' 8

/-- A text in which each line begins at a margin; `inside` says whether a line has begun already. -/
def indentLines (margin : Nat) : Bool → Text → Text
  | _, [] => []
  | inside, c :: rest =>
    if isBreak c then c :: indentLines margin false rest
    else if inside then c :: indentLines margin true rest
    else List.replicate margin ' ' ++ c :: indentLines margin true rest

def singleQuoted (margin : Nat) (t : Text) : Text :=
  let inner := t.flatMap fun c => if c = '\'' then ['\'', '\''] else [c]
  '\'' :: indentLines margin true (inner ++ ['\''])

def doubleQuoted (t : Text) : Text := '"' :: t.flatMap escape ++ ['"']

def blockHints (t : Text) : Text :=
  let indent := if t.head?.any fun c => c == ' ' || isBreak c then ['2'] else []
  let chomp := match t.reverse with
    | [] => ['-']
    | c :: before =>
      if !isBreak c then ['-']
      else if before.head?.all isBreak then ['+']
      else []
  indent ++ chomp

def scalarLine (margin : Nat) (t : Text) : Text :=
  match Style.ofText t with
  | .plain => t ++ ['\n']
  | .singleQuoted => singleQuoted margin t ++ ['\n']
  | .doubleQuoted => doubleQuoted t ++ ['\n']
  | .literal =>
    '|' :: blockHints t ++ '\n' :: indentLines margin false t ++
      if t.getLast?.any isBreak then [] else ['\n']

namespace Layout

mutual

def printItem (margin : Nat) : Layout → Text
  | scalar t => ' ' :: scalarLine (margin + 2) t
  | list [] => " []\n".toList
  | list items => printItems (margin + 2) true items
  | record [] => " \x7b\x7d\n".toList
  | record fields => ' ' :: printFields (margin + 2) true fields

def printValue (margin : Nat) : Layout → Text
  | scalar t => ' ' :: scalarLine (margin + 2) t
  | list [] => " []\n".toList
  | list items => '\n' :: printItems margin false items
  | record [] => " \x7b\x7d\n".toList
  | record fields => '\n' :: printFields (margin + 2) false fields

def printItems (margin : Nat) (inside : Bool) : List Layout → Text
  | [] => []
  | item :: items =>
    (if inside then [' '] else List.replicate margin ' ') ++
      '-' :: printItem margin item ++ printItems margin false items

def printFields (margin : Nat) (inside : Bool) : List (Text × Layout) → Text
  | [] => []
  | (key, value) :: fields =>
    (if inside then [] else List.replicate margin ' ') ++
      key ++ ':' :: printValue margin value ++ printFields margin false fields

end

def print (fields : List (Text × Layout)) : Text := printFields 0 false fields

end Layout

end Refit.Yaml
