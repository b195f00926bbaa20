import Refit.Json
import Refit.Text.Basic

namespace Refit.Json

def isSpace (c : Char) : Bool := c == ' ' || c == '\n' || c == '\t' || c == '\r'

def skip (t : Text) : Text := t.dropWhile isSpace

def escaped? : Char → Option Char
  | '"' => some '"'
  | '\\' => some '\\'
  | '/' => some '/'
  | 'b' => some '\x08'
  | 'f' => some '\x0C'
  | 'n' => some '\n'
  | 'r' => some '\r'
  | 't' => some '\t'
  | _ => none

/-- Reads a text behind its opening quote, as codes. A code that is written out may be half of a
pair. -/
def readCodes : Text → Option (List Nat × Text)
  | [] => none
  | '"' :: rest => some ([], rest)
  | '\\' :: 'u' :: a :: b :: c :: d :: rest => do
    let code ← ofHex? [a, b, c, d]
    let (codes, behind) ← readCodes rest
    return (code :: codes, behind)
  | '\\' :: e :: rest => do
    let c ← escaped? e
    let (codes, behind) ← readCodes rest
    return (c.toNat :: codes, behind)
  | c :: rest =>
    if c.toNat < 0x20 || c = '\\' then none
    else do
      let (codes, behind) ← readCodes rest
      return (c.toNat :: codes, behind)

/-- The text that codes spell. Two halves of a pair that stand together spell one character. -/
def decode? : List Nat → Option Text
  | [] => some []
  | [n] => do return [← charOfCode? n]
  | hi :: lo :: rest =>
    if 0xD800 ≤ hi && hi < 0xDC00 && 0xDC00 ≤ lo && lo < 0xE000 then
      (decode? rest).map (Char.ofNat (0x10000 + (hi - 0xD800) * 0x400 + (lo - 0xDC00)) :: ·)
    else do return (← charOfCode? hi) :: (← decode? (lo :: rest))

def readText (t : Text) : Option (Option Text × Text) :=
  (readCodes t).map fun (codes, behind) => (decode? codes, behind)

def readDigits (t : Text) : Option (Text × Text) :=
  let digits := t.takeWhile Char.isDigit
  if digits.isEmpty then none else some (digits, t.drop digits.length)

def readPart? (marks : List Char) (signs : List Char) : Text → Option (Text × Text)
  | [] => some ([], [])
  | c :: rest =>
    if !marks.contains c then some ([], c :: rest)
    else
      let sign := (rest.take 1).filter signs.contains
      (readDigits (rest.drop sign.length)).map fun (digits, behind) =>
        (c :: sign ++ digits, behind)

def readNumber (t : Text) : Option (Text × Text) := do
  let sign := (t.take 1).filter (· == '-')
  let (whole, rest) ← readDigits (t.drop sign.length)
  if whole.head? = some '0' && 1 < whole.length then none
  else
    let (fraction, rest) ← readPart? ['.'] [] rest
    let (exponent, rest) ← readPart? ['e', 'E'] ['+', '-'] rest
    return (sign ++ whole ++ fraction ++ exponent, rest)

mutual

def readValue : Nat → Text → Option (Json × Text)
  | 0, _ => none
  | deep + 1, t =>
    match skip t with
    | '"' :: rest => (readText rest).map fun (s, behind) => (s.elim broken text, behind)
    | '[' :: rest =>
      match skip rest with
      | ']' :: behind => some (list [], behind)
      | _ => (readItems deep rest).map fun (items, behind) => (list items, behind)
    | '\x7b' :: rest =>
      match skip rest with
      | '\x7d' :: behind => some (record [], behind)
      | _ => (readFields deep rest).map fun (fields, behind) => (record fields, behind)
    | 'n' :: 'u' :: 'l' :: 'l' :: behind => some (null, behind)
    | 't' :: 'r' :: 'u' :: 'e' :: behind => some (bool true, behind)
    | 'f' :: 'a' :: 'l' :: 's' :: 'e' :: behind => some (bool false, behind)
    | rest => (readNumber rest).map fun (n, behind) => (number n, behind)

def readItems : Nat → Text → Option (List Json × Text)
  | 0, _ => none
  | deep + 1, t => do
    let (item, rest) ← readValue deep t
    match skip rest with
    | ',' :: rest =>
      let (items, behind) ← readItems deep rest
      return (item :: items, behind)
    | ']' :: behind => return ([item], behind)
    | _ => none

def readFields : Nat → Text → Option (List (Option Text × Json) × Text)
  | 0, _ => none
  | deep + 1, t =>
    match skip t with
    | '"' :: rest => do
      let (key, rest) ← readText rest
      match skip rest with
      | ':' :: rest =>
        let (value, rest) ← readValue deep rest
        match skip rest with
        | ',' :: rest =>
          let (fields, behind) ← readFields deep rest
          return ((key, value) :: fields, behind)
        | '\x7d' :: behind => return ([(key, value)], behind)
        | _ => none
      | _ => none
    | _ => none

end

def parse? (t : Text) : Option Json := do
  let (value, behind) ← readValue (2 * t.length + 2) t
  if (skip behind).isEmpty then some value else none

end Refit.Json
