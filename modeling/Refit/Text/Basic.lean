/-! A text is the list of its characters. This module holds what the rest of the library does to
texts in general: searching for a needle, cutting a text into hits and gaps, and writing numbers.

`Text.pieces` is the one place where "leftmost, non-overlapping" is decided. A `Finder` says
whether a hit starts at a position; `pieces` walks the text from left to right, takes a hit where
the finder reports one, and goes on behind it. -/

namespace Refit

abbrev Text := List Char

namespace Text

def hasInfix (needle : Text) : Text → Bool
  | [] => needle.isEmpty
  | c :: rest => needle.isPrefixOf (c :: rest) || hasInfix needle rest

def dropStart? : Text → Text → Option Text
  | [], rest => some rest
  | _ :: _, [] => none
  | b :: start, c :: rest => if b = c then dropStart? start rest else none

def ofNat (n : Nat) : Text := Nat.toDigits 10 n

def join (separator : Text) : List Text → Text
  | [] => []
  | [t] => t
  | t :: rest => t ++ separator ++ join separator rest

def size (t : Text) : Nat := t.foldr (fun c n => c.utf8Size + n) 0

def asciiLower (t : Text) : Text := t.map Char.toLower

def sameUpToCase (a b : Text) : Bool := asciiLower a == asciiLower b

/-- Decides whether a hit starts at a position, which is given by the character before it and the
text behind it. A hit is reported with the number of characters it takes. -/
abbrev Finder (α : Type) := Option Char → Text → Option (Nat × α)

inductive Piece (α : Type)
  | gap (c : Char)
  | hit (found : α)
  deriving Repr, DecidableEq

/-- Cuts a text along its leftmost non-overlapping hits. The number counts the characters of a hit
that are still to be passed over; a hit takes at least one character. -/
def piecesFrom (find : Finder α) : Option Char → Nat → Text → List (Piece α)
  | _, _, [] => []
  | _, k + 1, c :: rest => piecesFrom find (some c) k rest
  | before, 0, c :: rest =>
    match find before (c :: rest) with
    | none => .gap c :: piecesFrom find (some c) 0 rest
    | some (n, found) => .hit found :: piecesFrom find (some c) (n - 1) rest

def pieces (find : Finder α) (t : Text) : List (Piece α) := piecesFrom find none 0 t

def hits (find : Finder α) (t : Text) : List α :=
  (pieces find t).filterMap fun
    | .gap _ => none
    | .hit found => some found

def replaceHits (find : Finder α) (render : α → Text) (t : Text) : Text :=
  (pieces find t).flatMap fun
    | .gap c => [c]
    | .hit found => render found

def literally (needle : Text) : Finder Unit := fun _ rest =>
  if needle.isPrefixOf rest then some (needle.length, ()) else none

def replaceAll (needle replacement t : Text) : Text :=
  replaceHits (literally needle) (fun _ => replacement) t

def anyPosition (test : Option Char → Text → Bool) : Option Char → Text → Bool
  | before, [] => test before []
  | before, c :: rest => test before (c :: rest) || anyPosition test (some c) rest

def cmp : Text → Text → Ordering := List.compareLex compare

def insertSorted (t : Text) : List Text → List Text
  | [] => [t]
  | u :: us =>
    match cmp t u with
    | .lt => t :: u :: us
    | .eq => u :: us
    | .gt => u :: insertSorted t us

def sortDistinct (ts : List Text) : List Text := ts.foldl (fun acc t => insertSorted t acc) []

def toNat (digits : Text) : Nat := digits.foldl (fun n c => n * 10 + (c.toNat - '0'.toNat)) 0

def overflowBound : Nat := Nat.pow 2 1024 - Nat.pow 2 970

def decimalParts (spelling : Text) : Nat × Int :=
  let unsigned := spelling.dropWhile (· == '-')
  let mantissa := unsigned.takeWhile fun c => c != 'e' && c != 'E'
  let fraction := (mantissa.dropWhile (· != '.')).drop 1
  let exponent := (unsigned.drop mantissa.length).drop 1
  let size : Int := toNat (exponent.filter Char.isDigit)
  (toNat (mantissa.filter Char.isDigit),
    (if exponent.head? = some '-' then -size else size) - fraction.length)

def overflows (spelling : Text) : Bool :=
  let (digits, power) := decimalParts spelling
  let size : Int := (Nat.toDigits 10 digits).length + power
  if digits = 0 || size ≤ 308 then false
  else if 310 ≤ size then true
  else overflowBound * Nat.pow 10 (-power).toNat ≤ digits * Nat.pow 10 power.toNat

end Text

def hexDigit? (c : Char) : Option Nat :=
  if c.isDigit then some (c.toNat - '0'.toNat)
  else if 'a' ≤ c && c ≤ 'f' then some (c.toNat - 'a'.toNat + 10)
  else if 'A' ≤ c && c ≤ 'F' then some (c.toNat - 'A'.toNat + 10)
  else none

def ofHex? (digits : Text) : Option Nat :=
  digits.foldlM (fun n c => (hexDigit? c).map fun d => n * 16 + d) 0

def charOfCode? (code : Nat) : Option Char :=
  if code.isValidChar then some (Char.ofNat code) else none

def Text.ofHex (width n : Nat) : Text :=
  let digits := Nat.toDigits 16 n
  List.replicate (width - digits.length) '0' ++ digits

end Refit
