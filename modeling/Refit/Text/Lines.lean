import Refit.Text.Basic

namespace Refit

def isBlank (c : Char) : Bool :=
  let n := c.toNat
  (0x09 ≤ n && n ≤ 0x0D) || n == 0x20 || n == 0x85 || n == 0xA0 || n == 0x1680 ||
    (0x2000 ≤ n && n ≤ 0x200A) || n == 0x2028 || n == 0x2029 || n == 0x202F || n == 0x205F ||
    n == 0x3000

namespace Text

def trimStart (t : Text) : Text := t.dropWhile isBlank

def trimEnd (t : Text) : Text := (t.reverse.dropWhile isBlank).reverse

def trim (t : Text) : Text := trimEnd (trimStart t)

def leadingBlanks (t : Text) : Text := t.takeWhile isBlank

def trailingBlanks (t : Text) : Text := (t.reverse.takeWhile isBlank).reverse

end Text

inductive LineEnd
  | lf
  | crlf
  deriving Repr, DecidableEq

def LineEnd.text : LineEnd → Text
  | .lf => ['\n']
  | .crlf => ['\r', '\n']

namespace Text

def splitLines : Text → List Text
  | [] => []
  | c :: rest =>
    if c = '\n' then [c] :: splitLines rest
    else match splitLines rest with
      | [] => [[c]]
      | line :: lines => (c :: line) :: lines

@[simp] theorem flatten_splitLines (t : Text) : (splitLines t).flatten = t := by
  induction t with
  | nil => rfl
  | cons c rest ih =>
    rw [splitLines]
    split
    · simp [ih]
    · split <;> simp_all

def lineEnd? (line : Text) : Option LineEnd :=
  match line.reverse with
  | '\n' :: '\r' :: _ => some .crlf
  | '\n' :: _ => some .lf
  | _ => none

def countCrlf : Text → Nat
  | [] => 0
  | c :: rest => countCrlf rest + if c = '\r' && rest.head? == some '\n' then 1 else 0

/-- The terminator of at least half of the lines; a tie goes to the longer one, and a text without
line feeds counts as ending its lines by a line feed. -/
def dominantLineEnd (t : Text) : LineEnd :=
  let crlf := countCrlf t
  if 0 < crlf && t.count '\n' ≤ crlf * 2 then .crlf else .lf

end Text

end Refit
