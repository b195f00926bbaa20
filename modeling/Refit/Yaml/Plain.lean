import Refit.Text.Basic

namespace Refit.Yaml

inductive Plain
  | null
  | bool (b : Bool)
  | whole (n : Int)
  | decimal
  | text
  deriving Repr, DecidableEq

namespace Plain

def isSigned (t : Text) : Bool := t.head? == some '+' || t.head? == some '-'

def hasLeadingZero (t : Text) : Bool :=
  let digits := if isSigned t then t.drop 1 else t
  digits.head? == some '0' && 1 < digits.length && digits.all Char.isDigit

def digits? (base : Nat) (t : Text) : Option Nat :=
  if t.isEmpty then none
  else
    t.foldlM (fun n c => do
      let d ← hexDigit? c
      if d < base then some (n * base + d) else none) 0

def based? (t : Text) : Option Nat :=
  match t with
  | '0' :: 'x' :: digits => digits? 16 digits
  | '0' :: 'o' :: digits => digits? 8 digits
  | '0' :: 'b' :: digits => digits? 2 digits
  | _ => none

def whole? (t : Text) : Option Int :=
  let digits (t : Text) : Option Nat :=
    (based? t).or (if hasLeadingZero t then none else digits? 10 t)
  match t with
  | '-' :: rest => (digits rest).map fun n => -(n : Int)
  | '+' :: rest => (digits rest).map fun n => (n : Int)
  | t => (digits t).map fun n => (n : Int)

def isDecimal (t : Text) : Bool :=
  let mantissa := t.takeWhile fun c => c != 'e' && c != 'E'
  let whole := mantissa.takeWhile (· != '.')
  let fraction := (mantissa.drop whole.length).drop 1
  let exponent := (t.drop mantissa.length).drop 1
  let power := if isSigned exponent then exponent.drop 1 else exponent
  whole.all Char.isDigit && fraction.all Char.isDigit && !(whole ++ fraction).isEmpty &&
    (mantissa.length == t.length || (power.all Char.isDigit && !power.isEmpty))

def namedNumbers : List String :=
  [".inf", ".Inf", ".INF", "+.inf", "+.Inf", "+.INF", "-.inf", "-.Inf", "-.INF", ".nan", ".NaN",
   ".NAN"]

def isNumber (t : Text) : Bool :=
  let unsigned := if isSigned t then t.drop 1 else t
  namedNumbers.any (fun n => n.toList == t) ||
    (!hasLeadingZero t && isDecimal unsigned && !Text.overflows unsigned)

/-- What a plain scalar means. Whole numbers of more than 128 bits count as floating point numbers.
-/
def ofText (t : Text) : Plain :=
  if ["", "null", "Null", "NULL", "~"].any fun s => s.toList == t then .null
  else if ["true", "True", "TRUE"].any fun s => s.toList == t then .bool true
  else if ["false", "False", "FALSE"].any fun s => s.toList == t then .bool false
  else
    match (whole? t).filter fun n => -(Nat.pow 2 127 : Int) ≤ n && n < Nat.pow 2 128 with
    | some n => .whole n
    | none => if isNumber t then .decimal else .text

end Plain

end Refit.Yaml
