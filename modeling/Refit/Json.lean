import Refit.Text.Basic

namespace Refit

/-- A value of a data format. Of the numbers only those are told apart that may number a field. -/
inductive Datum
  | null
  | bool (b : Bool)
  | number (index : Option Nat)
  | text (t : Text)
  | list (items : List Datum)
  | record (fields : List (Datum × Datum))
  deriving Repr, Inhabited

inductive Json
  | null
  | bool (b : Bool)
  | number (spelling : Text)
  | text (t : Text)
  | broken
  | list (items : List Json)
  | record (fields : List (Option Text × Json))
  deriving Repr, Inhabited

namespace Json

def index? (spelling : Text) : Option Nat :=
  let n := Text.toNat spelling
  if spelling.all Char.isDigit && n < Nat.pow 2 64 then some n else none

mutual

def datum? : Json → Option Datum
  | null => some .null
  | bool b => some (.bool b)
  | number spelling => if Text.overflows spelling then none else some (.number (index? spelling))
  | text t => some (.text t)
  | broken => none
  | list items => do return .list (← dataOf? items)
  | record fields => do return .record (← fieldsOf? fields)

def dataOf? : List Json → Option (List Datum)
  | [] => some []
  | item :: items => do return (← datum? item) :: (← dataOf? items)

def fieldsOf? : List (Option Text × Json) → Option (List (Datum × Datum))
  | [] => some []
  | (key, value) :: fields => do
    let key ← key
    return (.text key, ← datum? value) :: (← fieldsOf? fields)

end

mutual

def depth : Json → Nat
  | list items => 1 + depthOfItems items
  | record fields => 1 + depthOfFields fields
  | _ => 0

def depthOfItems : List Json → Nat
  | [] => 0
  | item :: items => max (depth item) (depthOfItems items)

def depthOfFields : List (Option Text × Json) → Nat
  | [] => 0
  | (_, value) :: fields => max (depth value) (depthOfFields fields)

end

def escape (c : Char) : Text :=
  match c with
  | '"' => ['\\', '"']
  | '\\' => ['\\', '\\']
  | '\x08' => ['\\', 'b']
  | '\x0C' => ['\\', 'f']
  | '\n' => ['\\', 'n']
  | '\r' => ['\\', 'r']
  | '\t' => ['\\', 't']
  | c => if c.toNat < 0x20 then ['\\', 'u'] ++ Text.ofHex 4 c.toNat else [c]

def quote (t : Text) : Text := '"' :: t.flatMap escape ++ ['"']

def indentation (level : Nat) : Text := '\n' :: List.replicate (2 * level) ' '

mutual

def print (level : Nat) : Json → Text
  | null => "null".toList
  | bool true => "true".toList
  | bool false => "false".toList
  | number spelling => spelling
  | text t => quote t
  | broken => quote []
  | list [] => "[]".toList
  | list (item :: items) =>
    '[' :: indentation (level + 1) ++ print (level + 1) item ++ printItems (level + 1) items ++
      indentation level ++ [']']
  | record [] => "\x7b\x7d".toList
  | record ((key, value) :: fields) =>
    '\x7b' :: indentation (level + 1) ++ quote (key.getD []) ++ [':', ' '] ++
      print (level + 1) value ++ printFields (level + 1) fields ++ indentation level ++ ['\x7d']

def printItems (level : Nat) : List Json → Text
  | [] => []
  | item :: items => ',' :: indentation level ++ print level item ++ printItems level items

def printFields (level : Nat) : List (Option Text × Json) → Text
  | [] => []
  | (key, value) :: fields =>
    ',' :: indentation level ++ quote (key.getD []) ++ [':', ' '] ++ print level value ++
      printFields level fields

end

end Json

end Refit
