import Refit.Call
import Refit.Import
import Refit.Json
import Refit.Rule

namespace Refit

inductive RuleSpec
  | replaceLiteral (needle replacement : Text)
  | replacePattern (pattern template : Text)
  | renameType (type replacement : Text)
  | retypeSignature (method type replacement : Text)
  | wrapArgument (method adapter : Text)
  | ensureImport (symbol statement : Text) (marker : Option Text)
  | removeUnusedImport (statement marker : Text)
  deriving Repr, DecidableEq

/-- The rule that a specification stands for in a language. Without a marker of its own, an import
is called for by its symbol. -/
def RuleSpec.build (language : Language) : RuleSpec → Except Failure Rule
  | replaceLiteral needle replacement => Rule.literal? needle replacement
  | replacePattern pattern template => Rule.pattern? pattern template
  | renameType type replacement => Rule.renameType? type replacement
  | retypeSignature method type replacement => Rule.retypeSignature? method type replacement
  | wrapArgument method adapter => Rule.wrapArgument? method adapter
  | ensureImport symbol statement marker =>
    Rule.ensureImport? language symbol statement (marker.getD symbol)
  | removeUnusedImport statement marker => Rule.removeUnusedImport? language statement marker

namespace RuleSpec

inductive Kind
  | replaceLiteral
  | replacePattern
  | renameType
  | retypeSignature
  | wrapArgument
  | ensureImport
  | removeUnusedImport
  deriving Repr, DecidableEq

namespace Kind

def all : List Kind :=
  [replaceLiteral, replacePattern, renameType, retypeSignature, wrapArgument, ensureImport,
   removeUnusedImport]

def name : Kind → String
  | replaceLiteral => "replace_literal"
  | replacePattern => "replace_pattern"
  | renameType => "rename_type"
  | retypeSignature => "rewrite_signature"
  | wrapArgument => "wrap_argument"
  | ensureImport => "ensure_import"
  | removeUnusedImport => "remove_unused_import"

def fields : Kind → List String
  | replaceLiteral => ["from", "to"]
  | replacePattern => ["pattern", "replacement"]
  | renameType => ["from", "to"]
  | retypeSignature => ["method", "from", "to"]
  | wrapArgument => ["method", "adapter"]
  | ensureImport => ["symbol", "statement", "marker"]
  | removeUnusedImport => ["statement", "marker"]

def ofName? (name : Text) : Option Kind := all.find? fun k => k.name.toList == name

end Kind

def kind : RuleSpec → Kind
  | replaceLiteral .. => .replaceLiteral
  | replacePattern .. => .replacePattern
  | renameType .. => .renameType
  | retypeSignature .. => .retypeSignature
  | wrapArgument .. => .wrapArgument
  | ensureImport .. => .ensureImport
  | removeUnusedImport .. => .removeUnusedImport

def texts : RuleSpec → List Text
  | replaceLiteral a b | replacePattern a b | renameType a b | wrapArgument a b
  | removeUnusedImport a b => [a, b]
  | retypeSignature a b c => [a, b, c]
  | ensureImport a b marker => [a, b] ++ marker.toList

def entries (s : RuleSpec) : List (String × Text) :=
  ("type", s.kind.name.toList) :: s.kind.fields.zip s.texts

def requiredText? : Option Datum → Option Text
  | some (.text t) => some t
  | _ => none

def optionalText? : Option Datum → Option (Option Text)
  | none | some .null => some none
  | some (.text t) => some (some t)
  | _ => none

def ofValues? (k : Kind) (values : List (Option Datum)) : Option RuleSpec :=
  match k, values with
  | .replaceLiteral, [a, b] => return replaceLiteral (← requiredText? a) (← requiredText? b)
  | .replacePattern, [a, b] => return replacePattern (← requiredText? a) (← requiredText? b)
  | .renameType, [a, b] => return renameType (← requiredText? a) (← requiredText? b)
  | .retypeSignature, [a, b, c] =>
    return retypeSignature (← requiredText? a) (← requiredText? b) (← requiredText? c)
  | .wrapArgument, [a, b] => return wrapArgument (← requiredText? a) (← requiredText? b)
  | .ensureImport, [a, b, c] =>
    return ensureImport (← requiredText? a) (← requiredText? b) (← optionalText? c)
  | .removeUnusedImport, [a, b] =>
    return removeUnusedImport (← requiredText? a) (← requiredText? b)
  | _, _ => none

/-- The field of a kind that a key names, if it names one: by its name or by its number. Keys of
other sorts are refused. -/
def fieldOf? (k : Kind) : Datum → Option (Option String)
  | .text t => some (k.fields.find? fun f => f.toList == t)
  | .number (some n) => some k.fields[n]?
  | _ => none

def namedFields? (k : Kind) : List (Datum × Datum) → Option (List (String × Datum))
  | [] => some []
  | (key, value) :: rest => do
    let named ← namedFields? k rest
    match ← fieldOf? k key with
    | none => return named
    | some f => if named.any (·.1 == f) then none else return (f, value) :: named

def isKindKey : Datum × Datum → Bool
  | (.text t, _) => t == "type".toList
  | _ => false

def ofDatum? : Datum → Option RuleSpec
  | .record fields =>
    match fields.filter isKindKey with
    | [(_, .text name)] => do
      let k ← Kind.ofName? name
      let named ← namedFields? k (fields.filter fun f => !isKindKey f)
      ofValues? k (k.fields.map fun f => named.lookup f)
    | _ => none
  | .list (.text name :: values) => do
    let k ← Kind.ofName? name
    if k.fields.length < values.length then none
    else ofValues? k ((List.range k.fields.length).map fun i => values[i]?)
  | _ => none

end RuleSpec

end Refit
