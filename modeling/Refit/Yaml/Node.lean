import Refit.Json
import Refit.Yaml.Plain
import Refit.Yaml.Token

namespace Refit.Yaml

inductive Node
  | scalar (t : Text) (plain : Bool)
  | sequence (items : List Node)
  | mapping (fields : List (Node × Node))
  deriving Repr, Inhabited

namespace Node

def empty : Node := scalar [] true

/-- Where a node stands: inside brackets, by itself or in a block of items, or in a block of fields,
where the items of a sequence need not be indented. -/
inductive Place
  | flow
  | item
  | field
  deriving Repr, DecidableEq

def nextIn (stops : List Token) (ts : List Token) : Bool := ts.head?.any stops.contains

def fieldStops : List Token := [.key, .value, .blockEnd]

def furtherPart (close : Token) (isFirst : Bool) (ts : List Token) :
    Except Malformed (Option (List Token) × List Token) :=
  if nextIn [close] ts then .ok (none, ts.drop 1)
  else if isFirst then .ok (some ts, [])
  else if nextIn [.comma] ts then
    if nextIn [close] (ts.drop 1) then .ok (none, ts.drop 2) else .ok (some (ts.drop 1), [])
  else .error .badStructure

mutual

def read : Nat → Place → List Token → Except Malformed (Node × List Token)
  | 0, _, _ => .error .badStructure
  | steps + 1, place, ts =>
    match ts with
    | .scalar t plain :: rest => .ok (scalar t plain, rest)
    | .flowSeqStart :: rest => do
      let (items, rest) ← readFlowItems steps true rest
      return (sequence items, rest)
    | .flowMapStart :: rest => do
      let (fields, rest) ← readFlowFields steps true rest
      return (mapping fields, rest)
    | .seqStart :: rest =>
      if place = .flow then .error .badStructure
      else do
        let (items, rest) ← readItems steps rest
        return (sequence items, rest)
    | .mapStart :: rest =>
      if place = .flow then .error .badStructure
      else do
        let (fields, rest) ← readFields steps rest
        return (mapping fields, rest)
    | .entry :: rest =>
      if place = .field then do
        let (items, rest) ← readLooseItems steps (.entry :: rest)
        return (sequence items, rest)
      else .error .badStructure
    | _ => .error .badStructure

def readUnless : Nat → Place → List Token → List Token → Except Malformed (Node × List Token)
  | 0, _, _, _ => .error .badStructure
  | steps + 1, place, stops, ts =>
    if nextIn stops ts then .ok (empty, ts) else read steps place ts

def readValue : Nat → Place → List Token → List Token → Except Malformed (Node × List Token)
  | 0, _, _, _ => .error .badStructure
  | steps + 1, place, stops, ts =>
    match ts with
    | .value :: rest => readUnless steps place stops rest
    | ts => .ok (empty, ts)

def readItems : Nat → List Token → Except Malformed (List Node × List Token)
  | 0, _ => .error .badStructure
  | steps + 1, ts =>
    match ts with
    | .entry :: rest => do
      let (node, rest) ← readUnless steps .item [.entry, .blockEnd] rest
      let (nodes, rest) ← readItems steps rest
      return (node :: nodes, rest)
    | .blockEnd :: rest => .ok ([], rest)
    | _ => .error .badStructure

/-- Reads items that are not indented; whatever is no item ends them. -/
def readLooseItems : Nat → List Token → Except Malformed (List Node × List Token)
  | 0, _ => .error .badStructure
  | steps + 1, ts =>
    match ts with
    | .entry :: rest => do
      let (node, rest) ← readUnless steps .item (.entry :: fieldStops) rest
      let (nodes, rest) ← readLooseItems steps rest
      return (node :: nodes, rest)
    | ts => .ok ([], ts)

def readFields : Nat → List Token → Except Malformed (List (Node × Node) × List Token)
  | 0, _ => .error .badStructure
  | steps + 1, ts =>
    match ts with
    | .key :: rest => do
      let (key, rest) ← readUnless steps .field fieldStops rest
      let (value, rest) ← readValue steps .field fieldStops rest
      let (fields, rest) ← readFields steps rest
      return ((key, value) :: fields, rest)
    | .blockEnd :: rest => .ok ([], rest)
    | _ => .error .badStructure

def readFlowItems : Nat → Bool → List Token → Except Malformed (List Node × List Token)
  | 0, _, _ => .error .badStructure
  | steps + 1, isFirst, ts => do
    match ← furtherPart .flowSeqEnd isFirst ts with
    | (none, rest) => return ([], rest)
    | (some ts, _) =>
      let (node, rest) ← readFlowItem steps ts
      let (nodes, rest) ← readFlowItems steps false rest
      return (node :: nodes, rest)

/-- Reads an item in brackets. The token behind an empty key is lost. -/
def readFlowItem : Nat → List Token → Except Malformed (Node × List Token)
  | 0, _ => .error .badStructure
  | steps + 1, ts =>
    match ts with
    | .key :: rest => do
      let (key, rest) ←
        if nextIn [.value, .comma, .flowSeqEnd] rest then .ok (empty, rest.drop 1)
        else read steps .flow rest
      let (value, rest) ← readValue steps .flow [.comma, .flowSeqEnd] rest
      return (mapping [(key, value)], rest)
    | ts => read steps .flow ts

def readFlowFields : Nat → Bool → List Token → Except Malformed (List (Node × Node) × List Token)
  | 0, _, _ => .error .badStructure
  | steps + 1, isFirst, ts => do
    match ← furtherPart .flowMapEnd isFirst ts with
    | (none, rest) => return ([], rest)
    | (some (.key :: ts), _) =>
      let (key, rest) ← readUnless steps .flow [.value, .comma, .flowMapEnd] ts
      let (value, rest) ← readValue steps .flow [.comma, .flowMapEnd] rest
      let (fields, rest) ← readFlowFields steps false rest
      return ((key, value) :: fields, rest)
    | (some ts, _) =>
      let (key, rest) ← read steps .flow ts
      let (fields, rest) ← readFlowFields steps false rest
      return ((key, empty) :: fields, rest)

end

def isVersion : Token → Bool
  | .version .. => true
  | _ => false

def openDocument : List Token → Except Malformed (Bool × List Token)
  | [] => .error .noDocument
  | .version major minor :: rest =>
    if major != 1 || (minor != 1 && minor != 2) then .error .badVersion
    else if nextIn [.docStart] rest then .ok (true, rest.drop 1)
    else .error .badStructure
  | .docStart :: rest => .ok (true, rest)
  | ts => .ok (false, ts)

def ofTokens (ts : List Token) : Except Malformed Node := do
  let (marked, ts) ← openDocument ts
  let (node, rest) ←
    if marked && (ts.isEmpty || ts.head?.any isVersion || nextIn [.docStart, .docEnd] ts) then
      .ok (empty, ts)
    else read (4 * ts.length + 4) .item ts
  if (rest.dropWhile (· == .docEnd)).isEmpty then return node
  else throw .severalDocuments

def ofText (t : Text) : Except Malformed Node := do ofTokens (← Token.ofText t)

def plainDatum? (t : Text) : Option Datum :=
  match Plain.ofText t with
  | .null => some .null
  | .bool b => some (.bool b)
  | .whole n =>
    if 0 ≤ n && n < Nat.pow 2 64 then some (.number (some n.toNat))
    else if -(Nat.pow 2 63 : Int) ≤ n && n < 0 then some (.number none)
    else none
  | .decimal => some (.number none)
  | .text => some (.text t)

mutual

def datum? : Node → Option Datum
  | scalar t plain => if plain then plainDatum? t else some (.text t)
  | sequence items => do return .list (← dataOf? items)
  | mapping fields => do return .record (← fieldsOf? fields)

def dataOf? : List Node → Option (List Datum)
  | [] => some []
  | item :: items => do return (← datum? item) :: (← dataOf? items)

def fieldsOf? : List (Node × Node) → Option (List (Datum × Datum))
  | [] => some []
  | (key, value) :: fields => do
    return (← datum? key, ← datum? value) :: (← fieldsOf? fields)

end

mutual

def depth : Node → Nat
  | scalar .. => 0
  | sequence items => 1 + depthOfItems items
  | mapping fields => 1 + depthOfFields fields

def depthOfItems : List Node → Nat
  | [] => 0
  | item :: items => max (depth item) (depthOfItems items)

def depthOfFields : List (Node × Node) → Nat
  | [] => 0
  | (key, value) :: fields => max (max (depth key) (depth value)) (depthOfFields fields)

end

end Node

end Refit.Yaml
