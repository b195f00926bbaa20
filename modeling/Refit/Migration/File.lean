import Refit.Json
import Refit.Json.Reader
import Refit.Migration.Config
import Refit.Rule.Spec
import Refit.Tree.Lookup
import Refit.Yaml.Node
import Refit.Yaml.Printer

namespace Refit.Config

/-- How deep lists and records may be nested around and in a rule. -/
def maxJsonDepth : Nat := 127

def ruleDepth : Nat := 2

def ruleOfJson? (j : Json) : Option RuleSpec :=
  if maxJsonDepth < ruleDepth + j.depth then none else j.datum?.bind RuleSpec.ofDatum?

def jsonReader : FieldReader Json where
  text?
    | .text t => some t
    | _ => none
  texts?
    | .list items => items.mapM fun
      | .text t => some t
      | _ => none
    | _ => none
  rules?
    | .list items => items.mapM ruleOfJson?
    | _ => none

def ofJsonValue? : Json → Option Config
  | .record fields => do
    let fields ← fields.mapM fun (key, value) => key.map fun key => (key, value)
    ofFields? jsonReader fields
  | .list items =>
    if items.length = fieldNames.length then
      ofFields? jsonReader ((fieldNames.map String.toList).zip items)
    else none
  | _ => none

def ofJson (t : Text) : Except Failure Config :=
  match (Json.parse? t).bind ofJsonValue? with
  | some c => .ok c
  | none => .error (.invalid (.badJson "no configuration".toList))

def ruleJson (s : RuleSpec) : Json :=
  .record (s.entries.map fun (key, t) => (some key.toList, .text t))

def json (c : Config) : Json :=
  let texts (ts : List Text) : Json := .list (ts.map .text)
  .record
    ((fieldNames.map fun f => some f.toList).zip
      [.text c.name, .text c.description, .text c.language, texts c.extensions, texts c.excluded,
       .list (c.rules.map ruleJson)])

def toJson (c : Config) : Text := c.json.print 0

def maxYamlDepth : Nat := 128

def textOfYaml? : Yaml.Node → Option Text
  | .scalar t _ => some t
  | _ => none

def itemsOfYaml? : Yaml.Node → Option (List Yaml.Node)
  | .sequence items => some items
  | .scalar [] true => some []
  | _ => none

def ruleOfYaml? (n : Yaml.Node) : Option RuleSpec :=
  if maxYamlDepth < 2 + n.depth then none else n.datum?.bind RuleSpec.ofDatum?

def yamlReader : FieldReader Yaml.Node where
  text? := textOfYaml?
  texts? n := (itemsOfYaml? n).bind fun items => items.mapM textOfYaml?
  rules? n := (itemsOfYaml? n).bind fun items => items.mapM ruleOfYaml?

def ofYamlValue? : Yaml.Node → Option Config
  | .mapping fields => do
    let fields ← fields.mapM fun (key, value) => (textOfYaml? key).map fun key => (key, value)
    ofFields? yamlReader fields
  | _ => none

def ofYaml (t : Text) : Except Failure Config :=
  match Yaml.Node.ofText t with
  | .error e => .error (.invalid (.badYaml e.message))
  | .ok n =>
    match ofYamlValue? n with
    | some c => .ok c
    | none => .error (.invalid (.badYaml "no configuration".toList))

def ruleYaml (s : RuleSpec) : Yaml.Layout :=
  .record (s.entries.map fun (key, t) => (key.toList, .scalar t))

def toYaml (c : Config) : Text :=
  let texts (ts : List Text) : Yaml.Layout := .list (ts.map .scalar)
  Yaml.Layout.print
    ((fieldNames.map String.toList).zip
      [.scalar c.name, .scalar c.description, .scalar c.language, texts c.extensions,
       texts c.excluded, .list (c.rules.map ruleYaml)])

inductive Format
  | json
  | yaml
  deriving Repr, DecidableEq

namespace Format

def extensions : Format → List String
  | json => ["json"]
  | yaml => ["yaml", "yml"]

def ofPath? (p : Path) : Option Format :=
  [json, yaml].find? fun f => f.extensions.any fun e => p.extension? == some e.toList

def read : Format → Text → Except Failure Config
  | json => ofJson
  | yaml => ofYaml

def write : Format → Config → Text
  | json => toJson
  | yaml => toYaml

end Format

def load (tree : Tree) (p : Path) : Except Failure Config :=
  match Format.ofPath? p with
  | none => .error (.invalid (.unknownFileType p))
  | some f =>
    match tree.readText p with
    | .error e => .error (.unreadable p e)
    | .ok t => f.read t

def save (c : Config) (f : Format) (tree : Tree) (p : Path) : Except Failure Tree :=
  (tree.writeText p (f.write c)).mapError .io

def loadMigration (tree : Tree) (p : Path) : Except Failure Migration := load tree p >>= toMigration

end Refit.Config
