import Refit.Migration.Config
import Refit.Migration.File
import Refit.Proofs.Json.RoundTrip
import Refit.Proofs.Results
import Refit.Proofs.Rule.Record
import Refit.Proofs.Tree.Saving
import Refit.Proofs.Yaml.Node

namespace Refit

namespace Config

variable {φ : Type} {r : FieldReader φ} {c : Config}
  {name description language extensions excluded rules : φ}

theorem ofFields?_zip (hname : r.text? name = some c.name)
    (hdescription : r.text? description = some c.description)
    (hlanguage : r.text? language = some c.language)
    (hextensions : r.texts? extensions = some c.extensions)
    (hexcluded : r.texts? excluded = some c.excluded) (hrules : r.rules? rules = some c.rules) :
    ofFields? r ((fieldNames.map String.toList).zip
      [name, description, language, extensions, excluded, rules]) = some c := by
  have hknown : ((((fieldNames.map String.toList).zip
      [name, description, language, extensions, excluded, rules]).map Prod.fst).filter
        isField) = fieldNames.map String.toList := by
    simp only [fieldNames, List.map, List.zip, List.zipWith]
    decide +kernel
  have hdistinct : ¬ (fieldNames.map String.toList).eraseDups.length <
      (fieldNames.map String.toList).length := by
    decide +kernel
  simp only [ofFields?, hknown, if_neg hdistinct]
  simp [fieldOr, field?, fieldNames, List.lookup_cons, hname, hdescription, hlanguage, hextensions,
    hexcluded, hrules]

end Config

namespace Json

theorem fieldsOf?_texts (entries : List (String × Text)) :
    fieldsOf? (entries.map fun (key, t) => (some key.toList, .text t)) =
      some (entries.map RuleSpec.datumOf) := by
  induction entries with
  | nil => rfl
  | cons entry entries ih =>
    rw [List.map_cons, fieldsOf?, ih]
    rfl

theorem depthOfFields_texts (entries : List (String × Text)) :
    depthOfFields (entries.map fun (key, t) => (some key.toList, .text t)) = 0 := by
  induction entries with
  | nil => rfl
  | cons entry entries ih => simpa [depthOfFields, depth] using ih

end Json

namespace Config

theorem ruleOfJson?_ruleJson (s : RuleSpec) : ruleOfJson? (ruleJson s) = some s := by
  have hdepth : (ruleJson s).depth = 1 := by
    rw [ruleJson, Json.depth, Json.depthOfFields_texts]
  have hdatum : (ruleJson s).datum? = some (.record (s.entries.map RuleSpec.datumOf)) := by
    rw [ruleJson, Json.datum?, Json.fieldsOf?_texts]
    rfl
  rw [ruleOfJson?, hdepth, if_neg (by decide), hdatum, Option.bind_some, RuleSpec.ofDatum?_entries]

theorem textual_texts (ts : List Text) : (Json.list (ts.map .text)).Textual := by
  refine .list fun item hitem => ?_
  obtain ⟨t, -, rfl⟩ := List.mem_map.mp hitem
  exact .text t

theorem textual_ruleJson (s : RuleSpec) : (ruleJson s).Textual := by
  refine .record ?_ ?_ <;> intro f hf <;> obtain ⟨entry, -, rfl⟩ := List.mem_map.mp hf
  · rfl
  · exact .text entry.2

theorem textual_rules (rules : List RuleSpec) : (Json.list (rules.map ruleJson)).Textual := by
  refine .list fun item hitem => ?_
  obtain ⟨s, -, rfl⟩ := List.mem_map.mp hitem
  exact textual_ruleJson s

theorem textual_json (c : Config) : c.json.Textual := by
  refine .record ?_ ?_ <;> intro f hf
  · obtain ⟨name, -, hname⟩ := List.mem_map.mp (List.of_mem_zip hf).1
    exact hname ▸ rfl
  · have hvalue := (List.of_mem_zip hf).2
    simp only [List.mem_cons, List.not_mem_nil, or_false] at hvalue
    rcases hvalue with h | h | h | h | h | h <;> rw [h]
    · exact .text c.name
    · exact .text c.description
    · exact .text c.language
    · exact textual_texts c.extensions
    · exact textual_texts c.excluded
    · exact textual_rules c.rules

theorem ofJsonValue?_json (c : Config) : ofJsonValue? c.json = some c := by
  have htext (t : Text) : jsonReader.text? (.text t) = some t := rfl
  have htexts (ts : List Text) : jsonReader.texts? (.list (ts.map .text)) = some ts :=
    mapM_map_eq_some fun _ _ => rfl
  have hrules : jsonReader.rules? (.list (c.rules.map ruleJson)) = some c.rules :=
    mapM_map_eq_some fun s _ => ruleOfJson?_ruleJson s
  exact ofFields?_zip (htext c.name) (htext c.description) (htext c.language)
    (htexts c.extensions) (htexts c.excluded) hrules

theorem ofJson_toJson (c : Config) : ofJson c.toJson = .ok c := by
  rw [ofJson, toJson, Json.parse?_print (textual_json c), Option.bind_some, ofJsonValue?_json]

end Config

namespace Yaml

open Layout

theorem datum?_scalar (t : Text) : (scalar t).node.datum? = some (.text t) := by
  rw [node, Node.datum?]
  by_cases h : Style.ofText t = .plain
  · rw [if_pos (by simp [h]), Node.plainDatum?, ofText_of_style h]
  · rw [if_neg (by simp [h])]

theorem fieldsOf?_scalars {entries : List (String × Text)}
    (h : ∀ entry ∈ entries, Plain.ofText entry.1.toList = .text) :
    Node.fieldsOf? (nodesOfFields (entries.map fun (key, t) => (key.toList, .scalar t))) =
      some (entries.map RuleSpec.datumOf) := by
  induction entries with
  | nil => rfl
  | cons entry entries ih =>
    obtain ⟨hkey, hkeys⟩ := List.forall_mem_cons.mp h
    rw [List.map_cons, nodesOfFields, Node.fieldsOf?, ih hkeys, datum?_scalar, Node.datum?,
      if_pos rfl, Node.plainDatum?, hkey]
    rfl

theorem depthOfFields_scalars (entries : List (String × Text)) :
    Node.depthOfFields
      (nodesOfFields (entries.map fun (key, t) => (key.toList, .scalar t))) = 0 := by
  induction entries with
  | nil => rfl
  | cons entry entries ih => simpa [nodesOfFields, node, Node.depthOfFields, Node.depth] using ih

end Yaml

namespace Config

open Yaml.Layout

theorem isKey_entry (s : RuleSpec) : ∀ entry ∈ s.entries,
    IsKey entry.1.toList ∧ Yaml.Plain.ofText entry.1.toList = .text := by
  have hnames : ∀ f ∈ "type" :: s.kind.fields,
      IsKey f.toList ∧ Yaml.Plain.ofText f.toList = .text := by
    cases s.kind <;> decide +kernel
  intro entry hentry
  rcases List.mem_cons.mp hentry with rfl | hfield
  · exact hnames "type" List.mem_cons_self
  · exact hnames entry.1 (List.mem_cons_of_mem "type" (List.of_mem_zip hfield).1)

theorem isKey_fieldName : ∀ key ∈ fieldNames.map String.toList, IsKey key := by
  decide +kernel

theorem keyed_texts (ts : List Text) : (Yaml.Layout.list (ts.map .scalar)).Keyed := by
  refine .list fun item hitem => ?_
  obtain ⟨t, -, rfl⟩ := List.mem_map.mp hitem
  exact .scalar t

theorem keyed_ruleYaml (s : RuleSpec) : (ruleYaml s).Keyed := by
  refine .record ?_ ?_ <;> intro f hf <;> obtain ⟨entry, hentry, rfl⟩ := List.mem_map.mp hf
  · exact (isKey_entry s entry hentry).1
  · exact .scalar entry.2

theorem keyed_rules (rules : List RuleSpec) : (Yaml.Layout.list (rules.map ruleYaml)).Keyed := by
  refine .list fun item hitem => ?_
  obtain ⟨s, -, rfl⟩ := List.mem_map.mp hitem
  exact keyed_ruleYaml s

def yamlValues (c : Config) : List Yaml.Layout :=
  [.scalar c.name, .scalar c.description, .scalar c.language, .list (c.extensions.map .scalar),
   .list (c.excluded.map .scalar), .list (c.rules.map ruleYaml)]

theorem keyed_values (c : Config) : ∀ v ∈ c.yamlValues, v.Keyed := by
  intro v hv
  simp only [yamlValues, List.mem_cons, List.not_mem_nil, or_false] at hv
  rcases hv with h | h | h | h | h | h <;> rw [h]
  · exact .scalar c.name
  · exact .scalar c.description
  · exact .scalar c.language
  · exact keyed_texts c.extensions
  · exact keyed_texts c.excluded
  · exact keyed_rules c.rules

theorem ruleOfYaml?_ruleYaml (s : RuleSpec) : ruleOfYaml? (ruleYaml s).node = some s := by
  have hdepth : (ruleYaml s).node.depth = 1 := by
    rw [ruleYaml, node, Yaml.Node.depth, Yaml.depthOfFields_scalars]
  have hdatum : (ruleYaml s).node.datum? = some (.record (s.entries.map RuleSpec.datumOf)) := by
    rw [ruleYaml, node, Yaml.Node.datum?,
      Yaml.fieldsOf?_scalars fun entry hentry => (isKey_entry s entry hentry).2]
    rfl
  rw [ruleOfYaml?, hdepth, if_neg (by decide), hdatum, Option.bind_some, RuleSpec.ofDatum?_entries]

theorem ofYamlValue?_record (fields : List (Text × Yaml.Layout)) :
    ofYamlValue? (record fields).node =
      ofFields? yamlReader (fields.map fun f => (f.1, f.2.node)) := by
  have hkeys : ((fields.map fun f => (f.1, f.2.node)).map fun f => (.scalar f.1 true, f.2)).mapM
      (fun f => (textOfYaml? f.1).map fun key => (key, f.2)) =
        some (fields.map fun f => (f.1, f.2.node)) :=
    mapM_map_eq_some fun _ _ => rfl
  rw [List.map_map] at hkeys
  rw [node, nodesOfFields_eq]
  exact congrArg (·.bind (ofFields? yamlReader)) hkeys

theorem ofYamlValue?_node (c : Config) : ofYamlValue?
    (record ((fieldNames.map String.toList).zip c.yamlValues)).node = some c := by
  have htext (t : Text) : yamlReader.text? (scalar t).node = some t := rfl
  have htexts (ts : List Text) : yamlReader.texts? (list (ts.map .scalar)).node = some ts := by
    rw [node, nodesOfItems_eq, List.map_map]
    exact mapM_map_eq_some fun _ _ => rfl
  have hrules : yamlReader.rules? (list (c.rules.map ruleYaml)).node = some c.rules := by
    rw [node, nodesOfItems_eq, List.map_map]
    exact mapM_map_eq_some fun s _ => ruleOfYaml?_ruleYaml s
  rw [ofYamlValue?_record]
  exact ofFields?_zip (htext c.name) (htext c.description) (htext c.language)
    (htexts c.extensions) (htexts c.excluded) hrules

theorem ofYaml_toYaml (c : Config) : ofYaml c.toYaml = .ok c := by
  have hkeyed : (record ((fieldNames.map String.toList).zip c.yamlValues)).Keyed := by
    refine .record ?_ ?_ <;> intro f hf
    · exact isKey_fieldName f.1 (List.of_mem_zip hf).1
    · exact keyed_values c f.2 (List.of_mem_zip hf).2
  have hread := node_print (by simp [fieldNames, yamlValues]) hkeyed
  have hprint : c.toYaml = print ((fieldNames.map String.toList).zip c.yamlValues) := rfl
  rw [ofYaml, hprint, hread]
  simp only [ofYamlValue?_node]

variable {c : Config} {f : Format} {tree after : Tree} {p : Path}

theorem load_of_save (hread : f.read (f.write c) = .ok c) (hp : Format.ofPath? p = some f)
    (h : c.save f tree p = .ok after) : load after p = .ok c := by
  have hsaved := Tree.readText_of_writeText (eq_ok_of_mapError_eq_ok h)
  simp only [load, hp, hsaved, hread]

theorem save_name {n : Text} (hn : n.IsName) (h : tree.top.at? (tree.here ++ [n]) = none) :
    c.save f tree ⟨n⟩ = .ok (tree.put (.file (.text (f.write c))) (tree.here ++ [n])) := by
  rw [save, Tree.writeText_name hn h]
  rfl

def sample : Config where
  name := "say \"ja\\nein\"\n\t\x00 ".toList
  description := []
  language := "jäva\u2028😀".toList
  extensions := [[], " ".toList, "'".toList]
  excluded := []
  rules :=
    [.replaceLiteral "null".toList "1e3".toList,
     .ensureImport "A".toList "import A;\n".toList none,
     .ensureImport "~".toList "- a: b # c".toList (some [])]

/-- A configuration in JSON is read back as it was: from its text and, behind the extension that
tells the format, from its file. -/
theorem load_of_saved_json (c : Config) : ofJson c.toJson = .ok c ∧
    ∀ tree p after, p.extension? = some "json".toList → c.save .json tree p = .ok after →
      load after p = .ok c := by
  refine ⟨ofJson_toJson c, fun tree p after hp h => ?_⟩
  have hformat : Format.ofPath? p = some .json := by
    simp [Format.ofPath?, Format.extensions, hp]
  exact load_of_save (f := .json) (ofJson_toJson c) hformat h

theorem load_of_saved_json_sample :
    let after := Tree.put {} (.file (.text sample.toJson)) ["m.json".toList]
    Path.extension? ⟨"m.json".toList⟩ = some "json".toList ∧
      sample.save .json {} ⟨"m.json".toList⟩ = .ok after ∧
        load after ⟨"m.json".toList⟩ = .ok sample := by
  have hp : Path.extension? ⟨"m.json".toList⟩ = some "json".toList := by decide +kernel
  have hsave : sample.save .json {} ⟨"m.json".toList⟩ =
      .ok (Tree.put {} (.file (.text sample.toJson)) ["m.json".toList]) :=
    save_name (by decide) rfl
  exact ⟨hp, hsave, (load_of_saved_json sample).2 {} _ _ hp hsave⟩

/-- A configuration in YAML is read back as it was: from its text and, behind an extension that
tells the format, from its file. -/
theorem load_of_saved_yaml (c : Config) : ofYaml c.toYaml = .ok c ∧
    ∀ tree p after, p.extension? = some "yaml".toList ∨ p.extension? = some "yml".toList →
      c.save .yaml tree p = .ok after → load after p = .ok c := by
  refine ⟨ofYaml_toYaml c, fun tree p after hp h => ?_⟩
  have hformat : Format.ofPath? p = some .yaml := by
    rcases hp with hp | hp <;> simp [Format.ofPath?, Format.extensions, hp]
  exact load_of_save (f := .yaml) (ofYaml_toYaml c) hformat h

theorem load_of_saved_yaml_sample :
    let after := Tree.put {} (.file (.text sample.toYaml)) ["m.yml".toList]
    Path.extension? ⟨"m.yml".toList⟩ = some "yml".toList ∧
      sample.save .yaml {} ⟨"m.yml".toList⟩ = .ok after ∧
        load after ⟨"m.yml".toList⟩ = .ok sample := by
  have hp : Path.extension? ⟨"m.yml".toList⟩ = some "yml".toList := by decide +kernel
  have hsave : sample.save .yaml {} ⟨"m.yml".toList⟩ =
      .ok (Tree.put {} (.file (.text sample.toYaml)) ["m.yml".toList]) :=
    save_name (by decide) rfl
  exact ⟨hp, hsave, (load_of_saved_yaml sample).2 {} _ _ (.inr hp) hsave⟩

end Config

end Refit
