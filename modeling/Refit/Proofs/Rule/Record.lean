import Mathlib.Data.List.Nodup
import Refit.Rule.Spec

namespace Refit.RuleSpec

variable {k : Kind} {f : String} {names : List String}

namespace Kind

theorem ofName?_name (k : Kind) : ofName? k.name.toList = some k := by
  cases k <;> decide +kernel

theorem nodup_fields (k : Kind) : k.fields.Nodup := by
  cases k <;> decide

theorem ne_type (h : f ∈ k.fields) : f ≠ "type" := by
  rintro rfl
  revert h
  cases k <;> decide

end Kind

def named (entry : String × Text) : String × Datum := (entry.1, .text entry.2)

def datumOf (entry : String × Text) : Datum × Datum := (.text entry.1.toList, .text entry.2)

theorem fieldOf?_text (h : f ∈ k.fields) : fieldOf? k (.text f.toList) = some (some f) := by
  cases hfound : k.fields.find? fun g => g.toList == f.toList with
  | none => exact absurd (beq_self_eq_true f.toList) (List.find?_eq_none.mp hfound f h)
  | some g =>
    have hsame : (g.toList == f.toList) = true :=
      List.find?_some (p := fun g : String => g.toList == f.toList) hfound
    rw [fieldOf?, hfound, String.toList_inj.mp (beq_iff_eq.mp hsame)]

theorem namedFields?_zip (hnames : names.Nodup) (h : ∀ f ∈ names, f ∈ k.fields)
    (texts : List Text) :
    namedFields? k ((names.zip texts).map datumOf) = some ((names.zip texts).map named) := by
  induction names generalizing texts with
  | nil => rfl
  | cons f names ih =>
    cases texts with
    | nil => rfl
    | cons t texts =>
      obtain ⟨hf, hrest⟩ := List.nodup_cons.mp hnames
      obtain ⟨hfield, hfields⟩ := List.forall_mem_cons.mp h
      have hnew : ((names.zip texts).map named).any (·.1 == f) = false := by
        rw [List.any_eq_false]
        intro entry hentry hsame
        obtain ⟨⟨g, u⟩, hg, rfl⟩ := List.mem_map.mp hentry
        exact hf (beq_iff_eq.mp hsame ▸ (List.of_mem_zip hg).1)
      rw [List.zip_cons_cons, List.map_cons, datumOf, namedFields?, ih hrest hfields texts]
      simp [fieldOf?_text hfield, hnew, named]

theorem isKindKey_eq_false (h : f ∈ k.fields) (t : Text) : isKindKey (datumOf (f, t)) = false :=
  beq_eq_false_iff_ne.mpr fun hf => Kind.ne_type h (String.toList_inj.mp hf)

theorem ofValues?_texts (s : RuleSpec) : ofValues? s.kind (s.kind.fields.map fun f =>
    ((s.kind.fields.zip s.texts).map named).lookup f) = some s := by
  cases s with
  | ensureImport symbol statement marker =>
    cases marker <;>
      simp [kind, Kind.fields, RuleSpec.texts, named, List.lookup_cons, ofValues?, requiredText?,
        optionalText?]
  | _ =>
    simp [kind, Kind.fields, RuleSpec.texts, named, List.lookup_cons, ofValues?, requiredText?]

theorem ofDatum?_entries (s : RuleSpec) : ofDatum? (.record (s.entries.map datumOf)) = some s := by
  have hkey : isKindKey (datumOf ("type", s.kind.name.toList)) = true := beq_self_eq_true _
  have hfields : ∀ entry ∈ (s.kind.fields.zip s.texts).map datumOf, isKindKey entry = false := by
    intro entry hentry
    obtain ⟨⟨f, t⟩, hf, rfl⟩ := List.mem_map.mp hentry
    exact isKindKey_eq_false (List.of_mem_zip hf).1 t
  have hkind : (s.entries.map datumOf).filter isKindKey =
      [datumOf ("type", s.kind.name.toList)] := by
    rw [entries, List.map_cons, List.filter_cons_of_pos hkey, List.filter_eq_nil_iff.mpr]
    exact fun entry hentry => by simp [hfields entry hentry]
  have hrest : (s.entries.map datumOf).filter (fun f => !isKindKey f) =
      (s.kind.fields.zip s.texts).map datumOf := by
    rw [entries, List.map_cons, List.filter_cons_of_neg (by simp [hkey]), List.filter_eq_self.mpr]
    exact fun entry hentry => by simp [hfields entry hentry]
  have hnamed := namedFields?_zip (Kind.nodup_fields s.kind) (fun _ => id) s.texts
  simp only [ofDatum?, hkind, datumOf, Kind.ofName?_name, hrest]
  simp only [Option.bind_eq_bind, Option.bind_some]
  rw [hnamed]
  exact ofValues?_texts s

end Refit.RuleSpec
