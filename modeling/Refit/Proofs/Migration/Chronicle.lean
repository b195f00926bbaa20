import Refit.Migration
import Refit.Proofs.Pipeline.Retyping

namespace Refit.Migration

open Call (Plain Takes)
open Refit.Language (java)
open Pipeline (Replaces Settled Spares Extends Unchanged importSteps retype step)
open Rule (Retyping ensureImport removeUnusedImport retypeSignature)
open Text (HasLine)

def transform (m : Migration) (c : Text) : Except Failure Outcome :=
  m.pipeline.map fun p => p.transform c

def buffer : Token := ⟨chronicleType.toList⟩

def bufferTo (type : String) : Retyping := ⟨buffer, type.toList⟩

def retypings : List (Token × Retyping) :=
  serializers.map (fun m => (⟨m.toList⟩, bufferTo "BytesOut<?>")) ++
    deserializers.map fun m => (⟨m.toList⟩, bufferTo "BytesIn<?>")

def nodeImport (type : String) : Import :=
  ⟨java, type.toList, ("import io.sirix.node." ++ type ++ ";").toList, type.toList⟩

def chronicleImport : Import :=
  ⟨java, "Bytes".toList, "import net.openhft.chronicle.bytes.Bytes;".toList, "Bytes".toList⟩

def chronicleRun (p : Progress) : Progress :=
  importSteps (nodeImport "BytesOut") (nodeImport "BytesIn") chronicleImport
    (retype (some java) retypings p)

theorem chronicleBytes_pipeline : chronicleBytes.pipeline = .ok {
    rules := retypings.map (fun q => retypeSignature q.1 q.2) ++
      [ensureImport (nodeImport "BytesOut"), ensureImport (nodeImport "BytesIn"),
       removeUnusedImport chronicleImport]
    guard := some java } := rfl

theorem transform_retype (guard : Option Language) (qs : List (Token × Retyping)) (a b d : Rule)
    (c : Text) :
    let p := step guard (step guard (step guard (retype guard qs { content := c }) a) b) d
    Pipeline.transform
      { rules := qs.map (fun q => retypeSignature q.1 q.2) ++ [a, b, d], guard } c =
        { p with changed := p.content != c } := by
  simp [Pipeline.transform, retype]

theorem chronicleBytes_transform (c : Text) : chronicleBytes.transform c = .ok
    { chronicleRun { content := c } with
      changed := (chronicleRun { content := c }).content != c } := by
  rw [transform, chronicleBytes_pipeline]
  exact congrArg Except.ok (transform_retype (some java) retypings _ _ _ c)

theorem generic_bufferTo {type : String} (h : type ∈ ["BytesOut<?>", "BytesIn<?>"]) :
    (bufferTo type).Generic where
  left_ne := show buffer.literal ≠ [] by decide
  right_ne := by
    revert type
    decide
  head := by
    revert type
    decide
  last := by
    revert type
    decide
  apart := by
    apply Text.apart_of_tails
    · revert type
      decide
    · revert type
      decide
  left_closed := show buffer.literal.getLast? = some '>' by decide
  right_closed := by
    revert type
    decide
  left_foreign := by
    apply Text.foreign_of_all
    revert type
    decide
  right_foreign := by
    apply Text.foreign_of_all
    revert type
    decide

theorem plain_method {m : String} (hm : m ∈ serializers ++ deserializers) : Plain ⟨m.toList⟩ where
  ne_nil := by
    revert m
    decide
  word := by
    apply List.all_eq_true.mp
    revert m
    decide
  solid := by
    have hsolid : ∀ m ∈ serializers ++ deserializers,
        m.toList.all (fun c => !isBlank c) = true := by
      decide
    simpa using hsolid m hm

theorem replaces_retypings : Replaces buffer retypings := by
  intro q hq
  cases List.mem_append.mp hq with
  | inl hq =>
    obtain ⟨m, hm, rfl⟩ := List.mem_map.mp hq
    exact ⟨plain_method (List.mem_append_left _ hm), generic_bufferTo (by simp), rfl⟩
  | inr hq =>
    obtain ⟨m, hm, rfl⟩ := List.mem_map.mp hq
    exact ⟨plain_method (List.mem_append_right _ hm), generic_bufferTo (by simp), rfl⟩

def nodeTypes : List String := ["BytesOut", "BytesIn"]

theorem sound_nodeImport {type : String} (h : type ∈ nodeTypes) : (nodeImport type).Sound where
  language_eq := rfl
  kind := by
    revert type
    decide
  trimmed := by
    revert type
    decide
  flat := by
    revert type
    decide
  marker_ne := by
    revert type
    decide
  marker_cr := by
    revert type
    decide
  marker_lf := by
    revert type
    decide

theorem spares_nodeImport {type : String} (h : type ∈ nodeTypes) :
    Spares (nodeImport type) buffer where
  opens := by
    revert type
    decide
  closes := by
    revert type
    decide
  ends := by
    have hline : ∀ type ∈ nodeTypes, (nodeImport type).line.getLast? = some ';' := by decide
    obtain ⟨w, hw⟩ := List.getLast?_eq_some_iff.mp (hline type h)
    exact ⟨w, [], hw, by simp⟩
  lacks := by
    rw [← Text.hasInfix_iff]
    revert type
    decide

theorem sound_chronicleImport : chronicleImport.Sound :=
  ⟨rfl, by decide, by decide, by decide, by decide, by decide, by decide⟩

theorem extends_chronicleImport : Extends buffer chronicleImport where
  suffix := ⟨"<ByteBuffer>".toList, by decide, by decide, by decide⟩

theorem nodeImport_line_ne {type : String} (h : type ∈ nodeTypes) :
    (nodeImport type).line ≠ chronicleImport.line := by
  revert type
  decide

/-- The text has the imports that it calls for, as far as `c` had a place for them. -/
structure Closed (c : Text) (p : Progress) : Prop where
  used : HasLine chronicleImport.line p.content → java.Uses chronicleImport.marker p.content
  settled : ∀ type ∈ nodeTypes, Settled (nodeImport type) c p

variable {c : Text} {p : Progress}

theorem sound_bytesOut : (nodeImport "BytesOut").Sound := sound_nodeImport (by decide)

theorem sound_bytesIn : (nodeImport "BytesIn").Sound := sound_nodeImport (by decide)

theorem closed_chronicleRun (c : Text) : Closed c (chronicleRun { content := c }) := by
  have hc : java.Anchored (retype (some java) retypings { content := c }).content ↔
      java.Anchored c := Pipeline.anchored_retype replaces_retypings { content := c }
  have hsteps := Pipeline.settled_importSteps sound_bytesOut sound_bytesIn sound_chronicleImport
    (nodeImport_line_ne (by decide)) (nodeImport_line_ne (by decide)) hc
  rw [chronicleRun]
  refine ⟨hsteps.1, ?_⟩
  intro type htype
  simp only [nodeTypes, List.mem_cons, List.not_mem_nil, or_false] at htype
  cases htype with
  | inl htype =>
    subst htype
    exact hsteps.2.1
  | inr htype =>
    subst htype
    exact hsteps.2.2

theorem anchored_of_chronicleRun (h : java.Anchored (chronicleRun p).content) :
    java.Anchored p.content := by
  rw [chronicleRun] at h
  have h := Pipeline.anchored_of_importSteps sound_bytesOut sound_bytesIn sound_chronicleImport h
  exact (Pipeline.anchored_retype replaces_retypings p).mp h

theorem not_takes_chronicleRun (hoff : java.OffImports buffer.literal p.content)
    {s : Token × Retyping} (hs : s ∈ retypings) :
    ¬ Takes s.1 buffer (chronicleRun p).content := by
  have hr : (bufferTo "BytesOut<?>").Generic := generic_bufferTo (by decide)
  obtain ⟨hoff, hretyped⟩ := Pipeline.replaced_retype replaces_retypings hoff
  rw [chronicleRun]
  exact Pipeline.not_takes_importSteps sound_bytesOut sound_bytesIn sound_chronicleImport hr
    (spares_nodeImport (by decide)) (spares_nodeImport (by decide)) extends_chronicleImport hoff
    (replaces_retypings s hs).1 (hretyped s hs)

theorem unchanged_chronicleRun {q : Progress} (hclosed : Closed c p)
    (hc : java.Anchored p.content → java.Anchored c)
    (htakes : ∀ s ∈ retypings, ¬ Takes s.1 buffer p.content) (hq : q.content = p.content) :
    Unchanged q (chronicleRun q) := by
  have hretype : Unchanged q (retype (some java) retypings q) := by
    apply Pipeline.unchanged_retype
    intro s hs
    rw [(replaces_retypings s hs).2.2, hq]
    exact htakes s hs
  rw [chronicleRun]
  exact hretype.trans (Pipeline.unchanged_importSteps sound_bytesOut sound_bytesIn
    sound_chronicleImport (hclosed.settled _ (by decide)) (hclosed.settled _ (by decide))
    hclosed.used hc (hretype.content_eq.trans hq))

theorem nodeImport_line {type : String} (h : type ∈ nodeTypes) :
    (nodeImport type).line = ("import io.sirix.node." ++ type ++ ";").toList := by
  revert type
  decide

theorem nodeImport_description {type : String} (h : type ∈ nodeTypes) :
    (ensureImport (nodeImport type)).description =
      ("Ensure 'import io.sirix.node." ++ type ++ ";'").toList := by
  revert type
  decide

/-- The migration leaves the old import only where its type is used, and brings in each new type
that is used, unless the text had no line behind which its import could go; then it says so. -/
theorem chronicleBytes_closes_imports (c : Text) : ∃ o, chronicleBytes.transform c = .ok o ∧
    (HasLine "import net.openhft.chronicle.bytes.Bytes;".toList o.content →
      java.Uses "Bytes".toList o.content) ∧
    ∀ type ∈ ["BytesOut", "BytesIn"], java.Uses type.toList o.content →
      HasLine ("import io.sirix.node." ++ type ++ ";").toList o.content ∨
        ¬ java.Anchored c ∧
          ⟨("Ensure 'import io.sirix.node." ++ type ++ ";'").toList,
            .noAnchor ("import io.sirix.node." ++ type ++ ";").toList⟩ ∈ o.warnings := by
  have hclosed : Closed c (chronicleRun { content := c }) := closed_chronicleRun c
  refine ⟨_, chronicleBytes_transform c, hclosed.used, ?_⟩
  intro type htype huses
  have hsettled := hclosed.settled type htype huses
  rwa [nodeImport_line htype, nodeImport_description htype] at hsettled

/-- A second run of the migration changes nothing if the type of all buffers is on no import line.
-/
theorem chronicleBytes_settles (c : Text) (h : java.OffImports "Bytes<ByteBuffer>".toList c) :
    ∃ o again, chronicleBytes.transform c = .ok o ∧
      chronicleBytes.transform o.content = .ok again ∧
      again.changed = false ∧ again.applied = [] ∧ again.content = o.content := by
  have h : java.OffImports buffer.literal ({ content := c } : Progress).content := h
  have hclosed := closed_chronicleRun c
  have hanchored : java.Anchored (chronicleRun { content := c }).content → java.Anchored c :=
    anchored_of_chronicleRun
  have htakes : ∀ s ∈ retypings, ¬ Takes s.1 buffer (chronicleRun { content := c }).content :=
    fun s hs => not_takes_chronicleRun h hs
  refine ⟨_, _, chronicleBytes_transform c, chronicleBytes_transform _, ?_⟩
  generalize chronicleRun { content := c } = first at hclosed hanchored htakes ⊢
  have hsecond : Unchanged { content := first.content }
      (chronicleRun { content := first.content }) :=
    unchanged_chronicleRun hclosed hanchored htakes rfl
  generalize chronicleRun { content := first.content } = second at hsecond ⊢
  exact ⟨bne_eq_false_iff_eq.mpr hsecond.content_eq, hsecond.applied_eq, hsecond.content_eq⟩

theorem chronicleBytes_settles_serialize :
    java.OffImports "Bytes<ByteBuffer>".toList "void serialize(Bytes<ByteBuffer> sink);".toList ∧
    ∃ o again,
      chronicleBytes.transform "void serialize(Bytes<ByteBuffer> sink);".toList = .ok o ∧
      chronicleBytes.transform o.content = .ok again ∧
      again.changed = false ∧ again.applied = [] ∧ again.content = o.content := by
  have hoff : java.OffImports "Bytes<ByteBuffer>".toList
      "void serialize(Bytes<ByteBuffer> sink);".toList := by
    unfold Language.OffImports
    decide
  exact ⟨hoff, chronicleBytes_settles _ hoff⟩

end Refit.Migration
