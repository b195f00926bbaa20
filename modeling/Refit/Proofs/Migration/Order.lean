import Mathlib.Data.List.Perm.Basic
import Refit.Proofs.Migration.Chronicle
import Refit.Proofs.Pipeline.Reordering

namespace Refit.Migration

open Call (Bare IsName)
open Refit.Language (java)
open Pipeline (Independent Replaces Tame agrees_importSteps agrees_retype applyToCalls_comm
  importSteps retype retypeAll retypeAll_perm warnings_retype)
open Rule (Retyping ensureImport removeUnusedImport retypeSignature retypeSignature?)

variable {c : Text} {specs : List RuleSpec} {qs : List (Token × Retyping)}

def signatureSpecs : List RuleSpec := chronicleSpecs.take 5

def importSpecs : List RuleSpec := chronicleSpecs.drop 5

def withSignatures (specs : List RuleSpec) : Migration :=
  { chronicleBytes with specs := specs ++ importSpecs }

example : withSignatures signatureSpecs = chronicleBytes := rfl

def applyAll (specs : List RuleSpec) (c : Text) : Except Failure Text :=
  specs.mapM (RuleSpec.build java) >>= fun rules => rules.foldlM (fun t r => r.apply t) c

/-- The guard of the migration refuses nothing that the rules make on their way. -/
def Unrefused (specs : List RuleSpec) (c : Text) : Prop :=
  ∃ p, Pipeline.ofSpecs java specs = .ok p ∧ (p.transform c).warnings = []

def signatureRules (qs : List (Token × Retyping)) : List Rule :=
  qs.map fun q => retypeSignature q.1 q.2

theorem build_signatureSpecs : List.Forall₂
    (fun s q => RuleSpec.build java s = .ok (retypeSignature q.1 q.2)) signatureSpecs retypings :=
  .cons rfl (.cons rfl (.cons rfl (.cons rfl (.cons rfl .nil))))

theorem mapM_importSpecs : importSpecs.mapM (RuleSpec.build java) =
    .ok [ensureImport (nodeImport "BytesOut"), ensureImport (nodeImport "BytesIn"),
      removeUnusedImport chronicleImport] := rfl

theorem exists_retypings (h : specs.Perm signatureSpecs) : ∃ qs, retypings.Perm qs ∧
    specs.mapM (RuleSpec.build java) = .ok (signatureRules qs) := by
  obtain ⟨qs, hspecs, hqs⟩ := List.perm_comp_forall₂ h build_signatureSpecs
  refine ⟨qs, hqs.symm, mapM_eq_ok_iff.mpr ?_⟩
  rw [signatureRules, List.forall₂_map_right_iff]
  exact hspecs

theorem tame_retypings : ∀ q ∈ retypings, Tame q := by
  have hnames : ∀ q ∈ retypings, q.1.literal ≠ [] ∧
      (q.1.literal.all fun c => c.isAlphanum || c == '_') = true := by
    decide
  have htypes : ∀ q ∈ retypings, q.2.token.literal ≠ [] := by decide
  have hbare : ∀ q ∈ retypings, '(' ∉ q.2.replacement ∧ ')' ∉ q.2.replacement := by decide
  intro q hq
  exact ⟨IsName.proper ⟨(hnames q hq).1, (hnames q hq).2⟩, htypes q hq,
    ⟨(hbare q hq).1, (hbare q hq).2⟩⟩

theorem independent_retypings : Independent retypings where
  tame := tame_retypings
  distinct := by decide
  alters := by decide

theorem foldlM_signatureRules (qs : List (Token × Retyping)) (c : Text) :
    (signatureRules qs).foldlM (fun t r => r.apply t) c = .ok (retypeAll qs c) := by
  induction qs generalizing c with
  | nil => rfl
  | cons q qs ih => exact ih (q.2.applyToCalls q.1 c)

theorem applyAll_eq (h : specs.mapM (RuleSpec.build java) = .ok (signatureRules qs)) (c : Text) :
    applyAll specs c = .ok (retypeAll qs c) := by
  rw [applyAll, h]
  exact foldlM_signatureRules qs c

def signatureRun (qs : List (Token × Retyping)) (p : Progress) : Progress :=
  importSteps (nodeImport "BytesOut") (nodeImport "BytesIn") chronicleImport
    (retype (some java) qs p)

theorem withSignatures_transform (h : specs.mapM (RuleSpec.build java) = .ok (signatureRules qs))
    (c : Text) : (withSignatures specs).transform c = .ok
      { signatureRun qs { content := c } with
        changed := (signatureRun qs { content := c }).content != c } := by
  have hbuild : (specs ++ importSpecs).mapM (RuleSpec.build java) = .ok (signatureRules qs ++ _) :=
    mapM_eq_ok_iff.mpr (List.rel_append (mapM_eq_ok_iff.mp h) (mapM_eq_ok_iff.mp mapM_importSpecs))
  have hpipeline : (withSignatures specs).pipeline = .ok ⟨signatureRules qs ++ _, some java⟩ :=
    congrArg (Except.map fun rules => ({ rules, guard := some java } : Pipeline)) hbuild
  rw [transform, hpipeline]
  exact congrArg Except.ok (transform_retype (some java) qs _ _ _ c)

theorem unrefused_iff (h : specs.mapM (RuleSpec.build java) = .ok (signatureRules qs)) :
    Unrefused specs c ↔ (retype (some java) qs { content := c }).warnings = [] := by
  have hspecs : Pipeline.ofSpecs java specs = .ok ⟨signatureRules qs, some java⟩ :=
    congrArg (Except.map fun rules => ({ rules, guard := some java } : Pipeline)) h
  constructor
  · rintro ⟨p, hp, hw⟩
    obtain rfl := Except.ok.inj (hp.symm.trans hspecs)
    exact hw
  · exact fun hw => ⟨_, hspecs, hw⟩

/-- Signature rules for different methods can change places. So can those of the migration, and what
the migration comes to stays the same as long as its guard refuses none of them in either order. It
refuses none if the type of all buffers is on no import line. -/
theorem signatures_commute :
    (∀ (m n type replacement type' replacement' : Text) (r s : Rule), IsName m → IsName n → m ≠ n →
      retypeSignature? m type replacement = .ok r → retypeSignature? n type' replacement' = .ok s →
      Bare replacement → Bare replacement' →
      ∀ c, ∃ o, (r.apply c >>= s.apply) = .ok o ∧ (s.apply c >>= r.apply) = .ok o) ∧
    ∀ specs, specs.Perm signatureSpecs → ∀ c,
      (∃ o, applyAll specs c = .ok o ∧ applyAll signatureSpecs c = .ok o) ∧
      (java.OffImports "Bytes<ByteBuffer>".toList c → Unrefused specs c) ∧
      (Unrefused specs c → Unrefused signatureSpecs c → ∃ o o',
        (withSignatures specs).transform c = .ok o ∧ chronicleBytes.transform c = .ok o' ∧
        o.toProgress.Agrees o'.toProgress ∧ o.changed = o'.changed) := by
  constructor
  · intro m n type replacement type' replacement' r s hm hn hmn hr hs hbare hbare' c
    obtain ⟨r, hmake, rfl⟩ := exists_of_map_eq_ok hr
    obtain ⟨s, hmake', rfl⟩ := exists_of_map_eq_ok hs
    obtain ⟨hne, -, rfl⟩ := Retyping.token_ne_nil_of_make? hmake
    obtain ⟨hne', -, rfl⟩ := Retyping.token_ne_nil_of_make? hmake'
    have hmn : (⟨m⟩ : Token) ≠ ⟨n⟩ := fun h => hmn (congrArg Token.literal h)
    have hfirst : Tame (⟨m⟩, r) := ⟨hm.proper, hne, hbare⟩
    have hsecond : Tame (⟨n⟩, s) := ⟨hn.proper, hne', hbare'⟩
    have hcomm := applyToCalls_comm hfirst hsecond hmn c
    exact ⟨_, rfl, congrArg Except.ok hcomm.symm⟩
  · intro specs hspecs c
    obtain ⟨qs, hqs, hbuild⟩ := exists_retypings hspecs
    have hsame : signatureSpecs.mapM (RuleSpec.build java) = .ok (signatureRules retypings) := rfl
    refine ⟨⟨retypeAll retypings c, ?_, ?_⟩, fun hoff => ?_, fun h h' => ?_⟩
    · rw [applyAll_eq hbuild, retypeAll_perm independent_retypings hqs]
    · rw [applyAll_eq hsame]
    · have hreplaces : Replaces buffer qs := fun q hq => replaces_retypings q (hqs.mem_iff.mpr hq)
      exact (unrefused_iff hbuild).mpr (warnings_retype hreplaces hoff)
    · rw [unrefused_iff hbuild] at h
      rw [unrefused_iff hsame] at h'
      have hretype := agrees_retype (p := { content := c }) (independent_retypings.perm hqs)
        hqs.symm h h'
      have hrun : (signatureRun qs { content := c }).Agrees (chronicleRun { content := c }) :=
        agrees_importSteps hretype
      refine ⟨_, _, withSignatures_transform hbuild c, chronicleBytes_transform c, ?_⟩
      generalize signatureRun qs { content := c } = p at hrun ⊢
      generalize chronicleRun { content := c } = q at hrun ⊢
      exact ⟨hrun, congrArg (· != c) hrun.content_eq⟩

theorem signatures_commute_serialize : ∃ r s,
    retypeSignature? "serialize".toList "Bytes<ByteBuffer>".toList "BytesOut<?>".toList = .ok r ∧
    retypeSignature? "deserialize".toList "Bytes<ByteBuffer>".toList "BytesIn<?>".toList = .ok s ∧
    (∀ c, ∃ o, (r.apply c >>= s.apply) = .ok o ∧ (s.apply c >>= r.apply) = .ok o) ∧
    ∃ o o', (withSignatures signatureSpecs.reverse).transform
        "void serialize(Bytes<ByteBuffer> sink);".toList = .ok o ∧
      chronicleBytes.transform "void serialize(Bytes<ByteBuffer> sink);".toList = .ok o' ∧
      o.toProgress.Agrees o'.toProgress ∧ o.changed = o'.changed := by
  have hoff : java.OffImports "Bytes<ByteBuffer>".toList
      "void serialize(Bytes<ByteBuffer> sink);".toList := by
    unfold Language.OffImports
    decide
  have hserialize : IsName "serialize".toList := ⟨by decide, by decide⟩
  have hdeserialize : IsName "deserialize".toList := ⟨by decide, by decide⟩
  have hout : Bare "BytesOut<?>".toList := ⟨by decide, by decide⟩
  have hin : Bare "BytesIn<?>".toList := ⟨by decide, by decide⟩
  obtain ⟨hcommute, horders⟩ := signatures_commute
  obtain ⟨-, hreversed, hrun⟩ := horders _ (List.reverse_perm signatureSpecs)
    "void serialize(Bytes<ByteBuffer> sink);".toList
  obtain ⟨-, hbuiltin, -⟩ := horders _ (.refl signatureSpecs)
    "void serialize(Bytes<ByteBuffer> sink);".toList
  have hr : retypeSignature? "serialize".toList "Bytes<ByteBuffer>".toList
      "BytesOut<?>".toList = .ok _ := rfl
  have hs : retypeSignature? "deserialize".toList "Bytes<ByteBuffer>".toList
      "BytesIn<?>".toList = .ok _ := rfl
  refine ⟨_, _, hr, hs, ?_, hrun (hreversed hoff) (hbuiltin hoff)⟩
  exact hcommute _ _ _ _ _ _ _ _ hserialize hdeserialize (by decide) hr hs hout hin

def clashing : Text :=
  ("import a; serialize(Bytes<ByteBuffer>) computeHash(Bytes<ByteBuffer>)\n" ++
    "import a; serialize(Bytes<ByteBuffer>) computeHash(BytesOut<?>)\n" ++
    "import a; serialize(BytesOut<?>) computeHash(BytesOut<?>)\n" ++
    "import a; serialize(BytesOut<?>) computeHash(BytesOut<?>)\n").toList

/-- With the rule for `computeHash` in the first place, the guard refuses it. -/
theorem signatures_refused : (signatureSpecs.rotate 2).Perm signatureSpecs ∧
    ∃ o o', (withSignatures (signatureSpecs.rotate 2)).transform clashing = .ok o ∧
      chronicleBytes.transform clashing = .ok o' ∧ o.content ≠ o'.content :=
  ⟨by decide, _, _, rfl, rfl, by decide +kernel⟩

end Refit.Migration
