import Mathlib.Data.List.Forall2
import Refit.Proofs.Call.Split
import Refit.Proofs.Results
import Refit.Proofs.Rule.Brackets
import Refit.Proofs.Rule.Exactness

namespace Refit.Rule

open Call (StandsFlat StandsNested)
open Text (Split assemble)

variable {r : Rule} {t z adapter args : Text} {calls : List (Text × Call)}

def Renewed (type replacement args args' : Text) : Prop :=
  ∃ ms z, Split (Token.mk type).Stands (fun _ => type) none args ms z ∧
    args' = assemble (fun _ => replacement) ms z

structure Retyped (type replacement : Text) (p q : Text × Call) : Prop where
  gap : q.1 = p.1
  head : q.2.head = p.2.head
  arguments : Renewed type replacement p.2.arguments q.2.arguments

namespace Retyping

variable {r : Retyping}

theorem renewed_apply (hne : r.token.literal ≠ []) (args : Text) :
    Renewed r.token.literal r.replacement args (r.apply args) := by
  obtain ⟨ms, z, hsplit⟩ := Text.exists_split (Token.finder_spells hne) r.token.finder_finds args
  refine ⟨ms, z, hsplit, ?_⟩
  exact hsplit.replaceHits_eq (Token.finder_spells hne) r.token.finder_finds fun _ => r.replacement

theorem assemble_applyToCall (r : Retyping) (calls : List (Text × Call)) (z : Text) :
    assemble r.applyToCall calls z = assemble Call.text
      (calls.map fun p => (p.1, { p.2 with arguments := r.apply p.2.arguments })) z := by
  rw [assemble, assemble, List.flatMap_map]
  rfl

theorem forall_retyped (hne : r.token.literal ≠ []) (calls : List (Text × Call)) :
    List.Forall₂ (Retyped r.token.literal r.replacement) calls
      (calls.map fun p => (p.1, { p.2 with arguments := r.apply p.2.arguments })) := by
  rw [List.forall₂_map_right_iff, List.forall₂_same]
  exact fun p _ => ⟨rfl, rfl, renewed_apply hne p.2.arguments⟩

end Retyping

/-- Replacing a type in the calls of a method: each text falls into calls and what stands between
them; the heads of the calls can be reckoned from sizes; and the new text is made of the same parts,
up to the type in the arguments. -/
theorem retypeSignature_frame {method type replacement : Text}
    (h : retypeSignature? method type replacement = .ok r) (c : Text) :
    (∃ calls z, Split (StandsFlat ⟨method⟩) Call.text none c calls z) ∧
    ∀ calls z, Split (StandsFlat ⟨method⟩) Call.text none c calls z →
      c = assemble Call.text calls z ∧
      (∀ p ∈ calls, Call.headOf? p.2.text p.2.arguments = some p.2.head) ∧
      ∃ calls', List.Forall₂ (Retyped type replacement) calls calls' ∧
        r.apply c = .ok (assemble Call.text calls' z) := by
  obtain ⟨p, hp, rfl⟩ := exists_of_map_eq_ok h
  obtain ⟨hne, rfl, rfl⟩ := Retyping.token_ne_nil_of_make? hp
  have hspells := Call.flat_spells ⟨method⟩
  have hfinds := Call.flat_finds ⟨method⟩
  refine ⟨Text.exists_split hspells hfinds c, fun calls z hsplit => ?_⟩
  refine ⟨hsplit.eq_assemble, fun p _ => Call.headOf?_text p.2, _,
    Retyping.forall_retyped hne calls, congrArg Except.ok ?_⟩
  rw [← Retyping.assemble_applyToCall]
  exact hsplit.replaceHits_eq hspells hfinds p.applyToCall

theorem retypeSignature_frame_dollar : ∃ r calls calls',
    retypeSignature? "f".toList "T".toList "$1é".toList = .ok r ∧
    Split (StandsFlat ⟨"f".toList⟩) Call.text none "é f (T a,\nTé T) g(T)".toList calls
      " g(T)".toList ∧
    calls = [("é ".toList, ⟨"f (".toList, "T a,\nTé T".toList⟩)] ∧
    List.Forall₂ (Retyped "T".toList "$1é".toList) calls calls' ∧
    r.apply "é f (T a,\nTé T) g(T)".toList = .ok (assemble Call.text calls' " g(T)".toList) ∧
    assemble Call.text calls' " g(T)".toList = "é f ($1é a,\nTé $1é) g(T)".toList := by
  have h : retypeSignature? "f".toList "T".toList "$1é".toList = .ok _ := rfl
  have hsplit : Split (StandsFlat ⟨"f".toList⟩) Call.text none "é f (T a,\nTé T) g(T)".toList
      [("é ".toList, ⟨"f (".toList, "T a,\nTé T".toList⟩)] " g(T)".toList :=
    (Text.split_iff (Call.flat_spells _) (Call.flat_finds _)).mpr (by decide)
  obtain ⟨-, -, calls', hcalls', happly⟩ := (retypeSignature_frame h _).2 _ _ hsplit
  refine ⟨_, _, calls', h, hsplit, rfl, hcalls', happly, Except.ok.inj (happly.symm.trans ?_)⟩
  decide +kernel

inductive Part
  | kept (t : Text)
  | added (t : Text)
  deriving Repr, DecidableEq

def Part.old : Part → Text
  | kept t => t
  | added _ => []

def Part.new : Part → Text
  | kept t => t
  | added t => t

/-- An argument that is handed to an adapter: it is not blank, not wrapped, no list of several
arguments, and no parameter of a declaration. -/
structure Adapts (adapter args : Text) : Prop where
  given : Text.trim args ≠ []
  bare : ¬ adapter ++ ['('] <+: Text.trim args
  single : hasOuterComma 0 (Text.trim args) = false
  value : parameter.accepts (Text.trim args) = false

theorem adapts_iff : Adapts adapter args ↔ ¬ ((Text.trim args).isEmpty ||
    (adapter ++ ['(']).isPrefixOf (Text.trim args) || hasOuterComma 0 (Text.trim args) ||
      parameter.accepts (Text.trim args)) = true := by
  simp only [Bool.or_eq_true, not_or, Bool.not_eq_true, List.isEmpty_iff]
  constructor
  · intro h
    refine ⟨⟨⟨h.given, ?_⟩, h.single⟩, h.value⟩
    rw [← Bool.not_eq_true, List.isPrefixOf_iff_prefix]
    exact h.bare
  · rintro ⟨⟨⟨hgiven, hbare⟩, hsingle⟩, hvalue⟩
    refine ⟨hgiven, ?_, hsingle, hvalue⟩
    rwa [← List.isPrefixOf_iff_prefix, Bool.not_eq_true]

instance : Decidable (Adapts adapter args) := decidable_of_iff' _ adapts_iff

def callParts (adapter : Text) (call : Call) : List Part :=
  if Adapts adapter call.arguments then
    [.kept (call.head ++ Text.leadingBlanks call.arguments), .added (adapter ++ ['(']),
      .kept (Text.trim call.arguments), .added [')'],
      .kept (Text.trailingBlanks call.arguments ++ [')'])]
  else [.kept call.text]

def parts (adapter : Text) (calls : List (Text × Call)) (z : Text) : List Part :=
  calls.flatMap (fun p => .kept p.1 :: callParts adapter p.2) ++ [.kept z]

theorem old_callParts (adapter : Text) (call : Call) :
    (callParts adapter call).flatMap Part.old = call.text := by
  rw [callParts]
  split
  · next h =>
    have hparts := congrArg (fun args => call.head ++ (args ++ [')'])) (Text.parts_eq h.given)
    simpa [Part.old, Call.text] using hparts
  · simp [Part.old]

theorem new_callParts (adapter : Text) (call : Call) :
    (callParts adapter call).flatMap Part.new = wrapCall adapter call := by
  rw [callParts, wrapCall, wrapped?]
  split
  · next h =>
    rw [if_neg (adapts_iff.mp h)]
    simp [Part.new, Call.text]
  · next h =>
    rw [if_pos (Decidable.not_not.mp (mt adapts_iff.mpr h))]
    simp [Part.new]

theorem flatMap_parts (f : Part → Text) (hf : ∀ t, f (.kept t) = t) (adapter : Text)
    (calls : List (Text × Call)) (z : Text) : (parts adapter calls z).flatMap f =
      assemble (fun call => (callParts adapter call).flatMap f) calls z := by
  simp [parts, assemble, List.flatMap_assoc, hf]

/-- Wrapping the arguments of a method only puts texts in, and only into the calls whose argument is
handed to the adapter: the name of the adapter and a parenthesis before the argument, and one behind
it. Without these, the new text is the old one. In arguments with properly nested brackets, a comma
counts if it stands at depth 0. -/
theorem wrapArgument_inserts {method adapter : Text} (h : wrapArgument? method adapter = .ok r)
    (c : Text) :
    (∃ calls z, Split (StandsNested ⟨method⟩) Call.text none c calls z) ∧
    (∀ calls z, Split (StandsNested ⟨method⟩) Call.text none c calls z →
      (parts (Text.trim adapter) calls z).flatMap Part.old = c ∧
      r.apply c = .ok ((parts (Text.trim adapter) calls z).flatMap Part.new)) ∧
    ∀ args, Balanced args → (hasOuterComma 0 (Text.trim args) = true ↔
      ∃ u v, args = u ++ ',' :: v ∧ depth u = 0) := by
  obtain rfl : r = wrapArgument ⟨method⟩ (Text.trim adapter) := by
    rw [wrapArgument?] at h
    split at h
    · cases h
    · exact (Except.ok.inj h).symm
  have hspells := Call.nested_spells ⟨method⟩
  have hfinds := Call.nested_finds ⟨method⟩
  refine ⟨Text.exists_split hspells hfinds c, fun calls z hsplit => ⟨?_, ?_⟩,
    fun args hargs => hargs.hasOuterComma_trim_iff⟩
  · rw [flatMap_parts Part.old fun _ => rfl]
    simp only [old_callParts]
    exact hsplit.eq_assemble.symm
  · rw [flatMap_parts Part.new fun _ => rfl]
    simp only [new_callParts]
    exact congrArg Except.ok (hsplit.replaceHits_eq hspells hfinds _)

theorem wrapArgument_inserts_between : ∃ r calls,
    wrapArgument? "f".toList " A ".toList = .ok r ∧
    Split (StandsNested ⟨"f".toList⟩) Call.text none "f(\tg(x, y)\n); f(x, y); f(T é)".toList calls
      [] ∧
    r.apply "f(\tg(x, y)\n); f(x, y); f(T é)".toList =
      .ok "f(\tA(g(x, y))\n); f(x, y); f(T é)".toList ∧
    (parts "A".toList calls []).flatMap Part.old = "f(\tg(x, y)\n); f(x, y); f(T é)".toList ∧
    Balanced "(x, y), z".toList ∧ hasOuterComma 0 (Text.trim "(x, y), z".toList) = true := by
  have h : wrapArgument? "f".toList " A ".toList = .ok _ := rfl
  obtain ⟨⟨calls, z, hsplit⟩, hparts, hcomma⟩ :=
    wrapArgument_inserts h "f(\tg(x, y)\n); f(x, y); f(T é)".toList
  have hspans := (Text.split_iff (Call.nested_spells _) (Call.nested_finds _)).mp hsplit
  obtain rfl : [] = z := congrArg Prod.snd hspans
  have hbalanced : Balanced ('(' :: ("x, y".toList ++ ')' :: ", z".toList)) :=
    .group (by decide) (.of_plain (by decide)) (.of_plain (by decide))
  refine ⟨_, calls, h, hsplit, by decide +kernel, (hparts calls [] hsplit).1, hbalanced, ?_⟩
  exact (hcomma _ hbalanced).mpr ⟨"(x, y)".toList, " z".toList, rfl, by decide⟩

end Refit.Rule
