import Refit.Proofs.Call.Arguments
import Refit.Proofs.Rule.Exactness
import Refit.Proofs.Token.Inert

namespace Refit.Rule

open Call (Takes)

variable {r : Retyping} {m : Token} {t type replacement : Text} {c : Char}

/-- A rule leaves what it has made of a text, and does not apply to it any more. -/
def Settles (r : Rule) (t : Text) : Prop :=
  ∃ o, r.apply t = .ok o ∧ r.apply o = .ok o ∧ r.applies o = false

namespace Retyping

theorem settles_renameType_iff (hne : r.token.literal ≠ []) :
    (renameType r).Settles t ↔ r.token.occursIn (r.apply t) = false := by
  constructor
  · rintro ⟨o, ho, -, hnot⟩
    rwa [← Except.ok.inj ho] at hnot
  · exact fun h => ⟨_, rfl, idle_renameType hne h, h⟩

theorem settles_retypeSignature (hne : r.token.literal ≠ [])
    (h : ∀ c ∈ Text.hits (Call.flat m) (r.applyToCalls m t), r.token.occursIn c.arguments = false) :
    (retypeSignature m r).Settles t := by
  have hnot : (retypeSignature m r).applies (r.applyToCalls m t) = false :=
    List.any_eq_false.mpr fun c hc => by simp [h c hc]
  exact ⟨_, rfl, idle_retypeSignature hne hnot, hnot⟩

theorem not_occursIn_of_make? (h : make? type replacement = .ok r) :
    (Token.mk type).occursIn replacement = false := by
  rw [make?] at h
  split at h
  · cases h
  · split at h
    · cases h
    · next hnot => simpa using hnot

theorem not_mem_apply (hne : r.token.literal ≠ []) (hr : c ∉ r.replacement) (ht : c ∉ t) :
    c ∉ r.apply t := by
  intro h
  exact ((swapped_apply hne t).symm.mem_or_mem h).elim ht hr

theorem settles_retypeSignature_of_apply (hne : r.token.literal ≠ [])
    (hr : ∀ args, r.token.occursIn (r.apply args) = false)
    (hm : ('(' ∉ m.literal ∧ ')' ∉ m.literal) ∨ ('(' ∉ r.replacement ∧ ')' ∉ r.replacement))
    (t : Text) : (retypeSignature m r).Settles t := by
  apply settles_retypeSignature hne
  intro call hcall
  rcases hm with ⟨hopen, hclose⟩ | ⟨hopen, hclose⟩
  · rw [← Bool.not_eq_true]
    intro htype
    exact not_takes_applyToCalls hopen hclose hr t (Call.takes_of_mem_hits hcall htype)
  · have hf : ∀ args, '(' ∉ args → ')' ∉ args → '(' ∉ r.apply args ∧ ')' ∉ r.apply args :=
      fun args ho hc => ⟨not_mem_apply hne hopen ho, not_mem_apply hne hclose hc⟩
    have hcall : call ∈ Text.hits (Call.flat m) (Text.replaceHits (Call.flat m)
        (fun c => (c.withArguments r.apply).text) t) := hcall
    rw [Call.hits_replaceHits hf, List.mem_map] at hcall
    obtain ⟨found, -, rfl⟩ := hcall
    exact hr found.arguments

end Retyping

/-- Replacing a type settles if the text in its place is inert to it, in the calls of a method as
well if not both the method and that text have parentheses. All texts that are accepted for a word
are inert to it. For a type that does not overlap with itself, no others settle everywhere. -/
theorem retyping_settles (h : Retyping.make? type replacement = .ok r)
    (hreg : (Token.mk type).Regular) :
    ((∀ c ∈ type, isWord c = true) → (Token.mk type).Inert replacement) ∧
    ((Token.mk type).Inert replacement → (∀ t, (renameType r).Settles t) ∧
      ∀ method : Text, ('(' ∉ method ∧ ')' ∉ method) ∨ ('(' ∉ replacement ∧ ')' ∉ replacement) →
        ∀ t, (retypeSignature ⟨method⟩ r).Settles t) ∧
    ((Token.mk type).Borderless → (∀ t, (renameType r).Settles t) →
      (Token.mk type).Inert replacement) := by
  have hnot := Retyping.not_occursIn_of_make? h
  obtain ⟨hne, rfl, rfl⟩ := Retyping.token_ne_nil_of_make? h
  refine ⟨fun hw => .of_word hreg hw hnot, ?_, ?_⟩
  · intro hinert
    have hr : ∀ t, r.token.occursIn (r.apply t) = false :=
      hinert.not_occursIn_replaceIn hreg hne
    refine ⟨fun t => (Retyping.settles_renameType_iff hne).mpr (hr t), fun method hm => ?_⟩
    exact Retyping.settles_retypeSignature_of_apply hne hr hm
  · intro hborder hsettles
    exact hborder.inert hreg hne fun t => (Retyping.settles_renameType_iff hne).mp (hsettles t)

theorem retyping_settles_bytes : ∃ r,
    Retyping.make? "Bytes<ByteBuffer>".toList "BytesOut<?>".toList = .ok r ∧
    (Token.mk "Bytes<ByteBuffer>".toList).Regular ∧
    (∀ t, (renameType r).Settles t) ∧ ∀ t, (retypeSignature ⟨"serialize".toList⟩ r).Settles t := by
  have hreg : (Token.mk "Bytes<ByteBuffer>".toList).Regular := ⟨by decide, by decide⟩
  have hr : Retyping.make? "Bytes<ByteBuffer>".toList "BytesOut<?>".toList = .ok _ := rfl
  obtain ⟨hrename, hcalls⟩ := (retyping_settles hr hreg).2.1 (by decide)
  exact ⟨_, rfl, hreg, hrename, hcalls _ (by decide)⟩

theorem renameType_reforms : ∃ r, renameType? "a.b".toList "a".toList = .ok r ∧
    r.apply "a.b.b".toList = .ok "a.b".toList ∧ r.applies "a.b".toList = true ∧
    r.apply "a.b".toList = .ok "a".toList :=
  ⟨_, rfl, rfl, by decide, rfl⟩

end Refit.Rule
