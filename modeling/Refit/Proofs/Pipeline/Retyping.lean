import Refit.Proofs.Call.Arguments
import Refit.Proofs.Pipeline.Settled
import Refit.Proofs.Rule.Exactness

namespace Refit.Pipeline

open Call (Plain Takes)
open Refit.Language (java)
open Rule (Retyping retypeSignature ensureImport removeUnusedImport)
open Text (Swapped)

variable {guard : Option Language} {p : Progress} {r : Retyping} {m type : Token} {i j k : Import}
  {qs : List (Token × Retyping)} {t : Text}

theorem swapped_step_retypeSignature (hne : r.token.literal ≠ []) (p : Progress) :
    Swapped r.token.literal r.replacement p.content
      (step guard p (retypeSignature m r)).content := by
  rcases step_cases guard p (retypeSignature m r) with
    ⟨hstep, -⟩ | ⟨-, t, -, happly, -, hstep⟩ | ⟨-, e, -, hstep⟩
  · rw [hstep]
    exact .refl p.content
  · rw [hstep, ← Except.ok.inj happly]
    exact Retyping.swapped_applyToCalls hne m p.content
  · rw [hstep]
    exact .refl p.content

theorem anchored_step_retypeSignature (hr : r.Generic) (p : Progress) :
    java.Anchored (step guard p (retypeSignature m r)).content ↔ java.Anchored p.content :=
  Language.java_anchored_swapped hr (swapped_step_retypeSignature hr.left_ne p)

theorem offImports_of_importLines (h : java.importLines t = java.importLines p.content)
    (hoff : java.OffImports type.literal p.content) : java.OffImports type.literal t := by
  rwa [Language.OffImports, h]

theorem importLines_applyToCalls (hr : r.Generic) (hoff : java.OffImports r.token.literal t) :
    java.importLines (r.applyToCalls m t) = java.importLines t :=
  Language.java_importLines_swapped hr (Retyping.swapped_applyToCalls hr.left_ne m t) hoff

theorem check_applyToCalls (hr : r.Generic) (hoff : java.OffImports r.token.literal t) :
    check (some java) t (r.applyToCalls m t) = .ok (r.applyToCalls m t) := by
  refine check_eq_ok_iff.mpr ⟨rfl, fun line hline => ?_⟩
  rwa [Language.importTexts_eq, importLines_applyToCalls hr hoff,
    ← Language.importTexts_eq] at hline

theorem content_step_retypeSignature (hr : r.Generic)
    (hoff : java.OffImports r.token.literal p.content) :
    (step (some java) p (retypeSignature m r)).content = r.applyToCalls m p.content ∧
      java.importLines (r.applyToCalls m p.content) = java.importLines p.content := by
  refine ⟨?_, importLines_applyToCalls hr hoff⟩
  rcases step_cases (some java) p (retypeSignature m r) with
    ⟨hstep, hidle | hok⟩ | ⟨-, t, -, happly, -, hstep⟩ | ⟨-, e, herror, -⟩
  · rw [hstep]
    exact (Except.ok.inj (Retyping.idle_retypeSignature hr.left_ne hidle)).symm
  · rw [hstep]
    exact (Except.ok.inj hok).symm
  · rw [hstep]
    exact (Except.ok.inj happly).symm
  · have herror : check (some java) p.content (r.applyToCalls m p.content) = .error e := herror
    rw [check_applyToCalls hr hoff] at herror
    cases herror

theorem unchanged_step_retypeSignature (h : ¬ Takes m r.token p.content) :
    Unchanged p (step guard p (retypeSignature m r)) := by
  have happlies : (retypeSignature m r).applies p.content = false := by
    apply List.any_eq_false.mpr
    intro call hcall htype
    exact h (Call.takes_of_mem_hits hcall htype)
  rw [step, happlies]
  exact .refl p

def retype (guard : Option Language) (qs : List (Token × Retyping)) (p : Progress) : Progress :=
  (qs.map fun q => retypeSignature q.1 q.2).foldl (step guard) p

def Replaces (type : Token) (qs : List (Token × Retyping)) : Prop :=
  ∀ q ∈ qs, Plain q.1 ∧ q.2.Generic ∧ q.2.token = type

theorem anchored_retype (hqs : Replaces type qs) (p : Progress) :
    java.Anchored (retype guard qs p).content ↔ java.Anchored p.content := by
  induction qs generalizing p with
  | nil => exact Iff.rfl
  | cons q qs ih =>
    have hq := hqs q List.mem_cons_self
    rw [← anchored_step_retypeSignature hq.2.1 p]
    exact ih (fun q hq => hqs q (List.mem_cons_of_mem _ hq)) _

theorem not_takes_retype (hqs : Replaces type qs) (hm : Plain m)
    (h : ¬ Takes m type p.content) : ¬ Takes m type (retype guard qs p).content := by
  induction qs generalizing p with
  | nil => exact h
  | cons q qs ih =>
    obtain ⟨-, hr, rfl⟩ := hqs q List.mem_cons_self
    apply ih fun q hq => hqs q (List.mem_cons_of_mem _ hq)
    intro htakes
    exact h (hr.takes_of_swapped hm (swapped_step_retypeSignature hr.left_ne p) htakes)

theorem replaced_retype (hqs : Replaces type qs) (hoff : java.OffImports type.literal p.content) :
    java.OffImports type.literal (retype (some java) qs p).content ∧
      ∀ q ∈ qs, ¬ Takes q.1 type (retype (some java) qs p).content := by
  induction qs generalizing p with
  | nil => exact ⟨hoff, fun q hq => absurd hq List.not_mem_nil⟩
  | cons q qs ih =>
    obtain ⟨hm, hr, rfl⟩ := hqs q List.mem_cons_self
    have hrest : Replaces q.2.token qs := fun q hq => hqs q (List.mem_cons_of_mem _ hq)
    obtain ⟨hcontent, hlines⟩ := content_step_retypeSignature (m := q.1) hr hoff
    rw [← hcontent] at hlines
    obtain ⟨hoff', hqs'⟩ := ih hrest (offImports_of_importLines hlines hoff)
    refine ⟨hoff', ?_⟩
    intro s hs
    cases List.mem_cons.mp hs with
    | inl hs =>
      rw [hs]
      apply not_takes_retype hrest hm
      rw [hcontent]
      exact hr.not_takes_applyToCalls hm p.content
    | inr hs => exact hqs' s hs

theorem unchanged_retype (h : ∀ q ∈ qs, ¬ Takes q.1 q.2.token p.content) :
    Unchanged p (retype guard qs p) := by
  induction qs generalizing p with
  | nil => exact .refl p
  | cons q qs ih =>
    have hq : Unchanged p (step guard p (retypeSignature q.1 q.2)) :=
      unchanged_step_retypeSignature (h q List.mem_cons_self)
    apply hq.trans
    apply ih
    intro s hs
    rw [hq.content_eq]
    exact h s (List.mem_cons_of_mem _ hs)

structure Spares (i : Import) (type : Token) : Prop extends Call.Separate i.line where
  lacks : ¬ type.literal <:+: i.line

theorem offImports_step_ensureImport (hi : i.Sound) (hr : r.Generic) (hs : Spares i r.token)
    (hoff : java.OffImports r.token.literal p.content) :
    java.OffImports r.token.literal (step (some java) p (ensureImport i)).content := by
  rcases step_ensureImport hi p with ⟨-, hstep⟩ | ⟨-, hstep⟩ | ⟨-, -, ls, hls, hstep⟩
  · rwa [hstep]
  · rwa [hstep]
  · rw [hstep]
    exact hi.offImports_inserted hls hs.lacks (hr.left_foreign _ (by simp))
      (hr.left_foreign _ (by simp)) hr.left_ne hoff

theorem not_takes_step_ensureImport (hi : i.Sound) (hr : r.Generic) (hs : Spares i r.token)
    (hm : Plain m) (h : ¬ Takes m r.token p.content) :
    ¬ Takes m r.token (step (some java) p (ensureImport i)).content := by
  rcases step_ensureImport hi p with ⟨-, hstep⟩ | ⟨-, hstep⟩ | ⟨-, -, ls, hls, hstep⟩
  · rwa [hstep]
  · rwa [hstep]
  · rw [hstep]
    have hlacks : r.token.occursIn i.line = false := by
      rw [← Bool.not_eq_true]
      exact fun hocc => hs.lacks (Token.occursIn_infix hocc)
    intro htakes
    exact h (Import.takes_of_inserted hls hm hs.toSeparate hlacks hr.left_ne
      (hr.left_foreign _ (by simp)) (hr.left_foreign _ (by simp)) htakes)

structure Extends (type : Token) (i : Import) : Prop where
  suffix : ∃ s, type.literal = i.marker ++ s ∧ s ≠ [] ∧
    isWordBoundary i.marker.getLast? s.head? = true

theorem not_occursIn_of_not_uses (hi : i.Sound) (hr : r.Generic) (hx : Extends r.token i)
    (hoff : java.OffImports r.token.literal t) (huses : ¬ java.Uses i.marker t) :
    r.token.occursIn t = false := by
  obtain ⟨s, hs, hne, hb⟩ := hx.suffix
  rw [← Text.flatten_splitLines t, Token.occursIn_flatten (Text.areLines_splitLines t) hr.left_ne
    (hr.left_foreign _ (by simp)), List.any_eq_false]
  intro line hline hocc
  by_cases hkind : java.kindOf line = .imports
  · have hmem : line ∈ java.importLines t := by simp [Language.java_importLines, hline, hkind]
    exact hoff line hmem (Token.occursIn_infix hocc)
  · have hshort : (Token.mk i.marker).occursIn line = true :=
      Token.occursIn_of_extends hs hi.marker_ne hne hb hocc
    exact huses (Language.java_uses_iff.mpr ⟨line, hline, by simp [Language.usesOn, hkind, hshort]⟩)

theorem not_takes_step_removeUnusedImport (hi : i.Sound) (hr : r.Generic) (hx : Extends r.token i)
    (hoff : java.OffImports r.token.literal p.content) (h : ¬ Takes m r.token p.content) :
    ¬ Takes m r.token (step (some java) p (removeUnusedImport i)).content := by
  rcases step_removeUnusedImport hi p with ⟨-, hstep⟩ | ⟨-, hunused, hstep⟩
  · rwa [hstep]
  · rw [hstep]
    intro htakes
    have hocc := htakes.occursIn (hr.left_foreign _ (by simp)) (hr.left_foreign _ (by simp))
    rw [not_occursIn_of_not_uses hi hr hx (Import.offImports_without hoff)
      fun huses => hunused (Import.uses_of_without huses)] at hocc
    cases hocc

theorem not_takes_importSteps (hi : i.Sound) (hj : j.Sound) (hk : k.Sound) (hr : r.Generic)
    (hsi : Spares i r.token) (hsj : Spares j r.token) (hx : Extends r.token k)
    (hoff : java.OffImports r.token.literal p.content) (hm : Plain m)
    (h : ¬ Takes m r.token p.content) : ¬ Takes m r.token (importSteps i j k p).content := by
  have hout := offImports_step_ensureImport hi hr hsi hoff
  apply not_takes_step_removeUnusedImport hk hr hx (offImports_step_ensureImport hj hr hsj hout)
  apply not_takes_step_ensureImport hj hr hsj hm
  exact not_takes_step_ensureImport hi hr hsi hm h

end Refit.Pipeline
