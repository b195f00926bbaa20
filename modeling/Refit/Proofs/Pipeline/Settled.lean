import Refit.Proofs.Import.Java

namespace Refit.Pipeline

open Refit.Language (java)
open Rule (ensureImport removeUnusedImport)
open Text (HasLine)

variable {i j k : Import} {c : Text} {p q : Progress}

/-- An import that is used is there, or `c` had no place for it and a warning says so. -/
def Settled (i : Import) (c : Text) (p : Progress) : Prop :=
  java.Uses i.marker p.content → HasLine i.line p.content ∨
    ¬ java.Anchored c ∧ ⟨(ensureImport i).description, .noAnchor i.line⟩ ∈ p.warnings

theorem settled_step_ensureImport (hi : i.Sound) (hc : java.Anchored c → java.Anchored p.content) :
    Settled i c (step (some java) p (ensureImport i)) := by
  rcases step_ensureImport hi p with ⟨hmissing, hstep⟩ | ⟨hanchor, hstep⟩ | ⟨-, -, ls, hls, hstep⟩
  · rw [hstep]
    intro huses
    rw [← hi.language_eq] at huses
    exact .inl (Import.not_isMissing_iff.mp hmissing huses)
  · rw [hstep]
    intro _
    exact .inr ⟨fun h => hanchor (hc h), by simp⟩
  · rw [hstep]
    intro _
    exact .inl ((hi.hasLine_inserted hls).mpr (.inr rfl))

theorem Settled.step_ensureImport (h : Settled i c p) (hi : i.Sound) (hj : j.Sound) :
    Settled i c (step (some java) p (ensureImport j)) := by
  rcases Pipeline.step_ensureImport hj p with ⟨-, hstep⟩ | ⟨-, hstep⟩ | ⟨-, -, ls, hls, hstep⟩
  · rw [hstep]
    exact h
  · rw [hstep]
    intro huses
    refine (h huses).imp_right fun hwarning => ⟨hwarning.1, ?_⟩
    exact List.mem_append_left _ hwarning.2
  · rw [hstep]
    intro huses
    refine (h ((hj.uses_inserted hls hi).mp huses)).imp_left fun hline => ?_
    exact (hj.hasLine_inserted hls).mpr (.inl hline)

theorem Settled.step_removeUnusedImport (h : Settled i c p) (hj : j.Sound) (hij : i.line ≠ j.line) :
    Settled i c (step (some java) p (removeUnusedImport j)) := by
  rcases Pipeline.step_removeUnusedImport hj p with ⟨-, hstep⟩ | ⟨-, -, hstep⟩
  · rw [hstep]
    exact h
  · rw [hstep]
    intro huses
    refine (h (Import.uses_of_without huses)).imp_left fun hline => ?_
    exact Import.hasLine_without.mpr ⟨hline, hij⟩

theorem uses_of_hasLine_step_removeUnusedImport (hi : i.Sound)
    (h : HasLine i.line (step (some java) p (removeUnusedImport i)).content) :
    java.Uses i.marker (step (some java) p (removeUnusedImport i)).content := by
  rcases step_removeUnusedImport hi p with ⟨huses, hstep⟩ | ⟨-, -, hstep⟩
  · rw [hstep] at h ⊢
    exact huses h
  · rw [hstep] at h
    exact absurd rfl (Import.hasLine_without.mp h).2

theorem anchored_step_ensureImport (hi : i.Sound) (p : Progress) :
    java.Anchored (step (some java) p (ensureImport i)).content ↔ java.Anchored p.content := by
  rcases step_ensureImport hi p with ⟨-, hstep⟩ | ⟨-, hstep⟩ | ⟨-, hanchor, ls, hls, hstep⟩
  · rw [hstep]
  · rw [hstep]
  · rw [hstep]
    exact iff_of_true (hi.anchored_inserted hls) hanchor

theorem anchored_of_step_removeUnusedImport (hi : i.Sound)
    (h : java.Anchored (step (some java) p (removeUnusedImport i)).content) :
    java.Anchored p.content := by
  rcases step_removeUnusedImport hi p with ⟨-, hstep⟩ | ⟨-, -, hstep⟩
  · rwa [hstep] at h
  · rw [hstep] at h
    exact Import.anchored_of_without h

def importSteps (i j k : Import) (p : Progress) : Progress :=
  step (some java) (step (some java) (step (some java) p (ensureImport i)) (ensureImport j))
    (removeUnusedImport k)

theorem settled_importSteps (hi : i.Sound) (hj : j.Sound) (hk : k.Sound) (hik : i.line ≠ k.line)
    (hjk : j.line ≠ k.line) (hc : java.Anchored p.content ↔ java.Anchored c) :
    (HasLine k.line (importSteps i j k p).content →
      java.Uses k.marker (importSteps i j k p).content) ∧
    Settled i c (importSteps i j k p) ∧ Settled j c (importSteps i j k p) := by
  have hanchored := (anchored_step_ensureImport hi p).trans hc
  have hsettled := (settled_step_ensureImport hi hc.mpr).step_ensureImport hi hj
  have hsettled' := settled_step_ensureImport hj hanchored.mpr
  exact ⟨uses_of_hasLine_step_removeUnusedImport hk, hsettled.step_removeUnusedImport hk hik,
    hsettled'.step_removeUnusedImport hk hjk⟩

theorem anchored_of_importSteps (hi : i.Sound) (hj : j.Sound) (hk : k.Sound)
    (h : java.Anchored (importSteps i j k p).content) : java.Anchored p.content := by
  have h := anchored_of_step_removeUnusedImport hk h
  rwa [anchored_step_ensureImport hj, anchored_step_ensureImport hi] at h

structure Unchanged (p q : Progress) : Prop where
  content_eq : q.content = p.content
  applied_eq : q.applied = p.applied

theorem Unchanged.refl (p : Progress) : Unchanged p p := ⟨rfl, rfl⟩

theorem Unchanged.trans {s : Progress} (h : Unchanged p q) (h' : Unchanged q s) : Unchanged p s :=
  ⟨h'.content_eq.trans h.content_eq, h'.applied_eq.trans h.applied_eq⟩

theorem Settled.unchanged (h : Settled i c p) (hi : i.Sound)
    (hc : java.Anchored p.content → java.Anchored c) (hq : q.content = p.content) :
    Unchanged q (step (some java) q (ensureImport i)) := by
  rcases Pipeline.step_ensureImport hi q with ⟨-, hstep⟩ | ⟨-, hstep⟩ | ⟨hmissing, hanchor, -⟩
  · rw [hstep]
    exact .refl q
  · rw [hstep]
    exact ⟨rfl, rfl⟩
  · obtain ⟨hline, huses⟩ := Import.isMissing_iff.mp hmissing
    rw [hi.language_eq] at huses
    rw [hq] at hline huses hanchor
    cases h huses with
    | inl h => exact absurd h hline
    | inr h => exact absurd (hc hanchor) h.1

theorem unchanged_step_removeUnusedImport (hi : i.Sound)
    (h : HasLine i.line p.content → java.Uses i.marker p.content) :
    Unchanged p (step (some java) p (removeUnusedImport i)) := by
  rcases step_removeUnusedImport hi p with ⟨-, hstep⟩ | ⟨hline, hunused, -⟩
  · rw [hstep]
    exact .refl p
  · exact absurd (h hline) hunused

theorem unchanged_importSteps (hi : i.Sound) (hj : j.Sound) (hk : k.Sound)
    (hsettled : Settled i c p) (hsettled' : Settled j c p)
    (hused : HasLine k.line p.content → java.Uses k.marker p.content)
    (hc : java.Anchored p.content → java.Anchored c) (hq : q.content = p.content) :
    Unchanged q (importSteps i j k q) := by
  have hout := hsettled.unchanged hi hc hq
  have hboth := hout.trans (hsettled'.unchanged hj hc (hout.content_eq.trans hq))
  refine hboth.trans (unchanged_step_removeUnusedImport hk ?_)
  rwa [hboth.content_eq, hq]

end Refit.Pipeline
