import Refit.Proofs.Call.Segments
import Refit.Proofs.Pipeline.Composition
import Refit.Proofs.Pipeline.Retyping
import Refit.Proofs.Rule.Settling

namespace Refit

/-- What two orders of the same rules come to: the rules are told in another order. -/
structure Progress.Agrees (p q : Progress) : Prop where
  content_eq : p.content = q.content
  applied_perm : p.applied.Perm q.applied
  warnings_eq : p.warnings = q.warnings

namespace Pipeline

open Call (Bare Proper renew_comm)
open Refit.Language (java)
open Rule (Retyping ensureImport removeUnusedImport retypeSignature)

variable {guard : Option Language} {p q : Progress} {r : Retyping} {m : Token}
  {x y : Token × Retyping} {qs qs' : List (Token × Retyping)}

theorem bare_apply (hne : r.token.literal ≠ []) (hr : Bare r.replacement) (args : Text)
    (h : Bare args) : Bare (r.apply args) :=
  ⟨Retyping.not_mem_apply hne hr.opens h.opens, Retyping.not_mem_apply hne hr.closes h.closes⟩

structure Tame (q : Token × Retyping) : Prop where
  proper : Proper q.1
  token_ne : q.2.token.literal ≠ []
  bare : Bare q.2.replacement

structure Independent (qs : List (Token × Retyping)) : Prop where
  tame : ∀ q ∈ qs, Tame q
  distinct : (qs.map Prod.fst).Nodup
  alters : ∀ q ∈ qs, q.2.replacement ≠ q.2.token.literal

theorem Independent.perm (h : Independent qs) (hqs : qs.Perm qs') : Independent qs' where
  tame q hq := h.tame q (hqs.mem_iff.mpr hq)
  distinct := (hqs.map Prod.fst).nodup_iff.mp h.distinct
  alters q hq := h.alters q (hqs.mem_iff.mpr hq)

theorem Independent.tail (h : Independent (x :: qs)) : Independent qs where
  tame q hq := h.tame q (List.mem_cons_of_mem _ hq)
  distinct := (List.nodup_cons.mp h.distinct).2
  alters q hq := h.alters q (List.mem_cons_of_mem _ hq)

theorem Independent.head_ne (h : Independent (x :: qs)) (hy : y ∈ qs) : x.1 ≠ y.1 :=
  fun heq => (List.nodup_cons.mp h.distinct).1 (heq ▸ List.mem_map_of_mem hy)

def retypeAll (qs : List (Token × Retyping)) (t : Text) : Text :=
  qs.foldl (fun t q => q.2.applyToCalls q.1 t) t

theorem applyToCalls_comm (hx : Tame x) (hy : Tame y) (hne : x.1 ≠ y.1) (t : Text) :
    y.2.applyToCalls y.1 (x.2.applyToCalls x.1 t) =
      x.2.applyToCalls x.1 (y.2.applyToCalls y.1 t) :=
  renew_comm hx.proper hy.proper hne (bare_apply hx.token_ne hx.bare)
    (bare_apply hy.token_ne hy.bare) t

theorem retypeAll_perm (h : Independent qs) (hqs : qs.Perm qs') (t : Text) :
    retypeAll qs t = retypeAll qs' t := by
  refine hqs.foldl_eq' (fun x hx y hy t => ?_) t
  by_cases hxy : x = y
  · rw [hxy]
  · have hne : x.1 ≠ y.1 := fun heq => hxy (List.inj_on_of_nodup_map h.distinct hx hy heq)
    exact applyToCalls_comm (h.tame x hx) (h.tame y hy) hne t

def concerns (t : Text) (q : Token × Retyping) : Bool := (retypeSignature q.1 q.2).applies t

def retypeDescription (q : Token × Retyping) : Text := (retypeSignature q.1 q.2).description

theorem concerns_applyToCalls (hx : Tame x) (hy : Tame y) (hne : x.1 ≠ y.1) (t : Text) :
    concerns (x.2.applyToCalls x.1 t) y = concerns t y := by
  have hhits := Call.hits_renew hx.proper hy.proper hne (bare_apply hx.token_ne hx.bare) t
  exact congrArg (List.any · fun c => y.2.token.occursIn c.arguments) hhits

theorem step_retypeSignature (hne : x.2.token.literal ≠ [])
    (halters : x.2.replacement ≠ x.2.token.literal)
    (h : (step guard p (retypeSignature x.1 x.2)).warnings = p.warnings) :
    step guard p (retypeSignature x.1 x.2) =
      { p with
        content := x.2.applyToCalls x.1 p.content
        applied := p.applied ++ if concerns p.content x then [retypeDescription x] else [] } := by
  have hexact := Retyping.retypeSignature_exact (m := x.1) hne halters
  rcases step_cases guard p (retypeSignature x.1 x.2) with
    ⟨hstep, hidle⟩ | ⟨happ, t, -, happly, -, hstep⟩ | ⟨-, e, -, hstep⟩
  · have hok : (retypeSignature x.1 x.2).apply p.content = .ok p.content :=
      hidle.elim (hexact.idle _) id
    have hnot : concerns p.content x = false := by
      rw [concerns, ← Bool.not_eq_true]
      exact fun happ => hexact.alters _ happ hok
    have hcontent : x.2.applyToCalls x.1 p.content = p.content := Except.ok.inj hok
    rw [hstep, hnot, hcontent]
    simp
  · have hconcerns : concerns p.content x = true := happ
    rw [hstep, hconcerns, ← Except.ok.inj happly]
    rfl
  · rw [hstep] at h
    simp at h

theorem warnings_prefix_step (guard : Option Language) (p : Progress) (r : Rule) :
    p.warnings <+: (step guard p r).warnings := by
  rw [step_eq]
  exact List.prefix_append _ _

theorem warnings_prefix_retype (guard : Option Language) (qs : List (Token × Retyping))
    (p : Progress) : p.warnings <+: (retype guard qs p).warnings := by
  rw [retype, foldl_step_eq]
  exact List.prefix_append _ _

theorem retype_eq (h : Independent qs) (hw : (retype guard qs p).warnings = p.warnings) :
    retype guard qs p =
      { p with
        content := retypeAll qs p.content
        applied := p.applied ++ (qs.filter (concerns p.content)).map retypeDescription } := by
  induction qs generalizing p with
  | nil => simp [retype, retypeAll]
  | cons x qs ih =>
    have hrest : retype guard (x :: qs) p =
        retype guard qs (step guard p (retypeSignature x.1 x.2)) := rfl
    rw [hrest] at hw ⊢
    have hfirst : (step guard p (retypeSignature x.1 x.2)).warnings = p.warnings := by
      have hprefix := warnings_prefix_retype guard qs (step guard p (retypeSignature x.1 x.2))
      rw [hw] at hprefix
      exact hprefix.eq_of_length_le (warnings_prefix_step guard p _).length_le
    have hx := h.tame x List.mem_cons_self
    have hstep := step_retypeSignature hx.token_ne (h.alters x List.mem_cons_self) hfirst
    have hsame : qs.filter (concerns (x.2.applyToCalls x.1 p.content)) =
        qs.filter (concerns p.content) := List.filter_congr fun y hy =>
      concerns_applyToCalls hx (h.tail.tame y hy) (h.head_ne hy) p.content
    rw [ih h.tail (hw.trans hfirst.symm), hstep]
    dsimp only
    rw [hsame, List.filter_cons]
    cases concerns p.content x <;> simp [retypeAll]

theorem agrees_retype (h : Independent qs) (hqs : qs.Perm qs')
    (hw : (retype guard qs p).warnings = p.warnings)
    (hw' : (retype guard qs' p).warnings = p.warnings) :
    (retype guard qs p).Agrees (retype guard qs' p) := by
  rw [retype_eq h hw, retype_eq (h.perm hqs) hw']
  exact ⟨retypeAll_perm h hqs _, ((hqs.filter _).map _).append_left _, rfl⟩

theorem agrees_foldl_step (h : p.Agrees q) (guard : Option Language) (rules : List Rule) :
    (rules.foldl (step guard) p).Agrees (rules.foldl (step guard) q) := by
  rw [foldl_step_eq guard p, foldl_step_eq guard q, h.content_eq]
  exact ⟨rfl, h.applied_perm.append_right _, congrArg (· ++ _) h.warnings_eq⟩

theorem agrees_importSteps {i j k : Import} (h : p.Agrees q) :
    (importSteps i j k p).Agrees (importSteps i j k q) :=
  agrees_foldl_step h (some java) [ensureImport i, ensureImport j, removeUnusedImport k]

theorem warnings_step_retypeSignature
    (h : check guard p.content (r.applyToCalls m p.content) = .ok (r.applyToCalls m p.content)) :
    (step guard p (retypeSignature m r)).warnings = p.warnings := by
  rcases step_cases guard p (retypeSignature m r) with
    ⟨hstep, -⟩ | ⟨-, t, -, -, -, hstep⟩ | ⟨-, e, herror, -⟩
  · rw [hstep]
  · rw [hstep]
  · have herror : check guard p.content (r.applyToCalls m p.content) = .error e := herror
    rw [h] at herror
    cases herror

theorem warnings_retype {type : Token} (hqs : Replaces type qs)
    (hoff : java.OffImports type.literal p.content) :
    (retype (some java) qs p).warnings = p.warnings := by
  induction qs generalizing p with
  | nil => rfl
  | cons x qs ih =>
    obtain ⟨-, hr, rfl⟩ := hqs x List.mem_cons_self
    have hfirst : (step (some java) p (retypeSignature x.1 x.2)).warnings = p.warnings :=
      warnings_step_retypeSignature (check_applyToCalls hr hoff)
    obtain ⟨hcontent, hlines⟩ := content_step_retypeSignature (m := x.1) hr hoff
    rw [← hcontent] at hlines
    rw [← hfirst]
    exact ih (fun y hy => hqs y (List.mem_cons_of_mem _ hy))
      (offImports_of_importLines hlines hoff)

end Pipeline

end Refit
