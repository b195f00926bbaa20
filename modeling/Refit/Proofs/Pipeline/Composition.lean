import Refit.Proofs.Pipeline.Guard

namespace Refit

def Progress.followedBy (p q : Progress) : Progress where
  content := q.content
  applied := p.applied ++ q.applied
  warnings := p.warnings ++ q.warnings

theorem Progress.followedBy_assoc (p q r : Progress) :
    (p.followedBy q).followedBy r = p.followedBy (q.followedBy r) := by
  simp [followedBy]

namespace Pipeline

variable {guard : Option Language} {c : Text} {p : Progress} {r : Rule} {rules : List Rule}

theorem step_eq (guard : Option Language) (p : Progress) (r : Rule) :
    step guard p r = p.followedBy (step guard { content := p.content } r) := by
  rw [step, step]
  dsimp only
  cases r.applies p.content with
  | false => simp [Progress.followedBy]
  | true =>
    cases r.apply p.content >>= check guard p.content with
    | error e => simp [Progress.followedBy]
    | ok t => by_cases ht : t = p.content <;> simp [Progress.followedBy, ht]

theorem content_step (guard : Option Language) (p : Progress) (r : Rule) :
    (step guard p r).content = (step guard { content := p.content } r).content := by
  rw [step_eq]
  rfl

theorem foldl_step_eq (guard : Option Language) (p : Progress) (rules : List Rule) :
    rules.foldl (step guard) p =
      p.followedBy (rules.foldl (step guard) { content := p.content }) := by
  induction rules generalizing p with
  | nil => simp [Progress.followedBy]
  | cons r rules ih =>
    rw [List.foldl_cons, List.foldl_cons, ih, ih (step guard { content := p.content } r),
      content_step, ← Progress.followedBy_assoc, ← step_eq]

/-- A rule is passed over if it does not apply, if it makes no other text, if it fails, or if the
guard refuses what it makes. -/
inductive PassedOver (guard : Option Language) (c : Text) (r : Rule) : Prop
  | unmatched (h : r.applies c = false)
  | unchanged (h : r.apply c = .ok c)
  | failed {e : Failure} (h : r.apply c = .error e)
  | refused {t : Text} {e : Failure} (h : r.apply c = .ok t) (hcheck : check guard c t = .error e)

theorem PassedOver.step_eq (h : PassedOver guard p.content r) :
    ∃ ws, step guard p r = { p with warnings := p.warnings ++ ws } := by
  rcases step_cases guard p r with ⟨hs, -⟩ | ⟨happ, t, hne, hok, hcheck, hs⟩ | ⟨-, e, -, hs⟩
  · exact ⟨[], by simp [hs]⟩
  · cases h with
    | unmatched h => simp [h] at happ
    | unchanged h => exact absurd (Except.ok.inj (hok.symm.trans h)) hne
    | failed h => cases hok.symm.trans h
    | refused h hcheck' =>
      obtain rfl := Except.ok.inj (hok.symm.trans h)
      cases hcheck.symm.trans hcheck'
  · exact ⟨_, hs⟩

theorem passedOver_iff : PassedOver guard c r ↔ (step guard { content := c } r).content = c := by
  constructor
  · intro h
    obtain ⟨ws, hs⟩ := PassedOver.step_eq (p := { content := c }) h
    rw [hs]
  · intro h
    rcases step_cases guard { content := c } r with
      ⟨-, hidle⟩ | ⟨-, t, hne, -, -, hs⟩ | ⟨-, e, herror, -⟩
    · exact hidle.elim .unmatched .unchanged
    · rw [hs] at h
      exact absurd h hne
    · cases hok : r.apply c with
      | error e => exact .failed hok
      | ok t =>
        rw [hok] at herror
        exact .refused hok herror

instance : Decidable (PassedOver guard c r) := decidable_of_iff _ passedOver_iff.symm

theorem warnings_of_not_passedOver (h : ¬PassedOver guard p.content r) :
    (step guard p r).warnings = p.warnings := by
  rcases step_cases guard p r with ⟨hs, -⟩ | ⟨-, t, -, -, -, hs⟩ | ⟨-, e, -, hs⟩
  · rw [hs]
  · rw [hs]
  · refine absurd (passedOver_iff.mpr ?_) h
    rw [← content_step, hs]

def effective (guard : Option Language) : Text → List Rule → List Rule
  | _, [] => []
  | c, r :: rules =>
    let rest := effective guard (step guard { content := c } r).content rules
    if PassedOver guard c r then rest else r :: rest

theorem foldl_effective (guard : Option Language) (p : Progress) (rules : List Rule) :
    (effective guard p.content rules).foldl (step guard) p =
      { rules.foldl (step guard) p with warnings := p.warnings } := by
  induction rules generalizing p with
  | nil => rfl
  | cons r rules ih =>
    rw [effective, ← content_step, List.foldl_cons]
    split
    · next h =>
      obtain ⟨ws, hs⟩ := h.step_eq
      rw [hs, ih, foldl_step_eq guard p, foldl_step_eq guard { p with warnings := _ }]
      rfl
    · next h =>
      rw [List.foldl_cons, ih, warnings_of_not_passedOver h]

/-- Two lists of rules in a row do what the second one does to what the first one has left, and say
what both say. The rules that are passed over at their turn can be left out: the text, and what is
said of the rules that changed it, stay as they are. -/
theorem transform_composes (guard : Option Language) (a b rules : List Rule) (c : Text) :
    (let first := transform { rules := a, guard } c
     let second := transform { rules := b, guard } first.content
     transform { rules := a ++ b, guard } c =
      { content := second.content
        applied := first.applied ++ second.applied
        warnings := first.warnings ++ second.warnings
        changed := second.content != c }) ∧
    transform { rules := effective guard c rules, guard } c =
      { transform { rules, guard } c with warnings := [] } := by
  constructor
  · intro first second
    have hfold := foldl_step_eq guard (a.foldl (step guard) { content := c }) b
    rw [transform, List.foldl_append, hfold]
    rfl
  · rw [transform, foldl_effective]
    rfl

end Pipeline

end Refit
