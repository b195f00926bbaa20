import Mathlib.Data.List.Nodup
import Refit.Pipeline
import Refit.Proofs.Language.Kinds

namespace Refit

namespace Text

theorem mem_insertSorted {t u : Text} {ts : List Text} :
    t ∈ insertSorted u ts ↔ t = u ∨ t ∈ ts := by
  induction ts with
  | nil => simp [insertSorted]
  | cons v ts ih =>
    rw [insertSorted]
    cases h : cmp u v with
    | lt => simp
    | eq =>
      have h : List.compareLex compare u v = .eq := h
      obtain rfl : u = v := Std.LawfulEqCmp.eq_of_compare h
      simp
    | gt =>
      simp only [List.mem_cons, ih]
      exact or_left_comm

theorem mem_sortDistinct {t : Text} {ts : List Text} : t ∈ sortDistinct ts ↔ t ∈ ts := by
  suffices ∀ acc : List Text,
      t ∈ ts.foldl (fun acc u => insertSorted u acc) acc ↔ t ∈ acc ∨ t ∈ ts by
    simpa [sortDistinct] using this []
  induction ts with
  | nil => simp
  | cons u ts ih =>
    intro acc
    rw [List.foldl_cons, ih, mem_insertSorted, List.mem_cons]
    rw [or_assoc, or_left_comm]

end Text

namespace Pipeline

variable {l : Language} {guard : Option Language} {before after t : Text} {p : Progress} {r : Rule}
  {rules : List Rule}

/-- Every import that stands on several lines stood on several lines before. -/
def NoNewRepeats (l : Language) (before after : Text) : Prop :=
  ∀ line, 1 < (l.importTexts after).count line → 1 < (l.importTexts before).count line

theorem NoNewRepeats.refl (l : Language) (t : Text) : NoNewRepeats l t t := fun _ h => h

theorem NoNewRepeats.trans (h : NoNewRepeats l before t) (h' : NoNewRepeats l t after) :
    NoNewRepeats l before after := fun line hline => h line (h' line hline)

theorem NoNewRepeats.nodup (h : NoNewRepeats l before after) (hn : (l.importTexts before).Nodup) :
    (l.importTexts after).Nodup := by
  rw [List.nodup_iff_count_le_one] at hn ⊢
  intro line
  by_contra hline
  have := h line (by omega)
  have := hn line
  omega

theorem mem_duplicates {line : Text} :
    line ∈ duplicates l t ↔ 1 < (l.importTexts t).count line := by
  have : duplicates l t = Text.sortDistinct
      ((l.importTexts t).filter fun line => 1 < (l.importTexts t).count line) := rfl
  rw [this, Text.mem_sortDistinct, List.mem_filter, decide_eq_true_eq]
  constructor
  · exact fun h => h.2
  · exact fun h => ⟨List.count_pos_iff.mp (by omega), h⟩

theorem check_eq_ok_iff : check (some l) before after = .ok t ↔
    t = after ∧ NoNewRepeats l before after := by
  rw [check]
  split
  · next line hline =>
    have hnew := List.find?_some hline
    have hmem := List.mem_of_find?_eq_some hline
    simp only [reduceCtorEq, false_iff, not_and]
    intro _ h
    have := mem_duplicates.mpr (h line (mem_duplicates.mp hmem))
    simp_all
  · next hnone =>
    rw [List.find?_eq_none] at hnone
    constructor
    · intro h
      cases h
      refine ⟨rfl, fun line hline => ?_⟩
      have := hnone line (mem_duplicates.mpr hline)
      exact mem_duplicates.mp (by simpa using this)
    · rintro ⟨rfl, -⟩
      rfl

theorem eq_of_check_eq_ok (h : check guard before after = .ok t) : t = after := by
  cases guard with
  | none => exact (Except.ok.inj h).symm
  | some l => exact (check_eq_ok_iff.mp h).1

/-- A step passes over its rule, takes what the rule makes of the text, or warns of the rule. -/
theorem step_cases (guard : Option Language) (p : Progress) (r : Rule) :
    (step guard p r = p ∧
      (r.applies p.content = false ∨ r.apply p.content = .ok p.content)) ∨
    (r.applies p.content = true ∧ ∃ t, t ≠ p.content ∧ r.apply p.content = .ok t ∧
      check guard p.content t = .ok t ∧
      step guard p r = { p with content := t, applied := p.applied ++ [r.description] }) ∨
    (r.applies p.content = true ∧ ∃ e, r.apply p.content >>= check guard p.content = .error e ∧
      step guard p r = { p with warnings := p.warnings ++ [⟨r.description, e⟩] }) := by
  rw [step]
  cases happ : r.applies p.content with
  | false => exact .inl ⟨rfl, .inl rfl⟩
  | true =>
    cases hok : r.apply p.content >>= check guard p.content with
    | error e => exact .inr (.inr ⟨rfl, e, rfl, rfl⟩)
    | ok t =>
      obtain ⟨u, hu, hcheck⟩ : ∃ u, r.apply p.content = .ok u ∧
          check guard p.content u = .ok t := by
        cases hu : r.apply p.content with
        | error e => simp [hu, bind, Except.bind] at hok
        | ok u => exact ⟨u, rfl, by simpa [hu, bind, Except.bind] using hok⟩
      obtain rfl := eq_of_check_eq_ok hcheck
      by_cases ht : t = p.content
      · exact .inl ⟨by simp [ht], .inr (ht ▸ hu)⟩
      · exact .inr (.inl ⟨rfl, t, ht, hu, hcheck, by simp [ht]⟩)

theorem noNewRepeats_step (l : Language) (p : Progress) (r : Rule) :
    NoNewRepeats l p.content (step (some l) p r).content := by
  rcases step_cases (some l) p r with ⟨hs, -⟩ | ⟨-, t, -, -, hcheck, hs⟩ | ⟨-, e, -, hs⟩
  · rw [hs]
    exact .refl l _
  · rw [hs]
    exact (check_eq_ok_iff.mp hcheck).2
  · rw [hs]
    exact .refl l _

theorem noNewRepeats_foldl (l : Language) (rules : List Rule) (p : Progress) :
    NoNewRepeats l p.content (rules.foldl (step (some l)) p).content := by
  induction rules generalizing p with
  | nil => exact .refl l _
  | cons r rules ih => exact (noNewRepeats_step l p r).trans (ih _)

/-- What a watched pipeline leaves, at its end and after any number of its rules, has no import on
several lines that was not on several lines from the start. If all imports differed, they still do.
-/
theorem imports_not_repeated (l : Language) (rules : List Rule) (c : Text) (k : Nat) :
    NoNewRepeats l c (transform { rules, guard := some l } c).content ∧
    NoNewRepeats l c (transform { rules := rules.take k, guard := some l } c).content ∧
    ((l.importTexts c).Nodup →
      (l.importTexts (transform { rules, guard := some l } c).content).Nodup ∧
      (l.importTexts (transform { rules := rules.take k, guard := some l } c).content).Nodup) := by
  have hfold : ∀ rs : List Rule,
      NoNewRepeats l c (transform { rules := rs, guard := some l } c).content := by
    intro rs
    exact noNewRepeats_foldl l rs { content := c }
  exact ⟨hfold rules, hfold _, fun hn => ⟨(hfold rules).nodup hn, (hfold _).nodup hn⟩⟩

end Pipeline

end Refit
