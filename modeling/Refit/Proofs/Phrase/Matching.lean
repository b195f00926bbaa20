import Mathlib.Data.List.Basic
import Refit.Phrase

namespace Refit.Phrase

variable {κ α : Type} {test : κ → α → Bool} {a b p : Phrase κ} {k : κ} {x : α} {w : List α}

@[simp] theorem matches_empty : Matches test .empty w ↔ w = [] := by
  constructor
  · intro h
    cases h
    rfl
  · rintro rfl
    exact .empty

@[simp] theorem matches_one : Matches test (.one k) w ↔ ∃ x, test k x = true ∧ w = [x] := by
  constructor
  · intro h
    cases h with
    | one hx => exact ⟨_, hx, rfl⟩
  · rintro ⟨x, hx, rfl⟩
    exact .one hx

theorem matches_seq :
    Matches test (.seq a b) w ↔ ∃ u v, w = u ++ v ∧ Matches test a u ∧ Matches test b v := by
  constructor
  · intro h
    cases h with
    | seq ha hb => exact ⟨_, _, rfl, ha, hb⟩
  · rintro ⟨u, v, rfl, ha, hb⟩
    exact .seq ha hb

theorem matches_alt : Matches test (.alt a b) w ↔ Matches test a w ∨ Matches test b w := by
  constructor
  · intro h
    cases h with
    | left h => exact .inl h
    | right h => exact .inr h
  · rintro (h | h)
    · exact .left h
    · exact .right h

theorem matches_star_cons : Matches test (.star a) (x :: w) ↔
    ∃ u v, w = u ++ v ∧ Matches test a (x :: u) ∧ Matches test (.star a) v := by
  constructor
  · intro h
    generalize hp : Phrase.star a = p at h
    generalize hw : x :: w = l at h
    induction h with
    | @more _ u v ha hs _ ih =>
      cases hp
      cases u with
      | nil => exact ih rfl hw
      | cons y u =>
        simp only [List.cons_append, List.cons.injEq] at hw
        obtain ⟨rfl, rfl⟩ := hw
        exact ⟨u, v, rfl, ha, hs⟩
    | _ => simp_all
  · rintro ⟨u, v, rfl, ha, hs⟩
    exact .more ha hs

theorem nullable_iff (test : κ → α → Bool) (p : Phrase κ) :
    p.nullable = true ↔ Matches test p [] := by
  induction p with
  | empty => simp [nullable]
  | one k => simp [nullable]
  | seq a b iha ihb => simp [nullable, matches_seq, iha, ihb, and_assoc]
  | alt a b iha ihb => simp [nullable, matches_alt, iha, ihb]
  | star a _ => simp [nullable, Matches.done]

theorem matches_behind : Matches test (behind b a) w ↔ Matches test (.seq a b) w := by
  cases a <;> simp [behind, matches_seq, and_assoc]

theorem matches_cons_iff (p : Phrase κ) (w : List α) :
    Matches test p (x :: w) ↔ ∃ q ∈ next test x p, Matches test q w := by
  induction p generalizing w with
  | empty => simp [next]
  | one k => by_cases h : test k x = true <;> simp [next, h]
  | alt a b iha ihb => simp [next, matches_alt, iha, ihb, or_and_right, exists_or]
  | seq a b iha ihb =>
    have hnext : (∃ q ∈ next test x (.seq a b), Matches test q w) ↔
        (∃ q ∈ next test x a, Matches test (.seq q b) w) ∨
          a.nullable = true ∧ ∃ q ∈ next test x b, Matches test q w := by
      by_cases h : a.nullable = true <;> simp [next, h, matches_behind, or_and_right, exists_or]
    rw [hnext, ← ihb, nullable_iff test]
    constructor
    · intro h
      obtain ⟨u, v, hw, ha, hb⟩ := matches_seq.mp h
      cases u with
      | nil => exact .inr ⟨ha, by simpa [hw] using hb⟩
      | cons y u =>
        simp only [List.cons_append, List.cons.injEq] at hw
        obtain ⟨rfl, rfl⟩ := hw
        obtain ⟨q, hq, hu⟩ := (iha u).mp ha
        exact .inl ⟨q, hq, .seq hu hb⟩
    · rintro (⟨q, hq, h⟩ | ⟨ha, hb⟩)
      · obtain ⟨u, v, rfl, hu, hb⟩ := matches_seq.mp h
        exact .seq ((iha u).mpr ⟨q, hq, hu⟩) hb
      · exact .seq ha hb
  | star a ih =>
    -- The turns of a star that take nothing are passed over, and the next one takes `x`.
    rw [matches_star_cons]
    constructor
    · rintro ⟨u, v, rfl, ha, hs⟩
      obtain ⟨q, hq, hu⟩ := (ih u).mp ha
      exact ⟨_, List.mem_map_of_mem hq, matches_behind.mpr (.seq hu hs)⟩
    · rintro ⟨_, hmem, h⟩
      obtain ⟨q, hq, rfl⟩ := List.mem_map.mp hmem
      obtain ⟨u, v, rfl, hu, hs⟩ := matches_seq.mp (matches_behind.mp h)
      exact ⟨u, v, rfl, (ih u).mpr ⟨q, hq, hu⟩, hs⟩

def classes : Phrase κ → List κ
  | empty => []
  | one k => [k]
  | seq a b | alt a b => a.classes ++ b.classes
  | star a => a.classes

theorem Matches.exists_class (h : Matches test p w) (hx : x ∈ w) :
    ∃ k ∈ p.classes, test k x = true := by
  induction h with
  | empty => cases hx
  | one hk => exact ⟨_, List.mem_singleton_self _, List.mem_singleton.mp hx ▸ hk⟩
  | seq _ _ iha ihb =>
    rcases List.mem_append.mp hx with hx | hx
    · obtain ⟨k, hk, hkx⟩ := iha hx
      exact ⟨k, List.mem_append_left _ hk, hkx⟩
    · obtain ⟨k, hk, hkx⟩ := ihb hx
      exact ⟨k, List.mem_append_right _ hk, hkx⟩
  | left _ ih =>
    obtain ⟨k, hk, hkx⟩ := ih hx
    exact ⟨k, List.mem_append_left _ hk, hkx⟩
  | right _ ih =>
    obtain ⟨k, hk, hkx⟩ := ih hx
    exact ⟨k, List.mem_append_right _ hk, hkx⟩
  | done => cases hx
  | more _ _ iha ihs =>
    rcases List.mem_append.mp hx with hx | hx
    · exact iha hx
    · exact ihs hx

theorem exists_of_matches_all {ps : List (Phrase κ)} (h : Matches test (all ps) w)
    (hp : ps.getLast? = some p) : ∃ u v, w = u ++ v ∧ Matches test p v := by
  induction ps generalizing w with
  | nil => simp at hp
  | cons a ps ih =>
    cases ps with
    | nil =>
      obtain rfl : a = p := by simpa using hp
      exact ⟨[], w, rfl, h⟩
    | cons b ps =>
      obtain ⟨u, v, rfl, -, hv⟩ := matches_seq.mp h
      obtain ⟨u', v', rfl, hv'⟩ := ih hv (by simpa [List.getLast?_cons] using hp)
      exact ⟨u ++ u', v', by simp, hv'⟩

theorem matches_all_concat {ps : List (Phrase κ)} : Matches test (all (ps ++ [p])) w ↔
    ∃ u v, w = u ++ v ∧ Matches test (all ps) u ∧ Matches test p v := by
  induction ps generalizing w with
  | nil => simp [all]
  | cons a ps ih =>
    cases ps with
    | nil => simp [all, matches_seq]
    | cons b ps =>
      simp only [List.cons_append, all, matches_seq] at ih ⊢
      simp only [ih]
      constructor
      · rintro ⟨u, v, rfl, ha, u', v', rfl, hb, hp⟩
        exact ⟨u ++ u', v', by simp, ⟨u, u', rfl, ha, hb⟩, hp⟩
      · rintro ⟨u, v, rfl, ⟨u', v', rfl, ha, hb⟩, hp⟩
        exact ⟨u', v' ++ v, by simp, ha, v', v, rfl, hb, hp⟩

variable [DecidableEq κ]

theorem matches_cons_step (ps : List (Phrase κ)) (w : List α) :
    (∃ p ∈ ps, Matches test p (x :: w)) ↔ ∃ q ∈ step test x ps, Matches test q w := by
  simp only [step, List.mem_eraseDups, List.mem_flatMap, matches_cons_iff]
  constructor
  · rintro ⟨p, hp, q, hq, h⟩
    exact ⟨q, ⟨p, hp, hq⟩, h⟩
  · rintro ⟨q, ⟨p, hp, hq⟩, h⟩
    exact ⟨p, hp, q, hq, h⟩

theorem anyMatches_iff (ps : List (Phrase κ)) (w : List α) :
    anyMatches test ps w = true ↔ ∃ p ∈ ps, Matches test p w := by
  induction w generalizing ps with
  | nil => simp [anyMatches, nullable_iff test]
  | cons x w ih =>
    rw [matches_cons_step, anyMatches]
    cases ps with
    | nil => simp [step]
    | cons p ps => simp [ih]

theorem anyMatchesStart_iff (ps : List (Phrase κ)) (w : List α) :
    anyMatchesStart test ps w = true ↔ ∃ u v, w = u ++ v ∧ ∃ p ∈ ps, Matches test p u := by
  induction w generalizing ps with
  | nil => simp [anyMatchesStart, nullable_iff test]
  | cons x w ih =>
    have hempty : ps.any nullable = true ↔ ∃ p ∈ ps, Matches test p [] := by
      simp [nullable_iff test]
    have hstep : (!ps.isEmpty && anyMatchesStart test (step test x ps) w) = true ↔
        anyMatchesStart test (step test x ps) w = true := by
      cases ps with
      | nil => simp [ih, step]
      | cons p ps => simp
    rw [anyMatchesStart, Bool.or_eq_true, hempty, hstep, ih]
    constructor
    · rintro (h | ⟨u, v, rfl, h⟩)
      · exact ⟨[], x :: w, rfl, h⟩
      · exact ⟨x :: u, v, rfl, (matches_cons_step ps u).mpr h⟩
    · rintro ⟨u, v, hw, h⟩
      cases u with
      | nil => exact .inl h
      | cons y u =>
        simp only [List.cons_append, List.cons.injEq] at hw
        obtain ⟨rfl, rfl⟩ := hw
        exact .inr ⟨u, v, rfl, (matches_cons_step ps u).mp h⟩

theorem matchesAll_iff (p : Phrase κ) (w : List α) :
    matchesAll test p w = true ↔ Matches test p w := by
  simp [matchesAll, anyMatches_iff]

theorem matchesStart_iff (p : Phrase κ) (w : List α) :
    matchesStart test p w = true ↔ ∃ u v, w = u ++ v ∧ Matches test p u := by
  simp [matchesStart, anyMatchesStart_iff]

end Refit.Phrase
