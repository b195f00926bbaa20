import Refit.Call
import Refit.Proofs.Text.Trim

namespace Refit.Rule

variable {t u v : Text} {c : Char} {d : Nat}

def openers : List Char := ['(', '[', '\x7b']

def closers : List Char := [')', ']', '\x7d']

def bracketWeight (c : Char) : Int :=
  if openers.contains c then 1 else if closers.contains c then -1 else 0

def depth : Text → Int
  | [] => 0
  | c :: t => bracketWeight c + depth t

@[simp] theorem depth_nil : depth [] = 0 := rfl

@[simp] theorem depth_cons (c : Char) (t : Text) : depth (c :: t) = bracketWeight c + depth t := rfl

@[simp] theorem depth_append (u v : Text) : depth (u ++ v) = depth u + depth v := by
  induction u with
  | nil => simp
  | cons c u ih => simp [ih, Int.add_assoc]

/-- Each bracket that opens is closed by one of its sort, with brackets of which this is also true
between the two. -/
inductive Balanced : Text → Prop
  | nil : Balanced []
  | plain {c : Char} {t : Text} : c ∉ openers → c ∉ closers → Balanced t → Balanced (c :: t)
  | group {o c : Char} {t rest : Text} : (o, c) ∈ openers.zip closers → Balanced t →
      Balanced rest → Balanced (o :: (t ++ c :: rest))

namespace Balanced

theorem of_plain (h : (t.all fun c => !openers.contains c && !closers.contains c) = true) :
    Balanced t := by
  induction t with
  | nil => exact .nil
  | cons c t ih =>
    obtain ⟨hc, ht⟩ := Bool.and_eq_true_iff.mp h
    rw [Bool.and_eq_true, Bool.not_eq_true', Bool.not_eq_true'] at hc
    exact .plain (by simpa using hc.1) (by simpa using hc.2) (ih ht)

theorem weight_of_pair : ∀ p ∈ openers.zip closers,
    bracketWeight p.1 = 1 ∧ bracketWeight p.2 = -1 := by
  decide

theorem weight_of_plain (ho : c ∉ openers) (hc : c ∉ closers) : bracketWeight c = 0 := by
  simp [bracketWeight, ho, hc]

theorem depth_eq_zero (h : Balanced t) : depth t = 0 := by
  induction h with
  | nil => rfl
  | plain ho hc _ ih => rw [depth_cons, weight_of_plain ho hc, ih, Int.add_zero]
  | group hpair _ _ iht ihrest =>
    obtain ⟨ho, hc⟩ := weight_of_pair _ hpair
    simp only [depth_cons, depth_append, ho, hc, iht, ihrest]
    rfl

theorem depth_nonneg (h : Balanced t) (ht : t = u ++ v) : 0 ≤ depth u := by
  induction h generalizing u v with
  | nil => simp_all
  | plain ho hc _ ih =>
    cases u with
    | nil => exact Int.le_refl 0
    | cons d u =>
      obtain ⟨rfl, hu⟩ := List.cons.inj ht
      rw [depth_cons, weight_of_plain ho hc, Int.zero_add]
      exact ih hu
  | @group o c inner rest hpair hinner _ ihinner ihrest =>
    obtain ⟨ho, hc⟩ := weight_of_pair _ hpair
    cases u with
    | nil => exact Int.le_refl 0
    | cons d u =>
      obtain ⟨rfl, hu⟩ := List.cons.inj ht
      rw [depth_cons, ho]
      rcases List.append_eq_append_iff.mp hu with ⟨w, rfl, hw⟩ | ⟨w, rfl, -⟩
      · rw [depth_append, hinner.depth_eq_zero]
        cases w with
        | nil => simp
        | cons e w =>
          obtain ⟨rfl, hwv⟩ := List.cons.inj hw
          have hrest := ihrest hwv
          rw [depth_cons, hc]
          omega
      · have hinner := ihinner rfl
        omega

end Balanced

theorem exists_comma_cons {p : Text → Prop} : (∃ u v, c :: t = u ++ ',' :: v ∧ p u) ↔
    (c = ',' ∧ p []) ∨ ∃ u v, t = u ++ ',' :: v ∧ p (c :: u) := by
  constructor
  · rintro ⟨u, v, h, hp⟩
    cases u with
    | nil => exact .inl ⟨(List.cons.inj h).1, hp⟩
    | cons d u =>
      obtain ⟨rfl, ht⟩ := List.cons.inj h
      exact .inr ⟨u, v, ht, hp⟩
  · rintro (⟨rfl, hp⟩ | ⟨u, v, rfl, hp⟩)
    · exact ⟨[], t, rfl, hp⟩
    · exact ⟨c :: u, v, rfl, hp⟩

theorem hasOuterComma_cons (d : Nat) (c : Char) (t : Text) : hasOuterComma d (c :: t) =
    if openers.contains c then hasOuterComma (d + 1) t
    else if closers.contains c then hasOuterComma (d - 1) t
    else (c == ',' && d == 0) || hasOuterComma d t := rfl

theorem hasOuterComma_iff (h : ∀ u v, t = u ++ v → 0 ≤ d + depth u) :
    hasOuterComma d t = true ↔ ∃ u v, t = u ++ ',' :: v ∧ d + depth u = 0 := by
  -- The depth stays at zero or above, so counting down never stops short at zero.
  induction t generalizing d with
  | nil => simp [hasOuterComma]
  | cons c t ih =>
    have hlater : ∀ u v, t = u ++ v → 0 ≤ d + (bracketWeight c + depth u) :=
      fun u v ht => h (c :: u) v (by rw [ht]; rfl)
    have hfirst := hlater [] t rfl
    rw [exists_comma_cons, hasOuterComma_cons]
    by_cases ho : c ∈ openers
    · have hw : bracketWeight c = 1 := by simp [bracketWeight, ho]
      have hne : c ≠ ',' := fun hc => absurd (hc ▸ ho) (by decide)
      have hdepth : ∀ u, (↑(d + 1) : Int) + depth u = d + (bracketWeight c + depth u) := by
        intro u
        rw [hw]
        omega
      rw [if_pos (List.contains_iff_mem.mpr ho), ih fun u v ht => hdepth u ▸ hlater u v ht]
      simp only [hdepth, depth_cons, hne, false_and, false_or]
    · by_cases hc : c ∈ closers
      · have hw : bracketWeight c = -1 := by simp [bracketWeight, ho, hc]
        have hne : c ≠ ',' := fun hc' => absurd (hc' ▸ hc) (by decide)
        rw [hw, depth_nil] at hfirst
        have hdepth : ∀ u, (↑(d - 1) : Int) + depth u = d + (bracketWeight c + depth u) := by
          intro u
          rw [hw]
          omega
        rw [if_neg (by simpa using ho), if_pos (List.contains_iff_mem.mpr hc),
          ih fun u v ht => hdepth u ▸ hlater u v ht]
        simp only [hdepth, depth_cons, hne, false_and, false_or]
      · have hw := Balanced.weight_of_plain ho hc
        simp only [hw, Int.zero_add] at hlater
        rw [if_neg (by simpa using ho), if_neg (by simpa using hc), Bool.or_eq_true, ih hlater]
        simp [hw]

theorem not_bracket_of_blank (h : isBlank c = true) : c ∉ openers ∧ c ∉ closers ∧ c ≠ ',' := by
  have hall : ((',' :: (openers ++ closers)).all fun b => !isBlank b) = true := by decide
  have hnot : c ∉ ',' :: (openers ++ closers) := by
    intro hc
    have hsolid := List.all_eq_true.mp hall c hc
    simp [h] at hsolid
  rw [List.mem_cons, List.mem_append, not_or, not_or] at hnot
  exact ⟨hnot.2.1, hnot.2.2, hnot.1⟩

theorem hasOuterComma_blank_cons (h : isBlank c = true) (d : Nat) (t : Text) :
    hasOuterComma d (c :: t) = hasOuterComma d t := by
  obtain ⟨ho, hc, hne⟩ := not_bracket_of_blank h
  rw [hasOuterComma_cons, if_neg (by simpa using ho), if_neg (by simpa using hc)]
  simp [hne]

theorem hasOuterComma_blank_append (hu : ∀ c ∈ u, isBlank c = true) (d : Nat) (t : Text) :
    hasOuterComma d (u ++ t) = hasOuterComma d t := by
  induction u with
  | nil => rfl
  | cons c u ih =>
    obtain ⟨hc, hu⟩ := List.forall_mem_cons.mp hu
    rw [List.cons_append, hasOuterComma_blank_cons hc, ih hu]

theorem hasOuterComma_append_blank (hu : ∀ c ∈ u, isBlank c = true) (d : Nat) (t : Text) :
    hasOuterComma d (t ++ u) = hasOuterComma d t := by
  induction t generalizing d with
  | nil => simpa using hasOuterComma_blank_append hu d []
  | cons c t ih => simp only [List.cons_append, hasOuterComma, ih]

theorem hasOuterComma_trim (d : Nat) (t : Text) :
    hasOuterComma d (Text.trim t) = hasOuterComma d t := by
  rw [← Text.leadingBlanks_append_trimStart t,
    hasOuterComma_blank_append (Text.blank_leadingBlanks t), Text.leadingBlanks_append_trimStart,
    Text.trim, ← hasOuterComma_append_blank (Text.blank_trailingBlanks (Text.trimStart t)),
    Text.trimEnd_append_trailingBlanks]

theorem Balanced.hasOuterComma_trim_iff (h : Balanced t) : hasOuterComma 0 (Text.trim t) = true ↔
    ∃ u v, t = u ++ ',' :: v ∧ depth u = 0 := by
  have hnonneg : ∀ u v, t = u ++ v → 0 ≤ ((0 : Nat) : Int) + depth u := by
    intro u v ht
    simpa using h.depth_nonneg ht
  simpa [hasOuterComma_trim] using hasOuterComma_iff hnonneg

end Refit.Rule
