import Mathlib.Data.List.Forall2
import Mathlib.Data.List.Infix
import Refit.Proofs.Text.Cut
import Refit.Proofs.Text.Lines

namespace Refit.Text

variable {a b t t' u u' x' y' z : Text} {c : Char}

inductive Swapped (a b : Text) : Text → Text → Prop
  | nil : Swapped a b [] []
  | keep {t t' : Text} (c : Char) : Swapped a b t t' → Swapped a b (c :: t) (c :: t')
  | swap {t t' : Text} : Swapped a b t t' → Swapped a b (a ++ t) (b ++ t')

/-- No occurrence of a text overlaps with an occurrence of another, wherever they stand. -/
structure Apart (a b : Text) : Prop where
  left : ∀ s, s ≠ [] → s <:+ a → ¬ s <+: b ∧ ¬ b <+: s
  right : ∀ s, s ≠ [] → s <:+ b → ¬ s <+: a ∧ ¬ a <+: s

theorem mem_of_suffix (h : a.getLast? = some c) {s : Text} (hne : s ≠ []) (hs : s <:+ a) :
    c ∈ s := by
  obtain ⟨r, rfl⟩ := hs
  rw [List.getLast?_append_of_ne_nil r hne] at h
  exact List.mem_of_getLast? h

theorem Apart.of_getLast? {d : Char} (ha : a.getLast? = some c) (hc : c ∉ b)
    (hb : b.getLast? = some d) (hd : d ∉ a) : Apart a b where
  left s hne hs := by
    constructor
    · intro h
      exact hc (h.subset (mem_of_suffix ha hne hs))
    · intro h
      exact hd (hs.subset (h.subset (List.mem_of_getLast? hb)))
  right s hne hs := by
    constructor
    · intro h
      exact hd (h.subset (mem_of_suffix hb hne hs))
    · intro h
      exact hc (hs.subset (h.subset (List.mem_of_getLast? ha)))

theorem Apart.of_not_mem (hne : a ≠ []) (h : c ∉ a) : Apart a [c] := by
  have hlast : [c].getLast? = some c := rfl
  obtain ⟨d, hd⟩ := Option.isSome_iff_exists.mp (List.getLast?_isSome.mpr hne)
  refine .of_getLast? hd ?_ hlast h
  intro hmem
  rw [List.mem_singleton] at hmem
  exact h (hmem ▸ List.mem_of_getLast? hd)

theorem apart_of_tails (ha : ∀ s ∈ a.tails, s ≠ [] → ¬ s <+: b ∧ ¬ b <+: s)
    (hb : ∀ s ∈ b.tails, s ≠ [] → ¬ s <+: a ∧ ¬ a <+: s) : Apart a b where
  left s hne hs := ha s ((List.mem_tails s a).mpr hs) hne
  right s hne hs := hb s ((List.mem_tails s b).mpr hs) hne

theorem Apart.behind {w x y : Text} (h : Apart b z) (heq : b ++ w = x ++ (z ++ y)) :
    ∃ r, x = b ++ r ∧ w = r ++ (z ++ y) := by
  rcases List.append_eq_append_iff.mp heq with ⟨r, hx, hw⟩ | ⟨s, hs, hzy⟩
  · exact ⟨r, hx, hw⟩
  · by_cases hsn : s = []
    · subst hsn
      exact ⟨[], by simpa using hs.symm, by simpa using hzy.symm⟩
    · have hapart := h.left s hsn ⟨x, hs.symm⟩
      rcases List.prefix_or_prefix_of_prefix ⟨w, rfl⟩ ⟨y, hzy⟩ with hp | hp
      · exact absurd hp hapart.1
      · exact absurd hp hapart.2

namespace Swapped

theorem refl (t : Text) : Swapped a b t t := by
  induction t with
  | nil => exact .nil
  | cons c t ih => exact .keep c ih

theorem whole : Swapped a b a b := by simpa using Swapped.swap (a := a) (b := b) .nil

theorem symm (h : Swapped a b t t') : Swapped b a t' t := by
  induction h with
  | nil => exact .nil
  | keep c _ ih => exact .keep c ih
  | swap _ ih => exact .swap ih

theorem append (h : Swapped a b t t') (hu : Swapped a b u u') :
    Swapped a b (t ++ u) (t' ++ u') := by
  induction h with
  | nil => exact hu
  | keep c _ ih => exact .keep c ih
  | swap _ ih => simpa using Swapped.swap ih

theorem flatMap {α : Type} {ps : List α} {f g : α → Text}
    (h : ∀ p ∈ ps, Swapped a b (f p) (g p)) : Swapped a b (ps.flatMap f) (ps.flatMap g) := by
  induction ps with
  | nil => exact .nil
  | cons p ps ih =>
    simp only [List.mem_cons, forall_eq_or_imp] at h
    exact h.1.append (ih h.2)

theorem of_cut {α : Type} {find : Finder α} {text f : α → Text} {o : Option Char}
    {ps : List (Piece α)} (hcut : Cut find text o t ps)
    (h : ∀ p, .hit p ∈ ps → Swapped a b (text p) (f p)) :
    Swapped a b t (ps.flatMap (Piece.render f)) := by
  nth_rewrite 1 [← hcut.flatMap_render]
  apply flatMap
  intro p hp
  cases p with
  | gap c => exact refl [c]
  | hit p => exact h p hp

theorem replaceHits {α : Type} {find : Finder α} {text f : α → Text} (hs : find.Spells text)
    (h : ∀ p ∈ hits find t, Swapped a b (text p) (f p)) :
    Swapped a b t (replaceHits find f t) := by
  rw [replaceHits_eq]
  exact of_cut (cut_pieces hs t) fun p hp => h p (mem_hits.mpr hp)

theorem eq_of_not_mem (h : Swapped a b t t') (hb : c ∈ b) (ht : c ∉ t') : t = t' := by
  induction h with
  | nil => rfl
  | keep d _ ih => rw [ih fun hc => ht (List.mem_cons_of_mem d hc)]
  | swap => exact absurd (List.mem_append_left _ hb) ht

theorem eq_of_not_infix (h : Swapped a b t t') (ha : ¬ a <:+: t) : t = t' := by
  induction h with
  | nil => rfl
  | keep d _ ih => rw [ih fun h => ha (h.trans (List.suffix_cons d _).isInfix)]
  | swap => exact absurd (List.prefix_append a _).isInfix ha

theorem mem_or_mem (h : Swapped a b t t') (hc : c ∈ t) : c ∈ t' ∨ c ∈ a := by
  induction h with
  | nil => exact .inl hc
  | keep d _ ih =>
    rcases List.mem_cons.mp hc with rfl | hc
    · exact .inl List.mem_cons_self
    · exact (ih hc).imp_left (List.mem_cons_of_mem d)
  | swap _ ih =>
    rcases List.mem_append.mp hc with hc | hc
    · exact .inr hc
    · exact (ih hc).imp_left (List.mem_append_right b)

theorem any_getLast?_or (h : Swapped a b t t') (p : Char → Bool) (ha : a ≠ []) (hb : b ≠ [])
    (hp : a.getLast?.any p = b.getLast?.any p) {o o' : Option Char} (ho : o.any p = o'.any p) :
    (t.getLast?.or o).any p = (t'.getLast?.or o').any p := by
  induction h generalizing o o' with
  | nil => exact ho
  | keep c _ ih =>
    rw [getLast?_cons_or, getLast?_cons_or]
    exact ih rfl
  | swap _ ih =>
    obtain ⟨c, hc⟩ := Option.isSome_iff_exists.mp (List.getLast?_isSome.mpr ha)
    obtain ⟨d, hd⟩ := Option.isSome_iff_exists.mp (List.getLast?_isSome.mpr hb)
    rw [hc, hd] at hp
    rw [List.getLast?_append, List.getLast?_append, Option.or_assoc, Option.or_assoc, hc, hd]
    exact ih hp

theorem cut_start (h : Swapped a b t (z ++ y')) (hz : Apart b z) :
    ∃ y, t = z ++ y ∧ Swapped a b y y' := by
  suffices ∀ s t, s <:+ z → Swapped a b t (s ++ y') → ∃ y, t = s ++ y ∧ Swapped a b y y' from
    this z t List.suffix_rfl h
  intro s
  induction s with
  | nil => exact fun t _ h => ⟨t, rfl, h⟩
  | cons c s ih =>
    intro t hs h
    generalize hw : c :: s ++ y' = w at h
    cases h with
    | nil => cases hw
    | keep d h =>
      simp only [List.cons_append, List.cons.injEq] at hw
      obtain ⟨rfl, rfl⟩ := hw
      obtain ⟨y, rfl, hy⟩ := ih _ ((List.suffix_cons c s).trans hs) h
      exact ⟨y, rfl, hy⟩
    | @swap _ v _ =>
      have hapart := hz.right (c :: s) (List.cons_ne_nil c s) hs
      rcases List.prefix_or_prefix_of_prefix ⟨y', hw⟩ ⟨v, rfl⟩ with hp | hp
      · exact absurd hp hapart.1
      · exact absurd hp hapart.2

theorem cut (h : Swapped a b t (x' ++ (z ++ y'))) (hz : Apart b z) (hne : z ≠ []) :
    ∃ x y, t = x ++ (z ++ y) ∧ Swapped a b x x' ∧ Swapped a b y y' := by
  generalize hw : x' ++ (z ++ y') = w at h
  induction h generalizing x' with
  | nil => simp [hne] at hw
  | @keep t w c h ih =>
    cases x' with
    | nil =>
      have hkeep : Swapped a b (c :: t) (z ++ y') := by simpa [← hw] using h.keep c
      obtain ⟨y, hy, hyy⟩ := hkeep.cut_start hz
      exact ⟨[], y, by simpa using hy, .nil, hyy⟩
    | cons d x' =>
      simp only [List.cons_append, List.cons.injEq] at hw
      obtain ⟨rfl, hw⟩ := hw
      obtain ⟨x, y, rfl, hx, hy⟩ := ih hw
      exact ⟨d :: x, y, rfl, hx.keep d, hy⟩
  | @swap t w h ih =>
    obtain ⟨r, rfl, hr⟩ := hz.behind hw.symm
    obtain ⟨x, y, rfl, hx, hy⟩ := ih hr.symm
    exact ⟨a ++ x, y, by simp, hx.swap, hy⟩

theorem splitLines (h : Swapped a b t t') (ha : a ≠ []) (hb : b ≠ []) (hna : '\n' ∉ a)
    (hnb : '\n' ∉ b) : List.Forall₂ (Swapped a b) (splitLines t) (splitLines t') := by
  induction h with
  | nil => exact .nil
  | @keep t t' c _ ih =>
    rw [Text.splitLines, Text.splitLines]
    generalize Text.splitLines t = ls at ih
    generalize Text.splitLines t' = ls' at ih
    split
    · exact .cons (refl [c]) ih
    · cases ih with
      | nil => exact .cons (refl [c]) .nil
      | cons hl hls => exact .cons (hl.keep c) hls
  | @swap t t' _ ih =>
    rw [splitLines_append ha hna, splitLines_append hb hnb]
    generalize Text.splitLines t = ls at ih
    generalize Text.splitLines t' = ls' at ih
    cases ih with
    | nil => exact .cons whole .nil
    | cons hl hls => exact .cons hl.swap hls

end Swapped

end Refit.Text
