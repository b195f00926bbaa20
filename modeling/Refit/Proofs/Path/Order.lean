import Mathlib.Data.Finset.Card
import Mathlib.Data.List.Sort
import Refit.Path

namespace Refit

instance : Std.TransCmp Text.cmp := inferInstanceAs (Std.TransCmp (List.compareLex compare))

instance : Std.LawfulEqCmp Text.cmp := inferInstanceAs (Std.LawfulEqCmp (List.compareLex compare))

namespace Component

instance : Std.TransCmp fun a b : Component => Text.cmp a.text b.text where
  eq_swap := Std.OrientedCmp.eq_swap
  isLE_trans := Std.TransCmp.isLE_trans

instance : Std.TransCmp cmp :=
  inferInstanceAs (Std.TransCmp (compareLex (compareOn rank) fun a b => Text.cmp a.text b.text))

instance : Std.LawfulEqCmp cmp where
  eq_of_compare {a b} h := by
    obtain ⟨hrank, htext⟩ := Ordering.then_eq_eq.mp h
    have hrank : a.rank = b.rank := Std.LawfulEqCmp.eq_of_compare hrank
    have htext : a.text = b.text := Std.LawfulEqCmp.eq_of_compare htext
    cases a <;> cases b <;> simp_all [rank, text]

end Component

namespace Path

variable {p q : Path} {ps qs rs : List Path}

instance : Std.TransCmp cmp where
  eq_swap {_ _} := @Std.OrientedCmp.eq_swap _ (List.compareLex Component.cmp) _ _ _
  isLE_trans {_ _ _} := @Std.TransCmp.isLE_trans _ (List.compareLex Component.cmp) _ _ _ _

theorem cmp_eq_iff : cmp p q = .eq ↔ p.same q = true := by
  rw [same, beq_iff_eq]
  exact @Std.LawfulEqCmp.compare_eq_iff_eq _ (List.compareLex Component.cmp) _ _ _

theorem not_same_of_lt (h : cmp p q = .lt) : q.same p = false := by
  rw [← Bool.not_eq_true, ← cmp_eq_iff, Std.OrientedCmp.eq_comm, h]
  decide

@[simp] theorem same_refl (p : Path) : p.same p = true := beq_self_eq_true p.components

theorem insertSorted_eq_append (h : ∀ q ∈ ps, cmp q p = .lt) : p.insertSorted ps = ps ++ [p] := by
  induction ps with
  | nil => rfl
  | cons q ps ih =>
    simp only [List.mem_cons, forall_eq_or_imp] at h
    rw [insertSorted, Std.OrientedCmp.gt_iff_lt.mpr h.1, ih h.2]
    rfl

def Ascending (ps : List Path) : Prop := ps.Pairwise fun p q => cmp p q = .lt

instance : DecidablePred Ascending := fun ps =>
  inferInstanceAs (Decidable (ps.Pairwise fun p q => cmp p q = .lt))

def places (ps : List Path) : Finset (List Component) := (ps.map components).toFinset

theorem same_eq_false_iff : p.same q = false ↔ p.components ≠ q.components := by
  rw [same, beq_eq_false_iff_ne]

theorem components_ne_of_lt (h : cmp p q = .lt) : p.components ≠ q.components :=
  (same_eq_false_iff.mp (not_same_of_lt h)).symm

instance : Std.Irrefl fun p q : Path => cmp p q = .lt where
  irrefl _ h := components_ne_of_lt h rfl

instance : Std.Antisymm fun p q : Path => cmp p q = .lt where
  antisymm _ _ h h' := absurd rfl (components_ne_of_lt (Std.TransCmp.lt_trans h h'))

@[simp] theorem places_nil : places [] = ∅ := rfl

@[simp] theorem places_cons (p : Path) (ps : List Path) :
    places (p :: ps) = insert p.components (places ps) := List.toFinset_cons

@[simp] theorem places_append (ps qs : List Path) :
    places (ps ++ qs) = places ps ∪ places qs := by
  rw [places, List.map_append, List.toFinset_append]
  rfl

theorem card_places_eq_length_iff :
    (places ps).card = ps.length ↔ ps.Pairwise fun p q => p.same q = false := by
  have hnodup :=
    Multiset.toFinset_card_eq_card_iff_nodup (m := Multiset.ofList (ps.map components))
  rw [Multiset.coe_card, List.length_map] at hnodup
  refine hnodup.trans ?_
  simp only [Multiset.coe_nodup, List.Nodup, List.pairwise_map, same_eq_false_iff]

theorem any_same_iff : ps.any p.same = true ↔ p.components ∈ places ps := by
  induction ps with
  | nil => simp
  | cons q ps ih => simp [ih, same]

theorem places_insertSorted (p : Path) (ps : List Path) :
    places (p.insertSorted ps) = insert p.components (places ps) := by
  induction ps with
  | nil => rfl
  | cons q ps ih =>
    rw [insertSorted]
    split
    · rw [places_cons]
    · next h =>
      have hsame : p.components = q.components := beq_iff_eq.mp (cmp_eq_iff.mp h)
      simp [hsame]
    · rw [places_cons, ih, Finset.insert_comm, places_cons]

namespace Ascending

theorem pairwise_same (h : Ascending ps) : ps.Pairwise fun p q => p.same q = false :=
  h.imp fun hlt => same_eq_false_iff.mpr (components_ne_of_lt hlt)

theorem card_places (h : Ascending ps) : (places ps).card = ps.length :=
  card_places_eq_length_iff.mpr h.pairwise_same

theorem not_mem_places (h : Ascending (p :: ps)) : p.components ∉ places ps := by
  simp only [places, List.mem_toFinset, List.mem_map, not_exists, not_and]
  intro q hq heq
  exact components_ne_of_lt ((List.pairwise_cons.mp h).1 q hq) heq.symm

theorem cons (h : Ascending (q :: ps)) (hlt : cmp p q = .lt) : Ascending (p :: q :: ps) := by
  refine List.pairwise_cons.mpr ⟨?_, h⟩
  simp only [List.mem_cons, forall_eq_or_imp]
  exact ⟨hlt, fun r hr => Std.TransCmp.lt_trans hlt ((List.pairwise_cons.mp h).1 r hr)⟩

theorem mem_insertSorted (h : Ascending ps) :
    q ∈ p.insertSorted ps ↔ q ∈ ps ∨ q = p ∧ p.components ∉ places ps := by
  induction ps with
  | nil => simp [Path.insertSorted]
  | cons r ps ih =>
    rw [Path.insertSorted]
    split
    · next hlt => rw [and_iff_left (h.cons hlt).not_mem_places, List.mem_cons, or_comm]
    · next heq =>
      have hsame : p.components = r.components := beq_iff_eq.mp (cmp_eq_iff.mp heq)
      simp [hsame]
    · next hgt =>
      have hne := components_ne_of_lt (Std.OrientedCmp.gt_iff_lt.mp hgt)
      simp [ih (List.pairwise_cons.mp h).2, hne.symm, or_assoc]

theorem insertSorted (h : Ascending ps) (p : Path) : Ascending (p.insertSorted ps) := by
  induction ps with
  | nil => exact List.pairwise_singleton _ _
  | cons q ps ih =>
    obtain ⟨hq, hps⟩ := List.pairwise_cons.mp h
    rw [Path.insertSorted]
    split
    · next hlt => exact h.cons hlt
    · exact h
    · next hgt =>
      refine List.pairwise_cons.mpr ⟨fun r hr => ?_, ih hps⟩
      obtain hr | ⟨rfl, -⟩ := (mem_insertSorted hps).mp hr
      · exact hq r hr
      · exact Std.OrientedCmp.gt_iff_lt.mp hgt

end Ascending

def union (ps qs : List Path) : List Path := qs.foldl (fun ps p => p.insertSorted ps) ps

@[simp] theorem union_cons (ps : List Path) (q : Path) (qs : List Path) :
    union ps (q :: qs) = union (q.insertSorted ps) qs := rfl

theorem places_union (ps qs : List Path) : places (union ps qs) = places ps ∪ places qs := by
  induction qs generalizing ps with
  | nil => simp [union]
  | cons q qs ih =>
    rw [union_cons, ih, places_insertSorted, places_cons, Finset.insert_union, Finset.union_insert]

namespace Ascending

theorem union (h : Ascending ps) (qs : List Path) : Ascending (union ps qs) := by
  induction qs generalizing ps with
  | nil => exact h
  | cons q qs ih => exact ih (h.insertSorted q)

theorem mem_union (hp : Ascending ps) (hq : Ascending qs) :
    p ∈ Path.union ps qs ↔ p ∈ ps ∨ p ∈ qs ∧ p.components ∉ places ps := by
  induction qs generalizing ps with
  | nil => simp [Path.union]
  | cons q qs ih =>
    have hne : p ∈ qs → p.components ≠ q.components := fun hmem =>
      (components_ne_of_lt ((List.pairwise_cons.mp hq).1 p hmem)).symm
    rw [union_cons, ih (hp.insertSorted q) (List.pairwise_cons.mp hq).2, hp.mem_insertSorted,
      places_insertSorted, Finset.mem_insert, List.mem_cons]
    by_cases hpq : p = q
    · simp [hpq]
    · simp only [hpq, false_and, or_false, false_or, not_or]
      exact or_congr_right (and_congr_right fun hmem => and_iff_right (hne hmem))

theorem union_assoc (hp : Ascending ps) (hq : Ascending qs) (hr : Ascending rs) :
    Path.union (Path.union ps qs) rs = Path.union ps (Path.union qs rs) := by
  refine ((hp.union qs).union rs).eq_of_mem_iff (hp.union _) fun p => ?_
  rw [(hp.union qs).mem_union hr, hp.mem_union hq, hp.mem_union (hq.union rs), hq.mem_union hr,
    places_union, Finset.mem_union]
  tauto

theorem nil_union (hp : Ascending ps) : Path.union [] ps = ps := by
  have hnil : Ascending [] := List.Pairwise.nil
  refine (hnil.union ps).eq_of_mem_iff hp fun p => ?_
  simp [hnil.mem_union hp]

end Ascending

theorem find?_same_eq_none_iff : ps.find? p.same = none ↔ p.components ∉ places ps := by
  rw [← any_same_iff, List.find?_eq_none, List.any_eq_true]
  push Not
  rfl

theorem mem_union_nil_iff : p ∈ union [] qs ↔ qs.find? p.same = some p := by
  induction qs using List.reverseRecOn with
  | nil => simp [union]
  | append_singleton qs q ih =>
    have hnil : Ascending [] := List.Pairwise.nil
    have hunion : union [] (qs ++ [q]) = q.insertSorted (union [] qs) := List.foldl_concat ..
    rw [hunion, (hnil.union qs).mem_insertSorted, ih, places_union, places_nil,
      Finset.empty_union, List.find?_append, Option.or_eq_some_iff, find?_same_eq_none_iff]
    refine or_congr_right ⟨?_, ?_⟩
    · rintro ⟨rfl, hnew⟩
      exact ⟨hnew, by simp⟩
    · rintro ⟨hnew, hq⟩
      obtain rfl : p = q := List.mem_singleton.mp (List.mem_of_find?_eq_some hq)
      exact ⟨rfl, hnew⟩

theorem same_congr (h : p.same q = true) : p.same = q.same := by
  funext r
  rw [same, same, eq_of_beq h]

theorem existsUnique_union_nil (h : q ∈ qs) : ∃! p, p ∈ union [] qs ∧ q.same p = true := by
  obtain ⟨p, hp⟩ := Option.isSome_iff_exists.mp (List.find?_isSome.mpr ⟨q, h, same_refl q⟩)
  have hsame : q.same p = true := List.find?_some hp
  refine ⟨p, ⟨mem_union_nil_iff.mpr (same_congr hsame ▸ hp), hsame⟩, ?_⟩
  rintro r ⟨hr, hqr⟩
  have hfirst := mem_union_nil_iff.mp hr
  rw [← same_congr hqr, hp] at hfirst
  exact (Option.some.inj hfirst).symm

theorem places_filter (ps qs : List Path) :
    places (qs.filter fun p => ps.any p.same) = places qs ∩ places ps := by
  induction qs with
  | nil => simp
  | cons q qs ih =>
    by_cases h : q.components ∈ places ps
    · rw [List.filter_cons, if_pos (any_same_iff.mpr h), places_cons, ih, places_cons,
        Finset.insert_inter_of_mem h]
    · rw [List.filter_cons, if_neg (mt any_same_iff.mp h), ih, places_cons,
        Finset.insert_inter_of_notMem h]

theorem Ascending.length_union (hp : Ascending ps) (hq : Ascending qs) :
    (Path.union ps qs).length =
      ps.length + (qs.length - (qs.filter fun p => ps.any p.same).length) := by
  have hfilter : Ascending (qs.filter fun p => ps.any p.same) := hq.filter _
  rw [← (hp.union qs).card_places, ← hp.card_places, ← hq.card_places, ← hfilter.card_places,
    places_union, places_filter]
  have hsum := Finset.card_union_add_card_inter (places qs) (places ps)
  have hsub : places qs ∩ places ps ⊆ places qs := Finset.inter_subset_left
  have hle := Finset.card_le_card hsub
  rw [Finset.union_comm]
  omega

end Path

end Refit
