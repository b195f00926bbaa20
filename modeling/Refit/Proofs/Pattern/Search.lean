import Refit.Proofs.Pattern.Line

namespace Refit.Pattern

variable {steps : List Step} {ws : List Trail} {w : Trail} {p : Place} {c : Char}
  {index lo turns : Nat} {before : Option Char} {t rest : Text} {visited : Array Nat}

/-- Ways along a line of which each has taken a character that the next one has yet to take. -/
structure Spread (steps : List Step) (ws : List Trail) : Prop where
  behind : ws.Pairwise fun v w => Behind v.left w.left
  suffix : ∀ w ∈ ws, w.left <:+ steps

namespace Spread

theorem tail (h : Spread steps (w :: ws)) : Spread steps ws where
  behind := (List.pairwise_cons.mp h.behind).2
  suffix v hv := h.suffix v (List.mem_cons_of_mem w hv)

theorem sublist {vs : List Trail} (h : Spread steps ws) (hsub : vs.Sublist ws) :
    Spread steps vs where
  behind := h.behind.sublist hsub
  suffix v hv := h.suffix v (hsub.subset hv)

theorem start (h : Spread steps ws) (hbehind : ∀ w ∈ ws, Behind w.left steps) (slots : Slots) :
    Spread steps (ws ++ [⟨steps, slots⟩]) where
  behind := by
    refine List.pairwise_append.mpr ⟨h.behind, List.pairwise_singleton _ _, fun w hw v hv => ?_⟩
    rw [List.mem_singleton.mp hv]
    exact hbehind w hw
  suffix v hv := by
    rcases List.mem_append.mp hv with hv | hv
    · exact h.suffix v hv
    · obtain rfl := List.mem_singleton.mp hv
      exact List.suffix_refl steps

theorem settle (h : Spread steps ws) : Spread steps (ws.filterMap (Trail.settle p)) where
  behind := by
    refine List.pairwise_filterMap.mpr (h.behind.imp ?_)
    intro v w hvw v' hv' w' hw'
    rw [Trail.left_of_settle hv', Trail.left_of_settle hw']
    exact hvw.taking
  suffix v' hv' := by
    obtain ⟨v, hv, hsettle⟩ := List.mem_filterMap.mp hv'
    rw [Trail.left_of_settle hsettle]
    exact (taking_suffix v.left).trans (h.suffix v hv)

theorem take (h : Spread steps ws) : Spread steps (ws.filterMap (Trail.take? c)) where
  behind := by
    refine List.pairwise_filterMap.mpr (h.behind.imp ?_)
    intro v w hvw v' hv' w' hw'
    obtain ⟨r, hr⟩ := Trail.taking_of_take? hv'
    obtain ⟨s, hs⟩ := Trail.taking_of_take? hw'
    obtain ⟨s', x, hx, hsuffix⟩ := hvw
    obtain ⟨-, rfl⟩ := List.cons.inj (hs.symm.trans hx)
    exact behind_of_suffix hr hsuffix
  suffix v' hv' := by
    obtain ⟨v, hv, htake⟩ := List.mem_filterMap.mp hv'
    obtain ⟨r, hr⟩ := Trail.taking_of_take? htake
    exact (behind_of_suffix hr (h.suffix v hv)).suffix

theorem behind_of_take (h : Spread steps ws) :
    ∀ w ∈ ws.filterMap (Trail.take? c), Behind w.left steps := by
  intro v' hv'
  obtain ⟨v, hv, htake⟩ := List.mem_filterMap.mp hv'
  obtain ⟨r, hr⟩ := Trail.taking_of_take? htake
  exact behind_of_suffix hr (h.suffix v hv)

end Spread

theorem follow_spread (h : Spread steps ws) (hmarks : Marked visited p.index (· < lo))
    (hlo : ∀ w ∈ ws, lo ≤ (taking w.left).length) (hturns : steps.length + 1 ≤ turns + lo)
    (front : List Way) :
    ∃ visited', Marked visited' (p.index + 1) (fun _ => False) ∧
      follow (lineCode steps) p turns (ws.map Trail.way) ⟨front.toArray, visited⟩ =
        ⟨(front ++ (ws.filterMap (Trail.settle p)).map Trail.way).toArray, visited'⟩ := by
  induction ws generalizing visited lo turns front with
  | nil =>
    refine ⟨visited, hmarks.next, ?_⟩
    cases turns <;> simp [follow]
  | cons w ws ih =>
    have hlow := hlo w List.mem_cons_self
    -- A way visits only steps farther from the end than those visited before.
    obtain ⟨used, visited', hused, hmarks', hfollow⟩ :=
      Followed.of_marked (h.suffix w List.mem_cons_self) hmarks (fun n hn _ => by omega) w.slots
    have hlength : w.left.length ≤ steps.length := (h.suffix w List.mem_cons_self).length_le
    have hle : (taking w.left).length ≤ w.left.length := (taking_suffix w.left).length_le
    have hrest : ∀ v ∈ ws, w.left.length + 1 ≤ (taking v.left).length :=
      fun v hv => ((List.pairwise_cons.mp h.behind).1 v hv).length_lt
    obtain ⟨turns, rfl⟩ : ∃ left, turns = left + used := ⟨turns - used, by omega⟩
    have hmarked : Marked visited' p.index (· < w.left.length + 1) :=
      hmarks'.mono fun n hn => by omega
    obtain ⟨visited'', hmarks'', hwhole⟩ := ih h.tail hmarked hrest (by omega : _ ≤ turns + _)
      (front ++ (w.settle p).toList.map Trail.way)
    refine ⟨visited'', hmarks'', ?_⟩
    rw [List.map_cons, Trail.way, hfollow]
    refine hwhole.trans ?_
    cases hsettle : w.settle p <;> simp [hsettle]

def Trail.Settled (w : Trail) : Prop := taking w.left = w.left

theorem Trail.settled_of_mem {ws : List Trail} (hw : w ∈ ws.filterMap (Trail.settle p)) :
    w.Settled := by
  obtain ⟨v, -, hv⟩ := List.mem_filterMap.mp hw
  rw [Trail.Settled, Trail.left_of_settle hv, taking_taking]

theorem Trail.Settled.cases (h : w.Settled) :
    w.left = [] ∨ ∃ s left, w.left = .one s :: left := by
  rw [← h]
  exact taking_cases w.left

theorem advance_trails (h : Spread steps ws) (hsettled : ∀ w ∈ ws, w.Settled) :
    advance (lineCode steps) c (ws.map Trail.way) =
      ((ws.takeWhile (!·.isDone)).filterMap (Trail.take? c)).map Trail.way := by
  induction ws with
  | nil => rfl
  | cons w ws ih =>
    have hcode := getElem?_lineCode (h.suffix w List.mem_cons_self)
    have hrest := ih h.tail fun v hv => hsettled v (List.mem_cons_of_mem w hv)
    rw [List.map_cons, advance, Trail.way, hcode]
    rcases (hsettled w List.mem_cons_self).cases with hw | ⟨s, left, hw⟩
    · simp [hw, firstInstr, Trail.isDone]
    · simp only [hw, firstInstr, Step.instr]
      rw [hrest]
      by_cases hs : s.contains c = true
      · simp [hw, hs, Trail.isDone, Trail.take?, Trail.way]
      · simp [hw, hs, Trail.isDone, Trail.take?]

theorem ended?_trails (h : Spread steps ws) :
    ended? (lineCode steps) (ws.map Trail.way) = (ws.find? Trail.isDone).map Trail.slots := by
  induction ws with
  | nil => rfl
  | cons w ws ih =>
    have hcode := getElem?_lineCode (h.suffix w List.mem_cons_self)
    have hdone : ((lineCode steps)[w.way.at_]? == some .done) = w.isDone := by
      rw [Trail.way, hcode, Trail.isDone]
      rcases w.left with - | ⟨s | l | slot, left⟩ <;> rfl
    have hrest := ih h.tail
    rw [ended?] at hrest ⊢
    rw [List.map_cons, List.find?_cons, List.find?_cons, hdone]
    cases w.isDone
    · exact hrest
    · rfl

def Trail.run (index : Nat) (before : Option Char) (t : Text) (w : Trail) : Option Slots :=
  Pattern.run w.left index before t w.slots

theorem Trail.run_settle (w : Trail) :
    w.run index before t =
      (w.settle ⟨index, before, t.head?⟩).bind (Trail.run index before t) := by
  obtain ⟨left, slots⟩ := w
  change Pattern.run left index before t slots =
    (settleFrom ⟨index, before, t.head?⟩ left slots).bind (Trail.run index before t)
  induction left generalizing slots with
  | nil => rfl
  | cons s left ih =>
    cases s with
    | one s => rfl
    | look l =>
      rw [Pattern.run, settleFrom]
      split
      · exact ih slots
      · rfl
    | save slot => exact ih ((slot, index) :: slots)

theorem findSome?_run_settle (index : Nat) (before : Option Char) (t : Text) (ws : List Trail) :
    ws.findSome? (Trail.run index before t) =
      (ws.filterMap (Trail.settle ⟨index, before, t.head?⟩)).findSome?
        (Trail.run index before t) := by
  induction ws with
  | nil => rfl
  | cons w ws ih =>
    rw [List.findSome?_cons, List.filterMap_cons, Trail.run_settle, ih]
    cases w.settle ⟨index, before, t.head?⟩ <;> rfl

theorem findSome?_run_nil (hsettled : ∀ w ∈ ws, w.Settled) :
    ws.findSome? (Trail.run index before []) = (ws.find? Trail.isDone).map Trail.slots := by
  induction ws with
  | nil => rfl
  | cons w ws ih =>
    have hrest := ih fun v hv => hsettled v (List.mem_cons_of_mem w hv)
    obtain ⟨left, slots⟩ := w
    rw [List.findSome?_cons, List.find?_cons, hrest]
    rcases (hsettled _ List.mem_cons_self).cases with rfl | ⟨s, left, rfl⟩ <;> rfl

theorem findSome?_run_cons (hsettled : ∀ w ∈ ws, w.Settled) :
    ws.findSome? (Trail.run index before (c :: rest)) =
      (((ws.takeWhile (!·.isDone)).filterMap (Trail.take? c)).findSome?
        (Trail.run (index + 1) (some c) rest)).or ((ws.find? Trail.isDone).map Trail.slots) := by
  induction ws with
  | nil => rfl
  | cons w ws ih =>
    have hrest := ih fun v hv => hsettled v (List.mem_cons_of_mem w hv)
    obtain ⟨left, slots⟩ := w
    rcases (hsettled _ List.mem_cons_self).cases with rfl | ⟨s, left, rfl⟩
    · rfl
    · have hrun : Trail.run index before (c :: rest) ⟨.one s :: left, slots⟩ =
          (Trail.take? c ⟨.one s :: left, slots⟩).bind (Trail.run (index + 1) (some c) rest) := by
        by_cases hs : s.contains c = true <;> simp [Trail.run, Pattern.run, Trail.take?, hs]
      rw [List.findSome?_cons, hrun, hrest]
      by_cases hs : s.contains c = true
      · cases hbehind : Trail.run (index + 1) (some c) rest ⟨left, slots⟩ <;>
          simp [Trail.isDone, Trail.take?, hs, hbehind]
      · simp [Trail.isDone, Trail.take?, hs]

def withStart (steps : List Step) (best : Option Slots) (ws : List Trail) : List Trail :=
  ws ++ if best.isNone then [⟨steps, []⟩] else []

def front (steps : List Step) (best : Option Slots) (ws : List Trail) (p : Place) : List Trail :=
  (withStart steps best ws).filterMap (Trail.settle p)

theorem Spread.withStart (h : Spread steps ws) (hbehind : ∀ w ∈ ws, Behind w.left steps)
    (best : Option Slots) : Spread steps (withStart steps best ws) := by
  cases best with
  | none => exact h.start hbehind []
  | some slots => simpa [Pattern.withStart] using h

theorem Spread.front (h : Spread steps ws) (hbehind : ∀ w ∈ ws, Behind w.left steps)
    (best : Option Slots) (p : Place) : Spread steps (front steps best ws p) :=
  (h.withStart hbehind best).settle

theorem settled_of_mem_front {best : Option Slots} :
    ∀ w ∈ front steps best ws p, w.Settled :=
  fun _ hw => Trail.settled_of_mem hw

theorem findSome?_front (steps : List Step) (best : Option Slots) (ws : List Trail) (index : Nat)
    (before : Option Char) (t : Text) :
    ((front steps best ws ⟨index, before, t.head?⟩).findSome? (Trail.run index before t)).or best =
      (ws.findSome? (Trail.run index before t)).or (best.or (run steps index before t [])) := by
  rw [front, ← findSome?_run_settle]
  cases best with
  | none =>
    rw [withStart, List.findSome?_append, Option.or_none]
    simp [Trail.run]
  | some slots => simp [withStart]

theorem follow_front (h : Spread steps ws) (hbehind : ∀ w ∈ ws, Behind w.left steps)
    (best : Option Slots) (p : Place) (hmarks : Marked visited p.index fun _ => False) :
    ∃ visited', Marked visited' (p.index + 1) (fun _ => False) ∧
      follow (lineCode steps) p ((ws.map Trail.way).length + 2 * (lineCode steps).size + 2)
          (ws.map Trail.way ++ if best.isNone then [⟨steps.length, []⟩] else [])
          ⟨#[], visited⟩ =
        ⟨((front steps best ws p).map Trail.way).toArray, visited'⟩ := by
  have hways : (ws.map Trail.way ++ if best.isNone then [⟨steps.length, []⟩] else []) =
      (withStart steps best ws).map Trail.way := by
    cases best <;> simp [withStart, Trail.way]
  have hturns : steps.length + 1 ≤
      (ws.map Trail.way).length + 2 * (lineCode steps).size + 2 + 0 := by
    rw [size_lineCode]
    omega
  rw [hways]
  exact follow_spread (h.withStart hbehind best) (hmarks.mono fun _ => False.elim)
    (fun _ _ => Nat.zero_le _) hturns []

theorem searchFrom_line (h : Spread steps ws) (hbehind : ∀ w ∈ ws, Behind w.left steps)
    (hmarks : Marked visited index fun _ => False) (best : Option Slots) :
    searchFrom ⟨lineCode steps, steps.length⟩ best (ws.map Trail.way) index before visited t =
      (ws.findSome? (Trail.run index before t)).or (best.or (firstRun steps index before t)) := by
  induction t generalizing best ws index before visited with
  | nil =>
    obtain ⟨visited', -, hfollow⟩ := follow_front h hbehind best ⟨index, before, none⟩ hmarks
    have hruns := findSome?_front steps best ws index before []
    rw [List.head?_nil, findSome?_run_nil settled_of_mem_front] at hruns
    rw [searchFrom, firstRun, ← hruns]
    simp only
    rw [hfollow, List.toList_toArray, ended?_trails (h.front hbehind best _)]
  | cons c rest ih =>
    by_cases hstop : best.isSome && (ws.map Trail.way).isEmpty
    · -- With a match found and no way left, the search ends here.
      obtain ⟨hbest, hws⟩ := Bool.and_eq_true_iff.mp hstop
      obtain ⟨slots, rfl⟩ := Option.isSome_iff_exists.mp hbest
      rw [List.isEmpty_iff, List.map_eq_nil_iff] at hws
      rw [searchFrom, if_pos hstop, hws]
      rfl
    · obtain ⟨visited', hmarks', hfollow⟩ :=
        follow_front h hbehind best ⟨index, before, some c⟩ hmarks
      have hspread := h.front hbehind best ⟨index, before, some c⟩
      have hleft := hspread.sublist (List.takeWhile_sublist (!·.isDone))
      have hruns := findSome?_front steps best ws index before (c :: rest)
      rw [List.head?_cons, findSome?_run_cons settled_of_mem_front] at hruns
      rw [searchFrom, if_neg hstop]
      simp only
      rw [hfollow, List.toList_toArray, advance_trails hspread settled_of_mem_front,
        ended?_trails hspread, ih hleft.take hleft.behind_of_take hmarks', firstRun,
        ← Option.or_assoc, ← Option.or_assoc, hruns, Option.or_assoc, Option.or_assoc]

theorem search_line (steps : List Step) (before : Option Char) (t : Text) :
    searchFrom ⟨lineCode steps, steps.length⟩ none [] 0 before
        (.replicate (lineCode steps).size 0) t = firstRun steps 0 before t := by
  have hmarks : Marked (.replicate (lineCode steps).size 0) 0 fun _ => False := by
    intro n m hm
    rw [Array.getElem?_replicate] at hm
    split at hm
    · exact .inl (Nat.le_of_eq (Option.some.inj hm).symm)
    · cases hm
  have hnone : Spread steps [] := ⟨List.Pairwise.nil, fun _ hw => nomatch hw⟩
  exact searchFrom_line hnone (fun _ hw => nomatch hw) hmarks none

end Refit.Pattern
