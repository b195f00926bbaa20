import Refit.Proofs.Batch.Stopping
import Refit.Proofs.Path.Order

namespace Refit

variable {σ : Type}

attribute [ext] Summary

namespace Summary

variable {a b c s : Summary} {xs ys : List Summary}

structure Consistent (s : Summary) : Prop where
  ascends : Path.Ascending s.changedPaths
  changed_eq : s.changed = s.changedPaths.length

theorem changedPaths_merge (a b : Summary) :
    (a.merge b).changedPaths = Path.union a.changedPaths b.changedPaths := rfl

theorem merge_empty (s : Summary) : s.merge {} = s := by simp [merge]

namespace Consistent

theorem empty : Consistent {} := ⟨List.Pairwise.nil, rfl⟩

theorem merge (ha : a.Consistent) (hb : b.Consistent) : (a.merge b).Consistent where
  ascends := ha.ascends.union b.changedPaths
  changed_eq := by
    rw [changedPaths_merge, ha.ascends.length_union hb.ascends, ← ha.changed_eq, ← hb.changed_eq]
    rfl

theorem foldl_merge (ha : a.Consistent) (h : ∀ s ∈ xs, s.Consistent) :
    (xs.foldl Summary.merge a).Consistent := by
  induction xs generalizing a with
  | nil => exact ha
  | cons s xs ih =>
    obtain ⟨hs, hxs⟩ := List.forall_mem_cons.mp h
    exact ih (ha.merge hs) hxs

theorem merge_assoc (ha : a.Consistent) (hb : b.Consistent) (hc : c.Consistent) :
    (a.merge b).merge c = a.merge (b.merge c) := by
  have hpaths : ((a.merge b).merge c).changedPaths = (a.merge (b.merge c)).changedPaths :=
    ha.ascends.union_assoc hb.ascends hc.ascends
  have hchanged : ((a.merge b).merge c).changed = (a.merge (b.merge c)).changed := by
    rw [((ha.merge hb).merge hc).changed_eq, (ha.merge (hb.merge hc)).changed_eq, hpaths]
  ext1
  · exact Nat.add_assoc ..
  · exact hchanged
  · exact Nat.add_assoc ..
  · exact Nat.add_assoc ..
  · exact List.append_assoc ..
  · exact List.append_assoc ..
  · exact hpaths

theorem empty_merge (h : s.Consistent) : ({} : Summary).merge s = s := by
  have hpaths : (({} : Summary).merge s).changedPaths = s.changedPaths := h.ascends.nil_union
  have hchanged : (({} : Summary).merge s).changed = s.changed := by
    rw [(empty.merge h).changed_eq, hpaths, h.changed_eq]
  ext1
  · exact Nat.zero_add _
  · exact hchanged
  · exact Nat.zero_add _
  · exact Nat.zero_add _
  · exact List.nil_append _
  · exact List.nil_append _
  · exact hpaths

theorem changed_eq_card (h : s.Consistent) : s.changed = (Path.places s.changedPaths).card := by
  rw [h.changed_eq, h.ascends.card_places]

end Consistent

structure Totals (xs : List Summary) (total : Summary) : Prop where
  scanned : total.scanned = (xs.map Summary.scanned).sum
  applications : total.applications = (xs.map Summary.applications).sum
  failed : total.failed = (xs.map Summary.failed).sum
  diagnostics : total.diagnostics = xs.flatMap Summary.diagnostics
  changes : total.changes = xs.flatMap Summary.changes
  places : Path.places total.changedPaths = Path.places (xs.flatMap Summary.changedPaths)

namespace Totals

theorem empty : Totals [] {} := ⟨rfl, rfl, rfl, rfl, rfl, rfl⟩

theorem single (s : Summary) : Totals [s] s := by constructor <;> simp

theorem merge (hx : Totals xs a) (hy : Totals ys b) : Totals (xs ++ ys) (a.merge b) where
  scanned := by simp [Summary.merge, hx.scanned, hy.scanned]
  applications := by simp [Summary.merge, hx.applications, hy.applications]
  failed := by simp [Summary.merge, hx.failed, hy.failed]
  diagnostics := by simp [Summary.merge, hx.diagnostics, hy.diagnostics]
  changes := by simp [Summary.merge, hx.changes, hy.changes]
  places := by simp [changedPaths_merge, Path.places_union, hx.places, hy.places]

theorem foldl (hx : Totals xs a) (ys : List Summary) :
    Totals (xs ++ ys) (ys.foldl Summary.merge a) := by
  induction ys generalizing xs a with
  | nil => rwa [List.append_nil]
  | cons s ys ih =>
    rw [List.append_cons]
    exact ih (hx.merge (single s))

end Totals

/-- Summaries that are put together two by two. -/
inductive Grouping
  | empty
  | single (s : Summary)
  | pair (g h : Grouping)

namespace Grouping

def summaries : Grouping → List Summary
  | empty => []
  | single s => [s]
  | pair g h => g.summaries ++ h.summaries

def total : Grouping → Summary
  | empty => {}
  | single s => s
  | pair g h => g.total.merge h.total

theorem totals : (g : Grouping) → Totals g.summaries g.total
  | empty => .empty
  | single s => .single s
  | pair g h => g.totals.merge h.totals

theorem consistent (g : Grouping) (h : ∀ s ∈ g.summaries, s.Consistent) : g.total.Consistent := by
  induction g with
  | empty => exact .empty
  | single s => exact h s List.mem_cons_self
  | pair g h' ihg ihh =>
    rw [summaries, List.forall_mem_append] at h
    exact (ihg h.1).merge (ihh h.2)

end Grouping

end Summary

namespace Batch

variable {b : Batch} {src : Source σ} {s s' : σ} {sum sum' : Summary} {p : Path} {ps : List Path}

structure Counts (b : Batch) (sum : Summary) : Prop where
  consistent : sum.Consistent
  recorded : b.dryRun = true → sum.changes.length = sum.changed
  modified : ∀ c ∈ sum.changes, c.before ≠ c.after

namespace Counts

theorem empty : b.Counts {} := ⟨.empty, fun _ => rfl, nofun⟩

theorem of_eq (h : b.Counts sum) (hchanged : sum'.changed = sum.changed)
    (hchanges : sum'.changes = sum.changes) (hpaths : sum'.changedPaths = sum.changedPaths) :
    b.Counts sum' := by
  obtain ⟨⟨hascends, hcount⟩, hrecorded, hmodified⟩ := h
  rw [← hpaths] at hascends hcount
  rw [← hchanged] at hcount hrecorded
  rw [← hchanges] at hrecorded hmodified
  exact ⟨⟨hascends, hcount⟩, hrecorded, hmodified⟩

theorem file (h : b.Counts sum) (hp : p.components ∉ Path.places sum.changedPaths)
    (src : Source σ) (s : σ) : b.Counts (b.file src sum s p).1 ∧
      Path.places (b.file src sum s p).1.changedPaths ⊆
        insert p.components (Path.places sum.changedPaths) := by
  have hkept := Finset.subset_insert p.components (Path.places sum.changedPaths)
  obtain ⟨e, -, hfile⟩ | ⟨t, -, -, hfile⟩ | ⟨t, s', -, hchanged, hfile⟩ := file_cases b src sum s p
  · rw [hfile]
    exact ⟨h.of_eq rfl rfl rfl, hkept⟩
  · rw [hfile]
    exact ⟨h.of_eq rfl rfl rfl, hkept⟩
  · have hpaths := Path.places_insertSorted p sum.changedPaths
    have hascends := h.consistent.ascends.insertSorted p
    rw [hfile]
    refine ⟨⟨⟨hascends, ?_⟩, fun hdry => ?_, fun c hc => ?_⟩, hpaths.subset⟩
    · rw [← hascends.card_places, hpaths, Finset.card_insert_of_notMem hp,
        h.consistent.changed_eq_card]
    · simp [hdry, h.recorded hdry]
    · obtain hc | hc := List.mem_append.mp hc
      · exact h.modified c hc
      · split at hc
        · obtain rfl := List.mem_singleton.mp hc
          exact outcome_ne hchanged
        · cases hc

theorem files (h : b.Counts sum) (hps : ps.Pairwise fun p q => p.same q = false)
    (hfresh : ∀ p ∈ ps, p.components ∉ Path.places sum.changedPaths)
    (hfiles : b.files src sum s ps = (.ok sum', s')) : b.Counts sum' := by
  induction ps generalizing sum s with
  | nil =>
    cases hfiles
    exact h
  | cons p ps ih =>
    obtain ⟨hp, hps⟩ := List.pairwise_cons.mp hps
    have hstart : b.Counts { sum with scanned := sum.scanned + 1 } := h.of_eq rfl rfl rfl
    obtain ⟨hstep, hplaces⟩ := hstart.file (hfresh p List.mem_cons_self) src s
    -- Only `p` itself may have been added, and none of the paths behind it is the same.
    have hlater : ∀ q ∈ ps, q.components ∉
        Path.places (b.file src { sum with scanned := sum.scanned + 1 } s p).1.changedPaths := by
      intro q hq hmem
      obtain heq | hmem := Finset.mem_insert.mp (hplaces hmem)
      · exact Path.same_eq_false_iff.mp (hp q hq) heq.symm
      · exact hfresh q (List.mem_cons_of_mem p hq) hmem
    rw [Batch.files] at hfiles
    generalize b.file src { sum with scanned := sum.scanned + 1 } s p = r at hstep hlater hfiles
    obtain ⟨sum, s, none | e⟩ := r
    · exact ih hstep hps hlater hfiles
    · dsimp only at hfiles
      split at hfiles
      · refine ih ?_ hps ?_ hfiles
        · exact hstep.of_eq rfl rfl rfl
        · exact hlater
      · cases hfiles

theorem run (hlist : src.list s = .ok ps) (hps : ps.Pairwise fun p q => p.same q = false)
    (hrun : b.run src s = (.ok sum, s')) : b.Counts sum := by
  rw [Batch.run, hlist] at hrun
  exact empty.files hps (by simp) hrun

end Counts

end Batch

namespace Summary

/-- A batch over paths of which no two are the same counts the files that it lists as changed.
Summaries put together count the files that any of them lists, each of them once, and add up the
rest. It does not matter how they are grouped, and an empty summary adds nothing. -/
theorem merging_counts_once :
    (∀ {σ : Type} (b : Batch) (src : Source σ) (s s' : σ) (ps : List Path) (sum : Summary),
      src.list s = .ok ps → (ps.Pairwise fun p q => p.same q = false) →
      b.run src s = (.ok sum, s') → sum.Consistent) ∧
    (∀ a b : Summary, a.Consistent → b.Consistent → (a.merge b).Consistent) ∧
    (∀ g : Grouping, (∀ s ∈ g.summaries, s.Consistent) →
      g.total.Consistent ∧
      g.total.changed = (Path.places (g.summaries.flatMap changedPaths)).card ∧
      g.total.scanned = (g.summaries.map scanned).sum ∧
      g.total.applications = (g.summaries.map applications).sum ∧
      g.total.failed = (g.summaries.map failed).sum) ∧
    (∀ a b c : Summary, a.Consistent → b.Consistent → c.Consistent →
      (a.merge b).merge c = a.merge (b.merge c)) ∧
    (∀ s : Summary, s.Consistent → ({} : Summary).merge s = s ∧ s.merge {} = s) ∧
    ∀ a b : Summary, (a.merge b).diagnostics = a.diagnostics ++ b.diagnostics ∧
      (a.merge b).changes = a.changes ++ b.changes := by
  refine ⟨fun b src s s' ps sum hlist hps hrun => (Batch.Counts.run hlist hps hrun).consistent,
    fun a b => .merge, fun g hg => ?_, fun a b c => Consistent.merge_assoc,
    fun s hs => ⟨hs.empty_merge, merge_empty s⟩, fun a b => ⟨rfl, rfl⟩⟩
  have htotals := g.totals
  have hconsistent := g.consistent hg
  refine ⟨hconsistent, ?_, htotals.scanned, htotals.applications, htotals.failed⟩
  rw [hconsistent.changed_eq_card, htotals.places]

theorem merging_counts_once_overlapping :
    let rename : Pipeline := ⟨[.renameType ⟨⟨"Bytes".toList⟩, "BytesOut".toList⟩], none⟩
    let m : Memory :=
      { files := [(⟨"a".toList⟩, "Bytes b".toList), (⟨"b".toList⟩, "Bytes b".toList)] }
    let bc : Summary := { scanned := 3, changed := 2, changedPaths := [⟨"b".toList⟩, ⟨"c".toList⟩] }
    let ac : Summary := { scanned := 2, changed := 2, changedPaths := [⟨"a".toList⟩, ⟨"c".toList⟩] }
    ∃ ab after, Batch.run ⟨rename, true⟩ Memory.source m = (.ok ab, after) ∧ ab.changed = 2 ∧
      ((ab.merge bc).merge ac).changed = 3 ∧ ((ab.merge bc).merge ac).scanned = 7 ∧
      (ab.merge bc).merge ac = ab.merge (bc.merge ac) ∧ ({} : Summary).merge ab = ab := by
  intro rename m bc ac
  obtain ⟨hrun, -, hgroup, hassoc, hempty, -⟩ := merging_counts_once
  let ab : Summary :=
    { scanned := 2, changed := 2, applications := 2
      changes := [⟨⟨"a".toList⟩, "Bytes b".toList, "BytesOut b".toList⟩,
        ⟨⟨"b".toList⟩, "Bytes b".toList, "BytesOut b".toList⟩]
      changedPaths := [⟨"a".toList⟩, ⟨"b".toList⟩] }
  have hab : Batch.run ⟨rename, true⟩ Memory.source m = (.ok ab, m) := rfl
  have hab' : ab.Consistent := hrun _ _ _ _ _ _ rfl (by decide) hab
  have hbc : bc.Consistent := ⟨by decide, rfl⟩
  have hac : ac.Consistent := ⟨by decide, rfl⟩
  obtain ⟨-, hchanged, hscanned, -⟩ := hgroup (.pair (.pair (.single ab) (.single bc)) (.single ac))
    (by simp [Grouping.summaries, hab', hbc, hac])
  exact ⟨ab, m, hab, rfl, hchanged.trans (by decide), hscanned, hassoc _ _ _ hab' hbc hac,
    (hempty ab hab').1⟩

end Summary

end Refit
