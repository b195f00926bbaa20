import Refit.Proofs.Batch.Merging
import Refit.Proofs.Diff.Script

namespace Refit.Summary

variable {s : Summary} {sums : List Summary}

/-- A summary of a dry run over a source of which no two paths are the same. -/
inductive Previewed : Summary → Prop
  | intro {σ : Type} {b : Batch} {src : Source σ} {t t' : σ} {ps : List Path} {s : Summary}
      (hdry : b.dryRun = true) (hlist : src.list t = .ok ps)
      (hps : ps.Pairwise fun p q => p.same q = false) (hrun : b.run src t = (.ok s, t')) :
      Previewed s

namespace Previewed

theorem consistent (h : s.Previewed) : s.Consistent := by
  obtain ⟨-, hlist, hps, hrun⟩ := h
  exact (Batch.Counts.run hlist hps hrun).consistent

theorem length_changes (h : s.Previewed) : s.changes.length = s.changed := by
  obtain ⟨hdry, hlist, hps, hrun⟩ := h
  exact (Batch.Counts.run hlist hps hrun).recorded hdry

theorem modified (h : s.Previewed) : ∀ c ∈ s.changes, c.before ≠ c.after := by
  obtain ⟨-, hlist, hps, hrun⟩ := h
  exact (Batch.Counts.run hlist hps hrun).modified

end Previewed

theorem files_foldl_merge (acc : Diff.Stats) {cs : List Change}
    (h : ∀ c ∈ cs, c.before ≠ c.after) :
    (cs.foldl (fun acc c => acc.merge (.ofTexts c.before c.after)) acc).files =
      acc.files + cs.length := by
  induction cs generalizing acc with
  | nil => rfl
  | cons c cs ih =>
    obtain ⟨hc, hcs⟩ := List.forall_mem_cons.mp h
    have hstep : (acc.merge (.ofTexts c.before c.after)).files = acc.files + 1 :=
      congrArg (acc.files + ·) (Diff.Stats.files_ofTexts hc)
    rw [List.foldl_cons, ih _ hcs, hstep, List.length_cons, Nat.add_assoc, Nat.add_comm 1]

theorem files_stats (h : ∀ c ∈ s.changes, c.before ≠ c.after) :
    s.stats.files = s.changes.length := by
  rw [stats, files_foldl_merge _ h, Nat.zero_add]

section Total

variable (h : ∀ s ∈ sums, s.Previewed)
include h

theorem files_stats_total : (sums.foldl merge {}).stats.files = (sums.map changed).sum := by
  have htotals : Totals sums (sums.foldl merge {}) := Totals.empty.foldl sums
  rw [files_stats, htotals.changes, List.length_flatMap]
  · exact congrArg List.sum (List.map_congr_left fun s hs => (h s hs).length_changes)
  · rw [htotals.changes]
    intro c hc
    obtain ⟨s, hs, hc⟩ := List.mem_flatMap.mp hc
    exact (h s hs).modified c hc

theorem changed_total :
    (sums.foldl merge {}).changed = (Path.places (sums.flatMap changedPaths)).card := by
  have htotals : Totals sums (sums.foldl merge {}) := Totals.empty.foldl sums
  have hconsistent := Consistent.empty.foldl_merge fun s hs => (h s hs).consistent
  rw [hconsistent.changed_eq_card, htotals.places]

/-- Dry runs put together count a file by its lines for each of them that would change it, and as
changed once. The two numbers are the same exactly if no two of them would change the same file. -/
theorem preview_counts_agree_iff :
    (sums.foldl merge {}).stats.files = (sums.map changed).sum ∧
    (sums.foldl merge {}).changed = (Path.places (sums.flatMap changedPaths)).card ∧
    ((sums.foldl merge {}).stats.files = (sums.foldl merge {}).changed ↔
      sums.Pairwise fun a b => ∀ p ∈ a.changedPaths, ∀ q ∈ b.changedPaths, p.same q = false) := by
  refine ⟨files_stats_total h, changed_total h, ?_⟩
  have hlength : (sums.map changed).sum = (sums.flatMap changedPaths).length := by
    rw [List.length_flatMap]
    exact congrArg List.sum (List.map_congr_left fun s hs => (h s hs).consistent.changed_eq)
  rw [files_stats_total h, changed_total h, hlength, eq_comm, Path.card_places_eq_length_iff,
    List.pairwise_flatMap]
  exact and_iff_right fun s hs => (h s hs).consistent.ascends.pairwise_same

end Total

def dryRename (old new : String) : Batch where
  pipeline := ⟨[.renameType ⟨⟨old.toList⟩, new.toList⟩], none⟩
  dryRun := true

def oneRenamed (p : Path) (before after : String) : Summary where
  scanned := 2
  changed := 1
  applications := 1
  changes := [⟨p, before.toList, after.toList⟩]
  changedPaths := [p]

def twoFiles : Memory where
  files := [(⟨"A.java".toList⟩, "A x;\n".toList), (⟨"B.java".toList⟩, "B x;\n".toList)]

theorem previewed_twoFiles {old new : String}
    (hrun : (dryRename old new).run Memory.source twoFiles = (.ok s, twoFiles)) : s.Previewed :=
  .intro rfl rfl (by decide) hrun

theorem preview_counts_agree_apart :
    let a := oneRenamed ⟨"A.java".toList⟩ "A x;\n" "C x;\n"
    let b := oneRenamed ⟨"B.java".toList⟩ "B x;\n" "C x;\n"
    (∀ s ∈ [a, b], s.Previewed) ∧
      ([a, b].foldl merge {}).stats.files = 2 ∧ ([a, b].foldl merge {}).changed = 2 := by
  intro a b
  have ha : (dryRename "A" "C").run Memory.source twoFiles = (.ok a, twoFiles) := rfl
  have hb : (dryRename "B" "C").run Memory.source twoFiles = (.ok b, twoFiles) := rfl
  have h : ∀ s ∈ [a, b], s.Previewed := by
    simp only [List.forall_mem_cons]
    exact ⟨previewed_twoFiles ha, previewed_twoFiles hb, nofun⟩
  obtain ⟨hfiles, -, hagree⟩ := preview_counts_agree_iff h
  refine ⟨h, hfiles, (hagree.mpr ?_).symm.trans hfiles⟩
  decide

/-- Two dry runs that would both rename a type of the same file, and change nothing else: by the
lines they are two files, but one file would be changed. -/
theorem preview_counts_differ :
    let b := oneRenamed ⟨"A.java".toList⟩ "A x;\n" "B x;\n"
    let c := oneRenamed ⟨"A.java".toList⟩ "A x;\n" "C x;\n"
    (∀ s ∈ [b, c], s.Previewed) ∧
      ([b, c].foldl merge {}).stats.files = 2 ∧ ([b, c].foldl merge {}).changed = 1 := by
  intro b c
  have hb : (dryRename "A" "B").run Memory.source twoFiles = (.ok b, twoFiles) := rfl
  have hc : (dryRename "A" "C").run Memory.source twoFiles = (.ok c, twoFiles) := rfl
  have h : ∀ s ∈ [b, c], s.Previewed := by
    simp only [List.forall_mem_cons]
    exact ⟨previewed_twoFiles hb, previewed_twoFiles hc, nofun⟩
  exact ⟨h, files_stats_total h, by decide⟩

end Refit.Summary
