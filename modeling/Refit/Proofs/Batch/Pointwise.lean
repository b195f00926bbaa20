import Mathlib.Algebra.GroupWithZero.Nat
import Refit.Batch
import Refit.Call
import Refit.Proofs.Source.Memory

namespace Refit

namespace Summary

def append (a b : Summary) : Summary where
  scanned := a.scanned + b.scanned
  changed := a.changed + b.changed
  applications := a.applications + b.applications
  failed := a.failed + b.failed
  diagnostics := a.diagnostics ++ b.diagnostics
  changes := a.changes ++ b.changes
  changedPaths := a.changedPaths ++ b.changedPaths

@[simp] theorem empty_append (a : Summary) : append {} a = a := by simp [append]

theorem append_assoc (a b c : Summary) : (a.append b).append c = a.append (b.append c) := by
  simp [append, Nat.add_assoc]

end Summary

namespace Batch

variable {b : Batch} {m : Memory} {f : Path × Text} {pre post fs : List (Path × Text)}
  {sum : Summary}

def outcome (b : Batch) (f : Path × Text) : Outcome := b.pipeline.transform f.2

def changes (b : Batch) (m : Memory) (f : Path × Text) : Bool :=
  (b.outcome f).changed && (b.dryRun || m.writable f.1)

def fails (b : Batch) (m : Memory) (f : Path × Text) : Bool :=
  (b.outcome f).changed && !(b.dryRun || m.writable f.1)

def writes (b : Batch) (m : Memory) (f : Path × Text) : Bool := b.changes m f && !b.dryRun

/-- A file as the batch leaves it. -/
def leave (b : Batch) (m : Memory) (f : Path × Text) : Path × Text :=
  (f.1, if b.writes m f then (b.outcome f).content else f.2)

def warnings (b : Batch) (f : Path × Text) : List Diagnostic :=
  (b.outcome f).warnings.map fun w => ⟨f.1, .warning, w.message⟩

def refusal (p : Path) : Diagnostic := ⟨p, .error, (Failure.unwritable p .readOnly).message⟩

def remarks (b : Batch) (m : Memory) (f : Path × Text) : List Diagnostic :=
  b.warnings f ++ if b.fails m f then [refusal f.1] else []

def change (b : Batch) (f : Path × Text) : Change := ⟨f.1, f.2, (b.outcome f).content⟩

def report (b : Batch) (m : Memory) (fs : List (Path × Text)) : Summary where
  scanned := fs.length
  changed := (fs.filter (b.changes m)).length
  applications := ((fs.filter (b.changes m)).map fun f => (b.outcome f).applied.length).sum
  failed := (fs.filter (b.fails m)).length
  diagnostics := fs.flatMap (b.remarks m)
  changes := if b.dryRun then (fs.filter (b.changes m)).map b.change else []
  changedPaths := (fs.filter (b.changes m)).map Prod.fst

theorem report_cons (b : Batch) (m : Memory) (f : Path × Text) (fs : List (Path × Text)) :
    b.report m (f :: fs) = (b.report m [f]).append (b.report m fs) := by
  cases hc : b.changes m f <;> cases hf : b.fails m f <;> cases hd : b.dryRun <;>
    simp [report, Summary.append, hc, hf, hd, Nat.add_comm]

theorem file_of_read {σ : Type} {src : Source σ} {s : σ} {t : Text} {p : Path}
    (h : src.read s p = .ok t) : b.file src sum s p =
      let warned := { sum with diagnostics := sum.diagnostics ++ b.warnings (p, t) }
      let counted := { warned with
        changed := sum.changed + 1
        applications := sum.applications + (b.outcome (p, t)).applied.length
        changedPaths := p.insertSorted sum.changedPaths }
      if !(b.outcome (p, t)).changed then (warned, s, none)
      else if b.dryRun then
        ({ counted with changes := sum.changes ++ [b.change (p, t)] }, s, none)
      else match src.write s p (b.outcome (p, t)).content with
        | .error e => (warned, s, some e)
        | .ok s => (counted, s, none) := by
  rw [file, h]
  rfl

def during (m : Memory) (files : List (Path × Text)) (writes : Nat) : Memory :=
  { m with files, writes }

variable {n : Nat}

theorem files_cons (h : Memory.Ascending (pre ++ f :: post))
    (hsum : ∀ p ∈ sum.changedPaths, Path.cmp p f.1 = .lt) (ps : List Path) :
    b.files Memory.source sum (during m (pre ++ f :: post) n) (f.1 :: ps) =
      b.files Memory.source (sum.append (b.report m [f]))
        (during m (pre ++ b.leave m f :: post) (n + if b.writes m f then 1 else 0)) ps := by
  have hm : (during m (pre ++ f :: post) n).Ascends := h
  have hread : Memory.source.read (during m (pre ++ f :: post) n) f.1 = .ok f.2 :=
    hm.read_of_mem (by simp [during])
  have hpaths := Path.insertSorted_eq_append hsum
  rw [Batch.files, file_of_read hread]
  cases hchanged : (b.outcome f).changed with
  | false =>
    simp [hchanged, report, Summary.append, changes, fails, writes, leave, remarks]
  | true =>
    cases hdry : b.dryRun with
    | true =>
      simp [hchanged, hdry, hpaths, report, Summary.append, changes, fails, writes, leave, remarks]
    | false =>
      cases hw : m.writable f.1 with
      | true =>
        have hwrite (c : Text) : Memory.source.write (during m (pre ++ f :: post) n) f.1 c =
            .ok (during m (pre ++ (f.1, c) :: post) (n + 1)) := hm.write_eq_ok rfl hw c
        simp [hchanged, hdry, hw, hwrite, hpaths, report, Summary.append, changes, fails, writes,
          leave, remarks]
      | false =>
        have hrefused : (during m (pre ++ f :: post) n).writable f.1 = false := hw
        have hwrite (c : Text) : Memory.source.write (during m (pre ++ f :: post) n) f.1 c =
            .error (.unwritable f.1 .readOnly) := Memory.write_eq_error hrefused c
        simp [hchanged, hdry, hw, hwrite, report, Summary.append, changes, fails, writes, leave,
          remarks, Failure.recoverable, refusal]

theorem files_during (h : Memory.Ascending (pre ++ post))
    (hsum : ∀ p ∈ sum.changedPaths, ∀ f ∈ post, Path.cmp p f.1 = .lt) :
    b.files Memory.source sum (during m (pre ++ post) n) (post.map Prod.fst) =
      (.ok (sum.append (b.report m post)), during m (pre ++ post.map (b.leave m))
        (n + (post.filter (b.writes m)).length)) := by
  induction post generalizing pre sum n with
  | nil => simp [Batch.files, report, Summary.append]
  | cons f post ih =>
    have hlater : ∀ g ∈ post, Path.cmp f.1 g.1 = .lt :=
      (List.pairwise_cons.mp (List.pairwise_append.mp h).2.1).1
    have hlength : ((f :: post).filter (b.writes m)).length =
        (if b.writes m f then 1 else 0) + (post.filter (b.writes m)).length := by
      cases h : b.writes m f <;> simp [h, Nat.add_comm]
    have hleave : Memory.Ascending ((pre ++ [b.leave m f]) ++ post) := by
      rw [Memory.ascending_iff] at h ⊢
      simpa [leave] using h
    have hsum' : ∀ p ∈ (sum.append (b.report m [f])).changedPaths, ∀ g ∈ post,
        Path.cmp p g.1 = .lt := by
      intro p hp g hg
      cases List.mem_append.mp hp with
      | inl hp => exact hsum p hp g (List.mem_cons_of_mem f hg)
      | inr hp =>
        obtain ⟨e, he, rfl⟩ := List.mem_map.mp hp
        rw [List.mem_singleton.mp (List.mem_filter.mp he).1]
        exact hlater g hg
    rw [List.map_cons, files_cons h fun p hp => hsum p hp f List.mem_cons_self]
    rw [report_cons b m f post, ← Summary.append_assoc, hlength, ← Nat.add_assoc]
    simpa using ih hleave hsum'

theorem run_memory (b : Batch) (hm : m.Ascends) : b.run Memory.source m =
    (.ok (b.report m m.files), { m with
      files := m.files.map (b.leave m)
      writes := m.writes + (m.files.filter (b.writes m)).length }) := by
  have hm : Memory.Ascending ([] ++ m.files) := hm
  have h := files_during (b := b) (m := m) (n := m.writes) hm
    (show ∀ p ∈ ({} : Summary).changedPaths, _ by simp)
  simpa [Batch.run, Memory.source, during] using h

theorem filter_remarks (b : Batch) (m : Memory) (f : Path × Text) :
    (b.remarks m f).filter (fun d => d.severity = .error) =
      if b.fails m f then [refusal f.1] else [] := by
  have hwarnings : (b.warnings f).filter (fun d => d.severity = .error) = [] := by
    simp [warnings, List.filter_eq_nil_iff]
  rw [remarks, List.filter_append, hwarnings]
  cases b.fails m f <;> simp [refusal]

theorem length_filter_diagnostics (b : Batch) (m : Memory) (fs : List (Path × Text)) :
    ((b.report m fs).diagnostics.filter fun d => d.severity = .error).length =
      (b.report m fs).failed := by
  simp only [report]
  induction fs with
  | nil => rfl
  | cons f fs ih =>
    rw [List.flatMap_cons, List.filter_append, filter_remarks, List.length_append, ih]
    cases h : b.fails m f <;> simp [h, Nat.add_comm]

theorem files_foldl_changes (b : Batch) (q : Path × Text → Bool)
    (h : Memory.Ascending (pre ++ post)) (hm : m.files = pre ++ post) :
    (((post.filter q).map b.change).foldl (fun m c => m.file c.path c.after) m).files =
      pre ++ post.map fun f => (f.1, if q f then (b.outcome f).content else f.2) := by
  induction post generalizing pre m with
  | nil => simpa using hm
  | cons f post ih =>
    cases hf : q f with
    | false =>
      have h : Memory.Ascending ((pre ++ [f]) ++ post) := by simpa using h
      simpa [hf] using ih h (by simpa using hm)
    | true =>
      have hfile : (m.file f.1 (b.outcome f).content).files =
          (pre ++ [(f.1, (b.outcome f).content)]) ++ post := by
        rw [Memory.file, hm, h.insertFile_append]
        simp
      have h : Memory.Ascending ((pre ++ [(f.1, (b.outcome f).content)]) ++ post) := by
        rw [Memory.ascending_iff] at h ⊢
        simpa using h
      simpa [hf, change] using ih h hfile

theorem writes_eq (p : Pipeline) (m : Memory) : Batch.writes ⟨p, false⟩ m =
    fun f => (p.transform f.2).changed && m.writable f.1 := by
  funext f
  simp [writes, changes, outcome]

theorem writes_dryRun (p : Pipeline) (m : Memory) : Batch.writes ⟨p, true⟩ m = fun _ => false := by
  funext f
  simp [writes]

theorem leave_dryRun (p : Pipeline) (m : Memory) : leave ⟨p, true⟩ m = id := by
  funext f
  simp [leave, writes_dryRun]

theorem run_dryRun (p : Pipeline) (hm : m.Ascends) :
    Batch.run ⟨p, true⟩ Memory.source m = (.ok (report ⟨p, true⟩ m m.files), m) := by
  have hnone : m.files.filter (fun _ => false) = [] := List.filter_eq_nil_iff.mpr (by simp)
  rw [run_memory ⟨p, true⟩ hm, leave_dryRun, writes_dryRun, hnone]
  simp

theorem outcome_ne (h : (b.outcome f).changed = true) : f.2 ≠ (b.outcome f).content := by
  have h : ((b.outcome f).content != f.2) = true := h
  exact Ne.symm (bne_iff_ne.mp h)

/-- Each file of a memory is left as the pipeline makes it, unless it cannot be written, and none
appears or disappears. All that the summary says is the sum over the files. -/
theorem run_pointwise (p : Pipeline) (m : Memory) (hm : m.Ascends) :
    let written := m.files.filter fun f => (p.transform f.2).changed && m.writable f.1
    let refused := m.files.filter fun f => (p.transform f.2).changed && !m.writable f.1
    ∃ s, Batch.run ⟨p, false⟩ Memory.source m = (.ok s, { m with
        files := m.files.map fun f =>
          (f.1, if (p.transform f.2).changed && m.writable f.1 then (p.transform f.2).content
            else f.2)
        writes := m.writes + written.length }) ∧
      s.scanned = m.files.length ∧
      s.changed = written.length ∧ s.changedPaths = written.map Prod.fst ∧
      s.applications = (written.map fun f => (p.transform f.2).applied.length).sum ∧
      s.failed = refused.length ∧
      (s.diagnostics.filter fun d => d.severity = .error).length = refused.length ∧
      s.diagnostics = m.files.flatMap fun f =>
        (p.transform f.2).warnings.map (fun w => ⟨f.1, .warning, w.message⟩) ++
          if (p.transform f.2).changed && !m.writable f.1 then
            [⟨f.1, .error, (Failure.unwritable f.1 .readOnly).message⟩] else [] := by
  refine ⟨report ⟨p, false⟩ m m.files, ?_, rfl, rfl, rfl, rfl, rfl, ?_, rfl⟩
  · rw [run_memory ⟨p, false⟩ hm, writes_eq]
    simp [leave, writes_eq, outcome]
  · rw [length_filter_diagnostics]
    rfl

theorem run_pointwise_locked :
    let p : Pipeline := ⟨[.renameType ⟨⟨"Bytes".toList⟩, "BytesOut".toList⟩], none⟩
    let m := (((({} : Memory).file ⟨"a".toList⟩ "Bytes b".toList).file ⟨"b".toList⟩
      "int i".toList).file ⟨"c".toList⟩ "Bytes c".toList).refuseWrites ⟨"c".toList⟩
    m.Ascends ∧ ∃ s after, Batch.run ⟨p, false⟩ Memory.source m = (.ok s, after) ∧
      after.get? ⟨"a".toList⟩ = some "BytesOut b".toList ∧
      after.get? ⟨"c".toList⟩ = some "Bytes c".toList ∧
      s.scanned = 3 ∧ s.changedPaths = [⟨"a".toList⟩] ∧ s.failed = 1 := by
  intro p m
  have hm : m.Ascends := (((Memory.ascends_empty.file _ _).file _ _).file _ _).refuseWrites _
  obtain ⟨s, hrun, hscanned, -, hpaths, -, hfailed, -⟩ := run_pointwise p m hm
  refine ⟨hm, s, _, hrun, by decide, by decide, hscanned, ?_, ?_⟩
  · rw [hpaths]
    decide
  · rw [hfailed]
    decide

section Preview

variable (p : Pipeline) (hw : ∀ f ∈ m.files, m.writable f.1 = true)
include hw

theorem changes_dryRun : ∀ f ∈ m.files, changes ⟨p, false⟩ m f = changes ⟨p, true⟩ m f := by
  intro f hf
  simp [changes, outcome, hw f hf]

theorem fails_dryRun : ∀ f ∈ m.files, fails ⟨p, false⟩ m f = fails ⟨p, true⟩ m f := by
  intro f hf
  simp [fails, hw f hf]

theorem report_dryRun :
    report ⟨p, false⟩ m m.files = { report ⟨p, true⟩ m m.files with changes := [] } := by
  have hchanges := List.filter_congr (changes_dryRun p hw)
  have hfails := List.filter_congr (fails_dryRun p hw)
  have hremarks : m.files.map (remarks ⟨p, false⟩ m) = m.files.map (remarks ⟨p, true⟩ m) := by
    apply List.map_congr_left
    intro f hf
    simp [remarks, warnings, outcome, fails_dryRun p hw f hf]
  simp [report, hchanges, hfails, List.flatMap_def, hremarks, outcome]

theorem files_foldl_report (hm : m.Ascends) :
    ((report ⟨p, true⟩ m m.files).changes.foldl (fun m c => m.file c.path c.after) m).files =
      m.files.map (leave ⟨p, false⟩ m) := by
  have h : Memory.Ascending ([] ++ m.files) := hm
  have hfold := files_foldl_changes ⟨p, true⟩ (changes ⟨p, true⟩ m) h rfl
  refine hfold.trans (List.map_congr_left fun f hf => ?_)
  simp [leave, writes, changes_dryRun p hw f hf, outcome]

end Preview

/-- A dry run over files that can all be written leaves them, and says what the run would say. Its
changes are what the run would write. -/
theorem dryRun_previews (p : Pipeline) (m : Memory) (hm : m.Ascends)
    (hw : ∀ f ∈ m.files, m.writable f.1 = true) :
    ∃ preview done after, Batch.run ⟨p, true⟩ Memory.source m = (.ok preview, m) ∧
      Batch.run ⟨p, false⟩ Memory.source m = (.ok done, after) ∧
      (preview.changes.foldl (fun m c => m.file c.path c.after) m).files = after.files ∧
      (∀ c ∈ preview.changes, m.get? c.path = some c.before ∧ c.before ≠ c.after) ∧
      done = { preview with changes := [] } := by
  refine ⟨_, _, _, run_dryRun p hm, run_memory ⟨p, false⟩ hm, files_foldl_report p hw hm, ?_,
    report_dryRun p hw⟩
  intro c hc
  obtain ⟨f, hf, rfl⟩ := List.mem_map.mp hc
  obtain ⟨hmem, hchange⟩ := List.mem_filter.mp hf
  exact ⟨hm.get?_of_mem hmem, outcome_ne (Bool.and_eq_true_iff.mp hchange).1⟩

theorem dryRun_previews_rename :
    let p : Pipeline := ⟨[.renameType ⟨⟨"Bytes".toList⟩, "BytesOut".toList⟩], none⟩
    let m := (({} : Memory).file ⟨"a".toList⟩ "Bytes b".toList).file ⟨"b".toList⟩ "int i".toList
    m.Ascends ∧ (∀ f ∈ m.files, m.writable f.1 = true) ∧
    ∃ preview done after, Batch.run ⟨p, true⟩ Memory.source m = (.ok preview, m) ∧
      Batch.run ⟨p, false⟩ Memory.source m = (.ok done, after) ∧
      (preview.changes.foldl (fun m c => m.file c.path c.after) m).files = after.files ∧
      done.changedPaths = preview.changedPaths := by
  intro p m
  have hm : m.Ascends := (Memory.ascends_empty.file _ _).file _ _
  have hw : ∀ f ∈ m.files, m.writable f.1 = true := by decide
  obtain ⟨preview, done, after, hdry, hrun, hfiles, -, rfl⟩ := dryRun_previews p m hm hw
  exact ⟨hm, hw, preview, _, after, hdry, hrun, hfiles, rfl⟩

end Batch

end Refit
