import Refit.Proofs.Batch.Pointwise

namespace Refit

variable {σ : Type}

def Source.only (src : Source σ) (ps : List Path) : Source σ :=
  { src with list := fun _ => .ok ps }

def Summary.noting (scanned failed : Nat) (ds : List Diagnostic) (s : Summary) : Summary :=
  { s with
    scanned := s.scanned + scanned
    failed := s.failed + failed
    diagnostics := ds ++ s.diagnostics }

namespace Batch

variable {b : Batch} {src : Source σ} {s s' : σ} {sum : Summary} {p : Path}
  {ps pre post : List Path} {e : Failure}

/-- What goes wrong at the turn of a path: its file cannot be read, or what the pipeline has made of
it cannot be written. -/
inductive FailsAt (b : Batch) (src : Source σ) (s : σ) (p : Path) (e : Failure) : Prop
  | unread (h : src.read s p = .error e)
  | unwritten {t : Text} (hread : src.read s p = .ok t)
      (hchanged : (b.pipeline.transform t).changed = true) (hdry : b.dryRun = false)
      (hwrite : src.write s p (b.pipeline.transform t).content = .error e)

def warningsAt (b : Batch) (src : Source σ) (s : σ) (p : Path) : List Diagnostic :=
  match src.read s p with
  | .ok t => b.warnings (p, t)
  | .error _ => []

theorem file_cases (b : Batch) (src : Source σ) (sum : Summary) (s : σ) (p : Path) :
    let warned := { sum with diagnostics := sum.diagnostics ++ b.warningsAt src s p }
    (∃ e, b.FailsAt src s p e ∧ b.file src sum s p = (warned, s, some e)) ∨
    (∃ t, src.read s p = .ok t ∧ (b.outcome (p, t)).changed = false ∧
      b.file src sum s p = (warned, s, none)) ∨
    ∃ t s', src.read s p = .ok t ∧ (b.outcome (p, t)).changed = true ∧
      b.file src sum s p = ({ warned with
        changed := sum.changed + 1
        applications := sum.applications + (b.outcome (p, t)).applied.length
        changes := sum.changes ++ if b.dryRun then [b.change (p, t)] else []
        changedPaths := p.insertSorted sum.changedPaths }, s', none) := by
  intro warned
  cases hread : src.read s p with
  | error e =>
    refine .inl ⟨e, .unread hread, ?_⟩
    rw [file, hread]
    simp [warned, warningsAt, hread]
  | ok t =>
    have hwarned : warned = { sum with diagnostics := sum.diagnostics ++ b.warnings (p, t) } := by
      simp [warned, warningsAt, hread]
    rw [file_of_read hread, hwarned]
    dsimp only
    cases hchanged : (b.outcome (p, t)).changed with
    | false => exact .inr (.inl ⟨t, rfl, hchanged, rfl⟩)
    | true =>
      cases hdry : b.dryRun with
      | true => exact .inr (.inr ⟨t, s, rfl, hchanged, rfl⟩)
      | false =>
        cases hwrite : src.write s p (b.outcome (p, t)).content with
        | error e => exact .inl ⟨e, .unwritten hread hchanged hdry hwrite, rfl⟩
        | ok s' => exact .inr (.inr ⟨t, s', rfl, hchanged, by simp⟩)

theorem file_of_failsAt (h : b.FailsAt src s p e) (sum : Summary) : b.file src sum s p =
    ({ sum with diagnostics := sum.diagnostics ++ b.warningsAt src s p }, s, some e) := by
  cases h with
  | unread hread => simp [file, warningsAt, hread]
  | unwritten hread hchanged hdry hwrite =>
    rw [file_of_read hread]
    simp [outcome, warningsAt, hread, hchanged, hdry, hwrite]

theorem files_cons_error (h : b.FailsAt src s p e) (he : e.recoverable = false) (sum : Summary)
    (ps : List Path) : b.files src sum s (p :: ps) = (.error e, s) := by
  rw [files, file_of_failsAt h]
  simp [he]

theorem files_cons_recoverable (h : b.FailsAt src s p e) (he : e.recoverable = true)
    (sum : Summary) (ps : List Path) : b.files src sum s (p :: ps) =
      b.files src { sum with
        scanned := sum.scanned + 1
        failed := sum.failed + 1
        diagnostics := sum.diagnostics ++ b.warningsAt src s p ++ [⟨p, .error, e.message⟩] }
        s ps := by
  rw [files, file_of_failsAt h]
  simp [he]

theorem files_append (b : Batch) (src : Source σ) (sum : Summary) (s : σ) (pre post : List Path) :
    b.files src sum s (pre ++ post) =
      match b.files src sum s pre with
      | (.ok sum, s) => b.files src sum s post
      | (.error e, s) => (.error e, s) := by
  induction pre generalizing sum s with
  | nil => rfl
  | cons p pre ih =>
    rw [List.cons_append, files, files]
    split
    · exact ih _ _
    · split
      · exact ih _ _
      · rfl

theorem files_eq_error_iff : b.files src sum s ps = (.error e, s') ↔
    ∃ pre p post sum', ps = pre ++ p :: post ∧ b.files src sum s pre = (.ok sum', s') ∧
      b.FailsAt src s' p e ∧ e.recoverable = false := by
  constructor
  · intro h
    induction ps generalizing sum s with
    | nil => cases h
    | cons p ps ih =>
      -- Unless `p` itself ends the batch, what ends it comes later.
      have hlater {sum' s''} (hstep : ∀ ps, b.files src sum s (p :: ps) = b.files src sum' s'' ps) :
          ∃ pre q post sum', p :: ps = pre ++ q :: post ∧ b.files src sum s pre = (.ok sum', s') ∧
            b.FailsAt src s' q e ∧ e.recoverable = false := by
        rw [hstep] at h
        obtain ⟨pre, q, post, sum', rfl, hpre, hfails⟩ := ih h
        exact ⟨p :: pre, q, post, sum', rfl, (hstep pre).trans hpre, hfails⟩
      obtain ⟨e', hfails, -⟩ | ⟨t, -, -, hfile⟩ | ⟨t, s'', -, -, hfile⟩ :=
        file_cases b src { sum with scanned := sum.scanned + 1 } s p
      · cases he : e'.recoverable with
        | true => exact hlater (files_cons_recoverable hfails he sum)
        | false =>
          rw [files_cons_error hfails he] at h
          cases h
          exact ⟨[], p, ps, sum, rfl, rfl, hfails, he⟩
      · exact hlater fun ps => by rw [files, hfile]
      · exact hlater fun ps => by rw [files, hfile]
  · rintro ⟨pre, p, post, sum', rfl, hpre, hfails, he⟩
    rw [files_append, hpre]
    exact files_cons_error hfails he sum' post

theorem file_noting (b : Batch) (src : Source σ) (sum : Summary) (s : σ) (p : Path) (m n : Nat)
    (ds : List Diagnostic) : b.file src (sum.noting m n ds) s p =
      ((b.file src sum s p).1.noting m n ds, (b.file src sum s p).2) := by
  cases hread : src.read s p with
  | error e => simp only [file, hread]
  | ok t =>
    rw [file_of_read hread, file_of_read hread]
    cases (b.outcome (p, t)).changed with
    | false => simp [Summary.noting]
    | true =>
      cases b.dryRun with
      | true => simp [Summary.noting]
      | false => cases src.write s p (b.outcome (p, t)).content <;> simp [Summary.noting]

theorem files_noting (b : Batch) (src : Source σ) (sum : Summary) (s : σ) (ps : List Path)
    (m n : Nat) (ds : List Diagnostic) : b.files src (sum.noting m n ds) s ps =
      ((b.files src sum s ps).1.map (Summary.noting m n ds), (b.files src sum s ps).2) := by
  induction ps generalizing sum s with
  | nil => rfl
  | cons p ps ih =>
    have hscanned : { sum.noting m n ds with scanned := (sum.noting m n ds).scanned + 1 } =
        Summary.noting m n ds { sum with scanned := sum.scanned + 1 } := by
      simp [Summary.noting, Nat.add_right_comm]
    rw [files, files, hscanned, file_noting]
    obtain ⟨sum, s, none | e⟩ := b.file src { sum with scanned := sum.scanned + 1 } s p
    · exact ih sum s
    · have hfailed : { sum.noting m n ds with
          failed := (sum.noting m n ds).failed + 1
          diagnostics := (sum.noting m n ds).diagnostics ++ [⟨p, .error, e.message⟩] } =
          Summary.noting m n ds { sum with
            failed := sum.failed + 1
            diagnostics := sum.diagnostics ++ [⟨p, .error, e.message⟩] } := by
        simp [Summary.noting, Nat.add_right_comm]
      dsimp only at hfailed ⊢
      rw [hfailed]
      split
      · exact ih _ s
      · rfl

theorem files_only (b : Batch) (src : Source σ) (qs : List Path) (sum : Summary) (s : σ)
    (ps : List Path) : b.files (src.only qs) sum s ps = b.files src sum s ps := by
  induction ps generalizing sum s with
  | nil => rfl
  | cons p ps ih => simp only [files, ih]; rfl

theorem run_only (b : Batch) (src : Source σ) (s : σ) (ps : List Path) :
    b.run (src.only ps) s = b.files src {} s ps := files_only b src ps {} s ps

/-- A batch ends before its time exactly if a path fails for good at its turn, with the source as
the paths before it have left it. A path that fails otherwise adds to what was scanned and what
failed, and is remarked upon; all else is as if it had not been listed. -/
theorem run_stops (b : Batch) (src : Source σ) (s : σ) (hlist : src.list s = .ok ps) :
    (∀ e s', b.run src s = (.error e, s') ↔
      ∃ pre p post sum, ps = pre ++ p :: post ∧ b.run (src.only pre) s = (.ok sum, s') ∧
        b.FailsAt src s' p e ∧ e.recoverable = false) ∧
    ∀ pre p post sum s' e, ps = pre ++ p :: post → b.run (src.only pre) s = (.ok sum, s') →
      b.FailsAt src s' p e → e.recoverable = true →
      ∃ (rest : Except Failure Summary) (after : σ),
        b.run (src.only (pre ++ post)) s = (rest.map (Summary.noting 0 0 sum.diagnostics), after) ∧
        b.run src s = (rest.map (Summary.noting 1 1 (sum.diagnostics ++ b.warningsAt src s' p ++
          [⟨p, .error, e.message⟩])), after) := by
  have hrun : b.run src s = b.files src {} s ps := by rw [run, hlist]
  simp only [run_only, hrun]
  refine ⟨fun e s' => files_eq_error_iff, ?_⟩
  rintro pre p post sum s' e rfl hpre hfails he
  -- What the paths after `p` do, with no remark before them.
  cases hrest : b.files src { sum with diagnostics := [] } s' post with
  | mk rest after =>
    have hfiles := files_noting b src { sum with diagnostics := [] } s' post
    rw [hrest] at hfiles
    refine ⟨rest, after, ?_, ?_⟩
    · rw [files_append, hpre, ← hfiles]
      simp [Summary.noting]
    · rw [files_append, hpre, ← hfiles]
      simp [files_cons_recoverable hfails he, Summary.noting]

theorem run_stops_fatal :
    let b : Batch := ⟨⟨[.renameType ⟨⟨"Bytes".toList⟩, "BytesOut".toList⟩], none⟩, false⟩
    let m : Memory :=
      { files := [(⟨"a".toList⟩, "Bytes b".toList), (⟨"z".toList⟩, "Bytes b".toList)] }
    let after : Memory :=
      { files := [(⟨"a".toList⟩, "BytesOut b".toList), (⟨"z".toList⟩, "Bytes b".toList)]
        writes := 1 }
    let bad : Failure := .invalid (.other "bad".toList)
    let src := { Memory.source with
      list := fun _ => .ok [⟨"gone".toList⟩, ⟨"a".toList⟩, ⟨"bad".toList⟩, ⟨"z".toList⟩]
      read := fun m p => if p = ⟨"bad".toList⟩ then .error bad else m.read p }
    let done : Summary :=
      { scanned := 1, changed := 1, applications := 1, changedPaths := [⟨"a".toList⟩] }
    let gone : Diagnostic :=
      ⟨⟨"gone".toList⟩, .error, "Failed to read gone: no such file".toList⟩
    b.run (src.only [⟨"a".toList⟩]) m = (.ok done, after) ∧
      b.run (src.only [⟨"gone".toList⟩, ⟨"a".toList⟩]) m = (.ok (done.noting 1 1 [gone]), after) ∧
      b.run src m = (.error bad, after) := by
  intro b m after bad src done gone
  let early := src.only [⟨"gone".toList⟩, ⟨"a".toList⟩]
  have hgone : b.FailsAt early m ⟨"gone".toList⟩ (.unreadable ⟨"gone".toList⟩ .absent) :=
    .unread rfl
  have hdone : b.run (src.only [⟨"a".toList⟩]) m = (.ok done, after) := rfl
  obtain ⟨rest, after', hrest, hearly⟩ :=
    (run_stops b early m rfl).2 [] _ _ {} m _ rfl rfl hgone rfl
  obtain ⟨hok, rfl⟩ := Prod.mk.inj (hrest.symm.trans hdone)
  cases rest with
  | error e => cases hok
  | ok sum =>
    have hsum : sum = done := by simpa [Summary.noting] using Except.ok.inj hok
    rw [hsum] at hearly
    have hbad : b.FailsAt src after ⟨"bad".toList⟩ bad := .unread rfl
    exact ⟨hdone, hearly, ((run_stops b src m rfl).1 bad after).mpr
      ⟨_, _, _, _, rfl, hearly, hbad, rfl⟩⟩

end Batch

end Refit
