import Refit.Proofs.Batch.Stopping
import Refit.Proofs.Command.Series
import Refit.Proofs.Migration.Chronicle

namespace Refit

variable {tree after : Tree} {root : Path} {e : Failure}

namespace Batch

variable {σ : Type} {b : Batch} {src : Source σ} {s s' : σ}

/-- A source whose files fail one by one: a batch goes on behind each of them. -/
structure Forgiving (src : Source σ) : Prop where
  read : ∀ s p e, src.read s p = .error e → e.recoverable = true
  write : ∀ s p t e, src.write s p t = .error e → e.recoverable = true

theorem Forgiving.recoverable (hsrc : Forgiving src) {p : Path} (h : b.FailsAt src s p e) :
    e.recoverable = true := by
  cases h with
  | unread h => exact hsrc.read _ _ _ h
  | unwritten _ _ _ h => exact hsrc.write _ _ _ _ h

theorem run_eq_error (hsrc : Forgiving src) (h : b.run src s = (.error e, s')) :
    src.list s = .error e ∧ s' = s := by
  rw [run] at h
  split at h
  · next hlist =>
    cases h
    exact ⟨hlist, rfl⟩
  · obtain ⟨_, _, _, _, _, _, hfails, he⟩ := files_eq_error_iff.mp h
    rw [hsrc.recoverable hfails] at he
    cases he

end Batch

theorem Tree.source_forgiving (root : Path) (m : Matcher) :
    Batch.Forgiving (Tree.source root m) where
  read tree p e h := by
    obtain ⟨fault, -, rfl⟩ := exists_of_mapError_eq_error h
    rfl
  write tree p t e h := by
    obtain ⟨fault, -, rfl⟩ := exists_of_mapError_eq_error h
    rfl

theorem Matcher.list_eq_error {m : Matcher} (h : m.list root tree = .error e) :
    m.compile = .error e ∨ ∃ why, e = .cannotList root why := by
  rw [list] at h
  split at h
  · cases h
    exact .inr ⟨_, rfl⟩
  · left
    rw [walk] at h
    cases hcompile : m.compile with
    | error e' => rw [hcompile] at h; cases h; rfl
    | ok s => rw [hcompile] at h; cases h
  · cases h
    exact .inr ⟨_, rfl⟩

theorem Config.pipeline_of_toMigration {c : Config} {m : Migration} (h : c.toMigration = .ok m) :
    ∃ p, m.pipeline = .ok p := by
  rw [toMigration] at h
  by_cases hname : Text.trim c.name = []
  · rw [if_pos hname] at h
    cases h
  by_cases hrules : c.rules.isEmpty = true
  · rw [if_neg hname, if_pos hrules] at h
    cases h
  rw [if_neg hname, if_neg hrules] at h
  cases hlanguage : Language.byName? c.language with
  | none =>
    rw [hlanguage] at h
    cases h
  | some l =>
    rw [hlanguage] at h
    obtain ⟨p, hp, h⟩ := exists_of_bind_eq_ok h
    cases h
    exact ⟨p, hp⟩

namespace Command

variable {m : Migration} {ms : List Migration} {configs : List Path} {o : Options} {dryRun : Bool}
  {total : Summary} {problem : Problem}

theorem pipeline_of_mem_migrations (h : migrations tree configs = .ok ms) (hm : m ∈ ms) :
    ∃ p, m.pipeline = .ok p := by
  rw [migrations] at h
  split at h
  · cases h
    rw [List.mem_singleton.mp hm]
    exact ⟨_, Migration.chronicleBytes_pipeline⟩
  · obtain ⟨p, -, hload⟩ := exists_of_mem_mapM h hm
    obtain ⟨c, -, hc⟩ := exists_of_bind_eq_ok (eq_ok_of_mapError_eq_ok hload)
    exact Config.pipeline_of_toMigration hc

theorem runAll_eq_error (hms : ∀ m ∈ ms, ∃ p, m.pipeline = .ok p)
    (h : runAll root dryRun total tree ms = (.error problem, after)) :
    ∃ pre m post total', ms = pre ++ m :: post ∧ problem = .failed m.name ∧
      runAll root dryRun total tree pre = (.ok total', after) ∧
      ∃ e, m.matcher.list root after = .error e := by
  induction ms generalizing total tree with
  | nil => cases h
  | cons m ms ih =>
    obtain ⟨p, hp⟩ := hms m List.mem_cons_self
    have hbatch : m.batch dryRun = .ok { pipeline := p, dryRun } := by
      rw [Migration.batch, hp]
      rfl
    rw [runAll, hbatch] at h
    dsimp only at h
    split at h
    · next hrun =>
      cases h
      obtain ⟨hlist, rfl⟩ := Batch.run_eq_error (Tree.source_forgiving root m.matcher) hrun
      exact ⟨[], m, ms, total, rfl, rfl, rfl, _, hlist⟩
    · next sum tree' hrun =>
      obtain ⟨pre, m', post, total', rfl, hproblem, hpre, hlist⟩ :=
        ih (fun m hm => hms m (List.mem_cons_of_mem _ hm)) h
      refine ⟨m :: pre, m', post, total', rfl, hproblem, ?_, hlist⟩
      rw [runAll, hbatch]
      dsimp only
      rw [hrun]
      exact hpre

theorem migrate_eq_error (h : migrate o tree = (.error problem, after)) :
    after = tree ∨ ∃ pre m post total, migrations tree o.configs = .ok (pre ++ m :: post) ∧
      pre ≠ [] ∧ problem = .failed m.name ∧
      runAll o.root o.dryRun {} tree pre = (.ok total, after) ∧
      ∃ e, m.matcher.list o.root after = .error e := by
  rw [migrate] at h
  split at h
  · cases h
    exact .inl rfl
  · next ms hms =>
    obtain ⟨pre, m, post, total, rfl, hproblem, hpre, hlist⟩ :=
      runAll_eq_error (fun m hm => pipeline_of_mem_migrations hms hm) h
    cases pre with
    | nil =>
      cases hpre
      exact .inl rfl
    | cons first pre =>
      exact .inr ⟨_, m, post, total, hms, List.cons_ne_nil first pre, hproblem, hpre, hlist⟩

theorem migrate_eq (hms : migrations tree o.configs = .ok ms) :
    migrate o tree = runAll o.root o.dryRun {} tree ms := by
  rw [migrate, hms]

theorem run_eq_error {args : List Text} (hargs : Request.ofArgs? args = some (.run o))
    (hlist : o.list = false) (h : migrate o tree = (.error problem, after)) :
    run args tree =
      ({ exit := 1, complaint := unlines ["Error: ".toList ++ problem.message] }, after) := by
  rw [run, hargs]
  dsimp only
  rw [if_neg (by simp [hlist]), h]

/-- A command that fails leaves the tree as it was, unless it fails at a migration behind the first
one, whose globs are malformed or for which the root cannot be listed. Then the tree is what the
migrations before it have left. -/
theorem failure_untouched {args : List Text} {report : Report}
    (h : run args tree = (report, after)) (hexit : report.exit ≠ 0) :
    after = tree ∨ ∃ o pre m post total, Request.ofArgs? args = some (.run o) ∧
      migrations tree o.configs = .ok (pre ++ m :: post) ∧ pre ≠ [] ∧
      report.complaint = unlines ["Error: ".toList ++ (Problem.failed m.name).message] ∧
      runAll o.root o.dryRun {} tree pre = (.ok total, after) ∧
      ((∃ why, m.matcher.compile = .error why) ∨
        ∃ why, m.matcher.list o.root after = .error (.cannotList o.root why)) := by
  rw [run] at h
  split at h
  · exact .inl (Prod.mk.inj h).2.symm
  · exact .inl (Prod.mk.inj h).2.symm
  · exact .inl (Prod.mk.inj h).2.symm
  · next o hargs =>
    split at h
    · exact .inl (Prod.mk.inj h).2.symm
    · split at h
      · cases h
        exact absurd rfl hexit
      · next hmigrate =>
        cases h
        refine (migrate_eq_error hmigrate).imp_right ?_
        rintro ⟨pre, m, post, total, hms, hne, rfl, hpre, e, hlist⟩
        refine ⟨o, pre, m, post, total, hargs, hms, hne, rfl, hpre, ?_⟩
        obtain hcompile | ⟨why, rfl⟩ := Matcher.list_eq_error hlist
        · exact .inl ⟨e, hcompile⟩
        · exact .inr ⟨why, hlist⟩

theorem failure_untouched_alone :
    let tree := twoConfigs (renameConfig "a" "A" "B" []) (renameConfig "b" "A" "C" ["["])
    let args := ["t".toList, "-c".toList, "b.json".toList]
    (run args tree).1.exit = 1 ∧ (run args tree).2 = tree := by
  intro tree args
  let m := renameMigration "b" "A" "C" ["["]
  have hms : migrations tree [.ofString "b.json"] = .ok [m] :=
    migrations_eq (by simp) (.cons (loadMigration_b (by decide +kernel) _) .nil)
  have hlist : m.matcher.list (.ofString "t") tree = .error _ :=
    (twoConfigs_holds _ _).list_eq_error rfl
  have hrun : run args tree = _ :=
    run_eq_error rfl rfl ((migrate_eq hms).trans (runAll_failed rfl hlist {} []))
  have hexit : (run args tree).1.exit = 1 := by rw [hrun]
  refine ⟨hexit, ?_⟩
  have hreport : run args tree = ((run args tree).1, (run args tree).2) := rfl
  have hfails : (run args tree).1.exit ≠ 0 := by simp [hexit]
  obtain hsame | ⟨o, pre, m, post, total, hargs, hpre, hne, -⟩ := failure_untouched hreport hfails
  · exact hsame
  · cases hargs
    have hlength := congrArg List.length (Except.ok.inj (hms.symm.trans hpre))
    have hpositive := List.length_pos_iff.mpr hne
    simp at hlength
    omega

/-- The second migration cannot be run, and the first one has written. -/
theorem failure_half_applied :
    let tree := twoConfigs (renameConfig "a" "A" "B" []) (renameConfig "b" "A" "C" ["["])
    let args := ["t".toList, "-c".toList, "a.json".toList, "-c".toList, "b.json".toList]
    (run args tree).1.exit = 1 ∧ tree.readText (.ofString "t/A.java") = .ok "A x;".toList ∧
      (run args tree).2.readText (.ofString "t/A.java") = .ok "B x;".toList := by
  intro tree args
  let first := renameMigration "a" "A" "B" []
  let second := renameMigration "b" "A" "C" ["["]
  have hms : migrations tree [.ofString "a.json", .ofString "b.json"] = .ok [first, second] :=
    migrations_twoConfigs (by decide +kernel) (by decide +kernel) rfl rfl
  have hheld : tree.Holds (.ofString "t") [(["A.java".toList], "A x;".toList)] :=
    twoConfigs_holds _ _
  have hrunnable : first.Runnable := ⟨⟨_, rfl⟩, ⟨_, rfl⟩⟩
  obtain ⟨b, s, after, hb, hfirst, -, -, hafter⟩ := hrunnable.run hheld false
  have hleave : first.leave (.ofString "t") (["A.java".toList], "A x;".toList) =
      (["A.java".toList], "B x;".toList) := by decide
  have hafter := hafter rfl
  rw [List.map_singleton, hleave] at hafter
  have hall : runAll (.ofString "t") false {} tree [first, second] =
      (.error (.failed second.name), after) :=
    (runAll_cons hb hfirst {} [second]).trans (runAll_failed rfl (hafter.list_eq_error rfl) _ [])
  have hrun : run args tree = _ := run_eq_error rfl rfl ((migrate_eq hms).trans hall)
  rw [hrun]
  exact ⟨rfl, hheld.readText List.mem_cons_self, hafter.readText List.mem_cons_self⟩

end Command

end Refit
