import Refit.Proofs.Batch.Merging
import Refit.Proofs.Command.Failure

namespace Refit

namespace Summary

variable {a b c d : Summary}

def lastText (s : Summary) (p : Path) : Option Text :=
  ((s.changes.filter fun c => c.path.same p).getLast?).map Change.after

structure Agrees (a b : Summary) : Prop where
  changed : a.changed = b.changed
  applications : a.applications = b.applications
  changedPaths : a.changedPaths = b.changedPaths

theorem Agrees.refl (a : Summary) : Agrees a a := ⟨rfl, rfl, rfl⟩

theorem Agrees.merge (h : Agrees a b) (h' : Agrees c d) : Agrees (a.merge c) (b.merge d) where
  changed := by simp only [Summary.merge, h.changed, h'.changed, h.changedPaths, h'.changedPaths]
  applications := by simp only [Summary.merge, h.applications, h'.applications]
  changedPaths := by simp only [Summary.merge, h.changedPaths, h'.changedPaths]

theorem changes_foldl_merge (sums : List Summary) (total : Summary) :
    (sums.foldl merge total).changes = total.changes ++ sums.flatMap changes :=
  ((Totals.single total).foldl sums).changes

end Summary

variable {tree : Tree} {root : Path} {texts : List (List Text × Text)} {m : Migration}
  {ms : List Migration} {s s' : Summary} {x y : List Text × Text}

namespace Migration

/-- A text that a migration changes is left alone by those behind it, be it as it was or as it has
become. -/
def Undisturbed (root : Path) (ms : List Migration) (x : List Text × Text) : Prop :=
  ms.Pairwise fun m m' => m.changes root x = false ∨
    (m'.changes root x = false ∧ m'.changes root (m.leave root x) = false)

def Stage (root : Path) (ms : List Migration) (x y : List Text × Text) : Prop :=
  (y = x ∧ Undisturbed root ms x) ∨
    ∀ m ∈ ms, m.changes root x = false ∧ m.changes root y = false

theorem Stage.step (h : Stage root (m :: ms) x y) :
    m.changes root y = m.changes root x ∧ (m.changes root x = true → y = x) ∧
      Stage root ms x (m.leave root y) := by
  obtain ⟨rfl, h⟩ | h := h
  · obtain ⟨hm, hms⟩ := List.pairwise_cons.mp h
    refine ⟨rfl, fun _ => rfl, ?_⟩
    cases hchanges : m.changes root y with
    | false =>
      rw [leave_eq_self hchanges]
      exact .inl ⟨rfl, hms⟩
    | true =>
      simp only [hchanges, Bool.true_eq_false, false_or] at hm
      exact .inr hm
  · obtain ⟨hx, hy⟩ := h m List.mem_cons_self
    refine ⟨hy.trans hx.symm, fun hchanges => absurd (hx.symm.trans hchanges) (by decide), ?_⟩
    rw [leave_eq_self hy]
    exact .inr fun m' hm' => h m' (List.mem_cons_of_mem m hm')

theorem Stage.leaveAll (h : Stage root ms x y) : (Command.leaveAll root ms y).2 =
    (((ms.filter (·.changes root x)).getLast?).map fun m =>
      (m.outcome root x).content).getD y.2 := by
  induction ms generalizing y with
  | nil => rfl
  | cons m ms ih =>
    obtain ⟨-, hfirst, hrest⟩ := h.step
    refine (ih hrest).trans ?_
    cases hchanges : m.changes root x with
    | false =>
      rw [List.filter_cons_of_neg (by simp [hchanges]), leave_eq_self (h.step.1.trans hchanges)]
    | true =>
      obtain rfl := hfirst hchanges
      have hfilter : (m :: ms).filter (·.changes root y) = m :: ms.filter (·.changes root y) :=
        List.filter_cons_of_pos hchanges
      rw [hfilter, List.getLast?_cons]
      cases (ms.filter (·.changes root y)).getLast? <;> rfl

theorem filter_stage {g : List Text × Text → List Text × Text}
    (h : ∀ x ∈ texts, Stage root (m :: ms) x (g x)) :
    (texts.map g).filter (m.changes root) = texts.filter (m.changes root) := by
  have hfilter : texts.filter (m.changes root ∘ g) = texts.filter (m.changes root) :=
    List.filter_congr fun x hx => (h x hx).step.1
  rw [List.filter_map, hfilter]
  refine (List.map_congr_left fun x hx => ?_).trans (List.map_id _)
  obtain ⟨hx, hchanges⟩ := List.mem_filter.mp hx
  exact (h x hx).step.2.1 hchanges

theorem Tells.agrees {dryRun dryRun' : Bool} {texts' : List (List Text × Text)}
    (h : m.Tells root dryRun texts s) (h' : m.Tells root dryRun' texts' s')
    (hsame : texts'.filter (m.changes root) = texts.filter (m.changes root)) : s.Agrees s' where
  changed := by rw [h.changed, h'.changed, hsame]
  applications := by rw [h.applications, h'.applications, hsame]
  changedPaths := by rw [h.changedPaths, h'.changedPaths, hsame]

end Migration

open Migration

namespace Command

variable {sums sums' : List Summary} {total total' : Summary} {o : Options}

theorem Course.agrees {g : List Text × Text → List Text × Text}
    (h : Course root (texts.map g) ms sums')
    (hdry : List.Forall₂ (fun m s => m.Tells root true texts s) ms sums)
    (hstage : ∀ x ∈ texts, Stage root ms x (g x)) (htotal : total.Agrees total') :
    (sums.foldl Summary.merge total).Agrees (sums'.foldl Summary.merge total') := by
  -- `g` is what the migrations so far have made of the texts.
  induction hdry generalizing g sums' total total' with
  | nil =>
    cases h
    exact htotal
  | @cons m s ms sums htells _ ih =>
    cases h with
    | next htells' h =>
      rw [List.map_map] at h
      rw [List.foldl_cons, List.foldl_cons]
      refine ih h (fun x hx => (hstage x hx).step.2.2) (htotal.merge ?_)
      exact htells.agrees htells' (filter_stage hstage)

theorem changes_dry (hdry : List.Forall₂ (fun m s => m.Tells root true texts s) ms sums) :
    sums.flatMap Summary.changes =
      ms.flatMap fun m => (texts.filter (m.changes root)).map (m.change root) := by
  induction hdry with
  | nil => rfl
  | cons htells _ ih => rw [List.flatMap_cons, List.flatMap_cons, ih, htells.changes, if_pos rfl]

theorem filter_changes (h : tree.Holds root texts) (hx : x ∈ texts) (ms : List Migration) :
    (ms.flatMap fun m => (texts.filter (m.changes root)).map (m.change root)).filter
        (fun c => c.path.same (root.below x.1)) =
      (ms.filter (·.changes root x)).map (·.change root x) := by
  have hnodup : texts.Nodup := h.ascends.imp fun hlt heq => by
    simpa [heq, Path.same_refl] using Path.not_same_of_lt hlt
  have hsame : texts.filter (fun y => (root.below y.1).same (root.below x.1)) = [x] := by
    have hx' : ∀ y ∈ texts, (root.below y.1).same (root.below x.1) = (y == x) := by
      intro y hy
      rw [Bool.eq_iff_iff, beq_iff_eq]
      exact ⟨Batch.eq_of_same h hy hx, fun heq => by rw [heq, Path.same_refl]⟩
    rw [List.filter_congr hx', List.filter_beq, List.count_eq_one_of_mem hnodup hx]
    rfl
  induction ms with
  | nil => rfl
  | cons m ms ih =>
    have hm : ((texts.filter (m.changes root)).map (m.change root)).filter
        (fun c => c.path.same (root.below x.1)) =
          ([x].filter (m.changes root)).map (m.change root) := by
      rw [← hsame, List.filter_map, List.filter_comm]
      rfl
    rw [List.flatMap_cons, List.filter_append, hm, ih]
    cases hchanges : m.changes root x with
    | false => simp [hchanges]
    | true => simp [hchanges]

/-- A dry run of migrations whose globs can be read writes nothing and records what each of them
would change by itself, whereas a run lets each of them change what those before it have left. If
what one migration changes is left alone by those behind it, the text that the dry run last records
for a file is what the run leaves there, and both count as many files and changes. -/
theorem preview_agrees (hms : migrations tree o.configs = .ok ms)
    (hglobs : ∀ m ∈ ms, ∃ s, m.matcher.compile = .ok s) (h : tree.Holds o.root texts) :
    ∃ preview done after,
      migrate { o with dryRun := true } tree = (.ok preview, tree) ∧
      migrate { o with dryRun := false } tree = (.ok done, after) ∧
      after.Holds o.root (texts.map (leaveAll o.root ms)) ∧
      preview.changes =
        (ms.flatMap fun m => (texts.filter (m.changes o.root)).map (m.change o.root)) ∧
      ((∀ x ∈ texts, Undisturbed o.root ms x) →
        (∀ x ∈ texts, (preview.lastText (o.root.below x.1)).getD x.2 = (leaveAll o.root ms x).2) ∧
          preview.changed = done.changed ∧ preview.applications = done.applications) := by
  have hrunnable : ∀ m ∈ ms, m.Runnable := fun m hm =>
    ⟨hglobs m hm, pipeline_of_mem_migrations hms hm⟩
  obtain ⟨sums, hdry, hpreview⟩ := runAll_dry hrunnable h {}
  obtain ⟨sums', after, hcourse, hdone, hafter⟩ := runAll_real hrunnable h {}
  have hchanges := (Summary.changes_foldl_merge sums {}).trans (changes_dry hdry)
  refine ⟨_, _, after, (migrate_eq (o := { o with dryRun := true }) hms).trans hpreview,
    (migrate_eq (o := { o with dryRun := false }) hms).trans hdone, hafter, hchanges,
    fun hundisturbed => ⟨fun x hx => ?_, ?_⟩⟩
  · have hstage : Stage o.root ms x x := .inl ⟨rfl, hundisturbed x hx⟩
    rw [hstage.leaveAll, Summary.lastText, hchanges, filter_changes h hx, List.getLast?_map]
    cases (ms.filter (·.changes o.root x)).getLast? <;> rfl
  · have hagrees : Summary.Agrees _ _ := Course.agrees (g := id) (by rwa [List.map_id]) hdry
      (fun x hx => .inl ⟨rfl, hundisturbed x hx⟩) (.refl {})
    exact ⟨hagrees.changed, hagrees.applications⟩

theorem preview_agrees_renaming :
    let tree := twoConfigs (renameConfig "a" "A" "B" []) (renameConfig "b" "C" "D" [])
    let o : Options :=
      { root := .ofString "t", configs := [.ofString "a.json", .ofString "b.json"] }
    ∃ preview done after, migrate { o with dryRun := true } tree = (.ok preview, tree) ∧
      migrate o tree = (.ok done, after) ∧
      (preview.lastText (.ofString "t/A.java")).getD "A x;".toList = "B x;".toList ∧
      after.readText (.ofString "t/A.java") = .ok "B x;".toList ∧
      preview.changed = done.changed ∧ preview.applications = done.applications := by
  intro tree o
  let first := renameMigration "a" "A" "B" []
  let second := renameMigration "b" "C" "D" []
  have hms : migrations tree o.configs = .ok [first, second] :=
    migrations_twoConfigs (by decide +kernel) (by decide +kernel) rfl rfl
  have hglobs : ∀ m ∈ [first, second], ∃ s, m.matcher.compile = .ok s := by
    simp only [List.forall_mem_cons]
    exact ⟨⟨_, rfl⟩, ⟨_, rfl⟩, nofun⟩
  obtain ⟨preview, done, after, hdry, hdone, hafter, -, hagrees⟩ :=
    preview_agrees hms hglobs (twoConfigs_holds _ _)
  have hundisturbed : Undisturbed o.root [first, second] (["A.java".toList], "A x;".toList) := by
    rw [Undisturbed, List.pairwise_pair]
    decide
  obtain ⟨hlast, hcounts⟩ := hagrees (List.forall_mem_singleton.mpr hundisturbed)
  refine ⟨preview, done, after, hdry, hdone, ?_, ?_, hcounts⟩
  · exact (hlast _ List.mem_cons_self).trans (by decide)
  · exact hafter.readText (x := (["A.java".toList], "B x;".toList)) (by decide)

/-- Two migrations that rename the same type: the dry run records both renamings of the text as it
was, and of these the second one last, but in a run the second migration finds nothing to do. -/
theorem preview_disagrees :
    let tree := twoConfigs (renameConfig "a" "A" "B" []) (renameConfig "b" "A" "C" [])
    let o : Options :=
      { root := .ofString "t", configs := [.ofString "a.json", .ofString "b.json"] }
    ∃ preview done after, migrate { o with dryRun := true } tree = (.ok preview, tree) ∧
      migrate o tree = (.ok done, after) ∧
      preview.lastText (.ofString "t/A.java") = some "C x;".toList ∧
      after.readText (.ofString "t/A.java") = .ok "B x;".toList ∧
      preview.applications = 2 ∧ done.applications = 1 := by
  intro tree o
  let first := renameMigration "a" "A" "B" []
  let second := renameMigration "b" "A" "C" []
  have hms : migrations tree o.configs = .ok [first, second] :=
    migrations_twoConfigs (by decide +kernel) (by decide +kernel) rfl rfl
  have hrunnable : ∀ m ∈ [first, second], m.Runnable := by
    simp only [List.forall_mem_cons]
    exact ⟨⟨⟨_, rfl⟩, ⟨_, rfl⟩⟩, ⟨⟨_, rfl⟩, ⟨_, rfl⟩⟩, nofun⟩
  have hheld : tree.Holds (.ofString "t") [(["A.java".toList], "A x;".toList)] :=
    twoConfigs_holds _ _
  obtain ⟨sums, hdry, hpreview⟩ := runAll_dry hrunnable hheld {}
  obtain ⟨sums', after, hcourse, hdone, hafter⟩ := runAll_real hrunnable hheld {}
  have hchanges := (Summary.changes_foldl_merge sums {}).trans (changes_dry hdry)
  refine ⟨_, _, after, (migrate_eq (o := { o with dryRun := true }) hms).trans hpreview,
    (migrate_eq hms).trans hdone, ?_, ?_, ?_, ?_⟩
  · rw [Summary.lastText, hchanges]
    decide
  · exact hafter.readText (x := (["A.java".toList], "B x;".toList)) (by decide)
  · cases hdry with
    | cons ha hdry =>
      cases hdry with
      | cons hb hdry =>
        cases hdry
        simp only [List.foldl_cons, List.foldl_nil, Summary.merge, ha.applications, hb.applications]
        decide
  · cases hcourse with
    | next ha hcourse =>
      cases hcourse with
      | next hb hcourse =>
        cases hcourse
        simp only [List.foldl_cons, List.foldl_nil, Summary.merge, ha.applications, hb.applications]
        decide

end Command

end Refit
