import Refit.Command
import Refit.Proofs.Batch.Mirror

namespace Refit

variable {tree after : Tree} {root : Path} {texts : List (List Text × Text)} {dryRun : Bool}
  {total : Summary}

namespace Migration

variable {m : Migration} {s : Selection} {p : Pipeline} {x : List Text × Text}

/-- A migration whose globs and rules can be read. -/
structure Runnable (m : Migration) : Prop where
  compiles : ∃ s, m.matcher.compile = .ok s
  builds : ∃ p, m.pipeline = .ok p

def outcome (m : Migration) (root : Path) (x : List Text × Text) : Outcome :=
  match m.matcher.compile, m.pipeline with
  | .ok s, .ok p =>
    if s.wants root (x.1, .text x.2) && s.reaches x.1 then p.transform x.2
    else { content := x.2, changed := false }
  | _, _ => { content := x.2, changed := false }

def changes (m : Migration) (root : Path) (x : List Text × Text) : Bool :=
  (m.outcome root x).changed

def leave (m : Migration) (root : Path) (x : List Text × Text) : List Text × Text :=
  (x.1, (m.outcome root x).content)

def change (m : Migration) (root : Path) (x : List Text × Text) : Change :=
  ⟨root.below x.1, x.2, (m.outcome root x).content⟩

theorem outcome_eq (hs : m.matcher.compile = .ok s) (hp : m.pipeline = .ok p) :
    m.outcome root x = if s.wants root (x.1, .text x.2) && s.reaches x.1 then p.transform x.2
      else { content := x.2, changed := false } := by
  rw [outcome, hs, hp]

theorem changes_eq : m.changes root x = ((m.outcome root x).content != x.2) := by
  rw [changes, outcome]
  split
  · split
    · rfl
    · simp
  · simp

theorem leave_eq_self (h : m.changes root x = false) : m.leave root x = x := by
  rw [changes_eq, bne_eq_false_iff_eq] at h
  rw [leave, h]

structure Tells (m : Migration) (root : Path) (dryRun : Bool) (texts : List (List Text × Text))
    (s : Summary) : Prop where
  changed : s.changed = (texts.filter (m.changes root)).length
  applications : s.applications =
    ((texts.filter (m.changes root)).map fun x => (m.outcome root x).applied.length).sum
  changedPaths : s.changedPaths = (texts.filter (m.changes root)).map (root.below ·.1)
  changes : s.changes =
    if dryRun then (texts.filter (m.changes root)).map (m.change root) else []

theorem outcome_of_changes (hs : m.matcher.compile = .ok s) (hp : m.pipeline = .ok p)
    (h : m.changes root x = true) : p.transform x.2 = m.outcome root x := by
  rw [changes, outcome_eq hs hp] at h
  rw [outcome_eq hs hp]
  split
  · rfl
  · next hunwanted => simp [hunwanted] at h

theorem filter_memory (hs : m.matcher.compile = .ok s) (hp : m.pipeline = .ok p) (dryRun : Bool)
    (texts : List (List Text × Text)) :
    let wanted := texts.filter fun x => s.wants root (x.1, .text x.2) && s.reaches x.1
    let mem := Batch.memoryOf root wanted
    mem.files.filter (Batch.changes ⟨p, dryRun⟩ mem) =
      (texts.filter (m.changes root)).map fun x => (root.below x.1, x.2) := by
  intro wanted mem
  have hwritable : ∀ q, mem.writable q = true := fun q => rfl
  simp only [mem, wanted, Batch.memoryOf, List.filter_map, List.filter_filter] at hwritable ⊢
  congr 1
  refine List.filter_congr fun x _ => ?_
  rw [changes, outcome_eq hs hp]
  split
  · next h => simp [Batch.changes, Batch.outcome, hwritable, h]
  · next h => simp [h]

theorem tells_report (hs : m.matcher.compile = .ok s) (hp : m.pipeline = .ok p) (dryRun : Bool)
    (texts : List (List Text × Text)) :
    let wanted := texts.filter fun x => s.wants root (x.1, .text x.2) && s.reaches x.1
    let mem := Batch.memoryOf root wanted
    m.Tells root dryRun texts (Batch.report ⟨p, dryRun⟩ mem mem.files) := by
  intro wanted mem
  have hfilter : mem.files.filter (Batch.changes ⟨p, dryRun⟩ mem) = _ :=
    filter_memory hs hp dryRun texts
  have houtcome : ∀ x ∈ texts.filter (m.changes root), p.transform x.2 = m.outcome root x :=
    fun x hx => outcome_of_changes hs hp (List.mem_filter.mp hx).2
  -- Each field of the report is a map over the changed texts.
  have hmap {β : Type} (g : Path × Text → β) (g' : List Text × Text → β)
      (h : ∀ x ∈ texts.filter (m.changes root), g (root.below x.1, x.2) = g' x) :
      (mem.files.filter (Batch.changes ⟨p, dryRun⟩ mem)).map g =
        (texts.filter (m.changes root)).map g' := by
    rw [hfilter, List.map_map]
    exact List.map_congr_left h
  constructor
  · exact (congrArg List.length hfilter).trans (List.length_map ..)
  · exact congrArg List.sum (hmap _ _ fun x hx =>
      congrArg (fun o : Outcome => o.applied.length) (houtcome x hx))
  · exact hmap _ _ fun x _ => rfl
  · exact congrArg (fun cs => if dryRun then cs else []) (hmap _ _ fun x hx =>
      congrArg (fun o : Outcome => Change.mk (root.below x.1) x.2 o.content) (houtcome x hx))

theorem leave_memory (hs : m.matcher.compile = .ok s) (hp : m.pipeline = .ok p) (mem : Memory)
    (hmem : mem.readOnly = []) : m.leave root x = (x.1,
      if s.wants root (x.1, .text x.2) && s.reaches x.1 then
        (Batch.leave ⟨p, false⟩ mem (root.below x.1, x.2)).2 else x.2) := by
  rw [leave, outcome_eq hs hp]
  split
  · have hwritable : mem.writable (root.below x.1) = true := by simp [Memory.writable, hmem]
    cases hchanged : (p.transform x.2).changed with
    | true => simp [Batch.leave, Batch.writes, Batch.changes, Batch.outcome, hchanged, hwritable]
    | false =>
      have hsame : (p.transform x.2).content = x.2 := bne_eq_false_iff_eq.mp hchanged
      simp [Batch.leave, Batch.writes, Batch.changes, Batch.outcome, hchanged, hsame]
  · rfl

theorem Runnable.run (hm : m.Runnable) (h : tree.Holds root texts) (dryRun : Bool) :
    ∃ b s after, m.batch dryRun = .ok b ∧
      b.run (Tree.source root m.matcher) tree = (.ok s, after) ∧ m.Tells root dryRun texts s ∧
      (dryRun = true → after = tree) ∧
      (dryRun = false → after.Holds root (texts.map (m.leave root))) := by
  obtain ⟨s, hs⟩ := hm.compiles
  obtain ⟨p, hp⟩ := hm.builds
  obtain ⟨after, hrun, hafter⟩ := Batch.run_tree h ⟨p, dryRun⟩ (h.list_eq hs)
  refine ⟨⟨p, dryRun⟩, _, after, by rw [batch, hp]; rfl, hrun, tells_report hs hp dryRun texts,
    ?_, ?_⟩
  · intro hdry
    have hsame := Batch.run_dry (b := ⟨p, dryRun⟩) hdry (Tree.source root m.matcher) tree
    rwa [hrun] at hsame
  · rintro rfl
    simpa only [← leave_memory hs hp (Batch.memoryOf root _) rfl] using hafter

end Migration

namespace Command

variable {m : Migration} {ms : List Migration} {b : Batch} {s : Summary} {sums : List Summary}

theorem runAll_cons (hb : m.batch dryRun = .ok b)
    (hrun : b.run (Tree.source root m.matcher) tree = (.ok s, after)) (total : Summary)
    (ms : List Migration) : runAll root dryRun total tree (m :: ms) =
      runAll root dryRun (total.merge s) after ms := by
  rw [runAll, hb]
  dsimp only
  rw [hrun]

theorem runAll_dry (hms : ∀ m ∈ ms, m.Runnable) (h : tree.Holds root texts) (total : Summary) :
    ∃ sums, List.Forall₂ (fun m s => m.Tells root true texts s) ms sums ∧
      runAll root true total tree ms = (.ok (sums.foldl Summary.merge total), tree) := by
  induction ms generalizing total with
  | nil => exact ⟨[], .nil, rfl⟩
  | cons m ms ih =>
    obtain ⟨b, s, after, hb, hrun, htells, hafter, -⟩ := (hms m List.mem_cons_self).run h true
    rw [hafter rfl] at hrun
    obtain ⟨sums, hsums, hrest⟩ :=
      ih (fun m hm => hms m (List.mem_cons_of_mem _ hm)) (total.merge s)
    exact ⟨s :: sums, .cons htells hsums, (runAll_cons hb hrun total ms).trans hrest⟩

def leaveAll (root : Path) (ms : List Migration) (x : List Text × Text) : List Text × Text :=
  ms.foldl (fun x m => m.leave root x) x

/-- Summaries of migrations each of which tells of what those before it have left. -/
inductive Course (root : Path) : List (List Text × Text) → List Migration → List Summary → Prop
  | done {texts : List (List Text × Text)} : Course root texts [] []
  | next {texts : List (List Text × Text)} {m : Migration} {ms : List Migration} {s : Summary}
      {sums : List Summary} (htells : m.Tells root false texts s)
      (h : Course root (texts.map (m.leave root)) ms sums) : Course root texts (m :: ms) (s :: sums)

theorem runAll_real (hms : ∀ m ∈ ms, m.Runnable) (h : tree.Holds root texts) (total : Summary) :
    ∃ sums after, Course root texts ms sums ∧
      runAll root false total tree ms = (.ok (sums.foldl Summary.merge total), after) ∧
      after.Holds root (texts.map (leaveAll root ms)) := by
  induction ms generalizing total tree texts with
  | nil =>
    have hid : leaveAll root [] = id := rfl
    exact ⟨[], tree, .done, rfl, by rwa [hid, List.map_id]⟩
  | cons m ms ih =>
    obtain ⟨b, s, after, hb, hrun, htells, -, hafter⟩ := (hms m List.mem_cons_self).run h false
    obtain ⟨sums, last, hcourse, hrest, hlast⟩ :=
      ih (fun m hm => hms m (List.mem_cons_of_mem _ hm)) (hafter rfl) (total.merge s)
    rw [List.map_map] at hlast
    exact ⟨s :: sums, last, .next htells hcourse, (runAll_cons hb hrun total ms).trans hrest, hlast⟩

theorem runAll_failed {e : Failure} (hb : m.batch dryRun = .ok b)
    (hlist : m.matcher.list root tree = .error e) (total : Summary) (ms : List Migration) :
    runAll root dryRun total tree (m :: ms) = (.error (.failed m.name), tree) := by
  have hrun : b.run (Tree.source root m.matcher) tree = (.error e, tree) := by
    rw [Batch.run, show (Tree.source root m.matcher).list tree = _ from hlist]
  rw [runAll, hb]
  dsimp only
  rw [hrun]

theorem loadMigration_of_json {file : Path} {t : Text} {c : Config}
    (hfile : Config.Format.ofPath? file = some .json) (hread : tree.readText file = .ok t)
    (hjson : Config.ofJson t = .ok c) : Config.loadMigration tree file = c.toMigration := by
  rw [Config.loadMigration, Config.load, hfile]
  dsimp only
  rw [hread]
  dsimp only [Config.Format.read]
  rw [hjson]
  rfl

theorem migrations_eq {configs : List Path} (hne : configs ≠ [])
    (h : List.Forall₂ (fun file m => Config.loadMigration tree file = .ok m) configs ms) :
    migrations tree configs = .ok ms := by
  rw [migrations, if_neg (by simpa using hne)]
  refine mapM_eq_ok_iff.mpr (h.imp fun file m hload => ?_)
  rw [hload]
  rfl

def renameConfig (name old new : String) (excluded : List String) : Config :=
  { Config.new name.toList [] with
    excluded := excluded.map String.toList
    rules := [.renameType old.toList new.toList] }

def renameMigration (name old new : String) (excluded : List String) : Migration where
  name := name.toList
  description := []
  matcher := { extensions := ["java".toList], excluded := excluded.map String.toList }
  language := .java
  specs := [.renameType old.toList new.toList]

def twoConfigs (a b : Config) : Tree where
  top := .cons "a.json".toList (.file (.text a.toJson))
    (.cons "b.json".toList (.file (.text b.toJson))
      (.cons "t".toList (.folder (.cons "A.java".toList (.file (.text "A x;".toList)) .nil)) .nil))

theorem twoConfigs_holds (a b : Config) :
    (twoConfigs a b).Holds (.ofString "t") [(["A.java".toList], "A x;".toList)] := by
  have hentry : (twoConfigs a b).entry true (.ofString "t") = .ok _ :=
    Tree.entry_name (by decide) rfl nofun
  have hsound : Folder.Sound (.cons "A.java".toList (.file (.text "A x;".toList)) .nil) :=
    ⟨by decide, trivial, trivial, by decide⟩
  obtain ⟨place, h⟩ := Tree.rooted_of_entry hentry hsound
  exact ⟨place, _, h, rfl⟩

variable {a b : Config} {first second : Migration}

theorem loadMigration_b (hjson : Config.ofJson b.toJson = .ok b) (a : Config) :
    Config.loadMigration (twoConfigs a b) (.ofString "b.json") = b.toMigration :=
  loadMigration_of_json rfl (Tree.readText_name (by decide) rfl) hjson

theorem migrations_twoConfigs (ha : Config.ofJson a.toJson = .ok a)
    (hb : Config.ofJson b.toJson = .ok b) (hfirst : a.toMigration = .ok first)
    (hsecond : b.toMigration = .ok second) :
    migrations (twoConfigs a b) [.ofString "a.json", .ofString "b.json"] =
      .ok [first, second] := by
  have hload : Config.loadMigration (twoConfigs a b) (.ofString "a.json") = a.toMigration :=
    loadMigration_of_json rfl (Tree.readText_name (by decide) rfl) ha
  exact migrations_eq (by decide)
    (.cons (hload.trans hfirst) (.cons ((loadMigration_b hb a).trans hsecond) .nil))

end Command

end Refit
