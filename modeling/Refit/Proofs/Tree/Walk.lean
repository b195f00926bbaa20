import Mathlib.Data.List.Infix
import Refit.Matcher
import Refit.Proofs.Glob.Covering
import Refit.Proofs.Results
import Refit.Proofs.Tree.Follow

namespace Refit

variable {s : Selection} {root : Path} {place names : List Text} {p n : Text}
  {file : List Text × Content}

def belowOf (names : List Text) : Text := names.foldl belowJoin []

/-- The files below a root, with their names below it. Links are not followed, but the root may be
one that leads to a folder. -/
def Tree.files (tree : Tree) (root : Path) : List (List Text × Content) :=
  match tree.entry false root with
  | .error _ => []
  | .ok (.file c) => [([], c)]
  | .ok (.folder f) => f.files []
  | .ok (.link _) =>
    match tree.entry true root with
    | .ok (.folder f) => f.files []
    | _ => []

namespace Selection

def wants (s : Selection) (root : Path) (file : List Text × Content) : Bool :=
  s.accepts (root.below file.1) (belowOf file.1) file.2

def reaches (s : Selection) (names : List Text) : Bool :=
  names.dropLast.inits.all fun q => q.isEmpty || !s.prunes (belowOf q)

theorem reaches_iff : s.reaches names = true ↔
    ∀ q n more, q ≠ [] → names = q ++ n :: more → s.prunes (belowOf q) = false := by
  simp only [reaches, List.all_eq_true, List.mem_inits, Bool.or_eq_true, List.isEmpty_iff,
    Bool.not_eq_true']
  constructor
  · rintro h q n more hne rfl
    refine (h q ?_).resolve_left hne
    rw [List.dropLast_append_of_ne_nil (List.cons_ne_nil n more)]
    exact List.prefix_append q _
  · rintro h q ⟨t, ht⟩
    refine or_iff_not_imp_left.mpr fun hne => ?_
    rcases names.eq_nil_or_concat with rfl | ⟨l, last, rfl⟩
    · exact absurd (List.append_eq_nil_iff.mp ht).1 hne
    · rw [List.concat_eq_append, List.dropLast_concat] at ht
      obtain ⟨n, more, hmore⟩ := List.exists_cons_of_ne_nil (List.concat_ne_nil last t)
      exact h q n more hne (by rw [← hmore, ← ht]; simp)

end Selection

mutual

theorem Entry.walk_eq (e : Entry) (root : Path) (place : List Text) (n : Text)
    (h : ∀ q, q <+: place → q ≠ [] → s.prunes (belowOf q) = false) :
    e.walk s (root.below (place ++ [n])) (belowOf (place ++ [n])) =
      ((e.files (place ++ [n])).filter fun f => s.wants root f && s.reaches f.1).map
        (root.below ·.1) := by
  cases e with
  | file c =>
    have hreaches : s.reaches (place ++ [n]) = true := by
      rw [Selection.reaches_iff]
      intro q m more hne hq
      refine h q ((List.prefix_concat_iff.mp ⟨m :: more, hq.symm⟩).resolve_left ?_) hne
      rintro rfl
      simp at hq
    have hfiles : (Entry.file c).files (place ++ [n]) = [(place ++ [n], c)] := rfl
    rw [Entry.walk, hfiles, List.filter_singleton, hreaches, Bool.and_true, Selection.wants]
    cases s.accepts (root.below (place ++ [n])) (belowOf (place ++ [n])) c <;> rfl
  | link t => rfl
  | folder f =>
    rw [Entry.walk]
    cases hprunes : s.prunes (belowOf (place ++ [n])) with
    | true =>
      -- No file in a pruned folder is reached.
      rw [if_pos rfl, eq_comm, List.map_eq_nil_iff, List.filter_eq_nil_iff]
      intro file hfile
      have hkept : s.reaches file.1 = false := by
        obtain ⟨m, -, more, hmore⟩ := f.exists_of_mem_files hfile
        rw [Bool.eq_false_iff, ne_eq, Selection.reaches_iff]
        intro hreaches
        rw [hreaches (place ++ [n]) m more (by simp) (by simp [← hmore])] at hprunes
        cases hprunes
      rw [hkept, Bool.and_false]
      exact Bool.false_ne_true
    | false =>
      refine (if_neg Bool.false_ne_true).trans (f.walk_eq root (place ++ [n]) ?_)
      intro q hq hne
      rcases List.prefix_concat_iff.mp hq with rfl | hq
      · exact hprunes
      · exact h q hq hne

theorem Folder.walk_eq (f : Folder) (root : Path) (place : List Text)
    (h : ∀ q, q <+: place → q ≠ [] → s.prunes (belowOf q) = false) :
    f.walk s (root.below place) (belowOf place) =
      ((f.files place).filter fun f => s.wants root f && s.reaches f.1).map (root.below ·.1) := by
  cases f with
  | nil => rfl
  | cons n e rest =>
    have hjoin : (root.below place).join n = root.below (place ++ [n]) := by
      simp [Path.below]
    have hbelow : belowJoin (belowOf place) n = belowOf (place ++ [n]) := by
      simp [belowOf]
    rw [Folder.walk, hjoin, hbelow, e.walk_eq root place n h, rest.walk_eq root place h,
      Folder.files_cons, List.filter_append, List.map_append]

end

namespace Selection

theorem prefix_belowJoin {p b : Text} (h : p <+: b) (n : Text) : p <+: belowJoin b n := by
  rw [belowJoin]
  split
  · next hempty =>
    rw [List.isEmpty_iff.mp hempty] at h
    rw [List.prefix_nil.mp h]
    exact List.nil_prefix
  · exact h.trans (List.prefix_append b _)

theorem prefix_belowOf_append {p : Text} (h : p <+: belowOf names) (more : List Text) :
    p <+: belowOf (names ++ more) := by
  induction more using List.reverseRecOn with
  | nil => rwa [List.append_nil]
  | append_singleton more n ih =>
    rw [← List.append_assoc, belowOf, List.foldl_concat]
    exact prefix_belowJoin ih n

theorem exists_join_eq (q : List Text) : ∃ folder,
    ((Path.mk (belowOf q)).join ['_']).spelling = folder ++ ['_'] ∧
      ∀ n more, folder <+: belowOf (q ++ n :: more) := by
  have hlater {folder : Text} (h : ∀ n, folder <+: belowJoin (belowOf q) n) (n : Text)
      (more : List Text) : folder <+: belowOf (q ++ n :: more) := by
    rw [List.append_cons]
    refine prefix_belowOf_append ?_ more
    rw [belowOf, List.foldl_concat]
    exact h n
  rw [Path.join]
  split
  · exact ⟨belowOf q, rfl, hlater fun n => prefix_belowJoin (List.prefix_refl _) n⟩
  · next hslash =>
    refine ⟨belowOf q ++ ['/'], by simp, hlater fun n => ?_⟩
    rw [belowJoin, if_neg (by simp_all)]
    exact ⟨n, by simp⟩

theorem reaches_of_covers (hcovers : ∀ g ∈ s.excluded, g.Covers) (h : s.wants root file = true) :
    s.reaches file.1 = true := by
  rw [reaches_iff]
  intro q n more hne hnames
  rw [Bool.eq_false_iff]
  intro hprunes
  obtain ⟨g, hg, haccepts⟩ := List.any_eq_true.mp hprunes
  obtain ⟨folder, hfolder, hbelow⟩ := exists_join_eq q
  obtain ⟨rest, hrest⟩ := hbelow n more
  have hexcluded : s.excludes (belowOf file.1) = true := by
    rw [hnames, ← hrest]
    exact List.any_eq_true.mpr ⟨g, hg, hcovers g hg folder rest (hfolder ▸ haccepts)⟩
  simp [wants, accepts, hexcluded] at h

end Selection

namespace Matcher

variable {m : Matcher} {tree : Tree}

theorem covers_of_compile (h : m.compile = .ok s)
    (hplain : ∀ source ∈ m.excluded, Glob.Plain source) : ∀ g ∈ s.excluded, g.Covers := by
  obtain ⟨included, -, h⟩ := exists_of_bind_eq_ok h
  obtain ⟨excluded, hexcluded, h⟩ := exists_of_bind_eq_ok h
  obtain ⟨contains, -, h⟩ := exists_of_bind_eq_ok h
  cases h
  intro g hg
  obtain ⟨source, hsource, hparse⟩ := exists_of_mem_mapM hexcluded hg
  exact (hplain source hsource).covers (eq_ok_of_mapError_eq_ok hparse)

theorem files_walk (s : Selection) (tree : Tree) (root : Path) : (s.walk tree root).files =
    ((tree.files root).filter fun f => s.wants root f && s.reaches f.1).map (root.below ·.1) := by
  have hfolder (f : Folder) : f.walk s root [] =
      ((f.files []).filter fun f => s.wants root f && s.reaches f.1).map (root.below ·.1) := by
    refine f.walk_eq root [] fun q hq hne => ?_
    exact absurd (List.prefix_nil.mp hq) hne
  rw [Selection.walk, Tree.files]
  cases tree.entry false root with
  | error e => rfl
  | ok e =>
    cases e with
    | file c =>
      have hwants : (s.wants root ([], c) && s.reaches []) = s.accepts root [] c := Bool.and_true _
      dsimp only
      rw [List.filter_singleton, hwants]
      cases s.accepts root [] c <;> rfl
    | folder f => exact hfolder f
    | link t =>
      dsimp only
      cases tree.entry true root with
      | error e => rfl
      | ok e =>
        cases e with
        | file c => rfl
        | folder f => exact hfolder f
        | link t => rfl

/-- A walk lists exactly the wanted files that are in no folder that is left out. If all excluded
globs are plain, these are all wanted files. -/
theorem walk_exact (h : m.compile = .ok s) (tree : Tree) (root : Path) :
    ∃ w, m.walk tree root = .ok w ∧
      w.files = ((tree.files root).filter fun f => s.wants root f && s.reaches f.1).map
        (root.below ·.1) ∧
      ((∀ source ∈ m.excluded, Glob.Plain source) →
        w.files = ((tree.files root).filter (s.wants root)).map (root.below ·.1)) := by
  refine ⟨s.walk tree root, by rw [walk, h]; rfl, files_walk s tree root, fun hplain => ?_⟩
  rw [files_walk]
  congr 1
  refine List.filter_congr fun f _ => ?_
  cases hwants : s.wants root f with
  | false => rfl
  | true => exact Selection.reaches_of_covers (covers_of_compile h hplain) hwants

theorem walk_exact_build :
    let m : Matcher := { excluded := ["**/build/**".toList] }
    let tree : Tree := { top := .cons "t".toList (.folder (.cons "B.java".toList (.file (.text []))
      (.cons "build".toList (.folder (.cons "A.java".toList (.file (.text [])) .nil)) .nil))) .nil }
    ∃ w, m.walk tree (.ofString "t") = .ok w ∧ w.files = [.ofString "t/B.java"] := by
  intro m tree
  obtain ⟨w, hw, -, hplain⟩ := walk_exact (m := m) rfl tree (.ofString "t")
  have hstem : Glob.Kept "**/build".toList '/' := by decide
  have hexcluded : ∀ source ∈ m.excluded, Glob.Plain source := by
    rw [List.forall_mem_singleton]
    exact Glob.Plain.folder hstem
  have hentry : tree.entry false (.ofString "t") = .ok _ := Tree.entry_name (by decide) rfl nofun
  have hfiles : tree.files (.ofString "t") =
      [(["B.java".toList], .text []), (["build".toList, "A.java".toList], .text [])] := by
    rw [Tree.files, hentry]
    rfl
  refine ⟨w, hw, (hplain hexcluded).trans ?_⟩
  simp only [hfiles]
  decide +kernel

/-- A folder is left out, and with it a file that no excluded glob accepts. -/
theorem walk_loses_file :
    let m : Matcher := { excluded := ["a/?".toList] }
    let tree : Tree := { top := .cons "t".toList (.folder (.cons "a".toList
      (.folder (.cons "Bc.java".toList (.file (.text [])) .nil)) .nil)) .nil }
    m.walk tree (.ofString "t") = .ok {} ∧ ∃ s, m.compile = .ok s ∧
      (tree.files (.ofString "t")).filter (s.wants (.ofString "t")) =
        [(["a".toList, "Bc.java".toList], .text [])] := by
  intro m tree
  have hentry : tree.entry false (.ofString "t") = .ok _ := Tree.entry_name (by decide) rfl nofun
  refine ⟨?_, _, rfl, ?_⟩
  · rw [walk, show m.compile = .ok _ from rfl, Except.map, Selection.walk, hentry]
    decide
  · rw [Tree.files, hentry]
    decide

end Matcher

end Refit
