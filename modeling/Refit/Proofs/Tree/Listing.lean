import Refit.Proofs.Path.Order
import Refit.Proofs.Tree.Source

namespace Refit

variable {tree : Tree} {root : Path} {f g : Folder} {e d : Entry} {place names : List Text}
  {c : Content} {m : Matcher} {s : Selection}

theorem Entry.Sound.at? (he : e.Sound) (h : e.at? place = some d) : d.Sound := by
  induction place generalizing e with
  | nil =>
    obtain rfl := Option.some.inj h
    exact he
  | cons n place ih =>
    obtain ⟨f, e', rfl, hfind, he'⟩ := exists_of_at?_cons h
    have hf : f.Sound := he
    exact ih (hf.of_find? hfind).2 he'

theorem Folder.Sound.at? (hf : f.Sound) (h : f.at? place = some e) : e.Sound := by
  rw [← Entry.at?_folder] at h
  exact Entry.Sound.at? (e := .folder f) hf h

namespace Folder

variable {links : Nat} {q segments : List Text}

theorem Leads.follow_last (h : Leads f false links place segments q e) (hlink : ∀ t, e ≠ .link t) :
    Leads f true links place segments q e := by
  induction h with
  | arrived h => exact .arrived h
  | skip hn _ ih => exact .skip hn (ih hlink)
  | up _ ih => exact .up (ih hlink)
  | file hn h => exact .file hn h
  | folder hn h _ ih => exact .folder hn h (ih hlink)
  | stay _ _ _ => exact absurd rfl (hlink _)
  | link hn h _ _ ih => exact .link hn h (by simp) (ih hlink)

end Folder

namespace Tree

theorem entry_true_of_entry (h : tree.entry false root = .ok e) (hlink : ∀ t, e ≠ .link t) :
    tree.entry true root = .ok e := by
  obtain ⟨place, hlocated⟩ := exists_of_entry h
  obtain ⟨hne, hzero, hfollow⟩ := locate_eq_ok_iff.mp hlocated
  have hleads := (Folder.Leads.of_follow hfollow).follow_last hlink
  rw [entry, locate_eq hne hzero, hleads.follow_eq]
  rfl

theorem rooted_of_sound (htree : tree.top.Sound) (h : tree.entry true root = .ok (.folder f)) :
    ∃ place, tree.Rooted root place f := by
  obtain ⟨place, hlocated⟩ := exists_of_entry h
  obtain ⟨-, -, hfollow⟩ := locate_eq_ok_iff.mp hlocated
  exact rooted_of_entry h (htree.at? (Folder.Leads.of_follow hfollow).at?_eq)

theorem files_cases (htree : tree.top.Sound) (root : Path) :
    tree.files root = [] ∨
    (∃ c, tree.entry false root = .ok (.file c) ∧ tree.files root = [([], c)]) ∨
    ∃ place f, tree.Rooted root place f := by
  rw [files]
  cases hentry : tree.entry false root with
  | error e => exact .inl rfl
  | ok e =>
    cases e with
    | file c => exact .inr (.inl ⟨c, rfl, rfl⟩)
    | folder f =>
      obtain ⟨place, hrooted⟩ := rooted_of_sound htree (entry_true_of_entry hentry (by simp))
      exact .inr (.inr ⟨place, f, hrooted⟩)
    | link t =>
      dsimp only
      split
      · next f hfolder =>
        obtain ⟨place, hrooted⟩ := rooted_of_sound htree hfolder
        exact .inr (.inr ⟨place, f, hrooted⟩)
      · exact .inl rfl

theorem files_ascend (htree : tree.top.Sound) (root : Path) : (tree.files root).Pairwise fun x y =>
    Path.cmp (root.below x.1) (root.below y.1) = .lt := by
  rcases files_cases htree root with hnone | ⟨c, -, hfile⟩ | ⟨place, f, hrooted⟩
  · rw [hnone]
    exact .nil
  · rw [hfile]
    exact List.pairwise_singleton _ _
  · rw [hrooted.files_eq]
    exact hrooted.files_ascend

theorem entry_of_mem_files (htree : tree.top.Sound) (h : (names, c) ∈ tree.files root) :
    tree.entry false (root.below names) = .ok (.file c) := by
  rcases files_cases htree root with hnone | ⟨c', hentry, hfile⟩ | ⟨place, f, hrooted⟩
  · rw [hnone] at h
    cases h
  · rw [hfile] at h
    obtain ⟨rfl, rfl⟩ := Prod.mk.inj (List.mem_singleton.mp h)
    exact hentry
  · rw [hrooted.files_eq] at h
    obtain ⟨hne, hat⟩ := hrooted.at?_of_mem_files h
    rw [entry, hrooted.locate_below hne hat false]
    rfl

end Tree

namespace Matcher

/-- A walk lists its files in the order of their paths, so each of them once. Each is a file in the
tree, which passes all tests, and no folder on the way to it is left out. -/
theorem walk_ascends (h : m.compile = .ok s) (htree : tree.top.Sound) (root : Path) :
    ∃ w, m.walk tree root = .ok w ∧ Path.Ascending w.files ∧ w.files.Nodup ∧
      ∀ p ∈ w.files, ∃ names c, p = root.below names ∧ tree.entry false p = .ok (.file c) ∧
        s.accepts p (belowOf names) c = true ∧
        ∀ q n more, q ≠ [] → names = q ++ n :: more → s.prunes (belowOf q) = false := by
  have hascends : Path.Ascending (s.walk tree root).files := by
    rw [files_walk, Path.Ascending, List.pairwise_map]
    exact (Tree.files_ascend htree root).filter _
  refine ⟨s.walk tree root, by rw [walk, h]; rfl, hascends, ?_, fun p hp => ?_⟩
  · exact hascends.imp fun hlt heq => Path.components_ne_of_lt hlt (congrArg Path.components heq)
  · rw [files_walk] at hp
    obtain ⟨⟨names, c⟩, hfile, rfl⟩ := List.mem_map.mp hp
    obtain ⟨hmem, htests⟩ := List.mem_filter.mp hfile
    obtain ⟨hwants, hreaches⟩ := Bool.and_eq_true_iff.mp htests
    exact ⟨names, c, rfl, Tree.entry_of_mem_files htree hmem, hwants,
      Selection.reaches_iff.mp hreaches⟩

theorem walk_ascends_dots :
    let m : Matcher := { extensions := ["java".toList], excluded := ["build/**".toList] }
    let file : Entry := .file (.text [])
    let tree := (((Tree.mk .nil []).put file ["t".toList, "a.java".toList]).put file
      ["t".toList, "build".toList, "C.java".toList]).put file
        ["t".toList, "a".toList, "b.java".toList]
    (∃ s, m.compile = .ok s) ∧ tree.top.Sound ∧ ∃ w, m.walk tree (.ofString "t") = .ok w ∧
      Path.Ascending w.files ∧ w.files = [.ofString "t/a/b.java", .ofString "t/a.java"] := by
  intro m file tree
  have hcompile : m.compile = .ok _ := rfl
  have hnil : Folder.nil.Sound := trivial
  have hfile : file.Sound := trivial
  have htree : tree.top.Sound :=
    ((hnil.put hfile (by decide)).put hfile (by decide)).put hfile (by decide)
  obtain ⟨w, hw, hascends, -⟩ := walk_ascends hcompile htree (.ofString "t")
  refine ⟨⟨_, hcompile⟩, htree, w, hw, hascends, ?_⟩
  have hentry : tree.entry false (.ofString "t") = .ok _ := Tree.entry_name (by decide) rfl nofun
  rw [walk, hcompile, Except.map, Selection.walk, hentry] at hw
  rw [← Except.ok.inj hw]
  decide +kernel

end Matcher

end Refit
