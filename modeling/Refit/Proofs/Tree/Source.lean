import Refit.Proofs.Tree.Below
import Refit.Proofs.Tree.Follow
import Refit.Proofs.Tree.Walk

namespace Refit

namespace Folder

variable {f d : Folder} {e : Entry} {links : Nat} {place q segments : List Text}

theorem Leads.stay_or_link (h : Leads f true links place segments q e) :
    Leads f false links place segments q e ∨
      ∃ q t, Leads f false links place segments q (.link t) := by
  induction h with
  | arrived h => exact .inl (.arrived h)
  | skip hn _ ih => exact ih.imp (.skip hn) fun ⟨q, t, h⟩ => ⟨q, t, .skip hn h⟩
  | up _ ih => exact ih.imp .up fun ⟨q, t, h⟩ => ⟨q, t, .up h⟩
  | file hn h => exact .inl (.file hn h)
  | folder hn h _ ih => exact ih.imp (.folder hn h) fun ⟨q, t, hq⟩ => ⟨q, t, .folder hn h hq⟩
  | stay hn h _ => exact .inr ⟨_, _, .stay hn h rfl⟩
  | @link links place rest q n t e hn h _ _ ih =>
    cases rest with
    | nil => exact .inr ⟨_, _, .stay hn h rfl⟩
    | cons m rest => exact ih.imp (.link hn h rfl) fun ⟨q, t, hq⟩ => ⟨q, t, .link hn h rfl hq⟩

end Folder

namespace Tree

variable {tree after : Tree} {root : Path} {f : Folder} {place names : List Text} {c : Content}
  {e : Entry}

theorem exists_of_entry {followLast : Bool} (h : tree.entry followLast root = .ok e) :
    ∃ place, tree.locate followLast root = .ok (.there place e) := by
  obtain ⟨located, hlocated, h⟩ := exists_of_bind_eq_ok h
  cases located with
  | there place e' =>
    cases h
    exact ⟨place, hlocated⟩
  | vacant place => cases h

structure Rooted (tree : Tree) (root : Path) (place : List Text) (f : Folder) : Prop where
  ne : root.spelling ≠ []
  noZero : '\x00' ∉ root.spelling
  leads : tree.top.Leads true maxLinks (if root.isAbsolute then [] else tree.here.reverse)
    root.segments place (.folder f)
  sound : f.Sound

theorem rooted_of_entry (h : tree.entry true root = .ok (.folder f)) (hf : f.Sound) :
    ∃ place, tree.Rooted root place f := by
  obtain ⟨place, hlocated⟩ := exists_of_entry h
  obtain ⟨hne, hzero, hfollow⟩ := locate_eq_ok_iff.mp hlocated
  exact ⟨place, hne, hzero, .of_follow hfollow, hf⟩

namespace Rooted

variable (h : tree.Rooted root place f)
include h

theorem entry_eq : tree.entry true root = .ok (.folder f) := by
  rw [entry, locate_eq h.ne h.noZero, h.leads.follow_eq]
  rfl

theorem files_eq : tree.files root = f.files [] := by
  have hfalse : tree.entry false root = .ok (.folder f) ∨
      ∃ t, tree.entry false root = .ok (.link t) := by
    rw [entry, locate_eq h.ne h.noZero]
    obtain hfolder | ⟨q, t, hlink⟩ := h.leads.stay_or_link
    · left
      rw [hfolder.follow_eq]
      rfl
    · right
      exact ⟨t, by rw [hlink.follow_eq]; rfl⟩
  rw [files]
  obtain hfolder | ⟨t, hlink⟩ := hfalse
  · rw [hfolder]
  · rw [hlink]
    dsimp only
    rw [h.entry_eq]

theorem isName (hfile : f.at? names = some e) : ∀ n ∈ names, n.IsName := by
  rw [← Entry.at?_folder] at hfile
  exact Entry.Sound.isName_of_at? (e := .folder f) h.sound hfile

theorem at?_of_mem_files (hmem : (names, c) ∈ f.files []) :
    names ≠ [] ∧ f.at? names = some (.file c) := by
  obtain ⟨n, -, more, hmore⟩ := f.exists_of_mem_files hmem
  obtain rfl : names = n :: more := by simpa using hmore.symm
  exact ⟨List.cons_ne_nil n more, Entry.at?_of_mem_files (e := .folder f) h.sound hmem⟩

theorem files_ascend : (f.files []).Pairwise fun x y =>
    Path.cmp (root.below x.1) (root.below y.1) = .lt := by
  refine (Folder.files_ascend h.sound []).imp_of_mem fun hx hy hlt => ?_
  exact Path.cmp_below h.ne (h.isName (h.at?_of_mem_files hx).2)
    (h.isName (h.at?_of_mem_files hy).2) hlt

theorem locate_below (hne : names ≠ []) (hfile : f.at? names = some (.file c)) (followLast : Bool) :
    tree.locate followLast (root.below names) = .ok (.there (place ++ names) (.file c)) := by
  have hnames := h.isName hfile
  have hat : tree.top.at? (place ++ names) = some (.file c) := by
    rw [← Entry.at?_folder, Entry.at?_append, Entry.at?_folder, h.leads.at?_eq]
    simpa using hfile
  have hsteps : tree.top.Leads true maxLinks (if root.isAbsolute then [] else tree.here.reverse)
      root.steps place (.folder f) := by
    have hleads := h.leads
    rcases root.segments_eq with hs | hs
    · rwa [hs] at hleads
    · rw [hs] at hleads
      exact hleads.of_append_nil
  rw [locate_eq (Path.spelling_below_ne h.ne names) (Path.not_mem_below h.noZero hnames),
    Path.isAbsolute_below h.ne, Path.segments_below h.ne hne hnames]
  refine (hsteps.append hne fun links => ?_).follow_eq
  have hstep : ∀ n ∈ names, n.IsStep := fun n hn => (hnames n hn).isStep
  have hat : tree.top.at? (place.reverse.reverse ++ names) = some (.file c) := by
    rwa [List.reverse_reverse]
  simpa using Folder.leads_names hstep hat nofun

theorem readText_below {t : Text} (hne : names ≠ [])
    (hfile : f.at? names = some (.file (.text t))) : tree.readText (root.below names) = .ok t := by
  rw [readText, entry, h.locate_below hne hfile true]
  rfl

theorem writeText_below (hne : names ≠ []) (hfile : f.at? names = some (.file c)) (t : Text) :
    tree.writeText (root.below names) t = .ok (tree.put (.file (.text t)) (place ++ names)) := by
  rw [writeText, if_neg (Path.getLast?_below_ne hne (h.isName hfile)),
    h.locate_below hne hfile true]
  rfl

theorem put (hne : names ≠ []) (hfile : f.at? names = some (.file c)) (c' : Content) :
    (tree.put (.file c') (place ++ names)).Rooted root place (f.put (.file c') names) where
  ne := h.ne
  noZero := h.noZero
  leads := by
    have htop : (Entry.folder tree.top).at? place = some (.folder f) := by
      rw [Entry.at?_folder, h.leads.at?_eq]
    have hput : (Entry.folder tree.top).put (.file c') (place ++ names) =
        .folder (tree.top.put (.file c') (place ++ names)) := Entry.put_folder (by simp [hne])
    have halike : Folder.Alike tree.top (tree.top.put (.file c') (place ++ names)) := by
      intro q
      have hat : (Entry.folder tree.top).at? (place ++ names) = some (.file c) := by
        rw [Entry.at?_append, htop]
        simpa using hfile
      simpa [hput] using Entry.outline_at?_put hat c' q
    obtain ⟨e, he⟩ := halike.leads h.leads
    have hfolder := Entry.at?_put_append htop (.file c') names
    rw [hput, Entry.at?_folder, he.at?_eq, Entry.put_folder hne] at hfolder
    rwa [Option.some.inj hfolder] at he
  sound := h.sound.put trivial (h.isName hfile)

end Rooted

def Holds (tree : Tree) (root : Path) (texts : List (List Text × Text)) : Prop :=
  ∃ place f, tree.Rooted root place f ∧ f.files [] = texts.map fun x => (x.1, .text x.2)

def retext (names : List Text) (t : Text) (x : List Text × Text) : List Text × Text :=
  if x.1 = names then (names, t) else x

namespace Holds

variable {texts : List (List Text × Text)} {t : Text} {x : List Text × Text}

theorem at?_of_mem (h : tree.Rooted root place f)
    (hfiles : f.files [] = texts.map fun x => (x.1, .text x.2)) (hx : x ∈ texts) :
    x.1 ≠ [] ∧ f.at? x.1 = some (.file (.text x.2)) := by
  refine h.at?_of_mem_files ?_
  rw [hfiles]
  exact List.mem_map_of_mem hx

theorem readText (h : tree.Holds root texts) (hx : x ∈ texts) :
    tree.readText (root.below x.1) = .ok x.2 := by
  obtain ⟨place, f, hrooted, hfiles⟩ := h
  obtain ⟨hne, hat⟩ := at?_of_mem hrooted hfiles hx
  exact hrooted.readText_below hne hat

theorem writeText (h : tree.Holds root texts) (hx : x ∈ texts) (t : Text) : ∃ after,
    tree.writeText (root.below x.1) t = .ok after ∧
      after.Holds root (texts.map (retext x.1 t)) := by
  obtain ⟨place, f, hrooted, hfiles⟩ := h
  obtain ⟨hne, hat⟩ := at?_of_mem hrooted hfiles hx
  refine ⟨_, hrooted.writeText_below hne hat t, place, _, hrooted.put hne hat _, ?_⟩
  rw [Folder.files_put hrooted.sound hne hat, hfiles, List.map_map, List.map_map]
  refine List.map_congr_left fun y _ => ?_
  simp only [Function.comp_apply, overwrite, retext, List.nil_append]
  split <;> rfl

theorem ascends (h : tree.Holds root texts) : texts.Pairwise fun x y =>
    Path.cmp (root.below x.1) (root.below y.1) = .lt := by
  obtain ⟨place, f, hrooted, hfiles⟩ := h
  have hascends := hrooted.files_ascend
  rwa [hfiles, List.pairwise_map] at hascends

theorem list_eq {m : Matcher} {s : Selection} (h : tree.Holds root texts) (hs : m.compile = .ok s) :
    m.list root tree = .ok ((texts.filter fun x =>
      s.wants root (x.1, .text x.2) && s.reaches x.1).map (root.below ·.1)) := by
  obtain ⟨place, f, hrooted, hfiles⟩ := h
  rw [Matcher.list, hrooted.entry_eq]
  dsimp only
  rw [Matcher.walk, hs, Except.map, Except.map, Matcher.files_walk, hrooted.files_eq, hfiles]
  simp [List.filter_map, List.map_map, Function.comp_def]

theorem list_eq_error {m : Matcher} {why : Failure} (h : tree.Holds root texts)
    (hm : m.compile = .error why) : m.list root tree = .error why := by
  obtain ⟨place, f, hrooted, -⟩ := h
  rw [Matcher.list, hrooted.entry_eq]
  dsimp only
  rw [Matcher.walk, hm]
  rfl

end Holds

end Tree

end Refit
