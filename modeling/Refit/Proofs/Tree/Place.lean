import Refit.Proofs.Path.Order
import Refit.Tree.Lookup

namespace Refit

variable {name n m : Text} {e e' d entry : Entry} {f g : Folder} {place names : List Text}
  {c c' : Content} {leaf : List Text × Content}

theorem ne_of_cmp_lt (h : Text.cmp n m = .lt) : n ≠ m := by
  rintro rfl
  have hself : Text.cmp n n = .eq := Std.ReflCmp.compare_self
  rw [h] at hself
  cases hself

namespace Folder

theorem find?_insert_self (f : Folder) (name : Text) (e : Entry) :
    (f.insert name e).find? name = some e := by
  cases f with
  | nil => exact if_pos rfl
  | cons n d rest =>
    rw [insert]
    split
    · exact if_pos rfl
    · exact if_pos rfl
    · next hgt =>
      rw [find?, if_neg (ne_of_cmp_lt (Std.OrientedCmp.gt_iff_lt.mp hgt))]
      exact rest.find?_insert_self name e

theorem find?_insert_ne (f : Folder) (h : n ≠ name) (e : Entry) :
    (f.insert name e).find? n = f.find? n := by
  cases f with
  | nil => exact if_neg h.symm
  | cons m d rest =>
    rw [insert]
    split
    · exact if_neg h.symm
    · next heq =>
      obtain rfl : name = m := Std.LawfulEqCmp.eq_of_compare heq
      rw [find?, find?, if_neg h.symm, if_neg h.symm]
    · rw [find?, find?, rest.find?_insert_ne h e]

end Folder

namespace Entry

def at? (e : Entry) : List Text → Option Entry
  | [] => some e
  | name :: rest =>
    match e with
    | folder f => f.at? (name :: rest)
    | _ => none

def put (e entry : Entry) : List Text → Entry
  | [] => entry
  | name :: rest =>
    match e with
    | folder f => folder (f.put entry (name :: rest))
    | _ => folder (Folder.nil.put entry (name :: rest))

@[simp] theorem at?_folder : (folder f).at? place = f.at? place := by
  cases place <;> rfl

theorem put_folder (hne : place ≠ []) :
    (folder f).put entry place = folder (f.put entry place) := by
  cases place with
  | nil => exact absurd rfl hne
  | cons n place => rfl

end Entry

theorem Folder.at?_cons : f.at? (n :: names) = (f.find? n).bind (·.at? names) := by
  cases names with
  | nil =>
    rw [Folder.at?]
    cases f.find? n <;> rfl
  | cons m names =>
    rw [Folder.at?]
    · cases h : f.find? n with
      | none => rfl
      | some e => cases e <;> rfl
    · simp

theorem Folder.put_cons (h : f.find? n = some e) :
    f.put entry (n :: names) = f.insert n (e.put entry names) := by
  cases names with
  | nil => rfl
  | cons m names =>
    rw [Folder.put, h]
    · cases e <;> rfl
    · simp

theorem Folder.put_cons_eq (f : Folder) (entry : Entry) (n : Text) (names : List Text) :
    f.put entry (n :: names) = f.insert n (((f.find? n).getD (.folder .nil)).put entry names) := by
  cases h : f.find? n with
  | some e => exact Folder.put_cons h
  | none =>
    cases names with
    | nil => rfl
    | cons m names =>
      rw [Folder.put, h]
      · rfl
      · simp

namespace Entry

theorem exists_of_at?_cons (h : e.at? (n :: names) = some d) :
    ∃ f e', e = .folder f ∧ f.find? n = some e' ∧ e'.at? names = some d := by
  cases e with
  | file c => cases h
  | link t => cases h
  | folder f =>
    rw [at?_folder, Folder.at?_cons] at h
    obtain ⟨e', hfind, he'⟩ := Option.bind_eq_some_iff.mp h
    exact ⟨f, e', rfl, hfind, he'⟩

theorem at?_append (e : Entry) (place names : List Text) :
    e.at? (place ++ names) = (e.at? place).bind (·.at? names) := by
  induction place generalizing e with
  | nil => rfl
  | cons n place ih =>
    cases e with
    | file c => rfl
    | link t => rfl
    | folder f =>
      rw [List.cons_append, at?_folder, at?_folder, Folder.at?_cons, Folder.at?_cons,
        Option.bind_assoc]
      exact Option.bind_congr fun e _ => ih e

theorem at?_put_append (h : e.at? place = some d) (entry : Entry) (names : List Text) :
    (e.put entry (place ++ names)).at? place = some (d.put entry names) := by
  induction place generalizing e with
  | nil =>
    obtain rfl := Option.some.inj h
    rfl
  | cons n place ih =>
    obtain ⟨f, e', rfl, hfind, he'⟩ := exists_of_at?_cons h
    rw [List.cons_append, put, at?_folder, Folder.put_cons hfind, Folder.at?_cons,
      Folder.find?_insert_self]
    exact ih he'

def outline : Entry → Entry
  | file _ => file (.text [])
  | link t => link t
  | folder _ => folder .nil

theorem outline_at?_put (h : e.at? place = some (file c)) (c' : Content) (names : List Text) :
    ((e.put (file c') place).at? names).map outline = (e.at? names).map outline := by
  induction place generalizing e names with
  | nil =>
    obtain rfl := Option.some.inj h
    cases names <;> rfl
  | cons n place ih =>
    obtain ⟨f, e', rfl, hfind, he'⟩ := exists_of_at?_cons h
    cases names with
    | nil => rfl
    | cons m names =>
      rw [put, at?_folder, at?_folder, Folder.put_cons hfind, Folder.at?_cons, Folder.at?_cons]
      by_cases hm : m = n
      · subst hm
        rw [Folder.find?_insert_self, hfind]
        exact ih he' names
      · rw [Folder.find?_insert_ne f hm]

end Entry

def Text.IsName (n : Text) : Prop :=
  n ≠ [] ∧ n ≠ ['.'] ∧ n ≠ ['.', '.'] ∧ '/' ∉ n ∧ '\x00' ∉ n ∧ Text.size n ≤ maxNameSize

instance (n : Text) : Decidable n.IsName := inferInstanceAs (Decidable (_ ∧ _))

namespace Folder

variable {rest rest' : Folder}

def keys : Folder → List Text
  | nil => []
  | cons n _ rest => n :: rest.keys

theorem mem_keys_of_find? (f : Folder) (h : f.find? n = some e) : n ∈ f.keys := by
  cases f with
  | nil => cases h
  | cons m d rest =>
    rw [find?] at h
    split at h
    · next hm =>
      subst hm
      exact List.mem_cons_self
    · exact List.mem_cons_of_mem m (rest.mem_keys_of_find? h)

inductive Replaced (name : Text) (e e' : Entry) : Folder → Folder → Prop
  | here {rest : Folder} : Replaced name e e' (cons name e rest) (cons name e' rest)
  | later {n : Text} {d : Entry} {rest rest' : Folder} :
      n ≠ name → Replaced name e e' rest rest' → Replaced name e e' (cons n d rest) (cons n d rest')

theorem mem_keys_insert (f : Folder) (h : m ∈ (f.insert n e).keys) : m = n ∨ m ∈ f.keys := by
  cases f with
  | nil => exact List.mem_cons.mp h
  | cons k d rest =>
    rw [insert] at h
    split at h
    · exact List.mem_cons.mp h
    · exact (List.mem_cons.mp h).imp_right (List.mem_cons_of_mem k)
    · rcases List.mem_cons.mp h with rfl | h
      · exact .inr List.mem_cons_self
      · exact (rest.mem_keys_insert h).imp_right (List.mem_cons_of_mem k)

end Folder

mutual

def Entry.Sound : Entry → Prop
  | .file _ => True
  | .link _ => True
  | .folder f => f.Sound

/-- A folder as file systems have it: its names ascend, and so do those in the folders in it. -/
def Folder.Sound : Folder → Prop
  | .nil => True
  | .cons n e rest => n.IsName ∧ e.Sound ∧ rest.Sound ∧ ∀ m ∈ rest.keys, Text.cmp n m = .lt

end

namespace Folder

theorem Sound.of_find? {f : Folder} (hf : f.Sound) (h : f.find? n = some e) :
    n.IsName ∧ e.Sound := by
  cases f with
  | nil => cases h
  | cons m d rest =>
    obtain ⟨hname, he, hrest, -⟩ := hf
    rw [find?] at h
    split at h
    · next hm =>
      obtain rfl := Option.some.inj h
      subst hm
      exact ⟨hname, he⟩
    · exact Sound.of_find? hrest h

theorem replaced_insert {f : Folder} (hf : f.Sound) (h : f.find? n = some e) (e' : Entry) :
    Replaced n e e' f (f.insert n e') := by
  cases f with
  | nil => cases h
  | cons m d rest =>
    obtain ⟨-, -, hrest, hlt⟩ := hf
    rw [find?] at h
    split at h
    · next hm =>
      subst hm
      obtain rfl := Option.some.inj h
      have hself : Text.cmp m m = .eq := Std.ReflCmp.compare_self
      rw [insert, hself]
      exact .here
    · next hm =>
      have hgt := Std.OrientedCmp.gt_iff_lt.mpr (hlt n (rest.mem_keys_of_find? h))
      rw [insert, hgt]
      exact .later hm (replaced_insert hrest h e')

theorem Sound.insert {f : Folder} (hf : f.Sound) (hn : n.IsName) (he : e.Sound) :
    (f.insert n e).Sound := by
  cases f with
  | nil => exact ⟨hn, he, trivial, nofun⟩
  | cons k d rest =>
    obtain ⟨hk, hd, hrest, hlt⟩ := hf
    rw [Folder.insert]
    split
    · next hbefore =>
      refine ⟨hn, he, ⟨hk, hd, hrest, hlt⟩, List.forall_mem_cons.mpr ⟨hbefore, fun m hm => ?_⟩⟩
      exact Std.TransCmp.lt_trans hbefore (hlt m hm)
    · next hsame =>
      obtain rfl : n = k := Std.LawfulEqCmp.eq_of_compare hsame
      exact ⟨hn, he, hrest, hlt⟩
    · next hbehind =>
      refine ⟨hk, hd, hrest.insert hn he, fun m hm => ?_⟩
      rcases rest.mem_keys_insert hm with rfl | hm
      · exact Std.OrientedCmp.gt_iff_lt.mp hbehind
      · exact hlt m hm

end Folder

theorem Entry.Sound.put (he : e.Sound) (hd : d.Sound) (hnames : ∀ n ∈ names, n.IsName) :
    (e.put d names).Sound := by
  induction names generalizing e with
  | nil => exact hd
  | cons n names ih =>
    obtain ⟨hn, hnames⟩ := List.forall_mem_cons.mp hnames
    have hnil : Folder.nil.Sound := trivial
    have hput (f : Folder) (hf : f.Sound) : (f.put d (n :: names)).Sound := by
      rw [Folder.put_cons_eq]
      refine hf.insert hn (ih ?_ hnames)
      cases hfind : f.find? n with
      | none => exact hnil
      | some e => exact (hf.of_find? hfind).2
    cases e with
    | folder f => exact hput f he
    | _ => exact hput .nil hnil

theorem Folder.Sound.put (hf : f.Sound) (hd : d.Sound) (hnames : ∀ n ∈ names, n.IsName) :
    (f.put d names).Sound := by
  cases names with
  | nil => exact hf
  | cons n names => exact Entry.Sound.put (e := .folder f) hf hd hnames

def regular? : List Text × Entry → Option (List Text × Content)
  | (place, .file c) => some (place, c)
  | _ => none

def Entry.files (place : List Text) (e : Entry) : List (List Text × Content) :=
  (e.leaves place).filterMap regular?

def Folder.files (place : List Text) (f : Folder) : List (List Text × Content) :=
  (f.leaves place).filterMap regular?

@[simp] theorem Entry.files_file : (Entry.file c).files place = [(place, c)] := rfl

@[simp] theorem Entry.files_link {t : Text} : (Entry.link t).files place = [] := rfl

@[simp] theorem Entry.files_folder : (Entry.folder f).files place = f.files place := rfl

theorem Folder.files_cons {rest : Folder} :
    (Folder.cons n e rest).files place = e.files (place ++ [n]) ++ rest.files place := by
  simp only [Folder.files, Entry.files, Folder.leaves, List.filterMap_append]

mutual

theorem Entry.prefix_of_mem_files (e : Entry) {place : List Text} (h : leaf ∈ e.files place) :
    place <+: leaf.1 := by
  cases e with
  | file c =>
    obtain rfl := List.mem_singleton.mp h
    exact List.prefix_refl place
  | link t => cases h
  | folder f =>
    obtain ⟨n, -, hn⟩ := f.exists_of_mem_files h
    exact (List.prefix_append place [n]).trans hn

theorem Folder.exists_of_mem_files (f : Folder) {place : List Text} (h : leaf ∈ f.files place) :
    ∃ n ∈ f.keys, place ++ [n] <+: leaf.1 := by
  cases f with
  | nil => cases h
  | cons n e rest =>
    rw [Folder.files_cons] at h
    rcases List.mem_append.mp h with h | h
    · exact ⟨n, List.mem_cons_self, e.prefix_of_mem_files h⟩
    · obtain ⟨m, hm, hprefix⟩ := rest.exists_of_mem_files h
      exact ⟨m, List.mem_cons_of_mem n hm, hprefix⟩

end

mutual

theorem Entry.at?_of_mem_files {e : Entry} (he : e.Sound) {place names : List Text}
    (h : (place ++ names, c) ∈ e.files place) : e.at? names = some (.file c) := by
  cases e with
  | file c' =>
    obtain ⟨hnames, rfl⟩ := Prod.mk.inj (List.mem_singleton.mp h)
    obtain rfl : names = [] := by simpa using hnames
    rfl
  | link t => cases h
  | folder f =>
    obtain ⟨n, -, more, hmore⟩ := f.exists_of_mem_files h
    obtain rfl : n :: more = names := by simpa using hmore
    exact Folder.at?_of_mem_files he h

theorem Folder.at?_of_mem_files {f : Folder} (hf : f.Sound) {place names : List Text} {n : Text}
    (h : (place ++ n :: names, c) ∈ f.files place) : f.at? (n :: names) = some (.file c) := by
  cases f with
  | nil => cases h
  | cons m e rest =>
    obtain ⟨-, he, hrest, hlt⟩ := hf
    rw [Folder.at?_cons, Folder.find?]
    rw [Folder.files_cons] at h
    rcases List.mem_append.mp h with h | h
    · obtain ⟨more, hmore⟩ := e.prefix_of_mem_files h
      obtain ⟨rfl, -⟩ : m = n ∧ more = names := by simpa using hmore
      rw [if_pos rfl]
      exact Entry.at?_of_mem_files he (List.append_cons place m names ▸ h)
    · have hat := Folder.at?_of_mem_files hrest h
      rw [Folder.at?_cons] at hat
      have hne : m ≠ n := by
        obtain ⟨e', hfind, -⟩ := Option.bind_eq_some_iff.mp hat
        exact ne_of_cmp_lt (hlt n (rest.mem_keys_of_find? hfind))
      rwa [if_neg hne]

end

def overwrite (place : List Text) (c : Content) (leaf : List Text × Content) :
    List Text × Content :=
  if leaf.1 = place then (place, c) else leaf

theorem overwrite_of_prefix (h : place ++ [m] <+: leaf.1) (hne : m ≠ n) (names : List Text)
    (c : Content) : overwrite (place ++ n :: names) c leaf = leaf := by
  obtain ⟨more, hmore⟩ := h
  have hleaf : leaf.1 ≠ place ++ n :: names := by
    rw [← hmore]
    simpa using fun h => absurd h hne
  exact if_neg hleaf

theorem Folder.Replaced.files_eq (h : Replaced n e e' f g) (hf : f.Sound) {c : Content}
    (hfiles : e'.files (place ++ [n]) =
      (e.files (place ++ [n])).map (overwrite (place ++ n :: names) c)) :
    g.files place = (f.files place).map (overwrite (place ++ n :: names) c) := by
  induction h with
  | @here rest =>
    rw [Folder.files_cons, Folder.files_cons, List.map_append, hfiles]
    congr 1
    refine (List.map_congr_left fun leaf hleaf => ?_).trans (List.map_id _) |>.symm
    obtain ⟨m, hm, hprefix⟩ := rest.exists_of_mem_files hleaf
    exact overwrite_of_prefix hprefix (ne_of_cmp_lt (hf.2.2.2 m hm)).symm names c
  | @later m d rest rest' hne hrest ih =>
    rw [Folder.files_cons, Folder.files_cons, List.map_append, ih hf.2.2.1]
    congr 1
    refine (List.map_congr_left fun leaf hleaf => ?_).trans (List.map_id _) |>.symm
    exact overwrite_of_prefix (d.prefix_of_mem_files hleaf) hne names c

theorem Entry.files_put (he : e.Sound) (h : e.at? names = some (.file c)) (c' : Content) :
    (e.put (.file c') names).files place = (e.files place).map (overwrite (place ++ names) c') := by
  induction names generalizing e place with
  | nil =>
    obtain rfl := Option.some.inj h
    simp [Entry.put, overwrite]
  | cons n names ih =>
    obtain ⟨f, e', rfl, hfind, he'⟩ := exists_of_at?_cons h
    have hf : f.Sound := he
    rw [Entry.put, Folder.put_cons hfind]
    refine (Folder.replaced_insert hf hfind (e'.put (.file c') names)).files_eq hf ?_
    rw [ih (hf.of_find? hfind).2 he', ← List.append_cons]

namespace Folder

theorem files_put (hf : f.Sound) (hne : names ≠ []) (h : f.at? names = some (.file c))
    (c' : Content) (place : List Text) :
    (f.put (.file c') names).files place = (f.files place).map (overwrite (place ++ names) c') := by
  rw [← Entry.at?_folder] at h
  rw [← Entry.files_folder, ← Entry.put_folder hne]
  exact Entry.files_put (e := .folder f) hf h c'

end Folder

theorem Entry.Sound.isName_of_at? (he : e.Sound) (h : e.at? names = some d) :
    ∀ n ∈ names, n.IsName := by
  induction names generalizing e with
  | nil => simp
  | cons n names ih =>
    obtain ⟨f, e', rfl, hfind, he'⟩ := exists_of_at?_cons h
    have hf : f.Sound := he
    obtain ⟨hname, hsound⟩ := hf.of_find? hfind
    exact List.forall_mem_cons.mpr ⟨hname, ih hsound he'⟩

def Before (p q : List Text) : Prop :=
  ∃ lead n m u v, p = lead ++ n :: u ∧ q = lead ++ m :: v ∧ Text.cmp n m = .lt

mutual

theorem Entry.files_ascend {e : Entry} (he : e.Sound) (place : List Text) :
    (e.files place).Pairwise fun a b => Before a.1 b.1 := by
  cases e with
  | file c => exact List.pairwise_singleton _ _
  | link t => exact .nil
  | folder f => exact Folder.files_ascend he place

theorem Folder.files_ascend {f : Folder} (hf : f.Sound) (place : List Text) :
    (f.files place).Pairwise fun a b => Before a.1 b.1 := by
  cases f with
  | nil => exact .nil
  | cons n e rest =>
    obtain ⟨-, he, hrest, hlt⟩ := hf
    rw [Folder.files_cons, List.pairwise_append]
    refine ⟨Entry.files_ascend he _, Folder.files_ascend hrest place, fun a ha b hb => ?_⟩
    obtain ⟨u, hu⟩ := e.prefix_of_mem_files ha
    obtain ⟨m, hm, v, hv⟩ := rest.exists_of_mem_files hb
    exact ⟨place, n, m, u, v, by simp [← hu], by simp [← hv], hlt m hm⟩

end

end Refit
