import Refit.Proofs.Tree.Below

namespace Refit

def Text.IsStep (n : Text) : Prop :=
  ¬(n = [] ∨ n = ['.']) ∧ n ≠ ['.', '.'] ∧ ¬maxNameSize < Text.size n

theorem Text.IsName.isStep {n : Text} (h : n.IsName) : n.IsStep :=
  ⟨by simp [h.1, h.2.1], h.2.2.1, Nat.not_lt.mpr h.2.2.2.2.2⟩

namespace Folder

variable {f g d : Folder} {e : Entry} {followLast : Bool} {links : Nat} {c : Content} {t n : Text}
  {place q names segments rest more : List Text}

def start (place : List Text) (target : Text) : List Text :=
  if (Path.mk target).isAbsolute then [] else place

/-- The segments lead from a place, given backwards, to an entry, over at most so many links. -/
inductive Leads (f : Folder) (followLast : Bool) :
    Nat → List Text → List Text → List Text → Entry → Prop
  | arrived {links : Nat} {place : List Text} {e : Entry} :
      f.at? place.reverse = some e → Leads f followLast links place [] place.reverse e
  | skip {links : Nat} {place rest q : List Text} {n : Text} {e : Entry} :
      n = [] ∨ n = ['.'] → Leads f followLast links place rest q e →
      Leads f followLast links place (n :: rest) q e
  | up {links : Nat} {place rest q : List Text} {e : Entry} :
      Leads f followLast links place.tail rest q e →
      Leads f followLast links place (['.', '.'] :: rest) q e
  | file {links : Nat} {place : List Text} {n : Text} {c : Content} :
      n.IsStep → f.at? (n :: place).reverse = some (.file c) →
      Leads f followLast links place [n] (n :: place).reverse (.file c)
  | folder {links : Nat} {place rest q : List Text} {n : Text} {d : Folder} {e : Entry} :
      n.IsStep → f.at? (n :: place).reverse = some (.folder d) →
      Leads f followLast links (n :: place) rest q e →
      Leads f followLast links place (n :: rest) q e
  | stay {links : Nat} {place : List Text} {n t : Text} :
      n.IsStep → f.at? (n :: place).reverse = some (.link t) → followLast = false →
      Leads f followLast links place [n] (n :: place).reverse (.link t)
  | link {links : Nat} {place rest q : List Text} {n t : Text} {e : Entry} :
      n.IsStep → f.at? (n :: place).reverse = some (.link t) →
      (rest.isEmpty && !followLast) = false →
      Leads f followLast links (start place t) ((Path.mk t).segments ++ rest) q e →
      Leads f followLast (links + 1) place (n :: rest) q e

theorem Leads.of_follow (h : f.follow followLast links place segments = .ok (.there q e)) :
    Leads f followLast links place segments q e := by
  fun_induction follow f followLast links place segments with
  | case1 | case2 =>
    split at h
    · next he =>
      cases h
      exact .arrived he
    · cases h
  | case3 links place n rest hn ih => exact .skip hn (ih h)
  | case4 links place rest _ ih => exact .up (ih h)
  | case8 links place n rest hskip hup hlong c hn hrest =>
    cases h
    obtain rfl := List.isEmpty_iff.mp hrest
    exact .file ⟨hskip, hup, hlong⟩ hn
  | case10 links place n rest hskip hup hlong d hn ih =>
    exact .folder ⟨hskip, hup, hlong⟩ hn (ih h)
  | case11 links place n rest hskip hup hlong t hn hlast =>
    cases h
    obtain ⟨hrest, hlast⟩ := Bool.and_eq_true_iff.mp hlast
    obtain rfl := List.isEmpty_iff.mp hrest
    exact .stay ⟨hskip, hup, hlong⟩ hn (by simpa using hlast)
  | case13 place n rest hskip hup hlong t hn hlast links _ ih =>
    exact .link ⟨hskip, hup, hlong⟩ hn (Bool.eq_false_iff.mpr hlast) (ih h)
  | _ => cases h

theorem follow_step (hn : n.IsStep) : f.follow followLast links place (n :: rest) =
    match f.at? (n :: place).reverse with
    | none => if rest.isEmpty then .ok (.vacant (n :: place).reverse) else .error .missing
    | some (.file c) =>
      if rest.isEmpty then .ok (.there (n :: place).reverse (.file c)) else .error .notDirectory
    | some (.folder _) => f.follow followLast links (n :: place) rest
    | some (.link t) =>
      if rest.isEmpty && !followLast then .ok (.there (n :: place).reverse (.link t))
      else
        match links with
        | 0 => .error .linkLoop
        | links + 1 =>
          f.follow followLast links (start place t) ((Path.mk t).segments ++ rest) := by
  rw [follow, if_neg hn.1, if_neg hn.2.1, if_neg hn.2.2]
  rfl

theorem Leads.follow_eq (h : Leads f followLast links place segments q e) :
    f.follow followLast links place segments = .ok (.there q e) := by
  induction h with
  | arrived h => rw [follow, h]
  | skip hn _ ih => rw [follow, if_pos hn, ih]
  | up _ ih => rw [follow, if_neg (by simp), if_pos rfl, ih]
  | file hn h =>
    rw [follow_step hn, h]
    rfl
  | folder hn h _ ih =>
    rw [follow_step hn, h]
    exact ih
  | stay hn h hlast =>
    rw [follow_step hn, h, hlast]
    rfl
  | link hn h hlast _ ih =>
    rw [follow_step hn, h, hlast]
    exact ih

theorem Leads.at?_eq (h : Leads f followLast links place segments q e) : f.at? q = some e := by
  induction h with
  | arrived h | file _ h | stay _ h _ => exact h
  | skip _ _ ih | up _ ih | folder _ _ _ ih | link _ _ _ _ ih => exact ih

theorem Leads.append {q' : List Text} (h : Leads f true links place segments q (.folder d))
    (hne : more ≠ []) (hmore : ∀ links, Leads f followLast links q.reverse more q' e) :
    Leads f followLast links place (segments ++ more) q' e := by
  generalize hd : Entry.folder d = e' at h
  induction h with
  | @arrived links place e' h =>
    rw [List.reverse_reverse] at hmore
    exact hmore links
  | skip hn _ ih => exact .skip hn (ih hmore hd)
  | up _ ih => exact .up (ih hmore hd)
  | file _ _ => cases hd
  | folder hn h _ ih => exact .folder hn h (ih hmore hd)
  | stay _ _ hlast => cases hlast
  | link hn h _ _ ih =>
    have hrest := ih hmore hd
    rw [List.append_assoc] at hrest
    exact .link hn h (by simp [hne]) hrest

theorem Leads.of_append_nil (h : Leads f true links place (segments ++ [[]]) q (.folder d)) :
    Leads f true links place segments q (.folder d) := by
  -- The empty segment asks for a folder, and the way ends in one without it.
  generalize hd : Entry.folder d = e' at h
  generalize hs : segments ++ [[]] = s at h
  induction h generalizing segments with
  | arrived _ => simp at hs
  | skip hn h ih =>
    cases segments with
    | nil =>
      obtain ⟨-, rfl⟩ := List.cons.inj hs
      exact h
    | cons m segments =>
      obtain ⟨rfl, hrest⟩ := List.cons.inj hs
      exact .skip hn (ih hd hrest)
  | up _ ih =>
    cases segments with
    | nil => simp at hs
    | cons m segments =>
      obtain ⟨rfl, hrest⟩ := List.cons.inj hs
      exact .up (ih hd hrest)
  | file _ _ => cases hd
  | folder hn h _ ih =>
    cases segments with
    | nil =>
      obtain ⟨rfl, -⟩ := List.cons.inj hs
      exact absurd (.inl rfl) hn.1
    | cons m segments =>
      obtain ⟨rfl, hrest⟩ := List.cons.inj hs
      exact .folder hn h (ih hd hrest)
  | stay _ _ _ => cases hd
  | @link links place rest q n t e hn h _ _ ih =>
    cases segments with
    | nil =>
      obtain ⟨rfl, -⟩ := List.cons.inj hs
      exact absurd (.inl rfl) hn.1
    | cons m segments =>
      obtain ⟨rfl, hrest⟩ := List.cons.inj hs
      exact .link hn h (by simp) (ih hd (by rw [List.append_assoc]; exact congrArg _ hrest))

theorem leads_names (hnames : ∀ n ∈ names, n.IsStep)
    (h : f.at? (place.reverse ++ names) = some e) (hlink : ∀ t, e ≠ .link t) :
    Leads f followLast links place names (place.reverse ++ names) e := by
  induction names generalizing place with
  | nil =>
    rw [List.append_nil] at h ⊢
    exact .arrived h
  | cons n names ih =>
    obtain ⟨hn, hnames⟩ := List.forall_mem_cons.mp hnames
    rw [List.append_cons, ← List.reverse_cons] at h ⊢
    have hplace := h
    rw [← Entry.at?_folder, Entry.at?_append, Entry.at?_folder] at hplace
    obtain ⟨d, hd, hrest⟩ := Option.bind_eq_some_iff.mp hplace
    cases names with
    | nil =>
      rw [List.append_nil] at h ⊢
      cases e with
      | file c => exact .file hn h
      | link t => exact absurd rfl (hlink t)
      | folder d => exact .folder hn h (.arrived h)
    | cons m names =>
      obtain ⟨d, e', rfl, -, -⟩ := Entry.exists_of_at?_cons hrest
      exact .folder hn hd (ih hnames h)

def Alike (f g : Folder) : Prop :=
  ∀ place, (g.at? place).map Entry.outline = (f.at? place).map Entry.outline

theorem Alike.exists_eq (h : Alike f g) (he : f.at? q = some e) :
    ∃ e', g.at? q = some e' ∧ e'.outline = e.outline := by
  have hq := h q
  rw [he, Option.map_some] at hq
  obtain ⟨e', he', houtline⟩ := Option.map_eq_some_iff.mp hq
  exact ⟨e', he', houtline⟩

theorem Alike.file (h : Alike f g) (hq : f.at? q = some (.file c)) :
    ∃ c', g.at? q = some (.file c') := by
  obtain ⟨e, he, houtline⟩ := h.exists_eq hq
  cases e with
  | file c => exact ⟨c, he⟩
  | link t => cases houtline
  | folder d => cases houtline

theorem Alike.link (h : Alike f g) (hq : f.at? q = some (.link t)) : g.at? q = some (.link t) := by
  obtain ⟨e, he, houtline⟩ := h.exists_eq hq
  cases e with
  | file c => cases houtline
  | link t' =>
    obtain rfl := Entry.link.inj houtline
    exact he
  | folder d => cases houtline

theorem Alike.folder (h : Alike f g) (hq : f.at? q = some (.folder d)) :
    ∃ d', g.at? q = some (.folder d') := by
  obtain ⟨e, he, houtline⟩ := h.exists_eq hq
  cases e with
  | file c => cases houtline
  | link t => cases houtline
  | folder d => exact ⟨d, he⟩

theorem Alike.leads (hfg : Alike f g) (h : Leads f followLast links place segments q e) :
    ∃ e', Leads g followLast links place segments q e' := by
  induction h with
  | arrived h =>
    obtain ⟨e', he', -⟩ := hfg.exists_eq h
    exact ⟨e', .arrived he'⟩
  | skip hn _ ih =>
    obtain ⟨e, he⟩ := ih
    exact ⟨e, .skip hn he⟩
  | up _ ih =>
    obtain ⟨e, he⟩ := ih
    exact ⟨e, .up he⟩
  | file hn h =>
    obtain ⟨c, hc⟩ := hfg.file h
    exact ⟨_, .file hn hc⟩
  | folder hn h _ ih =>
    obtain ⟨d, hd⟩ := hfg.folder h
    obtain ⟨e, he⟩ := ih
    exact ⟨e, .folder hn hd he⟩
  | stay hn h hlast => exact ⟨_, .stay hn (hfg.link h) hlast⟩
  | link hn h hlast _ ih =>
    obtain ⟨e, he⟩ := ih
    exact ⟨e, .link hn (hfg.link h) hlast he⟩

end Folder

namespace Tree

variable {tree : Tree} {n : Text} {e : Entry} {followLast : Bool}

theorem locate_eq {followLast : Bool} {p : Path} (hp : p.spelling ≠ [])
    (hzero : '\x00' ∉ p.spelling) : tree.locate followLast p =
      tree.top.follow followLast maxLinks (if p.isAbsolute then [] else tree.here.reverse)
        p.segments := by
  rw [locate, if_neg (by simpa using hzero), if_neg (by simpa using hp)]

theorem locate_eq_ok_iff {followLast : Bool} {p : Path} {located : Located} :
    tree.locate followLast p = .ok located ↔ p.spelling ≠ [] ∧ '\x00' ∉ p.spelling ∧
      tree.top.follow followLast maxLinks (if p.isAbsolute then [] else tree.here.reverse)
        p.segments = .ok located := by
  by_cases hzero : '\x00' ∈ p.spelling
  · simp [locate, hzero]
  · by_cases hp : p.spelling = []
    · simp [locate, hp]
    · simp [locate_eq hp hzero, hp, hzero]

theorem locate_name (hn : n.IsName) : tree.locate followLast ⟨n⟩ =
    tree.top.follow followLast maxLinks tree.here.reverse [n] := by
  have ⟨hne, _, _, hslash, hzero, _⟩ := hn
  have habsolute : (Path.mk n).isAbsolute = false := by
    rw [Path.isAbsolute, beq_eq_false_iff_ne]
    exact fun hhead => hslash (List.mem_of_head? hhead)
  rw [locate_eq hne hzero, habsolute, Path.segments_name hslash, if_neg Bool.false_ne_true]

theorem entry_name (hn : n.IsName) (h : tree.top.at? (tree.here ++ [n]) = some e)
    (hlink : ∀ t, e ≠ .link t) : tree.entry followLast ⟨n⟩ = .ok e := by
  have hstep : ∀ m ∈ [n], m.IsStep := List.forall_mem_singleton.mpr hn.isStep
  have hat : tree.top.at? (tree.here.reverse.reverse ++ [n]) = some e := by
    rwa [List.reverse_reverse]
  have hleads : tree.top.Leads followLast maxLinks tree.here.reverse [n] _ e :=
    Folder.leads_names hstep hat hlink
  rw [entry, locate_name hn, hleads.follow_eq]
  rfl

theorem readText_name {t : Text} (hn : n.IsName)
    (h : tree.top.at? (tree.here ++ [n]) = some (.file (.text t))) : tree.readText ⟨n⟩ = .ok t := by
  rw [readText, entry_name hn h nofun]
  rfl

end Tree

end Refit
