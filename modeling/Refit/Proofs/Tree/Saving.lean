import Refit.Proofs.Results
import Refit.Proofs.Tree.Follow

/-! A file that is written, new or not, stands where its path led before, and its path leads to it.
A new file can change where a path leads only if the path ends there. -/

namespace Refit

variable {f g : Folder} {e d : Entry} {n m : Text} {place q names segments : List Text}
  {links : Nat} {followLast : Bool} {c : Content}

namespace Entry

theorem at?_put_self (e entry : Entry) (place : List Text) :
    (e.put entry place).at? place = some entry := by
  induction place generalizing e with
  | nil => rfl
  | cons n place ih =>
    have hfolder (f : Folder) : (folder (f.put entry (n :: place))).at? (n :: place) =
        some entry := by
      rw [at?_folder, Folder.put_cons_eq, Folder.at?_cons, Folder.find?_insert_self]
      exact ih _
    cases e with
    | folder f => exact hfolder f
    | _ => exact hfolder .nil

theorem outline_at?_put_new (h : e.at? q = some d) (hnew : e.at? place = none)
    (hd : q <+: place → ∃ f, d = folder f) (entry : Entry) :
    ((e.put entry place).at? q).map outline = some d.outline := by
  induction q generalizing e place with
  | nil =>
    obtain ⟨f, rfl⟩ := hd List.nil_prefix
    obtain rfl := Option.some.inj h
    cases place with
    | nil => cases hnew
    | cons n place => rfl
  | cons n q ih =>
    cases place with
    | nil => cases hnew
    | cons m place =>
      obtain ⟨f, e', rfl, hfind, he'⟩ := exists_of_at?_cons h
      rw [put, at?_folder, Folder.put_cons_eq, Folder.at?_cons]
      by_cases hm : n = m
      · subst hm
        rw [at?_folder, Folder.at?_cons, hfind] at hnew
        rw [Folder.find?_insert_self, hfind]
        exact ih he' hnew fun hq => hd (List.cons_prefix_cons.mpr ⟨rfl, hq⟩)
      · rw [Folder.find?_insert_ne f hm, hfind, Option.bind_some, he']
        rfl

end Entry

namespace Folder

theorem at?_put_self (hne : place ≠ []) (f : Folder) (entry : Entry) :
    (f.put entry place).at? place = some entry := by
  rw [← Entry.at?_folder, ← Entry.put_folder hne, Entry.at?_put_self]

/-- A place that is vacant. The folders on the way to it are there, but for those on the way to
another place, from which it was looked for. -/
structure Vacant (f : Folder) (start place : List Text) : Prop where
  ne : place ≠ []
  at?_eq : f.at? place = none
  folder : ∀ q, q <+: place → q ≠ place → q <+: start ∨ ∃ d, f.at? q = some (.folder d)

namespace Vacant

theorem of_folder {start start' : List Text} (h : f.Vacant start place)
    (hstart : ∀ q, q <+: start → q <+: start' ∨ ∃ d, f.at? q = some (.folder d)) :
    f.Vacant start' place where
  ne := h.ne
  at?_eq := h.at?_eq
  folder q hq hne := (h.folder q hq hne).elim (hstart q) .inr

theorem mono {start start' : List Text} (h : f.Vacant start place) (hstart : start <+: start') :
    f.Vacant start' place :=
  h.of_folder fun _ hq => .inl (hq.trans hstart)

end Vacant

theorem prefix_start (place : List Text) (t : Text) :
    (start place t).reverse <+: place.reverse := by
  rw [start]
  split
  · exact List.nil_prefix
  · exact List.prefix_refl _

theorem vacant_of_follow (h : f.follow followLast links place segments = .ok (.vacant q)) :
    f.Vacant place.reverse q := by
  fun_induction follow f followLast links place segments with
  | case1 | case2 => split at h <;> cases h
  | case3 links place n rest hn ih => exact ih h
  | case4 links place rest _ ih =>
    refine (ih h).mono ?_
    rw [← List.dropLast_reverse]
    exact List.dropLast_prefix _
  | case6 links place n rest hskip hup hlong hn hrest =>
    cases h
    refine ⟨by simp, hn, fun q hq hne => .inl ?_⟩
    rw [List.reverse_cons] at hq hne
    exact (List.prefix_concat_iff.mp hq).resolve_left hne
  | case10 links place n rest hskip hup hlong d hn ih =>
    refine (ih h).of_folder fun q hq => ?_
    rw [List.reverse_cons] at hq
    rcases List.prefix_concat_iff.mp hq with rfl | hq
    · exact .inr ⟨d, by rwa [List.reverse_cons] at hn⟩
    · exact .inl hq
  | case13 place n rest hskip hup hlong t hn hlast links _ ih =>
    exact (ih h).mono (prefix_start place t)
  | _ => cases h

namespace Vacant

variable {start : List Text} {t : Text} {inner : Folder}

theorem outline_at?_put (h : f.Vacant start place) (hq : f.at? q = some e)
    (he : q <+: place → ∃ inner, e = .folder inner) (entry : Entry) :
    ((f.put entry place).at? q).map Entry.outline = some e.outline := by
  rw [← Entry.at?_folder, ← Entry.put_folder h.ne]
  refine Entry.outline_at?_put_new ?_ ?_ he entry
  · rwa [Entry.at?_folder]
  · rw [Entry.at?_folder, h.at?_eq]

theorem at?_put_folder (h : f.Vacant start place) (hq : f.at? q = some (.folder inner))
    (entry : Entry) : ∃ inner, (f.put entry place).at? q = some (.folder inner) := by
  have houtline := h.outline_at?_put hq (fun _ => ⟨inner, rfl⟩) entry
  obtain ⟨e, he, houtline⟩ := Option.map_eq_some_iff.mp houtline
  cases e with
  | folder inner => exact ⟨inner, he⟩
  | _ => cases houtline

theorem at?_put_link (h : f.Vacant start place) (hq : f.at? q = some (.link t))
    (hstart : ¬q <+: start) (entry : Entry) : (f.put entry place).at? q = some (.link t) := by
  have hway : ¬q <+: place := by
    intro hprefix
    have hne : q ≠ place := by
      rintro rfl
      rw [h.at?_eq] at hq
      cases hq
    obtain hprefix | ⟨inner, hfolder⟩ := h.folder q hprefix hne
    · exact hstart hprefix
    · rw [hq] at hfolder
      cases hfolder
  have houtline := h.outline_at?_put hq (fun hprefix => absurd hprefix hway) entry
  obtain ⟨e, he, houtline⟩ := Option.map_eq_some_iff.mp houtline
  cases e with
  | link t' => rwa [← Entry.link.inj houtline]
  | _ => cases houtline

end Vacant

theorem follow_put (h : f.follow true links place segments = .ok (.vacant q)) (c : Content) :
    (f.put (.file c) q).follow true links place segments = .ok (.there q (.file c)) := by
  fun_induction follow f true links place segments with
  | case1 | case2 => split at h <;> cases h
  | case3 links place n rest hn ih => rw [follow, if_pos hn, ih h]
  | case4 links place rest _ ih => rw [follow, if_neg (by simp), if_pos rfl, ih h]
  | case6 links place n rest hskip hup hlong hn hrest =>
    cases h
    rw [follow_step ⟨hskip, hup, hlong⟩, at?_put_self (by simp)]
    exact if_pos hrest
  | case10 links place n rest hskip hup hlong d hn ih =>
    obtain ⟨inner, hinner⟩ := (vacant_of_follow h).at?_put_folder hn (.file c)
    rw [follow_step ⟨hskip, hup, hlong⟩, hinner]
    exact ih h
  | case13 place n rest hskip hup hlong t hn hlast links _ ih =>
    have hbeyond : ¬(n :: place).reverse <+: (Folder.start place t).reverse := by
      intro hwithin
      have hlength := (hwithin.trans (prefix_start place t)).length_le
      rw [List.length_reverse, List.length_reverse, List.length_cons] at hlength
      exact Nat.not_succ_le_self place.length hlength
    rw [follow_step ⟨hskip, hup, hlong⟩, (vacant_of_follow h).at?_put_link hn hbeyond]
    simp only [Bool.not_true, Bool.and_false, Bool.false_eq_true, if_false]
    exact ih h
  | _ => cases h

end Folder

namespace Tree

variable {tree after : Tree} {p : Path} {t : Text}

theorem locate_put_file (h : tree.locate true p = .ok (.there place (.file c))) (c' : Content) :
    (tree.put (.file c') place).locate true p = .ok (.there place (.file c')) := by
  obtain ⟨hp, hzero, hfollow⟩ := locate_eq_ok_iff.mp h
  have hleads := Folder.Leads.of_follow hfollow
  have hat := hleads.at?_eq
  have hne : place ≠ [] := by
    rintro rfl
    cases hat
  have halike : Folder.Alike tree.top (tree.top.put (.file c') place) := by
    intro q
    have houtline := Entry.outline_at?_put (e := .folder tree.top) (by rwa [Entry.at?_folder]) c' q
    rwa [Entry.put_folder hne, Entry.at?_folder, Entry.at?_folder] at houtline
  obtain ⟨e, he⟩ := halike.leads hleads
  have hput := he.at?_eq
  rw [Folder.at?_put_self hne] at hput
  rw [← Option.some.inj hput] at he
  exact locate_eq_ok_iff.mpr ⟨hp, hzero, he.follow_eq⟩

theorem locate_put_vacant (h : tree.locate true p = .ok (.vacant place)) (c : Content) :
    (tree.put (.file c) place).locate true p = .ok (.there place (.file c)) := by
  obtain ⟨hp, hzero, hfollow⟩ := locate_eq_ok_iff.mp h
  exact locate_eq_ok_iff.mpr ⟨hp, hzero, Folder.follow_put hfollow c⟩

theorem writeText_name (hn : n.IsName) (h : tree.top.at? (tree.here ++ [n]) = none) (t : Text) :
    tree.writeText ⟨n⟩ t = .ok (tree.put (.file (.text t)) (tree.here ++ [n])) := by
  have ⟨_, _, _, hslash, _⟩ := hn
  have hlast : n.getLast? ≠ some '/' := fun hlast => hslash (List.mem_of_getLast? hlast)
  have hplace : (n :: tree.here.reverse).reverse = tree.here ++ [n] := by simp
  have hlocate : tree.locate true ⟨n⟩ = .ok (.vacant (tree.here ++ [n])) := by
    rw [locate_name hn, Folder.follow_step hn.isStep, hplace, h]
    rfl
  rw [writeText, if_neg hlast, hlocate]
  rfl

theorem readText_of_writeText (h : tree.writeText p t = .ok after) : after.readText p = .ok t := by
  have hread {tree : Tree} {place : List Text}
      (h : tree.locate true p = .ok (.there place (.file (.text t)))) :
      tree.readText p = .ok t := by
    rw [readText, entry, h]
    rfl
  rw [writeText] at h
  split at h
  · split at h <;> cases h
  · obtain ⟨located, hlocated, hwritten⟩ := exists_of_bind_eq_ok h
    cases located with
    | there place e =>
      cases e with
      | file c =>
        cases hwritten
        exact hread (locate_put_file hlocated (.text t))
      | link t => cases hwritten
      | folder f => cases hwritten
    | vacant place =>
      cases hwritten
      exact hread (locate_put_vacant hlocated (.text t))

end Tree

end Refit
