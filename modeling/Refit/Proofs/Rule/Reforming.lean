import Refit.Proofs.Rule.Exactness
import Refit.Proofs.Token.Inert

namespace Refit.Rule

open Text (Cut Piece)

variable {needle replacement t u v : Text} {o : Option Char} {ps : List (Piece Unit)} {r : Rule}

/-- A replacement that neither holds a needle nor makes it up with what stands before it, what
stands behind it, or both. -/
structure Lasting (needle replacement : Text) : Prop where
  inside : ¬ needle <:+: replacement
  left : ∀ u v, needle = u ++ v → u ≠ [] → v ≠ [] → ¬ v <+: replacement
  right : ∀ u v, needle = u ++ v → u ≠ [] → v ≠ [] → ¬ u <:+ replacement
  around : replacement.length < needle.length → ¬ replacement <:+: needle

theorem reforms_eq_false_iff (hr : replacement ≠ []) : reforms needle replacement = false ↔
    ¬ (replacement.length < needle.length ∧ replacement <:+: needle) ∧
    ∀ u v, needle = u ++ v → u ≠ [] → v ≠ [] → ¬ (v <+: replacement ∨ u <:+ replacement) := by
  have hcuts : (properCuts needle).any (fun cut =>
      cut.2.isPrefixOf replacement || cut.1.isSuffixOf replacement) = false ↔
      ∀ u v, needle = u ++ v → u ≠ [] → v ≠ [] → ¬ (v <+: replacement ∨ u <:+ replacement) := by
    simp [Token.mem_properCuts]
  rw [reforms, Bool.and_eq_false_iff, Bool.or_eq_false_iff, hcuts, ← Bool.not_eq_true,
    ← Bool.not_eq_true, Bool.and_eq_true, Text.hasInfix_iff, decide_eq_true_iff]
  simp [hr]

theorem lasting_of_literal? (h : literal? needle replacement = .ok r) (hr : replacement ≠ []) :
    needle ≠ [] ∧ r = literal needle replacement ∧ Lasting needle replacement := by
  rw [literal?] at h
  split at h
  · cases h
  · next hne =>
    split at h
    · cases h
    · next hinside =>
      split at h
      · cases h
      · next hreforms =>
        rw [Bool.not_eq_true, reforms_eq_false_iff hr] at hreforms
        obtain ⟨haround, hcuts⟩ := hreforms
        refine ⟨hne, (Except.ok.inj h).symm, ?_, ?_, ?_, ?_⟩
        · rwa [Text.hasInfix_iff] at hinside
        · exact fun u v hlit hu hv hprefix => hcuts u v hlit hu hv (.inl hprefix)
        · exact fun u v hlit hu hv hsuffix => hcuts u v hlit hu hv (.inr hsuffix)
        · exact fun hlen hinfix => haround ⟨hlen, hinfix⟩

theorem Lasting.prefix_of_cut (h : Lasting needle replacement)
    (hcut : Cut (Text.literally needle) (fun _ => needle) o t ps) (hlit : needle = u ++ v)
    (hu : u ≠ []) (hv : v <+: ps.flatMap (Piece.render fun _ => replacement)) : v <+: t := by
  induction hcut generalizing u v with
  | nil => exact hv
  | gap _ _ ih =>
    cases v with
    | nil => exact List.nil_prefix
    | cons d v =>
      rw [List.flatMap_cons, Piece.render, List.singleton_append] at hv
      obtain ⟨rfl, hrest⟩ := List.cons_prefix_cons.mp hv
      exact List.cons_prefix_cons.mpr ⟨rfl, ih (u := u ++ [d]) (by simp [hlit]) (by simp) hrest⟩
  | hit =>
    cases v with
    | nil => exact List.nil_prefix
    | cons d v =>
      rw [List.flatMap_cons, Piece.render] at hv
      rcases List.prefix_or_prefix_of_prefix hv (List.prefix_append _ _) with hv | ⟨w, hw⟩
      · exact absurd hv (h.left u (d :: v) hlit hu (List.cons_ne_nil d v))
      · have hlen := congrArg List.length hlit
        rw [← hw, List.length_append, List.length_append] at hlen
        have hu := List.length_pos_iff.mpr hu
        exact absurd ⟨u, w, by rw [hlit, ← hw, List.append_assoc]⟩ (h.around (by omega))

theorem Lasting.not_infix_of_cut (h : Lasting needle replacement)
    (hcut : Cut (Text.literally needle) (fun _ => needle) o t ps) (hne : needle ≠ []) :
    ¬ needle <:+: ps.flatMap (Piece.render fun _ => replacement) := by
  induction hcut with
  | nil => exact fun hinfix => hne (List.eq_nil_of_infix_nil hinfix)
  | @gap o c t ps hgap hcut ih =>
    intro hinfix
    rw [List.flatMap_cons, Piece.render, List.singleton_append] at hinfix
    rcases List.infix_cons_iff.mp hinfix with hprefix | hinfix
    · -- The needle begins in a character that was kept, so it stood there before.
      obtain ⟨d, v, hlit⟩ := List.exists_cons_of_ne_nil hne
      rw [hlit] at hprefix
      obtain ⟨rfl, hv⟩ := List.cons_prefix_cons.mp hprefix
      have hv := h.prefix_of_cut hcut (u := [d]) hlit (by simp) hv
      have hfound : needle.isPrefixOf (d :: t) = true := by
        rw [List.isPrefixOf_iff_prefix, hlit]
        exact List.cons_prefix_cons.mpr ⟨rfl, hv⟩
      simp [Text.literally, hfound] at hgap
    · exact ih hinfix
  | hit _ _ _ ih =>
    rintro ⟨x, y, hxy⟩
    rw [List.flatMap_cons, Piece.render, List.append_assoc] at hxy
    rcases Text.behind_or_within hxy.symm with ⟨s, -, hs⟩ | ⟨s, hsne, hs, hsy⟩
    · exact ih ⟨s, y, by rw [List.append_assoc, hs]⟩
    · -- The needle begins in a replacement: it ends there as well, or goes on behind it.
      rcases List.prefix_or_prefix_of_prefix ⟨y, rfl⟩ ⟨_, hsy.symm⟩ with hin | ⟨w, hw⟩
      · exact h.inside (hin.isInfix.trans ⟨x, [], by simp [hs]⟩)
      · cases w with
        | nil => exact h.inside ⟨x, [], by simp [hs, ← hw]⟩
        | cons d w => exact h.right s (d :: w) hw.symm hsne (List.cons_ne_nil d w) ⟨x, hs.symm⟩

theorem Lasting.not_infix_replaceAll (h : Lasting needle replacement) (hne : needle ≠ [])
    (t : Text) : ¬ needle <:+: Text.replaceAll needle replacement t := by
  rw [Text.replaceAll, Text.replaceHits_eq]
  exact h.not_infix_of_cut (Text.cut_pieces (Text.literally_spells hne) t) hne

/-- A literal that is accepted with a replacement that is not empty can be replaced in every text.
The needle is gone afterwards, so a second replacement leaves the text. -/
theorem literal_leaves_no_needle (h : literal? needle replacement = .ok r)
    (hr : replacement ≠ []) (t : Text) :
    r.apply t = .ok (Text.replaceAll needle replacement t) ∧
    ¬ needle <:+: Text.replaceAll needle replacement t ∧
    r.apply (Text.replaceAll needle replacement t) =
      .ok (Text.replaceAll needle replacement t) := by
  obtain ⟨hne, rfl, hlasting⟩ := lasting_of_literal? h hr
  have hgone := hlasting.not_infix_replaceAll hne t
  have hself : Text.replaceAll needle replacement (Text.replaceAll needle replacement t) =
      Text.replaceAll needle replacement t := by
    have hnil : Text.hits (Text.literally needle) (Text.replaceAll needle replacement t) = [] := by
      rwa [Text.hits_literally_eq_nil_iff hne, ← Bool.not_eq_true, Text.hasInfix_iff]
    exact Text.replaceHits_eq_self (Text.literally_spells hne) hnil
  refine ⟨?_, hgone, settle_eq_ok hself⟩
  change settle _ _ t = _
  rw [settle, if_pos hself.symm]

theorem literal_leaves_no_needle_twice : ∃ r, literal? "aba".toList "bc".toList = .ok r ∧
    "bc".toList ≠ [] ∧ r.apply "ababaaba".toList = .ok "bcbabc".toList ∧
    ¬ "aba".toList <:+: "bcbabc".toList := by
  have hr : "bc".toList ≠ [] := by decide
  have h : literal? "aba".toList "bc".toList = .ok _ := rfl
  obtain ⟨happly, hgone, -⟩ := literal_leaves_no_needle h hr "ababaaba".toList
  exact ⟨_, h, hr, happly, hgone⟩

end Refit.Rule
