import Refit.Proofs.Token.Occurrence
import Refit.Rule

/-! A text is inert to a token if the token does not occur in it, and does not come about where it
meets what stands around it. No token is left where inert texts take its place. Where a token
overlaps with itself nowhere, only inert texts leave none. -/

namespace Refit.Token

open Text (Cut Piece)

variable {tok : Token} {before after o o' : Option Char} {b t u v w x y : Text}
  {ps : List (Piece Unit)}

def joined (before after : Option Char) : Bool := before.any isWord && after.any isWord

@[simp] theorem joined_none_left : joined none after = false := rfl

@[simp] theorem joined_none_right : joined before none = false := by simp [joined]

theorem joined_of_or_left (h : joined (before.or o) after = false) :
    joined before after = false := by
  cases before with
  | none => rfl
  | some c => exact h

theorem joined_of_or_right (h : joined before (after.or o) = false) :
    joined before after = false := by
  cases after with
  | none => exact joined_none_right
  | some c => exact h

/-- A token that asks for a boundary exactly where it ends in a part of a word. -/
structure Regular (tok : Token) : Prop where
  head : tok.literal.head?.all (fun c => bindsAt c == isWord c) = true
  last : tok.literal.getLast?.all (fun c => bindsAt c == isWord c) = true

theorem Regular.fits_iff (h : tok.Regular) : tok.fits before after = true ↔
    joined before tok.literal.head? = false ∧ joined tok.literal.getLast? after = false := by
  obtain ⟨hhead, hlast⟩ := h
  rw [fits, Bool.and_eq_true]
  refine and_congr ?_ ?_
  · cases hc : tok.literal.head? with
    | none => simp
    | some c =>
      have hbinds : bindsAt c = isWord c := by simpa [hc] using hhead
      cases hw : isWord c <;> simp [hbinds, hw, joined, isWordBoundary]
  · cases hc : tok.literal.getLast? with
    | none => simp
    | some c =>
      have hbinds : bindsAt c = isWord c := by simpa [hc] using hlast
      cases hw : isWord c <;> simp [hbinds, hw, joined, isWordBoundary]

theorem fits_of_finder (h : tok.finder o (tok.literal ++ t) = some (tok.literal.length, ())) :
    tok.fits o t.head? = true := by
  rw [finder] at h
  split at h
  · next hoccurs =>
    obtain ⟨behind, hbehind, hfit⟩ := occursAt_iff.mp hoccurs
    rwa [List.append_cancel_left hbehind]
  · cases h

/-- A text that does not hold a token, and that does not make one up with what stands before it,
what stands behind it, or both. -/
structure Inert (tok : Token) (b : Text) : Prop where
  inside : tok.occursIn b = false
  left : ∀ u v s, tok.literal = u ++ v → b = v ++ s → u ≠ [] → v ≠ [] →
    tok.fits u.getLast? s.head? = false
  right : ∀ u v s, tok.literal = u ++ v → b = s ++ u → u ≠ [] → v ≠ [] →
    tok.fits s.getLast? v.head? = false
  around : ∀ u w, tok.literal = u ++ (b ++ w) → u ≠ [] → w ≠ [] →
    tok.fits u.getLast? w.head? = false

theorem mem_properCuts : (u, v) ∈ Rule.properCuts t ↔ t = u ++ v ∧ u ≠ [] ∧ v ≠ [] := by
  fun_induction Rule.properCuts t generalizing u with
  | case1 => simp_all
  | case2 c => cases u <;> simp_all
  | case3 c t hne ih =>
    rw [List.mem_cons, List.mem_map, Prod.mk.injEq]
    constructor
    · rintro (⟨rfl, rfl⟩ | ⟨⟨u, w⟩, hmem, hu⟩)
      · exact ⟨rfl, by simp, hne⟩
      · obtain ⟨rfl, rfl⟩ := Prod.mk.inj hu
        obtain ⟨rfl, -, hw⟩ := ih.mp hmem
        exact ⟨rfl, by simp, hw⟩
    · rintro ⟨ht, hu, hv⟩
      obtain ⟨d, u, rfl⟩ := List.exists_cons_of_ne_nil hu
      simp only [List.cons_append, List.cons.injEq] at ht
      cases u with
      | nil => exact .inl (by simp [ht])
      | cons e u => exact .inr ⟨(e :: u, v), ih.mpr ⟨ht.2, by simp, hv⟩, by simp [ht.1]⟩

theorem inert_iff : tok.Inert b ↔ tok.occursIn b = false ∧ ∀ p ∈ Rule.properCuts tok.literal,
    (p.2 <+: b → tok.fits p.1.getLast? (b.drop p.2.length).head? = false) ∧
    (p.1 <:+ b → tok.fits (b.take (b.length - p.1.length)).getLast? p.2.head? = false) ∧
    (b <+: p.2 → tok.fits p.1.getLast? (p.2.drop b.length).head? = false) := by
  constructor
  · intro h
    refine ⟨h.inside, fun ⟨u, v⟩ hp => ?_⟩
    obtain ⟨hlit, hu, hv⟩ := mem_properCuts.mp hp
    refine ⟨?_, ?_, ?_⟩
    · rintro ⟨s, rfl⟩
      simpa using h.left u v s hlit rfl hu hv
    · rintro ⟨s, rfl⟩
      simpa using h.right u v s hlit rfl hu hv
    · rintro ⟨w, rfl⟩
      cases w with
      | nil => simpa using h.left u b [] (by simpa using hlit) (by simp) hu (by simpa using hv)
      | cons c w => simpa using h.around u (c :: w) hlit hu (by simp)
  · rintro ⟨hinside, hcuts⟩
    refine ⟨hinside, ?_, ?_, ?_⟩
    · rintro u v s hlit rfl hu hv
      simpa using (hcuts _ (mem_properCuts.mpr ⟨hlit, hu, hv⟩)).1
    · rintro u v s hlit rfl hu hv
      simpa using (hcuts _ (mem_properCuts.mpr ⟨hlit, hu, hv⟩)).2.1
    · intro u w hlit hu hw
      simpa using (hcuts _ (mem_properCuts.mpr ⟨hlit, hu, by simp [hw]⟩)).2.2

instance : Decidable (tok.Inert b) := decidable_of_iff' _ inert_iff

example : (Token.mk "Bytes".toList).Inert "sBytesOut".toList := by decide

example : ¬ (Token.mk "a.b".toList).Inert "a".toList := by decide

theorem Regular.joined_right (h : tok.Regular) (hfit : tok.fits before after = false)
    (hleft : joined before tok.literal.head? = false) :
    joined tok.literal.getLast? after = true := by
  rw [← Bool.not_eq_true, h.fits_iff] at hfit
  simpa [hleft] using hfit

section Cut

variable (hreg : tok.Regular) (h : tok.Inert b)
include hreg h

theorem Inert.joined_of_replaced {rest : Text} (hlit : tok.literal = u ++ v) (hu : u ≠ [])
    (hv : v ≠ []) (hleft : joined u.getLast? tok.literal.head? = false)
    (hxy : v ++ y = b ++ rest)
    (hrest : ∀ w, v = b ++ w → joined tok.literal.getLast? w.head? = true → rest = w ++ y →
      joined tok.literal.getLast? y.head? = true) :
    joined tok.literal.getLast? y.head? = true := by
  rcases Text.behind_or_within hxy with ⟨s, hb, rfl⟩ | ⟨w, hw, hvw, hrw⟩
  · have hs := hreg.joined_right (h.left u v s hlit hb hu hv) hleft
    by_contra hy
    rw [Bool.not_eq_true, List.head?_append] at hy
    simp [joined_of_or_right hy] at hs
  · rw [hvw] at hlit
    exact hrest w hvw (hreg.joined_right (h.around u w hlit hu hw) hleft) hrw

theorem Inert.joined_of_cut (hcut : Cut tok.finder (fun _ => tok.literal) o t ps)
    (ht : joined tok.literal.getLast? t.head? = false) (hlit : tok.literal = u ++ v) (hu : u ≠ [])
    (hv : joined tok.literal.getLast? v.head? = true)
    (hvy : v ++ y = ps.flatMap (Piece.render fun _ => b)) :
    joined tok.literal.getLast? y.head? = true := by
  induction hcut generalizing u v with
  | nil => simp_all
  | gap =>
    cases v with
    | nil => simp at hv
    | cons d v =>
      simp only [List.flatMap_cons, Piece.render, List.cons_append, List.cons.injEq] at hvy
      simp only [List.head?_cons, hvy.1] at ht hv
      simp [ht] at hv
  | @hit o _ t ps hne hfound _ ih =>
    have hvne : v ≠ [] := by
      rintro rfl
      simp at hv
    have hhead : (tok.literal ++ t).head? = tok.literal.head? := List.head?_append_of_ne_nil _ hne
    rw [hhead] at ht
    -- The token ends in a part of a word, so it does not begin with one.
    have hleft (p : Option Char) : joined p tok.literal.head? = false := by
      simp only [joined, Bool.and_eq_true] at hv ht ⊢
      simp_all
    have hfit := (hreg.fits_iff.mp (fits_of_finder hfound)).2
    refine h.joined_of_replaced hreg hlit hu hvne (hleft _) hvy fun w hw hjoined hrest => ?_
    rw [hw, ← List.append_assoc] at hlit
    exact ih hfit hlit (by simp [hu]) hjoined hrest.symm

theorem Inert.exists_of_cut (hcut : Cut tok.finder (fun _ => tok.literal) o t ps)
    (hlit : tok.literal = u ++ v) (hu : u ≠ []) (ho : o = u.getLast?)
    (hvy : v ++ y = ps.flatMap (Piece.render fun _ => b))
    (hy : joined tok.literal.getLast? y.head? = false) :
    ∃ z, t = v ++ z ∧ joined tok.literal.getLast? z.head? = false := by
  induction hcut generalizing u v with
  | nil => simp_all
  | @gap o c t ps _ _ ih =>
    simp only [List.flatMap_cons, Piece.render, List.cons_append, List.nil_append] at hvy
    cases v with
    | nil =>
      rw [List.nil_append] at hvy
      exact ⟨c :: t, rfl, by simpa [hvy] using hy⟩
    | cons d v =>
      simp only [List.cons_append, List.cons.injEq] at hvy
      obtain ⟨z, rfl, hz⟩ := ih (u := u ++ [c]) (by simp [hlit, hvy.1]) (by simp) (by simp) hvy.2
      exact ⟨z, by simp [hvy.1], hz⟩
  | @hit o _ t ps hne hfound hcut =>
    obtain ⟨hleft, hright⟩ := hreg.fits_iff.mp (fits_of_finder hfound)
    rw [ho] at hleft
    cases v with
    | nil =>
      refine ⟨tok.literal ++ t, rfl, ?_⟩
      rw [List.head?_append_of_ne_nil _ hne]
      simpa [hlit] using hleft
    | cons d v =>
      have hjoined := h.joined_of_replaced hreg hlit hu (List.cons_ne_nil d v) hleft hvy
        fun w hw hjoined hrest => by
          rw [hw, ← List.append_assoc] at hlit
          exact h.joined_of_cut hreg hcut hright hlit (by simp [hu]) hjoined hrest.symm
      simp [hy] at hjoined

theorem Inert.fits_of_kept {c : Char} (hcut : Cut tok.finder (fun _ => tok.literal) (some c) t ps)
    (hgap : tok.finder o (c :: t) = none)
    (ho : tok.literal.head? = some c → joined o' tok.literal.head? = false →
      joined o tok.literal.head? = false) (hne : tok.literal ≠ [])
    (hy : c :: ps.flatMap (Piece.render fun _ => b) = tok.literal ++ y) :
    tok.fits o' y.head? = false := by
  obtain ⟨d, v, hlit⟩ := List.exists_cons_of_ne_nil hne
  simp only [hlit, List.cons_append, List.cons.injEq] at hy
  obtain ⟨rfl, hy⟩ := hy
  rw [← Bool.not_eq_true]
  intro hfit
  obtain ⟨hleft, hright⟩ := hreg.fits_iff.mp hfit
  obtain ⟨z, rfl, hz⟩ := h.exists_of_cut hreg hcut (u := [c]) hlit (by simp) rfl hy.symm hright
  have hoccurs : tok.occursAt o (c :: (v ++ z)) = true := by
    refine occursAt_iff.mpr ⟨z, by simp [hlit], hreg.fits_iff.mpr ⟨?_, hz⟩⟩
    exact ho (by simp [hlit]) hleft
  simp [finder, hoccurs] at hgap

theorem Inert.fits_of_replaced {p : Text} (hcut : Cut tok.finder (fun _ => tok.literal) o t ps)
    (ht : joined tok.literal.getLast? t.head? = false) (hp : p ≠ []) (hb : b = x ++ p)
    (hy : tok.literal ++ y = p ++ ps.flatMap (Piece.render fun _ => b)) :
    tok.fits (x.getLast?.or o') y.head? = false := by
  rw [← Bool.not_eq_true]
  intro hfit
  obtain ⟨hleft, hright⟩ := hreg.fits_iff.mp hfit
  have hleft := joined_of_or_left hleft
  rcases Text.behind_or_within hy with ⟨q, rfl, rfl⟩ | ⟨w, hw, hlit, hwy⟩
  · rw [List.head?_append] at hright
    have hfit : tok.fits x.getLast? q.head? = true :=
      hreg.fits_iff.mpr ⟨hleft, joined_of_or_right hright⟩
    have hinside := h.inside
    rw [occursIn_iff.mpr ⟨x, q, by simp [hb], hfit⟩] at hinside
    cases hinside
  · have hjoined := hreg.joined_right (h.right p w x hlit hb hp hw) hleft
    have := h.joined_of_cut hreg hcut ht hlit hp hjoined hwy.symm
    simp [hright] at this

theorem Inert.fits_of_cut (hne : tok.literal ≠ [])
    (hcut : Cut tok.finder (fun _ => tok.literal) o t ps)
    (ho : tok.literal.head? = t.head? → joined o' tok.literal.head? = false →
      joined o tok.literal.head? = false)
    (hxy : ps.flatMap (Piece.render fun _ => b) = x ++ (tok.literal ++ y)) :
    tok.fits (x.getLast?.or o') y.head? = false := by
  induction hcut generalizing x o' with
  | nil => simp [hne] at hxy
  | gap hgap hcut ih =>
    simp only [List.flatMap_cons, Piece.render, List.cons_append, List.nil_append] at hxy
    cases x with
    | nil => exact h.fits_of_kept hreg hcut hgap ho hne hxy
    | cons d x =>
      simp only [List.cons_append, List.cons.injEq] at hxy
      rw [Text.getLast?_cons_or, ← hxy.1]
      exact ih (fun _ hleft => hleft) hxy.2
  | hit _ hfound hcut ih =>
    simp only [List.flatMap_cons, Piece.render] at hxy
    have hafter := (hreg.fits_iff.mp (fits_of_finder hfound)).2
    rcases Text.behind_or_within hxy with ⟨r, rfl, hr⟩ | ⟨p, hp, hb, hpy⟩
    · rw [List.getLast?_append, Option.or_assoc]
      refine ih (fun hhead _ => ?_) hr
      rwa [hhead]
    · exact h.fits_of_replaced hreg hcut hafter hp hb hpy

/-- No token is left where each was replaced by a text that is inert to it. -/
theorem Inert.not_occursIn_replaceIn (hne : tok.literal ≠ []) (t : Text) :
    tok.occursIn (tok.replaceIn b t) = false := by
  rw [← Bool.not_eq_true, occursIn_iff, replaceIn, Text.replaceHits_eq]
  rintro ⟨x, y, hxy, hfit⟩
  have hcut := Text.cut_pieces (finder_spells hne) t
  have := h.fits_of_cut hreg hne hcut (fun _ hleft => hleft) (by simpa using hxy)
  simp_all

end Cut

theorem isWord_head? {s : Text} (hs : s ≠ []) (hw : ∀ c ∈ s, isWord c = true) :
    s.head?.any isWord = true := by
  obtain ⟨c, s, rfl⟩ := List.exists_cons_of_ne_nil hs
  simp [hw c List.mem_cons_self]

theorem isWord_getLast? {s : Text} (hs : s ≠ []) (hw : ∀ c ∈ s, isWord c = true) :
    s.getLast?.any isWord = true := by
  obtain ⟨c, hc⟩ := Option.isSome_iff_exists.mp (List.getLast?_isSome.mpr hs)
  simp [hc, hw c (List.mem_of_getLast? hc)]

theorem Inert.of_word (hreg : tok.Regular) (hw : ∀ c ∈ tok.literal, isWord c = true)
    (hb : tok.occursIn b = false) : tok.Inert b := by
  have hleft : ∀ u v c, tok.literal = u ++ v → u ≠ [] → tok.fits u.getLast? c = false := by
    intro u v c hlit hu
    have hlast := isWord_getLast? hu fun c hc => hw c (by simp [hlit, hc])
    have hhead := isWord_head? (by simp [hlit, hu]) hw
    rw [← Bool.not_eq_true, hreg.fits_iff, joined, hlast, hhead]
    simp
  have hright : ∀ u v c, tok.literal = u ++ v → v ≠ [] → tok.fits c v.head? = false := by
    intro u v c hlit hv
    have hhead := isWord_head? hv fun c hc => hw c (by simp [hlit, hc])
    have hlast := isWord_getLast? (by simp [hlit, hv]) hw
    rw [← Bool.not_eq_true, hreg.fits_iff, joined, joined, hhead, hlast]
    simp
  exact ⟨hb, fun u v _ hlit _ hu _ => hleft u v _ hlit hu,
    fun u v _ hlit _ _ hv => hright u v _ hlit hv, fun u w hlit hu _ => hleft u _ _ hlit hu⟩

def Borderless (tok : Token) : Prop :=
  ∀ s, s ≠ [] → s <+: tok.literal → s <:+ tok.literal → s = tok.literal

theorem finder_eq_none_of_length (ht : t.length < tok.literal.length) : tok.finder o t = none := by
  rw [finder, if_neg]
  intro h
  obtain ⟨behind, rfl, -⟩ := occursAt_iff.mp h
  rw [List.length_append] at ht
  omega

theorem Borderless.finder_eq_none (h : tok.Borderless) (hlit : tok.literal = u ++ v) (hv : v ≠ [])
    {c : Char} (hu : u = x ++ c :: y) : tok.finder o (c :: (y ++ (tok.literal ++ w))) = none := by
  have hv := List.length_pos_iff.mpr hv
  have hlen := congrArg List.length hlit
  simp only [hu, List.length_append, List.length_cons] at hlen
  rw [finder, if_neg]
  intro hoccurs
  obtain ⟨behind, heq, -⟩ := occursAt_iff.mp hoccurs
  rw [← List.cons_append] at heq
  rcases Text.behind_or_within heq with ⟨r, hr, hrest⟩ | ⟨r, -, hr, -⟩
  · have hrlen := congrArg List.length hr
    simp only [List.length_append, List.length_cons] at hrlen
    have hr' : r <+: tok.literal :=
      List.prefix_of_prefix_length_le ⟨behind, hrest.symm⟩ ⟨w, rfl⟩ (by omega)
    have hrne : r ≠ [] := by
      rintro rfl
      simp at hrlen
      omega
    have := congrArg List.length (h r hrne hr' ⟨c :: y, hr.symm⟩)
    omega
  · have hrlen := congrArg List.length hr
    simp only [List.length_append, List.length_cons] at hrlen
    omega

theorem Borderless.replaceIn_eq (h : tok.Borderless) (hlit : tok.literal = u ++ v) (hv : v ≠ [])
    (hw : w.length < tok.literal.length) (hfit : tok.fits u.getLast? w.head? = true) (b : Text) :
    tok.replaceIn b (u ++ (tok.literal ++ w)) = u ++ (b ++ w) := by
  have hne : tok.literal ≠ [] := by simp [hlit, hv]
  have hfound : tok.finder u.getLast? (tok.literal ++ w) = some (tok.literal.length, ()) := by
    rw [finder, if_pos (occursAt_iff.mpr ⟨w, rfl, hfit⟩)]
  have hbefore : Text.piecesFrom tok.finder none 0 (u ++ (tok.literal ++ w)) = _ :=
    Text.piecesFrom_gaps fun x c y hu => h.finder_eq_none hlit hv hu
  have hhit : Text.piecesFrom tok.finder u.getLast? 0 (tok.literal ++ w) =
      .hit () :: Text.piecesFrom tok.finder tok.literal.getLast? 0 w :=
    @Text.piecesFrom_hit _ tok.finder (fun _ => tok.literal) _ _ () hne hfound
  have hbehind : Text.piecesFrom tok.finder tok.literal.getLast? 0 (w ++ []) = _ :=
    Text.piecesFrom_gaps fun x c y hy => finder_eq_none_of_length (by simp [hy] at hw ⊢; omega)
  rw [List.append_nil] at hbehind
  rw [replaceIn, Text.replaceHits_eq, Text.pieces, hbefore, Option.or_none, hhit, hbehind]
  simp [Piece.render, Text.piecesFrom, List.flatMap_map]

theorem Borderless.inert (h : tok.Borderless) (hreg : tok.Regular) (hne : tok.literal ≠ [])
    (hb : ∀ t, tok.occursIn (tok.replaceIn b t) = false) : tok.Inert b := by
  -- In `u`, the token and `w`, only the token itself is replaced, so no other one may come about.
  have hnot : ∀ u v w x y, tok.literal = u ++ v → v ≠ [] → w.length < tok.literal.length →
      u ++ (b ++ w) = x ++ tok.literal ++ y → tok.fits u.getLast? w.head? = true →
      tok.fits x.getLast? y.head? ≠ true := by
    intro u v w x y hlit hv hw hxy hfit hfit'
    have hnone := hb (u ++ (tok.literal ++ w))
    rw [h.replaceIn_eq hlit hv hw hfit, occursIn_iff.mpr ⟨x, y, hxy, hfit'⟩] at hnone
    cases hnone
  have hpos := List.length_pos_iff.mpr hne
  have hfits : tok.fits none none = true := hreg.fits_iff.mpr ⟨rfl, joined_none_right⟩
  constructor
  · have hb := hb ([] ++ (tok.literal ++ []))
    rwa [h.replaceIn_eq (u := []) (w := []) rfl hne hpos hfits, List.nil_append,
      List.append_nil] at hb
  · intro u v s hlit hbs _ hv
    rw [← Bool.not_eq_true]
    intro hfit
    obtain ⟨hleft, hright⟩ := hreg.fits_iff.mp hfit
    exact hnot u v [] [] s hlit hv hpos (by simp [hlit, hbs])
      (hreg.fits_iff.mpr ⟨hleft, joined_none_right⟩) (hreg.fits_iff.mpr ⟨rfl, hright⟩)
  · intro u v s hlit hbs hu _
    have hlen := congrArg List.length hlit
    rw [List.length_append] at hlen
    have hu := List.length_pos_iff.mpr hu
    rw [← Bool.not_eq_true]
    intro hfit
    obtain ⟨hleft, hright⟩ := hreg.fits_iff.mp hfit
    exact hnot [] tok.literal v s [] rfl hne (by omega) (by simp [hlit, hbs])
      (hreg.fits_iff.mpr ⟨rfl, hright⟩) (hreg.fits_iff.mpr ⟨hleft, joined_none_right⟩)
  · intro u w hlit hu hw
    have hlen := congrArg List.length hlit
    simp only [List.length_append] at hlen
    have hu := List.length_pos_iff.mpr hu
    rw [← Bool.not_eq_true]
    intro hfit
    exact hnot u (b ++ w) w [] [] hlit (by simp [hw]) (by omega) (by simp [hlit]) hfit hfits

end Refit.Token
