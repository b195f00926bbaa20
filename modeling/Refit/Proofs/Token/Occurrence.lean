import Refit.Proofs.Text.Search
import Refit.Proofs.Text.Swap
import Refit.Token

namespace Refit.Token

open Text (Swapped Apart AreLines)

variable {tok short : Token} {before before' after after' : Option Char} {t t' u v a b s : Text}
  {c : Char} {ls : List Text}

def fits (tok : Token) (before after : Option Char) : Bool :=
  (!tok.literal.head?.any bindsAt || isWordBoundary before tok.literal.head?) &&
    (!tok.literal.getLast?.any bindsAt || isWordBoundary tok.literal.getLast? after)

theorem fits_congr (hb : before.any isWord = before'.any isWord)
    (ha : after.any isWord = after'.any isWord) :
    tok.fits before after = tok.fits before' after' := by
  simp only [fits, isWordBoundary, hb, ha]

theorem occursAt_iff : tok.occursAt before t = true ↔
    ∃ behind, t = tok.literal ++ behind ∧ tok.fits before behind.head? = true := by
  rw [occursAt]
  cases h : Text.dropStart? tok.literal t with
  | none =>
    simp only [Bool.false_eq_true, false_iff, not_exists, not_and]
    intro behind ht
    rw [Text.dropStart?_eq_some_iff.mpr ht] at h
    cases h
  | some behind =>
    rw [Text.dropStart?_eq_some_iff] at h
    subst h
    have hhead : tok.literal = [] ∨ (tok.literal ++ behind).head? = tok.literal.head? := by
      cases tok.literal <;> simp
    rcases hhead with hnil | hhead
    · simp [hnil, fits]
    · simp [hhead, fits]

theorem occursIn_iff : tok.occursIn t = true ↔
    ∃ x y, t = x ++ tok.literal ++ y ∧ tok.fits x.getLast? y.head? = true := by
  rw [occursIn, Text.anyPosition_iff]
  constructor
  · rintro ⟨x, _, rfl, h⟩
    obtain ⟨y, rfl, hy⟩ := occursAt_iff.mp h
    exact ⟨x, y, by simp, by simpa using hy⟩
  · rintro ⟨x, y, rfl, h⟩
    exact ⟨x, tok.literal ++ y, by simp, occursAt_iff.mpr ⟨y, rfl, by simpa using h⟩⟩

theorem not_occursIn_nil (hne : tok.literal ≠ []) : tok.occursIn [] = false := by
  rw [← Bool.not_eq_true, occursIn_iff]
  rintro ⟨x, y, h, -⟩
  simp_all

theorem occursIn_infix (h : tok.occursIn t = true) : tok.literal <:+: t := by
  obtain ⟨x, y, rfl, -⟩ := occursIn_iff.mp h
  exact ⟨x, y, rfl⟩

theorem finder_spells (hne : tok.literal ≠ []) : tok.finder.Spells fun _ => tok.literal := by
  intro before t n a hf
  rw [finder] at hf
  split at hf
  · next h =>
    obtain ⟨behind, rfl, -⟩ := occursAt_iff.mp h
    simp only [Option.some.injEq, Prod.mk.injEq] at hf
    exact ⟨hne, hf.1.symm, behind, rfl⟩
  · cases hf

theorem hits_finder_eq_nil_iff (hne : tok.literal ≠ []) :
    Text.hits tok.finder t = [] ↔ tok.occursIn t = false := by
  rw [Text.hits_eq_nil_iff (finder_spells hne), ← Bool.not_eq_true, occursIn, Text.anyPosition_iff]
  constructor
  · rintro hnone ⟨x, _, rfl, h⟩
    obtain ⟨y, rfl, -⟩ := occursAt_iff.mp h
    obtain ⟨d, u, hu⟩ := List.exists_cons_of_ne_nil hne
    have := hnone x d (u ++ y) (by simp [hu])
    simp_all [finder]
  · intro hnot x d y ht
    rw [finder, if_neg]
    intro h
    exact hnot ⟨x, d :: y, ht, by simpa using h⟩

theorem replaceIn_eq_self (hne : tok.literal ≠ []) (h : tok.occursIn t = false)
    (replacement : Text) :
    tok.replaceIn replacement t = t :=
  Text.replaceHits_eq_self (finder_spells hne) ((hits_finder_eq_nil_iff hne).mpr h)

theorem swapped_replaceIn (hne : tok.literal ≠ []) (replacement t : Text) :
    Swapped tok.literal replacement t (tok.replaceIn replacement t) :=
  Swapped.replaceHits (finder_spells hne) fun _ _ => Swapped.whole

theorem occursIn_append_cons (hc : c ∉ tok.literal) (hw : isWord c = false) :
    tok.occursIn (u ++ c :: v) = (tok.occursIn u || tok.occursIn v) := by
  rw [Bool.eq_iff_iff, Bool.or_eq_true, occursIn_iff, occursIn_iff, occursIn_iff]
  constructor
  · rintro ⟨x, y, h, hfit⟩
    rcases Text.behind_or_before hc h.symm with ⟨r, rfl, rfl⟩ | ⟨r, rfl, rfl⟩
    · refine .inl ⟨x, r, rfl, ?_⟩
      rw [← hfit]
      refine fits_congr rfl ?_
      cases r <;> simp [hw]
    · refine .inr ⟨r, y, rfl, ?_⟩
      rw [← hfit]
      refine fits_congr ?_ rfl
      cases r <;> simp [hw, List.getLast?_cons, List.getLast?_append]
  · rintro (⟨x, y, rfl, hfit⟩ | ⟨x, y, rfl, hfit⟩)
    · refine ⟨x, y ++ c :: v, by simp, ?_⟩
      rw [← hfit]
      refine fits_congr rfl ?_
      cases y <;> simp [hw]
    · refine ⟨u ++ c :: x, y, by simp, ?_⟩
      rw [← hfit]
      refine fits_congr ?_ rfl
      cases x <;> simp [hw, List.getLast?_cons, List.getLast?_append]

theorem occursIn_append_lead (hne : tok.literal ≠ []) (hr : '\r' ∉ tok.literal) (line : Text)
    (e : LineEnd) : tok.occursIn (line ++ e.lead) = tok.occursIn line := by
  cases e with
  | lf => rw [LineEnd.lead, List.append_nil]
  | crlf =>
    rw [LineEnd.lead, occursIn_append_cons hr (by decide), not_occursIn_nil hne, Bool.or_false]

theorem occursIn_append_lineEnd (hne : tok.literal ≠ []) (hr : '\r' ∉ tok.literal)
    (hn : '\n' ∉ tok.literal) (line : Text) (e : LineEnd) :
    tok.occursIn (line ++ e.text) = tok.occursIn line := by
  rw [e.text_eq, ← List.append_assoc, occursIn_append_cons hn (by decide), not_occursIn_nil hne,
    Bool.or_false, occursIn_append_lead hne hr]

theorem occursIn_flatten (hls : AreLines ls) (hne : tok.literal ≠ []) (hn : '\n' ∉ tok.literal) :
    tok.occursIn ls.flatten = ls.any tok.occursIn := by
  have hw : isWord '\n' = false := by decide
  induction hls with
  | nil => simp [not_occursIn_nil hne]
  | last => simp
  | cons _ _ ih =>
    simp [occursIn_append_cons hn hw, not_occursIn_nil hne, ih]

theorem occursIn_of_extends (h : tok.literal = short.literal ++ s) (hne : short.literal ≠ [])
    (hs : s ≠ []) (hb : isWordBoundary short.literal.getLast? s.head? = true)
    (ht : tok.occursIn t = true) : short.occursIn t = true := by
  obtain ⟨x, y, rfl, hfit⟩ := occursIn_iff.mp ht
  refine occursIn_iff.mpr ⟨x, s ++ y, by simp [h], ?_⟩
  have hhead : tok.literal.head? = short.literal.head? := by
    rw [h, List.head?_append_of_ne_nil _ hne]
  simp only [fits, Bool.and_eq_true, hhead, List.head?_append_of_ne_nil _ hs, hb, Bool.or_true,
    and_true] at hfit ⊢
  exact hfit.1

structure Alike (a b : Text) : Prop where
  left_ne : a ≠ []
  right_ne : b ≠ []
  head : a.head?.any isWord = b.head?.any isWord
  last : a.getLast?.any isWord = b.getLast?.any isWord

theorem Alike.getLast?_any (h : Alike a b) (hs : Swapped a b t t') :
    t.getLast?.any isWord = t'.getLast?.any isWord := by
  have hnone : (none : Option Char).any isWord = (none : Option Char).any isWord := rfl
  simpa using hs.any_getLast?_or isWord h.left_ne h.right_ne h.last hnone

theorem Alike.head?_any (h : Alike a b) (hs : Swapped a b t t') :
    t.head?.any isWord = t'.head?.any isWord := by
  cases hs with
  | nil => rfl
  | keep => rfl
  | swap =>
    rw [List.head?_append_of_ne_nil _ h.left_ne, List.head?_append_of_ne_nil _ h.right_ne, h.head]

theorem fits_of_cut {o : Option Char} {ps : List (Text.Piece Unit)} {x y : Text}
    (h : Alike tok.literal b) (hb : Apart b tok.literal)
    (hcut : Text.Cut tok.finder (fun _ => tok.literal) o t ps)
    (hxy : ps.flatMap (Text.Piece.render fun _ => b) = x ++ (tok.literal ++ y)) :
    tok.fits (x.getLast?.or o) y.head? = false := by
  induction hcut generalizing x with
  | nil => simp [h.left_ne] at hxy
  | @gap o c t ps hgap hcut ih =>
    simp only [List.flatMap_cons, Text.Piece.render, List.cons_append, List.nil_append] at hxy
    cases x with
    | nil =>
      -- A new token here would have been one before, since its characters are kept.
      have hs := Swapped.keep c (Swapped.of_cut hcut fun _ _ => Swapped.whole (b := b))
      rw [hxy, List.nil_append] at hs
      obtain ⟨z, hz, hzy⟩ := hs.cut_start hb
      rw [← Bool.not_eq_true]
      intro hfit
      have : tok.occursAt o (c :: t) = true :=
        occursAt_iff.mpr ⟨z, hz, by rwa [fits_congr rfl (h.head?_any hzy)]⟩
      simp [finder, this] at hgap
    | cons d x =>
      simp only [List.cons_append, List.cons.injEq] at hxy
      rw [Text.getLast?_cons_or, ← hxy.1]
      exact ih hxy.2
  | @hit o _ t ps _ _ _ ih =>
    simp only [List.flatMap_cons, Text.Piece.render] at hxy
    obtain ⟨r, rfl, hr⟩ := hb.behind hxy
    rw [← ih hr]
    refine fits_congr ?_ rfl
    have hlast : tok.literal.getLast?.any isWord = (b.getLast?.or o).any isWord := by
      rw [h.last]
      obtain ⟨d, hd⟩ := Option.isSome_iff_exists.mp (List.getLast?_isSome.mpr h.right_ne)
      rw [hd, Option.some_or]
    rw [List.getLast?_append, Option.or_assoc]
    cases r.getLast? with
    | none => simpa using hlast.symm
    | some d => rfl

theorem not_occursIn_replaceIn (h : Alike tok.literal b) (hb : Apart b tok.literal) (t : Text) :
    tok.occursIn (tok.replaceIn b t) = false := by
  rw [← Bool.not_eq_true, occursIn_iff, replaceIn, Text.replaceHits_eq]
  rintro ⟨x, y, hxy, hfit⟩
  have := fits_of_cut h hb (Text.cut_pieces (finder_spells h.left_ne) t) (by simpa using hxy)
  simp_all

theorem occursIn_of_swapped (hs : Swapped a b t t') (h : Alike a b) (hb : Apart b tok.literal)
    (hne : tok.literal ≠ []) (ht : tok.occursIn t' = true) : tok.occursIn t = true := by
  obtain ⟨x', y', rfl, hfit⟩ := occursIn_iff.mp ht
  obtain ⟨x, y, rfl, hx, hy⟩ := (List.append_assoc x' _ y' ▸ hs).cut hb hne
  refine occursIn_iff.mpr ⟨x, y, by simp, ?_⟩
  rwa [fits_congr (h.getLast?_any hx) (h.head?_any hy)]

end Refit.Token
