import Refit.Proofs.Import.Insertion
import Refit.Proofs.Pipeline.Guard

namespace Refit

open Text (HasLine splitLines)

namespace Text

variable {line line' t x x' : Text}

def Bears (line t : Text) : Prop := line = t ∨ ∃ e : LineEnd, line = t ++ e.text

def Ended (x x' : Text) : Prop := x' = x ∨ lineEnd? x = none ∧ ∃ e : LineEnd, x' = x ++ e.text

theorem Bears.trim_eq (h : Bears line t) : trim line = trim t := by
  rcases h with rfl | ⟨e, rfl⟩
  · rfl
  · exact trim_append_lineEnd t e

theorem Ended.trim_eq (h : Ended x x') : trim x' = trim x := by
  rcases h with rfl | ⟨-, e, rfl⟩
  · rfl
  · exact trim_append_lineEnd x e

theorem lineEnd?_append_ne_none (t : Text) (e : LineEnd) : lineEnd? (t ++ e.text) ≠ none := by
  rw [Ne, lineEnd?_eq_none_iff, not_not, LineEnd.text_eq, ← List.append_assoc,
    List.getLast?_concat]

theorem Bears.ended (h : Bears line t) (he : Ended line line') : Bears line' t := by
  rcases he with rfl | ⟨hnone, e, rfl⟩
  · exact h
  · rcases h with rfl | ⟨e', rfl⟩
    · exact .inr ⟨e, rfl⟩
    · exact absurd hnone (lineEnd?_append_ne_none t e')

theorem Ended.occursIn {tok : Token} (h : Ended x x') (hocc : tok.occursIn x = true) :
    tok.occursIn x' = true := by
  rcases h with rfl | ⟨-, e, rfl⟩
  · exact hocc
  · obtain ⟨a, b, rfl, hfit⟩ := Token.occursIn_iff.mp hocc
    refine Token.occursIn_iff.mpr ⟨a, b ++ e.text, by simp, ?_⟩
    rw [← hfit]
    apply Token.fits_congr rfl
    cases b with
    | nil => cases e <;> decide
    | cons => rfl

end Text

variable {l : Language} {i : Import} {c o x x' new line statement marker : Text} {u v : List Text}
  {j k : Nat} {kinds : List LineKind}

theorem Language.map_fst_kindedLines (l : Language) (c : Text) :
    (l.kindedLines c).map Prod.fst = splitLines c :=
  List.map_fst_zip (Nat.le_of_eq (l.length_classify _).symm)

theorem Language.hasLine_of_mem_importTexts (h : statement ∈ l.importTexts c) :
    HasLine statement c := by
  obtain ⟨⟨line, kind⟩, hentry, hline⟩ := List.mem_filterMap.mp h
  dsimp only at hline
  split at hline
  · exact ⟨line, (List.of_mem_zip hentry).1, Option.some.inj hline⟩
  · cases hline

theorem Language.exists_classify (h : l.isImport line = true) (u : List Text) (x : Text)
    (v : List Text) : ∃ ks kind ks',
      l.classify (u ++ x :: line :: v) = ks ++ kind :: .imports :: ks' ∧ ks.length = u.length := by
  have hkind : l.kindOf line = .imports := by rw [kindOf, h, if_pos rfl]
  have hkinds := (l.classify_eq (u ++ x :: line :: v)).trans (classifyFrom_append false u _)
  rw [classifyFrom, classifyFrom, hkind, ite_self] at hkinds
  exact ⟨_, _, _, hkinds, length_classifyFrom false u⟩

theorem Language.isImport_of_bears (h : Text.Bears line new) (hnew : l.isImport new = true) :
    l.isImport line = true := by
  rcases h with rfl | ⟨e, rfl⟩
  · exact hnew
  · exact isImport_append hnew LineShape.isBlank_lineEnd

namespace Import

theorem IsAnchor.unique (h : IsAnchor kinds j) (h' : IsAnchor kinds k) : j = k := by
  rcases h with ⟨himport, hlast⟩ | ⟨hnone, hdeclares, hfirst⟩
  · rcases h' with ⟨himport', hlast'⟩ | ⟨hnone', -⟩
    · by_contra hne
      rcases Nat.lt_or_gt_of_ne hne with hlt | hgt
      · exact hlast k hlt himport'
      · exact hlast' j hgt himport
    · exact absurd (List.mem_of_getElem? himport) hnone'
  · rcases h' with ⟨himport', -⟩ | ⟨-, hdeclares', hfirst'⟩
    · exact absurd (List.mem_of_getElem? himport') hnone
    · by_contra hne
      rcases Nat.lt_or_gt_of_ne hne with hlt | hgt
      · exact hfirst' j hlt hdeclares
      · exact hfirst k hgt hdeclares'

theorem exists_of_anchor? {ls : List Text} (h : anchor? l ls = some k) :
    ∃ u x v, ls = u ++ x :: v ∧ u.length = k := by
  have hlt := anchor?_lt h
  refine ⟨ls.take k, ls[k], ls.drop (k + 1), ?_, List.length_take_of_le (Nat.le_of_lt hlt)⟩
  rw [← List.drop_eq_getElem_cons hlt, List.take_append_drop]

/-- An import whose statement is one line that is recognised and opens no block. -/
structure Ordinary (l : Language) (i : Import) : Prop where
  made : make? l i.symbol i.statement i.marker = .ok i
  flat : '\n' ∉ i.line
  recognised : l.isImport i.line = true
  closed : ¬ (l = .go ∧ Language.blockOpener.accepts i.line = true)

structure Landing (l : Language) (new c o : Text) where
  above : List (Text × LineKind)
  anchor : Text
  anchor' : Text
  kind : LineKind
  line : Text
  below : List (Text × LineKind)
  before : l.kindedLines c = above ++ (anchor, kind) :: below
  after : l.kindedLines o = above ++ (anchor', kind) :: (line, .imports) :: below
  isAnchor : IsAnchor (l.classify (splitLines c)) above.length
  ended : Text.Ended anchor anchor'
  bears : Text.Bears line new

namespace Landing

theorem of_lines (hc : splitLines c = u ++ x :: v) (ho : splitLines o = u ++ x' :: line :: v)
    (hanchor : IsAnchor (l.classify (u ++ x :: v)) u.length) (hended : Text.Ended x x')
    (hbears : Text.Bears line new) (hnew : l.isImport new = true)
    (hkinds : (l.classify (u ++ x' :: line :: v)).eraseIdx (u.length + 1) =
      l.classify (u ++ x :: v)) : Nonempty (Landing l new c o) := by
  have hline := Language.isImport_of_bears hbears hnew
  obtain ⟨ks, kind, ks', hafter, hlen⟩ := l.exists_classify hline u x' v
  have hbefore : l.classify (u ++ x :: v) = ks ++ kind :: ks' := by
    rw [← hkinds, hafter, ← hlen, List.eraseIdx_append_of_length_le (Nat.le_add_right _ 1),
      Nat.add_sub_cancel_left]
    rfl
  have habove : (u.zip ks).length = u.length := by simp [hlen]
  refine ⟨⟨u.zip ks, x, x', kind, line, v.zip ks', ?_, ?_, ?_, hended, hbears⟩⟩
  · rw [Language.kindedLines, hc, hbefore, List.zip_append hlen.symm, List.zip_cons_cons]
  · rw [Language.kindedLines, ho, hafter, List.zip_append hlen.symm, List.zip_cons_cons,
      List.zip_cons_cons]
  · rwa [habove, hc]

theorem of_anchor? (hi : Ordinary l i) (hk : anchor? l (splitLines c) = some k) (e : LineEnd) :
    Nonempty (Landing l i.line c (insertBehind k i.line e (splitLines c)).flatten) := by
  have hne := Rule.line_ne_nil_of_make? hi.made
  have hlines := Text.areLines_splitLines c
  have hafter := (insertBehind_inserted hlines (anchor?_lt hk) i.line e).areLines hlines hne hi.flat
  have hanchor := isAnchor_of_anchor? hk
  obtain ⟨u, x, v, hc, rfl⟩ := exists_of_anchor? hk
  have ho := hafter.splitLines_flatten
  rw [hc] at hanchor hlines
  rw [hc, insertBehind_append] at ho ⊢
  cases hx : Text.lineEnd? x with
  | some e =>
    rw [hx] at ho
    have hbears : Text.Bears (i.line ++ e.text) i.line := .inr ⟨e, rfl⟩
    exact of_lines hc ho hanchor (.inl rfl) hbears hi.recognised
      (Language.eraseIdx_classify_ended hanchor (Language.opens_eq_false e hi.closed))
  | none =>
    rw [hx] at ho
    obtain ⟨rfl, -⟩ := hlines.right.of_lineEnd?_eq_none hx
    exact of_lines hc ho hanchor (.inr ⟨hx, e, rfl⟩) (.inl rfl) hi.recognised
      (Language.eraseIdx_classify_last hanchor e)

section

variable (h : Landing l new c o)
include h

theorem splitLines_before :
    splitLines c = h.above.map Prod.fst ++ h.anchor :: h.below.map Prod.fst := by
  rw [← l.map_fst_kindedLines c, h.before]
  simp

theorem splitLines_after :
    splitLines o = h.above.map Prod.fst ++ h.anchor' :: h.line :: h.below.map Prod.fst := by
  rw [← l.map_fst_kindedLines o, h.after]
  simp

theorem imports_notMem_below : LineKind.imports ∉ h.below.map Prod.snd := by
  intro hmem
  obtain ⟨j, hj⟩ := List.getElem?_of_mem hmem
  have hkinds : l.classify (splitLines c) =
      h.above.map Prod.snd ++ h.kind :: h.below.map Prod.snd := by
    rw [← l.map_snd_kindedLines, h.before]
    simp
  have hat : (l.classify (splitLines c))[h.above.length + 1 + j]? = some .imports := by
    rw [hkinds, List.getElem?_append_right (by simp; omega), List.length_map, Nat.add_assoc,
      Nat.add_sub_cancel_left, Nat.add_comm 1 j, List.getElem?_cons_succ, hj]
  exact h.isAnchor.not_imports_behind (by omega) hat

theorem isAnchor_line : IsAnchor (l.classify (splitLines o)) (h.above.length + 1) := by
  have hkinds : l.classify (splitLines o) =
      (h.above.map Prod.snd ++ [h.kind]) ++ .imports :: h.below.map Prod.snd := by
    rw [← l.map_snd_kindedLines, h.after]
    simp
  have hlen : (h.above.map Prod.snd ++ [h.kind]).length = h.above.length + 1 := by simp
  rw [hkinds, ← hlen]
  refine .inl ⟨by simp, fun j hj himport => ?_⟩
  obtain ⟨m, rfl⟩ := Nat.exists_eq_add_of_lt hj
  rw [List.getElem?_append_right (by omega), Nat.add_assoc, Nat.add_sub_cancel_left,
    List.getElem?_cons_succ] at himport
  exact h.imports_notMem_below (List.mem_of_getElem? himport)

theorem hasLine_iff : HasLine statement o ↔ HasLine statement c ∨ Text.trim new = statement := by
  simp only [HasLine, h.splitLines_before, h.splitLines_after, List.mem_append, List.mem_cons,
    or_and_right, exists_or, exists_eq_left, h.ended.trim_eq, h.bears.trim_eq]
  rw [or_assoc, or_assoc]
  exact or_congr_right (or_congr_right or_comm)

theorem uses (huses : l.Uses marker c) : l.Uses marker o := by
  obtain ⟨entry, hentry, hkind, hocc⟩ := huses
  rw [h.before, List.mem_append, List.mem_cons] at hentry
  rcases hentry with habove | rfl | hbelow
  · exact ⟨entry, by simp [h.after, habove], hkind, hocc⟩
  · exact ⟨(h.anchor', h.kind), by simp [h.after], hkind, h.ended.occursIn hocc⟩
  · exact ⟨entry, by simp [h.after, hbelow], hkind, hocc⟩

theorem anchored : l.Anchored o := ⟨(h.line, .imports), by simp [h.after], nofun⟩

theorem importTexts_perm : (l.importTexts o).Perm (Text.trim new :: l.importTexts c) := by
  simp only [Language.importTexts, h.before, h.after, List.filterMap_append, List.filterMap_cons,
    h.ended.trim_eq, h.bears.trim_eq, if_pos]
  by_cases hkind : h.kind = .imports
  · simp only [hkind, if_pos]
    exact (List.Perm.append_left _ (.swap _ _ _)).trans List.perm_middle
  · simp only [hkind, if_false]
    exact List.perm_middle

theorem noNewRepeats (hmissing : ¬ HasLine (Text.trim new) c) : Pipeline.NoNewRepeats l c o := by
  intro statement hrepeats
  rw [h.importTexts_perm.count_eq, List.count_cons] at hrepeats
  by_cases hnew : Text.trim new = statement
  · have hnone : statement ∉ l.importTexts c :=
      fun hmem => hmissing (hnew ▸ Language.hasLine_of_mem_importTexts hmem)
    simp [hnew, List.count_eq_zero.mpr hnone] at hrepeats
  · simpa [hnew] using hrepeats

end

theorem isMissing {j : Import} (h : Landing l i.line c o) (hj : j.language = l)
    (hne : i.line ≠ j.line) (hmissing : j.isMissing c = true) : j.isMissing o = true := by
  obtain ⟨hnot, huses⟩ := isMissing_iff.mp hmissing
  refine isMissing_iff.mpr ⟨fun hline => ?_, ?_⟩
  · rcases h.hasLine_iff.mp hline with hline | hline
    · exact hnot hline
    · exact hne (i.trim_line.symm.trans hline)
  · rw [hj] at huses ⊢
    exact h.uses huses

end Landing

end Import

end Refit
