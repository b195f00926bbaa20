import Refit.Proofs.Import.Settling
import Refit.Proofs.Language.Blocks

namespace Refit

open Text (AreLines)

variable {l : Language} {i : Import} {symbol statement marker c o x new : Text} {u v ls : List Text}
  {k n : Nat} {kinds : List LineKind} {kind : LineKind}

namespace Import

def IsAnchor (kinds : List LineKind) (k : Nat) : Prop :=
  (kinds[k]? = some .imports ∧ ∀ j, k < j → kinds[j]? ≠ some .imports) ∨
  (.imports ∉ kinds ∧ kinds[k]? = some .declares ∧ ∀ j, j < k → kinds[j]? ≠ some .declares)

theorem IsAnchor.ne_other (h : IsAnchor kinds k) : kinds[k]? ≠ some .other := by
  rcases h with ⟨h, -⟩ | ⟨-, h, -⟩ <;> simp [h]

theorem IsAnchor.not_imports_behind {j : Nat} (h : IsAnchor kinds k) (hlt : k < j) :
    kinds[j]? ≠ some .imports := by
  rcases h with ⟨-, hlast⟩ | ⟨hnone, -⟩
  · exact hlast j hlt
  · exact fun himport => hnone (List.mem_of_getElem? himport)

theorem getElem?_of_lastIdxOf? (h : lastIdxOf? kind kinds = some k) :
    kinds[k]? = some kind ∧ ∀ j, k < j → kinds[j]? ≠ some kind := by
  obtain ⟨j, hj, rfl⟩ := Option.map_eq_some_iff.mp h
  obtain ⟨hlt, hkind, hbefore⟩ := List.findIdx?_eq_some_iff_getElem.mp hj
  rw [List.length_reverse] at hlt
  have hreverse : ∀ m, m < kinds.length →
      kinds[m]? = kinds.reverse[kinds.length - 1 - m]? := by
    intro m hm
    rw [List.getElem?_reverse (by omega)]
    congr 1
    omega
  constructor
  · rw [hreverse _ (by omega), show kinds.length - 1 - (kinds.length - 1 - j) = j by omega,
      List.getElem?_eq_getElem (by simpa using hlt)]
    exact congrArg some (eq_of_beq hkind)
  · intro m hm hmkind
    have hlen : m < kinds.length := (List.getElem?_eq_some_iff.mp hmkind).1
    rw [hreverse m hlen, List.getElem?_eq_getElem (by simp; omega)] at hmkind
    exact hbefore _ (by omega) (beq_iff_eq.mpr (Option.some.inj hmkind))

theorem isAnchor_of_anchor? (h : anchor? l ls = some k) : IsAnchor (l.classify ls) k := by
  rcases Option.or_eq_some_iff.mp h with himports | ⟨hnone, hdeclares⟩
  · exact .inl (getElem?_of_lastIdxOf? himports)
  · obtain ⟨hlt, hkind, hbefore⟩ := List.findIdx?_eq_some_iff_getElem.mp hdeclares
    refine .inr ⟨lastIdxOf?_eq_none_iff.mp hnone, ?_, ?_⟩
    · rw [List.getElem?_eq_getElem hlt]
      exact congrArg some (eq_of_beq hkind)
    · intro j hj hjkind
      rw [List.getElem?_eq_getElem (by omega)] at hjkind
      exact hbefore j hj (beq_iff_eq.mpr (Option.some.inj hjkind))

theorem insertBehind_append (e : LineEnd) : insertBehind u.length new e (u ++ x :: v) =
    u ++ match Text.lineEnd? x with
      | some e => x :: (new ++ e.text) :: v
      | none => (x ++ e.text) :: new :: v := by
  induction u with
  | nil => rfl
  | cons y u ih => exact congrArg (y :: ·) ih

end Import

namespace Language

open Import (IsAnchor)

theorem opens_eq_false_of_isAnchor (h : IsAnchor (l.classify (u ++ x :: v)) u.length)
    (hv : v ≠ []) : (u ++ [x]).foldl l.opens false = false := by
  obtain ⟨y, v, rfl⟩ := List.exists_cons_of_ne_nil hv
  rw [← Bool.not_eq_true]
  intro hopen
  have hkinds : l.classify (u ++ x :: y :: v) = l.classifyFrom false (u ++ [x]) ++
      .imports :: l.classifyFrom (l.opens true y) v := by
    rw [classify_eq, List.append_cons, classifyFrom_append, hopen]
    rfl
  have himport : (l.classify (u ++ x :: y :: v))[u.length + 1]? = some .imports := by
    rw [hkinds, List.getElem?_append_right (by simp [length_classifyFrom])]
    simp [length_classifyFrom]
  exact h.not_imports_behind (Nat.lt_succ_self _) himport

theorem accepts_blockOpener (e : LineEnd) (h : blockOpener.accepts (new ++ e.text) = true) :
    blockOpener.accepts new = true := by
  have hshape : blockOpener.phrase = .all ([LineShape.blanks, LineShape.fixed "import",
      LineShape.blanks, LineShape.fixed "("] ++ [LineShape.blanks]) := rfl
  have hwhole : blockOpener.whole = true := rfl
  rw [LineShape.accepts, if_pos hwhole, hshape, Phrase.matchesAll_iff,
    Phrase.matches_all_concat] at h ⊢
  obtain ⟨p, w, hpw, hp, hw⟩ := h
  rcases Text.behind_or_within hpw.symm with ⟨r, rfl, hr⟩ | ⟨r, hrne, hr, he⟩
  · refine ⟨p, r, rfl, hp, LineShape.matches_blanks_iff.mpr fun b hb => ?_⟩
    exact LineShape.matches_blanks_iff.mp hw b (hr ▸ List.mem_append_left _ hb)
  · -- The parenthesis would stand in the line end.
    obtain ⟨q, t, rfl, ht⟩ := Phrase.exists_of_matches_all hp rfl
    obtain ⟨d, hd, rfl⟩ := Phrase.matches_one.mp ht
    obtain rfl : '(' = d := eq_of_beq hd
    have hlast : r.getLast? = some '(' := by
      rw [← List.getLast?_append_of_ne_nil new hrne, ← hr, List.getLast?_concat]
    have hmem : '(' ∈ e.text := he ▸ List.mem_append_left w (List.mem_of_getLast? hlast)
    have hnot : '(' ∉ e.text := by cases e <;> decide
    exact absurd hmem hnot

theorem opens_eq_false (e : LineEnd) (h : ¬ (l = go ∧ blockOpener.accepts new = true)) :
    l.opens false (new ++ e.text) = false := by
  cases l with
  | go =>
    rw [opens, if_neg Bool.false_ne_true, ← Bool.not_eq_true]
    exact fun haccepts => h ⟨rfl, accepts_blockOpener e haccepts⟩
  | _ => rfl

theorem eraseIdx_classify_ended (h : IsAnchor (l.classify (u ++ x :: v)) u.length)
    (hnew : l.opens false new = false) :
    (l.classify (u ++ x :: new :: v)).eraseIdx (u.length + 1) = l.classify (u ++ x :: v) := by
  have hlen : (l.classifyFrom false (u ++ [x])).length = u.length + 1 := by
    simp [length_classifyFrom]
  rw [classify_eq, classify_eq, List.append_cons, List.append_cons u x v, classifyFrom_append,
    classifyFrom_append false (u ++ [x]) v, ← hlen,
    List.eraseIdx_append_of_length_le (Nat.le_refl _), Nat.sub_self, classifyFrom,
    List.eraseIdx_zero, List.tail_cons]
  by_cases hv : v = []
  · rw [hv]
    rfl
  · rw [opens_eq_false_of_isAnchor h hv, hnew]

theorem eraseIdx_classify_last (h : IsAnchor (l.classify (u ++ [x])) u.length) (e : LineEnd) :
    (l.classify (u ++ [x ++ e.text, new])).eraseIdx (u.length + 1) = l.classify (u ++ [x]) := by
  have hlen : (l.classifyFrom false u).length = u.length := length_classifyFrom false u
  rw [classify_eq, classifyFrom_append, classifyFrom] at h ⊢
  rw [classify_eq, classifyFrom_append, List.eraseIdx_append_of_length_le (by omega), hlen,
    Nat.add_sub_cancel_left]
  simp only [classifyFrom, List.eraseIdx_cons_succ, List.eraseIdx_cons_zero]
  cases hopen : u.foldl l.opens false with
  | true => rfl
  | false =>
    have hne := h.ne_other
    rw [List.getElem?_append_right (by omega), hlen, Nat.sub_self, hopen] at hne
    have hkind : l.kindOf x ≠ .other := fun hother => hne (congrArg some hother)
    rw [kindOf_append hkind LineShape.isBlank_lineEnd]

end Language

namespace Import

theorem language_of_make? (h : make? l symbol statement marker = .ok i) : i.language = l := by
  rw [make?] at h
  split at h
  · cases h
  · rw [← Except.ok.inj h]

theorem exists_of_resolve (h : i.resolve c = .ok (.inserted n o)) :
    ∃ k, anchor? i.language (Text.splitLines c) = some k ∧ n = k + 1 ∧
      o = (insertBehind k i.line (Text.dominantLineEnd c) (Text.splitLines c)).flatten := by
  rw [resolve] at h
  split at h
  · cases h
  · split at h
    · cases h
    · dsimp only at h
      split at h
      · cases h
      · next k hk =>
        obtain ⟨rfl, rfl⟩ := Resolution.inserted.inj (Except.ok.inj h)
        exact ⟨k, hk, rfl, rfl⟩

/-- An import goes behind its anchor. The new line ends as the anchor does; an anchor without an
end gets the one that dominates, and closes the text no more. No other line changes, and no line
becomes something else unless the statement opens a block. -/
theorem resolve_inserts (hi : make? l symbol statement marker = .ok i)
    (hn : '\n' ∉ Text.trim statement) (h : i.resolve c = .ok (.inserted n o)) :
    ∃ u x v, Text.splitLines c = u ++ x :: v ∧ n = u.length + 1 ∧
      IsAnchor (l.classify (Text.splitLines c)) u.length ∧
      ((∃ e, Text.lineEnd? x = some e ∧
          Text.splitLines o = u ++ x :: (Text.trim statement ++ e.text) :: v) ∨
        (Text.lineEnd? x = none ∧ v = [] ∧ Text.splitLines o =
          u ++ [x ++ (Text.dominantLineEnd c).text, Text.trim statement])) ∧
      (¬ (l = .go ∧ Language.blockOpener.accepts (Text.trim statement) = true) →
        (l.classify (Text.splitLines o)).eraseIdx n = l.classify (Text.splitLines c)) := by
  have hne := Rule.line_ne_nil_of_make? hi
  have hline := line_of_make? hi
  obtain rfl := language_of_make? hi
  obtain ⟨k, hanchor, rfl, rfl⟩ := exists_of_resolve h
  have hlines := Text.areLines_splitLines c
  have hinserted := insertBehind_inserted hlines (anchor?_lt hanchor) i.line
    (Text.dominantLineEnd c)
  rw [(hinserted.areLines hlines hne (hline ▸ hn)).splitLines_flatten]
  obtain ⟨u, x, v, hc, rfl⟩ : ∃ u x v, Text.splitLines c = u ++ x :: v ∧ u.length = k :=
    ⟨_, _, _, (List.take_append_drop k _).symm.trans (by rw [List.drop_eq_getElem_cons
      (anchor?_lt hanchor)]), List.length_take_of_le (Nat.le_of_lt (anchor?_lt hanchor))⟩
  have hisAnchor := isAnchor_of_anchor? hanchor
  rw [hc] at hlines hisAnchor ⊢
  refine ⟨u, x, v, rfl, rfl, hisAnchor, ?_⟩
  rw [insertBehind_append, hline]
  cases hx : Text.lineEnd? x with
  | some e =>
    refine ⟨.inl ⟨e, rfl, rfl⟩, fun hopens => ?_⟩
    exact Language.eraseIdx_classify_ended hisAnchor (Language.opens_eq_false e hopens)
  | none =>
    obtain ⟨rfl, -⟩ := hlines.right.of_lineEnd?_eq_none hx
    refine ⟨.inr ⟨rfl, rfl, rfl⟩, fun _ => ?_⟩
    exact Language.eraseIdx_classify_last hisAnchor _

theorem resolve_inserts_behind_last : ∃ i o,
    make? .java "B".toList " import a.B; ".toList "B".toList = .ok i ∧
    '\n' ∉ Text.trim " import a.B; ".toList ∧
    i.resolve "B b;\r\nimport a.A;".toList = .ok (.inserted 2 o) ∧
    o = "B b;\r\nimport a.A;\r\nimport a.B;".toList ∧
    (Language.java.classify (Text.splitLines o)).eraseIdx 2 =
      Language.java.classify (Text.splitLines "B b;\r\nimport a.A;".toList) := by
  have hn : '\n' ∉ Text.trim " import a.B; ".toList := by decide
  have hi : make? .java "B".toList " import a.B; ".toList "B".toList = .ok _ := rfl
  have h : (Import.mk .java "B".toList " import a.B; ".toList "B".toList).resolve
      "B b;\r\nimport a.A;".toList =
        .ok (.inserted 2 "B b;\r\nimport a.A;\r\nimport a.B;".toList) := rfl
  obtain ⟨-, -, -, -, -, -, -, hkinds⟩ := resolve_inserts hi hn h
  exact ⟨_, _, hi, hn, h, rfl, hkinds nofun⟩

end Import

end Refit
