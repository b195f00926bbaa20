import Refit.Proofs.Import.Insertion

/-! A line of Go stands in a block if a line before it opens one, is in no block itself, and no
closing parenthesis follows up to the line. The lines in a block and those that open one are
imports, like the imports outside. So the last import of a text whose blocks are all closed is the
end of a block or outside of all. -/

namespace Refit

variable {lines : List Text} {line : Text} {i j k : Nat}

namespace Language

def OpensAt (lines : List Text) (i : Nat) : Prop :=
  ∃ line ∈ lines[i]?, blockOpener.accepts line = true

def ClosesAt (lines : List Text) (i : Nat) : Prop := ∃ line ∈ lines[i]?, Text.trim line = [')']

instance : Decidable (OpensAt lines i) :=
  inferInstanceAs (Decidable (∃ line ∈ lines[i]?, blockOpener.accepts line = true))

instance : Decidable (ClosesAt lines i) :=
  inferInstanceAs (Decidable (∃ line ∈ lines[i]?, Text.trim line = [')']))

theorem OpensAt.lt_length (h : OpensAt lines i) : i < lines.length := by
  obtain ⟨line, hline, -⟩ := h
  exact (List.getElem?_eq_some_iff.mp hline).1

theorem ClosesAt.lt_length (h : ClosesAt lines i) : i < lines.length := by
  obtain ⟨line, hline, -⟩ := h
  exact (List.getElem?_eq_some_iff.mp hline).1

/-- A line before the place `i` opens a block, is itself in no block, and no line in between closes
it. -/
def InBlock (lines : List Text) (i : Nat) : Prop :=
  ∃ j, ∃ _ : j < i, OpensAt lines j ∧ ¬ InBlock lines j ∧ ∀ k, j < k → k < i → ¬ ClosesAt lines k
termination_by i

theorem inBlock_iff : InBlock lines i ↔
    ∃ j < i, OpensAt lines j ∧ ¬ InBlock lines j ∧ ∀ k, j < k → k < i → ¬ ClosesAt lines k := by
  rw [InBlock]
  exact exists_congr fun j => ⟨fun ⟨h, hj⟩ => ⟨h, hj⟩, fun ⟨h, hj⟩ => ⟨h, hj⟩⟩

/-- Every line that opens a block, outside of all others, is followed by one that closes it. -/
def BlocksClosed (lines : List Text) : Prop :=
  ∀ j, OpensAt lines j → ¬ InBlock lines j → ∃ k, j < k ∧ ClosesAt lines k

theorem not_inBlock_zero : ¬ InBlock lines 0 := by
  rw [inBlock_iff]
  rintro ⟨j, hj, -⟩
  exact Nat.not_lt_zero j hj

theorem inBlock_succ : InBlock lines (i + 1) ↔
    InBlock lines i ∧ ¬ ClosesAt lines i ∨ ¬ InBlock lines i ∧ OpensAt lines i := by
  constructor
  · intro h
    obtain ⟨j, hj, hopens, hout, hopen⟩ := inBlock_iff.mp h
    rcases Nat.lt_succ_iff_lt_or_eq.mp hj with hlt | rfl
    · refine .inl ⟨inBlock_iff.mpr ⟨j, hlt, hopens, hout, fun k hjk hki => ?_⟩, ?_⟩
      · exact hopen k hjk (Nat.lt_succ_of_lt hki)
      · exact hopen i hlt (Nat.lt_succ_self i)
    · exact .inr ⟨hout, hopens⟩
  · rintro (⟨hin, hstays⟩ | ⟨hout, hopens⟩)
    · obtain ⟨j, hj, hopens, hout, hopen⟩ := inBlock_iff.mp hin
      refine inBlock_iff.mpr ⟨j, Nat.lt_succ_of_lt hj, hopens, hout, fun k hjk hki => ?_⟩
      rcases Nat.lt_succ_iff_lt_or_eq.mp hki with hlt | rfl
      · exact hopen k hjk hlt
      · exact hstays
    · refine inBlock_iff.mpr ⟨i, Nat.lt_succ_self i, hopens, hout, fun k hik hki => ?_⟩
      omega

theorem foldl_opens_iff (lines : List Text) (i : Nat) :
    (lines.take i).foldl go.opens false = true ↔ InBlock lines i := by
  induction i with
  | zero => simp [not_inBlock_zero]
  | succ i ih =>
    rw [inBlock_succ, ← ih, List.take_add_one, List.foldl_append]
    cases hline : lines[i]? with
    | none => simp [OpensAt, ClosesAt, hline]
    | some line =>
      cases (lines.take i).foldl go.opens false <;> simp [opens, OpensAt, ClosesAt, hline]

instance : Decidable (InBlock lines i) := decidable_of_iff _ (foldl_opens_iff lines i)

theorem getElem?_classifyFrom (l : Language) (inBlock : Bool) (lines : List Text) (i : Nat) :
    (l.classifyFrom inBlock lines)[i]? = lines[i]?.map fun line =>
      if (lines.take i).foldl l.opens inBlock then .imports else l.kindOf line := by
  induction lines generalizing inBlock i with
  | nil => rfl
  | cons line lines ih =>
    cases i with
    | zero => rfl
    | succ i => exact ih (l.opens inBlock line) i

theorem getElem?_classify_go (hline : lines[i]? = some line) : (go.classify lines)[i]? =
    some (if InBlock lines i then .imports else go.kindOf line) := by
  rw [classify_eq, getElem?_classifyFrom, hline, Option.map_some]
  simp only [foldl_opens_iff]

theorem kindOf_closer (h : Text.trim line = [')']) : go.kindOf line = .other := by
  obtain ⟨v, hv⟩ := List.rdropWhile_prefix isBlank (Text.trimStart line)
  have htrim : (Text.trimStart line).rdropWhile isBlank = [')'] := h
  have hhead : (Text.trimStart line).head? = some ')' := by
    rw [← hv, htrim]
    rfl
  have himport : go.isImport line = false := by
    rw [isImport, List.any_eq_false]
    intro s hs haccepts
    obtain ⟨c, hc, hline⟩ := import_begins (by decide) s hs line haccepts
    rw [hhead] at hline
    simp [importLetters, ← Option.some.inj hline] at hc
  have hdeclares : go.isDeclaration line = false := by
    rw [isDeclaration, List.any_eq_false]
    intro s hs haccepts
    obtain ⟨c, hc, hline⟩ := declaration_begins s hs line haccepts
    rw [hhead] at hline
    simp [declarationLetters, ← Option.some.inj hline] at hc
  rw [kindOf, himport, hdeclares]
  rfl

end Language

namespace Import

open Refit.Language (OpensAt ClosesAt InBlock BlocksClosed)

theorem length_le_of_anchor? (h : anchor? .go lines = some k) (hopen : InBlock lines (k + 1)) :
    lines.length ≤ k + 1 := by
  by_contra hlt
  have hline := List.getElem?_eq_getElem (Nat.lt_of_not_le hlt)
  refine (isAnchor_of_anchor? h).not_imports_behind (Nat.lt_succ_self k) ?_
  rw [Language.getElem?_classify_go hline, if_pos hopen]

theorem not_opener_of_anchor? (hclosed : BlocksClosed lines) (h : anchor? .go lines = some k) :
    ¬ (OpensAt lines k ∧ ¬ InBlock lines k) := by
  rintro ⟨hopens, hout⟩
  obtain ⟨c, hlt, hcloses⟩ := hclosed k hopens hout
  have hend := length_le_of_anchor? h (Language.inBlock_succ.mpr (.inr ⟨hout, hopens⟩))
  have hc := hcloses.lt_length
  omega

theorem closesAt_of_anchor? (hclosed : BlocksClosed lines) (h : anchor? .go lines = some k)
    (hin : InBlock lines k) : ClosesAt lines k := by
  by_contra hstays
  have hend := length_le_of_anchor? h (Language.inBlock_succ.mpr (.inl ⟨hin, hstays⟩))
  obtain ⟨j, -, hopens, hout, hopen⟩ := Language.inBlock_iff.mp hin
  obtain ⟨c, hjc, hcloses⟩ := hclosed j hopens hout
  have hc := hcloses.lt_length
  -- The line `c` that closes the block would have to stand in front of the anchor.
  obtain hlt | rfl := Nat.lt_or_eq_of_le (show c ≤ k by omega)
  · exact hopen c hjc hlt hcloses
  · exact hstays hcloses

/-- The imports of a Go file are the import lines and block openers outside of all blocks and the
lines behind an opener that is outside of all, up to the first closing parenthesis. So if all blocks
are closed, the anchor is no line of a block but its last, and a closing parenthesis outside of all
blocks is no import. -/
theorem go_blocks_exact (lines : List Text) :
    (∀ i line, lines[i]? = some line →
      ((Language.go.classify lines)[i]? = some .imports ↔
        Language.go.isImport line = true ∧ ¬ InBlock lines i ∨
        ∃ j < i, OpensAt lines j ∧ ¬ InBlock lines j ∧
          ∀ k, j < k → k < i → ¬ ClosesAt lines k)) ∧
    (BlocksClosed lines → ∀ k, anchor? .go lines = some k →
      ¬ (OpensAt lines k ∧ ¬ InBlock lines k) ∧ (InBlock lines k → ClosesAt lines k)) ∧
    ∀ i line, lines[i]? = some line → Text.trim line = [')'] → ¬ InBlock lines i →
      (Language.go.classify lines)[i]? = some .other := by
  refine ⟨fun i line hline => ?_, fun hclosed k hk => ?_, fun i line hline htrim hout => ?_⟩
  · rw [Language.getElem?_classify_go hline, ← Language.inBlock_iff]
    by_cases hin : InBlock lines i
    · simp [hin]
    · simp [hin, Language.kindOf_eq_imports_iff]
  · exact ⟨not_opener_of_anchor? hclosed hk, closesAt_of_anchor? hclosed hk⟩
  · rw [Language.getElem?_classify_go hline, if_neg hout, Language.kindOf_closer htrim]

theorem go_blocks_exact_nested :
    let lines := Text.splitLines
      "package a\n)\nimport (\n\t\"b\"\nimport (\n)\nvar c = f(\n)\n".toList
    BlocksClosed lines ∧ anchor? .go lines = some 5 ∧ InBlock lines 5 ∧ ClosesAt lines 5 ∧
    ¬ InBlock lines 7 ∧ (Language.go.classify lines)[7]? = some .other := by
  intro lines
  have hopeners : ∀ j < 8, OpensAt lines j → ¬ InBlock lines j → j < 5 ∧ ClosesAt lines 5 := by
    decide
  have hclosed : BlocksClosed lines :=
    fun j hopens hout => ⟨5, hopeners j hopens.lt_length hopens hout⟩
  obtain ⟨-, hanchor, houter⟩ := go_blocks_exact lines
  have hin : InBlock lines 5 := by decide
  have hout : ¬ InBlock lines 7 := by decide
  have hfive : anchor? .go lines = some 5 := by decide
  exact ⟨hclosed, hfive, hin, (hanchor hclosed 5 hfive).2 hin, hout,
    houter 7 ")\n".toList (by decide) (by decide) hout⟩

end Import

end Refit
