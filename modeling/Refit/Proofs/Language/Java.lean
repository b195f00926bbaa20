import Refit.Proofs.Call.Taking
import Refit.Proofs.Language.Kinds
import Refit.Proofs.Phrase.Matching

namespace Refit

open Text (Swapped Apart EndBlind)

variable {line line' content marker statement t : Text} {r : Rule.Retyping} {s : LineShape}

namespace LineShape

structure Statement (s : LineShape) : Prop where
  opens : s.whole = false
  ends : ∀ u, Phrase.Matches CharClass.contains s.phrase u → ∃ w, u = w ++ [';'] ∧ '>' ∉ w

theorem Statement.of_all {ps : List (Phrase CharClass)}
    (hlast : ps.getLast? = some (fixed ";"))
    (hclasses : (Phrase.all ps).classes.all fun k => !k.contains '>') :
    Statement ⟨.all ps, false⟩ where
  opens := rfl
  ends u hu := by
    obtain ⟨w, v, rfl, hv⟩ := Phrase.exists_of_matches_all hu hlast
    obtain ⟨c, hc, rfl⟩ := Phrase.matches_one.mp hv
    obtain rfl : ';' = c := eq_of_beq hc
    refine ⟨w, rfl, fun hw => ?_⟩
    obtain ⟨k, hk, hkc⟩ := hu.exists_class (List.mem_append_left _ hw)
    have := List.all_eq_true.mp hclasses k hk
    simp [hkc] at this

theorem Statement.accepts_iff (h : s.Statement) : s.accepts line = true ↔
    ∃ w v, line = w ++ ';' :: v ∧ '>' ∉ w ∧
      Phrase.Matches CharClass.contains s.phrase (w ++ [';']) := by
  rw [accepts, h.opens, if_neg (by decide), Phrase.matchesStart_iff]
  constructor
  · rintro ⟨u, v, rfl, hu⟩
    obtain ⟨w, rfl, hw⟩ := h.ends u hu
    exact ⟨w, v, by simp, hw, hu⟩
  · rintro ⟨w, v, rfl, -, hw⟩
    exact ⟨w ++ [';'], v, by simp, hw⟩

theorem Statement.accepts_append_lineEnd (h : s.Statement) (line : Text) (e : LineEnd) :
    s.accepts (line ++ e.text) = s.accepts line := by
  have hsemi : ';' ∉ e.text := by cases e <;> decide
  rw [Bool.eq_iff_iff, h.accepts_iff, h.accepts_iff]
  constructor
  · rintro ⟨w, v, hline, hw, hmatch⟩
    rcases List.append_eq_append_iff.mp hline with ⟨u, rfl, he⟩ | ⟨u, hu, hv⟩
    · exact absurd (by simp [he]) hsemi
    · cases u with
      | nil =>
        have hv : e.text = ';' :: v := by simpa using hv.symm
        exact absurd (hv ▸ List.mem_cons_self) hsemi
      | cons c u =>
        simp only [List.cons_append, List.cons.injEq] at hv
        obtain ⟨rfl, -⟩ := hv
        exact ⟨w, u, hu, hw, hmatch⟩
  · rintro ⟨w, v, rfl, hw, hmatch⟩
    exact ⟨w, v ++ e.text, by simp, hw, hmatch⟩

theorem Statement.accepts_of_swapped {a b : Text} (h : s.Statement) (hb : Apart b [';'])
    (hclosed : '>' ∈ b) (hs : Swapped a b line line') (ht : s.accepts line' = true) :
    s.accepts line = true := by
  obtain ⟨w, v, rfl, hw, hmatch⟩ := h.accepts_iff.mp ht
  have hs : Swapped a b line (w ++ ([';'] ++ v)) := hs
  obtain ⟨x, y, rfl, hx, -⟩ := hs.cut hb (by simp)
  obtain rfl := hx.eq_of_not_mem hclosed hw
  exact h.accepts_iff.mpr ⟨x, y, rfl, hw, hmatch⟩

theorem Statement.accepts_swapped (h : s.Statement) (hr : r.Generic)
    (hs : Swapped r.token.literal r.replacement line line') : s.accepts line = s.accepts line' := by
  rw [Bool.eq_iff_iff]
  constructor
  · exact h.accepts_of_swapped (.of_not_mem hr.left_ne (hr.left_foreign _ (by simp)))
      (List.mem_of_getLast? hr.left_closed) hs.symm
  · exact h.accepts_of_swapped (.of_not_mem hr.right_ne (hr.right_foreign _ (by simp)))
      (List.mem_of_getLast? hr.right_closed) hs

end LineShape

namespace Language

theorem java_statements : ∀ s ∈ java.importShapes ++ java.declarationShapes, s.Statement := by
  simp only [importShapes, declarationShapes, List.cons_append, List.nil_append, List.mem_cons,
    List.not_mem_nil, or_false, forall_eq_or_imp, forall_eq]
  exact ⟨.of_all rfl (by decide), .of_all rfl (by decide)⟩

theorem java_kindOf_congr (h : ∀ s : LineShape, s.Statement → s.accepts line = s.accepts line') :
    java.kindOf line = java.kindOf line' := by
  have hany : ∀ shapes : List LineShape, (∀ s ∈ shapes, s.Statement) →
      shapes.any (·.accepts line) = shapes.any (·.accepts line') := by
    intro shapes hshapes
    rw [Bool.eq_iff_iff, List.any_eq_true, List.any_eq_true]
    exact exists_congr fun s => and_congr_right fun hs => by rw [h s (hshapes s hs)]
  have himport : java.isImport line = java.isImport line' :=
    hany _ fun s hs => java_statements s (List.mem_append_left _ hs)
  have hdeclaration : java.isDeclaration line = java.isDeclaration line' :=
    hany _ fun s hs => java_statements s (List.mem_append_right _ hs)
  rw [kindOf, kindOf, himport, hdeclaration]

theorem java_kindOf_append_lineEnd (line : Text) (e : LineEnd) :
    java.kindOf (line ++ e.text) = java.kindOf line :=
  java_kindOf_congr fun _ hs => hs.accepts_append_lineEnd line e

theorem java_kindOf_swapped (hr : r.Generic)
    (hs : Swapped r.token.literal r.replacement line line') :
    java.kindOf line = java.kindOf line' :=
  java_kindOf_congr fun _ h => h.accepts_swapped hr hs

def usesOn (l : Language) (marker line : Text) : Bool :=
  l.kindOf line != .imports && (Token.mk marker).occursIn line

theorem java_kindedLines (content : Text) : java.kindedLines content =
    (Text.splitLines content).map fun line => (line, java.kindOf line) :=
  List.map_prod_left_eq_zip.symm

theorem java_uses_iff : java.Uses marker content ↔
    ∃ line ∈ Text.splitLines content, java.usesOn marker line = true := by
  simp [Uses, java_kindedLines, usesOn]

theorem java_importLines (content : Text) : java.importLines content =
    (Text.splitLines content).filter fun line => java.kindOf line == .imports := by
  rw [importLines, java_kindedLines, List.filterMap_map, ← List.filterMap_eq_filter]
  congr 1
  funext line
  simp [Option.guard]

theorem java_importLines_swapped (hr : r.Generic)
    (hs : Swapped r.token.literal r.replacement content t)
    (hoff : java.OffImports r.token.literal content) :
    java.importLines t = java.importLines content := by
  have hlines := hs.splitLines hr.left_ne hr.right_ne (hr.left_foreign _ (by simp))
    (hr.right_foreign _ (by simp))
  rw [OffImports] at hoff
  rw [java_importLines] at hoff ⊢
  rw [java_importLines]
  generalize Text.splitLines content = lines at hlines hoff ⊢
  generalize Text.splitLines t = lines' at hlines ⊢
  induction hlines with
  | nil => rfl
  | @cons line line' lines lines' hline _ ih =>
    have hkind := java_kindOf_swapped hr hline
    rw [List.filter_cons] at hoff
    rw [List.filter_cons, List.filter_cons, ← hkind]
    cases hi : java.kindOf line == .imports with
    | true =>
      simp only [hi, if_true, List.mem_cons, forall_eq_or_imp] at hoff ⊢
      rw [ih hoff.2, hline.eq_of_not_infix hoff.1]
    | false =>
      simp only [hi, Bool.false_eq_true, if_false] at hoff ⊢
      exact ih hoff

theorem java_anchored_iff : java.Anchored content ↔
    ∃ line ∈ Text.splitLines content, (java.kindOf line != .other) = true := by
  simp [Anchored, java_kindedLines]

theorem java_anchored_swapped (hr : r.Generic)
    (hs : Swapped r.token.literal r.replacement content t) :
    java.Anchored t ↔ java.Anchored content := by
  have hlines := hs.splitLines hr.left_ne hr.right_ne (hr.left_foreign _ (by simp))
    (hr.right_foreign _ (by simp))
  rw [java_anchored_iff, java_anchored_iff]
  generalize Text.splitLines content = lines at hlines ⊢
  generalize Text.splitLines t = lines' at hlines ⊢
  induction hlines with
  | nil => simp
  | cons hline _ ih => simp only [List.exists_mem_cons_iff, ih, java_kindOf_swapped hr hline]

theorem java_count_importTexts (content statement : Text) :
    (java.importTexts content).count statement = (Text.splitLines content).countP fun line =>
      java.kindOf line == .imports && Text.trim line == statement := by
  rw [importTexts, java_kindedLines]
  induction Text.splitLines content with
  | nil => rfl
  | cons line lines ih =>
    rw [List.map_cons, List.countP_cons, ← ih, List.filterMap_cons]
    by_cases hkind : java.kindOf line = .imports
    · simp [hkind, List.count_cons]
    · simp [hkind]

theorem endBlind_kindOf (test : LineKind → Bool) :
    EndBlind fun line => test (java.kindOf line) := by
  intro line e
  simp only [java_kindOf_append_lineEnd]

theorem endBlind_usesOn (hne : marker ≠ []) (hr : '\r' ∉ marker) (hn : '\n' ∉ marker) :
    EndBlind (java.usesOn marker) := by
  intro line e
  rw [usesOn, usesOn, java_kindOf_append_lineEnd, Token.occursIn_append_lineEnd hne hr hn]

end Language

end Refit
