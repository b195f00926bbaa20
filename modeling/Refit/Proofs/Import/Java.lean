import Refit.Proofs.Import.Effect
import Refit.Proofs.Language.Java
import Refit.Proofs.Pipeline.Guard

namespace Refit

open Refit.Language (java)
open Text (HasLine splitLines)

variable {i j : Import} {t statement : Text} {ls : List Text} {p : Progress}

namespace Import

/-- An import of Java whose statement is one line, with a marker on one line. -/
structure Sound (i : Import) : Prop where
  language_eq : i.language = java
  kind : java.kindOf i.line = .imports
  trimmed : Text.trim i.line = i.line
  flat : '\n' ∉ i.line
  marker_ne : i.marker ≠ []
  marker_cr : '\r' ∉ i.marker
  marker_lf : '\n' ∉ i.marker

theorem Sound.line_ne (hi : i.Sound) : i.line ≠ [] := by
  intro h
  have := hi.kind
  rw [h] at this
  exact absurd this (by decide)

theorem offImports_iff : java.OffImports statement t ↔ ¬ ∃ line ∈ splitLines t,
    (java.kindOf line == .imports && Text.hasInfix statement line) = true := by
  simp [Language.OffImports, Language.java_importLines, ← Text.hasInfix_iff]

section Inserted

variable (hi : i.Sound) (h : Inserted i.line (splitLines t) ls)
include hi h

theorem Sound.splitLines_inserted : splitLines ls.flatten = ls :=
  (h.areLines (Text.areLines_splitLines t) hi.line_ne hi.flat).splitLines_flatten

theorem Sound.uses_inserted (hj : j.Sound) :
    java.Uses j.marker ls.flatten ↔ java.Uses j.marker t := by
  rw [Language.java_uses_iff, Language.java_uses_iff, hi.splitLines_inserted h,
    h.exists_iff (Language.endBlind_usesOn hj.marker_ne hj.marker_cr hj.marker_lf)]
  simp [Language.usesOn, hi.kind]

theorem Sound.hasLine_inserted :
    HasLine statement ls.flatten ↔ HasLine statement t ∨ i.line = statement := by
  have := h.exists_iff (Text.endBlind_trim statement)
  simpa [HasLine, hi.splitLines_inserted h, hi.trimmed] using this

theorem Sound.anchored_inserted : java.Anchored ls.flatten := by
  rw [Language.java_anchored_iff, hi.splitLines_inserted h,
    h.exists_iff (Language.endBlind_kindOf (· != .other)), hi.kind]
  exact .inr rfl

theorem Sound.noNewRepeats_inserted (hn : ¬ HasLine i.line t) :
    Pipeline.NoNewRepeats java t ls.flatten := by
  intro line
  have hblind : Text.EndBlind fun u => java.kindOf u == .imports && Text.trim u == line := by
    intro u e
    simp only [Language.java_kindOf_append_lineEnd, Text.trim_append_lineEnd]
  rw [Language.java_count_importTexts, Language.java_count_importTexts, hi.splitLines_inserted h,
    h.countP_eq hblind]
  by_cases hline : i.line = line
  · -- The new line was not there before, so it is not there twice.
    have hzero : (splitLines t).countP
        (fun u => java.kindOf u == .imports && Text.trim u == line) = 0 := by
      rw [List.countP_eq_zero]
      intro u hu htest
      simp only [Bool.and_eq_true, beq_iff_eq] at htest
      exact hn ⟨u, hu, htest.2.trans hline.symm⟩
    rw [hzero]
    split <;> simp
  · have hnew : (java.kindOf i.line == .imports && Text.trim i.line == line) = false := by
      simp [hi.trimmed, hline]
    simp [hnew]

theorem Sound.offImports_inserted (hnew : ¬ statement <:+: i.line) (hr : '\r' ∉ statement)
    (hn : '\n' ∉ statement) (hne : statement ≠ []) (hoff : java.OffImports statement t) :
    java.OffImports statement ls.flatten := by
  have hblind : Text.EndBlind fun u => java.kindOf u == .imports && Text.hasInfix statement u := by
    intro u e
    simp only [Language.java_kindOf_append_lineEnd]
    congr 1
    rw [Bool.eq_iff_iff, Text.hasInfix_iff, Text.hasInfix_iff, Text.infix_append_lineEnd hne hr hn]
  rw [offImports_iff, hi.splitLines_inserted h, h.exists_iff hblind, not_or]
  refine ⟨offImports_iff.mp hoff, ?_⟩
  rw [Bool.and_eq_true, not_and, Text.hasInfix_iff]
  exact fun _ => hnew

end Inserted

theorem takes_of_inserted {m type : Token} (h : Inserted i.line (splitLines t) ls)
    (hm : Call.Plain m)
    (hline : Call.Separate i.line) (htype : type.occursIn i.line = false)
    (hne : type.literal ≠ []) (hr : '\r' ∉ type.literal) (hn : '\n' ∉ type.literal)
    (htakes : Call.Takes m type ls.flatten) : Call.Takes m type t := by
  rw [← Text.flatten_splitLines t]
  generalize splitLines t = lines at h
  cases h with
  | @ended line u v e he =>
    obtain ⟨x, rfl⟩ := Text.exists_of_lineEnd? he
    have hnew : type.occursIn (i.line ++ e.lead) = false := by
      rwa [Token.occursIn_append_lead hne hr]
    have htakes : Call.Takes m type
        ((u.flatten ++ (x ++ e.lead)) ++ '\n' :: ((i.line ++ e.lead) ++ '\n' :: v.flatten)) := by
      simpa [e.text_eq] using htakes
    simpa [e.text_eq] using htakes.of_line hm (hline.append_lead e) hnew hn
  | @last line u e hn =>
    have hclose : ')' ∉ e.text ++ i.line := by
      cases e <;> simp [LineEnd.text, hline.closes]
    refine Call.Takes.of_append (b := e.text ++ i.line) ?_ hclose
    simpa using htakes

theorem offImports_without (hoff : java.OffImports statement t) :
    java.OffImports statement (i.without t) := by
  rw [offImports_iff, splitLines_without]
  intro h
  obtain ⟨line, hline, htest⟩ := h
  exact offImports_iff.mp hoff ⟨line, List.mem_of_mem_filter hline, htest⟩

theorem uses_of_without {marker : Text} (h : java.Uses marker (i.without t)) :
    java.Uses marker t := by
  rw [Language.java_uses_iff, splitLines_without] at h
  obtain ⟨line, hline, huses⟩ := h
  exact Language.java_uses_iff.mpr ⟨line, List.mem_of_mem_filter hline, huses⟩

theorem anchored_of_without (h : java.Anchored (i.without t)) : java.Anchored t := by
  rw [Language.java_anchored_iff, splitLines_without] at h
  obtain ⟨line, hline, hkind⟩ := h
  exact Language.java_anchored_iff.mpr ⟨line, List.mem_of_mem_filter hline, hkind⟩

theorem noNewRepeats_without (i : Import) (t : Text) :
    Pipeline.NoNewRepeats java t (i.without t) := by
  intro line hline
  rw [Language.java_count_importTexts, splitLines_without] at hline
  rw [Language.java_count_importTexts]
  exact Nat.lt_of_lt_of_le hline List.filter_sublist.countP_le

end Import

namespace Pipeline

open Import (Inserted)
open Rule (ensureImport removeUnusedImport)

theorem step_ensureImport (hi : i.Sound) (p : Progress) :
    (i.isMissing p.content = false ∧ step (some java) p (ensureImport i) = p) ∨
    (¬ java.Anchored p.content ∧ step (some java) p (ensureImport i) =
      { p with warnings := p.warnings ++ [⟨(ensureImport i).description, .noAnchor i.line⟩] }) ∨
    (i.isMissing p.content = true ∧ java.Anchored p.content ∧
      ∃ ls, Inserted i.line (splitLines p.content) ls ∧
        step (some java) p (ensureImport i) = { p with
          content := ls.flatten
          applied := p.applied ++ [(ensureImport i).description] }) := by
  have happly : (ensureImport i).apply = Rule.addImport i := rfl
  have happlies : (ensureImport i).applies = i.isMissing := rfl
  rw [step, happly, happlies, ← hi.language_eq]
  rcases Rule.addImport_cases i p.content with
    ⟨hmissing, -⟩ | ⟨hmissing, hanchor, herror⟩ | ⟨hmissing, hanchor, ls, hls, hok⟩
  · exact .inl ⟨hmissing, by simp [hmissing]⟩
  · exact .inr (.inl ⟨hanchor, by simp [hmissing, herror, bind, Except.bind]⟩)
  · have hcheck : check (some i.language) p.content ls.flatten = .ok ls.flatten := by
      refine check_eq_ok_iff.mpr ⟨rfl, ?_⟩
      rw [hi.language_eq]
      exact hi.noNewRepeats_inserted hls (Import.isMissing_iff.mp hmissing).1
    have hne : ls.flatten ≠ p.content := by
      intro heq
      have := hls.length_lt hi.line_ne
      rw [heq, Text.flatten_splitLines] at this
      exact Nat.lt_irrefl _ this
    refine .inr (.inr ⟨hmissing, hanchor, ls, hls, ?_⟩)
    simp [hmissing, hok, bind, Except.bind, hcheck, hne]

theorem step_removeUnusedImport (hi : i.Sound) (p : Progress) :
    ((HasLine i.line p.content → java.Uses i.marker p.content) ∧
      step (some java) p (removeUnusedImport i) = p) ∨
    (HasLine i.line p.content ∧ ¬ java.Uses i.marker p.content ∧
      step (some java) p (removeUnusedImport i) =
      { p with
        content := i.without p.content
        applied := p.applied ++ [(removeUnusedImport i).description] }) := by
  have happly : (removeUnusedImport i).apply = fun t => .ok ((i.removeUnused? t).getD t) := rfl
  have happlies : (removeUnusedImport i).applies = fun t => i.isPresent t && !i.isUsed t := rfl
  rw [step, happly, happlies]
  cases htest : i.isPresent p.content && !i.isUsed p.content with
  | false =>
    refine .inl ⟨fun hline => ?_, by simp [htest]⟩
    rw [Import.isPresent_iff.mpr hline, Bool.true_and, Bool.not_eq_false', Import.isUsed_iff,
      hi.language_eq] at htest
    exact htest
  | true =>
    obtain ⟨hpresent, hunused⟩ := Bool.and_eq_true_iff.mp htest
    have hne := Import.without_ne (Import.isPresent_iff.mp hpresent)
    have hcheck : check (some java) p.content (i.without p.content) = .ok (i.without p.content) :=
      check_eq_ok_iff.mpr ⟨rfl, Import.noNewRepeats_without i p.content⟩
    refine .inr ⟨Import.isPresent_iff.mp hpresent, ?_, by
      simp [htest, Import.removeUnused?_eq_some htest, bind, Except.bind, hcheck, hne]⟩
    rw [← hi.language_eq, ← Import.isUsed_iff]
    simpa using hunused

end Pipeline

end Refit
