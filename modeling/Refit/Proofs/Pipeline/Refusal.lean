import Refit.Proofs.Import.Landing
import Refit.Rule

namespace Refit

open LineShape Phrase
open Text (AreLines splitLines)

namespace Language

variable {t : Text} {ts lines : List Text} {content : Text}

def quotedPath (quote : Char) : Phrase CharClass :=
  .all [.one (.char quote), .plus (.one (.except [quote])), .one (.char quote)]

/-- The text of an import of Go: a path in quotes, perhaps behind the word for imports and behind a
dot or a name of its own. -/
def goImport : LineShape :=
  ⟨.all [opt (.all [fixed "import", blanks]), opt (.all [.alt (words []) (fixed "."), blanks]),
    .alt (quotedPath '"') (quotedPath nameQuote)], false⟩

def openBlock (ts : List Text) : Text :=
  ("import (\n".toList :: ts.map (· ++ ['\n'])).flatten

theorem splitLines_openBlock (h : ∀ t ∈ ts, '\n' ∉ t) :
    splitLines (openBlock ts) = "import (\n".toList :: ts.map (· ++ ['\n']) := by
  have hlines : AreLines (ts.map (· ++ ['\n'])) := by
    induction ts with
    | nil => exact .nil
    | cons t ts ih =>
      obtain ⟨ht, hts⟩ := List.forall_mem_cons.mp h
      exact .cons ht (ih hts)
  exact (AreLines.cons (u := "import (".toList) (by decide) hlines).splitLines_flatten

theorem filterMap_classifyFrom_go (h : ∀ line ∈ lines, Text.trim line ≠ [')']) :
    ((lines.zip (go.classifyFrom true lines)).filterMap fun (line, kind) =>
      if kind = .imports then some (Text.trim line) else none) = lines.map Text.trim := by
  induction lines with
  | nil => rfl
  | cons line lines ih =>
    obtain ⟨hline, hlines⟩ := List.forall_mem_cons.mp h
    have hopen : go.opens true line = true := by simpa [opens] using hline
    rw [classifyFrom, hopen, List.zip_cons_cons, List.filterMap_cons, ih hlines, List.map_cons]
    simp only [if_true]

theorem importTexts_openBlock (htrim : ∀ t ∈ ts, Text.trim t = t) (hn : ∀ t ∈ ts, '\n' ∉ t)
    (hclose : ∀ t ∈ ts, t ≠ [')']) :
    go.importTexts (openBlock ts) = "import (".toList :: ts := by
  have hline : ∀ t ∈ ts, Text.trim (t ++ ['\n']) = t := by
    intro t ht
    exact (Text.trim_append_lineEnd t .lf).trans (htrim t ht)
  have hnot : ∀ line ∈ ts.map (· ++ ['\n']), Text.trim line ≠ [')'] := by
    intro line hmem
    obtain ⟨t, ht, rfl⟩ := List.mem_map.mp hmem
    rw [hline t ht]
    exact hclose t ht
  have hopener : go.opens false "import (\n".toList = true := by decide
  have hkind : go.kindOf "import (\n".toList = .imports := by decide
  have htext : Text.trim "import (\n".toList = "import (".toList := by decide
  have hmap : (ts.map (· ++ ['\n'])).map Text.trim = ts := by
    rw [List.map_map]
    exact (List.map_congr_left hline).trans (List.map_id ts)
  rw [importTexts, kindedLines, splitLines_openBlock hn, classify_eq, classifyFrom, hopener, hkind,
    ite_self, List.zip_cons_cons, List.filterMap_cons_some (b := "import (".toList),
    filterMap_classifyFrom_go hnot, hmap]
  simp only [if_true, htext]

theorem flat_of_mem_importTexts {l : Language} (h : t ∈ l.importTexts content) :
    Text.trim t = t ∧ '\n' ∉ t := by
  obtain ⟨line, hline, rfl⟩ := hasLine_of_mem_importTexts h
  exact ⟨Text.trim_trim line, (Text.areLines_splitLines content).not_mem_trim hline⟩

end Language

namespace Pipeline

open Refit.Language (go goImport openBlock)

variable {l : Language} {p : Progress} {r : Rule} {before after t : Text}

theorem check_cases (l : Language) (before after : Text) :
    (check (some l) before after = .ok after ∧ NoNewRepeats l before after) ∨
    ∃ t, check (some l) before after = .error (.duplicateImport t) ∧
      1 < (l.importTexts after).count t ∧ (l.importTexts before).count t ≤ 1 := by
  cases hcheck : check (some l) before after with
  | ok t =>
    obtain ⟨rfl, hnone⟩ := check_eq_ok_iff.mp hcheck
    exact .inl ⟨rfl, hnone⟩
  | error e =>
    rw [check] at hcheck
    split at hcheck
    · next t ht =>
      have hmem := mem_duplicates.mp (List.mem_of_find?_eq_some ht)
      have hnew : t ∉ duplicates l before := by simpa using List.find?_some ht
      rw [mem_duplicates, Nat.not_lt] at hnew
      exact .inr ⟨t, hcheck.symm, hmem, hnew⟩
    · cases hcheck

structure Refused (l : Language) (p : Progress) (r : Rule) (after t : Text) : Prop where
  applies : r.applies p.content = true
  apply : r.apply p.content = .ok after
  step : step (some l) p r =
    { p with warnings := p.warnings ++ [⟨r.description, .duplicateImport t⟩] }

theorem refused_iff (happlies : r.applies p.content = true)
    (happly : r.apply p.content = .ok after) :
    Refused l p r after t ↔ check (some l) p.content after = .error (.duplicateImport t) := by
  have hguard : (r.apply p.content >>= check (some l) p.content) =
      check (some l) p.content after := by
    rw [happly]
    rfl
  constructor
  · rintro ⟨-, -, hstep⟩
    have hwarnings := congrArg Progress.warnings hstep
    rcases step_cases (some l) p r with ⟨hs, -⟩ | ⟨-, u, -, -, -, hs⟩ | ⟨-, e, he, hs⟩
    · simp [hs] at hwarnings
    · simp [hs] at hwarnings
    · have he' : e = .duplicateImport t := by simpa [hs] using hwarnings
      rw [← hguard, he, he']
  · intro hcheck
    refine ⟨happlies, happly, ?_⟩
    rw [Pipeline.step, happlies, hguard, hcheck]
    rfl

/-- The guard names imports of Go only, whatever rule has made a text of whatever other, exactly if
no other line that it takes for an import is repeated in that text. What it names stands on several
lines of the text, and did not before. -/
theorem refusals_name_imports_iff (after : Text) :
    ((∀ p r t, Refused go p r after t → goImport.accepts t = true) ↔
      ∀ t, 1 < (go.importTexts after).count t → goImport.accepts t = true) ∧
    ∀ p r t, Refused go p r after t →
      1 < (go.importTexts after).count t ∧ (go.importTexts p.content).count t ≤ 1 := by
  have hrepeats : ∀ p r t, Refused go p r after t →
      1 < (go.importTexts after).count t ∧ (go.importTexts p.content).count t ≤ 1 := by
    intro p r t h
    have hcheck := (refused_iff h.applies h.apply).mp h
    rcases check_cases go p.content after with ⟨hok, -⟩ | ⟨u, herror, hu⟩
    · cases hok.symm.trans hcheck
    · obtain rfl := Failure.duplicateImport.inj (Except.error.inj (herror.symm.trans hcheck))
      exact hu
  refine ⟨⟨fun h t ht => ?_, fun h p r t hrefused => h t (hrepeats p r t hrefused).1⟩, hrepeats⟩
  -- A text in which all imports of `after` are repeated already, but no other line is.
  let named := (go.importTexts after).filter goImport.accepts
  let before := openBlock (named ++ named)
  have hnamed : ∀ u ∈ named ++ named, u ∈ go.importTexts after ∧ goImport.accepts u = true := by
    intro u hu
    rw [List.mem_append, or_self] at hu
    exact List.mem_filter.mp hu
  have hbefore : go.importTexts before = "import (".toList :: (named ++ named) := by
    refine Language.importTexts_openBlock ?_ ?_ ?_
    · exact fun u hu => (Language.flat_of_mem_importTexts (hnamed u hu).1).1
    · exact fun u hu => (Language.flat_of_mem_importTexts (hnamed u hu).1).2
    · rintro u hu rfl
      exact absurd (hnamed _ hu).2 (by decide)
  by_contra hplain
  let r : Rule := ⟨[], fun _ => true, fun _ => .ok after⟩
  have hrefused {u : Text} : Refused go { content := before } r after u ↔ _ := refused_iff rfl rfl
  have hcount {u : Text} (hu : u ∉ named) : (go.importTexts before).count u ≤ 1 := by
    rw [hbefore, List.count_cons, List.count_eq_zero.mpr (by simpa using hu)]
    split <;> omega
  rcases check_cases go before after with ⟨-, hnone⟩ | ⟨u, herror, hu, hfew⟩
  · have hnot : t ∉ named := fun hmem => hplain (List.mem_filter.mp hmem).2
    exact absurd (hnone t ht) (Nat.not_lt.mpr (hcount hnot))
  · have haccepts := h _ r u (hrefused.mpr herror)
    have hmem : u ∈ named :=
      List.mem_filter.mpr ⟨List.count_pos_iff.mp (Nat.lt_of_succ_lt hu), haccepts⟩
    have hpos := List.count_pos_iff.mpr hmem
    rw [hbefore, List.count_cons, List.count_append] at hfew
    omega

def twoImports : Text := "import (\n\t\"fmt\"\n\n\t\"old/b\"\n)\n".toList

/-- The second empty line of a block is refused, though all imports differ. -/
theorem refuses_empty_line : ∃ r,
    Rule.literal? "old/b".toList "new/b\"\n\n\t\"new/c".toList = .ok r ∧
    Refused go { content := twoImports } r
      "import (\n\t\"fmt\"\n\n\t\"new/b\"\n\n\t\"new/c\"\n)\n".toList [] ∧
    goImport.accepts [] = false := by
  let r := Rule.literal "old/b".toList "new/b\"\n\n\t\"new/c".toList
  let after := "import (\n\t\"fmt\"\n\n\t\"new/b\"\n\n\t\"new/c\"\n)\n".toList
  have happlies : r.applies twoImports = true := by decide
  have happly : r.apply twoImports = .ok after := by decide +kernel
  have hcheck : check (some go) twoImports after = .error (.duplicateImport []) := by
    decide +kernel
  exact ⟨r, rfl, (refused_iff happlies happly).mpr hcheck, by decide⟩

end Pipeline

end Refit
