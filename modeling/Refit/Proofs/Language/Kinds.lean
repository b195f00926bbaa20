import Mathlib.Data.List.Basic
import Refit.Language
import Refit.Token

namespace Refit

/-- Some line of a text is a statement, up to blanks around it. -/
def Text.HasLine (statement content : Text) : Prop :=
  ∃ line ∈ Text.splitLines content, Text.trim line = statement

namespace Language

def kindedLines (l : Language) (content : Text) : List (Text × LineKind) :=
  (Text.splitLines content).zip (l.classify (Text.splitLines content))

def importTexts (l : Language) (content : Text) : List Text :=
  (l.kindedLines content).filterMap fun (line, kind) =>
    if kind = .imports then some (Text.trim line) else none

def importLines (l : Language) (content : Text) : List Text :=
  (l.kindedLines content).filterMap fun (line, kind) => if kind = .imports then some line else none

def OffImports (l : Language) (text content : Text) : Prop :=
  ∀ line ∈ l.importLines content, ¬ text <:+: line

/-- A token occurs on some line that imports nothing. -/
def Uses (l : Language) (marker content : Text) : Prop :=
  ∃ entry ∈ l.kindedLines content,
    entry.2 ≠ .imports ∧ (Token.mk marker).occursIn entry.1 = true

def Anchored (l : Language) (content : Text) : Prop :=
  ∃ entry ∈ l.kindedLines content, entry.2 ≠ .other

theorem kindOf_eq_imports_iff {l : Language} {line : Text} :
    l.kindOf line = .imports ↔ l.isImport line = true := by
  rw [kindOf]
  cases l.isImport line with
  | true => simp
  | false => cases l.isDeclaration line <;> simp

theorem length_classify (l : Language) (lines : List Text) :
    (l.classify lines).length = lines.length := by
  have hblocks : ∀ inBlock, (classifyBlocks inBlock lines).length = lines.length := by
    induction lines with
    | nil => exact fun _ => rfl
    | cons line lines ih =>
      intro inBlock
      rw [classifyBlocks]
      split
      · simp [ih]
      · split <;> simp [ih]
  cases l <;> simp [classify, hblocks]

theorem map_snd_kindedLines (l : Language) (content : Text) :
    (l.kindedLines content).map Prod.snd = l.classify (Text.splitLines content) :=
  List.map_snd_zip (Nat.le_of_eq (length_classify l _))

theorem importTexts_eq (l : Language) (content : Text) :
    l.importTexts content = (l.importLines content).map Text.trim := by
  rw [importTexts, importLines, List.map_filterMap]
  congr 1
  funext entry
  by_cases h : entry.2 = .imports <;> simp [h]

end Language

end Refit
