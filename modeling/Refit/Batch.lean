import Refit.Diff
import Refit.Pipeline
import Refit.Source

namespace Refit

inductive Severity
  | warning
  | error
  deriving Repr, DecidableEq

def Severity.name : Severity → String
  | warning => "warning"
  | error => "error"

structure Diagnostic where
  path : Path
  severity : Severity
  message : Text
  deriving Repr, DecidableEq

def Diagnostic.text (d : Diagnostic) : Text :=
  d.path.spelling ++ ": ".toList ++ d.severity.name.toList ++ ": ".toList ++ d.message

structure Change where
  path : Path
  before : Text
  after : Text
  deriving Repr, DecidableEq

def Change.isModified (c : Change) : Bool := c.before != c.after

structure Summary where
  scanned : Nat := 0
  changed : Nat := 0
  applications : Nat := 0
  failed : Nat := 0
  diagnostics : List Diagnostic := []
  changes : List Change := []
  changedPaths : List Path := []
  deriving Repr, DecidableEq

namespace Summary

/-- Two summaries as one. A file that both have changed is counted once. -/
def merge (a b : Summary) : Summary where
  scanned := a.scanned + b.scanned
  changed :=
    a.changed + (b.changed - (b.changedPaths.filter fun p => a.changedPaths.any p.same).length)
  applications := a.applications + b.applications
  failed := a.failed + b.failed
  diagnostics := a.diagnostics ++ b.diagnostics
  changes := a.changes ++ b.changes
  changedPaths := b.changedPaths.foldl (fun ps p => p.insertSorted ps) a.changedPaths

def stats (s : Summary) : Diff.Stats :=
  s.changes.foldl (fun acc c => acc.merge (.ofTexts c.before c.after)) {}

def diff (coloured : Bool) (s : Summary) : Text :=
  Text.join ['\n'] ((s.changes.filter Change.isModified).map fun c =>
    Diff.render coloured c.before c.after c.path)

def message (s : Summary) : Text :=
  "Fixed ".toList ++ Text.ofNat s.applications ++ " imports in ".toList ++ Text.ofNat s.changed ++
    " files".toList ++
      if s.failed = 0 then [] else " (".toList ++ Text.ofNat s.failed ++ " failed)".toList

end Summary

structure Batch where
  pipeline : Pipeline
  dryRun : Bool := false

namespace Batch

variable {σ : Type}

def file (b : Batch) (src : Source σ) (sum : Summary) (s : σ) (p : Path) :
    Summary × σ × Option Failure :=
  match src.read s p with
  | .error e => (sum, s, some e)
  | .ok content =>
    let outcome := b.pipeline.transform content
    let warned := { sum with
      diagnostics := sum.diagnostics ++ outcome.warnings.map fun w => ⟨p, .warning, w.message⟩ }
    if !outcome.changed then (warned, s, none)
    else
      let counted := { warned with
        changed := sum.changed + 1
        applications := sum.applications + outcome.applied.length
        changedPaths := p.insertSorted sum.changedPaths }
      if b.dryRun then
        ({ counted with changes := sum.changes ++ [⟨p, content, outcome.content⟩] }, s, none)
      else
        match src.write s p outcome.content with
        | .error e => (warned, s, some e)
        | .ok s => (counted, s, none)

def files (b : Batch) (src : Source σ) : Summary → σ → List Path → Except Failure Summary × σ
  | sum, s, [] => (.ok sum, s)
  | sum, s, p :: ps =>
    match b.file src { sum with scanned := sum.scanned + 1 } s p with
    | (sum, s, none) => b.files src sum s ps
    | (sum, s, some e) =>
      if e.recoverable then
        b.files src { sum with
          failed := sum.failed + 1
          diagnostics := sum.diagnostics ++ [⟨p, .error, e.message⟩] } s ps
      else (.error e, s)

/-- All files of a source: the summary, or what ended the batch, and the source behind it. -/
def run (b : Batch) (src : Source σ) (s : σ) : Except Failure Summary × σ :=
  match src.list s with
  | .error e => (.error e, s)
  | .ok ps => b.files src {} s ps

end Batch

end Refit
