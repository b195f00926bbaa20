import Refit.Language
import Refit.Path
import Refit.Rule
import Refit.Text.Lines

namespace Refit

structure Document where
  path : Path
  content : Text
  lines : List Text
  deriving Repr

namespace Document

def ofContent (p : Path) (content : Text) : Document := ⟨p, content, Text.splitLines content⟩

def setContent (d : Document) (content : Text) : Document :=
  { d with content, lines := Text.splitLines content }

def setLines (d : Document) (lines : List Text) : Document :=
  { d with content := lines.flatten, lines }

@[simp] theorem setContent_setContent (d : Document) (c c' : Text) :
    (d.setContent c).setContent c' = d.setContent c' := rfl

/-- Documents are the same if their paths are, with the same content in the same lines. -/
instance : BEq Document where
  beq a b := a.path.same b.path && a.content == b.content && a.lines == b.lines

end Document

structure Pipeline where
  rules : List Rule := []
  guard : Option Language := none

structure Warning where
  rule : Text
  failure : Failure
  deriving Repr, DecidableEq

def Warning.message (w : Warning) : Text := w.rule ++ ": ".toList ++ w.failure.message

structure Progress where
  content : Text
  applied : List Text := []
  warnings : List Warning := []
  deriving Repr, DecidableEq

structure Outcome extends Progress where
  changed : Bool
  deriving Repr, DecidableEq

namespace Pipeline

def duplicates (l : Language) (content : Text) : List Text :=
  let lines := Text.splitLines content
  let imports := (lines.zip (l.classify lines)).filterMap fun (line, kind) =>
    if kind = .imports then some (Text.trim line) else none
  Text.sortDistinct (imports.filter fun line => 1 < imports.count line)

/-- Refuses a new text that has an import twice which the old text has not twice. -/
def check (guard : Option Language) (before after : Text) : Except Failure Text :=
  match guard with
  | none => .ok after
  | some l =>
    let existing := duplicates l before
    match (duplicates l after).find? fun line => !existing.contains line with
    | some line => .error (.duplicateImport line)
    | none => .ok after

def step (guard : Option Language) (p : Progress) (r : Rule) : Progress :=
  if !r.applies p.content then p
  else
    match r.apply p.content >>= check guard p.content with
    | .error e => { p with warnings := p.warnings ++ [⟨r.description, e⟩] }
    | .ok t =>
      if t = p.content then p
      else { p with content := t, applied := p.applied ++ [r.description] }

def transform (p : Pipeline) (content : Text) : Outcome :=
  let done := p.rules.foldl (step p.guard) { content }
  { done with changed := done.content != content }

/-- One rule over a document: a text that differs from its content becomes its content. -/
def stepOver (guard : Option Language) (s : Progress × Document) (r : Rule) :
    Progress × Document :=
  let next := step guard s.1 r
  (next, if next.content = s.2.content then s.2 else s.2.setContent next.content)

def run (p : Pipeline) (d : Document) : Outcome × Document :=
  let (done, after) := p.rules.foldl (stepOver p.guard) ({ content := d.content }, d)
  ({ done with changed := after.content != d.content }, after)

def describe (p : Pipeline) : List Text := p.rules.map Rule.description

end Pipeline

end Refit
