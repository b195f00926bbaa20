import Refit.Failure
import Refit.Language
import Refit.Rule
import Refit.Token

namespace Refit

structure Import where
  language : Language
  symbol : Text
  statement : Text
  marker : Text
  deriving Repr, DecidableEq

inductive Resolution
  | unused
  | present
  | inserted (line : Nat) (content : Text)
  deriving Repr, DecidableEq

namespace Import

def make? (language : Language) (symbol statement marker : Text) : Except Failure Import :=
  if Text.trim statement = [] ∨ marker = [] then
    .error (.invalid (.incompleteImport symbol))
  else .ok ⟨language, symbol, statement, marker⟩

def line (i : Import) : Text := Text.trim i.statement

def isUsed (i : Import) (content : Text) : Bool :=
  let lines := Text.splitLines content
  (lines.zip (i.language.classify lines)).any fun (line, kind) =>
    kind != .imports && (Token.mk i.marker).occursIn line

def isPresent (i : Import) (content : Text) : Bool :=
  (Text.splitLines content).any fun line => Text.trim line == i.line

def isMissing (i : Import) (content : Text) : Bool := !i.isPresent content && i.isUsed content

def lastIdxOf? (kind : LineKind) (kinds : List LineKind) : Option Nat :=
  (kinds.reverse.idxOf? kind).map fun k => kinds.length - 1 - k

def anchor? (language : Language) (lines : List Text) : Option Nat :=
  let kinds := language.classify lines
  (lastIdxOf? .imports kinds).or (kinds.idxOf? .declares)

/-- The lines with a new one behind the line `anchor`. The new line ends as the anchor does; an
anchor without a terminator gets `ending`, and then the new line has none. -/
def insertBehind (anchor : Nat) (new : Text) (ending : LineEnd) : List Text → List Text
  | [] => [new]
  | line :: lines =>
    match anchor with
    | k + 1 => line :: insertBehind k new ending lines
    | 0 =>
      match Text.lineEnd? line with
      | some e => line :: (new ++ e.text) :: lines
      | none => (line ++ ending.text) :: new :: lines

def resolve (i : Import) (content : Text) : Except Failure Resolution :=
  if !i.isUsed content then .ok .unused
  else if i.isPresent content then .ok .present
  else
    let lines := Text.splitLines content
    match anchor? i.language lines with
    | none => .error (.noAnchor i.line)
    | some k =>
      .ok (.inserted (k + 1) (insertBehind k i.line (Text.dominantLineEnd content) lines).flatten)

def removeUnused? (i : Import) (content : Text) : Option Text :=
  if i.isPresent content && !i.isUsed content then
    some ((Text.splitLines content).filter fun line => Text.trim line != i.line).flatten
  else none

end Import

namespace Rule

def addImport (i : Import) (t : Text) : Except Failure Text :=
  (i.resolve t).map fun
    | .inserted _ content => content
    | .unused | .present => t

def ensureImport (i : Import) : Rule where
  description := "Ensure '".toList ++ i.line ++ "'".toList
  applies := i.isMissing
  apply := addImport i

def removeUnusedImport (i : Import) : Rule where
  description := "Remove unused '".toList ++ i.line ++ "'".toList
  applies t := i.isPresent t && !i.isUsed t
  apply t := .ok ((i.removeUnused? t).getD t)

def ensureImport? (language : Language) (symbol statement marker : Text) : Except Failure Rule :=
  (Import.make? language symbol statement marker).map ensureImport

def removeUnusedImport? (language : Language) (statement marker : Text) : Except Failure Rule :=
  (Import.make? language marker statement marker).map removeUnusedImport

end Rule

end Refit
