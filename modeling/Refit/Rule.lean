import Refit.Failure
import Refit.Pattern

namespace Refit

structure Rule where
  description : Text
  applies : Text → Bool
  apply : Text → Except Failure Text

namespace Rule

/-- The text that a function makes of another, if making it twice changes nothing. -/
def settle (description : Text) (f : Text → Text) (t : Text) : Except Failure Text :=
  let once := f t
  if once = f once then .ok once else .error (.invalid (.unsettled description))

end Rule

namespace Rule

def properCuts : Text → List (Text × Text)
  | [] | [_] => []
  | c :: rest => ([c], rest) :: (properCuts rest).map fun (a, b) => (c :: a, b)

/-- Whether the needle may come about where a replacement meets the text around it. -/
def reforms (needle replacement : Text) : Bool :=
  !replacement.isEmpty &&
    ((replacement.length < needle.length && Text.hasInfix replacement needle) ||
      (properCuts needle).any fun (a, b) =>
        b.isPrefixOf replacement || a.isSuffixOf replacement)

def literal (needle replacement : Text) : Rule :=
  let description :=
    "Replace literal '".toList ++ needle ++ "' with '".toList ++ replacement ++ "'".toList
  { description
    applies := Text.hasInfix needle
    apply := settle description (Text.replaceAll needle replacement) }

def literal? (needle replacement : Text) : Except Failure Rule :=
  if needle = [] then .error (.invalid .emptyNeedle)
  else if Text.hasInfix needle replacement then
    .error (.invalid (.containsNeedle needle replacement))
  else if reforms needle replacement then .error (.invalid (.reformsNeedle needle replacement))
  else .ok (literal needle replacement)

def pattern (p : Pattern) (template : Text) : Rule :=
  let description :=
    "Replace pattern '".toList ++ p.source ++ "' with '".toList ++ template ++ "'".toList
  { description
    applies := p.occursIn
    apply := settle description (p.replaceAll template) }

def readPattern (source : Text) : Except Failure Pattern :=
  (Pattern.parse? source).mapError fun e => .pattern e.message

def anyPattern? (source template : Text) : Except Failure Rule :=
  (readPattern source).map fun p => pattern p template

def pattern? (source template : Text) : Except Failure Rule := do
  let p ← readPattern source
  if !template.contains '$' && p.occursIn template then
    throw (.invalid (.matchesReplacement source template))
  return pattern p template

end Rule

end Refit
