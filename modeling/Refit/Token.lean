import Refit.Text.Category

namespace Refit

structure Token where
  literal : Text
  deriving Repr, DecidableEq

namespace Token

/-- Whether an end of a literal with this character has to stand at a word boundary. -/
def bindsAt (c : Char) : Bool := isAlphanumeric c || c == '_'

def occursAt (t : Token) (before : Option Char) (rest : Text) : Bool :=
  match Text.dropStart? t.literal rest with
  | none => false
  | some behind =>
    (!t.literal.head?.any bindsAt || isWordBoundary before rest.head?) &&
      (!t.literal.getLast?.any bindsAt || isWordBoundary t.literal.getLast? behind.head?)

def finder (t : Token) : Text.Finder Unit := fun before rest =>
  if t.occursAt before rest then some (t.literal.length, ()) else none

def occursIn (t : Token) (text : Text) : Bool := Text.anyPosition t.occursAt none text

def replaceIn (t : Token) (replacement text : Text) : Text :=
  Text.replaceHits t.finder (fun _ => replacement) text

def metaCharacters : List Char :=
  ['\\', '.', '+', '*', '?', '(', ')', '|', '[', ']', '\x7b', '\x7d', '^', '$', '#', '&', '-', '~']

def escape (literal : Text) : Text :=
  literal.flatMap fun c => if metaCharacters.contains c then ['\\', c] else [c]

def pattern (t : Token) : Text :=
  let boundary (c? : Option Char) : Text := if c?.any bindsAt then ['\\', 'b'] else []
  boundary t.literal.head? ++ escape t.literal ++ boundary t.literal.getLast?

end Token

end Refit
