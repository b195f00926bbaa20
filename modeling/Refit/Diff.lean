import Refit.Diff.Script
import Refit.Diff.Shortest
import Refit.Diff.Tidy
import Refit.Path

namespace Refit.Diff

/-- Cuts a text behind each line feed, each carriage return, and each pair of both. -/
def lines : Text → List Text
  | [] => []
  | c :: rest =>
    if c = '\n' || (c = '\r' && rest.head? != some '\n') then [c] :: lines rest
    else
      match lines rest with
      | [] => [[c]]
      | l :: ls => (c :: l) :: ls

def ofTexts (before after : Text) : Script Text := tidy (script (lines before) (lines after))

def contextLines : Nat := 3

inductive Colour
  | red
  | green
  | cyan
  deriving Repr, DecidableEq

def Colour.on : Colour → Text
  | red => "\x1b[31m".toList
  | green => "\x1b[32m".toList
  | cyan => "\x1b[36m".toList

def paint (coloured : Bool) (k : Colour) (t : Text) : Text :=
  if coloured then k.on ++ t ++ "\x1b[0m".toList else t

def endsLine (line : Text) : Bool := line.getLast? == some '\n' || line.getLast? == some '\r'

def signed (sign : Char) (painted : Text → Text) (line : Text) : Text :=
  painted (sign :: line) ++ if endsLine line then [] else ['\n']

def renderEdit (coloured : Bool) : Edit Text → Text
  | .keep ls => ls.flatMap (signed ' ' id)
  | .delete ls => ls.flatMap (signed '-' (paint coloured .red))
  | .insert ls => ls.flatMap (signed '+' (paint coloured .green))

def render (coloured : Bool) (before after : Text) (p : Path) : Text :=
  paint coloured .cyan ("--- a/".toList ++ p.spelling) ++ ['\n'] ++
    (paint coloured .cyan ("+++ b/".toList ++ p.spelling) ++ ['\n']) ++
      Text.join ['\n']
        ((hunks contextLines (ofTexts before after)).map fun h => h.flatMap (renderEdit coloured))

structure Stats where
  files : Nat := 0
  insertions : Nat := 0
  deletions : Nat := 0
  deriving Repr, DecidableEq

namespace Stats

def ofTexts (before after : Text) : Stats :=
  let s := Diff.ofTexts before after
  { files := if s.insertions + s.deletions = 0 then 0 else 1
    insertions := s.insertions
    deletions := s.deletions }

def merge (a b : Stats) : Stats :=
  ⟨a.files + b.files, a.insertions + b.insertions, a.deletions + b.deletions⟩

def counted (n : Nat) (noun : String) : Text :=
  Text.ofNat n ++ ' ' :: noun.toList ++ if n = 1 then [] else ['s']

def message (s : Stats) : Text :=
  counted s.files "file" ++ " changed, ".toList ++ counted s.insertions "insertion" ++
    "(+), ".toList ++ counted s.deletions "deletion" ++ "(-)".toList

end Stats

end Refit.Diff
