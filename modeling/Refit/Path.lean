import Refit.Text.Basic

/-! A path keeps the way it was spelled, but two paths are the same, and are ordered, by their
components: repeated slashes, a slash at the end and `.` anywhere but at the start make no
difference. -/

namespace Refit

structure Path where
  spelling : Text
  deriving Repr, DecidableEq

inductive Component
  | root
  | here
  | parent
  | name (n : Text)
  deriving Repr, DecidableEq

namespace Component

def rank : Component → Nat
  | root => 0
  | here => 1
  | parent => 2
  | name _ => 3

def text : Component → Text
  | name n => n
  | _ => []

def cmp (a b : Component) : Ordering := (compare a.rank b.rank).then (Text.cmp a.text b.text)

end Component

namespace Path

def ofString (s : String) : Path := ⟨s.toList⟩

def segments (p : Path) : List Text := List.splitOnP (· == '/') p.spelling

def isAbsolute (p : Path) : Bool := p.spelling.head? == some '/'

/-- What a segment behind the first one stands for: nothing if it is empty or `.`. -/
def component? (segment : Text) : Option Component :=
  if segment = [] ∨ segment = ['.'] then none
  else if segment = ['.', '.'] then some .parent
  else some (.name segment)

def components (p : Path) : List Component :=
  match p.segments with
  | [] => []
  | first :: rest =>
    let start := if p.isAbsolute then [.root] else if first = ['.'] then [.here] else []
    start ++ (first :: rest).filterMap component?

def cmp (p q : Path) : Ordering := List.compareLex Component.cmp p.components q.components

def same (p q : Path) : Bool := p.components == q.components

def fileName? (p : Path) : Option Text :=
  match p.components.getLast? with
  | some (.name n) => some n
  | _ => none

/-- What stands behind the last dot of a name; a dot at the start of the name does not count. -/
def extensionOf? (name : Text) : Option Text :=
  let behind := name.reverse.takeWhile (· != '.')
  match name.reverse.drop behind.length with
  | [] | ['.'] => none
  | _ => some behind.reverse

def extension? (p : Path) : Option Text := p.fileName?.bind extensionOf?

def placeFrom (here : List Text) (p : Path) : List Text :=
  p.components.foldl (fun place c =>
    match c with
    | .root => []
    | .here => place
    | .parent => place.dropLast
    | .name n => place ++ [n]) here

def join (p : Path) (name : Text) : Path :=
  if p.spelling = [] ∨ p.spelling.getLast? = some '/' then ⟨p.spelling ++ name⟩
  else ⟨p.spelling ++ '/' :: name⟩

/-- Inserts a path into a list that ascends by components. A path equal to one of the list is left
out, so the spelling that came first stays. -/
def insertSorted (p : Path) : List Path → List Path
  | [] => [p]
  | q :: qs =>
    match cmp p q with
    | .lt => p :: q :: qs
    | .eq => q :: qs
    | .gt => q :: insertSorted p qs

end Path

end Refit
