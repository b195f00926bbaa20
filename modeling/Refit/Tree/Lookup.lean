import Refit.Failure
import Refit.Tree

namespace Refit

def maxLinks : Nat := 40

def maxNameSize : Nat := 255

inductive Located
  | there (place : List Text) (e : Entry)
  | vacant (place : List Text)

namespace Folder

/-- Follows the segments of a path from a place, which is given backwards. A missing last name is
vacant. -/
def follow (root : Folder) (followLast : Bool) (links : Nat) (place : List Text) :
    List Text → Except Fault Located
  | [] =>
    match root.at? place.reverse with
    | some e => .ok (.there place.reverse e)
    | none => .error .missing
  | segment :: rest =>
    if segment = [] ∨ segment = ['.'] then root.follow followLast links place rest
    else if segment = ['.', '.'] then root.follow followLast links place.tail rest
    else if maxNameSize < Text.size segment then .error .nameTooLong
    else
      match root.at? (segment :: place).reverse with
      | none => if rest.isEmpty then .ok (.vacant (segment :: place).reverse) else .error .missing
      | some (.file c) =>
        if rest.isEmpty then .ok (.there (segment :: place).reverse (.file c))
        else .error .notDirectory
      | some (.folder _) => root.follow followLast links (segment :: place) rest
      | some (.link target) =>
        if rest.isEmpty && !followLast then .ok (.there (segment :: place).reverse (.link target))
        else
          match links with
          | 0 => .error .linkLoop
          | links + 1 =>
            let start := if (Path.mk target).isAbsolute then [] else place
            root.follow followLast links start ((Path.mk target).segments ++ rest)
termination_by segments => (links, segments.length)

end Folder

namespace Tree

def locate (t : Tree) (followLast : Bool) (p : Path) : Except Fault Located :=
  if p.spelling.contains '\x00' then .error .zeroInName
  else if p.spelling.isEmpty then .error .missing
  else
    t.top.follow followLast maxLinks (if p.isAbsolute then [] else t.here.reverse) p.segments

def entry (t : Tree) (followLast : Bool) (p : Path) : Except Fault Entry := do
  match ← t.locate followLast p with
  | .there _ e => return e
  | .vacant _ => throw .missing

def readText (t : Tree) (p : Path) : Except Fault Text := do
  match ← t.entry true p with
  | .file c =>
    match c.text? with
    | some content => return content
    | none => throw .notUtf8
  | .folder _ => throw .isDirectory
  | .link _ => throw .linkLoop

def withoutSlashes (p : Path) : Path := ⟨(p.spelling.reverse.dropWhile (· == '/')).reverse⟩

def writeText (t : Tree) (p : Path) (content : Text) : Except Fault Tree :=
  if p.spelling.getLast? = some '/' then
    match t.locate true (withoutSlashes p) with
    | .ok _ => .error .isDirectory
    | .error e => .error (if (withoutSlashes p).spelling.isEmpty then .isDirectory else e)
  else do
    match ← t.locate true p with
    | .there place (.file _) => return t.put (.file (.text content)) place
    | .there _ _ => throw .isDirectory
    | .vacant place => return t.put (.file (.text content)) place

end Tree

end Refit
