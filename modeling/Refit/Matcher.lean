import Refit.Glob
import Refit.Pattern
import Refit.Source
import Refit.Tree.Lookup

namespace Refit

structure Matcher where
  extensions : List Text := []
  included : List Text := []
  excluded : List Text := []
  contains : List Text := []
  maxSize : Option Nat := none
  deriving Repr, DecidableEq

structure Selection where
  extensions : List Text
  included : List Glob
  excluded : List Glob
  contains : List Pattern
  maxSize : Option Nat

namespace Matcher

def globs (sources : List Text) : Except Failure (List Glob) :=
  sources.mapM fun s => (Glob.parse? s).mapError fun e => .glob e.message

def patterns (sources : List Text) : Except Failure (List Pattern) :=
  sources.mapM fun s => (Pattern.parse? s).mapError fun e => .pattern e.message

def compile (m : Matcher) : Except Failure Selection := do
  let included ← globs m.included
  let excluded ← globs m.excluded
  let contains ← patterns m.contains
  return { extensions := m.extensions, included, excluded, contains, maxSize := m.maxSize }

end Matcher

namespace Selection

def excludes (s : Selection) (below : Text) : Bool := s.excluded.any (·.accepts below)

/-- Whether the files in a folder are left out without a look at them: if a file with the name `_`
would be. -/
def prunes (s : Selection) (below : Text) : Bool :=
  s.excludes ((Path.mk below).join ['_']).spelling

def accepts (s : Selection) (p : Path) (below : Text) (c : Content) : Bool :=
  (s.extensions.isEmpty || s.extensions.any (Text.sameUpToCase (p.extension?.getD []))) &&
  (s.included.isEmpty || s.included.any (·.accepts below)) &&
  !s.excludes below &&
  s.maxSize.all (c.size ≤ ·) &&
  (s.contains.isEmpty || c.text?.any fun t => s.contains.any (·.occursIn t))

end Selection

structure Walk where
  files : List Path := []
  skipped : List Path := []
  deriving Repr, DecidableEq

def belowJoin (below name : Text) : Text := if below.isEmpty then name else below ++ '/' :: name

mutual

def Entry.walk (s : Selection) (p : Path) (below : Text) : Entry → List Path
  | .file c => if s.accepts p below c then [p] else []
  | .link _ => []
  | .folder f => if s.prunes below then [] else f.walk s p below

def Folder.walk (s : Selection) (p : Path) (below : Text) : Folder → List Path
  | .nil => []
  | .cons n e rest => e.walk s (p.join n) (belowJoin below n) ++ rest.walk s p below

end

def Selection.walk (s : Selection) (tree : Tree) (root : Path) : Walk :=
  match tree.entry false root with
  | .error _ => { skipped := [root] }
  | .ok (.file c) => { files := if s.accepts root [] c then [root] else [] }
  | .ok (.folder f) => { files := f.walk s root [] }
  | .ok (.link _) =>
    match tree.entry true root with
    | .error _ => { skipped := [root] }
    | .ok (.folder f) => { files := f.walk s root [] }
    | .ok _ => {}

def Matcher.walk (m : Matcher) (tree : Tree) (root : Path) : Except Failure Walk :=
  m.compile.map fun s => s.walk tree root

def Matcher.list (m : Matcher) (root : Path) (tree : Tree) : Except Failure (List Path) :=
  match tree.entry true root with
  | .error e => .error (.cannotList root e.message)
  | .ok (.folder _) => (m.walk tree root).map Walk.files
  | .ok _ => .error (.cannotList root "not a directory".toList)

def Tree.source (root : Path) (m : Matcher) : Source Tree where
  list := m.list root
  read tree p := (tree.readText p).mapError (.unreadable p)
  write tree p t := (tree.writeText p t).mapError (.unwritable p)

end Refit
