import Refit.Failure

namespace Refit

structure Source (σ : Type) where
  list : σ → Except Failure (List Path)
  read : σ → Path → Except Failure Text
  write : σ → Path → Text → Except Failure σ

structure Memory where
  files : List (Path × Text) := []
  readOnly : List Path := []
  writes : Nat := 0
  deriving Repr

namespace Memory

def insertFile (p : Path) (content : Text) : List (Path × Text) → List (Path × Text)
  | [] => [(p, content)]
  | (q, t) :: rest =>
    match Path.cmp p q with
    | .lt => (p, content) :: (q, t) :: rest
    | .eq => (q, content) :: rest
    | .gt => (q, t) :: insertFile p content rest

def file (m : Memory) (p : Path) (content : Text) : Memory :=
  { m with files := insertFile p content m.files }

def refuseWrites (m : Memory) (p : Path) : Memory :=
  { m with readOnly := p.insertSorted m.readOnly }

def get? (m : Memory) (p : Path) : Option Text :=
  (m.files.find? fun entry => p.same entry.1).map Prod.snd

def read (m : Memory) (p : Path) : Except Failure Text :=
  match m.get? p with
  | some t => .ok t
  | none => .error (.unreadable p .absent)

def write (m : Memory) (p : Path) (content : Text) : Except Failure Memory :=
  if m.readOnly.any p.same then .error (.unwritable p .readOnly)
  else .ok { m.file p content with writes := m.writes + 1 }

def source : Source Memory where
  list m := .ok (m.files.map Prod.fst)
  read := read
  write := write

end Memory

end Refit
