import Refit.Command

namespace Refit

partial def readEntry? (followLink : Bool) (e : IO.FS.DirEntry) : IO (Option Entry) := do
  try
    match (← if followLink then e.path.metadata else e.path.symlinkMetadata).type with
    | .file => return some (.file (.ofBytes (← IO.FS.readBinFile e.path)))
    | .symlink => return some (.link (← IO.FS.realPath e.path).toString.toList)
    | .other => return none
    | .dir =>
      let mut inner := Folder.nil
      for e in ← e.path.readDir do
        if let some entry ← readEntry? false e then
          inner := inner.insert e.fileName.toList entry
      return some (.folder inner)
  catch _ => return none

def readPath (t : Tree) (p : Path) : IO Tree := do
  match ← readEntry? true ⟨← IO.currentDir, String.ofList p.spelling⟩ with
  | some e => return t.put e (p.placeFrom t.here)
  | none => return t

/-- A picture of the files that a request is about. -/
def readTree (o : Command.Options) : IO Tree := do
  let here := Path.placeFrom [] ⟨(← IO.currentDir).toString.toList⟩
  let t := Tree.put { here } (.folder .nil) here
  (o.root :: o.configs).foldlM readPath t

def writeChanges (before after : Tree) : IO Unit := do
  for (place, e) in after.top.leaves [] do
    if let .file (.text t) := e then
      let same := match before.top.at? place with
        | some (.file (.text s)) => s == t
        | _ => false
      if !same then
        IO.FS.writeFile (String.ofList ('/' :: Text.join ['/'] place)) (String.ofList t)

end Refit

def main (args : List String) : IO UInt32 := do
  let args := args.map String.toList
  let tree ← match Refit.Command.Request.ofArgs? args with
    | some (.run o) => Refit.readTree o
    | _ => pure {}
  let (report, after) := Refit.Command.run args tree
  Refit.writeChanges tree after
  IO.print (String.ofList report.output)
  IO.eprint (String.ofList report.complaint)
  return report.exit.toUInt32
