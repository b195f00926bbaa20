import Refit.Path

namespace Refit.Command

structure Options where
  root : Path := .ofString "."
  configs : List Path := []
  dryRun : Bool := false
  list : Bool := false
  deriving Repr, DecidableEq

inductive Request
  | help
  | version
  | run (o : Options)
  deriving Repr, DecidableEq

structure Reading where
  options : Options := {}
  hasRoot : Bool := false
  deriving Repr, DecidableEq

namespace Reading

def root? (r : Reading) (arg : Text) : Option Reading :=
  if r.hasRoot || arg.isEmpty then none
  else some { r with options := { r.options with root := ⟨arg⟩ }, hasRoot := true }

def config? (r : Reading) (file : Text) : Option Reading :=
  if file.isEmpty then none
  else some { r with options := { r.options with configs := r.options.configs ++ [⟨file⟩] } }

def dryRun? (r : Reading) : Option Reading :=
  if r.options.dryRun then none else some { r with options := { r.options with dryRun := true } }

def list? (r : Reading) : Option Reading :=
  if r.options.list then none else some { r with options := { r.options with list := true } }

end Reading

inductive Argument
  | help
  | version
  | dryRun
  | list
  | config
  | configIs (file : Text)
  | rest
  | plain (arg : Text)
  | unknown
  deriving Repr, DecidableEq

/-- Tells what an argument is. The file of a migration may be joined to its option. -/
def Argument.ofText (arg : Text) : Argument :=
  if arg = "-h".toList || arg = "--help".toList then .help
  else if arg = "-V".toList || arg = "--version".toList then .version
  else if arg = "--dry-run".toList then .dryRun
  else if arg = "--list".toList then .list
  else if arg = "-c".toList || arg = "--config".toList then .config
  else if arg = "--".toList then .rest
  else if arg = "-".toList then .plain arg
  else
    match Text.dropStart? "--config=".toList arg with
    | some file => .configIs file
    | none =>
      match arg with
      | '-' :: 'c' :: '=' :: file | '-' :: 'c' :: file => .configIs file
      | '-' :: 'h' :: _ => .help
      | '-' :: 'V' :: _ => .version
      | '-' :: _ => .unknown
      | _ => .plain arg

def Request.read (r : Reading) : List Text → Option Request
  | [] => some (.run r.options)
  | arg :: args =>
    match Argument.ofText arg with
    | .help => some .help
    | .version => some .version
    | .dryRun => r.dryRun?.bind fun r => read r args
    | .list => r.list?.bind fun r => read r args
    | .configIs file => (r.config? file).bind fun r => read r args
    | .config =>
      match args with
      | [] => none
      | file :: args =>
        match Argument.ofText file with
        | .plain file => (r.config? file).bind fun r => read r args
        | _ => none
    | .plain arg => (r.root? arg).bind fun r => read r args
    | .rest => (args.foldlM Reading.root? r).map fun r => .run r.options
    | .unknown => none

def Request.ofArgs? (args : List Text) : Option Request := Request.read {} args

end Refit.Command
