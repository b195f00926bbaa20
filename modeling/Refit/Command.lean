import Refit.Command.Request
import Refit.Matcher
import Refit.Migration
import Refit.Migration.File

namespace Refit.Command

inductive Problem
  | notLoaded (p : Path)
  | invalid (migration : Text)
  | failed (migration : Text)
  deriving Repr, DecidableEq

def Problem.message : Problem → Text
  | notLoaded p => "Failed to load migration ".toList ++ p.spelling
  | invalid name => "Invalid migration '".toList ++ name ++ ['\'']
  | failed name => "Migration '".toList ++ name ++ "' failed".toList

structure Report where
  exit : Nat := 0
  output : Text := []
  complaint : Text := []
  deriving Repr, DecidableEq

def unlines (lines : List Text) : Text := lines.flatMap fun l => l ++ ['\n']

def versionLine : Text := "rewrite 0.1.0".toList

def usage : Text :=
  unlines
    ["Batch source rewriter for API migrations".toList,
     [],
     "Usage: rewrite [OPTIONS] [ROOT]".toList,
     [],
     "Arguments:".toList,
     "  [ROOT]  Root directory to rewrite [default: .]".toList,
     [],
     "Options:".toList,
     ("  -c, --config <CONFIG>  Migration file (YAML or JSON); repeatable. " ++
       "Built-ins run when omitted").toList,
     "      --dry-run          Preview changes without writing".toList,
     "      --list             Show built-in migrations".toList,
     "  -h, --help             Print help".toList,
     "  -V, --version          Print version".toList]

def describe (m : Migration) : List Text :=
  let rules := match m.pipeline with
    | .ok p => p.describe
    | .error _ => []
  ("  ".toList ++ m.name ++ " - ".toList ++ m.description) ::
    rules.map fun r => "      ".toList ++ r

def listing : Text :=
  unlines ("Built-in migrations:".toList :: Migration.builtins.flatMap describe)

/-- The migrations that are to be run: those in files or, if there are none, those built in. -/
def migrations (tree : Tree) (configs : List Path) : Except Problem (List Migration) :=
  if configs.isEmpty then .ok Migration.builtins
  else configs.mapM fun p => (Config.loadMigration tree p).mapError fun _ => .notLoaded p

def runAll (root : Path) (dryRun : Bool) :
    Summary → Tree → List Migration → Except Problem Summary × Tree
  | total, tree, [] => (.ok total, tree)
  | total, tree, m :: ms =>
    match m.batch dryRun with
    | .error _ => (.error (.invalid m.name), tree)
    | .ok b =>
      match b.run (Tree.source root m.matcher) tree with
      | (.error _, tree) => (.error (.failed m.name), tree)
      | (.ok s, tree) => runAll root dryRun (total.merge s) tree ms

def runOutput (dryRun : Bool) (total : Summary) : Text :=
  (if dryRun then unlines [total.diff true, '\n' :: total.stats.message] else []) ++
    unlines [total.message]

def migrate (o : Options) (tree : Tree) : Except Problem Summary × Tree :=
  match migrations tree o.configs with
  | .error e => (.error e, tree)
  | .ok ms => runAll o.root o.dryRun {} tree ms

def run (args : List Text) (tree : Tree) : Report × Tree :=
  match Request.ofArgs? args with
  | none => ({ exit := 2, complaint := usage }, tree)
  | some .help => ({ output := usage }, tree)
  | some .version => ({ output := unlines [versionLine] }, tree)
  | some (.run o) =>
    if o.list then ({ output := listing }, tree)
    else
      match migrate o tree with
      | (.ok total, tree) => ({ output := runOutput o.dryRun total }, tree)
      | (.error e, tree) =>
        ({ exit := 1, complaint := unlines ["Error: ".toList ++ e.message] }, tree)

end Refit.Command
