import Refit.Path

namespace Refit

inductive Fault
  | missing
  | notDirectory
  | isDirectory
  | nameTooLong
  | linkLoop
  | zeroInName
  | notUtf8
  | absent
  | readOnly
  | other (text : Text)
  deriving Repr, DecidableEq

def Fault.message : Fault → Text
  | missing => "No such file or directory (os error 2)".toList
  | notDirectory => "Not a directory (os error 20)".toList
  | isDirectory => "Is a directory (os error 21)".toList
  | nameTooLong => "File name too long (os error 36)".toList
  | linkLoop => "Too many levels of symbolic links (os error 40)".toList
  | zeroInName => "file name contained an unexpected NUL byte".toList
  | notUtf8 => "stream did not contain valid UTF-8".toList
  | absent => "no such file".toList
  | readOnly => "read-only".toList
  | other text => text

inductive Invalid
  | emptyNeedle
  | containsNeedle (needle replacement : Text)
  | reformsNeedle (needle replacement : Text)
  | matchesReplacement (pattern replacement : Text)
  | emptyToken
  | keepsToken (before after : Text)
  | noAdapter (method : Text)
  | unsettled (rule : Text)
  | incompleteImport (symbol : Text)
  | unnamed
  | noRules (name : Text)
  | badYaml (detail : Text)
  | badJson (detail : Text)
  | unknownFileType (path : Path)
  | other (text : Text)
  deriving Repr, DecidableEq

def Invalid.message : Invalid → Text
  | emptyNeedle => "replace_literal needs a non-empty needle".toList
  | containsNeedle needle replacement =>
    "replacement '".toList ++ replacement ++ "' contains '".toList ++ needle ++
      "' and is not idempotent".toList
  | reformsNeedle needle replacement =>
    "'".toList ++ needle ++ "' can re-form around replacement '".toList ++ replacement ++ "'".toList
  | matchesReplacement pattern replacement =>
    "pattern '".toList ++ pattern ++ "' matches its own replacement '".toList ++ replacement ++
      "'".toList
  | emptyToken => "type token must not be empty".toList
  | keepsToken before after =>
    "'".toList ++ after ++ "' still contains the token '".toList ++ before ++
      "' and is not idempotent".toList
  | noAdapter method =>
    "wrap_argument for '".toList ++ method ++ "' needs an adapter".toList
  | unsettled rule => rule ++ " is not idempotent on this input".toList
  | incompleteImport symbol =>
    "import for '".toList ++ symbol ++ "' needs a statement and a usage marker".toList
  | unnamed => "migration needs a name".toList
  | noRules name => "migration '".toList ++ name ++ "' has no rules".toList
  | badYaml detail => "Failed to parse YAML config: ".toList ++ detail
  | badJson detail => "Failed to parse JSON config: ".toList ++ detail
  | unknownFileType path => path.spelling ++ ": expected a .yaml, .yml or .json file".toList
  | other text => text

inductive Failure
  | io (fault : Fault)
  | pattern (detail : Text)
  | glob (detail : Text)
  | json (detail : Text)
  | yaml (detail : Text)
  | noAnchor (statement : Text)
  | duplicateImport (statement : Text)
  | cannotList (path : Path) (reason : Text)
  | unreadable (path : Path) (fault : Fault)
  | unwritable (path : Path) (fault : Fault)
  | unsupportedLanguage (name : Text)
  | invalid (why : Invalid)
  deriving Repr, DecidableEq

namespace Failure

def message : Failure → Text
  | io fault => "IO error: ".toList ++ fault.message
  | pattern detail => "Regex error: ".toList ++ detail
  | glob detail => "Glob pattern error: ".toList ++ detail
  | json detail => "JSON error: ".toList ++ detail
  | yaml detail => "YAML error: ".toList ++ detail
  | noAnchor statement =>
    "No import or package declaration to anchor '".toList ++ statement ++ "'".toList
  | duplicateImport statement => "Would leave '".toList ++ statement ++ "' imported twice".toList
  | cannotList path reason =>
    "Cannot enumerate ".toList ++ path.spelling ++ ": ".toList ++ reason
  | unreadable path fault =>
    "Failed to read ".toList ++ path.spelling ++ ": ".toList ++ fault.message
  | unwritable path fault =>
    "Failed to write ".toList ++ path.spelling ++ ": ".toList ++ fault.message
  | unsupportedLanguage name => "Language not supported: ".toList ++ name
  | invalid why => "Invalid configuration: ".toList ++ why.message

/-- Whether a batch may go on with the next file. -/
def recoverable : Failure → Bool
  | io _ | noAnchor _ | duplicateImport _ | unreadable .. | unwritable .. => true
  | _ => false

end Failure

end Refit
