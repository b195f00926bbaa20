import Refit.Text.Basic
import Refit.Text.Lines

namespace Refit.Pattern

inductive Malformed
  | unclosedGroup
  | unopenedGroup
  | badGroupName
  | repeatedGroupName
  | badFlags
  | lookAround
  | nothingToRepeat
  | badCount
  | badEscape
  | backReference
  | badCode
  | unknownProperty
  | unclosedClass
  | badClassRange
  | badClassItem
  | badWordEdge
  | notText
  | tooDeep
  | tooLarge
  deriving Repr, DecidableEq

def Malformed.message : Malformed → Text
  | unclosedGroup => "unclosed group".toList
  | unopenedGroup => "unopened group".toList
  | badGroupName => "invalid group name".toList
  | repeatedGroupName => "duplicate group name".toList
  | badFlags => "invalid flags".toList
  | lookAround => "look-around is not supported".toList
  | nothingToRepeat => "repetition operator missing expression".toList
  | badCount => "invalid repetition count".toList
  | badEscape => "unrecognized escape sequence".toList
  | backReference => "backreferences are not supported".toList
  | badCode => "invalid hexadecimal character code".toList
  | unknownProperty => "unknown character property".toList
  | unclosedClass => "unclosed character class".toList
  | badClassRange => "invalid character class range".toList
  | badClassItem => "invalid item in a character class".toList
  | badWordEdge => "invalid word boundary".toList
  | notText => "the pattern could match a part of a character".toList
  | tooDeep => "the pattern is nested too deeply".toList
  | tooLarge => "the pattern is too large".toList

structure Flags where
  anyCase : Bool := false
  multiLine : Bool := false
  dotAll : Bool := false
  swapGreed : Bool := false
  unicode : Bool := true
  longLines : Bool := false
  spaced : Bool := false
  deriving Repr, DecidableEq

structure Reading where
  rest : Text
  flags : Flags := {}
  groups : Nat := 0
  names : List (Text × Nat) := []
  deriving Repr

abbrev Reader := StateT Reading (Except Malformed)

def dropBlanks (inComment : Bool) : Text → Text
  | [] => []
  | c :: rest =>
    if inComment then dropBlanks (c != '\n') rest
    else if isBlank c then dropBlanks false rest
    else if c = '#' then dropBlanks true rest
    else c :: rest

/-- The characters at the start of a text that satisfy a test, and the text behind them. If
`spaced`, blanks and comments between them mean nothing. -/
def collect (test : Char → Bool) (spaced inComment : Bool) : Text → Text × Text
  | [] => ([], [])
  | c :: rest =>
    if inComment then collect test spaced (c != '\n') rest
    else if spaced && isBlank c then collect test spaced false rest
    else if spaced && c == '#' then collect test spaced true rest
    else if test c then
      let (taken, behind) := collect test spaced false rest
      (c :: taken, behind)
    else ([], c :: rest)

namespace Reader

def rest : Reader Text := return (← get).rest

def peek? : Reader (Option Char) := return (← get).rest.head?

def flags : Reader Flags := return (← get).flags

def goto (rest : Text) : Reader Unit := modify fun r => { r with rest }

def skipBlanks : Reader Unit := modify fun r =>
  if r.flags.spaced then { r with rest := dropBlanks false r.rest } else r

def bump : Reader Unit := modify fun r => { r with rest := r.rest.drop 1 }

def bumpAndSkip : Reader Unit := do bump; skipBlanks

def accept (t : Text) : Reader Bool := do
  match Text.dropStart? t (← rest) with
  | some behind => do goto behind; return true
  | none => return false

def expect (c : Char) (otherwise : Malformed) : Reader Unit := do
  if !(← accept [c]) then throw otherwise

def takeWhile (test : Char → Bool) : Reader Text := do
  let r ← get
  let (taken, behind) := collect test r.flags.spaced false r.rest
  goto behind
  return taken

def takeExactly (test : Char → Bool) (otherwise : Malformed) : Nat → Reader Text
  | 0 => return []
  | n + 1 => do
    match ← peek? with
    | some c =>
      if !test c then throw otherwise
      bumpAndSkip
      return c :: (← takeExactly test otherwise n)
    | none => throw otherwise

end Reader

end Refit.Pattern
