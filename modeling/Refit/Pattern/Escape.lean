import Refit.Pattern.Expr
import Refit.Pattern.Property
import Refit.Pattern.Reader
import Refit.Text.Basic
import Refit.Token

namespace Refit.Pattern

inductive Atom
  | literal (c : Char)
  | set (s : CharSet)
  | look (l : Look)
  deriving Repr, DecidableEq

def charOfHex? (digits : Text) : Option Char := (ofHex? digits).bind charOfCode?

def Flags.fold (f : Flags) (s : CharSet) : CharSet :=
  if !f.anyCase then s else if f.unicode then .anyCase s else .anyAsciiCase s

def Flags.checkText (f : Flags) (s : CharSet) : Except Malformed CharSet :=
  if !f.unicode && s.contains '\x80' then .error .notText else .ok s

namespace Reader

def hexCode (digits : Nat) : Reader Char := do
  let isHex := fun c => (hexDigit? c).isSome
  if ← accept ['\x7b'] then
    let taken ← takeWhile isHex
    expect '\x7d' .badCode
    if taken.isEmpty then throw .badCode
    match charOfHex? taken with
    | some c => return c
    | none => throw .badCode
  else
    let taken ← takeExactly isHex .badCode digits
    match charOfHex? taken with
    | some c => return c
    | none => throw .badCode

def cutAt? (separator : Text) : Text → Option (Text × Text)
  | [] => none
  | c :: rest =>
    match Text.dropStart? separator (c :: rest) with
    | some behind => some ([], behind)
    | none => (cutAt? separator rest).map fun (a, b) => (c :: a, b)

def namedSet? (name : Text) : Option CharSet :=
  match cutAt? ['!', '='] name with
  | some (p, v) => (setByValue? p v).map .compl
  | none =>
    match (cutAt? [':'] name).or (cutAt? ['='] name) with
    | some (p, v) => setByValue? p v
    | none => setByName? name

def propertySet (negated : Bool) : Reader CharSet := do
  skipBlanks
  let set? ← do
    if ← accept ['\x7b'] then
      let name ← takeWhile (· != '\x7d')
      expect '\x7d' .badEscape
      pure (namedSet? name)
    else
      match ← peek? with
      | none | some '\\' => throw .badEscape
      | some c => do bumpAndSkip; pure (setByName? [c])
  let f ← flags
  if !f.unicode then throw .notText
  match set? with
  | none => throw .unknownProperty
  | some s =>
    let s := f.fold s
    return if negated then .compl s else s

def shortSet (f : Flags) (c : Char) : CharSet :=
  if c = 'd' then if f.unicode then .digits else .range '0' '9'
  else if c = 's' then
    if f.unicode then .property .blank else .ofList ['\t', '\n', '\x0B', '\x0C', '\r', ' ']
  else if f.unicode then .property .word
  else .unions [.range '0' '9', .range 'A' 'Z', .single '_', .range 'a' 'z']

/-- Reads what stands in braces behind a word boundary. Braces that do not begin with a letter or a
hyphen are left for a count. -/
def wordEdge : Reader WordEdge := do
  let before ← rest
  if !(← accept ['\x7b']) then return .boundary
  skipBlanks
  let named := fun (c : Char) => c.isAlpha || c == '-'
  match ← peek? with
  | none => throw .badWordEdge
  | some c =>
    if !named c then
      goto before
      return .boundary
    let name ← takeWhile named
    expect '\x7d' .badWordEdge
    if name = "start".toList then return .start
    else if name = "end".toList then return .stop
    else if name = "start-half".toList then return .startHalf
    else if name = "end-half".toList then return .stopHalf
    else throw .badWordEdge

def escape : Reader Atom := do
  let f ← flags
  match ← peek? with
  | none => throw .badEscape
  | some c =>
    if c.isDigit then throw .backReference
    if c = 'x' || c = 'u' || c = 'U' then
      bumpAndSkip
      let fixed := (← peek?) != some '\x7b'
      let code ← hexCode (if c = 'x' then 2 else if c = 'u' then 4 else 8)
      if !f.unicode && c = 'x' && fixed && 0x80 ≤ code.toNat then throw .notText
      return .literal code
    if c = 'p' || c = 'P' then
      bump
      return .set (← propertySet (c = 'P'))
    bump
    if ['d', 's', 'w'].contains c then return .set (shortSet f c)
    if ['D', 'S', 'W'].contains c then return .set (.compl (shortSet f c.toLower))
    if Token.metaCharacters.contains c then return .literal c
    if c.toNat < 0x80 && !c.isAlphanum && c != '<' && c != '>' then return .literal c
    match c with
    | 'a' => return .literal '\x07'
    | 'f' => return .literal '\x0C'
    | 't' => return .literal '\t'
    | 'n' => return .literal '\n'
    | 'r' => return .literal '\r'
    | 'v' => return .literal '\x0B'
    | 'A' => return .look .textStart
    | 'z' => return .look .textEnd
    | 'b' => return .look (.edge (← wordEdge) (!f.unicode))
    | 'B' => return .look (.edge .inside (!f.unicode))
    | '<' => return .look (.edge .start (!f.unicode))
    | '>' => return .look (.edge .stop (!f.unicode))
    | _ => throw .badEscape

end Reader

end Refit.Pattern
