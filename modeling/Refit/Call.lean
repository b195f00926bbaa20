import Refit.Language
import Refit.Rule
import Refit.Text.Lines
import Refit.Token

namespace Refit

structure Call where
  head : Text
  arguments : Text
  deriving Repr, DecidableEq

namespace Call

def text (c : Call) : Text := c.head ++ c.arguments ++ [')']

def flatArguments? : Text → Option Text
  | [] => none
  | c :: rest =>
    if c = ')' then some []
    else if c = '(' then none
    else (flatArguments? rest).map (c :: ·)

/-- Arguments with parentheses one deep, up to the parenthesis that closes the call. -/
def nestedArguments? (inside : Bool) : Text → Option Text
  | [] => none
  | c :: rest =>
    if c = ')' then
      if inside then (nestedArguments? false rest).map (c :: ·) else some []
    else if c = '(' then
      if inside then none else (nestedArguments? true rest).map (c :: ·)
    else (nestedArguments? inside rest).map (c :: ·)

def finder (method : Token) (arguments? : Text → Option Text) : Text.Finder Call :=
  fun before rest =>
    if method.occursAt before rest then
      let behind := rest.drop method.literal.length
      match Text.trimStart behind with
      | '(' :: inner =>
        (arguments? inner).map fun args =>
          let head := method.literal ++ Text.leadingBlanks behind ++ ['(']
          (head.length + args.length + 1, ⟨head, args⟩)
      | _ => none
    else none

def flat (method : Token) : Text.Finder Call := finder method flatArguments?

def nested (method : Token) : Text.Finder Call := finder method (nestedArguments? false)

end Call

namespace Rule

structure Retyping where
  token : Token
  replacement : Text
  deriving Repr, DecidableEq

namespace Retyping

def make? (type replacement : Text) : Except Failure Retyping :=
  if type = [] then .error (.invalid .emptyToken)
  else if (Token.mk type).occursIn replacement then
    .error (.invalid (.keepsToken type replacement))
  else .ok ⟨⟨type⟩, replacement⟩

def apply (r : Retyping) (t : Text) : Text := r.token.replaceIn r.replacement t

def applyToCall (r : Retyping) (c : Call) : Text := { c with arguments := r.apply c.arguments }.text

def applyToCalls (r : Retyping) (method : Token) (t : Text) : Text :=
  Text.replaceHits (Call.flat method) r.applyToCall t

end Retyping

def renameType (r : Retyping) : Rule where
  description :=
    "Rename type '".toList ++ r.token.literal ++ "' to '".toList ++ r.replacement ++ "'".toList
  applies := r.token.occursIn
  apply t := .ok (r.apply t)

def retypeSignature (method : Token) (r : Retyping) : Rule where
  description :=
    "Rewrite '".toList ++ r.token.literal ++ "' in ".toList ++ method.literal ++
      "(...) to '".toList ++ r.replacement ++ "'".toList
  applies t := (Text.hits (Call.flat method) t).any fun c => r.token.occursIn c.arguments
  apply t := .ok (r.applyToCalls method t)

def renameType? (type replacement : Text) : Except Failure Rule :=
  (Retyping.make? type replacement).map renameType

def retypeSignature? (method type replacement : Text) : Except Failure Rule :=
  (Retyping.make? type replacement).map (retypeSignature ⟨method⟩)

open LineShape Phrase in
def parameter : LineShape :=
  ⟨.all [opt (.all [fixed "final", gap]), words ['.', '$'],
    opt (.all [fixed "<", .star (.one (.except ['(', ')'])), fixed ">"]), .star (fixed "[]"),
    gap, words []], true⟩

/-- Whether a comma stands outside all brackets, inside `depth` of which the text begins. -/
def hasOuterComma (depth : Nat) : Text → Bool
  | [] => false
  | c :: rest =>
    if ['(', '[', '\x7b'].contains c then hasOuterComma (depth + 1) rest
    else if [')', ']', '\x7d'].contains c then hasOuterComma (depth - 1) rest
    else (c == ',' && depth == 0) || hasOuterComma depth rest

def wrapped? (adapter arguments : Text) : Option Text :=
  let argument := Text.trim arguments
  if argument.isEmpty || (adapter ++ ['(']).isPrefixOf argument || hasOuterComma 0 argument ||
      parameter.accepts argument then none
  else
    some (Text.leadingBlanks arguments ++ adapter ++ ['('] ++ argument ++ [')'] ++
      Text.trailingBlanks arguments)

def wrapCall (adapter : Text) (c : Call) : Text :=
  match wrapped? adapter c.arguments with
  | some arguments => { c with arguments }.text
  | none => c.text

def wrapArgument (method : Token) (adapter : Text) : Rule where
  description :=
    "Wrap argument of ".toList ++ method.literal ++ "(...) with ".toList ++ adapter ++
      "(...)".toList
  applies t := (Text.hits (Call.nested method) t).any fun c => (wrapped? adapter c.arguments).isSome
  apply t := .ok (Text.replaceHits (Call.nested method) (wrapCall adapter) t)

def wrapArgument? (method adapter : Text) : Except Failure Rule :=
  if Text.trim adapter = [] then .error (.invalid (.noAdapter method))
  else .ok (wrapArgument ⟨method⟩ (Text.trim adapter))

end Rule

end Refit
