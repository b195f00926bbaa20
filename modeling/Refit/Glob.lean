import Refit.Phrase
import Refit.Text.Basic

namespace Refit

namespace Glob

structure ByteSet where
  negated : Bool
  ranges : List (UInt8 × UInt8)
  deriving Repr, DecidableEq

def ByteSet.contains (s : ByteSet) (b : UInt8) : Bool :=
  s.negated != s.ranges.any fun (first, last) => first ≤ b && b ≤ last

def ByteSet.all : ByteSet := ⟨true, []⟩

def ByteSet.single (b : UInt8) : ByteSet := ⟨false, [(b, b)]⟩

abbrev BytePhrase := Phrase ByteSet

def bytes (t : Text) : List UInt8 := t.flatMap String.utf8EncodeChar

def fixed (t : Text) : BytePhrase := Phrase.all ((bytes t).map fun b => .one (.single b))

def anything : BytePhrase := .star (.one .all)

inductive Token
  | literal (c : Char)
  | any
  | many
  | leadingFolders
  | trailingFolders
  | folders
  | set (s : ByteSet)
  | choice (branches : List BytePhrase)
  deriving Repr, DecidableEq

def anyOf : BytePhrase → List BytePhrase → BytePhrase
  | p, [] => p
  | p, q :: rest => .alt p (anyOf q rest)

/-- The phrase of a part, if it takes part in matching at all: a choice without branches does not.
-/
def Token.phrase? : Token → Option BytePhrase
  | literal c => some (fixed [c])
  | any => some (.one .all)
  | many => some anything
  | leadingFolders => some (.alt (.opt (fixed ['/'])) (.seq anything (fixed ['/'])))
  | trailingFolders => some (.seq (fixed ['/']) anything)
  | folders =>
    some (.alt (fixed ['/']) (.all [fixed ['/'], anything, fixed ['/']]))
  | set s => some (.one s)
  | choice [] => none
  | choice (p :: rest) => some (anyOf p rest)

def phraseOf? (tokens : List Token) : Option BytePhrase :=
  match tokens.filterMap Token.phrase? with
  | [] => none
  | ps => some (.all ps)

inductive Malformed
  | unclosedSet
  | badRange (first last : Char)
  | badByteRange
  | unopenedChoice
  | unclosedChoice
  | danglingEscape
  deriving Repr, DecidableEq

def Malformed.message : Malformed → Text
  | unclosedSet => "unclosed character class; missing ']'".toList
  | badRange first last =>
    "invalid range; '".toList ++ [first] ++ "' > '".toList ++ [last] ++ "'".toList
  | badByteRange => "invalid range of bytes".toList
  | unopenedChoice => "unopened alternate group; missing '\x7b'".toList
  | unclosedChoice => "unclosed alternate group; missing '\x7d'".toList
  | danglingEscape => "dangling '\\'".toList

structure OpenSet where
  ranges : List (Char × Char) := []
  waiting : Bool := false
  deriving Repr

def OpenSet.take (s : OpenSet) (c : Char) : Except Malformed OpenSet :=
  match s.waiting, s.ranges with
  | true, (first, _) :: rest =>
    if c < first then .error (.badRange first c) else .ok ⟨(first, c) :: rest, false⟩
  | _, ranges => .ok ⟨(c, c) :: ranges, false⟩

def OpenSet.close (s : OpenSet) : List (Char × Char) :=
  (if s.waiting then ('-', '-') :: s.ranges else s.ranges).reverse

def readSet (isFirst : Bool) (s : OpenSet) : Text → Except Malformed (List (Char × Char) × Text)
  | [] => .error .unclosedSet
  | c :: rest =>
    if c = ']' && !isFirst then .ok (s.close, rest)
    else if c = '-' && !isFirst && !s.waiting then readSet false { s with waiting := true } rest
    else
      match s.take c with
      | .ok s => readSet false s rest
      | .error e => .error e

/-- The ranges of bytes that a range of characters stands for. The bytes of a longer character count
one by one; the range itself lies between the last byte of the first and the first byte of the last
character. -/
def byteRanges (first last : Char) : Except Malformed (List (UInt8 × UInt8)) :=
  let bs := bytes [first]
  let singles := fun (bs : List UInt8) => bs.map fun b => (b, b)
  if first = last then .ok (singles bs)
  else
    match bs.getLast?, bytes [last] with
    | some lo, hi :: more =>
      if lo ≤ hi then .ok (singles bs.dropLast ++ (lo, hi) :: singles more)
      else .error .badByteRange
    | _, _ => .error .badByteRange

structure Branches where
  done : List (List Token) := []
  tokens : List Token := []
  deriving Repr

namespace Branches

def push (b : Branches) (t : Token) : Branches := { b with tokens := t :: b.tokens }

def next (b : Branches) : Branches := ⟨b.tokens.reverse :: b.done, []⟩

def close (b : Branches) : Token := .choice (b.next.done.reverse.filterMap phraseOf?)

end Branches

/-- What two asterisks stand for behind `before`, in front of `rest`; `nested` says whether they
stand in braces. The answer is the parts at hand and whether a slash behind the asterisks belongs to
them. -/
def twoStars (nested : Bool) (before : Option Char) (tokens : List Token) (rest : Text) :
    List Token × Bool :=
  let plain := (.many :: .many :: tokens, false)
  match tokens with
  | [] => if rest.isEmpty || rest.head? == some '/' then ([.leadingFolders], true) else plain
  | last :: others =>
    if before != some '/' && !(nested && (before == some ',' || before == some '\x7b')) then plain
    else
      let atEnd := rest.isEmpty || (nested && (rest.head? == some ',' || rest.head? == some '\x7d'))
      if !atEnd && rest.head? != some '/' then plain
      else
        let joined : Token := match last with
          | .leadingFolders => .leadingFolders
          | .trailingFolders => .trailingFolders
          | _ => if atEnd then .trailingFolders else .folders
        (joined :: others, !atEnd)

def readFrom : Nat → List Branches → Branches → Option Char → Text → Except Malformed (List Token)
  | 0, _, _, _, _ => .error .unclosedChoice
  | _ + 1, [], b, _, [] => .ok b.tokens.reverse
  | _ + 1, _ :: _, _, _, [] => .error .unclosedChoice
  | turns + 1, outer, b, before, c :: rest =>
    match c with
    | '?' => readFrom turns outer (b.push .any) (some c) rest
    | '*' =>
      match rest with
      | '*' :: rest =>
        let (tokens, slash) := twoStars (!outer.isEmpty) before b.tokens rest
        let b := { b with tokens }
        match slash, rest with
        | true, s :: rest => readFrom turns outer b (some s) rest
        | _, _ => readFrom turns outer b (some '*') rest
      | _ => readFrom turns outer (b.push .many) (some c) rest
    | '[' => do
      let negated := rest.head? == some '!' || rest.head? == some '^'
      let (ranges, rest) ← readSet true {} (if negated then rest.drop 1 else rest)
      let byteRanges ← ranges.mapM fun (first, last) => byteRanges first last
      readFrom turns outer (b.push (.set ⟨negated, byteRanges.flatten⟩)) (some ']') rest
    | '\x7b' => readFrom turns (b :: outer) {} (some c) rest
    | '\x7d' =>
      match outer with
      | [] => .error .unopenedChoice
      | around :: outer => readFrom turns outer (around.push b.close) (some c) rest
    | ',' =>
      if outer.isEmpty then readFrom turns outer (b.push (.literal c)) (some c) rest
      else readFrom turns outer b.next (some c) rest
    | '\\' =>
      match rest with
      | [] => .error .danglingEscape
      | e :: rest => readFrom turns outer (b.push (.literal e)) (some e) rest
    | c => readFrom turns outer (b.push (.literal c)) (some c) rest

end Glob

structure Glob where
  phrase : Glob.BytePhrase
  deriving Repr, DecidableEq

namespace Glob

/-- Reads a glob. Two asterisks alone stand for all paths. -/
def parse? (source : Text) : Except Malformed Glob := do
  match ← readFrom (source.length + 1) [] {} none source with
  | [.leadingFolders] => return ⟨anything⟩
  | tokens => return ⟨(phraseOf? tokens).getD .empty⟩

def accepts (g : Glob) (path : Text) : Bool := g.phrase.matchesAll ByteSet.contains (bytes path)

end Glob

end Refit
