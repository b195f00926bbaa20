import Refit.Pattern.CharSet

namespace Refit.Pattern

inductive WordEdge
  | boundary
  | inside
  | start
  | stop
  | startHalf
  | stopHalf
  deriving Repr, DecidableEq

inductive Look
  | textStart
  | textEnd
  | lineStart
  | lineEnd
  | longLineStart
  | longLineEnd
  | edge (e : WordEdge) (ascii : Bool)
  deriving Repr, DecidableEq

def isWordAs (ascii : Bool) (c : Char) : Bool :=
  if ascii then c.isAlphanum || c == '_' else isWord c

def WordEdge.holds : WordEdge → Bool → Bool → Bool
  | boundary, before, after => before != after
  | inside, before, after => before == after
  | start, before, after => !before && after
  | stop, before, after => before && !after
  | startHalf, before, _ => !before
  | stopHalf, _, after => !after

/-- Whether a condition holds between two neighbours, of which either may be missing. Long lines end
in a carriage return, a line feed or both. -/
def Look.holds : Look → Option Char → Option Char → Bool
  | textStart, before, _ => before.isNone
  | textEnd, _, after => after.isNone
  | lineStart, before, _ => before.isNone || before == some '\n'
  | lineEnd, _, after => after.isNone || after == some '\n'
  | longLineStart, before, after =>
    before.isNone || before == some '\n' || (before == some '\r' && after != some '\n')
  | longLineEnd, before, after =>
    after.isNone || after == some '\r' || (after == some '\n' && before != some '\r')
  | edge e ascii, before, after =>
    e.holds (before.any (isWordAs ascii)) (after.any (isWordAs ascii))

inductive Expr
  | empty
  | set (s : CharSet)
  | look (l : Look)
  | group (index : Nat) (a : Expr)
  | seq (a b : Expr)
  | alt (a b : Expr)
  | times (least : Nat) (most : Option Nat) (greedy : Bool) (a : Expr)
  deriving Repr

namespace Expr

def nullable : Expr → Bool
  | empty => true
  | set _ => false
  | look _ => true
  | group _ a => a.nullable
  | seq a b => a.nullable && b.nullable
  | alt a b => a.nullable || b.nullable
  | times least _ _ a => least == 0 || a.nullable

def seqs : List Expr → Expr
  | [] => empty
  | [a] => a
  | a :: rest => seq a (seqs rest)

def alts : List Expr → Expr
  | [] => empty
  | [a] => a
  | a :: rest => alt a (alts rest)

def weight : Expr → Nat
  | empty => 32
  | set s => 32 + s.weight
  | look _ => 32
  | group _ a => 64 + a.weight
  | seq a b => a.weight + b.weight
  | alt a b => a.weight + b.weight + 48
  | times least most _ a => (max least (most.getD (least + 1))) * (a.weight + 48)

end Expr

end Refit.Pattern
