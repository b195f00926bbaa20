namespace Refit

/-- A set of words over symbols that are described by classes of type `κ`. -/
inductive Phrase (κ : Type)
  | empty
  | one (k : κ)
  | seq (a b : Phrase κ)
  | alt (a b : Phrase κ)
  | star (a : Phrase κ)
  deriving Repr, DecidableEq

namespace Phrase

variable {κ α : Type}

inductive Matches (test : κ → α → Bool) : Phrase κ → List α → Prop
  | empty : Matches test .empty []
  | one {k : κ} {x : α} : test k x = true → Matches test (.one k) [x]
  | seq {a b : Phrase κ} {u v : List α} :
      Matches test a u → Matches test b v → Matches test (.seq a b) (u ++ v)
  | left {a b : Phrase κ} {u : List α} : Matches test a u → Matches test (.alt a b) u
  | right {a b : Phrase κ} {u : List α} : Matches test b u → Matches test (.alt a b) u
  | done {a : Phrase κ} : Matches test (.star a) []
  | more {a : Phrase κ} {u v : List α} :
      Matches test a u → Matches test (.star a) v → Matches test (.star a) (u ++ v)

def opt (a : Phrase κ) : Phrase κ := .alt a .empty

def plus (a : Phrase κ) : Phrase κ := .seq a (.star a)

def all : List (Phrase κ) → Phrase κ
  | [] => .empty
  | [a] => a
  | a :: rest => .seq a (all rest)

def nullable : Phrase κ → Bool
  | empty => true
  | one _ => false
  | seq a b => a.nullable && b.nullable
  | alt a b => a.nullable || b.nullable
  | star _ => true

def behind (b : Phrase κ) : Phrase κ → Phrase κ
  | empty => b
  | a => .seq a b

def next (test : κ → α → Bool) (x : α) : Phrase κ → List (Phrase κ)
  | empty => []
  | one k => if test k x then [.empty] else []
  | seq a b => (next test x a).map (behind b) ++ if a.nullable then next test x b else []
  | alt a b => next test x a ++ next test x b
  | star a => (next test x a).map (behind (.star a))

variable [DecidableEq κ]

def step (test : κ → α → Bool) (x : α) (ps : List (Phrase κ)) : List (Phrase κ) :=
  (ps.flatMap (next test x)).eraseDups

def anyMatches (test : κ → α → Bool) : List (Phrase κ) → List α → Bool
  | ps, [] => ps.any nullable
  | ps, x :: rest => !ps.isEmpty && anyMatches test (step test x ps) rest

def anyMatchesStart (test : κ → α → Bool) : List (Phrase κ) → List α → Bool
  | ps, [] => ps.any nullable
  | ps, x :: rest =>
    ps.any nullable || (!ps.isEmpty && anyMatchesStart test (step test x ps) rest)

def matchesAll (test : κ → α → Bool) (p : Phrase κ) (word : List α) : Bool :=
  anyMatches test [p] word

def matchesStart (test : κ → α → Bool) (p : Phrase κ) (word : List α) : Bool :=
  anyMatchesStart test [p] word

end Phrase

end Refit
