import Refit.Text.Basic
import Refit.Text.Category
import Refit.Text.Category.Letter
import Refit.Text.CharRun
import Refit.Text.Lines

namespace Refit.Pattern

inductive Property
  | any
  | categories (ks : List Category)
  | alphabetic
  | uppercase
  | lowercase
  | blank
  | word
  | runs (table : List CharRun)
  deriving Repr, DecidableEq

def Property.holds : Property → Char → Bool
  | any, _ => true
  | categories ks, c => isOfCategory ks c
  | alphabetic, c => isAlphabetic c
  | uppercase, c =>
    Category.uppercaseLetter.contains c || CharRun.anyContains Category.otherUppercase c.toNat
  | lowercase, c =>
    Category.lowercaseLetter.contains c || CharRun.anyContains Category.otherLowercase c.toNat
  | blank, c => isBlank c
  | word, c => isWord c
  | runs table, c => CharRun.anyContains table c.toNat

inductive CharSet
  | empty
  | range (first last : Char)
  | property (p : Property)
  | union (a b : CharSet)
  | inter (a b : CharSet)
  | compl (a : CharSet)
  | anyCase (a : CharSet)
  | anyAsciiCase (a : CharSet)
  deriving Repr, DecidableEq

namespace CharSet

def contains : CharSet → Char → Bool
  | empty, _ => false
  | range first last, c => first ≤ c && c ≤ last
  | property p, c => p.holds c
  | union a b, c => a.contains c || b.contains c
  | inter a b, c => a.contains c && b.contains c
  | compl a, c => !a.contains c
  | anyCase a, c => (caseVariants c).any a.contains
  | anyAsciiCase a, c => (asciiCaseVariants c).any a.contains

def single (c : Char) : CharSet := range c c

def ofList (cs : List Char) : CharSet := cs.foldr (fun c s => union (single c) s) empty

def unions : List CharSet → CharSet
  | [] => empty
  | [a] => a
  | a :: rest => union a (unions rest)

def diff (a b : CharSet) : CharSet := inter a (compl b)

def symmDiff (a b : CharSet) : CharSet := union (diff a b) (diff b a)

def all : CharSet := property .any

def ofCategories (ks : List Category) : CharSet := property (.categories ks)

def ofRuns (table : List CharRun) : CharSet := property (.runs table)

def digits : CharSet := ofCategories [.decimalNumber]

/-- An estimate of how many bytes an automaton takes to recognise a character of the set. -/
def weight : CharSet → Nat
  | empty => 8
  | range _ last => if last.toNat < 0x80 then 8 else 200
  | property .any => 400
  | property .blank => 1000
  | property (.categories [.decimalNumber]) => 6000
  | property (.runs table) => 200 * table.length
  | property _ => 50000
  | union a b => a.weight + b.weight
  | inter a b => a.weight + b.weight
  | compl a => a.weight + 400
  | anyCase a => 2 * a.weight
  | anyAsciiCase a => 2 * a.weight

end CharSet

end Refit.Pattern
