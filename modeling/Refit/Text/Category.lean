import Refit.Text.Basic
import Refit.Text.Category.Letter
import Refit.Text.Category.Mark
import Refit.Text.Category.Symbol

namespace Refit

inductive Category
  | uppercaseLetter | lowercaseLetter | titlecaseLetter | modifierLetter | otherLetter
  | nonspacingMark | spacingMark | enclosingMark
  | decimalNumber | letterNumber | otherNumber
  | connectorPunctuation | dashPunctuation | openPunctuation | closePunctuation
  | initialPunctuation | finalPunctuation | otherPunctuation
  | mathSymbol | currencySymbol | modifierSymbol | otherSymbol
  | spaceSeparator | lineSeparator | paragraphSeparator
  | control | format | privateUse | unassigned
  deriving Repr, DecidableEq

namespace Category

def assigned : List Category :=
  [uppercaseLetter, lowercaseLetter, titlecaseLetter, modifierLetter, otherLetter,
   nonspacingMark, spacingMark, enclosingMark, decimalNumber, letterNumber, otherNumber,
   connectorPunctuation, dashPunctuation, openPunctuation, closePunctuation, initialPunctuation,
   finalPunctuation, otherPunctuation, mathSymbol, currencySymbol, modifierSymbol, otherSymbol,
   spaceSeparator, lineSeparator, paragraphSeparator, control, format, privateUse]

def runs : Category → List CharRun
  | uppercaseLetter => uppercaseLetters
  | lowercaseLetter => lowercaseLetters
  | titlecaseLetter => titlecaseLetters
  | modifierLetter => modifierLetters
  | otherLetter => otherLetters
  | nonspacingMark => nonspacingMarks
  | spacingMark => spacingMarks
  | enclosingMark => enclosingMarks
  | decimalNumber => decimalDigits
  | letterNumber => letterNumbers
  | otherNumber => otherNumbers
  | connectorPunctuation => connectors
  | dashPunctuation => dashes
  | openPunctuation => opening
  | closePunctuation => closing
  | initialPunctuation => initialQuotes
  | finalPunctuation => finalQuotes
  | otherPunctuation => otherPunctuationRuns
  | mathSymbol => mathSymbols
  | currencySymbol => currencySymbols
  | modifierSymbol => modifierSymbols
  | otherSymbol => otherSymbols
  | spaceSeparator => spaces
  | lineSeparator => lineSeparators
  | paragraphSeparator => paragraphSeparators
  | control => controls
  | format => formats
  | privateUse => privateUseRuns
  | unassigned => []

def contains (k : Category) (c : Char) : Bool :=
  match k with
  | unassigned => assigned.all fun k => !CharRun.anyContains k.runs c.toNat
  | k => CharRun.anyContains k.runs c.toNat

def letters : List Category :=
  [uppercaseLetter, lowercaseLetter, titlecaseLetter, modifierLetter, otherLetter]

def marks : List Category := [nonspacingMark, spacingMark, enclosingMark]

def numbers : List Category := [decimalNumber, letterNumber, otherNumber]

def punctuation : List Category :=
  [connectorPunctuation, dashPunctuation, openPunctuation, closePunctuation, initialPunctuation,
   finalPunctuation, otherPunctuation]

def symbols : List Category := [mathSymbol, currencySymbol, modifierSymbol, otherSymbol]

def separators : List Category := [spaceSeparator, lineSeparator, paragraphSeparator]

def others : List Category := [control, format, privateUse, unassigned]

end Category

def isOfCategory (ks : List Category) (c : Char) : Bool := ks.any (·.contains c)

def isAlphabetic (c : Char) : Bool :=
  if c.toNat < 0x80 then c.isAlpha
  else isOfCategory (.letterNumber :: Category.letters) c ||
    CharRun.anyContains Category.alphabeticMarks c.toNat ||
    CharRun.anyContains Category.enclosedLetters c.toNat

def isAlphanumeric (c : Char) : Bool :=
  if c.toNat < 0x80 then c.isAlphanum else isAlphabetic c || isOfCategory Category.numbers c

def isJoiner (c : Char) : Bool := c.toNat == 0x200C || c.toNat == 0x200D

/-- Whether a character is part of a word as word boundaries see it. That is not `isAlphanumeric`,
which counts numbers of every kind, but of the marks only those that spell. -/
def isWord (c : Char) : Bool :=
  if c.toNat < 0x80 then c.isAlphanum || c == '_'
  else isAlphabetic c || isOfCategory Category.marks c || Category.decimalNumber.contains c ||
    Category.connectorPunctuation.contains c || isJoiner c

def isWordBoundary (before after : Option Char) : Bool :=
  before.any isWord != after.any isWord

end Refit
