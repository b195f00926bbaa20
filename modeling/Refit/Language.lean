import Refit.Path
import Refit.Phrase
import Refit.Text.Category
import Refit.Text.Lines

namespace Refit

inductive CharClass
  | char (c : Char)
  | blank
  | word (others : List Char)
  | among (cs : List Char)
  | except (cs : List Char)
  deriving Repr, DecidableEq

def CharClass.contains : CharClass → Char → Bool
  | char b, c => b == c
  | blank, c => isBlank c
  | word others, c => isWord c || others.contains c
  | among cs, c => cs.contains c
  | except cs, c => !cs.contains c

structure LineShape where
  phrase : Phrase CharClass
  whole : Bool := false
  deriving Repr, DecidableEq

namespace LineShape

def accepts (s : LineShape) (line : Text) : Bool :=
  if s.whole then s.phrase.matchesAll CharClass.contains line
  else s.phrase.matchesStart CharClass.contains line

def blanks : Phrase CharClass := .star (.one .blank)

def gap : Phrase CharClass := .plus (.one .blank)

def fixed (s : String) : Phrase CharClass := Phrase.all (s.toList.map fun c => .one (.char c))

def words (others : List Char) : Phrase CharClass := .plus (.one (.word others))

end LineShape

inductive LineKind
  | imports
  | declares
  | other
  deriving Repr, DecidableEq

inductive Language
  | java
  | kotlin
  | go
  | csharp
  | typescript
  | python
  | rust
  deriving Repr, DecidableEq

namespace Language

open LineShape Phrase

def all : List Language := [java, kotlin, go, csharp, typescript, python, rust]

def name : Language → String
  | java => "java"
  | kotlin => "kotlin"
  | go => "go"
  | csharp => "csharp"
  | typescript => "typescript"
  | python => "python"
  | rust => "rust"

def extensions : Language → List String
  | java => ["java"]
  | kotlin => ["kt", "kts"]
  | go => ["go"]
  | csharp => ["cs"]
  | typescript => ["ts", "tsx", "js", "jsx", "mjs"]
  | python => ["py", "pyi"]
  | rust => ["rs"]

def blockOpener : LineShape :=
  ⟨.all [blanks, fixed "import", blanks, fixed "(", blanks], true⟩

def nameQuote : Char := Char.ofNat 0x60

def importShapes : Language → List LineShape
  | java =>
    [⟨.all [blanks, fixed "import", gap, opt (.all [fixed "static", gap]), words ['.'],
      opt (fixed ".*"), blanks, fixed ";"], false⟩]
  | kotlin =>
    [⟨.all [blanks, fixed "import", gap, words ['.', nameQuote],
      opt (.alt (fixed ".*") (.all [gap, fixed "as", gap, words []])), blanks, opt (fixed ";"),
      blanks], true⟩]
  | go =>
    [⟨.all [blanks, fixed "import", gap,
      opt (.alt (.all [words [], gap]) (.all [fixed ".", gap])), fixed "\""], false⟩,
     blockOpener]
  | csharp =>
    [⟨.all [blanks, opt (.all [fixed "global", gap]), fixed "using", gap,
      opt (.all [fixed "static", gap]), opt (.all [words [], blanks, fixed "=", blanks]),
      words ['.', '<', '>'], blanks, fixed ";"], false⟩]
  | typescript =>
    [⟨.all [blanks, fixed "import", gap,
      opt (.all [plus (.one (.except ['\n'])), gap, fixed "from", gap]),
      .one (.among ['\'', '"']), plus (.one (.except ['\'', '"'])), .one (.among ['\'', '"'])],
      false⟩]
  | python =>
    [⟨.alt (.all [fixed "import", gap, words ['.']])
      (.all [fixed "from", gap, words ['.'], gap, fixed "import", gap]), false⟩]
  | rust =>
    [⟨.all [blanks,
      opt (.all [fixed "pub", opt (.all [fixed "(", words [':'], fixed ")"]), gap]),
      fixed "use", gap, words [':', '\x7b', '\x7d', '*', ',', ' '], fixed ";"], false⟩]

def declarationShapes : Language → List LineShape
  | java => [⟨.all [blanks, fixed "package", gap, words ['.'], blanks, fixed ";"], false⟩]
  | kotlin =>
    [⟨.all [blanks, fixed "package", gap, words ['.', nameQuote], blanks, opt (fixed ";"), blanks],
      true⟩]
  | go => [⟨.all [blanks, fixed "package", gap, words []], false⟩]
  | csharp => [⟨.all [blanks, fixed "namespace", gap, words ['.']], false⟩]
  | typescript | python | rust => []

def isImport (l : Language) (line : Text) : Bool := l.importShapes.any (·.accepts line)

def isDeclaration (l : Language) (line : Text) : Bool := l.declarationShapes.any (·.accepts line)

def kindOf (l : Language) (line : Text) : LineKind :=
  if l.isImport line then .imports else if l.isDeclaration line then .declares else .other

/-- What each line of a Go file does. All lines of an import block count as imports, up to and with
the line that closes it. -/
def classifyBlocks (inBlock : Bool) : List Text → List LineKind
  | [] => []
  | line :: lines =>
    if inBlock then .imports :: classifyBlocks (Text.trim line != [')']) lines
    else if blockOpener.accepts line then .imports :: classifyBlocks true lines
    else go.kindOf line :: classifyBlocks false lines

def classify : Language → List Text → List LineKind
  | go, lines => classifyBlocks false lines
  | l, lines => lines.map l.kindOf

def byName? (name : Text) : Option Language :=
  all.find? fun l => Text.sameUpToCase l.name.toList name

def byExtension? (extension : Text) : Option Language :=
  all.find? fun l => l.extensions.any fun e => Text.sameUpToCase e.toList extension

def ofPath? (p : Path) : Option Language := p.extension?.bind byExtension?

end Language

end Refit
