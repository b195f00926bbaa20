import Refit.Pattern.CharSet
import Refit.Text.Script
import Refit.Text.Trait

namespace Refit.Pattern

open Category

namespace CharSet

def cased : CharSet :=
  unions [property .uppercase, property .lowercase, ofCategories [titlecaseLetter]]

def changesLowercased : CharSet :=
  diff (union (property .uppercase) (ofCategories [titlecaseLetter])) (ofRuns Trait.uppercaseOnly)

def changesUppercased : CharSet :=
  diff (union (property .lowercase) (ofCategories [titlecaseLetter])) (ofRuns Trait.lowercaseOnly)

def changesTitlecased : CharSet :=
  union (diff changesUppercased (ofRuns Trait.titlecaseItself)) (ofRuns Trait.titlecaseOther)

/-- Case folding goes to the small letters, but for Cherokee to the capitals. -/
def changesFolded : CharSet :=
  union (diff changesLowercased (range '\u13a0' '\u13f5')) (ofRuns Trait.foldedOther)

def graphemeExtend : CharSet :=
  union (ofCategories [nonspacingMark, enclosingMark]) (ofRuns Trait.graphemeExtending)

def graphemeBase : CharSet :=
  compl (union (ofCategories (lineSeparator :: paragraphSeparator :: others)) graphemeExtend)

def idStart : CharSet :=
  diff (union (ofCategories (letterNumber :: letters)) (ofRuns Trait.idStarting))
    (ofRuns Trait.patternSyntax)

def idContinue : CharSet :=
  unions [idStart,
    ofCategories [nonspacingMark, spacingMark, decimalNumber, connectorPunctuation],
    ofRuns Trait.idContinuing]

def variationSelectors : CharSet := ofRuns Trait.variationSelectors

end CharSet

open CharSet

def propertyNames : List (List String × CharSet) :=
  [(["asciihexdigit", "ahex"], unions [range '0' '9', range 'A' 'F', range 'a' 'f']),
   (["alphabetic", "alpha"], property .alphabetic),
   (["bidicontrol", "bidic"], ofRuns Trait.bidiControls),
   (["bidimirrored", "bidim"], ofRuns Trait.mirrored),
   (["caseignorable", "ci"],
     union (ofCategories [nonspacingMark, enclosingMark, format, modifierLetter, modifierSymbol])
       (ofRuns Trait.betweenLetters)),
   (["cased"], cased),
   (["changeswhencasefolded", "cwcf"], changesFolded),
   (["changeswhencasemapped", "cwcm"],
     unions [changesLowercased, changesUppercased, changesTitlecased]),
   (["changeswhenlowercased", "cwl"], changesLowercased),
   (["changeswhentitlecased", "cwt"], changesTitlecased),
   (["changeswhenuppercased", "cwu"], changesUppercased),
   (["dash"], union (ofCategories [dashPunctuation]) (ofRuns Trait.dashSigns)),
   (["defaultignorablecodepoint", "di"], ofRuns Trait.defaultIgnorable),
   (["deprecated", "dep"], ofRuns Trait.deprecated),
   (["diacritic", "dia"], ofRuns Trait.diacritics),
   (["emoji"], ofRuns Trait.emoji),
   (["emojicomponent", "ecomp"], ofRuns Trait.emojiComponents),
   (["emojimodifier", "emod"], ofRuns [⟨0x1F3FB, 0x1F3FF, 1⟩]),
   (["emojimodifierbase", "ebase"], ofRuns Trait.emojiModifierBases),
   (["emojipresentation", "epres"], ofRuns Trait.emojiPresented),
   (["extendedpictographic", "extpict"], ofRuns Trait.pictographic),
   (["extender", "ext"], ofRuns Trait.extenders),
   (["graphemebase", "grbase"], graphemeBase),
   (["graphemeextend", "grext"], graphemeExtend),
   (["graphemelink", "grlink"], ofRuns Trait.graphemeLinks),
   (["hexdigit", "hex"],
     unions [range '0' '9', range 'A' 'F', range 'a' 'f', range '\uff10' '\uff19',
       range '\uff21' '\uff26', range '\uff41' '\uff46']),
   (["hyphen"], ofRuns Trait.hyphens),
   (["idcontinue", "idc"], idContinue),
   (["idstart", "ids"], idStart),
   (["idsbinaryoperator", "idsb"],
     union (range '\u2ff0' '\u2ff1') (range '\u2ff4' '\u2ffb')),
   (["idstrinaryoperator", "idst"], range '\u2ff2' '\u2ff3'),
   (["ideographic", "ideo"], ofRuns Trait.ideographs),
   (["joincontrol", "joinc"], range '\u200c' '\u200d'),
   (["logicalorderexception", "loe"], ofRuns Trait.preposed),
   (["lowercase", "lower"], property .lowercase),
   (["math"], union (ofCategories [mathSymbol]) (ofRuns Trait.mathLetters)),
   (["noncharactercodepoint", "nchar"], ofRuns Trait.noncharacters),
   (["otheralphabetic", "oalpha"], union (ofRuns alphabeticMarks) (ofRuns enclosedLetters)),
   (["otherdefaultignorablecodepoint", "odi"],
     diff (ofRuns Trait.defaultIgnorable) (union (ofCategories [format]) variationSelectors)),
   (["othergraphemeextend", "ogrext"], ofRuns Trait.graphemeExtending),
   (["otheridcontinue", "oidc"], ofRuns Trait.idContinuing),
   (["otheridstart", "oids"], ofRuns Trait.idStarting),
   (["otherlowercase", "olower"], ofRuns otherLowercase),
   (["othermath", "omath"], ofRuns Trait.mathLetters),
   (["otheruppercase", "oupper"], ofRuns otherUppercase),
   (["patternsyntax", "patsyn"], ofRuns Trait.patternSyntax),
   (["patternwhitespace", "patws"], ofRuns Trait.patternSpaces),
   (["prependedconcatenationmark", "pcm"], ofRuns Trait.prependedMarks),
   (["quotationmark", "qmark"], ofRuns Trait.quotationMarks),
   (["radical"], ofRuns Trait.radicals),
   (["regionalindicator", "ri"], ofRuns [⟨0x1F1E6, 0x1F1FF, 1⟩]),
   (["sentenceterminal", "sterm"], ofRuns Trait.sentenceEnds),
   (["softdotted", "sd"], ofRuns Trait.softDotted),
   (["terminalpunctuation", "term"],
     union (ofRuns Trait.sentenceEnds) (ofRuns Trait.clauseEnds)),
   (["unifiedideograph", "uideo"], ofRuns Trait.unifiedIdeographs),
   (["uppercase", "upper"], property .uppercase),
   (["variationselector", "vs"], variationSelectors),
   (["whitespace", "wspace", "space"], property .blank),
   (["xidcontinue", "xidc"], diff idContinue (ofRuns Trait.decomposedContinuing)),
   (["xidstart", "xids"], diff idStart (ofRuns Trait.decomposedStarting))]

def categoryNames : List (List String × List Category) :=
  [(["letter", "l"], letters),
   (["casedletter", "lc"], [uppercaseLetter, lowercaseLetter, titlecaseLetter]),
   (["uppercaseletter", "lu"], [uppercaseLetter]),
   (["lowercaseletter", "ll"], [lowercaseLetter]),
   (["titlecaseletter", "lt"], [titlecaseLetter]),
   (["modifierletter", "lm"], [modifierLetter]),
   (["otherletter", "lo"], [otherLetter]),
   (["mark", "m", "combiningmark"], marks),
   (["nonspacingmark", "mn"], [nonspacingMark]),
   (["spacingmark", "mc"], [spacingMark]),
   (["enclosingmark", "me"], [enclosingMark]),
   (["number", "n"], numbers),
   (["decimalnumber", "nd", "digit"], [decimalNumber]),
   (["letternumber", "nl"], [letterNumber]),
   (["othernumber", "no"], [otherNumber]),
   (["punctuation", "p", "punct"], punctuation),
   (["connectorpunctuation", "pc"], [connectorPunctuation]),
   (["dashpunctuation", "pd"], [dashPunctuation]),
   (["openpunctuation", "ps"], [openPunctuation]),
   (["closepunctuation", "pe"], [closePunctuation]),
   (["initialpunctuation", "pi"], [initialPunctuation]),
   (["finalpunctuation", "pf"], [finalPunctuation]),
   (["otherpunctuation", "po"], [otherPunctuation]),
   (["symbol", "s"], symbols),
   (["mathsymbol", "sm"], [mathSymbol]),
   (["currencysymbol", "sc"], [currencySymbol]),
   (["modifiersymbol", "sk"], [modifierSymbol]),
   (["othersymbol", "so"], [otherSymbol]),
   (["separator", "z"], separators),
   (["spaceseparator", "zs"], [spaceSeparator]),
   (["lineseparator", "zl"], [lineSeparator]),
   (["paragraphseparator", "zp"], [paragraphSeparator]),
   (["other", "c"], others),
   (["control", "cc", "cntrl"], [control]),
   (["format", "cf"], [format]),
   (["privateuse", "co"], [privateUse]),
   (["unassigned", "cn"], [unassigned])]

def wholeNames : List (List String × CharSet) :=
  [(["any"], all), (["ascii"], range '\x00' '\x7F'),
   (["assigned"], compl (ofCategories [unassigned]))]

/-- A name of a property without what does not count in it: case, blanks, hyphens, underscores and
an `is` before it. -/
def plainName (name : Text) : Text :=
  let marked := Text.sameUpToCase (name.take 2) ['i', 's']
  let counted := (if marked then name.drop 2 else name).filter fun c =>
    c.toNat < 0x80 && c != ' ' && c != '-' && c != '_'
  if marked && Text.sameUpToCase counted ['c'] then ['i', 's', 'c'] else Text.asciiLower counted

def row? (name : Text) (table : List (List String × β)) : Option (List String × β) :=
  table.find? fun entry => entry.1.any fun n => n.toList == name

def lookup (name : Text) (table : List (List String × β)) : Option β :=
  (row? name table).map Prod.snd

def categorySet? (name : Text) : Option CharSet :=
  (lookup name wholeNames).or ((lookup name categoryNames).map ofCategories)

def scriptSet? (name : Text) : Option CharSet := (lookup name Script.all).map ofRuns

/-- The characters that are used in a script, those of several scripts among them. -/
def usedInScript? (name : Text) : Option CharSet :=
  (row? name Script.all).map fun (names, own) =>
    let used := Script.shared.filter fun entry => entry.2.any names.contains
    union (diff (ofRuns own) (ofRuns (Script.shared.map Prod.fst))) (ofRuns (used.map Prod.fst))

def setByName? (name : Text) : Option CharSet :=
  let plain := plainName name
  (lookup plain propertyNames).or ((categorySet? plain).or (scriptSet? plain))

def setByValue? (property value : Text) : Option CharSet :=
  let named (names : List String) := names.any fun n => n.toList == plainName property
  if named ["generalcategory", "gc"] then categorySet? (plainName value)
  else if named ["script", "sc"] then scriptSet? (plainName value)
  else if named ["scriptextensions", "scx"] then usedInScript? (plainName value)
  else none

def asciiClasses : List (List String × CharSet) :=
  [(["alnum"], unions [range '0' '9', range 'A' 'Z', range 'a' 'z']),
   (["alpha"], unions [range 'A' 'Z', range 'a' 'z']),
   (["ascii"], range '\x00' '\x7F'),
   (["blank"], ofList ['\t', ' ']),
   (["cntrl"], unions [range '\x00' '\x1F', single '\x7F']),
   (["digit"], range '0' '9'),
   (["graph"], range '!' '~'),
   (["lower"], range 'a' 'z'),
   (["print"], range ' ' '~'),
   (["punct"], unions [range '!' '/', range ':' '@', range '[' '\x60', range '\x7B' '~']),
   (["space"], ofList ['\t', '\n', '\x0B', '\x0C', '\r', ' ']),
   (["upper"], range 'A' 'Z'),
   (["word"], unions [range '0' '9', range 'A' 'Z', single '_', range 'a' 'z']),
   (["xdigit"], unions [range '0' '9', range 'A' 'F', range 'a' 'f'])]

end Refit.Pattern
