import Formulas.Pattern.CharSet
import Formulas.Text.Property
import Formulas.Text.PropertyTable

/-! Sets of characters by category and by property, as patterns know them. -/
namespace Formulas.CharSet

open Text Text.Category

/-! ### Categories -/

/-- One letter counts as lowercase up to the 16th edition, and as another letter since the 17th. -/
def formerLowercase : CharSet := single 0x295

def inCategories (categories : List Category) : CharSet :=
  let listed := ofRanges (spans (fun c => c ≠ surrogate && c ∈ categories) runs.toList)
  let s := if unassigned ∈ categories then listed.union unknown else listed.diff unknown
  if lowercaseLetter ∈ categories then s.union formerLowercase else s.diff formerLowercase

/-- The known characters of some ranges. -/
def known (ranges : List (Nat × Nat)) : CharSet := (ofRanges ranges).diff unknown

/-- The characters of a property that has a table of its own. -/
def tabled (name : String) : CharSet := ofRanges ((Text.property? name).getD [])

def letters : CharSet :=
  inCategories [uppercaseLetter, lowercaseLetter, titlecaseLetter, modifierLetter, otherLetter]

def marks : CharSet := inCategories [nonspacingMark, spacingMark, enclosingMark]

def formats : CharSet := inCategories [format]

def digits : CharSet := inCategories [decimalNumber]

def spaces : CharSet := tabled "whitespace"

/-! ### Letters and words -/

def lowercase : CharSet := (inCategories [lowercaseLetter]).union (known otherLowercase)

def uppercase : CharSet := (inCategories [uppercaseLetter]).union (known otherUppercase)

def cased : CharSet := unions [lowercase, uppercase, inCategories [titlecaseLetter]]

def caseIgnorable : CharSet :=
  (inCategories [nonspacingMark, enclosingMark, format, modifierLetter, modifierSymbol]).union
    (known midWord)

/-- What makes alphabetic characters of those that are no letters. -/
def otherAlphabetic : CharSet :=
  (known enclosedLetters).union (marks.inter (known alphabeticMarks))

def alphabetic : CharSet := unions [letters, inCategories [letterNumber], otherAlphabetic]

/-- Letters, marks, decimal digits, connectors and joiners. -/
def words : CharSet :=
  unions [alphabetic, marks, inCategories [decimalNumber, connectorPunctuation], tabled "joinc"]

def graphemeExtend : CharSet :=
  (inCategories [nonspacingMark, enclosingMark]).union (known otherExtend)

def graphemeBase : CharSet :=
  ((inCategories [control, format, privateUse, unassigned, lineSeparator,
    paragraphSeparator]).union graphemeExtend).compl

/-! ### Changes of case -/

/-- The capital I with a dot becomes two characters. -/
def changesLowercased : CharSet :=
  ofChars (0x130 :: (knownPairs CaseTable.lower).map (·.1))

def changesUppercased : CharSet :=
  ofChars ((CaseTable.upperSeveral.filterMap fun row => row.head?.map Int.toNat) ++
    (knownPairs CaseTable.upper).map (·.1))

/-- Titlecase letters stay what they are, and so do the letters of Georgian. The capital digraphs
become titlecase letters. -/
def changesTitlecased : CharSet :=
  (changesUppercased.union (ofChars [0x1c4, 0x1c7, 0x1ca, 0x1f1])).diff
    ((inCategories [titlecaseLetter]).union (ofRanges [(0x10d0, 0x10fa), (0x10fd, 0x10ff)]))

/-- Characters that become several when they are folded. -/
def foldedToSeveral : List (Nat × Nat) :=
  [(0xdf, 0xdf), (0x130, 0x130), (0x149, 0x149), (0x587, 0x587), (0x1e9a, 0x1e9a),
    (0x1f80, 0x1f87), (0x1f90, 0x1f97), (0x1fa0, 0x1fa7), (0x1fb2, 0x1fb4), (0x1fb7, 0x1fb7),
    (0x1fc2, 0x1fc4), (0x1fc7, 0x1fc7), (0x1ff2, 0x1ff4), (0x1ff7, 0x1ff7), (0xfb00, 0xfb06),
    (0xfb13, 0xfb17)]

/-- Three letters fold to letters that are made of the same parts, which is no change. -/
def changesCasefolded : CharSet :=
  ((ofChars (foldings.map (·.1))).union (ofRanges foldedToSeveral)).diff
    (ofChars [0x1fbe, 0x1fd3, 0x1fe3])

def changesCasemapped : CharSet := unions [changesLowercased, changesUppercased, changesTitlecased]

/-! ### Identifiers -/

def notInIdentifiers : CharSet := (tabled "patsyn").union (tabled "patws")

def idStart : CharSet :=
  (unions [letters, inCategories [letterNumber], tabled "oids"]).diff notInIdentifiers

def idContinue : CharSet :=
  (unions [idStart, inCategories [nonspacingMark, spacingMark, decimalNumber,
    connectorPunctuation], tabled "oidc"]).diff notInIdentifiers

/-- Characters whose compatible forms do not stay within identifiers. -/
def unstable : List (Nat × Nat) :=
  [(0x37a, 0x37a), (0x309b, 0x309c), (0xfc5e, 0xfc63), (0xfdfa, 0xfdfb), (0xfe70, 0xfe70),
    (0xfe72, 0xfe72), (0xfe74, 0xfe74), (0xfe76, 0xfe76), (0xfe78, 0xfe78), (0xfe7a, 0xfe7a),
    (0xfe7c, 0xfe7c), (0xfe7e, 0xfe7e)]

def xidStart : CharSet :=
  idStart.diff (ofRanges (unstable ++ [(0xe33, 0xe33), (0xeb3, 0xeb3), (0xff9e, 0xff9f)]))

def xidContinue : CharSet := idContinue.diff (ofRanges unstable)

/-! ### Others -/

def math : CharSet := (inCategories [mathSymbol]).union (tabled "omath")

def defaultIgnorable : CharSet :=
  (unions [tabled "odi", formats, tabled "vs"]).diff
    (unions [spaces, ofRanges [(0xfff9, 0xfffb), (0x13430, 0x1343f)], tabled "pcm"])

/-- The characters with a property of two values, by its name without capitals and separators. -/
def property? (name : String) : Option CharSet :=
  match name with
  | "lowercase" | "lower" => some lowercase
  | "uppercase" | "upper" => some uppercase
  | "cased" => some cased
  | "caseignorable" | "ci" => some caseIgnorable
  | "alphabetic" | "alpha" => some alphabetic
  | "otheralphabetic" | "oalpha" => some otherAlphabetic
  | "otherlowercase" | "olower" => some (known otherLowercase)
  | "otheruppercase" | "oupper" => some (known otherUppercase)
  | "graphemeextend" | "grext" => some graphemeExtend
  | "othergraphemeextend" | "ogrext" => some (known otherExtend)
  | "graphemebase" | "grbase" => some graphemeBase
  | "changeswhenlowercased" | "cwl" => some changesLowercased
  | "changeswhenuppercased" | "cwu" => some changesUppercased
  | "changeswhentitlecased" | "cwt" => some changesTitlecased
  | "changeswhencasefolded" | "cwcf" => some changesCasefolded
  | "changeswhencasemapped" | "cwcm" => some changesCasemapped
  | "idstart" | "ids" => some idStart
  | "idcontinue" | "idc" => some idContinue
  | "xidstart" | "xids" => some xidStart
  | "xidcontinue" | "xidc" => some xidContinue
  | "math" => some math
  | "defaultignorablecodepoint" | "di" => some defaultIgnorable
  | _ => (Text.property? name).map ofRanges

/-! ### Categories by name -/

/-- The categories with their names, and the groups of categories. -/
def categoryNames : List (List String × List Category) :=
  [(["lu", "uppercaseletter"], [uppercaseLetter]), (["ll", "lowercaseletter"], [lowercaseLetter]),
    (["lt", "titlecaseletter"], [titlecaseLetter]), (["lm", "modifierletter"], [modifierLetter]),
    (["lo", "otherletter"], [otherLetter]),
    (["lc", "casedletter"], [uppercaseLetter, lowercaseLetter, titlecaseLetter]),
    (["l", "letter"],
      [uppercaseLetter, lowercaseLetter, titlecaseLetter, modifierLetter, otherLetter]),
    (["mn", "nonspacingmark"], [nonspacingMark]), (["mc", "spacingmark"], [spacingMark]),
    (["me", "enclosingmark"], [enclosingMark]),
    (["m", "mark", "combiningmark"], [nonspacingMark, spacingMark, enclosingMark]),
    (["nd", "decimalnumber", "digit"], [decimalNumber]), (["nl", "letternumber"], [letterNumber]),
    (["no", "othernumber"], [otherNumber]),
    (["n", "number"], [decimalNumber, letterNumber, otherNumber]),
    (["pc", "connectorpunctuation"], [connectorPunctuation]),
    (["pd", "dashpunctuation"], [dashPunctuation]),
    (["ps", "openpunctuation"], [openPunctuation]),
    (["pe", "closepunctuation"], [closePunctuation]),
    (["pi", "initialpunctuation"], [initialPunctuation]),
    (["pf", "finalpunctuation"], [finalPunctuation]),
    (["po", "otherpunctuation"], [otherPunctuation]),
    (["p", "punctuation", "punct"],
      [connectorPunctuation, dashPunctuation, openPunctuation, closePunctuation,
        initialPunctuation, finalPunctuation, otherPunctuation]),
    (["sm", "mathsymbol"], [mathSymbol]), (["sc", "currencysymbol"], [currencySymbol]),
    (["sk", "modifiersymbol"], [modifierSymbol]), (["so", "othersymbol"], [otherSymbol]),
    (["s", "symbol"], [mathSymbol, currencySymbol, modifierSymbol, otherSymbol]),
    (["zs", "spaceseparator"], [spaceSeparator]), (["zl", "lineseparator"], [lineSeparator]),
    (["zp", "paragraphseparator"], [paragraphSeparator]),
    (["z", "separator"], [spaceSeparator, lineSeparator, paragraphSeparator]),
    (["cc", "control", "cntrl"], [control]), (["cf", "format"], [format]),
    (["co", "privateuse"], [privateUse]), (["cn", "unassigned"], [unassigned]),
    (["c", "other"], [control, format, privateUse, unassigned])]

/-- The characters of a category or a group, or of one of three kinds beside them. -/
def category? (name : String) : Option CharSet :=
  if name = "any" then some any
  else if name = "ascii" then some (range 0x00 0x7f)
  else if name = "assigned" then some (inCategories [unassigned]).compl
  else (categoryNames.find? fun (names, _) => name ∈ names).map fun (_, categories) =>
    inCategories categories

end Formulas.CharSet
