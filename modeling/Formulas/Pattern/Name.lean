import Formulas.Pattern.Break

/-! Names of sets of characters. -/
namespace Formulas.CharSet

/-- The classes of ASCII by name. -/
def asciiClass? (name : String) : Option CharSet :=
  [("alnum", [(0x30, 0x39), (0x41, 0x5a), (0x61, 0x7a)]), ("alpha", [(0x41, 0x5a), (0x61, 0x7a)]),
    ("ascii", [(0x00, 0x7f)]), ("blank", [(0x09, 0x09), (0x20, 0x20)]),
    ("cntrl", [(0x00, 0x1f), (0x7f, 0x7f)]), ("digit", [(0x30, 0x39)]), ("graph", [(0x21, 0x7e)]),
    ("lower", [(0x61, 0x7a)]), ("print", [(0x20, 0x7e)]),
    ("punct", [(0x21, 0x2f), (0x3a, 0x40), (0x5b, 0x60), (0x7b, 0x7e)]),
    ("space", [(0x09, 0x0d), (0x20, 0x20)]), ("upper", [(0x41, 0x5a)]),
    ("word", [(0x30, 0x39), (0x41, 0x5a), (0x5f, 0x5f), (0x61, 0x7a)]),
    ("xdigit", [(0x30, 0x39), (0x41, 0x46), (0x61, 0x66)])].lookup name |>.map ofRanges

def asciiDigits : CharSet := range 0x30 0x39

def asciiSpaces : CharSet := ofRanges [(0x09, 0x0d), (0x20, 0x20)]

def asciiWords : CharSet := ofRanges [(0x30, 0x39), (0x41, 0x5a), (0x5f, 0x5f), (0x61, 0x7a)]

/-! ### Scripts and ages -/

def script? (name : String) : Option CharSet :=
  (Text.scriptName? name).map fun first => ofRanges (Text.scriptRanges first)

/-- The characters that a script uses. Those that are listed with their scripts count for these and
not for their own. -/
def usedBy? (name : String) : Option CharSet :=
  (Text.scriptName? name).map fun first =>
    ((ofRanges (Text.scriptRanges first)).diff (ofRanges Text.extendedRanges)).union
      (ofRanges (Text.extensionRanges first))

/-- The characters of an edition and all before it. An edition is written `6.0` or `v60`. -/
def age? (name : String) : Option CharSet := do
  let edition ← (Text.Age.editionsBefore unknownEdition).find? fun edition =>
    name = edition || name.toList = 'v' :: edition.toList.filter (· ≠ '.')
  return ofRanges (Text.Age.rangesOf (edition :: Text.Age.editionsBefore edition))

/-! ### Names -/

/-- Names are compared without a leading `is`, capitals, blanks, hyphens, underscores and all beyond
ASCII. Only one name keeps its `is`. -/
def normal (name : List Char) : String :=
  let startsWithIs : Bool := match name with
    | i :: s :: _ => i.toLower = 'i' && s.toLower = 's'
    | _ => false
  let body := if startsWithIs then name.drop 2 else name
  let cs := (body.filter fun c => c ≠ ' ' ∧ c ≠ '-' ∧ c ≠ '_' ∧ c.toNat < 0x80).map Char.toLower
  if startsWithIs ∧ cs = ['c'] then "isc" else String.ofList cs

/-- The set of a name that may be a property, a category or a script, in this order. -/
def named? (name : String) : Option CharSet :=
  let property := if name ∈ ["cf", "sc", "lc"] then Option.none else property? name
  property <|> category? name <|> script? name

/-- The set of a value of a property. -/
def valued? (property value : String) : Option CharSet :=
  match property with
  | "gc" | "generalcategory" => category? value
  | "sc" | "script" => script? value
  | "scx" | "scriptextensions" => usedBy? value
  | "age" => age? value
  | "gcb" | "graphemeclusterbreak" => grapheme? value
  | "wb" | "wordbreak" => word? value
  | "sb" | "sentencebreak" => sentence? value
  | _ => Option.none

end Formulas.CharSet
