import Formulas.Text.CaseTable
import Formulas.Text.Property

/-! Upper and lower case of whole texts, where one character may become several. -/
namespace Formulas.Text

def upperChar (c : Char) : List Char :=
  match CaseTable.upperSeveral.find? (·.head? = some (c.toNat : Int)) with
  | some row => row.tail.map fun n => Char.ofNat n.toNat
  | none => [(CaseTable.image? CaseTable.upper c).getD c]

/-- The dotted capital I keeps its dot. -/
def lowerChar (c : Char) : List Char :=
  if c.toNat = 0x130 then ['i', Char.ofNat 0x307] else [(CaseTable.image? CaseTable.lower c).getD c]

def toUpper (cs : List Char) : List Char := cs.flatMap upperChar

/-- Whether the first character that counts is a cased one. -/
def meetsCased (cs : List Char) : Bool :=
  (cs.dropWhile isCaseIgnorable).head?.any isCased

/-- The lowercase of a text after the characters `before`, last one first. A capital sigma at the
end of a word has a form of its own. -/
def toLowerAfter : (before cs : List Char) → List Char
  | _, [] => []
  | before, c :: cs =>
    let lower :=
      if c.toNat = 0x3a3 then
        [Char.ofNat (if meetsCased before && !meetsCased cs then 0x3c2 else 0x3c3)]
      else lowerChar c
    lower ++ toLowerAfter (c :: before) cs

def toLower (cs : List Char) : List Char := toLowerAfter [] cs

end Formulas.Text
