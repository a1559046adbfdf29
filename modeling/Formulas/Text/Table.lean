import Formulas.Numeral
import Formulas.Text.Split

/-! Tables of integers written as text. -/
namespace Formulas.Text

/-- Rows of integers between blanks or line breaks, with a semicolon between two rows. -/
def rows (table : String) : List (List Int) :=
  (split ';' table.toList).map fun row =>
    ((split '\n' row).flatMap (split ' ')).filterMap Numeral.integer?

def pairs : List Int → List (Nat × Nat)
  | first :: last :: rest => (first.toNat, last.toNat) :: pairs rest
  | _ => []

/-- The first and last numbers of ranges, one after another. -/
def rangesOf (table : String) : List (Nat × Nat) := pairs (rows table).flatten

/-- Whether a number lies in one of the given ranges. -/
def within (ranges : List (Nat × Nat)) (n : Nat) : Bool :=
  ranges.any fun (first, last) => first ≤ n && n ≤ last

end Formulas.Text
