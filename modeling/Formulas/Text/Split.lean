/-! Splitting texts at a character. -/
namespace Formulas.Text

/-- The parts of a text between the places where a character stands. There is at least one. -/
def split (separator : Char) : List Char → List (List Char)
  | [] => [[]]
  | c :: cs =>
    if c = separator then [] :: split separator cs
    else match split separator cs with
      | [] => [[c]]
      | part :: others => (c :: part) :: others

end Formulas.Text
