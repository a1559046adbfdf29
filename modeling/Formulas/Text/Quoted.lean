import Formulas.Text.Property

/-! Texts in double quotes with escapes for all that does not show. -/
namespace Formulas.Text

/-- A character by its number in hexadecimal. -/
def escapeNumber (c : Char) : List Char :=
  ['\\', 'u', '\x7b'] ++ Nat.toDigits 16 c.toNat ++ ['\x7d']

/-- A character that would not show, or would join its neighbour, is written by its number. -/
def escape (c : Char) : List Char :=
  match c.toNat with
  | 0x00 => ['\\', '0']
  | 0x09 => ['\\', 't']
  | 0x0a => ['\\', 'n']
  | 0x0d => ['\\', 'r']
  | 0x22 => ['\\', c]
  | 0x5c => ['\\', c]
  | _ => if isGraphemeExtend c || !isPrintable c then escapeNumber c else [c]

def quoted (s : String) : String :=
  String.ofList ('\x22' :: s.toList.flatMap escape ++ ['\x22'])

end Formulas.Text
