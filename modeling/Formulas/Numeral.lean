/-! Unsigned decimal numerals, their grammar and their layouts. -/
namespace Formulas

/-- The number `coefficient * 10 ^ exponent`. -/
structure Numeral where
  coefficient : Nat
  exponent : Int
  deriving DecidableEq, Repr

namespace Numeral

/-! ### Reading -/

/-- The value of a run of decimal digits, which has at least one. -/
def natural? (cs : List Char) : Option Nat :=
  if cs ≠ [] ∧ cs.all Char.isDigit then some (Nat.ofDigitChars 10 cs 0) else none

/-- The value of a hexadecimal digit. -/
def hexDigit? (c : Char) : Option Nat :=
  if c.isDigit then some (c.toNat - 0x30)
  else if 'a' ≤ c ∧ c ≤ 'f' then some (c.toNat - 0x61 + 10)
  else if 'A' ≤ c ∧ c ≤ 'F' then some (c.toNat - 0x41 + 10)
  else none

/-- Splits an optional sign off; the first part says whether it is a minus. -/
def splitSign : List Char → Bool × List Char
  | '-' :: cs => (true, cs)
  | '+' :: cs => (false, cs)
  | cs => (false, cs)

/-- An optionally signed run of digits. -/
def integer? (cs : List Char) : Option Int :=
  let (negative, digits) := splitSign cs
  (natural? digits).map fun n => if negative then -n else n

/-- What follows the digits of a numeral: nothing, or `e` and an integer. -/
def exponent? : List Char → Option Int
  | [] => some 0
  | c :: cs => if c = 'e' ∨ c = 'E' then integer? cs else none

/-- Digits with at most one dot before, inside or after them, then an optional exponent. -/
def unsigned? (cs : List Char) : Option Numeral :=
  let whole := cs.takeWhile Char.isDigit
  let afterWhole := cs.dropWhile Char.isDigit
  let (fraction, rest) := match afterWhole with
    | '.' :: tail => (tail.takeWhile Char.isDigit, tail.dropWhile Char.isDigit)
    | _ => ([], afterWhole)
  if whole ++ fraction = [] then none
  else (exponent? rest).map fun e =>
    ⟨Nat.ofDigitChars 10 (whole ++ fraction) 0, e - fraction.length⟩

/-- A numeral after an optional sign; the first part says whether the sign is a minus. -/
def signed? (cs : List Char) : Option (Bool × Numeral) :=
  let (negative, rest) := splitSign cs
  (unsigned? rest).map (negative, ·)

/-- A letter that no numeral has. -/
def isForeign (c : Char) : Bool := c.isAlpha && c ≠ 'e' && c ≠ 'E'

/-! ### Layouts -/

def digits (n : Numeral) : List Char := Nat.toDigits 10 n.coefficient

/-- The exponent that remains when the dot stands after the first digit. -/
def leadExponent (n : Numeral) : Int := n.exponent + n.digits.length - 1

/-- All digits with a dot where it belongs, and no dot in a whole number. -/
def positional (n : Numeral) : List Char :=
  match n.exponent with
  | .ofNat zeros => n.digits ++ List.replicate zeros '0'
  | .negSucc k =>
    let places := k + 1
    let padded := List.replicate (places + 1 - n.digits.length) '0' ++ n.digits
    padded.take (padded.length - places) ++ '.' :: padded.drop (padded.length - places)

/-- One digit, a dot and the others if there are any, and a signed exponent. -/
def scientific (n : Numeral) : List Char :=
  let fraction := if n.digits.tail = [] then [] else '.' :: n.digits.tail
  let e := n.leadExponent
  n.digits.take 1 ++ fraction ++ 'e' :: (if e < 0 then '-' else '+') :: Nat.toDigits 10 e.natAbs

end Numeral
end Formulas
