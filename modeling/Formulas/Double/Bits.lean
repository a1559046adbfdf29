import Formulas.Double.Basic

/-! The interchange encoding of doubles: one sign bit, 11 exponent bits, 52 fraction bits. -/
namespace Formulas.Double

/-- How many encodings have the same sign and exponent. -/
def fractions : Nat := Nat.pow 2 52

/-- Every number that is not a number has the same encoding. -/
def toBits : Double → Nat
  | .nan => 2047 * fractions + fractions / 2
  | .infinity s => sign s + 2047 * fractions
  | .finite s u _ =>
    if u < fractions then sign s + u
    else
      let shift := u.log2 - 52
      sign s + shift * fractions + u / Nat.pow 2 shift
where
  sign (negative : Bool) : Nat := if negative then 2048 * fractions else 0

/-- Bits above the lowest 64 are ignored. -/
def ofBits (bits : Nat) : Double :=
  let negative := bits / (2048 * fractions) % 2 = 1
  let exponent := bits / fractions % 2048
  let fraction := bits % fractions
  if exponent = 2047 then if fraction = 0 then .infinity negative else .nan
  else if exponent = 0 then nearest negative fraction 1
  else nearest negative ((fractions + fraction) * Nat.pow 2 (exponent - 1)) 1

end Formulas.Double
