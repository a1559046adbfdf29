import Formulas.Numeral
import Formulas.Double.Basic

/-! From texts to doubles by one rounding, and back by the fewest digits. -/
namespace Formulas.Double

/-- The double nearest to a numeral. The first two cases lie outside the range of doubles and
keep the powers of ten small. -/
def ofNumeral (negative : Bool) (n : Numeral) : Double :=
  if n.coefficient = 0 then zero negative
  else if 310 ≤ n.exponent then .infinity negative
  else if n.coefficient.log2 + 1076 < -3 * n.exponent then zero negative
  else
    nearest negative (n.coefficient * one * Nat.pow 10 n.exponent.toNat)
      (Nat.pow 10 (-n.exponent).toNat)

/-- The infinities and no number by their names, in letters of any case. -/
def named? (cs : List Char) : Option Double :=
  let (negative, letters) := Numeral.splitSign cs
  let name := letters.map Char.toLower
  if name = "inf".toList ∨ name = "infinity".toList then some (infinity negative)
  else if name = "nan".toList then some nan
  else none

/-- The double that a text stands for by its name or as a numeral. -/
def read? (cs : List Char) : Option Double :=
  (named? cs).or ((Numeral.signed? cs).map fun (negative, n) => ofNumeral negative n)

/-- Which of two equally near numerals is taken. -/
inductive Tie where
  | up
  | even

/-- The exponent of the leading decimal digit of a positive number of smallest steps. -/
def leadExponent (units : Nat) : Int :=
  if one ≤ units then (Nat.toDigits 10 (units / one)).length - 1
  else -(((List.range 325).find? fun k => one ≤ units * Nat.pow 10 k).getD 324)

/-- The quarter steps down and up from a number to the ends of the reals that round to it. Just
above a power of two the numbers below lie closer together. -/
def reach (units : Nat) : Nat × Nat :=
  let gap := Nat.pow 2 (units.log2 - 52)
  (if 1 < gap ∧ units = Nat.pow 2 units.log2 then gap else 2 * gap, 2 * gap)

/-- Whether `c * den / scale` smallest steps round to the given number. The ends of its interval do
if its mantissa is even. -/
def readsBack (units scale den c : Nat) : Bool :=
  let lower := (4 * units - (reach units).1) * scale
  let upper := (4 * units + (reach units).2) * scale
  let x := 4 * c * den
  let mantissa := units / Nat.pow 2 (units.log2 - 52)
  if mantissa % 2 = 0 then lower ≤ x ∧ x ≤ upper else lower < x ∧ x < upper

/-- The nearest numeral with a given last place that reads back, if there is one. -/
def shortestAt? (tie : Tie) (units : Nat) (place : Int) : Option Numeral :=
  let scale := Nat.pow 10 (-place).toNat
  let den := one * Nat.pow 10 place.toNat
  let low := units * scale / den
  let twice := 2 * (units * scale % den)
  let lowFirst : Bool := match tie with
    | .up => twice < den
    | .even => twice < den ∨ (twice = den ∧ low % 2 = 0)
  let candidates := if lowFirst then [low, low + 1] else [low + 1, low]
  (candidates.find? fun c => c ≠ 0 && readsBack units scale den c).map fun c =>
    if c % 10 = 0 then ⟨c / 10, place + 1⟩ else ⟨c, place⟩

/-- The shortest numeral that reads back as a positive number of smallest steps, and the nearest
of those. -/
def shortest (tie : Tie) (units : Nat) : Numeral :=
  ((List.range 17).findSome? fun (n : Nat) => shortestAt? tie units (leadExponent units - n)).getD
    ⟨units * Nat.pow 5 1074, -1074⟩

/-- The plain text of a double never has an exponent. -/
def plain : Double → String
  | .nan => "NaN"
  | .infinity false => "Infinity"
  | .infinity true => "-Infinity"
  | .finite s u _ =>
    let body := if u = 0 then ['0'] else (shortest .up u).positional
    String.ofList (if s then '-' :: body else body)

end Formulas.Double
