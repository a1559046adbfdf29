import Formulas.Double.Arithmetic

/-! Decimal numbers with a coefficient below `2 ^ 96` and at most 28 places. -/
namespace Formulas

/-- The number `coefficient / 10 ^ scale` with a sign. -/
structure Decimal where
  negative : Bool
  coefficient : Nat
  scale : Nat
  deriving DecidableEq, Repr

namespace Decimal

/-- The bound of the coefficients. -/
def limit : Nat := Nat.pow 2 96

/-- The largest number of places. -/
def maxScale : Nat := 28

def ofInt (n : Int) : Decimal := ⟨n < 0, n.natAbs, 0⟩

def isZero (d : Decimal) : Bool := d.coefficient = 0

def isWhole (d : Decimal) : Bool := Nat.pow 10 d.scale ∣ d.coefficient

def sign (negative : Bool) (n : Nat) : Int := if negative then -n else n

/-- The part before the dot. -/
def truncate (d : Decimal) : Int := sign d.negative (d.coefficient / Nat.pow 10 d.scale)

/-- Removes the last digit; from five up it counts as one in the next place. -/
def dropDigit (n : Nat) : Nat := n / 10 + if 5 ≤ n % 10 then 1 else 0

/-! ### From doubles

A double is written as `m * 5 ^ k * 10 ^ e`, and the power of five is worked off one factor at a
time. -/

/-- Works `k` factors of five into `m` while it stays below the limit, and into the power of ten
otherwise. -/
def multiplyFives : (k m : Nat) → (e : Int) → Nat × Int
  | 0, m, e => (m, e)
  | k + 1, m, e =>
    if m % 2 = 0 then multiplyFives k (m / 2) (e + 1)
    else if m * 5 < limit then multiplyFives k (m * 5) e
    else multiplyFives k (m / 2) (e + 1)

/-- Works `k` divisions by five into `m`, doubling it where it has room. -/
def divideFives? : (k m : Nat) → (e : Int) → Option (Nat × Int)
  | 0, m, e => some (m, e)
  | k + 1, m, e =>
    if m < Nat.pow 2 95 then divideFives? k (m * 2) (e - 1)
    else if k + 1 < e * 2 then none
    else divideFives? k (m / 5) e

/-- Works a positive power of ten into `m`. -/
def multiplyTens? : (k m : Nat) → Option Nat
  | 0, m => some m
  | k + 1, m => if m * 10 < limit then multiplyTens? k (m * 10) else none

/-- Drops places beyond the largest scale. What vanishes on the way is zero. -/
def dropExcess : (scale m : Nat) → Nat × Nat
  | 0, m => (m, 0)
  | scale + 1, m =>
    if scale + 1 ≤ maxScale then (m, scale + 1)
    else if m / 10 = 0 then (0, 0)
    else dropExcess scale (dropDigit m)

/-- Drops places that a double does not carry. -/
def dropNoise : (scale m : Nat) → Nat × Nat
  | 0, m => (m, 0)
  | scale + 1, m => if Nat.pow 2 52 ≤ m then dropNoise scale (dropDigit m) else (m, scale + 1)

def dropZeros : (scale m : Nat) → Nat × Nat
  | 0, m => (m, 0)
  | scale + 1, m => if m % 10 = 0 then dropZeros scale (m / 10) else (m, scale + 1)

/-- The places of a coefficient, cleaned up in three steps. -/
def clean (scale m : Nat) : Nat × Nat :=
  let (m, scale) := dropExcess scale m
  let (m, scale) := dropNoise scale m
  dropZeros scale m

/-- The magnitude of a positive number of smallest steps as a coefficient and a scale. -/
def magnitude? (units : Nat) : Option (Nat × Nat) := do
  let shift := units.log2 - 52
  let m := units / Nat.pow 2 shift
  let e : Int := shift - 1074
  let (m, tens) ←
    if e < 0 then some (multiplyFives (-e).toNat m e) else divideFives? e.toNat m e
  let m ← multiplyTens? tens.toNat m
  return clean (-tens).toNat m

/-- The decimal for a double of moderate size. -/
def ofDouble? : Double → Option Decimal
  | .finite s 0 _ => some ⟨s, 0, 0⟩
  | .finite s u _ => (magnitude? u).map fun (m, scale) => ⟨s, m, scale⟩
  | _ => none

/-! ### To doubles -/

/-- The whole part and the fraction are converted apart, and their sum is rounded at the last
place of the decimal. -/
def toDouble (d : Decimal) : Double :=
  let magnitude :=
    if d.scale = 0 then Double.ofNat d.coefficient
    else
      let whole := Double.ofNat (d.coefficient / Nat.pow 10 d.scale)
      let fraction := d.coefficient % Nat.pow 10 d.scale
      if fraction = 0 then whole
      else
        let part := (Double.ofNat fraction).div (Double.ofNat (Nat.pow 10 d.scale))
        let power := Double.tenPower d.scale
        (((whole.add part).mul power).round).div power
  if d.negative && !d.isZero then magnitude.neg else magnitude

/-- Rounds to a number of places, half away from zero. -/
def roundTo (d : Decimal) (places : Nat) : Decimal :=
  if d.scale ≤ places then d
  else
    let unit := Nat.pow 10 (d.scale - places)
    ⟨d.negative, (2 * d.coefficient + unit) / (2 * unit), places⟩

end Decimal
end Formulas
