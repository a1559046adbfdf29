/-! Binary floating-point numbers of 64 bits as exact multiples of their smallest step. -/
namespace Formulas

namespace Double

/-- The number of smallest steps in one. -/
def one : Nat := Nat.pow 2 1074

/-- The first multiple of the smallest step that is too large. -/
def limit : Nat := Nat.pow 2 2098

theorem limit_pos : 0 < limit := by decide +kernel

/-- At most 53 binary digits carry the value. -/
def Representable (units : Nat) : Prop :=
  units < limit ∧ Nat.pow 2 (units.log2 - 52) ∣ units

instance (units : Nat) : Decidable (Representable units) :=
  inferInstanceAs (Decidable (_ ∧ _))

end Double

/-- A finite number is `units` smallest steps of size `2 ^ (-1074)`, and zero keeps its sign. -/
inductive Double where
  | nan
  | infinity (negative : Bool)
  | finite (negative : Bool) (units : Nat) (representable : Double.Representable units)
  deriving DecidableEq

namespace Double

/-- The integer nearest to `num / den`, the even one of two. -/
def roundEven (num den : Nat) : Nat :=
  let q := num / den
  let twice := 2 * (num % den)
  if den < twice ∨ (twice = den ∧ q % 2 = 1) then q + 1 else q

theorem roundEven_le (num den : Nat) : roundEven num den ≤ num / den + 1 := by
  unfold roundEven
  simp only
  split <;> omega

/-- How many binary digits of an integer part do not fit. -/
def excess (n : Nat) : Nat := n.log2 - 52

theorem div_pow_excess_lt (n : Nat) : n / Nat.pow 2 (excess n) < Nat.pow 2 53 := by
  simp only [Nat.pow_eq]
  by_cases hn : n = 0
  · subst hn
    simp
  · rw [Nat.div_lt_iff_lt_mul (Nat.two_pow_pos _), ← Nat.pow_add]
    exact Nat.lt_of_lt_of_le Nat.lt_log2_self
      (Nat.pow_le_pow_right (by decide) (by unfold excess; omega))

theorem pow_dvd_mul_pow {m s : Nat} (h : m ≤ Nat.pow 2 53) :
    Nat.pow 2 ((m * Nat.pow 2 s).log2 - 52) ∣ m * Nat.pow 2 s := by
  simp only [Nat.pow_eq] at *
  by_cases hm : m = 0
  · subst hm
    simp
  have hpos : m * 2 ^ s ≠ 0 := Nat.mul_ne_zero hm (Nat.ne_of_gt (Nat.two_pow_pos s))
  by_cases hlt : m < 2 ^ 53
  · have hlog : (m * 2 ^ s).log2 < 53 + s := by
      rw [Nat.log2_lt hpos, Nat.pow_add]
      exact Nat.mul_lt_mul_of_pos_right hlt (Nat.two_pow_pos s)
    exact Nat.dvd_trans (Nat.pow_dvd_pow 2 (by omega)) (Nat.dvd_mul_left _ _)
  · have : m = 2 ^ 53 := by omega
    subst this
    rw [← Nat.pow_add, Nat.log2_two_pow]
    exact Nat.pow_dvd_pow 2 (by omega)

/-- The mantissa of `num / den` once the excess digits of the quotient are rounded away. -/
def mantissa (num den : Nat) : Nat :=
  roundEven num (den * Nat.pow 2 (excess (num / den)))

theorem mantissa_le (num den : Nat) : mantissa num den ≤ Nat.pow 2 53 := by
  have h := roundEven_le num (den * Nat.pow 2 (excess (num / den)))
  have hlt := div_pow_excess_lt (num / den)
  rw [Nat.div_div_eq_div_mul] at hlt
  unfold mantissa
  omega

/-- The double nearest to `num / den` smallest steps, with the even mantissa on a tie. -/
def nearest (negative : Bool) (num den : Nat) : Double :=
  let units := mantissa num den * Nat.pow 2 (excess (num / den))
  if h : units < limit then
    .finite negative units ⟨h, pow_dvd_mul_pow (mantissa_le num den)⟩
  else .infinity negative

def zero (negative : Bool) : Double := .finite negative 0 ⟨limit_pos, Nat.dvd_zero _⟩

def ofInt (n : Int) : Double := nearest (n < 0) (n.natAbs * one) 1

def ofNat (n : Nat) : Double := nearest false (n * one) 1

def isNan : Double → Bool
  | .nan => true
  | _ => false

def isFinite : Double → Bool
  | .finite .. => true
  | _ => false

/-- The place on the line in smallest steps; the infinities lie just outside all finite ones. -/
def rank? : Double → Option Int
  | .nan => none
  | .infinity false => some limit
  | .infinity true => some (-limit)
  | .finite false units _ => some units
  | .finite true units _ => some (-units)

/-- The order of the values; the two zeros are equal, and nothing compares with no number. -/
def compare? (x y : Double) : Option Ordering := do
  return compare (← x.rank?) (← y.rank?)

/-- Equality of values. -/
def eq (x y : Double) : Bool := compare? x y == some .eq

def lt (x y : Double) : Bool := compare? x y == some .lt

def le (x y : Double) : Bool := (compare? x y).any Ordering.isLE

def ge (x y : Double) : Bool := (compare? x y).any Ordering.isGE

end Double
end Formulas
