import Formulas.Number.Basic
import Formulas.Proofs.Double.Rounding

/-! Comparison and equality of numbers of both kinds, and the integers that become the same
double. -/
namespace Formulas

namespace Number

/-- Two integers compare by their values, and what compares a double with a number is the comparison
of doubles. -/
theorem compare?_swap (x y : Number) : y.compare? x = (x.compare? y).map Ordering.swap := by
  cases x with
  | int m =>
    cases y with
    | int n => exact congrArg some Std.OrientedCmp.eq_swap
    | double y => exact Double.compare?_swap _ _
  | double x => cases y <;> exact Double.compare?_swap _ _

theorem compare?_eq_none_iff {x y : Number} : x.compare? y = none ↔ x.isNan ∨ y.isNan := by
  cases x with
  | int m =>
    cases y with
    | int n =>
      have hnan (k : Int64) : (int k).isNan = false := Double.isNan_ofInt k.toInt
      simp [compare?, hnan]
    | double y => exact Double.compare?_eq_none_iff
  | double x => cases y <;> exact Double.compare?_eq_none_iff

/-- Equality is what the comparison says, so it is in the middle between less and greater. -/
theorem eq_iff_compare? {x y : Number} : x.eq y ↔ x.compare? y = some .eq := by
  cases x with
  | int m =>
    cases y with
    | int n => simp [Number.eq, compare?, Int64.toInt_inj]
    | double y => exact Double.eq_iff_compare?
  | double x => cases y <;> exact Double.eq_iff_compare?

theorem eq_comm (x y : Number) : x.eq y = y.eq x := by
  rw [Bool.eq_iff_iff, eq_iff_compare?, eq_iff_compare?, compare?_swap x y]
  cases x.compare? y with
  | none => simp
  | some o => cases o <;> simp

/-- Only what is no number differs from itself. -/
theorem eq_self_iff {x : Number} : x.eq x ↔ x ≠ .nan := by
  cases x with
  | int n => simp [Number.eq, nan]
  | double x =>
    have hnan : x.isNan = false ↔ x ≠ .nan := by cases x <;> simp [Double.isNan]
    rw [nan, ne_eq, double.injEq, ← ne_eq, ← hnan]
    exact Double.eq_self_iff

theorem eq_of_same {x y : Number} (h : x.same y) : x.eq y := by
  cases x <;> cases y <;> simp_all [same, Number.eq, toDouble]

theorem any_isLE_compare?_int {m n : Int64} :
    ((int m).compare? (int n)).any Ordering.isLE ↔ m.toInt ≤ n.toInt := by
  simp [compare?, Int.isLE_compare]

theorem any_isGE_compare?_iff {x y : Number} :
    (x.compare? y).any Ordering.isGE ↔ (y.compare? x).any Ordering.isLE := by
  rw [compare?_swap x y]
  cases x.compare? y <;> simp

theorem eq_iff_isLE {x y : Number} :
    x.eq y ↔ (x.compare? y).any Ordering.isLE ∧ (y.compare? x).any Ordering.isLE := by
  rw [eq_iff_compare?, compare?_swap x y]
  rcases x.compare? y with _ | _ | _ | _ <;> decide

/-- The first of two integers is smaller, but they become the same double. -/
def Blurred (x y : Number) : Prop :=
  ∃ m n : Int64, x = .int m ∧ y = .int n ∧ m.toInt < n.toInt ∧
    (Double.ofInt m.toInt).eq (Double.ofInt n.toInt)

theorem not_blurred_double_left (x : Double) (y : Number) : ¬ Blurred (.double x) y := by
  rintro ⟨m, n, hx, -⟩
  cases hx

theorem not_blurred_double_right (x : Number) (y : Double) : ¬ Blurred x (.double y) := by
  rintro ⟨m, n, -, hy, -⟩
  cases hy

theorem blurred_int_iff {m n : Int64} : Blurred (.int m) (.int n) ↔
    m.toInt < n.toInt ∧ (Double.ofInt m.toInt).eq (Double.ofInt n.toInt) := by
  constructor
  · rintro ⟨m', n', hm, hn, h⟩
    cases hm
    cases hn
    exact h
  · exact fun h => ⟨m, n, rfl, rfl, h⟩

/-- One of two blurred integers does not fit into the mantissa of a double. -/
theorem Blurred.large {m n : Int64} (h : Blurred (.int m) (.int n)) :
    2 ^ 53 < m.toInt.natAbs ∨ 2 ^ 53 < n.toInt.natAbs := by
  obtain ⟨hlt, heq⟩ := blurred_int_iff.mp h
  by_contra hsmall
  obtain ⟨hm, hn⟩ := not_or.mp hsmall
  have := Double.eq_of_ofInt_eq (Nat.le_of_not_lt hm) (Nat.le_of_not_lt hn) heq
  omega

/-- The order of two numbers is that of their doubles but for blurred integers. -/
theorem any_isLE_compare?_iff {x y : Number} (h : x.toDouble.le y.toDouble) :
    (x.compare? y).any Ordering.isLE ↔ ¬ Blurred y x := by
  cases x with
  | double x => exact iff_of_true h (not_blurred_double_right y x)
  | int m =>
    cases y with
    | double y => exact iff_of_true h (not_blurred_double_left y (.int m))
    | int n =>
      rw [any_isLE_compare?_int, blurred_int_iff]
      constructor
      · rintro hmn ⟨hlt, -⟩
        omega
      · intro hclear
        by_contra hgt
        have hback := Double.ofInt_le_ofInt (Int.le_of_lt (Int.not_le.mp hgt))
        exact hclear ⟨Int.not_le.mp hgt, Double.eq_of_le_of_le hback h⟩

theorem toDouble_le_of_isLE {x y : Number} (h : (x.compare? y).any Ordering.isLE) :
    x.toDouble.le y.toDouble := by
  cases x with
  | double x => exact h
  | int m =>
    cases y with
    | double y => exact h
    | int n => exact Double.ofInt_le_ofInt (any_isLE_compare?_int.mp h)

theorem toDouble_eq_of_eq {x y : Number} (h : x.eq y) : x.toDouble.eq y.toDouble := by
  cases x with
  | double x => cases y <;> exact h
  | int m =>
    cases y with
    | double y => exact h
    | int n =>
      obtain rfl : m = n := of_decide_eq_true h
      exact Double.eq_self_iff.mpr (Double.isNan_ofInt _)

/-- Numbers that become equal doubles are equal but for blurred integers. -/
theorem eq_iff_not_blurred {x y : Number} (h : x.toDouble.eq y.toDouble) :
    x.eq y ↔ ¬ Blurred x y ∧ ¬ Blurred y x := by
  rw [eq_iff_isLE, any_isLE_compare?_iff (Double.le_of_eq h),
    any_isLE_compare?_iff (Double.le_of_eq (Double.eq_symm h)), and_comm]

end Number

end Formulas
