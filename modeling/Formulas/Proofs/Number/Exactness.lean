import Formulas.Proofs.Double.Exact
import Formulas.Proofs.Number.Comparison
import Formulas.Proofs.Value.Equality
import Mathlib.Algebra.Order.Field.Basic
import Mathlib.Algebra.Order.Field.Rat
import Mathlib.Algebra.Order.Ring.Cast
import Mathlib.Data.Int.Cast.Lemmas

/-! Equality of numbers against their exact values. Main statement: `equality_by_value_iff_fits`. -/
namespace Formulas

namespace Double

/-- The exact value of a finite double. -/
def value? : Double → Option ℚ
  | .finite negative units _ => some (signed negative units / one)
  | _ => none

theorem rank?_infinity (s : Bool) : (infinity s).rank? = some (signed s limit) := by
  cases s <;> rfl

theorem rank?_finite {s : Bool} {u : Nat} (h : Representable u) :
    (finite s u h).rank? = some (signed s u) := by
  cases s <;> rfl

theorem value?_finite {s : Bool} {u : Nat} (h : Representable u) :
    (finite s u h).value? = some (signed s u / one : ℚ) := rfl

theorem cast_one_pos : (0 : ℚ) < one := Nat.cast_pos.mpr one_pos

theorem one_ne_zero : (one : ℚ) ≠ 0 := cast_one_pos.ne'

/-- The value of a double that is some number of parts of one. -/
theorem value?_of_parts {x : Double} {c : Int} {k part : Nat} (hone : one = k * part)
    (hx : x.isFinite) (hrank : x.rank? = some (c * part)) : x.value? = some (c / k : ℚ) := by
  have hpart : (part : ℚ) ≠ 0 := by
    intro h
    rw [Nat.cast_eq_zero.mp h] at hone
    exact Nat.ne_of_gt one_pos hone
  cases x with
  | nan | infinity => cases hx
  | finite s u hu =>
    rw [rank?_finite, Option.some_inj] at hrank
    rw [value?_finite, hrank, hone, Int.cast_mul, Nat.cast_mul, Int.cast_natCast,
      mul_div_mul_right _ _ hpart]

theorem signed_ne_limit {s t : Bool} {u : Nat} (hu : u < limit) :
    signed s u ≠ signed t limit := by
  unfold signed
  split <;> split <;> omega

theorem abs_value (s : Bool) (u : Nat) : |(signed s u / one : ℚ)| = u / one := by
  have habs : |(signed s u : ℚ)| = u := by
    rw [← Int.cast_abs, Int.abs_eq_natAbs, natAbs_signed]
    rfl
  rw [abs_div, habs, Nat.abs_cast]

/-- A finite double equals what has the same value. -/
theorem eq_iff_value? {x y : Double} (hx : x.isFinite) : x.eq y ↔ y.value? = x.value? := by
  cases x with
  | nan | infinity => cases hx
  | finite s u hu =>
    rw [eq_iff, rank?_finite, value?_finite]
    cases y with
    | nan => exact iff_of_false (fun ⟨a, _, h⟩ => nomatch h) nofun
    | infinity t =>
      refine iff_of_false (fun ⟨a, h, h'⟩ => ?_) nofun
      rw [rank?_infinity] at h'
      exact signed_ne_limit hu.1 (Option.some.inj (h.trans h'.symm))
    | finite t v hv =>
      rw [rank?_finite, value?_finite, Option.some_inj, div_left_inj' one_ne_zero, Int.cast_inj]
      constructor
      · intro ⟨a, h, h'⟩
        exact Option.some.inj (h'.trans h.symm)
      · intro h
        exact ⟨_, rfl, congrArg some h⟩

theorem value?_nearest (negative : Bool) {num den : Nat} (h : rounded num den < limit) :
    (nearest negative num den).value? =
      some (signed negative (rounded num den) / one : ℚ) := by
  unfold nearest
  exact congrArg value? (dif_pos h)

/-! ### Integers that fit -/

/-- At most 53 binary digits carry the integer. -/
def Fits (n : Int) : Prop := 2 ^ excess n.natAbs ∣ n.natAbs

theorem fits_of_le {n : Int} (h : n.natAbs ≤ 2 ^ 53) : Fits n := by
  have hdvd := pow_dvd_mul_pow (s := 0) h
  simpa [Fits, excess] using hdvd

theorem signed_inj {s : Bool} {u v : Nat} : signed s u = signed s v ↔ u = v := by
  unfold signed
  split <;> omega

theorem cast_mul_one (n : Int) : (n * one : ℚ) = (signed (n < 0) (n.natAbs * one) : Int) := by
  rw [signed_natAbs]
  push_cast
  rfl

/-- No integer of 64 bits is as large as the limit, not even once it is rounded. -/
theorem rounded_lt_limit (a : Int64) : rounded (a.toInt.natAbs * one) 1 < limit := by
  have hlow := a.le_toInt
  have hhigh := a.toInt_lt
  have hbound : a.toInt.natAbs ≤ 2 ^ 63 := by omega
  have hexact : rounded (2 ^ 63 * one) 1 = 2 ^ 63 * one :=
    rounded_integer_iff.mpr (by decide +kernel)
  calc rounded (a.toInt.natAbs * one) 1 ≤ rounded (2 ^ 63 * one) 1 :=
        rounded_mono (Nat.mul_le_mul_right one hbound) 1
    _ = 2 ^ 63 * one := hexact
    _ < limit := by decide +kernel

theorem value?_ofInt (a : Int64) : (ofInt a.toInt).value? =
    some (signed (a.toInt < 0) (rounded (a.toInt.natAbs * one) 1) / one : ℚ) :=
  value?_nearest _ (rounded_lt_limit a)

theorem isFinite_of_value? {x : Double} {q : ℚ} (h : x.value? = some q) : x.isFinite := by
  cases x with
  | nan | infinity => cases h
  | finite => rfl

/-- What fits keeps its value as a double. -/
theorem value?_ofInt_eq_iff (a : Int64) :
    (ofInt a.toInt).value? = some (a.toInt : ℚ) ↔ Fits a.toInt := by
  rw [value?_ofInt, Option.some_inj, div_eq_iff one_ne_zero, cast_mul_one, Int.cast_inj,
    signed_inj, rounded_integer_iff, Fits]

/-- A whole number in smallest steps. -/
theorem units_of_value? {s : Bool} {u : Nat} {hu : Representable u} {n : Int}
    (h : (finite s u hu).value? = some (n : ℚ)) : u = n.natAbs * one := by
  have hvalue : (signed s u / one : ℚ) = n := Option.some.inj h
  rw [div_eq_iff one_ne_zero] at hvalue
  have hunits : signed s u = n * one := by exact_mod_cast hvalue
  rw [← Int.natAbs_natCast one, ← Int.natAbs_mul, ← hunits, signed]
  split <;> omega

/-- What does not fit is the value of no double. -/
theorem fits_of_value? {x : Double} {n : Int} (h : x.value? = some (n : ℚ)) : Fits n := by
  cases x with
  | nan | infinity => cases h
  | finite s u hu =>
    -- The units of a double leave no room for more than 53 digits.
    refine rounded_integer_iff.mp (rounded_of_dvd ?_)
    rw [← units_of_value? h]
    exact hu.2

theorem isFinite_ofInt (a : Int64) : (ofInt a.toInt).isFinite :=
  isFinite_of_value? (value?_ofInt a)

/-- The doubles that equal an integer are those of its own value exactly if it fits. -/
theorem fits_iff_forall_eq (a : Int64) :
    Fits a.toInt ↔ ∀ x : Double, x.isFinite →
      ((ofInt a.toInt).eq x ↔ x.value? = some (a.toInt : ℚ)) := by
  constructor
  · intro hfits x _
    rw [eq_iff_value? (isFinite_ofInt a), (value?_ofInt_eq_iff a).mpr hfits]
  · -- The double that equals the integer in any case tells whether it fits.
    intro h
    have hself : (ofInt a.toInt).eq (ofInt a.toInt) := eq_self_iff.mpr (isNan_ofInt _)
    exact fits_of_value? ((h _ (isFinite_ofInt a)).mp hself)

end Double

namespace Number

theorem Blurred.not_fits {m n : Int64} (h : Blurred (.int m) (.int n)) :
    ¬ (Double.Fits m.toInt ∧ Double.Fits n.toInt) := by
  obtain ⟨hlt, heq⟩ := blurred_int_iff.mp h
  rintro ⟨hm, hn⟩
  rw [Double.eq_iff_value? (Double.isFinite_ofInt m), (Double.value?_ofInt_eq_iff m).mpr hm,
    (Double.value?_ofInt_eq_iff n).mpr hn, Option.some_inj, Int.cast_inj] at heq
  omega

end Number

namespace Value

theorem strictEq_int_double (a : Int64) (b : Double) :
    (int a).strictEq (.double b) = (Double.ofInt a.toInt).eq b :=
  strictEq_number (.int a) (.double b)

theorem strictEq_double_int (b : Double) (a : Int64) :
    (double b).strictEq (.int a) = b.eq (.ofInt a.toInt) :=
  strictEq_number (.double b) (.int a)

/-- An integer equals a double of its value, and no other double if and only if it fits, as all up
to `2 ^ 53` do. Equality carries over from number to number but for two blurred integers, of which
one does not fit. -/
theorem equality_by_value_iff_fits (a : Int64) (x y z : Number) :
    (∀ b : Double, b.value? = some (a.toInt : ℚ) → (int a).strictEq (.double b)) ∧
    (Double.Fits a.toInt ↔ ∀ b : Double, b.isFinite →
      ((int a).strictEq (.double b) ↔ b.value? = some (a.toInt : ℚ))) ∧
    (a.toInt.natAbs ≤ 2 ^ 53 → Double.Fits a.toInt) ∧
    ((number x).strictEq (.number y) → (number y).strictEq (.number z) →
      ((number x).strictEq (.number z) ↔ ¬ Number.Blurred x z ∧ ¬ Number.Blurred z x)) ∧
    (∀ m n : Int64, Number.Blurred (.int m) (.int n) →
      ¬ (Double.Fits m.toInt ∧ Double.Fits n.toInt)) := by
  simp only [strictEq_int_double, strictEq_number]
  have hfits := Double.fits_iff_forall_eq a
  refine ⟨fun b hb => ?_, hfits, Double.fits_of_le, fun hxy hyz => ?_,
    fun m n => Number.Blurred.not_fits⟩
  · exact (hfits.mp (Double.fits_of_value? hb) b (Double.isFinite_of_value? hb)).mpr hb
  · exact Number.eq_iff_not_blurred
      (Double.eq_trans (Number.toDouble_eq_of_eq hxy) (Number.toDouble_eq_of_eq hyz))

/-- Blurred integers differ, but the double that both become equals both. -/
theorem equal_one_double_of_blurred {m n : Int64} (h : Number.Blurred (.int m) (.int n)) :
    (int m).strictEq (.double (.ofInt m.toInt)) ∧
    (double (.ofInt m.toInt)).strictEq (.int n) ∧ ¬ (int m).strictEq (.int n) := by
  obtain ⟨hlt, heq⟩ := Number.blurred_int_iff.mp h
  have hself : (Double.ofInt m.toInt).eq (.ofInt m.toInt) :=
    Double.eq_self_iff.mpr (Double.isNan_ofInt _)
  rw [strictEq_int_double, strictEq_double_int]
  refine ⟨hself, heq, fun h => ?_⟩
  obtain rfl : m = n := of_decide_eq_true ((strictEq_number (.int m) (.int n)).symm.trans h)
  omega

/-- The double has the value of the first integer, and it equals the second one too. -/
theorem different_integers_equal_one_double :
    (Double.ofInt 9007199254740992).value? = some 9007199254740992 ∧
    (int 9007199254740992).strictEq (.double (.ofInt 9007199254740992)) ∧
    (double (.ofInt 9007199254740992)).strictEq (.int 9007199254740993) ∧
    ¬ (int 9007199254740992).strictEq (.int 9007199254740993) := by
  have hint : (9007199254740992 : Int64).toInt = 9007199254740992 := by decide
  have hvalue := (Double.value?_ofInt_eq_iff 9007199254740992).mpr (Double.fits_of_le (by decide))
  have hequal := equal_one_double_of_blurred (m := 9007199254740992) (n := 9007199254740993)
    (Number.blurred_int_iff.mpr ⟨by decide, by decide +kernel⟩)
  rw [hint] at hvalue hequal
  exact ⟨hvalue, hequal⟩

end Value

end Formulas
