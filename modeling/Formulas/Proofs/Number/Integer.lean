import Formulas.Operator
import Mathlib.Data.Rat.Cast.Order

/-! Arithmetic on integers of 64 bits, measured by the exact results. Main statements:
`integers_stay_exact` and `remainder_is_integer_iff`. -/
namespace Formulas

namespace Number

theorem int64?_eq_some_iff {n : Int} {r : Int64} : int64? n = some r ↔ r.toInt = n := by
  unfold int64?
  constructor
  · intro h
    split at h
    · next hrange =>
      rw [Int64.toInt_minValue, Int64.toInt_maxValue] at hrange
      obtain rfl := Option.some.inj h
      exact Int64.toInt_ofInt_of_le hrange.1 (by omega)
    · cases h
  · rintro rfl
    have hle := r.le_toInt
    have hlt := r.toInt_lt
    rw [if_pos ⟨by rw [Int64.toInt_minValue]; exact hle, by rw [Int64.toInt_maxValue]; omega⟩,
      Int64.ofInt_toInt]

/-- The range of 64 bits. -/
theorem isSome_int64?_iff {n : Int} : (int64? n).isSome ↔ -2 ^ 63 ≤ n ∧ n < 2 ^ 63 := by
  rw [Option.isSome_iff_exists]
  constructor
  · rintro ⟨r, hr⟩
    rw [← int64?_eq_some_iff.mp hr]
    exact ⟨r.le_toInt, r.toInt_lt⟩
  · rintro ⟨hle, hlt⟩
    exact ⟨Int64.ofInt n, int64?_eq_some_iff.mpr (Int64.toInt_ofInt_of_le hle hlt)⟩

theorem ofInt?_eq_some_iff {n : Int} {x : Number} :
    ofInt? n = some x ↔ ∃ r : Int64, x = .int r ∧ r.toInt = n := by
  simp only [ofInt?, Option.map_eq_some_iff, int64?_eq_some_iff]
  exact ⟨fun ⟨r, hr, hx⟩ => ⟨r, hx.symm, hr⟩, fun ⟨r, hx, hr⟩ => ⟨r, hr, hx.symm⟩⟩

theorem ofInt_toInt (n : Int64) : ofInt n.toInt = .int n := by
  rw [ofInt, ofInt?_eq_some_iff.mpr ⟨n, rfl, rfl⟩, Option.getD_some]

end Number

open Number

/-- A result is an integer exactly where the exact result is a whole number in range, and then it is
that number. In all other cases it is a double. -/
structure IntegerIfExact (result : Value) (exact : Option ℚ) : Prop where
  int_iff : ∀ r : Int64, result = .int r ↔ exact = some (r.toInt : ℚ)
  exists_int_iff : (∃ r, result = .int r) ↔ ∃ n : ℤ, exact = some (n : ℚ) ∧ -2 ^ 63 ≤ n ∧ n < 2 ^ 63
  int_or_double : (∃ r, result = .int r) ∨ ∃ x, result = .double x

/-- An exact integer that is replaced by a double where it is missing or out of range. -/
theorem integerIfExact {exact : Option ℚ} {n? : Option ℤ}
    (h : ∀ n : ℤ, n? = some n ↔ exact = some (n : ℚ)) (x : Double) :
    IntegerIfExact (.number ((n? >>= ofInt?).getD (.double x))) exact := by
  have int_iff (r : Int64) :
      Value.number ((n? >>= ofInt?).getD (.double x)) = .int r ↔ exact = some (r.toInt : ℚ) := by
    rw [← h, Value.int, Value.number.injEq]
    constructor
    · intro hr
      cases hn : n? >>= ofInt? with
      | none => simp [hn] at hr
      | some y =>
        obtain ⟨n, hn, hy⟩ := Option.bind_eq_some_iff.mp hn
        obtain ⟨s, rfl, rfl⟩ := ofInt?_eq_some_iff.mp hy
        simp_all
    · rintro rfl
      have hr : ofInt? r.toInt = some (.int r) := ofInt?_eq_some_iff.mpr ⟨r, rfl, rfl⟩
      simp [hr]
  refine ⟨int_iff, ?_, ?_⟩
  · simp only [int_iff]
    constructor
    · rintro ⟨r, hr⟩
      exact ⟨r.toInt, hr, r.le_toInt, r.toInt_lt⟩
    · rintro ⟨n, hn, hle, hlt⟩
      exact ⟨Int64.ofInt n, by rw [hn, Int64.toInt_ofInt_of_le hle hlt]⟩
  · cases hn : n? >>= ofInt? with
    | none => exact .inr ⟨x, rfl⟩
    | some y =>
      obtain ⟨n, -, hy⟩ := Option.bind_eq_some_iff.mp hn
      obtain ⟨r, rfl, -⟩ := ofInt?_eq_some_iff.mp hy
      exact .inl ⟨r, rfl⟩

namespace Arithmetic

/-- The exact results, remainders aside. Nothing is divided by zero. -/
def onRational? : Arithmetic → ℚ → ℚ → Option ℚ
  | .add, x, y => some (x + y)
  | .subtract, x, y => some (x - y)
  | .multiply, x, y => some (x * y)
  | .divide, x, y => if y = 0 then none else some (x / y)
  | .remainder, _, _ => none

theorem divide_onInt?_eq_some_iff {a b n : ℤ} :
    divide.onInt? a b = some n ↔ b ≠ 0 ∧ a = n * b := by
  simp only [onInt?]
  constructor
  · intro h
    split at h
    · next hexact =>
      have hdvd : b ∣ a := Int.dvd_iff_tmod_eq_zero.mpr hexact.2
      exact ⟨hexact.1, (Int.tdiv_eq_iff_eq_mul_left hexact.1 hdvd).mp (Option.some.inj h)⟩
    · cases h
  · rintro ⟨hb, rfl⟩
    have hdvd : b ∣ n * b := Dvd.intro_left n rfl
    rw [if_pos ⟨hb, Int.dvd_iff_tmod_eq_zero.mp hdvd⟩, Int.tdiv_eq_of_eq_mul_left hb rfl]

theorem onInt?_eq_some_iff_onRational? {op : Arithmetic} (hop : op ≠ .remainder) (a b n : ℤ) :
    op.onInt? a b = some n ↔ op.onRational? a b = some (n : ℚ) := by
  cases op with
  | add =>
    rw [onInt?, onRational?, Option.some_inj, Option.some_inj]
    exact_mod_cast Iff.rfl
  | subtract =>
    rw [onInt?, onRational?, Option.some_inj, Option.some_inj]
    exact_mod_cast Iff.rfl
  | multiply =>
    rw [onInt?, onRational?, Option.some_inj, Option.some_inj]
    exact_mod_cast Iff.rfl
  | divide =>
    rw [divide_onInt?_eq_some_iff, onRational?]
    by_cases hb : b = 0
    · simp [hb]
    · have hb' : (b : ℚ) ≠ 0 := by exact_mod_cast hb
      rw [if_neg hb', Option.some_inj, div_eq_iff hb']
      exact_mod_cast and_iff_right hb
  | remainder => exact absurd rfl hop

theorem onIntegers?_eq {op : Arithmetic} (hop : op ≠ .remainder) (a b : Int64) :
    op.onIntegers? a b = op.onInt? a.toInt b.toInt >>= ofInt? := by
  rw [onIntegers?, if_neg fun h => hop h.1]

theorem apply_numbers (op : Arithmetic) (a b : Number) :
    (BinaryOp.arithmetic op).apply (.number a) (.number b) = .number (op.apply a b) :=
  if_neg fun h => h.2.elim Bool.false_ne_true Bool.false_ne_true

/-- On two integers any operation is done on doubles where there is no integer result. -/
theorem apply_int (op : Arithmetic) (a b : Int64) :
    (BinaryOp.arithmetic op).apply (.int a) (.int b) =
      .number ((op.onIntegers? a b).getD
        (.double (op.onDouble (.ofInt a.toInt) (.ofInt b.toInt)))) :=
  apply_numbers op (.int a) (.int b)

theorem integerIfExact_apply {op : Arithmetic} (hop : op ≠ .remainder) (a b : Int64) :
    IntegerIfExact ((BinaryOp.arithmetic op).apply (.int a) (.int b))
      (op.onRational? a.toInt b.toInt) := by
  rw [apply_int, onIntegers?_eq hop]
  exact integerIfExact (onInt?_eq_some_iff_onRational? hop a.toInt b.toInt) _

/-- The remainder of a division that cuts the quotient to an integer. -/
def IsRemainder (a b r : ℤ) : Prop :=
  (∃ q, a = b * q + r) ∧ |r| < |b| ∧ (r = 0 ∨ r.sign = a.sign)

theorem isRemainder_tmod (a : ℤ) {b : ℤ} (hb : b ≠ 0) : IsRemainder a b (a.tmod b) := by
  refine ⟨⟨a.tdiv b, (Int.mul_tdiv_add_tmod a b).symm⟩, ?_, ?_⟩
  · rw [Int.abs_eq_natAbs, Int.abs_eq_natAbs, Int.natAbs_tmod]
    exact_mod_cast Nat.mod_lt _ (Int.natAbs_pos.mpr hb)
  · by_cases hdvd : b ∣ a
    · exact .inl (Int.dvd_iff_tmod_eq_zero.mp hdvd)
    · exact .inr (by rw [Int.sign_tmod, if_neg hdvd])

theorem toInt_ne_zero {b : Int64} (hb : b ≠ 0) : b.toInt ≠ 0 := by
  rwa [← Int64.toInt_zero, ne_eq, Int64.toInt_inj]

/-- Only the quotient of the smallest integer by minus one is out of range. -/
theorem quotientFits_iff {a b : Int64} (hb : b ≠ 0) :
    quotientFits a.toInt b.toInt ↔ ¬ (a = .minValue ∧ b = -1) := by
  have hmin : a = .minValue ↔ a.toInt = -2 ^ 63 := by
    rw [← Int64.toInt_minValue, Int64.toInt_inj]
  have hminus : b = -1 ↔ b.toInt = -1 := by
    rw [← show (-1 : Int64).toInt = -1 by decide, Int64.toInt_inj]
  have hzero := toInt_ne_zero hb
  have hle := a.le_toInt
  have hlt := a.toInt_lt
  rw [quotientFits, isSome_int64?_iff, hmin, hminus]
  by_cases hone : b.toInt.natAbs = 1
  · rcases (show b.toInt = 1 ∨ b.toInt = -1 by omega) with h | h
    · rw [h, Int.tdiv_one]
      omega
    · rw [h, Int.tdiv_neg, Int.tdiv_one]
      omega
  · -- Any other divisor at least halves the dividend.
    have hhalf : (a.toInt.tdiv b.toInt).natAbs ≤ a.toInt.natAbs / 2 := by
      rw [Int.natAbs_tdiv]
      exact Nat.div_le_div_left (by omega) (by decide)
    omega

theorem onIntegers?_remainder {a b : Int64} (hb : b ≠ 0) (hfits : ¬ (a = .minValue ∧ b = -1)) :
    ∃ r : Int64, remainder.onIntegers? a b = some (.int r) ∧ r.toInt = a.toInt.tmod b.toInt := by
  have hzero := toInt_ne_zero hb
  have habs : (a.toInt.tmod b.toInt).natAbs < b.toInt.natAbs := by
    rw [Int.natAbs_tmod]
    exact Nat.mod_lt _ (Int.natAbs_pos.mpr hzero)
  have hle := b.le_toInt
  have hlt := b.toInt_lt
  have hr : (Int64.ofInt (a.toInt.tmod b.toInt)).toInt = a.toInt.tmod b.toInt :=
    Int64.toInt_ofInt_of_le (by omega) (by omega)
  refine ⟨Int64.ofInt (a.toInt.tmod b.toInt), ?_, hr⟩
  have hquotient : ¬ (remainder = .remainder ∧ !quotientFits a.toInt b.toInt) := by
    simp [(quotientFits_iff hb).mpr hfits]
  rw [onIntegers?, if_neg hquotient, onInt?, if_pos hzero]
  exact ofInt?_eq_some_iff.mpr ⟨_, rfl, hr⟩

end Arithmetic

open Arithmetic

theorem neg_int (a : Int64) :
    UnaryOp.negate.apply (.int a) =
      .number ((some (-a.toInt) >>= ofInt?).getD (.double (.ofInt (-a.toInt)))) := rfl

/-- Sums, differences, products and quotients of integers, and the operators before an integer that
compute a number, give an integer exactly where the exact result is one in range, and a double
everywhere else. -/
theorem integers_stay_exact {op : Arithmetic} (hop : op ≠ .remainder) (a b : Int64) :
    IntegerIfExact ((BinaryOp.arithmetic op).apply (.int a) (.int b))
      (op.onRational? a.toInt b.toInt) ∧
    IntegerIfExact (UnaryOp.negate.apply (.int a)) (some (-a.toInt : ℚ)) ∧
    IntegerIfExact (UnaryOp.increment.apply (.int a)) (some (a.toInt + 1 : ℚ)) ∧
    IntegerIfExact (UnaryOp.decrement.apply (.int a)) (some (a.toInt - 1 : ℚ)) := by
  have hone : ((1 : Int64).toInt : ℚ) = 1 := by simp
  refine ⟨integerIfExact_apply hop a b, ?_, ?_, ?_⟩
  · rw [neg_int]
    refine integerIfExact (fun n => ?_) _
    rw [Option.some_inj, Option.some_inj]
    exact_mod_cast Iff.rfl
  · have h := integerIfExact_apply (show Arithmetic.add ≠ .remainder by decide) a 1
    rwa [onRational?, hone] at h
  · have h := integerIfExact_apply (show Arithmetic.subtract ≠ .remainder by decide) a 1
    rwa [onRational?, hone] at h

/-- The quotient is exact and one too large. -/
theorem smallest_quotient_leaves_integers : Arithmetic.divide ≠ .remainder ∧
    ∃ x, (BinaryOp.arithmetic .divide).apply (.int .minValue) (.int (-1)) = .double x := by
  have hop : Arithmetic.divide ≠ .remainder := by decide
  refine ⟨hop, ?_⟩
  have h := (integers_stay_exact hop .minValue (-1)).1
  refine h.int_or_double.resolve_left fun hint => ?_
  obtain ⟨n, hn, -, hlt⟩ := h.exists_int_iff.mp hint
  have hminus : (-1 : Int64).toInt = -1 := by decide
  rw [onRational?, Int64.toInt_minValue, hminus, if_neg (by norm_num), Option.some_inj] at hn
  have : (n : ℚ) = (2 ^ 63 : ℤ) := by rw [← hn]; norm_num
  have : n = 2 ^ 63 := by exact_mod_cast this
  omega

/-- The remainder is zero, but the quotient that it belongs to is out of range. -/
theorem remainder_of_smallest :
    (BinaryOp.arithmetic .remainder).apply (.int .minValue) (.int (-1)) = .double (.zero true) :=
  congrArg Value.number (by decide +kernel)

/-- A remainder by an integer other than zero is an integer. The only exception is that of the
smallest integer by minus one, which is a double. -/
theorem remainder_is_integer_iff {a b : Int64} (hb : b ≠ 0) :
    ((∃ r : Int64, (BinaryOp.arithmetic .remainder).apply (.int a) (.int b) = .int r ∧
        IsRemainder a.toInt b.toInt r.toInt) ↔ ¬ (a = .minValue ∧ b = -1)) ∧
    (a = .minValue ∧ b = -1 →
      (BinaryOp.arithmetic .remainder).apply (.int a) (.int b) = .double (.zero true)) := by
  refine ⟨⟨?_, fun hfits => ?_⟩, ?_⟩
  · rintro ⟨r, hr, -⟩ ⟨rfl, rfl⟩
    rw [remainder_of_smallest] at hr
    cases hr
  · obtain ⟨r, hr, hmod⟩ := onIntegers?_remainder hb hfits
    have hzero := toInt_ne_zero hb
    exact ⟨r, by rw [apply_int, hr]; rfl, hmod ▸ isRemainder_tmod a.toInt hzero⟩
  · rintro ⟨rfl, rfl⟩
    exact remainder_of_smallest

/-- The divisor has the sign that the exception has, and the dividend is the same. -/
theorem remainder_of_smallest_by_largest : (Int64.maxValue : Int64) ≠ 0 ∧
    ∃ r : Int64, (BinaryOp.arithmetic .remainder).apply (.int .minValue) (.int .maxValue) = .int r ∧
      IsRemainder (-2 ^ 63) (2 ^ 63 - 1) r.toInt := by
  have hb : (Int64.maxValue : Int64) ≠ 0 := by decide
  refine ⟨hb, ?_⟩
  rw [← Int64.toInt_minValue, ← Int64.toInt_maxValue]
  exact (remainder_is_integer_iff hb).1.mpr (by decide)

/-- Zero is the remainder and a double is the result. -/
theorem smallest_remainder_leaves_integers : IsRemainder (-2 ^ 63) (-1) 0 ∧
    ∀ r : Int64, (BinaryOp.arithmetic .remainder).apply (.int .minValue) (.int (-1)) ≠ .int r := by
  refine ⟨⟨⟨2 ^ 63, by norm_num⟩, by norm_num, .inl rfl⟩, fun r hr => ?_⟩
  rw [remainder_of_smallest] at hr
  cases hr

end Formulas
