import Formulas.Number.Arithmetic
import Formulas.Proofs.Double.Exact
import Formulas.Proofs.Number.Integer

/-! The number for a decimal. Main statements: `toDouble_of_whole` and `toDouble_of_short`, where no
step of the conversion rounds. -/
namespace Formulas

namespace Double

variable {n : Nat}

theorem tenPower_of_le (hn : n ≤ 22) : tenPower n = ofNat (10 ^ n) := by
  have hall : ∀ n ∈ List.range 23, tenPower n = ofNat (10 ^ n) := by decide +kernel
  exact hall n (List.mem_range.mpr (by omega))

theorem representable_ten_pow (hn : n ≤ 22) : Representable (10 ^ n * one) := by
  have hall : ∀ n ∈ List.range 23, Representable (10 ^ n * one) := by decide +kernel
  exact hall n (List.mem_range.mpr (by omega))

end Double

namespace Decimal

open Double (one Representable)

/-- The double for a decimal without its sign. -/
def magnitude (m scale : Nat) : Double :=
  if scale = 0 then Double.ofNat m
  else
    let whole := Double.ofNat (m / Nat.pow 10 scale)
    let fraction := m % Nat.pow 10 scale
    if fraction = 0 then whole
    else
      let part := (Double.ofNat fraction).div (Double.ofNat (Nat.pow 10 scale))
      let power := Double.tenPower scale
      (((whole.add part).mul power).round).div power

theorem toDouble_eq (d : Decimal) :
    d.toDouble = if d.negative && !d.isZero then (magnitude d.coefficient d.scale).neg
      else magnitude d.coefficient d.scale := rfl

variable {u m s : Nat} {negative : Bool}

theorem toDouble_of_magnitude (hu : Representable u) (hm : m ≠ 0)
    (h : magnitude m s = .finite false u hu) :
    (Decimal.mk negative m s).toDouble = .finite negative u hu := by
  have hzero : (Decimal.mk negative m s).isZero = false := decide_eq_false hm
  rw [toDouble_eq, hzero, h, Bool.not_false, Bool.and_true]
  cases negative <;> rfl

theorem magnitude_zero (m : Nat) : magnitude m 0 = Double.ofNat m := if_pos rfl

/-- A whole number that is a double becomes this double. -/
theorem toDouble_of_whole {n : Nat} (hu : Representable u) (h : u = n * one) (hne : n ≠ 0) :
    (Decimal.mk negative n 0).toDouble = .finite negative u hu := by
  refine toDouble_of_magnitude hu hne ?_
  rw [magnitude_zero]
  exact Double.ofNat_of_eq hu h

/-! ### Short decimals -/

theorem lt_of_short (hm : m < 2 ^ 52) (h : m * one = u * 10 ^ s) : u < 2 ^ 52 * one := by
  have hten : 0 < 10 ^ s := Nat.pow_pos (by decide)
  have hpow : u * 1 ≤ u * 10 ^ s := Nat.mul_le_mul_left u hten
  have hbound : m * one < 2 ^ 52 * one := Nat.mul_lt_mul_of_pos_right hm Double.one_pos
  omega

/-- The digits before and behind the dot in smallest steps. -/
theorem exists_fraction (h : m * one = u * 10 ^ s) :
    ∃ v, u = m / 10 ^ s * one + v ∧ m % 10 ^ s * one = v * 10 ^ s := by
  have hten : 0 < 10 ^ s := Nat.pow_pos (by decide)
  have hsteps : m / 10 ^ s * one * 10 ^ s + m % 10 ^ s * one = u * 10 ^ s := by
    rw [← h, Nat.mul_right_comm, ← Nat.add_mul, Nat.div_add_mod']
  have hwhole : m / 10 ^ s * one ≤ u := by
    refine Nat.le_of_mul_le_mul_right ?_ hten
    omega
  obtain ⟨v, hv⟩ := Nat.exists_eq_add_of_le hwhole
  refine ⟨v, hv, ?_⟩
  rw [hv, Nat.add_mul] at hsteps
  omega

/-- What is left of a double without its whole part is a double. -/
theorem representable_fraction {w v : Nat} (hu : Representable u) (hsmall : u < 2 ^ 52 * one)
    (hv : u = w * one + v) : Representable v := by
  refine Double.representable_of_dvd hu (by omega) ?_
  have hdvd : 2 ^ Double.excess u ∣ w * one + v := hv ▸ hu.2
  have hwhole : 2 ^ Double.excess u ∣ w * one :=
    Nat.dvd_mul_left_of_dvd (Double.pow_excess_dvd_one hsmall) w
  exact (Nat.dvd_add_right hwhole).mp hdvd

theorem tenPower_eq (hs : s ≤ 22) : Double.tenPower s =
    .finite false (10 ^ s * one) (Double.representable_ten_pow hs) := by
  rw [Double.tenPower_of_le hs]
  exact Double.ofNat_of_eq _ rfl

theorem ten_pow_mul_one_ne_zero (s : Nat) : 10 ^ s * one ≠ 0 :=
  Nat.mul_ne_zero (Nat.ne_of_gt (Nat.pow_pos (by decide))) (Nat.ne_of_gt Double.one_pos)

/-- The whole part and the fraction are doubles, and their sum is the number. -/
theorem add_fraction (hu : Representable u) (hne : u ≠ 0) (h : m * one = u * 10 ^ s)
    (hm : m < 2 ^ 52) (hs : s ≤ 22) :
    (Double.ofNat (m / 10 ^ s)).add
      ((Double.ofNat (m % 10 ^ s)).div (.ofNat (10 ^ s))) = .finite false u hu := by
  obtain ⟨v, hv, hfraction⟩ := exists_fraction h
  have hvu := representable_fraction hu (lt_of_short hm h) hv
  have hwhole : m / 10 ^ s ≤ 2 ^ 53 := by
    have := Nat.div_le_self m (10 ^ s)
    omega
  have hrest : m % 10 ^ s ≤ 2 ^ 53 := by
    have := Nat.mod_le m (10 ^ s)
    omega
  have hpart : (Double.ofNat (m % 10 ^ s)).div (.ofNat (10 ^ s)) = .finite false v hvu := by
    rw [Double.ofNat_of_eq (Double.representable_mul_one hrest) rfl,
      Double.ofNat_of_eq (Double.representable_ten_pow hs) rfl]
    refine Double.div_of_eq _ _ hvu (ten_pow_mul_one_ne_zero s) ?_
    rw [hfraction, Nat.mul_assoc]
  rw [hpart, Double.ofNat_of_eq (Double.representable_mul_one hwhole) rfl]
  refine Double.add_of_eq _ hvu hu hne ?_
  show ((m / 10 ^ s * one : Nat) : Int) + v = u
  omega

/-- The product with the power of ten is an integer, so that rounding it changes nothing. -/
theorem round_at_scale (hu : Representable u) (h : m * one = u * 10 ^ s) (hm : m < 2 ^ 52)
    (hs : s ≤ 22) :
    (((Double.finite false u hu).mul (.tenPower s)).round).div (.tenPower s) =
      .finite false u hu := by
  have hmu : Representable (m * one) := Double.representable_mul_one (by omega)
  have hproduct : (Double.finite false u hu).mul (.tenPower s) = .finite false (m * one) hmu := by
    rw [tenPower_eq hs]
    refine Double.mul_of_eq hu _ hmu ?_
    rw [h, Nat.mul_assoc]
  rw [hproduct, Double.round_of_eq hmu rfl, tenPower_eq hs]
  refine Double.div_of_eq hmu _ hu (ten_pow_mul_one_ne_zero s) ?_
  rw [h, Nat.mul_assoc]

theorem magnitude_of_short (hu : Representable u) (hne : u ≠ 0) (h : m * one = u * 10 ^ s)
    (hm : m < 2 ^ 52) (hs : s ≤ 22) : magnitude m s = .finite false u hu := by
  unfold magnitude
  split
  · next hzero =>
    rw [hzero, Nat.pow_zero, Nat.mul_one] at h
    exact Double.ofNat_of_eq hu h.symm
  simp only [Nat.pow_eq]
  split
  · next hwhole =>
    obtain ⟨v, hv, hfraction⟩ := exists_fraction h
    rw [hwhole, Nat.zero_mul] at hfraction
    have hnone : v = 0 :=
      (Nat.mul_eq_zero.mp hfraction.symm).resolve_right (Nat.ne_of_gt (Nat.pow_pos (by decide)))
    rw [hnone, Nat.add_zero] at hv
    exact Double.ofNat_of_eq hu hv
  · rw [add_fraction hu hne h hm hs, round_at_scale hu h hm hs]

/-- A decimal with few digits that stands for a double becomes this double. -/
theorem toDouble_of_short (hu : Representable u) (hne : u ≠ 0) (h : m * one = u * 10 ^ s)
    (hm : m < 2 ^ 52) (hs : s ≤ 22) :
    (Decimal.mk negative m s).toDouble = .finite negative u hu := by
  refine toDouble_of_magnitude hu ?_ (magnitude_of_short hu hne h hm hs)
  rintro rfl
  rw [Nat.zero_mul] at h
  exact hne ((Nat.mul_eq_zero.mp h.symm).resolve_right (Nat.ne_of_gt (Nat.pow_pos (by decide))))

/-! ### Kinds of numbers -/

theorem toNumber_of_isZero {d : Decimal} (h : d.isZero) : d.toNumber = .int 0 := by
  have hzero : d.coefficient = 0 := of_decide_eq_true h
  have hwhole : d.isWhole := by
    unfold isWhole
    rw [hzero]
    exact decide_eq_true (Nat.dvd_zero _)
  have htruncate : d.truncate = 0 := by
    unfold truncate sign
    rw [hzero, Nat.zero_div]
    exact ite_self 0
  rw [toNumber, if_pos hwhole, htruncate]
  rfl

/-- Only a zero loses its sign. -/
theorem toNumber_and {negative : Bool} {m s : Nat} :
    (Decimal.mk (negative && m ≠ 0) m s).toNumber = (Decimal.mk negative m s).toNumber := by
  by_cases hm : m = 0
  · rw [toNumber_of_isZero (decide_eq_true hm), toNumber_of_isZero (decide_eq_true hm)]
  · rw [decide_eq_true hm, Bool.and_true]

theorem toNumber_of_scale_zero (negative : Bool) (m : Nat) :
    (Decimal.mk negative m 0).toNumber =
      (Number.ofInt? (sign negative m)).getD (.double (Decimal.mk negative m 0).toDouble) := by
  have hwhole : (Decimal.mk negative m 0).isWhole := decide_eq_true (Nat.one_dvd m)
  have htruncate : (Decimal.mk negative m 0).truncate = sign negative m := by
    unfold truncate
    exact congrArg (sign negative) (Nat.div_one m)
  rw [toNumber, if_pos hwhole, htruncate]

theorem natAbs_sign (negative : Bool) (m : Nat) : (sign negative m).natAbs = m :=
  Double.natAbs_signed

/-- A whole decimal of moderate size becomes an integer. -/
theorem exists_toNumber_eq_int (negative : Bool) (hm : m < 2 ^ 63) :
    ∃ n : Int64, (Decimal.mk negative m 0).toNumber = .int n ∧ n.toInt = sign negative m := by
  have habs := natAbs_sign negative m
  obtain ⟨n, hn⟩ : ∃ n, Number.int64? (sign negative m) = some n :=
    Option.isSome_iff_exists.mp (Number.isSome_int64?_iff.mpr (by omega))
  refine ⟨n, ?_, Number.int64?_eq_some_iff.mp hn⟩
  rw [toNumber_of_scale_zero, Number.ofInt?, hn, Option.map_some, Option.getD_some]

end Decimal

end Formulas
