import Formulas.Proofs.Double.Rounding

/-! Arithmetic on doubles whose exact result is a double: nothing is rounded. -/
namespace Formulas.Double

variable {s t : Bool} {u v d : Nat}

theorem excess_mono {m n : Nat} (h : m ≤ n) : excess m ≤ excess n :=
  Nat.sub_le_sub_right (log2_mono h) 52

/-- A quotient without a rest is the number itself. -/
theorem rounded_mul (hu : 2 ^ excess u ∣ u) (hd : 0 < d) : rounded (u * d) d = u := by
  obtain ⟨m, hm⟩ := hu
  have hpos : 0 < d * 2 ^ excess u := Nat.mul_pos hd (Nat.two_pow_pos _)
  have hsplit : u * d = m * (d * 2 ^ excess u) := by
    calc u * d = 2 ^ excess u * m * d := congrArg (· * d) hm
      _ = m * (d * 2 ^ excess u) := by
        rw [Nat.mul_comm (2 ^ excess u) m, Nat.mul_assoc, Nat.mul_comm _ d]
  unfold rounded mantissa
  rw [Nat.mul_div_cancel u hd, Nat.pow_eq, hsplit, roundEven_mul m hpos, Nat.mul_comm]
  exact hm.symm

theorem nearest_mul (s : Bool) (hu : Representable u) (hd : 0 < d) :
    nearest s (u * d) d = .finite s u hu := by
  have hrounded : mantissa (u * d) d * Nat.pow 2 (excess (u * d / d)) = u := rounded_mul hu.2 hd
  unfold nearest
  simp only [hrounded]
  exact dif_pos hu.1

theorem nearest_one (s : Bool) (hu : Representable u) : nearest s u 1 = .finite s u hu := by
  have h := nearest_mul s hu Nat.one_pos
  rwa [Nat.mul_one] at h

/-- What has fewer digits than a double and lies below it is a double. -/
theorem representable_of_dvd (hu : Representable u) (hle : v ≤ u) (hv : 2 ^ excess u ∣ v) :
    Representable v :=
  ⟨Nat.lt_of_le_of_lt hle hu.1, Nat.dvd_trans (Nat.pow_dvd_pow 2 (excess_mono hle)) hv⟩

theorem representable_mul_one {n : Nat} (hn : n ≤ 2 ^ 53) : Representable (n * one) := by
  refine ⟨?_, ?_⟩
  · calc n * one ≤ 2 ^ 53 * one := Nat.mul_le_mul_right one hn
      _ < limit := by decide +kernel
  · obtain ⟨t, -, hone⟩ := one_eq
    rw [hone]
    exact pow_dvd_mul_pow hn

/-- An integer that is a double becomes this double. -/
theorem ofNat_of_eq {n : Nat} (hu : Representable u) (h : u = n * one) :
    ofNat n = .finite false u hu := by
  unfold ofNat
  rw [← h]
  exact nearest_one false hu

theorem ofInt_zero : ofInt 0 = zero false := by
  unfold ofInt
  rw [Int.natAbs_zero, Nat.zero_mul]
  exact nearest_one false ⟨limit_pos, Nat.dvd_zero _⟩

theorem ofInt_one : ofInt 1 = .finite false (1 * one) (representable_mul_one (by decide)) := by
  unfold ofInt
  rw [Int.natAbs_one]
  exact nearest_one false (representable_mul_one (by decide))

theorem signed_eq_zero_iff : signed s u = 0 ↔ u = 0 := by
  unfold signed
  split <;> omega

theorem signed_lt_zero (hu : u ≠ 0) : decide (signed s u < 0) = s := by
  cases s with
  | false => exact decide_eq_false (Int.not_lt.mpr (Int.natCast_nonneg u))
  | true =>
    refine decide_eq_true ?_
    show -(u : Int) < 0
    omega

theorem natAbs_signed : (signed s u).natAbs = u := by
  unfold signed
  split <;> omega

/-! ### Fractions

From `2 ^ 52` on there are none. -/

theorem mantissa_lt (u : Nat) : u / 2 ^ excess u < 2 ^ 53 := div_pow_excess_lt u

theorem excess_lt_iff : excess u < 1074 ↔ u < 2 ^ 52 * one := by
  by_cases hu : u = 0
  · subst hu
    exact iff_of_true (by decide) (Nat.mul_pos (by decide) one_pos)
  obtain ⟨t, ht, hone⟩ := one_eq
  rw [hone, ← Nat.pow_add, ← Nat.log2_lt hu]
  unfold excess
  omega

theorem exists_eq_mul_one (hu : Representable u) (hlarge : 2 ^ 52 * one ≤ u) :
    ∃ n, u = n * one := by
  have hexcess := mt excess_lt_iff.mp (Nat.not_lt.mpr hlarge)
  obtain ⟨t, ht, hone⟩ := one_eq
  have hdvd : 2 ^ excess u ∣ u := hu.2
  obtain ⟨n, hn⟩ : 2 ^ t ∣ u := Nat.dvd_trans (Nat.pow_dvd_pow 2 (by omega)) hdvd
  refine ⟨n, ?_⟩
  rw [hone, Nat.mul_comm]
  exact hn

theorem pow_excess_dvd_one (hsmall : u < 2 ^ 52 * one) : 2 ^ excess u ∣ one := by
  have hexcess := excess_lt_iff.mpr hsmall
  obtain ⟨t, ht, hone⟩ := one_eq
  rw [hone]
  exact Nat.pow_dvd_pow 2 (by omega)

/-- The mantissa as the numerator of a fraction over a power of two. -/
theorem mantissa_mul_one (hu : Representable u) (hsmall : u < 2 ^ 52 * one) :
    u / 2 ^ excess u * one = u * 2 ^ (1074 - excess u) := by
  have hexcess := excess_lt_iff.mpr hsmall
  obtain ⟨t, ht, hone⟩ := one_eq
  have hsplit : one = 2 ^ excess u * 2 ^ (1074 - excess u) := by
    rw [hone, ← Nat.pow_add]
    exact congrArg (2 ^ ·) (by omega)
  have hdvd : 2 ^ excess u ∣ u := hu.2
  rw [hsplit, ← Nat.mul_assoc, Nat.div_mul_cancel hdvd]

/-! ### Exact results -/

section

variable {a b : Nat} {r : Bool} (ha : Representable a) (hb : Representable b)
  (hu : Representable u)

theorem add_of_eq (hne : u ≠ 0) (h : signed s a + signed t b = signed r u) :
    (Double.finite s a ha).add (.finite t b hb) = .finite r u hu := by
  show (if signed s a + signed t b = 0 then zero (s && t)
    else nearest (signed s a + signed t b < 0) (signed s a + signed t b).natAbs 1) = _
  rw [h, if_neg (mt signed_eq_zero_iff.mp hne), signed_lt_zero hne, natAbs_signed]
  exact nearest_one r hu

theorem mul_of_eq (h : a * b = u * one) :
    (Double.finite s a ha).mul (.finite t b hb) = .finite (s != t) u hu := by
  show nearest (s != t) (a * b) one = _
  rw [h]
  exact nearest_mul (s != t) hu one_pos

theorem div_of_eq (hne : b ≠ 0) (h : a * one = u * b) :
    (Double.finite s a ha).div (.finite t b hb) = .finite (s != t) u hu := by
  show (if b = 0 then if a = 0 then .nan else .infinity (s != t)
    else nearest (s != t) (a * one) b) = _
  rw [if_neg hne, h]
  exact nearest_mul (s != t) hu (Nat.pos_of_ne_zero hne)

theorem round_of_eq {n : Nat} (h : u = n * one) :
    (Double.finite s u hu).round = .finite s u hu := by
  have hquotient : (2 * u + one) / (2 * one) = n := by
    have hone := one_pos
    refine Nat.div_eq_of_lt_le ?_ ?_
    · rw [Nat.mul_left_comm, ← h]
      omega
    · rw [Nat.mul_left_comm, Nat.add_mul, ← h]
      omega
  show nearest s ((2 * u + one) / (2 * one) * one) 1 = _
  rw [hquotient, ← h]
  exact nearest_one s hu

end

/-! ### Neutral operands -/

theorem signed_zero : signed t 0 = 0 := signed_eq_zero_iff.mpr rfl

section

variable (hu : Representable u)

theorem add_zero (hne : u ≠ 0) : (Double.finite s u hu).add (zero t) = .finite s u hu := by
  unfold zero
  refine add_of_eq hu _ hu hne ?_
  rw [signed_zero, Int.add_zero]

theorem zero_add (hne : u ≠ 0) : (zero t).add (.finite s u hu) = .finite s u hu := by
  unfold zero
  refine add_of_eq _ hu hu hne ?_
  rw [signed_zero, Int.zero_add]

theorem mul_one : (Double.finite s u hu).mul (ofInt 1) = .finite s u hu := by
  have h := mul_of_eq (s := s) (t := false) hu (representable_mul_one (by decide)) hu
    (congrArg (u * ·) (Nat.one_mul one))
  rwa [← ofInt_one, Bool.bne_false] at h

theorem one_mul : (ofInt 1).mul (.finite s u hu) = .finite s u hu := by
  have h := mul_of_eq (s := false) (t := s) (representable_mul_one (n := 1) (by decide)) hu hu
    (by rw [Nat.one_mul, Nat.mul_comm])
  rwa [← ofInt_one, Bool.false_bne] at h

theorem div_one : (Double.finite s u hu).div (ofInt 1) = .finite s u hu := by
  have hne : 1 * one ≠ 0 := by
    rw [Nat.one_mul]
    exact Nat.ne_of_gt one_pos
  have h := div_of_eq (s := s) (t := false) hu (representable_mul_one (by decide)) hu hne
    (congrArg (u * ·) (Nat.one_mul one).symm)
  rwa [← ofInt_one, Bool.bne_false] at h

end

end Formulas.Double
