import Formulas.Decimal.Basic
import Formulas.Proofs.Double.Exact
import Mathlib.Tactic.Ring

/-! The steps from a double to its decimal. Factors of five are worked in as long as there is room,
and then digits go, the last place first. Main statements: `magnitude?_of_lt`, `magnitude?_of_ge`
and `clean_induction`. -/
namespace Formulas.Decimal

open Double (one Representable excess div_pow_excess_lt)

theorem dropDigit_le (m : Nat) : 10 * dropDigit m ≤ m + 5 := by
  unfold dropDigit
  split <;> omega

theorem le_dropDigit (m : Nat) : m ≤ 10 * dropDigit m + 4 := by
  unfold dropDigit
  split <;> omega

/-! ### Fractions near another one -/

/-- The fraction `m / d` is no less than any half up to `num / den`, and no more than any whole
number from `num / den` on. -/
structure Near (num den m d : Nat) : Prop where
  half_le {j : Nat} : j * den ≤ 2 * num → j * d ≤ 2 * m
  le_whole {n : Nat} : num ≤ n * den → m ≤ n * d

namespace Near

variable {num den m d s : Nat}

theorem of_eq (hden : 0 < den) (h : m * den = num * d) : Near num den m d := by
  constructor
  · intro j hj
    refine Nat.le_of_mul_le_mul_right ?_ hden
    calc j * d * den = j * den * d := Nat.mul_right_comm _ _ _
      _ ≤ 2 * num * d := Nat.mul_le_mul_right d hj
      _ = 2 * m * den := by rw [Nat.mul_assoc, Nat.mul_assoc, h]
  · intro n hn
    refine Nat.le_of_mul_le_mul_right ?_ hden
    calc m * den = num * d := h
      _ ≤ n * den * d := Nat.mul_le_mul_right d hn
      _ = n * d * den := Nat.mul_right_comm _ _ _

theorem mul_five (h : Near num den m d) : Near num den (m * 5) (d * 5) := by
  constructor
  · intro j hj
    have := h.half_le hj
    rw [← Nat.mul_assoc]
    omega
  · intro n hn
    have := h.le_whole hn
    rw [← Nat.mul_assoc]
    omega

/-- The last bit may be lost as long as the denominator stays even: no half depends on it then. -/
theorem half (h : Near num den m (2 * d)) (heven : m % 2 = 0 ∨ d % 2 = 0) :
    Near num den (m / 2) d := by
  constructor
  · intro j hj
    have hhalf := h.half_le hj
    have hparity : d % 2 = 0 → j * d % 2 = 0 := by
      intro hd
      rw [Nat.mul_mod, hd, Nat.mul_zero, Nat.zero_mod]
    rw [Nat.mul_left_comm] at hhalf
    omega
  · intro n hn
    have hwhole := h.le_whole hn
    rw [Nat.mul_left_comm] at hwhole
    omega

theorem drop (h : Near num den m (10 ^ (s + 1))) : Near num den (dropDigit m) (10 ^ s) := by
  have hle := dropDigit_le m
  have hge := le_dropDigit m
  constructor
  · intro j hj
    have hhalf := h.half_le hj
    rw [Nat.pow_succ, ← Nat.mul_assoc] at hhalf
    omega
  · intro n hn
    have hwhole := h.le_whole hn
    rw [Nat.pow_succ, ← Nat.mul_assoc] at hwhole
    omega

theorem vanish (h : Near num den m (10 ^ (s + 1))) (hm : m < 10) (hs : maxScale ≤ s) :
    Near num den 0 (10 ^ 0) := by
  constructor
  · intro j hj
    have hhalf := h.half_le hj
    have hpow : 10 ^ 2 ≤ 10 ^ (s + 1) :=
      Nat.pow_le_pow_right (by decide) (by unfold maxScale at hs; omega)
    have hj0 : j = 0 := by
      by_contra hne
      have := Nat.le_mul_of_pos_left (10 ^ (s + 1)) (Nat.pos_of_ne_zero hne)
      omega
    rw [hj0, Nat.zero_mul]
  · exact fun _ => Nat.zero_le _

end Near

/-! ### Factors of five

A number `m` with `k` factors left stands for the fraction `m / (2 ^ k * 10 ^ f)`, where `f` factors
are in. -/

/-- What each factor of five keeps, by what happens to it. -/
structure FivesInvariant (P : (m k f : Nat) → Prop) : Prop where
  halve {m k f : Nat} : m % 2 = 0 → P m (k + 1) f → P (m / 2) k f
  five {m k f : Nat} : m % 2 = 1 → m * 5 < limit → P m (k + 1) f → P (m * 5) k (f + 1)
  cut {m k f : Nat} : m % 2 = 1 → limit ≤ m * 5 → P m (k + 1) f → P (m / 2) k f

theorem multiplyFives_induction {P : Nat → Nat → Nat → Prop} (hP : FivesInvariant P)
    {m k f : Nat} (h : P m k f) :
    ∃ m' p : Nat, multiplyFives k m (-(k + f : Nat)) = (m', -(p : Int)) ∧ P m' 0 p := by
  induction k generalizing m f with
  | zero => exact ⟨m, f, by rw [multiplyFives, Nat.zero_add], h⟩
  | succ k ih =>
    have hnext : -((k + 1 + f : Nat) : Int) + 1 = -((k + f : Nat) : Int) := by omega
    unfold multiplyFives
    split
    · next heven =>
      rw [hnext]
      exact ih (hP.halve heven h)
    have hodd : m % 2 = 1 := by omega
    split
    · next hroom =>
      rw [Nat.add_right_comm k 1 f]
      exact ih (hP.five hodd hroom h)
    · next hfull =>
      rw [hnext]
      exact ih (hP.cut hodd (Nat.le_of_not_lt hfull) h)

theorem magnitude?_of_lt {P : Nat → Nat → Nat → Prop} (hP : FivesInvariant P) {units : Nat}
    (hsmall : units < 2 ^ 52 * one)
    (h : P (units / 2 ^ excess units) (1074 - excess units) 0) :
    ∃ m p, magnitude? units = some (clean p m) ∧ P m 0 p := by
  obtain ⟨m, p, hfives, hm⟩ := multiplyFives_induction hP h
  refine ⟨m, p, ?_, hm⟩
  have hexcess := Double.excess_lt_iff.mpr hsmall
  have he : ((units.log2 - 52 : Nat) : Int) - 1074 = -((1074 - excess units + 0 : Nat) : Int) := by
    unfold excess at *
    omega
  have hneg : -((1074 - excess units + 0 : Nat) : Int) < 0 := by omega
  have htens : (-(p : Int)).toNat = 0 := by omega
  have hmantissa : units / Nat.pow 2 (units.log2 - 52) = units / 2 ^ excess units := rfl
  unfold magnitude?
  simp only [he, hmantissa]
  rw [if_pos hneg, Int.neg_neg, Int.toNat_natCast, Nat.add_zero]
  rw [Nat.add_zero] at hfives
  simp only [hfives, htens, Int.neg_neg, Int.toNat_natCast, multiplyTens?, Option.bind_eq_bind,
    Option.bind_some]
  rfl

/-! ### Large numbers -/

theorem divideFives?_of_lt {m : Nat} (hm : m < limit) (k : Nat) :
    divideFives? k m k = if m * 2 ^ k < limit then some (m * 2 ^ k, 0) else none := by
  have hlimit : limit = Nat.pow 2 95 * 2 := by decide +kernel
  induction k generalizing m with
  | zero => rw [divideFives?, Nat.pow_zero, Nat.mul_one, if_pos hm, Int.natCast_zero]
  | succ k ih =>
    have hpow : m * 2 ^ (k + 1) = m * 2 * 2 ^ k := by
      rw [Nat.pow_succ', Nat.mul_assoc]
    have hnext : ((k + 1 : Nat) : Int) - 1 = k := by omega
    unfold divideFives?
    split
    · next hroom =>
      have hdouble : m * 2 < limit := by omega
      rw [hnext, ih hdouble, hpow]
    · next hfull =>
      have hlarge : limit ≤ m * 2 := by omega
      have hproduct : m * 2 ≤ m * 2 * 2 ^ k := Nat.le_mul_of_pos_right _ (Nat.two_pow_pos k)
      rw [if_pos (by omega), if_neg (by omega)]

theorem magnitude?_of_ge {n : Nat} (hn : Representable (n * one))
    (hlarge : 2 ^ 52 * one ≤ n * one) :
    magnitude? (n * one) = if n < limit then some (n, 0) else none := by
  have hexcess := mt Double.excess_lt_iff.mp (Nat.not_lt.mpr hlarge)
  obtain ⟨t, ht, hone⟩ := Double.one_eq
  obtain ⟨k, hk⟩ : ∃ k, excess (n * one) = k + t := ⟨excess (n * one) - t, by omega⟩
  obtain ⟨m, hm⟩ := hn.2
  have hpos : 0 < Nat.pow 2 ((n * one).log2 - 52) := Nat.two_pow_pos _
  have hmantissa : n * one / Nat.pow 2 ((n * one).log2 - 52) = m :=
    Nat.div_eq_of_eq_mul_right hpos hm
  have hvalue : m * 2 ^ k = n := by
    refine Nat.eq_of_mul_eq_mul_right Double.one_pos ?_
    calc m * 2 ^ k * one = 2 ^ (k + t) * m := by
          rw [hone, Nat.mul_assoc, ← Nat.pow_add, Nat.mul_comm]
      _ = n * one := by
          rw [← hk]
          exact hm.symm
  have hsmall : m < limit := by
    have hdigits := div_pow_excess_lt (n * one)
    rw [excess, hmantissa] at hdigits
    exact Nat.lt_trans hdigits (by decide +kernel)
  have he : (((n * one).log2 - 52 : Nat) : Int) - 1074 = (k : Int) := by
    unfold excess at hk
    omega
  unfold magnitude?
  simp only [he, hmantissa]
  rw [if_neg (by omega), Int.toNat_natCast, divideFives?_of_lt hsmall, hvalue]
  split <;> rfl

/-! ### Dropping digits -/

theorem clean_eq (s m : Nat) :
    clean s m =
      dropZeros (dropNoise (dropExcess s m).2 (dropExcess s m).1).2
        (dropNoise (dropExcess s m).2 (dropExcess s m).1).1 := rfl

/-- What a coefficient and its places keep as digits go. -/
structure DigitInvariant (P : (m s : Nat) → Prop) : Prop where
  drop {m s : Nat} : m = 0 ∨ 10 ≤ m → maxScale ≤ s ∨ 2 ^ 52 ≤ m ∨ m % 10 = 0 → P m (s + 1) →
    P (dropDigit m) s
  vanish {m s : Nat} : m < 10 → maxScale ≤ s → P m (s + 1) → P 0 0

section

variable {P : (m s : Nat) → Prop} {m s : Nat}

theorem dropExcess_induction (hP : DigitInvariant P) (h : P m s) :
    P (dropExcess s m).1 (dropExcess s m).2 := by
  induction s generalizing m with
  | zero => exact h
  | succ s ih =>
    unfold dropExcess
    split
    · exact h
    split
    · exact hP.vanish (by omega) (by omega) h
    · exact ih (hP.drop (by omega) (by omega) h)

theorem dropNoise_induction (hP : DigitInvariant P) (h : P m s) :
    P (dropNoise s m).1 (dropNoise s m).2 := by
  induction s generalizing m with
  | zero => exact h
  | succ s ih =>
    unfold dropNoise
    split
    · next hnoise =>
      rw [Nat.pow_eq] at hnoise
      exact ih (hP.drop (by omega) (by omega) h)
    · exact h

theorem dropDigit_of_mod_eq_zero (h : m % 10 = 0) : dropDigit m = m / 10 := by
  unfold dropDigit
  rw [h, if_neg (by decide), Nat.add_zero]

theorem dropZeros_induction (hP : DigitInvariant P) (h : P m s) :
    P (dropZeros s m).1 (dropZeros s m).2 := by
  induction s generalizing m with
  | zero => exact h
  | succ s ih =>
    unfold dropZeros
    split
    · next hzero =>
      rw [← dropDigit_of_mod_eq_zero hzero]
      exact ih (hP.drop (by omega) (by omega) h)
    · exact h

theorem clean_induction (hP : DigitInvariant P) (h : P m s) : P (clean s m).1 (clean s m).2 :=
  dropZeros_induction hP (dropNoise_induction hP (dropExcess_induction hP h))

end

theorem dropExcess_scale_le (s m : Nat) : (dropExcess s m).2 ≤ maxScale := by
  induction s generalizing m with
  | zero => exact Nat.zero_le _
  | succ s ih =>
    unfold dropExcess
    split
    · next hs => exact hs
    split
    · exact Nat.zero_le _
    · exact ih _

theorem dropNoise_scale_le (s m : Nat) : (dropNoise s m).2 ≤ s := by
  induction s generalizing m with
  | zero => exact Nat.le_refl 0
  | succ s ih =>
    unfold dropNoise
    split
    · exact Nat.le_succ_of_le (ih _)
    · exact Nat.le_refl _

theorem dropNoise_short (s m : Nat) : (dropNoise s m).2 = 0 ∨ (dropNoise s m).1 < 2 ^ 52 := by
  induction s generalizing m with
  | zero => exact .inl rfl
  | succ s ih =>
    unfold dropNoise
    split
    · exact ih _
    · next hshort =>
      right
      rwa [Nat.pow_eq, Nat.not_le] at hshort

theorem dropZeros_le (s m : Nat) : (dropZeros s m).1 ≤ m ∧ (dropZeros s m).2 ≤ s := by
  induction s generalizing m with
  | zero => exact ⟨Nat.le_refl m, Nat.le_refl 0⟩
  | succ s ih =>
    unfold dropZeros
    split
    · have := ih (m / 10)
      omega
    · exact ⟨Nat.le_refl m, Nat.le_refl _⟩

theorem dropZeros_trimmed (s m : Nat) : (dropZeros s m).2 = 0 ∨ (dropZeros s m).1 % 10 ≠ 0 := by
  induction s generalizing m with
  | zero => exact .inl rfl
  | succ s ih =>
    unfold dropZeros
    split
    · exact ih _
    · next hdigit => exact .inr hdigit

theorem clean_scale_le (s m : Nat) : (clean s m).2 ≤ maxScale := by
  rw [clean_eq]
  have hexcess := dropExcess_scale_le s m
  exact Nat.le_trans (dropZeros_le _ _).2 (Nat.le_trans (dropNoise_scale_le _ _) hexcess)

theorem clean_short (s m : Nat) : (clean s m).2 = 0 ∨ (clean s m).1 < 2 ^ 52 := by
  rw [clean_eq]
  generalize dropExcess s m = d
  have hzeros := dropZeros_le (dropNoise d.2 d.1).2 (dropNoise d.2 d.1).1
  have hnoise := dropNoise_short d.2 d.1
  omega

theorem clean_trimmed (s m : Nat) : (clean s m).2 = 0 ∨ (clean s m).1 % 10 ≠ 0 :=
  dropZeros_trimmed _ _

end Formulas.Decimal
