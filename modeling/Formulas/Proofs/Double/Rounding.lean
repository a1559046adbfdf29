import Formulas.Double.Arithmetic
import Formulas.Double.Shortest
import Formulas.Proofs.Double.Order
import Mathlib.Algebra.Ring.Nat
import Mathlib.Data.Nat.Log

/-! Rounding keeps the order, and it leaves alone what has a mantissa that fits. Main statements:
`rounded_mono`, `ofInt_le_ofInt` and `eq_of_ofInt_eq`. -/
namespace Formulas.Double

theorem div_le_roundEven (num den : Nat) : num / den ≤ roundEven num den := by
  unfold roundEven
  simp only
  split <;> omega

theorem roundEven_mul (q : Nat) {den : Nat} (hden : 0 < den) : roundEven (q * den) den = q := by
  unfold roundEven
  simp only [Nat.mul_mod_left, Nat.mul_div_cancel q hden]
  rw [if_neg (by omega)]

theorem roundEven_mono {num num' : Nat} (h : num ≤ num') (den : Nat) :
    roundEven num den ≤ roundEven num' den := by
  have hquotient : num / den ≤ num' / den := Nat.div_le_div_right h
  rcases Nat.lt_or_eq_of_le hquotient with hlt | heq
  · have hup := roundEven_le num den
    have hdown := div_le_roundEven num' den
    omega
  · -- In the same interval the larger number has the larger remainder.
    have hnum := Nat.div_add_mod num den
    have hnum' := Nat.div_add_mod num' den
    rw [← heq] at hnum'
    have hrem : num % den ≤ num' % den := by omega
    unfold roundEven
    simp only [← heq]
    split <;> split <;> omega

/-- The number of smallest steps that `num / den` of them are rounded to, in the absence of a
largest number. -/
def rounded (num den : Nat) : Nat := mantissa num den * Nat.pow 2 (excess (num / den))

theorem rank?_nearest (negative : Bool) (num den : Nat) :
    (nearest negative num den).rank? = some (signed negative (min (rounded num den) limit)) := by
  have hnearest : nearest negative num den =
      if h : rounded num den < limit then
        .finite negative (rounded num den) ⟨h, pow_dvd_mul_pow (mantissa_le num den)⟩
      else .infinity negative := rfl
  rw [hnearest]
  split
  · next h =>
    rw [Nat.min_eq_left (Nat.le_of_lt h)]
    cases negative <;> rfl
  · next h =>
    rw [Nat.min_eq_right (Nat.le_of_not_lt h)]
    cases negative <;> rfl

theorem log2_mono {m n : Nat} (h : m ≤ n) : m.log2 ≤ n.log2 := by
  rw [Nat.log2_eq_log_two, Nat.log2_eq_log_two]
  exact Nat.log_mono_right h

theorem rounded_le (num den : Nat) : rounded num den ≤ 2 ^ (53 + excess (num / den)) := by
  rw [Nat.pow_add]
  exact Nat.mul_le_mul_right _ (mantissa_le num den)

theorem le_rounded {num den : Nat} (h : 0 < excess (num / den)) :
    2 ^ (52 + excess (num / den)) ≤ rounded num den := by
  have hlog : (num / den).log2 = 52 + excess (num / den) := by
    unfold excess at *
    omega
  have hne : num / den ≠ 0 := by
    intro hzero
    rw [hzero] at hlog
    exact absurd hlog (by decide)
  have hquotient : 2 ^ (52 + excess (num / den)) ≤ num / den := by
    rw [← hlog]
    exact Nat.log2_self_le hne
  have hdigits : 2 ^ 52 ≤ num / (den * Nat.pow 2 (excess (num / den))) := by
    rw [← Nat.div_div_eq_div_mul, Nat.pow_eq, Nat.le_div_iff_mul_le (Nat.two_pow_pos _),
      ← Nat.pow_add]
    exact hquotient
  rw [Nat.pow_add]
  exact Nat.mul_le_mul_right _ (Nat.le_trans hdigits (div_le_roundEven _ _))

theorem rounded_mono {num num' : Nat} (h : num ≤ num') (den : Nat) :
    rounded num den ≤ rounded num' den := by
  have hexcess : excess (num / den) ≤ excess (num' / den) :=
    Nat.sub_le_sub_right (log2_mono (Nat.div_le_div_right h)) 52
  rcases Nat.lt_or_eq_of_le hexcess with hlt | heq
  · -- A power of two lies between the results.
    calc rounded num den ≤ 2 ^ (53 + excess (num / den)) := rounded_le num den
      _ ≤ 2 ^ (52 + excess (num' / den)) := Nat.pow_le_pow_right (by decide) (by omega)
      _ ≤ rounded num' den := le_rounded (by omega)
  · unfold rounded mantissa
    rw [heq]
    exact Nat.mul_le_mul_right _ (roundEven_mono h _)

theorem rounded_of_dvd {units : Nat} (h : Nat.pow 2 (excess units) ∣ units) :
    rounded units 1 = units := by
  unfold rounded mantissa
  rw [Nat.div_one, Nat.one_mul]
  generalize excess units = digits at *
  obtain ⟨m, rfl⟩ := h
  have hpos : 0 < Nat.pow 2 digits := Nat.two_pow_pos digits
  rw [Nat.mul_comm _ m, roundEven_mul m hpos]

/-- How far from zero an integer lies after rounding, in smallest steps. -/
def distance (n : Int) : Nat := min (rounded (n.natAbs * one) 1) limit

theorem rank?_ofInt (n : Int) : (ofInt n).rank? = some (signed (n < 0) (distance n)) :=
  rank?_nearest (n < 0) (n.natAbs * one) 1

theorem isNan_nearest (negative : Bool) (num den : Nat) :
    (nearest negative num den).isNan = false := by
  rw [Bool.eq_false_iff, ne_eq, ← rank?_eq_none_iff, rank?_nearest]
  exact Option.some_ne_none _

theorem isNan_ofInt (n : Int) : (ofInt n).isNan = false := isNan_nearest _ _ _

theorem isNan_ofNumeral (negative : Bool) (n : Numeral) :
    (ofNumeral negative n).isNan = false := by
  unfold ofNumeral
  split
  · rfl
  split
  · rfl
  split
  · rfl
  · exact isNan_nearest _ _ _

theorem neg_nearest (negative : Bool) (num den : Nat) :
    (nearest negative num den).neg = nearest (!negative) num den := by
  unfold nearest
  dsimp only
  split <;> rfl

theorem neg_ofInt_natAbs {n : Int} (h : n < 0) : (ofInt n.natAbs).neg = ofInt n := by
  have hpositive : decide ((n.natAbs : Int) < 0) = false := decide_eq_false (by omega)
  rw [ofInt, ofInt, hpositive, neg_nearest, decide_eq_true h, Int.natAbs_natCast, Bool.not_false]

theorem distance_mono {m n : Int} (h : m.natAbs ≤ n.natAbs) : distance m ≤ distance n := by
  have := rounded_mono (Nat.mul_le_mul_right one h) 1
  unfold distance
  omega

theorem one_pos : 0 < one := by decide +kernel

/-- The exponent is kept apart from its number, lest the power be computed. -/
theorem one_eq : ∃ t, t = 1074 ∧ one = 2 ^ t := ⟨1074, rfl, by decide +kernel⟩

theorem signed_natAbs (n : Int) (units : Nat) :
    signed (n < 0) (n.natAbs * units) = n * units := by
  simp only [signed, decide_eq_true_eq, Int.natCast_mul]
  split
  · have habs : (n.natAbs : Int) = -n := by omega
    rw [habs, Int.neg_mul, Int.neg_neg]
  · have habs : (n.natAbs : Int) = n := by omega
    rw [habs]

/-- An integer up to `2 ^ 53` has its own place on the line. -/
theorem rank?_ofInt_of_le {n : Int} (h : n.natAbs ≤ 2 ^ 53) :
    (ofInt n).rank? = some (n * one) := by
  have hrounded : rounded (n.natAbs * one) 1 = n.natAbs * one := by
    obtain ⟨s, -, hone⟩ := one_eq
    rw [hone]
    exact rounded_of_dvd (pow_dvd_mul_pow h)
  have hlimit : n.natAbs * one ≤ limit :=
    calc n.natAbs * one ≤ 2 ^ 53 * one := Nat.mul_le_mul_right one h
      _ ≤ limit := by decide +kernel
  rw [rank?_ofInt, distance, hrounded, Nat.min_eq_left hlimit, signed_natAbs]

/-- Conversion to doubles keeps the order. -/
theorem ofInt_le_ofInt {m n : Int} (h : m ≤ n) : (ofInt m).le (ofInt n) := by
  refine le_iff.mpr ⟨_, _, rank?_ofInt m, rank?_ofInt n, ?_⟩
  have hdown : n < 0 → distance n ≤ distance m := fun _ => distance_mono (by omega)
  have hup : 0 ≤ m → distance m ≤ distance n := fun _ => distance_mono (by omega)
  simp only [signed, decide_eq_true_eq]
  split <;> split <;> omega

/-- Up to `2 ^ 53` no two integers become the same double. -/
theorem eq_of_ofInt_eq {m n : Int} (hm : m.natAbs ≤ 2 ^ 53) (hn : n.natAbs ≤ 2 ^ 53)
    (h : (ofInt m).eq (ofInt n)) : m = n := by
  obtain ⟨a, ha, hb⟩ := eq_iff.mp h
  rw [rank?_ofInt_of_le hm] at ha
  rw [rank?_ofInt_of_le hn] at hb
  have hsame : m * one = n * one := (Option.some.inj ha).trans (Option.some.inj hb).symm
  exact Int.eq_of_mul_eq_mul_right (Int.natCast_ne_zero.mpr (Nat.ne_of_gt one_pos)) hsame

/-! ### Exact values -/

theorem log2_mul_two_pow {n : Nat} (hn : n ≠ 0) (s : Nat) : (n * 2 ^ s).log2 = n.log2 + s := by
  induction s with
  | zero => rw [Nat.pow_zero, Nat.mul_one, Nat.add_zero]
  | succ s ih =>
    have hne : n * 2 ^ s ≠ 0 := Nat.mul_ne_zero hn (Nat.ne_of_gt (Nat.two_pow_pos s))
    rw [Nat.pow_succ, ← Nat.mul_assoc, Nat.mul_comm _ 2, Nat.log2_two_mul hne, ih, Nat.add_assoc]

/-- An integer is rounded to itself if and only if at most 53 binary digits carry it. -/
theorem rounded_integer_iff {n : Nat} : rounded (n * one) 1 = n * one ↔ 2 ^ excess n ∣ n := by
  by_cases hn : n = 0
  · subst hn
    rw [Nat.zero_mul]
    exact iff_of_true (rounded_of_dvd (Nat.dvd_zero _)) (Nat.dvd_zero _)
  obtain ⟨s, hs, hone⟩ := one_eq
  have hlog : (n * one).log2 = n.log2 + s := by rw [hone, log2_mul_two_pow hn]
  constructor
  · intro hexact
    have hdvd : 2 ^ excess (n * one) ∣ n * one := by
      have : 2 ^ excess (n * one) ∣ rounded (n * one) 1 := by
        unfold rounded
        rw [Nat.div_one]
        exact Nat.dvd_mul_left _ _
      rwa [hexact] at this
    by_cases hsmall : n.log2 ≤ 52
    · have hnone : excess n = 0 := Nat.sub_eq_zero_of_le hsmall
      rw [hnone]
      exact Nat.one_dvd n
    · have hexcess : excess (n * one) = excess n + s := by
        unfold excess
        omega
      rw [hexcess, hone, Nat.pow_add] at hdvd
      exact Nat.dvd_of_mul_dvd_mul_right (Nat.two_pow_pos s) hdvd
  · intro hdvd
    have hexcess : excess (n * one) ≤ excess n + s := by
      unfold excess
      omega
    refine rounded_of_dvd (Nat.dvd_trans (Nat.pow_dvd_pow 2 hexcess) ?_)
    rw [hone, Nat.pow_add]
    exact Nat.mul_dvd_mul_right hdvd _

/-! ### Decimal numerals -/

/-- What lies nearer to zero than to the smallest step is rounded to zero. -/
theorem nearest_of_lt_half (negative : Bool) {num den : Nat} (h : 2 * num < den) :
    nearest negative num den = zero negative := by
  have hquotient : num / den = 0 := Nat.div_eq_of_lt (by omega)
  have hremainder : num % den = num := Nat.mod_eq_of_lt (by omega)
  have hmantissa : mantissa num den = 0 := by
    have hexcess : den * Nat.pow 2 (excess (num / den)) = den := by
      rw [hquotient]
      exact Nat.mul_one den
    unfold mantissa
    rw [hexcess, roundEven, hquotient, hremainder]
    exact if_neg (by omega)
  unfold nearest
  simp only [hmantissa, Nat.zero_mul]
  exact dif_pos limit_pos

/-- A numeral with some digits behind its dot is rounded once, as an exact quotient. -/
theorem ofNumeral_fraction (negative : Bool) (coefficient places : Nat) :
    ofNumeral negative ⟨coefficient, -places⟩ =
      nearest negative (coefficient * one) (10 ^ places) := by
  have hpos : 0 < 10 ^ places := Nat.pow_pos (by decide)
  unfold ofNumeral
  dsimp only
  split
  · next hzero => rw [nearest_of_lt_half negative (by rwa [hzero, Nat.zero_mul])]
  split
  · next hlarge => omega
  split
  · next hsmall =>
    obtain ⟨s, hs, hone⟩ := one_eq
    have hhalf : 2 * (coefficient * one) < 10 ^ places :=
      calc 2 * (coefficient * one) < 2 * (2 ^ (coefficient.log2 + 1) * 2 ^ s) := by
            rw [hone]
            have := Nat.mul_lt_mul_of_pos_right (Nat.lt_log2_self (n := coefficient))
              (Nat.two_pow_pos s)
            omega
        _ = 2 ^ (coefficient.log2 + 1 + s + 1) := by rw [← Nat.pow_add, ← Nat.pow_succ']
        _ ≤ 2 ^ (3 * places) := Nat.pow_le_pow_right (by decide) (by omega)
        _ = 8 ^ places := Nat.pow_mul 2 3 places
        _ ≤ 10 ^ places := Nat.pow_le_pow_left (by decide) places
    rw [nearest_of_lt_half negative hhalf]
  · have hplaces : (- -(places : Int)).toNat = places := by omega
    have hnone : (-(places : Int)).toNat = 0 := by omega
    rw [hplaces, hnone]
    simp only [Nat.pow_eq, Nat.pow_zero, Nat.mul_one]

end Formulas.Double
