import Formulas.Proofs.Decimal.Conversion
import Formulas.Proofs.Decimal.Number
import Formulas.Proofs.Number.Exactness
import Formulas.Proofs.Number.Integer
import Formulas.Standard
import Mathlib.Data.Rat.Floor
import Mathlib.Tactic.Linarith

/-! Rounding to whole numbers. Main statement: `round_is_nearest_unless_lifted`. -/
namespace Formulas

/-! ### The nearest integer -/

/-- No integer is nearer, and none as near is farther from zero. -/
def IsNearest (q : ℚ) (n : ℤ) : Prop :=
  ∀ k : ℤ, |q - n| < |q - k| ∨ |q - n| = |q - k| ∧ |k| ≤ |n|

theorem IsNearest.neg {q : ℚ} {n : ℤ} (h : IsNearest q n) : IsNearest (-q) (-n) := by
  intro k
  have hn : |-q - ((-n : ℤ) : ℚ)| = |q - n| := by
    rw [← abs_neg]
    push_cast
    ring_nf
  have hk : |-q - (k : ℚ)| = |q - ((-k : ℤ) : ℚ)| := by
    rw [← abs_neg]
    push_cast
    ring_nf
  rw [hn, hk, abs_neg, ← abs_neg k]
  exact h (-k)

theorem isNearest_neg {q : ℚ} {n : ℤ} : IsNearest (-q) (-n) ↔ IsNearest q n := by
  constructor
  · intro h
    have hneg := h.neg
    rwa [neg_neg, neg_neg] at hneg
  · exact IsNearest.neg

/-- Up to half a unit away on the lower side, and less on the upper side. -/
theorem isNearest_of_bounds {y : ℚ} {n : ℕ} (hy : 0 ≤ y) (hlow : y - 1 / 2 < n)
    (hhigh : n ≤ y + 1 / 2) : IsNearest y n := by
  intro k
  have hcast : (((n : ℕ) : ℤ) : ℚ) = n := Int.cast_natCast n
  have hnear : |y - n| ≤ 1 / 2 := abs_le.mpr ⟨by linarith, by linarith⟩
  rw [hcast]
  rcases lt_trichotomy k n with hlt | rfl | hgt
  · have hk : (k : ℚ) + 1 ≤ n := by exact_mod_cast hlt
    have hfar : 1 / 2 ≤ y - k := by linarith
    rw [abs_of_nonneg (by linarith : 0 ≤ y - k)]
    rcases lt_or_eq_of_le (hnear.trans hfar) with hless | heq
    · exact .inl hless
    · -- In a tie the other integer lies between zero and this one.
      have hneg : (-1 : ℚ) < k := by linarith
      have hk0 : 0 ≤ k := by
        have : (-1 : ℤ) < k := by exact_mod_cast hneg
        omega
      refine .inr ⟨heq, ?_⟩
      rw [abs_of_nonneg hk0, Nat.abs_cast]
      exact hlt.le
  · right
    exact ⟨by rw [hcast], le_refl _⟩
  · have hk : (n : ℚ) + 1 ≤ k := by exact_mod_cast hgt
    left
    rw [abs_sub_comm y k, abs_of_nonneg (by linarith : 0 ≤ (k : ℚ) - y)]
    linarith

theorem not_isNearest_succ {y : ℚ} {n : ℕ} (hlow : n ≤ y) (hhigh : y < n + 1 / 2) :
    ¬ IsNearest y (n + 1 : ℕ) := by
  intro h
  have hlower : |y - (n : ℤ)| = y - n := by
    rw [Int.cast_natCast]
    exact abs_of_nonneg (by linarith)
  have hupper : |y - ((n + 1 : ℕ) : ℤ)| = n + 1 - y := by
    rw [abs_sub_comm, Int.cast_natCast, Nat.cast_succ]
    exact abs_of_nonneg (by linarith)
  have hk := h n
  rw [hlower, hupper] at hk
  obtain hless | ⟨heq, -⟩ := hk <;> linarith

/-! ### Dropping all places -/

namespace Decimal

variable {u m s : Nat} {negative : Bool}

/-- A coefficient without its places, rounded half up. -/
def halfUp (m s : Nat) : Nat := (2 * m + 10 ^ s) / (2 * 10 ^ s)

theorem roundTo_zero (negative : Bool) (m s : Nat) :
    (Decimal.mk negative m s).roundTo 0 = ⟨negative, halfUp m s, 0⟩ := by
  unfold roundTo halfUp
  dsimp only
  split
  · next hs =>
    obtain rfl := Nat.le_zero.mp hs
    have hhalf : (2 * m + 10 ^ 0) / (2 * 10 ^ 0) = m := by omega
    rw [hhalf]
  · rfl

theorem halfUp_eq {r : Nat} (hlow : r * (2 * 10 ^ s) ≤ 2 * m + 10 ^ s)
    (hhigh : 2 * m + 10 ^ s < (r + 1) * (2 * 10 ^ s)) : halfUp m s = r :=
  Nat.div_eq_of_lt_le hlow hhigh

/-- The number lies below the half between the two integers around it, and its decimal does not. -/
structure Lifts (u m s : Nat) : Prop where
  below : 2 * u < (2 * (u / Double.one) + 1) * Double.one
  reached : (2 * (u / Double.one) + 1) * 10 ^ s ≤ 2 * m

namespace Approximates

theorem halfUp_eq_floor (h : Approximates u m s)
    (hhalf : 2 * m < (2 * (u / Double.one) + 1) * 10 ^ s) : halfUp m s = u / Double.one := by
  have hfloor : 2 * (u / Double.one) * 10 ^ s ≤ 2 * m := by
    refine h.near.half_le ?_
    rw [Nat.mul_assoc]
    exact Nat.mul_le_mul_left 2 (Nat.div_mul_le_self u Double.one)
  generalize u / Double.one = n at *
  rw [Nat.add_mul, Nat.mul_assoc] at *
  refine halfUp_eq ?_ ?_
  · rw [Nat.mul_left_comm]
    omega
  · rw [Nat.add_mul, Nat.mul_left_comm]
    omega

theorem halfUp_eq_succ (h : Approximates u m s)
    (hhalf : (2 * (u / Double.one) + 1) * 10 ^ s ≤ 2 * m) :
    halfUp m s = u / Double.one + 1 := by
  have hceil : m ≤ (u / Double.one + 1) * 10 ^ s :=
    h.near.le_whole (Nat.le_of_lt (Nat.lt_mul_of_div_lt (Nat.lt_succ_self _) Double.one_pos))
  have hten : 0 < 10 ^ s := Nat.pow_pos (by decide)
  generalize u / Double.one = n at *
  rw [Nat.add_mul, Nat.mul_assoc] at hhalf
  rw [Nat.add_mul] at hceil
  refine halfUp_eq ?_ ?_
  · rw [Nat.add_mul, Nat.mul_left_comm]
    omega
  · rw [Nat.add_mul, Nat.add_mul, Nat.mul_left_comm]
    omega

/-- Only what lies very close to a half is moved beyond it. -/
theorem close_of_lifts (h : Approximates u m s) (hlifts : Lifts u m s) :
    2 ^ 48 * ((2 * (u / Double.one) + 1) * Double.one) <
      2 ^ 48 * (2 * u) + (2 * (u / Double.one) + 1) * Double.one := by
  have hhalf := hlifts.reached
  have hpos : 0 < 2 * (u / Double.one) + 1 := Nat.succ_pos _
  generalize 2 * (u / Double.one) + 1 = half at *
  have hten : 0 < 10 ^ s := Nat.pow_pos (by decide)
  have hclose := h.close (Nat.le_trans (Nat.le_mul_of_pos_left _ hpos) hhalf)
  have hunits : half * Double.one * 10 ^ s ≤ 2 * (m * Double.one) := by
    rw [Nat.mul_right_comm, ← Nat.mul_assoc]
    exact Nat.mul_le_mul_right Double.one hhalf
  have hscaled : (9 * 2 ^ 48 - 5) * (half * Double.one) ≤ 9 * 2 ^ 48 * (2 * u) := by
    refine Nat.le_of_mul_le_mul_right ?_ hten
    rw [Nat.mul_assoc, Nat.mul_assoc (9 * 2 ^ 48), Nat.mul_assoc 2]
    omega
  have hone := Nat.mul_pos hpos Double.one_pos
  omega

end Approximates

end Decimal

namespace Standard

open Double (one signed Representable)

/-- The decimal for a double reaches a half between two integers that the double itself does not
reach. -/
def Lifted (x : Double) (q : ℚ) : Prop :=
  |q| < ⌊|q|⌋ + 1 / 2 ∧
    ∃ d, Decimal.ofDouble? x = some d ∧ ⌊|q|⌋ + 1 / 2 ≤ (d.coefficient / 10 ^ d.scale : ℚ)

theorem isNearest_sign {s : Bool} {u n : Nat} :
    IsNearest (signed s u / one) (Decimal.sign s n) ↔ IsNearest (u / one) n := by
  cases s with
  | false => rfl
  | true =>
    have hvalue : (signed true u / one : ℚ) = -(u / one) := by
      show ((-(u : ℤ) : ℤ) / one : ℚ) = _
      rw [Int.cast_neg, Int.cast_natCast, neg_div]
    rw [hvalue]
    exact isNearest_neg

theorem floor_abs_value (s : Bool) (u : Nat) :
    ⌊|(signed s u / one : ℚ)|⌋ = ((u / one : ℕ) : ℤ) := by
  rw [Double.abs_value]
  exact Rat.floor_natCast_div_natCast u one

theorem lt_half_iff {u n : Nat} : (u / one : ℚ) < n + 1 / 2 ↔ 2 * u < (2 * n + 1) * one := by
  rw [div_lt_iff₀ Double.cast_one_pos, ← Nat.cast_lt (α := ℚ)]
  push_cast
  constructor <;> intro h <;> linarith

theorem half_le_iff {m n s : Nat} :
    (n : ℚ) + 1 / 2 ≤ m / 10 ^ s ↔ (2 * n + 1) * 10 ^ s ≤ 2 * m := by
  rw [le_div_iff₀ (pow_pos (by norm_num) s), ← Nat.cast_le (α := ℚ)]
  push_cast
  constructor <;> intro h <;> linarith

theorem lifted_iff {s : Bool} {u m p : Nat} {hu : Representable u}
    (hd : Decimal.ofDouble? (.finite s u hu) = some ⟨s, m, p⟩) :
    Lifted (.finite s u hu) (signed s u / one) ↔ Decimal.Lifts u m p := by
  unfold Lifted
  rw [floor_abs_value, Double.abs_value, Int.cast_natCast, lt_half_iff]
  constructor
  · rintro ⟨hbelow, d, hd', hle⟩
    rw [hd] at hd'
    cases hd'
    exact ⟨hbelow, half_le_iff.mp hle⟩
  · intro h
    exact ⟨h.below, _, hd, half_le_iff.mpr h.reached⟩

theorem distance_lt_of_close {u n : Nat}
    (h : 2 ^ 48 * ((2 * n + 1) * one) < 2 ^ 48 * (2 * u) + (2 * n + 1) * one) :
    (n : ℚ) + 1 / 2 - u / one < (n + 1 / 2) / 2 ^ 48 := by
  have hone : (0 : ℚ) < one := Double.cast_one_pos
  have hvalue : (u : ℚ) = u / one * one := (div_mul_cancel₀ _ hone.ne').symm
  have hcast : (2 ^ 48 * ((2 * n + 1) * one) : ℚ) < 2 ^ 48 * (2 * u) + (2 * n + 1) * one := by
    exact_mod_cast h
  rw [hvalue] at hcast
  rw [lt_div_iff₀ (by positivity)]
  refine lt_of_mul_lt_mul_right ?_ hone.le
  linarith

theorem floor_le_value (u : Nat) : ((u / one : ℕ) : ℚ) ≤ u / one := by
  rw [le_div_iff₀ Double.cast_one_pos]
  exact_mod_cast Nat.div_mul_le_self u one

theorem value_lt_succ (u : Nat) : (u / one : ℚ) < ((u / one : ℕ) : ℚ) + 1 := by
  rw [div_lt_iff₀ Double.cast_one_pos]
  exact_mod_cast Nat.lt_mul_of_div_lt (Nat.lt_succ_self _) Double.one_pos

/-- The rounded decimal is right for the double unless it was lifted. -/
theorem isNearest_halfUp_iff {u m p : Nat} (happ : Decimal.Approximates u m p) :
    IsNearest (u / one) (Decimal.halfUp m p) ↔ ¬ Decimal.Lifts u m p := by
  have hlow := floor_le_value u
  have hhigh := value_lt_succ u
  have hvalue : (0 : ℚ) ≤ u / one := by positivity
  by_cases hreached : (2 * (u / one) + 1) * 10 ^ p ≤ 2 * m
  · rw [happ.halfUp_eq_succ hreached]
    by_cases hbelow : 2 * u < (2 * (u / one) + 1) * one
    · refine iff_of_false ?_ (not_not.mpr ⟨hbelow, hreached⟩)
      exact not_isNearest_succ hlow (lt_half_iff.mpr hbelow)
    · refine iff_of_true ?_ fun hlifts => hbelow hlifts.below
      have hhalf := not_lt.mp (mt lt_half_iff.mp hbelow)
      refine isNearest_of_bounds hvalue ?_ ?_
      · push_cast
        linarith
      · push_cast
        linarith
  · rw [happ.halfUp_eq_floor (Nat.not_le.mp hreached)]
    refine iff_of_true ?_ fun hlifts => hreached hlifts.reached
    have hbelow := lt_half_iff.mpr (Nat.not_le.mp (mt happ.near.half_le hreached))
    refine isNearest_of_bounds hvalue ?_ ?_
    · linarith
    · linarith

/-- From `2 ^ 52` on a double is a whole number, so that nothing is rounded there. -/
theorem halfUp_lt {u m p : Nat} (hu : Representable u) (happ : Decimal.Approximates u m p)
    (hsize : u < 2 ^ 63 * one) : Decimal.halfUp m p < 2 ^ 63 := by
  have hfloor : u / one < 2 ^ 63 := Nat.div_lt_of_lt_mul (by rwa [Nat.mul_comm])
  by_cases hreached : (2 * (u / one) + 1) * 10 ^ p ≤ 2 * m
  · have hsmall : u < 2 ^ 52 * one := by
      by_contra hlarge
      obtain ⟨n, hn⟩ := Double.exists_eq_mul_one hu (Nat.not_lt.mp hlarge)
      rw [hn] at happ
      obtain ⟨rfl, rfl⟩ := happ.eq_of_whole
      rw [hn, Nat.mul_div_cancel _ Double.one_pos] at hreached
      omega
    have hfloor' : u / one < 2 ^ 52 := Nat.div_lt_of_lt_mul (by rwa [Nat.mul_comm])
    rw [happ.halfUp_eq_succ hreached]
    omega
  · rw [happ.halfUp_eq_floor (Nat.not_le.mp hreached)]
    exact hfloor

theorem round_double (x : Double) :
    round [.double x] = .ok (.number (roundNumber 0 (.double x))) := rfl

/-- A result in range is an integer. -/
theorem exists_round {s : Bool} {u m p : Nat} {hu : Representable u}
    (hd : Decimal.ofDouble? (.finite s u hu) = some ⟨s, m, p⟩)
    (happ : Decimal.Approximates u m p) (hsize : u < 2 ^ 63 * one) :
    ∃ n : Int64, round [.double (.finite s u hu)] = .ok (.int n) ∧
      n.toInt = Decimal.sign s (Decimal.halfUp m p) := by
  obtain ⟨n, hint, hn⟩ := Decimal.exists_toNumber_eq_int s (halfUp_lt hu happ hsize)
  have hnumber : roundNumber 0 (.double (.finite s u hu)) = .int n := by
    rw [roundNumber, hd]
    show ((Decimal.mk s m p).roundTo 0).toNumber = .int n
    rw [Decimal.roundTo_zero, hint]
  refine ⟨n, ?_, hn⟩
  rw [round_double, hnumber]
  rfl

/-- A double of moderate size becomes the nearest integer, and of two the one farther from zero,
unless its decimal is lifted to a half. That happens only next to a half. -/
theorem round_is_nearest_unless_lifted {x : Double} {q : ℚ} (hx : x.value? = some q)
    (hq : |q| < 2 ^ 63) :
    ∃ n : Int64, round [.double x] = .ok (.int n) ∧ (IsNearest q n.toInt ↔ ¬ Lifted x q) ∧
      (Lifted x q → |n.toInt| = ⌊|q|⌋ + 1 ∧
        ⌊|q|⌋ + 1 / 2 - |q| < (⌊|q|⌋ + 1 / 2) / 2 ^ 48) := by
  cases x with
  | nan | infinity => cases hx
  | finite s u hu =>
    obtain rfl := Option.some.inj hx
    rw [Double.abs_value] at hq
    have hsize : u < 2 ^ 63 * one := by
      rw [div_lt_iff₀ Double.cast_one_pos] at hq
      exact_mod_cast hq
    have hlimit : 2 ^ 63 * one ≤ Decimal.limit * one := Nat.mul_le_mul_right one (by decide +kernel)
    obtain ⟨⟨m, p, hd, happ⟩, -⟩ | ⟨hnone, hle⟩ := Decimal.ofDouble?_cases s hu
    · obtain ⟨n, hround, hn⟩ := exists_round hd happ hsize
      rw [lifted_iff hd, floor_abs_value, Double.abs_value]
      refine ⟨n, hround, ?_, fun hlifts => ⟨?_, ?_⟩⟩
      · rw [hn, isNearest_sign]
        exact isNearest_halfUp_iff happ
      · rw [hn, Int.abs_eq_natAbs, Decimal.natAbs_sign, happ.halfUp_eq_succ hlifts.reached]
        rfl
      · rw [Int.cast_natCast]
        exact distance_lt_of_close (happ.close_of_lifts hlifts)
    · omega

/-- Nothing is lifted that stands at a half. -/
theorem half_rounds_away_from_zero :
    (Double.ofNumeral true ⟨25, -1⟩).value? = some (-5 / 2) ∧
    round [.double (.ofNumeral true ⟨25, -1⟩)] = .ok (.int (-3)) ∧ IsNearest (-5 / 2) (-3) := by
  obtain ⟨half, hhalf, hone⟩ : ∃ half, half = Nat.pow 2 1073 ∧ one = 2 * half :=
    ⟨_, rfl, by decide +kernel⟩
  have hrank : (Double.ofNumeral true ⟨25, -1⟩).rank? = some ((-5 : ℤ) * half) := by
    rw [hhalf]
    decide +kernel
  have hvalue : (Double.ofNumeral true ⟨25, -1⟩).value? = some (-5 / 2) :=
    Double.value?_of_parts hone (by decide +kernel) hrank
  have habs : |(-5 / 2 : ℚ)| = 5 / 2 := by
    rw [abs_of_neg (by norm_num)]
    norm_num
  have hlifted : ¬ Lifted (.ofNumeral true ⟨25, -1⟩) (-5 / 2) := by
    rintro ⟨hbelow, -⟩
    rw [habs] at hbelow
    norm_num at hbelow
  have hresult : round [.double (.ofNumeral true ⟨25, -1⟩)] = .ok (.int (-3)) := by
    have hnumber : roundNumber 0 (.double (.ofNumeral true ⟨25, -1⟩)) = .int (-3) := by
      decide +kernel
    rw [round_double, hnumber]
    rfl
  obtain ⟨n, hround, hnearest, -⟩ :=
    round_is_nearest_unless_lifted hvalue (by rw [habs]; norm_num)
  have hn : n = -3 := by
    rw [hresult] at hround
    cases hround
    rfl
  subst hn
  exact ⟨hvalue, hresult, hnearest.mpr hlifted⟩

/-- The largest double below a half goes to one, and zero is nearer. -/
theorem below_half_rounds_to_one :
    (Double.ofNumeral false ⟨49999999999999994, -17⟩).value? =
      some (9007199254740991 / 18014398509481984) ∧
    round [.double (.ofNumeral false ⟨49999999999999994, -17⟩)] = .ok (.int 1) ∧
    ¬ IsNearest (9007199254740991 / 18014398509481984) 1 := by
  obtain ⟨part, hpart, hone⟩ : ∃ part, part = Nat.pow 2 1020 ∧ one = 18014398509481984 * part :=
    ⟨_, rfl, by decide +kernel⟩
  have hrank : (Double.ofNumeral false ⟨49999999999999994, -17⟩).rank? =
      some ((9007199254740991 : ℤ) * part) := by
    rw [hpart]
    decide +kernel
  have hnumber : roundNumber 0 (.double (.ofNumeral false ⟨49999999999999994, -17⟩)) = .int 1 := by
    decide +kernel
  refine ⟨Double.value?_of_parts hone (by decide +kernel) hrank, ?_, ?_⟩
  · rw [round_double, hnumber]
    rfl
  · refine not_isNearest_succ (n := 0) ?_ ?_
    · norm_num
    · norm_num

end Standard

end Formulas
