import Formulas.Proofs.Number.Exactness
import Formulas.Proofs.Number.Integer
import Formulas.Standard
import Mathlib.Data.Rat.Floor

/-! Whole numbers below and above a double. The range of integers is tested on doubles, where its
upper end is rounded up. Main statement: `floor_and_ceil_round_exactly`. -/
namespace Formulas

namespace Double

variable {s : Bool} {u n : Nat}

/-! ### Multiples of a number

The number of smallest steps in one is too large to be computed, so it is any number here. -/

theorem le_of_mul_lt {m d : Nat} (h : m * d < n * d + d) : m ≤ n := by
  rw [← Nat.succ_mul] at h
  exact Nat.le_of_lt_succ (Nat.lt_of_mul_lt_mul_right h)

theorem le_up_mul {d : Nat} (hd : 0 < d) (u : Nat) : u ≤ (u + d - 1) / d * d := by
  have hlt := Nat.lt_div_mul_add (a := u + d - 1) hd
  omega

theorem up_mul_lt {d : Nat} (hd : 0 < d) (u : Nat) : (u + d - 1) / d * d < u + d := by
  have hle := Nat.div_mul_le_self (u + d - 1) d
  omega

theorem neg_ediv_eq {d : Nat} (hd : 0 < d) (u : Nat) :
    -(u : ℤ) / (d : ℤ) = -(((u + d - 1) / d : ℕ) : ℤ) := by
  have hpos : (0 : ℤ) < d := Int.natCast_pos.mpr hd
  have hle := le_up_mul hd u
  have hlt := up_mul_lt hd u
  generalize (u + d - 1) / d = q at *
  zify at hle hlt
  refine le_antisymm (Int.le_of_lt_add_one ?_) ?_
  · rw [Int.ediv_lt_iff_lt_mul hpos, Int.add_mul, Int.neg_mul, Int.one_mul]
    omega
  · rw [Int.le_ediv_iff_mul_le hpos, Int.neg_mul]
    omega

/-! ### Whole doubles -/

/-- A number of ones less than one away from a number of smallest steps. -/
structure Adjacent (u n : Nat) : Prop where
  lt_up : n * one < u + one
  lt_down : u < n * one + one

theorem adjacent_div (u : Nat) : Adjacent u (u / one) where
  lt_up := Nat.lt_of_le_of_lt (Nat.div_mul_le_self u one) (Nat.lt_add_of_pos_right one_pos)
  lt_down := Nat.lt_div_mul_add one_pos

theorem adjacent_cover (u : Nat) : Adjacent u (cover u) where
  lt_up := up_mul_lt one_pos u
  lt_down := Nat.lt_of_le_of_lt (le_up_mul one_pos u) (Nat.lt_add_of_pos_right one_pos)

/-- A multiple of one is given by an equation, lest it be computed. -/
theorem finite_congr {v : Nat} (h : u = v) (hu : Representable u) (hv : Representable v) :
    finite s u hu = .finite s v hv := by
  subst h
  rfl

namespace Adjacent

/-- A double without a fraction is adjacent to its own value only. -/
theorem eq_of_large (h : Adjacent u n) (hu : Representable u) (hlarge : 2 ^ 52 * one ≤ u) :
    u = n * one := by
  obtain ⟨k, hk⟩ := exists_eq_mul_one hu hlarge
  obtain ⟨hup, hdown⟩ := h
  rw [hk] at hup hdown
  have hnk : n = k := Nat.le_antisymm (le_of_mul_lt hup) (le_of_mul_lt hdown)
  rw [hk, hnk]

theorem le_of_small (h : Adjacent u n) (hsmall : ¬ 2 ^ 52 * one ≤ u) : n ≤ 2 ^ 52 := by
  have hup : n * one < 2 ^ 52 * one + one :=
    Nat.lt_trans h.lt_up (Nat.add_lt_add_right (Nat.not_le.mp hsmall) one)
  exact le_of_mul_lt hup

/-- The whole number next to a double is a double. -/
theorem representable (h : Adjacent u n) (hu : Representable u) : Representable (n * one) := by
  by_cases hlarge : 2 ^ 52 * one ≤ u
  · rwa [← h.eq_of_large hu hlarge]
  · exact representable_mul_one (Nat.le_trans (h.le_of_small hlarge) (by decide))

theorem toWhole_eq {wholes : Bool → Nat → Nat} (h : Adjacent u (wholes s u))
    (hu : Representable u) :
    (finite s u hu).toWhole wholes = .finite s (wholes s u * one) (h.representable hu) :=
  nearest_one s (h.representable hu)

end Adjacent

/-! ### Exact values -/

theorem signed_false (u : Nat) : signed false u = u := rfl

theorem signed_true (u : Nat) : signed true u = -u := rfl

theorem signed_not (s : Bool) (u : Nat) : signed (!s) u = -signed s u := by
  cases s with
  | false => rfl
  | true => exact (Int.neg_neg (u : ℤ)).symm

theorem signed_ediv_one (s : Bool) (u : Nat) :
    signed s u / (one : ℤ) = signed s (if s then cover u else u / one) := by
  cases s with
  | false => rw [if_neg Bool.false_ne_true, signed_false, signed_false, Int.natCast_ediv]
  | true => rw [if_pos rfl, signed_true, signed_true, neg_ediv_eq one_pos, cover]

theorem floor_value (s : Bool) (u : Nat) :
    ⌊(signed s u / one : ℚ)⌋ = signed s (if s then cover u else u / one) := by
  rw [Rat.floor_intCast_div_natCast, signed_ediv_one]

theorem ceil_value (s : Bool) (u : Nat) :
    ⌈(signed s u / one : ℚ)⌉ = signed s (if s then u / one else cover u) := by
  have hvalue : (signed s u / one : ℚ) = -(signed (!s) u / one) := by
    rw [signed_not, Int.cast_neg, neg_div, neg_neg]
  have hswap (m n : Nat) : (if !s then m else n) = if s then n else m := by cases s <;> rfl
  rw [hvalue, Int.ceil_neg, floor_value, signed_not, Int.neg_neg, hswap]

/-! ### Whole doubles as integers -/

section

variable (hn : Representable (n * one))

theorem fract_of_whole : (finite s (n * one) hn).fract = zero false := by
  have htrunc : (finite s (n * one) hn).trunc = .finite s (n * one) hn := by
    show nearest s (n * one / one * one) 1 = _
    rw [Nat.mul_div_cancel n one_pos]
    exact nearest_one s hn
  have hneg : (finite s (n * one) hn).neg = .finite (!s) (n * one) hn := rfl
  have hsum : signed s (n * one) + signed (!s) (n * one) = 0 := by
    rw [signed_not, Int.add_right_neg]
  rw [fract, htrunc, sub, hneg]
  show (if signed s (n * one) + signed (!s) (n * one) = 0 then zero (s && !s) else _) = _
  rw [if_pos hsum, Bool.and_not_self]

theorem rank?_whole : (finite s (n * one) hn).rank? = some (signed s n * one) := by
  rw [rank?_finite]
  cases s with
  | false => rw [signed_false, signed_false, Int.natCast_mul]
  | true => rw [signed_true, signed_true, Int.natCast_mul, Int.neg_mul]

theorem toInt64_of_whole : (finite s (n * one) hn).toInt64 = .ofIntClamp (signed s n) := by
  show Int64.ofIntClamp (signed s (n * one / one)) = _
  rw [Nat.mul_div_cancel n one_pos]

end

theorem rank?_minValue : (ofInt Int64.minValue.toInt).rank? = some ((-2 ^ 63 : ℤ) * one) := by
  decide +kernel

/-- The largest integer is rounded up. -/
theorem rank?_maxValue : (ofInt Int64.maxValue.toInt).rank? = some ((2 ^ 63 : ℤ) * one) := by
  decide +kernel

section

variable {x y : Double} {a b : Int} (hx : x.rank? = some (a * one)) (hy : y.rank? = some (b * one))
include hx hy

theorem ge_iff_of_whole : x.ge y ↔ b ≤ a := by
  have hone : (0 : ℤ) < one := Int.natCast_pos.mpr one_pos
  rw [ge, compare?, hx, hy, ← Int.mul_le_mul_right hone, ← Int.isGE_compare]
  rfl

theorem lt_iff_of_whole : x.lt y ↔ a < b := by
  have hone : (0 : ℤ) < one := Int.natCast_pos.mpr one_pos
  rw [lt, beq_iff_eq, compare?_eq_lt_iff, ← Int.mul_lt_mul_right hone, hx, hy]
  constructor
  · rintro ⟨_, _, ⟨⟩, ⟨⟩, hlt⟩
    exact hlt
  · intro hlt
    exact ⟨_, _, rfl, rfl, hlt⟩

end

end Double

namespace Standard

open Double (one signed Representable)

/-- On a whole double the test by doubles is the test of the integer. -/
theorem integral_of_whole {s : Bool} {n : Nat} (hn : Representable (n * one)) :
    integral (.finite s (n * one) hn) =
      (Number.ofInt? (signed s n)).getD (.double (.finite s (n * one) hn)) := by
  have hrank := Double.rank?_whole (s := s) hn
  have hzero : (Double.zero false).eq (.zero false) = true := Double.eq_self_iff.mpr rfl
  have hlow := Double.ge_iff_of_whole hrank Double.rank?_minValue
  have hhigh := Double.lt_iff_of_whole hrank Double.rank?_maxValue
  have htest : ((Double.finite s (n * one) hn).ge (.ofInt Int64.minValue.toInt) &&
      (Double.finite s (n * one) hn).lt (.ofInt Int64.maxValue.toInt)) = true ↔
        -2 ^ 63 ≤ signed s n ∧ signed s n < 2 ^ 63 := by
    rw [Bool.and_eq_true, hlow, hhigh]
  rw [integral, Double.fract_of_whole hn, hzero, Bool.true_and, Double.toInt64_of_whole hn]
  by_cases hrange : -2 ^ 63 ≤ signed s n ∧ signed s n < 2 ^ 63
  · have hint : (Int64.ofIntClamp (signed s n)).toInt = signed s n :=
      Int64.toInt_ofIntClamp hrange.1 (Int.le_of_lt_add_one hrange.2)
    rw [if_pos (htest.mpr hrange), Number.ofInt?_eq_some_iff.mpr ⟨_, rfl, hint⟩,
      Option.getD_some]
  · have hnone : Number.ofInt? (signed s n) = none := by
      rw [Number.ofInt?, Option.map_eq_none_iff, ← Option.not_isSome_iff_eq_none,
        Number.isSome_int64?_iff]
      exact hrange
    rw [if_neg (mt htest.mp hrange), hnone, Option.getD_none]

/-- What is no number, or infinite, stays. -/
theorem integral_of_value?_eq_none {x : Double} (h : x.value? = none) :
    integral x = .double x := by
  have hfract : x.fract = .nan := by
    cases x with
    | nan => rfl
    | infinity s => cases s <;> rfl
    | finite s u hu => exact absurd h (Option.some_ne_none _)
  have hne (y : Double) : Double.nan.eq y = false := rfl
  rw [integral, hfract, hne, Bool.false_and, Bool.false_and]
  exact if_neg Bool.false_ne_true

/-- A double out of the range of integers is a whole number already. -/
theorem integral_of_adjacent {s : Bool} {u n : Nat} (h : Double.Adjacent u n)
    (hu : Representable u) :
    integral (.finite s (n * one) (h.representable hu)) =
      (Number.ofInt? (signed s n)).getD (.double (.finite s u hu)) := by
  rw [integral_of_whole]
  by_cases hlarge : 2 ^ 52 * one ≤ u
  · rw [Double.finite_congr (h.eq_of_large hu hlarge) hu (h.representable hu)]
  · -- A smaller one is in range.
    have hn : n ≤ 2 ^ 52 := h.le_of_small hlarge
    have hrange : (Number.int64? (signed s n)).isSome := by
      rw [Number.isSome_int64?_iff]
      unfold signed
      split <;> omega
    obtain ⟨r, hr⟩ := Option.isSome_iff_exists.mp hrange
    rw [Number.ofInt?, hr, Option.map_some, Option.getD_some, Option.getD_some]

/-- A function to whole numbers: an integer stays, and a double becomes the integer for its exact
value if this is in range. Any other double stays too. -/
structure RoundsTo (f : List Value → Except Misuse Value) (toInteger : ℚ → ℤ) : Prop where
  int : ∀ n : Int64, f [.int n] = .ok (.int n)
  int_iff : ∀ (x : Double) (n : Int64),
    f [.double x] = .ok (.int n) ↔ ∃ q, x.value? = some q ∧ toInteger q = n.toInt
  exists_int_iff : ∀ x : Double, (∃ n, f [.double x] = .ok (.int n)) ↔
    ∃ q, x.value? = some q ∧ -2 ^ 63 ≤ toInteger q ∧ toInteger q < 2 ^ 63
  int_or_same : ∀ x : Double,
    (∃ n, f [.double x] = .ok (.int n)) ∨ f [.double x] = .ok (.double x)

variable {f : List Value → Except Misuse Value} {toInteger : ℚ → ℤ}

theorem roundsTo_of_ofInt? (hint : ∀ n : Int64, f [.int n] = .ok (.int n))
    (hdouble : ∀ x : Double, f [.double x] = .ok (.number
      ((x.value?.bind fun q => Number.ofInt? (toInteger q)).getD (.double x)))) :
    RoundsTo f toInteger := by
  have int_iff (x : Double) (n : Int64) :
      f [.double x] = .ok (.int n) ↔ ∃ q, x.value? = some q ∧ toInteger q = n.toInt := by
    have hresult : f [.double x] = .ok (.int n) ↔
        (x.value?.bind fun q => Number.ofInt? (toInteger q)) = some (.int n) := by
      rw [hdouble, Except.ok.injEq, Value.int, Value.number.injEq]
      cases x.value?.bind fun q => Number.ofInt? (toInteger q) with
      | none => simp
      | some y => simp
    rw [hresult, Option.bind_eq_some_iff]
    refine exists_congr fun q => and_congr_right fun _ => ?_
    rw [Number.ofInt?_eq_some_iff]
    constructor
    · rintro ⟨r, hr, hn⟩
      cases hr
      exact hn.symm
    · intro hn
      exact ⟨n, rfl, hn.symm⟩
  refine ⟨hint, int_iff, fun x => ?_, fun x => ?_⟩
  · simp only [int_iff]
    constructor
    · rintro ⟨n, q, hq, hn⟩
      refine ⟨q, hq, ?_⟩
      rw [hn]
      exact ⟨n.le_toInt, n.toInt_lt⟩
    · rintro ⟨q, hq, hle, hlt⟩
      exact ⟨Int64.ofInt (toInteger q), q, hq, (Int64.toInt_ofInt_of_le hle hlt).symm⟩
  · rw [hdouble]
    cases hy : x.value?.bind fun q => Number.ofInt? (toInteger q) with
    | none => exact .inr rfl
    | some y =>
      obtain ⟨q, -, hq⟩ := Option.bind_eq_some_iff.mp hy
      obtain ⟨n, rfl, -⟩ := Number.ofInt?_eq_some_iff.mp hq
      exact .inl ⟨n, rfl⟩

/-- The result for any way to find the whole number next to a double. -/
theorem integral_toWhole {wholes : Bool → Nat → Nat} {x : Double}
    (hadjacent : ∀ s u, Double.Adjacent u (wholes s u))
    (hvalue : ∀ s u, toInteger (signed s u / one) = signed s (wholes s u)) :
    integral (x.toWhole wholes) =
      (x.value?.bind fun q => Number.ofInt? (toInteger q)).getD (.double x) := by
  cases x with
  | nan => exact integral_of_value?_eq_none rfl
  | infinity s => exact integral_of_value?_eq_none rfl
  | finite s u hu =>
    rw [(hadjacent s u).toWhole_eq hu, integral_of_adjacent (hadjacent s u) hu,
      Double.value?_finite, Option.bind_some, hvalue]

theorem floor_double (x : Double) :
    floor [.double x] = .ok (.number (integral x.floor)) := rfl

theorem ceil_double (x : Double) : ceil [.double x] = .ok (.number (integral x.ceil)) := rfl

/-- For any double and any integer the result is exact. -/
theorem floor_and_ceil_round_exactly : RoundsTo floor Int.floor ∧ RoundsTo ceil Int.ceil := by
  have hfloor (s : Bool) (u : Nat) : Double.Adjacent u (if s then Double.cover u else u / one) := by
    split
    · exact Double.adjacent_cover u
    · exact Double.adjacent_div u
  have hceil (s : Bool) (u : Nat) : Double.Adjacent u (if s then u / one else Double.cover u) := by
    split
    · exact Double.adjacent_div u
    · exact Double.adjacent_cover u
  constructor
  · refine roundsTo_of_ofInt? (fun n => rfl) fun x => ?_
    rw [floor_double, Double.floor, integral_toWhole hfloor Double.floor_value]
  · refine roundsTo_of_ofInt? (fun n => rfl) fun x => ?_
    rw [ceil_double, Double.ceil, integral_toWhole hceil Double.ceil_value]

end Standard
end Formulas
