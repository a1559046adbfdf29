import Formulas.Operator
import Formulas.Proofs.Decimal.Conversion
import Formulas.Proofs.Decimal.Number
import Formulas.Proofs.Number.Exactness
import Formulas.Proofs.Number.Integer
import Mathlib.Algebra.Order.Field.Basic
import Mathlib.Algebra.Order.Field.Rat
import Mathlib.Tactic.NormNum

/-! Neutral integers beside a double. Main statement: `neutral_integers_go_through_decimal`. -/
namespace Formulas

/-! ### Neutral decimals -/

namespace Decimal

/-- Within the bounds of the coefficient and the scale. -/
structure InBounds (d : Decimal) : Prop where
  coefficient_lt : d.coefficient < limit
  scale_le : d.scale ≤ maxScale

theorem fit?_of_lt {negative : Bool} {m s : Nat} (hm : m < limit) (hs : s ≤ maxScale) :
    fit? negative m s = some ⟨negative && m ≠ 0, m, s⟩ := by
  have hround : Double.roundEven m (Nat.pow 10 0) = m := by
    have h := Double.roundEven_mul m Nat.one_pos
    rwa [Nat.mul_one] at h
  have hleast : s - maxScale = 0 := Nat.sub_eq_zero_of_le hs
  unfold fit?
  simp only [hleast, Nat.sub_zero, List.range_succ_eq_map, List.map_cons, List.findSome?_cons,
    Nat.add_zero, hround, if_pos hm]

variable {d : Decimal}

theorem add?_zero (d : Decimal) :
    (d.add? (ofInt 0)).map toNumber = some d.toNumber := by
  unfold add?
  split
  · next hzero => rw [Option.map_some, toNumber_of_isZero hzero, toNumber_of_isZero rfl]
  · rfl

theorem zero_add? (d : Decimal) : (add? (ofInt 0) d).map toNumber = some d.toNumber := rfl

theorem sub?_zero (d : Decimal) :
    (d.sub? (ofInt 0)).map toNumber = some d.toNumber := add?_zero d

theorem InBounds.mul?_one (h : d.InBounds) : (d.mul? (ofInt 1)).map toNumber = some d.toNumber := by
  by_cases hzero : d.isZero
  · rw [mul?, hzero, Bool.true_or, if_pos rfl, Option.map_some, toNumber_of_isZero hzero,
      toNumber_of_isZero rfl]
  · have hzero : (d.isZero || (ofInt 1).isZero) = false := by
      rw [Bool.eq_false_iff.mpr hzero]
      rfl
    have hfit : fit? (d.negative != false) (d.coefficient * 1) (d.scale + 0) =
        some ⟨d.negative && d.coefficient ≠ 0, d.coefficient, d.scale⟩ := by
      rw [Bool.bne_false, Nat.mul_one, Nat.add_zero]
      exact fit?_of_lt h.coefficient_lt h.scale_le
    rw [mul?, hzero, if_neg Bool.false_ne_true]
    exact (congrArg (Option.map toNumber) hfit).trans (congrArg some toNumber_and)

theorem mul?_comm (a b : Decimal) : a.mul? b = b.mul? a := by
  unfold mul?
  rw [Bool.or_comm, Nat.mul_comm, Nat.add_comm, bne_comm]

theorem InBounds.one_mul? (h : d.InBounds) : (mul? (ofInt 1) d).map toNumber = some d.toNumber := by
  rw [mul?_comm]
  exact h.mul?_one

theorem divide?_of_no_rest {den fuel q : Nat} {scale : Int} {extended : Bool} (h : 0 ≤ scale) :
    divide? den (fuel + 1) q 0 scale extended = some ⟨q, scale, extended⟩ :=
  if_pos ⟨rfl, h⟩

theorem div?_one (d : Decimal) : (d.div? (ofInt 1)).map toNumber = some d.toNumber := by
  by_cases hzero : d.isZero
  · rw [div?, hzero, if_neg (by decide), if_pos rfl, Option.map_some, toNumber_of_isZero hzero,
      toNumber_of_isZero rfl]
  · have hdivide : divide? 1 blocks (d.coefficient / 1) (d.coefficient % 1) ((d.scale : Int) - 0)
        false = some ⟨d.coefficient, d.scale, false⟩ := by
      rw [Nat.div_one, Nat.mod_one, Int.sub_zero]
      exact divide?_of_no_rest (Int.natCast_nonneg _)
    have htrim : Quotient.trim ⟨d.coefficient, d.scale, false⟩ = (d.coefficient, d.scale) := by
      rw [Quotient.trim, if_neg Bool.false_ne_true, Int.toNat_natCast]
    have hquotient : d.div? (ofInt 1) =
        some ⟨(d.negative != false) && d.coefficient ≠ 0, d.coefficient, d.scale⟩ := by
      rw [div?, if_neg (by decide), if_neg hzero]
      show (divide? 1 blocks (d.coefficient / 1) (d.coefficient % 1) ((d.scale : Int) - 0)
        false).bind _ = _
      rw [hdivide, Option.bind_some, htrim]
      rfl
    rw [hquotient, Bool.bne_false]
    exact congrArg some toNumber_and

end Decimal

/-! ### Numbers through their decimals -/

/-- A double as it comes back from its decimal. Without a decimal it stays. -/
def Double.throughDecimal (x : Double) : Number :=
  ((Decimal.ofDouble? x).map Decimal.toNumber).getD (.double x)

/-- All that leaves a number as it is on paper: `v + 0`, `0 + v`, `v - 0`, `v * 1`, `1 * v` and
`v / 1`. -/
def Value.withNeutral (v : Value) : List Value :=
  [(BinaryOp.arithmetic .add).apply v (.int 0), (BinaryOp.arithmetic .add).apply (.int 0) v,
    (BinaryOp.arithmetic .subtract).apply v (.int 0),
    (BinaryOp.arithmetic .multiply).apply v (.int 1),
    (BinaryOp.arithmetic .multiply).apply (.int 1) v,
    (BinaryOp.arithmetic .divide).apply v (.int 1)]

namespace Double

/-- An operation that changes neither the decimal nor, without one, the double. -/
theorem getD_throughDecimal {x y : Double} {f : Decimal → Option Decimal}
    (hdecimal : ∀ d, Decimal.ofDouble? x = some d →
      (f d).map Decimal.toNumber = some d.toNumber)
    (hdouble : Decimal.ofDouble? x = none → y = x) :
    (((Decimal.ofDouble? x).bind f).map Decimal.toNumber).getD (.double y) = x.throughDecimal := by
  unfold throughDecimal
  cases hx : Decimal.ofDouble? x with
  | none => exact congrArg Number.double (hdouble hx)
  | some d =>
    rw [Option.bind_some, hdecimal d hx, Option.map_some, Option.getD_some, Option.getD_some]

theorem inBounds_of_ofDouble? {x : Double} {d : Decimal} (h : Decimal.ofDouble? x = some d) :
    d.InBounds := by
  cases x with
  | nan | infinity => cases h
  | finite s u hu =>
    obtain ⟨⟨m, p, hm, happ⟩, -⟩ | ⟨hnone, -⟩ := Decimal.ofDouble?_cases s hu
    · rw [hm] at h
      cases h
      exact ⟨happ.lt_limit, happ.scale_le⟩
    · rw [hnone] at h
      cases h

end Double

namespace Arithmetic

variable (op : Arithmetic) (x : Double) (n : Int64)

theorem inDecimal?_eq (a b : Option Decimal) :
    op.inDecimal? a b =
      (a.bind fun a => b.bind fun b => op.onDecimal? a b).map Decimal.toNumber := by
  cases a with
  | none => rfl
  | some a =>
    cases b with
    | none => rfl
    | some b =>
      show (op.onDecimal? a b).bind (fun d => some d.toNumber) = (op.onDecimal? a b).map _
      exact Option.map_eq_bind.symm

theorem apply_double_int : (BinaryOp.arithmetic op).apply (.double x) (.int n) =
    .number ((((Decimal.ofDouble? x).bind fun d => op.onDecimal? d (.ofInt n.toInt)).map
      Decimal.toNumber).getD (.double (op.onDouble x (.ofInt n.toInt)))) := by
  rw [Value.double, Value.int, apply_numbers, apply]
  simp only [inDecimal?_eq, Option.bind_some, Number.toDouble]

theorem apply_int_double : (BinaryOp.arithmetic op).apply (.int n) (.double x) =
    .number ((((Decimal.ofDouble? x).bind fun d => op.onDecimal? (.ofInt n.toInt) d).map
      Decimal.toNumber).getD (.double (op.onDouble (.ofInt n.toInt) x))) := by
  rw [Value.double, Value.int, apply_numbers, apply]
  simp only [inDecimal?_eq, Option.bind_some, Number.toDouble]

end Arithmetic

/-- All six results are the same, with or without a decimal. -/
theorem Value.withNeutral_eq {s : Bool} {u : Nat} (hu : Double.Representable u) :
    ∀ v ∈ (double (.finite s u hu)).withNeutral,
      v = .number (Double.finite s u hu).throughDecimal := by
  have hne (h : Decimal.ofDouble? (.finite s u hu) = none) : u ≠ 0 := by
    rintro rfl
    cases h
  unfold withNeutral
  simp only [List.forall_mem_cons, List.not_mem_nil, false_implies, implies_true, and_true,
    Arithmetic.apply_double_int, Arithmetic.apply_int_double, number.injEq, Int64.toInt_zero,
    Int64.toInt_one, Arithmetic.onDouble, Double.ofInt_zero]
  refine ⟨?_, ?_, ?_, ?_, ?_, ?_⟩
  · exact Double.getD_throughDecimal (fun d _ => d.add?_zero) fun h => Double.add_zero hu (hne h)
  · exact Double.getD_throughDecimal (fun d _ => d.zero_add?) fun h => Double.zero_add hu (hne h)
  · exact Double.getD_throughDecimal (fun d _ => d.sub?_zero) fun h => Double.add_zero hu (hne h)
  · exact Double.getD_throughDecimal (fun d hd => (Double.inBounds_of_ofDouble? hd).mul?_one)
      fun _ => Double.mul_one hu
  · exact Double.getD_throughDecimal (fun d hd => (Double.inBounds_of_ofDouble? hd).one_mul?)
      fun _ => Double.one_mul hu
  · exact Double.getD_throughDecimal (fun d _ => d.div?_one) fun _ => Double.div_one hu

/-! ### What comes back -/

namespace Double

variable {s : Bool} {u : Nat}

/-- An integer equals the double of its value, and up to `2 ^ 53` no other. -/
theorem int_eq_iff_value? {n : Int64} {x : Double} (hn : n.toInt.natAbs ≤ 2 ^ 53) :
    (Number.int n).eq (.double x) ↔ x.value? = some (n.toInt : ℚ) := by
  show (ofInt n.toInt).eq x ↔ _
  rw [eq_iff_value? (isFinite_ofInt n), (value?_ofInt_eq_iff n).mpr (fits_of_le hn)]

theorem int_eq_of_value? {n : Int64} {x : Double} (h : x.value? = some (n.toInt : ℚ)) :
    (Number.int n).eq (.double x) :=
  ((fits_iff_forall_eq n).mp (fits_of_value? h) x (isFinite_of_value? h)).mpr h

theorem eq_self_of_finite (hu : Representable u) :
    (Number.double (.finite s u hu)).eq (.double (.finite s u hu)) :=
  eq_self_iff.mpr rfl

theorem signed_mul_one (s : Bool) (n : Nat) : signed s (n * one) = Decimal.sign s n * one := by
  unfold signed Decimal.sign
  cases s with
  | false => rw [if_neg Bool.false_ne_true, if_neg Bool.false_ne_true, Int.natCast_mul]
  | true => rw [if_pos rfl, if_pos rfl, Int.natCast_mul, Int.neg_mul]

theorem value?_of_whole (hu : Representable u) {n : Nat} (h : u = n * one) :
    (finite s u hu).value? = some (Decimal.sign s n : ℚ) := by
  rw [value?_finite, h, signed_mul_one, Int.cast_mul, Int.cast_natCast,
    mul_div_cancel_right₀ _ one_ne_zero]

variable (hu : Representable u)

theorem throughDecimal_of_some {d : Decimal} (h : Decimal.ofDouble? (.finite s u hu) = some d) :
    (finite s u hu).throughDecimal = d.toNumber := by
  rw [throughDecimal, h, Option.map_some, Option.getD_some]

theorem throughDecimal_of_none (h : Decimal.ofDouble? (.finite s u hu) = none) :
    (finite s u hu).throughDecimal = .double (.finite s u hu) := by
  rw [throughDecimal, h, Option.map_none, Option.getD_none]

/-- A whole number comes back. -/
theorem throughDecimal_eq_of_whole {n : Nat} (h : u = n * one) :
    (finite s u hu).throughDecimal.eq (.double (.finite s u hu)) := by
  obtain ⟨⟨m, p, hd, happ⟩, -⟩ | ⟨hnone, -⟩ := Decimal.ofDouble?_cases s hu
  · rw [h] at happ
    obtain ⟨hm, hp⟩ := happ.eq_of_whole
    rw [throughDecimal_of_some hu hd, hm, hp, Decimal.toNumber_of_scale_zero]
    cases hint : Number.ofInt? (Decimal.sign s n) with
    | some y =>
      obtain ⟨r, rfl, hr⟩ := Number.ofInt?_eq_some_iff.mp hint
      refine int_eq_of_value? ?_
      rw [hr]
      exact value?_of_whole hu h
    | none =>
      have hne : n ≠ 0 := by
        rintro rfl
        rw [Decimal.sign, Int.natCast_zero, Int.neg_zero, ite_self] at hint
        cases hint
      rw [Option.getD_none, Decimal.toDouble_of_whole hu h hne]
      exact eq_self_of_finite hu
  · rw [throughDecimal_of_none hu hnone]
    exact eq_self_of_finite hu

/-- A number with a short decimal comes back. -/
theorem throughDecimal_eq_of_short {c q : Nat} (hvalue : u * 2 ^ q = c * one)
    (hshort : c * 5 ^ q < 2 ^ 52) :
    (finite s u hu).throughDecimal.eq (.double (.finite s u hu)) := by
  by_cases hwhole : ∃ n, u = n * one
  · obtain ⟨n, hn⟩ := hwhole
    exact throughDecimal_eq_of_whole hu hn
  have hne : u ≠ 0 := fun h => hwhole ⟨0, by rw [h, Nat.zero_mul]⟩
  obtain ⟨m, p, hm, hexact, hbound, hp⟩ := Decimal.magnitude?_of_short hu hne hvalue hshort
  have hd : Decimal.ofDouble? (.finite s u hu) = some ⟨s, m, p⟩ := by
    rw [Decimal.ofDouble?_of_ne_zero hu hne, hm, Option.map_some]
  have hfraction : (Decimal.mk s m p).isWhole = false := by
    refine decide_eq_false fun hdvd => hwhole ?_
    obtain ⟨n, hn⟩ : 10 ^ p ∣ m := hdvd
    have hten : 0 < 10 ^ p := Nat.pow_pos (by decide)
    refine ⟨n, Nat.eq_of_mul_eq_mul_right hten ?_⟩
    calc u * 10 ^ p = 10 ^ p * n * one := by rw [← hexact, hn]
      _ = n * one * 10 ^ p := by rw [Nat.mul_comm (10 ^ p), Nat.mul_right_comm]
  rw [throughDecimal_of_some hu hd, Decimal.toNumber, hfraction, if_neg Bool.false_ne_true,
    Decimal.toDouble_of_short hu hne hexact hbound hp]
  exact eq_self_of_finite hu

/-- A large number with a fraction comes back as an integer. -/
theorem exists_throughDecimal_of_large (hlarge : 2 ^ 49 * one ≤ u) (hwhole : ¬ ∃ n, u = n * one) :
    ∃ n : Int64, (finite s u hu).throughDecimal = .int n ∧ n.toInt.natAbs ≤ 2 ^ 53 := by
  have hsmall : u < 2 ^ 52 * one := by
    by_contra h
    exact hwhole (exists_eq_mul_one hu (Nat.not_lt.mp h))
  have hlimit : 2 ^ 52 * one ≤ Decimal.limit * one := Nat.mul_le_mul_right one (by decide +kernel)
  obtain ⟨⟨m, p, hd, happ⟩, -⟩ | ⟨hnone, hle⟩ := Decimal.ofDouble?_cases s hu
  · have hp : p = 0 := by
      by_contra hp
      have hhalf := happ.near.half_le (j := 2 ^ 50) (by omega)
      have hten : 10 ^ 1 ≤ 10 ^ p := Nat.pow_le_pow_right (by decide) (by omega)
      have := happ.short
      omega
    subst hp
    have hm : m ≤ 2 ^ 52 := happ.near.le_whole (n := 2 ^ 52) (Nat.le_of_lt hsmall)
    obtain ⟨n, hint, hn⟩ := Decimal.exists_toNumber_eq_int s (m := m) (by omega)
    refine ⟨n, ?_, ?_⟩
    · rw [throughDecimal_of_some hu hd, hint]
    · rw [hn, Decimal.natAbs_sign]
      omega
  · omega

/-- A tiny number comes back as zero. -/
theorem throughDecimal_of_tiny (htiny : u * 10 ^ 29 ≤ 9 * one) :
    (finite s u hu).throughDecimal = .int 0 := by
  obtain ⟨⟨m, p, hd, happ⟩, -⟩ | ⟨hnone, hle⟩ := Decimal.ofDouble?_cases s hu
  · rw [throughDecimal_of_some hu hd]
    exact Decimal.toNumber_of_isZero (decide_eq_true (happ.tiny htiny))
  · have hone := one_pos
    have hlimit : 1 * one ≤ Decimal.limit * one := Nat.mul_le_mul_right one (by decide +kernel)
    omega

end Double

/-- Whole numbers, and binary fractions with few decimal digits. -/
def Double.Kept (q : ℚ) : Prop :=
  (∃ n : ℤ, q = n) ∨ ∃ (c : ℤ) (k : ℕ), q = c / 2 ^ k ∧ |c| * 5 ^ k < 2 ^ 52

/-- Next to zero, or a fraction behind a large whole part. -/
def Double.Lost (q : ℚ) : Prop :=
  q ≠ 0 ∧ |q| ≤ 9 / 10 ^ 29 ∨ 2 ^ 49 ≤ |q| ∧ ¬ ∃ n : ℤ, q = n

namespace Double

variable {x : Double} {q : ℚ}

theorem throughDecimal_eq_of_kept (hx : x.value? = some q) (h : Kept q) :
    x.throughDecimal.eq (.double x) := by
  cases x with
  | nan | infinity => cases hx
  | finite s u hu =>
    obtain ⟨n, rfl⟩ | ⟨c, k, rfl, hshort⟩ := h
    · exact throughDecimal_eq_of_whole hu (units_of_value? hx)
    · have hvalue : u * 2 ^ k = c.natAbs * one := by
        have hpow : (0 : ℚ) < 2 ^ k := pow_pos two_pos k
        have habs := abs_value s u
        rw [Option.some.inj hx, abs_div, abs_of_pos hpow, eq_comm,
          div_eq_div_iff one_ne_zero hpow.ne', ← Int.cast_abs, Int.abs_eq_natAbs] at habs
        exact_mod_cast habs
      have hdigits : c.natAbs * 5 ^ k < 2 ^ 52 := by
        rw [Int.abs_eq_natAbs] at hshort
        exact_mod_cast hshort
      exact throughDecimal_eq_of_short hu hvalue hdigits

theorem not_throughDecimal_eq_of_lost (hx : x.value? = some q) (h : Lost q) :
    ¬ x.throughDecimal.eq (.double x) := by
  cases x with
  | nan | infinity => cases hx
  | finite s u hu =>
    have habs := abs_value s u
    rw [Option.some.inj hx] at habs
    rw [Lost, habs] at h
    obtain ⟨hne, htiny⟩ | ⟨hlarge, hfraction⟩ := h
    · have hsteps : u * 10 ^ 29 ≤ 9 * one := by
        rw [div_le_div_iff₀ cast_one_pos (by positivity)] at htiny
        exact_mod_cast htiny
      rw [throughDecimal_of_tiny hu hsteps, int_eq_iff_value? (by decide), hx]
      exact fun h => hne (Option.some.inj h)
    · have hsteps : 2 ^ 49 * one ≤ u := by
        rw [le_div_iff₀ cast_one_pos] at hlarge
        exact_mod_cast hlarge
      have hwhole : ¬ ∃ n, u = n * one := by
        rintro ⟨n, hn⟩
        have h := (value?_of_whole hu hn).symm.trans hx
        exact hfraction ⟨_, (Option.some.inj h).symm⟩
      obtain ⟨n, hint, hn⟩ := exists_throughDecimal_of_large (s := s) hu hsteps hwhole
      rw [hint, int_eq_iff_value? hn, hx]
      exact fun h => hfraction ⟨_, Option.some.inj h⟩

end Double

open Value

/-- Whatever neutral integer stands beside a finite double, the result is the double as it comes
back from its decimal. Short decimals keep it. It is lost next to zero, and as a fraction of a large
number. -/
theorem neutral_integers_go_through_decimal {x : Double} {q : ℚ} (hx : x.value? = some q) :
    (∀ v ∈ (double x).withNeutral, v = .number x.throughDecimal ∧
      (v.strictEq (.double x) ↔ x.throughDecimal.eq (.double x))) ∧
    (Double.Kept q → ∀ v ∈ (double x).withNeutral, v.strictEq (.double x)) ∧
    (Double.Lost q → ∀ v ∈ (double x).withNeutral, ¬ v.strictEq (.double x)) := by
  have hall : ∀ v ∈ (double x).withNeutral, v = .number x.throughDecimal ∧
      (v.strictEq (.double x) ↔ x.throughDecimal.eq (.double x)) := by
    intro v hv
    cases x with
    | nan | infinity => cases hx
    | finite s u hu =>
      have heq := withNeutral_eq hu v hv
      refine ⟨heq, ?_⟩
      rw [heq]
      exact Eq.to_iff (congrArg (· = true) (strictEq_number _ _))
  refine ⟨hall, fun h v hv => ?_, fun h v hv => ?_⟩
  · exact (hall v hv).2.mpr (Double.throughDecimal_eq_of_kept hx h)
  · exact mt (hall v hv).2.mp (Double.not_throughDecimal_eq_of_lost hx h)

/-- A half behind `2 ^ 49` is lost. -/
theorem large_fraction_is_lost :
    (Double.ofNumeral false ⟨5629499534213125, -1⟩).value? = some (1125899906842625 / 2) ∧
    ∀ v ∈ (double (.ofNumeral false ⟨5629499534213125, -1⟩)).withNeutral,
      ¬ v.strictEq (.double (.ofNumeral false ⟨5629499534213125, -1⟩)) := by
  obtain ⟨half, hhalf, hone⟩ : ∃ half, half = Nat.pow 2 1073 ∧ Double.one = 2 * half :=
    ⟨_, rfl, by decide +kernel⟩
  have hrank : (Double.ofNumeral false ⟨5629499534213125, -1⟩).rank? =
      some (1125899906842625 * half) := by
    rw [hhalf]
    decide +kernel
  have hvalue : (Double.ofNumeral false ⟨5629499534213125, -1⟩).value? =
      some (1125899906842625 / 2) :=
    Double.value?_of_parts hone (by decide +kernel) hrank
  have hlost : Double.Lost (1125899906842625 / 2) := by
    refine .inr ⟨?_, ?_⟩
    · rw [abs_of_pos (by norm_num)]
      norm_num
    · intro ⟨n, hn⟩
      rw [div_eq_iff two_ne_zero] at hn
      have hparity : (1125899906842625 : ℤ) = n * 2 := by exact_mod_cast hn
      omega
  exact ⟨hvalue, (neutral_integers_go_through_decimal hvalue).2.2 hlost⟩

/-- The decimal for `4096.029` has one more digit than the double for it can tell. -/
theorem product_with_one_differs :
    (Double.ofNumeral false ⟨4096029, -3⟩).isFinite ∧
    ¬ ((BinaryOp.arithmetic .multiply).apply (.double (.ofNumeral false ⟨4096029, -3⟩))
      (.int 1)).strictEq (.double (.ofNumeral false ⟨4096029, -3⟩)) := by
  decide +kernel

end Formulas
