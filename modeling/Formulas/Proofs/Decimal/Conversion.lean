import Formulas.Proofs.Decimal.Digits

/-! The decimal for a double: on which side of whole numbers and halves it lies, how close it is,
and when it is exact. Main statements: `ofDouble?_cases` and `magnitude?_of_short`. -/
namespace Formulas.Decimal

open Double (one Representable excess)

/-- What holds of the coefficient and the scale for a number of smallest steps. A decimal from a half
on is too large by five ninths of its `2 ^ 48`th part at most. -/
structure Approximates (units m s : Nat) : Prop where
  lt_limit : m < limit
  scale_le : s ≤ maxScale
  short : s = 0 ∨ m < 2 ^ 52
  trimmed : s = 0 ∨ m % 10 ≠ 0
  near : Near units one m (10 ^ s)
  tiny : units * 10 ^ 29 ≤ 9 * one → m = 0
  close : 10 ^ s ≤ 2 * m →
    2 ^ 48 * (9 * (m * one)) ≤ 2 ^ 48 * (9 * (units * 10 ^ s)) + 5 * (m * one)

/-- What holds while factors of five are left. Bits are lost only where the number is large, after a
factor of five has gone in. -/
structure Below (units m k f : Nat) : Prop where
  room : 0 < f ∨ m * 5 < limit
  lt_limit : m < limit
  near : Near units one m (2 ^ k * 10 ^ f)
  le : m * one ≤ units * (2 ^ k * 10 ^ f)

theorem two_pow_succ_mul (k f : Nat) : 2 ^ (k + 1) * 10 ^ f = 2 * (2 ^ k * 10 ^ f) := by
  rw [Nat.pow_succ', Nat.mul_assoc]

namespace Below

variable {units m k f : Nat}

theorem half (h : Below units m (k + 1) f) (heven : m % 2 = 0 ∨ 0 < f) :
    Below units (m / 2) k f := by
  have hroom := h.room
  have hlimit := h.lt_limit
  have hnear := h.near
  have hle := h.le
  rw [two_pow_succ_mul] at hnear hle
  constructor
  · omega
  · omega
  · refine hnear.half (heven.imp_right fun hf => ?_)
    obtain ⟨f, rfl⟩ := Nat.exists_eq_add_of_lt hf
    rw [Nat.zero_add, Nat.pow_succ, ← Nat.mul_assoc]
    omega
  · have hbits : m / 2 * 2 * one ≤ m * one := Nat.mul_le_mul_right one (Nat.div_mul_le_self m 2)
    rw [Nat.mul_right_comm] at hbits
    rw [Nat.mul_left_comm] at hle
    omega

theorem five (h : Below units m (k + 1) f) (hroom : m * 5 < limit) :
    Below units (m * 5) k (f + 1) := by
  have hten : 2 ^ k * 10 ^ (f + 1) = 10 * (2 ^ k * 10 ^ f) := by
    rw [Nat.pow_succ', Nat.mul_left_comm]
  have hfive : 2 ^ k * 10 ^ (f + 1) = 2 ^ (k + 1) * 10 ^ f * 5 := by
    rw [two_pow_succ_mul, hten]
    omega
  constructor
  · exact .inl (Nat.succ_pos f)
  · exact hroom
  · rw [hfive]
    exact h.near.mul_five
  · have hle := h.le
    rw [hfive, ← Nat.mul_assoc, Nat.mul_right_comm]
    omega

end Below

theorem below_invariant (units : Nat) : FivesInvariant (Below units) where
  halve heven h := h.half (.inl heven)
  five _ hroom h := h.five hroom
  cut _ hfull h := h.half (.inr (h.room.resolve_right (Nat.not_lt.mpr hfull)))

/-- What holds while digits go. The last place is too large by five ninths at most: each digit less
adds up to a half to a tenth of what was there. -/
structure Approaches (units m s : Nat) : Prop where
  lt_limit : m < limit
  near : Near units one m (10 ^ s)
  tiny : units * 10 ^ 29 ≤ 9 * one → m = 0 ∨ ∃ t, s = 29 + t ∧ m ≤ 9 * 10 ^ t
  error : 9 * (m * one) ≤ 9 * (units * 10 ^ s) + 5 * one
  close : 2 * m < 10 ^ s ∨
    2 ^ 48 * (9 * (m * one)) ≤ 2 ^ 48 * (9 * (units * 10 ^ s)) + 5 * (m * one)

namespace Approaches

variable {units m s : Nat}

theorem of_below (h : Below units m 0 s) : Approaches units m s := by
  have hle := h.le
  have hnear := h.near
  rw [Nat.pow_zero, Nat.one_mul] at hle hnear
  constructor
  · exact h.lt_limit
  · exact hnear
  · intro htiny
    have hpow : m * 10 ^ 29 ≤ 9 * 10 ^ s := by
      refine Nat.le_of_mul_le_mul_right ?_ Double.one_pos
      calc m * 10 ^ 29 * one = m * one * 10 ^ 29 := Nat.mul_right_comm _ _ _
        _ ≤ units * 10 ^ s * 10 ^ 29 := Nat.mul_le_mul_right _ hle
        _ = units * 10 ^ 29 * 10 ^ s := Nat.mul_right_comm _ _ _
        _ ≤ 9 * one * 10 ^ s := Nat.mul_le_mul_right _ htiny
        _ = 9 * 10 ^ s * one := Nat.mul_right_comm _ _ _
    by_cases hs : s < 29
    · left
      have : 10 ^ s ≤ 10 ^ 28 := Nat.pow_le_pow_right (by decide) (by omega)
      omega
    · right
      obtain ⟨t, rfl⟩ := Nat.exists_eq_add_of_le (Nat.not_lt.mp hs)
      refine ⟨t, rfl, ?_⟩
      rw [Nat.pow_add] at hpow
      omega
  · omega
  · right
    omega

theorem mul_ten_pow_succ (units s : Nat) : units * 10 ^ (s + 1) = 10 * (units * 10 ^ s) := by
  rw [Nat.pow_succ', Nat.mul_left_comm]

theorem error_drop (h : Approaches units m (s + 1)) :
    9 * (dropDigit m * one) ≤ 9 * (units * 10 ^ s) + 5 * one := by
  have hdigit : 10 * (dropDigit m * one) ≤ m * one + 5 * one := by
    rw [← Nat.mul_assoc, ← Nat.add_mul]
    exact Nat.mul_le_mul_right one (dropDigit_le m)
  have herror := h.error
  rw [mul_ten_pow_succ] at herror
  omega

theorem tiny_drop (hm : m = 0 ∨ 10 ≤ m) (h : m = 0 ∨ ∃ t, s + 1 = 29 + t ∧ m ≤ 9 * 10 ^ t) :
    dropDigit m = 0 ∨ ∃ t, s = 29 + t ∧ dropDigit m ≤ 9 * 10 ^ t := by
  have hlow := dropDigit_le m
  obtain hzero | ⟨t, ht, hmt⟩ := h
  · left
    omega
  cases t with
  | zero =>
    left
    omega
  | succ t =>
    right
    refine ⟨t, by omega, ?_⟩
    rw [Nat.pow_succ] at hmt
    omega

theorem close_drop (hguard : maxScale ≤ s ∨ 2 ^ 52 ≤ m ∨ m % 10 = 0)
    (h : Approaches units m (s + 1)) :
    2 * dropDigit m < 10 ^ s ∨
      2 ^ 48 * (9 * (dropDigit m * one)) ≤
        2 ^ 48 * (9 * (units * 10 ^ s)) + 5 * (dropDigit m * one) := by
  have hhigh := le_dropDigit m
  have herror := h.error_drop
  by_cases hzero : m % 10 = 0
  · -- Nothing is lost, and both sides shrink alike.
    have hexact : m = 10 * dropDigit m := by
      rw [dropDigit_of_mod_eq_zero hzero]
      omega
    have hsteps : m * one = 10 * (dropDigit m * one) := by
      rw [← Nat.mul_assoc, ← hexact]
    have hclose := h.close
    rw [mul_ten_pow_succ, Nat.pow_succ] at hclose
    omega
  · have hlarge : 2 * dropDigit m < 10 ^ s ∨ 2 ^ 48 ≤ dropDigit m := by
      rcases hguard with hs | hnoise | hzero'
      · have : 10 ^ 28 ≤ 10 ^ s := Nat.pow_le_pow_right (by decide) hs
        omega
      · omega
      · exact absurd hzero' hzero
    refine hlarge.imp_right fun hdigits => ?_
    have := Nat.mul_le_mul_right one hdigits
    omega

theorem drop (hm : m = 0 ∨ 10 ≤ m) (hguard : maxScale ≤ s ∨ 2 ^ 52 ≤ m ∨ m % 10 = 0)
    (h : Approaches units m (s + 1)) : Approaches units (dropDigit m) s := by
  have hlow := dropDigit_le m
  have hlimit := h.lt_limit
  constructor
  · omega
  · exact h.near.drop
  · exact fun htiny => tiny_drop hm (h.tiny htiny)
  · exact h.error_drop
  · exact h.close_drop hguard

theorem vanish (hm : m < 10) (hs : maxScale ≤ s) (h : Approaches units m (s + 1)) :
    Approaches units 0 0 := by
  constructor
  · exact Nat.zero_lt_of_lt h.lt_limit
  · exact h.near.vanish hm hs
  · exact fun _ => .inl rfl
  · rw [Nat.zero_mul, Nat.mul_zero]
    exact Nat.zero_le _
  · left
    decide

/-- After the clean-up little room is left. -/
theorem approximates {s' m' : Nat} (h : Approaches units (clean s' m').1 (clean s' m').2) :
    Approximates units (clean s' m').1 (clean s' m').2 := by
  have hscale := clean_scale_le s' m'
  constructor
  · exact h.lt_limit
  · exact hscale
  · exact clean_short s' m'
  · exact clean_trimmed s' m'
  · exact h.near
  · intro htiny
    refine (h.tiny htiny).resolve_right ?_
    intro ⟨t, ht, _⟩
    unfold maxScale at hscale
    omega
  · intro hhalf
    exact h.close.resolve_left (Nat.not_lt.mpr hhalf)

end Approaches

theorem approaches_invariant (units : Nat) : DigitInvariant (Approaches units) where
  drop := Approaches.drop
  vanish := Approaches.vanish

theorem Approximates.of_eq {n : Nat} (hn : n < limit) : Approximates (n * one) n 0 where
  lt_limit := hn
  scale_le := Nat.zero_le _
  short := .inl rfl
  trimmed := .inl rfl
  near := .of_eq Double.one_pos (Nat.mul_one _).symm
  tiny h := by
    have := Double.one_pos
    rw [Nat.mul_right_comm] at h
    have := Nat.le_of_mul_le_mul_right h Double.one_pos
    omega
  close _ := by omega

theorem Below.start {units : Nat} (hunits : Representable units) (hsmall : units < 2 ^ 52 * one) :
    Below units (units / 2 ^ excess units) (1074 - excess units) 0 := by
  have hlt := Double.mantissa_lt units
  have hlimit : 2 ^ 53 * 5 < limit := by decide +kernel
  have heq : units / 2 ^ excess units * one =
      units * (2 ^ (1074 - excess units) * 10 ^ 0) := by
    rw [Nat.pow_zero, Nat.mul_one]
    exact Double.mantissa_mul_one hunits hsmall
  constructor
  · right
    omega
  · omega
  · exact .of_eq Double.one_pos heq
  · exact Nat.le_of_eq heq

/-- A number is too large for a decimal exactly from the limit of the coefficients on. -/
theorem magnitude?_cases {units : Nat} (hunits : Representable units) :
    (∃ m s, magnitude? units = some (m, s) ∧ Approximates units m s) ∧ units < limit * one ∨
      magnitude? units = none ∧ limit * one ≤ units := by
  by_cases hsmall : units < 2 ^ 52 * one
  · obtain ⟨m, s, hm, hbelow⟩ :=
      magnitude?_of_lt (below_invariant units) hsmall (.start hunits hsmall)
    have hclean := clean_induction (approaches_invariant units) (.of_below hbelow)
    have hlimit : 2 ^ 52 * one ≤ limit * one := Nat.mul_le_mul_right one (by decide +kernel)
    have hlt : units < limit * one := Nat.lt_of_lt_of_le hsmall hlimit
    have happ := hclean.approximates
    left
    exact ⟨⟨(clean s m).1, (clean s m).2, hm, happ⟩, hlt⟩
  · have hlarge := Nat.not_lt.mp hsmall
    obtain ⟨n, hvalue⟩ := Double.exists_eq_mul_one hunits hlarge
    rw [hvalue] at hunits hlarge ⊢
    rw [magnitude?_of_ge hunits hlarge]
    split
    · next hn =>
      left
      exact ⟨⟨n, 0, rfl, .of_eq hn⟩, Nat.mul_lt_mul_of_pos_right hn Double.one_pos⟩
    · next hn =>
      right
      exact ⟨rfl, Nat.mul_le_mul_right one (Nat.le_of_not_lt hn)⟩

/-! ### Short decimals -/

/-- The exact value is `c / 2 ^ q` all along, and the number is odd once a factor of five is in. -/
structure Exactly (c q m k f : Nat) : Prop where
  eq : m * 2 ^ q = c * (2 ^ (k + f) * 5 ^ f)
  odd : 0 < f → m % 2 = 1

namespace Exactly

variable {c q m k f : Nat}

/-- An odd number has all its factors of two in the denominator. -/
theorem le_of_odd (h : m * 2 ^ q = c * (2 ^ k * 5 ^ f)) (hodd : m % 2 = 1) :
    k ≤ q ∧ m ≤ c * 5 ^ f := by
  have hle : k ≤ q := by
    by_contra hlt
    obtain ⟨d, rfl⟩ := Nat.exists_eq_add_of_lt (Nat.not_le.mp hlt)
    have heven : m = 2 * (c * (2 ^ d * 5 ^ f)) := by
      refine Nat.eq_of_mul_eq_mul_right (Nat.two_pow_pos q) ?_
      rw [h, Nat.pow_succ, Nat.pow_add]
      ring
    omega
  obtain ⟨d, rfl⟩ := Nat.exists_eq_add_of_le hle
  have heq : m * 2 ^ d = c * 5 ^ f := by
    refine Nat.eq_of_mul_eq_mul_right (Nat.two_pow_pos k) ?_
    calc m * 2 ^ d * 2 ^ k = m * 2 ^ (k + d) := by rw [Nat.mul_assoc, ← Nat.pow_add, Nat.add_comm]
      _ = c * 5 ^ f * 2 ^ k := by rw [h, Nat.mul_comm (2 ^ k), Nat.mul_assoc]
  have hm : m ≤ m * 2 ^ d := Nat.le_mul_of_pos_right m (Nat.two_pow_pos d)
  exact ⟨hle, by rwa [heq] at hm⟩

theorem lt_of_odd {bound : Nat} (hshort : c * 5 ^ q < bound) (h : Exactly c q m (k + 1) f)
    (hodd : m % 2 = 1) : m * 5 < bound := by
  obtain ⟨hle, hm⟩ := le_of_odd h.eq hodd
  have hpow : 5 ^ (f + 1) ≤ 5 ^ q := Nat.pow_le_pow_right (by decide) (by omega)
  calc m * 5 ≤ c * 5 ^ f * 5 := Nat.mul_le_mul_right 5 hm
    _ = c * 5 ^ (f + 1) := by rw [Nat.mul_assoc, ← Nat.pow_succ]
    _ ≤ c * 5 ^ q := Nat.mul_le_mul_left c hpow
    _ < bound := hshort

end Exactly

theorem exactly_invariant {c q : Nat} (hshort : c * 5 ^ q < limit) :
    FivesInvariant (Exactly c q) where
  halve {m k f} heven h := by
    have hf : f = 0 := by
      have := h.odd
      omega
    subst hf
    have heq := h.eq
    constructor
    · obtain ⟨n, rfl⟩ := Nat.dvd_of_mod_eq_zero heven
      rw [Nat.add_zero, Nat.pow_succ', Nat.mul_assoc, Nat.mul_assoc, Nat.mul_left_comm c] at heq
      rw [Nat.mul_div_cancel_left n (by decide), Nat.add_zero]
      omega
    · exact fun hf => absurd hf (Nat.lt_irrefl 0)
  five {m k f} hodd hroom h := by
    have heq := h.eq
    constructor
    · rw [Nat.mul_right_comm, heq, Nat.pow_succ 5, Nat.add_right_comm, Nat.add_assoc]
      ring
    · intro _
      omega
  cut hodd hfull h := absurd (h.lt_of_odd hshort hodd) (Nat.not_lt.mpr hfull)

theorem Exactly.start {units c q : Nat} (hunits : Representable units)
    (hsmall : units < 2 ^ 52 * one) (hvalue : units * 2 ^ q = c * one) :
    Exactly c q (units / 2 ^ excess units) (1074 - excess units) 0 := by
  constructor
  · refine Nat.eq_of_mul_eq_mul_right Double.one_pos ?_
    rw [Nat.add_zero, Nat.pow_zero, Nat.mul_one, Nat.mul_right_comm,
      Double.mantissa_mul_one hunits hsmall, Nat.mul_right_comm, hvalue, Nat.mul_right_comm]
  · exact fun hf => absurd hf (Nat.lt_irrefl 0)

/-- Without anything to drop the clean-up does nothing. -/
theorem clean_of_odd {m p : Nat} (hp : p ≤ maxScale) (hm : m < 2 ^ 52) (hodd : 0 < p → m % 2 = 1) :
    clean p m = (m, p) := by
  cases p with
  | zero => rfl
  | succ p =>
    have hdigit : m % 10 ≠ 0 := by
      have := hodd (Nat.succ_pos p)
      omega
    have hexcess : dropExcess (p + 1) m = (m, p + 1) := if_pos hp
    have hnoise : dropNoise (p + 1) m = (m, p + 1) := if_neg (Nat.not_le.mpr hm)
    rw [clean_eq, hexcess, hnoise]
    exact if_neg hdigit

namespace Exactly

variable {c q m s : Nat}

/-- Once the factors are worked off, the bound that the value has in binary is one in decimal. -/
theorem bounds (hshort : c * 5 ^ q < 2 ^ 52) (h : Exactly c q m 0 s) :
    m < 2 ^ 52 ∧ s ≤ q := by
  have heq := h.eq
  rw [Nat.zero_add] at heq
  cases s with
  | zero =>
    rw [Nat.pow_zero, Nat.pow_zero, Nat.mul_one] at heq
    have hm : m ≤ m * 2 ^ q := Nat.le_mul_of_pos_right m (Nat.two_pow_pos q)
    have hc : c ≤ c * 5 ^ q := Nat.le_mul_of_pos_right c (Nat.pow_pos (by decide))
    omega
  | succ s =>
    obtain ⟨hle, hm⟩ := le_of_odd heq (h.odd (Nat.succ_pos s))
    have hpow : 5 ^ (s + 1) ≤ 5 ^ q := Nat.pow_le_pow_right (by decide) hle
    have hmul : c * 5 ^ (s + 1) ≤ c * 5 ^ q := Nat.mul_le_mul_left c hpow
    omega

theorem mul_one_eq {units : Nat} (hvalue : units * 2 ^ q = c * one) (h : Exactly c q m 0 s) :
    m * one = units * 10 ^ s := by
  have heq := h.eq
  rw [Nat.zero_add, ← Nat.mul_pow] at heq
  refine Nat.eq_of_mul_eq_mul_right (Nat.two_pow_pos q) ?_
  calc m * one * 2 ^ q = c * 10 ^ s * one := by rw [Nat.mul_right_comm, heq]
    _ = units * 10 ^ s * 2 ^ q := by rw [Nat.mul_right_comm, ← hvalue, Nat.mul_right_comm]

end Exactly

/-- A number with a short decimal becomes this decimal. -/
theorem magnitude?_of_short {units c q : Nat} (hunits : Representable units)
    (hne : units ≠ 0) (hvalue : units * 2 ^ q = c * one) (hshort : c * 5 ^ q < 2 ^ 52) :
    ∃ m s, magnitude? units = some (m, s) ∧ m * one = units * 10 ^ s ∧ m < 2 ^ 52 ∧ s ≤ 22 := by
  have hc : 0 < c := by
    refine Nat.pos_of_ne_zero fun hc => hne ?_
    rw [hc, Nat.zero_mul] at hvalue
    exact (Nat.mul_eq_zero.mp hvalue).resolve_right (Nat.ne_of_gt (Nat.two_pow_pos q))
  have hq : q ≤ 22 := by
    by_contra hq
    have hpow : 5 ^ 23 ≤ 5 ^ q := Nat.pow_le_pow_right (by decide) (by omega)
    have := Nat.le_mul_of_pos_left (5 ^ q) hc
    omega
  have hsmall : units < 2 ^ 52 * one := by
    have hclt : c < 2 ^ 52 :=
      Nat.lt_of_le_of_lt (Nat.le_mul_of_pos_right c (Nat.pow_pos (by decide))) hshort
    calc units ≤ units * 2 ^ q := Nat.le_mul_of_pos_right units (Nat.two_pow_pos q)
      _ = c * one := hvalue
      _ < 2 ^ 52 * one := Nat.mul_lt_mul_of_pos_right hclt Double.one_pos
  obtain ⟨m, s, hm, h⟩ := magnitude?_of_lt
    (exactly_invariant (Nat.lt_trans hshort (by decide +kernel))) hsmall
    (.start hunits hsmall hvalue)
  obtain ⟨hbound, hs⟩ := h.bounds hshort
  have hclean : clean s m = (m, s) := by
    refine clean_of_odd ?_ hbound h.odd
    unfold maxScale
    omega
  rw [hclean] at hm
  exact ⟨m, s, hm, h.mul_one_eq hvalue, hbound, Nat.le_trans hs hq⟩

/-- A whole number becomes itself. -/
theorem Approximates.eq_of_whole {n m s : Nat} (h : Approximates (n * one) m s) :
    m = n ∧ s = 0 := by
  have hle := h.near.le_whole (Nat.le_refl (n * one))
  have hge := h.near.half_le (j := 2 * n) (Nat.le_of_eq (Nat.mul_assoc _ _ _))
  have hm : m = n * 10 ^ s := by
    rw [Nat.mul_assoc] at hge
    omega
  cases s with
  | zero =>
    rw [Nat.pow_zero, Nat.mul_one] at hm
    exact ⟨hm, rfl⟩
  | succ s =>
    rw [Nat.pow_succ, ← Nat.mul_assoc] at hm
    have := h.trimmed
    omega

/-! ### Doubles -/

theorem ofDouble?_zero {negative : Bool} (h : Representable 0) :
    ofDouble? (.finite negative 0 h) = some ⟨negative, 0, 0⟩ := rfl

theorem ofDouble?_of_ne_zero {negative : Bool} {units : Nat} (hunits : Representable units)
    (hne : units ≠ 0) :
    ofDouble? (.finite negative units hunits) =
      (magnitude? units).map fun (m, s) => ⟨negative, m, s⟩ := by
  cases units with
  | zero => exact absurd rfl hne
  | succ n => rfl

theorem ofDouble?_cases (negative : Bool) {units : Nat} (hunits : Representable units) :
    (∃ m s, ofDouble? (.finite negative units hunits) = some ⟨negative, m, s⟩ ∧
        Approximates units m s) ∧ units < limit * one ∨
      ofDouble? (.finite negative units hunits) = none ∧ limit * one ≤ units := by
  by_cases hzero : units = 0
  · subst hzero
    left
    have h := Approximates.of_eq (n := 0) (by decide +kernel)
    rw [Nat.zero_mul] at h
    exact ⟨⟨0, 0, ofDouble?_zero hunits, h⟩, Nat.mul_pos (by decide +kernel) Double.one_pos⟩
  rw [ofDouble?_of_ne_zero hunits hzero]
  obtain ⟨⟨m, s, hm, h⟩, hlt⟩ | ⟨hnone, hle⟩ := magnitude?_cases hunits
  · left
    refine ⟨⟨m, s, ?_, h⟩, hlt⟩
    rw [hm, Option.map_some]
  · right
    rw [hnone]
    exact ⟨rfl, hle⟩

end Formulas.Decimal
