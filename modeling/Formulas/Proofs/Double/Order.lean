import Formulas.Double.Basic

/-! Comparison of doubles as comparison of ranks. Numbers are in a total preorder, in which only the
two zeros are equal without being the same. -/
namespace Formulas.Double

theorem rank?_eq_none_iff {x : Double} : x.rank? = none ↔ x.isNan := by
  cases x with
  | nan => exact iff_of_true rfl rfl
  | infinity s => cases s <;> exact iff_of_false (Option.some_ne_none _) Bool.false_ne_true
  | finite s u h => cases s <;> exact iff_of_false (Option.some_ne_none _) Bool.false_ne_true

theorem exists_rank {x : Double} (h : x.isNan = false) : ∃ a, x.rank? = some a := by
  refine Option.ne_none_iff_exists'.mp fun hnone => ?_
  simp [rank?_eq_none_iff.mp hnone] at h

/-- The operands change places and the result its direction. -/
theorem compare?_swap (x y : Double) : y.compare? x = (x.compare? y).map Ordering.swap := by
  unfold compare?
  cases x.rank? with
  | none => cases y.rank? <;> rfl
  | some a =>
    cases y.rank? with
    | none => rfl
    | some b => exact congrArg some Std.OrientedCmp.eq_swap

theorem compare?_eq_none_iff {x y : Double} : x.compare? y = none ↔ x.isNan ∨ y.isNan := by
  rw [← rank?_eq_none_iff, ← rank?_eq_none_iff, compare?]
  cases x.rank? <;> cases y.rank? <;> simp

theorem eq_iff_compare? {x y : Double} : x.eq y ↔ x.compare? y = some .eq := beq_iff_eq

theorem le_iff {x y : Double} :
    x.le y ↔ ∃ a b, x.rank? = some a ∧ y.rank? = some b ∧ a ≤ b := by
  rw [le, compare?]
  cases x.rank? <;> cases y.rank? <;> simp [Int.isLE_compare]

theorem ge_iff {x y : Double} :
    x.ge y ↔ ∃ a b, x.rank? = some a ∧ y.rank? = some b ∧ b ≤ a := by
  rw [ge, compare?]
  cases x.rank? <;> cases y.rank? <;> simp [Int.isGE_compare]

theorem eq_iff {x y : Double} : x.eq y ↔ ∃ a, x.rank? = some a ∧ y.rank? = some a := by
  rw [eq, compare?]
  cases x.rank? with
  | none => simp
  | some a =>
    cases y.rank? with
    | none => simp
    | some b => simpa using eq_comm

/-- Only what is no number differs from itself. -/
theorem eq_self_iff {x : Double} : x.eq x ↔ x.isNan = false := by
  rw [eq_iff]
  constructor
  · intro ⟨a, ha, _⟩
    refine Bool.eq_false_iff.mpr fun hnan => ?_
    rw [rank?_eq_none_iff.mpr hnan] at ha
    cases ha
  · intro hnumber
    obtain ⟨a, ha⟩ := exists_rank hnumber
    exact ⟨a, ha, ha⟩

theorem eq_symm {x y : Double} (h : x.eq y) : y.eq x := by
  obtain ⟨a, hx, hy⟩ := eq_iff.mp h
  exact eq_iff.mpr ⟨a, hy, hx⟩

theorem eq_trans {x y z : Double} (hxy : x.eq y) (hyz : y.eq z) : x.eq z := by
  obtain ⟨a, hx, hy⟩ := eq_iff.mp hxy
  obtain ⟨b, hy', hz⟩ := eq_iff.mp hyz
  obtain rfl := Option.some.inj (hy.symm.trans hy')
  exact eq_iff.mpr ⟨a, hx, hz⟩

theorem le_of_eq {x y : Double} (h : x.eq y) : x.le y := by
  obtain ⟨a, hx, hy⟩ := eq_iff.mp h
  exact le_iff.mpr ⟨a, a, hx, hy, Int.le_refl a⟩

theorem ge_iff_le {x y : Double} : x.ge y ↔ y.le x := by
  rw [ge_iff, le_iff]
  exact ⟨fun ⟨a, b, hx, hy, h⟩ => ⟨b, a, hy, hx, h⟩, fun ⟨b, a, hy, hx, h⟩ => ⟨a, b, hx, hy, h⟩⟩

theorem eq_of_le_of_le {x y : Double} (hxy : x.le y) (hyx : y.le x) : x.eq y := by
  obtain ⟨a, b, hx, hy, hab⟩ := le_iff.mp hxy
  obtain ⟨b', a', hy', hx', hba⟩ := le_iff.mp hyx
  obtain rfl := Option.some.inj (hx.symm.trans hx')
  obtain rfl := Option.some.inj (hy.symm.trans hy')
  obtain rfl := Int.le_antisymm hab hba
  exact eq_iff.mpr ⟨a, hx, hy⟩

theorem le_total {x y : Double} (hx : x.isNan = false) (hy : y.isNan = false) :
    x.le y ∨ y.le x := by
  obtain ⟨a, ha⟩ := exists_rank hx
  obtain ⟨b, hb⟩ := exists_rank hy
  rcases Int.le_total a b with hab | hba
  · exact .inl (le_iff.mpr ⟨a, b, ha, hb, hab⟩)
  · exact .inr (le_iff.mpr ⟨b, a, hb, ha, hba⟩)

theorem le_trans {x y z : Double} (hxy : x.le y) (hyz : y.le z) : x.le z := by
  obtain ⟨a, b, hx, hy, hab⟩ := le_iff.mp hxy
  obtain ⟨b', c, hy', hz, hbc⟩ := le_iff.mp hyz
  obtain rfl := Option.some.inj (hy.symm.trans hy')
  exact le_iff.mpr ⟨a, c, hx, hz, Int.le_trans hab hbc⟩

theorem compare?_eq_lt_iff {x y : Double} :
    x.compare? y = some .lt ↔ ∃ a b, x.rank? = some a ∧ y.rank? = some b ∧ a < b := by
  rw [compare?]
  cases x.rank? <;> cases y.rank? <;> simp [Int.compare_eq_lt]

theorem lt_of_lt_of_le {x y z : Double} (hxy : x.compare? y = some .lt) (hyz : y.le z) :
    x.compare? z = some .lt := by
  obtain ⟨a, b, hx, hy, hab⟩ := compare?_eq_lt_iff.mp hxy
  obtain ⟨b', c, hy', hz, hbc⟩ := le_iff.mp hyz
  obtain rfl := Option.some.inj (hy.symm.trans hy')
  exact compare?_eq_lt_iff.mpr ⟨a, c, hx, hz, Int.lt_of_lt_of_le hab hbc⟩

theorem lt_of_le_of_lt {x y z : Double} (hxy : x.le y) (hyz : y.compare? z = some .lt) :
    x.compare? z = some .lt := by
  obtain ⟨a, b, hx, hy, hab⟩ := le_iff.mp hxy
  obtain ⟨b', c, hy', hz, hbc⟩ := compare?_eq_lt_iff.mp hyz
  obtain rfl := Option.some.inj (hy.symm.trans hy')
  exact compare?_eq_lt_iff.mpr ⟨a, c, hx, hz, Int.lt_of_le_of_lt hab hbc⟩

theorem le_of_lt {x y : Double} (h : x.compare? y = some .lt) : x.le y := by
  rw [le, h]
  rfl

theorem lt_or_eq_of_le {x y : Double} (h : x.le y) : x.compare? y = some .lt ∨ x.eq y := by
  obtain ⟨a, b, hx, hy, hab⟩ := le_iff.mp h
  rcases Int.lt_or_eq_of_le hab with hlt | rfl
  · exact .inl (compare?_eq_lt_iff.mpr ⟨a, b, hx, hy, hlt⟩)
  · exact .inr (eq_iff.mpr ⟨a, hx, hy⟩)

theorem not_lt_of_le {x y : Double} (h : y.le x) : x.compare? y ≠ some .lt := by
  intro hlt
  obtain ⟨a, b, hx, hy, hab⟩ := compare?_eq_lt_iff.mp hlt
  obtain ⟨b', a', hy', hx', hba⟩ := le_iff.mp h
  obtain rfl := Option.some.inj (hx.symm.trans hx')
  obtain rfl := Option.some.inj (hy.symm.trans hy')
  omega

end Formulas.Double
