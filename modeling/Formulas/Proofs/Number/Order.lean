import Formulas.Operator
import Formulas.Proofs.Number.Comparison

/-! The order of numbers of both kinds, where two integers compare exactly and all other pairs as
doubles. Main statement: `less_is_strict_order`. -/
namespace Formulas

namespace Number

variable {x y z : Number}

theorem compare?_int_eq_lt_iff {m n : Int64} :
    (int m).compare? (int n) = some .lt ↔ m.toInt < n.toInt := by
  rw [compare?, Option.some_inj, Int.compare_eq_lt]

/-- Numbers are in the order of their doubles, and only two integers can be in order although their
doubles are equal. -/
theorem compare?_eq_lt_iff : x.compare? y = some .lt ↔
    x.toDouble.compare? y.toDouble = some .lt ∨ Blurred x y := by
  cases x with
  | double x => exact (or_iff_left (not_blurred_double_left x y)).symm
  | int m =>
    cases y with
    | double y => exact (or_iff_left (not_blurred_double_right (.int m) y)).symm
    | int n =>
      rw [compare?_int_eq_lt_iff, blurred_int_iff]
      constructor
      · intro hlt
        have hle : (Double.ofInt m.toInt).le (Double.ofInt n.toInt) :=
          Double.ofInt_le_ofInt (Int.le_of_lt hlt)
        exact (Double.lt_or_eq_of_le hle).imp_right fun heq => ⟨hlt, heq⟩
      · rintro (hdouble | ⟨hlt, -⟩)
        · by_contra hge
          exact Double.not_lt_of_le (Double.ofInt_le_ofInt (Int.not_lt.mp hge)) hdouble
        · exact hlt

theorem Blurred.trans (hxy : Blurred x y) (hyz : Blurred y z) : Blurred x z := by
  obtain ⟨m, n, rfl, rfl, hmn, heq⟩ := hxy
  obtain ⟨n', k, hn, rfl, hnk, heq'⟩ := hyz
  cases hn
  exact ⟨m, k, rfl, rfl, Int.lt_trans hmn hnk, Double.eq_trans heq heq'⟩

theorem Blurred.toDouble_eq (h : Blurred x y) : x.toDouble.eq y.toDouble := by
  obtain ⟨m, n, rfl, rfl, -, heq⟩ := h
  exact heq

theorem Blurred.irrefl (x : Number) : ¬ Blurred x x := by
  rintro ⟨m, n, rfl, h, hlt, -⟩
  cases h
  exact Int.lt_irrefl _ hlt

theorem compare?_self_ne_lt (x : Number) : x.compare? x ≠ some .lt := by
  intro h
  rcases compare?_eq_lt_iff.mp h with hdouble | hblurred
  · exact Double.not_lt_of_le (Double.le_of_lt hdouble) hdouble
  · exact Blurred.irrefl x hblurred

/-- A step between blurred integers stays at the same double, so it can be put before or behind a
step that leads to a larger one. -/
theorem compare?_lt_trans (hxy : x.compare? y = some .lt) (hyz : y.compare? z = some .lt) :
    x.compare? z = some .lt := by
  rw [compare?_eq_lt_iff] at *
  rcases hxy with hxy | hxy
  · have hle : y.toDouble.le z.toDouble := by
      rcases hyz with hyz | hyz
      · exact Double.le_of_lt hyz
      · exact Double.le_of_eq hyz.toDouble_eq
    exact .inl (Double.lt_of_lt_of_le hxy hle)
  · rcases hyz with hyz | hyz
    · exact .inl (Double.lt_of_le_of_lt (Double.le_of_eq hxy.toDouble_eq) hyz)
    · exact .inr (hxy.trans hyz)

theorem less_number : BinaryOp.less.apply (.number x) (.number y) = .bool true ↔
    x.compare? y = some .lt := by
  simp [BinaryOp.apply, Value.compare?, Value.toNumber]

theorem lessEqual_number : BinaryOp.lessEqual.apply (.number x) (.number y) = .bool true ↔
    (x.compare? y).any Ordering.isLE := by
  simp [BinaryOp.apply, Value.compare?, Value.toNumber]

theorem greaterEqual_number : BinaryOp.greaterEqual.apply (.number x) (.number y) = .bool true ↔
    (y.compare? x).any Ordering.isLE := by
  rw [← any_isGE_compare?_iff]
  simp [BinaryOp.apply, Value.compare?, Value.toNumber]

/-- Less or equal is not transitive: over a double it can lead from an integer to a smaller one. -/
theorem lessEqual_trans_iff (hxy : BinaryOp.lessEqual.apply (.number x) (.number y) = .bool true)
    (hyz : BinaryOp.lessEqual.apply (.number y) (.number z) = .bool true) :
    BinaryOp.lessEqual.apply (.number x) (.number z) = .bool true ↔ ¬ Blurred z x := by
  rw [lessEqual_number] at *
  exact any_isLE_compare?_iff (Double.le_trans (toDouble_le_of_isLE hxy) (toDouble_le_of_isLE hyz))

/-- No number is less than itself, and what is less than a smaller number is less than a larger one,
whatever the kinds of the three. A number is less than another one if and only if its double is, or
the two are integers in order that become the same double. -/
theorem less_is_strict_order (x y z : Number) :
    ¬ BinaryOp.less.apply (.number x) (.number x) = .bool true ∧
    (BinaryOp.less.apply (.number x) (.number y) = .bool true →
      BinaryOp.less.apply (.number y) (.number z) = .bool true →
      BinaryOp.less.apply (.number x) (.number z) = .bool true) ∧
    (BinaryOp.less.apply (.number x) (.number y) = .bool true ↔
      x.toDouble.compare? y.toDouble = some .lt ∨ Blurred x y) := by
  simp only [less_number]
  exact ⟨compare?_self_ne_lt x, compare?_lt_trans, compare?_eq_lt_iff⟩

/-- The first step is between integers that become the same double, the second one is not. -/
theorem less_over_blurred :
    BinaryOp.less.apply (.int 9007199254740992) (.int 9007199254740993) = .bool true ∧
    BinaryOp.less.apply (.int 9007199254740993) (.double (.infinity false)) = .bool true ∧
    BinaryOp.less.apply (.int 9007199254740992) (.double (.infinity false)) = .bool true := by
  have hfirst : BinaryOp.less.apply (.int 9007199254740992) (.int 9007199254740993) = .bool true :=
    less_number.mpr (by decide +kernel)
  have hsecond :
      BinaryOp.less.apply (.int 9007199254740993) (.double (.infinity false)) = .bool true :=
    less_number.mpr (by decide +kernel)
  exact ⟨hfirst, hsecond, (less_is_strict_order _ _ _).2.1 hfirst hsecond⟩

end Number

end Formulas
