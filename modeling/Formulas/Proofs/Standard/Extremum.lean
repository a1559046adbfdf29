import Formulas.Proofs.Number.Order
import Formulas.Standard

/-! The smallest and the largest of some numbers. The arguments are compared as doubles, so two
integers that become the same double are not told apart. Main statement:
`extrema_unless_blurred`. -/
namespace Formulas

open Number

namespace Standard

theorem mapM_number (args : List Number) : (args.map .number).mapM number = .ok args := by
  induction args with
  | nil => rfl
  | cons x args ih => simp [number, ih, bind, Except.bind, pure, Except.pure]

/-- The better of two arguments, the first one of equals. -/
def better (keeps : Double → Double → Bool) (best x : Number) : Number :=
  if keeps best.toDouble x.toDouble then best else x

section Comparison

variable {keeps : Double → Double → Bool}
  (total : ∀ {x y : Double}, x.isNan = false → y.isNan = false → keeps x y ∨ keeps y x)
  (trans : ∀ {x y z : Double}, keeps x y → keeps y z → keeps x z)

theorem better_eq (keeps : Double → Double → Bool) (x y : Number) :
    better keeps x y = x ∨ better keeps x y = y :=
  ite_eq_or_eq _ x y

include total in
theorem keeps_better {x y : Number} (hx : x.isNan = false) (hy : y.isNan = false) :
    keeps (better keeps x y).toDouble x.toDouble ∧
      keeps (better keeps x y).toDouble y.toDouble := by
  by_cases h : keeps x.toDouble y.toDouble
  · rw [better, if_pos h]
    exact ⟨(total hx hx).elim id id, h⟩
  · rw [better, if_neg h]
    exact ⟨(total hx hy).resolve_left h, (total hy hy).elim id id⟩

include total trans in
/-- What is kept to the end was among the numbers and is as good as each of them. -/
theorem foldl_better (first : Number) (rest : List Number)
    (hnumbers : ∀ x ∈ first :: rest, x.isNan = false) :
    rest.foldl (better keeps) first ∈ first :: rest ∧
      ∀ x ∈ first :: rest, keeps (rest.foldl (better keeps) first).toDouble x.toDouble := by
  induction rest generalizing first with
  | nil =>
    have hfirst := hnumbers first List.mem_cons_self
    exact ⟨List.mem_cons_self, by simpa using (total hfirst hfirst)⟩
  | cons second rest ih =>
    obtain ⟨hfirst, hsecond, hrest⟩ :
        first.isNan = false ∧ second.isNan = false ∧ ∀ x ∈ rest, x.isNan = false := by
      simpa using hnumbers
    have hnext : (better keeps first second).isNan = false := by
      rcases better_eq keeps first second with h | h <;> rw [h] <;> assumption
    obtain ⟨hmem, hbest⟩ := ih _ (List.forall_mem_cons.mpr ⟨hnext, hrest⟩)
    obtain ⟨hbestNext, hbestRest⟩ := List.forall_mem_cons.mp hbest
    obtain ⟨hnextFirst, hnextSecond⟩ := keeps_better total hfirst hsecond
    rw [List.foldl_cons]
    constructor
    · rcases List.mem_cons.mp hmem with h | h
      · rw [h]
        rcases better_eq keeps first second with h | h <;> simp [h]
      · exact List.mem_cons_of_mem _ (List.mem_cons_of_mem _ h)
    · refine List.forall_mem_cons.mpr ⟨trans hbestNext hnextFirst, ?_⟩
      exact List.forall_mem_cons.mpr ⟨trans hbestNext hnextSecond, hbestRest⟩

theorem extremum_eq_foldl (keeps : Double → Double → Bool) (first : Number) (rest : List Number)
    (hnumbers : ∀ x ∈ first :: rest, x.isNan = false) :
    extremum keeps ((first :: rest).map .number) =
      .ok (.number (rest.foldl (better keeps) first)) := by
  have hany : (first :: rest).any Number.isNan = false := by
    rw [List.any_eq_false]
    exact fun x hx => by simp [hnumbers x hx]
  have hrest := mapM_number rest
  simp only [List.map_cons, extremum, hrest, number, bind, Except.bind, hany, pure, Except.pure]
  rfl

include total trans in
theorem extremum_of_numbers {args : List Number} (hne : args ≠ [])
    (hnumbers : ∀ x ∈ args, x.isNan = false) :
    ∃ r ∈ args, extremum keeps (args.map .number) = .ok (.number r) ∧
      ∀ x ∈ args, keeps r.toDouble x.toDouble := by
  obtain ⟨first, rest, rfl⟩ := List.exists_cons_of_ne_nil hne
  obtain ⟨hmem, hbest⟩ := foldl_better total trans first rest hnumbers
  exact ⟨_, hmem, extremum_eq_foldl keeps first rest hnumbers, hbest⟩

end Comparison

theorem max_of_numbers {args : List Number} (hne : args ≠ [])
    (hnumbers : ∀ x ∈ args, x.isNan = false) :
    ∃ r ∈ args, max (args.map .number) = .ok (.number r) ∧ ∀ x ∈ args,
      (BinaryOp.greaterEqual.apply (.number r) (.number x) = .bool true ↔ ¬ Blurred r x) := by
  have htotal {x y : Double} (hx : x.isNan = false) (hy : y.isNan = false) :
      x.ge y ∨ y.ge x := by
    rw [Double.ge_iff_le, Double.ge_iff_le]
    exact Double.le_total hy hx
  have htrans {x y z : Double} (hxy : x.ge y) (hyz : y.ge z) : x.ge z :=
    Double.ge_iff_le.mpr (Double.le_trans (Double.ge_iff_le.mp hyz) (Double.ge_iff_le.mp hxy))
  obtain ⟨r, hr, hmax, hbest⟩ := extremum_of_numbers htotal htrans hne hnumbers
  refine ⟨r, hr, hmax, fun x hx => ?_⟩
  rw [greaterEqual_number, any_isLE_compare?_iff (Double.ge_iff_le.mp (hbest x hx))]

theorem min_of_numbers {args : List Number} (hne : args ≠ [])
    (hnumbers : ∀ x ∈ args, x.isNan = false) :
    ∃ r ∈ args, min (args.map .number) = .ok (.number r) ∧ ∀ x ∈ args,
      (BinaryOp.lessEqual.apply (.number r) (.number x) = .bool true ↔ ¬ Blurred x r) := by
  obtain ⟨r, hr, hmin, hbest⟩ :=
    extremum_of_numbers Double.le_total Double.le_trans hne hnumbers
  refine ⟨r, hr, hmin, fun x hx => ?_⟩
  rw [lessEqual_number, any_isLE_compare?_iff (hbest x hx)]

theorem exists_int_iff {ints : List Int64} {result : Number → Prop}
    {best : Number → Number → Prop} :
    (∃ r ∈ ints.map Number.int, result r ∧ ∀ x ∈ ints.map Number.int, best r x) ↔
      ∃ m ∈ ints, result (.int m) ∧ ∀ n ∈ ints, best (.int m) (.int n) := by
  simp

/-- Of any numbers the largest one is found, and the smallest one, as the operators of the language
order them. Only an integer that becomes the same double as the result may lie beyond it, and then
one of the two is larger than `2 ^ 53`. -/
theorem extrema_unless_blurred {args : List Number} (hne : args ≠ [])
    (hnumbers : ∀ x ∈ args, x.isNan = false) :
    (∃ r ∈ args, max (args.map .number) = .ok (.number r) ∧ ∀ x ∈ args,
      (BinaryOp.greaterEqual.apply (.number r) (.number x) = .bool true ↔ ¬ Blurred r x)) ∧
    (∃ r ∈ args, min (args.map .number) = .ok (.number r) ∧ ∀ x ∈ args,
      (BinaryOp.lessEqual.apply (.number r) (.number x) = .bool true ↔ ¬ Blurred x r)) ∧
    (∀ ints : List Int64, args = ints.map .int →
      (∃ m ∈ ints, max (args.map .number) = .ok (.int m) ∧
        ∀ n ∈ ints, (n.toInt ≤ m.toInt ↔ ¬ Blurred (.int m) (.int n))) ∧
      (∃ m ∈ ints, min (args.map .number) = .ok (.int m) ∧
        ∀ n ∈ ints, (m.toInt ≤ n.toInt ↔ ¬ Blurred (.int n) (.int m)))) ∧
    ∀ m n : Int64, Blurred (.int m) (.int n) →
      2 ^ 53 < m.toInt.natAbs ∨ 2 ^ 53 < n.toInt.natAbs := by
  have hmax := max_of_numbers hne hnumbers
  have hmin := min_of_numbers hne hnumbers
  refine ⟨hmax, hmin, ?_, fun m n => Blurred.large⟩
  rintro ints rfl
  simp only [exists_int_iff, greaterEqual_number, any_isLE_compare?_int] at hmax
  simp only [exists_int_iff, lessEqual_number, any_isLE_compare?_int] at hmin
  exact ⟨hmax, hmin⟩

/-- Neither integer is large enough to become the same double as another. -/
theorem max_beside_infinity :
    [Number.int (-2), .double (.infinity true), .int 3] ≠ [] ∧
    (∀ x ∈ [Number.int (-2), .double (.infinity true), .int 3], x.isNan = false) ∧
    ∃ r ∈ [Number.int (-2), .double (.infinity true), .int 3],
      max [.int (-2), .double (.infinity true), .int 3] = .ok (.number r) ∧
      ∀ x ∈ [Number.int (-2), .double (.infinity true), .int 3],
        BinaryOp.greaterEqual.apply (.number r) (.number x) = .bool true := by
  have hne : [Number.int (-2), .double (.infinity true), .int 3] ≠ [] := by simp
  have hnumbers :
      ∀ x ∈ [Number.int (-2), .double (.infinity true), .int 3], x.isNan = false := by
    decide +kernel
  obtain ⟨⟨r, hr, hmax, hbest⟩, -, -, hlarge⟩ := extrema_unless_blurred hne hnumbers
  refine ⟨hne, hnumbers, r, hr, hmax, fun x hx => (hbest x hx).mpr fun hblurred => ?_⟩
  obtain ⟨m, n, rfl, rfl, -⟩ := id hblurred
  have hm : m = -2 ∨ m = 3 := by simpa using hr
  have hn : n = -2 ∨ n = 3 := by simpa using hx
  have := hlarge m n hblurred
  rcases hm with rfl | rfl <;> rcases hn with rfl | rfl <;> simp at this

/-- Of two blurred integers the first one is taken, although it is smaller. -/
theorem max_of_blurred {m n : Int64} (h : Blurred (.int m) (.int n)) :
    max [.int m, .int n] = .ok (.int m) ∧
      ¬ BinaryOp.greaterEqual.apply (.int m) (.int n) = .bool true := by
  obtain ⟨hlt, heq⟩ := blurred_int_iff.mp h
  have hkeeps : (Double.ofInt m.toInt).ge (Double.ofInt n.toInt) :=
    Double.ge_iff_le.mpr (Double.le_of_eq (Double.eq_symm heq))
  have hbetter : better Double.ge (.int m) (.int n) = .int m := if_pos hkeeps
  have hnumbers : ∀ x ∈ [Number.int m, .int n], x.isNan = false := by
    simp [Number.isNan, toDouble, Double.isNan_ofInt]
  constructor
  · have hmax := extremum_eq_foldl Double.ge (.int m) [.int n] hnumbers
    rwa [List.foldl_cons, List.foldl_nil, hbetter] at hmax
  · intro hge
    have := any_isLE_compare?_int.mp (greaterEqual_number.mp hge)
    omega

/-- Of two integers that become the same double the first one is taken, here the smaller one. -/
theorem smaller_integer_is_max :
    max [.int 9007199254740992, .int 9007199254740993] = .ok (.int 9007199254740992) ∧
    ¬ BinaryOp.greaterEqual.apply (.int 9007199254740992) (.int 9007199254740993) = .bool true :=
  max_of_blurred ⟨_, _, rfl, rfl, by decide, by decide +kernel⟩

end Standard
end Formulas
