import Formulas.Operator
import Formulas.Proofs.Value.Equality
import Mathlib.Logic.ExistsUnique

/-! The four comparisons and the equality of the language say the same about two values. Main
statement: `comparisons_cohere`. -/
namespace Formulas

namespace Value

variable {a b : Value}

/-- A value that is no number is compared as a number. -/
def Incomparable (a b : Value) : Prop :=
  ¬ (a.isText ∧ b.isText) ∧ (a.toNumber.isNan ∨ b.toNumber.isNan)

/-- Two texts, or two numbers of any kind. -/
inductive Alike : Value → Value → Prop
  | texts (s t : String) : Alike (.text s) (.text t)
  | numbers (x y : Number) : Alike (.number x) (.number y)

theorem compare?_of_not_texts (h : ¬ (a.isText ∧ b.isText)) :
    a.compare? b = a.toNumber.compare? b.toNumber := by
  unfold compare?
  split
  · exact absurd ⟨rfl, rfl⟩ h
  · rfl

theorem exists_texts (h : a.isText ∧ b.isText) : ∃ s t, a = .text s ∧ b = .text t := by
  cases a <;> cases b <;> simp_all [isText]

/-- With the operands the other way round two texts are still compared as texts, and all else as
numbers. -/
theorem compare?_swap (a b : Value) : b.compare? a = (a.compare? b).map Ordering.swap := by
  by_cases h : a.isText ∧ b.isText
  · obtain ⟨s, t, rfl, rfl⟩ := exists_texts h
    exact congrArg some Std.OrientedCmp.eq_swap
  · rw [compare?_of_not_texts h, compare?_of_not_texts (mt And.symm h)]
    exact Number.compare?_swap _ _

theorem compare?_eq_none_iff : a.compare? b = none ↔ Incomparable a b := by
  by_cases h : a.isText ∧ b.isText
  · obtain ⟨s, t, rfl, rfl⟩ := exists_texts h
    exact iff_of_false (Option.some_ne_none _) fun hnot => hnot.1 h
  · rw [compare?_of_not_texts h, Number.compare?_eq_none_iff, Incomparable, and_iff_right h]

/-- Equality has a definition of its own; here it is the middle of the comparison. -/
theorem Alike.strictEq_eq (h : Alike a b) : a.strictEq b = (a.compare? b == some .eq) := by
  rw [Bool.eq_iff_iff, beq_iff_eq]
  cases h with
  | texts s t =>
    rw [strictEq_text, decide_eq_true_iff, ← Std.compare_eq_iff_eq]
    exact Option.some_inj.symm
  | numbers x y =>
    rw [strictEq_number]
    exact Number.eq_iff_compare?

end Value

open Value

namespace BinaryOp

variable {a b : Value}

theorem less_swap (a b : Value) : less.apply a b = greater.apply b a := by
  simp only [apply, compare?_swap a b]
  rcases a.compare? b with _ | _ | _ | _ <;> rfl

theorem lessEqual_swap (a b : Value) : lessEqual.apply a b = greaterEqual.apply b a := by
  simp only [apply, compare?_swap a b]
  rcases a.compare? b with _ | _ | _ | _ <;> rfl

theorem not_less_and_greater (a b : Value) :
    ¬ (less.apply a b = .bool true ∧ greater.apply a b = .bool true) := by
  simp only [apply, Value.bool.injEq, beq_iff_eq]
  rintro ⟨hless, hgreater⟩
  rw [hless] at hgreater
  cases hgreater

theorem apply_of_incomparable (h : Incomparable a b) :
    ∀ op ∈ [less, lessEqual, greater, greaterEqual], op.apply a b = .bool false := by
  have hnone : a.compare? b = none := compare?_eq_none_iff.mpr h
  simp [apply, hnone]

/-- What can be compared is less, equal or greater. -/
theorem exists_ordering (h : ¬ Incomparable a b) : ∃ o, a.compare? b = some o :=
  Option.ne_none_iff_exists'.mp (mt compare?_eq_none_iff.mp h)

theorem lessEqual_eq_not_greater (h : ¬ Incomparable a b) :
    lessEqual.apply a b = UnaryOp.not.apply (greater.apply a b) := by
  obtain ⟨o, ho⟩ := exists_ordering h
  simp only [apply, ho]
  cases o <;> rfl

theorem greaterEqual_eq_not_less (h : ¬ Incomparable a b) :
    greaterEqual.apply a b = UnaryOp.not.apply (less.apply a b) := by
  obtain ⟨o, ho⟩ := exists_ordering h
  simp only [apply, ho]
  cases o <;> rfl

theorem equal_iff (h : Alike a b) : equal.apply a b = .bool true ↔
    lessEqual.apply a b = .bool true ∧ greaterEqual.apply a b = .bool true := by
  simp only [apply, h.strictEq_eq, Value.bool.injEq]
  rcases a.compare? b with _ | _ | _ | _ <;> decide

/-- The operator that tests for an ordering. -/
def ofOrdering : Ordering → BinaryOp
  | .lt => less
  | .eq => equal
  | .gt => greater

theorem ofOrdering_mem (o : Ordering) : ofOrdering o ∈ [less, equal, greater] := by
  cases o <;> decide

theorem apply_iff_ofOrdering (h : Alike a b) {o : Ordering} (ho : a.compare? b = some o)
    {op : BinaryOp} (hop : op ∈ [less, equal, greater]) :
    op.apply a b = .bool true ↔ op = ofOrdering o := by
  have hcases : op = less ∨ op = equal ∨ op = greater := by simpa using hop
  rcases hcases with rfl | rfl | rfl
  · simp only [apply, ho, Value.bool.injEq]
    cases o <;> decide
  · simp only [apply, h.strictEq_eq, ho, Value.bool.injEq]
    cases o <;> decide
  · simp only [apply, ho, Value.bool.injEq]
    cases o <;> decide

theorem existsUnique_apply (h : Alike a b) (hcomparable : ¬ Incomparable a b) :
    ∃! op, op ∈ [less, equal, greater] ∧ op.apply a b = .bool true := by
  obtain ⟨o, ho⟩ := exists_ordering hcomparable
  refine ⟨ofOrdering o, ⟨ofOrdering_mem o, ?_⟩, fun op ⟨hop, htrue⟩ => ?_⟩
  · exact (apply_iff_ofOrdering h ho (ofOrdering_mem o)).mpr rfl
  · exact (apply_iff_ofOrdering h ho hop).mp htrue

end BinaryOp

/-- Operands that change places change the direction of a comparison, less and greater exclude each
other, and unless the operands cannot be compared one of less or equal and greater holds. Of two
texts or two numbers that can be compared exactly one is less, equal or greater. -/
theorem comparisons_cohere (a b : Value) :
    (BinaryOp.less.apply a b = BinaryOp.greater.apply b a ∧
      BinaryOp.lessEqual.apply a b = BinaryOp.greaterEqual.apply b a) ∧
    ¬ (BinaryOp.less.apply a b = .bool true ∧ BinaryOp.greater.apply a b = .bool true) ∧
    (Incomparable a b →
      ∀ op ∈ [BinaryOp.less, .lessEqual, .greater, .greaterEqual], op.apply a b = .bool false) ∧
    (¬ Incomparable a b →
      BinaryOp.lessEqual.apply a b = UnaryOp.not.apply (BinaryOp.greater.apply a b) ∧
      BinaryOp.greaterEqual.apply a b = UnaryOp.not.apply (BinaryOp.less.apply a b)) ∧
    (Alike a b →
      (BinaryOp.equal.apply a b = .bool true ↔
        BinaryOp.lessEqual.apply a b = .bool true ∧
        BinaryOp.greaterEqual.apply a b = .bool true) ∧
      (¬ Incomparable a b → ∃! op, op ∈ [BinaryOp.less, .equal, .greater] ∧
        op.apply a b = .bool true)) := by
  refine ⟨⟨BinaryOp.less_swap a b, BinaryOp.lessEqual_swap a b⟩,
    BinaryOp.not_less_and_greater a b, BinaryOp.apply_of_incomparable, fun h => ?_, fun h => ?_⟩
  · exact ⟨BinaryOp.lessEqual_eq_not_greater h, BinaryOp.greaterEqual_eq_not_less h⟩
  · exact ⟨BinaryOp.equal_iff h, BinaryOp.existsUnique_apply h⟩

end Formulas
