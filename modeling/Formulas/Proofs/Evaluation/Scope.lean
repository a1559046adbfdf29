import Formulas.Proofs.Evaluation.Congruence
import Formulas.Standard

/-! What an expression reads from its scope. Main statement:
`Formula.evaluate_depends_on_identifiers`. -/
namespace Formulas

namespace Expr

/-- Scopes in which the identifiers of a tree lead to the same are alike to the tree. -/
theorem evaluate_eq_of_resolve?_eq {e : Expr} {host : Host} {scope scope' : Value}
    (h : ∀ path ∈ e.leaves, host.resolve? scope path = host.resolve? scope' path) :
    e.evaluate host scope = e.evaluate host scope' :=
  evaluate_congr (fun _ _ => rfl) h

end Expr

/-- The identifiers of a formula are all that it reads from the scope. -/
theorem Formula.evaluate_depends_on_identifiers {keywords : Keywords} {source : String}
    {formula : Formula} (hread : Formula.readWith keywords source = .ok formula) (host : Host)
    (scope scope' : Value) (h : ∀ path ∈ formula.identifiers,
      host.resolve? scope path = host.resolve? scope' path) :
    formula.evaluate host scope = formula.evaluate host scope' := by
  rw [Formula.identifiers_eq_leaves hread] at h
  exact Expr.evaluate_eq_of_resolve?_eq h

theorem Formula.evaluate_in_larger_scope : ∃ formula,
    Formula.readWith .standard "max(x,-(y))" = .ok formula ∧ formula.identifiers = ["x", "y"] ∧
      formula.evaluate .standard (.record (.insert (.insert .empty "x" (.int 4)) "y" .null)) =
        formula.evaluate .standard
          (.record (.insert (.insert (.insert .empty "x" (.int 4)) "y" .null) "z" (.int 9))) := by
  have hread : (Formula.readWith .standard "max(x,-(y))").toOption.map Formula.identifiers =
      some ["x", "y"] := by decide +kernel
  cases h : Formula.readWith .standard "max(x,-(y))" with
  | error => simp [h, Except.toOption] at hread
  | ok formula =>
    have hidentifiers : formula.identifiers = ["x", "y"] := by simpa [h, Except.toOption] using hread
    refine ⟨formula, rfl, hidentifiers,
      Formula.evaluate_depends_on_identifiers h .standard _ _ fun path hpath => ?_⟩
    rw [hidentifiers] at hpath
    rcases List.mem_cons.mp hpath with rfl | hpath
    · rfl
    · obtain rfl := List.mem_singleton.mp hpath
      rfl

end Formulas
