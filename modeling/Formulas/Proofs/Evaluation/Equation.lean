import Mathlib.Data.List.Forall2
import Formulas.Evaluation

/-! The value of a node from the values of its children. Main statement: `Expr.evaluate_apply`. -/
namespace Formulas

open Formulas.Expr

/-- An operand applied to values. -/
def Host.apply (host : Host) (operand : Operand) (args : List Value) : Except EvalError Value :=
  Id.run (operand.applyIn (m := Id) (fun name args => .mk (host.call name args)) args).run

variable {host : Host} {scope : Value} {α β : Type}

theorem run_bind (m : ExceptT EvalError Id α) (f : α → ExceptT EvalError Id β) :
    Id.run (m >>= f).run = Id.run m.run >>= fun a => Id.run (f a).run := by
  cases h : Id.run m.run with
  | ok a =>
    obtain rfl : m = .mk (.ok a) := h
    rfl
  | error e =>
    obtain rfl : m = .mk (.error e) := h
    rfl

theorem evaluateAllIn_eq_mapM (es : List Expr) :
    Id.run (evaluateAllIn (m := Id) (fun name args => .mk (host.call name args))
      (fun path => (host.resolve? scope path).getD .undefined) es).run =
      es.mapM (evaluate host scope) := by
  induction es with
  | nil => rfl
  | cons e es ih =>
    rw [evaluateAllIn, List.mapM_cons, run_bind, ← ih]
    simp only [run_bind]
    rfl

/-- A node is applied to the values of all its children. -/
theorem Expr.evaluate_apply (operand : Operand) (args : List Expr) :
    (Expr.apply operand args).evaluate host scope =
      args.mapM (evaluate host scope) >>= host.apply operand := by
  rw [evaluate, evaluateIn, run_bind, evaluateAllIn_eq_mapM]
  rfl

/-- Children have values if each of them has one. -/
theorem mapM_evaluate_eq_ok_iff {es : List Expr} {values : List Value} :
    es.mapM (evaluate host scope) = .ok values ↔
      List.Forall₂ (fun e value => e.evaluate host scope = .ok value) es values := by
  induction es generalizing values with
  | nil => cases values <;> simp [pure, Except.pure]
  | cons e es ih =>
    rw [List.mapM_cons]
    cases he : e.evaluate host scope with
    | error => cases values <;> simp [he, bind, Except.bind]
    | ok value =>
      cases hes : es.mapM (evaluate host scope) with
      | error => cases values <;> simp [he, hes, ← ih, bind, Except.bind]
      | ok others => cases values <;> simp [he, hes, ← ih, bind, Except.bind, pure, Except.pure]

end Formulas
