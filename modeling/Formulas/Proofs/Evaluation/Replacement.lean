import Formulas.Proofs.Evaluation.Equation
import Formulas.Standard

/-! Replacing a part of an expression. Only the value of the part matters to the value of the whole.
Main statement: `evaluate_replaceAt`. -/
namespace Formulas

namespace Expr

/-- The part of a tree at a position, which lists the places of children from the root down. -/
def subtree? : Expr → (position : List Nat) → Option Expr
  | e, [] => some e
  | .apply _ args, i :: position => args[i]?.bind (subtree? · position)
  | _, _ :: _ => none

/-- Puts another tree in the place of the part at a position. -/
def replaceAt : Expr → (position : List Nat) → (part : Expr) → Expr
  | _, [], part => part
  | .apply operand args, i :: position, part =>
    .apply operand (args.modify i (replaceAt · position part))
  | e, _ :: _, _ => e

variable {host : Host} {scope : Value} {e s part : Expr} {i : Nat} {position other : List Nat}

/-- Below the root lies a child. -/
theorem exists_child_of_subtree? (h : e.subtree? (i :: position) = some s) :
    ∃ operand args child, e = .apply operand args ∧ args[i]? = some child ∧
      child.subtree? position = some s := by
  cases e with
  | constant | identifier => simp [subtree?] at h
  | apply operand args =>
    obtain ⟨child, hchild, hs⟩ := Option.bind_eq_some_iff.mp h
    exact ⟨operand, args, child, rfl, hchild, hs⟩

theorem subtree?_replaceAt (h : e.subtree? position = some s) (part : Expr) :
    (e.replaceAt position part).subtree? position = some part := by
  induction position generalizing e with
  | nil => simp [replaceAt, subtree?]
  | cons i position ih =>
    obtain ⟨operand, args, child, rfl, hchild, hs⟩ := exists_child_of_subtree? h
    simp [replaceAt, subtree?, hchild, ih hs]

/-- Parts that neither contain the replaced one nor lie in it stay as they are. -/
theorem subtree?_replaceAt_of_not_prefix (hbelow : ¬ position <+: other)
    (habove : ¬ other <+: position) (e part : Expr) :
    (e.replaceAt position part).subtree? other = e.subtree? other := by
  induction position generalizing e other with
  | nil => exact absurd List.nil_prefix hbelow
  | cons i position ih =>
    cases other with
    | nil => exact absurd List.nil_prefix habove
    | cons j other =>
      cases e with
      | constant | identifier => rfl
      | apply operand args =>
        rw [replaceAt, subtree?, subtree?, List.getElem?_modify]
        by_cases hij : i = j
        · subst hij
          have hchild (child : Expr) :
              (child.replaceAt position part).subtree? other = child.subtree? other :=
            ih (fun h => hbelow (List.cons_prefix_cons.mpr ⟨rfl, h⟩))
              (fun h => habove (List.cons_prefix_cons.mpr ⟨rfl, h⟩)) child
          cases args[i]? with
          | none => rfl
          | some child => simp [hchild]
        · simp [hij]

/-- A node sees no more of its children than their values. -/
theorem evaluate_apply_congr (operand : Operand) {args args' : List Expr}
    (h : args'.map (evaluate host scope) = args.map (evaluate host scope)) :
    (apply operand args').evaluate host scope = (apply operand args).evaluate host scope := by
  have hmapM (es : List Expr) :
      es.mapM (evaluate host scope) = (es.map (evaluate host scope)).mapM id := by
    rw [List.mapM_map, Function.id_comp]
  rw [evaluate_apply, evaluate_apply, hmapM, hmapM, h]

theorem evaluate_replaceAt_of_eq (hs : e.subtree? position = some s)
    (hvalue : part.evaluate host scope = s.evaluate host scope) :
    (e.replaceAt position part).evaluate host scope = e.evaluate host scope := by
  induction position generalizing e with
  | nil =>
    obtain rfl : e = s := by simpa [subtree?] using hs
    simpa only [replaceAt] using hvalue
  | cons i position ih =>
    obtain ⟨operand, args, child, rfl, hchild, hs⟩ := exists_child_of_subtree? hs
    rw [replaceAt]
    -- The child on the way to the part keeps its value by induction, and the others are the same.
    refine evaluate_apply_congr operand (List.ext_getElem? fun j => ?_)
    rw [List.getElem?_map, List.getElem?_map, List.getElem?_modify]
    by_cases hij : i = j
    · subst hij
      simp [hchild, ih hs]
    · simp [hij]

end Expr

/-- A part of an expression may be replaced by its value, or by any tree of the same value or with
the same failure. The whole keeps its value or its failure. -/
theorem evaluate_replaceAt {e s : Expr} {position : List Nat} (hs : e.subtree? position = some s)
    (host : Host) (scope : Value) :
    (∀ part : Expr, (e.replaceAt position part).subtree? position = some part ∧
      ∀ other, ¬ position <+: other → ¬ other <+: position →
        (e.replaceAt position part).subtree? other = e.subtree? other) ∧
    (∀ value, s.evaluate host scope = .ok value →
      (e.replaceAt position (.constant value)).evaluate host scope = e.evaluate host scope) ∧
    ∀ part : Expr, part.evaluate host scope = s.evaluate host scope →
      (e.replaceAt position part).evaluate host scope = e.evaluate host scope := by
  refine ⟨fun part => ⟨Expr.subtree?_replaceAt hs part, fun other hbelow habove =>
    Expr.subtree?_replaceAt_of_not_prefix hbelow habove e part⟩, fun value hvalue => ?_,
    fun part hpart => Expr.evaluate_replaceAt_of_eq hs hpart⟩
  have hconstant : (Expr.constant value).evaluate host scope = .ok value := rfl
  exact Expr.evaluate_replaceAt_of_eq hs (hconstant.trans hvalue.symm)

/-- The sum is folded in front of a function that is missing, and the failure stays. -/
theorem folded_before_failure :
    (Expr.call "min" [.binary (.arithmetic .add) (.constant (.int 1)) (.identifier "x"),
      .call "missing" []]).subtree? [0] =
        some (.binary (.arithmetic .add) (.constant (.int 1)) (.identifier "x")) ∧
    (Expr.binary (.arithmetic .add) (.constant (.int 1)) (.identifier "x")).evaluate .standard
      (.record (.insert .empty "x" (.int 4))) = .ok (.int 5) ∧
    (Expr.call "min" [.constant (.int 5), .call "missing" []]).evaluate .standard
        (.record (.insert .empty "x" (.int 4))) =
      (Expr.call "min" [.binary (.arithmetic .add) (.constant (.int 1)) (.identifier "x"),
        .call "missing" []]).evaluate .standard (.record (.insert .empty "x" (.int 4))) := by
  have hs : (Expr.call "min" [.binary (.arithmetic .add) (.constant (.int 1)) (.identifier "x"),
      .call "missing" []]).subtree? [0] =
        some (.binary (.arithmetic .add) (.constant (.int 1)) (.identifier "x")) := rfl
  have hvalue : (Expr.binary (.arithmetic .add) (.constant (.int 1)) (.identifier "x")).evaluate
      .standard (.record (.insert .empty "x" (.int 4))) = .ok (.int 5) := rfl
  exact ⟨hs, hvalue, (evaluate_replaceAt hs .standard _).2.1 (.int 5) hvalue⟩

end Formulas
