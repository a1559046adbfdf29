import Formulas.Proofs.Evaluation.Postorder
import Formulas.Proofs.Expr.Walk

/-! The numbers of operands. With any keywords, a tree that is read from a text gives each operator
as many operands as it needs. Main statement: `operands_fit`. -/
namespace Formulas

/-- The numbers of children that an operand can do with. -/
def Operand.Takes : Operand → Nat → Prop
  | .unary _, n => n = 1
  | .binary _, n => n = 2
  | .function _, _ => True

namespace Expr

/-- At every depth the operands have the children that they need. -/
def Complete (e : Expr) : Prop :=
  ∀ operand arity, .apply operand arity ∈ e.nodes → operand.Takes arity

def CompleteAll (es : List Expr) : Prop :=
  ∀ operand arity, .apply operand arity ∈ nodesAll es → operand.Takes arity

theorem complete_constant (value : Value) : (constant value).Complete := by
  intro operand arity h
  simp [nodes] at h

theorem complete_identifier (path : String) : (identifier path).Complete := by
  intro operand arity h
  simp [nodes] at h

theorem complete_apply {operand : Operand} {args : List Expr} (hargs : CompleteAll args)
    (hcount : operand.Takes args.length) : (apply operand args).Complete := by
  intro other arity h
  rw [nodes] at h
  rcases List.mem_append.mp h with h | h
  · exact hargs other arity h
  · obtain ⟨rfl, rfl⟩ := Node.apply.inj (List.mem_singleton.mp h)
    exact hcount

theorem completeAll_nil : CompleteAll [] := by
  intro operand arity h
  cases h

theorem completeAll_cons {e : Expr} {es : List Expr} (he : e.Complete) (hes : CompleteAll es) :
    CompleteAll (e :: es) := by
  intro operand arity h
  rw [nodesAll] at h
  rcases List.mem_append.mp h with h | h
  · exact he operand arity h
  · exact hes operand arity h

end Expr

open Formulas.Expr

mutual

theorem Built.complete {e : Expr} {paths : List String} : Built e paths → e.Complete
  | .constant value => complete_constant value
  | .identifier path => complete_identifier path
  | .unary _ h => complete_apply (completeAll_cons h.complete completeAll_nil) rfl
  | .binary _ hl hr =>
    complete_apply (completeAll_cons hl.complete (completeAll_cons hr.complete completeAll_nil)) rfl
  | .call _ h => complete_apply h.completeAll trivial

theorem BuiltAll.completeAll {es : List Expr} {paths : List String} :
    BuiltAll es paths → CompleteAll es
  | .nil => completeAll_nil
  | .cons h hs => completeAll_cons h.complete hs.completeAll

end

/-- Only a node without the children that it needs fails for their number. -/
theorem Expr.Complete.evaluate_ne {e : Expr} (h : e.Complete) (host : Host) (scope : Value)
    (symbol : String) (expected got : Nat) :
    e.evaluate host scope ≠ .error (.operandCount symbol expected got) := by
  intro herror
  obtain ⟨calls, -, happlied⟩ := e.trace_eq host scope
  rw [herror] at happlied
  -- The node that fails has taken one value for each of its children.
  obtain ⟨front, node, back, below, args, before, last, hnodes, -, harity, hlast, -⟩ :=
    Applied.error_iff.mp happlied
  have hmem : node ∈ e.nodes := by
    rw [hnodes]
    exact List.mem_append_right front List.mem_cons_self
  cases hlast with
  | unaryCount op n count =>
    have hn : n = 1 := h (.unary op) n hmem
    exact count (harity.trans hn)
  | binaryCount op n count =>
    have hn : n = 2 := h (.binary op) n hmem
    exact count (harity.trans hn)

/-- Whatever the keywords are, in the tree of a formula each unary operator has one operand and each
binary operator two. So an evaluation never fails for the number of operands. -/
theorem operands_fit {keywords : Keywords} {source : String} {formula : Formula}
    (hread : Formula.readWith keywords source = .ok formula) :
    (∀ op arity, .apply (.unary op) arity ∈ formula.root.nodes → arity = 1) ∧
    (∀ op arity, .apply (.binary op) arity ∈ formula.root.nodes → arity = 2) ∧
    ∀ host scope symbol expected got,
      formula.evaluate host scope ≠ .error (.operandCount symbol expected got) := by
  obtain ⟨reader, stopped, -, hwhole, -⟩ := Formula.exists_whole_of_readWith hread
  have hwalked := Reader.walks_whole keywords reader
  rw [hwhole] at hwalked
  obtain ⟨paths, hbuilt, -⟩ := hwalked
  exact ⟨fun op arity h => hbuilt.complete (.unary op) arity h,
    fun op arity h => hbuilt.complete (.binary op) arity h,
    fun host scope symbol expected got =>
      hbuilt.complete.evaluate_ne host scope symbol expected got⟩

/-- The keywords read an or in place of a product and a negation in place of a step. -/
theorem operands_fit_odd_keywords : ∃ formula,
    Formula.readWith
        (.add (.add .empty "~" ⟨.step, "~", .unary .not⟩) "or" ⟨.multiplicative, "or", .binary .or⟩)
        "~a or b" = .ok formula ∧
    formula.root.same (.binary .or (.unary .not (.identifier "a")) (.identifier "b")) = true ∧
    ∀ host scope symbol expected got,
      formula.evaluate host scope ≠ .error (.operandCount symbol expected got) := by
  have hroot : (Formula.readWith
      (.add (.add .empty "~" ⟨.step, "~", .unary .not⟩) "or" ⟨.multiplicative, "or", .binary .or⟩)
      "~a or b").toOption.map (fun formula => formula.root.same
        (.binary .or (.unary .not (.identifier "a")) (.identifier "b"))) = some true := by
    decide +kernel
  cases hread : Formula.readWith
      (.add (.add .empty "~" ⟨.step, "~", .unary .not⟩) "or" ⟨.multiplicative, "or", .binary .or⟩)
      "~a or b" with
  | error => simp [hread, Except.toOption] at hroot
  | ok formula =>
    have hsame : formula.root.same
        (.binary .or (.unary .not (.identifier "a")) (.identifier "b")) = true := by
      simpa [hread, Except.toOption] using hroot
    exact ⟨formula, rfl, hsame, (operands_fit hread).2.2⟩

end Formulas
