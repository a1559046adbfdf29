import Formulas.Proofs.Expr.Walk

/-! What an evaluation depends on: the functions that are called and the paths of the identifiers.
Main statement: `Expr.evaluate_congr`. -/
namespace Formulas

/-- The function that a node calls. -/
def Operand.callee? : Operand → Option String
  | .function name => some name
  | .unary _ | .binary _ => none

namespace Expr

mutual

/-- The names of the functions that a tree calls, in the order of their calls. -/
def callees : Expr → List String
  | .constant _ | .identifier _ => []
  | .apply operand args => calleesAll args ++ operand.callee?.toList

def calleesAll : List Expr → List String
  | [] => []
  | e :: es => e.callees ++ calleesAll es

end

end Expr

section
variable {m : Type → Type} [Monad m] {call call' : String → List Value → ExceptT EvalError m Value}
  {lookup lookup' : String → Value}

theorem Operand.applyIn_congr (operand : Operand)
    (h : ∀ name ∈ operand.callee?.toList, call name = call' name) (values : List Value) :
    operand.applyIn call values = operand.applyIn call' values := by
  cases operand with
  | function name =>
    have hname : call name = call' name := h name (by simp [callee?])
    rw [applyIn, applyIn, hname]
  | unary op => rcases values with _ | ⟨a, _ | ⟨b, values⟩⟩ <;> rfl
  | binary op => rcases values with _ | ⟨a, _ | ⟨b, _ | ⟨c, values⟩⟩⟩ <;> rfl

namespace Expr

mutual

/-- An evaluation carries out no other calls than those of the tree and looks up no other paths than
those of its identifiers. -/
theorem evaluateIn_congr : (e : Expr) → (∀ name ∈ e.callees, call name = call' name) →
    (∀ path ∈ e.leaves, lookup path = lookup' path) →
    e.evaluateIn call lookup = e.evaluateIn call' lookup'
  | .constant _, _, _ => rfl
  | .identifier path, _, hpaths => by
    have hpath : lookup path = lookup' path := hpaths path List.mem_cons_self
    rw [evaluateIn, evaluateIn, hpath]
  | .apply operand args, hcalls, hpaths => by
    rw [callees, List.forall_mem_append] at hcalls
    have hargs : evaluateAllIn call lookup args = evaluateAllIn call' lookup' args :=
      evaluateAllIn_congr args hcalls.1 hpaths
    have hoperand : operand.applyIn call = operand.applyIn call' :=
      funext (operand.applyIn_congr hcalls.2)
    rw [evaluateIn, evaluateIn, hargs, hoperand]

theorem evaluateAllIn_congr : (es : List Expr) → (∀ name ∈ calleesAll es, call name = call' name) →
    (∀ path ∈ leavesAll es, lookup path = lookup' path) →
    evaluateAllIn call lookup es = evaluateAllIn call' lookup' es
  | [], _, _ => rfl
  | e :: es, hcalls, hpaths => by
    rw [calleesAll, List.forall_mem_append] at hcalls
    rw [leavesAll, List.forall_mem_append] at hpaths
    rw [evaluateAllIn, evaluateAllIn, evaluateIn_congr e hcalls.1 hpaths.1,
      evaluateAllIn_congr es hcalls.2 hpaths.2]

end
end Expr
end

/-- Hosts and scopes in which the names of a tree mean the same are alike to the tree. -/
theorem Expr.evaluate_congr {e : Expr} {host host' : Host} {scope scope' : Value}
    (hcalls : ∀ name ∈ e.callees, host.function? name = host'.function? name)
    (hpaths : ∀ path ∈ e.leaves, host.resolve? scope path = host'.resolve? scope' path) :
    e.evaluate host scope = e.evaluate host' scope' := by
  unfold evaluate
  rw [evaluateIn_congr]
  · intro name hname
    unfold Host.call
    rw [hcalls name hname]
  · intro path hpath
    rw [hpaths path hpath]

end Formulas
