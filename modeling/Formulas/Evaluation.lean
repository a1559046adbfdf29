import Formulas.Expr.Basic
import Formulas.Host.Basic

/-! The values of expressions. All children of a node are evaluated, left to right, before the
node itself. -/
namespace Formulas

inductive EvalError where
  | undeclaredFunction (name : String)
  | functionFailed (name message : String)
  | operandCount (symbol : String) (expected got : Nat)
  deriving DecidableEq, Repr

def EvalError.message : EvalError → String
  | .undeclaredFunction name => "Function '" ++ name ++ "' isn't declared"
  | .functionFailed name message => "Function '" ++ name ++ "' failed: " ++ message
  | .operandCount symbol expected got =>
    "Operator '" ++ symbol ++ "' expects " ++ toString expected ++ " operands, got " ++ toString got

/-- A call of a function that the host has to know. -/
def Host.call (host : Host) (name : String) (args : List Value) : Except EvalError Value :=
  match host.function? name with
  | none => .error (.undeclaredFunction name)
  | some f => (f args).mapError (.functionFailed name)

/-- The operand of a node on the values of its children, where `call` carries out the calls of
functions. -/
def Operand.applyIn {m : Type → Type} [Monad m]
    (call : String → List Value → ExceptT EvalError m Value) :
    Operand → List Value → ExceptT EvalError m Value
  | .unary op, [a] => return op.apply a
  | .binary op, [a, b] => return op.apply a b
  | .function name, args => call name args
  | .unary op, args => throw (.operandCount op.symbol 1 args.length)
  | .binary op, args => throw (.operandCount op.symbol 2 args.length)

namespace Expr

section
variable {m : Type → Type} [Monad m] (call : String → List Value → ExceptT EvalError m Value)
  (lookup : String → Value)

mutual

/-- The value of an expression, where `call` carries out the calls of functions and `lookup` gives
the values of paths. -/
def evaluateIn : Expr → ExceptT EvalError m Value
  | .constant v => return v
  | .identifier path => return lookup path
  | .apply operand args => do operand.applyIn call (← evaluateAllIn args)

def evaluateAllIn : List Expr → ExceptT EvalError m (List Value)
  | [] => return []
  | e :: es => do
    let v ← evaluateIn e
    let vs ← evaluateAllIn es
    return v :: vs

end
end

/-- The value of an expression in a scope. A path that leads nowhere is undefined. -/
def evaluate (host : Host) (scope : Value) (e : Expr) : Except EvalError Value :=
  Id.run (e.evaluateIn (m := Id) (fun name args => .mk (host.call name args))
    (fun path => (host.resolve? scope path).getD .undefined)).run

end Expr
end Formulas
