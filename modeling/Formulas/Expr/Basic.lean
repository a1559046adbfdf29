import Formulas.Operator

/-! Expression trees. -/
namespace Formulas

/-- What a node applies to the values of its children. -/
inductive Operand where
  | unary (op : UnaryOp)
  | binary (op : BinaryOp)
  | function (name : String)
  deriving DecidableEq, Repr

/-- A function is named only, so it may be declared after the tree is built. -/
inductive Expr where
  | constant (value : Value)
  | identifier (path : String)
  | apply (operand : Operand) (args : List Expr)

namespace Expr

instance : Inhabited Expr := ⟨constant .undefined⟩

def unary (op : UnaryOp) (e : Expr) : Expr := apply (.unary op) [e]

def binary (op : BinaryOp) (left right : Expr) : Expr := apply (.binary op) [left, right]

def call (name : String) (args : List Expr) : Expr := apply (.function name) args

mutual

/-- Equality of trees up to the equality of values that tells the kinds of numbers apart. -/
def same : Expr → Expr → Bool
  | .constant a, .constant b => a.same b
  | .identifier p, .identifier q => p = q
  | .apply f as, .apply g bs => f = g && sameAll as bs
  | _, _ => false

def sameAll : List Expr → List Expr → Bool
  | [], [] => true
  | a :: as, b :: bs => same a b && sameAll as bs
  | _, _ => false

end
end Expr
end Formulas
