import Formulas.Number.Arithmetic
import Formulas.Value.Basic

/-! The operators and what they make of their operands. -/
namespace Formulas

/-- Operators before their operand. None of them writes to a variable. -/
inductive UnaryOp where
  | plus
  | negate
  | not
  | increment
  | decrement
  deriving DecidableEq, Repr

/-- Operators between two operands. -/
inductive BinaryOp where
  | or
  | and
  | equal
  | notEqual
  | less
  | lessEqual
  | greater
  | greaterEqual
  | arithmetic (op : Arithmetic)
  deriving DecidableEq, Repr

namespace UnaryOp

def symbol : UnaryOp → String
  | .plus => "+"
  | .negate => "-"
  | .not => "!"
  | .increment => "++"
  | .decrement => "--"

def all : List UnaryOp := [.plus, .negate, .not, .increment, .decrement]

end UnaryOp

namespace BinaryOp

def symbol : BinaryOp → String
  | .or => "||"
  | .and => "&&"
  | .equal => "=="
  | .notEqual => "!="
  | .less => "<"
  | .lessEqual => "<="
  | .greater => ">"
  | .greaterEqual => ">="
  | .arithmetic .add => "+"
  | .arithmetic .subtract => "-"
  | .arithmetic .multiply => "*"
  | .arithmetic .divide => "/"
  | .arithmetic .remainder => "%"

/-- What an additive operator means before an operand. -/
def asUnary? : BinaryOp → Option UnaryOp
  | .arithmetic .add => some .plus
  | .arithmetic .subtract => some .negate
  | _ => none

def all : List BinaryOp :=
  [.or, .and, .equal, .notEqual, .less, .lessEqual, .greater, .greaterEqual, .arithmetic .add,
    .arithmetic .subtract, .arithmetic .multiply, .arithmetic .divide, .arithmetic .remainder]

end BinaryOp

namespace Value

/-- Two texts compare by their characters, all else by number. -/
def compare? : Value → Value → Option Ordering
  | .text a, .text b => some (compare a b)
  | a, b => a.toNumber.compare? b.toNumber

def isText : Value → Bool
  | .text _ => true
  | _ => false

/-- A sum with a text on either side joins the plain texts. -/
def arithmetic (op : Arithmetic) (a b : Value) : Value :=
  if op = .add ∧ (a.isText ∨ b.isText) then .text (a.plain ++ b.plain)
  else .number (op.apply a.toNumber b.toNumber)

end Value

/-- Both connectives pick one of two operands that are already there. -/
def BinaryOp.apply (op : BinaryOp) (a b : Value) : Value :=
  match op with
  | .or => if a.isTruthy then a else b
  | .and => if a.isTruthy then b else a
  | .equal => .bool (a.strictEq b)
  | .notEqual => .bool (!a.strictEq b)
  | .less => .bool (a.compare? b == some .lt)
  | .lessEqual => .bool ((a.compare? b).any Ordering.isLE)
  | .greater => .bool (a.compare? b == some .gt)
  | .greaterEqual => .bool ((a.compare? b).any Ordering.isGE)
  | .arithmetic op => .arithmetic op a b

def UnaryOp.apply (op : UnaryOp) (a : Value) : Value :=
  match op with
  | .plus => a
  | .negate => .number a.toNumber.neg
  | .not => .bool !a.isTruthy
  | .increment => .arithmetic .add a (.int 1)
  | .decrement => .arithmetic .subtract a (.int 1)

end Formulas
