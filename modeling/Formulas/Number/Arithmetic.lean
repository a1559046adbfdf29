import Formulas.Decimal.Arithmetic
import Formulas.Number.Basic

/-! Arithmetic on numbers: integers stay integers while the result is exact, an integer and a
double meet in decimal, and doubles are left to themselves. -/
namespace Formulas

inductive Arithmetic where
  | add
  | subtract
  | multiply
  | divide
  | remainder
  deriving DecidableEq, Repr

namespace Arithmetic

/-- The exact integer result, if there is one. -/
def onInt? : Arithmetic → Int → Int → Option Int
  | .add, a, b => some (a + b)
  | .subtract, a, b => some (a - b)
  | .multiply, a, b => some (a * b)
  | .divide, a, b => if b ≠ 0 ∧ a.tmod b = 0 then some (a.tdiv b) else none
  | .remainder, a, b => if b ≠ 0 then some (a.tmod b) else none

def onDouble : Arithmetic → Double → Double → Double
  | .add => .add
  | .subtract => .sub
  | .multiply => .mul
  | .divide => .div
  | .remainder => .rem

def onDecimal? : Arithmetic → Decimal → Decimal → Option Decimal
  | .add => Decimal.add?
  | .subtract => Decimal.sub?
  | .multiply => Decimal.mul?
  | .divide => Decimal.div?
  | .remainder => Decimal.rem?

/-- Whether the quotient of two integers is in range. A remainder is taken from such a quotient
only. -/
def quotientFits (a b : Int) : Bool := (Number.int64? (a.tdiv b)).isSome

/-- The result on two integers, if it is an integer in range. -/
def onIntegers? (op : Arithmetic) (a b : Int64) : Option Number :=
  if op = .remainder ∧ !quotientFits a.toInt b.toInt then none
  else op.onInt? a.toInt b.toInt >>= Number.ofInt?

end Arithmetic

/-- A whole decimal becomes an integer if it is in range. -/
def Decimal.toNumber (d : Decimal) : Number :=
  if d.isWhole then (Number.ofInt? d.truncate).getD (.double d.toDouble) else .double d.toDouble

namespace Arithmetic

/-- The result in decimal, if both operands and the result have that form. -/
def inDecimal? (op : Arithmetic) (a b : Option Decimal) : Option Number := do
  return (← op.onDecimal? (← a) (← b)).toNumber

/-- Where an exact result is missing the operation is done on doubles. -/
def apply (op : Arithmetic) (x y : Number) : Number :=
  let exact := match x, y with
    | .int a, .int b => op.onIntegers? a b
    | .int a, .double b => op.inDecimal? (some (.ofInt a.toInt)) (Decimal.ofDouble? b)
    | .double a, .int b => op.inDecimal? (Decimal.ofDouble? a) (some (.ofInt b.toInt))
    | .double _, .double _ => none
  exact.getD (.double (op.onDouble x.toDouble y.toDouble))

end Arithmetic

namespace Number

/-- The negative of the smallest integer is a double. -/
def neg : Number → Number
  | .int n => ofInt (-n.toInt)
  | .double x => .double x.neg

/-- The absolute value of the smallest integer is a double. -/
def abs : Number → Number
  | .int n => ofInt n.toInt.natAbs
  | .double x => .double x.abs

end Number
end Formulas
