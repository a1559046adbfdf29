import Formulas.Double.Shortest

/-! Numbers are integers of 64 bits or doubles, and the two kinds stay apart. -/
namespace Formulas

inductive Number where
  | int (n : Int64)
  | double (x : Double)
  deriving DecidableEq

namespace Number

/-- An integer within the range of 64 bits. -/
def int64? (n : Int) : Option Int64 :=
  if Int64.minValue.toInt ≤ n ∧ n ≤ Int64.maxValue.toInt then some (Int64.ofInt n) else none

/-- An integer as a number of its own kind, if it is in range. -/
def ofInt? (n : Int) : Option Number := (int64? n).map .int

/-- An integer outside the range becomes the nearest double. -/
def ofInt (n : Int) : Number := (ofInt? n).getD (.double (.ofInt n))

def nan : Number := .double .nan

def toDouble : Number → Double
  | .int n => .ofInt n.toInt
  | .double x => x

def isNan (x : Number) : Bool := x.toDouble.isNan

/-- Two integers compare exactly, all other pairs as doubles. -/
def compare? : Number → Number → Option Ordering
  | .int a, .int b => some (compare a.toInt b.toInt)
  | x, y => x.toDouble.compare? y.toDouble

/-- Equality of values across the two kinds. -/
def eq : Number → Number → Bool
  | .int a, .int b => a = b
  | x, y => x.toDouble.eq y.toDouble

/-- Equality within one kind. -/
def same : Number → Number → Bool
  | .int a, .int b => a = b
  | .double x, .double y => x.eq y
  | _, _ => false

/-- Neither a zero of any sign nor no number. -/
def isTruthy : Number → Bool
  | .int n => n ≠ 0
  | .double x => !x.isNan && !x.eq (.zero false)

/-- The plain text of a number. -/
def plain : Number → String
  | .int n => toString n.toInt
  | .double x => x.plain

end Number
end Formulas
