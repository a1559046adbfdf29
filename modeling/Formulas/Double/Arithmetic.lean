import Formulas.Double.Basic

/-! Arithmetic of doubles: the exact result, rounded once. -/
namespace Formulas.Double

def neg : Double → Double
  | .nan => .nan
  | .infinity s => .infinity !s
  | .finite s u h => .finite (!s) u h

def abs : Double → Double
  | .nan => .nan
  | .infinity _ => .infinity false
  | .finite _ u h => .finite false u h

/-- A finite double in smallest steps. -/
def signed (negative : Bool) (units : Nat) : Int := if negative then -units else units

/-- An exact sum of zero is positive unless both terms are negative. -/
def add : Double → Double → Double
  | .nan, _ => .nan
  | _, .nan => .nan
  | .infinity s, .infinity t => if s = t then .infinity s else .nan
  | .infinity s, .finite .. => .infinity s
  | .finite .., .infinity t => .infinity t
  | .finite s u _, .finite t v _ =>
    let sum := signed s u + signed t v
    if sum = 0 then zero (s && t) else nearest (sum < 0) sum.natAbs 1

def sub (x y : Double) : Double := x.add y.neg

def mul : Double → Double → Double
  | .nan, _ => .nan
  | _, .nan => .nan
  | .infinity s, .infinity t => .infinity (s != t)
  | .infinity s, .finite t v _ => if v = 0 then .nan else .infinity (s != t)
  | .finite s u _, .infinity t => if u = 0 then .nan else .infinity (s != t)
  | .finite s u _, .finite t v _ => nearest (s != t) (u * v) one

def div : Double → Double → Double
  | .nan, _ => .nan
  | _, .nan => .nan
  | .infinity _, .infinity _ => .nan
  | .infinity s, .finite t _ _ => .infinity (s != t)
  | .finite s _ _, .infinity t => zero (s != t)
  | .finite s u _, .finite t v _ =>
    if v = 0 then if u = 0 then .nan else .infinity (s != t)
    else nearest (s != t) (u * one) v

/-- The remainder of the quotient cut to an integer; it has the sign of the dividend. -/
def rem : Double → Double → Double
  | .nan, _ => .nan
  | _, .nan => .nan
  | .infinity _, _ => .nan
  | .finite s u h, .infinity _ => .finite s u h
  | .finite s u _, .finite _ v _ => if v = 0 then .nan else nearest s (u % v) 1

/-- A whole number in place of a finite one. The sign stays, also that of zero. -/
def toWhole (wholes : Bool → Nat → Nat) : Double → Double
  | .nan => .nan
  | .infinity s => .infinity s
  | .finite s u _ => nearest s (wholes s u * one) 1

/-- How many ones cover a number of smallest steps. -/
def cover (units : Nat) : Nat := (units + one - 1) / one

/-- Cut to a whole number towards zero. -/
def trunc : Double → Double := toWhole fun _ u => u / one

/-- The largest whole number that is not above. -/
def floor : Double → Double := toWhole fun s u => if s then cover u else u / one

/-- The smallest whole number that is not below. -/
def ceil : Double → Double := toWhole fun s u => if s then u / one else cover u

/-- The nearest whole number, the one farther from zero of two. -/
def round : Double → Double := toWhole fun _ u => (2 * u + one) / (2 * one)

/-- What is left once the whole part is taken away. An infinity leaves no number. -/
def fract (x : Double) : Double := x.sub x.trunc

/-- The whole part as an integer of 64 bits, or the end of their range that it lies beyond. No number
becomes zero. -/
def toInt64 : Double → Int64
  | .nan => 0
  | .infinity s => if s then .minValue else .maxValue
  | .finite s u _ => .ofIntClamp (signed s (u / one))

/-- The power `10 ^ n` by repeated squaring, rounding each product. -/
def tenPower (n : Nat) : Double := go n 6 (ofNat 1) (ofNat 10)
where
  go (n : Nat) : Nat → Double → Double → Double
    | 0, r, _ => r
    | bits + 1, r, a =>
      let r := if n % 2 = 1 then r.mul a else r
      if n / 2 = 0 then r else go (n / 2) bits r (a.mul a)

end Formulas.Double
