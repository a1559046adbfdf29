import Formulas.Dictionary
import Formulas.Number.Basic
import Formulas.Text.Blank

/-! The values of expressions and what they count as where a truth, a number or a text is needed. -/
namespace Formulas

/-- What looking up a missing path gives is `undefined`, which is not `null`. -/
inductive Value where
  | undefined
  | null
  | bool (b : Bool)
  | number (n : Number)
  | text (s : String)
  | list (items : List Value)
  | record (fields : Dictionary Value)

namespace Value

instance : Inhabited Value := ⟨undefined⟩

def int (n : Int64) : Value := .number (.int n)

def double (x : Double) : Value := .number (.double x)

def typeName : Value → String
  | .undefined => "undefined"
  | .null => "null"
  | .bool _ => "boolean"
  | .number (.int _) => "integer"
  | .number (.double _) => "float"
  | .text _ => "string"
  | .list _ => "array"
  | .record _ => "object"

/-- Every list and record is true, an empty one too. -/
def isTruthy : Value → Bool
  | .undefined | .null => false
  | .bool b => b
  | .number n => n.isTruthy
  | .text s => s ≠ ""
  | .list _ | .record _ => true

def isNullish : Value → Bool
  | .undefined | .null => true
  | _ => false

def asText? : Value → Option String
  | .text s => some s
  | _ => none

def asNumber? : Value → Option Number
  | .number n => some n
  | _ => none

/-- Blank text is zero, a numeral and the infinities are what they say, and all else is no number. The
other names of doubles are ruled out by their letters. -/
def numberOfText (s : String) : Number :=
  let cs := Text.trim s.toList
  if cs = [] then .int 0
  else if cs = "Infinity".toList ∨ cs = "+Infinity".toList then .double (.infinity false)
  else if cs = "-Infinity".toList then .double (.infinity true)
  else if cs.any Numeral.isForeign then .nan
  else match Numeral.integer? cs >>= Number.int64? with
    | some n => .int n
    | none => .double ((Double.read? cs).getD .nan)

/-- The number that a value counts as in arithmetic. -/
def toNumber : Value → Number
  | .number n => n
  | .bool b => .int (if b then 1 else 0)
  | .null => .int 0
  | .text s => numberOfText s
  | .undefined | .list _ | .record _ => .nan

mutual

/-- The text that a value counts as in a concatenation. -/
def plain : Value → String
  | .undefined => "undefined"
  | .null => "null"
  | .bool b => if b then "true" else "false"
  | .number n => n.plain
  | .text s => s
  | .list items => String.intercalate "," (plainItems items)
  | .record _ => "[object Object]"

/-- Items that are missing or null leave their place empty. -/
def plainItems : List Value → List String
  | [] => []
  | v :: vs => (if v.isNullish then "" else plain v) :: plainItems vs

end

mutual

/-- Equality of structure, with a choice of what equal numbers are. -/
def agree (eq : Number → Number → Bool) : Value → Value → Bool
  | .undefined, .undefined => true
  | .null, .null => true
  | .bool a, .bool b => a = b
  | .number a, .number b => eq a b
  | .text a, .text b => a = b
  | .list a, .list b => agreeItems eq a b
  | .record ⟨keys, a⟩, .record e =>
    -- No key of a record occurs twice, so with one size for both it is enough to look from one side.
    keys.names.length = e.size && (List.finRange keys.names.length).all fun i =>
      (e.get? (keys.names.get i)).any fun w => agree eq (a i) w
  | _, _ => false

def agreeItems (eq : Number → Number → Bool) : List Value → List Value → Bool
  | [], [] => true
  | a :: as, b :: bs => agree eq a b && agreeItems eq as bs
  | _, _ => false

end

/-- Equality of the language: numbers are equal by value, whatever their kind. -/
def strictEq : Value → Value → Bool := agree Number.eq

/-- Equality that also tells an integer from a double. -/
def same : Value → Value → Bool := agree Number.same

/-- A place in a list, written with an optional plus sign. -/
def index? (segment : String) : Option Nat :=
  match segment.toList with
  | '+' :: digits => Numeral.natural? digits
  | digits => Numeral.natural? digits

/-- A field of a record, or an item of a list by its place from zero. -/
def get? (segment : String) : Value → Option Value
  | .record fields => fields.get? segment
  | .list items => index? segment >>= fun i => items[i]?
  | _ => none

end Value
end Formulas
