import Formulas.Json.Basic
import Formulas.Value.Basic

/-! Values from JSON and back. -/
namespace Formulas.Value

mutual

/-- What JSON cannot express becomes `null`. -/
def toJson : Value → Json
  | .undefined => .null
  | .null => .null
  | .bool b => .bool b
  | .number (.int n) => .integer n.toInt
  | .number (.double x) => .ofDouble x
  | .text s => .string s
  | .list items => .array (toJsonAll items)
  | .record ⟨keys, value⟩ => .object ⟨keys, fun i => toJson (value i)⟩

def toJsonAll : List Value → List Json
  | [] => []
  | v :: vs => toJson v :: toJsonAll vs

end

mutual

/-- An integer outside the range of 64 bits becomes a double. -/
def ofJson : Json → Value
  | .null => .null
  | .bool b => .bool b
  | .integer n => .number (.ofInt n)
  | .float x _ => .double x
  | .string s => .text s
  | .array items => .list (ofJsonAll items)
  | .object ⟨keys, value⟩ => .record ⟨keys, fun i => ofJson (value i)⟩

def ofJsonAll : List Json → List Value
  | [] => []
  | j :: js => ofJson j :: ofJsonAll js

end
end Formulas.Value
