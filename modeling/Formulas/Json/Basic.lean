import Formulas.Dictionary
import Formulas.Double.Basic

/-! JSON values. -/
namespace Formulas

/-- A number is an integer of any size or a finite double, and an object holds no key twice. -/
inductive Json where
  | null
  | bool (b : Bool)
  | integer (n : Int)
  | float (x : Double) (finite : x.isFinite = true)
  | string (s : String)
  | array (items : List Json)
  | object (fields : Dictionary Json)

namespace Json

instance : Inhabited Json := ⟨null⟩

/-- JSON has no infinities, and all there is in their place is `null`. -/
def ofDouble (x : Double) : Json := if h : x.isFinite = true then .float x h else .null

end Json
end Formulas
