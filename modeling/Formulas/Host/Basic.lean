import Formulas.Text.Split
import Formulas.Value.Basic

/-! What the surroundings of an expression provide: functions to call and computed properties. -/
namespace Formulas

/-- A function may fail with a message. It is assumed that nothing but the arguments decides its
answer: neither the time of a call nor the calls before it. -/
abbrev Function := List Value → Except String Value

/-- A property is computed from the scope of the evaluation, and it is assumed that nothing else
decides its value. -/
abbrev Property := Value → Value

structure Host where
  functions : Dictionary Function
  properties : Dictionary Property

inductive HostError where
  | functionDeclared (name : String)
  | propertyDeclared (name : String)
  deriving DecidableEq, Repr

def HostError.message : HostError → String
  | .functionDeclared name => "Function '" ++ name ++ "' has already been declared"
  | .propertyDeclared name => "Property '" ++ name ++ "' has already been declared"

namespace Host

def empty : Host := ⟨.empty, .empty⟩

def function? (host : Host) (name : String) : Option Function := host.functions.get? name

def property? (host : Host) (name : String) : Option Property := host.properties.get? name

def hasFunction (host : Host) (name : String) : Bool := host.functions.contains name

def hasProperty (host : Host) (name : String) : Bool := host.properties.contains name

/-- A name that is taken keeps its function. -/
def declareFunction (host : Host) (name : String) (f : Function) : Except HostError Host :=
  if host.hasFunction name then .error (.functionDeclared name)
  else .ok { host with functions := host.functions.insert name f }

/-- A name that is taken keeps its property. -/
def declareProperty (host : Host) (name : String) (p : Property) : Except HostError Host :=
  if host.hasProperty name then .error (.propertyDeclared name)
  else .ok { host with properties := host.properties.insert name p }

/-- Says whether there was such a function. To remove an unknown one changes nothing. -/
def removeFunction (host : Host) (name : String) : Bool × Host :=
  let (known, functions) := host.functions.remove name
  (known, { host with functions })

/-- Says whether there was such a property. To remove an unknown one changes nothing. -/
def removeProperty (host : Host) (name : String) : Bool × Host :=
  let (known, properties) := host.properties.remove name
  (known, { host with properties })

/-- In increasing order. -/
def functionNames (host : Host) : List String := host.functions.names

/-- In increasing order. -/
def propertyNames (host : Host) : List String := host.properties.names

/-- The parts of a path between its dots, up to the first empty one. -/
def segments (path : String) : List String :=
  ((Text.split '.' path.toList).takeWhile (· ≠ [])).map String.ofList

/-- One segment further from a value. A property does not depend on that value. -/
def step? (host : Host) (scope : Value) (v : Value) (segment : String) : Option Value :=
  match host.property? segment with
  | some property => some (property scope)
  | none => v.get? segment

/-- What a path leads to. A property of the whole path wins over a walk along its segments. -/
def resolve? (host : Host) (scope : Value) (path : String) : Option Value :=
  match host.property? path with
  | some property => some (property scope)
  | none => (segments path).foldlM (host.step? scope) scope

end Host
end Formulas
