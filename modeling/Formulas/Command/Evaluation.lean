import Formulas.Formula
import Formulas.Json.Reader
import Formulas.Standard
import Formulas.Value.Json

/-! Evaluating formulas against JSON. -/
namespace Formulas

inductive CommandError where
  | unreadable (e : SyntaxError)
  | unevaluable (e : EvalError)
  | invalidJson
  | unknownTopic (name : String)
  deriving DecidableEq, Repr

/-- The text behind `Invalid JSON` is a fixed one. It differs from the message of a JSON reader, which
says what is wrong and in which line and column. -/
def CommandError.message : CommandError → String
  | .unreadable e => "Syntax error: " ++ e.message
  | .unevaluable e => "Evaluation error: " ++ e.message
  | .invalidJson => "Invalid JSON: not a JSON text"
  | .unknownTopic name =>
    "Unknown category: '" ++ name ++ "'\nRun 'morph docs' to see available categories."

namespace Command

/-- What to evaluate, and how. A scope that is missing or blank is an empty record. -/
structure EvalOptions where
  expression : String
  input : Option String
  pretty : Bool
  readOnly : Bool
  bare : Bool

inductive Outcome where
  | identifiers (paths : List String)
  | value (json : Json)

/-- The scope that a text holds. -/
def scope (input : Option String) : Except CommandError Value :=
  match input with
  | none => .ok (.record .empty)
  | some text =>
    if Text.trim text.toList = [] then .ok (.record .empty)
    else match Json.read? text with
      | some json => .ok (.ofJson json)
      | none => .error .invalidJson

/-- Reads an expression and evaluates it, unless it is to be read only. A fault in the expression
comes before one in the scope. -/
def evaluate (options : EvalOptions) : Except CommandError Outcome := do
  let formula ← (Formula.read options.expression).mapError .unreadable
  if options.readOnly then return .identifiers formula.identifiers
  let scope ← scope options.input
  let host := if options.bare then Host.empty else Host.standard
  let v ← (formula.evaluate host scope).mapError .unevaluable
  return .value v.toJson

/-- The paths that an expression reads. -/
def identifiers (expression : String) : Except CommandError (List String) := do
  return (← (Formula.read expression).mapError .unreadable).identifiers

end Command
end Formulas
