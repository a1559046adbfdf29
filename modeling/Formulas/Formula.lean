import Formulas.Evaluation
import Formulas.Expr.Reader

/-! Formulas: texts that are read once and evaluated in any number of scopes. -/
namespace Formulas

/-- A formula keeps its text, its tree, and the paths of its identifiers in the order of the text.
-/
structure Formula where
  source : String
  root : Expr
  identifiers : List String

namespace Formula

/-- Reads a text with the given keywords. -/
def readWith (keywords : Keywords) (source : String) : Except SyntaxError Formula := do
  let reader ← Reader.start keywords source
  match (Reader.whole keywords).run reader with
  | .ok root reader => return ⟨source, root, reader.identifiers.toList⟩
  | .error e _ => throw e

def read (source : String) : Except SyntaxError Formula := readWith .standard source

def evaluate (formula : Formula) (host : Host) (scope : Value) : Except EvalError Value :=
  formula.root.evaluate host scope

/-- Equality of the texts, the trees and the paths. -/
def same (f g : Formula) : Bool :=
  f.source = g.source && f.root.same g.root && f.identifiers = g.identifiers

end Formula

/-- Why a text has no value. -/
inductive Error where
  | unreadable (e : SyntaxError)
  | unevaluable (e : EvalError)
  deriving DecidableEq, Repr

/-- Reads a text and evaluates it at once. -/
def Host.run (host : Host) (source : String) (scope : Value) : Except Error Value := do
  let formula ← (Formula.read source).mapError .unreadable
  (formula.evaluate host scope).mapError .unevaluable

end Formulas
