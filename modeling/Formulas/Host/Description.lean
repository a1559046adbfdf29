import Formulas.Host.Basic
import Formulas.Text.Quoted

/-! A line of text that tells what a host provides. -/
namespace Formulas.Host

/-- Names in quotes between brackets. -/
def nameList (names : List String) : String :=
  "[" ++ String.intercalate ", " (names.map Text.quoted) ++ "]"

/-- The names of the functions and of the properties, each in increasing order. -/
def description (host : Host) : String :=
  "Registry \x7b functions: " ++ nameList host.functionNames ++ ", properties: " ++
    nameList host.propertyNames ++ " \x7d"

end Formulas.Host
