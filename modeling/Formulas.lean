import Formulas.Double.Bits
import Formulas.Host.Change
import Formulas.Host.Description
import Formulas.Main
import Formulas.Proofs.Standard.Extremum
import Formulas.Proofs.Standard.Round
import Formulas.Proofs.Evaluation.Arity
import Formulas.Proofs.Evaluation.Names
import Formulas.Proofs.Evaluation.Replacement
import Formulas.Proofs.Evaluation.Scope
import Formulas.Proofs.Expr.Session
import Formulas.Proofs.Expr.Sum
import Formulas.Proofs.Expr.Spacing
import Formulas.Proofs.Host.History
import Formulas.Proofs.Number.Exactness
import Formulas.Proofs.Number.Neutral
import Formulas.Proofs.Number.Order
import Formulas.Proofs.Text.Run
import Formulas.Proofs.Numeral.Grammar
import Formulas.Proofs.Number.Integer
import Formulas.Proofs.Token.Addition
import Formulas.Proofs.Token.Bounds
import Formulas.Proofs.Token.Number
import Formulas.Proofs.Double.Rounding
import Formulas.Proofs.Double.Exact
import Formulas.Proofs.Decimal.Conversion
import Formulas.Proofs.Decimal.Number
import Formulas.Proofs.Expr.Literal
import Formulas.Proofs.Expr.Printed
import Formulas.Proofs.Host.Path
import Formulas.Proofs.Host.Standard
import Formulas.Proofs.Value.Comparison
import Formulas.Proofs.Value.Equality
import Formulas.Proofs.Value.Json
import Formulas.Proofs.Value.Numeric
import Formulas.Proofs.Expr.Agreement
import Formulas.Proofs.Expr.Locality
import Formulas.Proofs.Standard.Floor
import Formulas.Proofs.Expr.Termination
import Formulas.Proofs.Json.Strings
import Formulas.Proofs.Command.Listing
