import Formulas.Operator

/-! Tokens and the faults of a text. -/
namespace Formulas

namespace Token

/-- Operators of one precedence are of one kind. -/
inductive Kind where
  | constant
  | identifier
  | logicalOr
  | logicalAnd
  | equality
  | comparison
  | negation
  | additive
  | step
  | multiplicative
  | openParen
  | closeParen
  | delimiter
  | eof
  deriving DecidableEq, Repr

/-- What a token means beyond its kind. -/
inductive Payload where
  | none
  | constant (value : Value)
  | path (path : String)
  | binary (op : BinaryOp)
  | unary (op : UnaryOp)

end Token

/-- The lexeme is the text that a token takes up. -/
structure Token where
  kind : Token.Kind
  lexeme : String
  payload : Token.Payload

namespace Token

def eof : Token := ⟨.eof, "", .none⟩

def constant (lexeme : String) (value : Value) : Token := ⟨.constant, lexeme, .constant value⟩

def identifier (path : String) : Token := ⟨.identifier, path, .path path⟩

/-- How many characters a token takes up. -/
def width (t : Token) : Nat := t.lexeme.length

end Token

/-- The first fault of a text. The last one stands for a text whose tokens never end. -/
inductive SyntaxError where
  | unknownCharacter (c : Char)
  | unterminatedQuote (quote : Char)
  | invalidNumber (lexeme : String)
  | unexpectedEnd
  | endless
  deriving DecidableEq, Repr

def SyntaxError.message : SyntaxError → String
  | .unknownCharacter c => "Unknown character '" ++ c.toString ++ "'"
  | .unterminatedQuote quote => "Unterminated quote " ++ quote.toString
  | .invalidNumber lexeme => "Invalid number '" ++ lexeme ++ "'"
  | .unexpectedEnd => "Unexpected end of expression"
  | .endless => "Endless expression"

end Formulas
