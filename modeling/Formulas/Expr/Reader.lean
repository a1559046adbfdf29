import Formulas.Expr.Basic
import Formulas.Token.Scan

/-! Reading expressions from tokens, with one token of lookahead. From loosest to tightest bind the
logical or, the logical and, equality, comparison, sums, products, operators before their operand,
and calls. -/
namespace Formulas

/-- The cursor stands behind the current token. The tokens left behind and the paths of the
identifiers among them are kept in the order of the text. -/
structure Reader where
  cursor : Cursor
  current : Token
  taken : Array Token
  identifiers : Array String

/-- A fault leaves the reader where it was found. -/
abbrev ReadM := EStateM SyntaxError Reader

namespace Reader

open Token (Kind)

variable (keywords : Keywords)

/-- The reader of a text stands at its first token. -/
def start (text : String) : Except SyntaxError Reader :=
  (scan keywords (.start text)).map fun (token, cursor) => ⟨cursor, token, #[], #[]⟩

def currentKind : ReadM Kind := return (← get).current.kind

/-- Moves on to the next token, but stays if that has a fault. -/
def advance : ReadM Unit := do
  let reader ← get
  match scan keywords reader.cursor with
  | .ok (token, cursor) =>
    set { reader with cursor, current := token, taken := reader.taken.push reader.current }
  | .error e => throw e

/-- Moves on and gives the token left behind. -/
def take : ReadM Token := do
  let token := (← get).current
  advance keywords
  return token

/-- Moves on past a token of the kind that has to come here. -/
def expect (kind : Kind) : ReadM Unit := do
  if (← currentKind) = kind then advance keywords else throw .unexpectedEnd

def pushIdentifier (path : String) : ReadM Unit :=
  modify fun reader => { reader with identifiers := reader.identifiers.push path }

/-- Folds operators of one kind and their right operands onto what stands at the left. -/
def chain (kind : Kind) (operand : ReadM Expr) : (fuel : Nat) → (left : Expr) → ReadM Expr
  | 0, _ => throw .endless
  | fuel + 1, left => do
    if (← currentKind) = kind then
      match (← take keywords).payload with
      | .binary op => do
        let right ← operand
        chain kind operand fuel (.binary op left right)
      | _ => throw .unexpectedEnd
    else return left

/-- The kinds of binary operators, loosest first. -/
def levels : List Kind :=
  [.logicalOr, .logicalAnd, .equality, .comparison, .additive, .multiplicative]

/-- Operators of the given kinds over operands of the tightest kind. -/
def level (operand : ReadM Expr) (fuel : Nat) : (kinds : List Kind) → ReadM Expr
  | [] => operand
  | kind :: tighter => do
    let left ← level operand fuel tighter
    chain keywords kind (level operand fuel tighter) fuel left

/-- The operator that a token is before an operand. -/
def unaryOf? (token : Token) : Option UnaryOp :=
  match token.kind, token.payload with
  | .additive, .binary op => op.asUnary?
  | .negation, .unary op => some op
  | .step, .unary op => some op
  | _, _ => none

/-- Operators before an operand apply from the inside out. -/
def unaryChain (operand : ReadM Expr) : (fuel : Nat) → ReadM Expr
  | 0 => throw .endless
  | fuel + 1 => do
    match unaryOf? (← get).current with
    | some op => do
      advance keywords
      return .unary op (← unaryChain operand fuel)
    | none => operand

/-- The arguments that follow the first one. -/
def moreArguments (argument : ReadM Expr) : (fuel : Nat) → ReadM (List Expr)
  | 0 => throw .endless
  | fuel + 1 => do
    if (← currentKind) = .delimiter then
      advance keywords
      let first ← argument
      let others ← moreArguments argument fuel
      return first :: others
    else return []

/-- The arguments of a call up to its closing parenthesis. -/
def arguments (argument : ReadM Expr) (fuel : Nat) : ReadM (List Expr) := do
  if (← currentKind) = .closeParen then return []
  let first ← argument
  let others ← moreArguments keywords argument fuel
  return first :: others

/-- An identifier is a call if a parenthesis follows it. -/
def identifierOrCall (argument : ReadM Expr) (fuel : Nat) : ReadM Expr := do
  match (← take keywords).payload with
  | .path path => do
    if (← currentKind) = .openParen then
      advance keywords
      let args ← arguments keywords argument fuel
      expect keywords .closeParen
      return .call path args
    else
      pushIdentifier path
      return .identifier path
  | _ => throw .unexpectedEnd

/-- An operand without operators: an identifier, a call, a constant, or a group. -/
def primary (inner : ReadM Expr) (fuel : Nat) : ReadM Expr := do
  match (← currentKind) with
  | .identifier => identifierOrCall keywords inner fuel
  | .constant =>
    match (← take keywords).payload with
    | .constant value => return .constant value
    | _ => throw .unexpectedEnd
  | .openParen => do
    advance keywords
    let e ← inner
    expect keywords .closeParen
    return e
  | _ => throw .unexpectedEnd

/-- An expression with less than `fuel` operators, arguments and levels of nesting. -/
def expressionWithin : (fuel : Nat) → ReadM Expr
  | 0 => throw .endless
  | fuel + 1 =>
    level keywords (unaryChain keywords (primary keywords (expressionWithin fuel) fuel) fuel) fuel
      levels

/-- An expression at the current token. Each operator, argument and level of nesting takes up at
least one character unless the keywords have tokens without any. -/
def expression : ReadM Expr := do
  expressionWithin keywords ((← get).cursor.rest.length + 4)

/-- An expression with nothing behind it. -/
def whole : ReadM Expr := do
  let e ← expression keywords
  if (← currentKind) = .eof then return e else throw .unexpectedEnd

end Reader
end Formulas
