import Formulas.Expr.Basic
import Formulas.Token.Basic

/-! The grammar of expressions, and the tree that a derivation stands for. -/
namespace Formulas

open Token (Kind)

def BinaryOp.kind : BinaryOp → Kind
  | .or => .logicalOr
  | .and => .logicalAnd
  | .equal | .notEqual => .equality
  | .less | .lessEqual | .greater | .greaterEqual => .comparison
  | .arithmetic .add | .arithmetic .subtract => .additive
  | .arithmetic .multiply | .arithmetic .divide | .arithmetic .remainder => .multiplicative

def BinaryOp.token (op : BinaryOp) : Token := ⟨op.kind, op.symbol, .binary op⟩

/-- A sign before an operand is the token of a sum. -/
def UnaryOp.token : UnaryOp → Token
  | .plus => BinaryOp.token (.arithmetic .add)
  | .negate => BinaryOp.token (.arithmetic .subtract)
  | .not => ⟨.negation, "!", .unary .not⟩
  | .increment => ⟨.step, "++", .unary .increment⟩
  | .decrement => ⟨.step, "--", .unary .decrement⟩

namespace Token

def openParen : Token := ⟨.openParen, "(", .none⟩

def closeParen : Token := ⟨.closeParen, ")", .none⟩

def comma : Token := ⟨.delimiter, ",", .none⟩

def semicolon : Token := ⟨.delimiter, ";", .none⟩

end Token

namespace Grammar

/-- The classes of tokens that the grammar tells apart. -/
inductive Terminal where
  | operator (kind : Kind)
  | prefixed
  | constant
  | identifier
  | openParen
  | closeParen
  | delimiter

/-- What a token of the class means. -/
def Terminal.Meaning : Terminal → Type
  | operator _ => BinaryOp
  | prefixed => UnaryOp
  | constant => Value
  | identifier => String
  | openParen | closeParen | delimiter => Unit

/-- A token is of the class and has this meaning. -/
def Terminal.Spelled : (c : Terminal) → c.Meaning → Token → Prop
  | operator kind, op, token => op.kind = kind ∧ token = op.token
  | prefixed, op, token => token = op.token
  | constant, value, token => ∃ lexeme, token = .constant lexeme value
  | identifier, path, token => token = .identifier path
  | openParen, _, token => token = .openParen
  | closeParen, _, token => token = .closeParen
  | delimiter, _, token => token = .comma ∨ token = .semicolon

/-- An expression of binary operators has the kinds of its operators, loosest first. A repetition is
what follows the first operand of the loosest kind. -/
inductive Nonterminal where
  | binary (kinds : List Kind)
  | repetition (kind : Kind) (tighter : List Kind)
  | unary
  | primary
  | arguments
  | moreArguments

def Nonterminal.Meaning : Nonterminal → Type
  | binary _ | unary | primary => Expr
  | repetition .. => Expr → Expr
  | arguments | moreArguments => List Expr

/-- All kinds of binary operators from `||` to `*`. -/
def levels : List Kind :=
  [.logicalOr, .logicalAnd, .equality, .comparison, .additive, .multiplicative]

def expression : Nonterminal := .binary levels

inductive Symbol where
  | terminal (c : Terminal)
  | nonterminal (s : Nonterminal)

inductive Production : Nonterminal → Type
  | chain (kind : Kind) (tighter : List Kind) : Production (.binary (kind :: tighter))
  | tightest : Production (.binary [])
  | finish (kind : Kind) (tighter : List Kind) : Production (.repetition kind tighter)
  | step (kind : Kind) (tighter : List Kind) : Production (.repetition kind tighter)
  | prefixed : Production .unary
  | plain : Production .unary
  | constant : Production .primary
  | identifier : Production .primary
  | call : Production .primary
  | group : Production .primary
  | noArguments : Production .arguments
  | someArguments : Production .arguments
  | lastArgument : Production .moreArguments
  | nextArgument : Production .moreArguments

/-- The right-hand sides of the grammar. -/
def Production.symbols : {s : Nonterminal} → Production s → List Symbol
  | _, chain kind tighter =>
    [.nonterminal (.binary tighter), .nonterminal (.repetition kind tighter)]
  | _, tightest => [.nonterminal .unary]
  | _, finish .. => []
  | _, step kind tighter => [.terminal (.operator kind), .nonterminal (.binary tighter),
    .nonterminal (.repetition kind tighter)]
  | _, prefixed => [.terminal .prefixed, .nonterminal .unary]
  | _, plain => [.nonterminal .primary]
  | _, constant => [.terminal .constant]
  | _, identifier => [.terminal .identifier]
  | _, call => [.terminal .identifier, .terminal .openParen, .nonterminal .arguments,
    .terminal .closeParen]
  | _, group => [.terminal .openParen, .nonterminal expression, .terminal .closeParen]
  | _, noArguments => []
  | _, someArguments => [.nonterminal expression, .nonterminal .moreArguments]
  | _, lastArgument => []
  | _, nextArgument => [.terminal .delimiter, .nonterminal expression, .nonterminal .moreArguments]

/-- What can be derived: one symbol, or several in a row. -/
inductive Form where
  | one (x : Symbol)
  | row (xs : List Symbol)

inductive Derivation : Form → Type
  | leaf {c : Terminal} (token : Token) (m : c.Meaning) (spelled : c.Spelled m token) :
      Derivation (.one (.terminal c))
  | node {s : Nonterminal} (p : Production s) (parts : Derivation (.row p.symbols)) :
      Derivation (.one (.nonterminal s))
  | nil : Derivation (.row [])
  | cons {x : Symbol} {xs : List Symbol} (first : Derivation (.one x))
      (others : Derivation (.row xs)) : Derivation (.row (x :: xs))

/-- The derivations of an expression. -/
abbrev Tree := Derivation (.one (.nonterminal expression))

namespace Derivation

/-- The tokens that are derived. -/
def tokens : {form : Form} → Derivation form → List Token
  | _, leaf token _ _ => [token]
  | _, node _ parts => parts.tokens
  | _, nil => []
  | _, cons first others => first.tokens ++ others.tokens

end Derivation

def Symbol.Meaning : Symbol → Type
  | terminal c => c.Meaning
  | nonterminal s => s.Meaning

def rowMeaning : List Symbol → Type
  | [] => Unit
  | x :: xs => x.Meaning × rowMeaning xs

def Form.Meaning : Form → Type
  | one x => x.Meaning
  | row xs => rowMeaning xs

/-- What a production makes of the meanings of its parts. A repetition is folded from the left, and
parentheses leave no trace. -/
def Production.build : {s : Nonterminal} → (p : Production s) → rowMeaning p.symbols → s.Meaning
  | _, chain kind tighter, (left, fold, ()) => fold left
  | _, tightest, (e, ()) => e
  | _, finish .., _ => fun left => left
  | _, step kind tighter, (op, right, fold, ()) => fun left => fold (Expr.binary op left right)
  | _, prefixed, (op, e, ()) => Expr.unary op e
  | _, plain, (e, ()) => e
  | _, constant, (value, ()) => Expr.constant value
  | _, identifier, (path, ()) => Expr.identifier path
  | _, call, (name, (), args, (), ()) => Expr.call name args
  | _, group, ((), e, (), ()) => e
  | _, noArguments, () => []
  | _, someArguments, (e, es, ()) => e :: es
  | _, lastArgument, () => []
  | _, nextArgument, ((), e, es, ()) => e :: es

/-- What a derivation means. For an expression this is a tree. -/
def Derivation.meaning : {form : Form} → Derivation form → form.Meaning
  | _, leaf _ m _ => m
  | _, node p parts => p.build parts.meaning
  | _, nil => ()
  | _, cons first others => (first.meaning, others.meaning)

/-- Some tokens can be appended to make an expression. -/
def Viable (ts : List Token) : Prop := ∃ d : Tree, ts <+: d.tokens

end Grammar
end Formulas
