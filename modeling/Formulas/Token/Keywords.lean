import Formulas.PrefixTree
import Formulas.Token.Basic

/-! The reserved spellings of the language. -/
namespace Formulas

/-- The reserved spellings with their tokens. -/
abbrev Keywords := PrefixTree Token

namespace Keywords

open Token (Kind Payload)

/-- A keyword whose lexeme is its spelling. -/
def word (kind : Kind) (spelling : String) (payload : Payload) : String × Token :=
  (spelling, ⟨kind, spelling, payload⟩)

/-- The reserved words, operators and marks of the language. -/
def words : List (String × Token) :=
  [word .constant "true" (.constant (.bool true)),
    word .constant "false" (.constant (.bool false)),
    word .negation "!" (.unary .not),
    word .step "++" (.unary .increment),
    word .step "--" (.unary .decrement),
    word .logicalOr "||" (.binary .or),
    word .logicalAnd "&&" (.binary .and),
    word .comparison ">" (.binary .greater),
    word .comparison ">=" (.binary .greaterEqual),
    word .comparison "<" (.binary .less),
    word .comparison "<=" (.binary .lessEqual),
    word .equality "==" (.binary .equal),
    word .equality "!=" (.binary .notEqual),
    word .additive "+" (.binary (.arithmetic .add)),
    word .additive "-" (.binary (.arithmetic .subtract)),
    word .multiplicative "*" (.binary (.arithmetic .multiply)),
    word .multiplicative "/" (.binary (.arithmetic .divide)),
    word .multiplicative "%" (.binary (.arithmetic .remainder)),
    word .openParen "(" .none,
    word .closeParen ")" .none,
    word .delimiter "," .none,
    word .delimiter ";" .none]

/-- The keywords of the language. -/
def standard : Keywords :=
  words.foldl (fun tree (spelling, token) => tree.add spelling token) .empty

end Keywords
end Formulas
