import Formulas.Token.Scan

/-! Scanning by index, in a text that is kept whole. A character may be asked for at any index, but a
slice has to lie in the text: the attempt to cut another one out ends in nothing at all, which is no
answer about the text. -/
namespace Formulas

/-- The characters from one index up to another one. -/
def slice? (text : List Char) (first last : Nat) : Option (List Char) :=
  if first ≤ last ∧ last ≤ text.length then some ((text.drop first).take (last - first)) else none

namespace Token

/-- The first index without a separator. -/
def skipSpaces (text : List Char) (index : Nat) : Nat :=
  match h : text[index]? with
  | some c => if isSpace c then skipSpaces text (index + 1) else index
  | none => index
termination_by text.length - index
decreasing_by
  have := (List.getElem?_eq_some_iff.mp h).1
  omega

/-- A text between quotes, of which the first one stands at the index. -/
def textAt? (text : List Char) (start : Nat) (quote : Char) :
    Option (Except SyntaxError Token) := do
  let behind ← slice? text (start + 1) text.length
  match behind.idxOf? quote with
  | none => return .error (.unterminatedQuote quote)
  | some offset =>
    let close := start + 1 + offset
    let lexeme ← slice? text start (close + 1)
    let body ← slice? text (start + 1) close
    return .ok (constant (String.ofList lexeme) (.text (String.ofList body)))

/-- The longest run of characters of one class from an index on. -/
def runAt? (text : List Char) (start : Nat) (p : Char → Bool) : Option (List Char) := do
  let behind ← slice? text start text.length
  return behind.takeWhile p

def numberAt? (text : List Char) (start : Nat) : Option (Except SyntaxError Token) := do
  let lexeme ← runAt? text start isNumberChar
  match numeral? lexeme with
  | some n => return .ok (constant (String.ofList lexeme) (.number n))
  | none => return .error (.invalidNumber (String.ofList lexeme))

def wordAt? (text : List Char) (start : Nat) : Option (Except SyntaxError Token) := do
  let lexeme ← runAt? text start isIdentifierRest
  return .ok (identifier (String.ofList lexeme))

/-- The literal or identifier that begins with the character at the index. -/
def literalAt? (text : List Char) (start : Nat) (c : Char) : Option (Except SyntaxError Token) :=
  if isQuote c then textAt? text start c
  else if isNumberChar c then numberAt? text start
  else if isIdentifierStart c then wordAt? text start
  else some (.error (.unknownCharacter c))

end Token

/-- The next token from an index on, and the index behind it. -/
def scanAt? (keywords : Keywords) (text : List Char) (index : Nat) :
    Option (Except SyntaxError (Token × Nat)) :=
  let start := Token.skipSpaces text index
  match text[start]? with
  | none => some (.ok (.eof, start))
  | some c =>
    -- The search steps over what lies before it, so it may begin anywhere and cuts nothing out.
    match keywords.longest? (text.drop start) with
    | some keyword => some (.ok (keyword, start + keyword.width))
    | none => do
      let result ← Token.literalAt? text start c
      return result.map fun token => (token, start + token.width)

/-- A text and the index that has been reached in it. -/
structure Lexer where
  text : List Char
  position : Nat

namespace Lexer

def start (text : String) : Lexer := ⟨text.toList, 0⟩

/-- A fault leaves the lexer where it is. -/
def next? (keywords : Keywords) (lexer : Lexer) :
    Option (Except SyntaxError Token × Lexer) := do
  match ← scanAt? keywords lexer.text lexer.position with
  | .ok (token, position) => return (.ok token, { lexer with position })
  | .error e => return (.error e, lexer)

/-- The answers to a number of calls, also to those after a fault, and the lexer after them. -/
def run? (keywords : Keywords) : Nat → Lexer → Option (List (Except SyntaxError Token) × Lexer)
  | 0, lexer => some ([], lexer)
  | calls + 1, lexer => do
    let (answer, next) ← lexer.next? keywords
    let (answers, last) ← run? keywords calls next
    return (answer :: answers, last)

end Lexer
end Formulas
