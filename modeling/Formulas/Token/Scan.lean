import Formulas.Token.Keywords

/-! Cutting a text into tokens, one at a time. -/
namespace Formulas

/-- A place in a text, counted in characters, and what follows it. -/
structure Cursor where
  position : Nat
  rest : List Char
  deriving DecidableEq, Repr

namespace Cursor

def start (text : String) : Cursor := ⟨0, text.toList⟩

/-- The place after a number of characters, which may lie past the end. -/
def «at» (text : String) (index : Nat) : Cursor := ⟨index, text.toList.drop index⟩

/-- Moving past the end leaves nothing to read. -/
def advance (cursor : Cursor) (n : Nat) : Cursor := ⟨cursor.position + n, cursor.rest.drop n⟩

end Cursor

namespace Token

/-- The characters that separate tokens. -/
def isSpace (c : Char) : Bool :=
  let n := c.toNat
  (0x09 ≤ n && n ≤ 0x0d) || n = 0x20 || n = 0xa0 || n = 0x2028 || n = 0x2029

/-- Latin letters and the basic Cyrillic block from А to я. -/
def isLetter (c : Char) : Bool := c.isAlpha || (0x0410 ≤ c.toNat && c.toNat ≤ 0x044f)

def isNumberChar (c : Char) : Bool := c.isDigit || c = '.'

def isIdentifierStart (c : Char) : Bool := isLetter c || c = '_' || c = '$'

def isIdentifierRest (c : Char) : Bool := isIdentifierStart c || c.isDigit || c = '.'

def isQuote (c : Char) : Bool := c.toNat = 0x22 || c.toNat = 0x27

/-- A text runs to the next quote of the same kind and has no escapes. -/
def text? (quote : Char) (cs : List Char) : Option Token :=
  if quote ∈ cs then
    let body := cs.takeWhile (· ≠ quote)
    some (constant (String.ofList (quote :: body ++ [quote])) (.text (String.ofList body)))
  else none

/-- The number that a run of digits and dots stands for. One without a dot that is too large for an
integer keeps its magnitude as a double. -/
def numeral? (lexeme : List Char) : Option Number :=
  match lexeme.count '.' with
  | 0 =>
    match Numeral.integer? lexeme >>= Number.int64? with
    | some n => some (.int n)
    | none => (Double.read? lexeme).map .double
  | 1 => if lexeme ≠ ['.'] then (Double.read? lexeme).map .double else none
  | _ => none

/-- A run of digits and dots has to be one numeral. -/
def number (cs : List Char) : Except SyntaxError Token :=
  let lexeme := cs.takeWhile isNumberChar
  match numeral? lexeme with
  | some n => .ok (constant (String.ofList lexeme) (.number n))
  | none => .error (.invalidNumber (String.ofList lexeme))

def word (cs : List Char) : Token := identifier (String.ofList (cs.takeWhile isIdentifierRest))

/-- The literal or identifier at the head of a text. -/
def literal (c : Char) (cs : List Char) : Except SyntaxError Token :=
  if isQuote c then
    match text? c cs with
    | some token => .ok token
    | none => .error (.unterminatedQuote c)
  else if isNumberChar c then number (c :: cs)
  else if isIdentifierStart c then .ok (word (c :: cs))
  else .error (.unknownCharacter c)

end Token

/-- Steps over the separators. -/
def Cursor.skipSpace (cursor : Cursor) : Cursor :=
  cursor.advance (cursor.rest.takeWhile Token.isSpace).length

/-- The next token and the place behind it. A keyword wins over every other reading, and each
token moves the cursor by its width. -/
def scan (keywords : Keywords) (cursor : Cursor) : Except SyntaxError (Token × Cursor) :=
  let start := cursor.skipSpace
  match start.rest with
  | [] => .ok (.eof, start)
  | c :: cs =>
    match keywords.longest? (c :: cs) with
    | some keyword => .ok (keyword, start.advance keyword.width)
    | none => (Token.literal c cs).map fun token => (token, start.advance token.width)

end Formulas
