import Formulas.Double.Arithmetic
import Formulas.Double.Shortest
import Formulas.Json.Basic

/-! Reading JSON texts, strictly by the grammar and to a limited depth. -/
namespace Formulas.Json.Reader

/-- Reading takes characters off a text, and there is only one kind of failure. -/
abbrev ReadM := StateT (List Char) Option

def isSpace (c : Char) : Bool := c = ' ' || c = '\t' || c = '\n' || c = '\r'

def skipSpace : ReadM Unit := modify (·.dropWhile isSpace)

/-- The next character, if there is one. -/
def peek? : ReadM (Option Char) := return (← get).head?

/-- The next character has to be the given one. -/
def expect (c : Char) : ReadM Unit := fun cs =>
  match cs with
  | d :: rest => if d = c then some ((), rest) else none
  | [] => none

def expectAll (word : List Char) : ReadM Unit := word.forM expect

def digits : ReadM (List Char) := fun cs =>
  some (cs.takeWhile Char.isDigit, cs.dropWhile Char.isDigit)

/-! ### Numbers -/

/-- Appends digits to a significand as long as it fits 64 bits, and counts the digits left out. -/
def append (significand : Nat) : List Char → Nat × Nat
  | [] => (significand, 0)
  | c :: cs =>
    let next := 10 * significand + (c.toNat - '0'.toNat)
    if next < UInt64.size then append next cs else (significand, cs.length + 1)

/-- The power of ten as a double. -/
def tenPower (n : Nat) : Double := .ofNumeral false ⟨1, n⟩

/-- Scales by a power of ten in steps that a double can hold, rounding at each. Two steps below the
range of doubles leave zero. -/
def scale : (steps : Nat) → Double → Int → Double
  | 0, x, _ => x
  | steps + 1, x, e =>
    if 0 ≤ e then if e ≤ 308 then x.mul (tenPower e.toNat) else if x.eq (.zero false) then x
      else .infinity false
    else if -308 ≤ e then x.div (tenPower (-e).toNat)
    else scale steps (x.div (tenPower 308)) (e + 308)

/-- The value of a number with a fraction or an exponent, or too long for an integer. -/
def float? (negative : Bool) (significand : Nat) (e : Int) : Option Json :=
  let x := scale 8 (Double.ofNat significand) e
  let x := if negative then x.neg else x
  if h : x.isFinite = true then some (.float x h) else none

/-- The digits after an `e`, with their sign. -/
def exponent : ReadM Int := do
  let sign ← peek?
  if sign = some '+' ∨ sign = some '-' then modify List.tail
  let ds ← digits
  if ds = [] then failure
  let n : Int := Nat.ofDigitChars 10 ds 0
  return if sign = some '-' then -n else n

/-- A number starts with no zero that another digit follows. A negative zero is a double, and so is
an integer that does not fit 64 bits. -/
def number : ReadM Json := do
  let negative := (← peek?) = some '-'
  if negative then modify List.tail
  let whole ← digits
  if whole = [] ∨ (whole.head? = some '0' ∧ whole ≠ ['0']) then failure
  let (significand, dropped) := append 0 whole
  let isPoint := (← peek?) = some '.'
  if isPoint then modify List.tail
  let fraction ← if isPoint then digits else pure []
  if isPoint ∧ fraction = [] then failure
  let isScaled := (← peek?) = some 'e' ∨ (← peek?) = some 'E'
  if isScaled then modify List.tail
  let e ← if isScaled then exponent else pure 0
  if isPoint ∨ isScaled ∨ dropped ≠ 0 then
    let (significand, cut) := append significand fraction
    float? negative significand (e + dropped - (fraction.length - cut : Nat))
  else if !negative then return .integer significand
  else if 0 < significand ∧ Int64.minValue.toInt ≤ -significand then return .integer (-significand)
  else float? true significand 0

/-! ### Strings -/

/-- The number that four hexadecimal digits write. -/
def hex4? (a b c d : Char) : Option Nat := do
  return 0x1000 * (← Numeral.hexDigit? a) + 0x100 * (← Numeral.hexDigit? b) +
    0x10 * (← Numeral.hexDigit? c) + (← Numeral.hexDigit? d)

/-- The character of a one-letter escape. -/
def escaped? (c : Char) : Option Char :=
  match c.toNat with
  | 0x22 => some c
  | 0x5c => some c
  | 0x2f => some c
  | 0x62 => some '\x08'
  | 0x66 => some '\x0c'
  | 0x6e => some '\n'
  | 0x72 => some '\r'
  | 0x74 => some '\t'
  | _ => none

/-- The rest of a string up to its closing quote, and what follows it. An escaped high surrogate
has to be followed by an escaped low one. -/
def body? : List Char → Option (List Char × List Char)
  | [] => none
  | '\\' :: 'u' :: a :: b :: c :: d :: rest => do
    let n ← hex4? a b c d
    if 0xd800 ≤ n ∧ n < 0xdc00 then
      match rest with
      | '\\' :: 'u' :: a :: b :: c :: d :: rest => do
        let low ← hex4? a b c d
        if 0xdc00 ≤ low ∧ low < 0xe000 then
          let (cs, rest) ← body? rest
          return (Char.ofNat (0x10000 + 0x400 * (n - 0xd800) + (low - 0xdc00)) :: cs, rest)
        else none
      | _ => none
    else if 0xdc00 ≤ n ∧ n < 0xe000 then none
    else
      let (cs, rest) ← body? rest
      return (Char.ofNat n :: cs, rest)
  | '\\' :: c :: rest => do
    let e ← escaped? c
    let (cs, rest) ← body? rest
    return (e :: cs, rest)
  | c :: rest =>
    if c = '\x22' then some ([], rest)
    else if c.toNat < 0x20 then none
    else do
      let (cs, rest) ← body? rest
      return (c :: cs, rest)

def string : ReadM String := do
  expect '\x22'
  let cs ← fun cs => body? cs
  return String.ofList cs

/-! ### Values -/

/-- Items separated by commas up to a closing bracket. -/
def items {α : Type} (item : ReadM α) (close : Char) : (fuel : Nat) → ReadM (List α)
  | 0 => failure
  | fuel + 1 => do
    let first ← item
    skipSpace
    if (← peek?) = some ',' then
      modify List.tail
      let others ← items item close fuel
      return first :: others
    else
      expect close
      return [first]

/-- Items between brackets, or nothing between them. -/
def bracketed {α : Type} (item : ReadM α) (left right : Char) : ReadM (List α) := do
  expect left
  skipSpace
  if (← peek?) = some right then
    modify List.tail
    return []
  else items item right ((← get).length + 1)

/-- A key, a colon and a value. -/
def field (value : ReadM Json) : ReadM (String × Json) := do
  skipSpace
  let key ← string
  skipSpace
  expect ':'
  let v ← value
  return (key, v)

/-- A value, given how to read an array and an object. -/
def valueOf (array object : ReadM Json) : ReadM Json := do
  skipSpace
  match (← peek?) with
  | some 'n' => do expectAll ['n', 'u', 'l', 'l']; return .null
  | some 't' => do expectAll ['t', 'r', 'u', 'e']; return .bool true
  | some 'f' => do expectAll ['f', 'a', 'l', 's', 'e']; return .bool false
  | some '\x22' => .string <$> string
  | some '[' => array
  | some '\x7b' => object
  | _ => number

/-- A value with containers nested to at most the given depth. Of equal keys the last counts. -/
def value : (depth : Nat) → ReadM Json
  | 0 => valueOf failure failure
  | depth + 1 =>
    valueOf (.array <$> bracketed (value depth) '[' ']')
      ((.object <| .ofList ·) <$> bracketed (field (value depth)) '\x7b' '\x7d')

/-- The deepest nesting of containers. -/
def maxDepth : Nat := 127

/-- A value with nothing but space around it. -/
def text : ReadM Json := do
  let json ← value maxDepth
  skipSpace
  if (← get) = [] then return json else failure

end Reader

/-- The value of a text, if it is JSON. -/
def read? (text : String) : Option Json := Reader.text.run' text.toList

end Formulas.Json
