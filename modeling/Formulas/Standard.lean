import Formulas.Host.Basic
import Formulas.Number.Arithmetic
import Formulas.Pattern.Match
import Formulas.Pattern.Reader
import Formulas.Text.Case

/-! The standard functions. A host has to declare them like any other function. -/
namespace Formulas.Standard

/-- How a call goes wrong. -/
inductive Misuse where
  | argumentCount (expected got : Nat)
  | noArguments
  | roundArgumentCount (got : Nat)
  | roundDigits
  | notNumber (typeName : String)
  | notText (typeName : String)
  | noLength (typeName : String)
  | noNeedle (typeName : String)
  | noHaystack (typeName : String)
  | badPattern
  deriving DecidableEq, Repr

/-- The text behind `invalid regex` is a fixed one. It differs from the message of a pattern reader,
which says where in the pattern the fault is. -/
def Misuse.message : Misuse → String
  | .argumentCount expected got =>
    "expected " ++ toString expected ++ " argument" ++ (if expected = 1 then "" else "s") ++
      ", got " ++ toString got
  | .noArguments => "expected at least 1 argument, got 0"
  | .roundArgumentCount got => "expected 1 or 2 arguments, got " ++ toString got
  | .roundDigits => "digits must be an integer between 0 and 28"
  | .notNumber typeName => "expected a number, got " ++ typeName
  | .notText typeName => "expected a string, got " ++ typeName
  | .noLength typeName => "cannot take the length of " ++ typeName
  | .noNeedle typeName => "expected a string to search for, got " ++ typeName
  | .noHaystack typeName => "cannot search in " ++ typeName
  | .badPattern => "invalid regex: not a regular expression"

def number (v : Value) : Except Misuse Number :=
  match v with
  | .number n => .ok n
  | v => .error (.notNumber v.typeName)

def text (v : Value) : Except Misuse (List Char) :=
  match v with
  | .text s => .ok s.toList
  | v => .error (.notText v.typeName)

/-- A function of one argument. -/
def unary (f : Value → Except Misuse Value) : List Value → Except Misuse Value
  | [a] => f a
  | args => .error (.argumentCount 1 args.length)

/-- A function of two arguments. -/
def binary (f : Value → Value → Except Misuse Value) : List Value → Except Misuse Value
  | [a, b] => f a b
  | args => .error (.argumentCount 2 args.length)

def abs : List Value → Except Misuse Value :=
  unary fun a => return .number (← number a).abs

/-- Goes from left to right and keeps what is better, as `keeps` compares it with the next
argument. No number among the arguments is no number in the end. -/
def extremum (keeps : Double → Double → Bool) : List Value → Except Misuse Value
  | [] => .error .noArguments
  | first :: rest => do
    let first ← number first
    let rest ← rest.mapM number
    let best := rest.foldl (fun best n => if keeps best.toDouble n.toDouble then best else n) first
    return .number (if (first :: rest).any Number.isNan then .nan else best)

def min : List Value → Except Misuse Value := extremum Double.le

def max : List Value → Except Misuse Value := extremum Double.ge

/-- A whole number in the range of integers becomes one, and any other double stays. The largest
integer is no double: the range ends before the one above it. -/
def integral (x : Double) : Number :=
  if x.fract.eq (.zero false) && x.ge (.ofInt Int64.minValue.toInt) &&
      x.lt (.ofInt Int64.maxValue.toInt) then
    .int x.toInt64
  else .double x

def floorNumber : Number → Number
  | .int n => .int n
  | .double x => integral x.floor

def ceilNumber : Number → Number
  | .int n => .int n
  | .double x => integral x.ceil

def floor : List Value → Except Misuse Value :=
  unary fun a => return .number (floorNumber (← number a))

def ceil : List Value → Except Misuse Value :=
  unary fun a => return .number (ceilNumber (← number a))

/-- Rounds half away from zero in decimal, or to a whole number where there is no decimal. -/
def roundNumber (places : Nat) : Number → Number
  | .int n => .int n
  | .double x =>
    match Decimal.ofDouble? x with
    | some d => (d.roundTo places).toNumber
    | none => .double x.round

/-- The number of places to round to. -/
def places? : Value → Option Nat
  | .number (.int n) =>
    if 0 ≤ n.toInt ∧ n.toInt ≤ Decimal.maxScale then some n.toInt.toNat else none
  | _ => none

def round : List Value → Except Misuse Value
  | [a] => return .number (roundNumber 0 (← number a))
  | [a, digits] =>
    match places? digits with
    | some places => return .number (roundNumber places (← number a))
    | none => .error .roundDigits
  | args => .error (.roundArgumentCount args.length)

/-- Characters, items or keys. -/
def len : List Value → Except Misuse Value :=
  unary fun
    | .text s => .ok (.int (Int64.ofNat s.length))
    | .list items => .ok (.int (Int64.ofNat items.length))
    | .record fields => .ok (.int (Int64.ofNat fields.size))
    | v => .error (.noLength v.typeName)

/-- A function from text to text. -/
def onText (f : List Char → List Char) : List Value → Except Misuse Value :=
  unary fun a => return .text (String.ofList (f (← text a)))

def upper : List Value → Except Misuse Value := onText Text.toUpper

def lower : List Value → Except Misuse Value := onText Text.toLower

def trim : List Value → Except Misuse Value := onText Text.trim

/-- Whether a text stands somewhere in another. -/
def occursIn (needle : List Char) : List Char → Bool
  | [] => needle.isEmpty
  | c :: cs => needle.isPrefixOf (c :: cs) || occursIn needle cs

/-- A part of a text or an item of a list. -/
def contains : List Value → Except Misuse Value :=
  binary fun
    | .text s, .text needle => .ok (.bool (occursIn needle.toList s.toList))
    | .list items, needle => .ok (.bool (items.any (·.strictEq needle)))
    | .text _, needle => .error (.noNeedle needle.typeName)
    | v, _ => .error (.noHaystack v.typeName)

def startsWith : List Value → Except Misuse Value :=
  binary fun a b => do
    let s ← text a
    let start ← text b
    return .bool (start.isPrefixOf s)

def endsWith : List Value → Except Misuse Value :=
  binary fun a b => do
    let s ← text a
    let ending ← text b
    return .bool (ending.isSuffixOf s)

def «matches» : List Value → Except Misuse Value :=
  binary fun a b => do
    let s ← text a
    let pattern ← text b
    match Pattern.read? (String.ofList pattern) with
    | some p => return .bool (p.occursIn s)
    | none => throw .badPattern

/-- The first argument that is there. -/
def coalesce (args : List Value) : Except Misuse Value :=
  .ok ((args.find? fun v => !v.isNullish).getD .null)

/-- All standard functions with their names. -/
def functions : List (String × Function) :=
  [("abs", abs), ("min", min), ("max", max), ("round", round), ("floor", floor), ("ceil", ceil),
    ("len", len), ("upper", upper), ("lower", lower), ("trim", trim), ("contains", contains),
    ("startsWith", startsWith), ("endsWith", endsWith), ("matches", «matches»),
    ("coalesce", coalesce)].map fun (name, f) =>
      (name, fun args => (f args).mapError Misuse.message)

def names : List String := functions.map (·.1)

end Formulas.Standard

namespace Formulas.Host

/-- Declares all standard functions, or none of them if a name is taken. -/
def declareStandard (host : Host) : Except HostError Host :=
  match Standard.names.find? host.hasFunction with
  | some name => .error (.functionDeclared name)
  | none => Standard.functions.foldlM (fun host (name, f) => host.declareFunction name f) host

/-- A host with the standard functions only. -/
def standard : Host := (empty.declareStandard).toOption.getD empty

end Formulas.Host
