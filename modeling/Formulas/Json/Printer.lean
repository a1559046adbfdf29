import Formulas.Double.Shortest
import Formulas.Json.Basic

/-! The two written forms of JSON values: on one line, or one item on a line. -/
namespace Formulas

/-- The shortest digits of a finite double, with an exponent unless the leading digit stands from
five places behind the dot to fifteen before it. A whole number without exponent ends in `.0`. -/
def Double.json : Double → String
  | .finite s u _ =>
    let body :=
      if u = 0 then ['0', '.', '0']
      else
        let n := shortest .even u
        if -5 ≤ n.leadExponent ∧ n.leadExponent ≤ 15 then
          if 0 ≤ n.exponent then n.positional ++ ['.', '0'] else n.positional
        else n.scientific
    String.ofList (if s then '-' :: body else body)
  | _ => "null"

namespace Json

inductive Layout where
  | compact
  | pretty
  deriving DecidableEq, Repr

/-- The escape of a character inside a string. -/
def escape (c : Char) : List Char :=
  match c.toNat with
  | 0x22 => ['\\', c]
  | 0x5c => ['\\', c]
  | 0x08 => ['\\', 'b']
  | 0x0c => ['\\', 'f']
  | 0x0a => ['\\', 'n']
  | 0x0d => ['\\', 'r']
  | 0x09 => ['\\', 't']
  | n =>
    if n < 0x20 then ['\\', 'u', '0', '0', Nat.digitChar (n / 16), Nat.digitChar (n % 16)] else [c]

def quoted (s : String) : String :=
  String.ofList ('\x22' :: s.toList.flatMap escape ++ ['\x22'])

/-- A line break and the indentation of a depth. -/
def newline (depth : Nat) : String := String.ofList ('\n' :: List.replicate (2 * depth) ' ')

/-- Items between brackets. Empty brackets stay together in both layouts. -/
def enclose (layout : Layout) (depth : Nat) (left right : String) (items : List String) : String :=
  if items = [] then left ++ right
  else match layout with
    | .compact => left ++ String.intercalate "," items ++ right
    | .pretty =>
      left ++ newline (depth + 1) ++ String.intercalate ("," ++ newline (depth + 1)) items ++
        newline depth ++ right

def colon : Layout → String
  | .compact => ":"
  | .pretty => ": "

mutual

/-- The written form of a value at a depth of nesting. -/
def render (layout : Layout) (depth : Nat) : Json → String
  | .null => "null"
  | .bool b => if b then "true" else "false"
  | .integer n => toString n
  | .float x _ => x.json
  | .string s => quoted s
  | .array items => enclose layout depth "[" "]" (renderItems layout (depth + 1) items)
  | .object ⟨keys, value⟩ =>
    enclose layout depth "\x7b" "\x7d" ((List.finRange keys.names.length).map fun i =>
      quoted (keys.names.get i) ++ colon layout ++ render layout (depth + 1) (value i))

def renderItems (layout : Layout) (depth : Nat) : List Json → List String
  | [] => []
  | item :: items => render layout depth item :: renderItems layout depth items

end

def compact (json : Json) : String := json.render .compact 0

def pretty (json : Json) : String := json.render .pretty 0

end Json
end Formulas
