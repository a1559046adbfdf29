import Formulas.Text.Case

/-! The manual of the command line, by topics. -/
namespace Formulas.Command

inductive Topic where
  | language
  | operators
  | functions
  | types
  deriving DecidableEq, Repr

namespace Topic

/-- The overview of all topics. -/
def overview : String :=
  r#"MORPH DOCUMENTATION

Morph is an expression language for rules and formulas. An expression is
compiled once and evaluated against a JSON scope; identifiers are dotted
paths into that scope.

DOCUMENTATION CATEGORIES

  syntax            Literals, identifiers, calls and grouping
  operators         Operators and their precedence
  functions         Standard functions available to expressions
  types             Values, truthiness and coercion rules

QUICK REFERENCE

  price             Scope lookup
  user.address.city Nested lookup
  items.0           Array element
  f(a, b)           Function call
  a || b            First truthy operand (both sides are evaluated)

Run 'morph doc <category>' for details.
"#

def languageText : String :=
  r#"SYNTAX

LITERALS
  42  3.14  .5  2.          Decimal numbers, at most one dot
  "text"  'text'            Strings; no escape sequences
  true  false               Booleans (reserved words)

IDENTIFIERS
  Start with a Latin or Cyrillic letter, _ or $, continue with letters,
  digits, _, $ and dots. A dot separates path segments:

    order.total
    $meta.цена

  A missing segment evaluates to undefined, never an error.

CALLS
  name(arg, arg, ...)       Arguments may be separated by , or ;
  Functions are resolved when the expression is evaluated, so they can be
  registered after it is compiled.

GROUPING
  (1 + 2) * 3
"#

def operatorsText : String :=
  r#"OPERATORS

From loosest to tightest binding. Binary operators are left-associative.

  ||                        First operand if truthy, else the second
  &&                        Second operand if the first is truthy, else the first
  ==  !=                    Strict equality, no type coercion
  >  >=  <  <=              Strings lexicographically, otherwise numerically
  +  -                      Addition (concatenation if either side is a string)
  *  /  %                   Multiplication, division, remainder
  +x  -x  !x  ++x  --x      Prefix: identity, negation, not, x + 1, x - 1

Both sides of || and && are always evaluated. ++ and -- transform a value;
they never modify a variable.
"#

def functionsText : String :=
  r#"STANDARD FUNCTIONS

  abs(x)  floor(x)  ceil(x)
  round(x)  round(x, digits)  Half away from zero
  min(x, ...)  max(x, ...)
  len(v)                    Characters, array items or object keys
  upper(s)  lower(s)  trim(s)
  contains(s, sub)          Substring test
  contains(array, v)        Membership test
  startsWith(s, prefix)  endsWith(s, suffix)
  matches(s, regex)
  coalesce(a, b, ...)       First argument that is not null or undefined

Disable with --no-stdlib.
"#

def typesText : String :=
  r#"TYPES

  undefined                 Result of a missing lookup
  null  boolean  integer  float  string  array  object

TRUTHINESS
  undefined, null, false, 0, NaN and "" are falsy. Everything else,
  including empty arrays and objects, is truthy.

ARITHMETIC
  Integer arithmetic stays integral while exact; mixed integer/float
  arithmetic is done in decimal. Division by zero gives Infinity or NaN.
  Non-numbers are coerced: true is 1, null is 0, numeric strings are
  parsed, anything else is NaN.
"#

def text : Topic → String
  | language => languageText
  | operators => operatorsText
  | functions => functionsText
  | types => typesText

/-- A topic by one of its names in any case. -/
def ofName? (name : String) : Option Topic :=
  match String.ofList (Text.toLower name.toList) with
  | "syntax" => some language
  | "operators" => some operators
  | "ops" => some operators
  | "functions" => some functions
  | "function" => some functions
  | "stdlib" => some functions
  | "types" => some types
  | "type" => some types
  | _ => none

end Topic
end Formulas.Command
