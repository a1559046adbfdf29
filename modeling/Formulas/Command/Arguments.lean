/-! Options and operands on a command line. -/
namespace Formulas.Command

/-- What puts an end to the reading of a command line: a fault of it, or an option that asks for
nothing but its own answer. -/
inductive Stop where
  | fault
  | help
  | version
  deriving DecidableEq, Repr

/-- A flag stands for itself, and a value is named in the help by what it stands for. -/
inductive OptionKind where
  | flag
  | value (placeholder : String)
  | stop (reason : Stop)

/-- Options are known by their long names, and some have a letter too. -/
structure OptionSpec where
  name : String
  letter : Option Char
  kind : OptionKind
  about : String

/-- The operand of a command, as it stands in the help. -/
structure OperandSpec where
  placeholder : String
  about : String

/-- A command has at most one operand, which it cannot do without. -/
structure CommandSpec where
  name : String
  about : String
  operand : Option OperandSpec
  options : List OptionSpec

/-- What a command line gives. No option is given twice. -/
structure Arguments where
  options : List (String × String)
  operand : Option String

namespace Arguments

def none : Arguments := ⟨[], Option.none⟩

def has (args : Arguments) (name : String) : Bool := (args.options.lookup name).isSome

def value? (args : Arguments) (name : String) : Option String := args.options.lookup name

/-- Fails if the option is there already. -/
def add (args : Arguments) (name value : String) : Except Stop Arguments :=
  if args.has name then .error .fault
  else .ok { args with options := (name, value) :: args.options }

/-- Fails if the command has no operand, or if it is there already. -/
def addOperand (spec : CommandSpec) (args : Arguments) (operand : String) :
    Except Stop Arguments :=
  if spec.operand.isSome && args.operand.isNone then .ok { args with operand := some operand }
  else .error .fault

def find (options : List OptionSpec) (p : OptionSpec → Bool) : Except Stop OptionSpec :=
  match options.find? p with
  | some option => .ok option
  | Option.none => .error .fault

/-- A group of letters after one hyphen. The second part is an option whose value has to follow as
an argument of its own. Otherwise a value follows its letter at once, or after an equals sign. -/
def letters (options : List OptionSpec) :
    List Char → Arguments → Except Stop (Arguments × Option OptionSpec)
  | [], args => .ok (args, Option.none)
  | c :: cs, args => do
    let option ← find options (·.letter == some c)
    match option.kind with
    | .stop reason => .error reason
    | .flag => letters options cs (← args.add option.name "")
    | .value _ =>
      match cs with
      | [] => return (args, some option)
      | '=' :: value => return (← args.add option.name (String.ofList value), Option.none)
      | value => return (← args.add option.name (String.ofList value), Option.none)

/-- A name after two hyphens, with a value after an equals sign or as an argument of its own. -/
def long (options : List OptionSpec) (cs : List Char) (args : Arguments) :
    Except Stop (Arguments × Option OptionSpec) := do
  let name := String.ofList (cs.takeWhile (· ≠ '='))
  let option ← find options (·.name = name)
  match option.kind, cs.dropWhile (· ≠ '=') with
  | .stop reason, [] => .error reason
  | .flag, [] => return (← args.add name "", Option.none)
  | .value _, [] => return (args, some option)
  | .value _, _ :: value => return (← args.add name (String.ofList value), Option.none)
  | _, _ :: _ => .error .fault

/-- Whether an argument is an option. A hyphen alone is an operand. -/
def isOption (arg : String) : Bool :=
  match arg.toList with
  | '-' :: _ :: _ => true
  | _ => false

/-- One argument in its place. The second part is an option that waits for its value. -/
def readOne (spec : CommandSpec) (arg : String) (args : Arguments) :
    Except Stop (Arguments × Option OptionSpec) :=
  match arg.toList with
  | '-' :: '-' :: cs => long spec.options cs args
  | '-' :: c :: cs => letters spec.options (c :: cs) args
  | _ => return (← addOperand spec args arg, Option.none)

/-- Reads arguments in order, where an option may be waiting for its value. After two hyphens all
are operands, and no value of an option looks like an option. -/
def readFrom (spec : CommandSpec) :
    Option OptionSpec → List String → Arguments → Except Stop Arguments
  | Option.none, [], args => .ok args
  | some _, [], _ => .error .fault
  | some option, value :: rest, args =>
    if isOption value then .error .fault
    else do readFrom spec Option.none rest (← args.add option.name value)
  | Option.none, arg :: rest, args =>
    if arg = "--" then rest.foldlM (addOperand spec) args
    else do
      let (args, pending) ← readOne spec arg args
      readFrom spec pending rest args

def read (spec : CommandSpec) (args : List String) : Except Stop Arguments :=
  readFrom spec Option.none args none

end Arguments
end Formulas.Command
