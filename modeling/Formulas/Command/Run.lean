import Formulas.Command.Evaluation
import Formulas.Command.Help
import Formulas.Command.Topic
import Formulas.Json.Printer

/-! The commands of the program and what they print. -/
namespace Formulas.Command

/-- What a program leaves behind. -/
structure Output where
  code : UInt8
  stdout : String
  stderr : String
  deriving DecidableEq, Repr

/-- A command with its arguments, or what is asked for in place of one. -/
inductive Invocation where
  | eval (options : EvalOptions)
  | identifiers (expression : String)
  | docs
  | doc (topic : String)
  | help (page : Page)
  | version

/-- Reads the arguments of a command. A call for help is answered for this command. -/
def CommandSpec.call? (spec : CommandSpec) (args : List String)
    (invocation? : Arguments → Option Invocation) : Option Invocation :=
  match Arguments.read spec args with
  | .ok args => invocation? args
  | .error .help => some (.help spec.page)
  | .error .version => some .version
  | .error .fault => none

def evalOptions? (args : Arguments) : Option EvalOptions :=
  args.operand.map fun expression =>
    ⟨expression, args.value? "input", args.has "pretty", args.has "syntax-only",
      args.has "no-stdlib"⟩

/-- The command that a command line calls, if it is well-formed. -/
def Invocation.ofArguments? : List String → Option Invocation
  | "eval" :: args => evalSpec.call? args fun args => (evalOptions? args).map .eval
  | "identifiers" :: args => identifiersSpec.call? args fun args => args.operand.map .identifiers
  | "docs" :: args => docsSpec.call? args fun _ => some .docs
  | "doc" :: args => docSpec.call? args fun args => args.operand.map .doc
  | "help" :: names => (pageOf? names).map .help
  | arg :: _ => programSpec.call? [arg] fun _ => none
  | [] => none

/-- What is printed for a command line that is not well-formed: the help if there is nothing on it,
and else how to use the command that it names. The line in front of that, which says what is wrong,
is left out. -/
def complaint : List String → String
  | [] => programPage.text
  | name :: _ =>
    ((page? name).getD programPage).usageLine ++ "\nFor more information, try '--help'.\n"

/-- Whether the scope is to be read from the standard input. -/
def EvalOptions.wantsInput (options : EvalOptions) : Bool :=
  options.input.isNone && !options.readOnly

def Invocation.wantsInput : Invocation → Bool
  | .eval options => options.wantsInput
  | _ => false

/-- The JSON text that an evaluation prints. -/
def Outcome.print (pretty : Bool) (outcome : Outcome) : String :=
  let json : Json := match outcome with
    | .identifiers paths => .array (paths.map .string)
    | .value json => json
  (if pretty then json.pretty else json.compact) ++ "\n"

/-- What a command prints, given the standard input. -/
def Invocation.print (stdin : String) : Invocation → Except CommandError String
  | .eval options => do
    let options := if options.wantsInput then { options with input := some stdin } else options
    return (← evaluate options).print options.pretty
  | .identifiers expression => do
    return String.join ((← Command.identifiers expression).map (· ++ "\n"))
  | .docs => return Topic.overview
  | .doc name =>
    match Topic.ofName? name with
    | some topic => return topic.text
    | none => throw (.unknownTopic name)
  | .help page => return page.text
  | .version => return "morph 0.2.0\n"

/-- Runs a command. A failed one prints its error only. -/
def Invocation.run (stdin : String) (invocation : Invocation) : Output :=
  match invocation.print stdin with
  | .ok text => ⟨0, text, ""⟩
  | .error e => ⟨1, "", e.message ++ "\n"⟩

/-- Runs a command line. -/
def run (args : List String) (stdin : String) : Output :=
  match Invocation.ofArguments? args with
  | some invocation => invocation.run stdin
  | none => ⟨2, "", complaint args⟩

end Formulas.Command
