import Formulas.Command.Arguments

/-! What the program says about its commands and their arguments. -/
namespace Formulas.Command

/-- A heading and what stands below it, each line with a name on its left and its meaning on its
right. -/
structure Table where
  title : String
  rows : List (String × String)

namespace Table

/-- All meanings begin in one column. -/
def row (width : Nat) : String × String → String
  | (name, about) => "  " ++ name.pushn ' ' (width - name.length) ++ "  " ++ about ++ "\n"

/-- A heading with nothing below it is left out. -/
def text (table : Table) : String :=
  if table.rows = [] then ""
  else
    let width := table.rows.foldl (fun width row => max width row.1.length) 0
    "\n" ++ table.title ++ ":\n" ++ String.join (table.rows.map (row width))

end Table

structure Page where
  about : String
  usage : String
  tables : List Table

def Page.usageLine (page : Page) : String := "Usage: " ++ page.usage ++ "\n"

def Page.text (page : Page) : String :=
  page.about ++ "\n\n" ++ page.usageLine ++ String.join (page.tables.map (·.text))

/-- Names stand below each other, also where an option has no letter. -/
def OptionSpec.row (option : OptionSpec) : String × String :=
  let letter := match option.letter with
    | some c => String.ofList ['-', c, ',', ' ']
    | none => "    "
  let value := match option.kind with
    | .value placeholder => " <" ++ placeholder ++ ">"
    | .flag | .stop _ => ""
  (letter ++ "--" ++ option.name ++ value, option.about)

def OperandSpec.row (operand : OperandSpec) : String × String :=
  (operand.placeholder, operand.about)

def OptionKind.isStop : OptionKind → Bool
  | .stop _ => true
  | .flag | .value _ => false

/-- Options that only stop the reading are not mentioned in the usage. -/
def CommandSpec.usage (spec : CommandSpec) : String :=
  let options := if spec.options.all (·.kind.isStop) then "" else " [OPTIONS]"
  let operand := match spec.operand with
    | some operand => " " ++ operand.placeholder
    | none => ""
  "morph " ++ spec.name ++ options ++ operand

def CommandSpec.page (spec : CommandSpec) : Page where
  about := spec.about
  usage := spec.usage
  tables :=
    [⟨"Arguments", spec.operand.toList.map (·.row)⟩, ⟨"Options", spec.options.map (·.row)⟩]

/-! ### Commands -/

def helpOption : OptionSpec := ⟨"help", some 'h', .stop .help, "Print help"⟩

def versionOption : OptionSpec := ⟨"version", some 'V', .stop .version, "Print version"⟩

def evalSpec : CommandSpec where
  name := "eval"
  about := "Compile and evaluate an expression"
  operand := some ⟨"<EXPRESSION>", "The expression to evaluate"⟩
  options :=
    [⟨"input", some 'i', .value "INPUT", "JSON scope (reads from stdin if not provided)"⟩,
      ⟨"pretty", some 'p', .flag, "Pretty-print the output"⟩,
      ⟨"syntax-only", none, .flag, "Only check syntax and print the referenced identifiers"⟩,
      ⟨"no-stdlib", none, .flag, "Evaluate without the standard functions"⟩, helpOption]

def identifiersSpec : CommandSpec where
  name := "identifiers"
  about := "List the scope paths an expression reads"
  operand := some ⟨"<EXPRESSION>", "The expression to inspect"⟩
  options := [helpOption]

def docsSpec : CommandSpec where
  name := "docs"
  about := "List documentation categories"
  operand := none
  options := [helpOption]

def docSpec : CommandSpec where
  name := "doc"
  about := "Show documentation for a specific category"
  operand := some ⟨"<CATEGORY>", "Category name (use 'morph docs' to list categories)"⟩
  options := [helpOption]

/-- The operands of this command are not read like those of the others: what stands behind it is the
name of a command and never an option. -/
def helpSpec : CommandSpec where
  name := "help"
  about := "Print this message or the help of the given subcommand(s)"
  operand := some ⟨"[COMMAND]...", "Print help for the subcommand(s)"⟩
  options := []

/-- What may stand in place of a command. -/
def programSpec : CommandSpec where
  name := "morph"
  about := "Morph - evaluate rule and formula expressions against JSON"
  operand := none
  options := [helpOption, versionOption]

def commandSpecs : List CommandSpec := [evalSpec, identifiersSpec, docsSpec, docSpec, helpSpec]

def programPage : Page where
  about := programSpec.about
  usage := "morph <COMMAND>"
  tables :=
    [⟨"Commands", commandSpecs.map fun spec => (spec.name, spec.about)⟩,
      ⟨"Options", programSpec.options.map (·.row)⟩]

def page? (name : String) : Option Page :=
  (commandSpecs.find? (·.name = name)).map (·.page)

/-- The page that is asked for by the names of commands. No command has commands of its own. -/
def pageOf? : List String → Option Page
  | [] => some programPage
  | [name] => page? name
  | _ => none

end Formulas.Command
