import Formulas.Proofs.Command.Arguments
import Formulas.Proofs.Expr.Literal
import Formulas.Proofs.Json.Strings

/-! The two commands that list the paths of an expression, one on a line or as JSON. They list the
same paths and fail in the same way. Main statement: `listings_agree`. -/
namespace Formulas

open Token

/-! ### Lines -/

theorem IsName.newline_not_mem {name : String} (h : IsName name) : '\n' ∉ name.toList := by
  intro hmem
  exact absurd (h.2.2.1 '\n' hmem) (by decide)

/-- Lines are found again between the line breaks behind them. -/
theorem splitOn_join_lines {lines : List String} (h : ∀ line ∈ lines, '\n' ∉ line.toList) :
    (String.join (lines.map (· ++ "\n"))).toList.splitOn '\n' =
      lines.map String.toList ++ [[]] := by
  induction lines with
  | nil => rfl
  | cons line lines ih =>
    obtain ⟨hline, hlines⟩ := List.forall_mem_cons.mp h
    have htext : (String.join ((line :: lines).map (· ++ "\n"))).toList =
        line.toList ++ '\n' :: (String.join (lines.map (· ++ "\n"))).toList := by
      rw [List.map_cons, String.join_cons, String.toList_append, String.toList_append,
        List.append_assoc]
      rfl
    rw [htext, List.splitOn_append_cons_self_of_not_mem hline, ih hlines, List.map_cons,
      List.cons_append]

namespace Command

/-! ### Command lines -/

/-- An operand as it has to be given: one that looks like an option stands behind two hyphens. -/
def operandArguments (operand : String) : List String :=
  if Arguments.isOption operand then ["--", operand] else [operand]

/-- The argument that sets a flag, or none. -/
def flag (name : String) (isSet : Bool) : List String := if isSet then ["--" ++ name] else []

/-- The arguments that stand for options of the command that evaluates. -/
def EvalOptions.arguments (options : EvalOptions) : List String :=
  (options.input.map ("--input=" ++ ·)).toList ++ (flag "pretty" options.pretty ++
    (flag "syntax-only" options.readOnly ++ flag "no-stdlib" options.bare))

namespace Arguments

variable {spec : CommandSpec} {args : Arguments}

theorem readFrom_operandArguments (hspec : spec.operand.isSome)
    (hfree : args.operand = Option.none) (operand : String) :
    readFrom spec Option.none (operandArguments operand) args =
      .ok { args with operand := some operand } := by
  have hadd := addOperand_of_free hspec hfree operand
  unfold operandArguments
  split
  · rw [readFrom_escape, List.foldlM_cons, hadd]
    rfl
  · next h =>
    have hne : operand ≠ "--" := by
      rintro rfl
      exact h rfl
    rw [readFrom_cons hne, readOne_operand (Bool.eq_false_of_not_eq_true h), hadd]
    rfl

theorem readFrom_long {arg : String} {cs : List Char} (harg : arg.toList = '-' :: '-' :: cs)
    (hne : cs ≠ []) (rest : List String) : readFrom spec Option.none (arg :: rest) args =
      long spec.options cs args >>= fun next => readFrom spec next.2 rest next.1 := by
  have hescape : arg ≠ "--" := by
    rintro rfl
    exact hne (List.cons.inj (List.cons.inj harg).2).2.symm
  rw [readFrom_cons hescape, readOne_long harg]

theorem readFrom_input (json : String) (h : args.has "input" = false) (rest : List String) :
    readFrom evalSpec Option.none (("--input=" ++ json) :: rest) args =
      readFrom evalSpec Option.none rest
        { args with options := ("input", json) :: args.options } := by
  have harg : ("--input=" ++ json).toList =
      '-' :: '-' :: ("input=".toList ++ json.toList) := String.toList_append
  have hlong : long evalSpec.options ("input=".toList ++ json.toList) args =
      args.add "input" (String.ofList json.toList) >>= fun args => pure (args, Option.none) := rfl
  rw [readFrom_long harg (by simp), hlong, String.ofList_toList, add_of_not_has h]
  rfl

/-- The arguments with a flag that may be set. -/
def setFlag (args : Arguments) (name : String) (isSet : Bool) : Arguments :=
  if isSet then { args with options := (name, "") :: args.options } else args

theorem readFrom_flag {name : String}
    (hname : name = "pretty" ∨ name = "syntax-only" ∨ name = "no-stdlib")
    (h : args.has name = false) (isSet : Bool) (rest : List String) :
    readFrom evalSpec Option.none (flag name isSet ++ rest) args =
      readFrom evalSpec Option.none rest (args.setFlag name isSet) := by
  cases isSet with
  | false => rfl
  | true =>
    have hlong : long evalSpec.options name.toList args =
        args.add name "" >>= fun args => pure (args, Option.none) := by
      rcases hname with rfl | rfl | rfl <;> rfl
    have hne : name.toList ≠ [] := by
      rcases hname with rfl | rfl | rfl <;> decide
    change readFrom evalSpec Option.none (("--" ++ name) :: rest) args = _
    rw [readFrom_long String.toList_append hne, hlong, add_of_not_has h]
    rfl

end Arguments

open Arguments in
theorem exists_read_arguments (options : EvalOptions) : ∃ args,
    Arguments.read evalSpec (options.arguments ++ operandArguments options.expression) = .ok args ∧
      evalOptions? args = some options := by
  obtain ⟨expression, input, pretty, readOnly, bare⟩ := options
  have hinput (rest : List String) :
      readFrom evalSpec Option.none ((input.map ("--input=" ++ ·)).toList ++ rest) .none =
        readFrom evalSpec Option.none rest ⟨(input.map (Prod.mk "input")).toList, none⟩ := by
    cases input with
    | none => rfl
    | some json => exact readFrom_input json rfl rest
  unfold Arguments.read EvalOptions.arguments
  dsimp only
  rw [List.append_assoc, List.append_assoc, List.append_assoc, hinput,
    readFrom_flag (.inl rfl), readFrom_flag (.inr (.inl rfl)), readFrom_flag (.inr (.inr rfl)),
    readFrom_operandArguments rfl]
  · refine ⟨_, rfl, ?_⟩
    cases input <;> cases pretty <;> cases readOnly <;> cases bare <;> rfl
  · cases pretty <;> cases readOnly <;> cases bare <;> rfl
  · cases input <;> cases pretty <;> cases readOnly <;> rfl
  · cases input <;> cases pretty <;> rfl
  · cases input <;> rfl

theorem call?_of_read {spec : CommandSpec} {line : List String} {args : Arguments}
    (h : Arguments.read spec line = .ok args) (invocation? : Arguments → Option Invocation) :
    spec.call? line invocation? = invocation? args := by
  rw [CommandSpec.call?, h]

/-! ### Outputs -/

variable {text : String} {formula : Formula} {e : SyntaxError} {options : EvalOptions}
  {invocation : Invocation} {args : List String}

theorem run_of_print {output : String} (h : Invocation.ofArguments? args = some invocation)
    {stdin : String} (hprint : invocation.print stdin = .ok output) :
    run args stdin = ⟨0, output, ""⟩ := by
  rw [run, h]
  dsimp only
  rw [Invocation.run, hprint]

theorem run_of_print_error {e : CommandError} (h : Invocation.ofArguments? args = some invocation)
    {stdin : String} (hprint : invocation.print stdin = .error e) :
    run args stdin = ⟨1, "", e.message ++ "\n"⟩ := by
  rw [run, h]
  dsimp only
  rw [Invocation.run, hprint]

theorem print_identifiers (text stdin : String) :
    (Invocation.identifiers text).print stdin =
      ((Formula.read text).mapError .unreadable).map fun formula =>
        String.join (formula.identifiers.map (· ++ "\n")) := by
  rw [Invocation.print, Command.identifiers]
  cases Formula.read text <;> rfl

/-- Neither the scope nor the functions of the host matter if nothing is evaluated. -/
theorem evaluate_of_readOnly (h : options.readOnly = true) :
    evaluate options = ((Formula.read options.expression).mapError .unreadable).map fun formula =>
      .identifiers formula.identifiers := by
  unfold evaluate
  rw [h]
  cases Formula.read options.expression <;> rfl

theorem print_eval (h : options.readOnly = true) (stdin : String) :
    (Invocation.eval options).print stdin =
      ((Formula.read options.expression).mapError .unreadable).map fun formula =>
        (Outcome.identifiers formula.identifiers).print options.pretty := by
  have hwants : options.wantsInput = false := by
    rw [EvalOptions.wantsInput, h, Bool.not_true, Bool.and_false]
  unfold Invocation.print
  dsimp only
  rw [hwants, if_neg Bool.false_ne_true, evaluate_of_readOnly h]
  cases Formula.read options.expression <;> rfl

theorem read?_print (pretty : Bool) (paths : List String) :
    Json.read? ((Outcome.identifiers paths).print pretty) = some (.array (paths.map .string)) := by
  have hnewline : Json.Reader.Blanks ['\n'] := List.forall_mem_singleton.mpr rfl
  cases pretty with
  | false => exact Json.Reader.read?_strings .compact paths hnewline
  | true => exact Json.Reader.read?_strings .pretty paths hnewline

/-- Any text can be given to both commands. Whatever the other options and inputs are, both list the
identifiers of its formula, none of which is empty or has a line break in it, or both fail with its
fault. -/
theorem listings_agree (text : String) :
    (∀ options : EvalOptions, Invocation.ofArguments?
      ("eval" :: (options.arguments ++ operandArguments options.expression)) =
        some (.eval options)) ∧
    Invocation.ofArguments? ("identifiers" :: operandArguments text) = some (.identifiers text) ∧
    ∀ (args args' : List String) (options : EvalOptions) (stdin stdin' : String),
      Invocation.ofArguments? args = some (.identifiers text) →
      Invocation.ofArguments? args' = some (.eval options) →
      options.expression = text → options.readOnly = true →
      (∀ formula, Formula.read text = .ok formula →
        (∃ output, run args stdin = ⟨0, output, ""⟩ ∧
          output.toList.splitOn '\n' = formula.identifiers.map String.toList ++ [[]]) ∧
        (∃ output, run args' stdin' = ⟨0, output, ""⟩ ∧
          Json.read? output = some (.array (formula.identifiers.map .string))) ∧
        ∀ path ∈ formula.identifiers, path ≠ "" ∧ ∀ c ∈ path.toList, isIdentifierRest c) ∧
      ∀ e, Formula.read text = .error e →
        run args stdin = ⟨1, "", "Syntax error: " ++ e.message ++ "\n"⟩ ∧
        run args' stdin' = ⟨1, "", "Syntax error: " ++ e.message ++ "\n"⟩ := by
  refine ⟨fun options => ?_, ?_, ?_⟩
  · obtain ⟨args, hread, hoptions⟩ := exists_read_arguments options
    rw [Invocation.ofArguments?, call?_of_read hread, hoptions]
    rfl
  · have hread : Arguments.read identifiersSpec (operandArguments text) = .ok ⟨[], some text⟩ :=
      Arguments.readFrom_operandArguments rfl rfl text
    rw [Invocation.ofArguments?, call?_of_read hread]
    rfl
  · rintro args args' options stdin stdin' hargs hargs' rfl honly
    have hprint := print_identifiers options.expression stdin
    have hprint' := print_eval honly stdin'
    constructor
    · intro formula hread
      rw [hread] at hprint hprint'
      have hname : ∀ path ∈ formula.identifiers, IsName path :=
        fun path hpath => Formula.isName_of_mem_identifiers hread hpath
      refine ⟨⟨_, run_of_print hargs hprint, ?_⟩, ⟨_, run_of_print hargs' hprint', ?_⟩, ?_⟩
      · exact splitOn_join_lines fun path hpath => (hname path hpath).newline_not_mem
      · exact read?_print options.pretty formula.identifiers
      · intro path hpath
        refine ⟨?_, (hname path hpath).2.2.1⟩
        rintro rfl
        exact (hname "" hpath).1 rfl
    · intro e hread
      rw [hread] at hprint hprint'
      exact ⟨run_of_print_error hargs hprint, run_of_print_error hargs' hprint'⟩

/-- The text looks like an option, and the input is no JSON. -/
theorem lists_beside_invalid_input : ∃ output output' : String,
    run ["identifiers", "--", "-x+y.z"] "" = ⟨0, output, ""⟩ ∧
      output.toList.splitOn '\n' = ["x".toList, "y.z".toList, []] ∧
    run ["eval", "--syntax-only", "-i", "]", "--", "-x+y.z"] "0" = ⟨0, output', ""⟩ ∧
      Json.read? output' = some (.array [.string "x", .string "y.z"]) := by
  have hread : (Formula.read "-x+y.z").toOption.map Formula.identifiers = some ["x", "y.z"] := by
    decide +kernel
  have hargs : Invocation.ofArguments? ["identifiers", "--", "-x+y.z"] =
      some (.identifiers "-x+y.z") := rfl
  have hargs' : Invocation.ofArguments? ["eval", "--syntax-only", "-i", "]", "--", "-x+y.z"] =
      some (.eval ⟨"-x+y.z", some "]", false, true, false⟩) := rfl
  cases h : Formula.read "-x+y.z" with
  | error => simp [h, Except.toOption] at hread
  | ok formula =>
    have hpaths : formula.identifiers = ["x", "y.z"] := by
      simpa [h, Except.toOption] using hread
    obtain ⟨⟨output, hrun, hlines⟩, ⟨output', hrun', hjson⟩, -⟩ :=
      ((listings_agree "-x+y.z").2.2 _ _ _ "" "0" hargs hargs' rfl rfl).1 formula h
    rw [hpaths] at hlines hjson
    exact ⟨output, output', hrun, hlines, hrun', hjson⟩

end Command
end Formulas
