import Formulas.Command.Run
import Mathlib.Data.List.Basic

/-! How command lines are read. Arguments that can be read by themselves can be followed by others,
and a call for help is answered as soon as it is reached. Main statement: `run_help`. -/
namespace Formulas.Command

namespace Arguments

variable {spec : CommandSpec} {pending : Option OptionSpec} {args next : Arguments}

/-! ### Single arguments -/

theorem add_of_not_has {name : String} (h : args.has name = false) (value : String) :
    args.add name value = .ok { args with options := (name, value) :: args.options } := by
  unfold add
  rw [h]
  rfl

theorem addOperand_of_free (hspec : spec.operand.isSome) (hfree : args.operand = Option.none)
    (operand : String) :
    addOperand spec args operand = .ok { args with operand := some operand } := by
  rw [addOperand, hspec, hfree]
  rfl

theorem readFrom_cons {arg : String} (h : arg ≠ "--") (rest : List String) :
    readFrom spec Option.none (arg :: rest) args =
      readOne spec arg args >>= fun next => readFrom spec next.2 rest next.1 :=
  if_neg h

theorem readFrom_escape (rest : List String) :
    readFrom spec Option.none ("--" :: rest) args = rest.foldlM (addOperand spec) args := rfl

theorem readOne_long {arg : String} {cs : List Char} (h : arg.toList = '-' :: '-' :: cs) :
    readOne spec arg args = long spec.options cs args := by
  unfold readOne
  rw [h]
  rfl

theorem readOne_operand {arg : String} (h : isOption arg = false) :
    readOne spec arg args = addOperand spec args arg >>= fun args => pure (args, Option.none) := by
  unfold isOption at h
  unfold readOne
  split
  · next hlist => simp [hlist] at h
  · next hlist => simp [hlist] at h
  · rfl

/-! ### Arguments in a row -/

theorem exists_of_bind_eq_ok {α β : Type} {m : Except Stop α} {f : α → Except Stop β} {b : β}
    (h : m >>= f = .ok b) : ∃ a, m = .ok a ∧ f a = .ok b := by
  cases m with
  | error => cases h
  | ok a => exact ⟨a, rfl, h⟩

/-- The others are read as if they stood alone, from what the first ones have given. -/
theorem readFrom_append {before : List String} (hescape : "--" ∉ before)
    (h : readFrom spec pending before args = .ok next) (rest : List String) :
    readFrom spec pending (before ++ rest) args = readFrom spec Option.none rest next := by
  induction before generalizing pending args with
  | nil =>
    cases pending with
    | none =>
      cases h
      rfl
    | some option => cases h
  | cons arg before ih =>
    obtain ⟨harg, hbefore⟩ := not_or.mp (mt List.mem_cons.mpr hescape)
    rw [List.cons_append]
    cases pending with
    | none =>
      rw [readFrom_cons (Ne.symm harg)] at h ⊢
      obtain ⟨read, hread, hrest⟩ := exists_of_bind_eq_ok h
      rw [hread]
      exact ih hbefore hrest
    | some option =>
      rw [readFrom] at h ⊢
      split at h
      · cases h
      · next hvalue =>
        obtain ⟨read, hread, hrest⟩ := exists_of_bind_eq_ok h
        rw [if_neg hvalue, hread]
        exact ih hbefore hrest

end Arguments

/-! ### Help -/

variable {spec : CommandSpec} {ask : String}

theorem eq_of_mem_commandSpecs (hspec : spec ∈ commandSpecs) (hhelp : helpOption ∈ spec.options) :
    spec = evalSpec ∨ spec = identifiersSpec ∨ spec = docsSpec ∨ spec = docSpec := by
  simp only [commandSpecs, List.mem_cons, List.not_mem_nil, or_false] at hspec
  rcases hspec with h | h | h | h | rfl
  · exact .inl h
  · exact .inr (.inl h)
  · exact .inr (.inr (.inl h))
  · exact .inr (.inr (.inr h))
  · nomatch hhelp

theorem readOne_help (hspec : spec ∈ commandSpecs) (hhelp : helpOption ∈ spec.options)
    (hask : ask = "--help" ∨ ask = "-h") (args : Arguments) :
    Arguments.readOne spec ask args = .error .help := by
  rcases eq_of_mem_commandSpecs hspec hhelp with rfl | rfl | rfl | rfl <;>
    rcases hask with rfl | rfl <;> rfl

theorem ofArguments?_name (hspec : spec ∈ commandSpecs) (hhelp : helpOption ∈ spec.options)
    {line : List String} (h : Arguments.read spec line = .error .help) :
    Invocation.ofArguments? (spec.name :: line) = some (.help spec.page) := by
  have hcall (invocation? : Arguments → Option Invocation) :
      spec.call? line invocation? = some (.help spec.page) := by
    rw [CommandSpec.call?, h]
  rcases eq_of_mem_commandSpecs hspec hhelp with rfl | rfl | rfl | rfl <;> exact hcall _

/-- A command that is asked for its help behind arguments that can be read shows its page, whatever
else is on the line. It is the page that the command for help shows. -/
theorem run_help (hspec : spec ∈ commandSpecs) (hhelp : helpOption ∈ spec.options)
    {before : List String} (hescape : "--" ∉ before) {args : Arguments}
    (hread : Arguments.read spec before = .ok args) (hask : ask = "--help" ∨ ask = "-h")
    (rest : List String) (stdin : String) :
    run (spec.name :: (before ++ ask :: rest)) stdin = ⟨0, spec.page.text, ""⟩ ∧
      run ["help", spec.name] stdin = ⟨0, spec.page.text, ""⟩ := by
  constructor
  · have hne : ask ≠ "--" := by
      rcases hask with rfl | rfl <;> decide
    have hstop : Arguments.read spec (before ++ ask :: rest) = .error .help := by
      rw [Arguments.read, Arguments.readFrom_append hescape hread, Arguments.readFrom_cons hne,
        readOne_help hspec hhelp hask]
      rfl
    rw [run, ofArguments?_name hspec hhelp hstop]
    rfl
  · rcases eq_of_mem_commandSpecs hspec hhelp with rfl | rfl | rfl | rfl <;> rfl

example : docsSpec.page.text = "List documentation categories

Usage: morph docs

Options:
  -h, --help  Print help
" := by decide +kernel

end Formulas.Command
