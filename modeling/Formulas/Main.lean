import Formulas.Command.Run

/-! The program: evaluates formulas against JSON from the command line. -/
open Formulas

def main (args : List String) : IO UInt32 := do
  let wantsInput := (Command.Invocation.ofArguments? args).any (·.wantsInput)
  let stdin ← IO.getStdin
  let input ← if wantsInput && !(← stdin.isTty) then stdin.readToEnd else pure ""
  let output := Command.run args input
  (← IO.getStdout).putStr output.stdout
  (← IO.getStderr).putStr output.stderr
  return output.code.toUInt32
