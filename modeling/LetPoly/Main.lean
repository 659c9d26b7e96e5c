import LetPoly.CommandLine

/-!
# The program
-/

/-- Runs the command line. -/
def main (args : List String) : IO UInt32 := do
  let outcome := LetPoly.CommandLine.run args
  IO.print outcome.out
  IO.eprint outcome.err
  return outcome.code.toUInt32
