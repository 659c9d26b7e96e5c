import LetPoly.CommandLine.Arguments
import LetPoly.Samples
import LetPoly.Trace

/-!
# The command line

Runs sample programs and writes each with its type, or with the reason why it has none. Types go to
the output, failures, traces and refusals to the error output.
-/

namespace LetPoly.CommandLine

/-- What a run writes and its exit code. -/
@[ext] structure Outcome where
  out : String := ""
  err : String := ""
  code : Nat := 0
deriving DecidableEq, Inhabited

/-- One run after another; the code is that of the second. -/
def Outcome.append (a b : Outcome) : Outcome :=
  { out := a.out ++ b.out, err := a.err ++ b.err, code := b.code }

instance : Append Outcome := ⟨Outcome.append⟩

namespace Outcome

@[simp] theorem out_append (a b : Outcome) : (a ++ b).out = a.out ++ b.out := rfl

@[simp] theorem err_append (a b : Outcome) : (a ++ b).err = a.err ++ b.err := rfl

@[simp] theorem code_append (a b : Outcome) : (a ++ b).code = b.code := rfl

theorem empty_append (a : Outcome) : ({} : Outcome) ++ a = a :=
  Outcome.ext String.empty_append String.empty_append rfl

theorem append_assoc (a b c : Outcome) : a ++ b ++ c = a ++ (b ++ c) :=
  Outcome.ext String.append_assoc String.append_assoc rfl

end Outcome

/-! ## Fixed texts -/

/-- The usage line. -/
def usage : String := "usage: hindley [-h] [--trace] [EXAMPLE ...]\n"

/-- The help text. -/
def help : String :=
  usage
    ++ "\npositional arguments:\n"
    ++ "  EXAMPLE     One of ['identity', 'factorial', 'mismatch', 'undefined',\n"
    ++ "              'polymorphic', 'self_application', 'constant', 'pinned',\n"
    ++ "              'compose', 'recursive'], default all\n"
    ++ "\noptions:\n"
    ++ "  -h, --help  show this help message and exit\n"
    ++ "  --trace\n"

/-- The outcome of a command line that is refused. -/
def refuse (r : Refusal) : Outcome :=
  { err := usage ++ "hindley: error: " ++ r.message ++ "\n", code := 2 }

/-! ## Programs -/

/-- A text of several lines. -/
def unlines (lines : List String) : String := String.join (lines.map (· ++ "\n"))

/-- The type of a program, with reports or without. -/
def inferProgram (traced : Bool) (term : Term) : TraceM Ty :=
  if traced then inferTraced term none else liftM (infer term none)

/-- The text of a program's type. -/
def inferText (traced : Bool) (term : Term) : TraceM String := do
  let t ← inferProgram traced term
  liftM (showNew t)

/-- What the programs of one run share: the variables made so far and the state of tracing. -/
abbrev Shared := Store × Trace

/-- Runs a program and hands on what it shares with the next, also when the program has no type. The
messages of tracing are written out. Any other failure ends the whole run. -/
def runTerm (traced : Bool) (term : Term) (shared : Shared) : Outcome × Option Shared :=
  let text := term.render.toOption.getD ""
  match inferText traced term shared with
  | .ok type (store, tr) =>
    ({ out := text ++ " : " ++ type ++ "\n", err := unlines tr.messages },
      some (store, { tr with log := [] }))
  | .error e (store, tr) =>
    if e.isUntypable then
      ({ err := unlines tr.messages ++ text ++ " : " ++ e.message ++ "\n" },
        some (store, { tr with log := [] }))
    else ({ err := unlines tr.messages ++ e.message ++ "\n", code := 1 }, none)

/-- Runs the sample programs of the given names, up to the first name that is none. -/
def runNames (traced : Bool) : List String → Shared → Outcome
  | [], _ => {}
  | name :: rest, shared =>
    match Samples.find? name with
    | none => refuse (.unknownSample name)
    | some term =>
      match runTerm traced term shared with
      | (outcome, some shared) => outcome ++ runNames traced rest shared
      | (outcome, none) => outcome

/-- Runs a command line; without names all sample programs are run. -/
def run (words : List String) : Outcome :=
  match request words with
  | .error r => refuse r
  | .ok .help => { out := help }
  | .ok (.run names traced) =>
    runNames traced (if names.isEmpty then Samples.names else names) (Store.empty, {})

end LetPoly.CommandLine
