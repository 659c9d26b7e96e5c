import LetPoly.Infer
import LetPoly.Text.Lines

/-!
# Traced inference

Inference that reports on its way. Before a term is analysed a message `> analysing …` is written,
and after it a message `< analysing … : …` with the type that was found, both indented by two
blanks for each term around it. The types of one analysis are shown with the letters of one namer.

A message is one line of text unless a name in it holds a newline.

The depth is back at its earlier value after every term, whether its analysis succeeded or not.
-/

namespace LetPoly

/-- What tracing keeps. -/
structure Trace where
  /-- The number of terms around the one under analysis. -/
  depth : Nat := 0
  /-- The letters given so far. -/
  namer : Namer := {}
  /-- The messages written so far, latest first. -/
  log : List String := []
deriving Inhabited

/-- The messages written so far, from first to last. -/
def Trace.messages (tr : Trace) : List String := tr.log.reverse

/-- Computations on a store that report. -/
abbrev TraceM := StoreWithM Trace

namespace Trace

/-- Writes a message at the given depth. -/
def write (depth : Nat) (message : String) : TraceM Unit :=
  modify fun (store, tr) =>
    (store, { tr with log := ("".pushn ' ' (2 * depth) ++ message) :: tr.log })

/-- The text of a type with the letters of this trace. -/
def showType (t : Ty) : TraceM String := fun (store, tr) =>
  match LetPoly.showType t (store, tr.namer) with
  | .ok text (store, namer) => .ok text (store, { tr with namer })
  | .error e (store, namer) => .error e (store, { tr with namer })

/-- Runs a computation one level deeper; the depth comes back also when it fails. -/
def deeper {α : Type} (x : TraceM α) : TraceM α := fun (store, tr) =>
  match x (store, { tr with depth := tr.depth + 1 }) with
  | .ok a (store, tr) => .ok a (store, { tr with depth := tr.depth - 1 })
  | .error e (store, tr) => .error e (store, { tr with depth := tr.depth - 1 })

/-- Starts with new letters unless there is a term around. -/
def enter : TraceM Nat :=
  modifyGet fun (store, tr) =>
    (tr.depth, store, if tr.depth = 0 then { tr with namer := {} } else tr)

/-- Reports on the analysis of a term. A term without a text fails before any message is written. -/
def around (term : Term) (x : TraceM Ty) : TraceM Ty := do
  let depth ← enter
  match term.title with
  | .error e => throw e
  | .ok text =>
    write depth ("> analysing " ++ text)
    let t ← deeper x
    let type ← showType t
    write depth ("< analysing " ++ text ++ " : " ++ type)
    return t

end Trace

/-- Analysis that reports. -/
def analyseTraced : Term → Env → List Ty → TraceM Ty :=
  analyseWith typeOfName Trace.around

/-- Inference that reports. -/
def inferTraced : Term → Option Env → TraceM Ty := inferWith analyseTraced

/-- Runs a computation that reports: its outcome and the messages written, also by a failure. -/
def runTraced {α : Type} (x : TraceM α) : StoreM (Except Error α × List String) := do
  let (outcome, tr) ← StoreWithM.runFrom {} x
  return (outcome, tr.messages)

/-- The lines of a report. Every message starts on a line of its own. -/
def traceLines (messages : List String) : List String := messages.flatMap Text.lines

end LetPoly
