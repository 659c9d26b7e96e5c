import LetPoly.Trace

/-!
# Reports

Answers about one program, one signature or a few terms, each worked out in a store of its own.
-/

namespace LetPoly.Report

/-- Runs a computation in an empty store. -/
def fromEmpty {α : Type} (x : StoreM α) : Except Error α :=
  match x Store.empty with
  | .ok a _ => .ok a
  | .error e _ => .error e

/-! ## Programs -/

/-- A program: a term, if it could be built, and the signatures of its names. Without signatures
it starts from the prelude. -/
structure Program where
  term : Except Error Term
  signatures : Option (List (String × String)) := none

/-- The type of a program as it is shown, and the numbers of its distinct variables in that
order. -/
structure Verdict where
  type : String
  ids : List Nat
deriving DecidableEq, Inhabited

/-- The verdict on an inferred type. -/
def verdict (t : Ty) : StoreM Verdict := do
  let type ← showNew t
  let s ← get
  return { type, ids := (s.freeVars t).map s.idOf }

section Generic

variable {m : Type → Type} [Monad m] [MonadLiftT StoreM m]

/-- Reads the signatures, then looks at the term, then infers its type. -/
def judgeWith (infer : Term → Option Env → m Ty) (p : Program) : m Verdict := do
  let env ← liftM (p.signatures.mapM fun entries => Env.ofSignatures entries [] : StoreM _)
  let term ← liftM (MonadExcept.ofExcept p.term : StoreM Term)
  let t ← infer term env
  liftM (verdict t)

end Generic

/-- The verdict on a program. -/
def judge (p : Program) : Except Error Verdict := fromEmpty (judgeWith infer p)

/-- The verdict on a program together with the lines that tracing writes. -/
def judgeTraced (p : Program) : Except Error Verdict × List String :=
  match StoreWithM.runFrom {} (judgeWith inferTraced p) Store.empty with
  | .ok (outcome, tr) _ => (outcome, traceLines tr.messages)
  | .error e _ => (.error e, [])

/-! ## Signatures -/

/-- The text of the type that a signature denotes, and that type written out. -/
def signature (text : String) : Except Error (String × String) :=
  fromEmpty do
    let t ← LetPoly.signature text
    let type ← showNew t
    return (type, t.describe (← get))

/-! ## Terms -/

/-- The positions `i < j` at which a list holds equal members. -/
def equalPairs {α : Type} [BEq α] (xs : List α) : List (Nat × Nat) :=
  xs.zipIdx.flatMap fun (x, i) =>
    (xs.zipIdx.drop (i + 1)).filterMap fun (y, j) => if x == y then some (i, j) else none

/-- What is said about a list of terms. -/
structure Terms where
  texts : List String
  descriptions : List String
  equal : List (Nat × Nat)
  /-- The number of different terms. -/
  distinct : Nat
deriving DecidableEq, Inhabited

/-- Shows and compares terms. -/
def terms (ts : List Term) : Except Error Terms := do
  let texts ← ts.mapM Term.render
  return {
    texts
    descriptions := ts.map Term.describe
    equal := equalPairs ts
    distinct := ts.eraseDups.length }

end LetPoly.Report
