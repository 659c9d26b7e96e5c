import LetPoly.Env
import LetPoly.Term

/-!
# Inference

`analyse` finds the most general type of a term in an environment. The pinned types hold the
variables of the enclosing parameters, and of a recursive definition while it is analysed itself:
those variables are the same at every use of a name. All others are generic, which is what makes
definitions polymorphic.

`infer` analyses a whole program, with nothing pinned, and stores letters for the variables of
its type.

Both are written once, for any computation that can use a store: `around` is run around the
analysis of every term and sees the term. Plain analysis adds nothing; tracing
(`LetPoly.Trace`) reports there. The types of names are left open as well, since an instance may be
made with the pinned types in any order; both kinds of analysis take `typeOfName`.
-/

namespace LetPoly

section Generic

variable {m : Type → Type} [Monad m] [MonadLiftT StoreM m]

/-- The type of a term, with `typeOf` for the types of names and `around` run around the analysis of
each subterm. -/
def analyseWith (typeOf : String → Env → List Ty → StoreM Ty) (around : Term → m Ty → m Ty) :
    Term → Env → List Ty → m Ty
  | .ident x, env, pinned => around (.ident x) (typeOf x env pinned)
  | .lam x body, env, pinned => around (.lam x body) do
    let param : Ty := .var (← newVar)
    let result ← analyseWith typeOf around body (env.extend x param) (param :: pinned)
    return .fn param result
  | .app f a, env, pinned => around (.app f a) do
    let function ← analyseWith typeOf around f env pinned
    let argument ← analyseWith typeOf around a env pinned
    let result : Ty := .var (← newVar)
    unify (.fn argument result) function
    return result
  | .letIn x d b, env, pinned => around (.letIn x d b) do
    let definition ← analyseWith typeOf around d env pinned
    analyseWith typeOf around b (env.extend x definition) pinned
  | .letrec x d b, env, pinned => around (.letrec x d b) do
    let self : Ty := .var (← newVar)
    let definition ← analyseWith typeOf around d (env.extend x self) (self :: pinned)
    unify self definition
    analyseWith typeOf around b (env.extend x self) pinned
  | .lamOver p body, env, pinned => around (.lamOver p body) do
    let param : Ty := .var (← newVar)
    let result ← analyseWith typeOf around body env (param :: pinned)
    return .fn param result
  | .bare, _, _ => around .bare (throw .invalidTerm : StoreM Ty)
  | .missing, _, _ => around .missing (throw .missingTerm : StoreM Ty)

/-- The type of a program in an environment, or in a new prelude when none is given. -/
def inferWith (analyse : Term → Env → List Ty → m Ty) (term : Term) (env : Option Env) : m Ty := do
  let env ← match env with
    | some env => pure env
    | none => liftM Env.prelude
  let t ← analyse term env []
  StoreWithM.within ({} : Namer) (nameVariables t)

end Generic

/-! ## Plain inference -/

/-- The type of a term in an environment, with the variables of `pinned` kept as they are. -/
def analyse : Term → Env → List Ty → StoreM Ty :=
  analyseWith typeOfName fun _ x => x

/-- The type of a program, its variables labelled. -/
def infer : Term → Option Env → StoreM Ty := inferWith analyse

/-! The equations of plain analysis and inference. -/

section Equations

variable (x : String) (f a d b p body : Term) (env : Env) (pinned : List Ty)

theorem analyse_ident : analyse (.ident x) env pinned = typeOfName x env pinned := rfl

theorem analyse_lam : analyse (.lam x body) env pinned = (do
    let v ← newVar
    let result ← analyse body (env.extend x (.var v)) (.var v :: pinned)
    return .fn (.var v) result) := rfl

theorem analyse_app : analyse (.app f a) env pinned = (do
    let function ← analyse f env pinned
    let argument ← analyse a env pinned
    let v ← newVar
    unify (.fn argument (.var v)) function
    return .var v) := rfl

theorem analyse_letIn : analyse (.letIn x d b) env pinned = (do
    let definition ← analyse d env pinned
    analyse b (env.extend x definition) pinned) := rfl

theorem analyse_letrec : analyse (.letrec x d b) env pinned = (do
    let v ← newVar
    let definition ← analyse d (env.extend x (.var v)) (.var v :: pinned)
    unify (.var v) definition
    analyse b (env.extend x (.var v)) pinned) := rfl

theorem analyse_lamOver : analyse (.lamOver p body) env pinned = (do
    let v ← newVar
    let result ← analyse body env (.var v :: pinned)
    return .fn (.var v) result) := rfl

/-- Inference in an environment that is given. -/
theorem infer_some (e : Term) : infer e (some env) = (do
    let t ← analyse e env []
    StoreWithM.within ({} : Namer) (nameVariables t)) := rfl

end Equations

end LetPoly
