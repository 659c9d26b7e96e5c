import LetPoly.Trace
import LetPoly.View

/-!
# Sessions

A session is a sequence of operations on one store, with results kept under names. There are
separate names for types, environments and namers. A step that fails keeps nothing, but the
changes that it made to the store before it failed stay, and the session goes on.
-/

namespace LetPoly.Session

/-! ## Commands -/

/-- The environment that a new one starts from. -/
inductive Base where
  | empty
  | prelude
  | kept (env : String)
deriving Inhabited

/-- The operations of a session. Types, environments and namers are given by the names under which
they are kept. -/
inductive Command where
  /-- A new variable; with a negative number it takes one from the counter. -/
  | var (id : Int := -1) (label : Option String := none)
  | bare
  | con (name : String) (args : List String)
  | fn (arg result : String)
  | signature (text : String)
  | bind (v t : String)
  | prune (t : String)
  /-- A component of the representative; negative positions count from the end. -/
  | part (t : String) (i : Int)
  | unify (a b : String)
  | occurs (v t : String)
  | occursAny (v : String) (ts : List String)
  | isGeneric (v : String) (pinned : List String)
  | fresh (t : String) (pinned : List String)
  | isFunction (t : String)
  | env (base : Base) (entries : List (String × String))
  | showEnv (env : String)
  | lookup (name env : String) (pinned : List String)
  /-- The term may be one that could not be built. -/
  | analyse (term : Except Error Term) (env : String) (pinned : List String) (traced : Bool)
  | infer (term : Except Error Term) (env : Option String) (traced : Bool)
  | namer
  | label (v namer : String)
  | showType (t : String) (namer : Option String)
  | nameVariables (t : String) (namer : Option String)
  | describe (t : String)
  | view (t : String)
  | chain (t : String)
  | mismatch (a b : String)
  | recursive (v t : String)
deriving Inhabited

/-- A command and the name under which its result is kept. -/
structure Step where
  command : Command
  keep : Option String := none
deriving Inhabited

/-- What a step has to say when it succeeds. -/
inductive Answer where
  | view (v : View)
  | views (a b : View)
  | truth (b : Bool)
  | text (s : String)
  | env (entries : List (String × String))
  | chain (c : Chain)
  | done
deriving Inhabited

/-- The outcome of a step and, if it was traced, the lines of its report. -/
structure Reply where
  outcome : Except Error Answer
  trace : Option (List String) := none
deriving Inhabited

/-! ## Registers -/

/-- What is kept under names, and what the step under way has reported. -/
structure Registers where
  types : List (String × Ty) := [("int", .int), ("bool", .bool)]
  envs : List (String × Env) := []
  namers : List (String × Namer) := []
  /-- The messages that the step under way has written. -/
  messages : List String := []
deriving Inhabited

/-- The result of a command, to be kept. -/
inductive Result where
  | none
  | type (t : Ty)
  | env (e : Env)
  | namer (n : Namer)
deriving Inhabited

/-- Keeps a result under a name. -/
def Registers.keep (r : Registers) (name : String) : Result → Registers
  | .none => r
  | .type t => { r with types := (name, t) :: r.types }
  | .env e => { r with envs := (name, e) :: r.envs }
  | .namer n => { r with namers := (name, n) :: r.namers }

/-- Computations of a session. -/
abbrev SessionM := StoreWithM Registers

private def find {α : Type} (entries : Registers → List (String × α)) (name : String) :
    SessionM α := do
  match (entries (← get).2).lookup name with
  | some a => return a
  | none => throw (.unknownRegister name)

/-- The type kept under a name. -/
def type (name : String) : SessionM Ty := find Registers.types name

/-- The environment kept under a name. -/
def env (name : String) : SessionM Env := find Registers.envs name

/-- The namer kept under a name. -/
def namer (name : String) : SessionM Namer := find Registers.namers name

/-- The variable kept under a name, bound or not. -/
def var (name : String) : SessionM Var := do
  match ← type name with
  | .var v => return v
  | _ => throw .notVariable

/-- Runs a computation with the namer kept under a name, or with a new one. The namer is kept as
the computation leaves it, also when it fails. -/
def withNamer {α : Type} (name : Option String) (x : LabelM α) : SessionM α := do
  match name with
  | none => StoreWithM.within ({} : Namer) x
  | some name =>
    let n ← namer name
    let (outcome, n) ← StoreWithM.runFrom n x
    modify fun (store, r) => (store, r.keep name (.namer n))
    MonadExcept.ofExcept outcome

/-- Runs a traced computation and keeps its messages, also when it fails. -/
def reporting {α : Type} (x : TraceM α) : SessionM α := do
  let (outcome, messages) ← runTraced x
  modify fun (store, r) => (store, { r with messages })
  MonadExcept.ofExcept outcome

/-! ## Steps -/

/-- The outcome of a command: its result and its answer. -/
abbrev Outcome := Result × Answer

/-- A type as result, its view as answer. -/
def resultType (t : Ty) : SessionM Outcome :=
  return (.type t, .view ((← get).1.report t))

/-- No result, a truth value as answer. -/
def truth (b : Bool) : Outcome := (.none, .truth b)

/-- No result, a text as answer. -/
def text (s : String) : Outcome := (.none, .text s)

/-- The component at a position. -/
def component (ts : List Ty) (i : Int) : Except Error Ty :=
  match Position.get ts i with
  | .ok (_, t) => .ok t
  | .error fault => .error (.noSuchComponent fault)

/-- Runs a command. -/
def execute : Command → SessionM Outcome
  | .var id label => do resultType (.var (← (modifyGet (·.pushAs id label) : StoreM Var)))
  | .bare => resultType .bare
  | .con name args => do resultType (.con name (← args.mapM type))
  | .fn arg result => do resultType (.fn (← type arg) (← type result))
  | .signature text => do resultType (← LetPoly.signature text)
  | .bind v t => do
    let v ← var v
    bindVar v (← type t)
    return (.none, .view ((← get).1.report (.var v)))
  | .prune t => do resultType (← LetPoly.prune (← type t))
  | .part t i => do
    match ← LetPoly.prune (← type t) with
    | .con _ args =>
      resultType (← MonadExcept.ofExcept (component args i))
    | .var _ => throw (.noComponents false)
    | .bare => throw (.noComponents true)
  | .unify a b => do
    let a ← type a
    let b ← type b
    LetPoly.unify a b
    let s := (← get).1
    return (.none, .views (s.report a) (s.report b))
  | .occurs v t => do return truth (← LetPoly.occurs (← var v) (← type t))
  | .occursAny v ts => do return truth (← LetPoly.occursAny (← var v) (← ts.mapM type))
  | .isGeneric v pinned => do
    return truth (← LetPoly.isGeneric (← var v) (← pinned.mapM type))
  | .fresh t pinned => do resultType (← LetPoly.fresh (← type t) (← pinned.mapM type))
  | .isFunction t => do return truth (← type t).isFunction
  | .env base entries => do
    let start ← match base with
      | .empty => pure []
      | .prelude => liftM Env.prelude
      | .kept name => env name
    let entries ← entries.mapM fun (name, t) => return (name, ← type t)
    let e : Env := entries.foldl (fun e (name, t) => e.extend name t) start
    return (.env e, .env (← e.showAll))
  | .showEnv name => do return (.none, .env (← (← env name).showAll))
  | .lookup name e pinned => do
    resultType (← typeOfName name (← env e) (← pinned.mapM type))
  | .analyse term e pinned traced => do
    let term ← MonadExcept.ofExcept term
    let e ← env e
    let pinned ← pinned.mapM type
    if traced then resultType (← reporting (analyseTraced term e pinned))
    else resultType (← LetPoly.analyse term e pinned)
  | .infer term e traced => do
    let term ← MonadExcept.ofExcept term
    let e ← e.mapM env
    if traced then resultType (← reporting (inferTraced term e))
    else resultType (← LetPoly.infer term e)
  | .namer => return (.namer {}, .done)
  | .label v name => do return text (← withNamer name (labelOf (← var v)))
  | .showType t name => do return text (← withNamer name (LetPoly.showType (← type t)))
  | .nameVariables t name => do
    resultType (← withNamer name (LetPoly.nameVariables (← type t)))
  | .describe t => do return text ((← type t).describe (← get).1)
  | .view t => do return (.none, .view ((← get).1.report (← type t)))
  | .chain t => do return (.none, .chain ((← get).1.reportChain (← type t)))
  | .mismatch a b => do throwMismatch (← type a) (← type b)
  | .recursive v t => do throwRecursive (← var v) (← type t)

/-- Whether the report of a command belongs to its reply. -/
def Command.isTraced : Command → Bool
  | .analyse _ _ _ traced | .infer _ _ traced => traced
  | _ => false

/-- The store and the registers between two steps. -/
abbrev State := Store × Registers

/-- Runs a step. Its result is kept only if it succeeds. -/
def step (s : Step) : State → Reply × State := fun (store, r) =>
  let trace (r : Registers) := if s.command.isTraced then some (traceLines r.messages) else none
  match execute s.command (store, { r with messages := [] }) with
  | .ok (result, answer) (store, r) =>
    ({ outcome := .ok answer, trace := trace r },
      store, s.keep.elim r fun name => r.keep name result)
  | .error e (store, r) => ({ outcome := .error e, trace := trace r }, store, r)

/-- Runs steps one after the other. -/
def runFrom : List Step → State → List Reply × State
  | [], state => ([], state)
  | s :: rest, state =>
    let (reply, state) := step s state
    let (replies, state) := runFrom rest state
    (reply :: replies, state)

/-- The replies of a whole session, from an empty store. -/
def run (steps : List Step) : List Reply := (runFrom steps (Store.empty, {})).1

end LetPoly.Session
