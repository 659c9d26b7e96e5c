import LetPoly.Decimal
import LetPoly.Param

/-!
# Pipelines

A call may leave holes among its arguments. A call without holes is carried out at once; one with
holes waits for a value, which then fills every hole, so that calls can be chained into a pipeline.

A call that waits keeps itself and its function under names of their own, so it cannot keep
arguments with these names.
-/

namespace LetPoly.Pipe

/-! ## Functions -/

/-- A function of named parameters; the body takes their values in order. -/
structure Function (α β : Type) where
  params : List (Param α)
  body : List α → β

/-- Calls a function, unless the arguments do not fit its parameters. -/
def Function.call? {α β : Type} (f : Function α β) (positions : List α)
    (named : List (String × α)) : Option β :=
  (Param.values? f.params positions named).map f.body

/-! ## Calls with holes -/

/-- An argument or the place of one. -/
inductive Arg (α : Type) where
  | hole
  | given (a : α)

namespace Arg

variable {α : Type}

/-- The argument, unless it is still missing. -/
def given? : Arg α → Option α
  | .hole => none
  | .given a => some a

/-- Whether the argument is still missing. -/
def isHole : Arg α → Bool
  | .hole => true
  | .given _ => false

/-- The argument, with `a` for a hole. -/
def fill (a : α) : Arg α → α
  | .hole => a
  | .given b => b

end Arg

/-- Anything that can be called, with some or all of its arguments by position and by name. -/
structure Invocation (α β : Type) where
  function : List α → List (String × α) → β
  positions : List (Arg α) := []
  named : List (String × Arg α) := []

/-- The names under which a waiting call keeps itself and its function: no argument of it can have
one of them. -/
def reservedNames : List String := ["self", "f"]

namespace Invocation

variable {α β : Type}

/-- Whether the call waits for a value. -/
def hasHole (c : Invocation α β) : Bool :=
  c.positions.any Arg.isHole || c.named.any fun (_, x) => x.isHole

/-- Carries out the call with the arguments that are given. -/
def carryOut (c : Invocation α β) : β :=
  c.function (c.positions.filterMap Arg.given?)
    (c.named.filterMap fun (name, x) => x.given?.map (name, ·))

/-- The first reserved name that an argument has. -/
def taken? (c : Invocation α β) : Option String :=
  (c.named.map Prod.fst).find? (· ∈ reservedNames)

end Invocation

/-- A call that waits for a value. -/
structure Waiting (α β : Type) extends Invocation α β where
  waits : toInvocation.hasHole = true
  unreserved : toInvocation.taken? = none

/-- Calls the function of a waiting call, with `a` for every hole. -/
def Waiting.apply {α β : Type} (w : Waiting α β) (a : α) : β :=
  w.function (w.positions.map (Arg.fill a)) (w.named.map fun (name, x) => (name, x.fill a))

/-- Lets a call with holes wait, unless an argument has a reserved name: the first of these names is
the error. -/
def Invocation.wait {α β : Type} (c : Invocation α β) (hole : c.hasHole = true) :
    Except String (Waiting α β) :=
  match names : c.taken? with
  | none => .ok ⟨c, hole, names⟩
  | some name => .error name

/-- What becomes of a call. -/
inductive Made (α β : Type) where
  /-- The call had all its arguments and was carried out. -/
  | result (b : β)
  /-- The call waits for a value. -/
  | waiting (w : Waiting α β)
  /-- The call would have to wait and has an argument with a reserved name. -/
  | refused (name : String)

/-- Carries a call out at once, or lets it wait. -/
def Invocation.make {α β : Type} (c : Invocation α β) : Made α β :=
  if hole : c.hasHole = true then
    match c.wait hole with
    | .ok w => .waiting w
    | .error name => .refused name
  else .result c.carryOut

/-! ## Chains of calls -/

/-- A call of a function whose parameters the arguments may not fit. -/
abbrev Call (α β : Type) := Invocation α (Option β)

/-- What became of a call in a chain. -/
inductive Step (α : Type) where
  /-- The value went into the holes of the call. -/
  | piped (result : α)
  /-- The call had no holes and did not use the value. -/
  | called (result : α)
  /-- The arguments do not fit. -/
  | refused
deriving DecidableEq, Inhabited

/-- Carries out a call on the value so far. -/
def step {α : Type} (a : α) (c : Call α α) : Step α :=
  match c.make with
  | .result none | .refused _ => .refused
  | .result (some b) => .called b
  | .waiting w =>
    match w.apply a with
    | none => .refused
    | some b => .piped b

/-- The value after a step: a refused call leaves it as it was. -/
def Step.value {α : Type} (a : α) : Step α → α
  | .piped b | .called b => b
  | .refused => a

/-- Carries out calls one after the other. -/
def run {α : Type} (a : α) : List (Call α α) → List (Step α)
  | [] => []
  | c :: rest =>
    let s := step a c
    s :: run (s.value a) rest

/-! ## Sample functions -/

/-- The first of two numbers less the second. -/
def sub : List Int → List (String × Int) → Option Int :=
  Function.call?
    { params := [⟨"a", none⟩, ⟨"b", none⟩]
      body
        | [a, b] => a - b
        | _ => 0 }

/-- Three numbers read as the digits of one; the last is 7 unless it is given. -/
def digits : List Int → List (String × Int) → Option Int :=
  Function.call?
    { params := [⟨"a", none⟩, ⟨"b", none⟩, ⟨"c", some 7⟩]
      body
        | [a, b, c] => a * 100 + b * 10 + c
        | _ => 0 }

/-- The step, unless its result is too long to be written. -/
def Step.writable (s : Step Int) : Except Error (Step Int) := do
  discard (Decimal.write (s.value 0))
  return s

/-- The sample functions by name. -/
def samples : List (String × (List Int → List (String × Int) → Option Int)) :=
  [("sub", sub), ("digits", digits)]

end LetPoly.Pipe
