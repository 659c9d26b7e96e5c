/-!
# Types

A type is a variable, an operator applied to a list of types, or the bare type that has no form
at all. Functions are the operator `->` with two components; `int` and `bool` are operators
without components.

A variable is only a number here. What it stands for, how it is numbered for a reader and what it
is called is kept in a store (`LetPoly.Store`).
-/

namespace LetPoly

/-- A type variable: the position of its cell in a store. -/
structure Var where
  index : Nat
deriving DecidableEq, Inhabited

/-- Types over the variables of some store. -/
inductive Ty where
  /-- A variable, bound or not. -/
  | var (v : Var)
  /-- An operator applied to its components. -/
  | con (name : String) (args : List Ty)
  /-- Neither a variable nor an operator: no operation but naming and binding accepts it. -/
  | bare
deriving Inhabited

namespace Ty

/-! ## Functions and constants -/

/-- The type of functions from `arg` to `result`. -/
def fn (arg result : Ty) : Ty := .con "->" [arg, result]

/-- The type of integers. -/
def int : Ty := .con "int" []

/-- The type of truth values. -/
def bool : Ty := .con "bool" []

/-- Whether the type is a function as it stands, bindings not followed. -/
def isFunction : Ty → Bool
  | .con "->" [_, _] => true
  | _ => false

@[simp] theorem isFunction_fn (arg result : Ty) : (fn arg result).isFunction = true := rfl

/-! ## Measures -/

mutual

/-- The number of operators on the longest branch. -/
def height : Ty → Nat
  | .con _ args => heights args + 1
  | _ => 0

/-- The greatest height in a list. -/
def heights : List Ty → Nat
  | [] => 0
  | t :: ts => max t.height (heights ts)

end

mutual

/-- The variables of a type from left to right, each as often as it occurs. -/
def vars : Ty → List Var
  | .var v => [v]
  | .con _ args => varsList args
  | .bare => []

/-- The variables of a list of types from left to right. -/
def varsList : List Ty → List Var
  | [] => []
  | t :: ts => t.vars ++ varsList ts

end

theorem heights_le_iff {n : Nat} {ts : List Ty} : heights ts ≤ n ↔ ∀ t ∈ ts, t.height ≤ n := by
  induction ts with
  | nil => simp [heights]
  | cons t ts ih =>
    rw [heights, Nat.max_le, ih]
    simp

theorem varsList_eq_flatMap (ts : List Ty) : varsList ts = ts.flatMap vars := by
  induction ts with
  | nil => rfl
  | cons t ts ih => simp [varsList, ih]

end Ty

end LetPoly
