import LetPoly.Label

/-!
# Unification

`unify` makes two types equal by binding variables, and by binding no more than it must. It goes
down both types together, left to right, and stops at the first conflict:

* two operators that differ in name or in their number of components (`Error.mismatch`);
* a variable that occurs in the type it would have to stand for (`Error.recursive`).

Bindings made before a conflict stay. `occurs` is the check that keeps bindings free of cycles; it
sees through bindings, and so do the texts of the two errors, which share one namer.
-/

namespace LetPoly

/-! ## Occurrence -/

/-- Whether a variable occurs in a type, looking at most `steps` operators deep. -/
def occursTo (v : Var) : Nat → Ty → StoreM Bool
  | 0, _ => throw .cyclic
  | steps + 1, t => do
    match ← prune t with
    | .var w => return w = v
    | .con _ args => args.anyM (occursTo v steps)
    | .bare => return false

/-- Whether an unbound variable occurs in a type, bindings followed. -/
def occurs (v : Var) (t : Ty) : StoreM Bool := do
  occursTo v (← stepsFor [t]) t

/-- Whether a variable occurs in one of several types; later ones are not looked at after the
first in which it does. -/
def occursAny (v : Var) (ts : List Ty) : StoreM Bool := ts.anyM (occurs v)

/-! ## Conflicts -/

/-- Fails with the texts of two types that cannot be made equal. -/
def throwMismatch {α : Type} (a b : Ty) : StoreM α := do
  let (left, right) ← StoreWithM.within ({} : Namer) do
    let left ← showType a
    let right ← showType b
    return (left, right)
  throw (.mismatch left right)

/-- Fails with the texts of a variable and a type that holds it. -/
def throwRecursive {α : Type} (v : Var) (t : Ty) : StoreM α := do
  let (label, type) ← StoreWithM.within ({} : Namer) do
    let label ← showType (.var v)
    let type ← showType t
    return (label, type)
  throw (.recursive label type)

/-- Fails with two types as they stand, neither of which is a variable and one of which is bare. -/
def throwInvalidCase {α : Type} (a b : Ty) : StoreM α := do
  let s ← get
  throw (.invalidCase (a.describe s) (b.describe s))

/-! ## Unification -/

/-- Lets an unbound variable stand for a type that is its own representative. -/
def assign (v : Var) (t : Ty) : StoreM Unit := do
  match t with
  | .var w => if w = v then return () else bindVar v t
  | _ => if ← occurs v t then throwRecursive v t else bindVar v t

/-- Makes two types equal, going at most `steps` operators deep. -/
def unifyTo : Nat → Ty → Ty → StoreM Unit
  | 0, _, _ => throw .cyclic
  | steps + 1, t, u => do
    let a ← prune t
    let b ← prune u
    match a, b with
    | .var v, b => assign v b
    | a, .var w => assign w a
    | .con f ts, .con g us =>
      if f = g ∧ ts.length = us.length then
        (ts.zip us).forM fun (x, y) => unifyTo steps x y
      else throwMismatch (.con f ts) (.con g us)
    | a, b => throwInvalidCase a b

/-- Makes two types equal by binding variables. -/
def unify (t u : Ty) : StoreM Unit := do
  unifyTo (← stepsFor [t, u]) t u

end LetPoly
