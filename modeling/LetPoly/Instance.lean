import LetPoly.Unify

/-!
# Generic variables and instances

A variable is generic with respect to a list of pinned types when it occurs in none of them.
`fresh` copies a type, replacing its generic variables by new ones, the same variable always by
the same one; pinned variables are kept. That is how one polymorphic type is used at many types.
-/

namespace LetPoly

/-- Whether a variable occurs in none of the pinned types. -/
def isGeneric (v : Var) (pinned : List Ty) : StoreM Bool :=
  return !(← occursAny v pinned)

/-- The new variables that stand for old ones, by the numbers of the old ones. -/
abbrev Copies := List (Nat × Var)

/-- Computations that copy types in a store. -/
abbrev CopyM := StoreWithM Copies

/-- The variable that stands for a generic one; the first request makes it. -/
def copyVar (v : Var) : CopyM Var :=
  modifyGet fun (store, copies) =>
    let id := store.idOf v
    match copies.lookup id with
    | some w => (w, store, copies)
    | none =>
      let (w, store) := store.pushNext none
      (w, store, (id, w) :: copies)

/-- The copy of a type, looking at most `steps` operators deep. -/
def copyTo (pinned : List Ty) : Nat → Ty → CopyM Ty
  | 0, _ => throw .cyclic
  | steps + 1, t => do
    match ← prune t with
    | .var v => if ← isGeneric v pinned then return .var (← copyVar v) else return .var v
    | .con name args => return .con name (← args.mapM (copyTo pinned steps))
    | .bare => throw .invalidType

/-- The type with each generic variable replaced by a new one. -/
def fresh (t : Ty) (pinned : List Ty) : StoreM Ty := do
  let steps ← stepsFor [t]
  StoreWithM.within [] (copyTo pinned steps t)

end LetPoly
