import LetPoly.Store

/-!
# Labels and the text of types

Types are shown with letters for their unbound variables: `a`, …, `z`, `a1`, …, `z1`, `a2` and so
on, in the order in which the variables are first met. A `Namer` remembers that order. A label
that is stored for a variable is shown instead of a letter and uses up none.

* `showType` writes a type in the notation of signatures.
* `nameVariables` stores the letters that showing a type would give to its variables.
* `Ty.describe` writes a type as it stands, with the numbers of its variables.

Showing and naming look through bindings and shorten the chains that they meet.
-/

namespace LetPoly

/-! ## Namers -/

/-- The variables that have been given letters, by number, in the order in which they were met. -/
structure Namer where
  ids : List Nat := []
deriving DecidableEq, Inhabited

namespace Namer

/-- The letter of the `k`-th variable: the alphabet, then the alphabet again with 1, 2, … . -/
def letter (k : Nat) : String :=
  String.singleton (Char.ofNat (97 + k % 26)) ++ (if k / 26 = 0 then "" else toString (k / 26))

/-- The letter of the variable with the given number; a variable not met before takes the next. -/
def letterFor (namer : Namer) (id : Nat) : String × Namer :=
  match namer.ids.idxOf? id with
  | some k => (letter k, namer)
  | none => (letter namer.ids.length, ⟨namer.ids ++ [id]⟩)

end Namer

/-! ## Computations with a namer -/

/-- Computations that give letters while they look into a store. -/
abbrev LabelM := StoreWithM Namer

/-- What a variable is called: its stored label, or else its letter. -/
def labelOf (v : Var) : LabelM String :=
  modifyGet fun (store, namer) =>
    match store.label v with
    | some label => (label, store, namer)
    | none =>
      let (letter, namer) := namer.letterFor (store.idOf v)
      (letter, store, namer)

/-! ## Showing types -/

/-- The text of a type, looking at most `steps` operators deep. -/
def showTo : Nat → Ty → LabelM String
  | 0, _ => throw .cyclic
  | steps + 1, t => do
    match ← prune t with
    | .var v => labelOf v
    | .con "->" [arg, result] =>
      let left ← showTo steps arg
      let left := if (← prune arg).isFunction then "(" ++ left ++ ")" else left
      let right ← showTo steps result
      return left ++ " -> " ++ right
    | .con name [] => return name
    | .con name args =>
      let texts ← args.mapM (showTo steps)
      return name ++ "(" ++ ", ".intercalate texts ++ ")"
    | .bare => throw .invalidType

/-- The text of a type: `->` between argument and result, an argument that is itself a function in
parentheses, other operators before their components. -/
def showType (t : Ty) : LabelM String := do
  showTo (← stepsFor [t]) t

/-- The text of a type with letters of its own. -/
def showNew (t : Ty) : StoreM String := StoreWithM.within {} (showType t)

/-! ## Storing labels -/

/-- Stores letters for the variables of a type, looking at most `steps` operators deep. -/
def nameTo : Nat → Ty → LabelM Unit
  | 0, _ => throw .cyclic
  | steps + 1, t => do
    match ← prune t with
    | .var v =>
      if ((← get).1.label v).isNone then
        let label ← labelOf v
        modify fun (store, namer) => (store.setLabel v label, namer)
    | .con _ args => args.forM (nameTo steps)
    | .bare => return ()

/-- Stores a label for each variable of a type that has none, in the order in which showing the
type meets them, and returns the representative of the type. -/
def nameVariables (t : Ty) : LabelM Ty := do
  let r ← prune t
  nameTo (← stepsFor [r]) r
  return r

/-! ## Types as they stand -/

mutual

/-- The type written out without following bindings, variables by number. -/
def Ty.describe (s : Store) : Ty → String
  | .var v => "TypeVariable(" ++ toString (s.idOf v) ++ ")"
  | .con name args =>
    "TypeOperator(" ++ Text.quoted name ++ ", [" ++ ", ".intercalate (Ty.describeAll s args)
      ++ "])"
  | .bare => "<hmtypes.Type object>"

/-- The types of a list written out. -/
def Ty.describeAll (s : Store) : List Ty → List String
  | [] => []
  | t :: ts => t.describe s :: Ty.describeAll s ts

end

end LetPoly
