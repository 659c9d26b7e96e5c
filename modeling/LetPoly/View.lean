import LetPoly.Store

/-!
# Views for a reader

A view as it is handed out: free of the store, with the number and the label of each unbound
variable in place of its cell.
-/

namespace LetPoly

/-- A type with all bindings followed, readable without its store. -/
inductive View where
  | var (id : Nat) (label : Option String)
  | con (name : String) (args : List View)
  | bare
deriving Inhabited

mutual

/-- The type as it stands, with numbers and labels of variables filled in. -/
def View.ofTy (s : Store) : Ty → View
  | .var v => .var (s.idOf v) (s.label v)
  | .con name args => .con name (View.ofTys s args)
  | .bare => .bare

/-- The types of a list with numbers and labels filled in. -/
def View.ofTys (s : Store) : List Ty → List View
  | [] => []
  | t :: ts => View.ofTy s t :: View.ofTys s ts

end

/-- The view of a type in a store. -/
def Store.report (s : Store) (t : Ty) : View := View.ofTy s (s.view t)

/-- Where a chain of bindings ends. -/
inductive ChainEnd where
  /-- At an unbound variable. -/
  | unbound
  /-- At an operator. -/
  | operator (name : String)
  /-- At the bare type. -/
  | bare
deriving DecidableEq, Inhabited

/-- A chain of bindings: the numbers of the variables on it, the last one included when it is
unbound, and its end. -/
structure Chain where
  ids : List Nat
  ending : ChainEnd
deriving DecidableEq, Inhabited

/-- The chain of bindings that starts at a type. -/
def Store.reportChain (s : Store) (t : Ty) : Chain :=
  let ids := (s.chain t).map s.idOf
  match s.find t with
  | .var v => { ids := ids ++ [s.idOf v], ending := .unbound }
  | .con name _ => { ids, ending := .operator name }
  | .bare => { ids, ending := .bare }

end LetPoly
