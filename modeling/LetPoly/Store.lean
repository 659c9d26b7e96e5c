import LetPoly.Error
import LetPoly.Ty

/-!
# Stores

A store keeps one cell for each type variable: the number by which the variable is shown, the
type it is bound to, if any, and the label it was given, if any. Bindings may lead from variable
to variable; the type at the end of such a chain represents every variable on it.

* `Store.find` is the representative and `Store.chain` the bound variables on the way to it.
* `prune` finds the representative and rebinds every variable of the chain straight to it.
* `Store.view` follows all bindings at every depth: it is what a type means in a store.

## Bounds

Following a chain takes at most as many steps as there are cells, unless the bindings form a
cycle. Looking into a type takes at most `Store.depthBound` steps on each branch: a branch
passes each variable at most once, and between two variables it passes the operators of one
bound type, of which `Store.height` is the greatest number. Operations that go down a type count
that number of steps and fail with `Error.cyclic` when it is used up.
-/

namespace LetPoly

/-- What is known of one type variable. -/
structure Cell where
  /-- The number by which the variable is shown. -/
  id : Nat
  /-- The type that the variable stands for, once it is bound. -/
  binding : Option Ty := none
  /-- The label of the variable, once it has one. -/
  label : Option String := none
deriving Inhabited

/-- The type variables made so far. -/
structure Store where
  /-- One cell for each variable, by `Var.index`. -/
  cells : Array Cell := #[]
  /-- The next number for a new variable. -/
  counter : Nat := 0
  /-- No bound type is higher than this. -/
  height : Nat := 0
deriving Inhabited

namespace Store

/-! ## Cells -/

/-- The store without variables. -/
def empty : Store := {}

/-- The cell of a variable. -/
def cell? (s : Store) (v : Var) : Option Cell := s.cells[v.index]?

/-- The number by which a variable is shown. -/
def idOf (s : Store) (v : Var) : Nat := ((s.cell? v).map Cell.id).getD 0

/-- The type that a variable is bound to. -/
def binding (s : Store) (v : Var) : Option Ty := (s.cell? v).bind Cell.binding

/-- The label that is stored for a variable. -/
def label (s : Store) (v : Var) : Option String := (s.cell? v).bind Cell.label

/-- Adds a variable with the given number and label. -/
def push (s : Store) (id : Nat) (label : Option String) : Var × Store :=
  (⟨s.cells.size⟩, { s with cells := s.cells.push { id, label } })

/-- Adds a variable that takes its number from the counter. -/
def pushNext (s : Store) (label : Option String) : Var × Store :=
  let (v, s) := s.push s.counter label
  (v, { s with counter := s.counter + 1 })

/-- Adds a variable with the given number; with a negative one it takes one from the counter. -/
def pushAs (s : Store) (id : Int) (label : Option String) : Var × Store :=
  if id < 0 then s.pushNext label else s.push id.toNat label

/-- Binds a variable, whether it was bound before or not. -/
def rebind (s : Store) (v : Var) (t : Ty) : Store :=
  { s with cells := s.cells.modify v.index ({ · with binding := some t }) }

/-- Binds a variable to a type that may be higher than those bound so far. -/
def setBinding (s : Store) (v : Var) (t : Ty) : Store :=
  { s.rebind v t with height := max s.height t.height }

/-- Stores a label for a variable. -/
def setLabel (s : Store) (v : Var) (label : String) : Store :=
  { s with cells := s.cells.modify v.index ({ · with label := some label }) }

/-! What these operations do to the cells. -/

@[simp] theorem size_rebind (s : Store) (v : Var) (t : Ty) :
    (s.rebind v t).cells.size = s.cells.size := by
  simp [rebind]

theorem cell?_rebind (s : Store) (v w : Var) (t : Ty) :
    (s.rebind v t).cell? w =
      if w = v then (s.cell? w).map ({ · with binding := some t }) else s.cell? w := by
  simp only [cell?, rebind, Array.getElem?_modify]
  by_cases h : w = v
  · subst h
    simp
  · have hi : v.index ≠ w.index := fun e => h (congrArg Var.mk e.symm)
    rw [if_neg hi, if_neg h]

@[simp] theorem idOf_rebind (s : Store) (v w : Var) (t : Ty) :
    (s.rebind v t).idOf w = s.idOf w := by
  unfold idOf
  rw [cell?_rebind]
  split
  · rw [Option.map_map]
    rfl
  · rfl

@[simp] theorem label_rebind (s : Store) (v w : Var) (t : Ty) :
    (s.rebind v t).label w = s.label w := by
  unfold label
  rw [cell?_rebind]
  split
  · cases s.cell? w <;> rfl
  · rfl

/-- Binding a variable of the store changes its own binding and no other. -/
theorem binding_rebind {s : Store} {v : Var} (hv : v.index < s.cells.size) (t : Ty) (w : Var) :
    (s.rebind v t).binding w = if w = v then some t else s.binding w := by
  unfold binding
  rw [cell?_rebind]
  split
  · next h =>
    subst h
    rw [show s.cell? w = some s.cells[w.index] from Array.getElem?_eq_getElem hv]
    rfl
  · rfl

@[simp] theorem binding_setLabel (s : Store) (v w : Var) (label : String) :
    (s.setLabel v label).binding w = s.binding w := by
  simp only [binding, cell?, setLabel, Array.getElem?_modify]
  split
  · cases s.cells[w.index]? <;> rfl
  · rfl

/-- A new variable is unbound, and the others are as before. -/
theorem binding_push (s : Store) (id : Nat) (label : Option String) (w : Var) :
    (s.push id label).2.binding w = s.binding w := by
  simp only [binding, cell?, push, Array.getElem?_push]
  split
  · next h =>
    rw [h, Array.getElem?_eq_none (Nat.le_refl _)]
    rfl
  · rfl

/-! ## Chains of bindings -/

/-- Follows at most `steps` bindings from a type: the bound variables that are met, in order, and
the type that is reached. -/
def walk (s : Store) : Nat → Ty → List Var × Ty
  | steps + 1, .var v =>
    match s.binding v with
    | some t =>
      let (vs, r) := s.walk steps t
      (v :: vs, r)
    | none => ([], .var v)
  | _, t => ([], t)

/-- The bound variables on the way from a type to its representative. -/
def chain (s : Store) (t : Ty) : List Var := (s.walk s.cells.size t).1

/-- The representative of a type: the end of its chain of bindings. -/
def find (s : Store) (t : Ty) : Ty := (s.walk s.cells.size t).2

@[simp] theorem walk_con (s : Store) (steps : Nat) (name : String) (args : List Ty) :
    s.walk steps (.con name args) = ([], .con name args) := by
  cases steps <;> rfl

@[simp] theorem walk_bare (s : Store) (steps : Nat) : s.walk steps .bare = ([], .bare) := by
  cases steps <;> rfl

/-- An unbound variable represents itself. -/
theorem walk_var_of_unbound {s : Store} {v : Var} (h : s.binding v = none) (steps : Nat) :
    s.walk steps (.var v) = ([], .var v) := by
  cases steps with
  | zero => rfl
  | succ steps => rw [walk, h]

/-- Rebinds variables straight to the representative that they share. -/
def compress (s : Store) (vs : List Var) (r : Ty) : Store :=
  vs.foldl (fun s v => s.rebind v r) s

/-! ## Views -/

/-- A number of operators that no branch of the views of `ts` exceeds. -/
def depthBound (s : Store) (ts : List Ty) : Nat :=
  (s.cells.size + 1) * (max s.height (Ty.heights ts) + 2)

/-- The type with all bindings followed, down to the given depth. -/
def viewTo (s : Store) : Nat → Ty → Ty
  | 0, t => t
  | depth + 1, t =>
    match s.find t with
    | .con name args => .con name (args.map (s.viewTo depth))
    | r => r

/-- The type with all bindings followed: what the type means in the store. -/
def view (s : Store) (t : Ty) : Ty := s.viewTo (s.depthBound [t]) t

/-- The distinct unbound variables of a type, in the order in which they are shown. -/
def freeVars (s : Store) (t : Ty) : List Var := (s.view t).vars.eraseDups

/-- The bindings do not form a cycle: each variable has a rank above those of the variables in the
type that it is bound to. -/
def Acyclic (s : Store) : Prop :=
  ∃ rank : Var → Nat, ∀ v t, s.binding v = some t → ∀ w ∈ t.vars, rank w < rank v

end Store

/-! ## Operations on a store -/

/-- Computations that read and change a store and may fail; a failure keeps the changes. -/
abbrev StoreM := EStateM Error Store

/-- Computations on a store that also keep a state of their own; a failure keeps both. -/
abbrev StoreWithM (σ : Type) := EStateM Error (Store × σ)

/-- A computation on the store alone keeps the other state. -/
def StoreM.widen {σ α : Type} (x : StoreM α) : StoreWithM σ α := fun (store, state) =>
  match x store with
  | .ok a store => .ok a (store, state)
  | .error e store => .error e (store, state)

instance {σ : Type} : MonadLift StoreM (StoreWithM σ) := ⟨StoreM.widen⟩

/-- Runs a computation from the given state and returns the state as it was left, also by a
failure. -/
def StoreWithM.runFrom {σ α : Type} (state : σ) (x : StoreWithM σ α) :
    StoreM (Except Error α × σ) := fun store =>
  match x (store, state) with
  | .ok a (store, state) => .ok (.ok a, state) store
  | .error e (store, state) => .ok (.error e, state) store

/-- Runs a computation from the given state and forgets the state at the end. -/
def StoreWithM.within {σ α : Type} (state : σ) (x : StoreWithM σ α) : StoreM α := fun store =>
  match x (store, state) with
  | .ok a (store, _) => .ok a store
  | .error e (store, _) => .error e store

/-- The representative of a type. Every variable on the way is rebound straight to it, so that
the next look-up takes one step. -/
def prune (t : Ty) : StoreM Ty :=
  modifyGet fun s =>
    let (vs, r) := s.walk s.cells.size t
    (r, s.compress vs r)

/-- A new variable, numbered by the counter. -/
def newVar : StoreM Var := modifyGet (·.pushNext none)

/-- Binds an unbound variable. -/
def bindVar (v : Var) (t : Ty) : StoreM Unit := do
  match (← get).binding v with
  | some _ => throw (.alreadyBound ((← get).idOf v))
  | none => modify (·.setBinding v t)

/-- The number of steps that an operation on the given types may take on each branch. -/
def stepsFor (ts : List Ty) : StoreM Nat := return (← get).depthBound ts

end LetPoly
