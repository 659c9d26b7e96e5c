import LetPoly.Store

/-!
# The type of a signature

The type that a syntax tree denotes: `->` makes functions, a name with components an operator of
that name, and parentheses only group. A bare name is a variable when it is a lower case letter
followed by digits, and an operator without components otherwise, `int` and `bool` among them.

All bare occurrences of one variable name in a signature are the same new variable; variables are
made in the order in which their names first occur.
-/

namespace LetPoly.Signature

/-- Whether a bare name stands for a variable: a lower case letter followed by digits. -/
def isVariableName (x : String) : Bool :=
  match x.toList with
  | [] => false
  | c :: cs => c.isLower && cs.all Char.isDigit

/-- The variables of one signature by name. -/
abbrev Scope := List (String × Var)

/-- The variable of a name; the first occurrence makes it. -/
def scopeVar (x : String) : StoreWithM Scope Var :=
  modifyGet fun (store, scope) =>
    match scope.lookup x with
    | some v => (v, store, scope)
    | none =>
      let (v, store) := store.pushNext none
      (v, store, (x, v) :: scope)

mutual

/-- The type that a tree denotes. -/
def Sig.denote : Sig → StoreWithM Scope Ty
  | .operand o => o.denote
  | .arrow arg result => do
    let arg ← arg.denote
    let result ← result.denote
    return .fn arg result

/-- The type that an operand denotes. -/
def Operand.denote : Operand → StoreWithM Scope Ty
  | .name text =>
    if isVariableName text then return .var (← scopeVar text) else return .con text []
  | .apply name args => return .con name (← args.denote)
  | .group s => s.denote

/-- The types that components denote. -/
def Args.denote : Args → StoreWithM Scope (List Ty)
  | .one s => return [← s.denote]
  | .more s rest => do
    let t ← s.denote
    let ts ← rest.denote
    return t :: ts

end

end LetPoly.Signature

namespace LetPoly

/-- The type that a text denotes, with new variables. -/
def signature (text : String) : StoreM Ty :=
  match Signature.parse text with
  | .ok s => StoreWithM.within [] s.denote
  | .error problem => throw (.signature text problem)

end LetPoly
