/-!
# Parameters

Arguments are given by position or by the name of a parameter, and parameters may have defaults, as
usual: positions are filled from the left, each parameter is given at most once, and every
parameter without a default must be given.
-/

namespace LetPoly

/-- A parameter and its default, if it has one. -/
structure Param (α : Type) where
  name : String
  default? : Option α := none
deriving DecidableEq, Inhabited

namespace Param

variable {α : Type}

/-- The values of parameters, where arguments with other names do not count: positions first, then
names, then defaults. There are none if there are too many positions, if a parameter is given twice
or if one is missing. -/
def assign? : List (Param α) → List α → List (String × α) → Option (List α)
  | [], [], _ => some []
  | [], _ :: _, _ => none
  | p :: ps, a :: positions, named =>
    if (named.lookup p.name).isSome then none
    else (assign? ps positions named).map (a :: ·)
  | p :: ps, [], named =>
    match (named.lookup p.name).or p.default? with
    | some a => (assign? ps [] named).map (a :: ·)
    | none => none

/-- The values of parameters, if the arguments fit them. -/
def values? (ps : List (Param α)) (positions : List α) (named : List (String × α)) :
    Option (List α) :=
  if named.all fun (name, _) => ps.any fun p => p.name == name then assign? ps positions named
  else none

end Param

end LetPoly
