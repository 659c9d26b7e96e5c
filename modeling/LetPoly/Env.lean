import LetPoly.Instance
import LetPoly.Literal
import LetPoly.Signature.Denote

/-!
# Environments

An environment gives types to names. The latest entry for a name counts. The variables of a type
in an environment are generic unless they are pinned, so looking a name up makes a fresh instance;
a name without an entry may still be an integer.
-/

namespace LetPoly

/-- Names with their types, the latest entry first. -/
abbrev Env := List (String × Ty)

namespace Env

/-- The environment in which `name` has type `t` and all other names are as before. -/
def extend (env : Env) (name : String) (t : Ty) : Env := (name, t) :: env

/-- The entries that count, in the order of the code points of their names. -/
def entries (env : Env) : List (String × Ty) :=
  (env.eraseDupsBy fun a b => a.1 == b.1).mergeSort fun a b => a.1 ≤ b.1

/-- The environment of names and signatures, from first to last. -/
def ofSignatures : List (String × String) → Env → StoreM Env
  | [], env => return env
  | (name, text) :: rest, env => do
    let t ← signature text
    ofSignatures rest (env.extend name t)

/-- Names and signatures of the environment that programs start with. -/
def preludeSignatures : List (String × String) :=
  [("true", "bool"),
   ("false", "bool"),
   ("if", "bool -> a -> a -> a"),
   ("zero", "int -> bool"),
   ("pred", "int -> int"),
   ("times", "int -> int -> int"),
   ("pair", "a -> b -> pair(a, b)")]

/-- The environment that programs start with, with new variables on every call. -/
def prelude : StoreM Env := ofSignatures preludeSignatures []

/-- Each name with the text of its type, in the order of names, with letters of its own. -/
def showAll (env : Env) : StoreM (List (String × String)) :=
  env.entries.mapM fun (name, t) => return (name, ← showNew t)

end Env

/-- The type of a name: an instance of its type in the environment, or else `int` for an integer. -/
def typeOfName (name : String) (env : Env) (pinned : List Ty) : StoreM Ty :=
  match env.lookup name with
  | some t => fresh t pinned
  | none =>
    match isIntegerLiteral name with
    | .error e => throw e
    | .ok true => return .int
    | .ok false => throw (.undefined name)

end LetPoly
