import LetPoly.Error

/-!
# Terms

The lambda calculus with `let` and `letrec`, written with names.

Three more forms stand for terms that were put together wrongly: a bare term without any form, a
missing term, and an abstraction over a term where a name should be. They can be built and carried
around; looking into a bare or missing term fails. `Term.WellFormed` holds of the terms without
them.
-/

namespace LetPoly

/-- Terms. -/
inductive Term where
  /-- A name. -/
  | ident (name : String)
  /-- The function of `param` with the given body. -/
  | lam (param : String) (body : Term)
  /-- A function applied to an argument. -/
  | app (function argument : Term)
  /-- A definition for use in a body. -/
  | letIn (name : String) (definition body : Term)
  /-- A definition that may use itself, for use in a body. -/
  | letrec (name : String) (definition body : Term)
  /-- A function whose parameter is a term: it binds no name. -/
  | lamOver (param body : Term)
  /-- A term without a form. -/
  | bare
  /-- No term at all. -/
  | missing
deriving DecidableEq, Inhabited

namespace Term

/-- The term is made of names, abstractions, applications and definitions only. -/
def WellFormed : Term → Prop
  | .ident _ => True
  | .lam _ body => body.WellFormed
  | .app f a => f.WellFormed ∧ a.WellFormed
  | .letIn _ d b => d.WellFormed ∧ b.WellFormed
  | .letrec _ d b => d.WellFormed ∧ b.WellFormed
  | .lamOver .. | .bare | .missing => False

/-- Whether a term is well-formed can be found out by going through it. -/
def decideWellFormed : (e : Term) → Decidable e.WellFormed
  | .ident _ => .isTrue trivial
  | .lam _ body => decideWellFormed body
  | .app f a => @instDecidableAnd _ _ (decideWellFormed f) (decideWellFormed a)
  | .letIn _ d b => @instDecidableAnd _ _ (decideWellFormed d) (decideWellFormed b)
  | .letrec _ d b => @instDecidableAnd _ _ (decideWellFormed d) (decideWellFormed b)
  | .lamOver .. | .bare | .missing => .isFalse id

instance : DecidablePred WellFormed := decideWellFormed

/-! ## Text -/

/-- The text of a term, every compound one in parentheses. -/
def render : Term → Except Error String
  | .ident x => return x
  | .lam x b => do
    let b ← b.render
    return "(fn " ++ x ++ " => " ++ b ++ ")"
  | .app f a => do
    let f ← f.render
    let a ← a.render
    return "(" ++ f ++ " " ++ a ++ ")"
  | .letIn x d b => do
    let d ← d.render
    let b ← b.render
    return "(let " ++ x ++ " = " ++ d ++ " in " ++ b ++ ")"
  | .letrec x d b => do
    let d ← d.render
    let b ← b.render
    return "(letrec " ++ x ++ " = " ++ d ++ " in " ++ b ++ ")"
  | .lamOver .missing b => do
    let b ← b.render
    return "(fn None => " ++ b ++ ")"
  | .lamOver p b => do
    let p ← p.render
    let b ← b.render
    return "(fn " ++ p ++ " => " ++ b ++ ")"
  | .bare => throw .invalidTerm
  | .missing => throw .missingTerm

/-- The text of a term in a message, where a missing one can stand as well. -/
def title : Term → Except Error String
  | .missing => return "None"
  | e => e.render

/-- The term written out by constructors and fields. -/
def describe : Term → String
  | .ident x => "Id(name=" ++ Text.quoted x ++ ")"
  | .lam x b => "Lambda(param=" ++ Text.quoted x ++ ", body=" ++ b.describe ++ ")"
  | .app f a => "Apply(function=" ++ f.describe ++ ", argument=" ++ a.describe ++ ")"
  | .letIn x d b =>
    "Let(name=" ++ Text.quoted x ++ ", definition=" ++ d.describe ++ ", body=" ++ b.describe ++ ")"
  | .letrec x d b =>
    "Letrec(name=" ++ Text.quoted x ++ ", definition=" ++ d.describe ++ ", body=" ++ b.describe
      ++ ")"
  | .lamOver p b => "Lambda(param=" ++ p.describe ++ ", body=" ++ b.describe ++ ")"
  | .bare => "<fphack.Term object>"
  | .missing => "None"

/-! ## Builders -/

/-- What terms are built from: a name or a term. -/
inductive Part where
  | name (x : String)
  | term (t : Term)
deriving Inhabited

/-- A part in the position of a term. -/
def Part.toTerm : Part → Term
  | .name x => .ident x
  | .term t => t

/-- The function of one parameter. -/
def Part.lam (param : Part) (body : Term) : Term :=
  match param with
  | .name x => .lam x body
  | .term t => .lamOver t body

/-- The function of several parameters: all parts but the last, which is the body. -/
def lambda (parts : List Part) : Except Error Term :=
  match parts.getLast? with
  | none => .error .nothingToBuild
  | some body => .ok (parts.dropLast.foldr Part.lam body.toTerm)

/-- The first part applied to the others, one after the other. -/
def apply : List Part → Except Error Term
  | [] => .error .nothingToBuild
  | f :: args => .ok (args.foldl (fun f a => .app f a.toTerm) f.toTerm)

end Term

end LetPoly
