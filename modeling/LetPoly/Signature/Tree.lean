import LetPoly.Signature.Token

/-!
# Syntax trees of signatures

The grammar

    type    = operand | operand -> type
    operand = NAME ( type , … , type ) | NAME | ( type )

as a family of types, one constructor for each alternative. `Sig.tokens` writes a tree out again.

## Reading

`Reader` reads tokens one at a time and keeps what has been opened and not yet closed. It refuses
a token exactly when no signature starts with the tokens read and that token, so that the token
it refuses is the leftmost problem.
-/

namespace LetPoly.Signature

/-! ## Trees -/

mutual

/-- A type: an operand, or a function from an operand. -/
inductive Sig where
  | operand (o : Operand)
  | arrow (arg : Operand) (result : Sig)

/-- An operand of `->`. -/
inductive Operand where
  | name (text : String)
  | apply (name : String) (args : Args)
  | group (s : Sig)

/-- The components of an operator, of which there is at least one. -/
inductive Args where
  | one (s : Sig)
  | more (s : Sig) (rest : Args)

end

instance : Inhabited Operand := ⟨.name ""⟩
instance : Inhabited Sig := ⟨.operand default⟩
instance : Inhabited Args := ⟨.one default⟩

mutual

/-- The tokens of a type. -/
def Sig.tokens : Sig → List Token
  | .operand o => o.tokens
  | .arrow arg result => arg.tokens ++ .arrow :: result.tokens

/-- The tokens of an operand. -/
def Operand.tokens : Operand → List Token
  | .name text => [.name text]
  | .apply name args => .name name :: .leftParen :: (args.tokens ++ [.rightParen])
  | .group s => .leftParen :: (s.tokens ++ [.rightParen])

/-- The tokens of components, with commas between them. -/
def Args.tokens : Args → List Token
  | .one s => s.tokens
  | .more s rest => s.tokens ++ .comma :: rest.tokens

end

/-- Components from the last one and those before it, nearest first. -/
def Args.ofReversed (last : Args) : List Sig → Args
  | [] => last
  | s :: before => Args.ofReversed (.more s last) before

/-- The function with the given arguments, nearest first, and result. -/
def Sig.ofArrows (result : Sig) : List Operand → Sig
  | [] => result
  | arg :: before => Sig.ofArrows (.arrow arg result) before

/-! ## Reading -/

/-- An opened parenthesis with what stands before it on its own level. -/
inductive Opening where
  /-- A parenthesis that groups. -/
  | group (arrows : List Operand)
  /-- The parenthesis of an operator, with the components that are complete, nearest first. -/
  | apply (arrows : List Operand) (name : String) (done : List Sig)
deriving Inhabited

/-- What stands directly before the next token. -/
inductive Focus where
  /-- Nothing that could be an operand. -/
  | start
  /-- A name, which may be an operand or open an operator. -/
  | name (text : String)
  /-- A complete operand. -/
  | operand (o : Operand)
deriving Inhabited

/-- What has been read of a signature. -/
structure Reader where
  /-- Parentheses that are open, innermost first. -/
  openings : List Opening := []
  /-- Operands before an arrow on the innermost level, nearest first. -/
  arrows : List Operand := []
  focus : Focus := .start
deriving Inhabited

namespace Reader

/-- The operand directly before the next token. -/
def operand? (r : Reader) : Option Operand :=
  match r.focus with
  | .start => none
  | .name text => some (.name text)
  | .operand o => some o

/-- The type that ends here on the innermost level. -/
def level? (r : Reader) : Option Sig :=
  r.operand?.map fun o => Sig.ofArrows (.operand o) r.arrows

/-- Reads one token, if it can stand here. -/
def step (r : Reader) : Token → Option Reader
  | .name text =>
    match r.focus with
    | .start => some { r with focus := .name text }
    | _ => none
  | .leftParen =>
    match r.focus with
    | .start => some { openings := .group r.arrows :: r.openings }
    | .name text => some { openings := .apply r.arrows text [] :: r.openings }
    | .operand _ => none
  | .rightParen => do
    let s ← r.level?
    match r.openings with
    | .group arrows :: openings =>
      some { openings, arrows, focus := .operand (.group s) }
    | .apply arrows name done :: openings =>
      some { openings, arrows, focus := .operand (.apply name (.ofReversed (.one s) done)) }
    | [] => none
  | .comma => do
    let s ← r.level?
    match r.openings with
    | .apply arrows name done :: openings =>
      some { openings := .apply arrows name (s :: done) :: openings }
    | _ => none
  | .arrow => do
    let o ← r.operand?
    some { r with arrows := o :: r.arrows, focus := .start }

/-- The signature that has been read, if it is complete. -/
def finish? (r : Reader) : Option Sig :=
  match r.openings with
  | [] => r.level?
  | _ => none

end Reader

end LetPoly.Signature
