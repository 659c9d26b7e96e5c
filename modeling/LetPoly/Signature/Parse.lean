import LetPoly.Signature.Tree
import LetPoly.Text.Quoted

/-!
# Reading signatures

`parse` reads a text as a signature or names the leftmost problem: a token that cannot stand where
it stands, a character with which no token starts, or the end of the text.
-/

namespace LetPoly.Signature

/-- The leftmost thing that keeps a text from being a signature. -/
inductive Problem where
  /-- A token that cannot stand where it stands. -/
  | token (t : Token) (place : Place)
  /-- A character with which no token starts. -/
  | stray (c : Char) (place : Place)
  /-- The text stops too early; the place is that of its last token. -/
  | ending (place : Place)
deriving DecidableEq, Inhabited

private def unexpected (kind text : String) (place : Place) : String :=
  "Unexpected token Token(" ++ Text.quoted kind ++ ", " ++ Text.quoted text ++ ") at line "
    ++ toString place.line ++ ", column " ++ toString place.column ++ "."

/-- The problem in words. -/
def Problem.message : Problem → String
  | .token t place => unexpected t.kind t.text place
  | .ending place => unexpected "$END" "" place
  | .stray c place =>
    "No terminal matches '" ++ c.toString ++ "' in the current parser context, at line "
      ++ toString place.line ++ " col " ++ toString place.column

/-- Reads tokens on from `r`, of which the one before started at `last`, up to the end or to a
stray character. -/
def Reader.run (r : Reader) (last : Place) (stray : Option (Char × Place)) :
    List (Token × Place) → Except Problem Sig
  | [] =>
    match stray with
    | some (c, place) => .error (.stray c place)
    | none =>
      match r.finish? with
      | some s => .ok s
      | none => .error (.ending last)
  | (t, place) :: rest =>
    match r.step t with
    | some r => r.run place stray rest
    | none => .error (.token t place)

/-- Reads a text as a signature. -/
def parse (text : String) : Except Problem Sig :=
  let s := scan {} text.toList
  Reader.run {} {} s.stray s.tokens

end LetPoly.Signature
