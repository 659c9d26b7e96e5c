/-!
# Tokens of signatures

A signature is read as a list of tokens, each with its place in the text. Blanks separate tokens
and are skipped. A name is taken as long as possible. Reading stops at the first character with
which no token starts.

## Termination

Each step of `scan` drops at least one character; a name drops all of its own.
-/

namespace LetPoly.Signature

/-! ## Tokens and places -/

/-- The tokens of signatures. -/
inductive Token where
  | name (text : String)
  | leftParen
  | rightParen
  | comma
  | arrow
deriving DecidableEq, Inhabited

namespace Token

/-- The word for the kind of a token in messages. -/
def kind : Token → String
  | .name _ => "NAME"
  | .leftParen => "LPAR"
  | .rightParen => "RPAR"
  | .comma => "COMMA"
  | .arrow => "__ANON_0"

/-- The text of a token. -/
def text : Token → String
  | .name text => text
  | .leftParen => "("
  | .rightParen => ")"
  | .comma => ","
  | .arrow => "->"

end Token

/-- A place in a text, both coordinates counted from 1. -/
structure Place where
  line : Nat := 1
  column : Nat := 1
deriving DecidableEq, Inhabited

/-- The place after a character: only a newline starts a new line. -/
def Place.after (p : Place) (c : Char) : Place :=
  if c = '\n' then ⟨p.line + 1, 1⟩ else ⟨p.line, p.column + 1⟩

/-- The place after several characters. -/
def Place.afterAll (p : Place) (cs : List Char) : Place := cs.foldl Place.after p

/-! ## Characters -/

/-- The letters outside ASCII that differ from an ASCII letter only in case: the capital dotted
and the small dotless `i`, the long `s` and the Kelvin sign. -/
def isFoldedLetter (c : Char) : Bool :=
  c.toNat = 0x130 || c.toNat = 0x131 || c.toNat = 0x17F || c.toNat = 0x212A

/-- Characters with which a name may start. -/
def isNameStart (c : Char) : Bool := c.isAlpha || c = '_' || isFoldedLetter c

/-- Characters with which a name may go on. -/
def isNameChar (c : Char) : Bool := isNameStart c || c.isDigit

/-- Characters that are skipped between tokens. -/
def isBlank (c : Char) : Bool :=
  c = ' ' || c = '\t' || c = '\n' || c = '\r' || c.toNat = 0x0C

/-! ## Scanning -/

/-- The tokens of a text with their places, up to the first character that starts none. -/
structure Scan where
  tokens : List (Token × Place) := []
  stray : Option (Char × Place) := none
deriving DecidableEq, Inhabited

/-- Puts a token in front. -/
def Scan.cons (t : Token) (p : Place) (s : Scan) : Scan := { s with tokens := (t, p) :: s.tokens }

/-- Reads the tokens of a text that starts at the given place. -/
def scan (p : Place) : List Char → Scan
  | [] => {}
  | c :: cs =>
    if isBlank c then scan (p.after c) cs
    else if isNameStart c then
      let word := c :: cs.takeWhile isNameChar
      (scan (p.afterAll word) (cs.dropWhile isNameChar)).cons (.name (String.ofList word)) p
    else if c = '(' then (scan (p.after c) cs).cons .leftParen p
    else if c = ')' then (scan (p.after c) cs).cons .rightParen p
    else if c = ',' then (scan (p.after c) cs).cons .comma p
    else
      match c, cs with
      | '-', '>' :: rest => (scan (p.afterAll ['-', '>']) rest).cons .arrow p
      | _, _ => { stray := some (c, p) }
termination_by cs => cs.length
decreasing_by
  all_goals simp only [List.length_cons]
  all_goals first
    | omega
    | exact Nat.lt_succ_of_le (List.dropWhile_suffix isNameChar).length_le

end LetPoly.Signature
