import LetPoly.Text.Printable

/-!
# Quoted text

How a text is written when it is named inside a message or a listing: between two quotes, with
the characters that would be lost or misread written as escapes.

* The quote is an apostrophe, or a double quote when the text holds an apostrophe and no double
  quote.
* The quote in use and the backslash are preceded by a backslash; newline, carriage return and
  tab have letters.
* Every other unprintable character is written by its code point: two hexadecimal digits below
  `0x100`, four below `0x10000`, eight above.
-/

namespace LetPoly.Text

/-- The last `width` hexadecimal digits of `n`, in lower case. -/
def hexDigits : Nat → Nat → List Char
  | 0, _ => []
  | width + 1, n => hexDigits width (n / 16) ++ [Nat.digitChar (n % 16)]

/-- A character by its code point, in the shortest of the three widths that holds it. -/
def codePoint (c : Char) : List Char :=
  let n := c.toNat
  if n < 0x100 then '\\' :: 'x' :: hexDigits 2 n
  else if n < 0x10000 then '\\' :: 'u' :: hexDigits 4 n
  else '\\' :: 'U' :: hexDigits 8 n

/-- One character of a text that stands between two `quote`s. -/
def escapeChar (quote c : Char) : List Char :=
  if c = quote || c = '\\' then ['\\', c]
  else if c = '\n' then ['\\', 'n']
  else if c = '\r' then ['\\', 'r']
  else if c = '\t' then ['\\', 't']
  else if isUnprintable c then codePoint c
  else [c]

/-- The quote of everyday use. -/
def apostrophe : Char := Char.ofNat 0x27

/-- The quote for texts that hold an apostrophe. -/
def doubleQuote : Char := Char.ofNat 0x22

/-- The quote that surrounds a text. -/
def quoteFor (cs : List Char) : Char :=
  if cs.contains apostrophe && !cs.contains doubleQuote then doubleQuote else apostrophe

/-- The text between quotes, with escapes. -/
def quoted (s : String) : String :=
  let cs := s.toList
  let q := quoteFor cs
  String.ofList (q :: (cs.flatMap (escapeChar q) ++ [q]))

end LetPoly.Text
