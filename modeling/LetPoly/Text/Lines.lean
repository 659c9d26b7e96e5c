/-!
# Lines

A newline ends a line, and no other character does. A text without a newline is one line, and
every newline in it adds one: what follows the last newline is a line even if it is empty.
-/

namespace LetPoly.Text

/-- The lines of a text, of which `line` holds what is read of the first, latest first. -/
def linesFrom (line : List Char) : List Char → List String
  | [] => [String.ofList line.reverse]
  | '\n' :: rest => String.ofList line.reverse :: linesFrom [] rest
  | c :: rest => linesFrom (c :: line) rest

/-- The lines of a text. -/
def lines (s : String) : List String := linesFrom [] s.toList

end LetPoly.Text
