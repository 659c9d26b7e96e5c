import LetPoly.Text.Ranges

/-!
# Words

The words of a text stand between blanks of any kind: spaces, tabs, and all that ends a line or
separates parts of a text.
-/

namespace LetPoly.Text

/-- Characters that separate words. -/
def blanks : List (Nat × Nat) :=
  [(0x09, 0x0D), (0x1C, 0x20), (0x85, 0x85), (0xA0, 0xA0), (0x1680, 0x1680), (0x2000, 0x200A),
   (0x2028, 0x2029), (0x202F, 0x202F), (0x205F, 0x205F), (0x3000, 0x3000)]

/-- Whether a character separates words. -/
def isBlank (c : Char) : Bool := inRanges blanks c.toNat

/-- The words of a text, of which `word` holds what is read of the first, latest letter first. -/
def wordsFrom (word : List Char) : List Char → List String
  | [] => if word.isEmpty then [] else [String.ofList word.reverse]
  | c :: rest =>
    if isBlank c then
      if word.isEmpty then wordsFrom [] rest
      else String.ofList word.reverse :: wordsFrom [] rest
    else wordsFrom (c :: word) rest

/-- The words of a text. -/
def words (s : String) : List String := wordsFrom [] s.toList

end LetPoly.Text
