import LetPoly.Text.Form.Composite
import LetPoly.Text.Form.Mark
import LetPoly.Text.Form.Substitute

/-!
# Compatible forms

Two identifiers may look alike, or mean the same, and still hold different characters. The
compatible form of an identifier is the one that stands for all of them:

* every character is decomposed: a substitute takes its place, and a composite falls into its
  parts;
* the marks after a character are brought into the order of their classes, those of one class
  keeping theirs;
* a character is composed with what follows it wherever the two have a composite. Marks of lower
  class may stand between them, since they do not touch the one that is taken.

The tables know the characters of identifiers only.
-/

namespace LetPoly.Text

/-! ## Hangul

A syllable is a leading consonant and a vowel, or those two and a trailing consonant. The syllables
stand in the order of their parts: 21 vowels to each leading consonant, and 28 places to each
vowel, of which the first is for no trailing consonant. -/

/-- The first syllable. -/
def hangulBase : Nat := 0xAC00

/-- The first leading consonant. -/
def hangulLead : Nat := 0x1100

/-- The first vowel. -/
def hangulVowel : Nat := 0x1161

/-- The place before the first trailing consonant. -/
def hangulTrail : Nat := 0x11A7

/-- The parts of a syllable. -/
def hangulParts? (c : Char) : Option (List Char) :=
  let n := c.toNat
  if hangulBase ≤ n && n < hangulBase + 19 * 21 * 28 then
    let s := n - hangulBase
    let pair := [Char.ofNat (hangulLead + s / 28 / 21), Char.ofNat (hangulVowel + s / 28 % 21)]
    some (if s % 28 = 0 then pair else pair ++ [Char.ofNat (hangulTrail + s % 28)])
  else none

/-- The syllable of a leading consonant and a vowel, or of those two and a trailing consonant. -/
def hangulCompose? (a b : Char) : Option Char :=
  let m := a.toNat
  let n := b.toNat
  if hangulLead ≤ m && m < hangulLead + 19 && hangulVowel ≤ n && n < hangulVowel + 21 then
    some (Char.ofNat (hangulBase + ((m - hangulLead) * 21 + (n - hangulVowel)) * 28))
  else if hangulBase ≤ m && m < hangulBase + 19 * 21 * 28 && (m - hangulBase) % 28 = 0
      && hangulTrail < n && n < hangulTrail + 28 then
    some (Char.ofNat (m + (n - hangulTrail)))
  else none

/-! ## Decomposition -/

/-- The substitute of a character. -/
def substitute? (c : Char) : Option (List Char) :=
  let n := c.toNat
  substitutes.findSome? fun (low, size, text) =>
    if low ≤ n then
      match (text.toList.drop ((n - low) * size)).take size with
      | [] => none
      | cs => some cs
    else none

/-- The two characters that a composite stands for. -/
def parts? (c : Char) : Option (Char × Char) :=
  (composites.find? fun (_, _, n) => n = c.toNat).map fun (a, b, _) => (Char.ofNat a, Char.ofNat b)

/-- How often the first part of a composite can be composite again, and the composite itself. -/
def compositeDepth : Nat := 3

/-- The characters that a character stands for, if composites are at most `depth` deep. -/
def decomposeTo : Nat → Char → List Char
  | 0, c => [c]
  | depth + 1, c =>
    match hangulParts? c, substitute? c, parts? c with
    | some cs, _, _ => cs
    | none, some cs, _ => cs
    | none, none, some (a, b) => decomposeTo depth a ++ [b]
    | none, none, none => [c]

/-- The characters that a character stands for. -/
def decompose (c : Char) : List Char := decomposeTo compositeDepth c

/-! ## The order of marks -/

/-- Puts a character behind others, latest first; a mark goes before those of a higher class. -/
def insertMark (c : Char) : List Char → List Char
  | [] => [c]
  | d :: before =>
    if markClass c ≠ 0 && markClass c < markClass d then d :: insertMark c before
    else c :: d :: before

/-- The characters with their marks in order. -/
def orderMarks (cs : List Char) : List Char :=
  (cs.foldl (fun before c => insertMark c before) []).reverse

/-! ## Composition -/

/-- The composite of two characters. -/
def compose? (a b : Char) : Option Char :=
  (hangulCompose? a b).or
    ((composites.find? fun (m, n, _) => m = a.toNat && n = b.toNat).map
      fun (_, _, n) => Char.ofNat n)

/-- Composes `base` with characters that follow it, where `marks`, latest first, were left between
them. -/
def composeFrom (base : Char) (marks : List Char) : List Char → List Char
  | [] => base :: marks.reverse
  | c :: rest =>
    let free := match marks with
      | [] => true
      | m :: _ => markClass m < markClass c
    match if free then compose? base c else none with
    | some d => composeFrom d marks rest
    | none =>
      if markClass c = 0 then base :: marks.reverse ++ composeFrom c [] rest
      else composeFrom base (c :: marks) rest

/-- Composes characters wherever they have a composite. -/
def compose : List Char → List Char
  | [] => []
  | c :: rest => composeFrom c [] rest

/-- The compatible form of an identifier. -/
def compatibleForm (s : String) : String :=
  String.ofList (compose (orderMarks (s.toList.flatMap decompose)))

end LetPoly.Text
