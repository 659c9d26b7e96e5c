import LetPoly.Signature.Token

/-!
# Splitting texts into tokens

`Lexes cs ts` says that the text `cs` splits into the tokens `ts`: blanks are skipped, and a name is
taken as long as possible. It mentions neither places nor stray characters.

* `lexes_scan` — a scan that reaches the end has split the text
* `scan_eq_iff_lexes` — a scan without a stray character finds the one way to split the text
-/

namespace LetPoly.Signature

/-- The text does not go on with a name. -/
def EndsName (cs : List Char) : Prop := ∀ c ∈ cs.head?, isNameChar c = false

/-- The text splits into the tokens. -/
inductive Lexes : List Char → List Token → Prop
  | nil : Lexes [] []
  | blank {c : Char} {cs : List Char} {ts : List Token} :
    isBlank c = true → Lexes cs ts → Lexes (c :: cs) ts
  | name {c : Char} {word cs : List Char} {ts : List Token} :
    isNameStart c = true → (∀ d ∈ word, isNameChar d = true) → EndsName cs → Lexes cs ts →
    Lexes (c :: (word ++ cs)) (.name (String.ofList (c :: word)) :: ts)
  | leftParen {cs : List Char} {ts : List Token} :
    Lexes cs ts → Lexes ('(' :: cs) (.leftParen :: ts)
  | rightParen {cs : List Char} {ts : List Token} :
    Lexes cs ts → Lexes (')' :: cs) (.rightParen :: ts)
  | comma {cs : List Char} {ts : List Token} : Lexes cs ts → Lexes (',' :: cs) (.comma :: ts)
  | arrow {cs : List Char} {ts : List Token} :
    Lexes cs ts → Lexes ('-' :: '>' :: cs) (.arrow :: ts)

variable {p : Place} {c : Char} {cs word : List Char} {ts : List Token}

/-! ## Scans find tokens -/

/-- The tokens without their places. -/
def Scan.kinds (s : Scan) : List Token := s.tokens.map Prod.fst

theorem endsName_dropWhile (cs : List Char) : EndsName (cs.dropWhile isNameChar) := by
  intro c hc
  have h := List.head?_dropWhile_not isNameChar cs
  rwa [Option.mem_def.mp hc] at h

/-- A scan that reaches the end has split the text. -/
theorem lexes_scan (p : Place) (cs : List Char) (h : (scan p cs).stray = none) :
    Lexes cs (scan p cs).kinds := by
  fun_induction scan p cs with
  | case1 => exact .nil
  | case2 p c cs hc ih => exact .blank hc (ih h)
  | case3 p c cs _ hc word ih =>
    have hword : ∀ d ∈ cs.takeWhile isNameChar, isNameChar d = true :=
      List.all_eq_true.mp List.all_takeWhile
    have hname := Lexes.name hc hword (endsName_dropWhile cs) (ih h)
    rwa [List.takeWhile_append_dropWhile] at hname
  | case4 p cs _ _ ih => exact .leftParen (ih h)
  | case5 p cs _ _ _ ih => exact .rightParen (ih h)
  | case6 p cs _ _ _ _ ih => exact .comma (ih h)
  | case7 p rest _ _ _ _ _ ih => exact .arrow (ih h)
  | case8 => exact nomatch h

/-- The longest name in front of a text that starts with one. -/
theorem takeWhile_name (hword : ∀ d ∈ word, isNameChar d = true) (hcs : EndsName cs) :
    (word ++ cs).takeWhile isNameChar = word ∧ (word ++ cs).dropWhile isNameChar = cs := by
  rw [List.takeWhile_append_of_pos hword, List.dropWhile_append_of_pos hword]
  cases cs with
  | nil => simp
  | cons c cs =>
    have hc : isNameChar c = false := hcs c rfl
    simp [hc]

/-! ## Texts have one scan -/

theorem scan_blank (p : Place) (hc : isBlank c = true) :
    scan p (c :: cs) = scan (p.after c) cs := by
  rw [scan.eq_def]
  simp only [hc, reduceIte]

/-- No name starts with a blank. -/
theorem isBlank_of_isNameStart (hc : isNameStart c = true) : isBlank c = false := by
  refine Bool.eq_false_iff.mpr fun hb => ?_
  simp only [isBlank, Bool.or_eq_true, decide_eq_true_eq] at hb
  rcases hb with (((rfl | rfl) | rfl) | rfl) | h
  case inr =>
    rw [← Char.ofNat_toNat c, h] at hc
    exact absurd hc (by decide)
  all_goals exact absurd hc (by decide)

theorem scan_name (p : Place) (hc : isNameStart c = true)
    (hword : ∀ d ∈ word, isNameChar d = true) (hcs : EndsName cs) :
    scan p (c :: (word ++ cs)) =
      (scan (p.afterAll (c :: word)) cs).cons (.name (String.ofList (c :: word))) p := by
  obtain ⟨htake, hdrop⟩ := takeWhile_name hword hcs
  rw [scan.eq_def]
  simp only [isBlank_of_isNameStart hc, hc, htake, hdrop, reduceIte, Bool.false_eq_true]

/-- A text that splits into tokens is scanned to its end, and the tokens are those. -/
theorem Lexes.scan_eq (h : Lexes cs ts) :
    ∀ p, (scan p cs).stray = none ∧ (scan p cs).kinds = ts := by
  induction h with
  | nil =>
    intro p
    rw [scan]
    exact ⟨rfl, rfl⟩
  | blank hc _ ih =>
    intro p
    rw [scan_blank p hc]
    exact ih _
  | name hc hword hcs _ ih =>
    intro p
    rw [scan_name p hc hword hcs]
    exact ⟨(ih _).1, congrArg _ (ih _).2⟩
  | leftParen _ ih | rightParen _ ih | comma _ ih | arrow _ ih =>
    intro p
    rw [scan.eq_def]
    exact ⟨(ih _).1, congrArg _ (ih _).2⟩

/-- A scan meets no stray character exactly if the text splits into tokens, and then it finds
them. -/
theorem scan_eq_iff_lexes (p : Place) :
    (scan p cs).stray = none ∧ (scan p cs).kinds = ts ↔ Lexes cs ts := by
  constructor
  · rintro ⟨hstray, rfl⟩
    exact lexes_scan p cs hstray
  · exact fun h => h.scan_eq p

end LetPoly.Signature
