import LetPoly.Label
import LetPoly.Proofs.Lexing
import LetPoly.Signature.Denote

/-!
# Letters

The letters that are given to variables are names of variables in the notation of signatures, and
different places in the order have different letters.

* `Signature.IsName` — texts that are one token, a name
* `Namer.isVariableName_letter`, `Namer.letter_injective`
-/

namespace LetPoly

namespace Signature

/-- The text is a name. -/
def IsName (x : String) : Prop :=
  ∃ c cs, x.toList = c :: cs ∧ isNameStart c = true ∧ ∀ d ∈ cs, isNameChar d = true

/-- The names in the tokens of a text. -/
theorem Lexes.isName {cs : List Char} {ts : List Token} (h : Lexes cs ts) {x : String}
    (hx : Token.name x ∈ ts) : IsName x := by
  induction h with
  | nil => exact nomatch hx
  | blank _ _ ih => exact ih hx
  | name hc hword _ _ ih =>
    rcases List.mem_cons.mp hx with hx | hx
    · rw [Token.name.inj hx]
      exact ⟨_, _, String.toList_ofList, hc, hword⟩
    · exact ih hx
  | leftParen _ ih | rightParen _ ih | comma _ ih | arrow _ ih =>
    exact ih ((List.mem_cons.mp hx).resolve_left nofun)

/-- The arrow is not a name. -/
theorem not_isName_arrow : ¬ IsName "->" := by
  rintro ⟨c, cs, heq, hc, _⟩
  obtain ⟨rfl, _⟩ := List.cons.inj (show ['-', '>'] = c :: cs from heq)
  exact absurd hc (by decide)

theorem isName_of_isVariableName {x : String} (h : isVariableName x = true) : IsName x := by
  unfold isVariableName at h
  split at h
  · cases h
  · next c cs heq =>
    rw [Bool.and_eq_true, List.all_eq_true] at h
    have halpha : c.isAlpha = true := (Bool.or_eq_true _ _).mpr (.inr h.1)
    refine ⟨c, cs, heq, ?_, fun d hd => ?_⟩
    · simp [isNameStart, halpha]
    · simp [isNameChar, h.2 d hd]

end Signature

namespace Namer

/-- The number after the letter, if there is one. -/
def suffix (k : Nat) : List Char := if k / 26 = 0 then [] else Nat.toDigits 10 (k / 26)

theorem toList_letter (k : Nat) : (letter k).toList = Char.ofNat (97 + k % 26) :: suffix k := by
  unfold letter suffix
  split
  · simp
  · simp

theorem isLower_ofNat {i : Nat} (h : i < 26) : (Char.ofNat (97 + i)).isLower = true := by
  have hall : ∀ j ∈ List.range 26, (Char.ofNat (97 + j)).isLower = true := by decide
  exact hall i (List.mem_range.mpr h)

theorem toNat_ofNat_letter {i : Nat} (h : i < 26) : (Char.ofNat (97 + i)).toNat = 97 + i := by
  have hall : ∀ j ∈ List.range 26, (Char.ofNat (97 + j)).toNat = 97 + j := by decide
  exact hall i (List.mem_range.mpr h)

theorem isDigit_of_mem_suffix {k : Nat} {c : Char} (hc : c ∈ suffix k) : c.isDigit = true := by
  unfold suffix at hc
  split at hc
  · exact nomatch hc
  · exact Nat.isDigit_of_mem_toDigits (by decide) (by decide) hc

/-- Letters are read as variables. -/
theorem isVariableName_letter (k : Nat) : Signature.isVariableName (letter k) = true := by
  unfold Signature.isVariableName
  rw [toList_letter]
  simp only [Bool.and_eq_true, List.all_eq_true]
  exact ⟨isLower_ofNat (Nat.mod_lt k (by decide)), fun c => isDigit_of_mem_suffix⟩

theorem div_eq_of_suffix_eq {j k : Nat} (h : suffix j = suffix k) : j / 26 = k / 26 := by
  unfold suffix at h
  split at h <;> split at h
  · next hj hk => rw [hj, hk]
  · exact absurd h.symm Nat.toDigits_ne_nil
  · exact absurd h Nat.toDigits_ne_nil
  · rw [← Nat.ofDigitChars_ten_toDigits (n := j / 26), h, Nat.ofDigitChars_ten_toDigits]

/-- Different places in the order have different letters. -/
theorem letter_injective : Function.Injective letter := by
  intro j k h
  have hlist := congrArg String.toList h
  rw [toList_letter, toList_letter] at hlist
  obtain ⟨hchar, hsuffix⟩ := List.cons.inj hlist
  have hdiv := div_eq_of_suffix_eq hsuffix
  have hmod : j % 26 = k % 26 := by
    have hnat := congrArg Char.toNat hchar
    rw [toNat_ofNat_letter (Nat.mod_lt j (by decide)),
      toNat_ofNat_letter (Nat.mod_lt k (by decide))] at hnat
    omega
  omega

end Namer

end LetPoly
