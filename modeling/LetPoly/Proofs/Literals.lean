import Mathlib.Data.Nat.Digits.Defs
import LetPoly.Proofs.Failures

/-!
# Integers

A numeral is an optional sign with decimal digits behind it; it stands for a number by the places of
its digits. The integers are the numerals of the numbers of 64 bits with sign, except that a numeral
with too many digits is not judged at all, even if all but a few of them are zeros in front.

* `Literal.IsNumeral` — numerals and their numbers, said without a reader
* `isIntegerLiteral_eq_true_iff`, `isIntegerLiteral_eq_false_iff`, `isIntegerLiteral_eq_error_iff`
* `integers_recognized` — the same with what becomes of a program that is only a name
* `longZero_not_judged` — zero is not judged when it is written too long
-/

namespace LetPoly

open Store

namespace Literal

/-! ## Numerals -/

/-- The text in front of the digits, a sign or nothing, with what it multiplies them by. -/
inductive IsSign : List Char → Int → Prop
  | none : IsSign [] 1
  | plus : IsSign ['+'] 1
  | minus : IsSign ['-'] (-1)

/-- The number that decimal digits stand for by their places, the last one for ones. -/
def placeValue (digits : List Char) : Nat :=
  Nat.ofDigits 10 (digits.reverse.map fun d => d.toNat - '0'.toNat)

/-- The text is an optional sign with the given digits behind it, and stands for the number. -/
def IsNumeral (text : String) (digits : List Char) (n : Int) : Prop :=
  ∃ sign unit, IsSign sign unit ∧ text.toList = sign ++ digits ∧ digits ≠ [] ∧
    (∀ d ∈ digits, '0' ≤ d ∧ d ≤ '9') ∧ n = unit * placeValue digits

variable {text : String} {digits : List Char} {n : Int}

/-- Reading from the left gives the value of the places. -/
theorem value_eq_placeValue (digits : List Char) : Decimal.value digits = placeValue digits := by
  rw [placeValue, Nat.ofDigits_eq_foldr, List.foldr_map, List.foldr_reverse]
  unfold Decimal.value
  congr 1
  funext n d
  exact Nat.add_comm _ _

theorem areDigits_iff {cs : List Char} :
    areDigits cs = true ↔ cs ≠ [] ∧ ∀ d ∈ cs, '0' ≤ d ∧ d ≤ '9' := by
  simp [areDigits, Char.isDigit, Char.le_def]

/-- Digits without a sign are read as they stand: the first of them is no sign. -/
theorem numeral?_digits {cs : List Char} (h : areDigits cs = true) :
    numeral? cs = some { negative := false, digits := cs } := by
  unfold numeral?
  split
  next negative digits hsign =>
    split at hsign
    · exact absurd h (by simp [areDigits])
    · exact absurd h (by simp [areDigits])
    · obtain ⟨rfl, rfl⟩ := Prod.mk.inj hsign
      rw [if_pos h]

/-- What is read as a numeral is one. -/
theorem isNumeral_of_numeral? {m : Numeral} (h : numeral? text.toList = some m) :
    IsNumeral text m.digits m.value := by
  unfold numeral? at h
  split at h
  next negative digits hsign =>
    split at h
    case isFalse => exact nomatch h
    case isTrue hdigits =>
      obtain rfl := Option.some.inj h
      obtain ⟨hne, hall⟩ := areDigits_iff.mp hdigits
      rw [Numeral.value, value_eq_placeValue]
      split at hsign
      case h_1 ds htext =>
        obtain ⟨rfl, rfl⟩ := Prod.mk.inj hsign
        exact ⟨_, _, .minus, htext, hne, hall, by simp⟩
      case h_2 ds htext =>
        obtain ⟨rfl, rfl⟩ := Prod.mk.inj hsign
        exact ⟨_, _, .plus, htext, hne, hall, by simp⟩
      case h_3 =>
        obtain ⟨rfl, rfl⟩ := Prod.mk.inj hsign
        exact ⟨_, _, .none, rfl, hne, hall, by simp⟩

/-- A numeral is read, with its digits and its number. -/
theorem IsNumeral.exists_numeral? (h : IsNumeral text digits n) :
    ∃ m, numeral? text.toList = some m ∧ m.digits = digits ∧ m.value = n := by
  obtain ⟨sign, unit, hsign, htext, hne, hall, rfl⟩ := h
  have hdigits := areDigits_iff.mpr ⟨hne, hall⟩
  rw [htext, ← value_eq_placeValue]
  cases hsign with
  | none => exact ⟨_, numeral?_digits hdigits, rfl, by simp [Numeral.value]⟩
  | plus => exact ⟨⟨false, digits⟩, if_pos hdigits, rfl, by simp [Numeral.value]⟩
  | minus => exact ⟨⟨true, digits⟩, if_pos hdigits, rfl, by simp [Numeral.value]⟩

theorem placeValue_zeros (k : Nat) : placeValue (List.replicate k '0') = 0 := by
  rw [← value_eq_placeValue]
  induction k with
  | zero => rfl
  | succ k ih => exact ih

/-- Zeros are a numeral of zero, however many they are. -/
theorem isNumeral_zeros {k : Nat} (hk : k ≠ 0) :
    IsNumeral (String.ofList (List.replicate k '0')) (List.replicate k '0') 0 := by
  refine ⟨_, _, .none, String.toList_ofList, by simpa using hk, fun d hd => ?_, ?_⟩
  · obtain rfl := List.eq_of_mem_replicate hd
    decide
  · simp [placeValue_zeros]

end Literal

open Literal

/-! ## The answers -/

section

variable {text : String} {digits : List Char} {n : Int}

theorem isInteger_iff : isInteger n = true ↔ -2 ^ 63 ≤ n ∧ n ≤ 2 ^ 63 - 1 := by
  rw [isInteger, Bool.and_eq_true, decide_eq_true_iff, decide_eq_true_iff]
  exact Iff.rfl

/-- What is answered for a numeral. -/
theorem isIntegerLiteral_of_isNumeral (h : IsNumeral text digits n) : isIntegerLiteral text =
    if digits.length > Decimal.maxDigits then .error (.numeralTooLong digits.length)
    else .ok (isInteger n) := by
  obtain ⟨m, hm, rfl, rfl⟩ := h.exists_numeral?
  rw [isIntegerLiteral, hm]

/-- A text that is no numeral is no integer. -/
theorem exists_isNumeral_or (text : String) :
    (∃ digits n, IsNumeral text digits n) ∨ isIntegerLiteral text = .ok false := by
  unfold isIntegerLiteral
  split
  · exact .inr rfl
  · next m hm => exact .inl ⟨_, _, isNumeral_of_numeral? hm⟩

/-- A text is an integer if it is a numeral of a number in range and not too long. -/
theorem isIntegerLiteral_eq_true_iff : isIntegerLiteral text = .ok true ↔
    ∃ digits n, IsNumeral text digits n ∧ digits.length ≤ Decimal.maxDigits ∧
      -2 ^ 63 ≤ n ∧ n ≤ 2 ^ 63 - 1 := by
  constructor
  · intro h
    rcases exists_isNumeral_or text with ⟨digits, n, hn⟩ | hfalse
    · rw [isIntegerLiteral_of_isNumeral hn] at h
      split at h
      · exact nomatch h
      · next hlen => exact ⟨digits, n, hn, Nat.not_lt.mp hlen, isInteger_iff.mp (Except.ok.inj h)⟩
    · rw [hfalse] at h
      exact nomatch h
  · rintro ⟨digits, n, hn, hlen, hrange⟩
    rw [isIntegerLiteral_of_isNumeral hn, if_neg (Nat.not_lt.mpr hlen), isInteger_iff.mpr hrange]

/-- A text is no integer if it is no numeral, or one of a number out of range and not too long. -/
theorem isIntegerLiteral_eq_false_iff : isIntegerLiteral text = .ok false ↔
    ∀ digits n, IsNumeral text digits n → digits.length ≤ Decimal.maxDigits ∧
      ¬ (-2 ^ 63 ≤ n ∧ n ≤ 2 ^ 63 - 1) := by
  constructor
  · intro h digits n hn
    rw [isIntegerLiteral_of_isNumeral hn] at h
    split at h
    · exact nomatch h
    · next hlen =>
      refine ⟨Nat.not_lt.mp hlen, fun hrange => ?_⟩
      rw [isInteger_iff.mpr hrange] at h
      exact nomatch h
  · intro h
    rcases exists_isNumeral_or text with ⟨digits, n, hn⟩ | hfalse
    · obtain ⟨hlen, hrange⟩ := h digits n hn
      rw [isIntegerLiteral_of_isNumeral hn, if_neg (Nat.not_lt.mpr hlen),
        Bool.eq_false_iff.mpr (mt isInteger_iff.mp hrange)]
    · exact hfalse

/-- A text is not judged if it is a numeral that is too long. -/
theorem isIntegerLiteral_eq_error_iff {err : Error} : isIntegerLiteral text = .error err ↔
    ∃ digits n, IsNumeral text digits n ∧ Decimal.maxDigits < digits.length ∧
      err = .numeralTooLong digits.length := by
  constructor
  · intro h
    rcases exists_isNumeral_or text with ⟨digits, n, hn⟩ | hfalse
    · rw [isIntegerLiteral_of_isNumeral hn] at h
      split at h
      · next hlen => exact ⟨digits, n, hn, hlen, (Except.error.inj h).symm⟩
      · exact nomatch h
    · rw [hfalse] at h
      exact nomatch h
  · rintro ⟨digits, n, hn, hlen, rfl⟩
    rw [isIntegerLiteral_of_isNumeral hn, if_pos hlen]

end

/-! ## Programs that are only a name -/

variable {s : Store}

/-- Letters change nothing in the type of integers. -/
theorem nameVariables_int (hs : s.Valid) :
    ∃ s', StoreWithM.within ({} : Namer) (nameVariables .int) s = .ok .int s' := by
  have hends : Ends (StoreWithM.within ({} : Namer) (nameVariables .int)) s
      (fun t _ => t = .int) (fun _ _ => False) := by
    rw [ends_within]
    refine (nameVariables_ends hs holds_int).mono ?_ (fun _ _ h => h)
    rintro _ p ⟨rfl, _⟩
    exact find_con s _ _
  obtain ⟨_, s', hrun, rfl⟩ := hends.exists_ok
  exact ⟨s', hrun⟩

/-- What becomes of a name without an entry in the environment. -/
theorem infer_ident {text : String} {env : Env} (hs : s.Valid) (h : text ∉ env.map Prod.fst) :
    ∃ s', infer (.ident text) (some env) s = match isIntegerLiteral text with
      | .ok true => .ok .int s'
      | .ok false => .error (.undefined text) s'
      | .error err => .error err s' := by
  have hlook : env.lookup text = none := by
    rw [List.lookup_eq_none_iff]
    intro p hp
    simpa using fun heq => h (List.mem_map.mpr ⟨p, hp, heq.symm⟩)
  rw [infer_some, analyse_ident, typeOfName, hlook]
  cases isIntegerLiteral text with
  | error err => exact ⟨s, rfl⟩
  | ok b =>
    cases b with
    | true => exact nameVariables_int hs
    | false => exact ⟨s, rfl⟩

/-- The same without an environment, for a name that the prelude does not have. -/
theorem infer_ident_prelude {text : String} (hs : s.Valid) (h : text ∉ knownNames none) :
    ∃ s', infer (.ident text) none s = match isIntegerLiteral text with
      | .ok true => .ok .int s'
      | .ok false => .error (.undefined text) s'
      | .error err => .error err s' := by
  have hprelude := prelude_denote (s := s) (P := fun _ => True) hs (fun _ _ => trivial)
  obtain ⟨env, s₁, hrun, ⟨hgrow, _⟩, hnames, _⟩ := hprelude.exists_ok
  have hnew : text ∉ env.map Prod.fst := by
    rw [hnames, List.mem_reverse]
    exact h
  show ∃ s', (Env.prelude >>= fun env => infer (.ident text) (some env)) s = _
  rw [bind_of_ok hrun]
  exact infer_ident hgrow.valid hnew

/-- The texts that are integers: the numerals of numbers of 64 bits with sign, with any number of
zeros in front as long as the whole is not too long. All other texts are none, except that numerals
that are too long are not judged. A program that is only a name without a type has the type of
integers if the name is one, and fails with the name if it is none. -/
theorem integers_recognized (hs : s.Valid) (text : String) :
    (isIntegerLiteral text = .ok true ↔
      ∃ digits n, IsNumeral text digits n ∧ digits.length ≤ Decimal.maxDigits ∧
        -2 ^ 63 ≤ n ∧ n ≤ 2 ^ 63 - 1) ∧
    (isIntegerLiteral text = .ok false ↔
      ∀ digits n, IsNumeral text digits n → digits.length ≤ Decimal.maxDigits ∧
        ¬ (-2 ^ 63 ≤ n ∧ n ≤ 2 ^ 63 - 1)) ∧
    (∀ err, isIntegerLiteral text = .error err ↔
      ∃ digits n, IsNumeral text digits n ∧ Decimal.maxDigits < digits.length ∧
        err = .numeralTooLong digits.length) ∧
    ∀ env, text ∉ knownNames env →
      ∃ s', infer (.ident text) env s = match isIntegerLiteral text with
        | .ok true => .ok .int s'
        | .ok false => .error (.undefined text) s'
        | .error err => .error err s' := by
  refine ⟨isIntegerLiteral_eq_true_iff, isIntegerLiteral_eq_false_iff,
    fun err => isIntegerLiteral_eq_error_iff, fun env h => ?_⟩
  cases env with
  | some env => exact infer_ident hs h
  | none => exact infer_ident_prelude hs h

theorem integers_recognized_negative :
    IsNumeral "-0042" ['0', '0', '4', '2'] (-42) ∧ "-0042" ∉ knownNames none ∧
    ∃ s', infer (.ident "-0042") none Store.empty = .ok .int s' := by
  have hname : "-0042" ∉ knownNames none := by decide
  have hnumeral : IsNumeral "-0042" ['0', '0', '4', '2'] (-42) :=
    ⟨_, _, .minus, rfl, by simp, by simp, by simp [placeValue, Nat.ofDigits]⟩
  obtain ⟨htrue, _, _, hinfer⟩ := integers_recognized valid_empty "-0042"
  obtain ⟨s', hrun⟩ := hinfer none hname
  rw [htrue.mpr ⟨_, _, hnumeral, by decide, by decide, by decide⟩] at hrun
  exact ⟨hnumeral, hname, s', hrun⟩

/-- Zero, written with more digits than are read. -/
def longZero : String := String.ofList (List.replicate 4301 '0')

/-- A numeral of a number in range that is not accepted. -/
theorem longZero_not_judged :
    IsNumeral longZero (List.replicate 4301 '0') 0 ∧
    isIntegerLiteral longZero = .error (.numeralTooLong 4301) := by
  have hnumeral : IsNumeral longZero (List.replicate 4301 '0') 0 := isNumeral_zeros (by decide)
  refine ⟨hnumeral, isIntegerLiteral_eq_error_iff.mpr ⟨_, _, hnumeral, ?_, ?_⟩⟩
  · rw [List.length_replicate]
    decide
  · rw [List.length_replicate]

end LetPoly
