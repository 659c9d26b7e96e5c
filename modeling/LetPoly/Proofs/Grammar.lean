import LetPoly.Proofs.Lexing
import LetPoly.Signature.Parse

/-!
# Reading is the inverse of writing out

A signature is *spelled* by the texts that split into its tokens. `parse` reads exactly the texts
that spell a signature, and each of them spells only one.

* `Reader.tokens` — the tokens that a reader has read, which a step extends by one
* `Sig.exists_reads` — a reader reads the tokens of a signature, whatever stands before them
* `Sig.tokens_injective`, `Spells.unique` — a list of tokens, and so a text, is written by one
  signature at most
* `parse_eq_ok_iff` — the signatures that texts spell
-/

namespace LetPoly.Signature

/-! ## What has been read -/

/-- The tokens of operands, nearest first, each with the arrow after it. -/
def arrowTokens : List Operand → List Token
  | [] => []
  | o :: before => arrowTokens before ++ (o.tokens ++ [.arrow])

/-- The tokens of components, nearest first, each with the comma after it. -/
def commaTokens : List Sig → List Token
  | [] => []
  | s :: before => commaTokens before ++ (s.tokens ++ [.comma])

/-- The tokens up to an open parenthesis and from there on. -/
def Opening.tokens : Opening → List Token
  | .group arrows => arrowTokens arrows ++ [.leftParen]
  | .apply arrows name done =>
    arrowTokens arrows ++ .name name :: .leftParen :: commaTokens done

/-- The tokens of what stands directly before the next token. -/
def Focus.tokens : Focus → List Token
  | .start => []
  | .name text => [.name text]
  | .operand o => o.tokens

/-- The tokens of open parentheses, innermost first. -/
def openingTokens : List Opening → List Token
  | [] => []
  | o :: outer => openingTokens outer ++ o.tokens

/-- The tokens that have been read. -/
def Reader.tokens (r : Reader) : List Token :=
  openingTokens r.openings ++ (arrowTokens r.arrows ++ r.focus.tokens)

theorem Sig.tokens_ofArrows (result : Sig) (arrows : List Operand) :
    (Sig.ofArrows result arrows).tokens = arrowTokens arrows ++ result.tokens := by
  induction arrows generalizing result with
  | nil => rfl
  | cons o before ih => simp [Sig.ofArrows, arrowTokens, ih, Sig.tokens]

theorem Args.tokens_ofReversed (last : Args) (done : List Sig) :
    (Args.ofReversed last done).tokens = commaTokens done ++ last.tokens := by
  induction done generalizing last with
  | nil => rfl
  | cons s before ih => simp [Args.ofReversed, commaTokens, ih, Args.tokens]

namespace Reader

variable {r r' : Reader} {t : Token} {s : Sig} {o : Operand}

theorem tokens_operand (h : r.operand? = some o) : o.tokens = r.focus.tokens := by
  unfold operand? at h
  cases hf : r.focus with
  | start => simp [hf] at h
  | name text =>
    simp only [hf, Option.some.injEq] at h
    rw [← h]
    rfl
  | operand o' =>
    simp only [hf, Option.some.injEq] at h
    rw [← h]
    rfl

theorem tokens_level (h : r.level? = some s) :
    s.tokens = arrowTokens r.arrows ++ r.focus.tokens := by
  obtain ⟨o, ho, rfl⟩ := Option.map_eq_some_iff.mp h
  rw [Sig.tokens_ofArrows, Sig.tokens, tokens_operand ho]

/-- A step reads its token and keeps those before it. -/
theorem tokens_step (h : r.step t = some r') : r'.tokens = r.tokens ++ [t] := by
  cases t with
  | name text =>
    simp only [step] at h
    split at h
    · next hf =>
      rw [← Option.some.inj h]
      simp [tokens, Focus.tokens, hf]
    · exact nomatch h
  | leftParen =>
    simp only [step] at h
    split at h
    · next hf =>
      rw [← Option.some.inj h]
      simp [tokens, openingTokens, Opening.tokens, arrowTokens, Focus.tokens, hf]
    · next text hf =>
      rw [← Option.some.inj h]
      simp [tokens, openingTokens, Opening.tokens, arrowTokens, commaTokens, Focus.tokens, hf]
    · exact nomatch h
  | rightParen =>
    obtain ⟨s, hs, h⟩ := Option.bind_eq_some_iff.mp h
    split at h
    · next arrows openings ho =>
      rw [← Option.some.inj h]
      simp [tokens, openingTokens, Opening.tokens, Focus.tokens, Operand.tokens, ho,
        tokens_level hs]
    · next arrows name done openings ho =>
      rw [← Option.some.inj h]
      simp [tokens, openingTokens, Opening.tokens, Focus.tokens, Operand.tokens, ho,
        Args.tokens_ofReversed, Args.tokens, tokens_level hs]
    · exact nomatch h
  | comma =>
    obtain ⟨s, hs, h⟩ := Option.bind_eq_some_iff.mp h
    split at h
    · next arrows name done openings ho =>
      rw [← Option.some.inj h]
      simp [tokens, openingTokens, Opening.tokens, arrowTokens, commaTokens, Focus.tokens, ho,
        tokens_level hs]
    · exact nomatch h
  | arrow =>
    obtain ⟨o, ho, h⟩ := Option.bind_eq_some_iff.mp h
    rw [← Option.some.inj h]
    simp [tokens, arrowTokens, Focus.tokens, tokens_operand ho]

theorem tokens_finish (h : r.finish? = some s) : s.tokens = r.tokens := by
  unfold finish? at h
  split at h
  · next ho => simp [tokens, openingTokens, ho, tokens_level h]
  · exact nomatch h

/-- Reads several tokens. -/
def reads (r : Reader) (ts : List Token) : Option Reader := ts.foldlM step r

theorem reads_append (r : Reader) (ts us : List Token) :
    r.reads (ts ++ us) = (r.reads ts).bind (·.reads us) := List.foldlM_append

theorem reads_cons (r : Reader) (t : Token) (ts : List Token) :
    r.reads (t :: ts) = (r.step t).bind (·.reads ts) := List.foldlM_cons

/-- Reads tokens, one more token, and on from there. -/
theorem reads_token {r₁ r₂ : Reader} {ts us : List Token} (h : r.reads ts = some r₁)
    (ht : r₁.step t = some r₂) : r.reads (ts ++ t :: us) = r₂.reads us := by
  rw [reads_append, h, Option.bind_some, reads_cons, ht, Option.bind_some]

/-- A reader has read what it started with and the tokens since. -/
theorem tokens_reads {ts : List Token} (h : r.reads ts = some r') :
    r'.tokens = r.tokens ++ ts := by
  induction ts generalizing r with
  | nil =>
    rw [← Option.some.inj h]
    simp
  | cons t ts ih =>
    rw [reads_cons] at h
    obtain ⟨r₁, h₁, h⟩ := Option.bind_eq_some_iff.mp h
    rw [ih h, tokens_step h₁]
    simp

end Reader

/-! ## Signatures are read -/

/-- A reader that meets the start of an operand or of a type. -/
def Reader.fresh (openings : List Opening) (arrows : List Operand) : Reader := { openings, arrows }

-- The three parts of the grammar, each read from any point at which it may start.
mutual

theorem Sig.exists_reads : ∀ (s : Sig) (openings : List Opening) (arrows : List Operand),
    ∃ r, (Reader.fresh openings arrows).reads s.tokens = some r ∧ r.openings = openings ∧
      r.level? = some (s.ofArrows arrows)
  | .operand o, openings, arrows => by
    obtain ⟨r, hr, ho, ha, hop⟩ := o.exists_reads openings arrows
    refine ⟨r, hr, ho, ?_⟩
    rw [Reader.level?, hop, ha]
    rfl
  | .arrow arg result, openings, arrows => by
    obtain ⟨r, hr, ho, ha, hop⟩ := arg.exists_reads openings arrows
    obtain ⟨r', hr', ho', hl'⟩ := result.exists_reads openings (arg :: arrows)
    have hstep : r.step .arrow = some (.fresh openings (arg :: arrows)) := by
      simp [Reader.step, hop, ho, ha, Reader.fresh]
    refine ⟨r', ?_, ho', hl'⟩
    rw [Sig.tokens, Reader.reads_token hr hstep, hr']

theorem Operand.exists_reads : ∀ (o : Operand) (openings : List Opening) (arrows : List Operand),
    ∃ r, (Reader.fresh openings arrows).reads o.tokens = some r ∧ r.openings = openings ∧
      r.arrows = arrows ∧ r.operand? = some o
  | .name text, openings, arrows => ⟨_, rfl, rfl, rfl, rfl⟩
  | .apply name args, openings, arrows => by
    obtain ⟨r, hr, done, s, ho, hl, hargs⟩ := args.exists_reads arrows name openings []
    have hstep : r.step .rightParen =
        some { openings, arrows, focus := .operand (.apply name args) } := by
      simp [Reader.step, hl, ho, hargs, Args.ofReversed]
    refine ⟨{ openings, arrows, focus := .operand (.apply name args) }, ?_, rfl, rfl, rfl⟩
    exact Reader.reads_token hr hstep
  | .group s, openings, arrows => by
    obtain ⟨r, hr, ho, hl⟩ := s.exists_reads (.group arrows :: openings) []
    have hstep : r.step .rightParen =
        some { openings, arrows, focus := .operand (.group s) } := by
      simp [Reader.step, hl, ho, Sig.ofArrows]
    refine ⟨{ openings, arrows, focus := .operand (.group s) }, ?_, rfl, rfl, rfl⟩
    exact Reader.reads_token hr hstep

theorem Args.exists_reads : ∀ (args : Args) (arrows : List Operand) (name : String)
    (openings : List Opening) (done : List Sig),
    ∃ r, (Reader.fresh (.apply arrows name done :: openings) []).reads args.tokens = some r ∧
      ∃ done' s, r.openings = .apply arrows name done' :: openings ∧ r.level? = some s ∧
        Args.ofReversed (.one s) done' = args.ofReversed done
  | .one s, arrows, name, openings, done => by
    obtain ⟨r, hr, ho, hl⟩ := s.exists_reads (.apply arrows name done :: openings) []
    exact ⟨r, hr, done, s, ho, hl, rfl⟩
  | .more s rest, arrows, name, openings, done => by
    obtain ⟨r, hr, ho, hl⟩ := s.exists_reads (.apply arrows name done :: openings) []
    obtain ⟨r', hr', h'⟩ := rest.exists_reads arrows name openings (s :: done)
    have hstep : r.step .comma = some (.fresh (.apply arrows name (s :: done) :: openings) []) := by
      simp [Reader.step, hl, ho, Sig.ofArrows, Reader.fresh]
    refine ⟨r', ?_, h'⟩
    rw [Args.tokens, Reader.reads_token hr hstep, hr']

end

/-- The tokens of a signature are read, and it is what has been read then. -/
theorem Sig.reads_tokens (s : Sig) :
    ∃ r, Reader.reads {} s.tokens = some r ∧ r.finish? = some s := by
  obtain ⟨r, hr, ho, hl⟩ := s.exists_reads [] []
  refine ⟨r, hr, ?_⟩
  rw [Reader.finish?, ho]
  exact hl

/-- What is complete after tokens have been read is the signature of which they are the tokens. -/
theorem reads_finish_iff {ts : List Token} {s : Sig} :
    (∃ r, Reader.reads {} ts = some r ∧ r.finish? = some s) ↔ s.tokens = ts := by
  constructor
  · rintro ⟨r, hr, hs⟩
    rw [Reader.tokens_finish hs, Reader.tokens_reads hr]
    rfl
  · rintro rfl
    exact s.reads_tokens

/-- A list of tokens is written by one signature at most. -/
theorem Sig.tokens_injective : Function.Injective Sig.tokens := by
  intro s s' h
  obtain ⟨r, hr, hs⟩ := s.reads_tokens
  obtain ⟨r', hr', hs'⟩ := s'.reads_tokens
  rw [← h, hr, Option.some.injEq] at hr'
  rw [← hr', hs] at hs'
  exact Option.some.inj hs'

/-! ## Texts of signatures -/

theorem Reader.run_eq_ok_iff {r : Reader} {last : Place} {stray : Option (Char × Place)}
    {tokens : List (Token × Place)} {s : Sig} :
    r.run last stray tokens = .ok s ↔
      stray = none ∧ ∃ r', r.reads (tokens.map Prod.fst) = some r' ∧ r'.finish? = some s := by
  induction tokens generalizing r last with
  | nil =>
    cases stray with
    | some c => simp [Reader.run]
    | none =>
      rw [Reader.run]
      cases h : r.finish? <;> simp [Reader.reads, h]
  | cons p rest ih =>
    rw [Reader.run, List.map_cons, Reader.reads_cons]
    cases h : r.step p.1 with
    | none => simp
    | some r₁ => exact ih

/-- The text splits into the tokens of the signature. -/
def Spells (text : String) (s : Sig) : Prop := Lexes text.toList s.tokens

/-- A text splits in one way only, so it spells one signature at most. -/
theorem Spells.unique {text : String} {s s' : Sig} (h : Spells text s) (h' : Spells text s') :
    s' = s := by
  have hs : (scan {} text.toList).kinds = s.tokens := (Lexes.scan_eq h {}).2
  have hs' : (scan {} text.toList).kinds = s'.tokens := (Lexes.scan_eq h' {}).2
  exact Sig.tokens_injective (hs'.symm.trans hs)

/-- A text is read as the signature that it spells. -/
theorem parse_eq_ok_iff {text : String} {s : Sig} : parse text = .ok s ↔ Spells text s := by
  unfold parse Spells
  rw [Reader.run_eq_ok_iff, reads_finish_iff, ← scan_eq_iff_lexes {}, eq_comm (a := s.tokens)]
  rfl

end LetPoly.Signature
