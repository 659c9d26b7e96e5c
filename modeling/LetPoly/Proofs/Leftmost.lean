import LetPoly.Proofs.Denotation
import LetPoly.Proofs.Letters

/-!
# Where reading stops

A list of tokens is *viable* when some signature starts with it. Reading goes on as long as the
tokens are viable and no longer, so the problem that is reported is the leftmost one: everything
before it could still become a signature, and with it nothing can.

* `Viable`, `reads_isSome_iff` — a reader has read exactly the viable lists
* `scan_append` — a text that is cut where no name is cut is scanned part by part
* `Place.following` — places counted in the text, newlines for lines
* `Leftmost` — the problem of a text, said without reader and scanner
* `parse_eq_error_iff` — the problem that is reported is the leftmost one
-/

namespace LetPoly.Signature

variable {t : Token} {ts : List Token} {before rest word cs : List Char} {c : Char}

/-! ## Texts that are cut into parts -/

/-- No name goes on from the one text into the other. -/
def Apart (before rest : List Char) : Prop :=
  ∀ c ∈ before.getLast?, isNameChar c = true → EndsName rest

theorem apart_nil (rest : List Char) : Apart [] rest := nofun

/-- Only the last character counts. -/
theorem apart_append (before : List Char) (hne : cs ≠ []) :
    Apart (before ++ cs) rest ↔ Apart cs rest := by
  unfold Apart
  rw [List.getLast?_append_of_ne_nil _ hne]

theorem Apart.of_append (h : Apart (before ++ cs) rest) : Apart cs rest := by
  by_cases hne : cs = []
  · rw [hne]
    exact apart_nil rest
  · exact (apart_append _ hne).mp h

/-- A name is apart from what does not go on with a name, and from nothing else. -/
theorem apart_name (hc : isNameStart c = true) (hword : ∀ d ∈ word, isNameChar d = true) :
    Apart (c :: word) rest ↔ EndsName rest := by
  have hall : ∀ d ∈ c :: word, isNameChar d = true :=
    List.forall_mem_cons.mpr ⟨by simp [isNameChar, hc], hword⟩
  constructor
  · intro h
    have hne : c :: word ≠ [] := List.cons_ne_nil c word
    exact h _ (List.getLast_mem_getLast? hne) (hall _ (List.getLast_mem hne))
  · exact fun h _ _ _ => h

/-- No name goes on behind a blank. -/
theorem isNameChar_of_isBlank (hc : isBlank c = true) : isNameChar c = false := by
  have hstart : isNameStart c = false := by
    cases h : isNameStart c with
    | false => rfl
    | true => simp [isBlank_of_isNameStart h] at hc
  have hdigit : c.isDigit = false := by
    simp only [isBlank, Bool.or_eq_true, decide_eq_true_eq] at hc
    rcases hc with (((rfl | rfl) | rfl) | rfl) | h
    case inr =>
      rw [← Char.ofNat_toNat c, h]
      decide
    all_goals decide
  simp [isNameChar, hstart, hdigit]

theorem Apart.blank (hc : isBlank c = true) (h : Apart before rest) : Apart (c :: before) rest := by
  by_cases hne : before = []
  · intro d hd hname
    obtain rfl : c = d := by simpa [hne] using hd
    rw [isNameChar_of_isBlank hc] at hname
    cases hname
  · exact (apart_append [c] hne).mpr h

/-- What is apart from a text is apart from it also with more behind it. -/
theorem Apart.append (h : Apart before cs) (hrest : Apart (before ++ cs) rest) :
    Apart before (cs ++ rest) := by
  cases cs with
  | nil => simpa using hrest
  | cons d cs => exact h

/-- The token is one that its text stands for. -/
def Token.Spelled : Token → Prop
  | .name x => IsName x
  | _ => True

theorem Token.Spelled.text_ne_nil (ht : t.Spelled) : t.text.toList ≠ [] := by
  cases t with
  | name x =>
    obtain ⟨c, word, hx, _⟩ := ht
    simp [Token.text, hx]
  | leftParen | rightParen | comma | arrow => simp [Token.text]

/-- A token other than a name is apart from whatever follows. -/
theorem Token.apart_symbol (ht : ∀ x, t ≠ .name x) (rest : List Char) :
    Apart t.text.toList rest := by
  intro c hc hname
  cases t with
  | name x => exact absurd rfl (ht x)
  | leftParen | rightParen | comma | arrow =>
    rw [← Option.some.inj hc] at hname
    exact absurd hname (by decide)

theorem Lexes.token (ht : t.Spelled) (h : Apart t.text.toList cs) (hcs : Lexes cs ts) :
    Lexes (t.text.toList ++ cs) (t :: ts) := by
  cases t with
  | name x =>
    obtain ⟨c, word, hx, hc, hword⟩ := ht
    rw [Token.text, hx] at h ⊢
    have hname := Lexes.name hc hword ((apart_name hc hword).mp h) hcs
    rwa [← hx, String.ofList_toList] at hname
  | leftParen => exact .leftParen hcs
  | rightParen => exact .rightParen hcs
  | comma => exact .comma hcs
  | arrow => exact .arrow hcs

/-- To show something of all texts that split into tokens, show it of texts with a blank in front
and of texts with a token in front. -/
@[elab_as_elim]
theorem Lexes.induct_token {motive : List Char → List Token → Prop} (nil : motive [] [])
    (blank : ∀ c cs ts, isBlank c = true → motive cs ts → motive (c :: cs) ts)
    (token : ∀ t cs ts, t.Spelled → Apart t.text.toList cs → motive cs ts →
      motive (t.text.toList ++ cs) (t :: ts))
    (h : Lexes cs ts) : motive cs ts := by
  induction h with
  | nil => exact nil
  | blank hc _ ih => exact blank _ _ _ hc ih
  | @name c word cs ts hc hword hcs _ ih =>
    obtain ⟨x, hx⟩ : ∃ x, x = String.ofList (c :: word) := ⟨_, rfl⟩
    have htext : x.toList = c :: word := by rw [hx, String.toList_ofList]
    have hapart : Apart x.toList cs := by
      rw [htext]
      exact (apart_name hc hword).mpr hcs
    have hname := token (.name x) cs ts ⟨c, word, htext, hc, hword⟩ hapart ih
    rwa [Token.text, htext, hx] at hname
  | leftParen _ ih => exact token .leftParen _ _ trivial (Token.apart_symbol (by simp) _) ih
  | rightParen _ ih => exact token .rightParen _ _ trivial (Token.apart_symbol (by simp) _) ih
  | comma _ ih => exact token .comma _ _ trivial (Token.apart_symbol (by simp) _) ih
  | arrow _ ih => exact token .arrow _ _ trivial (Token.apart_symbol (by simp) _) ih

/-! ## Scanning part by part -/

theorem afterAll_append (p : Place) (cs ds : List Char) :
    p.afterAll (cs ++ ds) = (p.afterAll cs).afterAll ds := List.foldl_append

/-- A token that stands in front of a text is the first one. -/
theorem scan_token (ht : t.Spelled) (h : Apart t.text.toList rest) (p : Place) :
    scan p (t.text.toList ++ rest) = (scan (p.afterAll t.text.toList) rest).cons t p := by
  cases t with
  | name x =>
    obtain ⟨c, word, hx, hc, hword⟩ := ht
    rw [Token.text, hx] at h ⊢
    rw [List.cons_append, scan_name p hc hword ((apart_name hc hword).mp h), ← hx,
      String.ofList_toList]
  | leftParen | rightParen | comma | arrow =>
    rw [scan.eq_def]
    rfl

/-- The tokens of a first part in front of those of the rest. -/
def Scan.behind (tokens : List (Token × Place)) (s : Scan) : Scan :=
  { s with tokens := tokens ++ s.tokens }

/-- A text that is cut where no name is cut is scanned part by part. -/
theorem scan_append (h : Lexes before ts) : ∀ p, Apart before rest →
    scan p (before ++ rest) = (scan (p.afterAll before) rest).behind (scan p before).tokens := by
  refine h.induct_token ?nil ?blank ?token
  case nil =>
    intro p _
    rw [scan]
    rfl
  case blank =>
    intro c cs _ hc ih p hapart
    rw [List.cons_append, scan_blank p hc, scan_blank p hc,
      ih _ (Apart.of_append (show Apart ([c] ++ cs) rest from hapart))]
    rfl
  case token =>
    intro t cs _ ht h ih p hapart
    rw [List.append_assoc, scan_token ht (h.append hapart), scan_token ht h, ih _ hapart.of_append,
      afterAll_append]
    rfl

/-! ## Lists of tokens that can become signatures -/

/-- A text that is a signature starts with the tokens. -/
def Viable (ts : List Token) : Prop := ∃ text sig, Spells text sig ∧ ts <+: sig.tokens

namespace Reader

/-- A reader that stands behind an operand is brought to its end by closing what is open. -/
theorem exists_close (openings : List Opening) : ∀ (arrows : List Operand) (focus : Focus),
    focus ≠ .start → ∃ n r s,
      reads { openings, arrows, focus } (List.replicate n .rightParen) = some r ∧
        r.finish? = some s := by
  induction openings with
  | nil =>
    intro arrows focus hfocus
    cases focus with
    | start => exact absurd rfl hfocus
    | name text => exact ⟨0, _, _, rfl, rfl⟩
    | operand o => exact ⟨0, _, _, rfl, rfl⟩
  | cons opening openings ih =>
    intro arrows focus hfocus
    have hstep : ∃ arrows' o, step { openings := opening :: openings, arrows, focus } .rightParen =
        some { openings, arrows := arrows', focus := .operand o } := by
      cases focus with
      | start => exact absurd rfl hfocus
      | name text => cases opening <;> exact ⟨_, _, rfl⟩
      | operand o => cases opening <;> exact ⟨_, _, rfl⟩
    obtain ⟨arrows', o, hstep⟩ := hstep
    obtain ⟨n, r, s, hreads, hs⟩ := ih arrows' (.operand o) nofun
    refine ⟨n + 1, r, s, ?_, hs⟩
    rw [List.replicate_succ, reads_cons, hstep, Option.bind_some, hreads]

/-- What has been read can be completed, by one more name if there is no operand yet. -/
theorem exists_completion (r : Reader) :
    ∃ us r' s, r.reads us = some r' ∧ r'.finish? = some s ∧ ∀ t ∈ us, t.Spelled := by
  obtain ⟨openings, arrows, focus⟩ := r
  have hclose : ∀ n, ∀ t ∈ List.replicate n Token.rightParen, t.Spelled := by
    intro n t ht
    rw [(List.mem_replicate.mp ht).2]
    trivial
  cases focus with
  | start =>
    obtain ⟨n, r, s, hreads, hs⟩ := exists_close openings arrows (.name "a") nofun
    refine ⟨.name "a" :: List.replicate n .rightParen, r, s, ?_, hs, ?_⟩
    · rw [reads_cons]
      exact hreads
    · exact List.forall_mem_cons.mpr ⟨isName_of_isVariableName (by decide), hclose n⟩
  | name text =>
    obtain ⟨n, r, s, hreads, hs⟩ := exists_close openings arrows (.name text) nofun
    exact ⟨_, r, s, hreads, hs, hclose n⟩
  | operand o =>
    obtain ⟨n, r, s, hreads, hs⟩ := exists_close openings arrows (.operand o) nofun
    exact ⟨_, r, s, hreads, hs, hclose n⟩

end Reader

/-- The tokens with a blank after each. -/
def spaced (ts : List Token) : List Char := ts.flatMap fun t => t.text.toList ++ [' ']

theorem lexes_spaced (h : ∀ t ∈ ts, t.Spelled) : Lexes (spaced ts) ts := by
  induction ts with
  | nil => exact .nil
  | cons t ts ih =>
    obtain ⟨ht, hts⟩ := List.forall_mem_cons.mp h
    have hrest : Lexes (' ' :: spaced ts) ts := .blank (by decide) (ih hts)
    have hcons : spaced (t :: ts) = t.text.toList ++ ' ' :: spaced ts := by simp [spaced]
    have hblank : EndsName (' ' :: spaced ts) := by simp [EndsName]; decide
    rw [hcons]
    exact hrest.token ht fun _ _ _ => hblank

/-- A reader has read exactly the tokens with which a signature can start. -/
theorem reads_isSome_iff (h : ∀ t ∈ ts, t.Spelled) :
    (∃ r, Reader.reads {} ts = some r) ↔ Viable ts := by
  constructor
  · rintro ⟨r, hr⟩
    obtain ⟨us, r', s, hus, hs, hspelled⟩ := r.exists_completion
    have hreads : Reader.reads {} (ts ++ us) = some r' := by
      rw [Reader.reads_append, hr, Option.bind_some, hus]
    have htokens : s.tokens = ts ++ us := reads_finish_iff.mp ⟨r', hreads, hs⟩
    have hall : ∀ t ∈ ts ++ us, t.Spelled := by
      intro t ht
      rcases List.mem_append.mp ht with ht | ht
      · exact h t ht
      · exact hspelled t ht
    refine ⟨String.ofList (spaced (ts ++ us)), s, ?_, htokens ▸ List.prefix_append ts us⟩
    unfold Spells
    rw [String.toList_ofList, htokens]
    exact lexes_spaced hall
  · rintro ⟨_, s, _, us, hus⟩
    obtain ⟨r, hr, _⟩ := s.reads_tokens
    rw [← hus, Reader.reads_append] at hr
    obtain ⟨r₁, hr₁, _⟩ := Option.bind_eq_some_iff.mp hr
    exact ⟨r₁, hr₁⟩

/-! ## Places -/

/-- The place that follows a text: its line is one more than the newlines before it, and its column
one more than the characters since the last of them. -/
def Place.following (before : List Char) : Place where
  line := before.count '\n' + 1
  column := (before.reverse.takeWhile (· ≠ '\n')).length + 1

theorem afterAll_start (before : List Char) : Place.afterAll {} before = .following before := by
  induction before using List.reverseRecOn with
  | nil => rfl
  | append_singleton before c ih =>
    rw [afterAll_append, ih]
    by_cases hc : c = '\n' <;> simp [Place.afterAll, Place.after, Place.following, hc]

/-! ## Problems of texts -/

/-- In the text the token `t` stands at the place, behind the tokens `ts`. -/
def StandsAt (text : List Char) (ts : List Token) (t : Token) (place : Place) : Prop :=
  ∃ before after, text = before ++ (t.text.toList ++ after) ∧ Lexes before ts ∧
    Apart before (t.text.toList ++ after) ∧ t.Spelled ∧ Apart t.text.toList after ∧
    place = .following before

/-- No token starts with the text. -/
def StartsNone (rest : List Char) : Prop := ∀ t : Token, t.Spelled → ¬ t.text.toList <+: rest

/-- The problem is the leftmost one of the text. Before it stand tokens that can become a signature.
It is a token with which they no longer can, or a character that starts no token and is no blank, or
the end of the text, where they are none yet. -/
def Leftmost (text : String) : Problem → Prop
  | .token t place => ∃ ts, StandsAt text.toList ts t place ∧ Viable ts ∧ ¬ Viable (ts ++ [t])
  | .stray c place => ∃ ts before after, text.toList = before ++ c :: after ∧ Lexes before ts ∧
      Apart before (c :: after) ∧ isBlank c = false ∧ StartsNone (c :: after) ∧
      place = .following before ∧ Viable ts
  | .ending place => ∃ ts, Lexes text.toList ts ∧ Viable ts ∧ (∀ sig : Sig, sig.tokens ≠ ts) ∧
      ((ts = [] ∧ place = ⟨1, 1⟩) ∨ ∃ ts' t, ts = ts' ++ [t] ∧ StandsAt text.toList ts' t place)

/-! ### Every text that is no signature has one -/

theorem Lexes.spelled (h : Lexes cs ts) : ∀ t ∈ ts, t.Spelled := by
  refine h.induct_token nofun (fun _ _ _ _ ih => ih) ?token
  intro t cs ts ht _ ih
  exact List.forall_mem_cons.mpr ⟨ht, ih⟩

/-- What is apart from a text is apart from the beginning of it. -/
theorem Apart.of_append_right (h : Apart before (cs ++ rest)) : Apart before cs := by
  intro c hc hname
  have hends := h c hc hname
  cases cs with
  | nil => exact nofun
  | cons d cs => exact hends

/-- One more token in front of what has been cut. -/
theorem Lexes.cut_token (ht : t.Spelled) (h : Apart t.text.toList (before ++ rest))
    (hbefore : Lexes before ts) (hapart : Apart before rest) :
    Lexes (t.text.toList ++ before) (t :: ts) ∧ Apart (t.text.toList ++ before) rest := by
  refine ⟨hbefore.token ht h.of_append_right, ?_⟩
  by_cases hne : before = []
  · simpa [hne] using h
  · exact (apart_append _ hne).mpr hapart

/-- What a text can start with. -/
theorem text_cases (cs : List Char) : cs = [] ∨
    (∃ c rest, cs = c :: rest ∧ isBlank c = true) ∨
    (∃ (t : Token) (rest : List Char), cs = t.text.toList ++ rest ∧ t.Spelled ∧
      Apart t.text.toList rest) ∨
    ∃ c rest, cs = c :: rest ∧ isBlank c = false ∧ StartsNone cs := by
  cases cs with
  | nil => exact .inl rfl
  | cons c cs =>
    refine .inr ?_
    cases hblank : isBlank c with
    | true => exact .inl ⟨c, cs, rfl, hblank⟩
    | false =>
      refine .inr ?_
      by_cases hstart : StartsNone (c :: cs)
      · exact .inr ⟨c, cs, rfl, hblank, hstart⟩
      · refine .inl ?_
        simp only [StartsNone, not_forall, not_not] at hstart
        obtain ⟨t, ht, rest, hrest⟩ := hstart
        cases t with
        | name x =>
          -- the name is taken as long as possible
          obtain ⟨d, word, hx, hd, _⟩ := ht
          rw [Token.text, hx] at hrest
          obtain ⟨rfl, _⟩ := List.cons.inj hrest
          have hword : ∀ e ∈ cs.takeWhile isNameChar, isNameChar e = true :=
            List.all_eq_true.mp List.all_takeWhile
          refine ⟨.name (String.ofList (d :: cs.takeWhile isNameChar)), cs.dropWhile isNameChar,
            ?_, ⟨d, _, String.toList_ofList, hd, hword⟩, ?_⟩
          · simp [Token.text]
          · rw [Token.text, String.toList_ofList, apart_name hd hword]
            exact endsName_dropWhile cs
        | leftParen => exact ⟨.leftParen, rest, hrest.symm, ht, Token.apart_symbol (by simp) _⟩
        | rightParen => exact ⟨.rightParen, rest, hrest.symm, ht, Token.apart_symbol (by simp) _⟩
        | comma => exact ⟨.comma, rest, hrest.symm, ht, Token.apart_symbol (by simp) _⟩
        | arrow => exact ⟨.arrow, rest, hrest.symm, ht, Token.apart_symbol (by simp) _⟩

/-- A text splits into tokens up to its end or up to a character that starts none. -/
theorem exists_cut (cs : List Char) : ∃ before rest ts, cs = before ++ rest ∧ Lexes before ts ∧
    Apart before rest ∧
    (rest = [] ∨ ∃ c after, rest = c :: after ∧ isBlank c = false ∧ StartsNone rest) := by
  induction hn : cs.length using Nat.strongRecOn generalizing cs with
  | ind n ih =>
    rcases text_cases cs with rfl | ⟨c, cs, rfl, hc⟩ | ⟨t, cs, rfl, ht, hcs⟩ | hstray
    · exact ⟨[], [], [], rfl, .nil, apart_nil _, .inl rfl⟩
    · rw [List.length_cons] at hn
      obtain ⟨before, rest, ts, rfl, hbefore, hapart, hrest⟩ := ih cs.length (by omega) cs rfl
      exact ⟨c :: before, rest, ts, rfl, .blank hc hbefore, hapart.blank hc, hrest⟩
    · have hpos := List.length_pos_iff.mpr ht.text_ne_nil
      rw [List.length_append] at hn
      obtain ⟨before, rest, ts, rfl, hbefore, hapart, hrest⟩ := ih cs.length (by omega) cs rfl
      obtain ⟨hlexes, hapart⟩ := hbefore.cut_token ht hcs hapart
      exact ⟨_, rest, _, (List.append_assoc ..).symm, hlexes, hapart, hrest⟩
    · obtain ⟨c, rest, rfl, hblank, hstart⟩ := hstray
      exact ⟨[], c :: rest, [], rfl, .nil, apart_nil _, .inr ⟨c, rest, rfl, hblank, hstart⟩⟩

/-- A token of a part of a text stands in the text. -/
theorem Lexes.exists_standsAt (h : Lexes cs ts) : ∀ pre post, ts = pre ++ t :: post →
    Apart cs rest → ∃ place, StandsAt (cs ++ rest) pre t place := by
  refine h.induct_token ?nil ?blank ?token
  case nil =>
    intro pre post heq
    simp at heq
  case blank =>
    intro c cs ts hc ih pre post heq hapart
    obtain ⟨_, before, after, hcs, hbefore, hb, ht, ha, rfl⟩ :=
      ih pre post heq (Apart.of_append (show Apart ([c] ++ cs) rest from hapart))
    exact ⟨_, c :: before, after, by simp [hcs], .blank hc hbefore, hb.blank hc, ht, ha, rfl⟩
  case token =>
    intro u cs ts hu hcs ih pre post heq hapart
    cases pre with
    | nil =>
      obtain ⟨rfl, rfl⟩ := List.cons.inj heq
      exact ⟨_, [], cs ++ rest, by simp, .nil, apart_nil _, hu, hcs.append hapart, rfl⟩
    | cons u' pre =>
      obtain ⟨rfl, htail⟩ := List.cons.inj heq
      obtain ⟨_, before, after, htext, hbefore, hb, ht, ha, rfl⟩ :=
        ih pre post htail hapart.of_append
      have hcs' := hcs.append hapart
      rw [htext] at hcs'
      obtain ⟨hlexes, hb⟩ := hbefore.cut_token hu hcs' hb
      exact ⟨_, u.text.toList ++ before, after, by simp [htext], hlexes, hb, ht, ha, rfl⟩

theorem viable_nil : Viable [] :=
  (reads_isSome_iff (by simp)).mp ⟨_, rfl⟩

/-- Where a list of tokens stops being viable. -/
theorem exists_last_viable (h : ¬ Viable ts) :
    ∃ pre t post, ts = pre ++ t :: post ∧ Viable pre ∧ ¬ Viable (pre ++ [t]) := by
  induction ts using List.reverseRecOn with
  | nil => exact absurd viable_nil h
  | append_singleton ts t ih =>
    by_cases hts : Viable ts
    · exact ⟨ts, t, [], rfl, hts, h⟩
    · obtain ⟨pre, u, post, rfl, hpre, hu⟩ := ih hts
      exact ⟨pre, u, post ++ [t], by simp, hpre, hu⟩

theorem exists_leftmost {text : String} (h : ∀ sig, ¬ Spells text sig) :
    ∃ problem, Leftmost text problem := by
  obtain ⟨before, rest, ts, htext, hbefore, hapart, hrest⟩ := exists_cut text.toList
  by_cases hviable : Viable ts
  · rcases hrest with rfl | ⟨c, after, rfl, hblank, hstart⟩
    · -- the text stops too early
      rw [List.append_nil] at htext
      have hincomplete : ∀ sig : Sig, sig.tokens ≠ ts := by
        rintro sig rfl
        refine h sig ?_
        rw [Spells, htext]
        exact hbefore
      rcases List.eq_nil_or_concat ts with rfl | ⟨ts', t, rfl⟩
      · exact ⟨.ending ⟨1, 1⟩, [], htext ▸ hbefore, hviable, hincomplete, .inl ⟨rfl, rfl⟩⟩
      · rw [List.concat_eq_append] at hbefore hviable hincomplete
        obtain ⟨place, hplace⟩ := hbefore.exists_standsAt ts' [] rfl hapart
        rw [List.append_nil] at hplace
        exact ⟨.ending place, _, htext ▸ hbefore, hviable, hincomplete,
          .inr ⟨ts', t, rfl, htext ▸ hplace⟩⟩
    · exact ⟨.stray c (.following before), ts, before, after, htext, hbefore, hapart, hblank,
        hstart, rfl, hviable⟩
  · obtain ⟨pre, t, post, heq, hpre, ht⟩ := exists_last_viable hviable
    obtain ⟨place, hplace⟩ := hbefore.exists_standsAt pre post heq hapart
    exact ⟨.token t place, pre, htext ▸ hplace, hpre, ht⟩

/-! ### It is reported -/

/-- The first thing in a text that starts with neither a blank nor a token is a stray character. -/
theorem scan_stray (hblank : isBlank c = false) (h : StartsNone (c :: rest)) (p : Place) :
    scan p (c :: rest) = { stray := some (c, p) } := by
  have hname : isNameStart c = false := by
    cases hc : isNameStart c with
    | false => rfl
    | true =>
      have ht : (Token.name (String.ofList [c])).Spelled := ⟨c, [], String.toList_ofList, hc, nofun⟩
      refine absurd ?_ (h _ ht)
      rw [Token.text, String.toList_ofList]
      exact List.prefix_append [c] rest
  have hleft : c ≠ '(' := by
    rintro rfl
    exact h .leftParen trivial (List.prefix_append ['('] rest)
  have hright : c ≠ ')' := by
    rintro rfl
    exact h .rightParen trivial (List.prefix_append [')'] rest)
  have hcomma : c ≠ ',' := by
    rintro rfl
    exact h .comma trivial (List.prefix_append [','] rest)
  rw [scan.eq_def]
  simp only [hblank, hname, hleft, hright, hcomma, reduceIte, Bool.false_eq_true]
  split
  · next rest => exact absurd (List.prefix_append ['-', '>'] rest) (h .arrow trivial)
  · rfl

theorem StandsAt.scan_eq {text : List Char} {place : Place} (h : StandsAt text ts t place) :
    ∃ tokens after, (scan {} text).tokens = tokens ++ (t, place) :: after ∧
      tokens.map Prod.fst = ts := by
  obtain ⟨before, after, rfl, hbefore, hb, ht, ha, rfl⟩ := h
  refine ⟨(scan {} before).tokens,
    (scan ((Place.following before).afterAll t.text.toList) after).tokens, ?_,
    (hbefore.scan_eq {}).2⟩
  rw [scan_append hbefore {} hb, scan_token ht ha, afterAll_start]
  rfl

/-- Behind tokens that can be read, reading goes on from there. -/
theorem Reader.run_append {r r' : Reader} {tokens : List (Token × Place)}
    (h : r.reads (tokens.map Prod.fst) = some r') (last : Place) (stray : Option (Char × Place))
    (rest : List (Token × Place)) :
    r.run last stray (tokens ++ rest) =
      r'.run ((tokens.getLast?.map Prod.snd).getD last) stray rest := by
  induction tokens generalizing r last with
  | nil =>
    obtain rfl := Option.some.inj h
    rfl
  | cons p tokens ih =>
    rw [List.map_cons, reads_cons] at h
    obtain ⟨r₁, h₁, h⟩ := Option.bind_eq_some_iff.mp h
    rw [List.cons_append, run, h₁]
    simp only
    rw [ih h]
    cases tokens with
    | nil => rfl
    | cons q tokens =>
      obtain ⟨e, he⟩ : ∃ e, (q :: tokens).getLast? = some e :=
        ⟨_, List.getLast?_eq_some_getLast (List.cons_ne_nil q tokens)⟩
      rw [List.getLast?_cons_cons, he]
      rfl

/-- Tokens that are viable no longer are refused at the last of them. -/
theorem Reader.step_eq_none {r : Reader} (hr : Reader.reads {} ts = some r)
    (hspelled : ∀ u ∈ ts ++ [t], u.Spelled) (h : ¬ Viable (ts ++ [t])) : r.step t = none := by
  cases hstep : r.step t with
  | none => rfl
  | some r' =>
    refine absurd ((reads_isSome_iff hspelled).mp ⟨r', ?_⟩) h
    rw [reads_token hr hstep]
    rfl

/-- The place that is reported for the end of a text. -/
theorem last_place {text : List Char} {place : Place} (h : (scan {} text).kinds = ts)
    (hplace : (ts = [] ∧ place = ⟨1, 1⟩) ∨ ∃ ts' t, ts = ts' ++ [t] ∧ StandsAt text ts' t place) :
    ((scan {} text).tokens.getLast?.map Prod.snd).getD {} = place := by
  rcases hplace with ⟨rfl, rfl⟩ | ⟨ts', t, rfl, hstands⟩
  · have htokens : (scan {} text).tokens = [] := List.map_eq_nil_iff.mp h
    rw [htokens]
    rfl
  · obtain ⟨tokens, after, htokens, rfl⟩ := hstands.scan_eq
    have hafter : after = [] := by
      rw [Scan.kinds, htokens] at h
      simpa using h
    simp [htokens, hafter]

theorem Leftmost.parse_eq {text : String} {problem : Problem} (h : Leftmost text problem) :
    parse text = .error problem := by
  unfold parse
  cases problem with
  | token t place =>
    obtain ⟨ts, hstands, hviable, hnot⟩ := h
    have hspelled : ∀ u ∈ ts ++ [t], u.Spelled := by
      obtain ⟨before, after, _, hbefore, _, ht, _⟩ := hstands
      exact List.forall_mem_append.mpr ⟨hbefore.spelled, List.forall_mem_singleton.mpr ht⟩
    obtain ⟨tokens, after, htokens, hts⟩ := hstands.scan_eq
    obtain ⟨r, hr⟩ := (reads_isSome_iff (List.forall_mem_append.mp hspelled).1).mpr hviable
    simp only [htokens]
    rw [Reader.run_append (hts ▸ hr), Reader.run, Reader.step_eq_none hr hspelled hnot]
  | stray c place =>
    obtain ⟨ts, before, after, htext, hbefore, hapart, hblank, hnone, rfl, hviable⟩ := h
    obtain ⟨r, hr⟩ := (reads_isSome_iff hbefore.spelled).mpr hviable
    have hkinds : (scan {} before).tokens.map Prod.fst = ts := (hbefore.scan_eq {}).2
    rw [htext, scan_append hbefore {} hapart, scan_stray hblank hnone, afterAll_start]
    exact Reader.run_append (hkinds ▸ hr) _ _ []
  | ending place =>
    obtain ⟨ts, htext, hviable, hincomplete, hplace⟩ := h
    obtain ⟨r, hr⟩ := (reads_isSome_iff htext.spelled).mpr hviable
    obtain ⟨hstray, hkinds⟩ := htext.scan_eq {}
    have hlast := last_place hkinds hplace
    have hrun := Reader.run_append (hkinds ▸ hr) {} none []
    have hfinish : r.finish? = none := by
      cases hsig : r.finish? with
      | none => rfl
      | some sig => exact absurd (reads_finish_iff.mp ⟨r, hr, hsig⟩) (hincomplete sig)
    simp only [hstray]
    rw [List.append_nil, hlast, Reader.run, hfinish] at hrun
    exact hrun

/-- The problem that is reported is the leftmost one. -/
theorem parse_eq_error_iff {text : String} {problem : Problem} :
    parse text = .error problem ↔ Leftmost text problem := by
  refine ⟨fun h => ?_, Leftmost.parse_eq⟩
  have hnone : ∀ sig, ¬ Spells text sig := by
    intro sig hsig
    rw [parse_eq_ok_iff.mpr hsig] at h
    cases h
  obtain ⟨leftmost, hleftmost⟩ := exists_leftmost hnone
  rw [hleftmost.parse_eq] at h
  rwa [← Except.error.inj h]

/-- A text that is no signature is refused with its leftmost problem, and it has no other. -/
theorem signature_refuses_leftmost (text : String) (h : ∀ sig, ¬ Spells text sig) (s : Store) :
    ∃ problem, signature text s = .error (.signature text problem) s ∧ Leftmost text problem ∧
      ∀ other, Leftmost text other → other = problem := by
  obtain ⟨problem, hproblem⟩ := exists_leftmost h
  have hparse := parse_eq_error_iff.mpr hproblem
  refine ⟨problem, ?_, hproblem, fun other hother => ?_⟩
  · unfold signature
    rw [hparse]
    rfl
  · rw [parse_eq_error_iff.mpr hother] at hparse
    exact Except.error.inj hparse

theorem signature_refuses_arrow :
    (∀ sig, ¬ Spells "pair(a,\n -> b)" sig) ∧ ∃ problem,
      signature "pair(a,\n -> b)" {} = .error (.signature "pair(a,\n -> b)" problem) {} ∧
      Leftmost "pair(a,\n -> b)" problem ∧ problem = .token .arrow ⟨2, 2⟩ := by
  obtain ⟨e, s, herror, he⟩ := exists_error_of_test (x := signature "pair(a,\n -> b)") (s := {})
    (p := fun e _ => e = .signature "pair(a,\n -> b)" (.token .arrow ⟨2, 2⟩)) (by decide +kernel)
  have hnone : ∀ sig, ¬ Spells "pair(a,\n -> b)" sig := by
    intro sig hsig
    rw [signature_of_spells hsig] at herror
    cases herror
  obtain ⟨problem, hproblem, hleftmost, _⟩ := signature_refuses_leftmost _ hnone {}
  refine ⟨hnone, problem, hproblem, hleftmost, ?_⟩
  rw [herror] at hproblem
  rw [EStateM.Result.error.inj hproblem |>.1] at he
  simpa using he

end LetPoly.Signature
