import LetPoly.Proofs.Denotation
import LetPoly.Proofs.Names
import LetPoly.Proofs.Tracing

/-!
# The ways in which inference can fail

Where the bare type does not occur, unification fails with one of its two conflicts and in no other
way, and showing, naming and copying types do not fail at all, not even for the texts of a failure.
So the inference of a well-formed program either succeeds, or meets a conflict, or finds a name that
nothing gives a type to.

* `Documented` — the failures that the inference of a program may end with
* `Legible` — no name is a numeral that is too long to be read
* `analyse_fails`, `infer_fails` — plain analysis and inference
* `failures_documented` — all operations together, with reports and without
-/

namespace LetPoly

open Store

variable {s : Store} {t u : Ty} {e : Term} {env : Env} {pinned : List Ty} {names : List String}

/-! ## Numerals -/

/-- A numeral has no more digits than its text. -/
theorem Literal.length_digits_le {cs : List Char} {n : Literal.Numeral}
    (h : Literal.numeral? cs = some n) : n.digits.length ≤ cs.countP Char.isDigit := by
  unfold Literal.numeral? at h
  split at h
  next negative digits hsign =>
    -- a sign is no digit
    have hle : digits.countP Char.isDigit ≤ cs.countP Char.isDigit := by
      split at hsign
      case h_3 => rw [(Prod.mk.inj hsign).2]
      all_goals
        rw [← (Prod.mk.inj hsign).2]
        exact (List.sublist_cons_self _ _).countP_le
    split at h
    · next hdigits =>
      rw [← Option.some.inj h]
      simp only [Literal.areDigits, Bool.and_eq_true, List.all_eq_true] at hdigits
      rwa [← List.countP_eq_length.mpr hdigits.2]
    · exact nomatch h

/-- Whether a text with few digits is an integer can be told. -/
theorem isIntegerLiteral_of_digits {x : String}
    (h : x.toList.countP Char.isDigit ≤ Decimal.maxDigits) : ∃ b, isIntegerLiteral x = .ok b := by
  unfold isIntegerLiteral
  split
  · exact ⟨false, rfl⟩
  · next n hn =>
    have hle := Nat.le_trans (Literal.length_digits_le hn) h
    rw [if_neg (Nat.not_lt.mpr hle)]
    exact ⟨_, rfl⟩

/-! ## Documented failures -/

/-- The name occurs free in the term and is none of the names that have types. -/
def Unknown (e : Term) (names : List String) (x : String) : Prop := x ∈ e.freeNames ∧ x ∉ names

section

variable {x y : String} {f a d b body : Term}

@[simp] theorem unknown_lam : Unknown (.lam x body) names y ↔ Unknown body (x :: names) y := by
  simp [Unknown, and_assoc]

@[simp] theorem unknown_app :
    Unknown (.app f a) names y ↔ Unknown f names y ∨ Unknown a names y := by
  simp [Unknown, or_and_right]

@[simp] theorem unknown_letIn :
    Unknown (.letIn x d b) names y ↔ Unknown d names y ∨ Unknown b (x :: names) y := by
  simp [Unknown, or_and_right, and_assoc]

@[simp] theorem unknown_letrec :
    Unknown (.letrec x d b) names y ↔ Unknown d (x :: names) y ∨ Unknown b (x :: names) y := by
  simp [Unknown, or_and_right, and_assoc]

end

/-- No name without a type has more digits than a numeral may have. -/
def Legible (e : Term) (names : List String) : Prop :=
  ∀ x, Unknown e names x → x.toList.countP Char.isDigit ≤ Decimal.maxDigits

/-- The failures that a program may end with when the given names have types. -/
inductive Documented (e : Term) (names : List String) : Error → Prop
  /-- Two types cannot be made equal. -/
  | conflict {err : Error} : err.IsConflict → Documented e names err
  /-- A free name has no type and is no integer. -/
  | undefined {x : String} : Unknown e names x → isIntegerLiteral x = .ok false →
    Documented e names (.undefined x)

/-- What a part of a term may fail with, the whole may fail with. -/
theorem Documented.whole {e' : Term} {names' : List String} {err : Error}
    (h : Documented e' names' err) (hpart : ∀ x, Unknown e' names' x → Unknown e names x) :
    Documented e names err := by
  cases h with
  | conflict h => exact .conflict h
  | undefined hx hint => exact .undefined (hpart _ hx) hint

/-! ## Single operations -/

/-- Unification fails with a conflict. -/
theorem unify_fails (hs : s.Valid) (ht : s.Holds t) (hu : s.Holds u)
    (hplain : (s.view t).Plain ∧ (s.view u).Plain) :
    Ends (unify t u) s (fun _ _ => True) (fun err _ => err.IsConflict) := by
  refine (unify_ends hs ht hu).mono (fun _ _ _ => trivial) (fun err s' hclash => ?_)
  have hpairs : PlainPairs s [(t, u)] := List.forall_mem_singleton.mpr hplain
  exact (hclash.conflict hpairs).1

/-- A copy can be made. -/
theorem fresh_never_fails (hs : s.Valid) (ht : s.Holds t) (hp : ∀ p ∈ pinned, s.Holds p)
    (hplain : (s.view t).Plain) :
    Ends (fresh t pinned) s (fun _ _ => True) (fun _ _ => False) :=
  (fresh_ends hs ht hp).mono (fun _ _ _ => trivial) (fun _ _ h => h.2 hplain)

/-- Looking a name up fails only if nothing gives it a type. -/
theorem typeOfName_fails {x : String} (hset : Setting s env pinned) (hplain : PlainEnv s env)
    (hx : Legible (.ident x) (env.map Prod.fst)) :
    Ends (typeOfName x env pinned) s (fun _ _ => True)
      (fun err _ => Documented (.ident x) (env.map Prod.fst) err) := by
  unfold typeOfName
  cases hlook : env.lookup x with
  | some t =>
    refine (fresh_never_fails hset.valid (hset.holds_env x t hlook) hset.holds_pinned
      (hplain x t hlook)).mono (fun _ _ h => h) (fun _ _ h => h.elim)
  | none =>
    have hnew : x ∉ env.map Prod.fst := by
      intro hmem
      obtain ⟨p, hp, rfl⟩ := List.mem_map.mp hmem
      simpa using List.lookup_eq_none_iff.mp hlook p hp
    have hunknown : Unknown (.ident x) (env.map Prod.fst) x := ⟨List.mem_cons_self, hnew⟩
    obtain ⟨b, hb⟩ := isIntegerLiteral_of_digits (hx x hunknown)
    rw [hb]
    cases b with
    | true => trivial
    | false => exact .undefined hunknown hb

/-! ## Analysis and inference -/

/-- The last steps of an application. -/
theorem call_fails {f a : Term} (hplain : PlainEnv s env) {s₁ : Store}
    (ht : Analysed s env pinned t s₁) (hu : Analysed s env pinned u s₁) :
    Ends (do let v ← newVar; unify (.fn u (.var v)) t; return Ty.var v) s₁ (fun _ _ => True)
      (fun err _ => Documented (.app f a) names err) := by
  have hv := analysed_pushNext ht.allows.valid ht.allows
  have h₂ : (Rights.analyse s env pinned).Allows s₁ (s₁.pushNext none).2 :=
    (allows_pushNext ht.allows.valid).grow_analyse
  have hfn := (hu.later h₂).fn hv
  have ht₂ := ht.later h₂
  rw [ends_bind, ends_newVar, ends_bind]
  exact (unify_fails hv.allows.valid hfn.holds ht₂.holds ⟨hfn.plain hplain, ht₂.plain hplain⟩).mono
    (fun _ _ _ => trivial) (fun _ _ h => .conflict h)

/-- Analysis fails in documented ways only. -/
theorem analyse_fails (e : Term) : ∀ {s : Store} {env : Env} {pinned : List Ty},
    Setting s env pinned → PlainEnv s env → e.WellFormed → Legible e (env.map Prod.fst) →
    Ends (analyse e env pinned) s (fun _ _ => True)
      (fun err _ => Documented e (env.map Prod.fst) err) := by
  induction e with
  | ident x => exact fun hset hplain _ hx => typeOfName_fails hset hplain hx
  | lam x body ih =>
    intro s env pinned hset hplain hwf hx
    have hpart : ∀ y, Unknown body (x :: env.map Prod.fst) y →
        Unknown (.lam x body) (env.map Prod.fst) y := fun y => unknown_lam.mpr
    rw [analyse_lam, ends_bind, ends_newVar, ends_bind]
    exact (ih (hset.param x) ((hset.within_param x).plain hplain) hwf
      fun y hy => hx y (hpart y hy)).mono (fun _ _ h => h) (fun _ _ h => h.whole hpart)
  | app f a ihf iha =>
    intro s env pinned hset hplain hwf hx
    have hf : ∀ y, Unknown f (env.map Prod.fst) y → Unknown (.app f a) (env.map Prod.fst) y :=
      fun y hy => unknown_app.mpr (.inl hy)
    have ha : ∀ y, Unknown a (env.map Prod.fst) y → Unknown (.app f a) (env.map Prod.fst) y :=
      fun y hy => unknown_app.mpr (.inr hy)
    rw [analyse_app, ends_bind]
    refine ((analyse_ends f hset).and (ihf hset hplain hwf.1 fun y hy => hx y (hf y hy))).mono ?_
      (fun _ _ h => h.2.whole hf)
    rintro t s₁ ⟨ht, _⟩
    have hset₁ := hset.later ht.allows
    have hplain₁ := (Within.of_allows hset ht.allows).plain hplain
    rw [ends_bind]
    refine ((analyse_ends a hset₁).and (iha hset₁ hplain₁ hwf.2 fun y hy => hx y (ha y hy))).mono ?_
      (fun _ _ h => h.2.whole ha)
    rintro u s₂ ⟨hu₁, _⟩
    obtain ⟨hu, h₂⟩ := ht.next hset hu₁
    exact call_fails hplain (ht.later h₂) hu
  | letIn x d b ihd ihb =>
    intro s env pinned hset hplain hwf hx
    have hd : ∀ y, Unknown d (env.map Prod.fst) y → Unknown (.letIn x d b) (env.map Prod.fst) y :=
      fun y hy => unknown_letIn.mpr (.inl hy)
    have hb : ∀ y, Unknown b (x :: env.map Prod.fst) y →
        Unknown (.letIn x d b) (env.map Prod.fst) y := fun y hy => unknown_letIn.mpr (.inr hy)
    rw [analyse_letIn, ends_bind]
    refine ((analyse_ends d hset).and (ihd hset hplain hwf.1 fun y hy => hx y (hd y hy))).mono ?_
      (fun _ _ h => h.2.whole hd)
    rintro t s₁ ⟨ht, _⟩
    exact (ihb (hset.definition ht x) ((hset.within_definition ht x).plain hplain) hwf.2
      fun y hy => hx y (hb y hy)).mono (fun _ _ h => h) (fun _ _ h => h.whole hb)
  | letrec x d b ihd ihb =>
    intro s env pinned hset hplain hwf hx
    have hd : ∀ y, Unknown d (x :: env.map Prod.fst) y →
        Unknown (.letrec x d b) (env.map Prod.fst) y := fun y hy => unknown_letrec.mpr (.inl hy)
    have hb : ∀ y, Unknown b (x :: env.map Prod.fst) y →
        Unknown (.letrec x d b) (env.map Prod.fst) y := fun y hy => unknown_letrec.mpr (.inr hy)
    have hv := hset.newVar
    have hset₁ := hset.param x
    have hplain₁ := (hset.within_param x).plain hplain
    rw [analyse_letrec, ends_bind, ends_newVar, ends_bind]
    refine ((analyse_ends d hset₁).and (ihd hset₁ hplain₁ hwf.1 fun y hy => hx y (hd y hy))).mono ?_
      (fun _ _ h => h.2.whole hd)
    rintro t s₂ ⟨ht₁, _⟩
    have ht := (hset.within_param x).analysed hv.allows ht₁
    have hv₂ := hv.later ((hset.within_param x).allows ht₁.allows)
    rw [ends_bind]
    refine ((unify_ends ht.allows.valid hv₂.holds ht.holds).and (unify_fails ht.allows.valid
      hv₂.holds ht.holds ⟨hv₂.plain hplain, ht.plain hplain⟩)).mono ?_ (fun _ _ h => .conflict h.2)
    rintro _ s₃ ⟨hun, _⟩
    have hv₃ := hv₂.later (hv₂.allows_unify ht hun.allows)
    exact (ihb (hset.definition hv₃ x) ((hset.within_definition hv₃ x).plain hplain) hwf.2
      fun y hy => hx y (hb y hy)).mono (fun _ _ h => h) (fun _ _ h => h.whole hb)
  | lamOver p body => exact fun _ _ h => h.elim
  | bare => exact fun _ _ h => h.elim
  | missing => exact fun _ _ h => h.elim

/-- The names that have types: those of the environment, or of the prelude if there is none. -/
def knownNames : Option Env → List String
  | some env => env.map Prod.fst
  | none => Env.preludeSignatures.map Prod.fst

/-- Inference fails in documented ways only. -/
theorem infer_fails {env : Option Env} (hs : s.Valid)
    (henv : ∀ env' ∈ env, Setting s env' [] ∧ PlainEnv s env') (he : e.WellFormed)
    (hx : Legible e (knownNames env)) :
    Ends (infer e env) s (fun _ _ => True) (fun err _ => Documented e (knownNames env) err) := by
  have hsome : ∀ {s : Store} {env : Env}, Setting s env [] → PlainEnv s env →
      Legible e (env.map Prod.fst) → Ends (infer e (some env)) s (fun _ _ => True)
        (fun err _ => Documented e (env.map Prod.fst) err) :=
    fun hset hplain hx => infer_some_ends hset ((analyse_fails e hset hplain he hx).mono
      (fun _ _ _ _ _ _ => trivial) (fun _ _ h => h))
  cases env with
  | some env' =>
    obtain ⟨hset, hplain⟩ := henv env' rfl
    exact hsome hset hplain hx
  | none =>
    show Ends (Env.prelude >>= fun env => infer e (some env)) s _ _
    rw [ends_bind]
    refine (prelude_denote (P := Ty.Plain) hs fun ρ _ => Signature.Sig.plain_type ρ _).mono ?_
      (fun _ _ h => h.elim)
    rintro env' s₁ ⟨⟨hgrow, hheld⟩, hnames, hall⟩
    have hplain : PlainEnv s₁ env' := fun x t ht => hall (x, t) (mem_of_lookup ht)
    have hunknown : ∀ x, Unknown e (env'.map Prod.fst) x → Unknown e (knownNames none) x := by
      rintro x ⟨hfree, hnew⟩
      rw [hnames, List.mem_reverse] at hnew
      exact ⟨hfree, hnew⟩
    refine (hsome ⟨hgrow.valid, hheld.lookup, nofun⟩ hplain fun x h => hx x (hunknown x h)).mono
      (fun _ _ h => h) (fun _ _ h => h.whole hunknown)

/-- A computation that ends like another one fails in the same ways. -/
theorem Alike.fails_right {ε σ τ α β : Type} {x : EStateM ε σ α} {s : σ} {y : EStateM ε τ β} {t : τ}
    {Q : α → β → σ → τ → Prop} {E : σ → τ → Prop} {F : ε → Prop} (h : Alike x s y t Q E)
    (hx : Ends x s (fun _ _ => True) (fun e _ => F e)) :
    Ends y t (fun _ _ => True) (fun e _ => F e) := by
  cases hrun : x s with
  | ok a s' =>
    obtain ⟨b, t', hy, _⟩ := h.of_ok hrun
    unfold Ends
    rw [hy]
    trivial
  | error e s' =>
    obtain ⟨t', hy, _⟩ := h.of_error hrun
    unfold Ends
    rw [hy]
    exact hx.of_error hrun

theorem PlainSetting.plainEnv (h : PlainSetting s env pinned) : PlainEnv s env := fun x t ht =>
  h.valid.plain_view h.plain (h.env x t ht).1 (h.env x t ht).2

/-- Where the bare type does not occur, unification succeeds or meets a conflict; types can always
be copied, shown and named; and the analysis and the inference of a well-formed program, with
reports and without, succeed or fail in documented ways: with a conflict, or with a free name that
has no type and is no integer. -/
theorem failures_documented (tr : Trace) (h : PlainSetting s env pinned) (he : e.WellFormed)
    (hdigits : ∀ x ∈ e.freeNames, x.toList.countP Char.isDigit ≤ Decimal.maxDigits) :
    (∀ t u, s.Holds t ∧ t.Plain → s.Holds u ∧ u.Plain →
      Ends (unify t u) s (fun _ _ => True) (fun err _ => err.IsConflict)) ∧
    (∀ t, s.Holds t ∧ t.Plain →
      Ends (fresh t pinned) s (fun _ _ => True) (fun _ _ => False) ∧ ∀ namer,
      Ends (showType t) (s, namer) (fun _ _ => True) (fun _ _ => False) ∧
      Ends (nameVariables t) (s, namer) (fun _ _ => True) (fun _ _ => False)) ∧
    (Ends (analyse e env pinned) s (fun _ _ => True)
      (fun err _ => Documented e (env.map Prod.fst) err) ∧
    Ends (analyseTraced e env pinned) (s, tr) (fun _ _ => True)
      (fun err _ => Documented e (env.map Prod.fst) err)) ∧
    ∀ env', env' = some env ∨ env' = none →
      Ends (infer e env') s (fun _ _ => True) (fun err _ => Documented e (knownNames env') err) ∧
      Ends (inferTraced e env') (s, tr) (fun _ _ => True)
        (fun err _ => Documented e (knownNames env') err) := by
  have hs := h.valid
  have hview : ∀ {t}, s.Holds t ∧ t.Plain → (s.view t).Plain :=
    fun ht => hs.plain_view h.plain ht.1 ht.2
  have hlegible : ∀ names, Legible e names := fun names x hx => hdigits x hx.1
  refine ⟨fun t u ht hu => ?_, fun t ht => ⟨?_, fun namer => ⟨?_, ?_⟩⟩, ?_, fun env' hmem => ?_⟩
  · exact unify_fails hs ht.1 hu.1 ⟨hview ht, hview hu⟩
  · exact fresh_never_fails hs ht.1 h.setting.holds_pinned (hview ht)
  · exact (showType_ends hs ht.1).mono (fun _ _ _ => trivial) (fun _ _ hq => hq.2 (hview ht))
  · exact (nameVariables_ends hs ht.1).mono (fun _ _ _ => trivial) (fun _ _ hq => hq)
  · have hplain := analyse_fails e h.setting h.plainEnv he (hlegible _)
    exact ⟨hplain, (h.analyse_alike he tr).fails_right hplain⟩
  · have henv : ∀ env₁ ∈ env', Setting s env₁ [] ∧ PlainEnv s env₁ := by
      rintro env₁ rfl
      obtain rfl : env₁ = env := by simpa using hmem
      exact ⟨⟨hs, h.setting.holds_env, nofun⟩, h.plainEnv⟩
    have hplain := infer_fails hs henv he (hlegible _)
    exact ⟨hplain, (h.infer_alike he tr hmem).fails_right hplain⟩

/-- A function is called with a name that nothing gives a type to. -/
def strayCall : Term := .lam "x" (.app (.ident "f") (.ident "y"))

theorem failures_documented_stray : ∃ s₁,
    infer strayCall (some [("f", .var ⟨2⟩)]) chainStore = .error (.undefined "y") s₁ ∧
    Documented strayCall ["f"] (.undefined "y") := by
  -- for any computation, so that no run is evaluated to find out what is said about it
  have hfails : ∀ e : Term, e.WellFormed →
      (∀ x ∈ e.freeNames, x.toList.countP Char.isDigit ≤ Decimal.maxDigits) →
      ∀ x, infer e (some [("f", .var ⟨2⟩)]) = x →
      Ends x chainStore (fun _ _ => True) (fun err _ => Documented e ["f"] err) := by
    rintro e he hdigits _ rfl
    exact ((failures_documented {} chainStore_setting he hdigits).2.2.2 _ (.inl rfl)).1
  replace hfails := hfails strayCall ⟨trivial, trivial⟩ (by decide)
  have hruns : (match infer strayCall (some [("f", .var ⟨2⟩)]) chainStore with
      | .ok _ _ => false
      | .error err _ => decide (err = .undefined "y")) = true := by decide +kernel
  revert hfails hruns
  generalize infer strayCall (some [("f", .var ⟨2⟩)]) = x
  intro hfails hruns
  replace hfails := hfails x rfl
  cases hx : x chainStore with
  | ok t s₁ =>
    rw [hx] at hruns
    exact nomatch hruns
  | error err s₁ =>
    rw [hx] at hruns
    obtain rfl := of_decide_eq_true hruns
    exact ⟨s₁, rfl, hfails.of_error hx⟩

end LetPoly
