import LetPoly.Proofs.Operations

/-!
# What inference leaves alone

Analysis shares the types of its environment with everybody who holds them, and binds variables.
Still nobody notices: the only variables from before that it binds are pinned ones. So inference,
with nothing pinned, leaves every type as it was, whether it succeeds or fails, and what it returns
is made of variables of its own.

* `Untouched` — the types of a store mean what they meant, and their variables have the same labels
* `inferWith_untouched` — inference, reported on or not, leaves the store untouched
* `inference_frame` — the two together
-/

namespace LetPoly

open Store

variable {s s' s₁ s₂ : Store} {t : Ty} {e : Term} {env : Env} {pinned : List Ty}

/-! ## Variables that are bound -/

/-- All variables that were bound on the way from `s` to `s'`, and that `s` had, occur in a pinned
type of `s`. -/
def BindsPinned (s : Store) (pinned : List Ty) (s' : Store) : Prop :=
  ∀ v, s.Has v → s.binding v = none → s'.binding v ≠ none → Pins s pinned v

/-- Of the variables from before, analysis binds pinned ones only. -/
theorem Rights.Allows.bindsPinned (h : (Rights.analyse s env pinned).Allows s s') :
    BindsPinned s pinned s' := by
  intro v hv hu hb
  by_contra hpin
  refine hb (h.unbound v hv hu ?_)
  rintro (hexp | hnew)
  · exact hpin hexp.2
  · exact hnew hv

/-! ## Stores that are left alone -/

/-- The types of `s` mean the same in `s'`, and its variables have the same labels. -/
structure Untouched (s s' : Store) : Prop where
  view_eq : ∀ t, s.Holds t → s'.view t = s.view t
  label_eq : ∀ v, s.Has v → s'.label v = s.label v

theorem Untouched.trans {r : Rights} (h : Untouched s s₁) (ha : r.Allows s s₁)
    (h' : Untouched s₁ s₂) : Untouched s s₂ where
  view_eq t ht := (h'.view_eq t (ha.holds ht)).trans (h.view_eq t ht)
  label_eq v hv := (h'.label_eq v (ha.has hv)).trans (h.label_eq v hv)

/-- A computation leaves alone what it may neither bind nor label. -/
theorem Rights.Allows.untouched {r : Rights} (h : r.Allows s s') (hs : s.Valid)
    (hbind : ∀ v, s.Has v → ¬ r.bind v) (hlabel : ∀ v, s.Has v → ¬ r.label v) :
    Untouched s s' where
  view_eq _ ht := h.view_eq_of_not_bind hs ht fun v hv => hbind v (hs.holds_view ht v hv)
  label_eq v hv := h.label_eq v (hlabel v hv)

/-- With nothing pinned, only variables that are made on the way are bound. -/
theorem not_has_of_bind {v : Var} (hv : (Rights.analyse s env []).bind v) : ¬ s.Has v := by
  rcases hv with ⟨_, p, hp, _⟩ | hnew
  · exact nomatch hp
  · exact hnew

theorem Rights.Allows.analyse_untouched (h : (Rights.analyse s env []).Allows s s')
    (hs : s.Valid) : Untouched s s' :=
  h.untouched hs (fun _ hv hb => not_has_of_bind hb hv) (fun _ _ hl => hl)

/-! ## Inference -/

/-- Inference leaves the store untouched, and the variables of the type that it returns are new,
whatever is run around the terms. -/
theorem inferWith_untouched {σ : Type} [MonadLiftT StoreM (EStateM Error σ)] {store : σ → Store}
    {analyse : Term → Env → List Ty → EStateM Error σ Ty} {env : Option Env} {c : σ}
    (hlift : Carries store) (hana : ∀ env, Analyses store env [] (analyse e env []))
    (hs : (store c).Valid)
    (henv : ∀ env' ∈ env, ∀ x t, env'.lookup x = some t → (store c).Holds t) :
    Ends (inferWith analyse e env) c
      (fun t c' => Untouched (store c) (store c') ∧
        ∀ v ∈ ((store c').view t).vars, ¬ (store c).Has v)
      (fun _ c' => Untouched (store c) (store c')) := by
  have hgrow : ∀ {s₁}, Rights.grow.Allows (store c) s₁ → Untouched (store c) s₁ :=
    fun h₁ => h₁.untouched hs (fun _ _ hb => hb) (fun _ _ hl => hl)
  refine inferWith_ends_of (Q := fun t s' => Untouched (store c) s' ∧
      ∀ v ∈ (s'.view t).vars, ¬ (store c).Has v) (E := fun s' => Untouched (store c) s')
    hlift hana hs henv ?_ ?_
  · intro env' s₁ t s₂ s₃ h₁ ht h₃ hview
    have hnew : ∀ v ∈ (s₂.view t).vars, ¬ s₁.Has v :=
      fun v hv => not_has_of_bind (ht.bind_of_mem v hv)
    have h₂ := (hgrow h₁).trans h₁ (ht.allows.analyse_untouched h₁.valid)
    constructor
    · -- the labels go to variables of the result, none of which was there before
      refine ⟨fun u hu => ?_, fun v hv => ?_⟩
      · rw [h₃.view_eq (fun _ hb => hb) ht.allows.valid (ht.allows.holds (h₁.holds hu))]
        exact h₂.view_eq u hu
      · rw [h₃.label_eq v fun hmem => hnew v hmem (h₁.has hv)]
        exact h₂.label_eq v hv
    · intro v hv hold
      rw [hview] at hv
      exact hnew v hv (h₁.has hold)
  · intro env' s₁ s₂ h₁ h₂
    exact (hgrow h₁).trans h₁ (h₂.analyse_untouched h₁.valid)

/-- Analysis, whether it succeeds or fails, binds no variable from before that is not pinned. So
inference, in an environment or in the prelude, leaves every type and every label as it was, and the
variables of the type that it returns are new. All this holds with reports as well. -/
theorem inference_frame (e : Term) (tr : Trace) (hset : Setting s env pinned) :
    Ends (analyse e env pinned) s
      (fun _ s' => BindsPinned s pinned s') (fun _ s' => BindsPinned s pinned s') ∧
    Ends (analyseTraced e env pinned) (s, tr)
      (fun _ p => BindsPinned s pinned p.1) (fun _ p => BindsPinned s pinned p.1) ∧
    ∀ env', env' = some env ∨ env' = none →
      Ends (infer e env') s
        (fun t s' => Untouched s s' ∧ ∀ v ∈ (s'.view t).vars, ¬ s.Has v)
        (fun _ s' => Untouched s s') ∧
      Ends (inferTraced e env') (s, tr)
        (fun t p => Untouched s p.1 ∧ ∀ v ∈ (p.1.view t).vars, ¬ s.Has v)
        (fun _ p => Untouched s p.1) := by
  refine ⟨?_, ?_, fun env' hmem => ?_⟩
  · exact (analyse_ends e hset).mono (fun _ _ h => h.allows.bindsPinned)
      (fun _ _ h => h.bindsPinned)
  · exact (analyseTraced_ends e env pinned (s, tr) hset).mono
      (fun _ _ h => h.allows.bindsPinned) (fun _ _ h => h.bindsPinned)
  · have henv : ∀ env₁ ∈ env', ∀ x t, env₁.lookup x = some t → s.Holds t := by
      rintro env₁ rfl
      rcases hmem with he | he
      · rw [Option.some.inj he]
        exact hset.holds_env
      · exact nomatch he
    have hlift : Carries (id : Store → Store) := fun _ _ _ _ _ h => h
    constructor
    · exact inferWith_untouched hlift (fun _ _ hset => analyse_ends e hset) hset.valid henv
    · exact inferWith_untouched carries_fst (fun env₁ => analyseTraced_ends e env₁ []) hset.valid
        henv

/-- An environment in which the type of one name is pinned and the type of another is not. -/
def pinnedEnv : Env := [("f", .var ⟨2⟩), ("g", .fn (.var ⟨0⟩) (.var ⟨1⟩))]

theorem inference_frame_pinned :
    ∃ t s', analyse (.app (.ident "f") (.ident "g")) pinnedEnv [.var ⟨2⟩] functionStore = .ok t s' ∧
      s'.binding ⟨2⟩ ≠ none ∧ BindsPinned functionStore [.var ⟨2⟩] s' ∧
      Ends (infer (.app (.ident "g") (.ident "3")) (some pinnedEnv)) functionStore
        (fun _ _ => False) (fun _ s₁ => Untouched functionStore s₁) := by
  have hheld : ∀ p ∈ pinnedEnv, functionStore.Holds p.2 := by decide
  have hset : Setting functionStore pinnedEnv [.var ⟨2⟩] :=
    ⟨functionStore_allows.valid, fun x t ht => hheld (x, t) (mem_of_lookup ht), by decide⟩
  have hok : (match analyse (.app (.ident "f") (.ident "g")) pinnedEnv [.var ⟨2⟩] functionStore with
      | .ok _ s' => (s'.binding ⟨2⟩).isSome
      | .error _ _ => false) = true := by decide +kernel
  have hfails : (match infer (.app (.ident "g") (.ident "3")) (some pinnedEnv) functionStore with
      | .ok _ _ => false
      | .error _ _ => true) = true := by decide +kernel
  have hframe := (inference_frame (.app (.ident "f") (.ident "g")) {} hset).1
  have hinfer :=
    ((inference_frame (.app (.ident "g") (.ident "3")) {} hset).2.2 (some pinnedEnv) (.inl rfl)).1
  cases h : analyse (.app (.ident "f") (.ident "g")) pinnedEnv [.var ⟨2⟩] functionStore with
  | error e s' =>
    rw [h] at hok
    exact nomatch hok
  | ok t s' =>
    rw [h] at hok
    refine ⟨t, s', rfl, Option.ne_none_iff_isSome.mpr hok, hframe.of_ok h, ?_⟩
    cases h' : infer (.app (.ident "g") (.ident "3")) (some pinnedEnv) functionStore with
    | ok t₁ s₁ =>
      rw [h'] at hfails
      exact nomatch hfails
    | error e₁ s₁ =>
      unfold Ends
      rw [h']
      exact hinfer.of_error h'

end LetPoly
