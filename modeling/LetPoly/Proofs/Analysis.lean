import LetPoly.Infer
import LetPoly.Proofs.Instantiation

/-!
# What analysis does to the store

Analysis binds only variables that it has made itself and variables that are *exposed*: they occur
in the type of a name that counts and in a pinned type. So it never touches the generic variables
of its environment, and whatever it leaves behind, also when it fails, is a substitution for the
exposed variables.

* `Exposed`, `Rights.analyse` — which variables analysis may bind
* `Within` — an analysis on the way has no more rights than the one that it is part of
* `Analysed` — what is known of a type that analysis has found
* `analyseWith_ends` — analysis keeps to its rights, whatever is run around the terms
-/

namespace LetPoly

open Store

variable {s s' s₁ s₂ : Store} {t : Ty} {v : Var} {env env₁ : Env} {pinned pinned₁ : List Ty}

/-! ## Rights -/

/-- The bare type occurs in the types of no name that counts. -/
def PlainEnv (s : Store) (env : Env) : Prop := ∀ x t, env.lookup x = some t → (s.view t).Plain

/-- The variable occurs in the type of a name that counts. -/
def Visible (s : Store) (env : Env) (v : Var) : Prop :=
  ∃ x t, env.lookup x = some t ∧ v ∈ (s.view t).vars

/-- The variable occurs in the type of a name and in a pinned type. -/
def Exposed (s : Store) (env : Env) (pinned : List Ty) (v : Var) : Prop :=
  Visible s env v ∧ Pins s pinned v

/-- Analysis may make variables, and bind them and the exposed ones. -/
def Rights.analyse (s : Store) (env : Env) (pinned : List Ty) : Rights where
  bind v := Exposed s env pinned v ∨ ¬ s.Has v
  bare := ¬ PlainEnv s env
  make := True

theorem lookup_extend (env : Env) (x y : String) (t : Ty) :
    (env.extend x t).lookup y = if y = x then some t else env.lookup y :=
  lookup_cons_eq x t env y

/-- What holds of the types of an environment and of a new one holds after the environment has been
extended. -/
theorem lookup_extend_of {P : Ty → Prop} (henv : ∀ x t, env.lookup x = some t → P t) {x : String}
    (ht : P t) : ∀ y u, (env.extend x t).lookup y = some u → P u := by
  intro y u hu
  rw [lookup_extend] at hu
  split at hu
  · rw [Option.some.injEq] at hu
    rwa [← hu]
  · exact henv y u hu

/-- An analysis can be made: the store is valid and holds all types that it starts from. -/
structure Setting (s : Store) (env : Env) (pinned : List Ty) : Prop where
  valid : s.Valid
  holds_env : ∀ x t, env.lookup x = some t → s.Holds t
  holds_pinned : ∀ p ∈ pinned, s.Holds p

theorem Setting.extend (h : Setting s env pinned) (ht : s.Holds t) (x : String) :
    Setting s (env.extend x t) pinned where
  valid := h.valid
  holds_env := lookup_extend_of h.holds_env ht
  holds_pinned := h.holds_pinned

theorem Setting.pin (h : Setting s env pinned) (ht : s.Holds t) : Setting s env (t :: pinned) where
  valid := h.valid
  holds_env := h.holds_env
  holds_pinned := List.forall_mem_cons.mpr ⟨ht, h.holds_pinned⟩

theorem Setting.later {r : Rights} (h : Setting s env pinned) (ha : r.Allows s s') :
    Setting s' env pinned where
  valid := ha.valid
  holds_env x t hl := ha.holds (h.holds_env x t hl)
  holds_pinned p hmem := ha.holds (h.holds_pinned p hmem)

/-- An analysis in `s₁` that is part of one in `s` has no rights that this one does not have. -/
structure Within (s : Store) (env : Env) (pinned : List Ty) (s₁ : Store) (env₁ : Env)
    (pinned₁ : List Ty) : Prop where
  has : ∀ v, s.Has v → s₁.Has v
  exposed : ∀ v, Exposed s₁ env₁ pinned₁ v → (Rights.analyse s env pinned).bind v
  plain : PlainEnv s env → PlainEnv s₁ env₁

theorem Within.bind (h : Within s env pinned s₁ env₁ pinned₁) (v : Var)
    (hv : (Rights.analyse s₁ env₁ pinned₁).bind v) : (Rights.analyse s env pinned).bind v := by
  rcases hv with hv | hv
  · exact h.exposed v hv
  · exact .inr fun hold => hv (h.has v hold)

theorem Within.allows (h : Within s env pinned s₁ env₁ pinned₁)
    (ha : (Rights.analyse s₁ env₁ pinned₁).Allows s₁ s') :
    (Rights.analyse s env pinned).Allows s₁ s' :=
  ha.mono (fun v _ => h.bind v) (fun hn v hv => hn v (h.bind v hv)) (fun hb hp => hb (h.plain hp))
    (fun hm => hm) (fun hn => hn) (fun _ hl => hl)

/-- Variables that analysis has left in a view are exposed or new. -/
theorem Within.of_allows (hset : Setting s env pinned)
    (h : (Rights.analyse s env pinned).Allows s s₁) : Within s env pinned s₁ env pinned where
  has v hv := h.has hv
  exposed := by
    rintro v ⟨⟨x, t, hl, hv⟩, p, hmem, hvp⟩
    by_cases hold : s.Has v
    · rcases h.mem_view hset.valid (hset.holds_env x t hl) hv hold with hb | hv
      · exact hb
      · rcases h.mem_view hset.valid (hset.holds_pinned p hmem) hvp hold with hb | hvp
        · exact hb
        · exact .inl ⟨⟨x, t, hl, hv⟩, p, hmem, hvp⟩
    · exact .inr hold
  plain hpl x t hl :=
    h.plain_view hset.valid (hset.holds_env x t hl) (fun hb => hb hpl) (hpl x t hl)

/-- A name may be added whose type has only variables that may be bound. -/
theorem Within.extend (h : Within s env pinned s₁ env₁ pinned₁) (x : String)
    (ht : ∀ v ∈ (s₁.view t).vars, (Rights.analyse s env pinned).bind v)
    (hpl : PlainEnv s env → (s₁.view t).Plain) :
    Within s env pinned s₁ (env₁.extend x t) pinned₁ where
  has := h.has
  exposed := by
    rintro v ⟨⟨y, u, hl, hv⟩, hpin⟩
    rw [lookup_extend] at hl
    split at hl
    · rw [Option.some.injEq] at hl
      rw [← hl] at hv
      exact ht v hv
    · exact h.exposed v ⟨⟨y, u, hl, hv⟩, hpin⟩
  plain hp := lookup_extend_of (h.plain hp) (hpl hp)

/-- A type may be pinned that has only variables that may be bound. -/
theorem Within.pin (h : Within s env pinned s₁ env₁ pinned₁)
    (ht : ∀ v ∈ (s₁.view t).vars, (Rights.analyse s env pinned).bind v) :
    Within s env pinned s₁ env₁ (t :: pinned₁) where
  has := h.has
  exposed := by
    rintro v ⟨hvis, p, hmem, hv⟩
    rcases List.mem_cons.mp hmem with rfl | hmem
    · exact ht v hv
    · exact h.exposed v ⟨hvis, p, hmem, hv⟩
  plain := h.plain

/-! ## Types that analysis has found -/

/-- What is known of a type that analysis has found. -/
structure Analysed (s : Store) (env : Env) (pinned : List Ty) (t : Ty) (s' : Store) : Prop where
  allows : (Rights.analyse s env pinned).Allows s s'
  holds : s'.Holds t
  bind_of_mem : ∀ v ∈ (s'.view t).vars, (Rights.analyse s env pinned).bind v
  plain : PlainEnv s env → (s'.view t).Plain

theorem Within.analysed (h : Within s env pinned s₁ env₁ pinned₁)
    (ha : (Rights.analyse s env pinned).Allows s s₁) (ht : Analysed s₁ env₁ pinned₁ t s') :
    Analysed s env pinned t s' where
  allows := ha.trans (h.allows ht.allows)
  holds := ht.holds
  bind_of_mem v hv := h.bind v (ht.bind_of_mem v hv)
  plain hp := ht.plain (h.plain hp)

/-- What is known of a type stays true when analysis goes on. -/
theorem Analysed.later (h : Analysed s env pinned t s₁)
    (ha : (Rights.analyse s env pinned).Allows s₁ s₂) : Analysed s env pinned t s₂ where
  allows := h.allows.trans ha
  holds := ha.holds h.holds
  bind_of_mem v hv := by
    by_cases hold : s₁.Has v
    · rcases ha.mem_view h.allows.valid h.holds hv hold with hb | hv
      · exact hb
      · exact h.bind_of_mem v hv
    · exact .inr fun hv => hold (h.allows.has hv)
  plain hp := ha.plain_view h.allows.valid h.holds (fun hb => hb hp) (h.plain hp)

/-- Making variables is among the rights of analysis. -/
theorem Rights.Allows.grow_analyse (h : Rights.grow.Allows s s') :
    (Rights.analyse s₁ env pinned).Allows s s' :=
  h.mono (fun _ _ hb => hb.elim) (fun _ _ hb => hb) False.elim (fun hm => hm) False.elim nofun

/-- A copy of the type of a name. -/
theorem CopyOf.analysed {f : Var → Var} {r : Ty} {x : String} (h : CopyOf s pinned t f r s')
    (hs : s.Valid) (ht : s.Holds t) (hx : env.lookup x = some t) :
    Analysed s env pinned r s' where
  allows := h.allows.grow_analyse
  holds := h.holds hs ht
  bind_of_mem w hw := by
    rw [h.view_eq hs ht] at hw
    rcases h.mem_vars hw with ⟨hv, hpin⟩ | ⟨v, hv, hgen, rfl⟩
    · exact .inl ⟨⟨x, t, hx, hv⟩, hpin⟩
    · exact .inr (h.new v hv hgen).1
  plain hp := by
    rw [h.view_eq hs ht]
    exact h.plain (hp x t hx)

/-- A new variable. -/
theorem analysed_pushNext (hs : s.Valid) (ha : (Rights.analyse s₁ env pinned).Allows s₁ s) :
    Analysed s₁ env pinned (.var (s.pushNext none).1) (s.pushNext none).2 where
  allows := ha.trans (allows_pushNext hs).grow_analyse
  holds := holds_var.mpr (has_pushNext.mpr (.inr rfl))
  bind_of_mem v hv := by
    rw [view_var_of_unbound (binding_pushNext_self none), Ty.vars_var, List.mem_singleton] at hv
    rw [hv]
    exact .inr fun hold => not_has_pushNext none (ha.has hold)
  plain _ := by
    rw [view_var_of_unbound (binding_pushNext_self none)]
    exact .var _

theorem Analysed.fn {u : Ty} (ht : Analysed s env pinned t s') (hu : Analysed s env pinned u s') :
    Analysed s env pinned (.fn t u) s' where
  allows := ht.allows
  holds := holds_fn.mpr ⟨ht.holds, hu.holds⟩
  bind_of_mem v hv := by
    rw [ht.allows.valid.view_fn ht.holds hu.holds, Ty.mem_vars_fn] at hv
    exact hv.elim (ht.bind_of_mem v) (hu.bind_of_mem v)
  plain hp := by
    rw [ht.allows.valid.view_fn ht.holds hu.holds, Ty.plain_fn_iff]
    exact ⟨ht.plain hp, hu.plain hp⟩

/-- Unifying types that analysis has found is among its rights. -/
theorem Analysed.allows_unify {u : Ty} (ht : Analysed s env pinned t s₁)
    (hu : Analysed s env pinned u s₁) (h : (Rights.unify s₁ [(t, u)]).Allows s₁ s₂) :
    (Rights.analyse s env pinned).Allows s₁ s₂ := by
  have hbind : ∀ v, (Rights.unify s₁ [(t, u)]).bind v → (Rights.analyse s env pinned).bind v := by
    rintro v ⟨p, hp, hv⟩
    rw [List.mem_singleton] at hp
    rw [hp] at hv
    exact hv.elim (ht.bind_of_mem v) (hu.bind_of_mem v)
  have hplain : PlainEnv s env → PlainPairs s₁ [(t, u)] := by
    intro hp p hmem
    rw [List.mem_singleton] at hmem
    rw [hmem]
    exact ⟨ht.plain hp, hu.plain hp⟩
  exact h.mono (fun v _ => hbind v) (fun hn v hv => hn v (hbind v hv))
    (fun hb hp => hb (hplain hp)) False.elim False.elim nofun

/-- The setting of what follows a definition of this type. -/
theorem Setting.definition (hset : Setting s env pinned) (ht : Analysed s env pinned t s₁)
    (x : String) : Setting s₁ (env.extend x t) pinned :=
  (hset.later ht.allows).extend ht.holds x

theorem Setting.within_definition (hset : Setting s env pinned)
    (ht : Analysed s env pinned t s₁) (x : String) :
    Within s env pinned s₁ (env.extend x t) pinned :=
  (Within.of_allows hset ht.allows).extend x ht.bind_of_mem ht.plain

/-- Looking a name up makes variables and does nothing else to the store. -/
theorem typeOfName_ends {x : String} (hset : Setting s env pinned) :
    Ends (typeOfName x env pinned) s
      (fun t s' => Rights.grow.Allows s s' ∧ Analysed s env pinned t s')
      (fun _ s' => Rights.grow.Allows s s') := by
  have hs := hset.valid
  unfold typeOfName
  cases hx : env.lookup x with
  | some t =>
    have ht : s.Holds t := hset.holds_env x t hx
    refine (fresh_ends hs ht hset.holds_pinned).mono ?_ (fun _ _ h => h.1)
    rintro r s' ⟨f, hf⟩
    exact ⟨hf.allows, hf.analysed hs ht hx⟩
  | none =>
    cases isIntegerLiteral x with
    | error e => exact .refl hs
    | ok b =>
      cases b with
      | false => exact .refl hs
      | true =>
        refine ⟨.refl hs, .refl hs, holds_int, ?_, ?_⟩
        · intro v hv
          rw [hs.view_int] at hv
          exact nomatch hv
        · intro _
          rw [hs.view_int]
          exact Ty.plain_int

/-! ## Analysis -/

section Generic

variable {σ : Type} {store : σ → Store} {c : σ}

/-- The computation on the way ends as an analysis in the given environment should. -/
def EndsAnalysed (store : σ → Store) (s : Store) (env : Env) (pinned : List Ty)
    (x : EStateM Error σ Ty) (c : σ) : Prop :=
  Ends x c (fun t c' => Analysed s env pinned t (store c'))
    (fun _ c' => (Rights.analyse s env pinned).Allows s (store c'))

/-- An analysis that is part of another one. -/
theorem EndsAnalysed.within {x : EStateM Error σ Ty}
    (h : EndsAnalysed store (store c) env₁ pinned₁ x c)
    (hw : Within s env pinned (store c) env₁ pinned₁)
    (ha : (Rights.analyse s env pinned).Allows s (store c)) :
    Ends x c
      (fun t c' => Analysed s env pinned t (store c') ∧
        (Rights.analyse s env pinned).Allows (store c) (store c'))
      (fun _ c' => (Rights.analyse s env pinned).Allows s (store c')) :=
  h.mono (fun _ _ ht => ⟨hw.analysed ha ht, hw.allows ht.allows⟩)
    (fun _ _ h => ha.trans (hw.allows h))

/-- Whatever state the computation is run from, it ends as an analysis should. -/
def Analyses (store : σ → Store) (env : Env) (pinned : List Ty) (x : EStateM Error σ Ty) : Prop :=
  ∀ c, Setting (store c) env pinned → EndsAnalysed store (store c) env pinned x c

/-- What is run around the analysis of a term does not add to its effect on the store. -/
def Unobtrusive (store : σ → Store) (around : Term → EStateM Error σ Ty → EStateM Error σ Ty) :
    Prop :=
  ∀ ⦃term : Term⦄ ⦃env : Env⦄ ⦃pinned : List Ty⦄ ⦃x : EStateM Error σ Ty⦄,
    Analyses store env pinned x → Analyses store env pinned (around term x)

variable [MonadLiftT StoreM (EStateM Error σ)]

/-- The state carries a store, on which computations on a store act. -/
def Carries (store : σ → Store) : Prop :=
  ∀ ⦃α : Type⦄ ⦃x : StoreM α⦄ ⦃c : σ⦄ ⦃Q : α → Store → Prop⦄ ⦃E : Error → Store → Prop⦄,
    Ends x (store c) Q E →
      Ends (liftM x : EStateM Error σ α) c (fun a c' => Q a (store c')) (fun e c' => E e (store c'))

theorem Carries.newVar (hlift : Carries store)
    (ha : (Rights.analyse s env pinned).Allows s (store c)) {E : Error → σ → Prop} :
    Ends (liftM newVar : EStateM Error σ Var) c
      (fun v c' => Analysed s env pinned (.var v) (store c') ∧
        (Rights.analyse s env pinned).Allows (store c) (store c')) E := by
  have hnew : Ends LetPoly.newVar (store c)
      (fun v s' => Analysed s env pinned (.var v) s' ∧
        (Rights.analyse s env pinned).Allows (store c) s') (fun _ _ => False) :=
    ⟨analysed_pushNext ha.valid ha, (allows_pushNext ha.valid).grow_analyse⟩
  exact (hlift hnew).mono (fun _ _ h => h) (fun _ _ h => h.elim)

theorem Carries.unify {u : Ty} (hlift : Carries store) (ht : Analysed s env pinned t (store c))
    (hu : Analysed s env pinned u (store c)) :
    Ends (liftM (unify t u) : EStateM Error σ Unit) c
      (fun _ c' => (Rights.analyse s env pinned).Allows (store c) (store c'))
      (fun _ c' => (Rights.analyse s env pinned).Allows s (store c')) := by
  refine hlift (E := fun _ => (Rights.analyse s env pinned).Allows s)
    ((unify_ends ht.allows.valid ht.holds hu.holds).mono (fun _ _ h => ?_) (fun _ _ h => ?_))
  · exact ht.allows_unify hu h.allows
  · exact ht.allows.trans (ht.allows_unify hu h.allows)

variable {around : Term → EStateM Error σ Ty → EStateM Error σ Ty}

/-- Analysis keeps to its rights, whatever is run around the terms. -/
theorem analyseWith_ends (hlift : Carries store) (hkeep : Unobtrusive store around) (e : Term) :
    ∀ {env : Env} {pinned : List Ty},
      Analyses store env pinned (analyseWith typeOfName around e env pinned) := by
  induction e with
  | ident x =>
    intro env pinned
    refine hkeep fun c hset => hlift ((typeOfName_ends hset).mono (fun _ _ h => h.2) ?_)
    exact fun _ _ h => h.grow_analyse
  | lam x body ih =>
    intro env pinned
    refine hkeep fun c hset => ?_
    unfold EndsAnalysed
    rw [ends_bind]
    have h₀ : (Rights.analyse (store c) env pinned).Allows (store c) (store c) := .refl hset.valid
    refine (hlift.newVar h₀).mono (fun v c₁ ⟨hv, h₁⟩ => ?_) (fun _ _ h => h)
    have hw := (hset.within_definition hv x).pin hv.bind_of_mem
    rw [ends_bind]
    refine ((ih _ ((hset.definition hv x).pin hv.holds)).within hw h₁).mono
      (fun t c₂ ⟨ht, h₂⟩ => ?_) (fun _ _ h => h)
    rw [ends_pure]
    exact (hv.later h₂).fn ht
  | lamOver p body _ ih =>
    intro env pinned
    refine hkeep fun c hset => ?_
    unfold EndsAnalysed
    rw [ends_bind]
    have h₀ : (Rights.analyse (store c) env pinned).Allows (store c) (store c) := .refl hset.valid
    refine (hlift.newVar h₀).mono (fun v c₁ ⟨hv, h₁⟩ => ?_) (fun _ _ h => h)
    have hw := (Within.of_allows hset h₁).pin hv.bind_of_mem
    rw [ends_bind]
    refine ((ih _ ((hset.later h₁).pin hv.holds)).within hw h₁).mono
      (fun t c₂ ⟨ht, h₂⟩ => ?_) (fun _ _ h => h)
    rw [ends_pure]
    exact (hv.later h₂).fn ht
  | app f a ihf iha =>
    intro env pinned
    refine hkeep fun c hset => ?_
    unfold EndsAnalysed
    rw [ends_bind]
    refine (ihf c hset).mono (fun t c₁ ht => ?_) (fun _ _ h => h)
    rw [ends_bind]
    refine ((iha _ (hset.later ht.allows)).within (.of_allows hset ht.allows) ht.allows).mono
      (fun u c₂ ⟨hu, h₂⟩ => ?_) (fun _ _ h => h)
    rw [ends_bind]
    refine (hlift.newVar hu.allows).mono (fun v c₃ ⟨hv, h₃⟩ => ?_) (fun _ _ h => h)
    rw [ends_bind]
    refine (hlift.unify ((hu.later h₃).fn hv) (ht.later (h₂.trans h₃))).mono
      (fun _ c₄ h₄ => ?_) (fun _ _ h => h)
    rw [ends_pure]
    exact hv.later h₄
  | letIn x d b ihd ihb =>
    intro env pinned
    refine hkeep fun c hset => ?_
    unfold EndsAnalysed
    rw [ends_bind]
    refine (ihd c hset).mono (fun t c₁ ht => ?_) (fun _ _ h => h)
    exact ((ihb _ (hset.definition ht x)).within (hset.within_definition ht x) ht.allows).mono
      (fun _ _ h => h.1) (fun _ _ h => h)
  | letrec x d b ihd ihb =>
    intro env pinned
    refine hkeep fun c hset => ?_
    unfold EndsAnalysed
    rw [ends_bind]
    have h₀ : (Rights.analyse (store c) env pinned).Allows (store c) (store c) := .refl hset.valid
    refine (hlift.newVar h₀).mono (fun v c₁ ⟨hv, h₁⟩ => ?_) (fun _ _ h => h)
    have hw := (hset.within_definition hv x).pin hv.bind_of_mem
    rw [ends_bind]
    refine ((ihd _ ((hset.definition hv x).pin hv.holds)).within hw h₁).mono
      (fun t c₂ ⟨ht, h₂⟩ => ?_) (fun _ _ h => h)
    rw [ends_bind]
    refine (hlift.unify (hv.later h₂) ht).mono (fun _ c₃ h₃ => ?_) (fun _ _ h => h)
    -- the recursive name is no longer pinned when the body is analysed
    have hv₃ := hv.later (h₂.trans h₃)
    exact ((ihb _ (hset.definition hv₃ x)).within (hset.within_definition hv₃ x) hv₃.allows).mono
      (fun _ _ h => h.1) (fun _ _ h => h)
  | bare =>
    intro env pinned
    exact hkeep fun c hset => hlift (x := throw _) (ends_throw.mpr (.refl hset.valid))
  | missing =>
    intro env pinned
    exact hkeep fun c hset => hlift (x := throw _) (ends_throw.mpr (.refl hset.valid))

end Generic

/-! ## Plain analysis -/

/-- Plain analysis keeps to its rights. -/
theorem analyse_ends (e : Term) (hset : Setting s env pinned) :
    Ends (analyse e env pinned) s (fun t s' => Analysed s env pinned t s')
      (fun _ s' => (Rights.analyse s env pinned).Allows s s') := by
  have hlift : Carries (id : Store → Store) := fun _ _ _ _ _ h => h
  have hkeep : Unobtrusive id fun _ (x : StoreM Ty) => x := fun _ _ _ _ h => h
  exact analyseWith_ends hlift hkeep e s hset

/-! What is known while a part of a term is analysed, for proofs that go through the parts. -/

theorem Setting.newVar (hset : Setting s env pinned) :
    Analysed s env pinned (.var (s.pushNext none).1) (s.pushNext none).2 :=
  analysed_pushNext hset.valid (.refl hset.valid)

/-- The setting of the body of a function, and of a recursive definition. -/
theorem Setting.param (hset : Setting s env pinned) (x : String) :
    Setting (s.pushNext none).2 (env.extend x (.var (s.pushNext none).1))
      (.var (s.pushNext none).1 :: pinned) :=
  (hset.definition hset.newVar x).pin hset.newVar.holds

theorem Setting.within_param (hset : Setting s env pinned) (x : String) :
    Within s env pinned (s.pushNext none).2 (env.extend x (.var (s.pushNext none).1))
      (.var (s.pushNext none).1 :: pinned) :=
  (hset.within_definition hset.newVar x).pin hset.newVar.bind_of_mem

/-- A second analysis in the same environment. -/
theorem Analysed.next {u : Ty} (hset : Setting s env pinned) (ht : Analysed s env pinned t s₁)
    (hu : Analysed s₁ env pinned u s₂) :
    Analysed s env pinned u s₂ ∧ (Rights.analyse s env pinned).Allows s₁ s₂ := by
  have hw := Within.of_allows hset ht.allows
  exact ⟨hw.analysed ht.allows hu, hw.allows hu.allows⟩

/-! ## Inference in an environment -/

/-- Inference in an environment is analysis with nothing pinned, after which the representative of
the type is returned and nothing but labels changes. -/
theorem infer_some_ends {e : Term} {Q : Ty → Store → Prop} {E : Error → Store → Prop}
    (hset : Setting s env [])
    (h : Ends (analyse e env []) s
      (fun t s₁ => ∀ s', (Rights.mark (s₁.view t).vars).Allows s₁ s' →
        s'.view (s₁.find t) = s₁.view t → Q (s₁.find t) s') E) :
    Ends (infer e (some env)) s Q E := by
  rw [infer_some, ends_bind]
  refine ((analyse_ends e hset).and h).mono ?_ (fun _ _ h => h.2)
  rintro t s₁ ⟨ht, hQ⟩
  have hs₁ := ht.allows.valid
  rw [ends_within]
  refine (nameVariables_ends hs₁ ht.holds).mono ?_ (fun _ _ h => h.elim)
  rintro _ p ⟨rfl, hmark⟩
  refine hQ p.1 hmark ?_
  rw [hmark.view_eq (fun _ hb => hb) hs₁ (hs₁.find_spec ht.holds).1, hs₁.view_find ht.holds]

end LetPoly
