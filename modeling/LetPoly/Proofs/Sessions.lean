import LetPoly.Proofs.Operations
import LetPoly.Session

/-!
# What sessions keep

A session may run any commands in any order, and commands may fail midway. As long as no variable is
bound by hand to a type that holds it, the store stays valid throughout, bound variables stay bound,
and every step changes all views by one substitution (`session_views`).

* `Command.Safe`, `SafeRun` — bindings by hand make no cycle
* `Good` — what holds between two steps
* `execute_ends` — every command keeps to its rights
* `good_step`, `good_runFrom` — one step, and a whole run
-/

namespace LetPoly.Session

open Store

variable {s s₁ s₂ : Store} {r : Registers} {c : Command} {state : State}

/-! ## What holds between two steps -/

/-- Whether a command is one of those that bind variables. -/
def Command.binds : Command → Bool
  | .bind .. | .unify .. | .analyse .. | .infer .. => true
  | _ => false

/-- A session may do anything to a store except bind variables by a command that does not bind. -/
def Command.rights (c : Command) : Rights where
  bind _ := c.binds = true
  bare := True
  make := True
  number := True
  label _ := True

/-- The store holds what is kept under names. -/
structure Kept (s : Store) (r : Registers) : Prop where
  types : ∀ p ∈ r.types, s.Holds p.2
  envs : ∀ p ∈ r.envs, p.2.Held s

/-- The store holds the result of a command. -/
def Result.Held (s : Store) : Result → Prop
  | .type t => s.Holds t
  | .env e => e.Held s
  | _ => True

/-- The store is valid and holds what is kept under names. -/
structure Good (state : State) : Prop where
  valid : state.1.Valid
  kept : Kept state.1 state.2

/-- The command binds no variable by hand to a type that holds it. -/
def Command.Safe (state : State) : Command → Prop
  | .bind v t => ∀ w u, state.2.types.lookup v = some (.var w) → state.2.types.lookup t = some u →
      state.1.binding w = none → w ∉ (state.1.view u).vars
  | _ => True

/-- Every step of a run is safe in the state in which it is run. -/
def SafeRun : State → List Step → Prop
  | _, [] => True
  | state, st :: rest => st.command.Safe state ∧ SafeRun (step st state).2 rest

theorem Kept.later {rights : Rights} (h : Kept s r) (ha : rights.Allows s s₁) : Kept s₁ r where
  types p hp := ha.holds (h.types p hp)
  envs p hp := (h.envs p hp).later ha

theorem Kept.keep (h : Kept s r) (name : String) {result : Result} (hr : result.Held s) :
    Kept s (r.keep name result) := by
  cases result with
  | none => exact h
  | namer n => exact ⟨h.types, h.envs⟩
  | type t => exact ⟨List.forall_mem_cons.mpr ⟨hr, h.types⟩, h.envs⟩
  | env e => exact ⟨h.types, List.forall_mem_cons.mpr ⟨hr, h.envs⟩⟩

/-! ## Commands on the way -/

/-- A command that was started in `s` has come to this state within its rights. -/
structure Ran (c : Command) (s : Store) (state : State) : Prop where
  allows : c.rights.Allows s state.1
  kept : Kept state.1 state.2

/-- The rest of a command, which was started in `s`. -/
def Runs (c : Command) (s : Store) (x : SessionM Outcome) (state : State) : Prop :=
  Ends x state (fun out state' => Ran c s state' ∧ out.1.Held state'.1)
    (fun _ state' => Ran c s state')

/-- The rights are among those of the command. -/
def Rights.Fit (rights : Rights) (c : Command) : Prop :=
  c.binds = false → ∀ v, ¬ rights.bind v

theorem Ran.later {rights : Rights} (h : Ran c s (s₁, r)) (hfit : Rights.Fit rights c)
    (ha : rights.Allows s₁ s₂) : Ran c s (s₂, r) := by
  have hbind : ∀ v, rights.bind v → c.rights.bind v := by
    intro v hv
    cases hc : c.binds with
    | true => exact hc
    | false => exact absurd hv (hfit hc v)
  refine ⟨h.allows.trans ?_, h.kept.later ha⟩
  exact ha.mono (fun v _ => hbind v) (fun hn v hv => hn v (hbind v hv)) (fun _ => trivial)
    (fun _ => trivial) (fun _ => trivial) (fun _ _ => trivial)

/-- The end of a command. -/
theorem Ran.done {out : Outcome} (h : Ran c s state) (hout : out.1.Held state.1) :
    Runs c s (pure out) state :=
  ⟨h, hout⟩

theorem Ran.resultType {t : Ty} (h : Ran c s state) (ht : state.1.Holds t) :
    Runs c s (resultType t) state :=
  ⟨h, ht⟩

theorem Ran.throw {e : Error} (h : Ran c s state) : Runs c s (throw e) state := h

/-- A computation on the store as part of a command. -/
theorem Ran.lift {α : Type} {x : StoreM α} {f : α → SessionM Outcome} {rights : Rights}
    {P : α → Store → Prop} (h : Ran c s (s₁, r)) (hfit : Rights.Fit rights c)
    (hx : Ends x s₁ (fun a s₂ => rights.Allows s₁ s₂ ∧ P a s₂) (fun _ s₂ => rights.Allows s₁ s₂))
    (hf : ∀ a s₂, Ran c s (s₂, r) → rights.Allows s₁ s₂ → P a s₂ → Runs c s (f a) (s₂, r)) :
    Runs c s (liftM x >>= f) (s₁, r) := by
  unfold Runs
  rw [ends_bind, ends_lift]
  exact hx.mono (fun a s₂ ⟨ha, hP⟩ => hf a s₂ (h.later hfit ha) ha hP)
    (fun _ _ ha => h.later hfit ha)

/-- A computation on the store whose result does not matter for what follows. -/
theorem Ran.effect {α : Type} {x : StoreM α} {f : α → SessionM Outcome} {rights : Rights}
    (h : Ran c s (s₁, r)) (hfit : Rights.Fit rights c)
    (hx : Ends x s₁ (fun _ s₂ => rights.Allows s₁ s₂) (fun _ s₂ => rights.Allows s₁ s₂))
    (hf : ∀ a s₂, Ran c s (s₂, r) → rights.Allows s₁ s₂ → Runs c s (f a) (s₂, r)) :
    Runs c s (liftM x >>= f) (s₁, r) :=
  h.lift (P := fun _ _ => True) hfit (hx.mono (fun _ _ ha => ⟨ha, trivial⟩) (fun _ _ ha => ha))
    fun a s₂ h₂ ha _ => hf a s₂ h₂ ha

/-- What has been found under a name, if there was anything. -/
def found {α : Type} (name : String) : Option α → SessionM α
  | some a => return a
  | none => throw (.unknownRegister name)

theorem Ran.found {α : Type} {name : String} {entry : Option α} {f : α → SessionM Outcome}
    (h : Ran c s state) (hf : ∀ a, entry = some a → Runs c s (f a) state) :
    Runs c s (found name entry >>= f) state := by
  unfold Runs
  rw [ends_bind]
  cases entry with
  | none => exact h
  | some a => exact hf a rfl

theorem Ran.type {name : String} {f : Ty → SessionM Outcome} (h : Ran c s (s₁, r))
    (hf : ∀ t, r.types.lookup name = some t → s₁.Holds t → Runs c s (f t) (s₁, r)) :
    Runs c s (type name >>= f) (s₁, r) := by
  show Runs c s (Session.found name (r.types.lookup name) >>= f) (s₁, r)
  exact h.found fun t ht => hf t ht (h.kept.types _ (mem_of_lookup ht))

theorem Ran.env {name : String} {f : Env → SessionM Outcome} (h : Ran c s (s₁, r))
    (hf : ∀ e, e.Held s₁ → Runs c s (f e) (s₁, r)) :
    Runs c s (env name >>= f) (s₁, r) := by
  show Runs c s (Session.found name (r.envs.lookup name) >>= f) (s₁, r)
  exact h.found fun e he => hf e (h.kept.envs _ (mem_of_lookup he))

theorem Ran.namer {name : String} {f : Namer → SessionM Outcome} (h : Ran c s (s₁, r))
    (hf : ∀ n, Runs c s (f n) (s₁, r)) : Runs c s (namer name >>= f) (s₁, r) := by
  show Runs c s (Session.found name (r.namers.lookup name) >>= f) (s₁, r)
  exact h.found fun n _ => hf n

theorem Ran.var {name : String} {f : Var → SessionM Outcome} (h : Ran c s (s₁, r))
    (hf : ∀ v, r.types.lookup name = some (.var v) → s₁.Has v → Runs c s (f v) (s₁, r)) :
    Runs c s (var name >>= f) (s₁, r) := by
  unfold Session.var
  rw [bind_assoc]
  refine h.type fun t ht hheld => ?_
  cases t with
  | var v => exact hf v ht (holds_var.mp hheld)
  | con _ _ => exact h.throw
  | bare => exact h.throw

/-- What is read for each member of a list. -/
theorem Ran.mapM {α β : Type} {g : α → SessionM β} {P : β → Prop} {l : List α}
    (hg : ∀ a f, (∀ b, P b → Runs c s (f b) state) → Runs c s (g a >>= f) state) :
    ∀ {f : List β → SessionM Outcome}, (∀ bs, (∀ b ∈ bs, P b) → Runs c s (f bs) state) →
      Runs c s (l.mapM g >>= f) state := by
  induction l with
  | nil =>
    intro f hf
    exact hf [] nofun
  | cons a l ih =>
    intro f hf
    simp only [List.mapM_cons, bind_assoc, pure_bind]
    refine hg a _ fun b hb => ih fun bs hbs => ?_
    exact hf (b :: bs) (List.forall_mem_cons.mpr ⟨hb, hbs⟩)

theorem Ran.types {names : List String} {f : List Ty → SessionM Outcome} (h : Ran c s (s₁, r))
    (hf : ∀ ts, (∀ t ∈ ts, s₁.Holds t) → Runs c s (f ts) (s₁, r)) :
    Runs c s (names.mapM Session.type >>= f) (s₁, r) :=
  Ran.mapM (fun _ _ hf => h.type fun t _ ht => hf t ht) hf

/-- An outcome that was kept apart from the state. -/
theorem Ran.ofExcept {α : Type} {outcome : Except Error α} {f : α → SessionM Outcome}
    (h : Ran c s state) (hf : ∀ a, outcome = .ok a → Runs c s (f a) state) :
    Runs c s (MonadExcept.ofExcept outcome >>= f) state := by
  cases outcome with
  | error e => exact h
  | ok a => exact hf a rfl

/-- A computation with a state of its own whose outcome is kept apart. -/
theorem runFrom_ends {σ α : Type} {x : StoreWithM σ α} {own : σ} {rights : Rights}
    {P : α → Store → Prop}
    (hx : Ends x (s₁, own) (fun a p => rights.Allows s₁ p.1 ∧ P a p.1)
      (fun _ p => rights.Allows s₁ p.1)) :
    Ends (StoreWithM.runFrom own x) s₁
      (fun q s₂ => rights.Allows s₁ s₂ ∧ ∀ a, q.1 = .ok a → P a s₂)
      (fun _ s₂ => rights.Allows s₁ s₂) := by
  rw [ends_runFrom]
  refine hx.mono (fun a p ⟨ha, hP⟩ => ⟨ha, fun b hb => ?_⟩) (fun _ _ ha => ⟨ha, nofun⟩)
  rwa [← Except.ok.inj hb]

/-- A computation with a namer, which is kept afterwards. -/
theorem Ran.withNamer {α : Type} {name : Option String} {x : LabelM α} {f : α → SessionM Outcome}
    {rights : Rights} {P : α → Store → Prop} (h : Ran c s (s₁, r)) (hfit : Rights.Fit rights c)
    (hx : ∀ namer, Ends x (s₁, namer) (fun a p => rights.Allows s₁ p.1 ∧ P a p.1)
      (fun _ p => rights.Allows s₁ p.1))
    (hf : ∀ a s₂ r₂, Ran c s (s₂, r₂) → P a s₂ → Runs c s (f a) (s₂, r₂)) :
    Runs c s (withNamer name x >>= f) (s₁, r) := by
  unfold Session.withNamer
  cases name with
  | none => exact h.lift hfit (ends_within.mpr (hx {})) fun a s₂ h₂ _ hP => hf a s₂ r h₂ hP
  | some name =>
    simp only [bind_assoc]
    refine h.namer fun n => ?_
    refine h.lift hfit (runFrom_ends (hx n)) ?_
    rintro ⟨outcome, n'⟩ s₂ h₂ _ hP
    have h₃ : Ran c s (s₂, r.keep name (.namer n')) := ⟨h₂.allows, h₂.kept.types, h₂.kept.envs⟩
    show Runs c s (MonadExcept.ofExcept outcome >>= f) (s₂, r.keep name (.namer n'))
    exact h₃.ofExcept fun a ha => hf a s₂ _ h₃ (hP a ha)

/-- A computation that reports. -/
theorem Ran.reporting {α : Type} {x : TraceM α} {f : α → SessionM Outcome} {rights : Rights}
    {P : α → Store → Prop} (h : Ran c s (s₁, r)) (hfit : Rights.Fit rights c)
    (hx : Ends x (s₁, {}) (fun a p => rights.Allows s₁ p.1 ∧ P a p.1)
      (fun _ p => rights.Allows s₁ p.1))
    (hf : ∀ a s₂ r₂, Ran c s (s₂, r₂) → P a s₂ → Runs c s (f a) (s₂, r₂)) :
    Runs c s (reporting x >>= f) (s₁, r) := by
  unfold Session.reporting
  simp only [bind_assoc]
  have hrun : Ends (runTraced x) s₁
      (fun q s₂ => rights.Allows s₁ s₂ ∧ ∀ a, q.1 = .ok a → P a s₂)
      (fun _ s₂ => rights.Allows s₁ s₂) := by
    unfold runTraced
    rw [ends_bind]
    exact runFrom_ends hx
  refine h.lift hfit hrun ?_
  rintro ⟨outcome, messages⟩ s₂ h₂ _ hP
  have h₃ : Ran c s (s₂, { r with messages }) := ⟨h₂.allows, h₂.kept.types, h₂.kept.envs⟩
  show Runs c s (MonadExcept.ofExcept outcome >>= f) (s₂, { r with messages })
  exact h₃.ofExcept fun a ha => hf a s₂ _ h₃ (hP a ha)

/-! ## Every command -/

/-- A component is one of the types that it is taken from. -/
theorem mem_of_component {ts : List Ty} {i : Int} {t : Ty} (h : component ts i = .ok t) :
    t ∈ ts := by
  unfold component Position.get at h
  split at h
  · next hget =>
    split at hget
    · exact nomatch hget
    · dsimp only at hget
      split at hget
      · exact nomatch hget
      · split at hget
        · next hx =>
          rw [Except.ok.injEq, Prod.mk.injEq] at hget
          rw [Except.ok.injEq] at h
          rw [← h, ← hget.2]
          exact List.mem_of_getElem? hx
        · exact nomatch hget
  · exact nomatch h

theorem held_foldl_extend {entries : List (String × Ty)} : ∀ {e : Env}, e.Held s →
    (∀ p ∈ entries, s.Holds p.2) →
    (entries.foldl (fun (e : Env) (name, t) => e.extend name t) e).Held s := by
  induction entries with
  | nil => exact fun he _ => he
  | cons p entries ih =>
    intro e he hentries
    obtain ⟨hp, hrest⟩ := List.forall_mem_cons.mp hentries
    exact ih (he.extend p.1 hp) hrest

/-- A computation that only looks fits every command. -/
theorem fit_look : Rights.Fit Rights.look c := fun _ _ hb => hb

theorem fit_grow : Rights.Fit Rights.grow c := fun _ _ hb => hb

theorem Ran.prune {t : Ty} {f : Ty → SessionM Outcome} (h : Ran c s (s₁, r)) (ht : s₁.Holds t)
    (hf : ∀ u s₂, Ran c s (s₂, r) → s₂.Holds u → Runs c s (f u) (s₂, r)) :
    Runs c s (liftM (prune t) >>= f) (s₁, r) := by
  have hs := h.allows.valid
  have hshort := allows_shorten hs ht
  have hprune : Ends (LetPoly.prune t) s₁
      (fun u s₂ => Rights.look.Allows s₁ s₂ ∧ s₂.Holds u) (fun _ s₂ => Rights.look.Allows s₁ s₂) :=
    ⟨hshort, hshort.holds (hs.find_spec ht).1⟩
  exact h.lift fit_look hprune fun u s₂ h₂ _ hu => hf u s₂ h₂ hu

/-- A command whose result is the truth of something that is found out by looking. -/
theorem Ran.truth {x : StoreM Bool} {P : Bool → Prop} (h : Ran c s (s₁, r))
    (hx : Ends x s₁ (fun b s₂ => P b ∧ Rights.look.Allows s₁ s₂) (fun _ _ => False)) :
    Runs c s (do return truth (← liftM x)) (s₁, r) := by
  refine h.effect fit_look (hx.mono (fun _ _ hb => hb.2) (fun _ _ hb => hb.elim)) ?_
  exact fun b s₂ h₂ _ => h₂.done trivial

/-- A command that fails. -/
theorem Ran.fail {x : StoreM Outcome} {P : Error → Prop} (h : Ran c s (s₁, r))
    (hx : Ends x s₁ (fun _ _ => False) (fun e s₂ => Rights.look.Allows s₁ s₂ ∧ P e)) :
    Runs c s (liftM x) (s₁, r) := by
  unfold Runs
  rw [ends_lift]
  exact hx.mono (fun _ _ hb => hb.elim) (fun _ _ hb => h.later fit_look hb.1)

/-- A variable is made. -/
theorem Ran.make {rights : Rights} (h : Ran c s (s, r)) (push : Store → Var × Store)
    (hfit : Rights.Fit rights c) (ha : rights.Allows s (push s).2)
    (hv : (push s).2.Has (push s).1) :
    Runs c s (do Session.resultType (.var (← (modifyGet push : StoreM Var)))) (s, r) := by
  have hpush : Ends (modifyGet push : StoreM Var) s
      (fun v s₂ => rights.Allows s s₂ ∧ s₂.Has v) (fun _ s₂ => rights.Allows s s₂) :=
    ends_modifyGet.mpr ⟨ha, hv⟩
  exact h.lift hfit hpush fun v s₂ h₂ _ hhas => h₂.resultType (holds_var.mpr hhas)

/-- A new environment: what it starts from, and entries on top of that. -/
theorem env_runs {base : Base} {entries : List (String × String)} (h : Ran c s (s, r)) :
    Runs c s (execute (.env base entries)) (s, r) := by
  -- from the start on, which is held by the store
  have hrest : ∀ start s₁, Ran c s (s₁, r) → start.Held s₁ →
      Runs c s (do
        let entries ← entries.mapM fun a => return (a.1, ← type a.2)
        let e : Env := entries.foldl (fun e a => e.extend a.1 a.2) start
        return (.env e, .env (← e.showAll))) (s₁, r) := by
    intro start s₁ h₁ hstart
    have hread : ∀ (a : String × String) (f : String × Ty → SessionM Outcome),
        (∀ b, s₁.Holds b.2 → Runs c s (f b) (s₁, r)) →
        Runs c s ((do return (a.1, ← type a.2)) >>= f) (s₁, r) := by
      intro a f hf
      rw [bind_assoc]
      exact h₁.type fun t _ ht => hf (a.1, t) ht
    refine Ran.mapM hread fun bs hbs => ?_
    have he := held_foldl_extend hstart hbs
    exact h₁.effect fit_look (showAll_ends h₁.allows.valid he) fun _ s₂ h₂ ha =>
      h₂.done (he.later ha)
  cases base with
  | empty => exact hrest [] s h nofun
  | prelude =>
    exact h.lift fit_grow (prelude_ends h.allows.valid) fun e s₁ h₁ _ he => hrest e s₁ h₁ he
  | kept name => exact h.env fun e he => hrest e s h he

/-- The type of a term, reported on or not. -/
theorem analyse_runs {term : Except Error Term} {name : String} {pinned : List String}
    {traced : Bool} (h : Ran c s (s, r)) (hc : c.binds = true) :
    Runs c s (execute (.analyse term name pinned traced)) (s, r) := by
  refine h.ofExcept fun term _ => h.env fun e he => h.types fun ps hps => ?_
  have hset : Setting s e ps := ⟨h.allows.valid, he.lookup, hps⟩
  have hfit : Rights.Fit (Rights.analyse s e ps) c := fun hf => absurd (hc.symm.trans hf) nofun
  cases traced with
  | true =>
    have hana := (analyseTraced_ends term e ps (s, {}) hset).mono
      (fun _ _ ht => And.intro ht.allows ht.holds) (fun _ _ ha => ha)
    exact h.reporting (P := fun u s₂ => s₂.Holds u) hfit hana
      fun _ _ _ h₂ hu => h₂.resultType hu
  | false =>
    have hana := (analyse_ends term hset).mono
      (fun _ _ ht => And.intro ht.allows ht.holds) (fun _ _ ha => ha)
    exact h.lift hfit hana fun _ _ h₂ _ hu => h₂.resultType hu

/-- The type of a program, reported on or not. -/
theorem infer_runs {term : Except Error Term} {name : Option String} {traced : Bool}
    (h : Ran c s (s, r)) (hc : c.binds = true) :
    Runs c s (execute (.infer term name traced)) (s, r) := by
  have hs := h.allows.valid
  have hfit : Rights.Fit Rights.infer c := fun hf => absurd (hc.symm.trans hf) nofun
  refine h.ofExcept fun term _ => ?_
  -- from the environment on, if one is given
  have hrest : ∀ env : Option Env, (∀ e ∈ env, e.Held s) →
      Runs c s (if traced then do resultType (← reporting (inferTraced term env))
        else do resultType (← LetPoly.infer term env)) (s, r) := by
    intro env henv
    cases traced with
    | true =>
      have hinf : Ends (inferTraced term env) (s, {})
          (fun t p => Rights.infer.Allows s p.1 ∧ p.1.Holds t)
          (fun _ p => Rights.infer.Allows s p.1) :=
        inferWith_ends carries_fst (fun e => analyseTraced_ends term e []) hs henv
      exact h.reporting (P := fun u s₂ => s₂.Holds u) hfit hinf
        fun _ _ _ h₂ hu => h₂.resultType hu
    | false =>
      have hinf : Ends (LetPoly.infer term env) s
          (fun t s₂ => Rights.infer.Allows s s₂ ∧ s₂.Holds t)
          (fun _ s₂ => Rights.infer.Allows s s₂) :=
        infer_ends term hs henv
      exact h.lift hfit hinf fun _ _ h₂ _ hu => h₂.resultType hu
  cases name with
  | none => exact hrest none nofun
  | some name =>
    simp only [Option.mapM_some, map_eq_pure_bind, bind_assoc, pure_bind]
    refine h.env fun e he => hrest (some e) ?_
    rintro _ ⟨⟩
    exact he

/-- Every command keeps to its rights, and the store holds its result. -/
theorem execute_ends (hgood : Good (s, r)) (hsafe : c.Safe (s, r)) :
    Runs c s (execute c) (s, r) := by
  have hs : s.Valid := hgood.valid
  have h : Ran c s (s, r) := ⟨.refl hs, hgood.kept⟩
  cases c with
  | var id label =>
    exact h.make (·.pushAs id label) (fun _ _ hb => hb) (allows_pushAs hs id label)
      (has_pushAs.mpr (.inr rfl))
  | bare => exact h.resultType holds_bare
  | con name args => exact h.types fun ts hts => h.resultType (holds_con.mpr hts)
  | fn arg result =>
    exact h.type fun t _ ht => h.type fun u _ hu => h.resultType (holds_fn.mpr ⟨ht, hu⟩)
  | signature text =>
    have hsig : Ends (LetPoly.signature text) s
        (fun t s₂ => Rights.grow.Allows s s₂ ∧ s₂.Holds t)
        (fun _ s₂ => Rights.grow.Allows s s₂) := by
      refine (signature_ends text hs).mono (fun _ _ h => h) ?_
      rintro _ _ rfl
      exact .refl hs
    exact h.lift fit_grow hsig fun t s₂ h₂ _ ht => h₂.resultType ht
  | bind v t =>
    refine h.var fun w hw hhas => h.type fun u hu hheld => ?_
    have hbind : Ends (bindVar w u) s (fun _ s₂ => Rights.solve.Allows s s₂)
        (fun _ s₂ => Rights.solve.Allows s s₂) := by
      cases hb : s.binding w with
      | none =>
        rw [bindVar_ends hb]
        exact allows_setBinding hs hhas hb hheld (hsafe w u hw hu hb) trivial
          (fun _ _ => trivial) (.inr trivial)
      | some _ =>
        -- a bound variable is refused, and the store is not touched
        unfold bindVar
        rw [ends_bind, ends_get, hb]
        exact .refl hs
    exact h.effect (fun hc => nomatch hc) hbind fun _ s₂ h₂ _ => h₂.done trivial
  | prune t => exact h.type fun t _ ht => h.prune ht fun u s₂ h₂ hu => h₂.resultType hu
  | part t i =>
    refine h.type fun t _ ht => h.prune ht fun u s₂ h₂ hu => ?_
    cases u with
    | var v => exact h₂.throw
    | bare => exact h₂.throw
    | con name args =>
      exact h₂.ofExcept fun x hx => h₂.resultType (holds_con.mp hu x (mem_of_component hx))
  | unify a b =>
    refine h.type fun t _ ht => h.type fun u _ hu => ?_
    have hunify : Ends (LetPoly.unify t u) s (fun _ => (Rights.unify s [(t, u)]).Allows s)
        (fun _ => (Rights.unify s [(t, u)]).Allows s) :=
      (unify_ends hs ht hu).mono (fun _ _ hv => hv.allows) (fun _ _ hv => hv.allows)
    exact h.effect (fun hc => nomatch hc) hunify fun _ s₂ h₂ _ => h₂.done trivial
  | occurs v t => exact h.var fun w _ _ => h.type fun t _ ht => h.truth (occurs_ends hs ht w)
  | occursAny v ts =>
    exact h.var fun w _ _ => h.types fun ts hts => h.truth (occursAny_ends hs hts w)
  | isGeneric v pinned =>
    exact h.var fun w _ _ => h.types fun ps hps => h.truth (isGeneric_ends hs hps w)
  | fresh t pinned =>
    refine h.type fun t _ ht => h.types fun ps hps => ?_
    have hfresh : Ends (LetPoly.fresh t ps) s
        (fun u s₂ => Rights.grow.Allows s s₂ ∧ s₂.Holds u) (fun _ => Rights.grow.Allows s) :=
      (fresh_ends hs ht hps).mono (fun _ _ ⟨_, hf⟩ => ⟨hf.allows, hf.holds hs ht⟩)
        (fun _ _ hf => hf.1)
    exact h.lift fit_grow hfresh fun u s₂ h₂ _ hu => h₂.resultType hu
  | isFunction t => exact h.type fun t _ _ => h.done trivial
  | env base entries => exact env_runs h
  | showEnv env =>
    exact h.env fun e he =>
      h.effect fit_look (showAll_ends hs he) fun _ s₂ h₂ _ => h₂.done trivial
  | lookup name env pinned =>
    refine h.env fun e he => h.types fun ps hps => ?_
    have hname : Ends (typeOfName name e ps) s
        (fun u s₂ => Rights.grow.Allows s s₂ ∧ s₂.Holds u) (fun _ => Rights.grow.Allows s) :=
      (typeOfName_ends ⟨hs, he.lookup, hps⟩).mono (fun _ _ hu => ⟨hu.1, hu.2.holds⟩)
        (fun _ _ hu => hu)
    exact h.lift fit_grow hname fun u s₂ h₂ _ hu => h₂.resultType hu
  | analyse term env pinned traced => exact analyse_runs h rfl
  | infer term env traced => exact infer_runs h rfl
  | namer => exact h.done trivial
  | label v namer =>
    refine h.var fun w _ _ => ?_
    have hlabel : ∀ namer, Ends (labelOf w) (s, namer)
        (fun _ p => Rights.look.Allows s p.1 ∧ True) (fun _ p => Rights.look.Allows s p.1) :=
      fun _ => (labelOf_ends w hs).mono (fun _ _ hl => ⟨hl, trivial⟩) (fun _ _ hl => hl)
    exact h.withNamer (P := fun _ _ => True) fit_look hlabel fun _ _ _ h₂ _ => h₂.done trivial
  | showType t namer =>
    refine h.type fun t _ ht => ?_
    have hshow : ∀ namer, Ends (LetPoly.showType t) (s, namer)
        (fun _ p => Rights.look.Allows s p.1 ∧ True) (fun _ p => Rights.look.Allows s p.1) :=
      fun _ => (showType_ends hs ht).mono (fun _ _ hl => ⟨hl, trivial⟩) (fun _ _ hl => hl.1)
    exact h.withNamer (P := fun _ _ => True) fit_look hshow fun _ _ _ h₂ _ => h₂.done trivial
  | nameVariables t namer =>
    refine h.type fun t _ ht => ?_
    have hname : ∀ namer, Ends (LetPoly.nameVariables t) (s, namer)
        (fun u p => (Rights.mark (s.view t).vars).Allows s p.1 ∧ p.1.Holds u)
        (fun _ p => (Rights.mark (s.view t).vars).Allows s p.1) := by
      refine fun namer => (nameVariables_ends hs ht).mono ?_ (fun _ _ hl => hl.elim)
      rintro _ p ⟨rfl, hmark⟩
      exact ⟨hmark, hmark.holds (hs.find_spec ht).1⟩
    exact h.withNamer (P := fun u s₂ => s₂.Holds u) (fun _ _ hb => hb) hname
      fun _ _ _ h₂ hu => h₂.resultType hu
  | describe t => exact h.type fun t _ _ => h.done trivial
  | view t => exact h.type fun t _ _ => h.done trivial
  | chain t => exact h.type fun t _ _ => h.done trivial
  | mismatch a b =>
    exact h.type fun t _ ht => h.type fun u _ hu => h.fail (throwMismatch_ends hs ht hu)
  | recursive v t =>
    exact h.var fun w _ hw => h.type fun u _ hu => h.fail (throwRecursive_ends hs hw hu)

/-! ## Whole runs -/

/-- One step, whether it succeeds or fails. -/
theorem ran_step {st : Step} (hgood : Good state) (hsafe : st.command.Safe state) :
    Ran st.command state.1 (step st state).2 := by
  obtain ⟨s, r⟩ := state
  have hgood' : Good (s, { r with messages := [] }) :=
    ⟨hgood.valid, hgood.kept.types, hgood.kept.envs⟩
  have hends := execute_ends hgood' hsafe
  unfold Runs Ends at hends
  unfold step
  dsimp only
  split at hends
  · next out state' heq =>
    rw [heq]
    obtain ⟨hran, hheld⟩ := hends
    cases st.keep with
    | none => exact hran
    | some name => exact ⟨hran.allows, hran.kept.keep name hheld⟩
  · next e state' heq =>
    rw [heq]
    exact hends

theorem good_step {st : Step} (hgood : Good state) (hsafe : st.command.Safe state) :
    Good (step st state).2 :=
  ⟨(ran_step hgood hsafe).allows.valid, (ran_step hgood hsafe).kept⟩

/-- What holds between two steps holds after every safe run. -/
theorem good_runFrom {steps : List Step} : ∀ {state : State}, Good state → SafeRun state steps →
    Good (runFrom steps state).2 := by
  induction steps with
  | nil => exact fun hgood _ => hgood
  | cons st rest ih =>
    intro state hgood hsafe
    exact ih (good_step hgood hsafe.1) hsafe.2

theorem good_empty : Good (Store.empty, {}) where
  valid := valid_empty
  kept := ⟨by decide, nofun⟩

/-- The last step of a run. -/
theorem runFrom_append_singleton {before : List Step} {st : Step} : ∀ {state : State},
    (runFrom (before ++ [st]) state).2 = (step st (runFrom before state).2).2 := by
  induction before with
  | nil => exact rfl
  | cons first rest ih => exact ih

theorem safeRun_append_singleton {before : List Step} {st : Step} : ∀ {state : State},
    SafeRun state (before ++ [st]) ↔
      SafeRun state before ∧ st.command.Safe (runFrom before state).2 := by
  induction before with
  | nil =>
    intro state
    show _ ∧ True ↔ True ∧ _
    rw [and_true, true_and]
    exact Iff.rfl
  | cons first rest ih =>
    intro state
    show _ ∧ SafeRun _ (rest ++ [st]) ↔ (_ ∧ SafeRun _ rest) ∧ _
    rw [ih, and_assoc]
    exact Iff.rfl

/-- Every step of a session from the empty store, also one that fails midway, keeps the bindings
free of cycles and bound variables bound, and changes all views by one substitution for unbound
variables, which does nothing unless the command is one of those that bind. -/
theorem session_views (before : List Step) (st : Step)
    (hsafe : SafeRun (Store.empty, {}) (before ++ [st])) :
    let s := (runFrom before (Store.empty, {})).2.1
    let s' := (runFrom (before ++ [st]) (Store.empty, {})).2.1
    (s.Acyclic ∧ ∀ t, s.Holds t → s.Unfolds t (s.view t)) ∧
    (s'.Acyclic ∧ ∀ t, s'.Holds t → s'.Unfolds t (s'.view t)) ∧
    (∀ v, s.binding v ≠ none → s'.binding v ≠ none) ∧
    ∃ σ : Var → Ty, (∀ v, s.binding v ≠ none → σ v = .var v) ∧
      (∀ t, s.Holds t → s'.view t = (s.view t).subst σ) ∧
      (st.command.binds = false → σ = Ty.var) := by
  intro s s'
  obtain ⟨hbefore, hlast⟩ := safeRun_append_singleton.mp hsafe
  have hgood := good_runFrom good_empty hbefore
  have hran := ran_step hgood hlast
  rw [← runFrom_append_singleton] at hran
  have hs : s.Valid := hgood.valid
  have hs' : s'.Valid := hran.allows.valid
  obtain ⟨σ, hbound, hview, hid⟩ := hran.allows.exists_subst hs
  refine ⟨⟨hs.acyclic, fun t ht => hs.unfolds_view ht⟩,
    ⟨hs'.acyclic, fun t ht => hs'.unfolds_view ht⟩, hran.allows.bound, σ, hbound, hview, ?_⟩
  intro hbinds
  exact hid fun v hb => absurd (hbinds.symm.trans hb) nofun

/-- A session that binds one variable to another by hand and then fails to unify two operators after
their first components have been unified. -/
def failingSession : List Step :=
  [{ command := .var, keep := some "a" },
   { command := .var, keep := some "b" },
   { command := .bind "a" "b" },
   { command := .con "pair" ["a", "int"], keep := some "p" },
   { command := .con "pair" ["bool", "bool"], keep := some "q" }]

theorem session_views_failing :
    let s := (runFrom failingSession (Store.empty, {})).2.1
    let s' := (runFrom (failingSession ++ [{ command := .unify "p" "q" }]) (Store.empty, {})).2.1
    (s.Acyclic ∧ ∀ t, s.Holds t → s.Unfolds t (s.view t)) ∧
    (s'.Acyclic ∧ ∀ t, s'.Holds t → s'.Unfolds t (s'.view t)) ∧
    (∀ v, s.binding v ≠ none → s'.binding v ≠ none) ∧
    ∃ σ : Var → Ty, (∀ v, s.binding v ≠ none → σ v = .var v) ∧
      (∀ t, s.Holds t → s'.view t = (s.view t).subst σ) ∧
      ((Command.unify "p" "q").binds = false → σ = Ty.var) := by
  refine session_views failingSession { command := .unify "p" "q" } ⟨trivial, trivial, ?_, trivial,
    trivial, trivial, trivial⟩
  intro w u hw hu _
  obtain ⟨rfl⟩ : some (Ty.var ⟨0⟩) = some (.var w) := hw
  obtain ⟨rfl⟩ : some (Ty.var ⟨1⟩) = some u := hu
  decide

end LetPoly.Session
