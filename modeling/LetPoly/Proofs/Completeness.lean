import LetPoly.Proofs.Contexts

/-!
# Completeness of inference

If a term has a type at all, analysis finds one, and every type of the term comes from it by a
substitution. The induction is on the derivation. On the way there is a substitution for the
variables of the store that makes the types found so far those of the derivation; each step of
analysis refines it, and unification cannot fail because the substitution is a unifier.

* `Refines` — a later substitution says the same of older types
* `Models` — names have at most the types in the derivation that they have in analysis
* `Models.definition` — pinned variables, also those of shadowed parameters, never make a definition
  less general than the rules do
-/

namespace LetPoly

open Store

variable {s s₁ s₂ : Store} {t u : Ty} {e : Term} {v : Var} {env : Env} {pinned : List Ty}
  {r : Rights} {θ θ₁ θ₂ : Var → Ty} {Γ : Context} {S : Scheme}

/-! ## Substitutions on the way -/

/-- The substitution `θ₁` makes of a type in `s₁` what `θ` made of it in `s`. -/
def Refines (s : Store) (θ : Var → Ty) (s₁ : Store) (θ₁ : Var → Ty) : Prop :=
  ∀ t, s.Holds t → (s₁.view t).subst θ₁ = (s.view t).subst θ

theorem Refines.trans (h₁ : Refines s θ s₁ θ₁) (ha : r.Allows s s₁)
    (h₂ : Refines s₁ θ₁ s₂ θ₂) : Refines s θ s₂ θ₂ :=
  fun t ht => (h₂ t (ha.holds ht)).trans (h₁ t ht)

/-- Without binding, a substitution may be changed on new variables. -/
theorem Refines.of_grow (ha : Rights.grow.Allows s s₁) (hs : s.Valid)
    (hθ : ∀ v, s.Has v → θ₁ v = θ v) : Refines s θ s₁ θ₁ := by
  intro t ht
  rw [ha.view_eq (fun _ hb => hb) hs ht]
  exact Ty.subst_congr fun v hv => hθ v (hs.holds_view ht v hv)

/-- The substitution with one variable changed. -/
def assignVar (θ : Var → Ty) (v : Var) (t : Ty) (w : Var) : Ty := if w = v then t else θ w

theorem refines_pushNext (hs : s.Valid) (θ : Var → Ty) (t : Ty) :
    Refines s θ (s.pushNext none).2 (assignVar θ (s.pushNext none).1 t) := by
  refine .of_grow (allows_pushNext hs) hs fun v hv => if_neg ?_
  rintro rfl
  exact not_has_pushNext none hv

/-- The new variable then stands for the chosen type. -/
theorem subst_pushNext (s : Store) (θ : Var → Ty) (t : Ty) :
    ((s.pushNext none).2.view (.var (s.pushNext none).1)).subst
      (assignVar θ (s.pushNext none).1 t) = t := by
  rw [view_var_of_unbound (binding_pushNext_self none), Ty.subst_var]
  exact if_pos rfl

/-! ## Contexts of derivations -/

/-- Every name of the context is one of the environment, where it has at least the same types under
`θ`. -/
def Models (Γ : Context) (s : Store) (env : Env) (pinned : List Ty) (θ : Var → Ty) : Prop :=
  ∀ x, (Γ.lookup x = none → env.lookup x = none) ∧
    ∀ S, Γ.lookup x = some S →
      ∃ t, env.lookup x = some t ∧ ∀ u, S.Instance u → (s.scheme pinned t).Gives θ u

theorem Models.extend (h : Models Γ s env pinned θ) (x : String)
    (hS : ∀ u, S.Instance u → (s.scheme pinned t).Gives θ u) :
    Models ((x, S) :: Γ) s (env.extend x t) pinned θ := by
  intro y
  rw [lookup_cons_eq, lookup_extend]
  by_cases hy : y = x
  · rw [if_pos hy, if_pos hy]
    refine ⟨nofun, ?_⟩
    rintro _ ⟨⟩
    exact ⟨t, rfl, hS⟩
  · rw [if_neg hy, if_neg hy]
    exact h y

/-- A type may be pinned whose variables are not in the environment. -/
theorem Models.pin {p : Ty} (h : Models Γ s env pinned θ)
    (hp : ∀ v ∈ (s.view p).vars, ¬ Visible s env v) : Models Γ s env (p :: pinned) θ := by
  refine fun x => ⟨(h x).1, fun S hS => ?_⟩
  obtain ⟨t, ht, hgives⟩ := (h x).2 S hS
  refine ⟨t, ht, fun u hu => (hgives u hu).of_free rfl fun v hv => ?_⟩
  obtain ⟨hmem, q, hq, hvq⟩ := free_scheme.mp hv
  rcases List.mem_cons.mp hq with rfl | hq
  · exact absurd ⟨x, t, ht, hmem⟩ (hp v hvq)
  · exact free_scheme.mpr ⟨hmem, q, hq, hvq⟩

/-- As analysis goes on, the environment goes on to give what the context gives. -/
theorem Models.later (h : Models Γ s env pinned θ) (ha : r.Allows s s₁)
    (hset : Setting s env pinned) (hpin : ∀ v, Visible s env v → r.bind v → Pins s pinned v)
    (href : Refines s θ s₁ θ₁) : Models Γ s₁ env pinned θ₁ := by
  refine fun x => ⟨(h x).1, fun S hS => ?_⟩
  obtain ⟨t, ht, hgives⟩ := (h x).2 S hS
  have hholds := hset.holds_env x t ht
  refine ⟨t, ht, fun u hu => ?_⟩
  refine gives_later ha hset.valid hholds hset.holds_pinned (fun v hv => hpin v ⟨x, t, ht, hv⟩) ?_
    (hgives u hu)
  intro v hv _
  obtain ⟨hhas, hunb⟩ := hset.valid.unbound_of_mem_view hholds v hv
  have hvar := href (.var v) (holds_var.mpr hhas)
  rw [view_var_of_unbound hunb, Ty.subst_var] at hvar
  exact hvar.symm

/-- What exposed variables stand for in a derivation has only variables that are free in its
context. -/
theorem Models.free_of_exposed (h : Models Γ s env pinned θ) (hv : Exposed s env pinned v) :
    ∀ w ∈ (θ v).vars, Γ.Free w := by
  intro w hw
  obtain ⟨⟨x, t, ht, hmem⟩, hpin⟩ := hv
  cases hx : Γ.lookup x with
  | none =>
    rw [(h x).1 hx] at ht
    exact nomatch ht
  | some S =>
    obtain ⟨t', ht', hgives⟩ := (h x).2 S hx
    obtain rfl : t = t' := by
      rw [ht, Option.some.injEq] at ht'
      exact ht'
    -- an instance in which nothing but free variables is left
    obtain ⟨u, hinst, hfree⟩ := S.exists_instance
    obtain ⟨ρ, hρ, rfl⟩ := hgives u hinst
    refine ⟨x, S, hx, hfree w (Ty.mem_vars_subst.mpr ⟨v, hmem, ?_⟩)⟩
    rwa [hρ v (free_scheme.mpr ⟨hmem, hpin⟩)]

/-- A definition is at least as general in the environment as in the context. -/
theorem Models.definition (h : Models Γ s env pinned θ)
    (hexp : ∀ v ∈ (s.view t).vars, Pins s pinned v → Exposed s env pinned v) :
    ∀ u, (Γ.generalize ((s.view t).subst θ)).Instance u → (s.scheme pinned t).Gives θ u := by
  rintro u ⟨φ, hφ, rfl⟩
  refine ⟨fun v => (θ v).subst φ, fun v hv => ?_, Ty.subst_subst ..⟩
  obtain ⟨hmem, hpin⟩ := free_scheme.mp hv
  refine Ty.subst_eq_self fun w hw => hφ w (Context.free_generalize.mpr ⟨?_, ?_⟩)
  · exact Ty.mem_vars_subst.mpr ⟨v, hmem, hw⟩
  · exact h.free_of_exposed (hexp v hmem hpin) w hw

/-- The parameter of a function, and of a recursive definition. -/
theorem Models.param (h : Models Γ s env pinned θ) (hset : Setting s env pinned) (x : String)
    (t : Ty) :
    Models ((x, .mono t) :: Γ) (s.pushNext none).2 (env.extend x (.var (s.pushNext none).1))
      (.var (s.pushNext none).1 :: pinned) (assignVar θ (s.pushNext none).1 t) := by
  have hgrow := allows_pushNext hset.valid
  have hlater := h.later hgrow hset (fun _ _ hb => hb.elim) (refines_pushNext hset.valid θ t)
  refine (hlater.pin ?_).extend x ?_
  · rintro v hv ⟨y, u, hl, hmem⟩
    rw [view_var_of_unbound (binding_pushNext_self none), Ty.vars_var, List.mem_singleton] at hv
    rw [hv, hgrow.view_eq (fun _ hb => hb) hset.valid (hset.holds_env y u hl)] at hmem
    exact not_has_pushNext none (hset.valid.holds_view (hset.holds_env y u hl) _ hmem)
  · intro u hu
    rw [Scheme.gives_mono.mp hu, Ty.subst_id]
    exact ⟨_, fun _ _ => rfl, (subst_pushNext s θ t).symm⟩

/-! ## Steps of analysis -/

/-- Looking a name up gives every type that the context gives to the name. -/
theorem typeOfName_complete {x : String} (hset : Setting s env pinned) (hn : s.Numbered)
    (hplain : PlainEnv s env) (hx : env.lookup x = some t)
    (hgives : (s.scheme pinned t).Gives θ u) :
    Ends (typeOfName x env pinned) s
      (fun r s₁ => ∃ θ₁, Refines s θ s₁ θ₁ ∧ (s₁.view r).subst θ₁ = u) (fun _ _ => False) := by
  have hs := hset.valid
  have ht := hset.holds_env x t hx
  obtain ⟨ρ, hρ, rfl⟩ := hgives
  unfold typeOfName
  rw [hx]
  refine (fresh_ends hs ht hset.holds_pinned).mono ?_ (fun _ _ h => h.2 (hplain x t hx))
  rintro r s₁ ⟨f, hf⟩
  obtain ⟨θ₁, hθ₁, heq⟩ :=
    hf.exists_subst hs hn ht fun v hv hpin => hρ v (free_scheme.mpr ⟨hv, hpin⟩)
  refine ⟨θ₁, .of_grow hf.allows hs hθ₁, ?_⟩
  rw [hf.view_eq hs ht, heq]
  rfl

/-- Types that a substitution makes equal are unified, and it refines itself. -/
theorem unify_complete (hs : s.Valid) (ht : s.Holds t) (hu : s.Holds u)
    (hpt : (s.view t).Plain) (hpu : (s.view u).Plain)
    (hθ : (s.view t).subst θ = (s.view u).subst θ) :
    Ends (unify t u) s
      (fun _ s₁ => (Rights.unify s [(t, u)]).Allows s s₁ ∧ Refines s θ s₁ θ)
      (fun _ _ => False) :=
  (unify_ends hs ht hu).mono (fun _ _ h => ⟨h.allows, fun _ hx => h.subst_view hs ht hu hθ hx⟩)
    (fun _ _ h => (h.subst_ne hs ht hu hpt hpu).2 θ hθ)

/-- The last step of an application finds every type that the function may return. -/
theorem call_complete {τ τ' : Ty} (hplain : PlainEnv s env) (ht : Analysed s env pinned t s₁)
    (hu : Analysed s env pinned u s₁) (hθt : (s₁.view t).subst θ = .fn τ τ')
    (hθu : (s₁.view u).subst θ = τ) :
    Ends (do let v ← newVar; unify (.fn u (.var v)) t; return .var v) s₁
      (fun r s₂ => ∃ θ₂, Refines s₁ θ s₂ θ₂ ∧ (s₂.view r).subst θ₂ = τ') (fun _ _ => False) := by
  have hv := analysed_pushNext ht.allows.valid ht.allows
  have h₂ : (Rights.analyse s env pinned).Allows s₁ (s₁.pushNext none).2 :=
    (allows_pushNext ht.allows.valid).grow_analyse
  have hu₂ := hu.later h₂
  have hfn := hu₂.fn hv
  have ht₂ := ht.later h₂
  have href := refines_pushNext ht.allows.valid θ τ'
  -- the new variable is to stand for what the function returns in the derivation
  have hunifier : ((s₁.pushNext none).2.view (.fn u (.var (s₁.pushNext none).1))).subst
        (assignVar θ (s₁.pushNext none).1 τ') =
      ((s₁.pushNext none).2.view t).subst (assignVar θ (s₁.pushNext none).1 τ') := by
    rw [hv.allows.valid.view_fn hu₂.holds hv.holds, Ty.subst_fn, href u hu.holds, hθu,
      subst_pushNext, href t ht.holds, hθt]
  rw [ends_bind, ends_newVar, ends_bind]
  refine (unify_complete hv.allows.valid hfn.holds ht₂.holds (hfn.plain hplain)
    (ht₂.plain hplain) hunifier).mono ?_ (fun _ _ h => h)
  rintro _ s₃ ⟨h₃, href₃⟩
  rw [ends_pure]
  refine ⟨_, href.trans h₂ href₃, ?_⟩
  rw [href₃ _ hv.holds, subst_pushNext]

/-- The types of a derivation are among those that come from what analysis finds. -/
theorem analyse_complete_ends (h : HasType Γ e t) : ∀ {s : Store} {env : Env} {pinned : List Ty}
    {θ : Var → Ty}, Setting s env pinned → s.Numbered → PlainEnv s env → Models Γ s env pinned θ →
    Ends (analyse e env pinned) s
      (fun r s₁ => ∃ θ₁, Refines s θ s₁ θ₁ ∧ (s₁.view r).subst θ₁ = t) (fun _ _ => False) := by
  induction h with
  | @ident Γ x S t hx hinst =>
    intro s env pinned θ hset hn hplain hmod
    obtain ⟨t₀, ht₀, hgives⟩ := (hmod x).2 S hx
    exact typeOfName_complete hset hn hplain ht₀ (hgives t hinst)
  | @literal Γ x hx hint =>
    intro s env pinned θ hset _ _ hmod
    rw [analyse_ident]
    unfold typeOfName
    rw [(hmod x).1 hx, hint]
    refine ⟨θ, fun _ _ => rfl, ?_⟩
    rw [hset.valid.view_int, Ty.subst_int]
  | @lam Γ x body t u _ ih =>
    intro s env pinned θ hset hn hplain hmod
    have hv := hset.newVar
    have hsub := ih (hset.param x) (hv.allows.numbered (fun h => h) hn)
      ((hset.within_param x).plain hplain) (hmod.param hset x t)
    rw [analyse_lam, ends_bind, ends_newVar, ends_bind]
    refine ((analyse_ends body (hset.param x)).and hsub).mono ?_ (fun _ _ h => h.2)
    rintro r s₂ ⟨hr, θ₂, href, heq⟩
    rw [ends_pure]
    refine ⟨θ₂, (refines_pushNext hset.valid θ t).trans hv.allows href, ?_⟩
    rw [hr.allows.valid.view_fn (hr.allows.holds hv.holds) hr.holds, Ty.subst_fn, heq,
      href _ hv.holds, subst_pushNext]
  | @app Γ f a t u _ _ ihf iha =>
    intro s env pinned θ hset hn hplain hmod
    rw [analyse_app, ends_bind]
    refine ((analyse_ends f hset).and (ihf hset hn hplain hmod)).mono ?_ (fun _ _ h => h.2)
    rintro tf s₁ ⟨htf, θ₁, href₁, heqf⟩
    have hset₁ := hset.later htf.allows
    have hmod₁ := hmod.later htf.allows hset (pins_of_visible (.refl hset.valid) hset) href₁
    have hsub := iha hset₁ (htf.allows.numbered (fun h => h) hn)
      ((Within.of_allows hset htf.allows).plain hplain) hmod₁
    rw [ends_bind]
    refine ((analyse_ends a hset₁).and hsub).mono ?_ (fun _ _ h => h.2)
    rintro ta s₂ ⟨hta₁, θ₂, href₂, heqa⟩
    obtain ⟨hta, h₂⟩ := htf.next hset hta₁
    refine (call_complete hplain (htf.later h₂) hta
      ((href₂ tf htf.holds).trans heqf) heqa).mono ?_ (fun _ _ h => h)
    rintro r s₃ ⟨θ₃, href₃, heq⟩
    exact ⟨θ₃, (href₁.trans htf.allows href₂).trans hta.allows href₃, heq⟩
  | @letIn Γ x d b t u _ _ ihd ihb =>
    intro s env pinned θ hset hn hplain hmod
    rw [analyse_letIn, ends_bind]
    refine ((analyse_ends d hset).and (ihd hset hn hplain hmod)).mono ?_ (fun _ _ h => h.2)
    rintro td s₁ ⟨htd, θ₁, href₁, rfl⟩
    have hmod₁ := hmod.later htd.allows hset (pins_of_visible (.refl hset.valid) hset) href₁
    -- nothing that the rules generalize is pinned
    have hdef := hmod₁.definition (htd.exposed_of_pins hset)
    refine (ihb (hset.definition htd x) (htd.allows.numbered (fun h => h) hn)
      ((hset.within_definition htd x).plain hplain) (hmod₁.extend x hdef)).mono ?_
      (fun _ _ h => h)
    rintro r s₂ ⟨θ₂, href₂, heq⟩
    exact ⟨θ₂, href₁.trans htd.allows href₂, heq⟩
  | @letrec Γ x d b t u _ _ ihd ihb =>
    intro s env pinned θ hset hn hplain hmod
    have hv := hset.newVar
    have hsub := ihd (hset.param x) (hv.allows.numbered (fun h => h) hn)
      ((hset.within_param x).plain hplain) (hmod.param hset x t)
    rw [analyse_letrec, ends_bind, ends_newVar, ends_bind]
    refine ((analyse_ends d (hset.param x)).and hsub).mono ?_ (fun _ _ h => h.2)
    rintro td s₂ ⟨htd₁, θ₂, href₂, heqd⟩
    have htd := (hset.within_param x).analysed hv.allows htd₁
    have hv₂ := hv.later ((hset.within_param x).allows htd₁.allows)
    -- the recursive name stands for the type of the definition
    have hself : (s₂.view (.var (s.pushNext none).1)).subst θ₂ = t := by
      rw [href₂ _ hv.holds, subst_pushNext]
    rw [ends_bind]
    refine (unify_complete htd.allows.valid hv₂.holds htd.holds (hv₂.plain hplain)
      (htd.plain hplain) (hself.trans heqd.symm)).mono ?_ (fun _ _ h => h)
    rintro _ s₃ ⟨hun, href₃⟩
    have hv₃ := hv₂.later (hv₂.allows_unify htd hun)
    have href := ((refines_pushNext hset.valid θ t).trans hv.allows href₂).trans htd.allows href₃
    have hmod₃ := hmod.later hv₃.allows hset (pins_of_visible (.refl hset.valid) hset) href
    have hdef := hmod₃.definition (hv₃.exposed_of_pins hset)
    rw [href₃ _ hv₂.holds, hself] at hdef
    refine (ihb (hset.definition hv₃ x) (hv₃.allows.numbered (fun h => h) hn)
      ((hset.within_definition hv₃ x).plain hplain) (hmod₃.extend x hdef)).mono ?_
      (fun _ _ h => h)
    rintro r s₄ ⟨θ₄, href₄, heq⟩
    exact ⟨θ₄, href.trans hv₃.allows href₄, heq⟩

/-! ## Inference -/

/-- With nothing pinned, an environment models the context that it stands for. -/
theorem models_context (s : Store) (env : Env) : Models (s.context env []) s env [] Ty.var := by
  intro x
  rw [lookup_context]
  cases env.lookup x with
  | none => exact ⟨fun _ => rfl, nofun⟩
  | some t =>
    refine ⟨nofun, ?_⟩
    rintro _ ⟨⟩
    exact ⟨t, rfl, fun u hu => hu⟩

theorem infer_complete_ends (hset : Setting s env []) (hn : s.Numbered) (hplain : PlainEnv s env)
    (h : HasType (s.context env []) e t) :
    Ends (infer e (some env)) s (fun r s₁ => ∃ θ, t = (s₁.view r).subst θ)
      (fun _ _ => False) := by
  refine infer_some_ends hset ((analyse_complete_ends h hset hn hplain (models_context s env)).mono
    ?_ (fun _ _ h => h))
  rintro r s₁ ⟨θ, _, heq⟩ s₂ _ hview
  exact ⟨θ, by rw [hview, heq]⟩

/-- If a program has a type, inference returns a type from which all its types come by
substitution; so a program for which inference fails has no type. -/
theorem inference_complete (hset : Setting s env []) (hn : s.Numbered) (hplain : PlainEnv s env) :
    (∀ t, HasType (s.context env []) e t →
      ∃ r s₁, infer e (some env) s = .ok r s₁ ∧ ∃ θ, t = (s₁.view r).subst θ) ∧
    ∀ err s₁, infer e (some env) s = .error err s₁ → ∀ t, ¬ HasType (s.context env []) e t := by
  constructor
  · intro t ht
    exact (infer_complete_ends hset hn hplain ht).exists_ok
  · intro err s₁ herr t ht
    exact (infer_complete_ends hset hn hplain ht).of_error herr

/-- An environment with a function on functions. -/
def functionEnv : Env := [("twice", .fn (.var ⟨0⟩) (.var ⟨0⟩))]

theorem inference_complete_function :
    (∃ r s₁, infer (.app (.ident "twice") (.lam "x" (.ident "x"))) (some functionEnv)
      functionStore = .ok r s₁ ∧ ∃ θ, .fn .int .int = (s₁.view r).subst θ) ∧
    ∀ t, ¬ HasType (functionStore.context functionEnv [])
      (.lam "x" (.app (.ident "x") (.ident "x"))) t := by
  have hheld : ∀ p ∈ functionEnv, functionStore.Holds p.2 := by decide
  have hset : Setting functionStore functionEnv [] :=
    ⟨functionStore_allows.valid, fun x t ht => hheld (x, t) (mem_of_lookup ht), nofun⟩
  have hn : functionStore.Numbered := functionStore_allows.numbered (fun h => h) numbered_empty
  have hplain : PlainEnv functionStore functionEnv := by
    intro x t ht
    obtain ⟨_, rfl⟩ := Prod.mk.inj (List.mem_singleton.mp (mem_of_lookup ht))
    show (Ty.fn (.fn (.var ⟨1⟩) (.var ⟨1⟩)) (.fn (.var ⟨1⟩) (.var ⟨1⟩))).Plain
    simp
  constructor
  · have hid : HasType (functionStore.context functionEnv []) (.lam "x" (.ident "x"))
        (.fn .int .int) :=
      .lam (.ident rfl (Scheme.gives_mono.mpr rfl))
    refine (inference_complete hset hn hplain).1 _ (.app (.ident rfl ?_) hid)
    refine ⟨fun _ => .int, fun v hv => ?_, rfl⟩
    obtain ⟨_, p, hp, _⟩ := free_scheme.mp hv
    exact nomatch hp
  · have hfails : (match infer (.lam "x" (.app (.ident "x") (.ident "x"))) (some functionEnv)
          functionStore with
        | .ok _ _ => false
        | .error _ _ => true) = true := by decide +kernel
    cases h : infer (.lam "x" (.app (.ident "x") (.ident "x"))) (some functionEnv)
      functionStore with
    | ok r s₁ =>
      rw [h] at hfails
      exact nomatch hfails
    | error err s₁ => exact (inference_complete hset hn hplain).2 err s₁ h

end LetPoly
