import LetPoly.Proofs.Contexts

/-!
# Soundness of inference

The type that analysis finds is a type of the term, in the context that the environment stands for
when analysis has ended. The induction is on the term. What has been typed for a part of it is
carried along to the end by `HasType.later`: the bindings that are made in between are a
substitution that leaves the quantified variables of the context alone.
-/

namespace LetPoly

open Store

variable {s s' s₁ : Store} {t : Ty} {e : Term} {env : Env} {pinned : List Ty} {r : Rights}

/-! ## Contexts of a store -/

/-- As analysis goes on, the context goes on to give what it gave. -/
theorem covers_later (h : r.Allows s s₁) (hset : Setting s env pinned)
    (hpin : ∀ v, Visible s env v → r.bind v → Pins s pinned v) :
    Context.Covers s₁.meaning (s.context env pinned) (s₁.context env pinned) := by
  intro x
  rw [lookup_context, lookup_context]
  cases hx : env.lookup x with
  | none => exact ⟨fun _ => rfl, nofun⟩
  | some t =>
    refine ⟨nofun, ?_⟩
    rintro _ ⟨⟩
    refine ⟨s₁.scheme pinned t, rfl, fun u hu => ?_⟩
    refine gives_later h hset.valid (hset.holds_env x t hx) hset.holds_pinned
      (fun v hv => hpin v ⟨x, t, hx, hv⟩) (fun v _ _ => ?_) hu
    rw [Ty.subst_id]

/-- While a recursive definition is analysed its own type is pinned. -/
theorem pins_of_visible_param {x : String} {p : Ty}
    (h : (Rights.analyse s env pinned).Allows s s₁) (hset : Setting s env pinned) (v : Var)
    (hv : Visible s₁ (env.extend x p) v) (hb : (Rights.analyse s env pinned).bind v) :
    Pins s₁ (p :: pinned) v := by
  obtain ⟨y, t, ht, hmem⟩ := hv
  rw [lookup_extend] at ht
  split at ht
  · rw [Option.some.injEq] at ht
    rw [← ht] at hmem
    exact ⟨p, List.mem_cons_self, hmem⟩
  · obtain ⟨q, hq, hvq⟩ := pins_of_visible h hset v ⟨y, t, ht, hmem⟩ hb
    exact ⟨q, List.mem_cons_of_mem _ hq, hvq⟩

theorem HasType.later (h : HasType (s.context env pinned) e (s.view t)) (ha : r.Allows s s₁)
    (hset : Setting s env pinned) (hpin : ∀ v, Visible s env v → r.bind v → Pins s pinned v)
    (ht : s.Holds t) : HasType (s₁.context env pinned) e (s₁.view t) := by
  rw [ha.view_eq_subst hset.valid ht]
  exact h.subst (covers_later ha hset hpin)

/-- With fewer types pinned a context is more general. -/
theorem covers_unpin (s : Store) (env : Env) (pinned : List Ty) (p : Ty) :
    Context.Covers Ty.var (s.context env (p :: pinned)) (s.context env pinned) := by
  intro x
  rw [lookup_context, lookup_context]
  cases env.lookup x with
  | none => exact ⟨fun _ => rfl, nofun⟩
  | some t =>
    refine ⟨nofun, ?_⟩
    rintro _ ⟨⟩
    refine ⟨s.scheme pinned t, rfl, fun u hu => hu.of_free rfl fun v hv => ?_⟩
    obtain ⟨hmem, q, hq, hvq⟩ := free_scheme.mp hv
    exact free_scheme.mpr ⟨hmem, q, List.mem_cons_of_mem _ hq, hvq⟩

/-- A pinned type in the environment is a parameter of the context. -/
theorem covers_param (s : Store) (env : Env) (pinned : List Ty) (x : String) (t : Ty) :
    Context.Covers Ty.var (s.context (env.extend x t) (t :: pinned))
      ((x, .mono (s.view t)) :: s.context env pinned) := by
  refine (covers_unpin s env pinned t).cons x fun u hu => hu.of_free rfl fun v hv => ?_
  exact free_scheme.mpr ⟨Scheme.free_mono.mp hv, t, List.mem_cons_self, Scheme.free_mono.mp hv⟩

/-- Any other type in the environment is at most as general as a definition of the context. -/
theorem covers_definition (s : Store) (env : Env) (pinned : List Ty) (x : String) (t : Ty) :
    Context.Covers Ty.var (s.context (env.extend x t) pinned)
      ((x, (s.context env pinned).generalize (s.view t)) :: s.context env pinned) := by
  refine (Context.covers_refl _).cons x fun u hu => hu.of_free rfl fun v hv => ?_
  obtain ⟨hmem, hfree⟩ := Context.free_generalize.mp hv
  exact free_scheme.mpr ⟨hmem, (free_context.mp hfree).2⟩

/-! ## Analysis -/

theorem typeOfName_sound {x : String} (hset : Setting s env pinned) :
    Ends (typeOfName x env pinned) s
      (fun t s' => HasType (s'.context env pinned) (.ident x) (s'.view t)) (fun _ _ => True) := by
  have hs := hset.valid
  unfold typeOfName
  cases hx : env.lookup x with
  | some t =>
    have ht : s.Holds t := hset.holds_env x t hx
    refine (fresh_ends hs ht hset.holds_pinned).mono ?_ (fun _ _ _ => trivial)
    rintro u s' ⟨f, hf⟩
    refine .ident (S := s'.scheme pinned t) (by rw [lookup_context, hx, Option.map_some]) ?_
    refine ⟨renameGeneric s pinned f, fun v hv => ?_, ?_⟩
    · have hpin : Pins s pinned v :=
        (hf.allows.pins_iff (fun _ h => h) hs hset.holds_pinned).mp (free_scheme.mp hv).2
      exact if_pos hpin
    · show s'.view u = (s'.view t).subst _
      rw [hf.view_eq hs ht, hf.allows.view_eq (fun _ h => h) hs ht]
      exact hf.eq_subst
  | none =>
    cases hlit : isIntegerLiteral x with
    | error e => trivial
    | ok b =>
      cases b with
      | false => trivial
      | true =>
        rw [ends_pure, hs.view_int]
        exact .literal (by rw [lookup_context, hx, Option.map_none]) hlit

/-- The last step of an application, once the function and its argument have been typed. -/
theorem call_sound {f a : Term} {u : Ty} (hset : Setting s env pinned)
    (ht : Analysed s env pinned t s₁) (htypef : HasType (s₁.context env pinned) f (s₁.view t))
    (hu : Analysed s env pinned u s₁) (htypea : HasType (s₁.context env pinned) a (s₁.view u)) :
    Ends (do let v ← newVar; unify (.fn u (.var v)) t; return .var v) s₁
      (fun r s' => HasType (s'.context env pinned) (.app f a) (s'.view r)) (fun _ _ => True) := by
  have hset₁ := hset.later ht.allows
  have hpins := pins_of_visible ht.allows hset
  have hv := analysed_pushNext ht.allows.valid ht.allows
  have h₂ : (Rights.analyse s env pinned).Allows s₁ (s₁.pushNext none).2 :=
    (allows_pushNext ht.allows.valid).grow_analyse
  have hfn := (hu.later h₂).fn hv
  have ht₂ := ht.later h₂
  rw [ends_bind, ends_newVar, ends_bind]
  refine (unify_ends hv.allows.valid hfn.holds ht₂.holds).mono ?_ (fun _ _ _ => trivial)
  intro _ s₃ hun
  have h₃ := hfn.allows_unify ht₂ hun.allows
  -- the function has been typed with the type that its use asks for
  have hview := hun.view_eq hfn.holds ht₂.holds
  rw [h₃.valid.view_fn (h₃.holds (h₂.holds hu.holds)) (h₃.holds hv.holds)] at hview
  have htypef := htypef.later (h₂.trans h₃) hset₁ hpins ht.holds
  rw [← hview] at htypef
  exact .app htypef (htypea.later (h₂.trans h₃) hset₁ hpins hu.holds)

/-- Analysis finds a type of the term. -/
theorem analyse_sound_ends (e : Term) : ∀ {s : Store} {env : Env} {pinned : List Ty},
    Setting s env pinned → e.WellFormed →
    Ends (analyse e env pinned) s (fun t s' => HasType (s'.context env pinned) e (s'.view t))
      (fun _ _ => True) := by
  induction e with
  | ident x => exact fun hset _ => typeOfName_sound hset
  | lam x body ih =>
    intro s env pinned hset hwf
    rw [analyse_lam, ends_bind, ends_newVar, ends_bind]
    refine ((analyse_ends body (hset.param x)).and (ih (hset.param x) hwf)).mono ?_
      (fun _ _ _ => trivial)
    rintro t s₂ ⟨ht, htype⟩
    rw [ends_pure, ht.allows.valid.view_fn (ht.allows.holds hset.newVar.holds) ht.holds]
    exact .lam (htype.weaken (covers_param _ _ _ _ _))
  | app f a ihf iha =>
    intro s env pinned hset hwf
    rw [analyse_app, ends_bind]
    refine ((analyse_ends f hset).and (ihf hset hwf.1)).mono ?_ (fun _ _ _ => trivial)
    rintro t s₁ ⟨ht, htypef⟩
    have hset₁ := hset.later ht.allows
    rw [ends_bind]
    refine ((analyse_ends a hset₁).and (iha hset₁ hwf.2)).mono ?_ (fun _ _ _ => trivial)
    rintro u s₂ ⟨hu₁, htypea⟩
    obtain ⟨hu, h₂⟩ := ht.next hset hu₁
    have htypef := htypef.later h₂ hset₁ (pins_of_visible ht.allows hset) ht.holds
    exact call_sound hset (ht.later h₂) htypef hu htypea
  | letIn x d b ihd ihb =>
    intro s env pinned hset hwf
    rw [analyse_letIn, ends_bind]
    refine ((analyse_ends d hset).and (ihd hset hwf.1)).mono ?_ (fun _ _ _ => trivial)
    rintro t s₁ ⟨ht, htyped⟩
    have hset₁ := hset.definition ht x
    refine ((analyse_ends b hset₁).and (ihb hset₁ hwf.2)).mono ?_ (fun _ _ _ => trivial)
    rintro u s₂ ⟨hu, htypeb⟩
    have h₂ := (hset.within_definition ht x).allows hu.allows
    refine .letIn ?_ (htypeb.weaken (covers_definition _ _ _ _ _))
    exact htyped.later h₂ (hset.later ht.allows) (pins_of_visible ht.allows hset) ht.holds
  | letrec x d b ihd ihb =>
    intro s env pinned hset hwf
    have hv := hset.newVar
    rw [analyse_letrec, ends_bind, ends_newVar, ends_bind]
    refine ((analyse_ends d (hset.param x)).and (ihd (hset.param x) hwf.1)).mono ?_
      (fun _ _ _ => trivial)
    rintro t s₂ ⟨ht₁, htyped⟩
    have ht := (hset.within_param x).analysed hv.allows ht₁
    have h₂ := (hset.within_param x).allows ht₁.allows
    have hv₂ := hv.later h₂
    rw [ends_bind]
    refine (unify_ends ht.allows.valid hv₂.holds ht.holds).mono ?_ (fun _ _ _ => trivial)
    intro _ s₃ hun
    have h₃ := hv₂.allows_unify ht hun.allows
    have hv₃ := hv₂.later h₃
    have hset₃ := hset.definition hv₃ x
    refine ((analyse_ends b hset₃).and (ihb hset₃ hwf.2)).mono ?_ (fun _ _ _ => trivial)
    rintro u s₄ ⟨hu, htypeb⟩
    have h₄ := (hset.within_definition hv₃ x).allows hu.allows
    refine .letrec ?_ (htypeb.weaken (covers_definition _ _ _ _ _))
    -- what unification has made equal is equal in every later store
    have hview : s₄.view t = s₄.view (.var (s.pushNext none).1) := by
      rw [h₄.view_eq_subst h₃.valid (h₃.holds ht.holds), h₄.view_eq_subst h₃.valid hv₃.holds,
        hun.view_eq hv₂.holds ht.holds]
    have htyped := htyped.later (h₃.trans h₄) ((hset.param x).later ht₁.allows) ?_ ht.holds
    · rw [hview] at htyped
      exact htyped.weaken (covers_param _ _ _ _ _)
    · exact pins_of_visible_param ht.allows hset
  | lamOver p body _ _ => exact fun _ hwf => hwf.elim
  | bare => exact fun _ hwf => hwf.elim
  | missing => exact fun _ hwf => hwf.elim

/-- The type that analysis returns is a type of the term in the context that the environment stands
for, and so is the type that inference returns, where nothing is pinned. -/
theorem inference_sound (hset : Setting s env pinned) (hwf : e.WellFormed) :
    (∀ t s', analyse e env pinned s = .ok t s' →
      HasType (s'.context env pinned) e (s'.view t)) ∧
    ∀ t s', infer e (some env) s = .ok t s' → HasType (s'.context env []) e (s'.view t) := by
  have hset₀ : Setting s env [] := ⟨hset.valid, hset.holds_env, nofun⟩
  constructor
  · intro t s' h
    exact (analyse_sound_ends e hset hwf).of_ok h
  · intro t s' h
    have hsound : Ends (infer e (some env)) s
        (fun t s' => HasType (s'.context env []) e (s'.view t)) (fun _ _ => True) := by
      refine infer_some_ends hset₀ (((analyse_ends e hset₀).and
        (analyse_sound_ends e hset₀ hwf)).mono ?_ (fun _ _ _ => trivial))
      rintro t s₁ ⟨ht, htype⟩ s' hmark hview
      rw [hview, ← hmark.view_eq (fun _ hb => hb) ht.allows.valid ht.holds]
      exact htype.later hmark (hset₀.later ht.allows) (fun _ _ hb => hb.elim) ht.holds
    exact hsound.of_ok h

/-- An environment with a function on functions, and a name whose type is a variable. -/
def twiceEnv : Env := [("twice", .fn (.var ⟨0⟩) (.var ⟨0⟩)), ("y", .var ⟨2⟩)]

/-- A definition that is applied to itself. -/
def twiceTerm : Term :=
  .letIn "f" (.lam "x" (.ident "x"))
    (.app (.app (.ident "twice") (.app (.ident "f") (.ident "f"))) (.ident "y"))

theorem inference_sound_twice :
    ∃ t s', analyse twiceTerm twiceEnv [.var ⟨2⟩] functionStore = .ok t s' ∧
      HasType (s'.context twiceEnv [.var ⟨2⟩]) twiceTerm (s'.view t) := by
  have hheld : ∀ p ∈ twiceEnv, functionStore.Holds p.2 := by decide
  have hset : Setting functionStore twiceEnv [.var ⟨2⟩] :=
    ⟨functionStore_allows.valid, fun x t ht => hheld (x, t) (mem_of_lookup ht), by decide⟩
  have hwf : twiceTerm.WellFormed := by simp [twiceTerm, Term.WellFormed]
  have hok : (match analyse twiceTerm twiceEnv [.var ⟨2⟩] functionStore with
      | .ok _ _ => true
      | .error _ _ => false) = true := by decide +kernel
  cases h : analyse twiceTerm twiceEnv [.var ⟨2⟩] functionStore with
  | ok t s' => exact ⟨t, s', rfl, (inference_sound hset hwf).1 t s' h⟩
  | error e s' =>
    rw [h] at hok
    exact nomatch hok

end LetPoly
