import LetPoly.Proofs.Principal

/-!
# Definitions and replacement

A definition that is used has the types that its body has with the definition put in for the name,
in any context without the bare type and inside any larger term.

From the definition to the replaced body, every use of the name is an instance of the generalised
type, which the definition has itself. In the other direction the uses may have unrelated types, and
it takes the principal type of the definition to give them all to one name.

* `HasType.pass` — terms put in for names may be exchanged for others that have their types
* `hasType_letIn_iff` — a definition is typed as its replacement
* `HasType.fill` — terms that have the same types may be exchanged inside larger terms
-/

namespace LetPoly

open Function (update)

variable {Γ Γ₁ Γ₂ : Context} {S S₁ S₂ : Scheme} {b d e : Term} {t u : Ty} {x : String}
  {θ₁ θ₂ : String → Term}

/-! ## Inversion -/

theorem HasType.lam_inv (h : HasType Γ (.lam x b) u) :
    ∃ t u', u = .fn t u' ∧ HasType ((x, .mono t) :: Γ) b u' := by
  cases h with
  | lam h => exact ⟨_, _, rfl, h⟩

theorem HasType.app_inv {f a : Term} (h : HasType Γ (.app f a) u) :
    ∃ t, HasType Γ f (.fn t u) ∧ HasType Γ a t := by
  cases h with
  | app hf ha => exact ⟨_, hf, ha⟩

theorem HasType.letIn_inv (h : HasType Γ (.letIn x d b) u) :
    ∃ t, HasType Γ d t ∧ HasType ((x, Γ.generalize t) :: Γ) b u := by
  cases h with
  | letIn hd hb => exact ⟨_, hd, hb⟩

theorem HasType.letrec_inv (h : HasType Γ (.letrec x d b) u) :
    ∃ t, HasType ((x, .mono t) :: Γ) d t ∧ HasType ((x, Γ.generalize t) :: Γ) b u := by
  cases h with
  | letrec hd hb => exact ⟨_, hd, hb⟩

/-! ## Names that are not free -/

/-- Only the schemes of the free names of a term count. -/
theorem HasType.of_lookup_eq (h : HasType Γ₁ e t)
    (hlookup : ∀ y ∈ e.freeNames, Γ₂.lookup y = Γ₁.lookup y) : HasType Γ₂ e t := by
  have hcov : Context.CoversOn e.freeNames Ty.var Γ₁ Γ₂ := by
    intro y hy
    rw [hlookup y hy]
    exact Context.covers_refl Γ₁ y
  have := h.subst_of_free hcov
  rwa [Ty.subst_id] at this

theorem hasType_cons_iff (hx : x ∉ e.freeNames) : HasType ((x, S) :: Γ) e t ↔ HasType Γ e t := by
  have hlookup : ∀ y ∈ e.freeNames, List.lookup y ((x, S) :: Γ) = List.lookup y Γ := by
    intro y hy
    have hne : y ≠ x := fun heq => hx (heq ▸ hy)
    rw [lookup_cons_eq, if_neg hne]
  exact ⟨fun h => h.of_lookup_eq fun y hy => (hlookup y hy).symm, fun h => h.of_lookup_eq hlookup⟩

theorem hasType_ident_cons_iff : HasType ((x, S) :: Γ) (.ident x) t ↔ S.Instance t := by
  have hlookup : List.lookup x ((x, S) :: Γ) = some S := by rw [lookup_cons_eq, if_pos rfl]
  constructor
  · intro h
    cases h with
    | ident hx hinst =>
      rw [hlookup, Option.some.injEq] at hx
      rwa [hx]
    | literal hx _ =>
      rw [hlookup] at hx
      exact nomatch hx
  · exact .ident hlookup

/-- A term has all instances of its generalised type. -/
theorem HasType.of_instance (h : HasType Γ e t) (hu : (Γ.generalize t).Instance u) :
    HasType Γ e u := by
  classical
  obtain ⟨ρ, hρ, rfl⟩ := hu
  -- the substitution is changed where it does not matter, so that it leaves the context alone
  let σ (v : Var) : Ty := if Γ.Free v then .var v else ρ v
  have hσ : t.subst σ = t.subst ρ := by
    refine Ty.subst_congr fun v hv => ?_
    by_cases hfree : Γ.Free v
    · rw [hρ v (Context.free_generalize.mpr ⟨hv, hfree⟩)]
      exact if_pos hfree
    · exact if_neg hfree
  show HasType Γ e (t.subst ρ)
  rw [← hσ]
  exact h.subst_of_free (Context.coversOn_self _ fun v hv => if_pos hv)

/-! ## Exchanging what is put in for names -/

/-- Each of the names stands in the second context for a term with all types of the term that it
stands for in the first. -/
def Passes (names : List String) (θ₁ θ₂ : String → Term) (Γ₁ Γ₂ : Context) : Prop :=
  ∀ z ∈ names, ∀ t, HasType Γ₁ (θ₁ z) t → HasType Γ₂ (θ₂ z) t

theorem Passes.mono {names names' : List String} (h : Passes names θ₁ θ₂ Γ₁ Γ₂)
    (hsub : ∀ z ∈ names', z ∈ names) : Passes names' θ₁ θ₂ Γ₁ Γ₂ :=
  fun z hz => h z (hsub z hz)

/-- Under a binder that binds no free name of what is put in. -/
theorem Passes.binder {names : List String} (h : Passes names θ₁ θ₂ Γ₁ Γ₂)
    (hsub : ∀ z ∈ b.freeNames, z ≠ x → z ∈ names) (h₁ : Term.Spares θ₁ x b)
    (h₂ : Term.Spares θ₂ x b) (hS : ∀ t, S₁.Instance t → S₂.Instance t) :
    Passes b.freeNames (update θ₁ x (.ident x)) (update θ₂ x (.ident x)) ((x, S₁) :: Γ₁)
      ((x, S₂) :: Γ₂) := by
  intro z hz t ht
  by_cases hzx : z = x
  · rw [hzx, Function.update_self] at ht ⊢
    exact hasType_ident_cons_iff.mpr (hS t (hasType_ident_cons_iff.mp ht))
  · rw [Function.update_of_ne hzx] at ht ⊢
    rw [hasType_cons_iff (h₁ z hz hzx)] at ht
    rw [hasType_cons_iff (h₂ z hz hzx)]
    exact h z (hsub z hz hzx) t ht

/-- Terms that are put in for names may be exchanged for others that have their types. -/
theorem HasType.pass (b : Term) : ∀ {θ₁ θ₂ : String → Term} {Γ₁ Γ₂ : Context} {u : Ty},
    b.Admits θ₁ → b.Admits θ₂ → Passes b.freeNames θ₁ θ₂ Γ₁ Γ₂ →
    HasType Γ₁ (b.subst θ₁) u → HasType Γ₂ (b.subst θ₂) u := by
  induction b with
  | ident x => exact fun _ _ hp h => hp x (by simp) _ h
  | lam x body ih =>
    rintro θ₁ θ₂ Γ₁ Γ₂ _ ⟨hs₁, h₁⟩ ⟨hs₂, h₂⟩ hp h
    obtain ⟨t, u, rfl, hbody⟩ := HasType.lam_inv h
    refine .lam (ih h₁ h₂ (hp.binder (fun z hz hne => ?_) hs₁ hs₂ fun _ ht => ht) hbody)
    simp [hz, hne]
  | app f a ihf iha =>
    rintro θ₁ θ₂ Γ₁ Γ₂ u h₁ h₂ hp h
    obtain ⟨t, hf, ha⟩ := HasType.app_inv h
    exact .app (ihf h₁.1 h₂.1 (hp.mono fun z hz => by simp [hz]) hf)
      (iha h₁.2 h₂.2 (hp.mono fun z hz => by simp [hz]) ha)
  | letIn x d b ihd ihb =>
    rintro θ₁ θ₂ Γ₁ Γ₂ u ⟨hd₁, hs₁, hb₁⟩ ⟨hd₂, hs₂, hb₂⟩ hp h
    obtain ⟨t, hd, hb⟩ := HasType.letIn_inv h
    -- other variables may be free in the second context: those of the definition make way for them
    obtain ⟨σ, hσ, hgen⟩ := Γ₁.exists_apart Γ₂ Ty.var t
    have hd := hd.subst_of_free (Context.coversOn_self _ hσ)
    refine .letIn (ihd hd₁ hd₂ (hp.mono fun z hz => by simp [hz]) hd) (ihb hb₁ hb₂ ?_ hb)
    exact hp.binder (fun z hz hne => by simp [hz, hne]) hs₁ hs₂ hgen
  | letrec x d b ihd ihb =>
    rintro θ₁ θ₂ Γ₁ Γ₂ u ⟨⟨hsd₁, hd₁⟩, hsb₁, hb₁⟩ ⟨⟨hsd₂, hd₂⟩, hsb₂, hb₂⟩ hp h
    obtain ⟨t, hd, hb⟩ := HasType.letrec_inv h
    obtain ⟨σ, hσ, hgen⟩ := Γ₁.exists_apart Γ₂ Ty.var t
    have hd := hd.subst_of_free ((Context.coversOn_self _ hσ).cons_mono x t fun y hy _ => hy)
    refine .letrec (ihd hd₁ hd₂ ?_ hd) (ihb hb₁ hb₂ ?_ hb)
    · exact hp.binder (fun z hz hne => by simp [hz, hne]) hsd₁ hsd₂ fun _ ht => ht
    · exact hp.binder (fun z hz hne => by simp [hz, hne]) hsb₁ hsb₂ hgen
  | lamOver p body _ _ => exact fun _ _ _ h => nomatch (h : HasType _ (.lamOver p _) _)
  | bare => exact fun _ _ _ h => nomatch (h : HasType _ .bare _)
  | missing => exact fun _ _ _ h => nomatch (h : HasType _ .missing _)

/-- What is put in for a free name of a term that has a type has a type. -/
theorem HasType.exists_of_subst {z : String} (b : Term) : ∀ {θ : String → Term} {Γ : Context}
    {u : Ty}, b.Admits θ → z ∈ b.freeNames → HasType Γ (b.subst θ) u → ∃ t, HasType Γ (θ z) t := by
  -- the name under a binder is another one, and so are the names of what is put in for it
  have hbinder : ∀ {θ : String → Term} {Γ : Context} {x : String} {S : Scheme} {body : Term},
      Term.Spares θ x body → z ∈ body.freeNames → z ≠ x →
      (∃ t, HasType ((x, S) :: Γ) (update θ x (.ident x) z) t) → ∃ t, HasType Γ (θ z) t := by
    rintro θ Γ x S body hs hz hzx ⟨t, ht⟩
    rw [Function.update_of_ne hzx, hasType_cons_iff (hs z hz hzx)] at ht
    exact ⟨t, ht⟩
  induction b with
  | ident x =>
    intro θ Γ u _ hz h
    obtain rfl := (Term.mem_freeNames_ident x).mp hz
    exact ⟨u, h⟩
  | lam x body ih =>
    rintro θ Γ _ ⟨hs, hadm⟩ hz h
    obtain ⟨t, u, rfl, hbody⟩ := HasType.lam_inv h
    obtain ⟨hz, hzx⟩ := (Term.mem_freeNames_lam x body).mp hz
    exact hbinder hs hz hzx (ih hadm hz hbody)
  | app f a ihf iha =>
    rintro θ Γ u ⟨hf, ha⟩ hz h
    obtain ⟨t, htf, hta⟩ := HasType.app_inv h
    rcases (Term.mem_freeNames_app f a).mp hz with hz | hz
    · exact ihf hf hz htf
    · exact iha ha hz hta
  | letIn x d b ihd ihb =>
    rintro θ Γ u ⟨hd, hs, hb⟩ hz h
    obtain ⟨t, htd, htb⟩ := HasType.letIn_inv h
    rcases (Term.mem_freeNames_letIn x d b).mp hz with hz | ⟨hz, hzx⟩
    · exact ihd hd hz htd
    · exact hbinder hs hz hzx (ihb hb hz htb)
  | letrec x d b ihd ihb =>
    rintro θ Γ u ⟨⟨hsd, hd⟩, hsb, hb⟩ hz h
    obtain ⟨t, htd, htb⟩ := HasType.letrec_inv h
    obtain ⟨hz | hz, hzx⟩ := (Term.mem_freeNames_letrec x d b).mp hz
    · exact hbinder hsd hz hzx (ihd hd hz htd)
    · exact hbinder hsb hz hzx (ihb hb hz htb)
  | lamOver p body _ _ => exact fun _ _ h => nomatch (h : HasType _ (.lamOver p _) _)
  | bare => exact fun _ _ h => nomatch (h : HasType _ .bare _)
  | missing => exact fun _ _ h => nomatch (h : HasType _ .missing _)

/-! ## The law of definitions -/

/-- What the names of a body stand for with the definition in the context, and without. -/
theorem passes_definition {names : List String} (htypes : ∀ t, S.Instance t → HasType Γ d t) :
    Passes names .ident (update .ident x d) ((x, S) :: Γ) Γ := by
  intro z _ t ht
  by_cases hzx : z = x
  · rw [hzx] at ht
    rw [hzx, Function.update_self]
    exact htypes t (hasType_ident_cons_iff.mp ht)
  · rw [Function.update_of_ne hzx]
    exact (hasType_cons_iff fun hx => hzx ((Term.mem_freeNames_ident z).mp hx).symm).mp ht

theorem passes_replacement {names : List String} (htypes : ∀ t, HasType Γ d t → S.Instance t) :
    Passes names (update .ident x d) .ident Γ ((x, S) :: Γ) := by
  intro z _ t ht
  by_cases hzx : z = x
  · rw [hzx, Function.update_self] at ht
    rw [hzx]
    exact hasType_ident_cons_iff.mpr (htypes t ht)
  · rw [Function.update_of_ne hzx] at ht
    exact (hasType_cons_iff fun hx => hzx ((Term.mem_freeNames_ident z).mp hx).symm).mpr ht

/-- In a context without the bare type, a definition that is used has the types of its body with the
definition put in for the name. -/
theorem hasType_letIn_iff (hΓ : Γ.Plain) (hd : d.WellFormed) (hx : x ∈ b.freeNames)
    (hcap : b.NoCapture x d) : HasType Γ (.letIn x d b) u ↔ HasType Γ (b.replace x d) u := by
  have hadm := hcap.admits
  constructor
  · intro h
    obtain ⟨t, ht, hb⟩ := HasType.letIn_inv h
    rw [← Term.subst_ident b] at hb
    exact HasType.pass b b.admits_ident hadm (passes_definition fun _ hu => ht.of_instance hu) hb
  · intro h
    -- the principal type of the definition gives the name the types of all its uses
    obtain ⟨t, ht⟩ := HasType.exists_of_subst b hadm hx h
    rw [Function.update_self] at ht
    obtain ⟨t₀, ht₀, hprincipal⟩ := ht.exists_principal hΓ hd
    have hb := HasType.pass b hadm b.admits_ident (passes_replacement hprincipal) h
    rw [Term.subst_ident] at hb
    exact .letIn ht₀ hb

/-! ## Types without the bare type

Nothing keeps the bare type out of a derivation. It can be replaced by `int` throughout, so that a
term without it in context and type has a derivation without it. -/

namespace Ty

mutual

/-- The type with `int` in place of the bare type. -/
def solid : Ty → Ty
  | .var v => .var v
  | .con name args => .con name (solidList args)
  | .bare => .int

/-- The types of a list with `int` in place of the bare type. -/
def solidList : List Ty → List Ty
  | [] => []
  | t :: ts => t.solid :: solidList ts

end

theorem solidList_eq_map (ts : List Ty) : solidList ts = ts.map solid := by
  induction ts with
  | nil => rfl
  | cons t ts ih => rw [solidList, ih, List.map_cons]

@[simp] theorem solid_con (name : String) (args : List Ty) :
    (Ty.con name args).solid = .con name (args.map solid) := by
  rw [solid, solidList_eq_map]

@[simp] theorem solid_fn (t u : Ty) : (fn t u).solid = fn t.solid u.solid := rfl

theorem plain_solid (t : Ty) : t.solid.Plain := by
  induction t with
  | var v => exact .var v
  | con name args ih =>
    rw [solid_con, plain_con_iff, List.forall_mem_map]
    exact ih
  | bare => exact plain_int

theorem Plain.solid_eq {t : Ty} (h : t.Plain) : t.solid = t := by
  induction t with
  | var v => rfl
  | con name args ih =>
    have hargs := plain_con_iff.mp h
    rw [solid_con, List.map_congr_left (g := id) fun t ht => ih t ht (hargs t ht), List.map_id]
  | bare => exact absurd h not_plain_bare

theorem mem_vars_solid {t : Ty} {v : Var} : v ∈ t.solid.vars ↔ v ∈ t.vars := by
  induction t with
  | var w => exact Iff.rfl
  | con name args ih =>
    simp only [solid_con, mem_vars_con, List.mem_map, exists_exists_and_eq_and]
    exact exists_congr fun t => and_congr_right fun ht => ih t ht
  | bare => exact Iff.rfl

theorem solid_subst (θ : Var → Ty) (t : Ty) :
    (t.subst θ).solid = t.solid.subst fun v => (θ v).solid := by
  induction t with
  | var v => rfl
  | con name args ih =>
    simp only [subst_con, solid_con, List.map_map, Ty.con.injEq, true_and, List.map_inj_left]
    exact ih
  | bare => rfl

end Ty

/-- The scheme with `int` in place of the bare type. -/
def Scheme.solid (S : Scheme) : Scheme := ⟨S.bound, S.body.solid⟩

theorem Scheme.free_solid {v : Var} : S.solid.Free v ↔ S.Free v :=
  and_congr_left fun _ => Ty.mem_vars_solid

theorem Scheme.Instance.solid (h : S.Instance t) : S.solid.Instance t.solid := by
  obtain ⟨ρ, hρ, rfl⟩ := h
  refine ⟨fun v => (ρ v).solid, fun v hv => ?_, Ty.solid_subst ρ S.body⟩
  show (ρ v).solid = .var v
  rw [hρ v (Scheme.free_solid.mp hv)]
  rfl

namespace Context

/-- The context with `int` in place of the bare type. -/
def solid (Γ : Context) : Context := Γ.map fun p => (p.1, p.2.solid)

theorem lookup_solid (Γ : Context) (x : String) :
    Γ.solid.lookup x = (Γ.lookup x).map Scheme.solid :=
  lookup_map_snd ..

theorem free_solid {v : Var} : Γ.solid.Free v ↔ Γ.Free v := by
  constructor
  · rintro ⟨x, _, hx, hv⟩
    rw [lookup_solid, Option.map_eq_some_iff] at hx
    obtain ⟨S, hS, rfl⟩ := hx
    exact ⟨x, S, hS, Scheme.free_solid.mp hv⟩
  · rintro ⟨x, S, hx, hv⟩
    exact ⟨x, S.solid, by rw [lookup_solid, hx, Option.map_some], Scheme.free_solid.mpr hv⟩

theorem solid_generalize (Γ : Context) (t : Ty) :
    (Γ.generalize t).solid = Γ.solid.generalize t.solid := by
  simp only [generalize, Scheme.solid, free_solid]

theorem Plain.cons (hΓ : Γ.Plain) (x : String) (hS : S.body.Plain) : Plain ((x, S) :: Γ) := by
  intro y S' hy
  rw [lookup_cons_eq] at hy
  split at hy
  · rw [Option.some.injEq] at hy
    rwa [← hy]
  · exact hΓ y S' hy

/-- A plain context is unchanged as far as look-ups go. -/
theorem Plain.lookup_solid (hΓ : Γ.Plain) (y : String) : Γ.solid.lookup y = Γ.lookup y := by
  rw [Context.lookup_solid]
  cases hy : Γ.lookup y with
  | none => rfl
  | some S =>
    rw [Option.map_some, Option.some.injEq, Scheme.solid, (hΓ y S hy).solid_eq]

end Context

theorem HasType.solid (h : HasType Γ e t) : HasType Γ.solid e t.solid := by
  induction h with
  | @ident Γ x S t hx hinst =>
    exact .ident (by rw [Context.lookup_solid, hx, Option.map_some]) hinst.solid
  | @literal Γ x hx hint =>
    exact .literal (by rw [Context.lookup_solid, hx, Option.map_none]) hint
  | app _ _ ihf iha => exact .app ihf iha
  | lam _ ih => exact .lam ih
  | @letIn Γ x d b t u _ _ ihd ihb =>
    refine .letIn ihd ?_
    rw [← Context.solid_generalize]
    exact ihb
  | @letrec Γ x d b t u _ _ ihd ihb =>
    refine .letrec ihd ?_
    rw [← Context.solid_generalize]
    exact ihb

theorem HasType.solid_of_plain (h : HasType Γ e t) (hΓ : Γ.Plain) : HasType Γ e t.solid :=
  h.solid.of_lookup_eq fun y _ => (hΓ.lookup_solid y).symm

theorem HasType.solid_cons (h : HasType ((x, S) :: Γ) e t) (hΓ : Γ.Plain) :
    HasType ((x, S.solid) :: Γ) e t.solid := by
  refine h.solid.of_lookup_eq fun y _ => ?_
  show _ = List.lookup y ((x, S.solid) :: Γ.solid)
  rw [lookup_cons_eq, lookup_cons_eq, hΓ.lookup_solid y]

/-! Inversion, with types in between that are plain. -/

theorem HasType.app_plain {f a : Term} (h : HasType Γ (.app f a) u) (hΓ : Γ.Plain)
    (hu : u.Plain) : ∃ t, t.Plain ∧ HasType Γ f (.fn t u) ∧ HasType Γ a t := by
  obtain ⟨t, hf, ha⟩ := h.app_inv
  have hf := hf.solid_of_plain hΓ
  rw [Ty.solid_fn, hu.solid_eq] at hf
  exact ⟨t.solid, t.plain_solid, hf, ha.solid_of_plain hΓ⟩

theorem HasType.letIn_plain (h : HasType Γ (.letIn x d b) u) (hΓ : Γ.Plain) (hu : u.Plain) :
    ∃ t, t.Plain ∧ HasType Γ d t ∧ HasType ((x, Γ.generalize t) :: Γ) b u := by
  obtain ⟨t, hd, hb⟩ := h.letIn_inv
  have hb := hb.solid_cons hΓ
  rw [hu.solid_eq] at hb
  exact ⟨t.solid, t.plain_solid, hd.solid_of_plain hΓ, hb⟩

theorem HasType.letrec_plain (h : HasType Γ (.letrec x d b) u) (hΓ : Γ.Plain) (hu : u.Plain) :
    ∃ t, t.Plain ∧ HasType ((x, .mono t) :: Γ) d t ∧ HasType ((x, Γ.generalize t) :: Γ) b u := by
  obtain ⟨t, hd, hb⟩ := h.letrec_inv
  have hb := hb.solid_cons hΓ
  rw [hu.solid_eq] at hb
  exact ⟨t.solid, t.plain_solid, hd.solid_cons hΓ, hb⟩

/-! ## Inside larger terms -/

/-- Where one term has all types of another in contexts without the bare type, it may take its place
inside any larger term. -/
theorem HasType.fill {e₁ e₂ : Term}
    (hpass : ∀ {Γ t}, Context.Plain Γ → HasType Γ e₁ t → HasType Γ e₂ t) (C : OneHole) :
    ∀ {Γ : Context} {u : Ty}, Γ.Plain → u.Plain → HasType Γ (C.fill e₁) u →
      HasType Γ (C.fill e₂) u := by
  induction C with
  | hole => exact fun hΓ _ h => hpass hΓ h
  | lam x C ih =>
    intro Γ _ hΓ hu h
    obtain ⟨t, u, rfl, hbody⟩ := HasType.lam_inv h
    obtain ⟨ht, hu⟩ := Ty.plain_fn_iff.mp hu
    exact .lam (ih (hΓ.cons x ht) hu hbody)
  | function C a ih =>
    intro Γ u hΓ hu h
    obtain ⟨t, ht, hf, ha⟩ := HasType.app_plain h hΓ hu
    exact .app (ih hΓ (Ty.plain_fn_iff.mpr ⟨ht, hu⟩) hf) ha
  | argument f C ih =>
    intro Γ u hΓ hu h
    obtain ⟨t, ht, hf, ha⟩ := HasType.app_plain h hΓ hu
    exact .app hf (ih hΓ ht ha)
  | letDefinition x C b ih =>
    intro Γ u hΓ hu h
    obtain ⟨t, ht, hd, hb⟩ := HasType.letIn_plain h hΓ hu
    exact .letIn (ih hΓ ht hd) hb
  | letBody x d C ih =>
    intro Γ u hΓ hu h
    obtain ⟨t, ht, hd, hb⟩ := HasType.letIn_plain h hΓ hu
    exact .letIn hd (ih (hΓ.cons x ht) hu hb)
  | letrecDefinition x C b ih =>
    intro Γ u hΓ hu h
    obtain ⟨t, ht, hd, hb⟩ := HasType.letrec_plain h hΓ hu
    exact .letrec (ih (hΓ.cons x ht) ht hd) hb
  | letrecBody x d C ih =>
    intro Γ u hΓ hu h
    obtain ⟨t, ht, hd, hb⟩ := HasType.letrec_plain h hΓ hu
    exact .letrec hd (ih (hΓ.cons x ht) hu hb)
  | overParam C body => exact fun _ _ h => nomatch (h : HasType _ (.lamOver _ body) _)
  | overBody p C => exact fun _ _ h => nomatch (h : HasType _ (.lamOver p _) _)

end LetPoly
