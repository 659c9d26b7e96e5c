import LetPoly.Literal
import LetPoly.Proofs.Lists
import LetPoly.Proofs.Names
import LetPoly.Proofs.Substitution

/-!
# Declarative typing

The types that a term has in a context of type schemes. A name has every instance of its scheme, or
is an integer if the context does not have it. A parameter has one type in the body of its function,
and so has a recursive name in its own definition; the body of a definition may use it at all types
that come from its type by replacing variables that are not free in the context.

* `HasType` — the rules
* `HasType.subst_of_free` — typing is kept by substitutions, into any context that gives the free
  names of the term all that they make of the old context
-/

namespace LetPoly

/-! ## Schemes -/

/-- A type some of whose variables are quantified. -/
structure Scheme where
  bound : Var → Prop
  body : Ty

namespace Scheme

/-- The variable occurs in the scheme and is not quantified. -/
def Free (S : Scheme) (v : Var) : Prop := v ∈ S.body.vars ∧ ¬ S.bound v

/-- The type comes from the scheme by putting `θ` in place of its free variables and any types in
place of the quantified ones. -/
def Gives (S : Scheme) (θ : Var → Ty) (t : Ty) : Prop :=
  ∃ ρ : Var → Ty, (∀ v, S.Free v → ρ v = θ v) ∧ t = S.body.subst ρ

/-- The type comes from the scheme by putting any types in place of the quantified variables. -/
def Instance (S : Scheme) (t : Ty) : Prop := S.Gives Ty.var t

/-- The scheme with nothing quantified. -/
def mono (t : Ty) : Scheme := ⟨fun _ => False, t⟩

variable {S S' : Scheme} {θ σ : Var → Ty} {t u : Ty}

theorem Gives.congr {θ' : Var → Ty} (h : S.Gives θ t) (hθ : ∀ v, S.Free v → θ' v = θ v) :
    S.Gives θ' t := by
  obtain ⟨ρ, hρ, ht⟩ := h
  exact ⟨ρ, fun v hv => (hρ v hv).trans (hθ v hv).symm, ht⟩

/-- Substitution takes instances to what the scheme gives. -/
theorem Instance.subst (h : S.Instance t) (σ : Var → Ty) : S.Gives σ (t.subst σ) := by
  obtain ⟨ρ, hρ, rfl⟩ := h
  refine ⟨fun v => (ρ v).subst σ, fun v hv => ?_, Ty.subst_subst ..⟩
  show (ρ v).subst σ = σ v
  rw [hρ v hv, Ty.subst_var]

theorem free_mono {v : Var} : (mono t).Free v ↔ v ∈ t.vars := by
  simp [Free, mono]

theorem gives_mono : (mono t).Gives θ u ↔ u = t.subst θ := by
  constructor
  · rintro ⟨ρ, hρ, rfl⟩
    exact Ty.subst_congr fun v hv => hρ v (free_mono.mpr hv)
  · rintro rfl
    exact ⟨θ, fun _ _ => rfl, rfl⟩

/-- A scheme of the same body with fewer free variables gives more. -/
theorem Gives.of_free (h : S.Gives θ t) (hbody : S'.body = S.body)
    (hfree : ∀ v, S'.Free v → S.Free v) : S'.Gives θ t := by
  obtain ⟨ρ, hρ, ht⟩ := h
  refine ⟨ρ, fun v hv => hρ v (hfree v hv), ?_⟩
  rw [hbody, ht]

/-- Every scheme has an instance without variables that are not free in it. -/
theorem exists_instance (S : Scheme) : ∃ t, S.Instance t ∧ ∀ v ∈ t.vars, S.Free v := by
  classical
  refine ⟨S.body.subst fun v => if S.Free v then .var v else .int, ⟨_, ?_, rfl⟩, fun v hv => ?_⟩
  · intro v hv
    rw [if_pos hv]
  · rw [Ty.mem_vars_subst] at hv
    obtain ⟨w, _, hv⟩ := hv
    split at hv
    · next hw =>
      rw [Ty.vars_var, List.mem_singleton] at hv
      rwa [hv]
    · exact nomatch hv

end Scheme

/-! ## Contexts -/

/-- Names with their schemes, the latest entry first. -/
abbrev Context := List (String × Scheme)

namespace Context

/-- The variable is free in the scheme of a name that counts. -/
def Free (Γ : Context) (v : Var) : Prop := ∃ x S, Γ.lookup x = some S ∧ S.Free v

/-- The scheme of a definition: all variables are quantified that are not free in the context. -/
def generalize (Γ : Context) (t : Ty) : Scheme := ⟨fun v => ¬ Γ.Free v, t⟩

/-- After `σ`, the second context gives every name at least the types that the first one gives. -/
def Covers (σ : Var → Ty) (Γ Γ' : Context) : Prop :=
  ∀ x, (Γ.lookup x = none → Γ'.lookup x = none) ∧
    ∀ S, Γ.lookup x = some S → ∃ S', Γ'.lookup x = some S' ∧ ∀ t, S.Gives σ t → S'.Instance t

/-- After `σ`, the second context gives the names of the list at least the types that the first one
gives. -/
def CoversOn (names : List String) (σ : Var → Ty) (Γ Γ' : Context) : Prop :=
  ∀ x ∈ names, (Γ.lookup x = none → Γ'.lookup x = none) ∧
    ∀ S, Γ.lookup x = some S → ∃ S', Γ'.lookup x = some S' ∧ ∀ t, S.Gives σ t → S'.Instance t

variable {Γ Γ' : Context} {σ σ' : Var → Ty} {names names' : List String}

theorem Covers.on (h : Covers σ Γ Γ') (names : List String) : CoversOn names σ Γ Γ' :=
  fun x _ => h x

theorem free_generalize {t : Ty} {v : Var} :
    (Γ.generalize t).Free v ↔ v ∈ t.vars ∧ Γ.Free v := by
  simp [generalize, Scheme.Free]

theorem CoversOn.mono (h : CoversOn names σ Γ Γ') (hsub : ∀ x ∈ names', x ∈ names) :
    CoversOn names' σ Γ Γ' :=
  fun x hx => h x (hsub x hx)

theorem CoversOn.congr (h : CoversOn names σ Γ Γ') (hσ : ∀ v, Γ.Free v → σ' v = σ v) :
    CoversOn names σ' Γ Γ' := by
  refine fun x hx => ⟨(h x hx).1, fun S hS => ?_⟩
  obtain ⟨S', hS', hgives⟩ := (h x hx).2 S hS
  exact ⟨S', hS', fun t ht => hgives t (ht.congr fun v hv => (hσ v ⟨x, S, hS, hv⟩).symm)⟩

/-- Where a name is given anew, it need not have been covered before. -/
theorem CoversOn.cons (h : CoversOn names σ Γ Γ') (x : String) {S S' : Scheme}
    (hS : ∀ t, S.Gives σ t → S'.Instance t) (hsub : ∀ y ∈ names', y ≠ x → y ∈ names) :
    CoversOn names' σ ((x, S) :: Γ) ((x, S') :: Γ') := by
  intro y hmem
  rw [lookup_cons_eq, lookup_cons_eq]
  by_cases hy : y = x
  · rw [if_pos hy, if_pos hy]
    refine ⟨nofun, ?_⟩
    rintro _ ⟨⟩
    exact ⟨S', rfl, hS⟩
  · rw [if_neg hy, if_neg hy]
    exact h y (hsub y hmem hy)

theorem Covers.cons (h : Covers σ Γ Γ') (x : String) {S S' : Scheme}
    (hS : ∀ t, S.Gives σ t → S'.Instance t) : Covers σ ((x, S) :: Γ) ((x, S') :: Γ') := fun y =>
  (h.on [y]).cons x hS (fun _ hz _ => hz) y (List.mem_singleton_self y)

theorem covers_refl (Γ : Context) : Covers Ty.var Γ Γ :=
  fun _ => ⟨fun h => h, fun S hS => ⟨S, hS, fun _ h => h⟩⟩

/-- A substitution that leaves the free variables alone leaves the context alone. -/
theorem coversOn_self (names : List String) (hσ : ∀ v, Γ.Free v → σ v = .var v) :
    CoversOn names σ Γ Γ :=
  ((covers_refl Γ).on names).congr hσ

end Context

/-! ## Renaming quantified variables -/

/-- There are variables beyond any finite number of variables. -/
theorem exists_index_above (vs : List Var) : ∃ n, ∀ v ∈ vs, v.index < n := by
  induction vs with
  | nil => exact ⟨0, nofun⟩
  | cons v vs ih =>
    obtain ⟨n, hn⟩ := ih
    refine ⟨max n (v.index + 1), List.forall_mem_cons.mpr ⟨by omega, fun w hw => ?_⟩⟩
    have := hn w hw
    omega

theorem Context.exists_index_above_vars (Γ : Context) :
    ∃ n, ∀ x S, Γ.lookup x = some S → ∀ v ∈ S.body.vars, v.index < n := by
  obtain ⟨n, hn⟩ := exists_index_above (Γ.flatMap fun p => p.2.body.vars)
  refine ⟨n, fun x S hx v hv => hn v ?_⟩
  exact List.mem_flatMap.mpr ⟨(x, S), mem_of_lookup hx, hv⟩

theorem Context.exists_index_above_free (Γ : Context) : ∃ n, ∀ v, Γ.Free v → v.index < n := by
  obtain ⟨n, hn⟩ := Γ.exists_index_above_vars
  exact ⟨n, fun v ⟨x, S, hx, hv, _⟩ => hn x S hx v hv⟩

/-- The quantified variables of a definition can be kept apart: `σ` can be changed on them so that
the definition is as general in the second context as it was in the first. -/
theorem Context.exists_apart (Γ Γ' : Context) (σ : Var → Ty) (t : Ty) :
    ∃ σ' : Var → Ty, (∀ v, Γ.Free v → σ' v = σ v) ∧
      ∀ u, (Γ.generalize t).Gives σ u → (Γ'.generalize (t.subst σ')).Instance u := by
  classical
  obtain ⟨n₁, hn₁⟩ := Γ'.exists_index_above_free
  obtain ⟨n₂, hn₂⟩ := exists_index_above (t.vars.flatMap fun v => (σ v).vars)
  -- quantified variables go beyond everything that is free afterwards
  let n := max n₁ n₂
  let σ' (v : Var) : Ty := if Γ.Free v then σ v else .var ⟨n + v.index⟩
  refine ⟨σ', fun v hv => if_pos hv, ?_⟩
  rintro u ⟨ρ, hρ, rfl⟩
  let back (w : Var) : Ty := if w.index < n then .var w else ρ ⟨w.index - n⟩
  refine ⟨back, fun w hw => ?_, ?_⟩
  · have hlt : w.index < n₁ := hn₁ w (Context.free_generalize.mp hw).2
    exact if_pos (by omega)
  · show t.subst ρ = (t.subst σ').subst back
    rw [Ty.subst_subst]
    refine Ty.subst_congr fun v hv => ?_
    by_cases hfree : Γ.Free v
    · have hid : (σ v).subst back = σ v := by
        refine Ty.subst_eq_self fun w hw => ?_
        have hlt : w.index < n₂ := hn₂ w (List.mem_flatMap.mpr ⟨v, hv, hw⟩)
        exact if_pos (by omega)
      rw [show σ' v = σ v from if_pos hfree, hid]
      exact hρ v (Context.free_generalize.mpr ⟨hv, hfree⟩)
    · rw [show σ' v = .var ⟨n + v.index⟩ from if_neg hfree, Ty.subst_var]
      show ρ v = if n + v.index < n then _ else ρ ⟨n + v.index - n⟩
      rw [if_neg (by omega), Nat.add_sub_cancel_left]

/-! ## Typing -/

/-- The term has the type in the context. -/
inductive HasType : Context → Term → Ty → Prop
  /-- A name of the context has the instances of its scheme. -/
  | ident {Γ : Context} {x : String} {S : Scheme} {t : Ty} :
    Γ.lookup x = some S → S.Instance t → HasType Γ (.ident x) t
  /-- Another name is an integer if it is written as one. -/
  | literal {Γ : Context} {x : String} :
    Γ.lookup x = none → isIntegerLiteral x = .ok true → HasType Γ (.ident x) .int
  | app {Γ : Context} {f a : Term} {t u : Ty} :
    HasType Γ f (.fn t u) → HasType Γ a t → HasType Γ (.app f a) u
  | lam {Γ : Context} {x : String} {body : Term} {t u : Ty} :
    HasType ((x, .mono t) :: Γ) body u → HasType Γ (.lam x body) (.fn t u)
  | letIn {Γ : Context} {x : String} {d b : Term} {t u : Ty} :
    HasType Γ d t → HasType ((x, Γ.generalize t) :: Γ) b u → HasType Γ (.letIn x d b) u
  | letrec {Γ : Context} {x : String} {d b : Term} {t u : Ty} :
    HasType ((x, .mono t) :: Γ) d t → HasType ((x, Γ.generalize t) :: Γ) b u →
      HasType Γ (.letrec x d b) u

theorem Context.CoversOn.cons_mono {names names' : List String} {σ : Var → Ty} {Γ Γ' : Context}
    (h : CoversOn names σ Γ Γ') (x : String) (t : Ty) (hsub : ∀ y ∈ names', y ≠ x → y ∈ names) :
    CoversOn names' σ ((x, .mono t) :: Γ) ((x, .mono (t.subst σ)) :: Γ') := by
  refine h.cons x (fun u hu => ?_) hsub
  rw [Scheme.gives_mono.mp hu]
  exact Scheme.gives_mono.mpr (Ty.subst_id _).symm

/-- Typing is kept by substitutions. Only the free names of the term matter, although fewer
variables are quantified where the context has more names. -/
theorem HasType.subst_of_free {Γ : Context} {e : Term} {t : Ty} (h : HasType Γ e t) :
    ∀ {σ : Var → Ty} {Γ' : Context}, Context.CoversOn e.freeNames σ Γ Γ' →
      HasType Γ' e (t.subst σ) := by
  induction h with
  | @ident Γ x S t hx hinst =>
    intro σ Γ' hcov
    obtain ⟨S', hS', hgives⟩ := (hcov x (by simp)).2 S hx
    exact .ident hS' (hgives _ (hinst.subst σ))
  | @literal Γ x hx hint =>
    intro σ Γ' hcov
    exact .literal ((hcov x (by simp)).1 hx) hint
  | app _ _ ihf iha =>
    intro σ Γ' hcov
    have hf := ihf (hcov.mono fun y hy => by simp [hy])
    rw [Ty.subst_fn] at hf
    exact .app hf (iha (hcov.mono fun y hy => by simp [hy]))
  | @lam Γ x body t u _ ih =>
    intro σ Γ' hcov
    rw [Ty.subst_fn]
    exact .lam (ih (hcov.cons_mono x t fun y hy hne => by simp [hy, hne]))
  | @letIn Γ x d b t u _ _ ihd ihb =>
    intro σ Γ' hcov
    -- the definition is typed with its quantified variables kept apart
    obtain ⟨σ', hσ', hgen⟩ := Γ.exists_apart Γ' σ t
    refine .letIn (ihd ((hcov.congr hσ').mono fun y hy => by simp [hy])) (ihb ?_)
    exact hcov.cons x hgen fun y hy hne => by simp [hy, hne]
  | @letrec Γ x d b t u _ _ ihd ihb =>
    intro σ Γ' hcov
    obtain ⟨σ', hσ', hgen⟩ := Γ.exists_apart Γ' σ t
    refine .letrec (ihd ((hcov.congr hσ').cons_mono x t fun y hy hne => ?_)) (ihb ?_)
    · simp [hy, hne]
    · exact hcov.cons x hgen fun y hy hne => by simp [hy, hne]

theorem HasType.subst {Γ Γ' : Context} {e : Term} {t : Ty} {σ : Var → Ty} (h : HasType Γ e t)
    (hcov : Context.Covers σ Γ Γ') : HasType Γ' e (t.subst σ) :=
  h.subst_of_free (hcov.on _)

/-- A term has its types also in a more general context. -/
theorem HasType.weaken {Γ Γ' : Context} {e : Term} {t : Ty} (h : HasType Γ e t)
    (hcov : Context.Covers Ty.var Γ Γ') : HasType Γ' e t := by
  have := h.subst hcov
  rwa [Ty.subst_id] at this

end LetPoly
