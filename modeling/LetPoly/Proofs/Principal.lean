import LetPoly.Proofs.Completeness
import LetPoly.Proofs.Soundness

/-!
# Principal types

In a context without the bare type, a well-formed term that has a type has a principal one: all its
types are instances of its generalisation. Analysis finds it. So every context has to be that of an
environment in some store: its free variables are pinned there, and the quantified variables of its
schemes are kept apart from them.

* `HasType.exists_principal_of_models` — principal types in the context of an environment
* `Context.liftEnv` — the environment of a context, in a store of unbound variables
* `HasType.exists_principal` — principal types
-/

namespace LetPoly

open Store

variable {s s₁ : Store} {t u : Ty} {e : Term} {env : Env} {pinned : List Ty} {r : Rights}
  {θ : Var → Ty} {Γ : Context}

/-! ## In the context of an environment -/

/-- Where a substitution undoes what has been bound since, a scheme gives no more than it gave. -/
theorem gives_earlier (ha : r.Allows s s₁) (hset : Setting s env pinned) (ht : s.Holds t)
    (href : Refines s Ty.var s₁ θ) (hgives : (s₁.scheme pinned t).Gives θ u) :
    (s.scheme pinned t).Instance u := by
  have hs := hset.valid
  obtain ⟨ρ, hρ, rfl⟩ := hgives
  refine ⟨fun v => (s₁.meaning v).subst ρ, fun v hv => ?_, ?_⟩
  · obtain ⟨hmem, p, hp, hvp⟩ := free_scheme.mp hv
    obtain ⟨hhas, hu⟩ := hs.unbound_of_mem_view ht v hmem
    have hvar := href (.var v) (holds_var.mpr hhas)
    rw [view_var_of_unbound hu, Ty.subst_var] at hvar
    refine Eq.trans (Ty.subst_congr fun w hw => hρ w (free_scheme.mpr ⟨?_, p, hp, ?_⟩)) hvar
    · exact ha.mem_view_of_meaning hs ht hmem hw
    · exact ha.mem_view_of_meaning hs (hset.holds_pinned p hp) hvp hw
  · show (s₁.view t).subst ρ = (s.view t).subst _
    rw [ha.view_eq_subst hs ht, Ty.subst_subst]

theorem covers_earlier (ha : r.Allows s s₁) (hset : Setting s env pinned)
    (href : Refines s Ty.var s₁ θ) (hcov : Context.Covers Ty.var (s.context env pinned) Γ) :
    Context.Covers θ (s₁.context env pinned) Γ := by
  intro x
  have hx := hcov x
  rw [lookup_context] at hx
  rw [lookup_context]
  cases hl : env.lookup x with
  | none =>
    rw [hl] at hx
    exact ⟨fun _ => hx.1 rfl, nofun⟩
  | some t =>
    rw [hl] at hx
    obtain ⟨S, hS, hinst⟩ := hx.2 _ rfl
    refine ⟨nofun, ?_⟩
    rintro _ ⟨⟩
    exact ⟨S, hS, fun u hu => hinst u (gives_earlier ha hset (hset.holds_env x t hl) href hu)⟩

/-- Substitutions that undo the same bindings agree on what exposed variables have become. -/
theorem Refines.eq_of_exposed {θ' : Var → Ty} {w : Var} (hset : Setting s env pinned)
    (h : Refines s Ty.var s₁ θ) (h' : Refines s Ty.var s₁ θ') (hw : Exposed s₁ env pinned w) :
    θ' w = θ w := by
  obtain ⟨_, p, hp, hwp⟩ := hw
  have heq := (h' p (hset.holds_pinned p hp)).trans (h p (hset.holds_pinned p hp)).symm
  exact Ty.subst_eq_subst_iff.mp heq w hwp

/-- A context that gives as much as an environment gives every term that has a type a principal
one. -/
theorem HasType.exists_principal_of_models (h : HasType Γ e t) (hwf : e.WellFormed)
    (hset : Setting s env pinned) (hn : s.Numbered) (hplain : PlainEnv s env)
    (hmod : Models Γ s env pinned Ty.var)
    (hcov : Context.Covers Ty.var (s.context env pinned) Γ) :
    ∃ t₀, HasType Γ e t₀ ∧ ∀ u, HasType Γ e u → (Γ.generalize t₀).Instance u := by
  obtain ⟨p, s₁, hp, θ, href, _⟩ := (analyse_complete_ends h hset hn hplain hmod).exists_ok
  have ha := ((analyse_ends e hset).of_ok hp).allows
  have htype := (analyse_sound_ends e hset hwf).of_ok hp
  -- the quantified variables of what has been found are kept apart from those of the context
  obtain ⟨σ, hσ, hgen⟩ := (s₁.context env pinned).exists_apart Γ θ (s₁.view p)
  have hcovσ := ((covers_earlier ha hset href hcov).on e.freeNames).congr hσ
  refine ⟨(s₁.view p).subst σ, htype.subst_of_free hcovσ, fun u hu => hgen u ?_⟩
  obtain ⟨θ', href', rfl⟩ := (analyse_complete_ends hu hset hn hplain hmod).of_ok hp
  refine ⟨θ', fun w hw => ?_, rfl⟩
  exact href.eq_of_exposed hset href' (free_context.mp (Context.free_generalize.mp hw).2)

/-! ## Contexts as environments -/

/-- The store of so many unbound variables. -/
def Store.blank : Nat → Store
  | 0 => .empty
  | n + 1 => ((blank n).pushNext none).2

theorem allows_blank (n : Nat) : Rights.grow.Allows .empty (Store.blank n) := by
  induction n with
  | zero => exact .refl valid_empty
  | succ n ih => exact ih.trans (allows_pushNext ih.valid)

theorem size_blank (n : Nat) : (Store.blank n).cells.size = n := by
  induction n with
  | zero => rfl
  | succ n ih =>
    show ((Store.blank n).cells.push _).size = n + 1
    rw [Array.size_push, ih]

theorem has_blank {n : Nat} {v : Var} : (Store.blank n).Has v ↔ v.index < n := by
  rw [Has, size_blank]

theorem binding_blank (n : Nat) (v : Var) : (Store.blank n).binding v = none := by
  induction n with
  | zero => rfl
  | succ n ih =>
    show ((Store.blank n).pushNext none).2.binding v = none
    rw [binding_pushNext, ih]

theorem view_blank {n : Nat} (ht : (Store.blank n).Holds t) : (Store.blank n).view t = t :=
  (allows_blank n).valid.view_eq_self ht fun v _ => binding_blank n v

/-- The variables below `n`, as types. -/
def lowVars (n : Nat) : List Ty := (List.range n).map fun i => .var ⟨i⟩

theorem pins_lowVars {m n : Nat} {v : Var} :
    Pins (Store.blank m) (lowVars n) v ↔ v.index < n := by
  constructor
  · rintro ⟨p, hp, hv⟩
    obtain ⟨i, hi, rfl⟩ := List.mem_map.mp hp
    rw [view_var_of_unbound (binding_blank ..), Ty.vars_var, List.mem_singleton] at hv
    rw [hv]
    exact List.mem_range.mp hi
  · intro hv
    refine ⟨.var v, List.mem_map.mpr ⟨v.index, List.mem_range.mpr hv, rfl⟩, ?_⟩
    rw [view_var_of_unbound (binding_blank ..)]
    exact List.mem_singleton.mpr rfl

namespace Scheme

open Classical in
/-- The body of a scheme with the quantified variables moved up by `n`. -/
noncomputable def lift (S : Scheme) (n : Nat) : Ty :=
  S.body.subst fun v => if S.bound v then .var ⟨n + v.index⟩ else .var v

variable {S : Scheme} {n : Nat}

theorem lift_subst (θ : Var → Ty) : (S.lift n).subst θ =
    S.body.subst fun v => open Classical in if S.bound v then θ ⟨n + v.index⟩ else θ v := by
  rw [lift, Ty.subst_subst]
  refine Ty.subst_congr fun v _ => ?_
  split <;> rfl

theorem mem_vars_lift (hn : ∀ v ∈ S.body.vars, v.index < n) {w : Var} (hw : w ∈ (S.lift n).vars) :
    S.Free w ∨ n ≤ w.index ∧ w.index < n + n := by
  obtain ⟨v, hv, hw⟩ := Ty.mem_vars_subst.mp hw
  have hlt := hn v hv
  split at hw
  · rw [Ty.vars_var, List.mem_singleton] at hw
    rw [hw]
    exact .inr ⟨Nat.le_add_right .., by show n + v.index < n + n; omega⟩
  · next hb =>
    rw [Ty.vars_var, List.mem_singleton] at hw
    rw [hw]
    exact .inl ⟨hv, hb⟩

/-- The lifted body, with the low variables free, gives just the instances of the scheme. -/
theorem instance_lift_iff (hn : ∀ v ∈ S.body.vars, v.index < n) :
    Instance ⟨fun v => ¬ v.index < n, S.lift n⟩ u ↔ S.Instance u := by
  constructor
  · rintro ⟨ρ, hρ, rfl⟩
    refine ⟨_, fun v hv => (if_neg hv.2).trans (hρ v ⟨?_, fun hb => hb (hn v hv.1)⟩), lift_subst ρ⟩
    refine Ty.mem_vars_subst.mpr ⟨v, hv.1, ?_⟩
    rw [if_neg hv.2]
    exact List.mem_singleton.mpr rfl
  · rintro ⟨ρ, hρ, rfl⟩
    refine ⟨fun w => if w.index < n then .var w else ρ ⟨w.index - n⟩, fun w hw => ?_, ?_⟩
    · exact if_pos (Decidable.not_not.mp hw.2)
    · show S.body.subst ρ = (S.lift n).subst _
      rw [lift_subst]
      refine Ty.subst_congr fun v hv => ?_
      split
      · show ρ v = if n + v.index < n then _ else ρ ⟨n + v.index - n⟩
        rw [if_neg (by omega), Nat.add_sub_cancel_left]
      · next hb =>
        rw [if_pos (hn v hv)]
        exact hρ v ⟨hv, hb⟩

theorem holds_lift (hn : ∀ v ∈ S.body.vars, v.index < n) :
    (Store.blank (n + n)).Holds (S.lift n) := by
  intro w hw
  rw [has_blank]
  rcases mem_vars_lift hn hw with hfree | hw
  · have := hn w hfree.1
    omega
  · exact hw.2

theorem scheme_lift (hn : ∀ v ∈ S.body.vars, v.index < n) :
    (Store.blank (n + n)).scheme (lowVars n) (S.lift n) = ⟨fun v => ¬ v.index < n, S.lift n⟩ := by
  rw [Store.scheme, view_blank (holds_lift hn)]
  simp only [pins_lowVars]

theorem plain_lift (h : S.body.Plain) : (S.lift n).Plain := by
  rw [lift, Ty.plain_subst_iff]
  refine ⟨h, fun v _ => ?_⟩
  split <;> exact .var _

end Scheme

namespace Context

/-- The bare type occurs in the scheme of no name that counts. -/
def Plain (Γ : Context) : Prop := ∀ x S, Γ.lookup x = some S → S.body.Plain

/-- The names of a context with the lifted bodies of their schemes. -/
noncomputable def liftEnv (Γ : Context) (n : Nat) : Env := Γ.map fun p => (p.1, p.2.lift n)

variable {n : Nat}

theorem lookup_liftEnv (x : String) :
    (Γ.liftEnv n).lookup x = (Γ.lookup x).map (Scheme.lift · n) :=
  lookup_map_snd (Scheme.lift · n) Γ x

theorem exists_of_lookup_liftEnv {x : String} (h : (Γ.liftEnv n).lookup x = some t) :
    ∃ S, Γ.lookup x = some S ∧ t = S.lift n := by
  rw [lookup_liftEnv, Option.map_eq_some_iff] at h
  obtain ⟨S, hx, rfl⟩ := h
  exact ⟨S, hx, rfl⟩

section

variable (hn : ∀ x S, Γ.lookup x = some S → ∀ v ∈ S.body.vars, v.index < n)
include hn

theorem setting_liftEnv : Setting (Store.blank (n + n)) (Γ.liftEnv n) (lowVars n) where
  valid := (allows_blank _).valid
  holds_env x t ht := by
    obtain ⟨S, hx, rfl⟩ := exists_of_lookup_liftEnv ht
    exact Scheme.holds_lift (hn x S hx)
  holds_pinned p hp := by
    obtain ⟨i, hi, rfl⟩ := List.mem_map.mp hp
    have := List.mem_range.mp hi
    exact holds_var.mpr (has_blank.mpr (by show i < n + n; omega))

theorem plainEnv_liftEnv (hΓ : Γ.Plain) : PlainEnv (Store.blank (n + n)) (Γ.liftEnv n) := by
  intro x t ht
  obtain ⟨S, hx, rfl⟩ := exists_of_lookup_liftEnv ht
  rw [view_blank (Scheme.holds_lift (hn x S hx))]
  exact Scheme.plain_lift (hΓ x S hx)

theorem models_liftEnv : Models Γ (Store.blank (n + n)) (Γ.liftEnv n) (lowVars n) Ty.var := by
  intro x
  rw [lookup_liftEnv]
  refine ⟨fun hx => by rw [hx]; rfl, fun S hx => ⟨S.lift n, ?_, fun u hu => ?_⟩⟩
  · rw [hx, Option.map_some]
  · rw [Scheme.scheme_lift (hn x S hx)]
    exact (Scheme.instance_lift_iff (hn x S hx)).mpr hu

theorem covers_liftEnv :
    Covers Ty.var ((Store.blank (n + n)).context (Γ.liftEnv n) (lowVars n)) Γ := by
  intro x
  rw [lookup_context, lookup_liftEnv]
  cases hx : Γ.lookup x with
  | none => exact ⟨fun _ => rfl, nofun⟩
  | some S =>
    refine ⟨nofun, ?_⟩
    rintro _ ⟨⟩
    refine ⟨S, rfl, fun u hu => ?_⟩
    rw [Scheme.scheme_lift (hn x S hx)] at hu
    exact (Scheme.instance_lift_iff (hn x S hx)).mp hu

end

end Context

/-- In a context without the bare type, a well-formed term that has a type has a principal one. -/
theorem HasType.exists_principal (h : HasType Γ e t) (hΓ : Γ.Plain) (hwf : e.WellFormed) :
    ∃ t₀, HasType Γ e t₀ ∧ ∀ u, HasType Γ e u → (Γ.generalize t₀).Instance u := by
  obtain ⟨n, hn⟩ := Γ.exists_index_above_vars
  exact h.exists_principal_of_models hwf (Context.setting_liftEnv hn)
    ((allows_blank _).numbered (fun h => h) numbered_empty) (Context.plainEnv_liftEnv hn hΓ)
    (Context.models_liftEnv hn) (Context.covers_liftEnv hn)

end LetPoly
