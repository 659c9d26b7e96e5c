import LetPoly.Proofs.Analysis
import LetPoly.Proofs.Typing

/-!
# Environments as contexts

In a store, an environment and pinned types stand for a context: each name has the view of its type,
with all variables quantified that are not pinned. Nothing is generalised when a definition is made;
what is quantified follows from the bindings and the pinned types at the time of a look-up.

* `Store.scheme`, `Store.context` — the context that an environment stands for
* `free_context` — its free variables are the exposed ones
* `gives_later` — as analysis goes on, schemes go on to give what they gave
* `Exposed.later`, `exposed_of_bind` — which variables become exposed as analysis goes on
-/

namespace LetPoly

open Store

variable {s s₁ : Store} {t u : Ty} {v w : Var} {env : Env} {pinned : List Ty} {r : Rights}
  {θ θ₁ : Var → Ty}

/-! ## Schemes of a store -/

/-- The scheme that a type stands for: the variables of its view that are not pinned are
quantified. -/
def Store.scheme (s : Store) (pinned : List Ty) (t : Ty) : Scheme :=
  ⟨fun v => ¬ Pins s pinned v, s.view t⟩

/-- The context that an environment stands for. -/
def Store.context (s : Store) (env : Env) (pinned : List Ty) : Context :=
  env.map fun p => (p.1, s.scheme pinned p.2)

theorem lookup_context (s : Store) (env : Env) (pinned : List Ty) (x : String) :
    (s.context env pinned).lookup x = (env.lookup x).map (s.scheme pinned) :=
  lookup_map_snd ..

theorem free_scheme : (s.scheme pinned t).Free v ↔ v ∈ (s.view t).vars ∧ Pins s pinned v := by
  simp [Store.scheme, Scheme.Free]

theorem free_context : (s.context env pinned).Free v ↔ Exposed s env pinned v := by
  constructor
  · rintro ⟨x, S, hx, hv⟩
    rw [lookup_context, Option.map_eq_some_iff] at hx
    obtain ⟨t, ht, rfl⟩ := hx
    obtain ⟨hmem, hpin⟩ := free_scheme.mp hv
    exact ⟨⟨x, t, ht, hmem⟩, hpin⟩
  · rintro ⟨⟨x, t, ht, hmem⟩, hpin⟩
    refine ⟨x, s.scheme pinned t, ?_, free_scheme.mpr ⟨hmem, hpin⟩⟩
    rw [lookup_context, ht, Option.map_some]

/-! ## As analysis goes on -/

/-- What an exposed variable stands for is exposed. -/
theorem Exposed.later (h : r.Allows s s₁) (hset : Setting s env pinned)
    (hv : Exposed s env pinned v) (hw : w ∈ (s₁.meaning v).vars) : Exposed s₁ env pinned w := by
  obtain ⟨⟨x, t, ht, hvt⟩, p, hp, hvp⟩ := hv
  refine ⟨⟨x, t, ht, ?_⟩, p, hp, ?_⟩
  · exact h.mem_view_of_meaning hset.valid (hset.holds_env x t ht) hvt hw
  · exact h.mem_view_of_meaning hset.valid (hset.holds_pinned p hp) hvp hw

/-- A variable that analysis may bind is exposed once it has got into the view of an old type. -/
theorem exposed_of_bind (h : (Rights.analyse s env pinned).Allows s s₁)
    (hset : Setting s env pinned) (hw : (Rights.analyse s env pinned).bind w) (ht : s.Holds t)
    (hmem : w ∈ (s₁.view t).vars) : Exposed s₁ env pinned w := by
  rw [h.view_eq_subst hset.valid ht, Ty.mem_vars_subst] at hmem
  obtain ⟨v, hv, hmem⟩ := hmem
  obtain ⟨hhas, hu⟩ := hset.valid.unbound_of_mem_view ht v hv
  by_cases hb : (Rights.analyse s env pinned).bind v
  · rcases hb with hexp | hnew
    · exact hexp.later h hset hmem
    · exact absurd hhas hnew
  · rw [h.meaning_eq_var hhas hu hb, Ty.vars_var, List.mem_singleton] at hmem
    rw [hmem] at hw
    exact absurd hw hb

/-- The pinned variables of a type that analysis has found are in the environment: those of
shadowed parameters do not get into it. -/
theorem Analysed.exposed_of_pins (h : Analysed s env pinned t s₁) (hset : Setting s env pinned) :
    ∀ v ∈ (s₁.view t).vars, Pins s₁ pinned v → Exposed s₁ env pinned v := by
  rintro v hv ⟨p, hp, hvp⟩
  exact exposed_of_bind h.allows hset (h.bind_of_mem v hv) (hset.holds_pinned p hp) hvp

/-- Variables of the environment that analysis may still bind are pinned. -/
theorem pins_of_visible (h : (Rights.analyse s env pinned).Allows s s₁)
    (hset : Setting s env pinned) (v : Var) (hv : Visible s₁ env v)
    (hb : (Rights.analyse s env pinned).bind v) : Pins s₁ pinned v := by
  obtain ⟨x, t, ht, hmem⟩ := hv
  exact (exposed_of_bind h hset hb (hset.holds_env x t ht) hmem).2

/-- As long as no quantified variable of a scheme is bound, the scheme goes on to give what it
gave. -/
theorem gives_later (h : r.Allows s s₁) (hs : s.Valid) (ht : s.Holds t)
    (hp : ∀ p ∈ pinned, s.Holds p) (hpin : ∀ v ∈ (s.view t).vars, r.bind v → Pins s pinned v)
    (hθ : ∀ v ∈ (s.view t).vars, Pins s pinned v → θ v = (s₁.meaning v).subst θ₁)
    (hgives : (s.scheme pinned t).Gives θ u) : (s₁.scheme pinned t).Gives θ₁ u := by
  obtain ⟨ρ, hρ, rfl⟩ := hgives
  -- quantified variables are treated as before, all others as `θ₁` says
  let ρ₁ (w : Var) : Ty := if w ∈ (s.view t).vars ∧ ¬ Pins s pinned w then ρ w else θ₁ w
  have hmeaning : ∀ v ∈ (s.view t).vars, ¬ r.bind v → s₁.meaning v = .var v := by
    intro v hv hb
    obtain ⟨hhas, hu⟩ := hs.unbound_of_mem_view ht v hv
    exact h.meaning_eq_var hhas hu hb
  refine ⟨ρ₁, fun w hw => if_neg ?_, ?_⟩
  · rintro ⟨hmem, hgen⟩
    obtain ⟨_, p, hmemp, hwp⟩ := free_scheme.mp hw
    rcases h.mem_view hs (hp p hmemp) hwp (hs.holds_view ht w hmem) with hb | hwp
    · exact hgen (hpin w hmem hb)
    · exact hgen ⟨p, hmemp, hwp⟩
  · show (s.view t).subst ρ = (s₁.view t).subst ρ₁
    rw [h.view_eq_subst hs ht, Ty.subst_subst]
    refine Ty.subst_congr fun v hv => ?_
    by_cases hpv : Pins s pinned v
    · rw [hρ v (free_scheme.mpr ⟨hv, hpv⟩), hθ v hv hpv]
      refine Ty.subst_congr fun w hw => (if_neg ?_).symm
      rintro ⟨hmem, hgen⟩
      by_cases hb : r.bind v
      · obtain ⟨hhas, hu⟩ := hs.unbound_of_mem_view ht v hv
        exact hgen (hpin w hmem (h.reach v hhas hu hb w hw (hs.holds_view ht w hmem)))
      · rw [hmeaning v hv hb, Ty.vars_var, List.mem_singleton] at hw
        rw [hw] at hgen
        exact hgen hpv
    · rw [hmeaning v hv fun hb => hpv (hpin v hv hb), Ty.subst_var]
      exact (if_pos ⟨hv, hpv⟩).symm

end LetPoly
