import LetPoly.Proofs.Lists
import LetPoly.Proofs.Looking

/-!
# Unification

`unify` adds to a store the equation that it is given, and nothing more. A substitution solves the
store afterwards exactly if it solved the store before and makes the two types equal
(`Unified.solves_iff`); if unification fails, no solution of the store makes them equal
(`Clash.conflict`). That views are most general unifiers follows from this.

The number of steps that unification may take is fixed before any variable is bound. It is enough
because it bounds the views of the two types in every store that binding can lead to (`Deep`).
-/

namespace LetPoly

open Store

variable {s s' s₁ s₂ : Store} {t u : Ty} {v : Var} {e : Error}

/-! ## Equations between types -/

/-- The substitution makes the two types of every pair equal. -/
def Unifies (θ : Var → Ty) (ps : List (Ty × Ty)) : Prop :=
  ∀ p ∈ ps, p.1.subst θ = p.2.subst θ

/-- The bare type occurs in no view of a type of the pairs. -/
def PlainPairs (s : Store) (ps : List (Ty × Ty)) : Prop :=
  ∀ p ∈ ps, (s.view p.1).Plain ∧ (s.view p.2).Plain

/-- The store holds the types of all pairs. -/
def HoldsPairs (s : Store) (ps : List (Ty × Ty)) : Prop :=
  ∀ p ∈ ps, s.Holds p.1 ∧ s.Holds p.2

/-- Unification may bind the variables in the views of the types that it is given. -/
def Rights.unify (s : Store) (ps : List (Ty × Ty)) : Rights where
  bind v := ∃ p ∈ ps, v ∈ (s.view p.1).vars ∨ v ∈ (s.view p.2).vars
  bare := ¬ PlainPairs s ps

/-- The store after unification has succeeded: it has the equations of the pairs in addition. -/
structure Unified (height : Nat) (s : Store) (ps : List (Ty × Ty)) (s' : Store) : Prop where
  allows : (Rights.unify s ps).Allows s s'
  height_le : s'.height ≤ height
  solves_iff : ∀ θ, s'.Solves θ ↔ s.Solves θ ∧ Unifies θ ps

/-- The store after unification has failed: no solution has the equations of the pairs. -/
structure Clash (s : Store) (ps : List (Ty × Ty)) (e : Error) (s' : Store) : Prop where
  allows : (Rights.unify s ps).Allows s s'
  conflict : PlainPairs s ps → e.IsConflict ∧ ∀ θ, s.Solves θ → ¬ Unifies θ ps

/-- One problem may be put in place of another that has the same solutions and at most its
variables. -/
structure Replaces (s : Store) (ps : List (Ty × Ty)) (s' : Store) (ps' : List (Ty × Ty)) :
    Prop where
  look : Rights.look.Allows s s'
  bind : ∀ v, (Rights.unify s' ps').bind v → (Rights.unify s ps).bind v
  plain : PlainPairs s ps → PlainPairs s' ps'
  unifies_iff : ∀ θ, s.Solves θ → (Unifies θ ps' ↔ Unifies θ ps)

variable {ps ps' : List (Ty × Ty)} {height : Nat}

theorem Replaces.allows (h : Replaces s ps s₁ ps')
    (ha : (Rights.unify s₁ ps').Allows s₁ s') : (Rights.unify s ps).Allows s s' := by
  exact h.look.of_look.trans (ha.mono (fun v _ => h.bind v) (fun hn v hv => hn v (h.bind v hv))
    (fun hb hp => hb (h.plain hp)) False.elim False.elim nofun)

theorem Replaces.unified (h : Replaces s ps s₁ ps') (hs : s.Valid)
    (hu : Unified height s₁ ps' s') : Unified height s ps s' where
  allows := h.allows hu.allows
  height_le := hu.height_le
  solves_iff θ := by
    rw [hu.solves_iff, h.look.solves_iff (fun _ hb => hb) (fun hm => hm) hs]
    exact and_congr_right (h.unifies_iff θ)

theorem Replaces.clash (h : Replaces s ps s₁ ps') (hs : s.Valid) (hc : Clash s₁ ps' e s') :
    Clash s ps e s' where
  allows := h.allows hc.allows
  conflict hp := by
    obtain ⟨he, hno⟩ := hc.conflict (h.plain hp)
    refine ⟨he, fun θ hθ hu => hno θ ?_ ((h.unifies_iff θ hθ).mpr hu)⟩
    exact (h.look.solves_iff (fun _ hb => hb) (fun hm => hm) hs).mpr hθ

/-- Types with the same views make the same problem. -/
theorem Replaces.of_views {t' u' : Ty} (hlook : Rights.look.Allows s s₁) (hs : s.Valid)
    (ht : s.Holds t) (hu : s.Holds u) (ht' : s₁.Holds t') (hu' : s₁.Holds u')
    (hvt : s₁.view t' = s.view t) (hvu : s₁.view u' = s.view u) :
    Replaces s [(t, u)] s₁ [(t', u')] where
  look := hlook
  bind v := by simp [Rights.unify, hvt, hvu]
  plain := by simp [PlainPairs, hvt, hvu]
  unifies_iff θ hθ := by
    have hθ₁ := (hlook.solves_iff (fun _ hb => hb) (fun hm => hm) hs).mpr hθ
    simp only [Unifies, List.mem_singleton, forall_eq]
    rw [← hs.view_subst hθ ht, ← hs.view_subst hθ hu, ← hlook.valid.view_subst hθ₁ ht',
      ← hlook.valid.view_subst hθ₁ hu', hvt, hvu]

/-- The two sides of an equation may be exchanged. -/
theorem Replaces.swap (hs : s.Valid) : Replaces s [(t, u)] s [(u, t)] where
  look := .refl hs
  bind v := by simp [Rights.unify, or_comm]
  plain := by simp [PlainPairs, and_comm]
  unifies_iff θ _ := by simp [Unifies, eq_comm]

/-- Two operators of one name and one number of components are replaced by their components. -/
theorem Replaces.of_components {name : String} {ts us : List Ty} (hlook : Rights.look.Allows s s₁)
    (hs : s.Valid) (ht : s.Holds t) (hu : s.Holds u) (hts : ∀ x ∈ ts, s.Holds x)
    (hus : ∀ x ∈ us, s.Holds x) (hvt : s.view t = .con name (ts.map s.view))
    (hvu : s.view u = .con name (us.map s.view)) (hlen : ts.length = us.length) :
    Replaces s [(t, u)] s₁ (ts.zip us) where
  look := hlook
  bind := by
    rintro v ⟨⟨x, y⟩, hp, hv⟩
    obtain ⟨hx, hy⟩ := List.of_mem_zip hp
    refine ⟨(t, u), by simp, ?_⟩
    simp only [hlook.view_eq (fun _ h => h) hs (hts x hx),
      hlook.view_eq (fun _ h => h) hs (hus y hy)] at hv
    rw [hvt, hvu, mem_vars_con_view, mem_vars_con_view]
    exact hv.imp (fun hv => ⟨x, hx, hv⟩) (fun hv => ⟨y, hy, hv⟩)
  plain := by
    intro hp
    obtain ⟨hpt, hpu⟩ := hp (t, u) (by simp)
    rw [hvt, plain_con_view] at hpt
    rw [hvu, plain_con_view] at hpu
    rintro ⟨x, y⟩ hmem
    obtain ⟨hx, hy⟩ := List.of_mem_zip hmem
    simp only [hlook.view_eq (fun _ h => h) hs (hts x hx),
      hlook.view_eq (fun _ h => h) hs (hus y hy)]
    exact ⟨hpt x hx, hpu y hy⟩
  unifies_iff θ hθ := by
    have hpair : ∀ p ∈ ts.zip us, ((s.view p.1).subst θ = (s.view p.2).subst θ ↔
        p.1.subst θ = p.2.subst θ) := by
      rintro ⟨x, y⟩ hmem
      obtain ⟨hx, hy⟩ := List.of_mem_zip hmem
      rw [hs.view_subst hθ (hts x hx), hs.view_subst hθ (hus y hy)]
    simp only [Unifies, List.mem_singleton, forall_eq]
    rw [← hs.view_subst hθ ht, ← hs.view_subst hθ hu, hvt, hvu]
    simp only [Ty.subst_con, List.map_map, Ty.con.injEq, true_and, map_eq_map_iff hlen,
      Function.comp]
    exact forall₂_congr fun p hp => (hpair p hp).symm

/-! ## Equations one after the other -/

/-- After some equations have been added, the variables and the bareness of the rest come from the
problem as it was. -/
theorem Unified.rest {p : Ty × Ty} (h : Unified height s [p] s₁) (hs : s.Valid)
    (hps : HoldsPairs s ps) :
    (∀ v, (Rights.unify s₁ ps).bind v → (Rights.unify s (p :: ps)).bind v) ∧
      (PlainPairs s (p :: ps) → PlainPairs s₁ ps) := by
  constructor
  · rintro v ⟨q, hq, hv⟩
    obtain ⟨hq₁, hq₂⟩ := hps q hq
    -- no variable is made, so the one at hand is as old as the problem
    have hold : s.Has v := by
      have hsize := h.allows.size_eq (fun hm => hm)
      have hhas : s₁.Has v := by
        rcases hv with hv | hv
        · exact h.allows.valid.holds_view (h.allows.holds hq₁) v hv
        · exact h.allows.valid.holds_view (h.allows.holds hq₂) v hv
      unfold Has at hhas ⊢
      rwa [hsize] at hhas
    have hcase : (Rights.unify s [p]).bind v ∨ v ∈ (s.view q.1).vars ∨ v ∈ (s.view q.2).vars := by
      rcases hv with hv | hv
      · exact (h.allows.mem_view hs hq₁ hv hold).imp_right .inl
      · exact (h.allows.mem_view hs hq₂ hv hold).imp_right .inr
    rcases hcase with ⟨p', hp', hv⟩ | hv
    · exact ⟨p', List.mem_cons.mpr (.inl (List.mem_singleton.mp hp')), hv⟩
    · exact ⟨q, List.mem_cons_of_mem _ hq, hv⟩
  · intro hp q hq
    have hbare : ¬ (Rights.unify s [p]).bare := by
      refine not_not.mpr fun p' hp' => hp p' ?_
      exact List.mem_cons.mpr (.inl (List.mem_singleton.mp hp'))
    obtain ⟨hq₁, hq₂⟩ := hps q hq
    obtain ⟨hp₁, hp₂⟩ := hp q (List.mem_cons_of_mem _ hq)
    exact ⟨h.allows.plain_view hs hq₁ hbare hp₁, h.allows.plain_view hs hq₂ hbare hp₂⟩

theorem Rights.unify_cons_allows {p : Ty × Ty} (h : (Rights.unify s [p]).Allows s s₁) :
    (Rights.unify s (p :: ps)).Allows s s₁ := by
  have hmem : ∀ q ∈ [p], q ∈ p :: ps := by simp
  exact h.mono (fun v _ ⟨q, hq, hv⟩ => ⟨q, hmem q hq, hv⟩)
    (fun hn v ⟨q, hq, hv⟩ => hn v ⟨q, hmem q hq, hv⟩)
    (fun hb hp => hb fun q hq => hp q (hmem q hq)) False.elim False.elim nofun

theorem Unified.cons_allows {p : Ty × Ty} (h : Unified height s [p] s₁) (hs : s.Valid)
    (hps : HoldsPairs s ps) (h' : (Rights.unify s₁ ps).Allows s₁ s₂) :
    (Rights.unify s (p :: ps)).Allows s s₂ := by
  obtain ⟨hbind, hplain⟩ := h.rest hs hps
  exact (Rights.unify_cons_allows h.allows).trans (h'.mono (fun v _ => hbind v)
    (fun hn v hv => hn v (hbind v hv)) (fun hb hp => hb (hplain hp)) False.elim False.elim nofun)

theorem Unified.cons {p : Ty × Ty} (h : Unified height s [p] s₁) (hs : s.Valid)
    (hps : HoldsPairs s ps) (h' : Unified height s₁ ps s₂) : Unified height s (p :: ps) s₂ where
  allows := h.cons_allows hs hps h'.allows
  height_le := h'.height_le
  solves_iff θ := by
    rw [h'.solves_iff, h.solves_iff]
    simp [Unifies, and_assoc]

theorem Unified.cons_clash {p : Ty × Ty} (h : Unified height s [p] s₁) (hs : s.Valid)
    (hps : HoldsPairs s ps) (h' : Clash s₁ ps e s₂) : Clash s (p :: ps) e s₂ where
  allows := h.cons_allows hs hps h'.allows
  conflict hp := by
    obtain ⟨he, hno⟩ := h'.conflict ((h.rest hs hps).2 hp)
    refine ⟨he, fun θ hθ hu => hno θ ?_ fun q hq => hu q (List.mem_cons_of_mem _ hq)⟩
    exact (h.solves_iff θ).mpr ⟨hθ, fun q hq => hu q (by simp_all)⟩

theorem Clash.cons {p : Ty × Ty} (h : Clash s [p] e s₁) : Clash s (p :: ps) e s₁ where
  allows := Rights.unify_cons_allows h.allows
  conflict hp := by
    obtain ⟨he, hno⟩ := h.conflict fun q hq => hp q (by simp_all)
    exact ⟨he, fun θ hθ hu => hno θ hθ fun q hq => hu q (by simp_all)⟩

/-! ## Binding one variable -/

theorem bindVar_ends {Q : Unit → Store → Prop} {E : Error → Store → Prop}
    (hu : s.binding v = none) : Ends (bindVar v t) s Q E ↔ Q () (s.setBinding v t) := by
  unfold bindVar
  rw [ends_bind, ends_get, hu]
  exact Iff.rfl

/-- Binding an unbound variable to a type without it solves their equation. -/
theorem unified_setBinding (hs : s.Valid) (hv : s.Has v) (hu : s.binding v = none)
    (ht : s.Holds t) (hocc : v ∉ (s.view t).vars) (hh : s.height ≤ height)
    (hth : t.height ≤ height) : Unified height s [(.var v, t)] (s.setBinding v t) where
  allows := by
    refine allows_setBinding hs hv hu ht hocc ⟨(.var v, t), by simp, .inl ?_⟩
      (fun w hw => ⟨(.var v, t), by simp, .inr hw⟩) ?_
    · rw [view_var_of_unbound hu]
      simp
    · by_cases hp : (s.view t).Plain
      · exact .inl hp
      · exact .inr fun hall => hp (hall (.var v, t) (by simp)).2
  height_le := Nat.max_le.mpr ⟨hh, hth⟩
  solves_iff θ := by
    rw [solves_setBinding_iff hv hu]
    simp [Unifies]

/-- A type other than a variable is tested for the variable before it is bound. -/
theorem assignTested_ends (hs : s.Valid) (hv : s.Has v) (hu : s.binding v = none)
    (ht : s.Holds t) (hh : s.height ≤ height) (hth : t.height ≤ height)
    (hrec : v ∈ (s.view t).vars → ∀ θ, θ v ≠ (s.view t).subst θ) :
    Ends (do if ← occurs v t then throwRecursive v t else bindVar v t) s
      (fun _ s' => Unified height s [(.var v, t)] s') (fun e s' => Clash s [(.var v, t)] e s') := by
  have hvt : s.Holds (.var v) := holds_var.mpr hv
  rw [ends_bind]
  refine (occurs_ends hs ht v).mono (fun b s₁ ⟨hb, h₁⟩ => ?_) (fun _ _ h => h.elim)
  -- the test has shortened chains, which leaves the equation as it was
  have hrep : Replaces s [(.var v, t)] s₁ [(.var v, t)] :=
    .of_views h₁ hs hvt ht (h₁.holds hvt) (h₁.holds ht) (h₁.view_eq (fun _ h => h) hs hvt)
      (h₁.view_eq (fun _ h => h) hs ht)
  cases b with
  | true =>
    have hocc : v ∈ (s.view t).vars := of_decide_eq_true hb.symm
    rw [if_pos rfl]
    refine (throwRecursive_ends h₁.valid (h₁.has hv) (h₁.holds ht)).mono (fun _ _ h => h) ?_
    rintro e s₂ ⟨h₂, he⟩
    refine hrep.clash hs ⟨h₂.of_look, fun hp => ⟨he (hp (.var v, t) (by simp)), ?_⟩⟩
    intro θ hθ hun
    have heq : θ v = t.subst θ := hun (.var v, t) (by simp)
    rw [← hs.view_subst (h₁.solves θ hθ) ht] at heq
    exact hrec hocc θ heq
  | false =>
    have hocc : v ∉ (s.view t).vars := of_decide_eq_false hb.symm
    have hu₁ : s₁.binding v = none := h₁.unbound v hv hu fun h => h
    rw [if_neg (by simp), bindVar_ends hu₁]
    refine hrep.unified hs (unified_setBinding h₁.valid (h₁.has hv) hu₁ (h₁.holds ht) ?_ ?_ hth)
    · rwa [h₁.view_eq (fun _ h => h) hs ht]
    · rwa [h₁.height_eq fun _ h => h]

/-- Letting an unbound variable stand for a representative solves their equation or finds that it
has no solution. -/
theorem assign_ends (hs : s.Valid) (hv : s.Has v) (hu : s.binding v = none) (ht : s.Holds t)
    (hrep : ∀ w, t = .var w → s.binding w = none) (hh : s.height ≤ height)
    (hth : t.height ≤ height) :
    Ends (assign v t) s
      (fun _ s' => Unified height s [(.var v, t)] s') (fun e s' => Clash s [(.var v, t)] e s') := by
  cases t with
  | var w =>
    show Ends (if w = v then pure () else bindVar v (.var w)) s _ _
    by_cases hw : w = v
    · rw [if_pos hw, ends_pure, hw]
      exact ⟨.refl hs, hh, fun θ => by simp [Unifies]⟩
    · rw [if_neg hw, bindVar_ends hu]
      refine unified_setBinding hs hv hu ht ?_ hh hth
      rw [view_var_of_unbound (hrep w rfl), Ty.vars_var, List.mem_singleton]
      exact fun h => hw h.symm
  | con name args =>
    refine assignTested_ends hs hv hu ht hh hth fun hocc θ => ?_
    rw [hs.view_con ht] at hocc ⊢
    exact Ty.subst_ne_of_mem_vars hocc
  | bare =>
    refine assignTested_ends hs hv hu ht hh hth fun hocc => ?_
    simp at hocc

/-! ## Enough steps -/

/-- The steps are enough for the view of the type in every store that is reached by binding
variables to types of at most the given height. -/
def Deep (height steps : Nat) (s : Store) (t : Ty) : Prop :=
  ∀ s', Rights.solve.Allows s s' → s'.height ≤ height → (s'.view t).height < steps

theorem Deep.later {steps : Nat} (h : Deep height steps s t) (h₁ : Rights.solve.Allows s s₁) :
    Deep height steps s₁ t :=
  fun _ h₂ hh => h _ (h₁.trans h₂) hh

/-- An operator stays an operator, so its components always take one step less. -/
theorem Deep.component {steps : Nat} {name : String} {args : List Ty}
    (h : Deep height (steps + 1) s t) (hs : s.Valid) (ht : s.Holds t)
    (hargs : ∀ x ∈ args, s.Holds x) (hv : s.view t = .con name (args.map s.view)) {x : Ty}
    (hx : x ∈ args) : Deep height steps s x := by
  intro s' h' hh
  have hlt := h s' h' hh
  rw [h'.view_eq_subst hs ht, hv, Ty.subst_con, List.map_map] at hlt
  have hx' : s'.view x ∈ args.map (Ty.subst s'.meaning ∘ s.view) := by
    rw [h'.view_eq_subst hs (hargs x hx)]
    exact List.mem_map_of_mem (f := Ty.subst s'.meaning ∘ s.view) hx
  have hlt' : _ < (Ty.con name _).height := Ty.height_lt_of_mem hx'
  omega

/-- The number of steps that unification starts with is enough. -/
theorem deep_depthBound (ht : s.Holds t) {ts : List Ty} (hmem : t ∈ ts) :
    Deep (max s.height (Ty.heights ts)) (s.depthBound ts) s t := by
  intro s' h hh
  have hsize : s'.cells.size = s.cells.size := h.size_eq fun hm => hm
  have h₁ := h.valid.height_view_le (h.holds ht)
  have h₂ : t.height ≤ Ty.heights ts := Ty.heights_le_iff.mp (Nat.le_refl _) t hmem
  unfold depthBound
  generalize hm : max s.height (Ty.heights ts) = m at hh ⊢
  rw [hsize] at h₁
  have h₃ : s.cells.size * (s'.height + 1) ≤ s.cells.size * (m + 2) :=
    Nat.mul_le_mul_left _ (by omega)
  rw [Nat.add_mul]
  omega

/-- Types with the same view have the same view later on, and so take the same steps. -/
theorem Deep.of_view {steps : Nat} (h : Deep height steps s t) (hs : s.Valid) (ht : s.Holds t)
    (hu : s.Holds u) (hv : s.view u = s.view t) : Deep height steps s u := by
  intro s' h' hh
  rw [h'.view_eq_subst hs hu, hv, ← h'.view_eq_subst hs ht]
  exact h s' h' hh

/-- An equation that unification can take on: its types are in the store and within the height, and
the steps are enough. -/
structure Fits (height steps : Nat) (s : Store) (t u : Ty) : Prop where
  holds_left : s.Holds t
  holds_right : s.Holds u
  left_le : t.height ≤ height
  right_le : u.height ≤ height
  deep : Deep height steps s t

theorem Fits.later {steps : Nat} (h : Fits height steps s t u)
    (h₁ : Rights.solve.Allows s s₁) : Fits height steps s₁ t u where
  holds_left := h₁.holds h.holds_left
  holds_right := h₁.holds h.holds_right
  left_le := h.left_le
  right_le := h.right_le
  deep := h.deep.later h₁

/-- Operators that fit have components that fit. -/
theorem Fits.component {steps : Nat} {f g : String} {ts us : List Ty} {x y : Ty} (hs : s.Valid)
    (h : Fits height (steps + 1) s (.con f ts) (.con g us)) (hx : x ∈ ts) (hy : y ∈ us) :
    Fits height steps s x y where
  holds_left := holds_con.mp h.holds_left x hx
  holds_right := holds_con.mp h.holds_right y hy
  left_le := Nat.le_trans (Nat.le_of_lt (Ty.height_lt_of_mem hx)) h.left_le
  right_le := Nat.le_trans (Nat.le_of_lt (Ty.height_lt_of_mem hy)) h.right_le
  deep := h.deep.component hs h.holds_left (holds_con.mp h.holds_left)
    (hs.view_con h.holds_left) hx

/-- The representatives of types that fit, fit as well. -/
theorem Fits.found {steps : Nat} (h : Fits height steps s t u) (hs : s.Valid)
    (hh : s.height ≤ height) :
    Fits height steps ((s.shorten t).shorten u) (s.find t) ((s.shorten t).find u) := by
  have h₁ := allows_shorten hs h.holds_left
  have hu₁ : (s.shorten t).Holds u := h₁.holds h.holds_right
  have h₂ := allows_shorten h₁.valid hu₁
  have ha := (hs.find_spec h.holds_left).1
  have hb := (h₁.valid.find_spec hu₁).1
  have hah := (hs.height_find_le h.holds_left).1
  have hbh := (h₁.valid.height_find_le hu₁).1
  rw [height_shorten] at hbh
  have hth := h.left_le
  have huh := h.right_le
  refine ⟨(h₁.trans h₂).holds ha, h₂.holds hb, by omega, by omega, ?_⟩
  exact (h.deep.of_view hs h.holds_left ha (hs.view_find h.holds_left)).later (h₁.trans h₂).of_look

/-! ## Unification -/

/-- What unification does after it has found the representatives of its two types. -/
def unifyFound (steps : Nat) : Ty → Ty → StoreM Unit
  | .var v, b => assign v b
  | a, .var w => assign w a
  | .con f ts, .con g us =>
    if f = g ∧ ts.length = us.length then
      (ts.zip us).forM fun (x, y) => unifyTo steps x y
    else throwMismatch (.con f ts) (.con g us)
  | a, b => throwInvalidCase a b

theorem unifyTo_succ (steps : Nat) (t u : Ty) : unifyTo (steps + 1) t u = (do
    let a ← prune t
    let b ← prune u
    unifyFound steps a b) := rfl

/-- With the given number of steps unification takes care of every equation that fits. -/
def Adequate (height steps : Nat) : Prop :=
  ∀ {s : Store} {t u : Ty}, s.Valid → s.height ≤ height → Fits height steps s t u →
    Ends (unifyTo steps t u) s (fun _ s' => Unified height s [(t, u)] s')
      (fun e s' => Clash s [(t, u)] e s')

/-- What unification does with one equation it does with several. -/
theorem forM_unifyTo_ends {steps : Nat} (hone : Adequate height steps) :
    ∀ {s : Store}, s.Valid → s.height ≤ height → (∀ p ∈ ps, Fits height steps s p.1 p.2) →
      Ends (ps.forM fun (x, y) => unifyTo steps x y) s (fun _ s' => Unified height s ps s')
        (fun e s' => Clash s ps e s') := by
  induction ps with
  | nil =>
    intro s hs hh _
    exact ⟨.refl hs, hh, fun θ => by simp [Unifies]⟩
  | cons p ps ih =>
    intro s hs hh hfits
    have hrest : ∀ q ∈ ps, Fits height steps s q.1 q.2 :=
      fun q hq => hfits q (List.mem_cons_of_mem _ hq)
    have hps : HoldsPairs s ps := fun q hq => ⟨(hrest q hq).holds_left, (hrest q hq).holds_right⟩
    show Ends (unifyTo steps p.1 p.2 >>= fun _ => ps.forM fun (x, y) => unifyTo steps x y) s _ _
    rw [ends_bind]
    refine (hone hs hh (hfits p (by simp))).mono (fun _ s₁ h₁ => ?_) (fun _ _ h => h.cons)
    have hsolve : Rights.solve.Allows s s₁ :=
      h₁.allows.to_solve (fun hm => hm) (fun hn => hn) (fun _ hl => hl)
    exact (ih h₁.allows.valid h₁.height_le fun q hq => (hrest q hq).later hsolve).mono
      (fun _ _ h₂ => h₁.cons hs hps h₂) (fun _ _ h₂ => h₁.cons_clash hs hps h₂)

/-- Operators that differ in name or in the number of their components have no unifier. -/
theorem subst_con_ne {f g : String} {ts us : List Ty} {θ : Var → Ty}
    (h : ¬ (f = g ∧ ts.length = us.length)) :
    (Ty.con f ts).subst θ ≠ (Ty.con g us).subst θ := by
  intro he
  rw [Ty.subst_con, Ty.subst_con, Ty.con.injEq] at he
  refine h ⟨he.1, ?_⟩
  simpa using congrArg List.length he.2

/-- The bare type is refused with the store as it is. -/
theorem throwInvalidCase_ends {Q : Unit → Store → Prop} (hs : s.Valid)
    (hbare : ¬ PlainPairs s [(t, u)]) :
    Ends (throwInvalidCase t u) s Q (fun e s' => Clash s [(t, u)] e s') :=
  ⟨.refl hs, fun hp => absurd hp hbare⟩

/-- One equation between representatives, when fewer steps are adequate for the components. -/
theorem unifyFound_ends {steps : Nat} (hone : Adequate height steps) {a b : Ty} (hs : s.Valid)
    (hh : s.height ≤ height)
    (hfits : Fits height (steps + 1) s a b) (ha : ∀ v, a = .var v → s.binding v = none)
    (hb : ∀ w, b = .var w → s.binding w = none) :
    Ends (unifyFound steps a b) s (fun _ s' => Unified height s [(a, b)] s')
      (fun e s' => Clash s [(a, b)] e s') := by
  -- a variable on the right only
  have hright : ∀ w, b = .var w →
      Ends (assign w a) s (fun _ s' => Unified height s [(a, b)] s')
        (fun e s' => Clash s [(a, b)] e s') := by
    rintro w rfl
    refine (assign_ends hs (holds_var.mp hfits.holds_right) (hb w rfl) hfits.holds_left ha hh
      hfits.left_le).mono (fun _ _ h => ?_) (fun _ _ h => ?_)
    · exact (Replaces.swap hs).unified hs h
    · exact (Replaces.swap hs).clash hs h
  match a, b with
  | .var v, b =>
    exact assign_ends hs (holds_var.mp hfits.holds_left) (ha v rfl) hfits.holds_right hb hh
      hfits.right_le
  | .con _ _, .var w => exact hright w rfl
  | .bare, .var w => exact hright w rfl
  | .con f ts, .con g us =>
    have ht : s.Holds (.con f ts) := hfits.holds_left
    have hu : s.Holds (.con g us) := hfits.holds_right
    show Ends (if f = g ∧ ts.length = us.length then _ else _) s _ _
    by_cases hsame : f = g ∧ ts.length = us.length
    · rw [if_pos hsame]
      obtain ⟨rfl, hlen⟩ := hsame
      have hrep : Replaces s [(.con f ts, .con f us)] s (ts.zip us) :=
        .of_components (.refl hs) hs ht hu (holds_con.mp ht) (holds_con.mp hu) (hs.view_con ht)
          (hs.view_con hu) hlen
      refine (forM_unifyTo_ends hone hs hh fun p hp => ?_).mono
        (fun _ _ h => hrep.unified hs h) (fun _ _ h => hrep.clash hs h)
      obtain ⟨hx, hy⟩ := List.of_mem_zip hp
      exact hfits.component hs hx hy
    · rw [if_neg hsame]
      refine (throwMismatch_ends hs ht hu).mono (fun _ _ h => h) ?_
      rintro e s' ⟨hlook, he⟩
      refine ⟨hlook.of_look, fun hp => ⟨he (hp (.con f ts, .con g us) (by simp)), ?_⟩⟩
      intro θ _ hun
      exact subst_con_ne hsame (hun (.con f ts, .con g us) (by simp))
  | .con _ _, .bare => exact throwInvalidCase_ends hs (by simp [PlainPairs])
  | .bare, .con _ _ => exact throwInvalidCase_ends hs (by simp [PlainPairs])
  | .bare, .bare => exact throwInvalidCase_ends hs (by simp [PlainPairs])

/-- Any number of steps is adequate for the equations that fit it. -/
theorem adequate (height steps : Nat) : Adequate height steps := by
  induction steps with
  | zero =>
    intro s t u hs hh hfits
    exact absurd (hfits.deep s (.refl hs) hh) (Nat.not_lt_zero _)
  | succ steps ih =>
    intro s t u hs hh hfits
    have ht := hfits.holds_left
    have hu := hfits.holds_right
    -- both representatives, and the store after they have been looked up
    have h₁ := allows_shorten hs ht
    have hu₁ : (s.shorten t).Holds u := h₁.holds hu
    have h₁₂ := allows_shorten h₁.valid hu₁
    have h₂ := h₁.trans h₁₂
    obtain ⟨ha, hta⟩ := hs.find_spec ht
    obtain ⟨hb, hub⟩ := h₁.valid.find_spec hu₁
    have hva := hs.view_find ht
    have hvb := h₁.valid.view_find hu₁
    rw [h₁.view_eq (fun _ h => h) hs hu, ← h₁₂.view_eq (fun _ h => h) h₁.valid hb] at hvb
    have hfits := hfits.found hs hh
    rw [unifyTo_succ]
    simp only [ends_bind, ends_prune]
    generalize hsa : s.find t = a at *
    generalize hsb : (s.shorten t).find u = b at *
    generalize hs₂ : (s.shorten t).shorten u = s₂ at *
    have hva₂ : s₂.view a = s.view t := (h₂.view_eq (fun _ h => h) hs ha).trans hva
    have hrep : Replaces s [(t, u)] s₂ [(a, b)] :=
      .of_views h₂ hs ht hu (h₂.holds ha) (h₁₂.holds hb) hva₂ hvb
    refine (unifyFound_ends ih h₂.valid ?_ hfits ?_ ?_).mono
      (fun _ _ h => hrep.unified hs h) (fun _ _ h => hrep.clash hs h)
    · rwa [h₂.height_eq fun _ h => h]
    · rintro v rfl
      exact h₂.unbound v (holds_var.mp ha) (hta v rfl) fun h => h
    · rintro w rfl
      exact h₁₂.unbound w (holds_var.mp hb) (hub w rfl) fun h => h

/-- Every equation fits the number of steps that unification starts with. -/
theorem fits_depthBound (ht : s.Holds t) (hu : s.Holds u) :
    Fits (max s.height (Ty.heights [t, u])) (s.depthBound [t, u]) s t u := by
  have hle : ∀ x ∈ [t, u], x.height ≤ Ty.heights [t, u] := Ty.heights_le_iff.mp (Nat.le_refl _)
  refine ⟨ht, hu, ?_, ?_, deep_depthBound ht (by simp)⟩
  · exact Nat.le_trans (hle t (by simp)) (Nat.le_max_right _ _)
  · exact Nat.le_trans (hle u (by simp)) (Nat.le_max_right _ _)

/-- Unification adds the equation that it is given and nothing more, or there is no solution that
has it. -/
theorem unify_ends (hs : s.Valid) (ht : s.Holds t) (hu : s.Holds u) :
    Ends (unify t u) s
      (fun _ s' => Unified (max s.height (Ty.heights [t, u])) s [(t, u)] s')
      (fun e s' => Clash s [(t, u)] e s') := by
  unfold unify
  rw [ends_bind, ends_stepsFor]
  exact adequate _ _ hs (Nat.le_max_left _ _) (fits_depthBound ht hu)

/-! ## Most general unifiers -/

/-- A unifier of the views of two types solves their equation when it is applied to what variables
stand for. -/
theorem unifies_comp {θ : Var → Ty} (hs : s.Valid) (ht : s.Holds t) (hu : s.Holds u)
    (hθ : (s.view t).subst θ = (s.view u).subst θ) :
    Unifies (fun v => (s.meaning v).subst θ) [(t, u)] := by
  simp only [Unifies, List.mem_singleton, forall_eq]
  rw [← Ty.subst_subst, ← Ty.subst_subst, hs.subst_meaning ht, hs.subst_meaning hu, hθ]

theorem Unified.view_eq (h : Unified height s [(t, u)] s') (ht : s.Holds t) (hu : s.Holds u) :
    s'.view t = s'.view u := by
  have hs' := h.allows.valid
  have heq := ((h.solves_iff _).mp hs'.solves_meaning).2 (t, u) (by simp)
  rwa [hs'.subst_meaning (h.allows.holds ht), hs'.subst_meaning (h.allows.holds hu)] at heq

/-- Every unifier of the views absorbs what unification has done. -/
theorem Unified.subst_view {θ : Var → Ty} {x : Ty} (h : Unified height s [(t, u)] s')
    (hs : s.Valid) (ht : s.Holds t) (hu : s.Holds u)
    (hθ : (s.view t).subst θ = (s.view u).subst θ) (hx : s.Holds x) :
    (s'.view x).subst θ = (s.view x).subst θ := by
  have hs' := h.allows.valid
  have hsol : s'.Solves fun v => (s.meaning v).subst θ :=
    (h.solves_iff _).mpr ⟨hs.solves_comp θ, unifies_comp hs ht hu hθ⟩
  -- the variables of the new view were unbound before
  have hfree : ∀ v ∈ (s'.view x).vars, s.meaning v = .var v := by
    intro v hv
    obtain ⟨_, hu'⟩ := hs'.unbound_of_mem_view (h.allows.holds hx) v hv
    refine view_var_of_unbound (Classical.byContradiction fun hb => ?_)
    exact h.allows.bound v hb hu'
  calc (s'.view x).subst θ
      = (s'.view x).subst (fun v => (s.meaning v).subst θ) :=
        Ty.subst_congr fun v hv => by rw [hfree v hv, Ty.subst_var]
    _ = x.subst (fun v => (s.meaning v).subst θ) := hs'.view_subst hsol (h.allows.holds hx)
    _ = (s.view x).subst θ := by rw [← Ty.subst_subst, hs.subst_meaning hx]

theorem Clash.subst_ne (h : Clash s [(t, u)] e s') (hs : s.Valid) (ht : s.Holds t)
    (hu : s.Holds u) (hpt : (s.view t).Plain) (hpu : (s.view u).Plain) :
    e.IsConflict ∧ ∀ θ, (s.view t).subst θ ≠ (s.view u).subst θ := by
  obtain ⟨he, hno⟩ := h.conflict (by simp [PlainPairs, hpt, hpu])
  exact ⟨he, fun θ hθ => hno _ (hs.solves_comp θ) (unifies_comp hs ht hu hθ)⟩

/-- Unification finds a most general unifier of the views of its two types, or reports a conflict
if they have none. -/
theorem unify_most_general (hs : s.Valid) (ht : s.Holds t) (hu : s.Holds u)
    (hpt : (s.view t).Plain) (hpu : (s.view u).Plain) :
    match unify t u s with
    | .ok _ s' =>
      s'.view t = s'.view u ∧
      (∀ x, s.Holds x → s'.view x = (s.view x).subst s'.meaning) ∧
      ∀ θ, (s.view t).subst θ = (s.view u).subst θ →
        ∀ x, s.Holds x → (s'.view x).subst θ = (s.view x).subst θ
    | .error e _ => e.IsConflict ∧ ∀ θ, (s.view t).subst θ ≠ (s.view u).subst θ := by
  have h := unify_ends hs ht hu
  unfold Ends at h
  cases hr : unify t u s with
  | ok a s' =>
    rw [hr] at h
    exact ⟨h.view_eq ht hu, fun x hx => h.allows.view_eq_subst hs hx,
      fun θ hθ x hx => h.subst_view hs ht hu hθ hx⟩
  | error e s' =>
    rw [hr] at h
    exact h.subst_ne hs ht hu hpt hpu

/-- A store of three variables in which the first stands for functions on the second. -/
def functionStore : Store :=
  let s := ((Store.empty.pushNext none).2.pushNext none).2.pushNext none |>.2
  s.setBinding ⟨0⟩ (.fn (.var ⟨1⟩) (.var ⟨1⟩))

theorem functionStore_allows :
    ({ bind := fun _ => True, bare := True, make := True } : Rights).Allows
      Store.empty functionStore := by
  have hgrow : ∀ {s s' : Store}, Rights.grow.Allows s s' →
      ({ bind := fun _ => True, bare := True, make := True } : Rights).Allows s s' := fun h =>
    h.mono (fun _ _ _ => trivial) (fun hn v => (hn v trivial).elim) (fun _ => trivial)
      (fun hm => hm) (fun hn => hn) (fun _ hl => hl)
  have h₁ := hgrow (allows_pushNext valid_empty)
  have h₂ := h₁.trans (hgrow (allows_pushNext h₁.valid))
  have h₃ := h₂.trans (hgrow (allows_pushNext h₂.valid))
  refine h₃.trans (allows_setBinding h₃.valid ?_ rfl ?_ ?_ trivial (fun _ _ => trivial)
    (.inr trivial))
  · decide
  · decide
  · decide

theorem unify_most_general_function :
    match unify (.var ⟨0⟩) (.fn .int (.var ⟨2⟩)) functionStore with
    | .ok _ s' =>
      s'.view (.var ⟨0⟩) = s'.view (.fn .int (.var ⟨2⟩)) ∧
      (∀ x, functionStore.Holds x → s'.view x = (functionStore.view x).subst s'.meaning) ∧
      ∀ θ, (functionStore.view (.var ⟨0⟩)).subst θ =
          (functionStore.view (.fn .int (.var ⟨2⟩))).subst θ →
        ∀ x, functionStore.Holds x → (s'.view x).subst θ = (functionStore.view x).subst θ
    | .error e _ => e.IsConflict ∧ ∀ θ, (functionStore.view (.var ⟨0⟩)).subst θ ≠
        (functionStore.view (.fn .int (.var ⟨2⟩))).subst θ := by
  refine unify_most_general (t := .var ⟨0⟩) (u := .fn .int (.var ⟨2⟩)) functionStore_allows.valid
    (by decide) (by decide) ?_ ?_
  · show (Ty.fn (.var ⟨1⟩) (.var ⟨1⟩)).Plain
    simp
  · show (Ty.fn .int (.var ⟨2⟩)).Plain
    simp

end LetPoly
