import LetPoly.Proofs.Frame

/-!
# Vocabulary and numbers

Inference invents neither operators nor numbers. The operators of the types that it finds are those
of its environment, `->` and `int`; the variables that it makes are numbered one after the other
from the counter on.

That unification brings in no operator follows from its being most general. Put `int` in place of
all foreign operators in what the variables have become: that is a solution as well, so the foreign
operators would have had to be `int` from the start.

* `Ty.Over` — types with the given operators
* `Ty.project` — a type without its foreign operators
* `Unified.over_meaning` — unification brings in no operators
* `Counted` — new variables are numbered in order
* `Speaks`, `Spoken` — what has been bound and found keeps to the operators and to the numbers
* `analyse_spoken` — analysis keeps to the operators and to the numbers
-/

namespace LetPoly

open Store

/-! ## Types with given operators -/

namespace Ty

/-- All operators of the type, with their numbers of components, are among the given ones, and the
bare type does not occur. -/
inductive Over (ops : String → Nat → Prop) : Ty → Prop
  | var (v : Var) : Over ops (.var v)
  | con {op : String} {args : List Ty} : ops op args.length → (∀ t ∈ args, Over ops t) →
    Over ops (.con op args)

variable {ops : String → Nat → Prop} {θ : Var → Ty} {t : Ty}

theorem over_con_iff {op : String} {args : List Ty} :
    (Ty.con op args).Over ops ↔ ops op args.length ∧ ∀ t ∈ args, t.Over ops := by
  constructor
  · intro h
    cases h with
    | con hop hargs => exact ⟨hop, hargs⟩
  · exact fun h => .con h.1 h.2

theorem over_fn_iff {arg result : Ty} :
    (fn arg result).Over ops ↔ ops "->" 2 ∧ arg.Over ops ∧ result.Over ops := by
  simp [fn, over_con_iff]

theorem Over.plain (h : t.Over ops) : t.Plain := by
  induction h with
  | var v => exact .var v
  | con _ _ ih => exact .con ih

theorem Over.subst (h : t.Over ops) (hθ : ∀ v ∈ t.vars, (θ v).Over ops) : (t.subst θ).Over ops := by
  induction h with
  | var v => exact hθ v (by simp)
  | @con op args hop _ ih =>
    rw [subst_con, over_con_iff, List.length_map]
    refine ⟨hop, fun u hu => ?_⟩
    obtain ⟨t, ht, rfl⟩ := List.mem_map.mp hu
    exact ih t ht fun v hv => hθ v (mem_vars_con.mpr ⟨t, ht, hv⟩)

open Classical in
mutual

/-- The type with `int` in place of the parts that have an operator of another kind. -/
noncomputable def project (ops : String → Nat → Prop) : Ty → Ty
  | .var v => .var v
  | .con op args => if ops op args.length then .con op (projects ops args) else .int
  | .bare => .int

/-- The types of a list without their foreign operators. -/
noncomputable def projects (ops : String → Nat → Prop) : List Ty → List Ty
  | [] => []
  | t :: ts => t.project ops :: projects ops ts

end

theorem projects_eq_map (ts : List Ty) : projects ops ts = ts.map (project ops) := by
  induction ts with
  | nil => rfl
  | cons t ts ih => rw [projects, ih, List.map_cons]

/-- Only what stands for the variables has foreign operators. -/
theorem Over.project_subst (h : t.Over ops) :
    (t.subst θ).project ops = t.subst fun v => (θ v).project ops := by
  induction h with
  | var v => rfl
  | @con op args hop _ ih =>
    rw [subst_con, subst_con, project, if_pos (by rwa [List.length_map]), projects_eq_map,
      List.map_map]
    exact congrArg _ (List.map_inj_left.mpr ih)

/-- A type that a substitution makes free of foreign operators was free of them, if `int` is not
one of them. -/
theorem over_of_project_eq_subst (hint : ops "int" 0) (h : t.project ops = t.subst θ) :
    t.Over ops := by
  induction t with
  | var v => exact .var v
  | con op args ih =>
    rw [project, subst_con] at h
    split at h
    · next hop =>
      rw [projects_eq_map] at h
      exact .con hop fun t ht => ih t ht (List.map_inj_left.mp (Ty.con.inj h).2 t ht)
    · next hop =>
      obtain ⟨rfl, hnil⟩ := Ty.con.inj h
      rw [List.map_eq_nil_iff.mp hnil.symm] at hop
      exact absurd hint hop
  | bare => exact nomatch h

end Ty

/-! ## Unification -/

variable {ops : String → Nat → Prop} {r : Rights} {s s' s₁ s₂ : Store} {t u : Ty} {v : Var}
  {env : Env} {pinned : List Ty}

/-- Unifying types with the given operators lets variables stand for such types only. -/
theorem Unified.over_meaning {height : Nat} (h : Unified height s [(t, u)] s') (hint : ops "int" 0)
    (hs : s.Valid) (ht : s.Holds t) (hu : s.Holds u) (hot : (s.view t).Over ops)
    (hou : (s.view u).Over ops) (hv : s.Has v) (hv' : s.binding v = none) :
    (s'.meaning v).Over ops := by
  -- the projection of what has been found is a unifier as well
  have hθ : (s.view t).subst (fun w => (s'.meaning w).project ops) =
      (s.view u).subst (fun w => (s'.meaning w).project ops) := by
    rw [← hot.project_subst, ← hou.project_subst, ← h.allows.view_eq_subst hs ht,
      ← h.allows.view_eq_subst hs hu, h.view_eq ht hu]
  have hmg := h.subst_view hs ht hu hθ (holds_var.mpr hv)
  rw [view_var_of_unbound hv', Ty.subst_var] at hmg
  exact Ty.over_of_project_eq_subst hint hmg.symm

/-! ## Numbers -/

/-- The variables that have been made since are numbered one after the other from the counter
on. -/
structure Counted (s s' : Store) : Prop where
  counter : s'.counter + s.cells.size = s.counter + s'.cells.size
  idOf_new : ∀ v, ¬ s.Has v → s'.Has v → s'.idOf v + s.cells.size = s.counter + v.index

theorem Counted.trans (h : Counted s s₁) (h₁ : Counted s₁ s₂) (ha : r.Allows s₁ s₂) :
    Counted s s₂ where
  counter := by
    have := h.counter
    have := h₁.counter
    omega
  idOf_new v hv hv₂ := by
    by_cases hv₁ : s₁.Has v
    · rw [ha.idOf_eq v hv₁]
      exact h.idOf_new v hv hv₁
    · have := h.counter
      have := h₁.idOf_new v hv₁ hv₂
      omega

/-- Where no variables are made there are none to be numbered. -/
theorem Rights.Allows.counted (h : r.Allows s s') (hm : ¬ r.make) : Counted s s' where
  counter := by rw [h.counter_eq hm, h.size_eq hm]
  idOf_new v hv hv' := absurd (h.has_before hm hv') hv

theorem counted_pushNext (s : Store) : Counted s (s.pushNext none).2 where
  counter := by
    show s.counter + 1 + s.cells.size = s.counter + (s.cells.push _).size
    rw [Array.size_push]
    omega
  idOf_new v hv hv' := by
    rcases has_pushNext.mp hv' with hold | rfl
    · exact absurd hold hv
    · show (s.push s.counter none).2.idOf (s.push s.counter none).1 + _ = _
      rw [idOf_push_self]
      rfl

/-- New variables have different numbers. -/
theorem Counted.idOf_inj (h : Counted s s') {w : Var} (hv : ¬ s.Has v) (hv' : s'.Has v)
    (hw : ¬ s.Has w) (hw' : s'.Has w) (heq : s'.idOf v = s'.idOf w) : v = w := by
  have hv := h.idOf_new v hv hv'
  have hw := h.idOf_new w hw hw'
  have hindex : v.index = w.index := by omega
  exact congrArg Var.mk hindex

theorem copyTo_counted {steps : Nat} : ∀ {s : Store} {copies : Copies} {t : Ty}, s.Valid →
    s.Holds t → (∀ p ∈ pinned, s.Holds p) →
    Ends (copyTo pinned steps t) (s, copies)
      (fun _ p => Rights.grow.Allows s p.1 ∧ Counted s p.1) (fun _ _ => True) := by
  induction steps with
  | zero => exact fun _ _ _ => trivial
  | succ steps ih =>
    intro s copies t hs ht hp
    have hshort := allows_shorten hs ht
    have hcount := hshort.counted fun hm => hm
    unfold copyTo
    rw [ends_bind, ends_lift, ends_prune]
    rcases hs.find_cases ht with ⟨v, hf, _, _, _⟩ | ⟨op, args, hf, hargs, _⟩ | ⟨hf, _⟩
    · rw [hf]
      dsimp only
      rw [ends_bind, ends_lift]
      refine (isGeneric_ends hshort.valid (fun p hmem => hshort.holds (hp p hmem)) v).mono ?_
        (fun _ _ _ => trivial)
      rintro b s₁ ⟨_, h₁⟩
      have h₁' := hshort.trans h₁
      cases b with
      | false => exact ⟨h₁'.of_look, h₁'.counted fun hm => hm⟩
      | true =>
        rw [if_pos rfl, ends_bind]
        unfold copyVar
        rw [ends_modifyGet]
        dsimp only
        split
        · exact ⟨h₁'.of_look, h₁'.counted fun hm => hm⟩
        · have hnew := allows_pushNext h₁'.valid
          exact ⟨h₁'.of_look.trans hnew,
            (h₁'.counted fun hm => hm).trans (counted_pushNext s₁) hnew⟩
    · rw [hf]
      dsimp only
      rw [ends_bind]
      refine (Ends.mapM (R := fun _ _ _ => True)
        (I := fun p : Store × Copies => Rights.grow.Allows s p.1 ∧ Counted s p.1)
        (fun u hu p h => ?_) ⟨hshort.of_look, hcount⟩).mono (fun _ _ h => h.1) (fun _ _ h => h)
      obtain ⟨ha, hc⟩ := h
      refine (ih ha.valid (ha.holds (hargs u hu)) fun p hmem => ha.holds (hp p hmem)).mono ?_
        (fun _ _ h => h)
      rintro _ q ⟨ha', hc'⟩
      exact ⟨⟨ha.trans ha', hc.trans hc' ha'⟩, trivial, fun _ _ h => h⟩
    · rw [hf]
      trivial

theorem fresh_counted (hs : s.Valid) (ht : s.Holds t) (hp : ∀ p ∈ pinned, s.Holds p) :
    Ends (fresh t pinned) s (fun _ s' => Counted s s') (fun _ _ => True) := by
  unfold fresh
  rw [ends_bind, ends_stepsFor, ends_within]
  exact (copyTo_counted hs ht hp).mono (fun _ _ h => h.2) (fun _ _ h => h)

/-! ## Analysis -/

/-- All types of names that count have the given operators. -/
def EnvOver (ops : String → Nat → Prop) (s : Store) (env : Env) : Prop :=
  ∀ x t, env.lookup x = some t → (s.view t).Over ops

/-- What has been bound has the given operators, and what has been made is numbered in order. -/
structure Speaks (ops : String → Nat → Prop) (s s' : Store) : Prop where
  allows : Rights.infer.Allows s s'
  over_meaning : ∀ v, s.Has v → s.binding v = none → (s'.meaning v).Over ops
  counted : Counted s s'

/-- The type that has been found has the given operators, too. -/
structure Spoken (ops : String → Nat → Prop) (s : Store) (t : Ty) (s' : Store) : Prop extends
    Speaks ops s s' where
  holds : s'.Holds t
  over_view : (s'.view t).Over ops

/-- Types with the given operators still have such operators after more has been bound. -/
theorem Speaks.over_view (h : Speaks ops s s') (hs : s.Valid) (ht : s.Holds t)
    (ho : (s.view t).Over ops) : (s'.view t).Over ops := by
  rw [h.allows.view_eq_subst hs ht]
  refine ho.subst fun v hv => ?_
  obtain ⟨hhas, hu⟩ := hs.unbound_of_mem_view ht v hv
  exact h.over_meaning v hhas hu

theorem Speaks.trans (h : Speaks ops s s₁) (h₁ : Speaks ops s₁ s₂) : Speaks ops s s₂ where
  allows := h.allows.trans h₁.allows
  over_meaning v hv hu :=
    h₁.over_view h.allows.valid (holds_var.mpr (h.allows.has hv)) (h.over_meaning v hv hu)
  counted := h.counted.trans h₁.counted h₁.allows

/-- Where nothing is bound no operator comes in. -/
theorem Rights.Allows.speaks (h : r.Allows s s') (hn : ¬ r.number) (hb : ∀ v, ¬ r.bind v)
    (hc : Counted s s') : Speaks ops s s' where
  allows := h.to_infer hn
  over_meaning v hv hu := by
    rw [h.meaning_eq_var hv hu (hb v)]
    exact .var v
  counted := hc

theorem Spoken.later (h : Spoken ops s t s₁) (h₁ : Speaks ops s₁ s₂) : Spoken ops s t s₂ where
  toSpeaks := h.toSpeaks.trans h₁
  holds := h₁.allows.holds h.holds
  over_view := h₁.over_view h.allows.valid h.holds h.over_view

theorem Speaks.spoken (h : Speaks ops s s₁) (ht : Spoken ops s₁ t s₂) : Spoken ops s t s₂ where
  toSpeaks := h.trans ht.toSpeaks
  holds := ht.holds
  over_view := ht.over_view

theorem Spoken.fn (hfn : ops "->" 2) (ht : Spoken ops s t s') (hu : Spoken ops s u s') :
    Spoken ops s (.fn t u) s' where
  toSpeaks := ht.toSpeaks
  holds := holds_fn.mpr ⟨ht.holds, hu.holds⟩
  over_view := by
    rw [ht.allows.valid.view_fn ht.holds hu.holds, Ty.over_fn_iff]
    exact ⟨hfn, ht.over_view, hu.over_view⟩

theorem spoken_pushNext (ops : String → Nat → Prop) (hs : s.Valid) :
    Spoken ops s (.var (s.pushNext none).1) (s.pushNext none).2 where
  toSpeaks := (allows_pushNext hs).speaks (fun hn => hn) (fun _ hb => hb) (counted_pushNext s)
  holds := holds_var.mpr (has_pushNext.mpr (.inr rfl))
  over_view := by
    rw [view_var_of_unbound (binding_pushNext_self none)]
    exact .var _

theorem unify_speaks (hint : ops "int" 0) (ht : Spoken ops s t s₁) (hu : Spoken ops s u s₁) :
    Ends (unify t u) s₁ (fun _ s' => Speaks ops s₁ s') (fun _ _ => True) := by
  have hs := ht.allows.valid
  refine (unify_ends hs ht.holds hu.holds).mono (fun _ s' h => ?_) (fun _ _ _ => trivial)
  exact ⟨h.allows.to_infer fun hn => hn, fun v hv hv' => h.over_meaning hint hs ht.holds hu.holds
    ht.over_view hu.over_view hv hv', h.allows.counted fun hm => hm⟩

theorem EnvOver.later (h : EnvOver ops s env) (hset : Setting s env pinned)
    (hsp : Speaks ops s s') : EnvOver ops s' env :=
  fun x t hx => hsp.over_view hset.valid (hset.holds_env x t hx) (h x t hx)

/-- The environment of what follows a definition. -/
theorem EnvOver.define (h : EnvOver ops s env) (hset : Setting s env pinned)
    (ht : Spoken ops s t s') (x : String) : EnvOver ops s' (env.extend x t) :=
  lookup_extend_of (h.later hset ht.toSpeaks) ht.over_view

theorem Setting.define (hset : Setting s env pinned) (ht : Spoken ops s t s') (x : String) :
    Setting s' (env.extend x t) pinned :=
  (hset.later ht.allows).extend ht.holds x

theorem typeOfName_spoken (hint : ops "int" 0) (hset : Setting s env pinned)
    (henv : EnvOver ops s env) (x : String) :
    Ends (typeOfName x env pinned) s (fun t s' => Spoken ops s t s') (fun _ _ => True) := by
  have hs := hset.valid
  unfold typeOfName
  cases hx : env.lookup x with
  | some t =>
    have ht := hset.holds_env x t hx
    refine ((fresh_ends hs ht hset.holds_pinned).and
      (fresh_counted hs ht hset.holds_pinned)).mono ?_ (fun _ _ _ => trivial)
    rintro r s' ⟨⟨f, hf⟩, hc⟩
    refine ⟨hf.allows.speaks (fun hn => hn) (fun _ hb => hb) hc, hf.holds hs ht, ?_⟩
    rw [hf.view_eq hs ht, hf.eq_subst]
    refine (henv x t hx).subst fun v _ => ?_
    unfold renameGeneric
    split <;> exact .var _
  | none =>
    cases isIntegerLiteral x with
    | error e => trivial
    | ok b =>
      cases b with
      | false => trivial
      | true =>
        have hrefl : Rights.look.Allows s s := .refl hs
        refine ⟨hrefl.speaks (fun hn => hn) (fun _ hb => hb) (hrefl.counted fun hm => hm),
          holds_int, ?_⟩
        rw [hs.view_int]
        exact .con hint nofun

/-- The types that analysis finds have the operators of the environment, `->` and `int`, and it
numbers new variables in order. -/
theorem analyse_spoken (hfn : ops "->" 2) (hint : ops "int" 0) (e : Term) : ∀ {s : Store}
    {env : Env} {pinned : List Ty}, Setting s env pinned → EnvOver ops s env →
    Ends (analyse e env pinned) s (fun t s' => Spoken ops s t s') (fun _ _ => True) := by
  induction e with
  | ident x => exact fun hset henv => typeOfName_spoken hint hset henv x
  | lam x body ih =>
    intro s env pinned hset henv
    have hv := spoken_pushNext ops hset.valid
    rw [analyse_lam, ends_bind, ends_newVar, ends_bind]
    refine (ih (hset.param x) (henv.define hset hv x)).mono (fun t s₂ ht => ?_) (fun _ _ h => h)
    exact (hv.later ht.toSpeaks).fn hfn (hv.toSpeaks.spoken ht)
  | lamOver p body _ ih =>
    intro s env pinned hset henv
    have hv := spoken_pushNext ops hset.valid
    rw [analyse_lamOver, ends_bind, ends_newVar, ends_bind]
    refine (ih ((hset.later hv.allows).pin hv.holds) (henv.later hset hv.toSpeaks)).mono
      (fun t s₂ ht => ?_) (fun _ _ h => h)
    exact (hv.later ht.toSpeaks).fn hfn (hv.toSpeaks.spoken ht)
  | app f a ihf iha =>
    intro s env pinned hset henv
    rw [analyse_app, ends_bind]
    refine (ihf hset henv).mono (fun t s₁ ht => ?_) (fun _ _ h => h)
    rw [ends_bind]
    refine (iha (hset.later ht.allows) (henv.later hset ht.toSpeaks)).mono (fun u s₂ hu => ?_)
      (fun _ _ h => h)
    have hv := spoken_pushNext ops hu.allows.valid
    have hu' := ht.toSpeaks.spoken hu
    have hv' := hu'.toSpeaks.spoken hv
    rw [ends_bind, ends_newVar, ends_bind]
    refine (unify_speaks hint ((hu'.later hv.toSpeaks).fn hfn hv')
      ((ht.later hu.toSpeaks).later hv.toSpeaks)).mono (fun _ s₄ h => ?_) (fun _ _ h => h)
    exact hv'.later h
  | letIn x d b ihd ihb =>
    intro s env pinned hset henv
    rw [analyse_letIn, ends_bind]
    refine (ihd hset henv).mono (fun t s₁ ht => ?_) (fun _ _ h => h)
    exact (ihb (hset.define ht x) (henv.define hset ht x)).mono
      (fun _ _ h => ht.toSpeaks.spoken h) (fun _ _ h => h)
  | letrec x d b ihd ihb =>
    intro s env pinned hset henv
    have hv := spoken_pushNext ops hset.valid
    rw [analyse_letrec, ends_bind, ends_newVar, ends_bind]
    refine (ihd (hset.param x) (henv.define hset hv x)).mono (fun t s₂ ht => ?_) (fun _ _ h => h)
    have hv₂ := hv.later ht.toSpeaks
    rw [ends_bind]
    refine (unify_speaks hint hv₂ (hv.toSpeaks.spoken ht)).mono (fun _ s₃ h => ?_) (fun _ _ h => h)
    have hv₃ := hv₂.later h
    exact (ihb (hset.define hv₃ x) (henv.define hset hv₃ x)).mono
      (fun _ _ h => hv₃.toSpeaks.spoken h) (fun _ _ h => h)
  | bare => exact fun _ _ => trivial
  | missing => exact fun _ _ => trivial

end LetPoly
