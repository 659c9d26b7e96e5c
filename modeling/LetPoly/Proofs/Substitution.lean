import LetPoly.Ty

/-!
# Substitutions on types

A substitution gives a type to every variable. Applying one replaces all variables of a type at
once and changes nothing else, so what it does to a type depends on the variables of that type
only.

* `Ty.induct` — induction on types, with the components of an operator as one hypothesis
* `Ty.subst` — applying a substitution
* `Ty.Plain` — types in which the bare type does not occur
-/

namespace LetPoly.Ty

/-- Induction on types: the components of an operator come as a list. -/
@[elab_as_elim, induction_eliminator]
theorem induct {motive : Ty → Prop} (var : ∀ v, motive (.var v))
    (con : ∀ name args, (∀ t ∈ args, motive t) → motive (.con name args))
    (bare : motive .bare) : ∀ t, motive t
  | .var v => var v
  | .con name args => con name args fun t _ => induct var con bare t
  | .bare => bare

/-! ## Variables and heights of operators -/

@[simp] theorem vars_var (v : Var) : (Ty.var v).vars = [v] := rfl

@[simp] theorem vars_bare : Ty.bare.vars = [] := rfl

theorem mem_vars_con {v : Var} {name : String} {args : List Ty} :
    v ∈ (Ty.con name args).vars ↔ ∃ t ∈ args, v ∈ t.vars := by
  rw [vars, varsList_eq_flatMap, List.mem_flatMap]

theorem mem_vars_fn {v : Var} {arg result : Ty} :
    v ∈ (Ty.fn arg result).vars ↔ v ∈ arg.vars ∨ v ∈ result.vars := by
  simp [fn, mem_vars_con]

theorem height_lt_of_mem {name : String} {args : List Ty} {t : Ty} (ht : t ∈ args) :
    t.height < (Ty.con name args).height := by
  rw [height]
  exact Nat.lt_succ_of_le (heights_le_iff.mp (Nat.le_refl _) t ht)

/-! ## Applying a substitution -/

mutual

/-- The type with every variable replaced by what `θ` gives for it. -/
def subst (θ : Var → Ty) : Ty → Ty
  | .var v => θ v
  | .con name args => .con name (substList θ args)
  | .bare => .bare

/-- The types of a list with every variable replaced. -/
def substList (θ : Var → Ty) : List Ty → List Ty
  | [] => []
  | t :: ts => t.subst θ :: substList θ ts

end

theorem substList_eq_map (θ : Var → Ty) (ts : List Ty) : substList θ ts = ts.map (subst θ) := by
  induction ts with
  | nil => rfl
  | cons t ts ih => simp [substList, ih]

@[simp] theorem subst_var (θ : Var → Ty) (v : Var) : (Ty.var v).subst θ = θ v := rfl

@[simp] theorem subst_con (θ : Var → Ty) (name : String) (args : List Ty) :
    (Ty.con name args).subst θ = .con name (args.map (subst θ)) := by
  rw [subst, substList_eq_map]

@[simp] theorem subst_bare (θ : Var → Ty) : Ty.bare.subst θ = .bare := rfl

@[simp] theorem subst_fn (θ : Var → Ty) (arg result : Ty) :
    (fn arg result).subst θ = fn (arg.subst θ) (result.subst θ) := rfl

@[simp] theorem subst_int (θ : Var → Ty) : int.subst θ = int := rfl

/-- Substitutions that agree on the variables of a type do the same to it, and only those. -/
theorem subst_eq_subst_iff {θ θ' : Var → Ty} {t : Ty} :
    t.subst θ = t.subst θ' ↔ ∀ v ∈ t.vars, θ v = θ' v := by
  induction t with
  | var v => simp
  | con name args ih =>
    simp only [subst_con, Ty.con.injEq, true_and, List.map_inj_left, mem_vars_con]
    constructor
    · rintro h v ⟨t, ht, hv⟩
      exact (ih t ht).mp (h t ht) v hv
    · intro h t ht
      exact (ih t ht).mpr fun v hv => h v ⟨t, ht, hv⟩
  | bare => simp

theorem subst_congr {θ θ' : Var → Ty} {t : Ty} (h : ∀ v ∈ t.vars, θ v = θ' v) :
    t.subst θ = t.subst θ' :=
  subst_eq_subst_iff.mpr h

/-- Applying one substitution after another applies both at once. -/
theorem subst_subst (θ ρ : Var → Ty) (t : Ty) :
    (t.subst θ).subst ρ = t.subst fun v => (θ v).subst ρ := by
  induction t with
  | var v => rfl
  | con name args ih =>
    simp only [subst_con, List.map_map, Ty.con.injEq, true_and, List.map_inj_left]
    exact fun t ht => ih t ht
  | bare => rfl

@[simp] theorem subst_id (t : Ty) : t.subst Ty.var = t := by
  induction t with
  | var v => rfl
  | con name args ih =>
    rw [subst_con, List.map_congr_left (g := id) (fun t ht => ih t ht), List.map_id]
  | bare => rfl

/-- A substitution that fixes the variables of a type leaves it alone. -/
theorem subst_eq_self {θ : Var → Ty} {t : Ty} (h : ∀ v ∈ t.vars, θ v = .var v) :
    t.subst θ = t :=
  (subst_congr h).trans (subst_id t)

/-- The variables after a substitution are those of the types put in. -/
theorem mem_vars_subst {θ : Var → Ty} {t : Ty} {w : Var} :
    w ∈ (t.subst θ).vars ↔ ∃ v ∈ t.vars, w ∈ (θ v).vars := by
  induction t with
  | var v => simp
  | con name args ih =>
    simp only [subst_con, mem_vars_con, List.mem_map]
    constructor
    · rintro ⟨_, ⟨t, ht, rfl⟩, hw⟩
      obtain ⟨v, hv, hw⟩ := (ih t ht).mp hw
      exact ⟨v, ⟨t, ht, hv⟩, hw⟩
    · rintro ⟨v, ⟨t, ht, hv⟩, hw⟩
      exact ⟨_, ⟨t, ht, rfl⟩, (ih t ht).mpr ⟨v, hv, hw⟩⟩
  | bare => simp

/-- What is put in for a variable is no higher than the whole. -/
theorem height_le_of_mem_vars {θ : Var → Ty} {t : Ty} {v : Var} (hv : v ∈ t.vars) :
    (θ v).height ≤ (t.subst θ).height := by
  induction t with
  | var w =>
    rw [vars_var, List.mem_singleton] at hv
    subst hv
    exact Nat.le_refl _
  | con name args ih =>
    obtain ⟨t, ht, hv⟩ := mem_vars_con.mp hv
    have hlt : (t.subst θ).height < ((Ty.con name args).subst θ).height := by
      rw [subst_con]
      exact height_lt_of_mem (List.mem_map_of_mem ht)
    exact Nat.le_trans (ih t ht hv) (Nat.le_of_lt hlt)
  | bare => simp at hv

/-- No substitution makes a variable equal to an operator that holds it: one side would be higher
than itself. -/
theorem subst_ne_of_mem_vars {θ : Var → Ty} {name : String} {args : List Ty} {v : Var}
    (hv : v ∈ (Ty.con name args).vars) : θ v ≠ (Ty.con name args).subst θ := by
  obtain ⟨t, ht, hv⟩ := mem_vars_con.mp hv
  intro h
  have hle : (θ v).height ≤ (t.subst θ).height := height_le_of_mem_vars hv
  have hlt : (t.subst θ).height < ((Ty.con name args).subst θ).height := by
    rw [subst_con]
    exact height_lt_of_mem (List.mem_map_of_mem ht)
  rw [← h] at hlt
  exact absurd (Nat.lt_of_lt_of_le hlt hle) (Nat.lt_irrefl _)

/-! ## Types without the bare type -/

/-- The type is made of variables and operators only. -/
inductive Plain : Ty → Prop
  | var (v : Var) : Plain (.var v)
  | con {name : String} {args : List Ty} (h : ∀ t ∈ args, Plain t) : Plain (.con name args)

@[simp] theorem plain_var (v : Var) : (Ty.var v).Plain := .var v

@[simp] theorem not_plain_bare : ¬ Ty.bare.Plain := nofun

theorem plain_con_iff {name : String} {args : List Ty} :
    (Ty.con name args).Plain ↔ ∀ t ∈ args, t.Plain := by
  constructor
  · intro hp
    cases hp with
    | con h => exact h
  · exact .con

@[simp] theorem plain_fn_iff {arg result : Ty} :
    (fn arg result).Plain ↔ arg.Plain ∧ result.Plain := by
  simp [fn, plain_con_iff]

@[simp] theorem plain_int : int.Plain := .con (by simp)

/-- A substitution keeps a type plain when it is plain on the variables of the type. -/
theorem plain_subst_iff {θ : Var → Ty} {t : Ty} :
    (t.subst θ).Plain ↔ t.Plain ∧ ∀ v ∈ t.vars, (θ v).Plain := by
  induction t with
  | var v => simp
  | con name args ih =>
    simp only [subst_con, plain_con_iff, List.mem_map, mem_vars_con]
    constructor
    · intro h
      refine ⟨fun t ht => ((ih t ht).mp (h _ ⟨t, ht, rfl⟩)).1, ?_⟩
      rintro v ⟨t, ht, hv⟩
      exact ((ih t ht).mp (h _ ⟨t, ht, rfl⟩)).2 v hv
    · rintro ⟨hp, hθ⟩ _ ⟨t, ht, rfl⟩
      exact (ih t ht).mpr ⟨hp t ht, fun v hv => hθ v ⟨t, ht, hv⟩⟩
  | bare => simp

end LetPoly.Ty
