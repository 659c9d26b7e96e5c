import Mathlib.Data.Finset.Card
import Mathlib.Data.Finset.Range
import Mathlib.Data.List.Forall2
import LetPoly.Proofs.Substitution
import LetPoly.Store

/-!
# Valid stores and views

A store is valid when its bindings form no cycle, lead only to its own variables, and are no higher
than the height it records. In a valid store the bounds on the steps of a search are never used
up, so views obey the equations one expects of them:

* `Valid.view_var_of_unbound`, `Valid.view_var_of_binding`, `Valid.view_con`, `view_bare`
* `Valid.view_find` — a type and its representative have the same view
* `Valid.unfolds_view` — the view of a type is the type with all bindings followed
* `Valid.induct` — induction on types that goes through bindings

A substitution *solves* a store when it makes every variable equal to the type that it is bound to.
Views are a solution (`Valid.solves_meaning`), and every solution factors through them
(`Valid.view_subst`).
-/

namespace LetPoly.Store

/-! ## Variables of a store -/

/-- The variable is one of the store. -/
def Has (s : Store) (v : Var) : Prop := v.index < s.cells.size

instance (s : Store) (v : Var) : Decidable (s.Has v) :=
  inferInstanceAs (Decidable (v.index < s.cells.size))

/-- All variables of the type are variables of the store. -/
def Holds (s : Store) (t : Ty) : Prop := ∀ v ∈ t.vars, s.Has v

instance (s : Store) (t : Ty) : Decidable (s.Holds t) :=
  inferInstanceAs (Decidable (∀ v ∈ t.vars, s.Has v))

@[simp] theorem holds_var {s : Store} {v : Var} : s.Holds (.var v) ↔ s.Has v := by
  simp [Holds]

@[simp] theorem holds_bare {s : Store} : s.Holds .bare := by
  simp [Holds]

theorem holds_con {s : Store} {name : String} {args : List Ty} :
    s.Holds (.con name args) ↔ ∀ t ∈ args, s.Holds t := by
  simp only [Holds, Ty.mem_vars_con]
  constructor
  · exact fun h t ht v hv => h v ⟨t, ht, hv⟩
  · rintro h v ⟨t, ht, hv⟩
    exact h t ht v hv

@[simp] theorem holds_fn {s : Store} {arg result : Ty} :
    s.Holds (.fn arg result) ↔ s.Holds arg ∧ s.Holds result := by
  simp [Ty.fn, holds_con]

@[simp] theorem holds_int {s : Store} : s.Holds .int := by
  simp [Ty.int, holds_con]

theorem has_of_binding {s : Store} {v : Var} {t : Ty} (h : s.binding v = some t) : s.Has v := by
  unfold binding cell? at h
  by_contra hv
  rw [Array.getElem?_eq_none (Nat.le_of_not_lt hv)] at h
  simp at h

/-! ## Validity -/

/-- The bindings form no cycle, stay within the store, and are no higher than it records. -/
structure Valid (s : Store) : Prop where
  acyclic : s.Acyclic
  holds_binding : ∀ {v t}, s.binding v = some t → s.Holds t
  height_binding : ∀ {v t}, s.binding v = some t → t.height ≤ s.height

theorem valid_empty : Store.empty.Valid where
  acyclic := ⟨fun _ => 0, nofun⟩
  holds_binding := nofun
  height_binding := nofun

/-- Ranks that fall along bindings and stay below the number of variables. -/
structure IsRank (s : Store) (rank : Var → Nat) : Prop where
  lt_of_binding : ∀ {v t}, s.binding v = some t → ∀ w ∈ t.vars, rank w < rank v
  lt_size : ∀ {v}, s.Has v → rank v < s.cells.size

/-- The number of variables of lower rank is itself a rank, and it is bounded. -/
theorem Valid.exists_isRank {s : Store} (hs : s.Valid) : ∃ rank, s.IsRank rank := by
  obtain ⟨rank, hrank⟩ := hs.acyclic
  let below (v : Var) : Finset Nat :=
    (Finset.range s.cells.size).filter fun i => rank ⟨i⟩ < rank v
  refine ⟨fun v => (below v).card, ?_, ?_⟩
  · intro v t h w hw
    have hlt : rank w < rank v := hrank v t h w hw
    refine Finset.card_lt_card (Finset.ssubset_iff_of_subset ?_ |>.mpr ⟨w.index, ?_, ?_⟩)
    · intro i hi
      simp only [below, Finset.mem_filter] at hi ⊢
      exact ⟨hi.1, Nat.lt_trans hi.2 hlt⟩
    · simp only [below, Finset.mem_filter, Finset.mem_range]
      exact ⟨hs.holds_binding h w hw, hlt⟩
    · simp [below]
  · intro v hv
    have hsub : below v ⊂ Finset.range s.cells.size := by
      refine Finset.filter_ssubset.mpr ⟨v.index, ?_, ?_⟩
      · exact Finset.mem_range.mpr hv
      · exact Nat.lt_irrefl _
    simpa using Finset.card_lt_card hsub

/-! ## Induction through bindings -/

/-- `n` bounds the operators and bindings on every branch of a type: those of the type itself, and
for each rank below `r` those of one more bound type and the binding that leads to it. -/
def Bounded (s : Store) (rank : Var → Nat) (n : Nat) (t : Ty) : Prop :=
  ∃ r, (∀ v ∈ t.vars, rank v < r) ∧ t.height + r * (s.height + 1) ≤ n

theorem Bounded.binding {s : Store} {rank : Var → Nat} {n : Nat} {v : Var} {t : Ty}
    (hs : s.Valid) (hr : s.IsRank rank) (h : s.Bounded rank n (.var v))
    (hv : s.binding v = some t) : ∃ m < n, s.Bounded rank m t := by
  obtain ⟨r, hlt, hle⟩ := h
  have hvr : rank v < r := hlt v (by simp)
  have hmul : (rank v + 1) * (s.height + 1) ≤ r * (s.height + 1) := Nat.mul_le_mul_right _ hvr
  have hht : t.height ≤ s.height := hs.height_binding hv
  rw [Nat.add_mul] at hmul
  refine ⟨_, ?_, rank v, hr.lt_of_binding hv, Nat.le_refl _⟩
  omega

theorem Bounded.arg {s : Store} {rank : Var → Nat} {n : Nat} {name : String} {args : List Ty}
    {t : Ty} (h : s.Bounded rank n (.con name args)) (ht : t ∈ args) :
    ∃ m < n, s.Bounded rank m t := by
  obtain ⟨r, hlt, hle⟩ := h
  have hht : t.height < (Ty.con name args).height := Ty.height_lt_of_mem ht
  refine ⟨_, ?_, r, fun v hv => hlt v (Ty.mem_vars_con.mpr ⟨t, ht, hv⟩), Nat.le_refl _⟩
  omega

theorem IsRank.bounded {s : Store} {rank : Var → Nat} (hr : s.IsRank rank) {t : Ty}
    (ht : s.Holds t) : s.Bounded rank (t.height + s.cells.size * (s.height + 1)) t :=
  ⟨s.cells.size, fun v hv => hr.lt_size (ht v hv), Nat.le_refl _⟩

/-- To show something of all types of a valid store, show it of unbound variables, of bound
variables for which it holds of what they are bound to, of operators for whose components it
holds, and of the bare type. -/
@[elab_as_elim]
theorem Valid.induct {s : Store} (hs : s.Valid) {motive : Ty → Prop}
    (unbound : ∀ v, s.Has v → s.binding v = none → motive (.var v))
    (bound : ∀ v t, s.binding v = some t → motive t → motive (.var v))
    (con : ∀ name args, (∀ t ∈ args, s.Holds t) → (∀ t ∈ args, motive t) →
      motive (.con name args))
    (bare : motive .bare) {t : Ty} (ht : s.Holds t) : motive t := by
  obtain ⟨rank, hr⟩ := hs.exists_isRank
  have key : ∀ n t, s.Bounded rank n t → s.Holds t → motive t := by
    intro n
    induction n using Nat.strongRecOn with
    | ind n ih =>
      intro t hb ht
      match t with
      | .var v =>
        cases hv : s.binding v with
        | none => exact unbound v (holds_var.mp ht) hv
        | some u =>
          obtain ⟨m, hm, hu⟩ := hb.binding hs hr hv
          exact bound v u hv (ih m hm u hu (hs.holds_binding hv))
      | .con name args =>
        refine con name args (holds_con.mp ht) fun u hu => ?_
        obtain ⟨m, hm, hb⟩ := hb.arg hu
        exact ih m hm u hb (holds_con.mp ht u hu)
      | .bare => exact bare
  exact key _ t (hr.bounded ht) ht

/-! ## Chains -/

/-- A walk does not change when it may take more steps than the ranks on its way need. -/
theorem IsRank.walk_eq {s : Store} {rank : Var → Nat} (hr : s.IsRank rank) :
    ∀ {n m : Nat} {t : Ty}, (∀ v ∈ t.vars, rank v < n) → (∀ v ∈ t.vars, rank v < m) →
      s.walk n t = s.walk m t := by
  intro n
  induction n with
  | zero =>
    intro m t hn _
    match t with
    | .var v => exact absurd (hn v (by simp)) (Nat.not_lt_zero _)
    | .con name args => rw [walk_con, walk_con]
    | .bare => rw [walk_bare, walk_bare]
  | succ n ih =>
    intro m t hn hm
    match t, m with
    | .con name args, m => rw [walk_con, walk_con]
    | .bare, m => rw [walk_bare, walk_bare]
    | .var v, 0 => exact absurd (hm v (by simp)) (Nat.not_lt_zero _)
    | .var v, m + 1 =>
      have hvn : rank v < n + 1 := hn v (by simp)
      have hvm : rank v < m + 1 := hm v (by simp)
      unfold walk
      cases hv : s.binding v with
      | none => rfl
      | some t =>
        have hlt := hr.lt_of_binding hv
        simp only
        rw [ih (m := m) (fun w hw => by have := hlt w hw; omega)
          (fun w hw => by have := hlt w hw; omega)]

/-- The walk from a bound variable goes on from the type that it is bound to. -/
theorem Valid.walk_var {s : Store} (hs : s.Valid) {v : Var} {t : Ty} (hv : s.binding v = some t) :
    s.walk s.cells.size (.var v) =
      (v :: (s.walk s.cells.size t).1, (s.walk s.cells.size t).2) := by
  obtain ⟨rank, hr⟩ := hs.exists_isRank
  have hlt := hr.lt_of_binding hv
  have hsize := hr.lt_size (has_of_binding hv)
  cases hn : s.cells.size with
  | zero => omega
  | succ n =>
    rw [walk, hv]
    simp only
    rw [hr.walk_eq (n := n) (m := n + 1) (fun w hw => by have := hlt w hw; omega)
      (fun w hw => by have := hlt w hw; omega)]

theorem Valid.find_var_of_binding {s : Store} (hs : s.Valid) {v : Var} {t : Ty}
    (hv : s.binding v = some t) : s.find (.var v) = s.find t := by
  unfold find
  rw [hs.walk_var hv]

theorem Valid.chain_var_of_binding {s : Store} (hs : s.Valid) {v : Var} {t : Ty}
    (hv : s.binding v = some t) : s.chain (.var v) = v :: s.chain t := by
  unfold chain
  rw [hs.walk_var hv]

@[simp] theorem find_con (s : Store) (name : String) (args : List Ty) :
    s.find (.con name args) = .con name args := by
  simp [find]

@[simp] theorem find_bare (s : Store) : s.find .bare = .bare := by
  simp [find]

theorem find_var_of_unbound {s : Store} {v : Var} (hv : s.binding v = none) :
    s.find (.var v) = .var v := by
  unfold find
  rw [walk_var_of_unbound hv]

@[simp] theorem chain_con (s : Store) (name : String) (args : List Ty) :
    s.chain (.con name args) = [] := by
  simp [chain]

@[simp] theorem chain_bare (s : Store) : s.chain .bare = [] := by
  simp [chain]

theorem chain_var_of_unbound {s : Store} {v : Var} (hv : s.binding v = none) :
    s.chain (.var v) = [] := by
  unfold chain
  rw [walk_var_of_unbound hv]

/-- A representative is held by the store, and it is never a bound variable. -/
theorem Valid.find_spec {s : Store} (hs : s.Valid) {t : Ty} (ht : s.Holds t) :
    s.Holds (s.find t) ∧ ∀ v, s.find t = .var v → s.binding v = none := by
  refine hs.induct ?unbound ?bound ?con ?bare ht
  case unbound =>
    intro v hv hu
    rw [find_var_of_unbound hu]
    refine ⟨holds_var.mpr hv, fun w hw => ?_⟩
    rw [Ty.var.injEq] at hw
    rw [← hw, hu]
  case bound =>
    intro v u hv ih
    rw [hs.find_var_of_binding hv]
    exact ih
  case con =>
    intro name args hargs _
    rw [find_con]
    exact ⟨holds_con.mpr hargs, nofun⟩
  case bare =>
    rw [find_bare]
    exact ⟨holds_bare, nofun⟩

/-- A representative bounds no more than the type it represents. -/
theorem Bounded.find {s : Store} {rank : Var → Nat} {n : Nat} {t : Ty} (hs : s.Valid)
    (hr : s.IsRank rank) (h : s.Bounded rank n t) (ht : s.Holds t) :
    s.Bounded rank n (s.find t) := by
  revert h
  refine hs.induct ?unbound ?bound ?con ?bare ht
  case unbound =>
    intro v _ hu h
    rwa [find_var_of_unbound hu]
  case bound =>
    intro v u hv ih h
    rw [hs.find_var_of_binding hv]
    obtain ⟨m, hm, r, hlt, hle⟩ := h.binding hs hr hv
    exact ih ⟨r, hlt, Nat.le_trans hle (Nat.le_of_lt hm)⟩
  case con =>
    intro name args _ _ h
    rwa [find_con]
  case bare =>
    intro h
    rwa [find_bare]

/-! ## Views -/

/-- Once a view is deep enough it does not depend on the depth. -/
theorem Valid.viewTo_eq {s : Store} (hs : s.Valid) {rank : Var → Nat} (hr : s.IsRank rank)
    {n : Nat} : ∀ {t : Ty} {d d' : Nat}, s.Bounded rank n t → s.Holds t → n < d → n < d' →
      s.viewTo d t = s.viewTo d' t := by
  induction n using Nat.strongRecOn with
  | ind n ih =>
    intro t d d' hb ht hd hd'
    obtain ⟨d, rfl⟩ : ∃ e, d = e + 1 := ⟨d - 1, by omega⟩
    obtain ⟨d', rfl⟩ : ∃ e, d' = e + 1 := ⟨d' - 1, by omega⟩
    have hb' : s.Bounded rank n (s.find t) := hb.find hs hr ht
    have ht' : s.Holds (s.find t) := (hs.find_spec ht).1
    unfold viewTo
    cases hf : s.find t with
    | var v => rfl
    | bare => rfl
    | con name args =>
      rw [hf] at hb' ht'
      simp only [Ty.con.injEq, true_and, List.map_inj_left]
      intro u hu
      obtain ⟨m, hm, hbu⟩ := hb'.arg hu
      exact ih m hm hbu (holds_con.mp ht' u hu) (by omega) (by omega)

/-- The bound that views are computed with is large enough. -/
theorem lt_depthBound (s : Store) {t : Ty} {ts : List Ty} (ht : t ∈ ts) :
    t.height + s.cells.size * (s.height + 1) < s.depthBound ts := by
  have h₁ : t.height ≤ Ty.heights ts := Ty.heights_le_iff.mp (Nat.le_refl _) t ht
  unfold depthBound
  generalize hm : max s.height (Ty.heights ts) = m
  have h₂ : s.height + 1 ≤ m + 2 := by omega
  have h₃ : s.cells.size * (s.height + 1) ≤ s.cells.size * (m + 2) := Nat.mul_le_mul_left _ h₂
  rw [Nat.add_mul]
  omega

theorem Valid.view_eq_viewTo {s : Store} (hs : s.Valid) {rank : Var → Nat} (hr : s.IsRank rank)
    {t : Ty} (ht : s.Holds t) {n d : Nat} (hb : s.Bounded rank n t) (hd : n < d) :
    s.view t = s.viewTo d t := by
  have hb' := hr.bounded ht
  have hd' : _ < s.depthBound [t] := s.lt_depthBound (List.mem_singleton.mpr rfl)
  unfold view
  rcases Nat.le_total n (t.height + s.cells.size * (s.height + 1)) with hle | hle
  · exact hs.viewTo_eq hr hb ht (Nat.lt_of_le_of_lt hle hd') hd
  · exact hs.viewTo_eq hr hb' ht hd' (Nat.lt_of_le_of_lt hle hd)

theorem viewTo_depthBound_pos (s : Store) (ts : List Ty) : ∃ d, s.depthBound ts = d + 1 := by
  refine ⟨s.depthBound ts - 1, ?_⟩
  have : 0 < s.depthBound ts := Nat.mul_pos (Nat.succ_pos _) (Nat.succ_pos _)
  omega

theorem view_var_of_unbound {s : Store} {v : Var} (hv : s.binding v = none) :
    s.view (.var v) = .var v := by
  obtain ⟨d, hd⟩ := s.viewTo_depthBound_pos [.var v]
  rw [view, hd, viewTo, find_var_of_unbound hv]

@[simp] theorem view_bare (s : Store) : s.view .bare = .bare := by
  obtain ⟨d, hd⟩ := s.viewTo_depthBound_pos [.bare]
  rw [view, hd, viewTo, find_bare]

theorem Valid.view_var_of_binding {s : Store} (hs : s.Valid) {v : Var} {t : Ty}
    (hv : s.binding v = some t) : s.view (.var v) = s.view t := by
  obtain ⟨rank, hr⟩ := hs.exists_isRank
  have ht : s.Holds t := hs.holds_binding hv
  have hv' : s.Holds (.var v) := holds_var.mpr (has_of_binding hv)
  obtain ⟨m, hm, hb⟩ := (hr.bounded hv').binding hs hr hv
  rw [hs.view_eq_viewTo hr ht hb (Nat.lt_succ_of_lt hm),
    hs.view_eq_viewTo hr hv' (hr.bounded hv') (Nat.lt_succ_self _), viewTo, viewTo,
    hs.find_var_of_binding hv]

theorem Valid.view_con {s : Store} (hs : s.Valid) {name : String} {args : List Ty}
    (h : s.Holds (.con name args)) :
    s.view (.con name args) = .con name (args.map s.view) := by
  obtain ⟨rank, hr⟩ := hs.exists_isRank
  have hb := hr.bounded h
  rw [hs.view_eq_viewTo hr h hb (Nat.lt_succ_self _), viewTo, find_con]
  simp only [Ty.con.injEq, true_and, List.map_inj_left]
  intro t ht
  obtain ⟨m, hm, hbt⟩ := hb.arg ht
  exact (hs.view_eq_viewTo hr (holds_con.mp h t ht) hbt hm).symm

theorem Valid.view_fn {s : Store} (hs : s.Valid) {arg result : Ty} (ha : s.Holds arg)
    (hr : s.Holds result) : s.view (.fn arg result) = .fn (s.view arg) (s.view result) :=
  hs.view_con (holds_fn.mpr ⟨ha, hr⟩)

theorem Valid.view_int {s : Store} (hs : s.Valid) : s.view .int = .int :=
  hs.view_con holds_int

/-- A type and its representative have the same view. -/
theorem Valid.view_find {s : Store} (hs : s.Valid) {t : Ty} (ht : s.Holds t) :
    s.view (s.find t) = s.view t := by
  refine hs.induct ?unbound ?bound ?con ?bare ht
  case unbound =>
    intro v _ hu
    rw [find_var_of_unbound hu]
  case bound =>
    intro v u hv ih
    rw [hs.find_var_of_binding hv, hs.view_var_of_binding hv, ih]
  case con =>
    intro name args _ _
    rw [find_con]
  case bare =>
    rw [find_bare]

/-- The variables of a view are unbound variables of the store. -/
theorem Valid.unbound_of_mem_view {s : Store} (hs : s.Valid) {t : Ty} (ht : s.Holds t) :
    ∀ v ∈ (s.view t).vars, s.Has v ∧ s.binding v = none := by
  refine hs.induct ?unbound ?bound ?con ?bare ht
  case unbound =>
    intro v hv hu w hw
    rw [view_var_of_unbound hu, Ty.vars_var, List.mem_singleton] at hw
    rw [hw]
    exact ⟨hv, hu⟩
  case bound =>
    intro v u hv ih
    rw [hs.view_var_of_binding hv]
    exact ih
  case con =>
    intro name args hargs ih v hv
    rw [hs.view_con (holds_con.mpr hargs), Ty.mem_vars_con] at hv
    obtain ⟨_, hw, hv⟩ := hv
    obtain ⟨u, hu, rfl⟩ := List.mem_map.mp hw
    exact ih u hu v hv
  case bare =>
    intro v hv
    simp at hv

theorem Valid.holds_view {s : Store} (hs : s.Valid) {t : Ty} (ht : s.Holds t) :
    s.Holds (s.view t) :=
  fun v hv => (hs.unbound_of_mem_view ht v hv).1

/-- `u` is the type `t` with all bindings followed, at every depth. -/
inductive Unfolds (s : Store) : Ty → Ty → Prop
  | unbound {v : Var} : s.binding v = none → Unfolds s (.var v) (.var v)
  | bound {v : Var} {t u : Ty} : s.binding v = some t → Unfolds s t u → Unfolds s (.var v) u
  | con {name : String} {ts us : List Ty} :
    List.Forall₂ (Unfolds s) ts us → Unfolds s (.con name ts) (.con name us)
  | bare : Unfolds s .bare .bare

/-- In a valid store every type can be unfolded, and its view is what comes out. -/
theorem Valid.unfolds_view {s : Store} (hs : s.Valid) {t : Ty} (ht : s.Holds t) :
    s.Unfolds t (s.view t) := by
  refine hs.induct ?unbound ?bound ?con ?bare ht
  case unbound =>
    intro v _ hu
    rw [view_var_of_unbound hu]
    exact .unbound hu
  case bound =>
    intro v u hv ih
    rw [hs.view_var_of_binding hv]
    exact .bound hv ih
  case con =>
    intro name args hargs ih
    rw [hs.view_con (holds_con.mpr hargs)]
    refine .con ?_
    rw [List.forall₂_map_right_iff, List.forall₂_same]
    exact ih
  case bare =>
    rw [view_bare]
    exact .bare

/-- What a representative can be, with the view that it gives to the type. -/
theorem Valid.find_cases {s : Store} (hs : s.Valid) {t : Ty} (ht : s.Holds t) :
    (∃ v, s.find t = .var v ∧ s.Has v ∧ s.binding v = none ∧ s.view t = .var v) ∨
    (∃ name args, s.find t = .con name args ∧ (∀ u ∈ args, s.Holds u) ∧
      s.view t = .con name (args.map s.view)) ∨
    (s.find t = .bare ∧ s.view t = .bare) := by
  obtain ⟨hh, hu⟩ := hs.find_spec ht
  rw [← hs.view_find ht]
  cases hf : s.find t with
  | var v =>
    rw [hf] at hh
    exact .inl ⟨v, rfl, holds_var.mp hh, hu v hf, view_var_of_unbound (hu v hf)⟩
  | con name args =>
    rw [hf] at hh
    exact .inr (.inl ⟨name, args, rfl, holds_con.mp hh, hs.view_con hh⟩)
  | bare => exact .inr (.inr ⟨rfl, view_bare s⟩)

/-- A type with a variable for its view has that variable for its representative. -/
theorem Valid.find_of_view_var {s : Store} (hs : s.Valid) {t : Ty} (ht : s.Holds t) {v : Var}
    (hv : s.view t = .var v) : s.find t = .var v ∧ s.Has v ∧ s.binding v = none := by
  rcases hs.find_cases ht with ⟨w, hf, hhas, hu, hw⟩ | ⟨_, _, _, _, hw⟩ | ⟨_, hw⟩
  · obtain rfl := Ty.var.inj (hw.symm.trans hv)
    exact ⟨hf, hhas, hu⟩
  · exact nomatch hw.symm.trans hv
  · exact nomatch hw.symm.trans hv

/-- A type with an operator for its view has an operator of that name for its representative. -/
theorem Valid.find_of_view_con {s : Store} (hs : s.Valid) {t : Ty} (ht : s.Holds t) {name : String}
    {us : List Ty} (hv : s.view t = .con name us) :
    ∃ args, s.find t = .con name args ∧ (∀ u ∈ args, s.Holds u) ∧ args.map s.view = us := by
  rcases hs.find_cases ht with ⟨_, _, _, _, hw⟩ | ⟨name', args, hf, hargs, hw⟩ | ⟨_, hw⟩
  · exact nomatch hw.symm.trans hv
  · obtain ⟨rfl, hmap⟩ := Ty.con.inj (hw.symm.trans hv)
    exact ⟨args, hf, hargs, hmap⟩
  · exact nomatch hw.symm.trans hv

theorem Valid.find_of_view_bare {s : Store} (hs : s.Valid) {t : Ty} (ht : s.Holds t)
    (hv : s.view t = .bare) : s.find t = .bare := by
  rcases hs.find_cases ht with ⟨_, _, _, _, hw⟩ | ⟨_, _, _, _, hw⟩ | ⟨hf, _⟩
  · exact nomatch hw.symm.trans hv
  · exact nomatch hw.symm.trans hv
  · exact hf

/-! ## Solutions -/

/-- The substitution makes every variable equal to the type that it is bound to. -/
def Solves (s : Store) (θ : Var → Ty) : Prop :=
  ∀ v t, s.binding v = some t → θ v = t.subst θ

/-- What each variable stands for. -/
def meaning (s : Store) (v : Var) : Ty := s.view (.var v)

/-- A solution does not tell a type from its view. -/
theorem Valid.view_subst {s : Store} (hs : s.Valid) {θ : Var → Ty} (hθ : s.Solves θ) {t : Ty}
    (ht : s.Holds t) : (s.view t).subst θ = t.subst θ := by
  refine hs.induct ?unbound ?bound ?con ?bare ht
  case unbound =>
    intro v _ hu
    rw [view_var_of_unbound hu]
  case bound =>
    intro v u hv ih
    rw [hs.view_var_of_binding hv, ih, Ty.subst_var, hθ v u hv]
  case con =>
    intro name args hargs ih
    rw [hs.view_con (holds_con.mpr hargs), Ty.subst_con, Ty.subst_con, List.map_map,
      Ty.con.injEq, List.map_inj_left]
    exact ⟨rfl, ih⟩
  case bare =>
    rw [view_bare]

/-- The view of a type puts in what its variables stand for. -/
theorem Valid.subst_meaning {s : Store} (hs : s.Valid) {t : Ty} (ht : s.Holds t) :
    t.subst s.meaning = s.view t := by
  induction t with
  | var v => rfl
  | con name args ih =>
    rw [hs.view_con ht, Ty.subst_con, Ty.con.injEq, List.map_inj_left]
    exact ⟨rfl, fun u hu => ih u hu (holds_con.mp ht u hu)⟩
  | bare => rw [view_bare, Ty.subst_bare]

theorem Valid.solves_meaning {s : Store} (hs : s.Valid) : s.Solves s.meaning := by
  intro v t hv
  rw [hs.subst_meaning (hs.holds_binding hv), ← hs.view_var_of_binding hv, meaning]

/-- Any substitution becomes a solution when it is applied to what variables stand for. -/
theorem Valid.solves_comp {s : Store} (hs : s.Valid) (θ : Var → Ty) :
    s.Solves fun v => (s.meaning v).subst θ := by
  intro v t hv
  rw [← Ty.subst_subst, ← hs.solves_meaning v t hv]

/-- A type whose variables are unbound is its own view. -/
theorem Valid.view_eq_self {s : Store} (hs : s.Valid) {t : Ty} (ht : s.Holds t)
    (h : ∀ v ∈ t.vars, s.binding v = none) : s.view t = t := by
  rw [← hs.subst_meaning ht]
  exact Ty.subst_eq_self fun v hv => view_var_of_unbound (h v hv)

/-- Views are no higher than the steps that are counted for them. -/
theorem Valid.height_view_le {s : Store} (hs : s.Valid) {t : Ty} (ht : s.Holds t) :
    (s.view t).height ≤ t.height + s.cells.size * (s.height + 1) := by
  obtain ⟨rank, hr⟩ := hs.exists_isRank
  have hbounded := hr.bounded ht
  -- for any bound, so that the induction goes down to the smaller ones of the parts
  generalize t.height + s.cells.size * (s.height + 1) = n at hbounded ⊢
  revert n
  refine hs.induct ?unbound ?bound ?con ?bare ht
  case unbound =>
    intro v _ hv n _
    simp [view_var_of_unbound hv, Ty.height]
  case bound =>
    intro v u hv ih n hb
    obtain ⟨m, hm, hu⟩ := hb.binding hs hr hv
    rw [hs.view_var_of_binding hv]
    exact Nat.le_trans (ih m hu) (Nat.le_of_lt hm)
  case con =>
    intro name args hargs ih n hb
    rw [hs.view_con (holds_con.mpr hargs), Ty.height]
    have hpos : 0 < n := by
      obtain ⟨r, _, hle⟩ := hb
      rw [Ty.height] at hle
      omega
    have hle : Ty.heights (args.map s.view) ≤ n - 1 := by
      refine Ty.heights_le_iff.mpr fun _ hw => ?_
      obtain ⟨u, hu, rfl⟩ := List.mem_map.mp hw
      obtain ⟨m, hm, hbu⟩ := hb.arg hu
      have := ih u hu m hbu
      omega
    omega
  case bare =>
    intro n _
    simp [Ty.height]

end LetPoly.Store
