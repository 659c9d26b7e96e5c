import LetPoly.Proofs.Validity

/-!
# How stores change

All operations change a store in a few ways only: they rebind the variables of a chain straight to
its end, make variables, store labels, and bind unbound variables. `Rights` says which of these a
computation may do and to which variables, and `Rights.Allows` what follows for the store after it.

* `Rights.Allows.trans` — one computation after the other
* `Rights.Allows.mono` — more rights
* `Rights.Allows.view_eq_subst` — views change by one substitution
* `Rights.Allows.view_eq` — without the right to bind they do not change at all
* `Rights.Allows.mem_view` — only variables that may be bound get into a view
* `allows_shorten`, `allows_pushNext`, `allows_push`, `allows_setLabel`, `allows_setBinding` — the
  single changes
-/

namespace LetPoly

namespace Store

/-- Every variable has a number of its own, and the counter is ahead of all of them. -/
structure Numbered (s : Store) : Prop where
  idOf_lt : ∀ v, s.Has v → s.idOf v < s.counter
  idOf_inj : ∀ v w, s.Has v → s.Has w → s.idOf v = s.idOf w → v = w

theorem numbered_empty : Store.empty.Numbered where
  idOf_lt _ hv := absurd hv (Nat.not_lt_zero _)
  idOf_inj _ _ hv := absurd hv (Nat.not_lt_zero _)

end Store

/-! ## Rights -/

/-- What a computation may do to a store besides shortening chains. -/
structure Rights where
  /-- The variables that it may bind, and that may get into bound types. -/
  bind : Var → Prop := fun _ => False
  /-- Whether the bare type may get into bound types. -/
  bare : Prop := False
  /-- Whether it may make variables. -/
  make : Prop := False
  /-- Whether it may choose the numbers of the variables that it makes. -/
  number : Prop := False
  /-- The variables that it may label. -/
  label : Var → Prop := fun _ => False

/-- The rights of a computation that only looks at types. -/
abbrev Rights.look : Rights := {}

/-- The rights of a computation that makes variables. -/
abbrev Rights.grow : Rights := { make := True }

/-- The rights of a computation that labels some of the given variables. -/
abbrev Rights.mark (vs : List Var) : Rights := { label := (· ∈ vs) }

/-- The rights of a computation that binds any variables to any types. -/
abbrev Rights.solve : Rights := { bind := fun _ => True, bare := True }

/-- What the rights of a computation say about the stores before and after it. -/
structure Rights.Allows (r : Rights) (s s' : Store) : Prop where
  valid : s'.Valid
  size_le : s.cells.size ≤ s'.cells.size
  size_eq : ¬ r.make → s'.cells.size = s.cells.size
  counter_eq : ¬ r.make → s'.counter = s.counter
  height_eq : (∀ v, ¬ r.bind v) → s'.height = s.height
  idOf_eq : ∀ v, s.Has v → s'.idOf v = s.idOf v
  /-- In particular, a variable that was made on the way has no label. -/
  label_eq : ∀ v, ¬ r.label v → s'.label v = s.label v
  numbered : ¬ r.number → s.Numbered → s'.Numbered
  bound : ∀ v, s.binding v ≠ none → s'.binding v ≠ none
  /-- The equations of the store before still hold. -/
  solves : ∀ θ, s'.Solves θ → s.Solves θ
  unbound : ∀ v, s.Has v → s.binding v = none → ¬ r.bind v → s'.binding v = none
  reach : ∀ v, s.Has v → s.binding v = none → r.bind v →
    ∀ w ∈ (s'.meaning v).vars, s.Has w → r.bind w
  plain : ¬ r.bare → ∀ v, s.Has v → s.binding v = none → (s'.meaning v).Plain

namespace Rights.Allows

open Store

variable {r r' : Rights} {s s' s'' : Store} {t : Ty}

theorem has (h : r.Allows s s') {v : Var} (hv : s.Has v) : s'.Has v :=
  Nat.lt_of_lt_of_le hv h.size_le

/-- Without the right to make variables there are no new ones. -/
theorem has_before (h : r.Allows s s') (hm : ¬ r.make) {v : Var} (hv : s'.Has v) : s.Has v := by
  unfold Has at hv
  rwa [h.size_eq hm] at hv

theorem holds (h : r.Allows s s') (ht : s.Holds t) : s'.Holds t :=
  fun v hv => h.has (ht v hv)

/-- Views change by one substitution: what the variables stand for afterwards. -/
theorem view_eq_subst (h : r.Allows s s') (hs : s.Valid) (ht : s.Holds t) :
    s'.view t = (s.view t).subst s'.meaning := by
  have hsol : s.Solves s'.meaning := h.solves _ h.valid.solves_meaning
  rw [hs.view_subst hsol ht, h.valid.subst_meaning (h.holds ht)]

/-- Variables that may not be bound stand for themselves as before. -/
theorem meaning_eq_var (h : r.Allows s s') {v : Var} (hv : s.Has v) (hu : s.binding v = none)
    (hr : ¬ r.bind v) : s'.meaning v = .var v :=
  view_var_of_unbound (h.unbound v hv hu hr)

/-- A type none of whose variables may be bound keeps its view. -/
theorem view_eq_of_not_bind (h : r.Allows s s') (hs : s.Valid) (ht : s.Holds t)
    (hr : ∀ v ∈ (s.view t).vars, ¬ r.bind v) : s'.view t = s.view t := by
  rw [h.view_eq_subst hs ht]
  refine Ty.subst_eq_self fun v hv => ?_
  obtain ⟨hv', hu⟩ := hs.unbound_of_mem_view ht v hv
  exact h.meaning_eq_var hv' hu (hr v hv)

/-- Without the right to bind no view changes. -/
theorem view_eq (h : r.Allows s s') (hr : ∀ v, ¬ r.bind v) (hs : s.Valid) (ht : s.Holds t) :
    s'.view t = s.view t :=
  h.view_eq_of_not_bind hs ht fun v _ => hr v

/-- A variable that was there before gets into a view only if it may be bound. -/
theorem mem_view (h : r.Allows s s') (hs : s.Valid) (ht : s.Holds t) {w : Var}
    (hw : w ∈ (s'.view t).vars) (hold : s.Has w) : r.bind w ∨ w ∈ (s.view t).vars := by
  rw [h.view_eq_subst hs ht, Ty.mem_vars_subst] at hw
  obtain ⟨v, hv, hw⟩ := hw
  obtain ⟨hv', hu⟩ := hs.unbound_of_mem_view ht v hv
  by_cases hb : r.bind v
  · exact .inl (h.reach v hv' hu hb w hw hold)
  · rw [h.meaning_eq_var hv' hu hb, Ty.vars_var, List.mem_singleton] at hw
    rw [hw]
    exact .inr hv

/-- What a variable of a view stands for gets into the view. -/
theorem mem_view_of_meaning (h : r.Allows s s') (hs : s.Valid) (ht : s.Holds t) {v w : Var}
    (hv : v ∈ (s.view t).vars) (hw : w ∈ (s'.meaning v).vars) : w ∈ (s'.view t).vars := by
  rw [h.view_eq_subst hs ht, Ty.mem_vars_subst]
  exact ⟨v, hv, hw⟩

theorem plain_view (h : r.Allows s s') (hs : s.Valid) (ht : s.Holds t) (hr : ¬ r.bare)
    (hp : (s.view t).Plain) : (s'.view t).Plain := by
  rw [h.view_eq_subst hs ht, Ty.plain_subst_iff]
  refine ⟨hp, fun v hv => ?_⟩
  obtain ⟨hv', hu⟩ := hs.unbound_of_mem_view ht v hv
  exact h.plain hr v hv' hu

/-- Views change by one substitution for variables that were unbound before, and without the right
to bind they do not change. -/
theorem exists_subst (h : r.Allows s s') (hs : s.Valid) :
    ∃ σ : Var → Ty, (∀ v, s.binding v ≠ none → σ v = .var v) ∧
      (∀ t, s.Holds t → s'.view t = (s.view t).subst σ) ∧
      ((∀ v, ¬ r.bind v) → σ = Ty.var) := by
  by_cases hr : ∀ v, ¬ r.bind v
  · refine ⟨Ty.var, fun _ _ => rfl, fun t ht => ?_, fun _ => rfl⟩
    rw [h.view_eq hr hs ht, Ty.subst_id]
  · refine ⟨fun v => if s.binding v = none then s'.meaning v else .var v, fun v hv => if_neg hv,
      fun t ht => ?_, fun h => absurd h hr⟩
    rw [h.view_eq_subst hs ht]
    refine Ty.subst_congr fun v hv => ?_
    rw [if_pos (hs.unbound_of_mem_view ht v hv).2]

/-- Without the rights to bind and to make variables the equations stay the same. -/
theorem solves_iff (h : r.Allows s s') (hr : ∀ v, ¬ r.bind v) (hm : ¬ r.make) (hs : s.Valid)
    {θ : Var → Ty} : s'.Solves θ ↔ s.Solves θ := by
  refine ⟨h.solves θ, fun hθ v u hv => ?_⟩
  have hhas : ∀ w, s'.Has w → s.Has w := fun w => h.has_before hm
  have hv' : s.Holds (.var v) := holds_var.mpr (hhas v (has_of_binding hv))
  have hu : s.Holds u := fun w hw => hhas w (h.valid.holds_binding hv w hw)
  have hview : s.view (.var v) = s.view u := by
    rw [← h.view_eq hr hs hv', ← h.view_eq hr hs hu, h.valid.view_var_of_binding hv]
  rw [← hs.view_subst hθ hu, ← hview, hs.view_subst hθ hv', Ty.subst_var]

/-! ## Putting changes together -/

theorem refl (hs : s.Valid) : r.Allows s s where
  valid := hs
  size_le := Nat.le_refl _
  size_eq _ := rfl
  counter_eq _ := rfl
  height_eq _ := rfl
  idOf_eq _ _ := rfl
  label_eq _ _ := rfl
  numbered _ h := h
  bound _ h := h
  solves _ h := h
  unbound _ _ h _ := h
  reach v _ hu hb w hw _ := by
    rw [meaning, view_var_of_unbound hu, Ty.vars_var, List.mem_singleton] at hw
    rwa [hw]
  plain _ v _ hu := by
    rw [meaning, view_var_of_unbound hu]
    exact .var v

theorem trans (h : r.Allows s s') (h' : r.Allows s' s'') : r.Allows s s'' where
  valid := h'.valid
  size_le := Nat.le_trans h.size_le h'.size_le
  size_eq hr := (h'.size_eq hr).trans (h.size_eq hr)
  counter_eq hr := (h'.counter_eq hr).trans (h.counter_eq hr)
  height_eq hr := (h'.height_eq hr).trans (h.height_eq hr)
  idOf_eq v hv := (h'.idOf_eq v (h.has hv)).trans (h.idOf_eq v hv)
  label_eq v hr := (h'.label_eq v hr).trans (h.label_eq v hr)
  numbered hr hn := h'.numbered hr (h.numbered hr hn)
  bound v hv := h'.bound v (h.bound v hv)
  solves θ hθ := h.solves θ (h'.solves θ hθ)
  unbound v hv hu hb := h'.unbound v (h.has hv) (h.unbound v hv hu hb) hb
  reach v hv hu hb w hw hold := by
    have hv' : s'.Holds (.var v) := holds_var.mpr (h.has hv)
    rcases h'.mem_view h.valid hv' hw (h.has hold) with hbw | hw
    · exact hbw
    · exact h.reach v hv hu hb w hw hold
  plain hr v hv hu := h'.plain_view h.valid (holds_var.mpr (h.has hv)) hr (h.plain hr v hv hu)

/-- More rights allow at least as much; only variables that were there before count. -/
theorem mono (h : r.Allows s s') (hbind : ∀ v, s.Has v → r.bind v → r'.bind v)
    (hnone : (∀ v, ¬ r'.bind v) → ∀ v, ¬ r.bind v) (hbare : r.bare → r'.bare)
    (hmake : r.make → r'.make) (hnumber : r.number → r'.number)
    (hlabel : ∀ v, r.label v → r'.label v) :
    r'.Allows s s' where
  valid := h.valid
  size_le := h.size_le
  size_eq hr := h.size_eq fun hm => hr (hmake hm)
  counter_eq hr := h.counter_eq fun hm => hr (hmake hm)
  height_eq hr := h.height_eq (hnone hr)
  idOf_eq := h.idOf_eq
  label_eq v hr := h.label_eq v fun hl => hr (hlabel v hl)
  numbered hr := h.numbered fun hm => hr (hnumber hm)
  bound := h.bound
  solves := h.solves
  unbound v hv hu hb := h.unbound v hv hu fun hb' => hb (hbind v hv hb')
  reach v hv hu hb w hw hold := by
    by_cases hb' : r.bind v
    · exact hbind w hold (h.reach v hv hu hb' w hw hold)
    · rw [h.meaning_eq_var hv hu hb', Ty.vars_var, List.mem_singleton] at hw
      rwa [hw]
  plain hr := h.plain fun hb => hr (hbare hb)

/-- Whatever is allowed without any rights is allowed with some. -/
theorem of_look (h : Rights.look.Allows s s') : r.Allows s s' :=
  h.mono (fun _ _ hb => hb.elim) (fun _ _ hb => hb) False.elim False.elim False.elim nofun

/-- Whatever is allowed without making or labelling variables is allowed to a computation that
binds. -/
theorem to_solve (h : r.Allows s s') (hm : ¬ r.make) (hn : ¬ r.number) (hl : ∀ v, ¬ r.label v) :
    Rights.solve.Allows s s' :=
  h.mono (fun _ _ _ => trivial) (fun hnone v => (hnone v trivial).elim) (fun _ => trivial)
    (fun hm' => hm hm') (fun hn' => hn hn') (fun v hl' => hl v hl')

end Rights.Allows

namespace Store

variable {s : Store} {t : Ty} {v w : Var}

/-! ## Shortening a chain -/

/-- The store with the chain of a type shortened. -/
def shorten (s : Store) (t : Ty) : Store := s.compress (s.chain t) (s.find t)

/-- What rebinding one variable keeps, shortening a chain keeps. -/
theorem compress_keeps {α : Type} (f : Store → α) (r : Ty) (hf : ∀ s v, f (s.rebind v r) = f s)
    (s : Store) (vs : List Var) : f (s.compress vs r) = f s := by
  induction vs generalizing s with
  | nil => rfl
  | cons v vs ih =>
    show f ((s.rebind v r).compress vs r) = f s
    rw [ih, hf]

@[simp] theorem size_shorten (s : Store) (t : Ty) :
    (s.shorten t).cells.size = s.cells.size :=
  compress_keeps (fun s => s.cells.size) _ (fun _ _ => size_rebind ..) ..

@[simp] theorem counter_shorten (s : Store) (t : Ty) : (s.shorten t).counter = s.counter :=
  compress_keeps Store.counter _ (fun _ _ => rfl) ..

@[simp] theorem height_shorten (s : Store) (t : Ty) : (s.shorten t).height = s.height :=
  compress_keeps Store.height _ (fun _ _ => rfl) ..

@[simp] theorem idOf_shorten (s : Store) (t : Ty) (w : Var) : (s.shorten t).idOf w = s.idOf w :=
  compress_keeps (fun s => s.idOf w) _ (fun _ _ => idOf_rebind ..) ..

@[simp] theorem label_shorten (s : Store) (t : Ty) (w : Var) :
    (s.shorten t).label w = s.label w :=
  compress_keeps (fun s => s.label w) _ (fun _ _ => label_rebind ..) ..

@[simp] theorem has_shorten {s : Store} {t : Ty} {w : Var} : (s.shorten t).Has w ↔ s.Has w := by
  simp [Has]

theorem binding_compress {vs : List Var} (r : Ty) (hvs : ∀ v ∈ vs, s.Has v) (w : Var) :
    (s.compress vs r).binding w = if w ∈ vs then some r else s.binding w := by
  induction vs generalizing s with
  | nil => rfl
  | cons v vs ih =>
    have hv : s.Has v := hvs v (by simp)
    have hvs' : ∀ u ∈ vs, (s.rebind v r).Has u := by
      intro u hu
      show u.index < (s.rebind v r).cells.size
      rw [size_rebind]
      exact hvs u (by simp [hu])
    show ((s.rebind v r).compress vs r).binding w = _
    rw [ih hvs', binding_rebind hv]
    by_cases h₁ : w = v <;> by_cases h₂ : w ∈ vs <;> simp [h₁, h₂]

/-- The variables on a chain are bound. -/
theorem Valid.bound_of_mem_chain (hs : s.Valid) (ht : s.Holds t) :
    ∀ v ∈ s.chain t, s.binding v ≠ none := by
  refine hs.induct ?unbound ?bound ?con ?bare ht
  case unbound =>
    intro v _ hu
    simp [chain_var_of_unbound hu]
  case bound =>
    intro v u hv ih w hw
    rw [hs.chain_var_of_binding hv, List.mem_cons] at hw
    rcases hw with rfl | hw
    · simp [hv]
    · exact ih w hw
  case con => simp
  case bare => simp

theorem Valid.has_of_mem_chain (hs : s.Valid) (ht : s.Holds t) : ∀ v ∈ s.chain t, s.Has v := by
  intro v hv
  obtain ⟨u, hu⟩ := Option.ne_none_iff_exists'.mp (hs.bound_of_mem_chain ht v hv)
  exact has_of_binding hu

theorem Valid.binding_shorten (hs : s.Valid) (ht : s.Holds t) (w : Var) :
    (s.shorten t).binding w = if w ∈ s.chain t then some (s.find t) else s.binding w :=
  binding_compress _ (hs.has_of_mem_chain ht) w

/-- A solution makes a type equal to its representative, and with it the whole chain. -/
theorem Valid.subst_find (hs : s.Valid) (ht : s.Holds t) {θ : Var → Ty} (hθ : s.Solves θ) :
    t.subst θ = (s.find t).subst θ ∧ ∀ v ∈ s.chain t, θ v = (s.find t).subst θ := by
  refine hs.induct ?unbound ?bound ?con ?bare ht
  case unbound =>
    intro v _ hu
    simp [chain_var_of_unbound hu, find_var_of_unbound hu]
  case bound =>
    intro v u hv ih
    rw [hs.chain_var_of_binding hv, hs.find_var_of_binding hv]
    have h : θ v = (s.find u).subst θ := (hθ v u hv).trans ih.1
    refine ⟨h, fun w hw => ?_⟩
    rcases List.mem_cons.mp hw with rfl | hw
    · exact h
    · exact ih.2 w hw
  case con => simp
  case bare => simp

/-- Conversely, a substitution that makes a whole chain equal to its end keeps the equations that
the chain is made of. -/
theorem Valid.solves_chain (hs : s.Valid) (ht : s.Holds t) {θ : Var → Ty} :
    (∀ v ∈ s.chain t, θ v = (s.find t).subst θ) →
      t.subst θ = (s.find t).subst θ ∧
        ∀ v ∈ s.chain t, ∀ u, s.binding v = some u → θ v = u.subst θ := by
  refine hs.induct ?unbound ?bound ?con ?bare ht
  case unbound =>
    intro v _ hu _
    simp [chain_var_of_unbound hu, find_var_of_unbound hu]
  case bound =>
    intro v u hv ih h
    rw [hs.chain_var_of_binding hv, hs.find_var_of_binding hv] at *
    obtain ⟨hu, hrest⟩ := ih fun w hw => h w (by simp [hw])
    refine ⟨h v (by simp), fun w hw x hx => ?_⟩
    rcases List.mem_cons.mp hw with rfl | hw
    · rw [hv, Option.some.injEq] at hx
      rw [h w (by simp), ← hx, hu]
    · exact hrest w hw x hx
  case con => simp
  case bare => simp

theorem Valid.solves_shorten_iff (hs : s.Valid) (ht : s.Holds t) {θ : Var → Ty} :
    (s.shorten t).Solves θ ↔ s.Solves θ := by
  constructor
  · intro h v u hv
    by_cases hmem : v ∈ s.chain t
    · refine (hs.solves_chain ht fun w hw => ?_).2 v hmem u hv
      exact h w _ (by rw [hs.binding_shorten ht, if_pos hw])
    · exact h v u (by rw [hs.binding_shorten ht, if_neg hmem, hv])
  · intro h v u hv
    rw [hs.binding_shorten ht] at hv
    split at hv
    · next hmem =>
      rw [Option.some.injEq] at hv
      rw [← hv]
      exact (hs.subst_find ht h).2 v hmem
    · exact h v u hv

/-- The end of a chain lies below everything on it. -/
theorem Valid.rank_find_lt (hs : s.Valid) (ht : s.Holds t) {rank : Var → Nat}
    (hr : ∀ v t, s.binding v = some t → ∀ w ∈ t.vars, rank w < rank v) :
    ∀ v ∈ s.chain t, ∀ w ∈ (s.find t).vars, rank w < rank v := by
  have key : (∀ n, (∀ w ∈ t.vars, rank w < n) → ∀ w ∈ (s.find t).vars, rank w < n) ∧
      ∀ v ∈ s.chain t, ∀ w ∈ (s.find t).vars, rank w < rank v := by
    refine hs.induct ?unbound ?bound ?con ?bare ht
    case unbound =>
      intro v _ hu
      simp [chain_var_of_unbound hu, find_var_of_unbound hu]
    case bound =>
      intro v u hv ih
      rw [hs.chain_var_of_binding hv, hs.find_var_of_binding hv]
      have hlt : ∀ w ∈ (s.find u).vars, rank w < rank v := ih.1 _ (hr v u hv)
      refine ⟨fun n hn w hw => Nat.lt_trans (hlt w hw) (hn v (by simp)), fun x hx w hw => ?_⟩
      rcases List.mem_cons.mp hx with rfl | hx
      · exact hlt w hw
      · exact ih.2 x hx w hw
    case con => simp
    case bare => simp
  exact key.2

/-- A chain that has variables on it ends no higher than the store records. -/
theorem Valid.height_find_le (hs : s.Valid) (ht : s.Holds t) :
    (s.find t).height ≤ max t.height s.height ∧
      (s.chain t ≠ [] → (s.find t).height ≤ s.height) := by
  refine hs.induct ?unbound ?bound ?con ?bare ht
  case unbound =>
    intro v _ hu
    simp [chain_var_of_unbound hu, find_var_of_unbound hu, Ty.height]
  case bound =>
    intro v u hv ih
    rw [hs.chain_var_of_binding hv, hs.find_var_of_binding hv]
    have hle : (s.find u).height ≤ s.height := by
      have := hs.height_binding hv
      omega
    exact ⟨Nat.le_trans hle (Nat.le_max_right _ _), fun _ => hle⟩
  case con =>
    intro name args _ _
    simp
  case bare => simp

theorem valid_shorten (hs : s.Valid) (ht : s.Holds t) : (s.shorten t).Valid where
  acyclic := by
    obtain ⟨rank, hr⟩ := hs.acyclic
    refine ⟨rank, fun v u hv => ?_⟩
    rw [hs.binding_shorten ht] at hv
    split at hv
    · next hmem =>
      rw [Option.some.injEq] at hv
      rw [← hv]
      exact hs.rank_find_lt ht hr v hmem
    · exact hr v u hv
  holds_binding := by
    intro v u hv w hw
    rw [has_shorten]
    rw [hs.binding_shorten ht] at hv
    split at hv
    · rw [Option.some.injEq] at hv
      rw [← hv] at hw
      exact (hs.find_spec ht).1 w hw
    · exact hs.holds_binding hv w hw
  height_binding := by
    intro v u hv
    rw [height_shorten]
    rw [hs.binding_shorten ht] at hv
    split at hv
    · next hmem =>
      rw [Option.some.injEq] at hv
      rw [← hv]
      exact (hs.height_find_le ht).2 (List.ne_nil_of_mem hmem)
    · exact hs.height_binding hv

/-- Shortening a chain needs no rights. -/
theorem allows_shorten (hs : s.Valid) (ht : s.Holds t) : Rights.look.Allows s (s.shorten t) := by
  have hu : ∀ v, s.binding v = none → (s.shorten t).binding v = none := by
    intro v hv
    rw [hs.binding_shorten ht, if_neg fun hmem => hs.bound_of_mem_chain ht v hmem hv, hv]
  exact
    { valid := valid_shorten hs ht
      size_le := Nat.le_of_eq (size_shorten s t).symm
      size_eq := fun _ => size_shorten s t
      counter_eq := fun _ => counter_shorten s t
      height_eq := fun _ => height_shorten s t
      idOf_eq := fun v _ => idOf_shorten s t v
      label_eq := fun v _ => label_shorten s t v
      numbered := fun _ hn =>
        { idOf_lt := by simpa using hn.idOf_lt
          idOf_inj := by simpa using hn.idOf_inj }
      bound := fun v hv => by
        rw [hs.binding_shorten ht]
        split
        · simp
        · exact hv
      solves := fun θ h => (hs.solves_shorten_iff ht).mp h
      unbound := fun v _ hv _ => hu v hv
      reach := fun _ _ _ hb => hb.elim
      plain := fun _ v _ hv => by
        rw [meaning, view_var_of_unbound (hu v hv)]
        exact .var v }

/-! ## Making a variable -/

theorem has_push (id : Nat) (label : Option String) :
    (s.push id label).2.Has w ↔ s.Has w ∨ w = (s.push id label).1 := by
  obtain ⟨i⟩ := w
  simp only [Has, push, Array.size_push, Var.mk.injEq]
  omega

theorem idOf_push_of_has {id : Nat} {label : Option String} (hv : s.Has v) :
    (s.push id label).2.idOf v = s.idOf v := by
  simp only [idOf, cell?, push]
  rw [Array.getElem?_push, if_neg (Nat.ne_of_lt hv)]

theorem idOf_push_self (id : Nat) (label : Option String) :
    (s.push id label).2.idOf (s.push id label).1 = id := by
  simp [idOf, cell?, push]

theorem label_of_not_has (hv : ¬ s.Has v) : s.label v = none := by
  simp only [Store.label, cell?]
  rw [Array.getElem?_eq_none (Nat.le_of_not_lt hv)]
  rfl

theorem label_push (id : Nat) (label : Option String) (w : Var) :
    (s.push id label).2.label w = if w = (s.push id label).1 then label else s.label w := by
  obtain ⟨i⟩ := w
  simp only [Store.label, cell?, push, Array.getElem?_push, Var.mk.injEq]
  split <;> rfl

theorem solves_push_iff {id : Nat} {label : Option String} {θ : Var → Ty} :
    (s.push id label).2.Solves θ ↔ s.Solves θ := by
  simp only [Solves, binding_push]

theorem valid_push (hs : s.Valid) (id : Nat) (label : Option String) :
    (s.push id label).2.Valid where
  acyclic := by
    obtain ⟨rank, hr⟩ := hs.acyclic
    refine ⟨rank, fun v t hv => ?_⟩
    rw [binding_push] at hv
    exact hr v t hv
  holds_binding := by
    intro v t hv w hw
    rw [binding_push] at hv
    exact (has_push id label).mpr (.inl (hs.holds_binding hv w hw))
  height_binding := by
    intro v t hv
    rw [binding_push] at hv
    exact hs.height_binding hv

/-- A new variable with a number of one's own choice takes the right to make and number, and to
label if it has a label. -/
theorem allows_push (hs : s.Valid) (id : Nat) (label : Option String) :
    ({ make := True, number := True, label := fun _ => label ≠ none } : Rights).Allows s
      (s.push id label).2 where
  valid := valid_push hs id label
  size_le := by simp [push]
  size_eq h := absurd trivial h
  counter_eq h := absurd trivial h
  height_eq _ := rfl
  idOf_eq _ hv := idOf_push_of_has hv
  label_eq v hl := by
    rw [label_push]
    split
    · next hv =>
      have hnew : ¬ s.Has (s.push id label).1 := Nat.lt_irrefl _
      rw [hv, label_of_not_has hnew]
      exact not_not.mp hl
    · rfl
  numbered h := absurd trivial h
  bound v hv := by rwa [binding_push]
  solves _ h := solves_push_iff.mp h
  unbound v _ hu _ := by rwa [binding_push]
  reach _ _ _ hb := hb.elim
  plain _ v _ hu := by
    rw [meaning, view_var_of_unbound (by rwa [binding_push])]
    exact .var v

theorem has_pushNext {label : Option String} :
    (s.pushNext label).2.Has w ↔ s.Has w ∨ w = (s.pushNext label).1 :=
  has_push s.counter label

theorem binding_pushNext (label : Option String) (w : Var) :
    (s.pushNext label).2.binding w = s.binding w :=
  binding_push s s.counter label w

/-- A new variable is not one of the store before. -/
theorem not_has_pushNext (label : Option String) : ¬ s.Has (s.pushNext label).1 :=
  Nat.lt_irrefl _

/-- A new variable is unbound. -/
theorem binding_pushNext_self (label : Option String) :
    (s.pushNext label).2.binding (s.pushNext label).1 = none := by
  rw [binding_pushNext]
  exact Option.eq_none_iff_forall_ne_some.mpr fun x hx =>
    not_has_pushNext label (has_of_binding hx)

theorem numbered_pushNext (hn : s.Numbered) (label : Option String) :
    (s.pushNext label).2.Numbered := by
  -- the number of the new variable is the old counter, which no other variable has reached
  have hid : ∀ v, (s.pushNext label).2.Has v → (s.pushNext label).2.idOf v =
      if s.Has v then s.idOf v else s.counter := by
    intro v hv
    rcases has_pushNext.mp hv with hv | rfl
    · rw [if_pos hv]
      exact idOf_push_of_has hv
    · rw [if_neg (not_has_pushNext label)]
      exact idOf_push_self s.counter label
  refine ⟨fun v hv => ?_, fun v w hv hw h => ?_⟩
  · rw [hid v hv]
    show _ < s.counter + 1
    split
    · next hv => exact Nat.lt_succ_of_lt (hn.idOf_lt v hv)
    · exact Nat.lt_succ_self _
  · rw [hid v hv, hid w hw] at h
    rcases has_pushNext.mp hv with hv | rfl <;> rcases has_pushNext.mp hw with hw | rfl
    · rw [if_pos hv, if_pos hw] at h
      exact hn.idOf_inj v w hv hw h
    · rw [if_pos hv, if_neg (not_has_pushNext label)] at h
      exact absurd h (Nat.ne_of_lt (hn.idOf_lt v hv))
    · rw [if_neg (not_has_pushNext label), if_pos hw] at h
      exact absurd h.symm (Nat.ne_of_lt (hn.idOf_lt w hw))
    · rfl

/-- A new variable numbered by the counter does not take the right to number. -/
theorem allows_pushNext_label (hs : s.Valid) (label : Option String) :
    ({ make := True, label := fun _ => label ≠ none } : Rights).Allows s (s.pushNext label).2 := by
  have h := allows_push hs s.counter label
  -- the counter moves on, which nothing but the numbering looks at
  have hv := h.valid
  exact
    { h with
      valid := ⟨hv.acyclic, hv.holds_binding, hv.height_binding⟩
      counter_eq := fun hm => absurd trivial hm
      numbered := fun _ hn => numbered_pushNext hn label
      reach := fun _ _ _ hb => hb.elim
      plain := fun _ v _ hu => by
        rw [meaning, view_var_of_unbound (by rwa [binding_pushNext])]
        exact .var v }

/-- A new variable without a label takes the right to make. -/
theorem allows_pushNext (hs : s.Valid) : Rights.grow.Allows s (s.pushNext none).2 :=
  (allows_pushNext_label hs none).mono (fun _ _ hb => hb) (fun _ _ hb => hb) (fun hb => hb)
    (fun hm => hm) (fun hn => hn) (fun _ hl => hl rfl)

theorem has_pushAs {id : Int} {label : Option String} :
    (s.pushAs id label).2.Has w ↔ s.Has w ∨ w = (s.pushAs id label).1 := by
  unfold pushAs
  split
  · exact has_pushNext
  · exact has_push id.toNat label

/-- A new variable with a number that may be one of one's own choice takes the same rights. -/
theorem allows_pushAs (hs : s.Valid) (id : Int) (label : Option String) :
    ({ make := True, number := True, label := fun _ => label ≠ none } : Rights).Allows s
      (s.pushAs id label).2 := by
  unfold pushAs
  split
  · exact (allows_pushNext_label hs label).mono (fun _ _ hb => hb) (fun _ _ hb => hb)
      (fun hb => hb) (fun hm => hm) (fun _ => trivial) (fun _ hl => hl)
  · exact allows_push hs id.toNat label

/-! ## Storing a label -/

theorem idOf_setLabel (s : Store) (v : Var) (label : String) (w : Var) :
    (s.setLabel v label).idOf w = s.idOf w := by
  simp only [idOf, cell?, setLabel, Array.getElem?_modify]
  split
  · cases s.cells[w.index]? <;> rfl
  · rfl

@[simp] theorem has_setLabel {label : String} : (s.setLabel v label).Has w ↔ s.Has w := by
  simp [Has, setLabel]

theorem label_setLabel (hv : s.Has v) (label : String) (w : Var) :
    (s.setLabel v label).label w = if w = v then some label else s.label w := by
  simp only [Store.label, cell?, setLabel, Array.getElem?_modify]
  by_cases h : w = v
  · rw [if_pos h, h, if_pos rfl, Array.getElem?_eq_getElem hv]
    rfl
  · have hi : v.index ≠ w.index := fun he => h (congrArg Var.mk he.symm)
    rw [if_neg h, if_neg hi]

/-- Storing a label takes the right to do so. -/
theorem allows_setLabel (hs : s.Valid) (hv : s.Has v) (label : String) :
    (Rights.mark [v]).Allows s (s.setLabel v label) where
  valid := by
    obtain ⟨⟨rank, hr⟩, hh, hb⟩ := hs
    refine ⟨⟨rank, fun w t hw => ?_⟩, fun {w t} hw x hx => ?_, fun {w t} hw => ?_⟩
    · rw [binding_setLabel] at hw
      exact hr w t hw
    · rw [binding_setLabel] at hw
      exact has_setLabel.mpr (hh hw x hx)
    · rw [binding_setLabel] at hw
      exact hb hw
  size_le := by simp [setLabel]
  size_eq _ := by simp [setLabel]
  counter_eq _ := rfl
  height_eq _ := rfl
  idOf_eq w _ := idOf_setLabel s v label w
  label_eq w hl := by
    rw [label_setLabel hv, if_neg fun he => hl (List.mem_singleton.mpr he)]
  numbered _ hn :=
    { idOf_lt := fun w hw => by
        rw [idOf_setLabel]
        exact hn.idOf_lt w (has_setLabel.mp hw)
      idOf_inj := fun w x hw hx h => by
        rw [idOf_setLabel, idOf_setLabel] at h
        exact hn.idOf_inj w x (has_setLabel.mp hw) (has_setLabel.mp hx) h }
  bound w hw := by rwa [binding_setLabel]
  solves θ h w t hw := h w t (by rwa [binding_setLabel])
  unbound w _ hu _ := by rwa [binding_setLabel]
  reach _ _ _ hb := hb.elim
  plain _ w _ hu := by
    rw [meaning, view_var_of_unbound (by rwa [binding_setLabel])]
    exact .var w

/-! ## Binding a variable -/

theorem binding_setBinding (hv : s.Has v) (t : Ty) (w : Var) :
    (s.setBinding v t).binding w = if w = v then some t else s.binding w :=
  binding_rebind hv t w

@[simp] theorem has_setBinding : (s.setBinding v t).Has w ↔ s.Has w := by
  show w.index < (s.rebind v t).cells.size ↔ _
  rw [size_rebind]
  rfl

@[simp] theorem counter_setBinding : (s.setBinding v t).counter = s.counter := rfl

@[simp] theorem idOf_setBinding : (s.setBinding v t).idOf w = s.idOf w :=
  idOf_rebind s v w t

/-- Binding an unbound variable adds one equation. -/
theorem solves_setBinding_iff (hv : s.Has v) (hu : s.binding v = none) {θ : Var → Ty} :
    (s.setBinding v t).Solves θ ↔ s.Solves θ ∧ θ v = t.subst θ := by
  constructor
  · intro h
    refine ⟨fun w u hw => h w u ?_, h v t ?_⟩
    · rw [binding_setBinding hv, if_neg, hw]
      rintro rfl
      rw [hu] at hw
      exact nomatch hw
    · rw [binding_setBinding hv, if_pos rfl]
  · rintro ⟨h, hvt⟩ w u hw
    rw [binding_setBinding hv] at hw
    split at hw
    · next he =>
      rw [Option.some.injEq] at hw
      rw [he, ← hw, hvt]
    · exact h w u hw

/-- Binding a variable to a type that does not hold it makes no cycle: everything from which the
variable can be reached is lifted above all ranks. -/
theorem acyclic_setBinding (hs : s.Valid) (hv : s.Has v) (hu : s.binding v = none)
    (ht : s.Holds t) (hocc : v ∉ (s.view t).vars) : (s.setBinding v t).Acyclic := by
  obtain ⟨rank, hr⟩ := hs.exists_isRank
  refine ⟨fun w => rank w + if v ∈ (s.meaning w).vars then s.cells.size else 0, ?_⟩
  intro w u hw x hx
  rw [binding_setBinding hv] at hw
  split at hw
  · next he =>
    rw [Option.some.injEq] at hw
    rw [← hw] at hx
    have hvv : v ∈ (s.meaning v).vars := by
      rw [meaning, view_var_of_unbound hu]
      simp
    have hvx : v ∉ (s.meaning x).vars := by
      intro hmem
      rw [← hs.subst_meaning ht, Ty.mem_vars_subst] at hocc
      exact hocc ⟨x, hx, hmem⟩
    -- the new binding goes from a lifted variable to variables that are not lifted
    have hlt := hr.lt_size (ht x hx)
    simp only [he, if_pos hvv, if_neg hvx]
    omega
  · -- along an old binding the rank falls, and only the upper end may be lifted alone
    have hlt := hr.lt_of_binding hw x hx
    have hsub : v ∈ (s.meaning x).vars → v ∈ (s.meaning w).vars := by
      intro hmem
      rw [hs.solves_meaning w u hw, Ty.mem_vars_subst]
      exact ⟨x, hx, hmem⟩
    by_cases hmem : v ∈ (s.meaning x).vars
    · simp only [if_pos hmem, if_pos (hsub hmem)]
      omega
    · simp only [if_neg hmem]
      omega

theorem valid_setBinding (hs : s.Valid) (hv : s.Has v) (hu : s.binding v = none)
    (ht : s.Holds t) (hocc : v ∉ (s.view t).vars) : (s.setBinding v t).Valid where
  acyclic := acyclic_setBinding hs hv hu ht hocc
  holds_binding := by
    intro w u hw x hx
    rw [has_setBinding]
    rw [binding_setBinding hv] at hw
    split at hw
    · rw [Option.some.injEq] at hw
      rw [← hw] at hx
      exact ht x hx
    · exact hs.holds_binding hw x hx
  height_binding := by
    intro w u hw
    show u.height ≤ max s.height t.height
    rw [binding_setBinding hv] at hw
    split at hw
    · rw [Option.some.injEq] at hw
      rw [← hw]
      exact Nat.le_max_right _ _
    · exact Nat.le_trans (hs.height_binding hw) (Nat.le_max_left _ _)

/-- The bound variable then stands for what the type meant before. -/
theorem meaning_setBinding_self (hs : s.Valid) (hv : s.Has v) (hu : s.binding v = none)
    (ht : s.Holds t) (hocc : v ∉ (s.view t).vars) : (s.setBinding v t).meaning v = s.view t := by
  have hs' := valid_setBinding hs hv hu ht hocc
  have hsol := (solves_setBinding_iff hv hu).mp hs'.solves_meaning
  rw [hsol.2, ← hs.view_subst hsol.1 ht]
  refine Ty.subst_eq_self fun w hw => view_var_of_unbound ?_
  have hne : w ≠ v := fun he => hocc (he ▸ hw)
  rw [binding_setBinding hv, if_neg hne]
  exact (hs.unbound_of_mem_view ht w hw).2

/-- Binding a variable takes the right to bind it and all variables that it will stand for. -/
theorem allows_setBinding {r : Rights} (hs : s.Valid) (hv : s.Has v) (hu : s.binding v = none)
    (ht : s.Holds t) (hocc : v ∉ (s.view t).vars) (hbv : r.bind v)
    (hbt : ∀ w ∈ (s.view t).vars, r.bind w) (hp : (s.view t).Plain ∨ r.bare) :
    r.Allows s (s.setBinding v t) := by
  have hother : ∀ w, w ≠ v → s.binding w = none → (s.setBinding v t).binding w = none := by
    intro w hw hwu
    rw [binding_setBinding hv, if_neg hw, hwu]
  have hself := meaning_setBinding_self hs hv hu ht hocc
  exact
    { valid := valid_setBinding hs hv hu ht hocc
      size_le := Nat.le_of_eq (size_rebind s v t).symm
      size_eq := fun _ => size_rebind s v t
      counter_eq := fun _ => rfl
      height_eq := fun h => absurd hbv (h v)
      idOf_eq := fun w _ => idOf_setBinding
      label_eq := fun w _ => label_rebind s v w t
      numbered := fun _ hn =>
        { idOf_lt := by simpa using hn.idOf_lt
          idOf_inj := by simpa using hn.idOf_inj }
      bound := fun w hw => by
        rw [binding_setBinding hv]
        split
        · simp
        · exact hw
      solves := fun θ h => ((solves_setBinding_iff hv hu).mp h).1
      unbound := fun w _ hwu hb => hother w (fun he => hb (he ▸ hbv)) hwu
      reach := fun w _ hwu hb x hx _ => by
        by_cases he : w = v
        · rw [he, hself] at hx
          exact hbt x hx
        · rw [meaning, view_var_of_unbound (hother w he hwu), Ty.vars_var,
            List.mem_singleton] at hx
          rwa [hx]
      plain := fun hr w _ hwu => by
        by_cases he : w = v
        · rw [he, hself]
          exact hp.resolve_right hr
        · rw [meaning, view_var_of_unbound (hother w he hwu)]
          exact .var w }

end Store

end LetPoly
