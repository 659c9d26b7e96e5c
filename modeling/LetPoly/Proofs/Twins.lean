import LetPoly.Proofs.Operations

/-!
# Stores that correspond to each other

Two stores correspond when one is the other with variables renamed, as far as anybody can see: a
variable and its partner have the same label, numbers that take part in the same comparisons, and
views that differ by the renaming only. How bindings are chained does not count, and some variables
may have no partner at all.

* `Pairing` — which variables and numbers belong together
* `Same` — two types with views that belong together
* `Twins` — two stores whose variables belong together
* `Same.find_cases` — representatives belong together
* `Moved` — twins after both stores have changed in the same way
-/

namespace LetPoly

open Store

/-! ## Pairings -/

/-- Which variables and which numbers of two stores belong together. -/
structure Pairing where
  /-- The variables that have a partner. -/
  dom : Var → Prop
  /-- The partner of a variable. -/
  partner : Var → Var
  /-- The numbers that belong together. -/
  ids : Nat → Nat → Prop
  partner_inj : ∀ {v w}, dom v → dom w → partner v = partner w → v = w
  ids_iff : ∀ {i i' j j'}, ids i i' → ids j j' → (i = j ↔ i' = j')

variable {π : Pairing} {r : Rights} {s s' s₁ s₁' s₂ s₂' : Store} {t t' u u' : Ty} {v : Var}

namespace Pairing

/-- The type with every variable replaced by its partner. -/
def rename (π : Pairing) (t : Ty) : Ty := t.subst fun v => .var (π.partner v)

/-- The second type is the first with every variable replaced by its partner. -/
structure Takes (π : Pairing) (t t' : Ty) : Prop where
  plain : t.Plain
  dom : ∀ v ∈ t.vars, π.dom v
  eq_rename : t' = π.rename t

theorem rename_con (π : Pairing) (name : String) (args : List Ty) :
    π.rename (.con name args) = .con name (args.map π.rename) :=
  Ty.subst_con ..

theorem takes_var (hv : π.dom v) : π.Takes (.var v) (.var (π.partner v)) where
  plain := .var v
  dom w hw := by
    rw [Ty.vars_var, List.mem_singleton] at hw
    rwa [hw]
  eq_rename := rfl

theorem takes_con {name : String} {args args' : List Ty} (h : List.Forall₂ π.Takes args args') :
    π.Takes (.con name args) (.con name args') := by
  have hall : (∀ t ∈ args, t.Plain ∧ ∀ v ∈ t.vars, π.dom v) ∧ args' = args.map π.rename := by
    induction h with
    | nil => exact ⟨nofun, rfl⟩
    | cons h _ ih =>
      refine ⟨List.forall_mem_cons.mpr ⟨⟨h.plain, h.dom⟩, ih.1⟩, ?_⟩
      rw [List.map_cons, h.eq_rename, ih.2]
  refine ⟨.con fun t ht => (hall.1 t ht).1, fun v hv => ?_, ?_⟩
  · obtain ⟨t, ht, hv⟩ := Ty.mem_vars_con.mp hv
    exact (hall.1 t ht).2 v hv
  · rw [rename_con, hall.2]

theorem Takes.component {name : String} {args : List Ty} (h : π.Takes (.con name args) u)
    (ht : t ∈ args) : π.Takes t (π.rename t) where
  plain := Ty.plain_con_iff.mp h.plain t ht
  dom v hv := h.dom v (Ty.mem_vars_con.mpr ⟨t, ht, hv⟩)
  eq_rename := rfl

/-- Types that belong together still do when types that belong together are put in for their
variables. -/
theorem Takes.subst {θ θ' : Var → Ty} (h : π.Takes t t')
    (hθ : ∀ v ∈ t.vars, π.Takes (θ v) (θ' (π.partner v))) : π.Takes (t.subst θ) (t'.subst θ') where
  plain := Ty.plain_subst_iff.mpr ⟨h.plain, fun v hv => (hθ v hv).plain⟩
  dom w hw := by
    obtain ⟨v, hv, hw⟩ := Ty.mem_vars_subst.mp hw
    exact (hθ v hv).dom w hw
  eq_rename := by
    rw [h.eq_rename, rename, rename, Ty.subst_subst, Ty.subst_subst]
    refine Ty.subst_congr fun v hv => ?_
    rw [Ty.subst_var]
    exact (hθ v hv).eq_rename

theorem height_rename (π : Pairing) (t : Ty) : (π.rename t).height = t.height := by
  induction t with
  | var v => rfl
  | con name args ih =>
    have heights : ∀ ts : List Ty, (∀ t ∈ ts, (π.rename t).height = t.height) →
        Ty.heights (ts.map π.rename) = Ty.heights ts := by
      intro ts hts
      induction ts with
      | nil => rfl
      | cons t ts ih =>
        rw [List.map_cons, Ty.heights, Ty.heights, hts t (by simp),
          ih fun u hu => hts u (by simp [hu])]
    rw [rename_con, Ty.height, Ty.height, heights args ih]
  | bare => rfl

/-- A variable occurs in a type exactly if its partner occurs in the other one. -/
theorem Takes.mem_vars_iff (h : π.Takes t t') (hv : π.dom v) :
    π.partner v ∈ t'.vars ↔ v ∈ t.vars := by
  rw [h.eq_rename, rename, Ty.mem_vars_subst]
  constructor
  · rintro ⟨w, hw, heq⟩
    rw [Ty.vars_var, List.mem_singleton] at heq
    rwa [π.partner_inj hv (h.dom w hw) heq]
  · exact fun hmem => ⟨v, hmem, by simp⟩

end Pairing

/-! ## Types that belong together -/

/-- The types are in their stores and have views that belong together. -/
structure Same (π : Pairing) (s s' : Store) (t t' : Ty) : Prop where
  holds : s.Holds t
  holds' : s'.Holds t'
  takes : π.Takes (s.view t) (s'.view t')

theorem Same.height_eq (h : Same π s s' t t') : (s'.view t').height = (s.view t).height := by
  rw [h.takes.eq_rename, π.height_rename]

/-- Operators belong together if their components do. -/
theorem same_con {name : String} {args args' : List Ty} (hs : s.Valid) (hs' : s'.Valid)
    (h : List.Forall₂ (Same π s s') args args') :
    Same π s s' (.con name args) (.con name args') := by
  have hargs : s.Holds (.con name args) :=
    holds_con.mpr (forall_mem_left h fun _ _ hsame => hsame.holds)
  have hargs' : s'.Holds (.con name args') :=
    holds_con.mpr (forall_mem_right h fun _ _ hsame => hsame.holds')
  refine ⟨hargs, hargs', ?_⟩
  rw [hs.view_con hargs, hs'.view_con hargs']
  refine Pairing.takes_con ?_
  rw [List.forall₂_map_left_iff, List.forall₂_map_right_iff]
  exact h.imp fun _ _ hsame => hsame.takes

theorem same_fn (hs : s.Valid) (hs' : s'.Valid) (ht : Same π s s' t t') (hu : Same π s s' u u') :
    Same π s s' (.fn t u) (.fn t' u') :=
  same_con hs hs' (.cons ht (.cons hu .nil))

theorem same_int (hs : s.Valid) (hs' : s'.Valid) : Same π s s' .int .int :=
  same_con hs hs' .nil

/-- Types that belong together still do once what their variables stand for belongs together. -/
theorem Same.later (h : Same π s s' t t') (hs : s.Valid) (hs' : s'.Valid) (ha : r.Allows s s₁)
    (ha' : r.Allows s' s₁')
    (hmeaning : ∀ v, π.dom v → s.Has v → s.binding v = none →
      π.Takes (s₁.meaning v) (s₁'.meaning (π.partner v))) : Same π s₁ s₁' t t' where
  holds := ha.holds h.holds
  holds' := ha'.holds h.holds'
  takes := by
    rw [ha.view_eq_subst hs h.holds, ha'.view_eq_subst hs' h.holds']
    refine h.takes.subst fun v hv => ?_
    obtain ⟨hhas, hu⟩ := hs.unbound_of_mem_view h.holds v hv
    exact hmeaning v (h.takes.dom v hv) hhas hu

/-! ## Stores that belong together -/

/-- Every variable that has a partner belongs together with it. -/
structure Twins (π : Pairing) (s s' : Store) : Prop where
  valid : s.Valid
  valid' : s'.Valid
  var : ∀ v, π.dom v → s.Has v → Same π s s' (.var v) (.var (π.partner v))
  ids : ∀ v, π.dom v → s.Has v → π.ids (s.idOf v) (s'.idOf (π.partner v))
  label : ∀ v, π.dom v → s.Has v → s'.label (π.partner v) = s.label v

theorem Twins.has (h : Twins π s s') (hd : π.dom v) (hv : s.Has v) : s'.Has (π.partner v) :=
  holds_var.mp (h.var v hd hv).holds'

/-- The partner of an unbound variable is unbound. -/
theorem Twins.unbound (h : Twins π s s') (hd : π.dom v) (hv : s.Has v)
    (hu : s.binding v = none) : s'.binding (π.partner v) = none := by
  have hsame := h.var v hd hv
  have hview := hsame.takes.eq_rename
  rw [view_var_of_unbound hu] at hview
  refine (h.valid'.unbound_of_mem_view hsame.holds' (π.partner v) ?_).2
  rw [hview]
  exact List.mem_singleton.mpr rfl

/-- A type of variables that have partners belongs together with its renaming. -/
theorem Twins.same_rename (h : Twins π s s') (ht : s.Holds t) (hp : t.Plain)
    (hd : ∀ v ∈ t.vars, π.dom v) : Same π s s' t (π.rename t) := by
  induction t with
  | var v => exact h.var v (hd v (by simp)) (holds_var.mp ht)
  | con name args ih =>
    rw [Pairing.rename_con]
    refine same_con h.valid h.valid' ?_
    rw [List.forall₂_map_right_iff, List.forall₂_same]
    refine fun u hu => ih u hu (holds_con.mp ht u hu) (Ty.plain_con_iff.mp hp u hu) ?_
    exact fun v hv => hd v (Ty.mem_vars_con.mpr ⟨u, hu, hv⟩)
  | bare => exact absurd hp Ty.not_plain_bare

/-- Representatives of types that belong together are partners, or operators of one name whose
components belong together. -/
theorem Same.find_cases (hs : s.Valid) (hs' : s'.Valid) (h : Same π s s' t t') :
    (∃ v, s.find t = .var v ∧ s'.find t' = .var (π.partner v) ∧ π.dom v ∧ s.Has v ∧
      s.binding v = none) ∨
    ∃ name args args', s.find t = .con name args ∧ s'.find t' = .con name args' ∧
      List.Forall₂ (Same π s s') args args' ∧ s.view t = .con name (args.map s.view) := by
  have heq := h.takes.eq_rename
  rcases hs.find_cases h.holds with ⟨v, hf, hhas, hu, hv⟩ | ⟨name, args, hf, hargs, hv⟩ | ⟨_, hv⟩
  · rw [hv] at heq
    obtain ⟨hf', _, _⟩ := hs'.find_of_view_var h.holds' heq
    exact .inl ⟨v, hf, hf', h.takes.dom v (by rw [hv]; simp), hhas, hu⟩
  · rw [hv, Pairing.rename_con, List.map_map] at heq
    obtain ⟨args', hf', hargs', hmap⟩ := hs'.find_of_view_con h.holds' heq
    refine .inr ⟨name, args, args', hf, hf', ?_, hv⟩
    have htakes := h.takes
    rw [hv] at htakes
    refine forall₂_of_map_eq hmap.symm fun u hu u' hu' hview => ⟨hargs u hu, hargs' u' hu', ?_⟩
    rw [← hview]
    exact htakes.component (List.mem_map_of_mem hu)
  · have hplain := h.takes.plain
    rw [hv] at hplain
    exact absurd hplain Ty.not_plain_bare

/-- The next variables and the next numbers of the two stores belong together. -/
def Paced (π : Pairing) (s s' : Store) : Prop :=
  ∀ k, π.dom ⟨s.cells.size + k⟩ ∧ π.partner ⟨s.cells.size + k⟩ = ⟨s'.cells.size + k⟩ ∧
    π.ids (s.counter + k) (s'.counter + k)

/-! ## Twins that change in the same way -/

/-- The twins after both have changed: types that belonged together still do. -/
structure Moved (r : Rights) (π : Pairing) (s s' s₁ s₁' : Store) : Prop where
  twins : Twins π s₁ s₁'
  allows : r.Allows s s₁
  allows' : r.Allows s' s₁'
  same : ∀ {t t'}, Same π s s' t t' → Same π s₁ s₁' t t'
  paced : Paced π s s' → Paced π s₁ s₁'

theorem Twins.moved_refl (h : Twins π s s') : Moved r π s s' s s' :=
  ⟨h, .refl h.valid, .refl h.valid', fun h => h, fun h => h⟩

theorem Moved.trans (h : Moved r π s s' s₁ s₁') (h₁ : Moved r π s₁ s₁' s₂ s₂') :
    Moved r π s s' s₂ s₂' where
  twins := h₁.twins
  allows := h.allows.trans h₁.allows
  allows' := h.allows'.trans h₁.allows'
  same hsame := h₁.same (h.same hsame)
  paced hp := h₁.paced (h.paced hp)

theorem Moved.mono {r' : Rights} (h : Moved r π s s' s₁ s₁')
    (hr : ∀ {s s' : Store}, r.Allows s s' → r'.Allows s s') : Moved r' π s s' s₁ s₁' :=
  ⟨h.twins, hr h.allows, hr h.allows', h.same, h.paced⟩

/-- Changes that agree on what unbound variables stand for and on labels, and that make variables
that belong together, keep twins together. -/
theorem Twins.moved (h : Twins π s s') (ha : r.Allows s s₁) (ha' : r.Allows s' s₁')
    (hmeaning : ∀ v, π.dom v → s.Has v → s.binding v = none →
      π.Takes (s₁.meaning v) (s₁'.meaning (π.partner v)))
    (hlabel : ∀ v, π.dom v → s₁.Has v → s₁'.label (π.partner v) = s₁.label v)
    (hnew : ∀ v, π.dom v → s₁.Has v → ¬ s.Has v →
      Same π s₁ s₁' (.var v) (.var (π.partner v)) ∧ π.ids (s₁.idOf v) (s₁'.idOf (π.partner v)))
    (hpaced : Paced π s s' → Paced π s₁ s₁') : Moved r π s s' s₁ s₁' := by
  have hsame : ∀ {t t'}, Same π s s' t t' → Same π s₁ s₁' t t' :=
    fun hsame => hsame.later h.valid h.valid' ha ha' hmeaning
  refine ⟨⟨ha.valid, ha'.valid, fun v hd hv => ?_, fun v hd hv => ?_, hlabel⟩, ha, ha', hsame,
    hpaced⟩
  · by_cases hold : s.Has v
    · exact hsame (h.var v hd hold)
    · exact (hnew v hd hv hold).1
  · by_cases hold : s.Has v
    · rw [ha.idOf_eq v hold, ha'.idOf_eq _ (h.has hd hold)]
      exact h.ids v hd hold
    · exact (hnew v hd hv hold).2

/-- No variable is made: then only meanings and labels have to agree. -/
theorem Twins.moved_of_size_eq (h : Twins π s s') (ha : r.Allows s s₁) (ha' : r.Allows s' s₁')
    (hmake : ¬ r.make)
    (hmeaning : ∀ v, π.dom v → s.Has v → s.binding v = none →
      π.Takes (s₁.meaning v) (s₁'.meaning (π.partner v)))
    (hlabel : ∀ v, π.dom v → s.Has v → s₁'.label (π.partner v) = s₁.label v) :
    Moved r π s s' s₁ s₁' := by
  have hback : ∀ v, s₁.Has v → s.Has v := fun v => ha.has_before hmake
  refine h.moved ha ha' hmeaning (fun v hd hv => hlabel v hd (hback v hv))
    (fun v _ hv hold => absurd (hback v hv) hold) (fun hp k => ?_)
  rw [ha.size_eq hmake, ha'.size_eq hmake, ha.counter_eq hmake, ha'.counter_eq hmake]
  exact hp k

/-- Looking keeps twins together. -/
theorem Twins.look (h : Twins π s s') (ha : Rights.look.Allows s s₁)
    (ha' : Rights.look.Allows s' s₁') : Moved .look π s s' s₁ s₁' := by
  refine h.moved_of_size_eq ha ha' (fun hm => hm) (fun v hd hv hu => ?_) (fun v hd hv => ?_)
  · rw [ha.meaning_eq_var hv hu fun hb => hb,
      ha'.meaning_eq_var (h.has hd hv) (h.unbound hd hv hu) fun hb => hb]
    exact Pairing.takes_var hd
  · rw [ha.label_eq v fun hl => hl, ha'.label_eq _ fun hl => hl]
    exact h.label v hd hv

theorem Twins.shorten (h : Twins π s s') (ht : Same π s s' t t') :
    Moved .look π s s' (s.shorten t) (s'.shorten t') :=
  h.look (allows_shorten h.valid ht.holds) (allows_shorten h.valid' ht.holds')

/-- New variables of paced twins belong together. -/
theorem Twins.pushNext (h : Twins π s s') (hp : Paced π s s') :
    Moved .grow π s s' (s.pushNext none).2 (s'.pushNext none).2 ∧
      Same π (s.pushNext none).2 (s'.pushNext none).2 (.var (s.pushNext none).1)
        (.var (s'.pushNext none).1) := by
  have ha := allows_pushNext h.valid
  have ha' := allows_pushNext h.valid'
  obtain ⟨hdom, hpartner, hids⟩ := hp 0
  have hdom : π.dom (s.pushNext none).1 := hdom
  have hpartner : π.partner (s.pushNext none).1 = (s'.pushNext none).1 := hpartner
  have hsame : Same π (s.pushNext none).2 (s'.pushNext none).2 (.var (s.pushNext none).1)
      (.var (s'.pushNext none).1) := by
    refine ⟨holds_var.mpr (has_pushNext.mpr (.inr rfl)),
      holds_var.mpr (has_pushNext.mpr (.inr rfl)), ?_⟩
    rw [view_var_of_unbound (binding_pushNext_self none),
      view_var_of_unbound (binding_pushNext_self none), ← hpartner]
    exact Pairing.takes_var hdom
  refine ⟨h.moved ha ha' (fun v hd hv hu => ?_) (fun v hd hv => ?_) (fun v hd hv hold => ?_)
    (fun _ k => ?_), hsame⟩
  · rw [ha.meaning_eq_var hv hu fun hb => hb,
      ha'.meaning_eq_var (h.has hd hv) (h.unbound hd hv hu) fun hb => hb]
    exact Pairing.takes_var hd
  · rw [ha.label_eq v fun hl => hl, ha'.label_eq _ fun hl => hl]
    by_cases hold : s.Has v
    · exact h.label v hd hold
    · obtain rfl := (has_pushNext.mp hv).resolve_left hold
      rw [hpartner, label_of_not_has hold, label_of_not_has (not_has_pushNext none)]
  · obtain rfl := (has_pushNext.mp hv).resolve_left hold
    rw [hpartner]
    refine ⟨hsame, ?_⟩
    rw [show (s.pushNext none).2.idOf (s.pushNext none).1 = s.counter from idOf_push_self ..,
      show (s'.pushNext none).2.idOf (s'.pushNext none).1 = s'.counter from idOf_push_self ..]
    exact hids
  · have hk := hp (k + 1)
    have hsize : ∀ s : Store, (s.pushNext none).2.cells.size + k = s.cells.size + (k + 1) := by
      intro s
      show (s.cells.push _).size + k = _
      rw [Array.size_push]
      omega
    have hcounter : ∀ s : Store, (s.pushNext none).2.counter + k = s.counter + (k + 1) := by
      intro s
      show s.counter + 1 + k = _
      omega
    rw [hsize, hsize, hcounter, hcounter]
    exact hk

/-- Giving a variable and its partner the same label keeps twins together. -/
theorem Twins.setLabel (h : Twins π s s') (hd : π.dom v) (hv : s.Has v) (label : String) :
    Moved { label := fun _ => True } π s s' (s.setLabel v label)
      (s'.setLabel (π.partner v) label) := by
  have hmark : ∀ {s₁ s₂ : Store} {w}, (Rights.mark [w]).Allows s₁ s₂ →
      ({ label := fun _ => True } : Rights).Allows s₁ s₂ := fun ha =>
    ha.mono (fun _ _ hb => hb) (fun _ _ hb => hb) (fun hb => hb) (fun hm => hm) (fun hn => hn)
      (fun _ _ => trivial)
  have hv' := h.has hd hv
  refine h.moved_of_size_eq (hmark (allows_setLabel h.valid hv label))
    (hmark (allows_setLabel h.valid' hv' label)) (fun hm => hm) (fun w hdw hw hu => ?_)
    (fun w hdw hw => ?_)
  · rw [meaning, meaning, view_var_of_unbound (by rwa [binding_setLabel]),
      view_var_of_unbound (by rw [binding_setLabel]; exact h.unbound hdw hw hu)]
    exact Pairing.takes_var hdw
  · rw [label_setLabel hv, label_setLabel hv']
    by_cases hwv : w = v
    · rw [if_pos hwv, if_pos (congrArg π.partner hwv)]
    · rw [if_neg hwv, if_neg fun heq => hwv (π.partner_inj hdw hd heq)]
      exact h.label w hdw hw

/-- Binding a variable and its partner to types that belong together keeps twins together. -/
theorem Twins.setBinding (h : Twins π s s') (hd : π.dom v) (hv : s.Has v)
    (hu : s.binding v = none) (ht : Same π s s' t t') (hocc : v ∉ (s.view t).vars) :
    Moved .solve π s s' (s.setBinding v t) (s'.setBinding (π.partner v) t') := by
  have hv' := h.has hd hv
  have hu' := h.unbound hd hv hu
  have hocc' : π.partner v ∉ (s'.view t').vars := fun hmem =>
    hocc ((ht.takes.mem_vars_iff hd).mp hmem)
  have hbind : ∀ {s : Store} {v : Var} {t : Ty}, s.Valid → s.Has v → s.binding v = none →
      s.Holds t → v ∉ (s.view t).vars → Rights.solve.Allows s (s.setBinding v t) :=
    fun hs hv hu ht hocc => allows_setBinding hs hv hu ht hocc trivial (fun _ _ => trivial)
      (.inr trivial)
  refine h.moved_of_size_eq (hbind h.valid hv hu ht.holds hocc)
    (hbind h.valid' hv' hu' ht.holds' hocc') (fun hm => hm) (fun w hdw hw huw => ?_)
    (fun w hdw hw => ?_)
  · by_cases hwv : w = v
    · subst hwv
      rw [meaning_setBinding_self h.valid hv hu ht.holds hocc,
        meaning_setBinding_self h.valid' hv' hu' ht.holds' hocc']
      exact ht.takes
    · have hne : π.partner w ≠ π.partner v := fun heq => hwv (π.partner_inj hdw hd heq)
      rw [meaning, meaning, view_var_of_unbound (by rwa [binding_setBinding hv, if_neg hwv]),
        view_var_of_unbound (by
          rw [binding_setBinding hv', if_neg hne]
          exact h.unbound hdw hw huw)]
      exact Pairing.takes_var hdw
  · rw [show (s.setBinding v t).label w = s.label w from label_rebind ..,
      show (s'.setBinding (π.partner v) t').label (π.partner w) = s'.label (π.partner w) from
        label_rebind ..]
    exact h.label w hdw hw

end LetPoly
