import LetPoly.Proofs.Compression
import LetPoly.Proofs.Showing

/-!
# Definitions at the top level

A program that starts with a definition can be inferred in two goes: first the definition, then the
body, in the environment that has the type of the definition. The second go finds letters that the
first has stored for the variables of that type, and namers prefer stored labels. This does not
show. Nothing is pinned at the top level, so a variable that was there before the body is copied
wherever it is met: it gets into no type of the body and into no message.

* `Pairing.since` — variables belong together from some point on
* `Older` — types of variables from before that point, whose labels may differ
* `fresh_older` — copies of such types belong together
* `Comparison.lawful_since` — analysis keeps the two kinds of variables apart
* `infer_letIn` — one inference and two have the same outcome
-/

namespace LetPoly

open Store

variable {n : Nat} {s s' s₁ s₁' : Store} {t t' u u' : Ty} {v : Var} {pinned pinned' : List Ty}
  {env env' : Env}

/-! ## New variables and old ones -/

/-- From the `n`-th on, every variable belongs together with itself, and so does every number. -/
def Pairing.since (n : Nat) : Pairing where
  dom v := n ≤ v.index
  partner := id
  ids := Eq
  partner_inj _ _ h := h
  ids_iff := Pairing.same.ids_iff

/-- Before there are such variables, nothing has to belong together. -/
theorem twins_since (hs : s.Valid) (hs' : s'.Valid) (hsize : s.cells.size ≤ n) :
    Twins (.since n) s s' := by
  have hnone : ∀ v, (Pairing.since n).dom v → ¬ s.Has v := fun v hd hv =>
    Nat.not_lt.mpr (Nat.le_trans hsize hd) hv
  exact ⟨hs, hs', fun v hd hv => absurd hv (hnone v hd), fun v hd hv => absurd hv (hnone v hd),
    fun v hd hv => absurd hv (hnone v hd)⟩

theorem paced_since (hsize : s'.cells.size = s.cells.size) (hcounter : s'.counter = s.counter) :
    Paced (.since s.cells.size) s s' := by
  refine fun k => ⟨Nat.le_add_right _ k, ?_, ?_⟩
  · rw [hsize]
    rfl
  · rw [hcounter]
    rfl

/-- All variables in types that belong together are new. -/
theorem Same.since_vars (h : Same (.since n) s s' t t') :
    (∀ v ∈ (s.view t).vars, n ≤ v.index) ∧ ∀ v ∈ (s'.view t').vars, n ≤ v.index := by
  rw [h.view_eq_of_partner rfl]
  exact ⟨h.takes.dom, h.takes.dom⟩

/-- The types have one view, of variables among the first `n` with the same numbers. -/
structure Older (n : Nat) (s s' : Store) (t t' : Ty) : Prop where
  holds : s.Holds t
  holds' : s'.Holds t'
  view_eq : s'.view t' = s.view t
  old : ∀ v ∈ (s.view t).vars, v.index < n
  idOf_eq : ∀ v ∈ (s.view t).vars, s'.idOf v = s.idOf v

namespace Older

/-- Changes that bind new variables only leave old types alone. -/
theorem later {r : Rights} (h : Older n s s' t t') (hs : s.Valid) (hs' : s'.Valid)
    (hr : ∀ v, r.bind v → n ≤ v.index) (ha : r.Allows s s₁) (ha' : r.Allows s' s₁') :
    Older n s₁ s₁' t t' := by
  have hfixed : ∀ v ∈ (s.view t).vars, ¬ r.bind v := fun v hv hb =>
    absurd (hr v hb) (Nat.not_le.mpr (h.old v hv))
  have hview : s₁.view t = s.view t := ha.view_eq_of_not_bind hs h.holds hfixed
  have hview' : s₁'.view t' = s'.view t' := by
    refine ha'.view_eq_of_not_bind hs' h.holds' ?_
    rwa [h.view_eq]
  refine ⟨ha.holds h.holds, ha'.holds h.holds', ?_, ?_, fun v hv => ?_⟩
  · rw [hview', h.view_eq, hview]
  · rw [hview]
    exact h.old
  · rw [hview] at hv
    have hhas' : s'.Has v := hs'.holds_view h.holds' v (by rwa [h.view_eq])
    rw [ha.idOf_eq v (hs.holds_view h.holds v hv), ha'.idOf_eq v hhas', h.idOf_eq v hv]

/-- Representatives are one old variable, operators of one name with old components, or bare. -/
theorem find_cases (hs : s.Valid) (hs' : s'.Valid) (h : Older n s s' t t') :
    (∃ v, s.find t = .var v ∧ s'.find t' = .var v ∧ s.Has v ∧ s'.Has v ∧ v.index < n ∧
      s'.idOf v = s.idOf v) ∨
    (∃ name args args', s.find t = .con name args ∧ s'.find t' = .con name args' ∧
      List.Forall₂ (Older n s s') args args' ∧ s.view t = .con name (args.map s.view)) ∨
    (s.find t = .bare ∧ s'.find t' = .bare) := by
  have heq := h.view_eq
  rcases hs.find_cases h.holds with ⟨v, hf, hhas, _, hv⟩ | ⟨name, args, hf, hargs, hv⟩ | ⟨hf, hv⟩
  · rw [hv] at heq
    obtain ⟨hf', hhas', _⟩ := hs'.find_of_view_var h.holds' heq
    have hmem : v ∈ (s.view t).vars := by
      rw [hv]
      exact List.mem_singleton.mpr rfl
    exact .inl ⟨v, hf, hf', hhas, hhas', h.old v hmem, h.idOf_eq v hmem⟩
  · rw [hv] at heq
    obtain ⟨args', hf', hargs', hmap⟩ := hs'.find_of_view_con h.holds' heq
    refine .inr (.inl ⟨name, args, args', hf, hf', ?_, hv⟩)
    refine forall₂_of_map_eq hmap.symm fun u hu u' hu' hview => ?_
    have hvars : ∀ v ∈ (s.view u).vars, v ∈ (s.view t).vars := fun v hvu => by
      rw [hv]
      exact mem_vars_con_view.mpr ⟨u, hu, hvu⟩
    exact ⟨hargs u hu, hargs' u' hu', hview.symm, fun v hvu => h.old v (hvars v hvu),
      fun v hvu => h.idOf_eq v (hvars v hvu)⟩
  · rw [hv] at heq
    exact .inr (.inr ⟨hf, hs'.find_of_view_bare h.holds' heq⟩)

theorem height_lt_depthBound (h : Older n s s' t t') (hs : s.Valid) (hs' : s'.Valid) :
    (s.view t).height < s.depthBound [t] ∧ (s.view t).height < s'.depthBound [t'] := by
  refine ⟨hs.height_view_lt_depthBound h.holds (by simp), ?_⟩
  rw [← h.view_eq]
  exact hs'.height_view_lt_depthBound h.holds' (by simp)

end Older

/-! ## Copies of old types -/

/-- No old variable is pinned. -/
theorem SameMembers.not_pins_old (h : SameMembers (.since n) s s' pinned pinned')
    (hv : v.index < n) : ¬ Pins s pinned v ∧ ¬ Pins s' pinned' v := by
  constructor
  · rintro ⟨t, ht, hmem⟩
    obtain ⟨t', _, hsame⟩ := h.left t ht
    exact Nat.not_le.mpr hv (hsame.since_vars.1 v hmem)
  · rintro ⟨t', ht', hmem⟩
    obtain ⟨t, _, hsame⟩ := h.right t' ht'
    exact Nat.not_le.mpr hv (hsame.since_vars.2 v hmem)

theorem isGeneric_old (h : Twins (.since n) s s')
    (hpin : SameMembers (.since n) s s' pinned pinned') (hv : v.index < n) :
    Alike (isGeneric v pinned) s (isGeneric v pinned') s'
      (fun b b' s₁ s₁' => b = true ∧ b' = true ∧ Moved .look (.since n) s s' s₁ s₁')
      (fun _ _ => False) := by
  obtain ⟨hfree, hfree'⟩ := hpin.not_pins_old hv
  refine (Alike.of_ends (isGeneric_ends h.valid hpin.holds v)
    (isGeneric_ends h.valid' hpin.holds' v)).mono ?_ (fun _ _ h => h)
  rintro _ _ s₁ s₁' ⟨⟨rfl, ha⟩, rfl, ha'⟩
  exact ⟨decide_eq_true hfree, decide_eq_true hfree', h.look ha ha'⟩

/-- Old variables are copied on both sides, so the copies belong together. -/
theorem copyTo_older {steps : Nat} : ∀ {steps' : Nat} {s s' : Store} {copies copies' : Copies}
    {t t' : Ty}, Twins (.since n) s s' → Paced (.since n) s s' →
    SameMembers (.since n) s s' pinned pinned' → CopiesAlike (.since n) s s' copies copies' →
    Older n s s' t t' → (s.view t).height < steps → (s.view t).height < steps' →
    Alike (copyTo pinned steps t) (s, copies) (copyTo pinned' steps' t') (s', copies')
      (fun r r' p p' => Moved .grow (.since n) s s' p.1 p'.1 ∧ Same (.since n) p.1 p'.1 r r' ∧
        CopiesAlike (.since n) p.1 p'.1 p.2 p'.2)
      (fun p p' => Moved .grow (.since n) s s' p.1 p'.1) := by
  induction steps with
  | zero => exact fun _ _ _ _ _ h => absurd h (Nat.not_lt_zero _)
  | succ steps ih =>
    intro steps' s s' copies copies' t t' h hp hpin hc ht hsteps hsteps'
    obtain ⟨steps', rfl⟩ : ∃ n, steps' = n + 1 := Nat.exists_eq_succ_of_ne_zero (by omega)
    have hm : Moved .grow (.since n) s s' (s.shorten t) (s'.shorten t') :=
      (h.look (allows_shorten h.valid ht.holds) (allows_shorten h.valid' ht.holds')).mono
        fun ha => ha.of_look
    unfold copyTo
    refine .bind ?_
    rw [alike_lift, alike_prune]
    rcases ht.find_cases h.valid h.valid' with ⟨v, hf, hf', hv, hv', hold, hid⟩ |
      ⟨name, args, args', hf, hf', hargs, hview⟩ | ⟨hf, hf'⟩
    · rw [hf, hf']
      -- pinned types have new variables only, so neither side keeps this one
      refine .bind ?_
      rw [alike_lift]
      refine (isGeneric_old hm.twins (hpin.later hm) hold).mono ?_ (fun _ _ h => h.elim)
      rintro _ _ s₁ s₁' ⟨rfl, rfl, hm₁⟩
      have hm₂ := hm.trans (hm₁.mono fun ha => ha.of_look)
      have hids : (Pairing.since n).ids (s₁.idOf v) (s₁'.idOf v) := by
        show s₁.idOf v = s₁'.idOf v
        rw [hm₂.allows.idOf_eq v hv, hm₂.allows'.idOf_eq v hv', hid]
      refine .bind ((copyVar_alike hm₂.twins (hm₂.paced hp) (hc.later hm₂) hids).mono ?_
        (fun _ _ h => h))
      exact fun _ _ _ _ hq => ⟨hm₂.trans hq.1, hq.2⟩
    · rw [hf, hf']
      rw [hview] at hsteps hsteps'
      refine copyCon_alike hargs (fun u hu u' hold p p' hmp hcp => ?_) hm (hc.later hm)
      have hlt : (p.1.view u).height < (Ty.con name (args.map s.view)).height := by
        rw [hmp.allows.view_eq (fun _ hb => hb) h.valid hold.holds]
        exact Ty.height_lt_of_mem (List.mem_map_of_mem hu)
      have hold' := hold.later (r := .grow) h.valid h.valid' (fun _ => False.elim) hmp.allows
        hmp.allows'
      exact (ih hmp.twins (hmp.paced hp) (hpin.later hmp) hcp hold' (by omega) (by omega)).mono
        (fun _ _ _ _ hq => hq) (fun _ _ hq => hmp.trans hq)
    · rw [hf, hf']
      exact ⟨rfl, hm⟩

/-- Copies of old types belong together, whatever the labels of their variables. -/
theorem fresh_older (h : Twins (.since n) s s') (hp : Paced (.since n) s s')
    (hpin : SameMembers (.since n) s s' pinned pinned') (ht : Older n s s' t t') :
    Alike (fresh t pinned) s (fresh t' pinned') s'
      (fun r r' s₁ s₁' => Moved .grow (.since n) s s' s₁ s₁' ∧ Same (.since n) s₁ s₁' r r')
      (fun s₁ s₁' => Moved .grow (.since n) s s' s₁ s₁') := by
  have hempty : CopiesAlike (.since n) s s' [] [] := fun _ _ _ => .none
  obtain ⟨hsteps, hsteps'⟩ := ht.height_lt_depthBound h.valid h.valid'
  unfold fresh
  refine .bind ?_
  rw [alike_stepsFor, alike_within]
  exact (copyTo_older h hp hpin hempty ht hsteps hsteps').mono
    (fun _ _ _ _ hq => ⟨hq.1, hq.2.1⟩) (fun _ _ h => h)

/-! ## Analysis -/

/-- The rights of a computation that leaves the first `n` variables alone. -/
abbrev Rights.since (n : Nat) : Rights :=
  { bind := fun v => n ≤ v.index, bare := True, make := True }

theorem Rights.Allows.to_since {r : Rights} (h : r.Allows s s₁) (hr : ∀ v, r.bind v → n ≤ v.index)
    (hn : ¬ r.number) (hl : ∀ v, ¬ r.label v) : (Rights.since n).Allows s s₁ :=
  h.mono (fun v _ hb => hr v hb) (fun hnone => (hnone ⟨n⟩ (Nat.le_refl n)).elim) (fun _ => trivial)
    (fun _ => trivial) (fun hn' => hn hn') (fun v hl' => hl v hl')

theorem Moved.to_since (h : Moved .grow (.since n) s s' s₁ s₁') :
    Moved (.since n) (.since n) s s' s₁ s₁' :=
  h.mono fun ha => ha.to_since (fun _ hb => hb.elim) (fun hn => hn) (fun _ hl => hl)

/-- Unification of types of new variables leaves the old ones alone. -/
theorem allows_since_of_unify (ht : ∀ v ∈ (s.view t).vars, n ≤ v.index)
    (hu : ∀ v ∈ (s.view u).vars, n ≤ v.index) (h : (Rights.unify s [(t, u)]).Allows s s₁) :
    (Rights.since n).Allows s s₁ := by
  refine h.to_since ?_ (fun hn => hn) (fun _ hl => hl)
  rintro v ⟨_, hp, hv⟩
  obtain rfl := List.mem_singleton.mp hp
  exact hv.elim (ht v) (hu v)

theorem unify_since (h : Twins (.since n) s s') (ht : Same (.since n) s s' t t')
    (hu : Same (.since n) s s' u u') :
    Alike (unify t u) s (unify t' u') s'
      (fun _ _ s₁ s₁' => Moved (.since n) (.since n) s s' s₁ s₁')
      (fun s₁ s₁' => Moved (.since n) (.since n) s s' s₁ s₁') := by
  have hmoved : ∀ {s₁ s₁'}, Moved .solve (.since n) s s' s₁ s₁' →
      (Rights.unify s [(t, u)]).Allows s s₁ → (Rights.unify s' [(t', u')]).Allows s' s₁' →
      Moved (.since n) (.since n) s s' s₁ s₁' := fun hm ha ha' =>
    ⟨hm.twins, allows_since_of_unify ht.since_vars.1 hu.since_vars.1 ha,
      allows_since_of_unify ht.since_vars.2 hu.since_vars.2 ha', hm.same, hm.paced⟩
  refine ((unify_alike h ht hu).and_ends (unify_ends h.valid ht.holds hu.holds)
    (unify_ends h.valid' ht.holds' hu.holds')).mono ?_ ?_
  · exact fun _ _ _ _ hq => hmoved hq.1 hq.2.1.allows hq.2.2.allows
  · rintro s₁ s₁' ⟨hm, e, hc, hc'⟩
    exact hmoved hm hc.allows hc'.allows

/-- What two analyses start from when names may have old types. -/
structure SinceSetting (n : Nat) (s s' : Store) (env env' : Env) (pinned pinned' : List Ty) :
    Prop where
  twins : Twins (.since n) s s'
  paced : Paced (.since n) s s'
  envs : LookupsAlike Eq (fun t t' => Same (.since n) s s' t t' ∨ Older n s s' t t') env env'
  pinned : SameMembers (.since n) s s' pinned pinned'

theorem SinceSetting.later (h : SinceSetting n s s' env env' pinned pinned')
    (hm : Moved (.since n) (.since n) s s' s₁ s₁') :
    SinceSetting n s₁ s₁' env env' pinned pinned' where
  twins := hm.twins
  paced := hm.paced h.paced
  envs := h.envs.mono fun _ _ hrel => hrel.imp hm.same fun hold =>
    hold.later h.twins.valid h.twins.valid' (fun _ hb => hb) hm.allows hm.allows'
  pinned := h.pinned.later hm

theorem typeOfName_since (x : String) (h : SinceSetting n s s' env env' pinned pinned') :
    Alike (typeOfName x env pinned) s (typeOfName x env' pinned') s'
      (fun r r' s₁ s₁' => Moved .grow (.since n) s s' s₁ s₁' ∧ Same (.since n) s₁ s₁' r r')
      (fun s₁ s₁' => Moved .grow (.since n) s s' s₁ s₁') := by
  refine typeOfName_alike_of_fresh x h.twins h.envs ?_
  rintro t t' (hsame | hold)
  · exact (fresh_alike h.twins h.paced h.pinned hsame).mono (fun _ _ _ _ h => h)
      (fun _ _ h => h.elim)
  · exact fresh_older h.twins h.paced h.pinned hold

/-- Analyses compared that share their new variables. -/
def Comparison.since (n : Nat) : Comparison Store Store where
  start env env' pinned pinned' s s' := SinceSetting n s s' env env' pinned pinned'
  moved := Moved (.since n) (.since n)
  same := Same (.since n)

theorem Comparison.lawful_since (n : Nat) :
    (Comparison.since n).Lawful typeOfName typeOfName (fun _ x => x) (fun _ x => x) where
  trans h h' := Moved.trans h h'
  start_later hm h := SinceSetting.later h hm
  same_later hm ht := Moved.same hm ht
  extend x h ht :=
    ⟨h.twins, h.paced, h.envs.cons (fun _ _ hk => by rw [hk]) (.inl ht), h.pinned⟩
  pin h ht := ⟨h.twins, h.paced, h.envs, h.pinned.cons ht⟩
  fn h ht hu := same_fn h.twins.valid h.twins.valid' ht hu
  newVar h := (h.twins.pushNext h.paced).imp_left Moved.to_since
  unify h ht hu := unify_since h.twins ht hu
  name x _ _ h := (typeOfName_since x h).mono (fun _ _ _ _ hq => ⟨hq.1.to_since, hq.2⟩)
    (fun _ _ hq => hq.to_since)
  throw _ _ _ h := ⟨rfl, h.twins.moved_refl⟩
  around _ h := h

/-! ## Inference -/

/-- Inference stores a label for every variable of the type that it returns. -/
theorem infer_labels (e : Term) (hset : Setting s env []) :
    Ends (infer e (some env)) s (fun t s₁ => ∀ v ∈ (s₁.view t).vars, s₁.label v ≠ none)
      (fun _ _ => True) := by
  rw [infer_some, ends_bind]
  refine (analyse_ends e hset).mono ?_ (fun _ _ _ => trivial)
  intro t s₁ ht
  have hs₁ := ht.allows.valid
  rw [ends_within]
  refine (nameVariables_labels hs₁ ht.holds {}).mono ?_ (fun _ _ h => h.elim)
  rintro _ p ⟨rfl, hp⟩ v hv
  rw [hp.allows.view_eq (fun _ hb => hb) hs₁ (hs₁.find_spec ht.holds).1,
    hs₁.view_find ht.holds] at hv
  rw [hp.label v hv]
  exact Option.some_ne_none _

/-- A term is inferred alike in environments of old types, whatever the labels of their
variables. -/
theorem infer_since (e : Term) (hset : SinceSetting n s s' env env' [] []) :
    Alike (infer e (some env)) s (infer e (some env')) s'
      (fun t t' s₁ s₁' => s₁'.report t' = s₁.report t) (fun _ _ => True) := by
  rw [infer_some, infer_some]
  have hana := (Comparison.lawful_since n).analyseWith e s s' hset
  refine .bind (hana.mono ?_ (fun _ _ _ => trivial))
  rintro t t' s₁ s₁' ⟨hm, ht⟩
  rw [alike_within]
  refine (nameVariables_alike hm.twins namersAlike_new ht).mono ?_ (fun _ _ h => h.elim)
  rintro r r' p p' ⟨hm₂, hr, _⟩
  exact hr.report_eq_of_partner rfl (fun _ _ hid => hid) hm₂.twins

/-- All types of a setting are old once variables have been labelled. -/
theorem Setting.since_of_mark {vs : List Var} (hset : Setting s env [])
    (ha : (Rights.mark vs).Allows s s') (ht : s.Holds t) (ht' : s'.Holds t')
    (hview : s'.view t' = s.view t) (x : String) :
    SinceSetting s.cells.size s s' (env.extend x t) (env.extend x t') [] [] := by
  have holder : ∀ {t t'}, s.Holds t → s'.Holds t' → s'.view t' = s.view t →
      Older s.cells.size s s' t t' := fun ht ht' hview =>
    have hhas := hset.valid.holds_view ht
    ⟨ht, ht', hview, hhas, fun v hv => ha.idOf_eq v (hhas v hv)⟩
  refine ⟨twins_since hset.valid ha.valid (Nat.le_refl _), paced_since (ha.size_eq fun hm => hm)
    (ha.counter_eq fun hm => hm), ?_, sameMembers_nil⟩
  refine LookupsAlike.cons ?_ (fun _ _ hk => by rw [hk]) (.inr (holder ht ht' hview))
  rintro y _ rfl
  cases hy : env.lookup y with
  | none => exact .none
  | some u =>
    have hu := hset.holds_env y u hy
    exact .some (.inr (holder hu (ha.holds hu) (ha.view_eq (fun _ hb => hb) hset.valid hu)))

/-- A definition at the top level can be inferred first, which stores labels for the variables of
its type: the body then still has the same type, with the same numbers and labels, or fails in the
same way. -/
theorem infer_letIn (hset : Setting s env []) (x : String) (d b : Term) :
    Ends (infer d (some env)) s (fun t s₁ => ∀ v ∈ (s₁.view t).vars, s₁.label v ≠ none)
      (fun _ _ => True) ∧
    Alike (infer (.letIn x d b) (some env)) s
      (do
        let t ← infer d (some env)
        infer b (some (env.extend x t))) s
      (fun u u' s₁ s₂ => s₂.report u' = s₁.report u) (fun _ _ => True) := by
  refine ⟨infer_labels d hset, ?_⟩
  have hlet : infer (.letIn x d b) (some env) =
      (analyse d env [] >>= fun t => infer b (some (env.extend x t))) := by
    simp only [infer_some, analyse_letIn, bind_assoc]
  rw [hlet, infer_some env d, bind_assoc]
  have hd := analyse_ends d hset
  refine .bind (((Alike.refl (analyse d env []) s).and_ends hd hd).mono ?_ (fun _ _ _ => trivial))
  rintro _ t _ s₁ ⟨⟨rfl, rfl⟩, ht, _⟩
  have hset₁ := hset.later ht.allows
  -- only the second path stores labels here
  have hname : Ends (StoreWithM.within ({} : Namer) (nameVariables t)) s₁
      (fun r s₂ => r = s₁.find t ∧ (Rights.mark (s₁.view t).vars).Allows s₁ s₂)
      (fun _ _ => False) :=
    ends_within.mpr (nameVariables_ends hset₁.valid ht.holds)
  obtain ⟨_, s₂, hrun, rfl, ha⟩ := hname.exists_ok
  have hfind := (hset₁.valid.find_spec ht.holds).1
  have hview : s₂.view (s₁.find t) = s₁.view t := by
    rw [ha.view_eq (fun _ hb => hb) hset₁.valid hfind, hset₁.valid.view_find ht.holds]
  refine (infer_since b (hset₁.since_of_mark ha ht.holds (ha.holds hfind) hview x)).of_starts rfl ?_
  exact bind_of_ok hrun

/-- A function that ignores its argument is defined; one body calls it, another one calls what is
left of it once too often. -/
theorem infer_letIn_constant :
    let env : Env := [("f", .var ⟨0⟩)]
    let d : Term := .lam "y" (.ident "f")
    let call : Term := .lam "z" (.app (.ident "g") (.ident "z"))
    let calls : Term := .lam "z" (.app (.app (.app (.ident "g") (.ident "z")) (.ident "z"))
      (.ident "z"))
    ∃ t s₁, infer d (some env) functionStore = .ok t s₁ ∧
      (s₁.view t).vars ≠ [] ∧ (∀ v ∈ (s₁.view t).vars, s₁.label v ≠ none) ∧
      (∃ u s₂ u' s₃, infer (.letIn "g" d call) (some env) functionStore = .ok u s₂ ∧
        infer call (some (env.extend "g" t)) s₁ = .ok u' s₃ ∧ s₃.report u' = s₂.report u) ∧
      ∃ e s₂ s₃, infer (.letIn "g" d calls) (some env) functionStore = .error e s₂ ∧
        infer calls (some (env.extend "g" t)) s₁ = .error e s₃ := by
  intro env d call calls
  have hset : Setting functionStore env [] := by
    refine ⟨functionStore_allows.valid, fun x t ht => ?_, nofun⟩
    obtain ⟨_, rfl⟩ := Prod.mk.inj (List.mem_singleton.mp (mem_of_lookup ht))
    decide
  obtain ⟨t, s₁, h₁, hvars⟩ := exists_ok_of_test (x := infer d (some env)) (s := functionStore)
    (p := fun t s₁ => decide ((s₁.view t).vars ≠ [])) (by decide +kernel)
  obtain ⟨u, s₂, hok, _⟩ := exists_ok_of_test (x := infer (.letIn "g" d call) (some env))
    (s := functionStore) (p := fun _ _ => true) (by decide +kernel)
  obtain ⟨e, s₃, herror, _⟩ := exists_error_of_test (x := infer (.letIn "g" d calls) (some env))
    (s := functionStore) (p := fun _ _ => true) (by decide +kernel)
  -- the programs are not to be run again
  clear_value env d call calls
  obtain ⟨hlabels, hcall⟩ := infer_letIn hset "g" d call
  obtain ⟨u', s₂', hok', hreport⟩ := hcall.of_ok hok
  obtain ⟨s₃', herror', _⟩ := (infer_letIn hset "g" d calls).2.of_error herror
  rw [bind_of_ok h₁] at hok' herror'
  exact ⟨t, s₁, h₁, of_decide_eq_true hvars, hlabels.of_ok h₁,
    ⟨u, s₂, u', s₂', hok, hok', hreport⟩, e, s₃, s₃', herror, herror'⟩

end LetPoly
