import LetPoly.Env
import LetPoly.Proofs.Unification

/-!
# Instances

A copy of a type is its view with the generic variables renamed to new ones. Copying makes variables
and does nothing else to the store; it fails only if the bare type occurs in the view.

* `Pins` — a variable occurs in a pinned type
* `CopyOf` — what is known of a copy
* `fresh_ends` — copying makes one
* `CopyOf.exists_subst` — whatever is to be put in place of the generic variables can be put in
  place of the new ones
-/

namespace LetPoly

open Store

variable {s s' s₀ : Store} {t : Ty} {v w : Var} {pinned : List Ty}

/-- The variable occurs in one of the pinned types. -/
def Pins (s : Store) (pinned : List Ty) (v : Var) : Prop := ∃ p ∈ pinned, v ∈ (s.view p).vars

instance (s : Store) (pinned : List Ty) (v : Var) : Decidable (Pins s pinned v) :=
  inferInstanceAs (Decidable (∃ p ∈ pinned, v ∈ (s.view p).vars))

/-- Without the right to bind the same variables stay pinned. -/
theorem Rights.Allows.pins_iff {r : Rights} (h : r.Allows s s') (hr : ∀ v, ¬ r.bind v)
    (hs : s.Valid) (hp : ∀ p ∈ pinned, s.Holds p) : Pins s' pinned v ↔ Pins s pinned v := by
  refine exists_congr fun p => and_congr_right fun hmem => ?_
  rw [h.view_eq hr hs (hp p hmem)]

theorem isGeneric_ends (hs : s.Valid) (hp : ∀ p ∈ pinned, s.Holds p) (v : Var) :
    Ends (isGeneric v pinned) s
      (fun b s' => b = decide (¬ Pins s pinned v) ∧ Rights.look.Allows s s')
      (fun _ _ => False) := by
  unfold isGeneric
  rw [ends_bind]
  refine (occursAny_ends hs hp v).mono (fun b s' ⟨hb, hs'⟩ => ?_) (fun _ _ h => h)
  rw [ends_pure, hb, ← decide_not]
  exact ⟨rfl, hs'⟩

/-! ## Renaming generic variables -/

/-- Pinned variables are kept and the others renamed. -/
def renameGeneric (s : Store) (pinned : List Ty) (f : Var → Var) (v : Var) : Ty :=
  if Pins s pinned v then .var v else .var (f v)

/-- The copy of a type in which `f` gives the new variables. -/
structure CopyOf (s : Store) (pinned : List Ty) (t : Ty) (f : Var → Var) (r : Ty) (s' : Store) :
    Prop where
  allows : Rights.grow.Allows s s'
  eq_subst : r = (s.view t).subst (renameGeneric s pinned f)
  new : ∀ v ∈ (s.view t).vars, ¬ Pins s pinned v →
    ¬ s.Has (f v) ∧ s'.Has (f v) ∧ s'.binding (f v) = none
  inj : s.Numbered → ∀ v ∈ (s.view t).vars, ∀ w ∈ (s.view t).vars,
    ¬ Pins s pinned v → ¬ Pins s pinned w → f v = f w → v = w

/-- Every variable of a copy is a pinned variable of the type or a new one. -/
theorem CopyOf.mem_vars {f : Var → Var} {r : Ty} (h : CopyOf s pinned t f r s')
    (hw : w ∈ r.vars) : (w ∈ (s.view t).vars ∧ Pins s pinned w) ∨
      ∃ v ∈ (s.view t).vars, ¬ Pins s pinned v ∧ w = f v := by
  rw [h.eq_subst, Ty.mem_vars_subst] at hw
  obtain ⟨v, hv, hw⟩ := hw
  unfold renameGeneric at hw
  split at hw
  · next hpin =>
    rw [Ty.vars_var, List.mem_singleton] at hw
    rw [hw]
    exact .inl ⟨hv, hpin⟩
  · next hgen =>
    rw [Ty.vars_var, List.mem_singleton] at hw
    exact .inr ⟨v, hv, hgen, hw⟩

/-- The variables of a copy are unbound variables of the store. -/
theorem CopyOf.unbound {f : Var → Var} {r : Ty} (h : CopyOf s pinned t f r s') (hs : s.Valid)
    (ht : s.Holds t) : ∀ w ∈ r.vars, s'.Has w ∧ s'.binding w = none := by
  intro w hw
  rcases h.mem_vars hw with ⟨hv, _⟩ | ⟨v, hv, hgen, rfl⟩
  · obtain ⟨hhas, hu⟩ := hs.unbound_of_mem_view ht w hv
    exact ⟨h.allows.has hhas, h.allows.unbound w hhas hu fun hb => hb⟩
  · exact (h.new v hv hgen).2

theorem CopyOf.holds {f : Var → Var} {r : Ty} (h : CopyOf s pinned t f r s') (hs : s.Valid)
    (ht : s.Holds t) : s'.Holds r :=
  fun w hw => (h.unbound hs ht w hw).1

/-- A copy is its own view. -/
theorem CopyOf.view_eq {f : Var → Var} {r : Ty} (h : CopyOf s pinned t f r s') (hs : s.Valid)
    (ht : s.Holds t) : s'.view r = r :=
  h.allows.valid.view_eq_self (h.holds hs ht) fun w hw => (h.unbound hs ht w hw).2

theorem CopyOf.plain {f : Var → Var} {r : Ty} (h : CopyOf s pinned t f r s')
    (hp : (s.view t).Plain) : r.Plain := by
  rw [h.eq_subst, Ty.plain_subst_iff]
  refine ⟨hp, fun v _ => ?_⟩
  unfold renameGeneric
  split <;> exact .var _

/-! ## Copying -/

/-- The variable that stands for `v` in a list of copies, if there is one. -/
def Copies.target (s : Store) (copies : Copies) (v : Var) : Var :=
  (copies.lookup (s.idOf v)).getD v

/-- There is a variable that stands for `v` in a list of copies. -/
def Copies.Has (s : Store) (copies : Copies) (v : Var) : Prop :=
  copies.lookup (s.idOf v) ≠ none

/-- What copying keeps between its steps: it has only made variables, and the copies are different
new variables. -/
structure Copying (s₀ s : Store) (copies : Copies) : Prop where
  allows : Rights.grow.Allows s₀ s
  new : ∀ {i w}, copies.lookup i = some w → ¬ s₀.Has w ∧ s.Has w ∧ s.binding w = none
  inj : ∀ {i j w}, copies.lookup i = some w → copies.lookup j = some w → i = j

/-- Later copies include the earlier ones. -/
def Extends (copies copies' : Copies) : Prop :=
  ∀ i w, copies.lookup i = some w → copies'.lookup i = some w

theorem Extends.refl {copies : Copies} : Extends copies copies := fun _ _ h => h

theorem Extends.trans {c₁ c₂ c₃ : Copies} (h₁ : Extends c₁ c₂) (h₂ : Extends c₂ c₃) :
    Extends c₁ c₃ := fun i w h => h₂ i w (h₁ i w h)

variable {copies copies' : Copies}

/-- The copy of a type all of whose generic variables have copies does not change when there
are more. -/
theorem Extends.subst_eq (h : Extends copies copies')
    (hhas : ∀ v ∈ t.vars, ¬ Pins s pinned v → copies.Has s v) :
    t.subst (renameGeneric s pinned (copies'.target s)) =
      t.subst (renameGeneric s pinned (copies.target s)) := by
  refine Ty.subst_congr fun v hv => ?_
  unfold renameGeneric
  split
  · rfl
  · next hgen =>
    obtain ⟨w, hw⟩ := Option.ne_none_iff_exists'.mp (hhas v hv hgen)
    unfold Copies.target
    rw [hw, h _ _ hw]

theorem Extends.has (h : Extends copies copies') (hhas : copies.Has s v) : copies'.Has s v := by
  obtain ⟨w, hw⟩ := Option.ne_none_iff_exists'.mp hhas
  unfold Copies.Has
  rw [h _ _ hw]
  simp

theorem Copying.look (h : Copying s₀ s copies) (h' : Rights.look.Allows s s') :
    Copying s₀ s' copies where
  allows := h.allows.trans h'.of_look
  new hl := by
    obtain ⟨hnew, hhas, hu⟩ := h.new hl
    exact ⟨hnew, h'.has hhas, h'.unbound _ hhas hu fun hb => hb⟩
  inj := h.inj

/-- A new variable may be added to the copies. -/
theorem Copying.cons (h : Copying s₀ s copies) (i : Nat) :
    Copying s₀ (s.pushNext none).2 ((i, (s.pushNext none).1) :: copies) := by
  have hgrow := allows_pushNext h.allows.valid
  have hnewvar : ∀ {j}, copies.lookup j ≠ some (s.pushNext none).1 := by
    intro j hj
    exact not_has_pushNext none (h.new hj).2.1
  refine ⟨h.allows.trans hgrow, ?_, ?_⟩
  · intro j w hw
    rw [lookup_cons_eq] at hw
    split at hw
    · rw [Option.some.injEq] at hw
      rw [← hw]
      refine ⟨fun hold => not_has_pushNext none (h.allows.has hold), ?_, ?_⟩
      · exact has_pushNext.mpr (.inr rfl)
      · exact binding_pushNext_self none
    · obtain ⟨hnew, hhas, hu⟩ := h.new hw
      exact ⟨hnew, hgrow.has hhas, hgrow.unbound _ hhas hu fun hb => hb⟩
  · intro j k w hj hk
    rw [lookup_cons_eq] at hj hk
    split at hj <;> split at hk
    · omega
    · rw [← hj] at hk
      exact absurd hk hnewvar
    · rw [← hk] at hj
      exact absurd hj hnewvar
    · exact h.inj hj hk

theorem copyVar_ends (h : Copying s₀ s copies) (hv : s₀.Has v) {E : Error → Store × Copies → Prop} :
    Ends (copyVar v) (s, copies)
      (fun w p => Copying s₀ p.1 p.2 ∧ Extends copies p.2 ∧ Rights.grow.Allows s p.1 ∧
        p.2.Has s₀ v ∧ w = p.2.target s₀ v)
      E := by
  have hid : s.idOf v = s₀.idOf v := h.allows.idOf_eq v hv
  unfold copyVar
  rw [ends_modifyGet]
  simp only [hid]
  cases hl : copies.lookup (s₀.idOf v) with
  | some w =>
    exact ⟨h, .refl, .refl h.allows.valid, by simp [Copies.Has, hl], by simp [Copies.target, hl]⟩
  | none =>
    refine ⟨h.cons _, fun i w hw => ?_, allows_pushNext h.allows.valid,
      by simp [Copies.Has], by simp [Copies.target]⟩
    have hne : (i == s₀.idOf v) = false := by
      rw [beq_eq_false_iff_ne]
      rintro rfl
      rw [hl] at hw
      exact nomatch hw
    rw [List.lookup_cons, hne]
    exact hw

/-- What is known of a type that has been copied, when the type has the view `t`. -/
def Copied (s₀ : Store) (pinned : List Ty) (t r : Ty) (copies : Copies) : Prop :=
  (∀ v ∈ t.vars, ¬ Pins s₀ pinned v → copies.Has s₀ v) ∧
    r = t.subst (renameGeneric s₀ pinned (copies.target s₀))

theorem Copied.later {r : Ty} (h : Copied s₀ pinned t r copies) (he : Extends copies copies') :
    Copied s₀ pinned t r copies' :=
  ⟨fun v hv hgen => he.has (h.1 v hv hgen), h.2.trans (he.subst_eq h.1).symm⟩

/-- Components that have been copied make an operator that has been copied. -/
theorem Copied.con {name : String} {ts rs : List Ty}
    (h : List.Forall₂ (Copied s₀ pinned · · copies) ts rs) :
    Copied s₀ pinned (.con name ts) (.con name rs) copies := by
  have hmem : ∀ t ∈ ts, ∀ v ∈ t.vars, ¬ Pins s₀ pinned v → copies.Has s₀ v := by
    induction h with
    | nil => simp
    | cons h _ ih =>
      intro t ht
      rcases List.mem_cons.mp ht with rfl | ht
      · exact h.1
      · exact ih t ht
  have hmap : rs = ts.map (Ty.subst (renameGeneric s₀ pinned (copies.target s₀))) := by
    induction h with
    | nil => rfl
    | cons h _ ih =>
      rw [List.map_cons, h.2, ih fun t ht => hmem t (List.mem_cons_of_mem _ ht)]
  refine ⟨fun v hv => ?_, by rw [Ty.subst_con, hmap]⟩
  obtain ⟨t, ht, hv⟩ := Ty.mem_vars_con.mp hv
  exact hmem t ht v hv

/-- A variable is copied if it is generic and stays as it is if it is pinned. -/
theorem copyIfGeneric_ends (hs₀ : s₀.Valid) (hp : ∀ p ∈ pinned, s₀.Holds p)
    (hc : Copying s₀ s copies) (hv : s₀.Has v) {E : Error → Store × Copies → Prop} :
    Ends (do if ← isGeneric v pinned then return .var (← copyVar v) else return .var v : CopyM Ty)
      (s, copies)
      (fun r p => Copying s₀ p.1 p.2 ∧ Extends copies p.2 ∧ Rights.grow.Allows s p.1 ∧
        Copied s₀ pinned (.var v) r p.2)
      E := by
  simp only [ends_bind, ends_lift]
  refine (isGeneric_ends hc.allows.valid (fun p hmem => hc.allows.holds (hp p hmem)) v).mono
    ?_ (fun _ _ h => h.elim)
  rintro b s₁ ⟨hb, h₁⟩
  -- what is pinned now was pinned when copying began
  have hgen : b = decide (¬ Pins s₀ pinned v) := by
    rw [hb]
    simp only [hc.allows.pins_iff (fun _ hb => hb) hs₀ hp]
  cases b with
  | true =>
    have hgen : ¬ Pins s₀ pinned v := of_decide_eq_true hgen.symm
    rw [if_pos rfl, ends_bind]
    refine (copyVar_ends (hc.look h₁) hv).mono (fun w p h => ?_) (fun _ _ h => h)
    obtain ⟨hc₂, hext, h₂, hhas, rfl⟩ := h
    refine ⟨hc₂, hext, h₁.of_look.trans h₂, ?_, ?_⟩
    · intro x hx _
      rw [Ty.vars_var, List.mem_singleton] at hx
      rwa [hx]
    · rw [Ty.subst_var, renameGeneric, if_neg hgen]
  | false =>
    have hpin : Pins s₀ pinned v := not_not.mp (of_decide_eq_false hgen.symm)
    rw [if_neg (by simp), ends_pure]
    refine ⟨hc.look h₁, .refl, h₁.of_look, ?_, ?_⟩
    · simp [hpin]
    · rw [Ty.subst_var, renameGeneric, if_pos hpin]

theorem copyTo_ends (hs₀ : s₀.Valid) (hp : ∀ p ∈ pinned, s₀.Holds p) {steps : Nat} :
    ∀ {s : Store} {copies : Copies} {t : Ty}, Copying s₀ s copies → s.Holds t →
      (∀ v ∈ (s.view t).vars, s₀.Has v) → (s.view t).height < steps →
      Ends (copyTo pinned steps t) (s, copies)
        (fun r p => Copying s₀ p.1 p.2 ∧ Extends copies p.2 ∧
          Rights.grow.Allows s p.1 ∧ Copied s₀ pinned (s.view t) r p.2)
        (fun _ p => Rights.grow.Allows s p.1 ∧ ¬ (s.view t).Plain) := by
  induction steps with
  | zero => exact fun _ _ _ h => absurd h (Nat.not_lt_zero _)
  | succ steps ih =>
    intro s copies t hc ht hold hsteps
    have hs := hc.allows.valid
    have hshort := allows_shorten hs ht
    have hc₁ := hc.look hshort
    unfold copyTo
    simp only [ends_bind, ends_lift, ends_prune]
    rcases hs.find_cases ht with ⟨v, hf, _, _, hw⟩ | ⟨name, args, hf, hargs, hw⟩ | ⟨hf, hw⟩
    · have hv : s₀.Has v := hold v (by simp [hw])
      rw [hf, hw]
      refine (copyIfGeneric_ends hs₀ hp hc₁ hv).mono ?_ (fun _ _ h => h)
      rintro r p ⟨hc₂, hext, h₂, hr⟩
      exact ⟨hc₂, hext, hshort.of_look.trans h₂, hr⟩
    · rw [hf, hw]
      rw [hw] at hold hsteps
      rw [ends_bind]
      -- a component that has been copied stays copied while the others are
      refine (Ends.mapM (R := fun u r p => Copied s₀ pinned (s.view u) r p.2)
        (I := fun p => Copying s₀ p.1 p.2 ∧ Extends copies p.2 ∧ Rights.grow.Allows s p.1)
        (fun u hu p hp => ?_) ⟨hc₁, .refl, hshort.of_look⟩).mono ?_ (fun _ _ h => h)
      · obtain ⟨hc₂, hext, h₂⟩ := hp
        obtain ⟨hholds, hview, hlt⟩ := h₂.component (fun _ h => h) hs hargs hsteps hu
        refine (ih hc₂ hholds (fun v hv => hold v ?_) hlt).mono ?_ ?_
        · rw [hview] at hv
          exact mem_vars_con_view.mpr ⟨u, hu, hv⟩
        · rintro r p' ⟨hc₃, hext', h₃, hr⟩
          rw [hview] at hr
          exact ⟨⟨hc₃, hext.trans hext', h₂.trans h₃⟩, hr, fun _ _ h => h.later hext'⟩
        · rintro _ p' ⟨h₃, hplain⟩
          rw [hview] at hplain
          exact ⟨h₂.trans h₃, fun hall => hplain (plain_con_view.mp hall u hu)⟩
      · rintro rs p ⟨⟨hc₂, hext, h₂⟩, hrs, _⟩
        refine ⟨hc₂, hext, h₂, .con ?_⟩
        rwa [List.forall₂_map_left_iff]
    · rw [hf, hw]
      exact ⟨hshort.of_look, Ty.not_plain_bare⟩

/-- Copying a type makes a copy of it, unless the bare type occurs in its view. -/
theorem fresh_ends (hs : s.Valid) (ht : s.Holds t) (hp : ∀ p ∈ pinned, s.Holds p) :
    Ends (fresh t pinned) s (fun r s' => ∃ f, CopyOf s pinned t f r s')
      (fun _ s' => Rights.grow.Allows s s' ∧ ¬ (s.view t).Plain) := by
  have hstart : Copying s s [] := ⟨.refl hs, nofun, nofun⟩
  unfold fresh
  rw [ends_bind, ends_stepsFor, ends_within]
  refine (copyTo_ends hs hp hstart ht (hs.holds_view ht)
    (hs.height_view_lt_depthBound ht (by simp))).mono ?_ (fun _ _ h => h)
  rintro r p ⟨hc, _, _, hhas, hr⟩
  refine ⟨p.2.target s, hc.allows, hr, ?_, ?_⟩
  · intro v hv hgen
    obtain ⟨w, hw⟩ := Option.ne_none_iff_exists'.mp (hhas v hv hgen)
    have htarget : p.2.target s v = w := by
      unfold Copies.target
      rw [hw, Option.getD_some]
    rw [htarget]
    exact hc.new hw
  · intro hn v hv w hw hgv hgw heq
    obtain ⟨v', hv'⟩ := Option.ne_none_iff_exists'.mp (hhas v hv hgv)
    obtain ⟨w', hw'⟩ := Option.ne_none_iff_exists'.mp (hhas w hw hgw)
    unfold Copies.target at heq
    rw [hv', hw', Option.getD_some, Option.getD_some] at heq
    rw [heq] at hv'
    exact hn.idOf_inj v w (hs.holds_view ht v hv) (hs.holds_view ht w hw) (hc.inj hv' hw')

/-- Whatever is to be put in place of the generic variables of a type can be put in place of the new
variables of its copy. -/
theorem CopyOf.exists_subst {f : Var → Var} {r : Ty} (h : CopyOf s pinned t f r s') (hs : s.Valid)
    (hn : s.Numbered) (ht : s.Holds t) {θ ρ : Var → Ty}
    (hρ : ∀ v ∈ (s.view t).vars, Pins s pinned v → ρ v = θ v) :
    ∃ θ', (∀ v, s.Has v → θ' v = θ v) ∧ r.subst θ' = (s.view t).subst ρ := by
  classical
  let θ' (w : Var) : Ty :=
    if s.Has w then θ w
    else if hw : ∃ v ∈ (s.view t).vars, ¬ Pins s pinned v ∧ f v = w then ρ hw.choose else .var w
  refine ⟨θ', fun v hv => if_pos hv, ?_⟩
  rw [h.eq_subst, Ty.subst_subst]
  refine Ty.subst_congr fun v hv => ?_
  unfold renameGeneric
  split
  · next hpin =>
    rw [Ty.subst_var, hρ v hv hpin]
    exact if_pos (hs.holds_view ht v hv)
  · next hgen =>
    have hex : ∃ w ∈ (s.view t).vars, ¬ Pins s pinned w ∧ f w = f v := ⟨v, hv, hgen, rfl⟩
    obtain ⟨hmem, hgen', heq⟩ := hex.choose_spec
    have hchoose : hex.choose = v := h.inj hn _ hmem v hv hgen' hgen heq
    rw [Ty.subst_var]
    show (if s.Has (f v) then _ else _) = _
    rw [if_neg (h.new v hv hgen).1, dif_pos hex, hchoose]

end LetPoly
