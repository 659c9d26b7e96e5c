import LetPoly.Proofs.Change
import LetPoly.Proofs.Outcome
import LetPoly.Unify

/-!
# Looking at types

`prune`, `occurs`, `showType` and the failures of unification shorten chains and do nothing else to
the store. The steps that they count are never used up in a valid store.

* `ends_prune` — the representative and the store with the chain shortened
* `occurs_ends`, `occursAny_ends` — the occurrence test decides whether a variable is in a view
* `showType_ends` — showing a type fails only if the bare type occurs in its view
* `nameVariables_ends` — naming never fails and changes nothing but labels
-/

namespace LetPoly

open Store

variable {s : Store} {t u : Ty} {v : Var}

@[simp] theorem ends_prune {Q : Ty → Store → Prop} {E : Error → Store → Prop} :
    Ends (prune t) s Q E ↔ Q (s.find t) (s.shorten t) := Iff.rfl

@[simp] theorem ends_newVar {Q : Var → Store → Prop} {E : Error → Store → Prop} :
    Ends newVar s Q E ↔ Q (s.pushNext none).1 (s.pushNext none).2 := Iff.rfl

@[simp] theorem ends_stepsFor {ts : List Ty} {Q : Nat → Store → Prop}
    {E : Error → Store → Prop} : Ends (stepsFor ts) s Q E ↔ Q (s.depthBound ts) s := Iff.rfl

/-- The steps that are counted for a type are enough for its view. -/
theorem Store.Valid.height_view_lt_depthBound (hs : s.Valid) (ht : s.Holds t) {ts : List Ty}
    (hmem : t ∈ ts) : (s.view t).height < s.depthBound ts :=
  Nat.lt_of_le_of_lt (hs.height_view_le ht) (s.lt_depthBound hmem)

/-- A component of an operator, seen from any store that is reached without binding: its view is
the same, and steps that are enough for the operator are, less one, enough for it. -/
theorem Rights.Allows.component {r : Rights} {s s' : Store} (h : r.Allows s s')
    (hr : ∀ v, ¬ r.bind v) (hs : s.Valid) {name : String} {args : List Ty} {steps : Nat}
    (hargs : ∀ u ∈ args, s.Holds u)
    (hsteps : (Ty.con name (args.map s.view)).height < steps + 1) {u : Ty} (hu : u ∈ args) :
    s'.Holds u ∧ s'.view u = s.view u ∧ (s'.view u).height < steps := by
  have hview : s'.view u = s.view u := h.view_eq hr hs (hargs u hu)
  have hlt : (s.view u).height < (Ty.con name (args.map s.view)).height :=
    Ty.height_lt_of_mem (List.mem_map_of_mem hu)
  refine ⟨h.holds (hargs u hu), hview, ?_⟩
  rw [hview]
  omega

theorem mem_vars_con_view {s : Store} {name : String} {args : List Ty} {v : Var} :
    v ∈ (Ty.con name (args.map s.view)).vars ↔ ∃ u ∈ args, v ∈ (s.view u).vars := by
  simp [Ty.mem_vars_con]

theorem plain_con_view {s : Store} {name : String} {args : List Ty} :
    (Ty.con name (args.map s.view)).Plain ↔ ∀ u ∈ args, (s.view u).Plain := by
  simp [Ty.plain_con_iff]

/-! ## Occurrence -/

theorem occursTo_ends (v : Var) {steps : Nat} : ∀ {s : Store} {t : Ty}, s.Valid → s.Holds t →
    (s.view t).height < steps →
    Ends (occursTo v steps t) s
      (fun b s' => b = decide (v ∈ (s.view t).vars) ∧ Rights.look.Allows s s')
      (fun _ _ => False) := by
  induction steps with
  | zero => exact fun _ _ h => absurd h (Nat.not_lt_zero _)
  | succ steps ih =>
    intro s t hs ht hsteps
    have hshort := allows_shorten hs ht
    unfold occursTo
    simp only [ends_bind, ends_prune]
    rcases hs.find_cases ht with ⟨w, hf, _, _, hw⟩ | ⟨name, args, hf, hargs, hw⟩ | ⟨hf, hw⟩
    · rw [hf, hw]
      exact ⟨by simp [eq_comm], hshort⟩
    · rw [hf]
      rw [hw] at hsteps
      have hany := Ends.anyM (p := occursTo v steps) (P := fun u => v ∈ (s.view u).vars)
        (I := Rights.look.Allows s) (l := args) (E := fun _ _ => False) ?_ hshort
      · refine hany.mono ?_ (fun _ _ h => h)
        rintro b s' ⟨hb, hs'⟩
        refine ⟨?_, hs'⟩
        simp only [hb, hw, mem_vars_con_view]
      · intro u hu s₁ hs₁
        obtain ⟨hholds, hview, hlt⟩ := hs₁.component (fun _ h => h) hs hargs hsteps hu
        refine (ih hs₁.valid hholds hlt).mono ?_ (fun _ _ h => h)
        rintro b s' ⟨hb, hs'⟩
        rw [hview] at hb
        exact ⟨hb, hs₁.trans hs'⟩
    · rw [hf, hw]
      exact ⟨by simp, hshort⟩

/-- The occurrence test decides whether the variable is in the view of the type. -/
theorem occurs_ends (hs : s.Valid) (ht : s.Holds t) (v : Var) :
    Ends (occurs v t) s
      (fun b s' => b = decide (v ∈ (s.view t).vars) ∧ Rights.look.Allows s s')
      (fun _ _ => False) := by
  unfold occurs
  rw [ends_bind, ends_stepsFor]
  exact occursTo_ends v hs ht (hs.height_view_lt_depthBound ht (by simp))

/-- The test for several types decides whether the variable is in one of their views. -/
theorem occursAny_ends (hs : s.Valid) {ts : List Ty} (hts : ∀ t ∈ ts, s.Holds t) (v : Var) :
    Ends (occursAny v ts) s
      (fun b s' => b = decide (∃ t ∈ ts, v ∈ (s.view t).vars) ∧ Rights.look.Allows s s')
      (fun _ _ => False) := by
  refine Ends.anyM (fun t ht s₁ hs₁ => ?_) (.refl hs)
  have hview : s₁.view t = s.view t := hs₁.view_eq (fun _ h => h) hs (hts t ht)
  refine (occurs_ends hs₁.valid (hs₁.holds (hts t ht)) v).mono (fun b s' ⟨hb, hs'⟩ => ?_)
    (fun _ _ h => h)
  rw [hview] at hb
  exact ⟨hb, hs₁.trans hs'⟩

/-! ## Showing -/

theorem labelOf_ends (v : Var) {s : Store} {namer : Namer} (hs : s.Valid)
    {E : Error → Store × Namer → Prop} :
    Ends (labelOf v) (s, namer) (fun _ p => Rights.look.Allows s p.1) E := by
  unfold labelOf
  rw [ends_modifyGet]
  dsimp only
  split <;> exact .refl hs

theorem showTo_ends {steps : Nat} : ∀ {s : Store} {namer : Namer} {t : Ty}, s.Valid → s.Holds t →
    (s.view t).height < steps →
    Ends (showTo steps t) (s, namer)
      (fun _ p => Rights.look.Allows s p.1)
      (fun _ p => Rights.look.Allows s p.1 ∧ ¬ (s.view t).Plain) := by
  induction steps with
  | zero => exact fun _ _ h => absurd h (Nat.not_lt_zero _)
  | succ steps ih =>
    intro s namer t hs ht hsteps
    have hshort := allows_shorten hs ht
    -- a component, from any store that looking has led to
    have hpart : ∀ (name : String) (args : List Ty), s.view t = .con name (args.map s.view) →
        (∀ u ∈ args, s.Holds u) → ∀ u ∈ args, ∀ p : Store × Namer, Rights.look.Allows s p.1 →
          Ends (showTo steps u) p (fun _ p' => Rights.look.Allows s p'.1)
            (fun _ p' => Rights.look.Allows s p'.1 ∧ ¬ (s.view t).Plain) := by
      intro name args hw hargs u hu p hp
      rw [hw] at hsteps
      obtain ⟨hholds, hview, hlt⟩ := hp.component (fun _ h => h) hs hargs hsteps hu
      refine (ih hp.valid hholds hlt).mono (fun _ _ h => hp.trans h) ?_
      rintro _ p' ⟨h, hplain⟩
      refine ⟨hp.trans h, fun hall => hplain ?_⟩
      rw [hview]
      rw [hw, plain_con_view] at hall
      exact hall u hu
    unfold showTo
    simp only [ends_bind, ends_lift, ends_prune]
    rcases hs.find_cases ht with ⟨w, hf, _, _, hw⟩ | ⟨name, args, hf, hargs, hw⟩ | ⟨hf, hw⟩
    · rw [hf]
      exact (labelOf_ends w hshort.valid).mono (fun _ _ h => hshort.trans h) (fun _ _ h => h)
    · rw [hf]
      have hpart := hpart name args hw hargs
      split
      · next h => cases h
      · next arg result heq =>
        obtain ⟨rfl, rfl⟩ := Ty.con.inj heq
        rw [ends_bind]
        refine (hpart arg (by simp) _ hshort).mono (fun _ p₁ h₁ => ?_) (fun _ _ h => h)
        simp only [ends_bind]
        have h₂ := allows_shorten h₁.valid (h₁.holds (hargs arg (by simp)))
        refine (hpart result (by simp) (_, _) (h₁.trans h₂)).mono (fun _ _ h => h) ?_
        exact fun _ _ h => h
      · exact hshort
      · next name' args' _ _ heq =>
        obtain ⟨rfl, rfl⟩ := Ty.con.inj heq
        rw [ends_bind]
        refine (Ends.mapM (I := fun p => Rights.look.Allows s p.1) (R := fun _ _ _ => True)
          (fun u hu p hp => ?_) hshort).mono (fun _ _ h => ends_pure.mpr h.1) (fun _ _ h => h)
        exact (hpart u hu p hp).mono (fun _ _ h => ⟨h, trivial, fun _ _ h => h⟩) (fun _ _ h => h)
      · next h => cases h
    · rw [hf, hw]
      exact ⟨hshort, Ty.not_plain_bare⟩

/-- Showing a type fails only if the bare type occurs in its view. -/
theorem showType_ends {namer : Namer} (hs : s.Valid) (ht : s.Holds t) :
    Ends (showType t) (s, namer)
      (fun _ p => Rights.look.Allows s p.1)
      (fun _ p => Rights.look.Allows s p.1 ∧ ¬ (s.view t).Plain) := by
  unfold showType
  simp only [ends_bind, ends_lift, ends_stepsFor]
  exact showTo_ends hs ht (hs.height_view_lt_depthBound ht (by simp))

/-- Showing two types with one namer. -/
theorem showBoth_ends {namer : Namer} (hs : s.Valid) (ht : s.Holds t) (hu : s.Holds u) :
    Ends (do let left ← showType t; let right ← showType u; return (left, right) : LabelM _)
      (s, namer)
      (fun _ p => Rights.look.Allows s p.1)
      (fun _ p => Rights.look.Allows s p.1 ∧ ¬ ((s.view t).Plain ∧ (s.view u).Plain)) := by
  simp only [ends_bind, ends_pure]
  refine (showType_ends hs ht).mono (fun _ p hp => ?_) (fun _ _ h => ⟨h.1, fun hp => h.2 hp.1⟩)
  refine (showType_ends hp.valid (hp.holds hu)).mono (fun _ _ h => hp.trans h) ?_
  rintro _ _ ⟨h, hplain⟩
  refine ⟨hp.trans h, fun hall => hplain ?_⟩
  rw [hp.view_eq (fun _ h => h) hs hu]
  exact hall.2

/-! ## Storing labels -/

theorem Rights.Allows.mark_mono {s s' : Store} {vs ws : List Var} (h : (Rights.mark vs).Allows s s')
    (hsub : ∀ v ∈ vs, v ∈ ws) : (Rights.mark ws).Allows s s' :=
  h.mono (fun _ _ hb => hb) (fun _ _ hb => hb) (fun hb => hb) (fun hm => hm) (fun hn => hn) hsub

theorem nameTo_ends {steps : Nat} : ∀ {s : Store} {namer : Namer} {t : Ty}, s.Valid → s.Holds t →
    (s.view t).height < steps →
    Ends (nameTo steps t) (s, namer) (fun _ p => (Rights.mark (s.view t).vars).Allows s p.1)
      (fun _ _ => False) := by
  induction steps with
  | zero => exact fun _ _ h => absurd h (Nat.not_lt_zero _)
  | succ steps ih =>
    intro s namer t hs ht hsteps
    have hshort : (Rights.mark (s.view t).vars).Allows s (s.shorten t) :=
      (allows_shorten hs ht).of_look
    unfold nameTo
    simp only [ends_bind, ends_lift, ends_prune]
    rcases hs.find_cases ht with ⟨w, hf, hhas, _, hw⟩ | ⟨name, args, hf, hargs, hw⟩ | ⟨hf, hw⟩
    · rw [hf]
      simp only [ends_bind, ends_get]
      split
      · rw [ends_bind]
        refine (labelOf_ends w hshort.valid).mono (fun label p hp => ?_) (fun _ _ h => h)
        have h₂ := hshort.trans hp.of_look
        refine h₂.trans ?_
        rw [hw, Ty.vars_var]
        exact allows_setLabel hp.valid (h₂.has hhas) label
      · exact hshort
    · rw [hf]
      rw [hw] at hsteps
      refine Ends.forM (I := fun p : Store × Namer => (Rights.mark (s.view t).vars).Allows s p.1)
        (fun u hu p hp => ?_) hshort
      obtain ⟨hholds, hview, hlt⟩ := hp.component (fun _ h => h) hs hargs hsteps hu
      refine (ih hp.valid hholds hlt).mono (fun _ _ h => hp.trans (h.mark_mono ?_)) (fun _ _ h => h)
      intro v hv
      rw [hview] at hv
      rw [hw, mem_vars_con_view]
      exact ⟨u, hu, hv⟩
    · rw [hf]
      exact hshort

/-- Naming the variables of a type never fails and changes nothing but their labels. -/
theorem nameVariables_ends {namer : Namer} (hs : s.Valid) (ht : s.Holds t) :
    Ends (nameVariables t) (s, namer)
      (fun r p => r = s.find t ∧ (Rights.mark (s.view t).vars).Allows s p.1)
      (fun _ _ => False) := by
  have hshort := allows_shorten hs ht
  have hfind : (s.shorten t).Holds (s.find t) := hshort.holds (hs.find_spec ht).1
  unfold nameVariables
  simp only [ends_bind, ends_lift, ends_prune, ends_stepsFor, ends_pure]
  have hview : (s.shorten t).view (s.find t) = s.view t := by
    rw [hshort.view_eq (fun _ hb => hb) hs (hs.find_spec ht).1, hs.view_find ht]
  refine (nameTo_ends hshort.valid hfind ?_).mono (fun _ _ h => ⟨trivial, ?_⟩) (fun _ _ h => h)
  · exact hshort.valid.height_view_lt_depthBound hfind (by simp)
  · rw [hview] at h
    exact hshort.of_look.trans h

/-! ## Failures of unification -/

/-- The failure is one of the two conflicts that unification can meet. -/
def Error.IsConflict : Error → Prop
  | .mismatch .. | .recursive .. => True
  | _ => False

/-- A mismatch is reported as such unless one of the types cannot be shown. -/
theorem throwMismatch_ends_mismatch {α : Type} {Q : α → Store → Prop} (hs : s.Valid)
    (ht : s.Holds t) (hu : s.Holds u) :
    Ends (throwMismatch t u) s Q (fun e s' => Rights.look.Allows s s' ∧
      ((s.view t).Plain ∧ (s.view u).Plain → ∃ left right, e = .mismatch left right)) := by
  unfold throwMismatch
  rw [ends_bind, ends_within]
  refine (showBoth_ends hs ht hu).mono (fun _ _ h => ⟨h, fun _ => ⟨_, _, rfl⟩⟩) ?_
  exact fun _ _ h => ⟨h.1, fun hp => absurd hp h.2⟩

theorem throwMismatch_ends {α : Type} {Q : α → Store → Prop} (hs : s.Valid) (ht : s.Holds t)
    (hu : s.Holds u) :
    Ends (throwMismatch t u) s Q (fun e s' => Rights.look.Allows s s' ∧
      ((s.view t).Plain ∧ (s.view u).Plain → e.IsConflict)) := by
  refine (throwMismatch_ends_mismatch hs ht hu).mono (fun _ _ h => h) ?_
  rintro e s' ⟨hlook, he⟩
  refine ⟨hlook, fun hp => ?_⟩
  obtain ⟨left, right, rfl⟩ := he hp
  trivial

/-- A variable in its own type is reported as such unless the type cannot be shown. -/
theorem throwRecursive_ends_recursive {α : Type} {Q : α → Store → Prop} (hs : s.Valid)
    (hv : s.Has v) (ht : s.Holds t) :
    Ends (throwRecursive v t) s Q (fun e s' => Rights.look.Allows s s' ∧
      ((s.view (.var v)).Plain ∧ (s.view t).Plain → ∃ label type, e = .recursive label type)) := by
  unfold throwRecursive
  rw [ends_bind, ends_within]
  refine (showBoth_ends hs (holds_var.mpr hv) ht).mono (fun _ _ h => ⟨h, fun _ => ⟨_, _, rfl⟩⟩) ?_
  exact fun _ _ h => ⟨h.1, fun hp => absurd hp h.2⟩

theorem throwRecursive_ends {α : Type} {Q : α → Store → Prop} (hs : s.Valid) (hv : s.Has v)
    (ht : s.Holds t) :
    Ends (throwRecursive v t) s Q (fun e s' => Rights.look.Allows s s' ∧
      ((s.view (.var v)).Plain ∧ (s.view t).Plain → e.IsConflict)) := by
  refine (throwRecursive_ends_recursive hs hv ht).mono (fun _ _ h => h) ?_
  rintro e s' ⟨hlook, he⟩
  refine ⟨hlook, fun hp => ?_⟩
  obtain ⟨label, type, rfl⟩ := he hp
  trivial

end LetPoly
