import LetPoly.Proofs.Alike
import LetPoly.Proofs.Twins

/-!
# Operations on twins

An operation that is run on two stores that belong together, with arguments that belong together,
ends in the same way on both and leaves stores that belong together: the same texts, the same
answers, the same failures, and types that belong together. The numbers of steps may differ, since
they depend on what nobody can see.

* `showType_alike`, `nameVariables_alike` — texts are equal, and so are stored labels
* `occurs_alike`, `occursAny_alike`, `isGeneric_alike` — the order of several types does not count
* `unify_alike` — the same bindings or the same conflict
* `fresh_alike` — copies that belong together
-/

namespace LetPoly

open Store

variable {π : Pairing} {s s' s₁ s₁' : Store} {t t' u u' : Ty} {v : Var}

/-- The steps that are counted for two types that belong together are enough for both. -/
theorem Same.height_lt_depthBound (h : Same π s s' t t') (hs : s.Valid) (hs' : s'.Valid) :
    (s.view t).height < s.depthBound [t] ∧ (s.view t).height < s'.depthBound [t'] := by
  have hlt' : (s'.view t').height < s'.depthBound [t'] :=
    hs'.height_view_lt_depthBound h.holds' (by simp)
  rw [h.height_eq] at hlt'
  exact ⟨hs.height_view_lt_depthBound h.holds (by simp), hlt'⟩

/-! ## Looking for a variable -/

theorem prune_alike (h : Twins π s s') (ht : Same π s s' t t') :
    Alike (prune t) s (prune t') s'
      (fun r r' s₁ s₁' => Moved .look π s s' s₁ s₁' ∧ Same π s₁ s₁' r r') (fun _ _ => False) := by
  have hmoved := h.shorten ht
  rw [alike_prune]
  refine ⟨hmoved, hmoved.same
    ⟨(h.valid.find_spec ht.holds).1, (h.valid'.find_spec ht.holds').1, ?_⟩⟩
  rw [h.valid.view_find ht.holds, h.valid'.view_find ht.holds']
  exact ht.takes

theorem occurs_alike (h : Twins π s s') (ht : Same π s s' t t') (hd : π.dom v) :
    Alike (occurs v t) s (occurs (π.partner v) t') s'
      (fun b b' s₁ s₁' => b' = b ∧ b = decide (v ∈ (s.view t).vars) ∧ Moved .look π s s' s₁ s₁')
      (fun _ _ => False) := by
  refine (Alike.of_ends (occurs_ends h.valid ht.holds v) (occurs_ends h.valid' ht.holds' _)).mono
    ?_ (fun _ _ h => h)
  rintro _ _ s₁ s₁' ⟨⟨rfl, ha⟩, rfl, ha'⟩
  exact ⟨decide_eq_decide.mpr (ht.takes.mem_vars_iff hd), rfl, h.look ha ha'⟩

/-- The two lists have types that belong together, in any order and number. -/
structure SameMembers (π : Pairing) (s s' : Store) (ts ts' : List Ty) : Prop where
  left : ∀ t ∈ ts, ∃ t' ∈ ts', Same π s s' t t'
  right : ∀ t' ∈ ts', ∃ t ∈ ts, Same π s s' t t'

variable {ts ts' : List Ty}

theorem sameMembers_nil : SameMembers π s s' [] [] := ⟨nofun, nofun⟩

theorem SameMembers.cons (h : SameMembers π s s' ts ts') (ht : Same π s s' t t') :
    SameMembers π s s' (t :: ts) (t' :: ts') where
  left := by
    refine List.forall_mem_cons.mpr ⟨⟨t', by simp, ht⟩, fun u hu => ?_⟩
    obtain ⟨u', hu', hsame⟩ := h.left u hu
    exact ⟨u', by simp [hu'], hsame⟩
  right := by
    refine List.forall_mem_cons.mpr ⟨⟨t, by simp, ht⟩, fun u' hu' => ?_⟩
    obtain ⟨u, hu, hsame⟩ := h.right u' hu'
    exact ⟨u, by simp [hu], hsame⟩

theorem SameMembers.later {r : Rights} (h : SameMembers π s s' ts ts')
    (hm : Moved r π s s' s₁ s₁') : SameMembers π s₁ s₁' ts ts' where
  left t ht := by
    obtain ⟨t', ht', hsame⟩ := h.left t ht
    exact ⟨t', ht', hm.same hsame⟩
  right t' ht' := by
    obtain ⟨t, ht, hsame⟩ := h.right t' ht'
    exact ⟨t, ht, hm.same hsame⟩

theorem SameMembers.holds (h : SameMembers π s s' ts ts') : ∀ t ∈ ts, s.Holds t := fun t ht =>
  let ⟨_, _, hsame⟩ := h.left t ht
  hsame.holds

theorem SameMembers.holds' (h : SameMembers π s s' ts ts') : ∀ t ∈ ts', s'.Holds t := fun t ht =>
  let ⟨_, _, hsame⟩ := h.right t ht
  hsame.holds'

theorem SameMembers.pins_iff (h : SameMembers π s s' ts ts') (hd : π.dom v) :
    Pins s' ts' (π.partner v) ↔ Pins s ts v := by
  constructor
  · rintro ⟨t', ht', hv⟩
    obtain ⟨t, ht, hsame⟩ := h.right t' ht'
    exact ⟨t, ht, (hsame.takes.mem_vars_iff hd).mp hv⟩
  · rintro ⟨t, ht, hv⟩
    obtain ⟨t', ht', hsame⟩ := h.left t ht
    exact ⟨t', ht', (hsame.takes.mem_vars_iff hd).mpr hv⟩

theorem occursAny_alike (h : Twins π s s') (hts : SameMembers π s s' ts ts') (hd : π.dom v) :
    Alike (occursAny v ts) s (occursAny (π.partner v) ts') s'
      (fun b b' s₁ s₁' => b' = b ∧ Moved .look π s s' s₁ s₁') (fun _ _ => False) := by
  refine (Alike.of_ends (occursAny_ends h.valid hts.holds v)
    (occursAny_ends h.valid' hts.holds' _)).mono ?_ (fun _ _ h => h)
  rintro _ _ s₁ s₁' ⟨⟨rfl, ha⟩, rfl, ha'⟩
  exact ⟨decide_eq_decide.mpr (hts.pins_iff hd), h.look ha ha'⟩

theorem isGeneric_alike (h : Twins π s s') (hts : SameMembers π s s' ts ts') (hd : π.dom v) :
    Alike (isGeneric v ts) s (isGeneric (π.partner v) ts') s'
      (fun b b' s₁ s₁' => b' = b ∧ Moved .look π s s' s₁ s₁') (fun _ _ => False) := by
  unfold isGeneric
  refine .bind ((occursAny_alike h hts hd).mono ?_ (fun _ _ h => h))
  rintro b _ s₁ s₁' ⟨rfl, hm⟩
  exact ⟨rfl, hm⟩

/-! ## Showing -/

/-- The namers have met variables that belong together, in the same order. -/
def NamersAlike (π : Pairing) (namer namer' : Namer) : Prop :=
  List.Forall₂ π.ids namer.ids namer'.ids

variable {namer namer' : Namer}

theorem NamersAlike.letterFor (h : NamersAlike π namer namer') {i i' : Nat} (hi : π.ids i i') :
    (namer'.letterFor i').1 = (namer.letterFor i).1 ∧
      NamersAlike π (namer.letterFor i).2 (namer'.letterFor i').2 := by
  unfold Namer.letterFor
  rw [idxOf?_eq_of_forall₂ π.ids_iff h hi, h.length_eq]
  cases namer.ids.idxOf? i with
  | some k => exact ⟨rfl, h⟩
  | none => exact ⟨rfl, List.rel_append h (.cons hi .nil)⟩

theorem labelOf_alike (h : Twins π s s') (hd : π.dom v) (hv : s.Has v)
    (hn : NamersAlike π namer namer') {E : Store × Namer → Store × Namer → Prop} :
    Alike (labelOf v) (s, namer) (labelOf (π.partner v)) (s', namer')
      (fun l l' p p' => l' = l ∧ p.1 = s ∧ p'.1 = s' ∧ NamersAlike π p.2 p'.2) E := by
  unfold labelOf
  rw [alike_modifyGet]
  simp only [h.label v hd hv]
  cases s.label v with
  | some label => exact ⟨rfl, rfl, rfl, hn⟩
  | none =>
    obtain ⟨hl, hn'⟩ := hn.letterFor (h.ids v hd hv)
    exact ⟨hl, rfl, rfl, hn'⟩

/-- What showing does after it has found the representative of its type. -/
def showFound (steps : Nat) : Ty → LabelM String
  | .var v => labelOf v
  | .con "->" [arg, result] => do
    let left ← showTo steps arg
    let left := if (← prune arg).isFunction then "(" ++ left ++ ")" else left
    let right ← showTo steps result
    return left ++ " -> " ++ right
  | .con name [] => return name
  | .con name args => do
    let texts ← args.mapM (showTo steps)
    return name ++ "(" ++ ", ".intercalate texts ++ ")"
  | .bare => throw .invalidType

theorem showTo_succ (steps : Nat) (t : Ty) :
    showTo (steps + 1) t = (do showFound steps (← prune t)) := rfl

theorem showFound_nil (steps : Nat) (name : String) :
    showFound steps (.con name []) = pure name := by
  unfold showFound
  split <;> simp_all

theorem showFound_con {steps : Nat} {name : String} {args : List Ty} (hne : args ≠ [])
    (hfn : ¬ (name = "->" ∧ args.length = 2)) :
    showFound steps (.con name args) = (do
      let texts ← args.mapM (showTo steps)
      return name ++ "(" ++ ", ".intercalate texts ++ ")") := by
  unfold showFound
  split
  · next h => exact nomatch h
  · next h =>
    obtain ⟨rfl, rfl⟩ := Ty.con.inj h
    exact absurd ⟨rfl, rfl⟩ hfn
  · next h =>
    obtain ⟨rfl, rfl⟩ := Ty.con.inj h
    exact absurd rfl hne
  · next h =>
    obtain ⟨rfl, rfl⟩ := Ty.con.inj h
    rfl
  · next h => exact nomatch h

theorem isFunction_con (name : String) (args : List Ty) :
    (Ty.con name args).isFunction = decide (name = "->" ∧ args.length = 2) := by
  unfold Ty.isFunction
  split
  · next h =>
    obtain ⟨rfl, rfl⟩ := Ty.con.inj h
    rfl
  · next h =>
    refine (decide_eq_false ?_).symm
    rintro ⟨rfl, hlen⟩
    obtain ⟨x, y, rfl⟩ := List.length_eq_two.mp hlen
    exact h x y rfl

theorem Same.isFunction_find (hs : s.Valid) (hs' : s'.Valid) (h : Same π s s' t t') :
    (s'.find t').isFunction = (s.find t).isFunction := by
  rcases h.find_cases hs hs' with ⟨v, hf, hf', _⟩ | ⟨name, args, args', hf, hf', hargs, _⟩
  · rw [hf, hf']
    rfl
  · rw [hf, hf', isFunction_con, isFunction_con, hargs.length_eq]

/-- The computations, from any stores that looking has led to, show the same text. -/
def ShowAlike (π : Pairing) (s s' : Store) (x y : LabelM String) : Prop :=
  ∀ p p' : Store × Namer, Moved .look π s s' p.1 p'.1 → NamersAlike π p.2 p'.2 →
    Alike x p y p'
      (fun text text' q q' => text' = text ∧ Moved .look π s s' q.1 q'.1 ∧ NamersAlike π q.2 q'.2)
      (fun _ _ => False)

/-- An operator is shown alike if its components are. -/
theorem showFound_alike {steps steps' : Nat} {name : String} {args args' : List Ty}
    (hargs : List.Forall₂ (Same π s s') args args')
    (hpart : ∀ u ∈ args, ∀ u', Same π s s' u u' →
      ShowAlike π s s' (showTo steps u) (showTo steps' u')) :
    ShowAlike π s s' (showFound steps (.con name args)) (showFound steps' (.con name args')) := by
  intro p p' hm hn
  by_cases hfn : name = "->" ∧ args.length = 2
  · obtain ⟨rfl, hlen⟩ := hfn
    obtain ⟨arg, result, rfl⟩ := List.length_eq_two.mp hlen
    obtain ⟨arg', _, harg, hrest, rfl⟩ := List.forall₂_cons_left_iff.mp hargs
    obtain ⟨result', _, hresult, hnil, rfl⟩ := List.forall₂_cons_left_iff.mp hrest
    obtain rfl := List.forall₂_nil_left_iff.mp hnil
    refine .bind ((hpart arg (by simp) arg' harg p p' hm hn).mono ?_ (fun _ _ h => h))
    rintro left _ ⟨s₁, n₁⟩ ⟨s₁', n₁'⟩ ⟨rfl, hm₁, hn₁⟩
    -- the argument is looked at again for its parentheses
    have harg₁ := hm₁.same harg
    refine .bind ?_
    rw [alike_lift, alike_prune, harg₁.isFunction_find hm₁.twins.valid hm₁.twins.valid']
    have hm₂ := hm₁.trans (hm₁.twins.shorten harg₁)
    refine .bind ((hpart result (by simp) result' hresult (_, n₁) (_, n₁') hm₂ hn₁).mono ?_
      (fun _ _ h => h))
    rintro right _ q q' ⟨rfl, hq⟩
    exact ⟨rfl, hq⟩
  · by_cases hne : args = []
    · subst hne
      obtain rfl := List.forall₂_nil_left_iff.mp hargs
      rw [showFound_nil, showFound_nil]
      exact ⟨rfl, hm, hn⟩
    · have hne' : args' ≠ [] := by
        rintro rfl
        exact hne (List.forall₂_nil_right_iff.mp hargs)
      rw [showFound_con hne hfn, showFound_con hne' (by rwa [← hargs.length_eq])]
      refine .bind ((Alike.mapM (I := fun p p' => Moved .look π s s' p.1 p'.1 ∧
        NamersAlike π p.2 p'.2) (S := fun text text' _ _ => text = text') hargs
        (fun u hu u' hsame p p' hp => ?_) ⟨hm, hn⟩).mono ?_ (fun _ _ h => h))
      · exact (hpart u hu u' hsame p p' hp.1 hp.2).mono
          (fun _ _ _ _ hq => ⟨hq.2, hq.1.symm, fun _ _ h => h⟩) (fun _ _ h => h)
      · rintro texts texts' q q' ⟨hq, htexts, _⟩
        rw [List.forall₂_eq_eq_eq] at htexts
        rw [alike_pure, htexts]
        exact ⟨rfl, hq⟩

theorem showTo_alike {steps : Nat} : ∀ {steps' : Nat} {s s' : Store} {t t' : Ty}, s.Valid →
    Same π s s' t t' → (s.view t).height < steps → (s.view t).height < steps' →
    ShowAlike π s s' (showTo steps t) (showTo steps' t') := by
  induction steps with
  | zero => exact fun _ _ h => absurd h (Nat.not_lt_zero _)
  | succ steps ih =>
    intro steps' s s' t t' hs ht hsteps hsteps'
    obtain ⟨steps', rfl⟩ : ∃ n, steps' = n + 1 := Nat.exists_eq_succ_of_ne_zero (by omega)
    rintro ⟨s₁, namer⟩ ⟨s₁', namer'⟩ hm hn
    replace hm : Moved .look π s s' s₁ s₁' := hm
    have hview := hm.allows.view_eq (fun _ hb => hb) hs ht.holds
    replace ht : Same π s₁ s₁' t t' := hm.same ht
    rw [← hview] at hsteps hsteps'
    have hm₂ := hm.twins.shorten ht
    rw [showTo_succ, showTo_succ]
    refine .bind ?_
    rw [alike_lift, alike_prune]
    rcases ht.find_cases hm.twins.valid hm.twins.valid' with ⟨v, hf, hf', hd, hv, _⟩ |
      ⟨name, args, args', hf, hf', hargs, hview⟩
    · rw [hf, hf']
      refine (labelOf_alike hm₂.twins hd (hm₂.allows.has hv) hn).mono ?_ (fun _ _ h => h)
      rintro _ _ ⟨_, n⟩ ⟨_, n'⟩ ⟨rfl, rfl, rfl, hn'⟩
      exact ⟨rfl, hm.trans hm₂, hn'⟩
    · rw [hf, hf']
      rw [hview] at hsteps hsteps'
      refine (showFound_alike hargs (fun u hu u' hsame => ?_) (_, namer) (_, namer') hm₂ hn).mono ?_
        (fun _ _ h => h)
      · have hlt : (s₁.view u).height < (Ty.con name (args.map s₁.view)).height :=
          Ty.height_lt_of_mem (List.mem_map_of_mem hu)
        exact ih hm.twins.valid hsame (by omega) (by omega)
      · rintro _ _ q q' ⟨htext, hmq, hnq⟩
        exact ⟨htext, hm.trans hmq, hnq⟩

theorem showType_alike (h : Twins π s s') (hn : NamersAlike π namer namer')
    (ht : Same π s s' t t') :
    Alike (showType t) (s, namer) (showType t') (s', namer')
      (fun text text' p p' => text' = text ∧ Moved .look π s s' p.1 p'.1 ∧ NamersAlike π p.2 p'.2)
      (fun _ _ => False) := by
  unfold showType
  refine .bind ?_
  rw [alike_lift, alike_stepsFor]
  obtain ⟨hsteps, hsteps'⟩ := ht.height_lt_depthBound h.valid h.valid'
  exact showTo_alike h.valid ht hsteps hsteps' (s, namer) (s', namer') h.moved_refl hn

theorem namersAlike_new : NamersAlike π {} {} := .nil

theorem showNew_alike (h : Twins π s s') (ht : Same π s s' t t') :
    Alike (showNew t) s (showNew t') s'
      (fun text text' s₁ s₁' => text' = text ∧ Moved .look π s s' s₁ s₁') (fun _ _ => False) := by
  unfold showNew
  rw [alike_within]
  exact (showType_alike h namersAlike_new ht).mono (fun _ _ _ _ hq => ⟨hq.1, hq.2.1⟩)
    (fun _ _ h => h)

/-! ## Storing labels -/

/-- The rights of a computation that stores labels. -/
abbrev Rights.name : Rights := { label := fun _ => True }

theorem nameTo_alike {steps : Nat} : ∀ {steps' : Nat} {s s' : Store} {namer namer' : Namer}
    {t t' : Ty}, Twins π s s' → NamersAlike π namer namer' → Same π s s' t t' →
    (s.view t).height < steps → (s.view t).height < steps' →
    Alike (nameTo steps t) (s, namer) (nameTo steps' t') (s', namer')
      (fun _ _ p p' => Moved .name π s s' p.1 p'.1 ∧ NamersAlike π p.2 p'.2)
      (fun _ _ => False) := by
  induction steps with
  | zero => exact fun _ _ _ h => absurd h (Nat.not_lt_zero _)
  | succ steps ih =>
    intro steps' s s' namer namer' t t' h hn ht hsteps hsteps'
    obtain ⟨steps', rfl⟩ : ∃ n, steps' = n + 1 := Nat.exists_eq_succ_of_ne_zero (by omega)
    have hm : Moved .name π s s' (s.shorten t) (s'.shorten t') :=
      (h.shorten ht).mono fun ha => ha.of_look
    unfold nameTo
    refine .bind ?_
    rw [alike_lift, alike_prune]
    rcases ht.find_cases h.valid h.valid' with ⟨v, hf, hf', hd, hv, _⟩ |
      ⟨name, args, args', hf, hf', hargs, hview⟩
    · rw [hf, hf']
      have hv₁ := hm.allows.has hv
      refine .bind ?_
      rw [alike_get]
      dsimp only
      rw [hm.twins.label v hd hv₁]
      split
      · refine .bind ((labelOf_alike hm.twins hd hv₁ hn).mono ?_ (fun _ _ h => h))
        rintro label _ ⟨_, n⟩ ⟨_, n'⟩ ⟨rfl, rfl, rfl, hn'⟩
        exact ⟨hm.trans (hm.twins.setLabel hd hv₁ _), hn'⟩
      · exact ⟨hm, hn⟩
    · rw [hf, hf']
      rw [hview] at hsteps hsteps'
      refine Alike.forM (I := fun p p' : Store × Namer => Moved .name π s s' p.1 p'.1 ∧
        NamersAlike π p.2 p'.2) hargs (fun u hu u' hsame p p' hp => ?_) ⟨hm, hn⟩
      have hlt : (p.1.view u).height < (Ty.con name (args.map s.view)).height := by
        rw [hp.1.allows.view_eq (fun _ hb => hb) h.valid hsame.holds]
        exact Ty.height_lt_of_mem (List.mem_map_of_mem hu)
      refine (ih hp.1.twins hp.2 (hp.1.same hsame) (by omega) (by omega)).mono ?_ (fun _ _ h => h)
      exact fun _ _ q q' hq => ⟨hp.1.trans hq.1, hq.2⟩

/-- The same labels are stored for variables that belong together. -/
theorem nameVariables_alike (h : Twins π s s') (hn : NamersAlike π namer namer')
    (ht : Same π s s' t t') :
    Alike (nameVariables t) (s, namer) (nameVariables t') (s', namer')
      (fun r r' p p' => Moved .name π s s' p.1 p'.1 ∧ Same π p.1 p'.1 r r' ∧
        NamersAlike π p.2 p'.2)
      (fun _ _ => False) := by
  unfold nameVariables
  refine .bind ?_
  rw [alike_lift]
  refine (prune_alike h ht).mono ?_ (fun _ _ h => h)
  rintro r r' s₁ s₁' ⟨hm, hr⟩
  obtain ⟨hsteps, hsteps'⟩ := hr.height_lt_depthBound hm.twins.valid hm.twins.valid'
  refine .bind ?_
  rw [alike_lift, alike_stepsFor]
  refine .bind ((nameTo_alike hm.twins hn hr hsteps hsteps').mono ?_ (fun _ _ h => h))
  rintro _ _ p p' ⟨hm₂, hn₂⟩
  exact ⟨(hm.mono fun ha => ha.of_look).trans hm₂, hm₂.same hr, hn₂⟩

/-! ## Conflicts -/

/-- Two types are shown with the same texts by one namer. -/
theorem showBoth_alike (h : Twins π s s') (ht : Same π s s' t t') (hu : Same π s s' u u') :
    Alike (do let left ← showType t; let right ← showType u; return (left, right) : LabelM _)
      (s, {})
      (do let left ← showType t'; let right ← showType u'; return (left, right) : LabelM _) (s', {})
      (fun texts texts' p p' => texts' = texts ∧ Moved .look π s s' p.1 p'.1)
      (fun _ _ => False) := by
  refine .bind ((showType_alike h namersAlike_new ht).mono ?_ (fun _ _ h => h))
  rintro left _ ⟨s₁, n₁⟩ ⟨s₁', n₁'⟩ ⟨rfl, hm, hn⟩
  refine .bind ((showType_alike hm.twins hn (hm.same hu)).mono ?_ (fun _ _ h => h))
  rintro right _ p p' ⟨rfl, hm₂, _⟩
  exact ⟨rfl, hm.trans hm₂⟩

theorem throwMismatch_alike {Q : Unit → Unit → Store → Store → Prop} (h : Twins π s s')
    (ht : Same π s s' t t') (hu : Same π s s' u u') :
    Alike (throwMismatch t u) s (throwMismatch t' u') s' Q
      (fun s₁ s₁' => Moved .look π s s' s₁ s₁') := by
  unfold throwMismatch
  refine .bind ?_
  rw [alike_within]
  refine (showBoth_alike h ht hu).mono ?_ (fun _ _ h => h.elim)
  rintro ⟨left, right⟩ _ p p' ⟨rfl, hm⟩
  exact ⟨rfl, hm⟩

theorem throwRecursive_alike {Q : Unit → Unit → Store → Store → Prop} (h : Twins π s s')
    (hd : π.dom v) (hv : s.Has v) (ht : Same π s s' t t') :
    Alike (throwRecursive v t) s (throwRecursive (π.partner v) t') s' Q
      (fun s₁ s₁' => Moved .look π s s' s₁ s₁') := by
  unfold throwRecursive
  refine .bind ?_
  rw [alike_within]
  refine (showBoth_alike h (h.var v hd hv) ht).mono ?_ (fun _ _ h => h.elim)
  rintro ⟨left, right⟩ _ p p' ⟨rfl, hm⟩
  exact ⟨rfl, hm⟩

/-! ## Unification -/

/-- Two representatives belong together: partners, or operators of one name. -/
inductive Found (π : Pairing) (s s' : Store) : Ty → Ty → Prop
  | var {v : Var} (hd : π.dom v) (hv : s.Has v) (hu : s.binding v = none) :
    Found π s s' (.var v) (.var (π.partner v))
  | con {name : String} {args args' : List Ty} (h : List.Forall₂ (Same π s s') args args') :
    Found π s s' (.con name args) (.con name args')

theorem Same.found (hs : s.Valid) (hs' : s'.Valid) (h : Same π s s' t t') :
    Found π s s' (s.find t) (s'.find t') := by
  rcases h.find_cases hs hs' with ⟨v, hf, hf', hd, hv, hu⟩ |
    ⟨name, args, args', hf, hf', hargs, _⟩
  · rw [hf, hf']
    exact .var hd hv hu
  · rw [hf, hf']
    exact .con hargs

theorem Found.later (h : Found π s s' t t') (hm : Moved .look π s s' s₁ s₁') :
    Found π s₁ s₁' t t' := by
  cases h with
  | var hd hv hu => exact .var hd (hm.allows.has hv) (hm.allows.unbound _ hv hu fun hb => hb)
  | con h => exact .con (h.imp fun _ _ hsame => hm.same hsame)

theorem bindVar_alike (h : Twins π s s') (hd : π.dom v) (hv : s.Has v) (hu : s.binding v = none)
    (ht : Same π s s' t t') (hocc : v ∉ (s.view t).vars) {E : Store → Store → Prop} :
    Alike (bindVar v t) s (bindVar (π.partner v) t') s'
      (fun _ _ s₁ s₁' => Moved .solve π s s' s₁ s₁') E := by
  unfold Alike
  rw [bindVar_ends hu, bindVar_ends (h.unbound hd hv hu)]
  exact h.setBinding hd hv hu ht hocc

/-- A variable and its partner are bound alike, or found to occur alike. -/
theorem assign_alike (h : Twins π s s') (hd : π.dom v) (hv : s.Has v) (hu : s.binding v = none)
    (ht : Found π s s' t t') :
    Alike (assign v t) s (assign (π.partner v) t') s'
      (fun _ _ s₁ s₁' => Moved .solve π s s' s₁ s₁')
      (fun s₁ s₁' => Moved .solve π s s' s₁ s₁') := by
  cases ht with
  | @var w hdw hw huw =>
    show Alike (if w = v then pure () else bindVar v (.var w)) s
      (if π.partner w = π.partner v then pure () else bindVar (π.partner v) (.var (π.partner w)))
      s' _ _
    by_cases hwv : w = v
    · rw [if_pos hwv, if_pos (congrArg π.partner hwv)]
      exact h.moved_refl
    · rw [if_neg hwv, if_neg fun heq => hwv (π.partner_inj hdw hd heq)]
      refine bindVar_alike h hd hv hu (h.var w hdw hw) ?_
      rw [view_var_of_unbound huw, Ty.vars_var, List.mem_singleton]
      exact fun heq => hwv heq.symm
  | @con name args args' hargs =>
    have hsame : Same π s s' (.con name args) (.con name args') := same_con h.valid h.valid' hargs
    refine .bind ((occurs_alike h hsame hd).mono ?_ (fun _ _ h => h.elim))
    rintro _ b s₁ s₁' ⟨rfl, hb, hm⟩
    have hm' : Moved .solve π s s' s₁ s₁' := hm.mono fun ha => ha.of_look
    cases b with
    | true =>
      rw [if_pos rfl, if_pos rfl]
      refine (throwRecursive_alike hm.twins hd (hm.allows.has hv) (hm.same hsame)).mono
        (fun _ _ _ _ h => h) (fun _ _ hm₂ => ?_)
      exact hm'.trans (hm₂.mono fun ha => ha.of_look)
    | false =>
      have hocc : v ∉ (s₁.view (.con name args)).vars := by
        rw [hm.allows.view_eq (fun _ hb => hb) h.valid hsame.holds]
        exact of_decide_eq_false hb.symm
      rw [if_neg (by simp), if_neg (by simp)]
      refine (bindVar_alike hm.twins hd (hm.allows.has hv)
        (hm.allows.unbound v hv hu fun hb => hb) (hm.same hsame) hocc).mono ?_ (fun _ _ h => h)
      exact fun _ _ _ _ hm₂ => hm'.trans hm₂

/-- With the given numbers of steps unification does the same to every two equations that belong
together and fit. -/
def Tandem (π : Pairing) (height height' steps steps' : Nat) : Prop :=
  ∀ {s s' : Store} {t t' u u' : Ty}, Twins π s s' → s.height ≤ height → s'.height ≤ height' →
    Same π s s' t t' → Same π s s' u u' → Fits height steps s t u → Fits height' steps' s' t' u' →
    Alike (unifyTo steps t u) s (unifyTo steps' t' u') s'
      (fun _ _ s₁ s₁' => Moved .solve π s s' s₁ s₁')
      (fun s₁ s₁' => Moved .solve π s s' s₁ s₁')

variable {height height' steps steps' : Nat}

/-- The components of two operators, one after the other. -/
theorem forM_unifyTo_alike (hone : Tandem π height height' steps steps') (h : Twins π s s')
    (hh : s.height ≤ height) (hh' : s'.height ≤ height') {ps ps' : List (Ty × Ty)}
    (hps : List.Forall₂ (fun p p' => Same π s s' p.1 p'.1 ∧ Same π s s' p.2 p'.2) ps ps')
    (hfits : ∀ p ∈ ps, Fits height steps s p.1 p.2)
    (hfits' : ∀ p ∈ ps', Fits height' steps' s' p.1 p.2) :
    Alike (ps.forM fun (x, y) => unifyTo steps x y) s
      (ps'.forM fun (x, y) => unifyTo steps' x y) s'
      (fun _ _ s₁ s₁' => Moved .solve π s s' s₁ s₁')
      (fun s₁ s₁' => Moved .solve π s s' s₁ s₁') := by
  have hpairs : List.Forall₂ (fun p p' => (Same π s s' p.1 p'.1 ∧ Same π s s' p.2 p'.2) ∧
      Fits height' steps' s' p'.1 p'.2) ps ps' := by
    refine List.forall₂_iff_zip.mpr ⟨hps.length_eq, fun {p p'} hmem => ?_⟩
    exact ⟨List.forall₂_zip hps hmem, hfits' p' (List.of_mem_zip hmem).2⟩
  refine (Alike.forM (I := fun s₁ s₁' => Moved .solve π s s' s₁ s₁' ∧ s₁.height ≤ height ∧
    s₁'.height ≤ height') hpairs ?_ ⟨h.moved_refl, hh, hh'⟩).mono (fun _ _ _ _ hI => hI.1)
    (fun _ _ h => h)
  rintro p hp p' ⟨⟨hx, hy⟩, hf'⟩ s₁ s₁' ⟨hm, h₁, h₁'⟩
  have hf := (hfits p hp).later hm.allows
  replace hf' := hf'.later hm.allows'
  refine ((hone hm.twins h₁ h₁' (hm.same hx) (hm.same hy) hf hf').and_ends
    (adequate _ _ hm.twins.valid h₁ hf) (adequate _ _ hm.twins.valid' h₁' hf')).mono ?_ ?_
  · exact fun _ _ _ _ hq => ⟨hm.trans hq.1, hq.2.1.height_le, hq.2.2.height_le⟩
  · exact fun _ _ hq => hm.trans hq.1

theorem unifyFound_alike (hone : Tandem π height height' steps steps') (h : Twins π s s')
    (hh : s.height ≤ height) (hh' : s'.height ≤ height') (ht : Found π s s' t t')
    (hu : Found π s s' u u') (hfits : Fits height (steps + 1) s t u)
    (hfits' : Fits height' (steps' + 1) s' t' u') :
    Alike (unifyFound steps t u) s (unifyFound steps' t' u') s'
      (fun _ _ s₁ s₁' => Moved .solve π s s' s₁ s₁')
      (fun s₁ s₁' => Moved .solve π s s' s₁ s₁') := by
  cases ht with
  | var hd hv hunb => exact assign_alike h hd hv hunb hu
  | @con f ts ts' hts =>
    cases hu with
    | var hd hv hunb => exact assign_alike h hd hv hunb (.con hts)
    | @con g us us' hus =>
      show Alike (if f = g ∧ ts.length = us.length then _ else _) s
        (if f = g ∧ ts'.length = us'.length then _ else _) s' _ _
      rw [← hts.length_eq, ← hus.length_eq]
      split
      · refine forM_unifyTo_alike hone h hh hh' (forall₂_zip hts hus) (fun p hp => ?_)
          (fun p hp => ?_)
        · obtain ⟨hx, hy⟩ := List.of_mem_zip hp
          exact hfits.component h.valid hx hy
        · obtain ⟨hx, hy⟩ := List.of_mem_zip hp
          exact hfits'.component h.valid' hx hy
      · refine (throwMismatch_alike h (same_con h.valid h.valid' hts)
          (same_con h.valid h.valid' hus)).mono (fun _ _ _ _ h => h) (fun _ _ hm => ?_)
        exact hm.mono fun ha => ha.of_look

theorem tandem (π : Pairing) (height height' steps : Nat) :
    ∀ steps', Tandem π height height' steps steps' := by
  induction steps with
  | zero =>
    intro steps' s s' t t' u u' h hh _ _ _ hfits _
    exact absurd (hfits.deep s (.refl h.valid) hh) (Nat.not_lt_zero _)
  | succ steps ih =>
    intro steps' s s' t t' u u' h hh hh' ht hu hfits hfits'
    cases steps' with
    | zero => exact absurd (hfits'.deep s' (.refl h.valid') hh') (Nat.not_lt_zero _)
    | succ steps' =>
      have hm₁ := h.shorten ht
      have hu₁ := hm₁.same hu
      have hm₂ := hm₁.twins.shorten hu₁
      have hm := hm₁.trans hm₂
      rw [unifyTo_succ, unifyTo_succ]
      refine .bind ?_
      rw [alike_prune]
      refine .bind ?_
      rw [alike_prune]
      refine (unifyFound_alike (ih steps') hm.twins ?_ ?_
        ((ht.found h.valid h.valid').later hm)
        ((hu₁.found hm₁.twins.valid hm₁.twins.valid').later hm₂) (hfits.found h.valid hh)
        (hfits'.found h.valid' hh')).mono ?_ ?_
      · rwa [hm.allows.height_eq fun _ hb => hb]
      · rwa [hm.allows'.height_eq fun _ hb => hb]
      · exact fun _ _ _ _ hm₃ => (hm.mono fun ha => ha.of_look).trans hm₃
      · exact fun _ _ hm₃ => (hm.mono fun ha => ha.of_look).trans hm₃

/-- Unification does the same to equations that belong together. -/
theorem unify_alike (h : Twins π s s') (ht : Same π s s' t t') (hu : Same π s s' u u') :
    Alike (unify t u) s (unify t' u') s'
      (fun _ _ s₁ s₁' => Moved .solve π s s' s₁ s₁')
      (fun s₁ s₁' => Moved .solve π s s' s₁ s₁') := by
  unfold unify
  refine .bind ?_
  rw [alike_stepsFor]
  exact tandem π _ _ _ _ h (Nat.le_max_left _ _) (Nat.le_max_left _ _) ht hu
    (fits_depthBound ht.holds hu.holds) (fits_depthBound ht.holds' hu.holds')

/-! ## Copying -/

/-- The copies of variables that belong together belong together. -/
def CopiesAlike (π : Pairing) (s s' : Store) (copies copies' : Copies) : Prop :=
  LookupsAlike π.ids (fun w w' => Same π s s' (.var w) (.var w')) copies copies'

theorem CopiesAlike.later {r : Rights} {copies copies' : Copies}
    (h : CopiesAlike π s s' copies copies') (hm : Moved r π s s' s₁ s₁') :
    CopiesAlike π s₁ s₁' copies copies' :=
  h.mono fun _ _ hsame => hm.same hsame

/-- Variables whose numbers belong together have copies that belong together. -/
theorem copyVar_alike {copies copies' : Copies} {v' : Var} (h : Twins π s s') (hp : Paced π s s')
    (hc : CopiesAlike π s s' copies copies') (hids : π.ids (s.idOf v) (s'.idOf v'))
    {E : Store × Copies → Store × Copies → Prop} :
    Alike (copyVar v) (s, copies) (copyVar v') (s', copies')
      (fun w w' p p' => Moved .grow π s s' p.1 p'.1 ∧ Same π p.1 p'.1 (.var w) (.var w') ∧
        CopiesAlike π p.1 p'.1 p.2 p'.2) E := by
  unfold copyVar
  rw [alike_modifyGet]
  dsimp only
  have hrel := hc _ _ hids
  revert hrel
  generalize copies.lookup (s.idOf v) = o
  generalize copies'.lookup (s'.idOf v') = o'
  rintro (hsame | _)
  · exact ⟨h.moved_refl, hsame, hc⟩
  · obtain ⟨hm, hnew⟩ := h.pushNext hp
    exact ⟨hm, hnew, (hc.later hm).cons (fun _ _ hk => π.ids_iff hk hids) hnew⟩

/-- An operator has copies that belong together if its components have. -/
theorem copyCon_alike {pinned pinned' : List Ty} {steps steps' : Nat} {name : String}
    {args args' : List Ty} {C : Ty → Ty → Prop} {E : Store × Copies → Store × Copies → Prop}
    (hargs : List.Forall₂ C args args')
    (hone : ∀ u ∈ args, ∀ u', C u u' → ∀ p p' : Store × Copies, Moved .grow π s s' p.1 p'.1 →
      CopiesAlike π p.1 p'.1 p.2 p'.2 →
      Alike (copyTo pinned steps u) p (copyTo pinned' steps' u') p'
        (fun r r' q q' => Moved .grow π p.1 p'.1 q.1 q'.1 ∧ Same π q.1 q'.1 r r' ∧
          CopiesAlike π q.1 q'.1 q.2 q'.2) E) {p p' : Store × Copies}
    (hm : Moved .grow π s s' p.1 p'.1) (hc : CopiesAlike π p.1 p'.1 p.2 p'.2) :
    Alike (do return .con name (← args.mapM (copyTo pinned steps)) : CopyM Ty) p
      (do return .con name (← args'.mapM (copyTo pinned' steps')) : CopyM Ty) p'
      (fun r r' q q' => Moved .grow π s s' q.1 q'.1 ∧ Same π q.1 q'.1 r r' ∧
        CopiesAlike π q.1 q'.1 q.2 q'.2) E := by
  refine .bind ((Alike.mapM (I := fun p p' : Store × Copies => Moved .grow π s s' p.1 p'.1 ∧
    CopiesAlike π p.1 p'.1 p.2 p'.2) (S := fun r r' p p' => Same π p.1 p'.1 r r') hargs
    (fun u hu u' hsame p p' hI => ?_) ⟨hm, hc⟩).mono ?_ (fun _ _ h => h))
  · refine (hone u hu u' hsame p p' hI.1 hI.2).mono ?_ (fun _ _ h => h)
    rintro r r' q q' ⟨hmq, hr, hcq⟩
    exact ⟨⟨hI.1.trans hmq, hcq⟩, hr, fun _ _ hS => hmq.same hS⟩
  · rintro rs rs' q q' ⟨⟨hmq, hcq⟩, hrs, _⟩
    exact ⟨hmq, same_con hmq.twins.valid hmq.twins.valid' hrs, hcq⟩

theorem copyTo_alike {pinned pinned' : List Ty} {steps : Nat} : ∀ {steps' : Nat} {s s' : Store}
    {copies copies' : Copies} {t t' : Ty}, Twins π s s' → Paced π s s' →
    SameMembers π s s' pinned pinned' → CopiesAlike π s s' copies copies' → Same π s s' t t' →
    (s.view t).height < steps → (s.view t).height < steps' →
    Alike (copyTo pinned steps t) (s, copies) (copyTo pinned' steps' t') (s', copies')
      (fun r r' p p' => Moved .grow π s s' p.1 p'.1 ∧ Same π p.1 p'.1 r r' ∧
        CopiesAlike π p.1 p'.1 p.2 p'.2)
      (fun _ _ => False) := by
  induction steps with
  | zero => exact fun _ _ _ _ _ h => absurd h (Nat.not_lt_zero _)
  | succ steps ih =>
    intro steps' s s' copies copies' t t' h hp hpin hc ht hsteps hsteps'
    obtain ⟨steps', rfl⟩ : ∃ n, steps' = n + 1 := Nat.exists_eq_succ_of_ne_zero (by omega)
    have hm : Moved .grow π s s' (s.shorten t) (s'.shorten t') :=
      (h.shorten ht).mono fun ha => ha.of_look
    unfold copyTo
    refine .bind ?_
    rw [alike_lift, alike_prune]
    rcases ht.find_cases h.valid h.valid' with ⟨v, hf, hf', hd, hv, _⟩ |
      ⟨name, args, args', hf, hf', hargs, hview⟩
    · rw [hf, hf']
      refine .bind ?_
      rw [alike_lift]
      refine (isGeneric_alike hm.twins (hpin.later hm) hd).mono ?_ (fun _ _ h => h)
      rintro _ b s₁ s₁' ⟨rfl, hm₁⟩
      have hm₂ := hm.trans (hm₁.mono fun ha => ha.of_look)
      have hv₂ := hm₂.allows.has hv
      split
      · refine .bind ((copyVar_alike hm₂.twins (hm₂.paced hp) (hc.later hm₂)
          (hm₂.twins.ids v hd hv₂)).mono ?_ (fun _ _ h => h))
        exact fun _ _ _ _ hq => ⟨hm₂.trans hq.1, hq.2⟩
      · exact ⟨hm₂, hm₂.twins.var v hd hv₂, hc.later hm₂⟩
    · rw [hf, hf']
      rw [hview] at hsteps hsteps'
      refine copyCon_alike hargs (fun u hu u' hsame p p' hmp hcp => ?_) hm (hc.later hm)
      have hlt : (p.1.view u).height < (Ty.con name (args.map s.view)).height := by
        rw [hmp.allows.view_eq (fun _ hb => hb) h.valid hsame.holds]
        exact Ty.height_lt_of_mem (List.mem_map_of_mem hu)
      exact ih hmp.twins (hmp.paced hp) (hpin.later hmp) hcp (hmp.same hsame) (by omega) (by omega)

/-- Copies of types that belong together belong together. -/
theorem fresh_alike {pinned pinned' : List Ty} (h : Twins π s s') (hp : Paced π s s')
    (hpin : SameMembers π s s' pinned pinned') (ht : Same π s s' t t') :
    Alike (fresh t pinned) s (fresh t' pinned') s'
      (fun r r' s₁ s₁' => Moved .grow π s s' s₁ s₁' ∧ Same π s₁ s₁' r r') (fun _ _ => False) := by
  have hempty : CopiesAlike π s s' [] [] := fun _ _ _ => .none
  obtain ⟨hsteps, hsteps'⟩ := ht.height_lt_depthBound h.valid h.valid'
  unfold fresh
  refine .bind ?_
  rw [alike_stepsFor, alike_within]
  exact (copyTo_alike h hp hpin hempty ht hsteps hsteps').mono
    (fun _ _ _ _ hq => ⟨hq.1, hq.2.1⟩) (fun _ _ h => h)

end LetPoly
