import LetPoly.Proofs.Recursion

/-!
# Termination

In a valid store every call of the plain recursion comes to an end, and it ends with what the
operations that count their steps give. Each operation is followed through the induction on its
steps, which are enough for the views of the types that it is called with.

* `Store.Valid.pruneRun`, `occursTo_runs`, `showTo_runs`, `unifyTo_runs` — the run of each operation
* `unify_terminates` — unification ends, with the outcome of the plain recursion
-/

namespace LetPoly

open Store

variable {s : Store} {t u : Ty} {v : Var} {height : Nat}

/-! ## Looking up -/

theorem Store.rebind_comm (s : Store) (v w : Var) (r : Ty) :
    (s.rebind v r).rebind w r = (s.rebind w r).rebind v r := by
  unfold rebind
  congr 1
  refine Array.ext_getElem? fun i => ?_
  simp only [Array.getElem?_modify]
  split <;> split <;> simp

/-- Whether the first variable of a chain is rebound first or last makes no difference. -/
theorem Store.compress_cons (s : Store) (v : Var) (vs : List Var) (r : Ty) :
    s.compress (v :: vs) r = (s.compress vs r).rebind v r := by
  induction vs generalizing s with
  | nil => rfl
  | cons w vs ih =>
    calc s.compress (v :: w :: vs) r
      _ = ((s.rebind v r).rebind w r).compress vs r := rfl
      _ = (s.rebind w r).compress (v :: vs) r := by rw [rebind_comm]; rfl
      _ = (s.compress (w :: vs) r).rebind v r := ih _

theorem Store.Valid.pruneRun (hs : s.Valid) (ht : s.Holds t) :
    PruneRun s t (s.find t) (s.shorten t) := by
  refine hs.induct ?unbound ?bound ?con ?bare ht
  case unbound =>
    intro v _ hv
    unfold shorten
    rw [find_var_of_unbound hv, chain_var_of_unbound hv]
    exact .unbound hv
  case bound =>
    intro v u hv ih
    unfold shorten at ih ⊢
    rw [hs.find_var_of_binding hv, hs.chain_var_of_binding hv, compress_cons]
    exact .bound hv ih
  case con =>
    intro name args _ _
    unfold shorten
    rw [find_con, chain_con]
    exact .con
  case bare =>
    unfold shorten
    rw [find_bare, chain_bare]
    exact .bare

/-! ## Occurrence -/

/-- Testing one type after the other runs as the tests of the types do. -/
theorem anyM_runs {x : Ty → StoreM Bool} {I : Store → Prop} : ∀ {ts : List Ty} {s : Store},
    (∀ u ∈ ts, ∀ s, I s → Ends (x u) s (fun b s' => OccursRun v s u b s' ∧ I s')
      (fun _ _ => False)) → I s →
    Ends (ts.anyM x) s (fun b s' => OccursAnyRun v s ts b s') (fun _ _ => False) := by
  intro ts
  induction ts with
  | nil => exact fun _ _ => .nil
  | cons t ts ih =>
    intro s hx hs
    obtain ⟨ht, hts⟩ := List.forall_mem_cons.mp hx
    rw [List.anyM_cons, ends_bind]
    refine (ht s hs).mono ?_ (fun _ _ h => h)
    rintro b s₁ ⟨hrun, hs₁⟩
    cases b with
    | true => exact .here hrun
    | false => exact (ih hts hs₁).mono (fun _ _ h => .next hrun h) (fun _ _ h => h)

theorem occursTo_runs {steps : Nat} : ∀ {s : Store} {t : Ty}, s.Valid → s.Holds t →
    (s.view t).height < steps →
    Ends (occursTo v steps t) s (fun b s' => OccursRun v s t b s') (fun _ _ => False) := by
  induction steps with
  | zero => exact fun _ _ h => absurd h (Nat.not_lt_zero _)
  | succ steps ih =>
    intro s t hs ht hsteps
    have hshort := allows_shorten hs ht
    have hprune := hs.pruneRun ht
    unfold occursTo
    simp only [ends_bind, ends_prune]
    rcases hs.find_cases ht with ⟨w, hf, _, _, _⟩ | ⟨name, args, hf, hargs, hw⟩ | ⟨hf, _⟩
    · rw [hf] at hprune ⊢
      exact .found hprune .var
    · rw [hf] at hprune ⊢
      rw [hw] at hsteps
      refine (anyM_runs (I := Rights.look.Allows s) (fun u hu s₁ hs₁ => ?_) hshort).mono
        (fun _ _ h => .found hprune (.con h)) (fun _ _ h => h)
      obtain ⟨hholds, -, hlt⟩ := hs₁.component (fun _ h => h) hs hargs hsteps hu
      exact ((ih hs₁.valid hholds hlt).and (occursTo_ends v hs₁.valid hholds hlt)).mono
        (fun _ _ h => ⟨h.1, hs₁.trans h.2.2⟩) (fun _ _ h => h.1)
    · rw [hf] at hprune ⊢
      exact .found hprune .bare

theorem occurs_runs (hs : s.Valid) (ht : s.Holds t) :
    Ends (occurs v t) s (fun b s' => OccursRun v s t b s') (fun _ _ => False) := by
  unfold occurs
  rw [ends_bind, ends_stepsFor]
  exact occursTo_runs hs ht (hs.height_view_lt_depthBound ht (by simp))

/-! ## Showing -/

/-- Showing one type after the other runs as showing the types does. -/
theorem mapM_runs {x : Ty → LabelM String} {I : Store × Namer → Prop} :
    ∀ {ts : List Ty} {p : Store × Namer},
    (∀ u ∈ ts, ∀ p, I p → Ends (x u) p (fun text q => ShowRun p u (.ok text q) ∧ I q)
      (fun e q => ShowRun p u (.error e q))) → I p →
    Ends (ts.mapM x) p (fun texts q => ShowAllRun p ts (.ok texts q))
      (fun e q => ShowAllRun p ts (.error e q)) := by
  intro ts
  induction ts with
  | nil =>
    intro p _ _
    rw [List.mapM_nil, ends_pure]
    exact .nil
  | cons t ts ih =>
    intro p hx hp
    obtain ⟨ht, hts⟩ := List.forall_mem_cons.mp hx
    simp only [List.mapM_cons, ends_bind, ends_pure]
    refine (ht p hp).mono ?_ (fun _ _ h => .failed h)
    rintro text q ⟨hrun, hq⟩
    exact (ih hts hq).mono (fun _ _ h => .next hrun h) (fun _ _ h => .next hrun h)

/-- A representative is shown as its components are. -/
theorem showFound_runs {steps : Nat} {name : String} {args : List Ty} {p : Store × Namer}
    (hargs : ∀ u ∈ args, s.Holds u) (hp : Rights.look.Allows s p.1)
    (hparts : ∀ u ∈ args, ∀ p : Store × Namer, Rights.look.Allows s p.1 →
      Ends (showTo steps u) p
        (fun text q => ShowRun p u (.ok text q) ∧ Rights.look.Allows s q.1)
        (fun e q => ShowRun p u (.error e q))) :
    Ends (showFound steps (.con name args)) p
      (fun text q => ShowFoundRun p (.con name args) (.ok text q))
      (fun e q => ShowFoundRun p (.con name args) (.error e q)) := by
  by_cases hfn : name = "->" ∧ args.length = 2
  · obtain ⟨rfl, hlen⟩ := hfn
    obtain ⟨arg, result, rfl⟩ := List.length_eq_two.mp hlen
    show Ends (do
      let left ← showTo steps arg
      let left := if (← prune arg).isFunction then "(" ++ left ++ ")" else left
      let right ← showTo steps result
      return left ++ " -> " ++ right) _ _ _
    rw [ends_bind]
    refine (hparts arg (by simp) p hp).mono ?_ (fun _ _ h => .argFailed h)
    rintro left ⟨s₁, namer⟩ ⟨hleft, h₁⟩
    have harg : s₁.Holds arg := h₁.holds (hargs arg (by simp))
    have hprune := h₁.valid.pruneRun harg
    have h₂ := h₁.trans (allows_shorten h₁.valid harg)
    simp only [ends_bind, ends_lift, ends_prune, ends_pure]
    exact (hparts result (by simp) _ h₂).mono (fun _ _ h => .fn hleft hprune h.1)
      (fun _ _ h => .fn hleft hprune h)
  · by_cases hne : args = []
    · subst hne
      rw [showFound_nil]
      exact .name
    · have hop : (Ty.con name args).isFunction = false := by
        rw [isFunction_con]
        exact decide_eq_false hfn
      rw [showFound_con hne hfn, ends_bind]
      exact (mapM_runs hparts hp).mono (fun _ _ h => .con hne hop h) (fun _ _ h => .con hne hop h)

theorem showTo_runs {steps : Nat} : ∀ {s : Store} {namer : Namer} {t : Ty}, s.Valid → s.Holds t →
    (s.view t).height < steps →
    Ends (showTo steps t) (s, namer) (fun text q => ShowRun (s, namer) t (.ok text q))
      (fun e q => ShowRun (s, namer) t (.error e q)) := by
  induction steps with
  | zero => exact fun _ _ h => absurd h (Nat.not_lt_zero _)
  | succ steps ih =>
    intro s namer t hs ht hsteps
    have hshort := allows_shorten hs ht
    have hprune := hs.pruneRun ht
    rw [showTo_succ, ends_bind, ends_lift, ends_prune]
    rcases hs.find_cases ht with ⟨w, hf, _, _, _⟩ | ⟨name, args, hf, hargs, hw⟩ | ⟨hf, _⟩
    · rw [hf] at hprune ⊢
      exact (ends_outcome (R := ShowRun (s, namer) t)).mpr (.found hprune .var)
    · rw [hf] at hprune ⊢
      rw [hw] at hsteps
      refine (showFound_runs hargs hshort fun u hu p hp => ?_).mono
        (fun _ _ h => .found hprune h) (fun _ _ h => .found hprune h)
      obtain ⟨hholds, -, hlt⟩ := hp.component (fun _ h => h) hs hargs hsteps hu
      exact ((ih hp.valid hholds hlt).and (showTo_ends hp.valid hholds hlt)).mono
        (fun _ _ h => ⟨h.1, hp.trans h.2⟩) (fun _ _ h => h.1)
    · rw [hf] at hprune ⊢
      exact .found hprune .bare

theorem showType_runs {namer : Namer} (hs : s.Valid) (ht : s.Holds t) :
    Ends (showType t) (s, namer) (fun text q => ShowRun (s, namer) t (.ok text q))
      (fun e q => ShowRun (s, namer) t (.error e q)) := by
  unfold showType
  simp only [ends_bind, ends_lift, ends_stepsFor]
  exact showTo_runs hs ht (hs.height_view_lt_depthBound ht (by simp))

/-! ## Conflicts -/

/-- Showing two types one after the other runs as showing each of them does. -/
theorem showBoth_runs (hs : s.Valid) (ht : s.Holds t) (hu : s.Holds u) :
    Ends (do let left ← showType t; let right ← showType u; return (left, right) : LabelM _)
      (s, {}) (fun texts q => TextsRun s t u (.ok texts q))
      (fun e q => TextsRun s t u (.error e q)) := by
  simp only [ends_bind, ends_pure]
  refine ((showType_runs hs ht).and (showType_ends hs ht)).mono ?_ (fun _ _ h => .failed h.1)
  rintro left ⟨s₁, namer⟩ ⟨hleft, h₁⟩
  exact (showType_runs h₁.valid (h₁.holds hu)).mono (fun _ _ h => .next hleft h)
    (fun _ _ h => .next hleft h)

theorem throwMismatch_runs (hs : s.Valid) (ht : s.Holds t) (hu : s.Holds u) {R : Unifying → Prop}
    (hR : ∀ r, TextsRun s t u r → R (conflict .mismatch r)) :
    Ends (throwMismatch t u) s (fun a s' => R (.ok a s')) (fun e s' => R (.error e s')) := by
  unfold throwMismatch
  rw [ends_bind, ends_within]
  exact (showBoth_runs hs ht hu).mono (fun _ _ h => hR _ h) (fun _ _ h => hR _ h)

theorem throwRecursive_runs (hs : s.Valid) (hv : s.Has v) (ht : s.Holds t) {R : Unifying → Prop}
    (hR : ∀ r, TextsRun s (.var v) t r → R (conflict .recursive r)) :
    Ends (throwRecursive v t) s (fun a s' => R (.ok a s')) (fun e s' => R (.error e s')) := by
  unfold throwRecursive
  rw [ends_bind, ends_within]
  exact (showBoth_runs hs (holds_var.mpr hv) ht).mono (fun _ _ h => hR _ h) (fun _ _ h => hR _ h)

/-! ## Unification -/

/-- A type other than the variable itself is tested for the variable and then bound to it. -/
theorem assignTested_runs (hs : s.Valid) (hv : s.Has v) (ht : s.Holds t) (hne : t ≠ .var v) :
    Ends (do if ← occurs v t then throwRecursive v t else bindVar v t) s
      (fun a s' => UnifyFoundRun s (.var v) t (.ok a s'))
      (fun e s' => UnifyFoundRun s (.var v) t (.error e s')) := by
  rw [ends_bind]
  refine ((occurs_runs hs ht).and (occurs_ends hs ht v)).mono ?_ (fun _ _ h => h.1.elim)
  rintro b s₁ ⟨hocc, -, h₁⟩
  cases b with
  | true =>
    exact throwRecursive_runs h₁.valid (h₁.has hv) (h₁.holds ht) fun _ h => .recursive hne hocc h
  | false =>
    exact (ends_outcome (R := UnifyFoundRun s (.var v) t)).mpr (.bind hne hocc)

theorem assign_runs (hs : s.Valid) (hv : s.Has v) (ht : s.Holds t)
    (hrep : ∀ w, t = .var w → s.binding w = none) :
    Ends (assign v t) s (fun a s' => UnifyFoundRun s (.var v) t (.ok a s'))
      (fun e s' => UnifyFoundRun s (.var v) t (.error e s')) := by
  cases t with
  | var w =>
    show Ends (if w = v then pure () else bindVar v (.var w)) s _ _
    by_cases hw : w = v
    · rw [if_pos hw, hw]
      exact .same
    · -- the test finds another unbound variable
      have hocc : OccursRun v s (.var w) false s := by
        have hrun : OccursRun v s (.var w) (w = v) s := .found (.unbound (hrep w rfl)) .var
        rwa [decide_eq_false hw] at hrun
      rw [if_neg hw]
      refine (ends_outcome (R := UnifyFoundRun s (.var v) (.var w))).mpr (.bind ?_ hocc)
      exact fun heq => hw (Ty.var.inj heq)
  | con name args => exact assignTested_runs hs hv ht nofun
  | bare => exact assignTested_runs hs hv ht nofun

/-- The steps are enough for unification to run to its end on every equation that fits them. -/
def UnifyRuns (height steps : Nat) : Prop :=
  ∀ {s : Store} {t u : Ty}, s.Valid → s.height ≤ height → Fits height steps s t u →
    UnifyRun s t u (unifyTo steps t u s)

/-- Unification of one pair after the other runs as that of the pairs does. -/
theorem forM_unifyTo_runs {steps : Nat} (hone : UnifyRuns height steps) {ps : List (Ty × Ty)} :
    ∀ {s : Store}, s.Valid → s.height ≤ height → (∀ p ∈ ps, Fits height steps s p.1 p.2) →
      Ends (ps.forM fun (x, y) => unifyTo steps x y) s (fun a s' => UnifyAllRun s ps (.ok a s'))
        (fun e s' => UnifyAllRun s ps (.error e s')) := by
  induction ps with
  | nil => exact fun _ _ _ => .nil
  | cons p ps ih =>
    intro s hs hh hfits
    obtain ⟨hp, hrest⟩ := List.forall_mem_cons.mp hfits
    show Ends (unifyTo steps p.1 p.2 >>= fun _ => ps.forM fun (x, y) => unifyTo steps x y) s _ _
    rw [ends_bind]
    refine ((ends_outcome.mpr (hone hs hh hp)).and (adequate height steps hs hh hp)).mono ?_
      (fun _ _ h => .failed h.1)
    rintro _ s₁ ⟨hrun, h₁⟩
    have hsolve : Rights.solve.Allows s s₁ :=
      h₁.allows.to_solve (fun hm => hm) (fun hn => hn) (fun _ hl => hl)
    exact (ih h₁.allows.valid h₁.height_le fun q hq => (hrest q hq).later hsolve).mono
      (fun _ _ h => .next hrun h) (fun _ _ h => .next hrun h)

theorem unifyFound_runs {steps : Nat} (hone : UnifyRuns height steps) {a b : Ty} (hs : s.Valid)
    (hh : s.height ≤ height) (hfits : Fits height (steps + 1) s a b)
    (ha : ∀ v, a = .var v → s.binding v = none) (hb : ∀ w, b = .var w → s.binding w = none) :
    Ends (unifyFound steps a b) s (fun r s' => UnifyFoundRun s a b (.ok r s'))
      (fun e s' => UnifyFoundRun s a b (.error e s')) := by
  have hleft := hfits.holds_left
  have hright := hfits.holds_right
  -- with the variable on the right, the call with exchanged arguments finds the same two types
  have hexchange : ∀ {w r}, b = .var w → a.isVar = false → PruneRun s a a s →
      UnifyFoundRun s (.var w) a r → UnifyFoundRun s a b r := by
    rintro w r rfl hvar hprune hrun
    exact .exchange hvar (.found (.unbound (hb w rfl)) hprune hrun)
  match a, b with
  | .var v, b => exact assign_runs hs (holds_var.mp hleft) hright hb
  | .con _ _, .var w =>
    exact (assign_runs hs (holds_var.mp hright) hleft nofun).mono
      (fun _ _ h => hexchange rfl rfl .con h) (fun _ _ h => hexchange rfl rfl .con h)
  | .bare, .var w =>
    exact (assign_runs hs (holds_var.mp hright) hleft nofun).mono
      (fun _ _ h => hexchange rfl rfl .bare h) (fun _ _ h => hexchange rfl rfl .bare h)
  | .con f ts, .con g us =>
    show Ends (if f = g ∧ ts.length = us.length then _ else _) s _ _
    by_cases hsame : f = g ∧ ts.length = us.length
    · rw [if_pos hsame]
      obtain ⟨rfl, hlen⟩ := hsame
      refine (forM_unifyTo_runs hone hs hh fun p hp => ?_).mono
        (fun _ _ h => .components hlen h) (fun _ _ h => .components hlen h)
      obtain ⟨hx, hy⟩ := List.of_mem_zip hp
      exact hfits.component hs hx hy
    · rw [if_neg hsame]
      exact throwMismatch_runs hs hleft hright fun _ h => .mismatch hsame h
  | .con _ _, .bare => exact .bareRight
  | .bare, .con _ _ => exact .bareLeft rfl
  | .bare, .bare => exact .bareLeft rfl

theorem unifyTo_runs (height steps : Nat) : UnifyRuns height steps := by
  induction steps with
  | zero =>
    intro s t u hs hh hfits
    exact absurd (hfits.deep s (.refl hs) hh) (Nat.not_lt_zero _)
  | succ steps ih =>
    intro s t u hs hh hfits
    have h₁ := allows_shorten hs hfits.holds_left
    have hu₁ := h₁.holds hfits.holds_right
    have h₁₂ := allows_shorten h₁.valid hu₁
    have h₂ := h₁.trans h₁₂
    obtain ⟨ha, hta⟩ := hs.find_spec hfits.holds_left
    obtain ⟨hb, hub⟩ := h₁.valid.find_spec hu₁
    have hprune := hs.pruneRun hfits.holds_left
    have hprune' := h₁.valid.pruneRun hu₁
    rw [← ends_outcome (R := UnifyRun s t u), unifyTo_succ]
    simp only [ends_bind, ends_prune]
    refine (unifyFound_runs ih h₂.valid ?_ (hfits.found hs hh) ?_ ?_).mono
      (fun _ _ h => .found hprune hprune' h) (fun _ _ h => .found hprune hprune' h)
    · rwa [h₂.height_eq fun _ h => h]
    · intro v hv
      exact h₂.unbound v (holds_var.mp (hv ▸ ha)) (hta v hv) fun h => h
    · intro w hw
      exact h₁₂.unbound w (holds_var.mp (hw ▸ hb)) (hub w hw) fun h => h

/-- More steps than unification starts with are enough as well. -/
theorem Fits.more {steps steps' : Nat} (h : Fits height steps s t u) (hle : steps ≤ steps') :
    Fits height steps' s t u :=
  { h with deep := fun s' hs' hh => Nat.lt_of_lt_of_le (h.deep s' hs' hh) hle }

theorem unifyRun_depthBound (hs : s.Valid) (ht : s.Holds t) (hu : s.Holds u) {steps : Nat}
    (hle : s.depthBound [t, u] ≤ steps) : UnifyRun s t u (unifyTo steps t u s) :=
  unifyTo_runs _ _ hs (Nat.le_max_left _ _) ((fits_depthBound ht hu).more hle)

/-- In a valid store unification comes to an end, with the one outcome of the plain recursion; its
steps are never used up, and more of them change nothing. -/
theorem unify_terminates (hs : s.Valid) (ht : s.Holds t) (hu : s.Holds u) :
    (∀ r, UnifyRun s t u r ↔ unify t u s = r) ∧ (∀ s', unify t u s ≠ .error .cyclic s') ∧
      ∀ steps, s.depthBound [t, u] ≤ steps → unifyTo steps t u s = unify t u s := by
  have hrun : UnifyRun s t u (unify t u s) := unifyRun_depthBound hs ht hu (Nat.le_refl _)
  refine ⟨fun r => ⟨fun h => hrun.unique h, fun h => h ▸ hrun⟩, fun s' h => ?_, fun steps hle => ?_⟩
  · have hsettled := hrun.settled
    rw [h] at hsettled
    exact hsettled
  · exact (unifyRun_depthBound hs ht hu hle).unique hrun

/-- Two variables are bound on the way, the second through the first, before the last components
are found to be equal. -/
theorem unify_terminates_shared : ∃ s',
    unify (.con "pair" [.var ⟨0⟩, .int]) (.con "pair" [.fn (.var ⟨2⟩) .int, .var ⟨1⟩])
      functionStore = .ok () s' ∧
    UnifyRun functionStore (.con "pair" [.var ⟨0⟩, .int])
      (.con "pair" [.fn (.var ⟨2⟩) .int, .var ⟨1⟩]) (.ok () s') := by
  obtain ⟨_, s', hok, -⟩ := exists_ok_of_test
    (x := unify (.con "pair" [.var ⟨0⟩, .int]) (.con "pair" [.fn (.var ⟨2⟩) .int, .var ⟨1⟩]))
    (s := functionStore) (p := fun _ _ => true) (by decide +kernel)
  have hruns := unify_terminates (s := functionStore) (t := .con "pair" [.var ⟨0⟩, .int])
    (u := .con "pair" [.fn (.var ⟨2⟩) .int, .var ⟨1⟩]) functionStore_allows.valid (by decide)
    (by decide)
  exact ⟨s', hok, (hruns.1 _).mpr hok⟩

end LetPoly
