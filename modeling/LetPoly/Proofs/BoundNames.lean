import LetPoly.Proofs.Names
import LetPoly.Proofs.Tracing

/-!
# Bound names

A name that is bound by a function or a definition may be any text: it may hide a name of the
environment, an outer binder or an integer. Which text it is does not matter. Terms that differ in
the names of their binders only have the same types and fail in the same way.

* `Term.SameName` — two names under binders that belong together
* `Term.AlphaEq` — the terms differ in the names of their binders only
* `Term.alphaEq_lam`, `Term.alphaEq_letIn`, `Term.alphaEq_letrec` — renaming one binder without
  capture makes such a difference
* `analyseWith_alpha` — analysis, whatever is run around the terms
* `infer_alphaEq` — inference with reports and without
-/

namespace LetPoly

open Function (update)

/-! ## Terms that differ in bound names -/

namespace Term

/-- Under binders that belong together, innermost first, the names are bound by the same pair, or
they are free and the same. -/
def SameName : List (String × String) → String → String → Prop
  | [], x, x' => x = x'
  | (y, y') :: binders, x, x' => x = y ∧ x' = y' ∨ (x ≠ y ∧ x' ≠ y') ∧ SameName binders x x'

/-- The terms differ in the names of their binders only, if those around them belong together. The
name of a definition counts in its body, and in the definition itself if that may use itself. -/
inductive AlphaUnder : List (String × String) → Term → Term → Prop
  | ident {binders : List (String × String)} {x x' : String} (h : SameName binders x x') :
    AlphaUnder binders (.ident x) (.ident x')
  | lam {binders : List (String × String)} {x x' : String} {b b' : Term}
    (hb : AlphaUnder ((x, x') :: binders) b b') : AlphaUnder binders (.lam x b) (.lam x' b')
  | app {binders : List (String × String)} {f f' a a' : Term} (hf : AlphaUnder binders f f')
    (ha : AlphaUnder binders a a') : AlphaUnder binders (.app f a) (.app f' a')
  | letIn {binders : List (String × String)} {x x' : String} {d d' b b' : Term}
    (hd : AlphaUnder binders d d') (hb : AlphaUnder ((x, x') :: binders) b b') :
    AlphaUnder binders (.letIn x d b) (.letIn x' d' b')
  | letrec {binders : List (String × String)} {x x' : String} {d d' b b' : Term}
    (hd : AlphaUnder ((x, x') :: binders) d d') (hb : AlphaUnder ((x, x') :: binders) b b') :
    AlphaUnder binders (.letrec x d b) (.letrec x' d' b')

/-- The terms differ in the names of their binders only. -/
def AlphaEq (e e' : Term) : Prop := AlphaUnder [] e e'

variable {binders : List (String × String)} {x y : String} {e e' d b : Term} {ρ : String → String}

theorem AlphaUnder.wellFormed (h : AlphaUnder binders e e') : e.WellFormed ∧ e'.WellFormed := by
  induction h with
  | ident h => exact ⟨trivial, trivial⟩
  | lam _ ih => exact ih
  | app _ _ ihf iha => exact ⟨⟨ihf.1, iha.1⟩, ihf.2, iha.2⟩
  | letIn _ _ ihd ihb | letrec _ _ ihd ihb => exact ⟨⟨ihd.1, ihb.1⟩, ihd.2, ihb.2⟩

/-! ## Renaming one binder -/

/-- Under a binder that keeps its name, names go on meaning the same unless one is renamed to the
name of the binder. -/
theorem sameName_update (hspares : Spares (.ident ∘ ρ) x b)
    (h : ∀ z ∈ b.freeNames, z ≠ x → SameName binders z (ρ z)) :
    ∀ z ∈ b.freeNames, SameName ((x, x) :: binders) z (update ρ x x z) := by
  intro z hz
  by_cases hzx : z = x
  · rw [hzx, Function.update_self]
    exact .inl ⟨rfl, rfl⟩
  · rw [Function.update_of_ne hzx]
    refine .inr ⟨⟨hzx, fun heq => hspares z hz hzx ?_⟩, h z hz hzx⟩
    simp [heq]

/-- Renaming free names, without capture, to names that mean the same. -/
theorem alphaUnder_subst (hb : b.WellFormed) (hadmits : b.Admits (.ident ∘ ρ))
    (h : ∀ z ∈ b.freeNames, SameName binders z (ρ z)) :
    AlphaUnder binders b (b.subst (.ident ∘ ρ)) := by
  have hbinder : ∀ (ρ : String → String) (x : String),
      update (.ident ∘ ρ) x (.ident x) = Term.ident ∘ update ρ x x :=
    fun ρ x => (Function.comp_update Term.ident ρ x x).symm
  induction b generalizing binders ρ with
  | ident x => exact .ident (h x (by simp))
  | lam x b ih =>
    obtain ⟨hspares, hadmits⟩ := hadmits
    rw [hbinder] at hadmits
    rw [subst, hbinder]
    exact .lam (ih hb hadmits (sameName_update hspares fun z hz hne => h z (by simp [hz, hne])))
  | app f a ihf iha =>
    exact .app (ihf hb.1 hadmits.1 fun z hz => h z (by simp [hz]))
      (iha hb.2 hadmits.2 fun z hz => h z (by simp [hz]))
  | letIn x d b ihd ihb =>
    obtain ⟨hd, hspares, hadmits⟩ := hadmits
    rw [hbinder] at hadmits
    rw [subst, hbinder]
    exact .letIn (ihd hb.1 hd fun z hz => h z (by simp [hz]))
      (ihb hb.2 hadmits (sameName_update hspares fun z hz hne => h z (by simp [hz, hne])))
  | letrec x d b ihd ihb =>
    obtain ⟨⟨hspares, hadmits⟩, hspares', hadmits'⟩ := hadmits
    rw [hbinder] at hadmits hadmits'
    rw [subst, hbinder]
    exact .letrec
      (ihd hb.1 hadmits (sameName_update hspares fun z hz hne => h z (by simp [hz, hne])))
      (ihb hb.2 hadmits' (sameName_update hspares' fun z hz hne => h z (by simp [hz, hne])))
  | lamOver p b => exact hb.elim
  | bare => exact hb.elim
  | missing => exact hb.elim

theorem alphaEq_refl (he : e.WellFormed) : AlphaEq e e := by
  have h : AlphaUnder [] e (e.subst (.ident ∘ id)) :=
    alphaUnder_subst he (admits_ident e) fun _ _ => rfl
  rwa [Function.comp_id, subst_ident] at h

/-- The scope of a binder whose name `x` becomes `y`. -/
theorem alphaUnder_replace (hb : b.WellFormed) (hy : y ∉ b.freeNames)
    (hcap : b.NoCapture x (.ident y)) : AlphaUnder [(x, y)] b (b.replace x (.ident y)) := by
  have hupdate : update .ident x (.ident y) = Term.ident ∘ update id x y :=
    (Function.comp_update Term.ident id x y).symm
  have hadmits := hcap.admits
  rw [hupdate] at hadmits
  rw [replace, hupdate]
  refine alphaUnder_subst hb hadmits fun z hz => ?_
  by_cases hzx : z = x
  · rw [hzx, Function.update_self]
    exact .inl ⟨rfl, rfl⟩
  · rw [Function.update_of_ne hzx]
    exact .inr ⟨⟨hzx, fun heq => hy (heq ▸ hz)⟩, rfl⟩

theorem alphaEq_lam (hb : b.WellFormed) (hy : y ∉ b.freeNames)
    (hcap : b.NoCapture x (.ident y)) : AlphaEq (.lam x b) (.lam y (b.replace x (.ident y))) :=
  .lam (alphaUnder_replace hb hy hcap)

theorem alphaEq_letIn (hd : d.WellFormed) (hb : b.WellFormed) (hy : y ∉ b.freeNames)
    (hcap : b.NoCapture x (.ident y)) :
    AlphaEq (.letIn x d b) (.letIn y d (b.replace x (.ident y))) :=
  .letIn (alphaEq_refl hd) (alphaUnder_replace hb hy hcap)

theorem alphaEq_letrec (hd : d.WellFormed) (hb : b.WellFormed) (hyd : y ∉ d.freeNames)
    (hyb : y ∉ b.freeNames) (hcapd : d.NoCapture x (.ident y)) (hcapb : b.NoCapture x (.ident y)) :
    AlphaEq (.letrec x d b) (.letrec y (d.replace x (.ident y)) (b.replace x (.ident y))) :=
  .letrec (alphaUnder_replace hd hyd hcapd) (alphaUnder_replace hb hyb hcapb)

end Term

open Term (SameName AlphaUnder AlphaEq)

/-! ## Environments -/

variable {binders : List (String × String)} {x x' : String} {e e' : Term} {env env' : Env}
  {pinned : List Ty}

/-- Names that mean the same have the same entry, or they are the same name without one. -/
def EnvsMatch (binders : List (String × String)) (env env' : Env) : Prop :=
  ∀ x x', SameName binders x x' →
    env'.lookup x' = env.lookup x ∧ (env.lookup x = none → x' = x)

theorem envsMatch_nil (env : Env) : EnvsMatch [] env env := by
  rintro x _ rfl
  exact ⟨rfl, fun _ => rfl⟩

theorem EnvsMatch.extend (h : EnvsMatch binders env env') (y y' : String) (t : Ty) :
    EnvsMatch ((y, y') :: binders) (env.extend y t) (env'.extend y' t) := by
  intro x x' hx
  rw [lookup_extend, lookup_extend]
  rcases hx with ⟨rfl, rfl⟩ | ⟨⟨hne, hne'⟩, hx⟩
  · simp
  · rw [if_neg hne, if_neg hne']
    exact h x x' hx

theorem EnvsMatch.typeOfName_eq (h : EnvsMatch binders env env') (hx : SameName binders x x') :
    typeOfName x' env' pinned = typeOfName x env pinned := by
  obtain ⟨hlookup, hsame⟩ := h x x' hx
  unfold typeOfName
  rw [hlookup]
  cases hl : env.lookup x with
  | some t => rfl
  | none => rw [hsame hl]

/-! ## Analysis -/

section Generic

variable {m : Type → Type} [Monad m] [MonadLiftT StoreM m] {around : Term → m Ty → m Ty}
  {J : (α : Type) → m α → m α → Prop}

/-- A way to compare computations that keeps steps together, whatever well-formed terms are told to
what is run around them. -/
structure Lockstep (J : (α : Type) → m α → m α → Prop) (around : Term → m Ty → m Ty) : Prop where
  pure {α : Type} (a : α) : J α (pure a) (pure a)
  lift {α : Type} (x : StoreM α) : J α (liftM x) (liftM x)
  bind {α β : Type} {x y : m α} {f g : α → m β} :
    J α x y → (∀ a, J β (f a) (g a)) → J β (x >>= f) (y >>= g)
  around {e e' : Term} {x y : m Ty} :
    e.WellFormed → e'.WellFormed → J Ty x y → J Ty (around e x) (around e' y)

/-- Analyses of terms that differ in bound names only go in lockstep. -/
theorem analyseWith_alpha (hJ : Lockstep J around) (h : AlphaUnder binders e e') :
    ∀ {env env' : Env} {pinned : List Ty}, EnvsMatch binders env env' →
      J Ty (analyseWith typeOfName around e env pinned)
        (analyseWith typeOfName around e' env' pinned) := by
  induction h with
  | ident hx =>
    intro env env' pinned henv
    rw [analyseWith, analyseWith, henv.typeOfName_eq hx]
    exact hJ.around trivial trivial (hJ.lift _)
  | @lam binders x x' b b' hb ih =>
    intro env env' pinned henv
    obtain ⟨hwf, hwf'⟩ := hb.wellFormed
    refine hJ.around hwf hwf' (hJ.bind (hJ.lift _) fun v => ?_)
    exact hJ.bind (ih (henv.extend x x' _)) fun t => hJ.pure _
  | app hf ha ihf iha =>
    intro env env' pinned henv
    obtain ⟨hwf, hwf'⟩ := (AlphaUnder.app hf ha).wellFormed
    refine hJ.around hwf hwf' (hJ.bind (ihf henv) fun function => hJ.bind (iha henv) fun argument =>
      hJ.bind (hJ.lift _) fun v => hJ.bind (hJ.lift _) fun _ => hJ.pure _)
  | @letIn binders x x' d d' b b' hd hb ihd ihb =>
    intro env env' pinned henv
    obtain ⟨hwf, hwf'⟩ := (AlphaUnder.letIn hd hb).wellFormed
    exact hJ.around hwf hwf' (hJ.bind (ihd henv) fun definition => ihb (henv.extend x x' _))
  | @letrec binders x x' d d' b b' hd hb ihd ihb =>
    intro env env' pinned henv
    obtain ⟨hwf, hwf'⟩ := (AlphaUnder.letrec hd hb).wellFormed
    refine hJ.around hwf hwf' (hJ.bind (hJ.lift _) fun v => ?_)
    refine hJ.bind (ihd (henv.extend x x' _)) fun definition => ?_
    exact hJ.bind (hJ.lift _) fun _ => ihb (henv.extend x x' _)

theorem inferWith_alpha (hJ : Lockstep J around) (h : AlphaEq e e') (env : Option Env) :
    J Ty (inferWith (analyseWith typeOfName around) e env)
      (inferWith (analyseWith typeOfName around) e' env) := by
  have hmain : ∀ env, J Ty (do
      let t ← analyseWith typeOfName around e env []
      liftM (StoreWithM.within ({} : Namer) (nameVariables t)))
      (do
      let t ← analyseWith typeOfName around e' env []
      liftM (StoreWithM.within ({} : Namer) (nameVariables t))) := fun env =>
    hJ.bind (analyseWith_alpha hJ h (envsMatch_nil env)) fun t => hJ.lift _
  cases env with
  | some env => exact hJ.bind (hJ.pure env) hmain
  | none => exact hJ.bind (hJ.lift Env.prelude) hmain

end Generic

theorem lockstep_eq : Lockstep (m := StoreM) (fun _ x y => x = y) (fun _ x => x) where
  pure _ := rfl
  lift _ := rfl
  bind hx hf := by rw [hx, bind_congr hf]
  around _ _ h := h

/-! ## Reports -/

namespace Trace

/-- The states differ in what has been written only. -/
structure SameButLog (p q : Store × Trace) : Prop where
  store : q.1 = p.1
  depth : q.2.depth = p.2.depth
  namer : q.2.namer = p.2.namer

/-- The computations end in the same way but for what they write. -/
def InStep (α : Type) (x y : TraceM α) : Prop :=
  ∀ p q, SameButLog p q →
    Alike x p y q (fun a b p' q' => b = a ∧ SameButLog p' q') SameButLog

theorem SameButLog.enter {s s' : Store} {tr tr' : Trace} (h : SameButLog (s, tr) (s', tr')) :
    SameButLog (s, if tr.depth = 0 then { tr with namer := {} } else tr)
      (s', if tr'.depth = 0 then { tr' with namer := {} } else tr') := by
  rw [h.depth]
  split
  · exact ⟨h.store, rfl, rfl⟩
  · exact h

/-- Reports on two terms that can be shown, when their analyses are in step. -/
theorem InStep.around {x y : TraceM Ty} (h : InStep Ty x y) (he : e.WellFormed)
    (he' : e'.WellFormed) : InStep Ty (around e x) (around e' y) := by
  rintro ⟨s, tr⟩ ⟨s', tr'⟩ hsame
  obtain ⟨text, htext⟩ := he.exists_render
  obtain ⟨text', htext'⟩ := he'.exists_render
  unfold Trace.around
  refine .bind ?_
  rw [alike_enter, Term.title_of_render htext, Term.title_of_render htext']
  have hentered := hsame.enter
  revert hentered
  generalize (if tr.depth = 0 then { tr with namer := {} } else tr) = tr₁
  generalize (if tr'.depth = 0 then { tr' with namer := {} } else tr') = tr₁'
  intro hentered
  refine .bind ?_
  rw [alike_write]
  refine .bind ?_
  rw [alike_deeper]
  refine (h _ _ ?_).mono ?_ ?_
  · exact ⟨hentered.store, congrArg (· + 1) hentered.depth, hentered.namer⟩
  · rintro t _ ⟨s₂, tr₂⟩ ⟨s₂', tr₂'⟩ ⟨rfl, hstore, hdepth, hnamer⟩
    replace hdepth : tr₂'.depth - 1 = tr₂.depth - 1 := congrArg (· - 1) hdepth
    replace hnamer : tr₂'.namer = tr₂.namer := hnamer
    obtain rfl : s₂' = s₂ := hstore
    refine .bind ?_
    rw [alike_showType]
    dsimp only
    rw [hnamer]
    refine (Alike.refl _ _).mono ?_ ?_
    · rintro type _ p _ ⟨rfl, rfl⟩
      exact ⟨rfl, rfl, hdepth, rfl⟩
    · rintro p _ rfl
      exact ⟨rfl, hdepth, rfl⟩
  · exact fun _ _ h => ⟨h.store, congrArg (· - 1) h.depth, h.namer⟩

theorem lockstep_inStep : Lockstep InStep around where
  pure a := fun p q h => ⟨rfl, h⟩
  lift x := by
    rintro ⟨s, tr⟩ ⟨_, tr'⟩ ⟨hstore, hdepth, hnamer⟩
    obtain rfl : _ = s := hstore
    rw [alike_lift]
    refine (Alike.refl x _).mono ?_ ?_
    · rintro a _ s₁ _ ⟨rfl, rfl⟩
      exact ⟨rfl, rfl, hdepth, hnamer⟩
    · rintro s₁ _ rfl
      exact ⟨rfl, hdepth, hnamer⟩
  bind hx hf := by
    intro p q h
    refine .bind ((hx p q h).mono ?_ (fun _ _ h => h))
    rintro a _ p' q' ⟨rfl, h'⟩
    exact hf _ p' q' h'
  around he he' h := h.around he he'

end Trace

/-! ## Inference -/

/-- Inference does not see the names of binders: for terms that differ in them only it returns the
same type in the same store, or it fails in the same way, and so does inference that reports. -/
theorem infer_alphaEq (h : AlphaEq e e') (env : Option Env) (s : Store) :
    infer e env s = infer e' env s ∧
    ∀ tr, Alike (inferTraced e env) (s, tr) (inferTraced e' env) (s, tr)
      (fun t t' p p' => t' = t ∧ p'.1 = p.1) (fun p p' => p'.1 = p.1) := by
  constructor
  · exact congrFun (inferWith_alpha lockstep_eq h env) s
  · intro tr
    exact (inferWith_alpha Trace.lockstep_inStep h env (s, tr) (s, tr) ⟨rfl, rfl, rfl⟩).mono
      (fun _ _ _ _ hq => ⟨hq.1, hq.2.store⟩) (fun _ _ hq => hq.store)

/-- A function with a recursive definition, and the same with names that hide an integer, a name of
the prelude and each other. -/
theorem infer_alphaEq_shadowed :
    let e : Term := .lam "x" (.letrec "f" (.lam "n" (.app (.ident "f") (.ident "n")))
      (.app (.ident "f") (.ident "x")))
    let e' : Term := .lam "7" (.letrec "true" (.lam "7" (.app (.ident "true") (.ident "7")))
      (.app (.ident "true") (.ident "7")))
    AlphaEq e e' ∧
      ∃ t s₁, infer e none Store.empty = .ok t s₁ ∧ infer e' none Store.empty = .ok t s₁ := by
  intro e e'
  have halpha : AlphaEq e e' := by
    refine .lam (.letrec (.lam (.app (.ident ?_) (.ident ?_))) (.app (.ident ?_) (.ident ?_)))
    all_goals simp [SameName]
  obtain ⟨t, s₁, h, _⟩ := exists_ok_of_test (x := infer e none) (s := Store.empty)
    (p := fun _ _ => true) (by decide +kernel)
  refine ⟨halpha, t, s₁, h, ?_⟩
  rw [← (infer_alphaEq halpha none Store.empty).1]
  exact h

end LetPoly
