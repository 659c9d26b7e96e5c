import LetPoly.Infer
import LetPoly.Proofs.Alike

/-!
# Analyses side by side

Two analyses of one term are compared by saying which states and types belong together and how the
states move. If each thing that analysis does respects the comparison (`Comparison.Lawful`), so do
analyses of whole terms (`Comparison.Lawful.analyseWith`): this is the one induction on terms that
comparisons share.
-/

namespace LetPoly

/-- A way to compare two analyses that keep states of their own. -/
structure Comparison (σ τ : Type) where
  /-- Analyses in these environments, with these types pinned, may start from the states. -/
  start : Env → Env → List Ty → List Ty → σ → τ → Prop
  /-- The first two states have moved to the last two. -/
  moved : σ → τ → σ → τ → Prop
  /-- The types belong together in the states. -/
  same : σ → τ → Ty → Ty → Prop

namespace Comparison

variable {σ τ : Type} {K : Comparison σ τ} {env env' : Env} {pinned pinned' : List Ty}

/-- From all states that may be started from, the computations end with types that belong together,
or with the same failure. -/
def Agrees (K : Comparison σ τ) (env env' : Env) (pinned pinned' : List Ty)
    (x : EStateM Error σ Ty) (y : EStateM Error τ Ty) : Prop :=
  ∀ c c', K.start env env' pinned pinned' c c' →
    Alike x c y c' (fun t t' d d' => K.moved c c' d d' ∧ K.same d d' t t') (K.moved c c')

variable [MonadLiftT StoreM (EStateM Error σ)] [MonadLiftT StoreM (EStateM Error τ)]
  {typeOf typeOf' : String → Env → List Ty → StoreM Ty}
  {around : Term → EStateM Error σ Ty → EStateM Error σ Ty}
  {around' : Term → EStateM Error τ Ty → EStateM Error τ Ty} {c d : σ} {c' d' : τ}

/-- What analysis does respects the comparison, with one clause for each thing that it does. -/
structure Lawful (K : Comparison σ τ) (typeOf typeOf' : String → Env → List Ty → StoreM Ty)
    (around : Term → EStateM Error σ Ty → EStateM Error σ Ty)
    (around' : Term → EStateM Error τ Ty → EStateM Error τ Ty) : Prop where
  trans : ∀ {c c' d d' e e'}, K.moved c c' d d' → K.moved d d' e e' → K.moved c c' e e'
  start_later : ∀ {env env' pinned pinned' c c' d d'}, K.moved c c' d d' →
    K.start env env' pinned pinned' c c' → K.start env env' pinned pinned' d d'
  same_later : ∀ {t t' c c' d d'}, K.moved c c' d d' → K.same c c' t t' → K.same d d' t t'
  extend : ∀ {env env' pinned pinned' t t' c c'} (x : String),
    K.start env env' pinned pinned' c c' → K.same c c' t t' →
    K.start (env.extend x t) (env'.extend x t') pinned pinned' c c'
  pin : ∀ {env env' pinned pinned' t t' c c'}, K.start env env' pinned pinned' c c' →
    K.same c c' t t' → K.start env env' (t :: pinned) (t' :: pinned') c c'
  fn : ∀ {env env' pinned pinned' t t' u u' c c'}, K.start env env' pinned pinned' c c' →
    K.same c c' t t' → K.same c c' u u' → K.same c c' (.fn t u) (.fn t' u')
  newVar : ∀ {env env' pinned pinned' c c'}, K.start env env' pinned pinned' c c' →
    Alike (liftM newVar : EStateM Error σ Var) c (liftM newVar : EStateM Error τ Var) c'
      (fun v v' d d' => K.moved c c' d d' ∧ K.same d d' (.var v) (.var v')) (fun _ _ => False)
  unify : ∀ {env env' pinned pinned' t t' u u' c c'}, K.start env env' pinned pinned' c c' →
    K.same c c' t t' → K.same c c' u u' →
    Alike (liftM (unify t u) : EStateM Error σ Unit) c
      (liftM (unify t' u') : EStateM Error τ Unit) c' (fun _ _ => K.moved c c') (K.moved c c')
  name : ∀ {env env' pinned pinned'} (x : String), K.Agrees env env' pinned pinned'
    (liftM (typeOf x env pinned)) (liftM (typeOf' x env' pinned'))
  throw : ∀ {env env' pinned pinned'} (e : Error), K.Agrees env env' pinned pinned'
    (liftM (throw e : StoreM Ty)) (liftM (throw e : StoreM Ty))
  around : ∀ {env env' pinned pinned' x y} (e : Term), K.Agrees env env' pinned pinned' x y →
    K.Agrees env env' pinned pinned' (around e x) (around' e y)

/-- A part of a term, after the states have moved. -/
theorem Lawful.after (h : K.Lawful typeOf typeOf' around around') {x : EStateM Error σ Ty}
    {y : EStateM Error τ Ty} (hxy : K.Agrees env env' pinned pinned' x y)
    (hm : K.moved c c' d d') (hstart : K.start env env' pinned pinned' d d') :
    Alike x d y d' (fun t t' e e' => K.moved c c' e e' ∧ K.moved d d' e e' ∧ K.same e e' t t')
      (K.moved c c') :=
  (hxy d d' hstart).mono (fun _ _ _ _ hq => ⟨h.trans hm hq.1, hq⟩) (fun _ _ hq => h.trans hm hq)

/-- A new variable, after the states have moved. -/
theorem Lawful.newVar_after (h : K.Lawful typeOf typeOf' around around') (hm : K.moved c c' d d')
    (hstart : K.start env env' pinned pinned' d d') {E : σ → τ → Prop} :
    Alike (liftM LetPoly.newVar : EStateM Error σ Var) d
      (liftM LetPoly.newVar : EStateM Error τ Var) d'
      (fun v v' e e' => K.moved c c' e e' ∧ K.moved d d' e e' ∧ K.same e e' (.var v) (.var v')) E :=
  (h.newVar hstart).mono (fun _ _ _ _ hq => ⟨h.trans hm hq.1, hq⟩) (fun _ _ hq => hq.elim)

/-- Analyses of a term respect a lawful comparison. -/
theorem Lawful.analyseWith (h : K.Lawful typeOf typeOf' around around') (e : Term) :
    ∀ {env env' : Env} {pinned pinned' : List Ty}, K.Agrees env env' pinned pinned'
      (analyseWith typeOf around e env pinned) (analyseWith typeOf' around' e env' pinned') := by
  induction e with
  | ident x =>
    intro env env' pinned pinned'
    exact h.around _ (h.name x)
  | lam x body ih =>
    intro env env' pinned pinned'
    refine h.around _ fun c c' hstart => ?_
    refine .bind ((h.newVar hstart).mono ?_ (fun _ _ h => h.elim))
    rintro v v' c₁ c₁' ⟨hm₁, hv⟩
    have hstart₁ := h.start_later hm₁ hstart
    refine .bind ((h.after ih hm₁ (h.pin (h.extend x hstart₁ hv) hv)).mono ?_ (fun _ _ h => h))
    rintro t t' c₂ c₂' ⟨hm₂, h₁₂, ht⟩
    exact ⟨hm₂, h.fn (h.start_later hm₂ hstart) (h.same_later h₁₂ hv) ht⟩
  | lamOver p body _ ih =>
    intro env env' pinned pinned'
    refine h.around _ fun c c' hstart => ?_
    refine .bind ((h.newVar hstart).mono ?_ (fun _ _ h => h.elim))
    rintro v v' c₁ c₁' ⟨hm₁, hv⟩
    refine .bind ((h.after ih hm₁ (h.pin (h.start_later hm₁ hstart) hv)).mono ?_ (fun _ _ h => h))
    rintro t t' c₂ c₂' ⟨hm₂, h₁₂, ht⟩
    exact ⟨hm₂, h.fn (h.start_later hm₂ hstart) (h.same_later h₁₂ hv) ht⟩
  | app f a ihf iha =>
    intro env env' pinned pinned'
    refine h.around _ fun c c' hstart => ?_
    refine .bind ((ihf c c' hstart).mono ?_ (fun _ _ h => h))
    rintro t t' c₁ c₁' ⟨hm₁, ht⟩
    refine .bind ((h.after iha hm₁ (h.start_later hm₁ hstart)).mono ?_ (fun _ _ h => h))
    rintro u u' c₂ c₂' ⟨hm₂, h₁₂, hu⟩
    refine .bind ((h.newVar_after hm₂ (h.start_later hm₂ hstart)).mono ?_ (fun _ _ h => h))
    rintro v v' c₃ c₃' ⟨hm₃, h₂₃, hv⟩
    have hstart₃ := h.start_later hm₃ hstart
    have ht₃ := h.same_later h₂₃ (h.same_later h₁₂ ht)
    refine .bind ((h.unify hstart₃ (h.fn hstart₃ (h.same_later h₂₃ hu) hv) ht₃).mono ?_ ?_)
    · exact fun _ _ _ _ h₃₄ => ⟨h.trans hm₃ h₃₄, h.same_later h₃₄ hv⟩
    · exact fun _ _ h₃₄ => h.trans hm₃ h₃₄
  | letIn x d b ihd ihb =>
    intro env env' pinned pinned'
    refine h.around _ fun c c' hstart => ?_
    refine .bind ((ihd c c' hstart).mono ?_ (fun _ _ h => h))
    rintro t t' c₁ c₁' ⟨hm₁, ht⟩
    refine (h.after ihb hm₁ (h.extend x (h.start_later hm₁ hstart) ht)).mono ?_ (fun _ _ h => h)
    exact fun _ _ _ _ hq => ⟨hq.1, hq.2.2⟩
  | letrec x d b ihd ihb =>
    intro env env' pinned pinned'
    refine h.around _ fun c c' hstart => ?_
    refine .bind ((h.newVar hstart).mono ?_ (fun _ _ h => h.elim))
    rintro v v' c₁ c₁' ⟨hm₁, hv⟩
    have hstart₁ := h.start_later hm₁ hstart
    refine .bind ((h.after ihd hm₁ (h.pin (h.extend x hstart₁ hv) hv)).mono ?_ (fun _ _ h => h))
    rintro t t' c₂ c₂' ⟨hm₂, h₁₂, ht⟩
    have hv₂ := h.same_later h₁₂ hv
    refine .bind ((h.unify (h.start_later hm₂ hstart) hv₂ ht).mono ?_ ?_)
    · intro _ _ c₃ c₃' h₂₃
      have hm₃ := h.trans hm₂ h₂₃
      have hstart₃ := h.extend x (h.start_later hm₃ hstart) (h.same_later h₂₃ hv₂)
      refine (h.after ihb hm₃ hstart₃).mono ?_ (fun _ _ h => h)
      exact fun _ _ _ _ hq => ⟨hq.1, hq.2.2⟩
    · exact fun _ _ h₂₃ => h.trans hm₂ h₂₃
  | bare =>
    intro env env' pinned pinned'
    exact h.around _ (h.throw .invalidTerm)
  | missing =>
    intro env env' pinned pinned'
    exact h.around _ (h.throw .missingTerm)

end Comparison

end LetPoly
