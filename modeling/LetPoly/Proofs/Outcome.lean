import Mathlib.Data.List.Forall2
import LetPoly.Store

/-!
# Outcomes of computations

`Ends x s Q E` says how the computation `x` ends when it is run from `s`: with a result and a state
in `Q`, or with a failure and a state in `E`. Failures keep the state, so both ways of ending say
something about it.

There is one equation for each way of putting computations together, so that the outcome of a
whole follows from the outcomes of its parts.
-/

namespace LetPoly

/-- The computation ends in `Q` if it succeeds and in `E` if it fails. -/
def Ends {ε σ α : Type} (x : EStateM ε σ α) (s : σ) (Q : α → σ → Prop) (E : ε → σ → Prop) : Prop :=
  match x s with
  | .ok a s' => Q a s'
  | .error e s' => E e s'

section

variable {ε σ α β : Type} {x : EStateM ε σ α} {s : σ} {Q Q' : α → σ → Prop} {E E' : ε → σ → Prop}

theorem Ends.of_ok {a : α} {s' : σ} (h : Ends x s Q E) (hx : x s = .ok a s') : Q a s' := by
  unfold Ends at h
  rw [hx] at h
  exact h

theorem Ends.of_error {e : ε} {s' : σ} (h : Ends x s Q E) (hx : x s = .error e s') : E e s' := by
  unfold Ends at h
  rw [hx] at h
  exact h

/-- What is said of the outcome as a whole. -/
theorem ends_outcome {R : EStateM.Result ε σ α → Prop} :
    Ends x s (fun a s' => R (.ok a s')) (fun e s' => R (.error e s')) ↔ R (x s) := by
  unfold Ends
  cases x s <;> exact Iff.rfl

/-- A computation ends as it does. -/
theorem ends_self : Ends x s (fun a s' => x s = .ok a s') (fun e s' => x s = .error e s') :=
  ends_outcome.mpr rfl

/-- What is said about the two ways of ending may be weakened. -/
theorem Ends.mono (h : Ends x s Q E) (hQ : ∀ a s', Q a s' → Q' a s')
    (hE : ∀ e s', E e s' → E' e s') : Ends x s Q' E' := by
  unfold Ends at h ⊢
  cases hx : x s with
  | ok a s' => rw [hx] at h; exact hQ a s' h
  | error e s' => rw [hx] at h; exact hE e s' h

theorem Ends.and (h : Ends x s Q E) (h' : Ends x s Q' E') :
    Ends x s (fun a s' => Q a s' ∧ Q' a s') (fun e s' => E e s' ∧ E' e s') := by
  unfold Ends at h h' ⊢
  cases hx : x s with
  | ok a s' => rw [hx] at h h'; exact ⟨h, h'⟩
  | error e s' => rw [hx] at h h'; exact ⟨h, h'⟩

/-- A computation that cannot fail succeeds. -/
theorem Ends.exists_ok (h : Ends x s Q fun _ _ => False) : ∃ a s', x s = .ok a s' ∧ Q a s' := by
  unfold Ends at h
  cases hx : x s with
  | ok a s' => rw [hx] at h; exact ⟨a, s', rfl, h⟩
  | error e s' => rw [hx] at h; exact h.elim

/-- A computation that cannot succeed fails. -/
theorem Ends.exists_error (h : Ends x s (fun _ _ => False) E) :
    ∃ e s', x s = .error e s' ∧ E e s' := by
  unfold Ends at h
  cases hx : x s with
  | ok a s' => rw [hx] at h; exact h.elim
  | error e s' => rw [hx] at h; exact ⟨e, s', rfl, h⟩

/-- After a step that has succeeded comes the next. -/
theorem bind_of_ok {f : α → EStateM ε σ β} {a : α} {s₁ : σ} (hx : x s = .ok a s₁) :
    (x >>= f) s = f a s₁ := by
  show EStateM.bind x f s = f a s₁
  unfold EStateM.bind
  rw [hx]

/-- After a step that has failed comes nothing. -/
theorem bind_of_error {f : α → EStateM ε σ β} {e : ε} {s₁ : σ} (hx : x s = .error e s₁) :
    (x >>= f) s = .error e s₁ := by
  show EStateM.bind x f s = .error e s₁
  unfold EStateM.bind
  rw [hx]

/-- One step after the other succeeds if both do. -/
theorem bind_ok_iff {f : α → EStateM ε σ β} {c : β} {s' : σ} :
    (x >>= f) s = .ok c s' ↔ ∃ a s₁, x s = .ok a s₁ ∧ f a s₁ = .ok c s' := by
  change (match x s with
    | .ok a s₁ => f a s₁
    | .error e s₁ => .error e s₁) = _ ↔ _
  cases hx : x s with
  | ok a s₁ =>
    constructor
    · exact fun h => ⟨a, s₁, rfl, h⟩
    · rintro ⟨_, _, ⟨⟩, h⟩
      exact h
  | error e s₁ =>
    constructor
    · exact nofun
    · rintro ⟨_, _, ⟨⟩, _⟩

/-- A run whose result has been computed and found to pass a test. -/
theorem exists_ok_of_test {p : α → σ → Bool}
    (h : (match x s with
      | .ok a s' => p a s'
      | .error _ _ => false) = true) : ∃ a s', x s = .ok a s' ∧ p a s' = true := by
  cases hx : x s with
  | ok a s' => rw [hx] at h; exact ⟨a, s', rfl, h⟩
  | error e s' => rw [hx] at h; exact nomatch h

/-- A run whose failure has been computed and found to pass a test. -/
theorem exists_error_of_test {p : ε → σ → Bool}
    (h : (match x s with
      | .ok _ _ => false
      | .error e s' => p e s') = true) : ∃ e s', x s = .error e s' ∧ p e s' = true := by
  cases hx : x s with
  | ok a s' => rw [hx] at h; exact nomatch h
  | error e s' => rw [hx] at h; exact ⟨e, s', rfl, h⟩

/-! ## One equation for each combinator -/

@[simp] theorem ends_pure {a : α} : Ends (pure a : EStateM ε σ α) s Q E ↔ Q a s := Iff.rfl

@[simp] theorem ends_throw {e : ε} : Ends (throw e : EStateM ε σ α) s Q E ↔ E e s := Iff.rfl

@[simp] theorem ends_bind {f : α → EStateM ε σ β} {Q : β → σ → Prop} :
    Ends (x >>= f) s Q E ↔ Ends x s (fun a s' => Ends (f a) s' Q E) E := by
  show Ends (EStateM.bind x f) s Q E ↔ _
  unfold Ends EStateM.bind
  cases x s <;> exact Iff.rfl

@[simp] theorem ends_get {Q : σ → σ → Prop} : Ends (get : EStateM ε σ σ) s Q E ↔ Q s s := Iff.rfl

@[simp] theorem ends_modifyGet {f : σ → α × σ} :
    Ends (modifyGet f : EStateM ε σ α) s Q E ↔ Q (f s).1 (f s).2 := Iff.rfl

/-! ## Lists -/

/-- What each step of a traversal keeps, the traversal keeps. -/
theorem Ends.forM {f : α → EStateM ε σ PUnit} {I : σ → Prop} {l : List α}
    (hf : ∀ a ∈ l, ∀ s, I s → Ends (f a) s (fun _ s' => I s') E) :
    ∀ {s}, I s → Ends (l.forM f) s (fun _ s' => I s') E := by
  induction l with
  | nil => exact fun hs => hs
  | cons a l ih =>
    intro s hs
    show Ends (f a >>= fun _ => l.forM f) s _ _
    rw [ends_bind]
    refine (hf a (by simp) s hs).mono (fun _ s' hs' => ?_) (fun _ _ h => h)
    exact ih (fun b hb => hf b (by simp [hb])) hs'

/-- A search through a list finds out whether some member has a property, when each test does so
for one member. -/
theorem Ends.anyM {p : α → EStateM ε σ Bool} {P : α → Prop} [DecidablePred P] {I : σ → Prop}
    {l : List α}
    (hp : ∀ a ∈ l, ∀ s, I s → Ends (p a) s (fun b s' => b = decide (P a) ∧ I s') E) :
    ∀ {s}, I s → Ends (l.anyM p) s (fun b s' => b = decide (∃ a ∈ l, P a) ∧ I s') E := by
  induction l with
  | nil =>
    intro s hs
    exact ⟨by simp, hs⟩
  | cons a l ih =>
    intro s hs
    rw [List.anyM_cons, ends_bind]
    refine (hp a (by simp) s hs).mono (fun b s' ⟨hb, hs'⟩ => ?_) (fun _ _ h => h)
    cases b with
    | true => exact ⟨by simp [of_decide_eq_true hb.symm], hs'⟩
    | false =>
      have ha : ¬ P a := of_decide_eq_false hb.symm
      refine (ih (fun c hc => hp c (by simp [hc])) hs').mono (fun b s'' ⟨hb, hs''⟩ => ?_)
        (fun _ _ h => h)
      exact ⟨by simp [hb, ha], hs''⟩

/-- What each step of a traversal that collects results keeps, the traversal keeps; what is said
of the results is said of all of them as long as later steps do not spoil it. -/
theorem Ends.mapM {f : α → EStateM ε σ β} {I : σ → Prop} {R : α → β → σ → Prop} {l : List α}
    (hf : ∀ a ∈ l, ∀ s, I s → Ends (f a) s
      (fun b s' => I s' ∧ R a b s' ∧ ∀ a b, R a b s → R a b s') E) :
    ∀ {s}, I s → Ends (l.mapM f) s
      (fun bs s' => I s' ∧ List.Forall₂ (R · · s') l bs ∧ ∀ a b, R a b s → R a b s') E := by
  induction l with
  | nil =>
    intro s hs
    rw [List.mapM_nil, ends_pure]
    exact ⟨hs, .nil, fun _ _ h => h⟩
  | cons a l ih =>
    intro s hs
    simp only [List.mapM_cons, ends_bind, ends_pure]
    refine (hf a (by simp) s hs).mono (fun b s₁ ⟨hs₁, hb, hk₁⟩ => ?_) (fun _ _ h => h)
    refine (ih (fun c hc => hf c (by simp [hc])) hs₁).mono (fun bs s₂ ⟨hs₂, hbs, hk₂⟩ => ?_)
      (fun _ _ h => h)
    exact ⟨hs₂, .cons (hk₂ _ _ hb) hbs, fun _ _ h => hk₂ _ _ (hk₁ _ _ h)⟩

end

/-! ## Computations with a state of their own -/

section

variable {σ α : Type}

@[simp] theorem ends_lift {x : StoreM α} {s : Store} {c : σ} {Q : α → Store × σ → Prop}
    {E : Error → Store × σ → Prop} :
    Ends (liftM x : StoreWithM σ α) (s, c) Q E ↔
      Ends x s (fun a s' => Q a (s', c)) (fun e s' => E e (s', c)) := by
  show Ends (StoreM.widen x) (s, c) Q E ↔ _
  simp only [Ends, StoreM.widen]
  cases x s <;> exact Iff.rfl

@[simp] theorem ends_within {x : StoreWithM σ α} {s : Store} {c : σ} {Q : α → Store → Prop}
    {E : Error → Store → Prop} :
    Ends (StoreWithM.within c x) s Q E ↔
      Ends x (s, c) (fun a p => Q a p.1) (fun e p => E e p.1) := by
  unfold Ends StoreWithM.within
  cases x (s, c) <;> exact Iff.rfl

@[simp] theorem ends_runFrom {x : StoreWithM σ α} {s : Store} {c : σ}
    {Q : Except Error α × σ → Store → Prop} {E : Error → Store → Prop} :
    Ends (StoreWithM.runFrom c x) s Q E ↔
      Ends x (s, c) (fun a p => Q (.ok a, p.2) p.1) (fun e p => Q (.error e, p.2) p.1) := by
  unfold Ends StoreWithM.runFrom
  cases x (s, c) <;> exact Iff.rfl

end

end LetPoly
