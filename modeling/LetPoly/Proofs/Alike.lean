import LetPoly.Proofs.Looking

/-!
# Two computations side by side

`Both x s y t Q E` says that `x` from `s` and `y` from `t` end together: both with a result, and
then the results and the states are in `Q`, or both with a failure, and then the failures and the
states are in `E`. `Alike x s y t Q E` asks for the same failure. The two computations may keep
different states.

As for one computation (`Ends`), there is a rule for each way of putting computations together.
-/

namespace LetPoly

open Store

/-! ## Ending together -/

/-- Both computations succeed and end in `Q`, or both fail and end in `E`. -/
def Both {ε σ τ α β : Type} (x : EStateM ε σ α) (s : σ) (y : EStateM ε τ β) (t : τ)
    (Q : α → β → σ → τ → Prop) (E : ε → ε → σ → τ → Prop) : Prop :=
  Ends x s
    (fun a s' => Ends y t (fun b t' => Q a b s' t') (fun _ _ => False))
    (fun e s' => Ends y t (fun _ _ => False) (fun e' t' => E e e' s' t'))

section

variable {ε σ τ α β γ δ : Type} {x : EStateM ε σ α} {s : σ} {y : EStateM ε τ β} {t : τ}
  {Q Q' : α → β → σ → τ → Prop} {E E' : ε → ε → σ → τ → Prop}
  {P : α → σ → Prop} {F : ε → σ → Prop} {P' : β → τ → Prop} {F' : ε → τ → Prop}

/-- What is said about the two ways of ending may be weakened. -/
theorem Both.mono (h : Both x s y t Q E) (hQ : ∀ a b s' t', Q a b s' t' → Q' a b s' t')
    (hE : ∀ e e' s' t', E e e' s' t' → E' e e' s' t') : Both x s y t Q' E' := by
  refine Ends.mono h (fun a s' h => ?_) (fun e s' h => ?_)
  · exact h.mono (fun b t' h => hQ a b s' t' h) (fun _ _ h => h)
  · exact h.mono (fun _ _ h => h) (fun e' t' h => hE e e' s' t' h)

/-- What is known of each computation on its own may be added. -/
theorem Both.and_ends (h : Both x s y t Q E) (hx : Ends x s P F) (hy : Ends y t P' F') :
    Both x s y t (fun a b s' t' => Q a b s' t' ∧ P a s' ∧ P' b t')
      (fun e e' s' t' => E e e' s' t' ∧ F e s' ∧ F' e' t') := by
  refine (Ends.and h hx).mono (fun a s' h => ?_) (fun e s' h => ?_)
  · exact (h.1.and hy).mono (fun b t' h' => ⟨h'.1, h.2, h'.2⟩) (fun _ _ h' => h'.1)
  · exact (h.1.and hy).mono (fun _ _ h' => h'.1) (fun e' t' h' => ⟨h'.1, h.2, h'.2⟩)

/-- Computations end together if what is known of one excludes the other way of ending for the
other. -/
theorem Both.of_ends (hx : Ends x s P F) (hy : Ends y t P' F')
    (hleft : ∀ a s' e' t', P a s' → ¬ F' e' t') (hright : ∀ e s' b t', F e s' → ¬ P' b t') :
    Both x s y t (fun a b s' t' => P a s' ∧ P' b t') (fun e e' s' t' => F e s' ∧ F' e' t') := by
  refine hx.mono (fun a s' ha => ?_) (fun e s' he => ?_)
  · exact hy.mono (fun b t' hb => ⟨ha, hb⟩) (fun e' t' he' => hleft a s' e' t' ha he')
  · exact hy.mono (fun b t' hb => hright e s' b t' he hb) (fun e' t' he' => ⟨he, he'⟩)

theorem Both.of_ok {a : α} {s' : σ} (h : Both x s y t Q E) (hx : x s = .ok a s') :
    ∃ b t', y t = .ok b t' ∧ Q a b s' t' :=
  (Ends.of_ok h hx).exists_ok

theorem Both.of_error {e : ε} {s' : σ} (h : Both x s y t Q E) (hx : x s = .error e s') :
    ∃ e' t', y t = .error e' t' ∧ E e e' s' t' :=
  (Ends.of_error h hx).exists_error

/-- One step after the other. -/
theorem Both.bind {f : α → EStateM ε σ γ} {g : β → EStateM ε τ δ} {Q : γ → δ → σ → τ → Prop}
    (h : Both x s y t (fun a b s' t' => Both (f a) s' (g b) t' Q E) E) :
    Both (x >>= f) s (y >>= g) t Q E := by
  unfold Both at h ⊢
  rw [ends_bind]
  refine h.mono (fun a s' h => ?_) (fun e s' h => ?_)
  · -- the first steps have succeeded, so the outcomes are those of the second steps
    unfold Ends at h
    cases hy : y t with
    | error e t' =>
      rw [hy] at h
      exact h.elim
    | ok b t' =>
      rw [hy] at h
      have hyg : ∀ {P : δ → τ → Prop} {F : ε → τ → Prop},
          Ends (y >>= g) t P F ↔ Ends (g b) t' P F := by
        intro P F
        unfold Ends
        rw [bind_of_ok hy]
      simp only [hyg]
      exact h
  · rw [ends_bind]
    exact h.mono (fun _ _ h => h.elim) (fun _ _ h => h)

/-- What each step of two traversals of related lists keeps, the traversals keep. -/
theorem Both.forM {f : α → EStateM ε σ PUnit} {g : β → EStateM ε τ PUnit} {I : σ → τ → Prop}
    {R : α → β → Prop} {l : List α} {l' : List β} (hl : List.Forall₂ R l l')
    (hstep : ∀ a ∈ l, ∀ b, R a b → ∀ s t, I s t →
      Both (f a) s (g b) t (fun _ _ s' t' => I s' t') E) :
    ∀ {s : σ} {t : τ}, I s t → Both (l.forM f) s (l'.forM g) t (fun _ _ s' t' => I s' t') E := by
  induction hl with
  | nil => exact fun hI => hI
  | @cons a b l l' hab _ ih =>
    intro s t hI
    show Both (f a >>= fun _ => l.forM f) s (g b >>= fun _ => l'.forM g) t _ _
    refine .bind ((hstep a (by simp) b hab s t hI).mono (fun _ _ s' t' hI' => ?_)
      (fun _ _ _ _ h => h))
    exact ih (fun c hc => hstep c (by simp [hc])) hI'

end

/-! ## Ending alike -/

/-- Both computations succeed and end in `Q`, or both fail in the same way and end in `E`. -/
def Alike {ε σ τ α β : Type} (x : EStateM ε σ α) (s : σ) (y : EStateM ε τ β) (t : τ)
    (Q : α → β → σ → τ → Prop) (E : σ → τ → Prop) : Prop :=
  Ends x s
    (fun a s' => Ends y t (fun b t' => Q a b s' t') (fun _ _ => False))
    (fun e s' => Ends y t (fun _ _ => False) (fun e' t' => e' = e ∧ E s' t'))

section

variable {ε σ τ α β γ δ : Type} {x : EStateM ε σ α} {s : σ} {y : EStateM ε τ β} {t : τ}
  {Q Q' : α → β → σ → τ → Prop} {E E' : σ → τ → Prop}

/-- What is said about the two ways of ending may be weakened. -/
theorem Alike.mono (h : Alike x s y t Q E) (hQ : ∀ a b s' t', Q a b s' t' → Q' a b s' t')
    (hE : ∀ s' t', E s' t' → E' s' t') : Alike x s y t Q' E' :=
  Both.mono h hQ fun _ _ s' t' h => ⟨h.1, hE s' t' h.2⟩

/-- What is known of each computation on its own may be added. -/
theorem Alike.and_ends {P : α → σ → Prop} {F : ε → σ → Prop} {P' : β → τ → Prop}
    {F' : ε → τ → Prop} (h : Alike x s y t Q E) (hx : Ends x s P F) (hy : Ends y t P' F') :
    Alike x s y t (fun a b s' t' => Q a b s' t' ∧ P a s' ∧ P' b t')
      (fun s' t' => E s' t' ∧ ∃ e, F e s' ∧ F' e t') := by
  refine (Both.and_ends h hx hy).mono (fun _ _ _ _ h => h) ?_
  rintro e _ s' t' ⟨⟨rfl, hE⟩, hF, hF'⟩
  exact ⟨rfl, hE, _, hF, hF'⟩

/-- A computation ends in one way. -/
theorem Alike.refl (x : EStateM ε σ α) (s : σ) :
    Alike x s x s (fun a b s' t' => b = a ∧ t' = s') (fun s' t' => t' = s') := by
  unfold Alike Ends
  cases x s with
  | ok a s' => exact ⟨rfl, rfl⟩
  | error e s' => exact ⟨rfl, rfl⟩

/-- Only what the computations do from their states matters. -/
theorem Alike.of_starts {x₀ : EStateM ε σ α} {y₀ : EStateM ε τ β} {s₀ : σ} {t₀ : τ}
    (h : Alike x s y t Q E) (hx : x₀ s₀ = x s) (hy : y₀ t₀ = y t) : Alike x₀ s₀ y₀ t₀ Q E := by
  unfold Alike Ends at h ⊢
  rwa [hx, hy]

/-- Computations that cannot fail end alike. -/
theorem Alike.of_ends {P : α → σ → Prop} {P' : β → τ → Prop} (hx : Ends x s P fun _ _ => False)
    (hy : Ends y t P' fun _ _ => False) : Alike x s y t (fun a b s' t' => P a s' ∧ P' b t') E :=
  hx.mono (fun _ _ ha => hy.mono (fun _ _ hb => ⟨ha, hb⟩) (fun _ _ h => h)) (fun _ _ h => h.elim)

theorem Alike.of_ok {a : α} {s' : σ} (h : Alike x s y t Q E) (hx : x s = .ok a s') :
    ∃ b t', y t = .ok b t' ∧ Q a b s' t' :=
  Both.of_ok h hx

theorem Alike.of_error {e : ε} {s' : σ} (h : Alike x s y t Q E) (hx : x s = .error e s') :
    ∃ t', y t = .error e t' ∧ E s' t' := by
  obtain ⟨_, t', hy, rfl, hE⟩ := Both.of_error h hx
  exact ⟨t', hy, hE⟩

/-- How the first computation ends. -/
theorem Alike.ends_left (h : Alike x s y t Q E) :
    Ends x s (fun a s' => ∃ b t', Q a b s' t') (fun _ s' => ∃ t', E s' t') := by
  cases hx : x s with
  | ok a s' =>
    obtain ⟨b, t', _, hQ⟩ := h.of_ok hx
    unfold Ends
    rw [hx]
    exact ⟨b, t', hQ⟩
  | error e s' =>
    obtain ⟨t', _, hE⟩ := h.of_error hx
    unfold Ends
    rw [hx]
    exact ⟨t', hE⟩

/-- How the second computation ends. -/
theorem Alike.ends_right (h : Alike x s y t Q E) :
    Ends y t (fun b t' => ∃ a s', Q a b s' t') (fun _ t' => ∃ s', E s' t') := by
  cases hx : x s with
  | ok a s' =>
    obtain ⟨b, t', hy, hQ⟩ := h.of_ok hx
    unfold Ends
    rw [hy]
    exact ⟨a, s', hQ⟩
  | error e s' =>
    obtain ⟨t', hy, hE⟩ := h.of_error hx
    unfold Ends
    rw [hy]
    exact ⟨s', hE⟩

/-- Computations that end alike and cannot fail succeed. -/
theorem Alike.exists_ok (h : Alike x s y t Q fun _ _ => False) :
    ∃ a b s' t', x s = .ok a s' ∧ y t = .ok b t' ∧ Q a b s' t' := by
  have hx : Ends x s (fun a s' => Ends y t (fun b t' => Q a b s' t') fun _ _ => False)
      (fun _ _ => False) := by
    refine Ends.mono h (fun _ _ h => h) (fun e s' h => ?_)
    obtain ⟨_, _, _, h⟩ := (h.mono (fun _ _ h => h) fun _ _ h => h.2).exists_ok
    exact h
  obtain ⟨a, s', hx, hy⟩ := hx.exists_ok
  obtain ⟨b, t', hy, hQ⟩ := hy.exists_ok
  exact ⟨a, b, s', t', hx, hy, hQ⟩

/-! ## One rule for each combinator -/

@[simp] theorem alike_pure {a : α} {b : β} :
    Alike (pure a : EStateM ε σ α) s (pure b : EStateM ε τ β) t Q E ↔ Q a b s t := Iff.rfl

@[simp] theorem alike_throw {e e' : ε} :
    Alike (throw e : EStateM ε σ α) s (throw e' : EStateM ε τ β) t Q E ↔ e' = e ∧ E s t := Iff.rfl

@[simp] theorem alike_get {Q : σ → τ → σ → τ → Prop} :
    Alike (get : EStateM ε σ σ) s (get : EStateM ε τ τ) t Q E ↔ Q s t s t := Iff.rfl

@[simp] theorem alike_modifyGet {f : σ → α × σ} {g : τ → β × τ} :
    Alike (modifyGet f : EStateM ε σ α) s (modifyGet g : EStateM ε τ β) t Q E ↔
      Q (f s).1 (g t).1 (f s).2 (g t).2 := Iff.rfl

/-- One step after the other. -/
theorem Alike.bind {f : α → EStateM ε σ γ} {g : β → EStateM ε τ δ} {Q : γ → δ → σ → τ → Prop}
    (h : Alike x s y t (fun a b s' t' => Alike (f a) s' (g b) t' Q E) E) :
    Alike (x >>= f) s (y >>= g) t Q E :=
  Both.bind h

/-! ## Lists -/

/-- What each step of two traversals of related lists keeps, the traversals keep. -/
theorem Alike.forM {f : α → EStateM ε σ PUnit} {g : β → EStateM ε τ PUnit} {I : σ → τ → Prop}
    {R : α → β → Prop} {l : List α} {l' : List β} (hl : List.Forall₂ R l l')
    (hstep : ∀ a ∈ l, ∀ b, R a b → ∀ s t, I s t →
      Alike (f a) s (g b) t (fun _ _ s' t' => I s' t') E) :
    ∀ {s : σ} {t : τ}, I s t → Alike (l.forM f) s (l'.forM g) t (fun _ _ s' t' => I s' t') E :=
  Both.forM hl hstep

/-- What each step of two traversals that collect results keeps, the traversals keep; what is said
of the results is said of all of them as long as later steps do not spoil it. -/
theorem Alike.mapM {f : α → EStateM ε σ γ} {g : β → EStateM ε τ δ} {I : σ → τ → Prop}
    {R : α → β → Prop} {S : γ → δ → σ → τ → Prop} {l : List α} {l' : List β}
    (hl : List.Forall₂ R l l')
    (hstep : ∀ a ∈ l, ∀ b, R a b → ∀ s t, I s t → Alike (f a) s (g b) t
      (fun c d s' t' => I s' t' ∧ S c d s' t' ∧ ∀ c d, S c d s t → S c d s' t') E) :
    ∀ {s : σ} {t : τ}, I s t → Alike (l.mapM f) s (l'.mapM g) t
      (fun cs ds s' t' => I s' t' ∧ List.Forall₂ (S · · s' t') cs ds ∧
        ∀ c d, S c d s t → S c d s' t') E := by
  induction hl with
  | nil =>
    intro s t hI
    rw [List.mapM_nil, List.mapM_nil]
    exact ⟨hI, .nil, fun _ _ h => h⟩
  | @cons a b l l' hab _ ih =>
    intro s t hI
    rw [List.mapM_cons, List.mapM_cons]
    refine .bind ((hstep a (by simp) b hab s t hI).mono ?_ (fun _ _ h => h))
    rintro c d s₁ t₁ ⟨hI₁, hcd, hk₁⟩
    refine .bind ((ih (fun c hc => hstep c (by simp [hc])) hI₁).mono ?_ (fun _ _ h => h))
    rintro cs ds s₂ t₂ ⟨hI₂, hcds, hk₂⟩
    exact ⟨hI₂, .cons (hk₂ c d hcd) hcds, fun c d h => hk₂ c d (hk₁ c d h)⟩

end

/-! ## Computations on stores -/

section

variable {σ τ α β : Type} {s s' : Store} {c : σ} {c' : τ}

@[simp] theorem alike_prune {t t' : Ty} {Q : Ty → Ty → Store → Store → Prop}
    {E : Store → Store → Prop} :
    Alike (prune t) s (prune t') s' Q E ↔
      Q (s.find t) (s'.find t') (s.shorten t) (s'.shorten t') := Iff.rfl

@[simp] theorem alike_newVar {Q : Var → Var → Store → Store → Prop} {E : Store → Store → Prop} :
    Alike newVar s newVar s' Q E ↔
      Q (s.pushNext none).1 (s'.pushNext none).1 (s.pushNext none).2 (s'.pushNext none).2 := Iff.rfl

@[simp] theorem alike_stepsFor {ts ts' : List Ty} {Q : Nat → Nat → Store → Store → Prop}
    {E : Store → Store → Prop} :
    Alike (stepsFor ts) s (stepsFor ts') s' Q E ↔
      Q (s.depthBound ts) (s'.depthBound ts') s s' := Iff.rfl

@[simp] theorem alike_lift {x : StoreM α} {y : StoreM β} {Q : α → β → Store × σ → Store × τ → Prop}
    {E : Store × σ → Store × τ → Prop} :
    Alike (liftM x : StoreWithM σ α) (s, c) (liftM y : StoreWithM τ β) (s', c') Q E ↔
      Alike x s y s' (fun a b s₁ s₁' => Q a b (s₁, c) (s₁', c'))
        (fun s₁ s₁' => E (s₁, c) (s₁', c')) := by
  simp only [Alike, ends_lift]

@[simp] theorem alike_within {x : StoreWithM σ α} {y : StoreWithM τ β}
    {Q : α → β → Store → Store → Prop} {E : Store → Store → Prop} :
    Alike (StoreWithM.within c x) s (StoreWithM.within c' y) s' Q E ↔
      Alike x (s, c) y (s', c') (fun a b p p' => Q a b p.1 p'.1) (fun p p' => E p.1 p'.1) := by
  simp only [Alike, ends_within]

/-- A failure becomes part of the result. -/
theorem Alike.runFrom {x : StoreWithM σ α} {y : StoreWithM τ β}
    {Q : Except Error α × σ → Except Error β × τ → Store → Store → Prop} {E : Store → Store → Prop}
    (h : Alike x (s, c) y (s', c') (fun a b p p' => Q (.ok a, p.2) (.ok b, p'.2) p.1 p'.1)
      (fun p p' => ∀ e, Q (.error e, p.2) (.error e, p'.2) p.1 p'.1)) :
    Alike (StoreWithM.runFrom c x) s (StoreWithM.runFrom c' y) s' Q E := by
  unfold Alike at h ⊢
  simp only [ends_runFrom]
  refine h.mono (fun a p h => ?_) (fun e p h => ?_)
  · exact h.mono (fun _ _ hq => hq) (fun _ _ hq => hq.elim)
  · refine h.mono (fun _ _ hq => hq.elim) ?_
    rintro _ p' ⟨rfl, hq⟩
    exact hq _

end

end LetPoly
