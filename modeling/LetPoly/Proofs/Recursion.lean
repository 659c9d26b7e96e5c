import LetPoly.Proofs.TwinRuns

/-!
# Plain recursion

Looking up, occurrence, showing and unification as rules without any bound on the depth: a rule
for each equation, whose premises are the calls that the equation makes, in their order. A
derivation is the tree of calls of a run that comes to an end, so a run that goes on for ever has
none, and running out of steps is not among the outcomes.

* `PruneRun`, `OccursRun`, `ShowRun`, `UnifyRun` — a call and what it ends with
* `UnifyRun.unique` — a call ends with one outcome at most
-/

namespace LetPoly

open Store

/-! ## Looking up -/

/-- Looking up the representative of a type. The call for a bound variable looks up its binding and
rebinds the variable to what it gets. -/
inductive PruneRun : Store → Ty → Ty → Store → Prop
  | unbound {s v} : s.binding v = none → PruneRun s (.var v) (.var v) s
  | bound {s v t r s₁} : s.binding v = some t → PruneRun s t r s₁ →
      PruneRun s (.var v) r (s₁.rebind v r)
  | con {s name args} : PruneRun s (.con name args) (.con name args) s
  | bare {s} : PruneRun s .bare .bare s

theorem PruneRun.unique {s s₁ s₂ : Store} {t r₁ r₂ : Ty} (h₁ : PruneRun s t r₁ s₁)
    (h₂ : PruneRun s t r₂ s₂) : r₁ = r₂ ∧ s₁ = s₂ := by
  induction h₁ generalizing r₂ s₂ with
  | unbound hv =>
    cases h₂ with
    | unbound => exact ⟨rfl, rfl⟩
    | bound hv' => exact nomatch hv.symm.trans hv'
  | bound hv _ ih =>
    cases h₂ with
    | unbound hv' => exact nomatch hv.symm.trans hv'
    | bound hv' h₂ =>
      obtain ⟨⟩ := hv.symm.trans hv'
      obtain ⟨rfl, rfl⟩ := ih h₂
      exact ⟨rfl, rfl⟩
  | con => cases h₂; exact ⟨rfl, rfl⟩
  | bare => cases h₂; exact ⟨rfl, rfl⟩

/-! ## Occurrence -/

mutual

/-- Testing whether a variable occurs in a type. -/
inductive OccursRun (v : Var) : Store → Ty → Bool → Store → Prop
  | found {s t r s₁ b s₂} : PruneRun s t r s₁ → OccursFoundRun v s₁ r b s₂ → OccursRun v s t b s₂

/-- Testing whether a variable occurs in a representative. -/
inductive OccursFoundRun (v : Var) : Store → Ty → Bool → Store → Prop
  | var {s w} : OccursFoundRun v s (.var w) (w = v) s
  | con {s name args b s₁} : OccursAnyRun v s args b s₁ → OccursFoundRun v s (.con name args) b s₁
  | bare {s} : OccursFoundRun v s .bare false s

/-- Testing one type after the other until the variable has been found. -/
inductive OccursAnyRun (v : Var) : Store → List Ty → Bool → Store → Prop
  | nil {s} : OccursAnyRun v s [] false s
  | here {s t ts s₁} : OccursRun v s t true s₁ → OccursAnyRun v s (t :: ts) true s₁
  | next {s t ts s₁ b s₂} : OccursRun v s t false s₁ → OccursAnyRun v s₁ ts b s₂ →
      OccursAnyRun v s (t :: ts) b s₂

end

mutual

theorem OccursRun.unique {v : Var} {s s₁ s₂ : Store} {t : Ty} {b₁ b₂ : Bool}
    (h₁ : OccursRun v s t b₁ s₁) (h₂ : OccursRun v s t b₂ s₂) : b₁ = b₂ ∧ s₁ = s₂ :=
  match h₁, h₂ with
  | .found hp₁ hf₁, .found hp₂ hf₂ => by
    obtain ⟨rfl, rfl⟩ := hp₁.unique hp₂
    exact hf₁.unique hf₂

theorem OccursFoundRun.unique {v : Var} {s s₁ s₂ : Store} {t : Ty} {b₁ b₂ : Bool}
    (h₁ : OccursFoundRun v s t b₁ s₁) (h₂ : OccursFoundRun v s t b₂ s₂) : b₁ = b₂ ∧ s₁ = s₂ :=
  match h₁, h₂ with
  | .var, .var => ⟨rfl, rfl⟩
  | .con hs₁, .con hs₂ => hs₁.unique hs₂
  | .bare, .bare => ⟨rfl, rfl⟩

theorem OccursAnyRun.unique {v : Var} {s s₁ s₂ : Store} {ts : List Ty} {b₁ b₂ : Bool}
    (h₁ : OccursAnyRun v s ts b₁ s₁) (h₂ : OccursAnyRun v s ts b₂ s₂) : b₁ = b₂ ∧ s₁ = s₂ :=
  match h₁, h₂ with
  | .nil, .nil => ⟨rfl, rfl⟩
  | .here h₁, .here h₂ => h₁.unique h₂
  | .here h₁, .next h₂ _ => Bool.noConfusion (h₁.unique h₂).1
  | .next h₁ _, .here h₂ => Bool.noConfusion (h₁.unique h₂).1
  | .next h₁ hs₁, .next h₂ hs₂ => by
    obtain ⟨-, rfl⟩ := h₁.unique h₂
    exact hs₁.unique hs₂

end

/-! ## Showing -/

/-- The outcome with its result changed. -/
def mapOk {ε σ α β : Type} (f : α → β) : EStateM.Result ε σ α → EStateM.Result ε σ β
  | .ok a s => .ok (f a) s
  | .error e s => .error e s

/-- The outcome of showing a type. -/
abbrev Shown (α : Type) := EStateM.Result Error (Store × Namer) α

mutual

/-- Showing a type. -/
inductive ShowRun : Store × Namer → Ty → Shown String → Prop
  | found {s namer t u s₁ r} : PruneRun s t u s₁ → ShowFoundRun (s₁, namer) u r →
      ShowRun (s, namer) t r

/-- Showing a representative. The argument of a function is looked up again for its parentheses. -/
inductive ShowFoundRun : Store × Namer → Ty → Shown String → Prop
  | var {p v} : ShowFoundRun p (.var v) (labelOf v p)
  | fn {p arg result left s₁ namer a s₂ r} : ShowRun p arg (.ok left (s₁, namer)) →
      PruneRun s₁ arg a s₂ → ShowRun (s₂, namer) result r →
      ShowFoundRun p (.fn arg result) (mapOk
        (fun right => (if a.isFunction then "(" ++ left ++ ")" else left) ++ " -> " ++ right) r)
  | argFailed {p arg result e p₁} : ShowRun p arg (.error e p₁) →
      ShowFoundRun p (.fn arg result) (.error e p₁)
  | name {p name} : ShowFoundRun p (.con name []) (.ok name p)
  | con {p name args r} : args ≠ [] → (Ty.con name args).isFunction = false →
      ShowAllRun p args r →
      ShowFoundRun p (.con name args)
        (mapOk (fun texts => name ++ "(" ++ ", ".intercalate texts ++ ")") r)
  | bare {p} : ShowFoundRun p .bare (.error .invalidType p)

/-- Showing one type after the other. -/
inductive ShowAllRun : Store × Namer → List Ty → Shown (List String) → Prop
  | nil {p} : ShowAllRun p [] (.ok [] p)
  | next {p t ts text p₁ r} : ShowRun p t (.ok text p₁) → ShowAllRun p₁ ts r →
      ShowAllRun p (t :: ts) (mapOk (text :: ·) r)
  | failed {p t ts e p₁} : ShowRun p t (.error e p₁) → ShowAllRun p (t :: ts) (.error e p₁)

end

mutual

theorem ShowRun.unique {p : Store × Namer} {t : Ty} {r₁ r₂ : Shown String} (h₁ : ShowRun p t r₁)
    (h₂ : ShowRun p t r₂) : r₁ = r₂ :=
  match h₁, h₂ with
  | .found hp₁ hf₁, .found hp₂ hf₂ => by
    obtain ⟨rfl, rfl⟩ := hp₁.unique hp₂
    exact hf₁.unique hf₂

theorem ShowFoundRun.unique {p : Store × Namer} {t : Ty} {r₁ r₂ : Shown String}
    (h₁ : ShowFoundRun p t r₁) (h₂ : ShowFoundRun p t r₂) : r₁ = r₂ := by
  match h₁ with
  | .var => cases h₂; rfl
  | .fn ha₁ hp₁ hr₁ =>
    cases h₂ with
    | fn ha₂ hp₂ hr₂ =>
      obtain ⟨⟩ := ha₁.unique ha₂
      obtain ⟨rfl, rfl⟩ := hp₁.unique hp₂
      rw [hr₁.unique hr₂]
    | argFailed ha₂ => exact nomatch ha₁.unique ha₂
    | con _ hfn => exact Bool.noConfusion hfn
  | .argFailed ha₁ =>
    cases h₂ with
    | fn ha₂ => exact nomatch ha₁.unique ha₂
    | argFailed ha₂ => exact ha₁.unique ha₂
    | con _ hfn => exact Bool.noConfusion hfn
  | .name =>
    cases h₂ with
    | name => rfl
    | con hne => exact absurd rfl hne
  | .con hne hfn hs₁ =>
    cases h₂ with
    | fn => exact Bool.noConfusion hfn
    | argFailed => exact Bool.noConfusion hfn
    | name => exact absurd rfl hne
    | con _ _ hs₂ => rw [hs₁.unique hs₂]
  | .bare => cases h₂; rfl

theorem ShowAllRun.unique {p : Store × Namer} {ts : List Ty} {r₁ r₂ : Shown (List String)}
    (h₁ : ShowAllRun p ts r₁) (h₂ : ShowAllRun p ts r₂) : r₁ = r₂ := by
  match h₁ with
  | .nil => cases h₂; rfl
  | .next h₁ hs₁ =>
    cases h₂ with
    | next h₂ hs₂ =>
      obtain ⟨⟩ := h₁.unique h₂
      rw [hs₁.unique hs₂]
    | failed h₂ => exact nomatch h₁.unique h₂
  | .failed h₁ =>
    cases h₂ with
    | next h₂ => exact nomatch h₁.unique h₂
    | failed h₂ =>
      obtain ⟨⟩ := h₁.unique h₂
      rfl

end

/-! ## Unification -/

/-- Showing two types one after the other, with letters of their own. -/
inductive TextsRun : Store → Ty → Ty → Shown (String × String) → Prop
  | next {s t u left p r} : ShowRun (s, {}) t (.ok left p) → ShowRun p u r →
      TextsRun s t u (mapOk (left, ·) r)
  | failed {s t u e p} : ShowRun (s, {}) t (.error e p) → TextsRun s t u (.error e p)

theorem TextsRun.unique {s : Store} {t u : Ty} {r₁ r₂ : Shown (String × String)}
    (h₁ : TextsRun s t u r₁) (h₂ : TextsRun s t u r₂) : r₁ = r₂ :=
  match h₁, h₂ with
  | .next h₁ hu₁, .next h₂ hu₂ => by
    obtain ⟨⟩ := h₁.unique h₂
    rw [hu₁.unique hu₂]
  | .next h₁ _, .failed h₂ => nomatch h₁.unique h₂
  | .failed h₁, .next h₂ _ => nomatch h₁.unique h₂
  | .failed h₁, .failed h₂ => by
    obtain ⟨⟩ := h₁.unique h₂
    rfl

/-- The outcome of unification. -/
abbrev Unifying := EStateM.Result Error Store Unit

/-- The failure that reports two texts, unless they could not be shown. -/
def conflict (cause : String → String → Error) : Shown (String × String) → Unifying
  | .ok (left, right) p => .error (cause left right) p.1
  | .error e p => .error e p.1

/-- Whether the type is a variable as it stands. -/
def Ty.isVar : Ty → Bool
  | .var _ => true
  | _ => false

mutual

/-- Unification of two types. -/
inductive UnifyRun : Store → Ty → Ty → Unifying → Prop
  | found {s t u a s₁ b s₂ r} : PruneRun s t a s₁ → PruneRun s₁ u b s₂ →
      UnifyFoundRun s₂ a b r → UnifyRun s t u r

/-- Unification of two representatives. With a variable on the right only, unification is called
again with its arguments exchanged. -/
inductive UnifyFoundRun : Store → Ty → Ty → Unifying → Prop
  | same {s v} : UnifyFoundRun s (.var v) (.var v) (.ok () s)
  | recursive {s v b s₁ r} : b ≠ .var v → OccursRun v s b true s₁ → TextsRun s₁ (.var v) b r →
      UnifyFoundRun s (.var v) b (conflict .recursive r)
  | bind {s v b s₁} : b ≠ .var v → OccursRun v s b false s₁ →
      UnifyFoundRun s (.var v) b (bindVar v b s₁)
  | exchange {s a w r} : a.isVar = false → UnifyRun s (.var w) a r → UnifyFoundRun s a (.var w) r
  | mismatch {s f ts g us r} : ¬ (f = g ∧ ts.length = us.length) →
      TextsRun s (.con f ts) (.con g us) r →
      UnifyFoundRun s (.con f ts) (.con g us) (conflict .mismatch r)
  | components {s f ts us r} : ts.length = us.length → UnifyAllRun s (ts.zip us) r →
      UnifyFoundRun s (.con f ts) (.con f us) r
  | bareLeft {s b} : b.isVar = false →
      UnifyFoundRun s .bare b (.error (.invalidCase (Ty.bare.describe s) (b.describe s)) s)
  | bareRight {s f ts} :
      UnifyFoundRun s (.con f ts) .bare
        (.error (.invalidCase ((Ty.con f ts).describe s) (Ty.bare.describe s)) s)

/-- Unification of one pair after the other. -/
inductive UnifyAllRun : Store → List (Ty × Ty) → Unifying → Prop
  | nil {s} : UnifyAllRun s [] (.ok () s)
  | next {s x y ps s₁ r} : UnifyRun s x y (.ok () s₁) → UnifyAllRun s₁ ps r →
      UnifyAllRun s ((x, y) :: ps) r
  | failed {s x y ps e s₁} : UnifyRun s x y (.error e s₁) →
      UnifyAllRun s ((x, y) :: ps) (.error e s₁)

end

mutual

/-- A call of unification ends with one outcome at most. -/
theorem UnifyRun.unique {s : Store} {t u : Ty} {r₁ r₂ : Unifying} (h₁ : UnifyRun s t u r₁)
    (h₂ : UnifyRun s t u r₂) : r₁ = r₂ :=
  match h₁, h₂ with
  | .found ht₁ hu₁ hf₁, .found ht₂ hu₂ hf₂ => by
    obtain ⟨rfl, rfl⟩ := ht₁.unique ht₂
    obtain ⟨rfl, rfl⟩ := hu₁.unique hu₂
    exact hf₁.unique hf₂

theorem UnifyFoundRun.unique {s : Store} {a b : Ty} {r₁ r₂ : Unifying}
    (h₁ : UnifyFoundRun s a b r₁) (h₂ : UnifyFoundRun s a b r₂) : r₁ = r₂ := by
  match h₁ with
  | .same =>
    cases h₂ with
    | same => rfl
    | recursive hne => exact absurd rfl hne
    | bind hne => exact absurd rfl hne
    | exchange ha => exact Bool.noConfusion ha
  | .recursive hne ho₁ ht₁ =>
    cases h₂ with
    | same => exact absurd rfl hne
    | recursive _ ho₂ ht₂ =>
      obtain ⟨-, rfl⟩ := ho₁.unique ho₂
      rw [ht₁.unique ht₂]
    | bind _ ho₂ => exact Bool.noConfusion (ho₁.unique ho₂).1
    | exchange ha => exact Bool.noConfusion ha
  | .bind hne ho₁ =>
    cases h₂ with
    | same => exact absurd rfl hne
    | recursive _ ho₂ => exact Bool.noConfusion (ho₁.unique ho₂).1
    | bind _ ho₂ => rw [(ho₁.unique ho₂).2]
    | exchange ha => exact Bool.noConfusion ha
  | .exchange ha h₁ =>
    cases h₂ with
    | exchange _ h₂ => exact h₁.unique h₂
    | bareLeft hb => exact Bool.noConfusion hb
    | _ => exact Bool.noConfusion ha
  | .mismatch hne ht₁ =>
    cases h₂ with
    | mismatch _ ht₂ => rw [ht₁.unique ht₂]
    | components hlen => exact absurd ⟨rfl, hlen⟩ hne
  | .components hlen hs₁ =>
    cases h₂ with
    | mismatch hne => exact absurd ⟨rfl, hlen⟩ hne
    | components _ hs₂ => exact hs₁.unique hs₂
  | .bareLeft hb =>
    cases h₂ with
    | exchange => exact Bool.noConfusion hb
    | bareLeft => rfl
  | .bareRight => cases h₂; rfl

theorem UnifyAllRun.unique {s : Store} {ps : List (Ty × Ty)} {r₁ r₂ : Unifying}
    (h₁ : UnifyAllRun s ps r₁) (h₂ : UnifyAllRun s ps r₂) : r₁ = r₂ := by
  match h₁ with
  | .nil => cases h₂; rfl
  | .next h₁ hs₁ =>
    cases h₂ with
    | next h₂ hs₂ =>
      obtain ⟨⟩ := h₁.unique h₂
      exact hs₁.unique hs₂
    | failed h₂ => exact nomatch h₁.unique h₂
  | .failed h₁ =>
    cases h₂ with
    | next h₂ => exact nomatch h₁.unique h₂
    | failed h₂ => exact h₁.unique h₂

end

/-! ## Outcomes -/

/-- The steps have not been used up. -/
def Settled {σ α : Type} : EStateM.Result Error σ α → Prop
  | .error .cyclic _ => False
  | _ => True

theorem Settled.mapOk {σ α β : Type} {r : EStateM.Result Error σ α} (h : Settled r) (f : α → β) :
    Settled (LetPoly.mapOk f r) := by
  match r with
  | .ok .. => trivial
  | .error e _ => cases e <;> exact h

theorem Settled.error {σ τ α β : Type} {e : Error} {s : σ} {s' : τ}
    (h : Settled (.error e s : EStateM.Result Error σ α)) :
    Settled (.error e s' : EStateM.Result Error τ β) := by
  cases e <;> exact h

mutual

theorem ShowRun.settled {p : Store × Namer} {t : Ty} {r : Shown String} (h : ShowRun p t r) :
    Settled r :=
  match h with
  | .found _ h => h.settled

theorem ShowFoundRun.settled {p : Store × Namer} {t : Ty} {r : Shown String}
    (h : ShowFoundRun p t r) : Settled r :=
  match h with
  | .var => trivial
  | .fn _ _ h => h.settled.mapOk _
  | .argFailed h => h.settled
  | .name => trivial
  | .con _ _ h => h.settled.mapOk _
  | .bare => trivial

theorem ShowAllRun.settled {p : Store × Namer} {ts : List Ty} {r : Shown (List String)}
    (h : ShowAllRun p ts r) : Settled r :=
  match h with
  | .nil => trivial
  | .next _ h => h.settled.mapOk _
  | .failed h => h.settled.error

end

theorem TextsRun.settled {s : Store} {t u : Ty} {r : Shown (String × String)}
    (h : TextsRun s t u r) : Settled r :=
  match h with
  | .next _ h => h.settled.mapOk _
  | .failed h => h.settled.error

/-- A conflict is settled if its texts are. -/
theorem Settled.conflict {cause : String → String → Error} {r : Shown (String × String)}
    (h : Settled r) (hcause : ∀ left right, cause left right ≠ .cyclic) :
    Settled (conflict cause r) := by
  match r with
  | .ok (left, right) _ =>
    show Settled (.error (cause left right) _)
    generalize hc : cause left right = e
    have hne := hc ▸ hcause left right
    cases e <;> trivial
  | .error _ _ => exact h.error

theorem settled_bindVar (v : Var) (t : Ty) (s : Store) : Settled (bindVar v t s) := by
  rw [← ends_outcome (R := Settled)]
  unfold bindVar
  rw [ends_bind, ends_get]
  cases s.binding v <;> trivial

mutual

/-- No run of unification ends because steps have been used up. -/
theorem UnifyRun.settled {s : Store} {t u : Ty} {r : Unifying} (h : UnifyRun s t u r) :
    Settled r :=
  match h with
  | .found _ _ h => h.settled

theorem UnifyFoundRun.settled {s : Store} {a b : Ty} {r : Unifying} (h : UnifyFoundRun s a b r) :
    Settled r :=
  match h with
  | .same => trivial
  | .recursive _ _ h => h.settled.conflict nofun
  | .bind _ _ => settled_bindVar ..
  | .exchange _ h => h.settled
  | .mismatch _ h => h.settled.conflict nofun
  | .components _ h => h.settled
  | .bareLeft _ => trivial
  | .bareRight => trivial

theorem UnifyAllRun.settled {s : Store} {ps : List (Ty × Ty)} {r : Unifying}
    (h : UnifyAllRun s ps r) : Settled r :=
  match h with
  | .nil => trivial
  | .next _ h => h.settled
  | .failed h => h.settled

end

end LetPoly
