import LetPoly.Proofs.Analysis
import LetPoly.Trace

/-!
# What the other operations do to the store

* `signature_ends`, `prelude_ends` — signatures make variables and do nothing else
* `showNew_ends`, `showAll_ends` — showing types changes nothing
* `analyseTraced_ends` — reporting on an analysis does not add to what it does
* `inferWith_ends` — inference analyses and then stores labels
-/

namespace LetPoly

open Store

variable {s s' : Store} {t : Ty}

/-! ## Signatures -/

namespace Signature

/-- The variables of a scope are variables of the store. -/
def Scope.Held (s : Store) (scope : Scope) : Prop := ∀ x v, scope.lookup x = some v → s.Has v

theorem scopeVar_ends (x : String) {scope : Scope} (hs : s.Valid) (hscope : scope.Held s)
    {E : Error → Store × Scope → Prop} :
    Ends (scopeVar x) (s, scope)
      (fun v p => Rights.grow.Allows s p.1 ∧ p.2.Held p.1 ∧ p.1.Has v) E := by
  unfold scopeVar
  rw [ends_modifyGet]
  dsimp only
  cases hx : scope.lookup x with
  | some v => exact ⟨.refl hs, hscope, hscope x v hx⟩
  | none =>
    have hgrow := allows_pushNext hs
    have hnew : (s.pushNext none).2.Has (s.pushNext none).1 := has_pushNext.mpr (.inr rfl)
    refine ⟨hgrow, fun y v hv => ?_, hnew⟩
    rw [List.lookup_cons] at hv
    split at hv
    · rw [Option.some.injEq] at hv
      rwa [← hv]
    · exact hgrow.has (hscope y v hv)

mutual

theorem Sig.denote_ends : ∀ (sig : Sig) {s : Store} {scope : Scope}, s.Valid → scope.Held s →
    Ends sig.denote (s, scope)
      (fun t p => Rights.grow.Allows s p.1 ∧ p.2.Held p.1 ∧ p.1.Holds t) (fun _ _ => False)
  | .operand o, s, scope, hs, hscope => by
    rw [Sig.denote]
    exact o.denote_ends hs hscope
  | .arrow arg result, s, scope, hs, hscope => by
    rw [Sig.denote, ends_bind]
    refine (arg.denote_ends hs hscope).mono (fun a p ⟨h₁, hp, ha⟩ => ?_) (fun _ _ h => h)
    rw [ends_bind]
    refine (result.denote_ends h₁.valid hp).mono (fun r q ⟨h₂, hq, hr⟩ => ?_) (fun _ _ h => h)
    exact ⟨h₁.trans h₂, hq, holds_fn.mpr ⟨h₂.holds ha, hr⟩⟩

theorem Operand.denote_ends : ∀ (o : Operand) {s : Store} {scope : Scope}, s.Valid →
    scope.Held s →
    Ends o.denote (s, scope)
      (fun t p => Rights.grow.Allows s p.1 ∧ p.2.Held p.1 ∧ p.1.Holds t) (fun _ _ => False)
  | .name text, s, scope, hs, hscope => by
    rw [Operand.denote]
    split
    · rw [ends_bind]
      refine (scopeVar_ends text hs hscope).mono (fun v p ⟨h, hp, hv⟩ => ?_) (fun _ _ h => h)
      exact ⟨h, hp, holds_var.mpr hv⟩
    · exact ⟨.refl hs, hscope, holds_con.mpr (by simp)⟩
  | .apply name args, s, scope, hs, hscope => by
    rw [Operand.denote, ends_bind]
    refine (args.denote_ends hs hscope).mono (fun ts p ⟨h, hp, hts⟩ => ?_) (fun _ _ h => h)
    exact ⟨h, hp, holds_con.mpr hts⟩
  | .group sig, s, scope, hs, hscope => by
    rw [Operand.denote]
    exact sig.denote_ends hs hscope

theorem Args.denote_ends : ∀ (args : Args) {s : Store} {scope : Scope}, s.Valid →
    scope.Held s →
    Ends args.denote (s, scope)
      (fun ts p => Rights.grow.Allows s p.1 ∧ p.2.Held p.1 ∧ ∀ t ∈ ts, p.1.Holds t)
      (fun _ _ => False)
  | .one sig, s, scope, hs, hscope => by
    rw [Args.denote, ends_bind]
    refine (sig.denote_ends hs hscope).mono (fun t p ⟨h, hp, ht⟩ => ?_) (fun _ _ h => h)
    exact ⟨h, hp, by simpa using ht⟩
  | .more sig rest, s, scope, hs, hscope => by
    rw [Args.denote, ends_bind]
    refine (sig.denote_ends hs hscope).mono (fun t p ⟨h₁, hp, ht⟩ => ?_) (fun _ _ h => h)
    rw [ends_bind]
    refine (rest.denote_ends h₁.valid hp).mono (fun ts q ⟨h₂, hq, hts⟩ => ?_) (fun _ _ h => h)
    exact ⟨h₁.trans h₂, hq, List.forall_mem_cons.mpr ⟨h₂.holds ht, hts⟩⟩

end

end Signature

/-- A signature makes variables, and its type is held by the store. -/
theorem signature_ends (text : String) (hs : s.Valid) :
    Ends (signature text) s (fun t s' => Rights.grow.Allows s s' ∧ s'.Holds t)
      (fun _ s' => s' = s) := by
  unfold signature
  split
  · next sig _ =>
    rw [ends_within]
    have hempty : Signature.Scope.Held s [] := fun x v h => nomatch h
    exact (sig.denote_ends hs hempty).mono (fun _ _ h => ⟨h.1, h.2.2⟩) (fun _ _ h => h.elim)
  · rfl

/-- The types of all entries are held by the store. -/
def Env.Held (s : Store) (env : Env) : Prop := ∀ p ∈ env, s.Holds p.2

theorem Env.Held.later {r : Rights} {env : Env} (h : env.Held s) (ha : r.Allows s s') :
    env.Held s' :=
  fun p hp => ha.holds (h p hp)

theorem Env.Held.extend {env : Env} (h : env.Held s) (x : String) (ht : s.Holds t) :
    (env.extend x t).Held s :=
  List.forall_mem_cons.mpr ⟨ht, h⟩

theorem Env.Held.lookup {env : Env} (h : env.Held s) (x : String) (t : Ty)
    (hl : env.lookup x = some t) : s.Holds t :=
  h (x, t) (mem_of_lookup hl)

theorem ofSignatures_ends {sigs : List (String × String)} : ∀ {s : Store} {env : Env}, s.Valid →
    env.Held s →
    Ends (Env.ofSignatures sigs env) s (fun e s' => Rights.grow.Allows s s' ∧ e.Held s')
      (fun _ s' => Rights.grow.Allows s s') := by
  induction sigs with
  | nil => exact fun hs henv => ⟨.refl hs, henv⟩
  | cons p rest ih =>
    obtain ⟨x, text⟩ := p
    intro s env hs henv
    unfold Env.ofSignatures
    rw [ends_bind]
    refine (signature_ends text hs).mono (fun t s₁ ⟨h₁, ht⟩ => ?_) (fun _ s₁ h => ?_)
    case refine_2 =>
      rw [h]
      exact .refl hs
    refine (ih h₁.valid ((henv.later h₁).extend x ht)).mono ?_ (fun _ _ h₂ => h₁.trans h₂)
    exact fun e s₂ ⟨h₂, he⟩ => ⟨h₁.trans h₂, he⟩

/-- The environment that programs start with is held by the store. -/
theorem prelude_ends (hs : s.Valid) :
    Ends Env.prelude s (fun e s' => Rights.grow.Allows s s' ∧ e.Held s')
      (fun _ s' => Rights.grow.Allows s s') :=
  ofSignatures_ends hs nofun

/-! ## Showing -/

theorem showNew_ends (hs : s.Valid) (ht : s.Holds t) :
    Ends (showNew t) s (fun _ s' => Rights.look.Allows s s')
      (fun _ s' => Rights.look.Allows s s') := by
  unfold showNew
  rw [ends_within]
  exact (showType_ends hs ht).mono (fun _ _ h => h) (fun _ _ h => h.1)

/-- The entries that count are entries of the environment. -/
theorem Env.mem_of_mem_entries {env : Env} {p : String × Ty} (hp : p ∈ env.entries) : p ∈ env := by
  unfold Env.entries at hp
  rw [List.mem_mergeSort] at hp
  exact mem_of_mem_eraseDupsBy env.length (Nat.le_refl _) hp

theorem showAll_ends {env : Env} (hs : s.Valid) (henv : env.Held s) :
    Ends env.showAll s (fun _ s' => Rights.look.Allows s s')
      (fun _ s' => Rights.look.Allows s s') := by
  unfold Env.showAll
  refine (Ends.mapM (I := fun s' => Rights.look.Allows s s') (R := fun _ _ _ => True)
    (fun p hp s₁ h₁ => ?_) (.refl hs)).mono (fun _ _ h => h.1) (fun _ _ h => h)
  rw [ends_bind]
  refine (showNew_ends h₁.valid (h₁.holds (henv p (Env.mem_of_mem_entries hp)))).mono
    (fun _ _ h₂ => ?_) (fun _ _ h₂ => h₁.trans h₂)
  exact ⟨h₁.trans h₂, trivial, fun _ _ h => h⟩

/-! ## Reporting -/

namespace Trace

variable {tr : Trace}

@[simp] theorem ends_write {depth : Nat} {message : String} {Q : Unit → Store × Trace → Prop}
    {E : Error → Store × Trace → Prop} :
    Ends (write depth message) (s, tr) Q E ↔
      Q () (s, { tr with log := ("".pushn ' ' (2 * depth) ++ message) :: tr.log }) := Iff.rfl

@[simp] theorem ends_enter {Q : Nat → Store × Trace → Prop} {E : Error → Store × Trace → Prop} :
    Ends enter (s, tr) Q E ↔
      Q tr.depth (s, if tr.depth = 0 then { tr with namer := {} } else tr) := Iff.rfl

@[simp] theorem ends_showType {Q : String → Store × Trace → Prop}
    {E : Error → Store × Trace → Prop} :
    Ends (showType t) (s, tr) Q E ↔
      Ends (LetPoly.showType t) (s, tr.namer) (fun text p => Q text (p.1, { tr with namer := p.2 }))
        (fun e p => E e (p.1, { tr with namer := p.2 })) := by
  simp only [Ends, showType]
  cases LetPoly.showType t (s, tr.namer) <;> exact Iff.rfl

@[simp] theorem ends_deeper {α : Type} {x : TraceM α} {Q : α → Store × Trace → Prop}
    {E : Error → Store × Trace → Prop} :
    Ends (deeper x) (s, tr) Q E ↔
      Ends x (s, { tr with depth := tr.depth + 1 })
        (fun a p => Q a (p.1, { p.2 with depth := p.2.depth - 1 }))
        (fun e p => E e (p.1, { p.2 with depth := p.2.depth - 1 })) := by
  simp only [Ends, deeper]
  cases x (s, { tr with depth := tr.depth + 1 }) <;> exact Iff.rfl

/-- Reporting on a term leaves the store to its analysis. -/
theorem unobtrusive_around : Unobtrusive Prod.fst around := by
  rintro term env pinned x hx ⟨s, tr⟩ hset
  -- the analysis does the same to the store from any depth and with any letters
  have hany : ∀ tr', EndsAnalysed Prod.fst s env pinned x (s, tr') := fun tr' => hx (s, tr') hset
  unfold EndsAnalysed around
  rw [ends_bind, ends_enter]
  split
  · exact .refl hset.valid
  · rw [ends_bind, ends_write, ends_bind, ends_deeper]
    refine (hany _).mono (fun t p ht => ?_) (fun _ _ h => h)
    rw [ends_bind, ends_showType]
    have hlater : ∀ s₁, Rights.look.Allows p.1 s₁ → Analysed s env pinned t s₁ :=
      fun s₁ h => ht.later h.of_look
    refine (showType_ends ht.allows.valid ht.holds).mono (fun _ q h => ?_) (fun _ q h => ?_)
    · exact hlater q.1 h
    · exact (hlater q.1 h.1).allows

end Trace

theorem carries_fst {σ : Type} : Carries (Prod.fst : Store × σ → Store) := by
  intro α x c Q E h
  exact ends_lift.mpr h

/-- Reporting on an analysis does not add to what it does. -/
theorem analyseTraced_ends (e : Term) (env : Env) (pinned : List Ty) :
    Analyses Prod.fst env pinned (analyseTraced e env pinned) :=
  analyseWith_ends carries_fst Trace.unobtrusive_around e

/-! ## Inference -/

/-- The rights of inference: all but the choice of numbers. -/
abbrev Rights.infer : Rights :=
  { bind := fun _ => True, bare := True, make := True, label := fun _ => True }

theorem Rights.Allows.to_infer {r : Rights} (h : r.Allows s s') (hn : ¬ r.number) :
    Rights.infer.Allows s s' :=
  h.mono (fun _ _ _ => trivial) (fun hnone v => (hnone v trivial).elim) (fun _ => trivial)
    (fun _ => trivial) (fun hr => hn hr) (fun _ _ => trivial)

section Inference

variable {σ : Type} [MonadLiftT StoreM (EStateM Error σ)] {store : σ → Store}
  {analyse : Term → Env → List Ty → EStateM Error σ Ty} {e : Term} {env : Option Env} {c : σ}

/-- Inference makes the prelude if it is given no environment, analyses the program with nothing
pinned, and labels the variables of the type that it returns. -/
theorem inferWith_ends_of {Q : Ty → Store → Prop} {E : Store → Prop} (hlift : Carries store)
    (hana : ∀ env, Analyses store env [] (analyse e env [])) (hs : (store c).Valid)
    (henv : ∀ env' ∈ env, ∀ x t, env'.lookup x = some t → (store c).Holds t)
    (hQ : ∀ env' s₁ t s₂ s₃, Rights.grow.Allows (store c) s₁ → Analysed s₁ env' [] t s₂ →
      (Rights.mark (s₂.view t).vars).Allows s₂ s₃ → s₃.view (s₂.find t) = s₂.view t →
      Q (s₂.find t) s₃)
    (hE : ∀ env' s₁ s₂, Rights.grow.Allows (store c) s₁ →
      (Rights.analyse s₁ env' []).Allows s₁ s₂ → E s₂) :
    Ends (inferWith analyse e env) c (fun t c' => Q t (store c')) (fun _ c' => E (store c')) := by
  -- from the environment on, which is held by the store
  have hmain : ∀ (env' : Env) (c₁ : σ), Rights.grow.Allows (store c) (store c₁) →
      (∀ x t, env'.lookup x = some t → (store c₁).Holds t) →
      Ends (do
          let t ← analyse e env' []
          liftM (StoreWithM.within ({} : Namer) (nameVariables t)) : EStateM Error σ Ty) c₁
        (fun t c' => Q t (store c')) (fun _ c' => E (store c')) := by
    intro env' c₁ h₁ hheld
    rw [ends_bind]
    refine (hana env' c₁ ⟨h₁.valid, hheld, nofun⟩).mono (fun t c₂ ht => ?_)
      (fun _ _ h₂ => hE env' _ _ h₁ h₂)
    have hs₂ := ht.allows.valid
    have hname : Ends (StoreWithM.within ({} : Namer) (nameVariables t)) (store c₂)
        (fun r s' => Q r s') (fun _ s' => E s') := by
      rw [ends_within]
      refine (nameVariables_ends hs₂ ht.holds).mono ?_ (fun _ _ h => h.elim)
      rintro r p ⟨rfl, h₃⟩
      refine hQ env' _ t _ _ h₁ ht h₃ ?_
      rw [h₃.view_eq (fun _ hb => hb) hs₂ (hs₂.find_spec ht.holds).1, hs₂.view_find ht.holds]
    exact hlift hname
  cases env with
  | some env' => exact hmain env' c (.refl hs) (henv env' rfl)
  | none =>
    unfold inferWith
    rw [ends_bind]
    refine (hlift (prelude_ends hs)).mono (fun env' c₁ ⟨h₁, hheld⟩ => ?_) (fun _ c₁ h₁ => ?_)
    · exact hmain env' c₁ h₁ hheld.lookup
    · exact hE [] _ _ h₁ (.refl h₁.valid)

/-- The store after inference is allowed by its rights and holds the type that is returned. -/
theorem inferWith_ends (hlift : Carries store)
    (hana : ∀ env, Analyses store env [] (analyse e env [])) (hs : (store c).Valid)
    (henv : ∀ env' ∈ env, env'.Held (store c)) :
    Ends (inferWith analyse e env) c
      (fun t c' => Rights.infer.Allows (store c) (store c') ∧ (store c').Holds t)
      (fun _ c' => Rights.infer.Allows (store c) (store c')) := by
  have hgrow : ∀ {s₁}, Rights.grow.Allows (store c) s₁ → Rights.infer.Allows (store c) s₁ :=
    fun h₁ => h₁.to_infer fun hn => hn
  refine inferWith_ends_of (Q := fun t s' => Rights.infer.Allows (store c) s' ∧ s'.Holds t)
    (E := fun s' => Rights.infer.Allows (store c) s') hlift hana hs
    (fun env' hmem => (henv env' hmem).lookup) ?_ ?_
  · intro env' s₁ t s₂ s₃ h₁ ht h₃ _
    have h₂ := (hgrow h₁).trans (ht.allows.to_infer fun hn => hn)
    refine ⟨h₂.trans (h₃.to_infer fun hn => hn), h₃.holds ?_⟩
    exact (h₂.valid.find_spec ht.holds).1
  · intro env' s₁ s₂ h₁ h₂
    exact (hgrow h₁).trans (h₂.to_infer fun hn => hn)

end Inference

/-- Plain inference. -/
theorem infer_ends (e : Term) {env : Option Env} (hs : s.Valid) (henv : ∀ env' ∈ env, env'.Held s) :
    Ends (infer e env) s (fun t s' => Rights.infer.Allows s s' ∧ s'.Holds t)
      (fun _ s' => Rights.infer.Allows s s') := by
  have hlift : Carries (id : Store → Store) := fun _ _ _ _ _ h => h
  exact inferWith_ends hlift (fun env' s₁ hset => analyse_ends e hset) hs henv

end LetPoly
