import LetPoly.Proofs.Comparison
import LetPoly.Proofs.TwinRuns

/-!
# Inference on twins

Analysis and inference, plain or reported on, end in the same way from stores that belong together:
with types that belong together, or with the same failure, and with the same reports.

* `EnvsAlike` — environments whose names have types that belong together
* `analyseWith_alike` — analysis, whatever is run around the terms
* `analysePlain_alike`, `analyseReported_alike` — plain analysis and analysis that reports
* `signature_alike`, `newEnv_alike` — signatures make variables that belong together
* `inferWith_alike` — inference
-/

namespace LetPoly

open Store

variable {π : Pairing} {s s' s₁ s₁' : Store} {t t' : Ty} {v : Var} {env env' : Env}
  {pinned pinned' : List Ty}

/-! ## Environments -/

/-- The same names have types, and the types belong together. -/
def EnvsAlike (π : Pairing) (s s' : Store) (env env' : Env) : Prop :=
  LookupsAlike Eq (Same π s s') env env'

theorem EnvsAlike.later {r : Rights} (h : EnvsAlike π s s' env env')
    (hm : Moved r π s s' s₁ s₁') : EnvsAlike π s₁ s₁' env env' :=
  h.mono fun _ _ hsame => hm.same hsame

theorem EnvsAlike.extend (h : EnvsAlike π s s' env env') (x : String) (ht : Same π s s' t t') :
    EnvsAlike π s s' (env.extend x t) (env'.extend x t') :=
  h.cons (fun _ _ hk => by rw [hk]) ht

/-- What two analyses of a term start from. -/
structure TwinSetting (π : Pairing) (s s' : Store) (env env' : Env) (pinned pinned' : List Ty) :
    Prop where
  twins : Twins π s s'
  paced : Paced π s s'
  envs : EnvsAlike π s s' env env'
  pinned : SameMembers π s s' pinned pinned'

theorem TwinSetting.later {r : Rights} (h : TwinSetting π s s' env env' pinned pinned')
    (hm : Moved r π s s' s₁ s₁') : TwinSetting π s₁ s₁' env env' pinned pinned' :=
  ⟨hm.twins, hm.paced h.paced, h.envs.later hm, h.pinned.later hm⟩

theorem TwinSetting.extend (h : TwinSetting π s s' env env' pinned pinned') (x : String)
    (ht : Same π s s' t t') :
    TwinSetting π s s' (env.extend x t) (env'.extend x t') pinned pinned' :=
  ⟨h.twins, h.paced, h.envs.extend x ht, h.pinned⟩

theorem TwinSetting.pin (h : TwinSetting π s s' env env' pinned pinned')
    (ht : Same π s s' t t') : TwinSetting π s s' env env' (t :: pinned) (t' :: pinned') :=
  ⟨h.twins, h.paced, h.envs, h.pinned.cons ht⟩

/-- The look-ups of a name end in the same way. -/
def TypesAlike (π : Pairing) (typeOf typeOf' : String → Env → List Ty → StoreM Ty) : Prop :=
  ∀ ⦃x : String⦄ ⦃s s' : Store⦄ ⦃env env' : Env⦄ ⦃pinned pinned' : List Ty⦄,
    TwinSetting π s s' env env' pinned pinned' →
    Alike (typeOf x env pinned) s (typeOf' x env' pinned') s'
      (fun r r' s₁ s₁' => Moved .grow π s s' s₁ s₁' ∧ Same π s₁ s₁' r r')
      (fun s₁ s₁' => Moved .grow π s s' s₁ s₁')

/-- The look-ups of a name end in the same way if the copies of its types do. -/
theorem typeOfName_alike_of_fresh {R : Ty → Ty → Prop} (x : String) (h : Twins π s s')
    (henv : LookupsAlike Eq R env env')
    (hfresh : ∀ t t', R t t' → Alike (fresh t pinned) s (fresh t' pinned') s'
      (fun r r' s₁ s₁' => Moved .grow π s s' s₁ s₁' ∧ Same π s₁ s₁' r r')
      (fun s₁ s₁' => Moved .grow π s s' s₁ s₁')) :
    Alike (typeOfName x env pinned) s (typeOfName x env' pinned') s'
      (fun r r' s₁ s₁' => Moved .grow π s s' s₁ s₁' ∧ Same π s₁ s₁' r r')
      (fun s₁ s₁' => Moved .grow π s s' s₁ s₁') := by
  have hrel := henv x x rfl
  unfold typeOfName
  revert hrel
  generalize env.lookup x = o
  generalize env'.lookup x = o'
  rintro (hR | _)
  · exact hfresh _ _ hR
  · cases isIntegerLiteral x with
    | error e => exact ⟨rfl, h.moved_refl⟩
    | ok b =>
      cases b with
      | true => exact ⟨h.moved_refl, same_int h.valid h.valid'⟩
      | false => exact ⟨rfl, h.moved_refl⟩

theorem typeOfName_alike : TypesAlike π typeOfName typeOfName := by
  intro x s s' env env' pinned pinned' h
  refine typeOfName_alike_of_fresh x h.twins h.envs fun t t' hsame => ?_
  exact (fresh_alike h.twins h.paced h.pinned hsame).mono (fun _ _ _ _ h => h)
    (fun _ _ h => h.elim)

/-! ## Analysis -/

theorem Moved.to_infer {r : Rights} (h : Moved r π s s' s₁ s₁') (hn : ¬ r.number) :
    Moved .infer π s s' s₁ s₁' :=
  h.mono fun ha => ha.to_infer hn

section Generic

variable {σ τ : Type} {store : σ → Store} {store' : τ → Store} {R : σ → τ → Prop}

/-- From all states that belong together the computations end as analyses of twins should; `R` says
when what the states hold besides a store belongs together. -/
def AnalyseAlike (π : Pairing) (store : σ → Store) (store' : τ → Store) (R : σ → τ → Prop)
    (env env' : Env) (pinned pinned' : List Ty) (x : EStateM Error σ Ty) (y : EStateM Error τ Ty) :
    Prop :=
  ∀ c c', R c c' → TwinSetting π (store c) (store' c') env env' pinned pinned' →
    Alike x c y c'
      (fun t t' d d' => (Moved .infer π (store c) (store' c') (store d) (store' d') ∧
        Same π (store d) (store' d') t t') ∧ R d d')
      (fun d d' => Moved .infer π (store c) (store' c') (store d) (store' d') ∧ R d d')

/-- A part of a term, after the stores have moved. -/
theorem AnalyseAlike.after {c : σ} {c' : τ} {x : EStateM Error σ Ty}
    {y : EStateM Error τ Ty}
    (h : AnalyseAlike π store store' R env env' pinned pinned' x y) (hR : R c c')
    (hset : TwinSetting π (store c) (store' c') env env' pinned pinned')
    (hm : Moved .infer π s s' (store c) (store' c')) :
    Alike x c y c'
      (fun t t' d d' => (Moved .infer π s s' (store d) (store' d') ∧
        Moved .infer π (store c) (store' c') (store d) (store' d') ∧
        Same π (store d) (store' d') t t') ∧ R d d')
      (fun d d' => Moved .infer π s s' (store d) (store' d') ∧ R d d') :=
  (h c c' hR hset).mono (fun _ _ _ _ hq => ⟨⟨hm.trans hq.1.1, hq.1⟩, hq.2⟩)
    (fun _ _ hq => ⟨hm.trans hq.1, hq.2⟩)

/-- What is run around the analyses of a term keeps them alike. -/
def AroundAlike (π : Pairing) (store : σ → Store) (store' : τ → Store) (R : σ → τ → Prop)
    (around : Term → EStateM Error σ Ty → EStateM Error σ Ty)
    (around' : Term → EStateM Error τ Ty → EStateM Error τ Ty) : Prop :=
  ∀ ⦃e : Term⦄ ⦃env env' : Env⦄ ⦃pinned pinned' : List Ty⦄ ⦃x : EStateM Error σ Ty⦄
    ⦃y : EStateM Error τ Ty⦄, AnalyseAlike π store store' R env env' pinned pinned' x y →
    AnalyseAlike π store store' R env env' pinned pinned' (around e x) (around' e y)

/-- Twins compared: types belong together, and the stores move in the same way. -/
def Comparison.twins (π : Pairing) (store : σ → Store) (store' : τ → Store) (R : σ → τ → Prop) :
    Comparison σ τ where
  start env env' pinned pinned' c c' :=
    R c c' ∧ TwinSetting π (store c) (store' c') env env' pinned pinned'
  moved c c' d d' := Moved .infer π (store c) (store' c') (store d) (store' d') ∧ R d d'
  same c c' := Same π (store c) (store' c')

theorem analyseAlike_iff {x : EStateM Error σ Ty} {y : EStateM Error τ Ty} :
    AnalyseAlike π store store' R env env' pinned pinned' x y ↔
      (Comparison.twins π store store' R).Agrees env env' pinned pinned' x y := by
  constructor
  · exact fun h c c' hstart => (h c c' hstart.1 hstart.2).mono
      (fun _ _ _ _ hq => ⟨⟨hq.1.1, hq.2⟩, hq.1.2⟩) (fun _ _ hq => hq)
  · exact fun h c c' hR hset => (h c c' ⟨hR, hset⟩).mono
      (fun _ _ _ _ hq => ⟨⟨hq.1.1, hq.2⟩, hq.1.2⟩) (fun _ _ hq => hq)

variable [MonadLiftT StoreM (EStateM Error σ)] [MonadLiftT StoreM (EStateM Error τ)]

/-- Computations on the stores leave the rest of the states alone. -/
def CarryAlike (store : σ → Store) (store' : τ → Store) (R : σ → τ → Prop) : Prop :=
  ∀ ⦃α β : Type⦄ ⦃x : StoreM α⦄ ⦃y : StoreM β⦄ ⦃c : σ⦄ ⦃c' : τ⦄
    ⦃Q : α → β → Store → Store → Prop⦄ ⦃E : Store → Store → Prop⦄, R c c' →
    Alike x (store c) y (store' c') Q E →
    Alike (liftM x : EStateM Error σ α) c (liftM y : EStateM Error τ β) c'
      (fun a b d d' => Q a b (store d) (store' d') ∧ R d d')
      (fun d d' => E (store d) (store' d') ∧ R d d')

variable {typeOf typeOf' : String → Env → List Ty → StoreM Ty}
  {around : Term → EStateM Error σ Ty → EStateM Error σ Ty}
  {around' : Term → EStateM Error τ Ty → EStateM Error τ Ty} {c : σ} {c' : τ}

theorem CarryAlike.newVar (hlift : CarryAlike store store' R) (hR : R c c')
    (h : Twins π (store c) (store' c')) (hp : Paced π (store c) (store' c'))
    {E : σ → τ → Prop} :
    Alike (liftM newVar : EStateM Error σ Var) c (liftM newVar : EStateM Error τ Var) c'
      (fun v v' d d' => (Moved .infer π (store c) (store' c') (store d) (store' d') ∧
        Same π (store d) (store' d') (.var v) (.var v')) ∧ R d d') E := by
  have hnew : Alike LetPoly.newVar (store c) LetPoly.newVar (store' c')
      (fun v v' s₁ s₁' => Moved .infer π (store c) (store' c') s₁ s₁' ∧
        Same π s₁ s₁' (.var v) (.var v')) (fun _ _ => False) := by
    rw [alike_newVar]
    obtain ⟨hm, hsame⟩ := h.pushNext hp
    exact ⟨hm.to_infer fun hn => hn, hsame⟩
  exact (hlift hR hnew).mono (fun _ _ _ _ h => h) (fun _ _ h => h.1.elim)

theorem CarryAlike.unify {u u' : Ty} (hlift : CarryAlike store store' R) (hR : R c c')
    (h : Twins π (store c) (store' c')) (ht : Same π (store c) (store' c') t t')
    (hu : Same π (store c) (store' c') u u') :
    Alike (liftM (unify t u) : EStateM Error σ Unit) c
      (liftM (unify t' u') : EStateM Error τ Unit) c'
      (fun _ _ d d' => Moved .infer π (store c) (store' c') (store d) (store' d') ∧ R d d')
      (fun d d' => Moved .infer π (store c) (store' c') (store d) (store' d') ∧ R d d') := by
  refine hlift (Q := fun _ _ s₁ s₁' => Moved .infer π (store c) (store' c') s₁ s₁')
    (E := fun s₁ s₁' => Moved .infer π (store c) (store' c') s₁ s₁') hR ?_
  exact (unify_alike h ht hu).mono (fun _ _ _ _ hm => hm.to_infer fun hn => hn)
    (fun _ _ hm => hm.to_infer fun hn => hn)

/-- Looking a name up is an analysis. -/
theorem CarryAlike.name (hlift : CarryAlike store store' R) (htypes : TypesAlike π typeOf typeOf')
    (x : String) : AnalyseAlike π store store' R env env' pinned pinned'
      (liftM (typeOf x env pinned)) (liftM (typeOf' x env' pinned')) := by
  intro c c' hR hset
  refine hlift (Q := fun t t' s₁ s₁' => Moved .infer π (store c) (store' c') s₁ s₁' ∧
    Same π s₁ s₁' t t') (E := fun s₁ s₁' => Moved .infer π (store c) (store' c') s₁ s₁') hR ?_
  exact (htypes hset).mono (fun _ _ _ _ h => ⟨h.1.to_infer fun hn => hn, h.2⟩)
    (fun _ _ h => h.to_infer fun hn => hn)

/-- So is a failure. -/
theorem CarryAlike.throw (hlift : CarryAlike store store' R) (e : Error) :
    AnalyseAlike π store store' R env env' pinned pinned'
      (liftM (throw e : StoreM Ty)) (liftM (throw e : StoreM Ty)) := by
  intro c c' hR hset
  refine hlift (Q := fun t t' s₁ s₁' => Moved .infer π (store c) (store' c') s₁ s₁' ∧
    Same π s₁ s₁' t t') (E := fun s₁ s₁' => Moved .infer π (store c) (store' c') s₁ s₁') hR ?_
  exact ⟨rfl, hset.twins.moved_refl⟩

theorem Comparison.lawful_twins (hlift : CarryAlike store store' R)
    (htypes : TypesAlike π typeOf typeOf') (haround : AroundAlike π store store' R around around') :
    (Comparison.twins π store store' R).Lawful typeOf typeOf' around around' where
  trans h h' := ⟨h.1.trans h'.1, h'.2⟩
  start_later hm hstart := ⟨hm.2, hstart.2.later hm.1⟩
  same_later hm ht := hm.1.same ht
  extend x hstart ht := ⟨hstart.1, hstart.2.extend x ht⟩
  pin hstart ht := ⟨hstart.1, hstart.2.pin ht⟩
  fn hstart ht hu := same_fn hstart.2.twins.valid hstart.2.twins.valid' ht hu
  newVar hstart := (hlift.newVar hstart.1 hstart.2.twins hstart.2.paced).mono
    (fun _ _ _ _ hq => ⟨⟨hq.1.1, hq.2⟩, hq.1.2⟩) (fun _ _ h => h)
  unify hstart ht hu := hlift.unify hstart.1 hstart.2.twins ht hu
  name x := analyseAlike_iff.mp (hlift.name htypes x)
  throw e := analyseAlike_iff.mp (hlift.throw e)
  around _ h := analyseAlike_iff.mp (haround (analyseAlike_iff.mpr h))

/-- Analyses of a term from twins end in the same way. -/
theorem analyseWith_alike (hlift : CarryAlike store store' R) (htypes : TypesAlike π typeOf typeOf')
    (haround : AroundAlike π store store' R around around') (e : Term) :
    ∀ {env env' : Env} {pinned pinned' : List Ty},
      AnalyseAlike π store store' R env env' pinned pinned'
        (analyseWith typeOf around e env pinned) (analyseWith typeOf' around' e env' pinned') :=
  analyseAlike_iff.mpr ((Comparison.lawful_twins hlift htypes haround).analyseWith e)

end Generic

/-! ## Plain analysis -/

theorem carryAlike_id : CarryAlike id id fun _ _ : Store => True :=
  fun _ _ _ _ _ _ _ _ _ h => h.mono (fun _ _ _ _ hq => ⟨hq, trivial⟩) (fun _ _ hq => ⟨hq, trivial⟩)

theorem analysePlain_alike {typeOf typeOf' : String → Env → List Ty → StoreM Ty}
    (htypes : TypesAlike π typeOf typeOf') (e : Term) :
    AnalyseAlike π id id (fun _ _ : Store => True) env env' pinned pinned'
      (analyseWith typeOf (fun _ x => x) e env pinned)
      (analyseWith typeOf' (fun _ x => x) e env' pinned') :=
  analyseWith_alike carryAlike_id htypes (fun _ _ _ _ _ _ _ h => h) e

/-! ## Reporting -/

/-- The same has been written at the same depth, with letters for variables that belong together. -/
structure TracesAlike (π : Pairing) (tr tr' : Trace) : Prop where
  depth : tr'.depth = tr.depth
  log : tr'.log = tr.log
  namer : NamersAlike π tr.namer tr'.namer

namespace TracesAlike

variable {tr tr' : Trace}

theorem enter (h : TracesAlike π tr tr') :
    TracesAlike π (if tr.depth = 0 then { tr with namer := {} } else tr)
      (if tr'.depth = 0 then { tr' with namer := {} } else tr') := by
  rw [h.depth]
  split
  · exact ⟨rfl, h.log, namersAlike_new⟩
  · exact h

theorem write (h : TracesAlike π tr tr') (message : String) :
    TracesAlike π { tr with log := message :: tr.log } { tr' with log := message :: tr'.log } :=
  ⟨h.depth, congrArg (message :: ·) h.log, h.namer⟩

theorem atDepth (h : TracesAlike π tr tr') (f : Nat → Nat) :
    TracesAlike π { tr with depth := f tr.depth } { tr' with depth := f tr'.depth } :=
  ⟨congrArg f h.depth, h.log, h.namer⟩

theorem withNamer (h : TracesAlike π tr tr') {namer namer' : Namer}
    (hn : NamersAlike π namer namer') :
    TracesAlike π { tr with namer } { tr' with namer := namer' } :=
  ⟨h.depth, h.log, hn⟩

end TracesAlike

theorem carryAlike_fst {σ τ : Type} {R : σ → τ → Prop} :
    CarryAlike Prod.fst Prod.fst fun (p : Store × σ) (q : Store × τ) => R p.2 q.2 := by
  intro α β x y c c' Q E hR h
  rw [alike_lift]
  exact h.mono (fun _ _ _ _ hq => ⟨hq, hR⟩) (fun _ _ hq => ⟨hq, hR⟩)

namespace Trace

variable {tr tr' : Trace}

theorem alike_enter {Q : Nat → Nat → Store × Trace → Store × Trace → Prop}
    {E : Store × Trace → Store × Trace → Prop} :
    Alike enter (s, tr) enter (s', tr') Q E ↔
      Q tr.depth tr'.depth (s, if tr.depth = 0 then { tr with namer := {} } else tr)
        (s', if tr'.depth = 0 then { tr' with namer := {} } else tr') := Iff.rfl

theorem alike_write {depth depth' : Nat} {message message' : String}
    {Q : Unit → Unit → Store × Trace → Store × Trace → Prop}
    {E : Store × Trace → Store × Trace → Prop} :
    Alike (write depth message) (s, tr) (write depth' message') (s', tr') Q E ↔
      Q () () (s, { tr with log := ("".pushn ' ' (2 * depth) ++ message) :: tr.log })
        (s', { tr' with log := ("".pushn ' ' (2 * depth') ++ message') :: tr'.log }) := Iff.rfl

theorem alike_showType {Q : String → String → Store × Trace → Store × Trace → Prop}
    {E : Store × Trace → Store × Trace → Prop} :
    Alike (showType t) (s, tr) (showType t') (s', tr') Q E ↔
      Alike (LetPoly.showType t) (s, tr.namer) (LetPoly.showType t') (s', tr'.namer)
        (fun a b p q => Q a b (p.1, { tr with namer := p.2 }) (q.1, { tr' with namer := q.2 }))
        (fun p q => E (p.1, { tr with namer := p.2 }) (q.1, { tr' with namer := q.2 })) := by
  simp only [Alike, ends_showType]

theorem alike_deeper {α β : Type} {x : TraceM α} {y : TraceM β}
    {Q : α → β → Store × Trace → Store × Trace → Prop} {E : Store × Trace → Store × Trace → Prop} :
    Alike (deeper x) (s, tr) (deeper y) (s', tr') Q E ↔
      Alike x (s, { tr with depth := tr.depth + 1 }) y (s', { tr' with depth := tr'.depth + 1 })
        (fun a b p q => Q a b (p.1, { p.2 with depth := p.2.depth - 1 })
          (q.1, { q.2 with depth := q.2.depth - 1 }))
        (fun p q => E (p.1, { p.2 with depth := p.2.depth - 1 })
          (q.1, { q.2 with depth := q.2.depth - 1 })) := by
  simp only [Alike, ends_deeper]

/-- The same is written on both sides. -/
theorem aroundAlike : AroundAlike π Prod.fst Prod.fst
    (fun p q : Store × Trace => TracesAlike π p.2 q.2) around around := by
  rintro e env env' pinned pinned' x y h ⟨s, tr⟩ ⟨s', tr'⟩ htr hset
  replace htr : TracesAlike π tr tr' := htr
  replace hset : TwinSetting π s s' env env' pinned pinned' := hset
  unfold around
  refine .bind ?_
  rw [alike_enter]
  have hentered := htr.enter
  revert hentered
  generalize (if tr.depth = 0 then { tr with namer := {} } else tr) = tr₁
  generalize (if tr'.depth = 0 then { tr' with namer := {} } else tr') = tr₁'
  intro htr₁
  rw [htr.depth]
  cases e.title with
  | error err => exact ⟨rfl, hset.twins.moved_refl, htr₁⟩
  | ok text =>
    refine .bind ?_
    rw [alike_write]
    refine .bind ?_
    rw [alike_deeper]
    refine (h _ _ ((htr₁.write _).atDepth (· + 1)) hset).mono ?_ ?_
    · rintro t t' ⟨s₂, tr₂⟩ ⟨s₂', tr₂'⟩ ⟨⟨hm, ht⟩, htr₂⟩
      replace hm : Moved .infer π s s' s₂ s₂' := hm
      replace htr₂ : TracesAlike π tr₂ tr₂' := htr₂
      refine .bind ?_
      rw [alike_showType]
      refine (showType_alike hm.twins htr₂.namer ht).mono ?_ (fun _ _ h => h.elim)
      rintro type _ ⟨s₃, n⟩ ⟨s₃', n'⟩ ⟨rfl, hm₃, hn⟩
      refine .bind ?_
      rw [alike_write]
      refine ⟨⟨hm.trans (hm₃.to_infer fun hn => hn), hm₃.same ht⟩, ?_⟩
      exact ((htr₂.atDepth (· - 1)).withNamer hn).write _
    · exact fun _ _ hq => ⟨hq.1, hq.2.atDepth (· - 1)⟩

end Trace

/-- Analysis that reports writes the same on both sides. -/
theorem analyseReported_alike {typeOf typeOf' : String → Env → List Ty → StoreM Ty}
    (htypes : TypesAlike π typeOf typeOf') (e : Term) :
    AnalyseAlike π Prod.fst Prod.fst (fun p q : Store × Trace => TracesAlike π p.2 q.2) env env'
      pinned pinned' (analyseWith typeOf Trace.around e env pinned)
      (analyseWith typeOf' Trace.around e env' pinned') :=
  analyseWith_alike carryAlike_fst htypes Trace.aroundAlike e

/-! ## Signatures -/

namespace Signature

/-- The same names have variables, and the variables belong together. -/
def ScopesAlike (π : Pairing) (s s' : Store) (scope scope' : Scope) : Prop :=
  LookupsAlike Eq (fun v v' => Same π s s' (.var v) (.var v')) scope scope'

/-- The stores after twin signatures, or parts of them, have been read. -/
def ReadAlike (π : Pairing) (s s' : Store) (p p' : Store × Scope) : Prop :=
  Moved .grow π s s' p.1 p'.1 ∧ ScopesAlike π p.1 p'.1 p.2 p'.2

theorem scopeVar_alike (x : String) {scope scope' : Scope} (h : Twins π s s')
    (hp : Paced π s s') (hscope : ScopesAlike π s s' scope scope') :
    Alike (scopeVar x) (s, scope) (scopeVar x) (s', scope')
      (fun v v' p p' => ReadAlike π s s' p p' ∧ Same π p.1 p'.1 (.var v) (.var v'))
      (fun _ _ => False) := by
  have hrel := hscope x x rfl
  unfold scopeVar
  rw [alike_modifyGet]
  dsimp only
  revert hrel
  generalize scope.lookup x = o
  generalize scope'.lookup x = o'
  rintro (hsame | _)
  · exact ⟨⟨h.moved_refl, hscope⟩, hsame⟩
  · obtain ⟨hm, hnew⟩ := h.pushNext hp
    refine ⟨⟨hm, ?_⟩, hnew⟩
    exact (hscope.mono fun _ _ hsame => hm.same hsame).cons (fun _ _ hk => by rw [hk]) hnew

mutual

theorem Sig.denote_alike : ∀ (sig : Sig) {s s' : Store} {scope scope' : Scope}, Twins π s s' →
    Paced π s s' → ScopesAlike π s s' scope scope' →
    Alike sig.denote (s, scope) sig.denote (s', scope')
      (fun t t' p p' => ReadAlike π s s' p p' ∧ Same π p.1 p'.1 t t') (fun _ _ => False)
  | .operand o, s, s', scope, scope', h, hp, hscope => by
    rw [Sig.denote]
    exact o.denote_alike h hp hscope
  | .arrow arg result, s, s', scope, scope', h, hp, hscope => by
    rw [Sig.denote]
    refine .bind ((arg.denote_alike h hp hscope).mono ?_ (fun _ _ h => h))
    rintro a a' p p' ⟨⟨hm₁, hscope₁⟩, ha⟩
    refine .bind ((result.denote_alike hm₁.twins (hm₁.paced hp) hscope₁).mono ?_ (fun _ _ h => h))
    rintro r r' q q' ⟨⟨hm₂, hscope₂⟩, hr⟩
    exact ⟨⟨hm₁.trans hm₂, hscope₂⟩, same_fn hm₂.twins.valid hm₂.twins.valid' (hm₂.same ha) hr⟩

theorem Operand.denote_alike : ∀ (o : Operand) {s s' : Store} {scope scope' : Scope},
    Twins π s s' → Paced π s s' → ScopesAlike π s s' scope scope' →
    Alike o.denote (s, scope) o.denote (s', scope')
      (fun t t' p p' => ReadAlike π s s' p p' ∧ Same π p.1 p'.1 t t') (fun _ _ => False)
  | .name text, s, s', scope, scope', h, hp, hscope => by
    rw [Operand.denote]
    split
    · refine .bind ((scopeVar_alike text h hp hscope).mono ?_ (fun _ _ h => h))
      exact fun _ _ _ _ hq => hq
    · exact ⟨⟨h.moved_refl, hscope⟩, same_con h.valid h.valid' .nil⟩
  | .apply name args, s, s', scope, scope', h, hp, hscope => by
    rw [Operand.denote]
    refine .bind ((args.denote_alike h hp hscope).mono ?_ (fun _ _ h => h))
    rintro ts ts' p p' ⟨hread, hts⟩
    exact ⟨hread, same_con hread.1.twins.valid hread.1.twins.valid' hts⟩
  | .group sig, s, s', scope, scope', h, hp, hscope => by
    rw [Operand.denote]
    exact sig.denote_alike h hp hscope

theorem Args.denote_alike : ∀ (args : Args) {s s' : Store} {scope scope' : Scope},
    Twins π s s' → Paced π s s' → ScopesAlike π s s' scope scope' →
    Alike args.denote (s, scope) args.denote (s', scope')
      (fun ts ts' p p' => ReadAlike π s s' p p' ∧ List.Forall₂ (Same π p.1 p'.1) ts ts')
      (fun _ _ => False)
  | .one sig, s, s', scope, scope', h, hp, hscope => by
    rw [Args.denote]
    refine .bind ((sig.denote_alike h hp hscope).mono ?_ (fun _ _ h => h))
    exact fun _ _ _ _ hq => ⟨hq.1, .cons hq.2 .nil⟩
  | .more sig rest, s, s', scope, scope', h, hp, hscope => by
    rw [Args.denote]
    refine .bind ((sig.denote_alike h hp hscope).mono ?_ (fun _ _ h => h))
    rintro t t' p p' ⟨⟨hm₁, hscope₁⟩, ht⟩
    refine .bind ((rest.denote_alike hm₁.twins (hm₁.paced hp) hscope₁).mono ?_ (fun _ _ h => h))
    rintro ts ts' q q' ⟨⟨hm₂, hscope₂⟩, hts⟩
    exact ⟨⟨hm₁.trans hm₂, hscope₂⟩, .cons (hm₂.same ht) hts⟩

end

end Signature

theorem signature_alike (text : String) (h : Twins π s s') (hp : Paced π s s') :
    Alike (signature text) s (signature text) s'
      (fun t t' s₁ s₁' => Moved .grow π s s' s₁ s₁' ∧ Same π s₁ s₁' t t')
      (fun s₁ s₁' => Moved .grow π s s' s₁ s₁') := by
  unfold signature
  cases Signature.parse text with
  | ok sig =>
    have hempty : Signature.ScopesAlike π s s' [] [] := fun _ _ _ => .none
    rw [alike_within]
    exact (sig.denote_alike h hp hempty).mono (fun _ _ _ _ hq => ⟨hq.1.1, hq.2⟩)
      (fun _ _ h => h.elim)
  | error problem => exact ⟨rfl, h.moved_refl⟩

theorem ofSignatures_alike {sigs : List (String × String)} : ∀ {s s' : Store} {env env' : Env},
    Twins π s s' → Paced π s s' → EnvsAlike π s s' env env' →
    Alike (Env.ofSignatures sigs env) s (Env.ofSignatures sigs env') s'
      (fun e e' s₁ s₁' => Moved .grow π s s' s₁ s₁' ∧ EnvsAlike π s₁ s₁' e e')
      (fun s₁ s₁' => Moved .grow π s s' s₁ s₁') := by
  induction sigs with
  | nil => exact fun h _ henv => ⟨h.moved_refl, henv⟩
  | cons entry rest ih =>
    obtain ⟨x, text⟩ := entry
    intro s s' env env' h hp henv
    unfold Env.ofSignatures
    refine .bind ((signature_alike text h hp).mono ?_ (fun _ _ h => h))
    rintro t t' s₁ s₁' ⟨hm, ht⟩
    refine (ih hm.twins (hm.paced hp) ((henv.later hm).extend x ht)).mono ?_ ?_
    · exact fun _ _ _ _ hq => ⟨hm.trans hq.1, hq.2⟩
    · exact fun _ _ hq => hm.trans hq

/-- Environments of the same names and signatures belong together. -/
theorem newEnv_alike (sigs : List (String × String)) (h : Twins π s s') (hp : Paced π s s') :
    Alike (Env.ofSignatures sigs []) s (Env.ofSignatures sigs []) s'
      (fun e e' s₁ s₁' => Moved .grow π s s' s₁ s₁' ∧ EnvsAlike π s₁ s₁' e e')
      (fun s₁ s₁' => Moved .grow π s s' s₁ s₁') :=
  ofSignatures_alike h hp fun _ _ _ => .none

/-! ## Inference -/

section Inference

variable {σ τ : Type} [MonadLiftT StoreM (EStateM Error σ)] [MonadLiftT StoreM (EStateM Error τ)]
  {store : σ → Store} {store' : τ → Store} {R : σ → τ → Prop} {c : σ} {c' : τ}
  {analyse : Term → Env → List Ty → EStateM Error σ Ty}
  {analyse' : Term → Env → List Ty → EStateM Error τ Ty} {e : Term}

/-- Inference from twins ends in the same way when analysis does. -/
theorem inferWith_alike {o o' : Option Env} (hlift : CarryAlike store store' R)
    (hana : ∀ env env', AnalyseAlike π store store' R env env' [] [] (analyse e env [])
      (analyse' e env' [])) (hR : R c c') (h : Twins π (store c) (store' c'))
    (hp : Paced π (store c) (store' c'))
    (ho : Option.Rel (EnvsAlike π (store c) (store' c')) o o') :
    Alike (inferWith analyse e o) c (inferWith analyse' e o') c'
      (fun t t' d d' => (Moved .infer π (store c) (store' c') (store d) (store' d') ∧
        Same π (store d) (store' d') t t') ∧ R d d')
      (fun d d' => Moved .infer π (store c) (store' c') (store d) (store' d') ∧ R d d') := by
  -- from the environments on
  have hmain : ∀ {env env' : Env} {c₁ : σ} {c₁' : τ}, R c₁ c₁' →
      Moved .infer π (store c) (store' c') (store c₁) (store' c₁') →
      EnvsAlike π (store c₁) (store' c₁') env env' →
      Alike (do
          let t ← analyse e env []
          liftM (StoreWithM.within ({} : Namer) (nameVariables t)) : EStateM Error σ Ty) c₁
        (do
          let t ← analyse' e env' []
          liftM (StoreWithM.within ({} : Namer) (nameVariables t)) : EStateM Error τ Ty) c₁'
        (fun t t' d d' => (Moved .infer π (store c) (store' c') (store d) (store' d') ∧
          Same π (store d) (store' d') t t') ∧ R d d')
        (fun d d' => Moved .infer π (store c) (store' c') (store d) (store' d') ∧ R d d') := by
    intro env env' c₁ c₁' hR₁ hm₁ henv
    refine .bind (((hana env env').after hR₁ ⟨hm₁.twins, hm₁.paced hp, henv, sameMembers_nil⟩
      hm₁).mono ?_ (fun _ _ h => h))
    rintro t t' c₂ c₂' ⟨⟨hm₂, _, ht⟩, hR₂⟩
    refine hlift (Q := fun r r' s₁ s₁' => Moved .infer π (store c) (store' c') s₁ s₁' ∧
      Same π s₁ s₁' r r') (E := fun s₁ s₁' => Moved .infer π (store c) (store' c') s₁ s₁') hR₂ ?_
    rw [alike_within]
    refine (nameVariables_alike hm₂.twins namersAlike_new ht).mono ?_ (fun _ _ h => h.elim)
    exact fun _ _ _ _ hq => ⟨hm₂.trans (hq.1.to_infer fun hn => hn), hq.2.1⟩
  cases ho with
  | some henv => exact hmain hR h.moved_refl henv
  | none =>
    refine .bind ((hlift hR (newEnv_alike Env.preludeSignatures h hp)).mono ?_ ?_)
    · rintro env env' c₁ c₁' ⟨⟨hm, henv⟩, hR₁⟩
      exact hmain hR₁ (hm.to_infer fun hn => hn) henv
    · exact fun _ _ hq => ⟨hq.1.to_infer fun hn => hn, hq.2⟩

end Inference

end LetPoly
