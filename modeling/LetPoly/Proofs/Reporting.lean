import LetPoly.Proofs.TwinAnalysis

/-!
# From report to report

Successive analyses share one state of tracing. An analysis comes back to the depth at which it was
started, whether it succeeds or not, and one that is not inside another starts with new letters. So
what has been reported before has no influence on what is reported next.

* `Trace.KeepsDepth` — the depth comes back
* `Trace.around_newLetters` — the letters that are left from before do not matter
* `Trace.analyseTraced_rested` — analyses that are not inside another report the same
-/

namespace LetPoly.Trace

variable {α β : Type} {e : Term} {x : TraceM Ty} {tr tr' : Trace} {s : Store}

/-! ## Depth -/

/-- The depth after the computation is the one before, also when it fails. -/
def KeepsDepth (x : TraceM α) : Prop :=
  ∀ p, Ends x p (fun _ q => q.2.depth = p.2.depth) (fun _ q => q.2.depth = p.2.depth)

theorem keepsDepth_lift (x : StoreM α) : KeepsDepth (liftM x : TraceM α) := by
  rintro ⟨s, tr⟩
  rw [ends_lift]
  unfold Ends
  cases x s <;> rfl

theorem KeepsDepth.bind {x : TraceM α} {f : α → TraceM β} (hx : KeepsDepth x)
    (hf : ∀ a, KeepsDepth (f a)) : KeepsDepth (x >>= f) := by
  intro p
  rw [ends_bind]
  refine (hx p).mono (fun a q hq => ?_) (fun _ _ h => h)
  exact (hf a q).mono (fun _ _ h => h.trans hq) (fun _ _ h => h.trans hq)

theorem keepsDepth_pure (a : α) : KeepsDepth (pure a : TraceM α) := fun _ => rfl

/-- Reporting on an analysis adds a level and takes it away again. -/
theorem KeepsDepth.around (hx : KeepsDepth x) : KeepsDepth (around e x) := by
  rintro ⟨s, tr⟩
  have hentered : (if tr.depth = 0 then { tr with namer := {} } else tr).depth = tr.depth := by
    split <;> rfl
  unfold Trace.around
  rw [ends_bind, ends_enter]
  generalize (if tr.depth = 0 then { tr with namer := {} } else tr) = tr₁ at hentered
  cases e.title with
  | error err => exact hentered
  | ok text =>
    rw [ends_bind, ends_write, ends_bind, ends_deeper]
    have hback : ∀ n, n = tr₁.depth + 1 → n - 1 = tr.depth := by omega
    refine (hx _).mono (fun t p hp => ?_) (fun _ _ hp => hback _ hp)
    rw [ends_bind, ends_showType]
    unfold Ends
    cases LetPoly.showType t (p.1, p.2.namer) with
    | ok type q => exact hback _ hp
    | error err q => exact hback _ hp

theorem keepsDepth_analyseTraced (e : Term) : ∀ {env : Env} {pinned : List Ty},
    KeepsDepth (analyseTraced e env pinned) := by
  unfold analyseTraced
  induction e with
  | ident x => exact (keepsDepth_lift _).around
  | lam x body ih =>
    intro env pinned
    refine KeepsDepth.around ((keepsDepth_lift _).bind fun v => ?_)
    exact ih.bind fun t => keepsDepth_pure _
  | app f a ihf iha =>
    intro env pinned
    refine KeepsDepth.around (ihf.bind fun function => iha.bind fun argument => ?_)
    exact (keepsDepth_lift _).bind fun v => (keepsDepth_lift _).bind fun _ => keepsDepth_pure _
  | letIn x d b ihd ihb =>
    intro env pinned
    exact KeepsDepth.around (ihd.bind fun definition => ihb)
  | letrec x d b ihd ihb =>
    intro env pinned
    refine KeepsDepth.around ((keepsDepth_lift _).bind fun v => ihd.bind fun definition => ?_)
    exact (keepsDepth_lift _).bind fun _ => ihb
  | lamOver p body _ ih =>
    intro env pinned
    refine KeepsDepth.around ((keepsDepth_lift _).bind fun v => ?_)
    exact ih.bind fun t => keepsDepth_pure _
  | bare => exact (keepsDepth_lift _).around
  | missing => exact (keepsDepth_lift _).around

/-! ## Letters -/

/-- With no term around, the letters that are left from before do not matter. -/
theorem around_newLetters (hdepth : tr.depth = 0) (e : Term) (x : TraceM Ty) (s : Store) :
    around e x (s, tr) = around e x (s, { tr with namer := {} }) := by
  have henter : enter (s, tr) = enter (s, { tr with namer := {} }) := by
    show EStateM.Result.ok _ (s, if tr.depth = 0 then _ else _) = EStateM.Result.ok _ (s, _)
    simp [hdepth]
  unfold around
  show EStateM.bind _ _ _ = EStateM.bind _ _ _
  unfold EStateM.bind
  rw [henter]

theorem analyseTraced_newLetters (hdepth : tr.depth = 0) (e : Term) (env : Env) (pinned : List Ty)
    (s : Store) :
    analyseTraced e env pinned (s, tr) = analyseTraced e env pinned (s, { tr with namer := {} }) := by
  unfold analyseTraced
  cases e <;> exact around_newLetters hdepth ..

/-- No term is around, and the same has been written. -/
structure Rested (tr tr' : Trace) : Prop where
  depth : tr.depth = 0
  depth' : tr'.depth = 0
  log : tr'.log = tr.log

/-- Analyses of twins that are not inside another one report the same, whatever has been reported
before. -/
theorem analyseTraced_rested {π : Pairing} {env env' : Env} {pinned pinned' : List Ty} (e : Term) :
    AnalyseAlike π Prod.fst Prod.fst (fun p q : Store × Trace => Rested p.2 q.2) env env' pinned
      pinned' (analyseTraced e env pinned) (analyseTraced e env' pinned') := by
  rintro ⟨s, tr⟩ ⟨s', tr'⟩ hrest hset
  replace hrest : Rested tr tr' := hrest
  have hnew : TracesAlike π { tr with namer := {} } { tr' with namer := {} } :=
    ⟨hrest.depth'.trans hrest.depth.symm, hrest.log, namersAlike_new⟩
  have halike := (analyseReported_alike typeOfName_alike e (s, { tr with namer := {} })
    (s', { tr' with namer := {} }) hnew hset).and_ends
    (keepsDepth_analyseTraced e (s, { tr with namer := {} }))
    (keepsDepth_analyseTraced e (s', { tr' with namer := {} }))
  refine (halike.mono ?_ ?_).of_starts (analyseTraced_newLetters hrest.depth e env pinned s)
    (analyseTraced_newLetters hrest.depth' e env' pinned' s')
  · rintro t t' p q ⟨⟨hmoved, htraces⟩, hp, hq⟩
    exact ⟨hmoved, hp.trans hrest.depth, hq.trans hrest.depth', htraces.log⟩
  · rintro p q ⟨⟨hmoved, htraces⟩, _, hp, hq⟩
    exact ⟨hmoved, hp.trans hrest.depth, hq.trans hrest.depth', htraces.log⟩

end LetPoly.Trace
