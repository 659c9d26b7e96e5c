import LetPoly.Proofs.Compression

/-!
# Reports are only reports

A traced analysis shows the type of every part of a term on its way, which shortens chains of
bindings in the middle of the analysis. Nobody who asks for types can tell: traced and untraced runs
end with the same type or with the same failure, and leave stores that look the same.

* `analyseWith_congr` — only what is run around the parts of a term matters
* `Trace.ends_around` — reporting on a term that can be shown looks at its type and does no more
* `LooksSame` — all variables and all types of two stores look the same
* `PlainSetting` — what an analysis without the bare type starts from
* `tracing_unobservable` — analysis and inference with reports and without
-/

namespace LetPoly

open Store

variable {s s' : Store} {t : Ty} {e : Term} {env : Env} {pinned : List Ty}

/-! ## Terms that can be shown -/

theorem Term.WellFormed.exists_render (h : e.WellFormed) : ∃ text, e.render = .ok text := by
  induction e with
  | ident x => exact ⟨x, rfl⟩
  | lam x body ih =>
    obtain ⟨text, hbody⟩ := ih h
    exact ⟨_, by rw [Term.render, hbody]; rfl⟩
  | app f a ihf iha =>
    obtain ⟨_, hf⟩ := ihf h.1
    obtain ⟨_, ha⟩ := iha h.2
    exact ⟨_, by rw [Term.render, hf, ha]; rfl⟩
  | letIn x d b ihd ihb | letrec x d b ihd ihb =>
    obtain ⟨_, hd⟩ := ihd h.1
    obtain ⟨_, hb⟩ := ihb h.2
    exact ⟨_, by rw [Term.render, hd, hb]; rfl⟩
  | lamOver p body => exact h.elim
  | bare => exact h.elim
  | missing => exact h.elim

/-- A term that can be shown is called by its text in messages. -/
theorem Term.title_of_render {text : String} (h : e.render = .ok text) : e.title = .ok text := by
  cases e with
  | missing => exact nomatch h
  | ident | lam | app | letIn | letrec | lamOver | bare => exact h

/-- The parts of a well-formed term are well-formed, so what is run around other terms does not
matter for its analysis. -/
theorem analyseWith_congr {m : Type → Type} [Monad m] [MonadLiftT StoreM m]
    {typeOf : String → Env → List Ty → StoreM Ty} {around around' : Term → m Ty → m Ty}
    (h : ∀ e, e.WellFormed → around e = around' e) (he : e.WellFormed) :
    analyseWith typeOf around e = analyseWith typeOf around' e := by
  induction e with
  | ident x =>
    funext env pinned
    rw [analyseWith, analyseWith, h _ he]
  | lam x body ih =>
    funext env pinned
    rw [analyseWith, analyseWith, h _ he, ih he]
  | app f a ihf iha =>
    funext env pinned
    rw [analyseWith, analyseWith, h _ he, ihf he.1, iha he.2]
  | letIn x d b ihd ihb | letrec x d b ihd ihb =>
    funext env pinned
    rw [analyseWith, analyseWith, h _ he, ihd he.1, ihb he.2]
  | lamOver p body => exact he.elim
  | bare => exact he.elim
  | missing => exact he.elim

/-! ## Reports on one term -/

theorem Ends.forall {ι ε σ α : Type} {x : EStateM ε σ α} {s : σ} {Q : ι → α → σ → Prop}
    {E : ι → ε → σ → Prop} (h : ∀ i, Ends x s (Q i) (E i)) :
    Ends x s (fun a s' => ∀ i, Q i a s') (fun e s' => ∀ i, E i e s') := by
  unfold Ends at h ⊢
  cases hx : x s with
  | ok a s' => simpa only [hx] using h
  | error e s' => simpa only [hx] using h

theorem Pairing.Takes.plain_right {π : Pairing} {t t' : Ty} (h : π.Takes t t') : t'.Plain := by
  rw [h.eq_rename, Pairing.rename, Ty.plain_subst_iff]
  exact ⟨h.plain, fun v _ => .var _⟩

namespace Trace

/-- Reporting on a term that can be shown looks at the type that has been found and does no more to
the store than the analysis of the term. -/
theorem ends_around {x : TraceM Ty} {text : String} {Q : Ty → Store → Prop}
    {E : Error → Store → Prop} (htext : e.render = .ok text)
    (hx : ∀ tr, Ends x (s, tr)
      (fun t p => (p.1.Valid ∧ p.1.Holds t ∧ (p.1.view t).Plain) ∧
        ∀ s₁, Rights.look.Allows p.1 s₁ → Q t s₁)
      (fun err p => E err p.1)) (tr : Trace) :
    Ends (around e x) (s, tr) (fun t p => Q t p.1) (fun err p => E err p.1) := by
  unfold around
  rw [ends_bind, ends_enter, Term.title_of_render htext]
  dsimp only
  rw [ends_bind, ends_write, ends_bind, ends_deeper]
  refine (hx _).mono (fun t p ht => ?_) (fun _ _ h => h)
  obtain ⟨⟨hs, hheld, hplain⟩, hQ⟩ := ht
  rw [ends_bind, ends_showType]
  exact (showType_ends hs hheld).mono (fun _ q hlook => hQ q.1 hlook)
    (fun _ _ h => absurd hplain h.2)

/-- Reports on terms that can be shown, and on no others. -/
def aroundShown (e : Term) (x : TraceM Ty) : TraceM Ty :=
  match e.render with
  | .error _ => x
  | .ok _ => around e x

theorem aroundShown_of_wellFormed (he : e.WellFormed) : aroundShown e = around e := by
  obtain ⟨text, htext⟩ := he.exists_render
  funext x
  unfold aroundShown
  rw [htext]

/-- Computations on a store alone and on a store with reports. -/
theorem carryAlike_widen {σ : Type} :
    CarryAlike id Prod.fst fun (_ : Store) (_ : Store × σ) => True := by
  intro α β x y s p Q E _ h
  refine Ends.mono h (fun a s₁ ha => ?_) (fun err s₁ he => ?_)
  · exact ends_lift.mpr (ha.mono (fun _ _ hq => ⟨hq, trivial⟩) (fun _ _ hq => hq))
  · exact ends_lift.mpr (he.mono (fun _ _ hq => hq) (fun _ _ hq => ⟨hq.1, hq.2, trivial⟩))

/-- A computation with reports goes along with one without. -/
theorem aroundAlike_shown {π : Pairing} :
    AroundAlike π id Prod.fst (fun (_ : Store) (_ : Store × Trace) => True) (fun _ x => x)
      aroundShown := by
  rintro e env env' pinned pinned' x y h s ⟨s', tr⟩ _ hset
  unfold aroundShown
  split
  · exact h s (s', tr) trivial hset
  · next text htext =>
    have hany := Ends.forall fun tr' : Trace => h s (s', tr') trivial hset
    refine Ends.mono hany (fun a s₁ ha => ?_) (fun err s₁ he => ?_)
    · refine ends_around (Q := fun t s₁' => (Moved .infer π s s' s₁ s₁' ∧ Same π s₁ s₁' a t) ∧ True)
        (E := fun _ _ => False) htext (fun tr' => (ha tr').mono ?_ (fun _ _ h => h)) tr
      rintro t p ⟨⟨hm, ht⟩, _⟩
      refine ⟨⟨hm.twins.valid', ht.holds', ht.takes.plain_right⟩, fun s₂ hlook => ?_⟩
      -- only the store of the run with reports moves
      have hlooked := hm.twins.look (.refl hm.twins.valid) hlook
      exact ⟨⟨hm.trans (hlooked.to_infer fun hn => hn), hlooked.same ht⟩, trivial⟩
    · refine ends_around (Q := fun _ _ => False)
        (E := fun err' s₁' => err' = err ∧ Moved .infer π s s' s₁ s₁' ∧ True) htext
        (fun tr' => (he tr').mono (fun _ _ h => h.elim) (fun _ _ h => h)) tr

end Trace

/-- An analysis with reports ends as the one without, from stores that belong together. -/
theorem analyseTraced_alike {π : Pairing} {env env' : Env} {pinned pinned' : List Ty}
    (he : e.WellFormed) :
    AnalyseAlike π id Prod.fst (fun (_ : Store) (_ : Store × Trace) => True) env env' pinned
      pinned' (analyse e env pinned) (analyseTraced e env' pinned') := by
  have hshown : analyseTraced e = analyseWith typeOfName Trace.aroundShown e :=
    analyseWith_congr (fun e he => (Trace.aroundShown_of_wellFormed he).symm) he
  rw [hshown]
  exact analyseWith_alike Trace.carryAlike_widen typeOfName_alike Trace.aroundAlike_shown e

/-! ## Stores that look the same -/

/-- The stores have the same variables with the same numbers and labels, and all types look the
same. -/
structure LooksSame (s s' : Store) : Prop where
  equivalent : Equivalent s s'
  report_eq : ∀ t, s.Holds t → s'.report t = s.report t

theorem Equivalent.looksSame (h : Equivalent s s') (hs : s.Valid) (hs' : s'.Valid) :
    LooksSame s s' where
  equivalent := h
  report_eq t ht := by
    have ht' : s'.Holds t := by
      intro v hv
      unfold Has
      rw [h.size_eq]
      exact ht v hv
    have hview : s'.view t = s.view t := by
      rw [← hs'.subst_meaning ht', ← hs.subst_meaning ht]
      exact Ty.subst_congr fun v hv => h.view_eq v (ht v hv)
    have hhas : ∀ v ∈ (s.view t).vars, s.Has v := hs.holds_view ht
    unfold Store.report
    rw [hview]
    exact View.ofTy_congr (fun v hv => h.idOf_eq v (hhas v hv))
      (fun v hv => h.label_eq v (hhas v hv))

/-! ## Runs with reports and without -/

/-- An analysis can be made, and the bare type occurs nowhere. -/
structure PlainSetting (s : Store) (env : Env) (pinned : List Ty) : Prop where
  valid : s.Valid
  plain : s.Plain
  env : ∀ x t, env.lookup x = some t → s.Holds t ∧ t.Plain
  pinned : ∀ p ∈ pinned, s.Holds p ∧ p.Plain

namespace PlainSetting

theorem setting (h : PlainSetting s env pinned) : Setting s env pinned :=
  ⟨h.valid, fun x t ht => (h.env x t ht).1, fun p hp => (h.pinned p hp).1⟩

/-- The store belongs together with itself. -/
theorem twinSetting (h : PlainSetting s env pinned) :
    TwinSetting .same s s env env pinned pinned := by
  have hself : Equivalent s s := ⟨rfl, rfl, fun _ _ => rfl, fun _ _ => rfl, fun _ _ => rfl⟩
  have htwins := hself.twins h.valid h.valid h.plain
  exact ⟨htwins, hself.paced, htwins.envsAlike_self h.env, htwins.sameMembers_self h.pinned⟩

theorem analyse_alike (h : PlainSetting s env pinned) (he : e.WellFormed) (tr : Trace) :
    Alike (analyse e env pinned) s (analyseTraced e env pinned) (s, tr)
      (fun t t' s₁ p => Moved .infer .same s s s₁ p.1 ∧ Same .same s₁ p.1 t t')
      (fun s₁ p => Moved .infer .same s s s₁ p.1) :=
  (analyseTraced_alike he s (s, tr) trivial h.twinSetting).mono (fun _ _ _ _ hq => hq.1)
    (fun _ _ hq => hq.1)

theorem infer_alike (h : PlainSetting s env pinned) (he : e.WellFormed) (tr : Trace)
    {env' : Option Env} (hmem : env' = some env ∨ env' = none) :
    Alike (infer e env') s (inferTraced e env') (s, tr)
      (fun t t' s₁ p => Moved .infer .same s s s₁ p.1 ∧ Same .same s₁ p.1 t t')
      (fun s₁ p => Moved .infer .same s s s₁ p.1) := by
  have hset := h.twinSetting
  have henv' : Option.Rel (EnvsAlike .same s s) env' env' := by
    rcases hmem with rfl | rfl
    · exact .some hset.envs
    · exact .none
  exact (inferWith_alike Trace.carryAlike_widen (fun _ _ => analyseTraced_alike he) trivial
    hset.twins hset.paced henv').mono (fun _ _ _ _ hq => hq.1) (fun _ _ hq => hq.1)

/-- Stores that have moved together from one store look the same. -/
theorem looksSame (h : PlainSetting s env pinned) {s₁ s₂ : Store}
    (hm : Moved .infer .same s s s₁ s₂) : LooksSame s₁ s₂ :=
  (hm.equivalent h.twinSetting.paced).looksSame hm.twins.valid hm.twins.valid'

end PlainSetting

/-- Analysis and inference of a well-formed term end in the same way with reports and without,
whatever has been reported before: both return types that look the same, or both fail in the same
way, and they leave stores that look the same. -/
theorem tracing_unobservable (tr : Trace) (h : PlainSetting s env pinned) (he : e.WellFormed) :
    Alike (analyse e env pinned) s (analyseTraced e env pinned) (s, tr)
      (fun t t' s₁ p => p.1.report t' = s₁.report t ∧ LooksSame s₁ p.1)
      (fun s₁ p => LooksSame s₁ p.1) ∧
    ∀ env', env' = some env ∨ env' = none →
      Alike (infer e env') s (inferTraced e env') (s, tr)
        (fun t t' s₁ p => p.1.report t' = s₁.report t ∧ LooksSame s₁ p.1)
        (fun s₁ p => LooksSame s₁ p.1) := by
  constructor
  · exact (h.analyse_alike he tr).mono
      (fun _ _ _ _ ⟨hm, ht⟩ => ⟨ht.report_eq hm.twins, h.looksSame hm⟩) (fun _ _ => h.looksSame)
  · intro env' hmem
    exact (h.infer_alike he tr hmem).mono
      (fun _ _ _ _ ⟨hm, ht⟩ => ⟨ht.report_eq hm.twins, h.looksSame hm⟩) (fun _ _ => h.looksSame)

/-- A function that is pinned is applied to itself under another name. -/
def selfCall : Term := .letIn "g" (.ident "f") (.app (.ident "g") (.ident "f"))

theorem chainStore_setting : PlainSetting chainStore [("f", .var ⟨2⟩)] [.var ⟨2⟩] := by
  have hheld : chainStore.Holds (.var ⟨2⟩) ∧ (Ty.var ⟨2⟩).Plain := ⟨by decide, .var _⟩
  refine ⟨chainStore_valid, chainStore_plain, fun x t ht => ?_, List.forall_mem_singleton.mpr hheld⟩
  obtain ⟨_, rfl⟩ := Prod.mk.inj (List.mem_singleton.mp (mem_of_lookup ht))
  exact hheld

theorem tracing_unobservable_failing : ∃ err s₁ p,
    analyse selfCall [("f", .var ⟨2⟩)] [.var ⟨2⟩] chainStore = .error err s₁ ∧
    analyseTraced selfCall [("f", .var ⟨2⟩)] [.var ⟨2⟩] (chainStore, {}) = .error err p ∧
    p.2.messages.length = 8 ∧ LooksSame s₁ p.1 := by
  -- for any computations, so that no run is evaluated to find out what is said about it
  have halike : ∀ e : Term, e.WellFormed → ∀ x y, analyse e [("f", .var ⟨2⟩)] [.var ⟨2⟩] = x →
      analyseTraced e [("f", .var ⟨2⟩)] [.var ⟨2⟩] = y →
      Alike x chainStore y (chainStore, {})
        (fun t t' s₁ p => p.1.report t' = s₁.report t ∧ LooksSame s₁ p.1)
        (fun s₁ p => LooksSame s₁ p.1) := by
    rintro e he _ _ rfl rfl
    exact (tracing_unobservable {} chainStore_setting he).1
  have hfails : (match analyseTraced selfCall [("f", .var ⟨2⟩)] [.var ⟨2⟩] (chainStore, {}) with
      | .ok _ _ => false
      | .error _ p => p.2.messages.length == 8) = true := by decide +kernel
  replace halike := halike selfCall ⟨trivial, trivial, trivial⟩
  revert halike hfails
  generalize analyse selfCall [("f", .var ⟨2⟩)] [.var ⟨2⟩] = x
  generalize analyseTraced selfCall [("f", .var ⟨2⟩)] [.var ⟨2⟩] = y
  intro hfails halike
  replace halike := halike x y rfl rfl
  cases hx : x chainStore with
  | ok t s₁ =>
    obtain ⟨t', p, hy, _⟩ := halike.of_ok hx
    rw [hy] at hfails
    exact nomatch hfails
  | error err s₁ =>
    obtain ⟨p, hy, hlooks⟩ := halike.of_error hx
    rw [hy] at hfails
    exact ⟨err, s₁, p, rfl, hy, beq_iff_eq.mp hfails, hlooks⟩

end LetPoly
