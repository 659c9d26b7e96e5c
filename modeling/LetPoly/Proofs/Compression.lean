import LetPoly.Proofs.TwinAnalysis
import LetPoly.View

/-!
# What nobody can see

Operations shorten chains of bindings on the way, and how much they shorten depends on where they
stop; pinned types are a set, which has no order. Neither shows: stores in which every variable has
the same view are told apart by no operation, whatever the order in which pinned types are met.

* `Equivalent` — stores with the same numbers, labels and views
* `Order` — an order in which the members of a set are met
* `Operation.run` — the operations, with all that they have to say
* `compression_unobservable` — equivalent stores give the same answers and stay equivalent
-/

namespace LetPoly

open Store

variable {s s' s₁ s₁' : Store} {t t' : Ty} {r : Rights}

/-! ## Equivalent stores -/

/-- The stores have the same variables, with the same numbers, labels and views. -/
structure Equivalent (s s' : Store) : Prop where
  size_eq : s'.cells.size = s.cells.size
  counter_eq : s'.counter = s.counter
  idOf_eq : ∀ v, s.Has v → s'.idOf v = s.idOf v
  label_eq : ∀ v, s.Has v → s'.label v = s.label v
  view_eq : ∀ v, s.Has v → s'.view (.var v) = s.view (.var v)

/-- Looking at types leads to an equivalent store. -/
theorem Rights.Allows.equivalent (h : Rights.look.Allows s s') (hs : s.Valid) :
    Equivalent s s' where
  size_eq := h.size_eq fun hm => hm
  counter_eq := h.counter_eq fun hm => hm
  idOf_eq := h.idOf_eq
  label_eq v _ := h.label_eq v fun hl => hl
  view_eq _ hv := h.view_eq (fun _ hb => hb) hs (holds_var.mpr hv)

/-- The bare type does not occur in bound types. -/
def Store.Plain (s : Store) : Prop := ∀ v t, s.binding v = some t → t.Plain

theorem Store.Valid.plain_view (hs : s.Valid) (hp : s.Plain) (ht : s.Holds t) :
    t.Plain → (s.view t).Plain := by
  refine hs.induct (motive := fun t => t.Plain → (s.view t).Plain) ?unbound ?bound ?con ?bare ht
  case unbound =>
    intro v _ hu hv
    rwa [view_var_of_unbound hu]
  case bound =>
    intro v u hv ih _
    rw [hs.view_var_of_binding hv]
    exact ih (hp v u hv)
  case con =>
    intro name args hargs ih h
    rw [hs.view_con (holds_con.mpr hargs), plain_con_view]
    exact fun u hu => ih u hu (Ty.plain_con_iff.mp h u hu)
  case bare => exact fun h => absurd h Ty.not_plain_bare

/-- Every variable and every number belongs together with itself. -/
def Pairing.same : Pairing where
  dom _ := True
  partner := id
  ids := Eq
  partner_inj _ _ h := h
  ids_iff := by
    rintro i _ j _ rfl rfl
    exact Iff.rfl

theorem Pairing.rename_same (t : Ty) : Pairing.same.rename t = t := Ty.subst_id t

theorem namersAlike_same_iff {namer namer' : Namer} :
    NamersAlike .same namer namer' ↔ namer' = namer := by
  have hiff : NamersAlike .same namer namer' ↔ namer.ids = namer'.ids := by
    show List.Forall₂ Eq namer.ids namer'.ids ↔ _
    rw [List.forall₂_eq_eq_eq]
  rw [hiff, eq_comm]
  obtain ⟨ids⟩ := namer
  obtain ⟨ids'⟩ := namer'
  exact (Namer.mk.injEq ids' ids).to_iff.symm

/-- States of tracing between which nothing can be told apart are the same. -/
theorem tracesAlike_same_iff {tr tr' : Trace} : TracesAlike .same tr tr' ↔ tr' = tr := by
  constructor
  · rintro ⟨hdepth, hlog, hnamer⟩
    cases tr
    cases tr'
    obtain rfl := hdepth
    obtain rfl := hlog
    obtain rfl := namersAlike_same_iff.mp hnamer
    rfl
  · rintro rfl
    exact ⟨rfl, rfl, namersAlike_same_iff.mpr rfl⟩

theorem Equivalent.twins (h : Equivalent s s') (hs : s.Valid) (hs' : s'.Valid) (hp : s.Plain) :
    Twins .same s s' where
  valid := hs
  valid' := hs'
  var v _ hv := by
    have hv' : s'.Has v := by
      unfold Has
      rwa [h.size_eq]
    refine ⟨holds_var.mpr hv, holds_var.mpr hv', ?_, fun _ _ => trivial, ?_⟩
    · exact hs.plain_view hp (holds_var.mpr hv) (.var v)
    · rw [Pairing.rename_same]
      exact h.view_eq v hv
  ids v _ hv := (h.idOf_eq v hv).symm
  label v _ hv := h.label_eq v hv

theorem Equivalent.paced (h : Equivalent s s') : Paced .same s s' := by
  refine fun k => ⟨trivial, ?_, ?_⟩
  · rw [h.size_eq]
    rfl
  · rw [h.counter_eq]
    rfl

/-- Twins that have moved together are equivalent. -/
theorem Moved.equivalent (hm : Moved r .same s s' s₁ s₁') (hp : Paced .same s s') :
    Equivalent s₁ s₁' where
  size_eq := congrArg Var.index (hm.paced hp 0).2.1.symm
  counter_eq := (hm.paced hp 0).2.2.symm
  idOf_eq v hv := (hm.twins.ids v trivial hv).symm
  label_eq v hv := hm.twins.label v trivial hv
  view_eq v hv := by
    have h := (hm.twins.var v trivial hv).takes.eq_rename
    rwa [Pairing.rename_same] at h

theorem View.ofTy_congr (hid : ∀ v ∈ t.vars, s'.idOf v = s.idOf v)
    (hlabel : ∀ v ∈ t.vars, s'.label v = s.label v) : View.ofTy s' t = View.ofTy s t := by
  induction t with
  | var v =>
    rw [View.ofTy, View.ofTy, hid v (by simp), hlabel v (by simp)]
  | con name args ih =>
    have hall : ∀ u ∈ args, View.ofTy s' u = View.ofTy s u := fun u hu =>
      ih u hu (fun v hv => hid v (Ty.mem_vars_con.mpr ⟨u, hu, hv⟩))
        (fun v hv => hlabel v (Ty.mem_vars_con.mpr ⟨u, hu, hv⟩))
    have hlist : ∀ us : List Ty, (∀ u ∈ us, View.ofTy s' u = View.ofTy s u) →
        View.ofTys s' us = View.ofTys s us := by
      intro us hus
      induction us with
      | nil => rfl
      | cons u us ih =>
        rw [View.ofTys, View.ofTys, hus u (by simp), ih fun w hw => hus w (by simp [hw])]
    rw [View.ofTy, View.ofTy, hlist args hall]
  | bare => rfl

/-- If variables belong together with themselves only, types that belong together have one view. -/
theorem Same.view_eq_of_partner {π : Pairing} (hpartner : π.partner = id)
    (ht : Same π s s' t t') : s'.view t' = s.view t := by
  rw [ht.takes.eq_rename, Pairing.rename, hpartner]
  exact Ty.subst_id _

/-- If variables and numbers belong together with themselves only, types that belong together are
reported in the same way. -/
theorem Same.report_eq_of_partner {π : Pairing} (hpartner : π.partner = id)
    (hids : ∀ i i', π.ids i i' → i = i') (ht : Same π s s' t t') (h : Twins π s s') :
    s'.report t' = s.report t := by
  have hhas : ∀ v ∈ (s.view t).vars, s.Has v := h.valid.holds_view ht.holds
  have hvar : ∀ v, π.partner v = v := congrFun hpartner
  unfold Store.report
  rw [ht.view_eq_of_partner hpartner]
  refine View.ofTy_congr (fun v hv => ?_) (fun v hv => ?_)
  · have hid := hids _ _ (h.ids v (ht.takes.dom v hv) (hhas v hv))
    rw [hid, hvar]
  · have hlabel := h.label v (ht.takes.dom v hv) (hhas v hv)
    rwa [hvar] at hlabel

/-- Types that belong together in equivalent stores are reported in the same way. -/
theorem Same.report_eq (ht : Same .same s s' t t') (h : Twins .same s s') :
    s'.report t' = s.report t :=
  ht.report_eq_of_partner rfl (fun _ _ hid => hid) h

/-! ## Orders -/

/-- An order in which the members of a set are met. It may depend on everything there is. -/
structure Order where
  arrange : Store → List Ty → List Ty
  perm : ∀ s ts, (arrange s ts).Perm ts

/-- The order in which the members are listed. -/
def Order.listed : Order := ⟨fun _ ts => ts, fun _ _ => .refl _⟩

/-- The order opposite to the list. -/
def Order.opposite : Order := ⟨fun _ ts => ts.reverse, fun _ ts => ts.reverse_perm⟩

/-- Members that belong together do so in any order. -/
theorem SameMembers.arrange {π : Pairing} {ts ts' : List Ty} (h : SameMembers π s s' ts ts')
    (order order' : Order) :
    SameMembers π s s' (order.arrange s ts) (order'.arrange s' ts') where
  left t ht := by
    obtain ⟨t', ht', hsame⟩ := h.left t ((order.perm s ts).mem_iff.mp ht)
    exact ⟨t', (order'.perm s' ts').mem_iff.mpr ht', hsame⟩
  right t' ht' := by
    obtain ⟨t, ht, hsame⟩ := h.right t' ((order'.perm s' ts').mem_iff.mp ht')
    exact ⟨t, (order.perm s ts).mem_iff.mpr ht, hsame⟩

/-- The type of a name, with the pinned types met in the given order. -/
def typeOfNameIn (order : Order) (name : String) (env : Env) (pinned : List Ty) : StoreM Ty := do
  typeOfName name env (order.arrange (← get) pinned)

theorem typeOfNameIn_alike {π : Pairing} (order order' : Order) :
    TypesAlike π (typeOfNameIn order) (typeOfNameIn order') := by
  intro x s s' env env' pinned pinned' h
  refine .bind ?_
  rw [alike_get]
  exact typeOfName_alike ⟨h.twins, h.paced, h.envs, h.pinned.arrange order order'⟩

/-- Analysis with the pinned types met in the given order. -/
def analyseIn (order : Order) : Term → Env → List Ty → StoreM Ty :=
  analyseWith (typeOfNameIn order) fun _ x => x

/-- Analysis that reports, with the pinned types met in the given order. -/
def analyseTracedIn (order : Order) : Term → Env → List Ty → TraceM Ty :=
  analyseWith (typeOfNameIn order) Trace.around

/-- In the order in which they are listed, this is analysis. -/
theorem analyseIn_listed :
    analyseIn .listed = analyse ∧ analyseTracedIn .listed = analyseTraced := ⟨rfl, rfl⟩

/-! ## Operations -/

/-- The operations on types of a store. Analysis and inference may be reported on, from any state of
tracing. -/
inductive Operation where
  | prune (t : Ty)
  | unify (t u : Ty)
  | occurs (v : Var) (t : Ty)
  | occursAny (v : Var) (ts : List Ty)
  | isGeneric (v : Var) (pinned : List Ty)
  | fresh (t : Ty) (pinned : List Ty)
  | typeOfName (x : String) (env : Env) (pinned : List Ty)
  | analyse (e : Term) (env : Env) (pinned : List Ty) (tracing : Option Trace)
  | infer (e : Term) (env : Option Env) (tracing : Option Trace)
  | showType (t : Ty) (namer : Namer)
  | nameVariables (t : Ty) (namer : Namer)

/-- What an operation has to say. -/
inductive Answer where
  | done
  | view (v : View)
  | truth (b : Bool)
  | text (s : String) (namer : Namer)
  | named (v : View) (namer : Namer)
  /-- The state of tracing at the end holds all messages. -/
  | reported (outcome : Except Error View) (tr : Trace)

namespace Operation

/-- The view of a type that an operation has returned. -/
def answerType (t : Ty) : StoreM Answer := return .view ((← get).report t)

/-- The outcome of a computation that reports, and the state of tracing that it leaves. -/
def answerReport (tr : Trace) (x : TraceM Ty) : StoreM Answer := do
  let (outcome, tr) ← StoreWithM.runFrom tr x
  return .reported (outcome.map (← get).report) tr

/-- Runs an operation, with sets met in the given order. -/
def run (order : Order) : Operation → StoreM Answer
  | .prune t => do answerType (← LetPoly.prune t)
  | .unify t u => do
    LetPoly.unify t u
    return .done
  | .occurs v t => return .truth (← LetPoly.occurs v t)
  | .occursAny v ts => do
    return .truth (← LetPoly.occursAny v (order.arrange (← get) ts))
  | .isGeneric v pinned => do
    return .truth (← LetPoly.isGeneric v (order.arrange (← get) pinned))
  | .fresh t pinned => do answerType (← LetPoly.fresh t (order.arrange (← get) pinned))
  | .typeOfName x env pinned => do answerType (← typeOfNameIn order x env pinned)
  | .analyse e env pinned none => do answerType (← analyseIn order e env pinned)
  | .analyse e env pinned (some tr) => answerReport tr (analyseTracedIn order e env pinned)
  | .infer e env none => do answerType (← inferWith (analyseIn order) e env)
  | .infer e env (some tr) => answerReport tr (inferWith (analyseTracedIn order) e env)
  | .showType t namer => StoreWithM.within namer do
    let text ← LetPoly.showType t
    return .text text (← get).2
  | .nameVariables t namer => StoreWithM.within namer do
    let r ← LetPoly.nameVariables t
    let (s, namer) ← get
    return .named (s.report r) namer

/-- All types that the operation is given are types of the store without the bare type. -/
def Given (s : Store) : Operation → Prop
  | .prune t | .showType t _ | .nameVariables t _ => s.Holds t ∧ t.Plain
  | .unify t u => (s.Holds t ∧ t.Plain) ∧ s.Holds u ∧ u.Plain
  | .occurs v t => s.Has v ∧ s.Holds t ∧ t.Plain
  | .occursAny v ts | .isGeneric v ts => s.Has v ∧ ∀ t ∈ ts, s.Holds t ∧ t.Plain
  | .fresh t pinned => (s.Holds t ∧ t.Plain) ∧ ∀ p ∈ pinned, s.Holds p ∧ p.Plain
  | .typeOfName _ env pinned | .analyse _ env pinned _ =>
    (∀ x t, env.lookup x = some t → s.Holds t ∧ t.Plain) ∧ ∀ p ∈ pinned, s.Holds p ∧ p.Plain
  | .infer _ env _ => ∀ env' ∈ env, ∀ x t, env'.lookup x = some t → s.Holds t ∧ t.Plain

/-- The computations give the same answer, or fail in the same way, and leave equivalent stores. -/
def Agree (x : StoreM Answer) (s : Store) (y : StoreM Answer) (s' : Store) : Prop :=
  Alike x s y s' (fun a a' s₁ s₁' => a' = a ∧ Equivalent s₁ s₁')
    (fun s₁ s₁' => Equivalent s₁ s₁')

theorem agree_answerType {x y : StoreM Ty} (hp : Paced .same s s')
    (h : Alike x s y s'
      (fun t t' s₁ s₁' => Moved r .same s s' s₁ s₁' ∧ Same .same s₁ s₁' t t')
      (fun s₁ s₁' => Moved r .same s s' s₁ s₁')) :
    Agree (x >>= answerType) s (y >>= answerType) s' := by
  refine .bind (h.mono ?_ (fun _ _ hm => hm.equivalent hp))
  rintro t t' s₁ s₁' ⟨hm, ht⟩
  refine .bind ?_
  rw [alike_get, alike_pure, ht.report_eq hm.twins]
  exact ⟨rfl, hm.equivalent hp⟩

theorem agree_answerReport {x y : TraceM Ty} {tr : Trace} (hp : Paced .same s s')
    (h : Alike x (s, tr) y (s', tr)
      (fun t t' p p' => (Moved r .same s s' p.1 p'.1 ∧ Same .same p.1 p'.1 t t') ∧
        TracesAlike .same p.2 p'.2)
      (fun p p' => Moved r .same s s' p.1 p'.1 ∧ TracesAlike .same p.2 p'.2)) :
    Agree (answerReport tr x) s (answerReport tr y) s' := by
  refine .bind (.runFrom (h.mono ?_ ?_))
  · rintro t t' ⟨s₁, tr₁⟩ ⟨s₁', _⟩ ⟨⟨hm, ht⟩, htr⟩
    obtain rfl := tracesAlike_same_iff.mp htr
    show Answer.reported (.ok (s₁'.report t')) _ = .reported (.ok (s₁.report t)) _ ∧
      Equivalent s₁ s₁'
    rw [ht.report_eq hm.twins]
    exact ⟨rfl, hm.equivalent hp⟩
  · rintro ⟨s₁, tr₁⟩ ⟨s₁', _⟩ ⟨hm, htr⟩ err
    obtain rfl := tracesAlike_same_iff.mp htr
    exact ⟨rfl, hm.equivalent hp⟩

theorem agree_truth {x y : StoreM Bool} (hp : Paced .same s s')
    (h : Alike x s y s' (fun b b' s₁ s₁' => b' = b ∧ Moved .look .same s s' s₁ s₁')
      (fun _ _ => False)) :
    Agree (do return .truth (← x)) s (do return .truth (← y)) s' := by
  refine .bind (h.mono ?_ (fun _ _ hm => hm.elim))
  rintro b _ s₁ s₁' ⟨rfl, hm⟩
  exact ⟨rfl, hm.equivalent hp⟩

end Operation

section Same

variable {env : Env} {ts : List Ty}

theorem Twins.same_self (h : Twins .same s s') (ht : s.Holds t ∧ t.Plain) :
    Same .same s s' t t := by
  have hsame := h.same_rename ht.1 ht.2 fun _ _ => trivial
  rwa [Pairing.rename_same] at hsame

theorem Twins.sameMembers_self (h : Twins .same s s') (hts : ∀ t ∈ ts, s.Holds t ∧ t.Plain) :
    SameMembers .same s s' ts ts where
  left t ht := ⟨t, ht, h.same_self (hts t ht)⟩
  right t ht := ⟨t, ht, h.same_self (hts t ht)⟩

theorem Twins.envsAlike_self (h : Twins .same s s')
    (henv : ∀ x t, env.lookup x = some t → s.Holds t ∧ t.Plain) : EnvsAlike .same s s' env env := by
  rintro x _ rfl
  cases hx : env.lookup x with
  | none => exact .none
  | some t => exact .some (h.same_self (henv x t hx))

end Same

open Operation in
/-- Equivalent stores give the same answers to every operation, whatever the orders in which the
members of sets are met, and they stay equivalent; failures and reports are the same as well. -/
theorem compression_unobservable (op : Operation) (order order' : Order) (hs : s.Valid)
    (hs' : s'.Valid) (heq : Equivalent s s') (hplain : s.Plain) (hgiven : op.Given s) :
    Alike (op.run order) s (op.run order') s'
      (fun a a' s₁ s₁' => a' = a ∧ Equivalent s₁ s₁') (fun s₁ s₁' => Equivalent s₁ s₁') := by
  have h := heq.twins hs hs' hplain
  have hp := heq.paced
  cases op with
  | prune t =>
    exact agree_answerType hp ((prune_alike h (h.same_self hgiven)).mono (fun _ _ _ _ hq => hq)
      (fun _ _ hq => hq.elim))
  | unify t u =>
    refine .bind ((unify_alike h (h.same_self hgiven.1) (h.same_self hgiven.2)).mono ?_ ?_)
    · exact fun _ _ _ _ hm => ⟨rfl, hm.equivalent hp⟩
    · exact fun _ _ hm => hm.equivalent hp
  | occurs v t =>
    refine agree_truth hp ((occurs_alike h (h.same_self hgiven.2) trivial).mono ?_
      (fun _ _ hq => hq))
    exact fun _ _ _ _ hq => ⟨hq.1, hq.2.2⟩
  | occursAny v ts =>
    have hts := (h.sameMembers_self hgiven.2).arrange order order'
    have hany := occursAny_alike (v := v) h hts trivial
    refine .bind ?_
    rw [alike_get]
    exact agree_truth hp hany
  | isGeneric v pinned =>
    have hpinned := (h.sameMembers_self hgiven.2).arrange order order'
    have hgeneric := isGeneric_alike (v := v) h hpinned trivial
    refine .bind ?_
    rw [alike_get]
    exact agree_truth hp hgeneric
  | fresh t pinned =>
    refine .bind ?_
    rw [alike_get]
    have hpinned := (h.sameMembers_self hgiven.2).arrange order order'
    exact agree_answerType hp ((fresh_alike h hp hpinned (h.same_self hgiven.1)).mono
      (fun _ _ _ _ hq => hq) (fun _ _ hq => hq.elim))
  | typeOfName x env pinned =>
    exact agree_answerType hp (typeOfNameIn_alike order order'
      ⟨h, hp, h.envsAlike_self hgiven.1, h.sameMembers_self hgiven.2⟩)
  | analyse e env pinned tracing =>
    have hset : TwinSetting .same s s' env env pinned pinned :=
      ⟨h, hp, h.envsAlike_self hgiven.1, h.sameMembers_self hgiven.2⟩
    have htypes : TypesAlike .same (typeOfNameIn order) (typeOfNameIn order') :=
      typeOfNameIn_alike order order'
    cases tracing with
    | none =>
      exact agree_answerType hp ((analysePlain_alike htypes e s s' trivial hset).mono
        (fun _ _ _ _ hq => hq.1) (fun _ _ hq => hq.1))
    | some tr =>
      exact agree_answerReport hp (analyseReported_alike htypes e (s, tr) (s', tr)
        (tracesAlike_same_iff.mpr rfl) hset)
  | infer e env tracing =>
    have htypes : TypesAlike .same (typeOfNameIn order) (typeOfNameIn order') :=
      typeOfNameIn_alike order order'
    have henv : Option.Rel (EnvsAlike .same s s') env env := by
      cases env with
      | none => exact .none
      | some env' => exact .some (h.envsAlike_self (hgiven env' rfl))
    cases tracing with
    | none =>
      exact agree_answerType hp ((inferWith_alike carryAlike_id
        (fun _ _ => analysePlain_alike htypes e) trivial h hp henv).mono
        (fun _ _ _ _ hq => hq.1) (fun _ _ hq => hq.1))
    | some tr =>
      exact agree_answerReport hp (inferWith_alike carryAlike_fst
        (fun _ _ => analyseReported_alike htypes e) (tracesAlike_same_iff.mpr rfl) h hp henv)
  | showType t namer =>
    refine alike_within.mpr (.bind ((showType_alike h (namersAlike_same_iff.mpr rfl)
      (h.same_self hgiven)).mono ?_ (fun _ _ hq => hq.elim)))
    rintro text _ ⟨s₁, n⟩ ⟨s₁', n'⟩ ⟨rfl, hm, hn⟩
    obtain rfl : n' = n := namersAlike_same_iff.mp hn
    exact ⟨rfl, hm.equivalent hp⟩
  | nameVariables t namer =>
    refine alike_within.mpr (.bind ((nameVariables_alike h (namersAlike_same_iff.mpr rfl)
      (h.same_self hgiven)).mono ?_ (fun _ _ hq => hq.elim)))
    rintro u u' ⟨s₁, n⟩ ⟨s₁', n'⟩ ⟨hm, hu, hn⟩
    obtain rfl : n' = n := namersAlike_same_iff.mp hn
    show Answer.named (s₁'.report u') n' = .named (s₁.report u) n' ∧ Equivalent s₁ s₁'
    rw [hu.report_eq hm.twins]
    exact ⟨rfl, hm.equivalent hp⟩

/-- A store in which the third variable leads to functions by way of the first. -/
def chainStore : Store := functionStore.setBinding ⟨2⟩ (.var ⟨0⟩)

theorem chainStore_valid : chainStore.Valid :=
  valid_setBinding functionStore_allows.valid (by decide) rfl (by decide) (by decide)

theorem chainStore_plain : chainStore.Plain := by
  rintro ⟨i⟩ t ht
  have hi : i < 3 := has_of_binding ht
  obtain rfl | rfl | rfl : i = 0 ∨ i = 1 ∨ i = 2 := by omega
  · obtain rfl : Ty.fn (.var ⟨1⟩) (.var ⟨1⟩) = t := Option.some.inj ht
    simp
  · exact nomatch ht
  · obtain rfl : Ty.var ⟨0⟩ = t := Option.some.inj ht
    simp

/-- A function of that store is called while its type is pinned. -/
def chainCall : Operation :=
  .analyse (.app (.ident "f") (.ident "3")) [("f", .var ⟨2⟩)] [.var ⟨2⟩, .var ⟨1⟩] (some {})

theorem chainCall_given : chainCall.Given chainStore := by
  have hheld : ∀ i < 3, chainStore.Holds (.var ⟨i⟩) ∧ (Ty.var ⟨i⟩).Plain := fun i hi =>
    ⟨holds_var.mpr hi, .var _⟩
  constructor
  · intro x t ht
    obtain ⟨_, rfl⟩ := Prod.mk.inj (List.mem_singleton.mp (mem_of_lookup ht))
    exact hheld 2 (by decide)
  · rw [List.forall_mem_cons, List.forall_mem_singleton]
    exact ⟨hheld 2 (by decide), hheld 1 (by decide)⟩

theorem compression_unobservable_chain :
    (chainStore.shorten (.var ⟨2⟩)).binding ⟨2⟩ ≠ chainStore.binding ⟨2⟩ ∧
    Alike (chainCall.run .listed) chainStore
      (chainCall.run .opposite) (chainStore.shorten (.var ⟨2⟩))
      (fun a a' s₁ s₁' => a' = a ∧ Equivalent s₁ s₁') (fun s₁ s₁' => Equivalent s₁ s₁') := by
  have hlook := allows_shorten (t := .var ⟨2⟩) chainStore_valid (holds_var.mpr (by decide))
  constructor
  · show some (Ty.fn (.var ⟨1⟩) (.var ⟨1⟩)) ≠ some (.var ⟨0⟩)
    exact nofun
  · -- the operation is not to be run to find out what it is
    have hgiven := chainCall_given
    generalize chainCall = op at hgiven ⊢
    exact compression_unobservable op .listed .opposite chainStore_valid hlook.valid
      (hlook.equivalent chainStore_valid) chainStore_plain hgiven

end LetPoly
