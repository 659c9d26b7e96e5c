import LetPoly.Proofs.Compression

/-!
# Representatives and occurrences

All operations rest on two ways of looking at types, and here is all that these do. Finding the
representative of a type rebinds the variables on its chain and no others, and finding it again
changes nothing. The occurrence test says whether a variable is one of the unbound variables of a
view; for several types their order does not count.

* `Store.Leads` — a chain of bindings, from one binding to the next
* `Store.Redirects` — the store in which a chain is shortened, binding by binding
* `prune_exact` — looking up follows the chain, shortens it, and is idempotent
* `Decides` — a test that leaves every view as it was
* `occurs_exact` — the occurrence tests decide what is free in views
-/

namespace LetPoly

open Store

variable {s s' : Store} {t r : Ty} {v : Var} {vs : List Var} {ts : List Ty}

/-! ## Chains -/

/-- Following bindings from a type leads through the bound variables `vs`, in this order, to `r`,
which is an unbound variable or not a variable at all. -/
inductive Store.Leads (s : Store) : Ty → List Var → Ty → Prop
  | unbound {v : Var} : s.binding v = none → Leads s (.var v) [] (.var v)
  | bound {v : Var} {t : Ty} {vs : List Var} {r : Ty} : s.binding v = some t → Leads s t vs r →
      Leads s (.var v) (v :: vs) r
  | con {name : String} {args : List Ty} : Leads s (.con name args) [] (.con name args)
  | bare : Leads s .bare [] .bare

/-- In a valid store every chain comes to an end. -/
theorem Store.Valid.leads (hs : s.Valid) (ht : s.Holds t) : s.Leads t (s.chain t) (s.find t) := by
  refine hs.induct ?unbound ?bound ?con ?bare ht
  case unbound =>
    intro v _ hv
    rw [chain_var_of_unbound hv, find_var_of_unbound hv]
    exact .unbound hv
  case bound =>
    intro v u hv ih
    rw [hs.chain_var_of_binding hv, hs.find_var_of_binding hv]
    exact .bound hv ih
  case con =>
    intro name args _ _
    rw [chain_con, find_con]
    exact .con
  case bare =>
    rw [chain_bare, find_bare]
    exact .bare

namespace Store.Leads

/-- A chain is the one that is walked along. -/
theorem walked (h : s.Leads t vs r) (hs : s.Valid) : s.chain t = vs ∧ s.find t = r := by
  induction h with
  | unbound hv => exact ⟨chain_var_of_unbound hv, find_var_of_unbound hv⟩
  | bound hv _ ih =>
    obtain ⟨hchain, hfind⟩ := ih
    rw [hs.chain_var_of_binding hv, hs.find_var_of_binding hv, hchain, hfind]
    exact ⟨rfl, rfl⟩
  | con => exact ⟨chain_con .., find_con ..⟩
  | bare => exact ⟨chain_bare _, find_bare _⟩

/-- From its end a chain leads nowhere. -/
theorem ending (h : s.Leads t vs r) : s.Leads r [] r := by
  induction h with
  | unbound hv => exact .unbound hv
  | bound _ _ ih => exact ih
  | con => exact .con
  | bare => exact .bare

theorem bound_of_mem (h : s.Leads t vs r) (hv : v ∈ vs) : s.binding v ≠ none := by
  induction h with
  | unbound _ => simp at hv
  | bound hw _ ih =>
    rcases List.mem_cons.mp hv with rfl | hv
    · simp [hw]
    · exact ih hv
  | con => simp at hv
  | bare => simp at hv

end Store.Leads

/-! ## Shortened chains -/

/-- `s'` is `s` with the variables `vs` bound straight to `r` and nothing else changed. -/
structure Store.Redirects (s : Store) (vs : List Var) (r : Ty) (s' : Store) : Prop where
  binding_eq : ∀ v, s'.binding v = if v ∈ vs then some r else s.binding v
  label_eq : ∀ v, s'.label v = s.label v
  idOf_eq : ∀ v, s'.idOf v = s.idOf v
  size_eq : s'.cells.size = s.cells.size
  counter_eq : s'.counter = s.counter
  height_eq : s'.height = s.height

theorem Store.Valid.redirects_shorten (hs : s.Valid) (ht : s.Holds t) :
    s.Redirects (s.chain t) (s.find t) (s.shorten t) where
  binding_eq := hs.binding_shorten ht
  label_eq := label_shorten s t
  idOf_eq := idOf_shorten s t
  size_eq := size_shorten s t
  counter_eq := counter_shorten s t
  height_eq := height_shorten s t

/-- Of a chain that has been shortened only the first variable is left. -/
theorem Store.Leads.redirected (h : s.Leads t vs r) (hr : s.Redirects vs r s') :
    s'.Leads t (vs.take 1) r := by
  have hend : s'.Leads r [] r := by
    cases h.ending with
    | unbound hv =>
      -- the end is not on the chain, so it is unbound as before
      refine .unbound ?_
      rw [hr.binding_eq, if_neg fun hmem => h.bound_of_mem hmem hv, hv]
    | con => exact .con
    | bare => exact .bare
  cases h with
  | unbound _ => exact hend
  | bound _ _ => exact .bound (by rw [hr.binding_eq, if_pos (by simp)]) hend
  | con => exact .con
  | bare => exact .bare

/-- Binding a variable to what it is bound to changes nothing. -/
theorem Store.rebind_of_binding (hv : s.binding v = some r) : s.rebind v r = s := by
  obtain ⟨c, hc, hb⟩ := Option.bind_eq_some_iff.mp hv
  have hcells : s.cells.modify v.index ({ · with binding := some r }) = s.cells := by
    refine Array.ext_getElem? fun i => ?_
    rw [Array.getElem?_modify]
    by_cases hi : v.index = i
    · subst hi
      rw [if_pos rfl, show s.cells[v.index]? = some c from hc, Option.map_some, ← hb]
    · rw [if_neg hi]
  unfold rebind
  rw [hcells]

theorem Store.compress_of_binding (h : ∀ v ∈ vs, s.binding v = some r) : s.compress vs r = s := by
  induction vs with
  | nil => rfl
  | cons v vs ih =>
    obtain ⟨hv, hvs⟩ := List.forall_mem_cons.mp h
    show (s.rebind v r).compress vs r = s
    rw [rebind_of_binding hv, ih hvs]

theorem prune_eq (t : Ty) (s : Store) : prune t s = .ok (s.find t) (s.shorten t) := rfl

/-- In a store in which the chain has been shortened, looking up changes nothing. -/
theorem Store.Leads.prune_redirected (h : s.Leads t vs r) (hr : s.Redirects vs r s')
    (hs' : s'.Valid) : prune t s' = .ok r s' := by
  obtain ⟨hchain, hfind⟩ := (h.redirected hr).walked hs'
  have hbound : ∀ v ∈ vs.take 1, s'.binding v = some r := by
    intro v hv
    rw [hr.binding_eq, if_pos (List.mem_of_mem_take hv)]
  rw [prune_eq, shorten, hchain, hfind, compress_of_binding hbound]

/-- Looking up follows the chain of a type to its end and binds every variable on it straight to
that end. It changes nothing else and no view, and doing it again gives the same type and leaves the
store as it is. -/
theorem prune_exact (hs : s.Valid) (ht : s.Holds t) :
    ∃ vs r s', s.Leads t vs r ∧ prune t s = .ok r s' ∧ s.Redirects vs r s' ∧
      (∀ u, s.Holds u → s'.view u = s.view u) ∧ prune t s' = .ok r s' := by
  have hlook := allows_shorten hs ht
  have hleads := hs.leads ht
  have hred := hs.redirects_shorten ht
  refine ⟨_, _, _, hleads, prune_eq t s, hred, fun u hu => ?_, ?_⟩
  · exact hlook.view_eq (fun _ hb => hb) hs hu
  · exact hleads.prune_redirected hred hlook.valid

/-- The store of a chain with a fourth variable that leads into its middle. -/
def branchStore : Store := (chainStore.pushNext none).2.setBinding ⟨3⟩ (.var ⟨0⟩)

theorem branchStore_valid : branchStore.Valid :=
  valid_setBinding (allows_pushNext chainStore_valid).valid (by decide) rfl (by decide) (by decide)

/-- The chain of the third variable is shortened, and the fourth variable still leads to the middle
of it. -/
theorem prune_exact_branch : ∃ s',
    prune (.var ⟨2⟩) branchStore = .ok (.fn (.var ⟨1⟩) (.var ⟨1⟩)) s' ∧
    branchStore.binding ⟨2⟩ = some (.var ⟨0⟩) ∧
    s'.binding ⟨2⟩ = some (.fn (.var ⟨1⟩) (.var ⟨1⟩)) ∧ s'.binding ⟨3⟩ = some (.var ⟨0⟩) ∧
    prune (.var ⟨2⟩) s' = .ok (.fn (.var ⟨1⟩) (.var ⟨1⟩)) s' := by
  obtain ⟨vs, r, s', hleads, hprune, hred, _, hagain⟩ :=
    prune_exact (s := branchStore) (t := .var ⟨2⟩) branchStore_valid (by decide)
  obtain ⟨rfl, rfl⟩ := hleads.walked branchStore_valid
  exact ⟨s', hprune, rfl, hred.binding_eq ⟨2⟩, hred.binding_eq ⟨3⟩, hagain⟩

/-! ## Occurrence -/

/-- The variable is one of the unbound variables of the view of the type. -/
def Store.Free (s : Store) (v : Var) (t : Ty) : Prop := s.binding v = none ∧ v ∈ (s.view t).vars

/-- All variables of a view are unbound. -/
theorem Store.Valid.free_iff (hs : s.Valid) (ht : s.Holds t) : s.Free v t ↔ v ∈ (s.view t).vars :=
  ⟨fun h => h.2, fun h => ⟨(hs.unbound_of_mem_view ht v h).2, h⟩⟩

theorem Store.Valid.exists_free_iff (hs : s.Valid) (hts : ∀ t ∈ ts, s.Holds t) :
    (∃ t ∈ ts, s.Free v t) ↔ Pins s ts v :=
  exists_congr fun t => and_congr_right fun ht => hs.free_iff (hts t ht)

/-- The answer of a test that succeeds. -/
def answerOf (x : StoreM Bool) (s : Store) : Option Bool :=
  match x s with
  | .ok b _ => some b
  | .error _ _ => none

theorem answerOf_of_ok {x : StoreM Bool} {b : Bool} (hx : x s = .ok b s') :
    answerOf x s = some b := by
  unfold answerOf
  rw [hx]

/-- The computation succeeds and says whether `P` holds, and it leaves all views as they are. -/
def Decides (x : StoreM Bool) (s : Store) (P : Prop) : Prop :=
  ∃ b s', x s = .ok b s' ∧ (b = true ↔ P) ∧ ∀ t, s.Holds t → s'.view t = s.view t

namespace Decides

variable {x y : StoreM Bool} {P Q : Prop}

/-- A test that only looks at types. -/
theorem of_ends [Decidable P] (hs : s.Valid)
    (h : Ends x s (fun b s' => b = decide P ∧ Rights.look.Allows s s') (fun _ _ => False)) :
    Decides x s P := by
  obtain ⟨b, s', hx, rfl, hlook⟩ := h.exists_ok
  refine ⟨_, s', hx, decide_eq_true_iff, fun t ht => ?_⟩
  exact hlook.view_eq (fun _ hb => hb) hs ht

theorem congr (h : Decides x s P) (hPQ : P ↔ Q) : Decides x s Q := by
  obtain ⟨b, s', hx, hb, hview⟩ := h
  exact ⟨b, s', hx, hb.trans hPQ, hview⟩

theorem answer_eq_true (h : Decides x s P) (hP : P) : answerOf x s = some true := by
  obtain ⟨b, s', hx, hb, _⟩ := h
  rw [answerOf_of_ok hx, hb.mpr hP]

theorem answer_eq_false (h : Decides x s P) (hP : ¬ P) : answerOf x s = some false := by
  obtain ⟨b, s', hx, hb, _⟩ := h
  cases b with
  | false => exact answerOf_of_ok hx
  | true => exact absurd (hb.mp rfl) hP

/-- Tests that decide the same give the same answer. -/
theorem answer_eq (h : Decides x s P) (h' : Decides y s P) : answerOf x s = answerOf y s := by
  by_cases hP : P
  · rw [h.answer_eq_true hP, h'.answer_eq_true hP]
  · rw [h.answer_eq_false hP, h'.answer_eq_false hP]

end Decides

theorem occurs_decides (hs : s.Valid) (ht : s.Holds t) (v : Var) :
    Decides (occurs v t) s (s.Free v t) :=
  (Decides.of_ends hs (occurs_ends hs ht v)).congr (hs.free_iff ht).symm

theorem occursAny_decides (hs : s.Valid) (hts : ∀ t ∈ ts, s.Holds t) (v : Var) :
    Decides (occursAny v ts) s (∃ t ∈ ts, s.Free v t) :=
  (Decides.of_ends hs (occursAny_ends hs hts v)).congr (hs.exists_free_iff hts).symm

theorem isGeneric_decides (hs : s.Valid) (hts : ∀ t ∈ ts, s.Holds t) (v : Var) :
    Decides (isGeneric v ts) s (¬ ∃ t ∈ ts, s.Free v t) :=
  (Decides.of_ends hs (isGeneric_ends hs hts v)).congr (not_congr (hs.exists_free_iff hts)).symm

/-- The occurrence test says whether the variable is an unbound one of the view of the type, which a
bound variable never is; for several types it says whether it is one in some of their views, and a
variable is generic if it is not. No view changes, and the order of the types does not count. -/
theorem occurs_exact (hs : s.Valid) (ht : s.Holds t) (hts : ∀ u ∈ ts, s.Holds u) (v : Var) :
    Decides (occurs v t) s (s.Free v t) ∧
    (s.binding v ≠ none → answerOf (occurs v t) s = some false) ∧
    Decides (occursAny v ts) s (∃ u ∈ ts, s.Free v u) ∧
    Decides (isGeneric v ts) s (¬ ∃ u ∈ ts, s.Free v u) ∧
    ∀ ts', ts.Perm ts' → answerOf (occursAny v ts') s = answerOf (occursAny v ts) s ∧
      answerOf (isGeneric v ts') s = answerOf (isGeneric v ts) s := by
  have hone := occurs_decides hs ht v
  have hany := occursAny_decides hs hts v
  have hgeneric := isGeneric_decides hs hts v
  refine ⟨hone, fun hv => hone.answer_eq_false fun hfree => hv hfree.1, hany, hgeneric,
    fun ts' hperm => ?_⟩
  have hts' : ∀ u ∈ ts', s.Holds u := fun u hu => hts u (hperm.mem_iff.mpr hu)
  have hiff : (∃ u ∈ ts', s.Free v u) ↔ ∃ u ∈ ts, s.Free v u :=
    exists_congr fun u => and_congr_left fun _ => hperm.mem_iff.symm
  exact ⟨((occursAny_decides hs hts' v).congr hiff).answer_eq hany,
    ((isGeneric_decides hs hts' v).congr (not_congr hiff)).answer_eq hgeneric⟩

/-- A variable is found behind two bindings, also when another type is met first, and the bound
variable on the way is not. -/
theorem occurs_exact_chain :
    answerOf (occurs ⟨1⟩ (.var ⟨2⟩)) chainStore = some true ∧
    answerOf (occurs ⟨0⟩ (.var ⟨2⟩)) chainStore = some false ∧
    answerOf (isGeneric ⟨1⟩ [.int, .var ⟨2⟩]) chainStore = some false := by
  have hts : ∀ u ∈ [Ty.var ⟨2⟩, .int], chainStore.Holds u := by decide
  have hfree : chainStore.Free ⟨1⟩ (.var ⟨2⟩) := ⟨rfl, by decide +kernel⟩
  obtain ⟨hone, _, _, hgeneric, horder⟩ :=
    occurs_exact (t := .var ⟨2⟩) chainStore_valid (by decide) hts ⟨1⟩
  obtain ⟨_, hbound, _⟩ := occurs_exact (t := .var ⟨2⟩) chainStore_valid (by decide) hts ⟨0⟩
  refine ⟨hone.answer_eq_true hfree, hbound nofun, ?_⟩
  rw [(horder [.int, .var ⟨2⟩] (.swap ..)).2]
  exact hgeneric.answer_eq_false fun hnot => hnot ⟨.var ⟨2⟩, by simp, hfree⟩

end LetPoly
