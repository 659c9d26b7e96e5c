import LetPoly.Proofs.Reporting
import LetPoly.Report

/-!
# Inference does not depend on history

What was made, bound and labelled before a program is looked at does not show in what is said about
it. From any two stores the variables that are made belong together, the first to the first and so
on, and nothing else is ever looked at; so the answers are the same, but for the numbers of
variables, which start from the counters.

* `Pairing.shift` — the variables that two stores will make
* `judgeWith_alike` — what is said about a program from twins
* `inference_history` — what is said about a program from any two stores
-/

namespace LetPoly

open Store

variable {π : Pairing} {s s' : Store} {t t' : Ty}

/-! ## Variables to come -/

/-- The variables that two stores will make belong together, in the order in which they are made,
and so do the numbers from the counters on. -/
def Pairing.shift (s s' : Store) : Pairing where
  dom v := s.cells.size ≤ v.index
  partner v := ⟨v.index - s.cells.size + s'.cells.size⟩
  ids i i' := i' + s.counter = i + s'.counter
  partner_inj := by
    rintro ⟨i⟩ ⟨j⟩ hi hj h
    simp only [Var.mk.injEq] at h hi hj ⊢
    omega
  ids_iff := by
    intro i i' j j' hi hj
    omega

/-- No variable has a partner yet. -/
theorem twins_shift (hs : s.Valid) (hs' : s'.Valid) : Twins (.shift s s') s s' where
  valid := hs
  valid' := hs'
  var _ hd hv := absurd hv (Nat.not_lt.mpr hd)
  ids _ hd hv := absurd hv (Nat.not_lt.mpr hd)
  label _ hd hv := absurd hv (Nat.not_lt.mpr hd)

theorem paced_shift (s s' : Store) : Paced (.shift s s') s s' := by
  refine fun k => ⟨Nat.le_add_right _ _, ?_, ?_⟩
  · show Var.mk (s.cells.size + k - s.cells.size + s'.cells.size) = ⟨s'.cells.size + k⟩
    rw [Nat.add_sub_cancel_left, Nat.add_comm]
  · show s'.counter + k + s.counter = s.counter + k + s'.counter
    omega

/-! ## Verdicts -/

theorem Pairing.vars_rename (π : Pairing) (t : Ty) : (π.rename t).vars = t.vars.map π.partner := by
  induction t with
  | var v => rfl
  | con name args ih =>
    rw [rename_con, Ty.vars, Ty.vars, Ty.varsList_eq_flatMap, Ty.varsList_eq_flatMap,
      List.flatMap_map, List.map_flatMap]
    exact List.flatMap_congr fun t ht => ih t ht
  | bare => rfl

/-- The distinct variables of types that belong together are partners, in the same order. -/
theorem Same.freeVars (h : Same π s s' t t') (hs : s.Valid) :
    List.Forall₂ (fun v v' => (π.dom v ∧ s.Has v) ∧ v' = π.partner v) (s.freeVars t)
      (s'.freeVars t') := by
  refine forall₂_eraseDups ?_ _ (Nat.le_refl _) ?_
  · rintro v _ w _ ⟨⟨hv, _⟩, rfl⟩ ⟨⟨hw, _⟩, rfl⟩
    exact ⟨congrArg π.partner, π.partner_inj hv hw⟩
  · rw [h.takes.eq_rename, π.vars_rename, List.forall₂_map_right_iff, List.forall₂_same]
    exact fun v hv => ⟨⟨h.takes.dom v hv, hs.holds_view h.holds v hv⟩, rfl⟩

namespace Report

/-- The same text, and numbers that belong together. -/
structure VerdictsAlike (π : Pairing) (d d' : Verdict) : Prop where
  type_eq : d'.type = d.type
  ids : List.Forall₂ π.ids d.ids d'.ids

theorem verdict_alike (h : Twins π s s') (ht : Same π s s' t t') :
    Alike (verdict t) s (verdict t') s' (fun d d' _ _ => VerdictsAlike π d d')
      (fun _ _ => False) := by
  unfold verdict
  refine .bind ((showNew_alike h ht).mono ?_ (fun _ _ h => h))
  rintro type _ s₁ s₁' ⟨rfl, hm⟩
  refine .bind ?_
  rw [alike_get]
  refine ⟨rfl, ?_⟩
  rw [List.forall₂_map_left_iff, List.forall₂_map_right_iff]
  refine ((hm.same ht).freeVars hm.twins.valid).imp ?_
  rintro v _ ⟨⟨hd, hv⟩, rfl⟩
  exact hm.twins.ids v hd hv

section Generic

variable {σ τ : Type} [MonadLiftT StoreM (EStateM Error σ)] [MonadLiftT StoreM (EStateM Error τ)]
  {store : σ → Store} {store' : τ → Store} {R : σ → τ → Prop} {c : σ} {c' : τ}
  {analyse : Term → Env → List Ty → EStateM Error σ Ty}
  {analyse' : Term → Env → List Ty → EStateM Error τ Ty}

/-- The same is said about a program from twins, when analysis ends in the same way. -/
theorem judgeWith_alike (p : Program) (hlift : CarryAlike store store' R)
    (hana : ∀ e env env', AnalyseAlike π store store' R env env' [] [] (analyse e env [])
      (analyse' e env' [])) (hR : R c c') (h : Twins π (store c) (store' c'))
    (hp : Paced π (store c) (store' c')) :
    Alike (judgeWith (inferWith analyse) p) c (judgeWith (inferWith analyse') p) c'
      (fun d d' q q' => VerdictsAlike π d d' ∧ R q q') (fun q q' => R q q') := by
  -- environments, if there are signatures
  have henvs : Alike (p.signatures.mapM fun entries => Env.ofSignatures entries []) (store c)
      (p.signatures.mapM fun entries => Env.ofSignatures entries []) (store' c')
      (fun o o' s₁ s₁' => Moved .grow π (store c) (store' c') s₁ s₁' ∧
        Option.Rel (EnvsAlike π s₁ s₁') o o')
      (fun s₁ s₁' => Moved .grow π (store c) (store' c') s₁ s₁') := by
    cases p.signatures with
    | none => exact ⟨h.moved_refl, .none⟩
    | some entries =>
      refine .bind ((newEnv_alike entries h hp).mono ?_ (fun _ _ h => h))
      exact fun _ _ _ _ hq => ⟨hq.1, .some hq.2⟩
  unfold judgeWith
  refine .bind ((hlift hR henvs).mono ?_ (fun _ _ hq => hq.2))
  rintro o o' c₁ c₁' ⟨⟨hm, ho⟩, hR₁⟩
  cases p.term with
  | error err =>
    exact .bind ((hlift (x := throw err) (y := throw err) (Q := fun _ _ _ _ => False)
      (E := fun _ _ => True) hR₁ ⟨rfl, trivial⟩).mono (fun _ _ _ _ hq => hq.1.elim)
      (fun _ _ hq => hq.2))
  | ok e =>
    refine .bind ((hlift (x := pure e) (y := pure e) (Q := fun a b s₁ s₁' => a = e ∧ b = e ∧
      s₁ = store c₁ ∧ s₁' = store' c₁') (E := fun _ _ => False) hR₁ ⟨rfl, rfl, rfl, rfl⟩).mono ?_
      (fun _ _ hq => hq.1.elim))
    rintro _ _ c₂ c₂' ⟨⟨rfl, rfl, hc, hc'⟩, hR₂⟩
    rw [← hc, ← hc'] at hm ho
    refine .bind ((inferWith_alike hlift (hana _) hR₂ hm.twins (hm.paced hp) ho).mono ?_
      (fun _ _ hq => hq.2))
    rintro t t' c₃ c₃' ⟨⟨hm₃, ht⟩, hR₃⟩
    exact (hlift hR₃ (verdict_alike hm₃.twins ht)).mono (fun _ _ _ _ hq => hq)
      (fun _ _ hq => hq.1.elim)

end Generic

/-- From any two stores the same is said about a program: its type is shown with the same text and
the numbers of its variables differ by the difference of the counters, or there is the same failure.
With reports, the same messages are written as well, also up to a failure, whatever letters are left
from reports before. -/
theorem inference_history (p : Program) (hs : s.Valid) (hs' : s'.Valid) :
    Alike (judgeWith infer p) s (judgeWith infer p) s'
      (fun d d' _ _ => d'.type = d.type ∧
        List.Forall₂ (fun i i' => i' + s.counter = i + s'.counter) d.ids d'.ids)
      (fun _ _ => True) ∧
    ∀ tr tr' : Trace, tr.depth = 0 → tr'.depth = 0 → tr'.messages = tr.messages →
      Alike (judgeWith inferTraced p) (s, tr) (judgeWith inferTraced p) (s', tr')
        (fun d d' q q' => (d'.type = d.type ∧
          List.Forall₂ (fun i i' => i' + s.counter = i + s'.counter) d.ids d'.ids) ∧
          q'.2.messages = q.2.messages)
        (fun q q' => q'.2.messages = q.2.messages) := by
  have htwins := twins_shift hs hs'
  have hpaced := paced_shift s s'
  constructor
  · exact (judgeWith_alike p carryAlike_id (fun e _ _ => analysePlain_alike typeOfName_alike e)
      trivial htwins hpaced).mono
      (fun _ _ _ _ hq => ⟨hq.1.type_eq, hq.1.ids⟩) (fun _ _ hq => hq)
  · intro tr tr' hdepth hdepth' hmessages
    have hrest : Trace.Rested tr tr' := ⟨hdepth, hdepth', List.reverse_injective hmessages⟩
    exact (judgeWith_alike p carryAlike_fst (fun e _ _ => Trace.analyseTraced_rested e) hrest htwins
      hpaced).mono
      (fun _ _ _ _ hq => ⟨⟨hq.1.type_eq, hq.1.ids⟩, congrArg List.reverse hq.2.log⟩)
      (fun _ _ hq => congrArg List.reverse hq.log)

/-- A program that calls a function of its environment. -/
def callProgram : Program where
  term := .ok (.lam "x" (.app (.ident "f") (.ident "x")))
  signatures := some [("f", "a -> b")]

theorem inference_history_call :
    ∃ d d' s₁ s₁', judgeWith infer callProgram Store.empty = .ok d s₁ ∧
      judgeWith infer callProgram functionStore = .ok d' s₁' ∧ d.ids = [3, 4] ∧
      d'.type = d.type ∧
      List.Forall₂ (fun i i' => i' + Store.empty.counter = i + functionStore.counter)
        d.ids d'.ids := by
  obtain ⟨d, s₁, hok, hids⟩ := exists_ok_of_test
    (x := (judgeWith infer callProgram : StoreM Verdict)) (s := Store.empty)
    (p := fun d _ => d.ids == [3, 4]) (by decide +kernel)
  obtain ⟨d', s₁', hok', htype, hshift⟩ :=
    (inference_history callProgram valid_empty functionStore_allows.valid).1.of_ok hok
  exact ⟨d, d', s₁, s₁', hok, hok', beq_iff_eq.mp hids, htype, hshift⟩

end Report

end LetPoly
