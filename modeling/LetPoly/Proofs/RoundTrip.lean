import LetPoly.Proofs.Principal
import LetPoly.Proofs.Writing

/-!
# Showing and reading

Reading the text of a type gives the type back, with new variables in place of its own. The letters
of variables go by their numbers, so different variables stay different exactly if they have
different numbers; the labels that inference stores are letters of variables that do.

* `ReadsBack`, `RoundTrips` — what reading the text of a type gives
* `exists_readsBack` — for any store in which variables are called by names of variables
* `infer_presented` — the types that inference returns
* `show_read_roundTrip` — unlabelled types, types of signatures and types that inference returns
-/

namespace LetPoly

open Store Signature

variable {s s' : Store} {t : Ty} {env : Env} {e : Term}

/-- Reading the text of the type gives the type with its variables renamed by `f`. -/
def ReadsBack (s : Store) (t : Ty) (f : Var → Var) : Prop :=
  ∃ text s₁ u s₂, showNew t s = .ok text s₁ ∧ signature text s₁ = .ok u s₂ ∧
    s₂.view t = s.view t ∧ s₂.view u = (s.view t).subst fun v => .var (f v)

/-- Reading the text of the type gives the type back, but for a renaming of its variables that keeps
different variables apart. -/
def RoundTrips (s : Store) (t : Ty) : Prop :=
  ∃ f, ReadsBack s t f ∧ ∀ v ∈ (s.view t).vars, ∀ w ∈ (s.view t).vars, f v = f w → v = w

/-! ## Names of variables -/

/-- A type is read back if its variables are called by names of variables. Variables that are called
the same become the same. -/
theorem exists_readsBack (hs : s.Valid) (ht : s.Holds t) (hw : (s.view t).Writable)
    (hname : ∀ v ∈ (s.view t).vars, isVariableName (s.shownIn t v) = true) :
    ∃ f, ReadsBack s t f ∧ ∀ v ∈ (s.view t).vars, ∀ w ∈ (s.view t).vars,
      (f v = f w ↔ s.shownIn t v = s.shownIn t w) := by
  obtain ⟨_, s₁, hshow, h₁, rfl⟩ := (showNew_text hs ht hw.plain).exists_ok
  obtain ⟨sig, hsig⟩ := hw.exists_written hname
  have hspells : Spells ((s.view t).text (s.shownIn t)) sig := hsig.lexed.lexes
  have hgrow := allows_grown h₁.valid sig.variables.length
  refine ⟨fun v => numbering s₁ sig.names (s.shownIn t v), ⟨_, _, _, _, hshow,
    signature_of_spells hspells s₁, ?_, ?_⟩, fun v hv w hw => ?_⟩
  · rw [hgrow.view_eq (fun _ hb => hb) h₁.valid (h₁.holds ht), h₁.view_eq (fun _ hb => hb) hs ht]
  · rw [view_type h₁.valid, hsig.type_eq]
  · have hmem : ∀ v ∈ (s.view t).vars, s.shownIn t v ∈ sig.variables := fun v hv =>
      List.mem_eraseDups.mpr (hsig.names_eq ▸ List.mem_map_of_mem hv)
    refine ⟨fun heq => ?_, fun heq => congrArg _ heq⟩
    exact (newVariables_numbering s₁ sig.names).injective _ (hmem v hv) _ (hmem w hw) heq

/-! ## Unlabelled variables -/

/-- Letters are the same exactly if the numbers of the variables are. -/
theorem called_eq_iff {vs : List Var} (hl : ∀ v ∈ vs, s.label v = none) {v w : Var} (hv : v ∈ vs)
    (hw : w ∈ vs) :
    s.called (s.lettered vs) v = s.called (s.lettered vs) w ↔ s.idOf v = s.idOf w := by
  have hmem : s.idOf v ∈ (s.lettered vs).eraseDups :=
    List.mem_eraseDups.mpr (mem_lettered hv (hl v hv))
  rw [called_of_unlabelled (hl v hv), called_of_unlabelled (hl w hw), Namer.letter_injective.eq_iff,
    List.idxOf_inj hmem]

/-- A type without labels is read back; variables become the same exactly if they have the same
number. -/
theorem exists_readsBack_of_unlabelled (hs : s.Valid) (ht : s.Holds t)
    (hw : (s.view t).Writable) (hl : ∀ v ∈ (s.view t).vars, s.label v = none) :
    ∃ f, ReadsBack s t f ∧
      ∀ v ∈ (s.view t).vars, ∀ w ∈ (s.view t).vars, (f v = f w ↔ s.idOf v = s.idOf w) := by
  have hname : ∀ v ∈ (s.view t).vars, isVariableName (s.shownIn t v) = true := by
    intro v hv
    rw [shownIn, called_of_unlabelled (hl v hv)]
    exact Namer.isVariableName_letter _
  obtain ⟨f, hf, hiff⟩ := exists_readsBack hs ht hw hname
  exact ⟨f, hf, fun v hv w hw => (hiff v hv w hw).trans (called_eq_iff hl hv hw)⟩

/-- There is only one way to read a type back. -/
theorem ReadsBack.eq {f g : Var → Var} (hf : ReadsBack s t f) (hg : ReadsBack s t g) :
    ∀ v ∈ (s.view t).vars, f v = g v := by
  obtain ⟨text, s₁, u, s₂, hshow, hread, _, hview⟩ := hf
  obtain ⟨text', s₁', u', s₂', hshow', hread', _, hview'⟩ := hg
  obtain ⟨rfl, rfl⟩ := EStateM.Result.ok.inj (hshow.symm.trans hshow')
  obtain ⟨rfl, rfl⟩ := EStateM.Result.ok.inj (hread.symm.trans hread')
  have heq := Ty.subst_eq_subst_iff.mp (hview.symm.trans hview')
  exact fun v hv => Ty.var.inj (heq v hv)

/-- The variables of the view have different numbers. -/
def DistinctNumbers (s : Store) (t : Ty) : Prop :=
  ∀ v ∈ (s.view t).vars, ∀ w ∈ (s.view t).vars, s.idOf v = s.idOf w → v = w

instance (s : Store) (t : Ty) : Decidable (DistinctNumbers s t) :=
  inferInstanceAs (Decidable (∀ v ∈ (s.view t).vars, ∀ w ∈ (s.view t).vars, _ → _))

theorem roundTrips_iff_distinctNumbers (hs : s.Valid) (ht : s.Holds t) (hw : (s.view t).Writable)
    (hl : ∀ v ∈ (s.view t).vars, s.label v = none) : RoundTrips s t ↔ DistinctNumbers s t := by
  obtain ⟨f, hf, hiff⟩ := exists_readsBack_of_unlabelled hs ht hw hl
  constructor
  · rintro ⟨g, hg, hinj⟩ v hv w hw hid
    refine hinj v hv w hw ?_
    rw [← hf.eq hg v hv, ← hf.eq hg w hw]
    exact (hiff v hv w hw).mpr hid
  · exact fun hid => ⟨f, hf, fun v hv w hw heq => hid v hv w hw ((hiff v hv w hw).mp heq)⟩

/-- The variables of a type that a text denotes are new and unlabelled, and each has the number of
its name's place. -/
theorem exists_cell_of_mem_vars {sig : Sig} {v : Var}
    (hv : v ∈ (sig.type (numbering s sig.names)).vars) : ∃ i x,
      sig.variables[i]? = some x ∧ v = numbering s sig.names x ∧
      (s.grown sig.variables.length).cell? v = some { id := s.counter + i } := by
  rw [sig.vars_type] at hv
  obtain ⟨x, hx, rfl⟩ := List.mem_map.mp hv
  obtain ⟨i, hi⟩ := List.getElem?_of_mem (List.mem_eraseDups.mpr hx)
  exact ⟨i, x, hi, rfl, ((newVariables_numbering s sig.names).new i x hi).2⟩

/-- The type that a text denotes. -/
theorem roundTrips_signature {text : String} (hs : s.Valid) (h : signature text s = .ok t s') :
    RoundTrips s' t := by
  have hheld := ((signature_ends text hs).of_ok h).2
  by_cases hspells : ∃ sig, Spells text sig
  · obtain ⟨sig, hsig⟩ := hspells
    rw [signature_of_spells hsig s] at h
    obtain ⟨rfl, rfl⟩ := EStateM.Result.ok.inj h
    have hview := view_type hs sig
    refine (roundTrips_iff_distinctNumbers (allows_grown hs _).valid hheld ?_ ?_).mpr ?_
    · rw [hview]
      exact hsig.writable _
    · intro v hv
      rw [hview] at hv
      obtain ⟨i, x, _, _, hc⟩ := exists_cell_of_mem_vars hv
      rw [label, hc]
      rfl
    · intro v hv w hw heq
      rw [hview] at hv hw
      obtain ⟨i, x, hi, rfl, hc⟩ := exists_cell_of_mem_vars hv
      obtain ⟨j, y, hj, rfl, hd⟩ := exists_cell_of_mem_vars hw
      have hij : s.counter + i = s.counter + j := by
        simpa only [idOf, hc, hd, Option.map_some, Option.getD_some] using heq
      obtain rfl := Nat.add_left_cancel hij
      rw [Option.some.inj (hi.symm.trans hj)]
  · obtain ⟨problem, herror⟩ := signature_of_not_spells (fun sig hsig => hspells ⟨sig, hsig⟩) s
    rw [herror] at h
    cases h

/-! ## Labelled variables -/

/-- The type can be written, and its variables are labelled with different names of variables. -/
structure Presented (s : Store) (t : Ty) : Prop where
  valid : s.Valid
  holds : s.Holds t
  writable : (s.view t).Writable
  label : ∀ v ∈ (s.view t).vars, ∃ x, s.label v = some x ∧ isVariableName x = true
  injective : ∀ v ∈ (s.view t).vars, ∀ w ∈ (s.view t).vars, s.label v = s.label w → v = w

theorem Presented.roundTrips (h : Presented s t) : RoundTrips s t := by
  -- variables are shown by their labels
  have hshown : ∀ v ∈ (s.view t).vars,
      s.label v = some (s.shownIn t v) ∧ isVariableName (s.shownIn t v) = true := by
    intro v hv
    obtain ⟨x, hx, hvar⟩ := h.label v hv
    rw [shownIn, called_of_label hx]
    exact ⟨hx, hvar⟩
  obtain ⟨f, hf, hiff⟩ :=
    exists_readsBack h.valid h.holds h.writable fun v hv => (hshown v hv).2
  refine ⟨f, hf, fun v hv w hw heq => h.injective v hv w hw ?_⟩
  rw [(hshown v hv).1, (hshown w hw).1, (hiff v hv w hw).mp heq]

/-- What nothing pins is new, so it has no labels. -/
theorem Analysed.vars_new {s₁ : Store} (h : Analysed s env [] t s₁) :
    (∀ v ∈ (s₁.view t).vars, ¬ s.Has v) ∧ ∀ v ∈ (s₁.view t).vars, s₁.label v = none := by
  have hnew : ∀ v ∈ (s₁.view t).vars, ¬ s.Has v :=
    fun v hv => not_has_of_bind (h.bind_of_mem v hv)
  refine ⟨hnew, fun v hv => ?_⟩
  rw [h.allows.label_eq v fun hl => hl, label_of_not_has (hnew v hv)]

/-- Inference returns types with the operators of its environment and labels their variables with
different letters. -/
theorem infer_presented (e : Term) (hset : Setting s env []) (henv : EnvOver Writes s env) :
    Ends (infer e (some env)) s (fun t s' => Presented s' t) (fun _ _ => True) := by
  rw [infer_some, ends_bind]
  refine ((analyse_ends e hset).and (analyse_spoken .arrow writes_int e hset henv)).mono ?_
    (fun _ _ _ => trivial)
  rintro t s₁ ⟨ht, hsp⟩
  have hs₁ := ht.allows.valid
  rw [ends_within]
  refine (nameVariables_labels hs₁ ht.holds {}).mono ?_ (fun _ _ h => h.elim)
  rintro _ p ⟨rfl, hp⟩
  have hfind := (hs₁.find_spec ht.holds).1
  have hview : p.1.view (s₁.find t) = s₁.view t := by
    rw [hp.allows.view_eq (fun _ hb => hb) hs₁ hfind, hs₁.view_find ht.holds]
  -- the variables are new, so they had no labels and have different numbers
  obtain ⟨hnew, hnone⟩ := ht.vars_new
  refine ⟨hp.allows.valid, hp.allows.holds hfind, hview ▸ hsp.over_view, ?_, ?_⟩
  · intro v hv
    rw [hview] at hv
    refine ⟨_, hp.label v hv, ?_⟩
    rw [calledBy_of_unlabelled (hnone v hv)]
    exact Namer.isVariableName_letter _
  · intro v hv w hw heq
    rw [hview] at hv hw
    rw [hp.label v hv, hp.label w hw, Option.some.injEq, calledBy_new, calledBy_new] at heq
    have hid := (called_eq_iff hnone hv hw).mp heq
    exact hsp.counted.idOf_inj (hnew v hv) (hs₁.holds_view ht.holds v hv) (hnew w hw)
      (hs₁.holds_view ht.holds w hw) hid

/-- An environment that is read from signatures can be written. -/
theorem ofSignatures_setting {sigs : List (String × String)} (hs : s.Valid)
    (h : Env.ofSignatures sigs [] s = .ok env s') : Setting s' env [] ∧ EnvOver Writes s' env := by
  have hnil : Env.Held s [] := nofun
  obtain ⟨hgrow, hheld⟩ := (ofSignatures_ends hs hnil).of_ok h
  obtain ⟨_, hall⟩ := (ofSignatures_denote (P := Ty.Writable)
    (fun ρ hsig => hsig.writable ρ) hs hnil nofun).of_ok h
  exact ⟨⟨hgrow.valid, hheld.lookup, nofun⟩, fun x t ht => hall (x, t) (mem_of_lookup ht)⟩

theorem roundTrips_infer (hset : Setting s env []) (henv : EnvOver Writes s env)
    (h : infer e (some env) s = .ok t s') : RoundTrips s' t :=
  ((infer_presented e hset henv).of_ok h).roundTrips

/-- A type that the notation can write and whose variables have no labels is read back, with one
variable for each number; so it is read back as it was exactly if its variables have different
numbers. The types that texts denote are read back as they were, whatever the store. So are the
types that inference returns, with the labels it has stored, in environments that can be written and
in particular in those that are read from signatures. -/
theorem show_read_roundTrip (hs : s.Valid) :
    (∀ t, s.Holds t → (s.view t).Writable → (∀ v ∈ (s.view t).vars, s.label v = none) →
      (∃ f, ReadsBack s t f ∧ ∀ v ∈ (s.view t).vars, ∀ w ∈ (s.view t).vars,
        (f v = f w ↔ s.idOf v = s.idOf w)) ∧
      (RoundTrips s t ↔ DistinctNumbers s t)) ∧
    (∀ text t s', signature text s = .ok t s' → RoundTrips s' t) ∧
    (∀ env e t s', Setting s env [] →
      (∀ x u, env.lookup x = some u → (s.view u).Writable) →
      infer e (some env) s = .ok t s' → RoundTrips s' t) ∧
    (∀ sigs env s₁ e t s', Env.ofSignatures sigs [] s = .ok env s₁ →
      infer e (some env) s₁ = .ok t s' → RoundTrips s' t) ∧
    ∀ e t s', infer e none s = .ok t s' → RoundTrips s' t := by
  have hread : ∀ sigs env s₁ e t s', Env.ofSignatures sigs [] s = .ok env s₁ →
      infer e (some env) s₁ = .ok t s' → RoundTrips s' t := by
    intro sigs env s₁ e t s' hsigs h
    obtain ⟨hset, henv⟩ := ofSignatures_setting hs hsigs
    exact roundTrips_infer hset henv h
  refine ⟨fun t ht hw hl => ?_, fun text t s' h => roundTrips_signature hs h,
    fun env e t s' hset henv h => roundTrips_infer hset henv h, hread, fun e t s' h => ?_⟩
  · exact ⟨exists_readsBack_of_unlabelled hs ht hw hl, roundTrips_iff_distinctNumbers hs ht hw hl⟩
  · -- without an environment, inference reads the prelude first
    have h : (Env.prelude >>= fun env => infer e (some env)) s = .ok t s' := h
    obtain ⟨env, s₁, hprelude, h⟩ := bind_ok_iff.mp h
    exact hread Env.preludeSignatures env s₁ e t s' hprelude h

/-- Functions from functions to pairs, over the first two variables. -/
def pairing : Ty :=
  .fn (.fn (.var ⟨0⟩) (.var ⟨1⟩)) (.con "pair" [.var ⟨0⟩, .var ⟨1⟩])

theorem writable_pairing : pairing.Writable := by
  have hpair : Writes "pair" 2 :=
    .apply ⟨'p', ['a', 'i', 'r'], rfl, rfl, List.all_eq_true.mp rfl⟩ Nat.two_pos
  simp [pairing, Ty.over_fn_iff, Ty.over_con_iff, Ty.Over.var, Writes.arrow, hpair]

/-- The function that takes every value to a pair of it. -/
def double : Term := .lam "x" (.app (.app (.ident "pair") (.ident "x")) (.ident "x"))

theorem show_read_roundTrip_pairing :
    ((Store.blank 2).Holds pairing ∧ ((Store.blank 2).view pairing).Writable ∧
      (∀ v ∈ ((Store.blank 2).view pairing).vars, (Store.blank 2).label v = none) ∧
      DistinctNumbers (Store.blank 2) pairing ∧ RoundTrips (Store.blank 2) pairing) ∧
    ∃ t s', infer double none (Store.blank 2) = .ok t s' ∧ RoundTrips s' t := by
  have hholds : (Store.blank 2).Holds pairing := by decide
  have hview : (Store.blank 2).view pairing = pairing := view_blank hholds
  have hwritable : ((Store.blank 2).view pairing).Writable := hview ▸ writable_pairing
  have hlabel : ∀ v ∈ ((Store.blank 2).view pairing).vars, (Store.blank 2).label v = none := by
    decide +kernel
  have hdistinct : DistinctNumbers (Store.blank 2) pairing := by decide +kernel
  have hroundTrip := show_read_roundTrip (allows_blank 2).valid
  refine ⟨⟨hholds, hwritable, hlabel, hdistinct, ?_⟩, ?_⟩
  · exact (hroundTrip.1 pairing hholds hwritable hlabel).2.mpr hdistinct
  · obtain ⟨t, s', h, _⟩ := exists_ok_of_test (x := infer double none) (s := Store.blank 2)
      (p := fun _ _ => true) (by decide +kernel)
    exact ⟨t, s', h, hroundTrip.2.2.2.2 double t s' h⟩

/-- Two variables with the same number. -/
def sharedStore : Store := ((Store.empty.push 0 none).2.pushNext none).2

theorem sharedStore_valid : sharedStore.Valid :=
  (allows_pushNext (valid_push valid_empty 0 none)).valid

/-- Different variables with the same number are shown by the same letter, and what is read has one
variable in their place. -/
theorem not_roundTrips_shared :
    sharedStore.Valid ∧ sharedStore.Holds (.fn (.var ⟨0⟩) (.var ⟨1⟩)) ∧
      (sharedStore.view (.fn (.var ⟨0⟩) (.var ⟨1⟩))).Writable ∧
      (∀ v ∈ (sharedStore.view (.fn (.var ⟨0⟩) (.var ⟨1⟩))).vars, sharedStore.label v = none) ∧
      ¬ RoundTrips sharedStore (.fn (.var ⟨0⟩) (.var ⟨1⟩)) := by
  generalize ht : Ty.fn (.var ⟨0⟩) (.var ⟨1⟩) = t
  have hholds : sharedStore.Holds t := by
    rw [← ht]
    decide
  have hview : sharedStore.view t = t := by
    rw [← ht]
    rfl
  have hwritable : (sharedStore.view t).Writable := by
    rw [hview, ← ht]
    exact Ty.over_fn_iff.mpr ⟨.arrow, .var _, .var _⟩
  have hlabel : ∀ v ∈ (sharedStore.view t).vars, sharedStore.label v = none := by
    rw [← ht]
    decide +kernel
  have hshared : ¬ DistinctNumbers sharedStore t := by
    rw [← ht]
    decide +kernel
  refine ⟨sharedStore_valid, hholds, hwritable, hlabel, fun h => hshared ?_⟩
  exact (roundTrips_iff_distinctNumbers sharedStore_valid hholds hwritable hlabel).mp h

end LetPoly
