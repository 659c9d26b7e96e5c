import LetPoly.Proofs.Frame
import LetPoly.Proofs.History
import LetPoly.Proofs.IllFormed
import LetPoly.Proofs.Replacement

/-!
# Definitions are used by replacement

Inside any term, a definition that is used may be unfolded: with the definition put in for the name,
inference succeeds or fails as before, and a type with the same text is returned.

Two programs with the same types have principal types that are instances of each other, so these
differ by the names of variables only. All of the variables are new, so they get the same letters.

* `Follows` — a second analysis succeeds with a type at least as general
* `InferredAlike` — inference succeeds for both programs or for neither, and shows the same type
* `definition_unfolds` — definitions and replacement
-/

namespace LetPoly

open Store

variable {s s₁ s₂ : Store} {t t₁ t₂ u : Ty} {env : Env} {e e₁ e₂ : Term}

/-! ## Types that are instances of each other -/

/-- Types that are instances of each other differ by a renaming. -/
theorem Ty.exists_renaming {θ θ' : Var → Ty} (hu : u = t.subst θ) (ht : t = u.subst θ') :
    ∃ f : Var → Var, u = t.subst (fun v => .var (f v)) ∧
      ∀ v ∈ t.vars, ∀ w ∈ t.vars, f v = f w → v = w := by
  rw [hu, Ty.subst_subst] at ht
  have hback : ∀ v ∈ t.vars, (θ v).subst θ' = .var v :=
    Ty.subst_eq_subst_iff.mp (ht.symm.trans (Ty.subst_id t).symm)
  -- only a variable can be taken back to a variable
  have hvar : ∀ v, ∃ w, v ∈ t.vars → θ v = .var w := by
    intro v
    cases hθ : θ v with
    | var w => exact ⟨w, fun _ => rfl⟩
    | con name args =>
      refine ⟨v, fun hv => ?_⟩
      have := hback v hv
      rw [hθ, Ty.subst_con] at this
      exact nomatch this
    | bare =>
      refine ⟨v, fun hv => ?_⟩
      have := hback v hv
      rw [hθ] at this
      exact nomatch this
  choose f hf using hvar
  refine ⟨f, hu.trans (Ty.subst_congr hf), fun v hv w hw heq => ?_⟩
  have hv' := hback v hv
  have hw' := hback w hw
  rw [hf v hv, heq, ← hf w hw, hw'] at hv'
  exact (Ty.var.inj hv').symm

/-- The variables of a type belong together with what a renaming makes of them. -/
def Pairing.ofRenaming (s₁ s₂ : Store) (t : Ty) (f : Var → Var) (h₁ : s₁.Numbered)
    (h₂ : s₂.Numbered) (ht : s₁.Holds t) (hf : ∀ v ∈ t.vars, s₂.Has (f v))
    (hinj : ∀ v ∈ t.vars, ∀ w ∈ t.vars, f v = f w → v = w) : Pairing where
  dom v := v ∈ t.vars
  partner := f
  ids i i' := ∃ v ∈ t.vars, i = s₁.idOf v ∧ i' = s₂.idOf (f v)
  partner_inj hv hw := hinj _ hv _ hw
  ids_iff := by
    rintro _ _ _ _ ⟨v, hv, rfl, rfl⟩ ⟨w, hw, rfl, rfl⟩
    constructor
    · intro h
      rw [h₁.idOf_inj v w (ht v hv) (ht w hw) h]
    · intro h
      rw [hinj v hv w hw (h₂.idOf_inj _ _ (hf v hv) (hf w hw) h)]

/-- Types that analysis has found, and that are instances of each other, belong together: all of
their variables are new and none has a label. -/
theorem Analysed.exists_twins {θ θ' : Var → Ty} (h₁ : Analysed s env [] t₁ s₁)
    (h₂ : Analysed s env [] t₂ s₂) (hn : s.Numbered) (hplain : PlainEnv s env)
    (h₁₂ : s₁.view t₁ = (s₂.view t₂).subst θ) (h₂₁ : s₂.view t₂ = (s₁.view t₁).subst θ') :
    ∃ π, Twins π s₁ s₂ ∧ Same π s₁ s₂ t₁ t₂ := by
  obtain ⟨f, hf, hinj⟩ := Ty.exists_renaming h₂₁ h₁₂
  have hs₁ := h₁.allows.valid
  have hs₂ := h₂.allows.valid
  have hmem : ∀ v ∈ (s₁.view t₁).vars, f v ∈ (s₂.view t₂).vars := by
    intro v hv
    rw [hf, Ty.mem_vars_subst]
    exact ⟨v, hv, by simp⟩
  have hlabel : ∀ {s' t}, Analysed s env [] t s' → ∀ v ∈ (s'.view t).vars, s'.label v = none := by
    intro s' t h v hv
    rw [h.allows.label_eq v fun hl => hl]
    exact label_of_not_has (not_has_of_bind (h.bind_of_mem v hv))
  let π : Pairing := .ofRenaming s₁ s₂ (s₁.view t₁) f (h₁.allows.numbered (fun h => h) hn)
    (h₂.allows.numbered (fun h => h) hn) (hs₁.holds_view h₁.holds)
    (fun v hv => hs₂.holds_view h₂.holds _ (hmem v hv)) hinj
  refine ⟨π, ⟨hs₁, hs₂, fun v hd hv => ?_, fun v hd _ => ⟨v, hd, rfl, rfl⟩, fun v hd _ => ?_⟩,
    ⟨h₁.holds, h₂.holds, ⟨h₁.plain hplain, fun _ hv => hv, hf⟩⟩⟩
  · obtain ⟨_, hu⟩ := hs₁.unbound_of_mem_view h₁.holds v hd
    obtain ⟨hv', hu'⟩ := hs₂.unbound_of_mem_view h₂.holds (f v) (hmem v hd)
    refine ⟨holds_var.mpr hv, holds_var.mpr hv', ?_⟩
    rw [view_var_of_unbound hu, show π.partner v = f v from rfl, view_var_of_unbound hu']
    exact Pairing.takes_var hd
  · rw [hlabel h₁ v hd]
    exact hlabel h₂ _ (hmem v hd)

/-! ## Programs that are inferred alike -/

/-- Whenever `x` finds a type, `y` finds one that is at least as general. -/
def Follows (s : Store) (x y : StoreM Ty) : Prop :=
  ∀ t₁ s₁, x s = .ok t₁ s₁ →
    ∃ t₂ s₂, y s = .ok t₂ s₂ ∧ ∃ θ, s₁.view t₁ = (s₂.view t₂).subst θ

theorem Follows.refl (s : Store) (x : StoreM Ty) : Follows s x x :=
  fun t s₁ h => ⟨t, s₁, h, Ty.var, (Ty.subst_id _).symm⟩

theorem Fails.follows {x : StoreM Ty} (h : Fails x) (y : StoreM Ty) : Follows s x y :=
  fun _ _ hx => ((h s).of_ok hx).elim

/-- Inference succeeds for both programs or for neither, and the types that it returns have the same
text. -/
structure InferredAlike (s : Store) (env : Option Env) (e₁ e₂ : Term) : Prop where
  ok_iff : (∃ t s₁, infer e₁ env s = .ok t s₁) ↔ ∃ t s₁, infer e₂ env s = .ok t s₁
  text_eq : ∀ {t₁ s₁ t₂ s₂}, infer e₁ env s = .ok t₁ s₁ → infer e₂ env s = .ok t₂ s₂ →
    ∃ text s₁' s₂', showNew t₁ s₁ = .ok text s₁' ∧ showNew t₂ s₂ = .ok text s₂'

theorem exists_analyse_of_infer_ok (h : infer e (some env) s = .ok t s₁) : ∃ t₀ s₀,
    analyse e env [] s = .ok t₀ s₀ ∧
    StoreWithM.within ({} : Namer) (nameVariables t₀) s₀ = .ok t s₁ :=
  bind_ok_iff.mp h

/-- Naming variables does not fail. -/
theorem infer_ok_iff (hset : Setting s env []) : (∃ t s₁, infer e (some env) s = .ok t s₁) ↔
    ∃ t s₁, analyse e env [] s = .ok t s₁ := by
  constructor
  · rintro ⟨t, s₁, h⟩
    obtain ⟨t₀, s₀, h₀, _⟩ := exists_analyse_of_infer_ok h
    exact ⟨t₀, s₀, h₀⟩
  · rintro ⟨t, s₁, h⟩
    have hends : Ends (infer e (some env)) s (fun _ _ => True) (fun _ _ => False) := by
      refine infer_some_ends hset ?_
      unfold Ends
      rw [h]
      exact fun _ _ _ => trivial
    obtain ⟨r, s₂, hr, _⟩ := hends.exists_ok
    exact ⟨r, s₂, hr⟩

/-- Programs whose types are as general as each other are inferred alike. -/
theorem InferredAlike.of_follows (hset : Setting s env []) (hn : s.Numbered)
    (hplain : PlainEnv s env) (h₁₂ : Follows s (analyse e₁ env []) (analyse e₂ env []))
    (h₂₁ : Follows s (analyse e₂ env []) (analyse e₁ env [])) :
    InferredAlike s (some env) e₁ e₂ where
  ok_iff := by
    rw [infer_ok_iff hset, infer_ok_iff hset]
    constructor
    · rintro ⟨t, s₁, h⟩
      obtain ⟨t₂, s₂, h₂, _⟩ := h₁₂ t s₁ h
      exact ⟨t₂, s₂, h₂⟩
    · rintro ⟨t, s₁, h⟩
      obtain ⟨t₂, s₂, h₂, _⟩ := h₂₁ t s₁ h
      exact ⟨t₂, s₂, h₂⟩
  text_eq := by
    intro r₁ s₁' r₂ s₂' hr₁ hr₂
    obtain ⟨t₁, s₁, h₁, hname₁⟩ := exists_analyse_of_infer_ok hr₁
    obtain ⟨t₂, s₂, h₂, hname₂⟩ := exists_analyse_of_infer_ok hr₂
    obtain ⟨_, _, h₂', θ, hθ⟩ := h₁₂ t₁ s₁ h₁
    obtain ⟨_, _, h₁', θ', hθ'⟩ := h₂₁ t₂ s₂ h₂
    obtain ⟨rfl, rfl⟩ := EStateM.Result.ok.inj (h₂.symm.trans h₂')
    obtain ⟨rfl, rfl⟩ := EStateM.Result.ok.inj (h₁.symm.trans h₁')
    obtain ⟨π, htwins, hsame⟩ := ((analyse_ends e₁ hset).of_ok h₁).exists_twins
      ((analyse_ends e₂ hset).of_ok h₂) hn hplain hθ hθ'
    have hname : Alike (StoreWithM.within ({} : Namer) (nameVariables t₁)) s₁
        (StoreWithM.within ({} : Namer) (nameVariables t₂)) s₂
        (fun r r' s s' => Twins π s s' ∧ Same π s s' r r') (fun _ _ => False) := by
      rw [alike_within]
      exact (nameVariables_alike htwins namersAlike_new hsame).mono
        (fun _ _ _ _ hq => ⟨hq.1.twins, hq.2.1⟩) (fun _ _ h => h)
    obtain ⟨_, _, hname₂', htwins', hsame'⟩ := hname.of_ok hname₁
    obtain ⟨rfl, rfl⟩ := EStateM.Result.ok.inj (hname₂.symm.trans hname₂')
    obtain ⟨text, _, q₁, q₂, hshow₁, hshow₂, rfl, _⟩ := (showNew_alike htwins' hsame').exists_ok
    exact ⟨_, q₁, q₂, hshow₁, hshow₂⟩

/-! ## Types in an environment -/

/-- With nothing pinned, the context of an environment stays the same while its types do. -/
theorem Untouched.lookup_context (h : Untouched s s₁) (hset : Setting s env []) (y : String) :
    (s₁.context env []).lookup y = (s.context env []).lookup y := by
  rw [LetPoly.lookup_context, LetPoly.lookup_context]
  cases hy : env.lookup y with
  | none => rfl
  | some t => simp [Store.scheme, Pins, h.view_eq t (hset.holds_env y t hy)]

theorem plain_context (hplain : PlainEnv s env) : (s.context env []).Plain := by
  intro x S hx
  rw [lookup_context, Option.map_eq_some_iff] at hx
  obtain ⟨t, ht, rfl⟩ := hx
  exact hplain x t ht

/-- A program that has all types of another one follows it, also from one environment to another. -/
theorem follows_of_types {env₁ env₂ : Env} (hset₁ : Setting s env₁ []) (hset₂ : Setting s env₂ [])
    (hn : s.Numbered) (hplain₁ : PlainEnv s env₁) (hplain₂ : PlainEnv s env₂)
    (hwf : e₁.WellFormed)
    (hpass : ∀ u, u.Plain → HasType (s.context env₁ []) e₁ u → HasType (s.context env₂ []) e₂ u) :
    Follows s (analyse e₁ env₁ []) (analyse e₂ env₂ []) := by
  intro t₁ s₁ h₁
  have ht₁ := (analyse_ends e₁ hset₁).of_ok h₁
  have huntouched := ht₁.allows.analyse_untouched hset₁.valid
  have htype₁ : HasType (s.context env₁ []) e₁ (s₁.view t₁) :=
    ((analyse_sound_ends e₁ hset₁ hwf).of_ok h₁).of_lookup_eq fun y _ =>
      (huntouched.lookup_context hset₁ y).symm
  have htype₂ := hpass _ (ht₁.plain hplain₁) htype₁
  obtain ⟨t₂, s₂, h₂, θ, _, heq⟩ :=
    (analyse_complete_ends htype₂ hset₂ hn hplain₂ (models_context s env₂)).exists_ok
  exact ⟨t₂, s₂, h₂, θ, heq.symm⟩

/-! ## Inside larger terms -/

/-- Well-formed terms that have the same types may be exchanged inside any term. -/
theorem InferredAlike.fill (C : OneHole) (hset : Setting s env []) (hn : s.Numbered)
    (hplain : PlainEnv s env) (hwf₁ : e₁.WellFormed) (hwf₂ : e₂.WellFormed)
    (htypes : ∀ {Γ t}, Context.Plain Γ → (HasType Γ e₁ t ↔ HasType Γ e₂ t)) :
    InferredAlike s (some env) (C.fill e₁) (C.fill e₂) := by
  cases C.reading (e₁.freeNames ++ e₂.freeNames) with
  | wellFormed C' hC' heq =>
    have hΓ := plain_context hplain
    refine .of_follows hset hn hplain ?_ ?_
    all_goals
      rw [← heq e₁ fun y hy => List.mem_append_left _ hy,
        ← heq e₂ fun y hy => List.mem_append_right _ hy]
    · exact follows_of_types hset hset hn hplain hplain (hC'.fill hwf₁) fun u hu =>
        HasType.fill (fun hΓ h => (htypes hΓ).mp h) C' hΓ hu
    · exact follows_of_types hset hset hn hplain hplain (hC'.fill hwf₂) fun u hu =>
        HasType.fill (fun hΓ h => (htypes hΓ).mpr h) C' hΓ hu
  | fails h =>
    exact .of_follows hset hn hplain ((h e₁ env []).follows _) ((h e₂ env []).follows _)
  | blind h =>
    refine .of_follows hset hn hplain ?_ ?_
    all_goals
      rw [h e₁ e₂]
      exact .refl s _

/-! ## The prelude -/

/-- The environment that programs start with is one that programs can be inferred in. -/
theorem prelude_setting (hs : s.Valid) (hn : s.Numbered) (h : Env.prelude s = .ok env s₁) :
    Setting s₁ env [] ∧ s₁.Numbered ∧ PlainEnv s₁ env := by
  obtain ⟨hgrow, hheld⟩ := (prelude_ends hs).of_ok h
  refine ⟨⟨hgrow.valid, hheld.lookup, nofun⟩, hgrow.numbered (fun h => h) hn, fun x t ht => ?_⟩
  -- its types correspond to themselves, which the bare type does not
  obtain ⟨env', s₁', _, _, halike⟩ :=
    (newEnv_alike Env.preludeSignatures (twins_shift hs hs) (paced_shift s s)).of_ok h
  have hx := halike x x rfl
  rw [ht] at hx
  generalize env'.lookup x = o at hx
  cases hx with
  | some hsame => exact hsame.takes.plain

theorem infer_none (e : Term) :
    infer e none = (do let env ← Env.prelude; infer e (some env)) := rfl

/-- Programs that are inferred alike in every prelude are inferred alike without an environment. -/
theorem InferredAlike.of_prelude
    (h : ∀ env s₁, Env.prelude s = .ok env s₁ → InferredAlike s₁ (some env) e₁ e₂) :
    InferredAlike s none e₁ e₂ := by
  have hok : ∀ e, (∃ t s₂, infer e none s = .ok t s₂) ↔
      ∃ env s₁, Env.prelude s = .ok env s₁ ∧ ∃ t s₂, infer e (some env) s₁ = .ok t s₂ := by
    intro e
    simp only [infer_none, bind_ok_iff]
    constructor
    · rintro ⟨t, s₂, env, s₁, hp, h⟩
      exact ⟨env, s₁, hp, t, s₂, h⟩
    · rintro ⟨env, s₁, hp, t, s₂, h⟩
      exact ⟨t, s₂, env, s₁, hp, h⟩
  constructor
  · rw [hok, hok]
    exact exists_congr fun env => exists_congr fun s₁ => and_congr_right fun hp =>
      (h env s₁ hp).ok_iff
  · intro t₁ s₁ t₂ s₂ h₁ h₂
    rw [infer_none] at h₁ h₂
    obtain ⟨env, q, hp, h₁⟩ := bind_ok_iff.mp h₁
    obtain ⟨_, _, hp', h₂⟩ := bind_ok_iff.mp h₂
    obtain ⟨rfl, rfl⟩ := EStateM.Result.ok.inj (hp.symm.trans hp')
    exact (h env q hp).text_eq h₁ h₂

/-! ## Definitions -/

/-- Inside any term, and in any environment without the bare type or in the prelude, a definition
that is used may be replaced by its body with the definition put in for the name, if that captures
nothing: inference succeeds for the one program exactly if it does for the other, and then the types
that it returns have the same text. -/
theorem definition_unfolds (C : OneHole) {x : String} {d b : Term} {env : Option Env}
    (hd : d.WellFormed) (hb : b.WellFormed) (hx : x ∈ b.freeNames) (hcap : b.NoCapture x d)
    (hs : s.Valid) (hn : s.Numbered)
    (henv : ∀ env' ∈ env, Setting s env' [] ∧ PlainEnv s env') :
    ((∃ t s₁, infer (C.fill (.letIn x d b)) env s = .ok t s₁) ↔
      ∃ t s₁, infer (C.fill (b.replace x d)) env s = .ok t s₁) ∧
    ∀ t₁ s₁ t₂ s₂, infer (C.fill (.letIn x d b)) env s = .ok t₁ s₁ →
      infer (C.fill (b.replace x d)) env s = .ok t₂ s₂ →
      ∃ text s₁' s₂', showNew t₁ s₁ = .ok text s₁' ∧ showNew t₂ s₂ = .ok text s₂' := by
  have hmain : ∀ {s : Store} {env' : Env}, Setting s env' [] → s.Numbered → PlainEnv s env' →
      InferredAlike s (some env') (C.fill (.letIn x d b)) (C.fill (b.replace x d)) :=
    fun hset hn hplain => .fill C hset hn hplain ⟨hd, hb⟩ (hb.replace hd x) fun hΓ =>
      hasType_letIn_iff hΓ hd hx hcap
  have halike : InferredAlike s env (C.fill (.letIn x d b)) (C.fill (b.replace x d)) := by
    cases env with
    | some env' =>
      obtain ⟨hset, hplain⟩ := henv env' rfl
      exact hmain hset hn hplain
    | none =>
      refine .of_prelude fun env' s₁ hp => ?_
      obtain ⟨hset, hn₁, hplain⟩ := prelude_setting hs hn hp
      exact hmain hset hn₁ hplain
  exact ⟨halike.ok_iff, fun _ _ _ _ h₁ h₂ => halike.text_eq h₁ h₂⟩

/-- A definition that uses the parameter around it. -/
def pairWith : Term := .lam "z" (.app (.app (.ident "pair") (.ident "y")) (.ident "z"))

/-- A body that uses a name at two types, once under a binder of its own. -/
def pairTwice : Term :=
  .lam "w" (.app (.app (.ident "pair") (.app (.ident "f") (.ident "w")))
    (.app (.ident "f") (.ident "true")))

theorem definition_unfolds_pair :
    ∃ t₁ s₁ t₂ s₂ s₁' s₂',
      infer (.lam "y" (.letIn "f" pairWith pairTwice)) none Store.empty = .ok t₁ s₁ ∧
      infer (.lam "y" (pairTwice.replace "f" pairWith)) none Store.empty = .ok t₂ s₂ ∧
      showNew t₁ s₁ = .ok "a -> b -> pair(pair(a, b), pair(a, bool))" s₁' ∧
      showNew t₂ s₂ = .ok "a -> b -> pair(pair(a, b), pair(a, bool))" s₂' := by
  obtain ⟨text, s₁', hok, htext⟩ := exists_ok_of_test
    (x := infer (.lam "y" (.letIn "f" pairWith pairTwice)) none >>= showNew) (s := Store.empty)
    (p := fun text _ => text == "a -> b -> pair(pair(a, b), pair(a, bool))") (by decide +kernel)
  obtain rfl := beq_iff_eq.mp htext
  obtain ⟨t₁, s₁, h₁, hshow₁⟩ := bind_ok_iff.mp hok
  have henv : ∀ env ∈ (none : Option Env), Setting Store.empty env [] ∧ PlainEnv Store.empty env :=
    nofun
  obtain ⟨hiff, htexts⟩ := definition_unfolds (.lam "y" .hole) (x := "f") (d := pairWith)
    (b := pairTwice) (by simp [pairWith, Term.WellFormed]) (by simp [pairTwice, Term.WellFormed])
    (by simp [pairTwice]) (by simp [pairTwice, pairWith, Term.NoCapture]) valid_empty
    numbered_empty henv
  obtain ⟨t₂, s₂, h₂⟩ := hiff.mp ⟨t₁, s₁, h₁⟩
  obtain ⟨text, q₁, q₂, hq₁, hq₂⟩ := htexts t₁ s₁ t₂ s₂ h₁ h₂
  obtain ⟨rfl, rfl⟩ := EStateM.Result.ok.inj (hshow₁.symm.trans hq₁)
  exact ⟨t₁, s₁, t₂, s₂, s₁', q₂, h₁, h₂, hshow₁, hq₂⟩

end LetPoly
