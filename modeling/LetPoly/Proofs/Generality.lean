import LetPoly.Proofs.Unfolding

/-!
# More general environments

If every type of an environment is an instance of the type that another environment gives to the
same name, then whatever can be inferred in the first can be inferred in the second, with a type
that is at least as general.

The two runs bind different variables, so they are not compared step by step. What the first one
finds is a type of the program in the second context as well, and the second one finds a principal
type.

* `Specializes` — the types of one environment are instances of those of another
* `Follows.infer` — from analysis to inference
* `inference_follows_generality` — inference in a more general environment
-/

namespace LetPoly

open Store

variable {s : Store} {e e₁ e₂ : Term} {env₁ env₂ : Env}

/-- The same names have types in both environments, and those of the first are instances of those of
the second. -/
def Specializes (s : Store) (env₁ env₂ : Env) : Prop :=
  LookupsAlike Eq (fun t₁ t₂ => ∃ θ, s.view t₁ = (s.view t₂).subst θ) env₁ env₂

/-- With nothing pinned, all variables of a scheme are quantified, so it gives what its instances
give. -/
theorem Specializes.covers (h : Specializes s env₁ env₂) :
    Context.Covers Ty.var (s.context env₁ []) (s.context env₂ []) := by
  intro x
  have hx := h x x rfl
  rw [lookup_context, lookup_context]
  revert hx
  generalize env₁.lookup x = o₁
  generalize env₂.lookup x = o₂
  rintro (⟨θ, hθ⟩ | _)
  · refine ⟨nofun, ?_⟩
    rintro _ ⟨⟩
    refine ⟨_, rfl, ?_⟩
    rintro u ⟨ρ, _, rfl⟩
    refine ⟨fun v => (θ v).subst ρ, fun v hv => ?_, ?_⟩
    · obtain ⟨_, p, hp, _⟩ := free_scheme.mp hv
      exact nomatch hp
    · show Ty.subst ρ (s.view _) = Ty.subst _ (s.view _)
      rw [hθ, Ty.subst_subst]
  · exact ⟨fun _ => rfl, nofun⟩

/-- Inference returns a type with the view that analysis has found. -/
theorem exists_view_of_infer_ok {env : Env} {t : Ty} {s₁ : Store} (hset : Setting s env [])
    (h : infer e (some env) s = .ok t s₁) :
    ∃ t₀ s₀, analyse e env [] s = .ok t₀ s₀ ∧ s₁.view t = s₀.view t₀ := by
  have hends : Ends (infer e (some env)) s
      (fun r s' => ∃ t₀ s₀, analyse e env [] s = .ok t₀ s₀ ∧ s'.view r = s₀.view t₀)
      (fun _ _ => True) := by
    refine infer_some_ends hset ?_
    unfold Ends
    cases hana : analyse e env [] s with
    | ok t₀ s₀ => exact fun s' _ hview => ⟨t₀, s₀, rfl, hview⟩
    | error err s₀ => trivial
  exact hends.of_ok h

/-- Naming variables changes no view, so what is said about analysis may be said about inference. -/
theorem Follows.infer (hset₁ : Setting s env₁ []) (hset₂ : Setting s env₂ [])
    (h : Follows s (analyse e₁ env₁ []) (analyse e₂ env₂ [])) :
    Follows s (infer e₁ (some env₁)) (infer e₂ (some env₂)) := by
  intro t₁ s₁ h₁
  obtain ⟨u₁, q₁, hana₁, hview₁⟩ := exists_view_of_infer_ok hset₁ h₁
  obtain ⟨u₂, q₂, hana₂, θ, hθ⟩ := h u₁ q₁ hana₁
  obtain ⟨t₂, s₂, h₂⟩ := (infer_ok_iff hset₂).mpr ⟨u₂, q₂, hana₂⟩
  obtain ⟨_, _, hana, hview₂⟩ := exists_view_of_infer_ok hset₂ h₂
  obtain ⟨rfl, rfl⟩ := EStateM.Result.ok.inj (hana₂.symm.trans hana)
  exact ⟨t₂, s₂, h₂, θ, by rw [hview₁, hview₂, hθ]⟩

/-- Inference in a more general environment succeeds whenever it does in a more special one, and the
type that it returns is at least as general. -/
theorem inference_follows_generality (hset₁ : Setting s env₁ []) (hset₂ : Setting s env₂ [])
    (hn : s.Numbered) (hplain₁ : PlainEnv s env₁) (hplain₂ : PlainEnv s env₂)
    (he : e.WellFormed) (hspec : Specializes s env₁ env₂) :
    ∀ t₁ s₁, infer e (some env₁) s = .ok t₁ s₁ →
      ∃ t₂ s₂, infer e (some env₂) s = .ok t₂ s₂ ∧ ∃ θ, s₁.view t₁ = (s₂.view t₂).subst θ :=
  Follows.infer hset₁ hset₂ (follows_of_types hset₁ hset₂ hn hplain₁ hplain₂ he fun _ _ htype =>
    htype.weaken hspec.covers)

/-- An environment with a function on integers. -/
def countEnv : Env := [("f", .fn .int .int)]

/-- The same name with a function on values of any type. -/
def applyEnv : Env := [("f", .fn (.var ⟨2⟩) (.var ⟨2⟩))]

/-- A function is called under another name. -/
def renamedCall : Term := .lam "x" (.letIn "g" (.ident "f") (.app (.ident "g") (.ident "x")))

theorem inference_follows_generality_renamed : ∃ t₁ s₁ t₂ s₂,
    infer renamedCall (some countEnv) functionStore = .ok t₁ s₁ ∧
    infer renamedCall (some applyEnv) functionStore = .ok t₂ s₂ ∧
    ∃ θ, s₁.view t₁ = (s₂.view t₂).subst θ := by
  have hset : ∀ env : Env, (∀ p ∈ env, functionStore.Holds p.2) → Setting functionStore env [] :=
    fun env hheld =>
      ⟨functionStore_allows.valid, fun x t ht => hheld (x, t) (mem_of_lookup ht), nofun⟩
  have hn : functionStore.Numbered := functionStore_allows.numbered (fun h => h) numbered_empty
  have hplain₁ : PlainEnv functionStore countEnv := by
    intro x t ht
    obtain ⟨_, rfl⟩ := Prod.mk.inj (List.mem_singleton.mp (mem_of_lookup ht))
    show (Ty.fn .int .int).Plain
    simp
  have hplain₂ : PlainEnv functionStore applyEnv := by
    intro x t ht
    obtain ⟨_, rfl⟩ := Prod.mk.inj (List.mem_singleton.mp (mem_of_lookup ht))
    show (Ty.fn (.var ⟨2⟩) (.var ⟨2⟩)).Plain
    simp
  have hspec : Specializes functionStore countEnv applyEnv := by
    rintro x _ rfl
    unfold countEnv applyEnv
    rw [lookup_cons_eq, lookup_cons_eq]
    split
    · exact .some ⟨fun _ => .int, rfl⟩
    · exact .none
  obtain ⟨t₁, s₁, h₁, _⟩ := exists_ok_of_test (x := infer renamedCall (some countEnv))
    (s := functionStore) (p := fun _ _ => true) (by decide +kernel)
  obtain ⟨t₂, s₂, h₂, hθ⟩ := inference_follows_generality (hset countEnv (by decide))
    (hset applyEnv (by decide)) hn hplain₁ hplain₂ (by simp [renamedCall, Term.WellFormed]) hspec
    t₁ s₁ h₁
  exact ⟨t₁, s₁, t₂, s₂, h₁, h₂, hθ⟩

end LetPoly
