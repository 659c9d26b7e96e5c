import LetPoly.Term
import Mathlib.Logic.Function.Basic

/-!
# Free names and replacement

Putting terms in place of the free names of a term. Binders keep their names, so a term that is put
in means the same there only if no binder around it binds one of its free names.

* `Term.freeNames` — the names that occur free
* `Term.subst`, `Term.replace` — terms in place of all free names, and of one
* `Term.NoCapture`, `Term.Admits` — replacing one name, or all, captures nothing
* `OneHole` — terms with one hole
-/

namespace LetPoly

open Function (update)

namespace Term

variable {x y : String} {b d : Term} {θ : String → Term}

/-! ## Free names -/

/-- The names that occur free. The parameter of a function is looked at only as a name. -/
def freeNames : Term → List String
  | .ident x => [x]
  | .lam x body => body.freeNames.filter (· ≠ x)
  | .app f a => f.freeNames ++ a.freeNames
  | .letIn x d b => d.freeNames ++ b.freeNames.filter (· ≠ x)
  | .letrec x d b => (d.freeNames ++ b.freeNames).filter (· ≠ x)
  | .lamOver _ body => body.freeNames
  | .bare | .missing => []

section

variable (x : String) (f a d b p : Term)

@[simp] theorem mem_freeNames_ident : y ∈ (ident x).freeNames ↔ y = x := List.mem_singleton

@[simp] theorem mem_freeNames_lam : y ∈ (lam x b).freeNames ↔ y ∈ b.freeNames ∧ y ≠ x := by
  simp [freeNames]

@[simp] theorem mem_freeNames_app : y ∈ (app f a).freeNames ↔ y ∈ f.freeNames ∨ y ∈ a.freeNames :=
  List.mem_append

@[simp] theorem mem_freeNames_letIn :
    y ∈ (letIn x d b).freeNames ↔ y ∈ d.freeNames ∨ y ∈ b.freeNames ∧ y ≠ x := by
  simp [freeNames]

@[simp] theorem mem_freeNames_letrec :
    y ∈ (letrec x d b).freeNames ↔ (y ∈ d.freeNames ∨ y ∈ b.freeNames) ∧ y ≠ x := by
  rw [freeNames, List.mem_filter, List.mem_append, decide_eq_true_iff]

@[simp] theorem mem_freeNames_lamOver : y ∈ (lamOver p b).freeNames ↔ y ∈ b.freeNames := Iff.rfl

end

/-! ## Terms in place of names -/

/-- The term with every free name replaced by what `θ` gives for it. -/
def subst (θ : String → Term) : Term → Term
  | .ident x => θ x
  | .lam x body => .lam x (body.subst (update θ x (.ident x)))
  | .app f a => .app (f.subst θ) (a.subst θ)
  | .letIn x d b => .letIn x (d.subst θ) (b.subst (update θ x (.ident x)))
  | .letrec x d b =>
    .letrec x (d.subst (update θ x (.ident x))) (b.subst (update θ x (.ident x)))
  | .lamOver p body => .lamOver p (body.subst θ)
  | .bare => .bare
  | .missing => .missing

/-- The term `b` with every free occurrence of `x` replaced by `d`. -/
def replace (b : Term) (x : String) (d : Term) : Term := b.subst (update .ident x d)

@[simp] theorem subst_ident (b : Term) : b.subst .ident = b := by
  induction b <;> simp_all [subst]

theorem WellFormed.subst (hb : b.WellFormed) (hθ : ∀ z, (θ z).WellFormed) :
    (b.subst θ).WellFormed := by
  have hbinder : ∀ {θ : String → Term} (x : String), (∀ z, (θ z).WellFormed) →
      ∀ z, (update θ x (.ident x) z).WellFormed := by
    intro θ x hθ z
    by_cases hz : z = x
    · rw [hz, Function.update_self]
      trivial
    · rw [Function.update_of_ne hz]
      exact hθ z
  induction b generalizing θ with
  | ident x => exact hθ x
  | lam x body ih => exact ih hb (hbinder x hθ)
  | app f a ihf iha => exact ⟨ihf hb.1 hθ, iha hb.2 hθ⟩
  | letIn x d b ihd ihb => exact ⟨ihd hb.1 hθ, ihb hb.2 (hbinder x hθ)⟩
  | letrec x d b ihd ihb => exact ⟨ihd hb.1 (hbinder x hθ), ihb hb.2 (hbinder x hθ)⟩
  | lamOver p body _ _ => exact hb.elim
  | bare => exact hb.elim
  | missing => exact hb.elim

theorem WellFormed.replace (hb : b.WellFormed) (hd : d.WellFormed) (x : String) :
    (b.replace x d).WellFormed := by
  refine hb.subst fun z => ?_
  by_cases hz : z = x
  · rwa [hz, Function.update_self]
  · rw [Function.update_of_ne hz]
    trivial

/-! ## Capture -/

/-- No binder that encloses a free occurrence of `x` binds a free name of `d`. -/
def NoCapture : Term → String → Term → Prop
  | .ident _, _, _ => True
  | .lam y body, x, d => y = x ∨ body.NoCapture x d ∧ (x ∈ body.freeNames → y ∉ d.freeNames)
  | .app f a, x, d => f.NoCapture x d ∧ a.NoCapture x d
  | .letIn y e body, x, d =>
    e.NoCapture x d ∧ (y = x ∨ body.NoCapture x d ∧ (x ∈ body.freeNames → y ∉ d.freeNames))
  | .letrec y e body, x, d =>
    y = x ∨ (e.NoCapture x d ∧ body.NoCapture x d) ∧
      (x ∈ e.freeNames ∨ x ∈ body.freeNames → y ∉ d.freeNames)
  | .lamOver _ body, x, d => body.NoCapture x d
  | .bare, _, _ => True
  | .missing, _, _ => True

/-- A binder of `x` binds no free name of the terms that are put in for the other free names of
`body`. -/
def Spares (θ : String → Term) (x : String) (body : Term) : Prop :=
  ∀ z ∈ body.freeNames, z ≠ x → x ∉ (θ z).freeNames

/-- No binder that encloses a free name binds a free name of the term that is put in for it. -/
def Admits (θ : String → Term) : Term → Prop
  | .ident _ => True
  | .lam x body => Spares θ x body ∧ body.Admits (update θ x (.ident x))
  | .app f a => f.Admits θ ∧ a.Admits θ
  | .letIn x d b => d.Admits θ ∧ Spares θ x b ∧ b.Admits (update θ x (.ident x))
  | .letrec x d b =>
    (Spares θ x d ∧ d.Admits (update θ x (.ident x))) ∧
      Spares θ x b ∧ b.Admits (update θ x (.ident x))
  | .lamOver _ body => body.Admits θ
  | .bare => True
  | .missing => True

theorem spares_ident (x : String) (body : Term) : Spares .ident x body :=
  fun _ _ hz hx => hz ((mem_freeNames_ident ..).mp hx).symm

theorem admits_ident (b : Term) : b.Admits .ident := by
  induction b <;> simp_all [Admits, spares_ident]

theorem spares_update (h : x ∈ b.freeNames → y ∉ d.freeNames) :
    Spares (update .ident x d) y b := by
  intro z hz hzy
  by_cases hzx : z = x
  · rw [hzx, Function.update_self]
    exact h (hzx ▸ hz)
  · rw [Function.update_of_ne hzx]
    exact fun hy => hzy ((mem_freeNames_ident ..).mp hy).symm

/-- Under a binder of another name the same name is replaced. -/
theorem update_ident_comm (h : y ≠ x) :
    update (update ident x d) y (ident y) = update ident x d := by
  refine Function.update_eq_self_iff.mpr ?_
  rw [Function.update_of_ne h]

theorem NoCapture.admits (h : b.NoCapture x d) : b.Admits (update .ident x d) := by
  -- under a binder of `x` itself nothing is replaced
  have hself : ∀ body : Term, Spares (update .ident x d) x body ∧
      body.Admits (update (update .ident x d) x (.ident x)) := by
    intro body
    refine ⟨fun z _ hz => ?_, ?_⟩
    · rw [Function.update_of_ne hz]
      exact fun hx => hz ((mem_freeNames_ident ..).mp hx).symm
    · rw [Function.update_idem, Function.update_eq_self]
      exact admits_ident body
  induction b with
  | ident y => trivial
  | lam y body ih =>
    by_cases hy : y = x
    · rw [hy]
      exact hself body
    · obtain ⟨hbody, hcap⟩ := h.resolve_left hy
      refine ⟨spares_update hcap, ?_⟩
      rw [update_ident_comm hy]
      exact ih hbody
  | app f a ihf iha => exact ⟨ihf h.1, iha h.2⟩
  | letIn y e body ihe ihb =>
    refine ⟨ihe h.1, ?_⟩
    by_cases hy : y = x
    · rw [hy]
      exact hself body
    · obtain ⟨hbody, hcap⟩ := h.2.resolve_left hy
      refine ⟨spares_update hcap, ?_⟩
      rw [update_ident_comm hy]
      exact ihb hbody
  | letrec y e body ihe ihb =>
    by_cases hy : y = x
    · rw [hy]
      exact ⟨hself e, hself body⟩
    · obtain ⟨⟨he, hbody⟩, hcap⟩ := h.resolve_left hy
      refine ⟨⟨spares_update fun hx => hcap (.inl hx), ?_⟩,
        spares_update fun hx => hcap (.inr hx), ?_⟩
      · rw [update_ident_comm hy]
        exact ihe he
      · rw [update_ident_comm hy]
        exact ihb hbody
  | lamOver p body _ ih => exact ih h
  | bare => trivial
  | missing => trivial

end Term

/-! ## Terms with one hole -/

/-- Terms with one hole, which may stand for any subterm. -/
inductive OneHole where
  | hole
  | lam (param : String) (body : OneHole)
  | function (function : OneHole) (argument : Term)
  | argument (function : Term) (argument : OneHole)
  | letDefinition (name : String) (definition : OneHole) (body : Term)
  | letBody (name : String) (definition : Term) (body : OneHole)
  | letrecDefinition (name : String) (definition : OneHole) (body : Term)
  | letrecBody (name : String) (definition : Term) (body : OneHole)
  | overParam (param : OneHole) (body : Term)
  | overBody (param : Term) (body : OneHole)

namespace OneHole

/-- The term with `e` in the hole. Binders around the hole may bind free names of `e`. -/
def fill (e : Term) : OneHole → Term
  | .hole => e
  | .lam x C => .lam x (C.fill e)
  | .function C a => .app (C.fill e) a
  | .argument f C => .app f (C.fill e)
  | .letDefinition x C b => .letIn x (C.fill e) b
  | .letBody x d C => .letIn x d (C.fill e)
  | .letrecDefinition x C b => .letrec x (C.fill e) b
  | .letrecBody x d C => .letrec x d (C.fill e)
  | .overParam C body => .lamOver (C.fill e) body
  | .overBody p C => .lamOver p (C.fill e)

/-- Whatever well-formed term is put into the hole, the whole is well-formed. -/
def WellFormed : OneHole → Prop
  | .hole => True
  | .lam _ C => C.WellFormed
  | .function C a => C.WellFormed ∧ a.WellFormed
  | .argument f C => f.WellFormed ∧ C.WellFormed
  | .letDefinition _ C b => C.WellFormed ∧ b.WellFormed
  | .letBody _ d C => d.WellFormed ∧ C.WellFormed
  | .letrecDefinition _ C b => C.WellFormed ∧ b.WellFormed
  | .letrecBody _ d C => d.WellFormed ∧ C.WellFormed
  | .overParam .. | .overBody .. => False

theorem WellFormed.fill {C : OneHole} {e : Term} (hC : C.WellFormed) (he : e.WellFormed) :
    (C.fill e).WellFormed := by
  induction C with
  | hole => exact he
  | lam x C ih => exact ih hC
  | function C a ih => exact ⟨ih hC.1, hC.2⟩
  | argument f C ih => exact ⟨hC.1, ih hC.2⟩
  | letDefinition x C b ih => exact ⟨ih hC.1, hC.2⟩
  | letBody x d C ih => exact ⟨hC.1, ih hC.2⟩
  | letrecDefinition x C b ih => exact ⟨ih hC.1, hC.2⟩
  | letrecBody x d C ih => exact ⟨hC.1, ih hC.2⟩
  | overParam C body => exact hC.elim
  | overBody p C => exact hC.elim

end OneHole

end LetPoly
