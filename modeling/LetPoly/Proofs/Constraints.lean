import Mathlib.Data.List.Zip
import Mathlib.Data.Set.Function
import LetPoly.Proofs.Alike
import LetPoly.Proofs.Unification

/-!
# Equations in any order

Which variable represents another depends on the order in which equations are added to a store and
on which side of an equation a type stands. What types mean does not: stores of the same size with
the same solutions show the same views but for the names of their unbound variables
(`SameSolutions.upToNames`).

* `unifyAll_perm` — equations may be unified in any order
* `unify_comm` — the two sides of an equation may be exchanged, and a failure keeps its kind
-/

namespace LetPoly

open Store

variable {s s' s₁ s₁' s₂ : Store} {t t' u u' : Ty} {v : Var} {e : Error}
  {ps qs : List (Ty × Ty)} {height height' steps steps' : Nat}

/-! ## Stores with the same solutions -/

/-- The unbound variables of the store. -/
def Store.free (s : Store) : Set Var := { v | s.Has v ∧ s.binding v = none }

/-- The types of `s` have the same views in both stores, but for one renaming of the unbound
variables. -/
def UpToNames (s s₁ s₂ : Store) : Prop :=
  ∃ ρ : Var → Var, Set.BijOn ρ s₁.free s₂.free ∧
    ∀ t, s.Holds t → s₂.view t = (s₁.view t).subst fun v => .var (ρ v)

/-- The stores have the same variables, and their bindings have the same solutions. -/
structure SameSolutions (s s' : Store) : Prop where
  valid : s.Valid
  valid' : s'.Valid
  size_eq : s'.cells.size = s.cells.size
  solves_iff : ∀ θ, s'.Solves θ ↔ s.Solves θ

namespace SameSolutions

theorem refl (hs : s.Valid) : SameSolutions s s := ⟨hs, hs, rfl, fun _ => Iff.rfl⟩

theorem symm (h : SameSolutions s s') : SameSolutions s' s :=
  ⟨h.valid', h.valid, h.size_eq.symm, fun θ => (h.solves_iff θ).symm⟩

theorem holds (h : SameSolutions s s') (ht : s.Holds t) : s'.Holds t := by
  intro v hv
  have hhas := ht v hv
  unfold Has at hhas ⊢
  rwa [h.size_eq]

/-- Looking at types keeps the solutions. -/
theorem look (h : SameSolutions s s') (ha : Rights.look.Allows s s₁)
    (ha' : Rights.look.Allows s' s₁') : SameSolutions s₁ s₁' where
  valid := ha.valid
  valid' := ha'.valid
  size_eq := by rw [ha.size_eq (fun hm => hm), ha'.size_eq (fun hm => hm), h.size_eq]
  solves_iff θ := by
    rw [ha.solves_iff (fun _ hb => hb) (fun hm => hm) h.valid,
      ha'.solves_iff (fun _ hb => hb) (fun hm => hm) h.valid', h.solves_iff]

/-- What variables stand for in one store solves the other one, so it takes views to views. -/
theorem view_eq_subst (h : SameSolutions s s') (ht : s.Holds t) :
    s'.view t = (s.view t).subst s'.meaning := by
  have hsol : s.Solves s'.meaning := (h.solves_iff _).mp h.valid'.solves_meaning
  rw [h.valid.view_subst hsol ht, h.valid'.subst_meaning (h.holds ht)]

/-- An unbound variable stands for an unbound variable in the other store, and back. -/
theorem exists_partner (h : SameSolutions s s') (hv : v ∈ s.free) :
    ∃ w ∈ s'.free, s'.meaning v = .var w ∧ s.meaning w = .var v := by
  have ht : s.Holds (.var v) := holds_var.mpr hv.1
  have hback := h.symm.view_eq_subst (h.holds ht)
  rw [view_var_of_unbound hv.2] at hback
  cases hview : s'.view (.var v) with
  | var w =>
    rw [hview, Ty.subst_var] at hback
    have hw := h.valid'.unbound_of_mem_view (h.holds ht) w (by simp [hview])
    exact ⟨w, hw, hview, hback.symm⟩
  | con name args => simp [hview] at hback
  | bare => simp [hview] at hback

/-- The views of all types are the same but for one renaming. -/
theorem upToNames (h : SameSolutions s₁ s₂) (hsize : s₁.cells.size = s.cells.size) :
    UpToNames s s₁ s₂ := by
  choose! ρ hfree hmeaning hback using fun v (hv : v ∈ s₁.free) => h.exists_partner hv
  refine ⟨ρ, ⟨hfree, fun v hv w hw heq => ?_, fun w hw => ?_⟩, fun t ht => ?_⟩
  · have hvw := hback v hv
    rw [heq, hback w hw] at hvw
    exact (Ty.var.inj hvw).symm
  · -- the partner of an unbound variable of the second store comes back to it
    obtain ⟨v, hv, hwv, hvw⟩ := h.symm.exists_partner hw
    refine ⟨v, hv, ?_⟩
    rw [hmeaning v hv] at hvw
    exact Ty.var.inj hvw
  · have ht₁ : s₁.Holds t := by
      intro v hv
      have hhas := ht v hv
      unfold Has at hhas ⊢
      rwa [hsize]
    rw [h.view_eq_subst ht₁]
    exact Ty.subst_congr fun v hv => hmeaning v (h.valid.unbound_of_mem_view ht₁ v hv)

/-- Problems with the same solutions are solved together, and then the stores have the same
solutions. -/
theorem both_ends {x y : StoreM Unit} (h : SameSolutions s s') (hp : PlainPairs s ps)
    (hq : PlainPairs s' qs) (hiff : ∀ θ, s.Solves θ → (Unifies θ ps ↔ Unifies θ qs))
    (hx : Ends x s (fun _ s₁ => ∃ height, Unified height s ps s₁) (fun e s₁ => Clash s ps e s₁))
    (hy : Ends y s' (fun _ s₁ => ∃ height, Unified height s' qs s₁)
      (fun e s₁ => Clash s' qs e s₁)) :
    Both x s y s' (fun _ _ s₁ s₁' => SameSolutions s₁ s₁' ∧ s₁.cells.size = s.cells.size)
      (fun e e' _ _ => e.IsConflict ∧ e'.IsConflict) := by
  refine (Both.of_ends hx hy (fun _ s₁ e' _ ⟨_, hu⟩ hc => ?_)
    (fun e _ _ s₁' hc ⟨_, hu⟩ => ?_)).mono ?_ ?_
  · obtain ⟨hsol, hun⟩ := (hu.solves_iff _).mp hu.allows.valid.solves_meaning
    exact (hc.conflict hq).2 _ ((h.solves_iff _).mpr hsol) ((hiff _ hsol).mp hun)
  · obtain ⟨hsol, hun⟩ := (hu.solves_iff _).mp hu.allows.valid.solves_meaning
    rw [h.solves_iff] at hsol
    exact (hc.conflict hp).2 _ hsol ((hiff _ hsol).mpr hun)
  · rintro _ _ s₁ s₁' ⟨⟨_, hu⟩, _, hu'⟩
    have hsize := hu.allows.size_eq fun hm => hm
    refine ⟨⟨hu.allows.valid, hu'.allows.valid, ?_, fun θ => ?_⟩, hsize⟩
    · rw [hsize, hu'.allows.size_eq (fun hm => hm), h.size_eq]
    · rw [hu.solves_iff, hu'.solves_iff, h.solves_iff]
      exact and_congr_right fun hθ => (hiff θ hθ).symm
  · exact fun e e' _ _ hc => ⟨(hc.1.conflict hp).1, (hc.2.conflict hq).1⟩

end SameSolutions

/-! ## One equation after the other -/

/-- Unifies the types of each pair, in order, up to the first failure. -/
def unifyAll (ps : List (Ty × Ty)) : StoreM Unit := ps.forM fun (t, u) => unify t u

theorem Unified.mono (h : Unified height s ps s₁) (hle : height ≤ height') :
    Unified height' s ps s₁ :=
  ⟨h.allows, Nat.le_trans h.height_le hle, h.solves_iff⟩

/-- The equations are added one after the other, or they have no solution. -/
theorem unifyAll_ends : ∀ {s : Store}, s.Valid → HoldsPairs s ps →
    Ends (unifyAll ps) s (fun _ s₁ => ∃ height, Unified height s ps s₁)
      (fun e s₁ => Clash s ps e s₁) := by
  induction ps with
  | nil =>
    intro s hs _
    exact ⟨s.height, .refl hs, Nat.le_refl _, fun θ => by simp [Unifies]⟩
  | cons p ps ih =>
    intro s hs hps
    have hrest : HoldsPairs s ps := fun q hq => hps q (List.mem_cons_of_mem _ hq)
    obtain ⟨ht, hu⟩ := hps p (by simp)
    show Ends (unify p.1 p.2 >>= fun _ => unifyAll ps) s _ _
    rw [ends_bind]
    refine (unify_ends hs ht hu).mono (fun _ s₁ h₁ => ?_) (fun _ _ h => h.cons)
    have hlater : HoldsPairs s₁ ps := fun q hq =>
      (hrest q hq).imp h₁.allows.holds h₁.allows.holds
    refine (ih h₁.allows.valid hlater).mono ?_ (fun _ _ h₂ => h₁.cons_clash hs hrest h₂)
    rintro _ s₂ ⟨h, h₂⟩
    exact ⟨_, (h₁.mono (Nat.le_max_left _ h)).cons hs hrest (h₂.mono (Nat.le_max_right _ h))⟩

/-- The order in which equations are unified does not matter: in every order they are unified, and
then all views are the same up to one renaming, or in every order there is a conflict. -/
theorem unifyAll_perm (hs : s.Valid) (hold : HoldsPairs s ps) (hplain : PlainPairs s ps)
    (hperm : ps.Perm qs) :
    Both (unifyAll ps) s (unifyAll qs) s (fun _ _ s₁ s₂ => UpToNames s s₁ s₂)
      (fun e e' _ _ => e.IsConflict ∧ e'.IsConflict) := by
  have hold' : HoldsPairs s qs := fun q hq => hold q (hperm.mem_iff.mpr hq)
  have hplain' : PlainPairs s qs := fun q hq => hplain q (hperm.mem_iff.mpr hq)
  have hiff : ∀ θ, s.Solves θ → (Unifies θ ps ↔ Unifies θ qs) := fun θ _ =>
    forall_congr' fun q => imp_congr_left hperm.mem_iff
  refine ((SameSolutions.refl hs).both_ends hplain hplain' hiff (unifyAll_ends hs hold)
    (unifyAll_ends hs hold')).mono ?_ (fun _ _ _ _ h => h)
  rintro _ _ s₁ s₂ ⟨hsame, hsize⟩
  exact hsame.upToNames hsize

/-- Two equations in two orders: each order leaves another variable unbound. -/
theorem unifyAll_perm_function :
    let p : Ty × Ty := (.var ⟨1⟩, .var ⟨2⟩)
    let q : Ty × Ty := (.fn (.var ⟨2⟩) (.var ⟨2⟩), .var ⟨0⟩)
    ∃ s₁ s₂, unifyAll [p, q] functionStore = .ok () s₁ ∧ unifyAll [q, p] functionStore = .ok () s₂ ∧
      (s₁.view (.var ⟨0⟩)).vars = [⟨2⟩, ⟨2⟩] ∧ (s₂.view (.var ⟨0⟩)).vars = [⟨1⟩, ⟨1⟩] ∧
      UpToNames functionStore s₁ s₂ := by
  intro p q
  obtain ⟨_, s₁, h₁, hv₁⟩ := exists_ok_of_test (x := unifyAll [p, q]) (s := functionStore)
    (p := fun _ s₁ => (s₁.view (.var ⟨0⟩)).vars == [⟨2⟩, ⟨2⟩]) (by decide +kernel)
  obtain ⟨_, s₂, h₂, hv₂⟩ := exists_ok_of_test (x := unifyAll [q, p]) (s := functionStore)
    (p := fun _ s₂ => (s₂.view (.var ⟨0⟩)).vars == [⟨1⟩, ⟨1⟩]) (by decide +kernel)
  have hold : HoldsPairs functionStore [p, q] := by
    unfold HoldsPairs
    decide
  have hplain : PlainPairs functionStore [p, q] := by
    have h₀ : functionStore.view (.var ⟨0⟩) = .fn (.var ⟨1⟩) (.var ⟨1⟩) := rfl
    have h₁ : functionStore.view (.var ⟨1⟩) = .var ⟨1⟩ := rfl
    have h₂ : functionStore.view (.var ⟨2⟩) = .var ⟨2⟩ := rfl
    have h₃ : functionStore.view (.fn (.var ⟨2⟩) (.var ⟨2⟩)) = .fn (.var ⟨2⟩) (.var ⟨2⟩) := rfl
    simp [PlainPairs, p, q, h₀, h₁, h₂, h₃]
  obtain ⟨_, _, h, hnames⟩ := (unifyAll_perm functionStore_allows.valid hold hplain
    (List.Perm.swap q p [])).of_ok h₁
  rw [h₂] at h
  cases h
  exact ⟨s₁, s₂, h₁, h₂, beq_iff_eq.mp hv₁, beq_iff_eq.mp hv₂, hnames⟩

/-! ## The two sides of an equation -/

/-- Both failures are mismatches, or both report a variable in its own type. -/
def Error.SameKind : Error → Error → Prop
  | .mismatch .., .mismatch .. => True
  | .recursive .., .recursive .. => True
  | _, _ => False

/-- No solution tells the type in one store from the type in the other. -/
structure Counterpart (s s' : Store) (t t' : Ty) : Prop where
  holds : s.Holds t
  holds' : s'.Holds t'
  subst_eq : ∀ θ, s.Solves θ → t'.subst θ = t.subst θ

theorem Counterpart.later {r r' : Rights} (h : Counterpart s s' t t') (ha : r.Allows s s₁)
    (ha' : r'.Allows s' s₁') : Counterpart s₁ s₁' t t' :=
  ⟨ha.holds h.holds, ha'.holds h.holds', fun θ hθ => h.subst_eq θ (ha.solves θ hθ)⟩

theorem Counterpart.view_eq_subst (h : Counterpart s s' t t') (hsame : SameSolutions s s') :
    s'.view t' = (s.view t).subst s'.meaning := by
  have hsol : s.Solves s'.meaning := (hsame.solves_iff _).mp hsame.valid'.solves_meaning
  rw [hsame.valid.view_subst hsol h.holds, ← h.subst_eq _ hsol,
    hsame.valid'.subst_meaning h.holds']

theorem Counterpart.plain (h : Counterpart s s' t t') (hsame : SameSolutions s s')
    (hp : (s.view t).Plain) : (s'.view t').Plain := by
  rw [h.view_eq_subst hsame, Ty.plain_subst_iff]
  refine ⟨hp, fun v hv => ?_⟩
  obtain ⟨w, _, hw, _⟩ := hsame.exists_partner (hsame.valid.unbound_of_mem_view h.holds v hv)
  rw [hw]
  exact .var w

theorem Counterpart.find (h : Counterpart s s' t t') (hsame : SameSolutions s s') :
    Counterpart s s' (s.find t) (s'.find t') where
  holds := (hsame.valid.find_spec h.holds).1
  holds' := (hsame.valid'.find_spec h.holds').1
  subst_eq θ hθ := by
    rw [← (hsame.valid.subst_find h.holds hθ).1,
      ← (hsame.valid'.subst_find h.holds' ((hsame.solves_iff θ).mpr hθ)).1, h.subst_eq θ hθ]

/-- Two representatives are unbound variables, or operators of one name whose components are
counterparts. -/
inductive SameShape (s s' : Store) : Ty → Ty → Prop
  | var {v v' : Var} (hv : v ∈ s.free) (hv' : v' ∈ s'.free) : SameShape s s' (.var v) (.var v')
  | con {name : String} {args args' : List Ty} (h : List.Forall₂ (Counterpart s s') args args') :
    SameShape s s' (.con name args) (.con name args')

/-- Counterparts without the bare type have representatives of the same shape. -/
theorem Counterpart.shape (h : Counterpart s s' t t') (hsame : SameSolutions s s')
    (hp : (s.view t).Plain) : SameShape s s' (s.find t) (s'.find t') := by
  have hs := hsame.valid
  have hs' := hsame.valid'
  have hview := h.view_eq_subst hsame
  rcases hs.find_cases h.holds with ⟨v, hf, hv, hu, heq⟩ | ⟨name, args, hf, hargs, heq⟩ | ⟨_, heq⟩
  · obtain ⟨w, _, hw, _⟩ := hsame.exists_partner ⟨hv, hu⟩
    rw [heq, Ty.subst_var, hw] at hview
    obtain ⟨hf', hw'⟩ := hs'.find_of_view_var h.holds' hview
    rw [hf, hf']
    exact .var ⟨hv, hu⟩ hw'
  · rw [heq, Ty.subst_con, List.map_map] at hview
    obtain ⟨args', hf', hargs', hmap⟩ := hs'.find_of_view_con h.holds' hview
    rw [hf, hf']
    refine .con (forall₂_of_map_eq hmap.symm fun x hx x' hx' hviews => ?_)
    refine ⟨hargs x hx, hargs' x' hx', fun θ hθ => ?_⟩
    -- the components have the same view in the second store, which its solutions respect
    have heqv : s'.view x' = s'.view x := by
      rw [hsame.view_eq_subst (hargs x hx)]
      exact hviews.symm
    have hθ' := (hsame.solves_iff θ).mpr hθ
    rw [← hs'.view_subst hθ' (hargs' x' hx'), heqv,
      hs'.view_subst hθ' (hsame.holds (hargs x hx))]
  · rw [heq] at hp
    exact absurd hp Ty.not_plain_bare

theorem SameShape.look (h : SameShape s s' t t') (ha : Rights.look.Allows s s₁)
    (ha' : Rights.look.Allows s' s₁') : SameShape s₁ s₁' t t' := by
  have hfree : ∀ {s s₁ : Store} {v : Var}, Rights.look.Allows s s₁ → v ∈ s.free → v ∈ s₁.free :=
    fun ha hv => ⟨ha.has hv.1, ha.unbound _ hv.1 hv.2 fun hb => hb⟩
  cases h with
  | var hv hv' => exact .var (hfree ha hv) (hfree ha' hv')
  | con h => exact .con (h.imp fun _ _ hc => hc.later ha ha')

/-- The only failure of binding a variable is that it occurs in its own type. -/
theorem assign_ends_recursive (hs : s.Valid) (hv : v ∈ s.free) (ht : s.Holds t)
    (hp : (s.view t).Plain) :
    Ends (assign v t) s (fun _ _ => True) (fun e _ => ∃ label type, e = .recursive label type) := by
  have htested : Ends (do if ← occurs v t then throwRecursive v t else bindVar v t) s
      (fun _ _ => True) (fun e _ => ∃ label type, e = .recursive label type) := by
    rw [ends_bind]
    refine (occurs_ends hs ht v).mono (fun b s₁ ⟨_, h₁⟩ => ?_) (fun _ _ h => h.elim)
    have hu₁ : s₁.binding v = none := h₁.unbound v hv.1 hv.2 fun hb => hb
    split
    · refine (throwRecursive_ends_recursive h₁.valid (h₁.has hv.1) (h₁.holds ht)).mono
        (fun _ _ h => h) (fun e _ h => h.2 ⟨?_, ?_⟩)
      · rw [view_var_of_unbound hu₁]
        exact .var v
      · rwa [h₁.view_eq (fun _ hb => hb) hs ht]
    · rw [bindVar_ends hu₁]
      trivial
  cases t with
  | var w =>
    show Ends (if w = v then pure () else bindVar v (.var w)) s _ _
    split
    · trivial
    · rw [bindVar_ends hv.2]
      trivial
  | con name args => exact htested
  | bare => exact htested

theorem SameShape.unbound (h : SameShape s s' t t') :
    (∀ v, t = .var v → s.binding v = none) ∧ ∀ v, t' = .var v → s'.binding v = none := by
  cases h with
  | var hv hv' =>
    refine ⟨?_, ?_⟩
    · rintro v ⟨⟩
      exact hv.2
    · rintro v ⟨⟩
      exact hv'.2
  | con h => exact ⟨nofun, nofun⟩

/-- An equation in one store and its mirror image in the other. -/
structure Facing (height height' steps steps' : Nat) (s s' : Store) (t u t' u' : Ty) : Prop where
  same : SameSolutions s s'
  height_le : s.height ≤ height
  height_le' : s'.height ≤ height'
  left : Counterpart s s' t t'
  right : Counterpart s s' u u'
  plain_left : (s.view t).Plain
  plain_right : (s.view u).Plain
  fits : Fits height steps s t u
  fits' : Fits height' steps' s' u' t'

theorem Facing.plainPairs (h : Facing height height' steps steps' s s' t u t' u') :
    PlainPairs s [(t, u)] ∧ PlainPairs s' [(u', t')] := by
  have hp := h.left.plain h.same h.plain_left
  have hp' := h.right.plain h.same h.plain_right
  simp [PlainPairs, h.plain_left, h.plain_right, hp, hp']

/-- Equations that are added to both stores, if they bring in no bare type. -/
theorem Facing.later (h : Facing height height' steps steps' s s' t u t' u')
    (hsame : SameSolutions s₁ s₁') (hle : s₁.height ≤ height) (hle' : s₁'.height ≤ height')
    (ha : ({ bind := fun _ => True } : Rights).Allows s s₁) (ha' : Rights.solve.Allows s' s₁') :
    Facing height height' steps steps' s₁ s₁' t u t' u' where
  same := hsame
  height_le := hle
  height_le' := hle'
  left := h.left.later ha ha'
  right := h.right.later ha ha'
  plain_left := ha.plain_view h.same.valid h.left.holds (fun hb => hb) h.plain_left
  plain_right := ha.plain_view h.same.valid h.right.holds (fun hb => hb) h.plain_right
  fits := h.fits.later (ha.to_solve (fun hm => hm) (fun hn => hn) fun _ hl => hl)
  fits' := h.fits'.later ha'

/-- The equations between the components of operators and their mirror images. -/
theorem Facing.components {f g : String} {ts ts' us us' : List Ty}
    (h : Facing height height' (steps + 1) (steps' + 1) s s' (.con f ts) (.con g us) (.con f ts')
      (.con g us')) (hts : List.Forall₂ (Counterpart s s') ts ts')
    (hus : List.Forall₂ (Counterpart s s') us us') :
    List.Forall₂ (fun p p' => Facing height height' steps steps' s s' p.1 p.2 p'.2 p'.1)
      (ts.zip us) (us'.zip ts') := by
  have hs := h.same.valid
  have hpt := h.plain_left
  have hpu := h.plain_right
  rw [hs.view_con h.left.holds, plain_con_view] at hpt
  rw [hs.view_con h.right.holds, plain_con_view] at hpu
  have hzip := forall₂_zip hts hus
  rw [← List.zip_swap ts' us', List.forall₂_map_right_iff]
  refine List.forall₂_iff_zip.mpr ⟨hzip.length_eq, ?_⟩
  rintro ⟨x, y⟩ ⟨x', y'⟩ hmem
  obtain ⟨hcx, hcy⟩ := List.forall₂_zip hzip hmem
  obtain ⟨hx, hy⟩ := List.of_mem_zip (List.of_mem_zip hmem).1
  obtain ⟨hx', hy'⟩ := List.of_mem_zip (List.of_mem_zip hmem).2
  exact ⟨h.same, h.height_le, h.height_le', hcx, hcy, hpt x hx, hpu y hy,
    h.fits.component hs hx hy, h.fits'.component h.same.valid' hy' hx'⟩

/-- The representatives of both sides, in the stores after they have been looked up. -/
theorem Facing.found (h : Facing height height' steps steps' s s' t u t' u') :
    Facing height height' steps steps' ((s.shorten t).shorten u) ((s'.shorten u').shorten t')
      (s.find t) ((s.shorten t).find u) ((s'.shorten u').find t') (s'.find u') ∧
    SameShape ((s.shorten t).shorten u) ((s'.shorten u').shorten t') (s.find t)
      ((s'.shorten u').find t') ∧
    SameShape ((s.shorten t).shorten u) ((s'.shorten u').shorten t') ((s.shorten t).find u)
      (s'.find u') := by
  have ha₁ := allows_shorten h.same.valid h.left.holds
  have ha₂ := allows_shorten ha₁.valid (ha₁.holds h.right.holds)
  have ha₁' := allows_shorten h.same.valid' h.right.holds'
  have ha₂' := allows_shorten ha₁'.valid (ha₁'.holds h.left.holds')
  have ha := ha₁.trans ha₂
  have ha' := ha₁'.trans ha₂'
  -- one side is looked up first in one store and last in the other
  have hsame₁ : SameSolutions s (s'.shorten u') := h.same.look (.refl h.same.valid) ha₁'
  have hsame₂ : SameSolutions (s.shorten t) s' := h.same.look ha₁ (.refl h.same.valid')
  have hleft := h.left.later (Rights.Allows.refl (r := .look) h.same.valid) ha₁'
  have hright := h.right.later ha₁ (Rights.Allows.refl (r := .look) h.same.valid')
  have hpu : ((s.shorten t).view u).Plain := by
    rw [ha₁.view_eq (fun _ hb => hb) h.same.valid h.right.holds]
    exact h.plain_right
  refine ⟨⟨h.same.look ha ha', ?_, ?_, (hleft.find hsame₁).later ha ha₂',
    (hright.find hsame₂).later ha₂ ha', ?_, ?_, h.fits.found h.same.valid h.height_le,
    h.fits'.found h.same.valid' h.height_le'⟩, (hleft.shape hsame₁ h.plain_left).look ha ha₂',
    (hright.shape hsame₂ hpu).look ha₂ ha'⟩
  · rw [ha.height_eq fun _ hb => hb]
    exact h.height_le
  · rw [ha'.height_eq fun _ hb => hb]
    exact h.height_le'
  · rw [ha.view_eq (fun _ hb => hb) h.same.valid (h.same.valid.find_spec h.left.holds).1,
      h.same.valid.view_find h.left.holds]
    exact h.plain_left
  · rw [ha₂.view_eq (fun _ hb => hb) ha₁.valid (ha₁.valid.find_spec hright.holds).1,
      ha₁.valid.view_find hright.holds]
    exact hpu

/-- With the given numbers of steps unification does the same to an equation and to its mirror
image. -/
def Mirrored (height height' steps steps' : Nat) : Prop :=
  ∀ {s s' : Store} {t u t' u' : Ty}, Facing height height' steps steps' s s' t u t' u' →
    Both (unifyTo steps t u) s (unifyTo steps' u' t') s' (fun _ _ s₁ s₁' => SameSolutions s₁ s₁')
      (fun e e' _ _ => e.SameKind e')

theorem forM_unifyTo_mirrored (hone : Mirrored height height' steps steps')
    (h : SameSolutions s s') (hh : s.height ≤ height) (hh' : s'.height ≤ height')
    (hpairs : List.Forall₂ (fun p p' => Facing height height' steps steps' s s' p.1 p.2 p'.2 p'.1)
      ps qs) :
    Both (ps.forM fun (x, y) => unifyTo steps x y) s (qs.forM fun (x, y) => unifyTo steps' x y) s'
      (fun _ _ s₁ s₁' => SameSolutions s₁ s₁') (fun e e' _ _ => e.SameKind e') := by
  refine (Both.forM (I := fun s₁ s₁' => SameSolutions s₁ s₁' ∧
    ({ bind := fun _ => True } : Rights).Allows s s₁ ∧ Rights.solve.Allows s' s₁' ∧
    s₁.height ≤ height ∧ s₁'.height ≤ height') hpairs ?_
    ⟨h, .refl h.valid, .refl h.valid', hh, hh'⟩).mono (fun _ _ _ _ hI => hI.1) (fun _ _ _ _ h => h)
  rintro ⟨x, y⟩ _ ⟨y', x'⟩ hxy s₁ s₁' ⟨h₁, ha, ha', hle, hle'⟩
  have hxy₁ := hxy.later h₁ hle hle' ha ha'
  refine ((hone hxy₁).and_ends (adequate _ _ h₁.valid hle hxy₁.fits)
    (adequate _ _ h₁.valid' hle' hxy₁.fits')).mono ?_ (fun _ _ _ _ hq => hq.1)
  rintro _ _ s₂ s₂' ⟨h₂, hu, hu'⟩
  refine ⟨h₂, ha.trans ?_, ha'.trans ?_, hu.height_le, hu'.height_le⟩
  · exact hu.allows.mono (fun _ _ _ => trivial) (fun hn v _ => hn v trivial)
      (fun hb => hb hxy₁.plainPairs.1) False.elim False.elim nofun
  · exact hu'.allows.to_solve (fun hm => hm) (fun hn => hn) fun _ hl => hl

/-- Representatives are unified together with their mirror image, or not; if every failure of both
is in a class of failures of one kind, the failures are of the same kind. -/
theorem Facing.both {a b a' b' : Ty}
    (h : Facing height height' (steps + 1) (steps' + 1) s s' a b a' b')
    (ha : SameShape s s' a a') (hb : SameShape s s' b b') {P : Error → Prop}
    (hP : ∀ e e', P e → P e' → e.SameKind e')
    (hx : Ends (unifyFound steps a b) s (fun _ _ => True) (fun e _ => P e))
    (hy : Ends (unifyFound steps' b' a') s' (fun _ _ => True) (fun e _ => P e)) :
    Both (unifyFound steps a b) s (unifyFound steps' b' a') s'
      (fun _ _ s₁ s₁' => SameSolutions s₁ s₁') (fun e e' _ _ => e.SameKind e') := by
  have hiff : ∀ θ, s.Solves θ → (Unifies θ [(a, b)] ↔ Unifies θ [(b', a')]) := by
    intro θ hθ
    simp only [Unifies, List.mem_singleton, forall_eq]
    rw [h.left.subst_eq θ hθ, h.right.subst_eq θ hθ, eq_comm]
  have hends := unifyFound_ends (adequate height steps) h.same.valid h.height_le h.fits
    ha.unbound.1 hb.unbound.1
  have hends' := unifyFound_ends (adequate height' steps') h.same.valid' h.height_le' h.fits'
    hb.unbound.2 ha.unbound.2
  have hboth := h.same.both_ends h.plainPairs.1 h.plainPairs.2 hiff
    (hends.mono (fun _ _ hu => ⟨_, hu⟩) fun _ _ hc => hc)
    (hends'.mono (fun _ _ hu => ⟨_, hu⟩) fun _ _ hc => hc)
  exact (hboth.and_ends hx hy).mono (fun _ _ _ _ hq => hq.1.1)
    (fun e e' _ _ hq => hP e e' hq.2.1 hq.2.2)

theorem unifyFound_ends_mismatch {f g : String} {ts us : List Ty} (hs : s.Valid)
    (ht : s.Holds (.con f ts)) (hu : s.Holds (.con g us))
    (hp : PlainPairs s [(.con f ts, .con g us)]) (hne : ¬ (f = g ∧ ts.length = us.length)) :
    Ends (unifyFound steps (.con f ts) (.con g us)) s (fun _ _ => True)
      (fun e _ => ∃ left right, e = .mismatch left right) := by
  show Ends (if f = g ∧ ts.length = us.length then _ else _) s _ _
  rw [if_neg hne]
  exact (throwMismatch_ends_mismatch hs ht hu).mono (fun _ _ h => h)
    (fun _ _ h => h.2 (hp (.con f ts, .con g us) (by simp)))

/-- One equation between representatives and its mirror image. -/
theorem unifyFound_mirrored {a b a' b' : Ty} (hone : Mirrored height height' steps steps')
    (h : Facing height height' (steps + 1) (steps' + 1) s s' a b a' b')
    (ha : SameShape s s' a a') (hb : SameShape s s' b b') :
    Both (unifyFound steps a b) s (unifyFound steps' b' a') s'
      (fun _ _ s₁ s₁' => SameSolutions s₁ s₁') (fun e e' _ _ => e.SameKind e') := by
  have hs := h.same.valid
  have hs' := h.same.valid'
  obtain ⟨hpb', hpa'⟩ := h.plainPairs.2 (b', a') (by simp)
  have hrecursive : ∀ e e' : Error, (∃ label type, e = .recursive label type) →
      (∃ label type, e' = .recursive label type) → e.SameKind e' := by
    rintro _ _ ⟨_, _, rfl⟩ ⟨_, _, rfl⟩
    trivial
  cases ha with
  | var hv hv' =>
    cases hb with
    | var hw hw' =>
      exact h.both (.var hv hv') (.var hw hw') hrecursive
        (assign_ends_recursive hs hv h.right.holds h.plain_right)
        (assign_ends_recursive hs' hw' h.left.holds' hpa')
    | con hus =>
      exact h.both (.var hv hv') (.con hus) hrecursive
        (assign_ends_recursive hs hv h.right.holds h.plain_right)
        (assign_ends_recursive hs' hv' h.right.holds' hpb')
  | @con f ts ts' hts =>
    cases hb with
    | var hw hw' =>
      exact h.both (.con hts) (.var hw hw') hrecursive
        (assign_ends_recursive hs hw h.left.holds h.plain_left)
        (assign_ends_recursive hs' hw' h.left.holds' hpa')
    | @con g us us' hus =>
      have hsym : (g = f ∧ us'.length = ts'.length) ↔ (f = g ∧ ts.length = us.length) := by
        rw [← hts.length_eq, ← hus.length_eq, eq_comm, @eq_comm _ us.length]
      by_cases hsame : f = g ∧ ts.length = us.length
      · show Both (if f = g ∧ ts.length = us.length then _ else _) s
          (if g = f ∧ us'.length = ts'.length then _ else _) s' _ _
        rw [if_pos hsame, if_pos (hsym.mpr hsame)]
        exact forM_unifyTo_mirrored hone h.same h.height_le h.height_le' (h.components hts hus)
      · refine h.both (.con hts) (.con hus) ?_
          (unifyFound_ends_mismatch hs h.left.holds h.right.holds h.plainPairs.1 hsame)
          (unifyFound_ends_mismatch hs' h.right.holds' h.left.holds' h.plainPairs.2
            fun hsame' => hsame (hsym.mp hsame'))
        rintro _ _ ⟨_, _, rfl⟩ ⟨_, _, rfl⟩
        trivial

theorem mirrored (height height' steps : Nat) :
    ∀ steps', Mirrored height height' steps steps' := by
  induction steps with
  | zero =>
    intro steps' s s' t u t' u' h
    exact absurd (h.fits.deep s (.refl h.same.valid) h.height_le) (Nat.not_lt_zero _)
  | succ steps ih =>
    intro steps' s s' t u t' u' h
    cases steps' with
    | zero => exact absurd (h.fits'.deep s' (.refl h.same.valid') h.height_le') (Nat.not_lt_zero _)
    | succ steps' =>
      obtain ⟨hfound, hshape, hshape'⟩ := h.found
      rw [unifyTo_succ, unifyTo_succ]
      exact unifyFound_mirrored (ih steps') hfound hshape hshape'

/-- The two sides of an equation may be exchanged: both ways it is unified, and then all views are
the same up to one renaming, or both ways there is a failure of the same kind. -/
theorem unify_comm (hs : s.Valid) (ht : s.Holds t) (hu : s.Holds u) (hpt : (s.view t).Plain)
    (hpu : (s.view u).Plain) :
    Both (unify t u) s (unify u t) s (fun _ _ s₁ s₂ => UpToNames s s₁ s₂)
      (fun e e' _ _ => e.SameKind e') := by
  have hself : ∀ {x}, s.Holds x → Counterpart s s x x := fun hx => ⟨hx, hx, fun _ _ => rfl⟩
  have hfacing : Facing _ _ (s.depthBound [t, u]) (s.depthBound [u, t]) s s t u t u :=
    ⟨.refl hs, Nat.le_max_left _ _, Nat.le_max_left _ _, hself ht, hself hu, hpt, hpu,
      fits_depthBound ht hu, fits_depthBound hu ht⟩
  have hboth : Both (unify t u) s (unify u t) s (fun _ _ s₁ s₂ => SameSolutions s₁ s₂)
      (fun e e' _ _ => e.SameKind e') := mirrored _ _ _ _ hfacing
  refine (hboth.and_ends (unify_ends hs ht hu) (unify_ends hs hu ht)).mono ?_
    (fun _ _ _ _ h => h.1)
  rintro _ _ s₁ s₂ ⟨hsame, hunified, _⟩
  exact hsame.upToNames (hunified.allows.size_eq fun hm => hm)

/-- The first component decides which failure is met, whichever side it stands on; and components
that can be unified leave another variable unbound. -/
theorem unify_comm_pair :
    (∃ e e' s₁ s₂,
      unify (.con "pair" [.var ⟨0⟩, .int]) (.con "pair" [.var ⟨1⟩, .fn .int .int]) functionStore =
        .error e s₁ ∧
      unify (.con "pair" [.var ⟨1⟩, .fn .int .int]) (.con "pair" [.var ⟨0⟩, .int]) functionStore =
        .error e' s₂ ∧ e.SameKind e') ∧
    ∃ s₁ s₂, unify (.fn (.var ⟨1⟩) (.var ⟨2⟩)) (.fn (.var ⟨2⟩) (.var ⟨1⟩)) functionStore =
        .ok () s₁ ∧
      unify (.fn (.var ⟨2⟩) (.var ⟨1⟩)) (.fn (.var ⟨1⟩) (.var ⟨2⟩)) functionStore = .ok () s₂ ∧
      UpToNames functionStore s₁ s₂ := by
  have hs := functionStore_allows.valid
  constructor
  · obtain ⟨e, s₁, h₁, _⟩ := exists_error_of_test
      (x := unify (.con "pair" [.var ⟨0⟩, .int]) (.con "pair" [.var ⟨1⟩, .fn .int .int]))
      (s := functionStore) (p := fun _ _ => true) (by decide +kernel)
    have hcomm := unify_comm (t := .con "pair" [.var ⟨0⟩, .int])
      (u := .con "pair" [.var ⟨1⟩, .fn .int .int]) hs (by decide) (by decide) ?_ ?_
    · obtain ⟨e', s₂, h₂, hkind⟩ := hcomm.of_error h₁
      exact ⟨e, e', s₁, s₂, h₁, h₂, hkind⟩
    · show (Ty.con "pair" [.fn (.var ⟨1⟩) (.var ⟨1⟩), .int]).Plain
      simp [Ty.plain_con_iff]
    · show (Ty.con "pair" [.var ⟨1⟩, .fn .int .int]).Plain
      simp [Ty.plain_con_iff]
  · obtain ⟨_, s₁, h₁, _⟩ := exists_ok_of_test
      (x := unify (.fn (.var ⟨1⟩) (.var ⟨2⟩)) (.fn (.var ⟨2⟩) (.var ⟨1⟩)))
      (s := functionStore) (p := fun _ _ => true) (by decide +kernel)
    have hcomm := unify_comm (t := .fn (.var ⟨1⟩) (.var ⟨2⟩)) (u := .fn (.var ⟨2⟩) (.var ⟨1⟩)) hs
      (by decide) (by decide) ?_ ?_
    · obtain ⟨_, s₂, h₂, hnames⟩ := hcomm.of_ok h₁
      exact ⟨s₁, s₂, h₁, h₂, hnames⟩
    · show (Ty.fn (.var ⟨1⟩) (.var ⟨2⟩)).Plain
      simp
    · show (Ty.fn (.var ⟨2⟩) (.var ⟨1⟩)).Plain
      simp

end LetPoly
