import LetPoly.Proofs.Vocabulary

/-!
# The variables of a copy

A copy takes its variables from the counter one after the other, in the order in which the generic
variables of the type first occur. The invariant of copying speaks of the variables that have been
met so far, each as often as it occurs: there is one new variable for each different generic one
among them, and the table of copies says which.

* `Store.generic` — the generic ones among some variables, in the order of first occurrences
* `Met` — what copying has done when it has met some variables
* `copyTo_meets` — copying a type meets the variables of its view
* `fresh_exact` — the copy, its variables and everything else after copying
-/

namespace LetPoly

open Store

variable {s s₀ s₁ : Store} {t : Ty} {v : Var} {vs : List Var} {pinned : List Ty} {copies : Copies}

/-- The generic ones among some variables, each once, in the order of first occurrences. -/
def Store.generic (s : Store) (pinned : List Ty) (vs : List Var) : List Var :=
  (vs.filter fun v => ¬ Pins s pinned v).eraseDups

/-! ## One more variable -/

theorem mem_generic : v ∈ s.generic pinned vs ↔ v ∈ vs ∧ ¬ Pins s pinned v := by
  simp [generic]

theorem generic_concat_of_pins (hv : Pins s pinned v) :
    s.generic pinned (vs ++ [v]) = s.generic pinned vs := by
  simp [generic, List.filter_append, hv]

theorem generic_concat_of_mem (hv : v ∈ s.generic pinned vs) :
    s.generic pinned (vs ++ [v]) = s.generic pinned vs := by
  have hfilter : [v].filter (fun v => ¬ Pins s pinned v) = [v] := by simp [(mem_generic.mp hv).2]
  unfold generic at hv ⊢
  rw [List.filter_append, hfilter, eraseDups_concat_of_mem (List.mem_eraseDups.mp hv)]

theorem generic_concat_of_not_mem (hv : v ∉ s.generic pinned vs) (hgen : ¬ Pins s pinned v) :
    s.generic pinned (vs ++ [v]) = s.generic pinned vs ++ [v] := by
  have hfilter : [v].filter (fun v => ¬ Pins s pinned v) = [v] := by simp [hgen]
  unfold generic at hv ⊢
  rw [List.mem_eraseDups] at hv
  rw [List.filter_append, hfilter, eraseDups_concat_of_not_mem hv]

/-- The variable that is made for the given place among the generic ones. -/
def Store.made (s : Store) (gs : List Var) (v : Var) : Var := ⟨s.cells.size + gs.idxOf v⟩

/-- What copying has done when it has met the variables `vs`: it has made one variable for each
different generic one, and the copies are these variables. -/
structure Met (s₀ : Store) (pinned : List Ty) (vs : List Var) (p : Store × Copies) : Prop where
  size : p.1.cells.size = s₀.cells.size + (s₀.generic pinned vs).length
  copies : ∀ v, s₀.Has v → p.2.lookup (s₀.idOf v) =
    if v ∈ s₀.generic pinned vs then some (s₀.made (s₀.generic pinned vs) v) else none

theorem met_nil (s : Store) (pinned : List Ty) : Met s pinned [] (s, []) :=
  ⟨rfl, fun _ _ => rfl⟩

theorem Met.look (h : Met s₀ pinned vs (s, copies)) (hlook : Rights.look.Allows s s₁) :
    Met s₀ pinned vs (s₁, copies) :=
  ⟨(hlook.size_eq fun hm => hm).trans h.size, h.copies⟩

/-- A variable of which nothing is to be made is passed over. -/
theorem Met.skip {p : Store × Copies} (h : Met s₀ pinned vs p)
    (hv : s₀.generic pinned (vs ++ [v]) = s₀.generic pinned vs) : Met s₀ pinned (vs ++ [v]) p := by
  constructor
  · rw [hv]
    exact h.size
  · rw [hv]
    exact h.copies

/-- A generic variable that has not been met takes the next new one. -/
theorem Met.cons (h : Met s₀ pinned vs (s, copies)) (hn : s₀.Numbered) (hv : s₀.Has v)
    (hnew : v ∉ s₀.generic pinned vs) (hgen : ¬ Pins s₀ pinned v) :
    Met s₀ pinned (vs ++ [v])
      ((s.pushNext none).2, (s₀.idOf v, (s.pushNext none).1) :: copies) := by
  have hsize : s.cells.size = s₀.cells.size + (s₀.generic pinned vs).length := h.size
  refine ⟨?_, fun w hw => ?_⟩
  · rw [generic_concat_of_not_mem hnew hgen, List.length_append]
    show (s.cells.push _).size = _
    rw [Array.size_push, hsize]
    rfl
  · rw [lookup_cons_eq, generic_concat_of_not_mem hnew hgen]
    by_cases hwv : w = v
    · subst hwv
      rw [if_pos rfl, if_pos (by simp), made, List.idxOf_append_of_notMem hnew,
        List.idxOf_cons_self, Nat.add_zero, ← hsize]
      rfl
    · rw [if_neg fun hid => hwv (hn.idOf_inj w v hw hv hid), h.copies w hw]
      by_cases hmem : w ∈ s₀.generic pinned vs
      · rw [if_pos hmem, if_pos (by simp [hmem]), made, made, List.idxOf_append_of_mem hmem]
      · rw [if_neg hmem, if_neg (by simp [hmem, hwv])]

/-! ## Copying -/

theorem copyVar_meets (h : Met s₀ pinned vs (s, copies)) (hn : s₀.Numbered) (hv : s₀.Has v)
    (hid : s.idOf v = s₀.idOf v) (hgen : ¬ Pins s₀ pinned v)
    {E : Error → Store × Copies → Prop} :
    Ends (copyVar v) (s, copies) (fun _ p => Met s₀ pinned (vs ++ [v]) p) E := by
  have hlookup := h.copies v hv
  unfold copyVar
  rw [ends_modifyGet]
  simp only [hid]
  by_cases hmem : v ∈ s₀.generic pinned vs
  · rw [show copies.lookup (s₀.idOf v) = _ from hlookup, if_pos hmem]
    exact h.skip (generic_concat_of_mem hmem)
  · rw [show copies.lookup (s₀.idOf v) = _ from hlookup, if_neg hmem]
    exact h.cons hn hv hmem hgen

theorem copyIfGeneric_meets (hs₀ : s₀.Valid) (hn : s₀.Numbered) (hp : ∀ p ∈ pinned, s₀.Holds p)
    (ha : Rights.grow.Allows s₀ s) (h : Met s₀ pinned vs (s, copies)) (hv : s₀.Has v)
    {E : Error → Store × Copies → Prop} :
    Ends (do if ← isGeneric v pinned then return .var (← copyVar v) else return .var v : CopyM Ty)
      (s, copies) (fun _ p => Met s₀ pinned (vs ++ [v]) p) E := by
  simp only [ends_bind, ends_lift]
  refine (isGeneric_ends ha.valid (fun p hmem => ha.holds (hp p hmem)) v).mono ?_
    (fun _ _ h => h.elim)
  rintro b s₁ ⟨hb, hlook⟩
  have h₁ := h.look hlook
  simp only [ha.pins_iff (fun _ hb => hb) hs₀ hp] at hb
  cases b with
  | true =>
    rw [if_pos rfl, ends_bind]
    have hid : s₁.idOf v = s₀.idOf v := (ha.trans hlook.of_look).idOf_eq v hv
    exact (copyVar_meets h₁ hn hv hid (of_decide_eq_true hb.symm)).mono (fun _ _ h => h)
      (fun _ _ h => h)
  | false =>
    rw [if_neg (by simp), ends_pure]
    exact h₁.skip (generic_concat_of_pins (not_not.mp (of_decide_eq_false hb.symm)))

/-- Copying one type after the other meets the variables of all. -/
theorem mapM_meets {x : Ty → CopyM Ty} {I : Store × Copies → Prop}
    {E : Error → Store × Copies → Prop} : ∀ {ts : List Ty},
    (∀ u ∈ ts, ∀ vs p, I p → Met s₀ pinned vs p →
      Ends (x u) p (fun _ q => I q ∧ Met s₀ pinned (vs ++ (s.view u).vars) q) E) →
    ∀ vs p, I p → Met s₀ pinned vs p →
      Ends (ts.mapM x) p (fun _ q => Met s₀ pinned (vs ++ Ty.varsList (ts.map s.view)) q) E := by
  intro ts
  induction ts with
  | nil =>
    intro _ vs p _ h
    rw [List.mapM_nil, ends_pure, List.map_nil, Ty.varsList, List.append_nil]
    exact h
  | cons t ts ih =>
    intro hts vs p hI h
    obtain ⟨ht, hts⟩ := List.forall_mem_cons.mp hts
    simp only [List.mapM_cons, ends_bind, ends_pure, List.map_cons, Ty.varsList]
    rw [← List.append_assoc]
    exact (ht vs p hI h).mono (fun _ q hq => ih hts _ q hq.1 hq.2) (fun _ _ h => h)

/-- Copying a type meets the variables of its view. -/
theorem copyTo_meets (hs₀ : s₀.Valid) (hn : s₀.Numbered) (hp : ∀ p ∈ pinned, s₀.Holds p)
    {steps : Nat} :
    ∀ {s : Store} {copies : Copies} {t : Ty} {vs : List Var}, Copying s₀ s copies → s.Holds t →
      (∀ v ∈ (s.view t).vars, s₀.Has v) → (s.view t).height < steps →
      Met s₀ pinned vs (s, copies) →
      Ends (copyTo pinned steps t) (s, copies)
        (fun _ p => Met s₀ pinned (vs ++ (s.view t).vars) p) (fun _ _ => True) := by
  induction steps with
  | zero => exact fun _ _ _ h => absurd h (Nat.not_lt_zero _)
  | succ steps ih =>
    intro s copies t vs hc ht hold hsteps hmet
    have hs := hc.allows.valid
    have hshort := allows_shorten hs ht
    have hc₁ := hc.look hshort
    have hmet₁ := hmet.look hshort
    unfold copyTo
    simp only [ends_bind, ends_lift, ends_prune]
    rcases hs.find_cases ht with ⟨v, hf, _, _, hw⟩ | ⟨name, args, hf, hargs, hw⟩ | ⟨hf, hw⟩
    · rw [hf, hw, Ty.vars_var]
      exact copyIfGeneric_meets hs₀ hn hp hc₁.allows hmet₁ (hold v (by simp [hw]))
    · rw [hf, hw]
      rw [hw] at hold hsteps
      rw [ends_bind]
      refine (mapM_meets (s := s)
        (I := fun p => Copying s₀ p.1 p.2 ∧ Rights.grow.Allows s p.1) (E := fun _ _ => True)
        (fun u hu ws p hI hws => ?_) vs _ ⟨hc₁, hshort.of_look⟩ hmet₁).mono (fun _ _ h => h)
        (fun _ _ h => h)
      obtain ⟨hc₂, h₂⟩ := hI
      obtain ⟨hholds, hview, hlt⟩ := h₂.component (fun _ hb => hb) hs hargs hsteps hu
      have hold' : ∀ v ∈ (p.1.view u).vars, s₀.Has v := by
        intro v hv
        rw [hview] at hv
        exact hold v (mem_vars_con_view.mpr ⟨u, hu, hv⟩)
      refine ((copyTo_ends hs₀ hp hc₂ hholds hold' hlt).and (ih hc₂ hholds hold' hlt hws)).mono ?_
        (fun _ _ _ => trivial)
      rintro _ q ⟨⟨hc₃, _, h₃, _⟩, hq⟩
      rw [hview] at hq
      exact ⟨⟨hc₃, h₂.trans h₃⟩, hq⟩
    · rw [hf]
      trivial

/-! ## Copies of types -/

/-- The copy of a type has the variables that are made for its generic ones, and no others are
made. -/
theorem fresh_meets (hs : s.Valid) (hn : s.Numbered) (ht : s.Holds t)
    (hp : ∀ p ∈ pinned, s.Holds p) :
    Ends (fresh t pinned) s
      (fun r s' => r = (s.view t).subst
          (renameGeneric s pinned (s.made (s.generic pinned (s.view t).vars))) ∧
        s'.cells.size = s.cells.size + (s.generic pinned (s.view t).vars).length)
      (fun _ _ => True) := by
  have hstart : Copying s s [] := ⟨.refl hs, nofun, nofun⟩
  have hlt := hs.height_view_lt_depthBound ht (List.mem_singleton.mpr rfl)
  have hheld := hs.holds_view ht
  unfold fresh
  rw [ends_bind, ends_stepsFor, ends_within]
  refine ((copyTo_ends hs hp hstart ht hheld hlt).and
    (copyTo_meets hs hn hp hstart ht hheld hlt (met_nil s pinned))).mono ?_ (fun _ _ _ => trivial)
  rintro r p ⟨⟨_, _, _, _, hr⟩, hmet⟩
  rw [List.nil_append] at hmet
  refine ⟨hr.trans (Ty.subst_congr fun v hv => ?_), hmet.size⟩
  unfold renameGeneric
  split
  · rfl
  · next hgen =>
    have hlookup := hmet.copies v (hheld v hv)
    rw [if_pos (mem_generic.mpr ⟨hv, hgen⟩)] at hlookup
    rw [Copies.target, hlookup, Option.getD_some]

/-- The variables `gs` have become new variables: the `k`-th one is numbered `k` places after the
counter and has neither a binding nor a label. No other variables have been made. -/
structure Renews (s : Store) (gs : List Var) (f : Var → Var) (s' : Store) : Prop where
  counter : s'.counter = s.counter + gs.length
  size : s'.cells.size = s.cells.size + gs.length
  new : ∀ k v, gs[k]? = some v → ¬ s.Has (f v) ∧ s'.Has (f v) ∧ s'.idOf (f v) = s.counter + k ∧
    s'.binding (f v) = none ∧ s'.label (f v) = none

/-- Copying a type gives its view with new variables for the generic ones, numbered on from the
counter in the order of first occurrences. Pinned variables stay as they are, and so do the views
and labels of everything that was there before. -/
theorem fresh_exact (hs : s.Valid) (hn : s.Numbered) (ht : s.Holds t)
    (hp : ∀ p ∈ pinned, s.Holds p) (hplain : (s.view t).Plain) :
    ∃ r s' f, fresh t pinned s = .ok r s' ∧
      s'.view r = (s.view t).subst (fun v => if Pins s pinned v then .var v else .var (f v)) ∧
      Renews s (s.generic pinned (s.view t).vars) f s' ∧ Untouched s s' := by
  have hends := ((fresh_ends hs ht hp).and (fresh_meets hs hn ht hp)).and (fresh_counted hs ht hp)
  obtain ⟨r, s', hr, ⟨⟨f, hcopy⟩, heq, hsize⟩, hcount⟩ :=
    (hends.mono (fun _ _ h => h) (fun _ _ h => h.1.1.2 hplain)).exists_ok
  have hcounter := hcount.counter
  refine ⟨r, s', s.made (s.generic pinned (s.view t).vars), hr, ?_, ⟨by omega, hsize, ?_⟩, ?_⟩
  · rw [hcopy.view_eq hs ht]
    exact heq
  · intro k v hk
    obtain ⟨hlt, hv⟩ := List.getElem?_eq_some_iff.mp hk
    have hidx : (s.generic pinned (s.view t).vars).idxOf v = k := by
      rw [← hv]
      exact (nodup_eraseDups _).idxOf_getElem k hlt
    obtain ⟨hmem, hgen⟩ := mem_generic.mp (List.mem_of_getElem? hk)
    -- the new variable occurs in the copy, so it is an unbound one
    have hocc : s.made (s.generic pinned (s.view t).vars) v ∈ r.vars := by
      rw [heq, Ty.mem_vars_subst]
      exact ⟨v, hmem, by rw [renameGeneric, if_neg hgen]; simp⟩
    obtain ⟨hhas, hunbound⟩ := hcopy.unbound hs ht _ hocc
    have hindex : (s.made (s.generic pinned (s.view t).vars) v).index = s.cells.size + k := by
      rw [← hidx]
      rfl
    have hnew : ¬ s.Has (s.made (s.generic pinned (s.view t).vars) v) := by
      unfold Has
      omega
    have hid := hcount.idOf_new _ hnew hhas
    refine ⟨hnew, hhas, by omega, hunbound, ?_⟩
    rw [hcopy.allows.label_eq _ fun hl => hl, label_of_not_has hnew]
  · exact hcopy.allows.untouched hs (fun _ _ hb => hb) (fun _ _ hl => hl)

/-- A store of four variables in which the first stands for functions on the second. -/
def copyStore : Store := (functionStore.pushNext none).2

/-- A type with a variable twice behind a binding, between two others. -/
def copyType : Ty := .con "triple" [.var ⟨3⟩, .var ⟨0⟩, .var ⟨2⟩]

/-- A pinned type. -/
def copyPinned : List Ty := [.con "list" [.var ⟨2⟩]]

theorem fresh_exact_triple : ∃ (r : Ty) (s' : Store) (f : Var → Var),
    fresh copyType copyPinned copyStore = .ok r s' ∧
    s'.view r = .con "triple" [.var (f ⟨3⟩), .fn (.var (f ⟨1⟩)) (.var (f ⟨1⟩)), .var ⟨2⟩] ∧
    s'.idOf (f ⟨3⟩) = 4 ∧ s'.idOf (f ⟨1⟩) = 5 ∧ s'.counter = 6 := by
  have hgrow := allows_pushNext functionStore_allows.valid
  have hn : copyStore.Numbered :=
    hgrow.numbered (fun h => h) (functionStore_allows.numbered (fun h => h) numbered_empty)
  have hview : copyStore.view copyType =
      .con "triple" [.var ⟨3⟩, .fn (.var ⟨1⟩) (.var ⟨1⟩), .var ⟨2⟩] := rfl
  have hgeneric : copyStore.generic copyPinned (copyStore.view copyType).vars = [⟨3⟩, ⟨1⟩] := by
    decide +kernel
  have hheld : ∀ p ∈ copyPinned, copyStore.Holds p := by decide
  obtain ⟨r, s', f, hr, hr', hnew, _⟩ := fresh_exact (s := copyStore) (t := copyType) hgrow.valid hn
    (by decide) hheld (by rw [hview]; simp [Ty.plain_con_iff])
  rw [hgeneric] at hnew
  refine ⟨r, s', f, hr, ?_, (hnew.new 0 ⟨3⟩ rfl).2.2.1, (hnew.new 1 ⟨1⟩ rfl).2.2.1, hnew.counter⟩
  have h₁ : ¬ Pins copyStore copyPinned ⟨1⟩ := by decide +kernel
  have h₂ : Pins copyStore copyPinned ⟨2⟩ := by decide +kernel
  have h₃ : ¬ Pins copyStore copyPinned ⟨3⟩ := by decide +kernel
  rw [hr', hview]
  simp [Ty.fn, Ty.subst_con, h₁, h₂, h₃]

end LetPoly
