import LetPoly.Proofs.TwinRuns

/-!
# What is shown

The text of a type depends on its view and on what the variables in it are called, and on nothing
else. A variable without a label is called by the letter of its number's place among the numbers
that have been met.

* `Ty.text` — the text of a view
* `Store.called`, `Store.shownIn` — what a variable is called
* `Store.meets`, `Store.calledBy` — the same with the letters of any namer
* `showType_text`, `showNew_text` — showing writes the text of the view
* `nameVariables_labels` — naming stores what showing would write
-/

namespace LetPoly

open Store

/-! ## Texts -/

namespace Ty

mutual

/-- The text of a type whose variables are called by `name`. The bare type has none. -/
def text (name : Var → String) : Ty → String
  | .var v => name v
  | .con "->" [arg, result] =>
    (if arg.isFunction then "(" ++ arg.text name ++ ")" else arg.text name) ++ " -> "
      ++ result.text name
  | .con op [] => op
  | .con op args => op ++ "(" ++ ", ".intercalate (texts name args) ++ ")"
  | .bare => ""

/-- The texts of the types of a list. -/
def texts (name : Var → String) : List Ty → List String
  | [] => []
  | t :: ts => t.text name :: texts name ts

end

variable {name name' : Var → String} {op : String} {args : List Ty} {t : Ty}

theorem texts_eq_map (name : Var → String) (ts : List Ty) : texts name ts = ts.map (text name) := by
  induction ts with
  | nil => rfl
  | cons t ts ih => rw [texts, ih, List.map_cons]

@[simp] theorem text_var (name : Var → String) (v : Var) : (Ty.var v).text name = name v := rfl

theorem text_fn (name : Var → String) (arg result : Ty) :
    (Ty.fn arg result).text name =
      (if arg.isFunction then "(" ++ arg.text name ++ ")" else arg.text name) ++ " -> "
        ++ result.text name := rfl

theorem text_nil (name : Var → String) (op : String) : (Ty.con op []).text name = op := by
  unfold text
  split <;> simp_all

theorem text_con (hne : args ≠ []) (hfn : ¬ (op = "->" ∧ args.length = 2)) :
    (Ty.con op args).text name = op ++ "(" ++ ", ".intercalate (args.map (text name)) ++ ")" := by
  rw [← texts_eq_map]
  unfold text
  split
  · next h => exact nomatch h
  · next h =>
    obtain ⟨rfl, rfl⟩ := Ty.con.inj h
    exact absurd ⟨rfl, rfl⟩ hfn
  · next h =>
    obtain ⟨rfl, rfl⟩ := Ty.con.inj h
    exact absurd rfl hne
  · next h =>
    obtain ⟨rfl, rfl⟩ := Ty.con.inj h
    rfl
  · next h => exact nomatch h

/-- Only what the variables of the type are called counts. -/
theorem text_congr (h : ∀ v ∈ t.vars, name v = name' v) : t.text name = t.text name' := by
  induction t with
  | var v => exact h v (by simp)
  | bare => rfl
  | con op args ih =>
    have hargs : ∀ u ∈ args, u.text name = u.text name' := fun u hu =>
      ih u hu fun v hv => h v (mem_vars_con.mpr ⟨u, hu, hv⟩)
    by_cases hfn : op = "->" ∧ args.length = 2
    · obtain ⟨rfl, hlen⟩ := hfn
      obtain ⟨arg, result, rfl⟩ := List.length_eq_two.mp hlen
      show (Ty.fn arg result).text name = (Ty.fn arg result).text name'
      rw [text_fn, text_fn, hargs arg (by simp), hargs result (by simp)]
    · by_cases hne : args = []
      · rw [hne, text_nil, text_nil]
      · rw [text_con hne hfn, text_con hne hfn, List.map_inj_left.mpr hargs]

end Ty

/-! ## What variables are called -/

variable {s s₁ : Store} {vs : List Var} {v : Var} {t : Ty}

namespace Store

/-- The numbers of the variables that have no label. -/
def lettered (s : Store) (vs : List Var) : List Nat :=
  (vs.filter fun v => (s.label v).isNone).map s.idOf

/-- What a variable is called when the numbers `seen` have been met: its label, or else the letter
of its number's place in the order of first occurrences. -/
def called (s : Store) (seen : List Nat) (v : Var) : String :=
  (s.label v).getD (Namer.letter (seen.eraseDups.idxOf (s.idOf v)))

/-- What a variable is called when the type is shown with letters of its own. -/
def shownIn (s : Store) (t : Ty) (v : Var) : String := s.called (s.lettered (s.view t).vars) v

theorem lettered_append (s : Store) (vs ws : List Var) :
    s.lettered (vs ++ ws) = s.lettered vs ++ s.lettered ws := by
  simp [lettered]

theorem lettered_of_label {label : String} (hl : s.label v = some label) : s.lettered [v] = [] := by
  simp [lettered, hl]

theorem lettered_of_unlabelled (hl : s.label v = none) : s.lettered [v] = [s.idOf v] := by
  simp [lettered, hl]

theorem mem_lettered (hv : v ∈ vs) (hl : s.label v = none) : s.idOf v ∈ s.lettered vs :=
  List.mem_map_of_mem (List.mem_filter.mpr ⟨hv, by rw [hl]; rfl⟩)

theorem called_of_label {label : String} (hl : s.label v = some label) (seen : List Nat) :
    s.called seen v = label := by
  rw [called, hl]
  rfl

theorem called_of_unlabelled (hl : s.label v = none) (seen : List Nat) :
    s.called seen v = Namer.letter (seen.eraseDups.idxOf (s.idOf v)) := by
  rw [called, hl]
  rfl

end Store

namespace Namer

/-- The namer that has met the given numbers. -/
def after (seen : List Nat) : Namer := ⟨seen.eraseDups⟩

/-- The namer that has met one more number. -/
def meet (n : Namer) (i : Nat) : Namer := if i ∈ n.ids then n else ⟨n.ids ++ [i]⟩

/-- A letter is that of the place of the number, met before or not. -/
theorem letterFor_eq (n : Namer) (i : Nat) :
    n.letterFor i = (letter ((n.meet i).ids.idxOf i), n.meet i) := by
  unfold letterFor meet
  by_cases hi : i ∈ n.ids
  · obtain ⟨k, hk⟩ := Option.isSome_iff_exists.mp (List.isSome_idxOf?.mpr hi)
    rw [hk, if_pos hi, List.idxOf_eq_getD_idxOf?, hk]
    rfl
  · rw [List.idxOf?_eq_none_iff.mpr hi, if_neg hi, List.idxOf_append_of_notMem hi,
      List.idxOf_cons_self, Nat.add_zero]

theorem mem_ids_meet (n : Namer) (i : Nat) : i ∈ (n.meet i).ids := by
  unfold meet
  split <;> simp_all

/-- What has been met keeps its place. -/
theorem ids_prefix_meet (n : Namer) (i : Nat) : n.ids <+: (n.meet i).ids := by
  unfold meet
  split
  · exact List.prefix_rfl
  · exact List.prefix_append _ _

theorem meet_of_mem {n : Namer} {i : Nat} (hi : i ∈ n.ids) : n.meet i = n := if_pos hi

theorem meet_after (seen : List Nat) (i : Nat) : (after seen).meet i = after (seen ++ [i]) := by
  by_cases hi : i ∈ seen
  · have hmem : i ∈ (after seen).ids := List.mem_eraseDups.mpr hi
    rw [meet_of_mem hmem, after, after, eraseDups_concat_of_mem hi]
  · have hmem : i ∉ (after seen).ids := fun h => hi (List.mem_eraseDups.mp h)
    rw [meet, if_neg hmem, after, after, eraseDups_concat_of_not_mem hi]

end Namer

namespace Store

variable {n : Namer}

/-- The namer after variables have been met. -/
def meets (s : Store) (n : Namer) (vs : List Var) : Namer := (s.lettered vs).foldl Namer.meet n

/-- What a variable is called by a namer: its label, or else the letter of its number's place. -/
def calledBy (s : Store) (n : Namer) (v : Var) : String :=
  (s.label v).getD (Namer.letter (n.ids.idxOf (s.idOf v)))

theorem meets_append (s : Store) (n : Namer) (vs ws : List Var) :
    s.meets n (vs ++ ws) = s.meets (s.meets n vs) ws := by
  rw [meets, lettered_append, List.foldl_append]
  rfl

theorem meets_of_label {label : String} (hl : s.label v = some label) (n : Namer) :
    s.meets n [v] = n := by
  rw [meets, lettered_of_label hl]
  rfl

theorem meets_of_unlabelled (hl : s.label v = none) (n : Namer) :
    s.meets n [v] = n.meet (s.idOf v) := by
  rw [meets, lettered_of_unlabelled hl]
  rfl

theorem meets_after (s : Store) (seen : List Nat) (vs : List Var) :
    s.meets (.after seen) vs = .after (seen ++ s.lettered vs) := by
  unfold meets
  induction s.lettered vs generalizing seen with
  | nil => simp
  | cons i is ih =>
    rw [List.foldl_cons, Namer.meet_after, ih, List.append_assoc, List.singleton_append]

/-- A new namer calls variables by the letters of the order in which it meets them. -/
theorem calledBy_new (s : Store) (vs : List Var) (v : Var) :
    s.calledBy (s.meets {} vs) v = s.called (s.lettered vs) v := by
  have h := s.meets_after [] vs
  rw [List.nil_append] at h
  exact congrArg (s.calledBy · v) h

theorem ids_prefix_meets (s : Store) (n : Namer) (vs : List Var) :
    n.ids <+: (s.meets n vs).ids := by
  unfold meets
  induction s.lettered vs generalizing n with
  | nil => exact List.prefix_rfl
  | cons i is ih => exact (n.ids_prefix_meet i).trans (ih _)

theorem mem_ids_meets (hv : v ∈ vs) (hl : s.label v = none) (n : Namer) :
    s.idOf v ∈ (s.meets n vs).ids := by
  obtain ⟨before, after, rfl⟩ := List.append_of_mem hv
  rw [← List.singleton_append, meets_append, meets_append, meets_of_unlabelled hl]
  exact (ids_prefix_meets s _ after).subset (Namer.mem_ids_meet _ _)

theorem calledBy_of_label {label : String} (hl : s.label v = some label) (n : Namer) :
    s.calledBy n v = label := by
  rw [calledBy, hl]
  rfl

theorem calledBy_of_unlabelled (hl : s.label v = none) (n : Namer) :
    s.calledBy n v = Namer.letter (n.ids.idxOf (s.idOf v)) := by
  rw [calledBy, hl]
  rfl

/-- What is met later does not change what a variable is called. -/
theorem calledBy_meets (hv : v ∈ vs) (n : Namer) (ws : List Var) :
    s.calledBy (s.meets (s.meets n vs) ws) v = s.calledBy (s.meets n vs) v := by
  cases hl : s.label v with
  | some label => rw [calledBy_of_label hl, calledBy_of_label hl]
  | none =>
    obtain ⟨later, hids⟩ := ids_prefix_meets s (s.meets n vs) ws
    rw [calledBy_of_unlabelled hl, calledBy_of_unlabelled hl, ← hids,
      List.idxOf_append_of_mem (mem_ids_meets hv hl n)]

end Store

/-- The components of a type that has been found after looking and naming, seen from the store
before. -/
theorem Rights.Allows.view_con_before {r : Rights} (h : r.Allows s s₁) (hb : ∀ v, ¬ r.bind v)
    (hm : ¬ r.make) (hs : s.Valid) (ht : s.Holds t) {op : String} {args : List Ty}
    (hargs : ∀ u ∈ args, s₁.Holds u) (hv : s₁.view t = .con op (args.map s₁.view)) :
    (∀ u ∈ args, s.Holds u) ∧ s.view t = .con op (args.map s.view) := by
  have hargs' : ∀ u ∈ args, s.Holds u := fun u hu v hv => h.has_before hm (hargs u hu v hv)
  refine ⟨hargs', ?_⟩
  rw [← h.view_eq hb hs ht, hv]
  exact congrArg _ (List.map_inj_left.mpr fun u hu => h.view_eq hb hs (hargs' u hu))

/-! ## Showing -/

/-- From any store that looking at `s` has led to, the computation writes the text of `t`, with the
letters that follow those given so far. -/
def Shows (s : Store) (x : LabelM String) (t : Ty) : Prop :=
  ∀ s₁ n, Rights.look.Allows s s₁ → Ends x (s₁, n)
    (fun text p => Rights.look.Allows s p.1 ∧ p.2 = s.meets n t.vars ∧
      text = t.text (s.calledBy (s.meets n t.vars)))
    (fun _ _ => False)

theorem shows_labelOf (hv : s.Has v) : Shows s (labelOf v) (.var v) := by
  intro s₁ n h
  unfold labelOf
  rw [ends_modifyGet, Ty.vars_var, Ty.text_var]
  dsimp only
  rw [h.label_eq v fun hl => hl, h.idOf_eq v hv]
  cases hl : s.label v with
  | some label =>
    rw [meets_of_label hl]
    exact ⟨h, rfl, (calledBy_of_label hl n).symm⟩
  | none =>
    rw [meets_of_unlabelled hl, calledBy_of_unlabelled hl, Namer.letterFor_eq]
    exact ⟨h, rfl, rfl⟩

/-- Showing one type after the other writes their texts, with the same letters throughout. -/
theorem mapM_shows {x : Ty → LabelM String} : ∀ {ts : List Ty},
    (∀ t ∈ ts, Shows s (x t) (s.view t)) → ∀ s₁ n, Rights.look.Allows s s₁ →
    Ends (ts.mapM x) (s₁, n)
      (fun texts p => Rights.look.Allows s p.1 ∧
        p.2 = s.meets n (Ty.varsList (ts.map s.view)) ∧
        texts = (ts.map s.view).map
          (Ty.text (s.calledBy (s.meets n (Ty.varsList (ts.map s.view))))))
      (fun _ _ => False) := by
  intro ts
  induction ts with
  | nil =>
    intro _ s₁ n h
    rw [List.mapM_nil, ends_pure]
    exact ⟨h, rfl, rfl⟩
  | cons t ts ih =>
    intro hts s₁ n h
    obtain ⟨ht, hts⟩ := List.forall_mem_cons.mp hts
    simp only [List.mapM_cons, ends_bind, ends_pure, List.map_cons, Ty.varsList, meets_append]
    refine (ht s₁ n h).mono ?_ (fun _ _ h => h)
    rintro text ⟨s₂, _⟩ ⟨h₂, rfl, rfl⟩
    refine (ih hts s₂ _ h₂).mono ?_ (fun _ _ h => h)
    rintro texts ⟨s₃, _⟩ ⟨h₃, rfl, rfl⟩
    refine ⟨h₃, rfl, ?_⟩
    rw [Ty.text_congr fun v hv => (calledBy_meets hv n _).symm]

/-- Whether a type is shown as a function is seen from its representative. -/
theorem Store.Valid.isFunction_view (hs : s.Valid) (ht : s.Holds t) :
    (s.view t).isFunction = (s.find t).isFunction := by
  rcases hs.find_cases ht with ⟨v, hf, _, _, hv⟩ | ⟨op, args, hf, _, hv⟩ | ⟨hf, hv⟩
  · rw [hf, hv]
  · rw [hf, hv, isFunction_con, isFunction_con, List.length_map]
  · rw [hf, hv]

theorem shows_showFound (hs : s.Valid) {steps : Nat} {op : String} {args : List Ty}
    (hargs : ∀ u ∈ args, s.Holds u) (hparts : ∀ u ∈ args, Shows s (showTo steps u) (s.view u)) :
    Shows s (showFound steps (.con op args)) (.con op (args.map s.view)) := by
  intro s₁ n h
  by_cases hfn : op = "->" ∧ args.length = 2
  · obtain ⟨rfl, hlen⟩ := hfn
    obtain ⟨arg, result, rfl⟩ := List.length_eq_two.mp hlen
    have harg := hargs arg (by simp)
    show Ends (do
      let left ← showTo steps arg
      let left := if (← prune arg).isFunction then "(" ++ left ++ ")" else left
      let right ← showTo steps result
      return left ++ " -> " ++ right) _ _ _
    rw [ends_bind]
    refine (hparts arg (by simp) s₁ n h).mono ?_ (fun _ _ h => h)
    rintro left ⟨s₂, _⟩ ⟨h₂, rfl, rfl⟩
    -- the argument is looked at again for its parentheses
    have h₃ := h₂.trans (allows_shorten h₂.valid (h₂.holds harg))
    have hpar : (s₂.find arg).isFunction = (s.view arg).isFunction := by
      rw [← h₂.valid.isFunction_view (h₂.holds harg), h₂.view_eq (fun _ hb => hb) hs harg]
    rw [ends_bind, ends_lift, ends_prune, hpar, ends_bind]
    refine (hparts result (by simp) _ _ h₃).mono ?_ (fun _ _ h => h)
    rintro right ⟨s₄, _⟩ ⟨h₄, rfl, rfl⟩
    show _ ∧ _ ∧ _ = (Ty.fn (s.view arg) (s.view result)).text _
    have hvars : (Ty.con "->" ([arg, result].map s.view)).vars =
        (s.view arg).vars ++ (s.view result).vars := by
      simp [Ty.vars, Ty.varsList]
    rw [hvars, meets_append, Ty.text_fn]
    refine ⟨h₄, rfl, ?_⟩
    rw [Ty.text_congr (t := s.view arg) fun v hv => (calledBy_meets hv n _).symm]
  · by_cases hne : args = []
    · subst hne
      rw [showFound_nil, List.map_nil, Ty.text_nil]
      exact ⟨h, rfl, rfl⟩
    · rw [showFound_con hne hfn, ends_bind]
      refine (mapM_shows hparts s₁ n h).mono ?_ (fun _ _ h => h)
      rintro texts p ⟨h₂, hp, rfl⟩
      refine ⟨h₂, hp, ?_⟩
      rw [Ty.text_con (by simpa using hne) (by simpa using hfn)]
      rfl

theorem shows_showTo {steps : Nat} : ∀ {s : Store} {t : Ty}, s.Valid → s.Holds t →
    (s.view t).Plain → (s.view t).height < steps → Shows s (showTo steps t) (s.view t) := by
  induction steps with
  | zero => exact fun _ _ _ h => absurd h (Nat.not_lt_zero _)
  | succ steps ih =>
    intro s t hs ht hplain hsteps s₁ n h
    have ht₁ := h.holds ht
    have h₂ := h.trans (allows_shorten h.valid ht₁)
    have hview := h.view_eq (fun _ hb => hb) hs ht
    rw [showTo_succ, ends_bind, ends_lift, ends_prune]
    rcases h.valid.find_cases ht₁ with ⟨w, hf, hw, _, hv⟩ | ⟨op, args, hf, hargs, hv⟩ | ⟨hf, hv⟩
    · rw [hf, ← hview, hv]
      exact shows_labelOf (h.has_before (fun hm => hm) hw) _ n h₂
    · obtain ⟨hargs', hcon⟩ := h.view_con_before (fun _ hb => hb) (fun hm => hm) hs ht hargs hv
      rw [hcon, plain_con_view] at hplain
      rw [hcon] at hsteps
      rw [hf, hcon]
      refine shows_showFound hs hargs' (fun u hu => ?_) _ n h₂
      have hlt : (s.view u).height < (Ty.con op (args.map s.view)).height :=
        Ty.height_lt_of_mem (List.mem_map_of_mem hu)
      exact ih hs (hargs' u hu) (hplain u hu) (by omega)
    · rw [← hview, hv] at hplain
      exact absurd hplain Ty.not_plain_bare

theorem shows_showType (hs : s.Valid) (ht : s.Holds t) (hplain : (s.view t).Plain) :
    Shows s (showType t) (s.view t) := by
  intro s₁ n h
  unfold showType
  simp only [ends_bind, ends_lift, ends_stepsFor]
  have hlt := h.valid.height_view_lt_depthBound (h.holds ht) (List.mem_singleton.mpr rfl)
  rw [h.view_eq (fun _ hb => hb) hs ht] at hlt
  exact shows_showTo hs ht hplain hlt s₁ n h

/-- Showing a type writes the text of its view. -/
theorem showType_text (hs : s.Valid) (ht : s.Holds t) (hplain : (s.view t).Plain) (n : Namer) :
    Ends (showType t) (s, n)
      (fun text p => Rights.look.Allows s p.1 ∧ p.2 = s.meets n (s.view t).vars ∧
        text = (s.view t).text (s.calledBy (s.meets n (s.view t).vars)))
      (fun _ _ => False) :=
  shows_showType hs ht hplain s n (.refl hs)

/-- With letters of its own, a type is shown as its view is. -/
theorem showNew_text (hs : s.Valid) (ht : s.Holds t) (hplain : (s.view t).Plain) :
    Ends (showNew t) s
      (fun text s' => Rights.look.Allows s s' ∧ text = (s.view t).text (s.shownIn t))
      (fun _ _ => False) := by
  unfold showNew
  rw [ends_within]
  refine (showType_text hs ht hplain {}).mono ?_ (fun _ _ h => h)
  rintro text p ⟨h, _, rfl⟩
  exact ⟨h, Ty.text_congr fun v _ => s.calledBy_new _ v⟩

/-! ## Naming -/

/-- What naming has done when it has met the variables `vs`: they have the labels by which they are
called. -/
structure Labelled (s : Store) (n : Namer) (vs : List Var) (p : Store × Namer) : Prop where
  allows : (Rights.mark vs).Allows s p.1
  namer : p.2 = s.meets n vs
  label : ∀ v ∈ vs, p.1.label v = some (s.calledBy (s.meets n vs) v)

theorem labelled_nil (hs : s.Valid) (n : Namer) : Labelled s n [] (s, n) where
  allows := .refl hs
  namer := rfl
  label := nofun

variable {n : Namer} {p q : Store × Namer}

theorem Labelled.look (h : Labelled s n vs p) (h₁ : Rights.look.Allows p.1 s₁) :
    Labelled s n vs (s₁, p.2) where
  allows := h.allows.trans h₁.of_look
  namer := h.namer
  label v hv := by rw [h₁.label_eq v fun hl => hl, h.label v hv]

/-- One more variable has been met. -/
theorem Labelled.concat (h : Labelled s n vs p) (ha : (Rights.mark [v]).Allows p.1 q.1)
    (hkeep : ∀ w ∈ vs, q.1.label w = p.1.label w) (hn : q.2 = s.meets (s.meets n vs) [v])
    (hl : q.1.label v = some (s.calledBy (s.meets (s.meets n vs) [v]) v)) :
    Labelled s n (vs ++ [v]) q := by
  refine ⟨?_, s.meets_append n vs [v] ▸ hn, fun w hw => ?_⟩
  · refine (h.allows.mark_mono ?_).trans (ha.mark_mono ?_)
    · exact fun w hw => List.mem_append_left _ hw
    · exact fun w hw => List.mem_append_right _ hw
  · rw [meets_append]
    rcases List.mem_append.mp hw with hw | hw
    · rw [hkeep w hw, h.label w hw, calledBy_meets hw]
    · rwa [List.mem_singleton.mp hw]

/-- A variable that has a label already is passed over. -/
theorem Labelled.skip {label : String} (h : Labelled s n vs p)
    (hl : p.1.label v = some label) : Labelled s n (vs ++ [v]) p := by
  have hrefl : (Rights.mark [v]).Allows p.1 p.1 := .refl h.allows.valid
  by_cases hv : v ∈ vs
  · refine h.concat hrefl (fun _ _ => rfl) ?_ ?_
    · rw [h.namer]
      cases hs : s.label v with
      | some label => rw [meets_of_label hs]
      | none => rw [meets_of_unlabelled hs, Namer.meet_of_mem (mem_ids_meets hv hs n)]
    · rw [h.label v hv, calledBy_meets hv]
  · have hs : s.label v = some label := by rw [← h.allows.label_eq v hv, hl]
    refine h.concat hrefl (fun _ _ => rfl) ?_ ?_
    · rw [h.namer, meets_of_label hs]
    · rw [hl, calledBy_of_label hs]

/-- A variable that has no label gets its letter. -/
theorem Labelled.letter (h : Labelled s n vs p) (hv : s.Has v) (hl : p.1.label v = none) :
    Ends (labelOf v) p (fun label q => Labelled s n (vs ++ [v]) (q.1.setLabel v label, q.2))
      (fun _ _ => False) := by
  have hnew : v ∉ vs := by
    intro hmem
    rw [h.label v hmem] at hl
    exact nomatch hl
  have hs : s.label v = none := by rw [← h.allows.label_eq v hnew, hl]
  unfold labelOf
  rw [ends_modifyGet]
  dsimp only
  rw [hl, h.namer, h.allows.idOf_eq v hv, Namer.letterFor_eq]
  dsimp only
  refine h.concat (allows_setLabel h.allows.valid (h.allows.has hv) _) (fun w hw => ?_) ?_ ?_
  · have hne : w ≠ v := fun heq => hnew (heq ▸ hw)
    rw [label_setLabel (h.allows.has hv), if_neg hne]
  · rw [meets_of_unlabelled hs]
  · rw [label_setLabel (h.allows.has hv), if_pos rfl, meets_of_unlabelled hs,
      calledBy_of_unlabelled hs]

/-- Naming one type after the other names the variables of all. -/
theorem forM_labels {x : Ty → LabelM Unit} : ∀ {ts : List Ty},
    (∀ t ∈ ts, ∀ vs p, Labelled s n vs p →
      Ends (x t) p (fun _ q => Labelled s n (vs ++ (s.view t).vars) q) (fun _ _ => False)) →
    ∀ vs p, Labelled s n vs p →
      Ends (ts.forM x) p (fun _ q => Labelled s n (vs ++ Ty.varsList (ts.map s.view)) q)
        (fun _ _ => False) := by
  intro ts
  induction ts with
  | nil =>
    intro _ vs p h
    rw [List.map_nil, Ty.varsList, List.append_nil]
    exact h
  | cons t ts ih =>
    intro hts vs p h
    obtain ⟨ht, hts⟩ := List.forall_mem_cons.mp hts
    show Ends (x t >>= fun _ => ts.forM x) p _ _
    rw [ends_bind, List.map_cons, Ty.varsList, ← List.append_assoc]
    exact (ht vs p h).mono (fun _ q hq => ih hts _ q hq) (fun _ _ h => h)

theorem nameTo_labels (hs : s.Valid) {steps : Nat} : ∀ {t : Ty}, s.Holds t →
    (s.view t).height < steps → ∀ vs p, Labelled s n vs p →
    Ends (nameTo steps t) p (fun _ q => Labelled s n (vs ++ (s.view t).vars) q)
      (fun _ _ => False) := by
  induction steps with
  | zero => exact fun _ h => absurd h (Nat.not_lt_zero _)
  | succ steps ih =>
    rintro t ht hsteps vs ⟨s₁, namer⟩ h
    have ha : (Rights.mark vs).Allows s s₁ := h.allows
    have ht₁ := ha.holds ht
    have h₂ : Labelled s n vs (s₁.shorten t, namer) := h.look (allows_shorten ha.valid ht₁)
    have hview := ha.view_eq (fun _ hb => hb) hs ht
    unfold nameTo
    rw [ends_bind, ends_lift, ends_prune]
    rcases ha.valid.find_cases ht₁ with ⟨w, hf, hw, _, hv⟩ | ⟨op, args, hf, hargs, hv⟩ | ⟨hf, hv⟩
    · rw [hf, ← hview, hv, Ty.vars_var]
      have hw : s.Has w := ha.has_before (fun hm => hm) hw
      simp only [ends_bind, ends_get]
      cases hl : (s₁.shorten t).label w with
      | some label => exact h₂.skip hl
      | none =>
        rw [if_pos Option.isNone_none, ends_bind]
        exact (h₂.letter hw hl).mono (fun _ _ hq => hq) (fun _ _ h => h)
    · obtain ⟨hargs', hcon⟩ := ha.view_con_before (fun _ hb => hb) (fun hm => hm) hs ht hargs hv
      rw [hcon] at hsteps
      rw [hf, hcon]
      refine forM_labels (fun u hu => ih (hargs' u hu) ?_) vs _ h₂
      have hlt : (s.view u).height < (Ty.con op (args.map s.view)).height :=
        Ty.height_lt_of_mem (List.mem_map_of_mem hu)
      omega
    · rw [hf, ← hview, hv, Ty.vars, List.append_nil]
      exact h₂

/-- Naming stores for each variable of the view what showing would call it. -/
theorem nameVariables_labels (hs : s.Valid) (ht : s.Holds t) (n : Namer) :
    Ends (nameVariables t) (s, n)
      (fun r p => r = s.find t ∧ Labelled s n (s.view t).vars p) (fun _ _ => False) := by
  have hshort := allows_shorten hs ht
  have hfind := (hs.find_spec ht).1
  unfold nameVariables
  simp only [ends_bind, ends_lift, ends_prune, ends_stepsFor, ends_pure]
  have hlt := hshort.valid.height_view_lt_depthBound (hshort.holds hfind)
    (List.mem_singleton.mpr rfl)
  rw [hshort.view_eq (fun _ hb => hb) hs hfind] at hlt
  refine (nameTo_labels hs hfind hlt [] _ ((labelled_nil hs n).look hshort)).mono ?_
    (fun _ _ h => h)
  intro _ p hp
  rw [hs.view_find ht] at hp
  exact ⟨trivial, hp⟩

end LetPoly
