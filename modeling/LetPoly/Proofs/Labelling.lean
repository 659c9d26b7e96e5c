import LetPoly.Proofs.RoundTrip
import LetPoly.Proofs.Sessions

/-!
# Labels that are stored

Once the variables of a type have labels, all its parts are shown with these labels, whatever the
namer and whatever is shown or named before. A namer gives out its letters without a look at the
labels that are stored, so a letter may be the same as a label, and different variables are shown
alike.

* `Part` — the types that are met on the way into a type
* `Request.mapM_run_ends` — labelled types are shown and named in any order
* `Namer.firstLetters` — the sequence of letters, one alphabet after the other
* `labels_settled` — storing labels does not change what is shown
* `calledApart_iff` — when different variables are called differently
* `renderings_apart_iff` — what types and the failures of unification are shown with
-/

namespace LetPoly

open Store

variable {s s₁ : Store} {t u : Ty} {v : Var} {vs : List Var} {n : Namer}

/-! ## Parts of types -/

/-- The types that are met on the way into a type, through bindings and operators. -/
inductive Part (s : Store) (t : Ty) : Ty → Prop
  | self : Part s t t
  | bound {v : Var} {u : Ty} : Part s t (.var v) → s.binding v = some u → Part s t u
  | arg {op : String} {args : List Ty} {u : Ty} : Part s t (.con op args) → u ∈ args → Part s t u

theorem Part.holds (h : Part s t u) (hs : s.Valid) (ht : s.Holds t) : s.Holds u := by
  induction h with
  | self => exact ht
  | bound _ hb _ => exact hs.holds_binding hb
  | arg _ hu ih => exact holds_con.mp ih _ hu

/-- The variables of a part are variables of the type. -/
theorem Part.mem_vars (h : Part s t u) (hs : s.Valid) (ht : s.Holds t) :
    ∀ v ∈ (s.view u).vars, v ∈ (s.view t).vars := by
  induction h with
  | self => exact fun _ hv => hv
  | bound _ hb ih =>
    rw [hs.view_var_of_binding hb] at ih
    exact ih
  | arg h hu ih =>
    intro v hv
    refine ih v ?_
    rw [hs.view_con (h.holds hs ht), mem_vars_con_view]
    exact ⟨_, hu, hv⟩

theorem Part.plain (h : Part s t u) (hs : s.Valid) (ht : s.Holds t) (hplain : (s.view t).Plain) :
    (s.view u).Plain := by
  induction h with
  | self => exact hplain
  | bound _ hb ih => rwa [hs.view_var_of_binding hb] at ih
  | arg h hu ih =>
    rw [hs.view_con (h.holds hs ht), plain_con_view] at ih
    exact ih _ hu

/-! ## Labelled types -/

/-- Labelling that changes no label is looking. -/
theorem Rights.Allows.look_of_label_eq (h : (Rights.mark vs).Allows s s₁)
    (hl : ∀ v, s₁.label v = s.label v) : Rights.look.Allows s s₁ :=
  { h with label_eq := fun v _ => hl v }

/-- Showing a type or storing labels for its variables, each time with some namer. -/
inductive Request where
  | print (t : Ty) (namer : Namer)
  | label (t : Ty) (namer : Namer)

namespace Request

/-- The type that is shown or whose variables are named. -/
def type : Request → Ty
  | .print t _ | .label t _ => t

/-- The text of the type, if it is to be shown. -/
def run : Request → StoreM (Option String)
  | .print t namer => return some (← StoreWithM.within namer (showType t))
  | .label t namer => do
    let _ ← StoreWithM.within namer (nameVariables t)
    return none

/-- What is answered if variables are called by `name`. -/
def answer (s : Store) (name : Var → String) : Request → Option String
  | .print t _ => some ((s.view t).text name)
  | .label .. => none

theorem answer_congr (r : Request) {name : Var → String} (h : s₁.view r.type = s.view r.type) :
    r.answer s₁ name = r.answer s name := by
  cases r with
  | print t n => exact congrArg (fun u : Ty => some (u.text name)) h
  | label t n => rfl

/-- A type whose variables have labels is shown with them, and they are kept. -/
theorem run_ends (r : Request) {name : Var → String} (hs : s.Valid) (ht : s.Holds r.type)
    (hplain : (s.view r.type).Plain)
    (hname : ∀ v ∈ (s.view r.type).vars, s.label v = some (name v)) :
    Ends r.run s (fun a s₁ => Rights.look.Allows s s₁ ∧ a = r.answer s name)
      (fun _ _ => False) := by
  cases r with
  | print t n =>
    unfold run
    rw [ends_bind, ends_within]
    refine (showType_text hs ht hplain n).mono ?_ (fun _ _ h => h)
    rintro text p ⟨h, _, rfl⟩
    refine ⟨h, congrArg some (Ty.text_congr fun v hv => ?_)⟩
    exact calledBy_of_label (hname v hv) _
  | label t n =>
    unfold run
    rw [ends_bind, ends_within]
    refine (nameVariables_labels hs ht n).mono ?_ (fun _ _ h => h)
    rintro _ p ⟨_, hp⟩
    refine ⟨hp.allows.look_of_label_eq fun v => ?_, rfl⟩
    by_cases hv : v ∈ (s.view t).vars
    · rw [hp.label v hv, hname v hv, calledBy_of_label (hname v hv)]
    · exact hp.allows.label_eq v hv

/-- Requests may follow each other in any order. -/
theorem mapM_run_ends {requests : List Request} {name : Var → String} (hs : s.Valid)
    (h : ∀ r ∈ requests, s.Holds r.type ∧ (s.view r.type).Plain ∧
      ∀ v ∈ (s.view r.type).vars, s.label v = some (name v)) :
    Ends (requests.mapM run) s
      (fun answers s₁ => Rights.look.Allows s s₁ ∧ answers = requests.map (answer s name))
      (fun _ _ => False) := by
  refine (Ends.mapM (I := Rights.look.Allows s) (R := fun r a _ => a = r.answer s name)
    (fun r hr s₁ h₁ => ?_) (.refl hs)).mono ?_ (fun _ _ h => h)
  · obtain ⟨ht, hplain, hname⟩ := h r hr
    have hview : s₁.view r.type = s.view r.type := h₁.view_eq (fun _ hb => hb) hs ht
    have hname₁ : ∀ v ∈ (s₁.view r.type).vars, s₁.label v = some (name v) := by
      intro v hv
      rw [hview] at hv
      rw [h₁.label_eq v fun hl => hl, hname v hv]
    refine (r.run_ends h₁.valid (h₁.holds ht) (hview ▸ hplain) hname₁).mono ?_ (fun _ _ h => h)
    rintro a s₂ ⟨h₂, rfl⟩
    exact ⟨h₁.trans h₂, r.answer_congr hview, fun _ _ h => h⟩
  · rintro answers s₁ ⟨h₁, hall, _⟩
    have hmap : List.Forall₂ (· = ·) (requests.map (answer s name)) answers :=
      List.forall₂_map_left_iff.mpr (hall.imp fun _ _ h => h.symm)
    rw [List.forall₂_eq_eq_eq] at hmap
    exact ⟨h₁, hmap.symm⟩

end Request

/-! ## The sequence of letters -/

namespace Namer

/-- The letters of one round: the alphabet, with the number of the round except in the first. -/
def round (r : Nat) : List String :=
  "abcdefghijklmnopqrstuvwxyz".toList.map fun c =>
    String.singleton c ++ if r = 0 then "" else toString r

/-- The first `k` letters, one round after the other. -/
def firstLetters (k : Nat) : List String := ((List.range k).flatMap round).take k

theorem round_eq (r : Nat) : round r = (List.range 26).map fun i => letter (26 * r + i) := by
  have halphabet : "abcdefghijklmnopqrstuvwxyz".toList =
      (List.range 26).map fun i => Char.ofNat (97 + i) := by decide +kernel
  unfold round
  rw [halphabet, List.map_map]
  refine List.map_inj_left.mpr fun i hi => ?_
  have hlt := List.mem_range.mp hi
  have hmod : (26 * r + i) % 26 = i := by omega
  have hdiv : (26 * r + i) / 26 = r := by omega
  rw [Function.comp_apply, letter, hmod, hdiv]

theorem flatMap_round (n : Nat) :
    (List.range n).flatMap round = (List.range (26 * n)).map letter := by
  induction n with
  | zero => rfl
  | succ n ih =>
    have hrange : List.range (26 * (n + 1)) =
        List.range (26 * n) ++ (List.range 26).map (26 * n + ·) := by
      rw [Nat.mul_succ, List.range_add]
    rw [List.range_succ, List.flatMap_append, ih, List.flatMap_singleton, round_eq, hrange,
      List.map_append, List.map_map]
    rfl

theorem firstLetters_eq (k : Nat) : firstLetters k = (List.range k).map letter := by
  have hmin : min k (26 * k) = k := by omega
  rw [firstLetters, flatMap_round, ← List.map_take, List.take_range, hmin]

theorem nodup_firstLetters (k : Nat) : (firstLetters k).Nodup := by
  rw [firstLetters_eq]
  exact List.nodup_range.map letter_injective

theorem mem_firstLetters {x : String} {k : Nat} : x ∈ firstLetters k ↔ ∃ i < k, x = letter i := by
  simp [firstLetters_eq, eq_comm]

end Namer

/-- Variables without labels that have different numbers are called by the first letters, in the
order of first occurrences. -/
theorem map_called {vs : List Var} (hl : ∀ v ∈ vs, s.label v = none)
    (hid : ∀ v ∈ vs, ∀ w ∈ vs, s.idOf v = s.idOf w → v = w) :
    vs.eraseDups.map (s.called (s.lettered vs)) = Namer.firstLetters vs.eraseDups.length := by
  have hlettered : s.lettered vs = vs.map s.idOf := by
    rw [lettered, List.filter_eq_self.mpr]
    intro v hv
    rw [hl v hv]
    rfl
  -- a variable and its number have the same place
  have hids : (s.lettered vs).eraseDups = vs.eraseDups.map s.idOf := by
    have hplace : List.Forall₂ (fun v i => v ∈ vs ∧ i = s.idOf v) vs.eraseDups
        (vs.map s.idOf).eraseDups := by
      refine forall₂_eraseDups ?_ _ (Nat.le_refl _) ?_
      · rintro v _ w _ ⟨hv, rfl⟩ ⟨hw, rfl⟩
        exact ⟨congrArg _, hid v hv w hw⟩
      · exact List.forall₂_map_right_iff.mpr (List.forall₂_same.mpr fun v hv => ⟨hv, rfl⟩)
    have hmap := List.forall₂_map_left_iff.mpr (hplace.imp fun _ _ h => h.2.symm)
    rw [List.forall₂_eq_eq_eq] at hmap
    rw [hlettered, ← hmap]
  rw [Namer.firstLetters_eq]
  refine List.ext_getElem (by simp) fun i hi _ => ?_
  rw [List.length_map] at hi
  have hnone := hl _ (List.mem_eraseDups.mp (List.getElem_mem hi))
  have hidx : (s.lettered vs).eraseDups.idxOf (s.idOf vs.eraseDups[i]) = i := by
    have hlt : i < (vs.eraseDups.map s.idOf).length := by rwa [List.length_map]
    have hnodup := nodup_eraseDups (s.lettered vs)
    rw [hids] at hnodup ⊢
    have hget := hnodup.idxOf_getElem i hlt
    rwa [List.getElem_map] at hget
  rw [List.getElem_map, List.getElem_map, List.getElem_range, called_of_unlabelled hnone, hidx]

/-- Inference labels the variables of its result with the first letters. -/
theorem infer_firstLetters {env : Env} (e : Term) (hset : Setting s env []) (hn : s.Numbered) :
    Ends (infer e (some env)) s
      (fun t s' => (s'.freeVars t).map s'.label =
        (Namer.firstLetters (s'.freeVars t).length).map some)
      (fun _ _ => True) := by
  rw [infer_some, ends_bind]
  refine (analyse_ends e hset).mono ?_ (fun _ _ _ => trivial)
  intro t s₁ ht
  have hs₁ := ht.allows.valid
  have hn₁ := ht.allows.numbered (fun h => h) hn
  rw [ends_within]
  refine (nameVariables_labels hs₁ ht.holds {}).mono ?_ (fun _ _ h => h.elim)
  rintro _ p ⟨rfl, hp⟩
  have hview : p.1.view (s₁.find t) = s₁.view t := by
    rw [hp.allows.view_eq (fun _ hb => hb) hs₁ (hs₁.find_spec ht.holds).1, hs₁.view_find ht.holds]
  have hhas := hs₁.holds_view ht.holds
  have hcalled := map_called ht.vars_new.2 fun v hv w hw hid =>
    hn₁.idOf_inj v w (hhas v hv) (hhas w hw) hid
  unfold freeVars
  rw [hview, ← hcalled, List.map_map]
  refine List.map_inj_left.mpr fun v hv => ?_
  rw [hp.label v (List.mem_eraseDups.mp hv), calledBy_new]
  rfl

/-! ## What is shown does not change -/

/-- Looking does not change what variables are called. -/
theorem Rights.Allows.shownIn_eq (h : Rights.look.Allows s s₁) (hs : s.Valid) (ht : s.Holds t)
    (hv : v ∈ (s.view t).vars) : s₁.shownIn t v = s.shownIn t v := by
  have hhas := hs.holds_view ht
  have hlabel : ∀ w, s₁.label w = s.label w := fun w => h.label_eq w fun hl => hl
  have hlettered : s₁.lettered (s.view t).vars = s.lettered (s.view t).vars := by
    unfold lettered
    rw [List.filter_congr fun w _ => by rw [hlabel w]]
    exact List.map_inj_left.mpr fun w hw => h.idOf_eq w (hhas w (List.mem_filter.mp hw).1)
  unfold shownIn
  rw [h.view_eq (fun _ hb => hb) hs ht, hlettered, called, called, hlabel, h.idOf_eq v (hhas v hv)]

/-- A new namer shows the type. Once labels have been stored for its variables, it is shown by the
same text with any namer, its parts are shown with the same labels, and storing labels again changes
none; and all this in any order. -/
def Settles (s : Store) (t : Ty) : Prop :=
  ∃ text s₀ r s₁ n₁, showNew t s = .ok text s₀ ∧ nameVariables t (s₀, {}) = .ok r (s₁, n₁) ∧
    text = (s.view t).text (s.shownIn t) ∧
    ∀ requests : List Request, (∀ r ∈ requests, Part s t r.type ∨ Part s₁ t r.type) →
      ∃ s₂, requests.mapM Request.run s₁ =
          .ok (requests.map (Request.answer s (s.shownIn t))) s₂ ∧
        ∀ v, s₂.label v = s₁.label v

theorem settles_of_plain (hs : s.Valid) (ht : s.Holds t) (hplain : (s.view t).Plain) :
    Settles s t := by
  obtain ⟨text, s₀, hshow, h₀, htext⟩ := (showNew_text hs ht hplain).exists_ok
  obtain ⟨r, ⟨s₁, n₁⟩, hname, _, hlabelled⟩ :=
    (nameVariables_labels h₀.valid (h₀.holds ht) {}).exists_ok
  have h₁ : (Rights.mark (s₀.view t).vars).Allows s₀ s₁ := hlabelled.allows
  have hview : ∀ {u}, s.Holds u → s₁.view u = s.view u := fun hu => by
    rw [h₁.view_eq (fun _ hb => hb) h₀.valid (h₀.holds hu), h₀.view_eq (fun _ hb => hb) hs hu]
  -- what is stored is what was shown
  have hlabel : ∀ v ∈ (s.view t).vars, s₁.label v = some (s.shownIn t v) := by
    intro v hv
    have hv₀ := hv
    rw [← h₀.view_eq (fun _ hb => hb) hs ht] at hv₀
    rw [← h₀.shownIn_eq hs ht hv, hlabelled.label v hv₀, calledBy_new]
    rfl
  -- parts before and after naming
  have hpart : ∀ {u}, Part s t u ∨ Part s₁ t u →
      s.Holds u ∧ (s₁.view u).Plain ∧ ∀ v ∈ (s₁.view u).vars, v ∈ (s.view t).vars := by
    rintro u (hu | hu)
    · have hholds := hu.holds hs ht
      rw [hview hholds]
      exact ⟨hholds, hu.plain hs ht hplain, hu.mem_vars hs ht⟩
    · have ht₁ := h₁.holds (h₀.holds ht)
      refine ⟨fun v hv => ?_, hu.plain h₁.valid ht₁ (hview ht ▸ hplain),
        hview ht ▸ hu.mem_vars h₁.valid ht₁⟩
      exact h₀.has_before (fun hm => hm) (h₁.has_before (fun hm => hm) (hu.holds h₁.valid ht₁ v hv))
  refine ⟨text, s₀, r, s₁, n₁, hshow, hname, htext, fun requests hparts => ?_⟩
  have hall : ∀ r ∈ requests, s₁.Holds r.type ∧ (s₁.view r.type).Plain ∧
      ∀ v ∈ (s₁.view r.type).vars, s₁.label v = some (s.shownIn t v) := by
    intro r hr
    obtain ⟨hholds, hplain₁, hvars⟩ := hpart (hparts r hr)
    exact ⟨h₁.holds (h₀.holds hholds), hplain₁, fun v hv => hlabel v (hvars v hv)⟩
  obtain ⟨_, s₂, hrun, h₂, rfl⟩ := (Request.mapM_run_ends h₁.valid hall).exists_ok
  refine ⟨s₂, ?_, fun v => h₂.label_eq v fun hl => hl⟩
  rw [hrun, List.map_inj_left.mpr fun r hr => ?_]
  exact r.answer_congr (hview (hpart (hparts r hr)).1)

/-- Storing labels does not change what is shown, whatever labels have been stored before. Inference
stores the first letters for the variables of its result, in the order of first occurrences. -/
theorem labels_settled (hs : s.Valid) :
    (∀ t, s.Holds t → (s.view t).Plain → Settles s t) ∧
    (s.Numbered → ∀ (e : Term) (env : Option Env) (t : Ty) (s' : Store),
      (∀ Γ ∈ env, ∀ x u, Γ.lookup x = some u → s.Holds u) → infer e env s = .ok t s' →
        (s'.freeVars t).map s'.label = (Namer.firstLetters (s'.freeVars t).length).map some ∧
          ((s'.freeVars t).map s'.label).Nodup) := by
  refine ⟨fun t ht hplain => settles_of_plain hs ht hplain, fun hn e env t s' henv h => ?_⟩
  have hletters : (s'.freeVars t).map s'.label =
      (Namer.firstLetters (s'.freeVars t).length).map some := by
    cases env with
    | some Γ => exact (infer_firstLetters e ⟨hs, henv Γ rfl, nofun⟩ hn).of_ok h
    | none =>
      -- without an environment, inference makes the prelude first
      have h : (Env.prelude >>= fun Γ => infer e (some Γ)) s = .ok t s' := h
      obtain ⟨Γ, s₁, hprelude, h⟩ := bind_ok_iff.mp h
      obtain ⟨hgrow, hheld⟩ := (prelude_ends hs).of_ok hprelude
      have hn₁ := hgrow.numbered (fun h => h) hn
      exact (infer_firstLetters e ⟨hgrow.valid, hheld.lookup, nofun⟩ hn₁).of_ok h
  refine ⟨hletters, ?_⟩
  rw [hletters]
  exact (Namer.nodup_firstLetters _).map (Option.some_injective _)

/-- Two variables, the second with the label that is also the letter of the first. -/
def mixedStore : Store := (Store.blank 2).setLabel ⟨1⟩ "a"

theorem mixedStore_allows : (Rights.mark [⟨1⟩]).Allows (Store.blank 2) mixedStore :=
  allows_setLabel (allows_blank 2).valid (by decide) "a"

theorem labels_settled_mixed :
    (mixedStore.Holds pairing ∧ (mixedStore.view pairing).Plain ∧ Settles mixedStore pairing) ∧
    ∃ t s', infer double none mixedStore = .ok t s' ∧
      (s'.freeVars t).map s'.label = (Namer.firstLetters (s'.freeVars t).length).map some := by
  have hholds : mixedStore.Holds pairing := by decide
  have hview : mixedStore.view pairing = pairing := by
    rw [mixedStore_allows.view_eq (fun _ hb => hb) (allows_blank 2).valid (by decide),
      view_blank (by decide)]
  have hplain : (mixedStore.view pairing).Plain := hview ▸ writable_pairing.plain
  have hn : mixedStore.Numbered :=
    mixedStore_allows.numbered (fun h => h) ((allows_blank 2).numbered (fun h => h) numbered_empty)
  obtain ⟨hsettles, hletters⟩ := labels_settled mixedStore_allows.valid
  refine ⟨⟨hholds, hplain, hsettles pairing hholds hplain⟩, ?_⟩
  obtain ⟨t, s', h, _⟩ := exists_ok_of_test (x := infer double none) (s := mixedStore)
    (p := fun _ _ => true) (by decide +kernel)
  exact ⟨t, s', h, (hletters hn double none t s' nofun h).1⟩

/-! ## Variables that are called alike -/

/-- What variables are called when a new namer meets them in the given order. -/
def Store.naming (s : Store) (vs : List Var) : Var → String := s.called (s.lettered vs)

/-- Different variables are called differently. -/
def CalledApart (s : Store) (vs : List Var) : Prop :=
  ∀ v ∈ vs, ∀ w ∈ vs, s.naming vs v = s.naming vs w → v = w

/-- What keeps the names of variables apart: variables without labels have different numbers, labels
are different, and no label is one of the letters that are given out. -/
structure NamesApart (s : Store) (vs : List Var) : Prop where
  numbers : ∀ v ∈ vs, ∀ w ∈ vs, s.label v = none → s.label w = none → s.idOf v = s.idOf w → v = w
  labels : ∀ v ∈ vs, ∀ w ∈ vs, s.label v ≠ none → s.label v = s.label w → v = w
  letters : ∀ v ∈ vs, ∀ x ∈ s.label v,
    x ∉ Namer.firstLetters (s.lettered vs).eraseDups.length

theorem idxOf_lettered_lt (hv : v ∈ vs) (hl : s.label v = none) :
    (s.lettered vs).eraseDups.idxOf (s.idOf v) < (s.lettered vs).eraseDups.length :=
  List.idxOf_lt_length_of_mem (List.mem_eraseDups.mpr (mem_lettered hv hl))

/-- Each letter that is given out is what some variable without a label is called. -/
theorem exists_called_letter {i : Nat} (hi : i < (s.lettered vs).eraseDups.length) :
    ∃ v ∈ vs, s.label v = none ∧ s.naming vs v = Namer.letter i := by
  have hmem : (s.lettered vs).eraseDups[i] ∈ s.lettered vs :=
    List.mem_eraseDups.mp (List.getElem_mem hi)
  obtain ⟨v, hv, hid⟩ := List.mem_map.mp hmem
  obtain ⟨hv, hl⟩ := List.mem_filter.mp hv
  have hl := Option.isNone_iff_eq_none.mp hl
  refine ⟨v, hv, hl, ?_⟩
  rw [naming, called_of_unlabelled hl, hid, (nodup_eraseDups _).idxOf_getElem i hi]

/-- Different variables are called differently exactly if neither numbers nor labels nor letters
meet. -/
theorem calledApart_iff : CalledApart s vs ↔ NamesApart s vs := by
  constructor
  · intro h
    refine ⟨fun v hv w hw hlv hlw hid => ?_, fun v hv w hw hne hl => ?_, fun v hv x hx hmem => ?_⟩
    · refine h v hv w hw ?_
      rw [naming, called_of_unlabelled hlv, called_of_unlabelled hlw, hid]
    · obtain ⟨x, hx⟩ := Option.ne_none_iff_exists'.mp hne
      refine h v hv w hw ?_
      rw [naming, called_of_label hx, called_of_label (hl ▸ hx)]
    · obtain ⟨i, hi, rfl⟩ := Namer.mem_firstLetters.mp hmem
      obtain ⟨w, hw, hlw, hcalled⟩ := exists_called_letter hi
      have heq : v = w := h v hv w hw (by rw [hcalled, naming, called_of_label hx])
      rw [← heq, hx] at hlw
      cases hlw
  · intro h v hv w hw hcalled
    -- a label is no letter, so both variables have one or none has
    have hletter : ∀ {v w}, v ∈ vs → w ∈ vs → ∀ {x}, s.label v = some x → s.label w = none →
        s.naming vs v ≠ s.naming vs w := by
      intro v w hv hw x hx hlw heq
      rw [naming, called_of_label hx, called_of_unlabelled hlw] at heq
      exact h.letters v hv x hx (Namer.mem_firstLetters.mpr ⟨_, idxOf_lettered_lt hw hlw, heq⟩)
    cases hlv : s.label v with
    | none =>
      cases hlw : s.label w with
      | none =>
        rw [naming, called_of_unlabelled hlv, called_of_unlabelled hlw] at hcalled
        refine h.numbers v hv w hw hlv hlw ?_
        have hmem := List.mem_eraseDups.mpr (mem_lettered hv hlv)
        exact (List.idxOf_inj hmem).mp (Namer.letter_injective hcalled)
      | some y => exact absurd hcalled.symm (hletter hw hv hlw hlv)
    | some x =>
      cases hlw : s.label w with
      | none => exact absurd hcalled (hletter hv hw hlv hlw)
      | some y =>
        rw [naming, called_of_label hlv, called_of_label hlw] at hcalled
        refine h.labels v hv w hw ?_ ?_
        · rw [hlv]
          exact Option.some_ne_none x
        · rw [hlv, hlw, hcalled]

/-! ## Failures of unification -/

/-- The texts of two types, with one naming of the variables of both. -/
def Store.textsOf (s : Store) (t u : Ty) : String × String :=
  let name := s.naming ((s.view t).vars ++ (s.view u).vars)
  ((s.view t).text name, (s.view u).text name)

/-- Two types that are shown with one namer are shown with one naming of the variables of both. -/
theorem showBoth_text (hs : s.Valid) (ht : s.Holds t) (hu : s.Holds u) (hpt : (s.view t).Plain)
    (hpu : (s.view u).Plain) :
    Ends (do let left ← showType t; let right ← showType u; return (left, right) : LabelM _)
      (s, {}) (fun texts _ => texts = s.textsOf t u) (fun _ _ => False) := by
  simp only [ends_bind, ends_pure]
  refine (shows_showType hs ht hpt s {} (.refl hs)).mono ?_ (fun _ _ h => h)
  rintro left ⟨s₁, _⟩ ⟨h₁, rfl, rfl⟩
  refine (shows_showType hs hu hpu s₁ _ h₁).mono ?_ (fun _ _ h => h)
  rintro right ⟨s₂, _⟩ ⟨_, _, rfl⟩
  refine Prod.ext (Ty.text_congr fun v hv => ?_) (Ty.text_congr fun v _ => ?_)
  · rw [naming, ← calledBy_new, meets_append, calledBy_meets hv]
  · rw [naming, ← calledBy_new, meets_append]

theorem throwMismatch_text {α : Type} (hs : s.Valid) (ht : s.Holds t) (hu : s.Holds u)
    (hpt : (s.view t).Plain) (hpu : (s.view u).Plain) :
    ∃ s', (throwMismatch t u : StoreM α) s =
      .error (.mismatch (s.textsOf t u).1 (s.textsOf t u).2) s' := by
  have hends : Ends (throwMismatch t u : StoreM α) s (fun _ _ => False)
      (fun e _ => e = .mismatch (s.textsOf t u).1 (s.textsOf t u).2) := by
    unfold throwMismatch
    rw [ends_bind, ends_within]
    refine (showBoth_text hs ht hu hpt hpu).mono ?_ (fun _ _ h => h.elim)
    rintro _ p rfl
    rfl
  obtain ⟨_, s', herror, rfl⟩ := hends.exists_error
  exact ⟨s', herror⟩

theorem throwRecursive_text {α : Type} (hs : s.Valid) (hv : s.Has v) (ht : s.Holds t)
    (hpv : (s.view (.var v)).Plain) (hpt : (s.view t).Plain) :
    ∃ s', (throwRecursive v t : StoreM α) s =
      .error (.recursive (s.textsOf (.var v) t).1 (s.textsOf (.var v) t).2) s' := by
  have hends : Ends (throwRecursive v t : StoreM α) s (fun _ _ => False)
      (fun e _ => e = .recursive (s.textsOf (.var v) t).1 (s.textsOf (.var v) t).2) := by
    unfold throwRecursive
    rw [ends_bind, ends_within]
    refine (showBoth_text hs (holds_var.mpr hv) ht hpv hpt).mono ?_ (fun _ _ h => h.elim)
    rintro _ p rfl
    rfl
  obtain ⟨_, s', herror, rfl⟩ := hends.exists_error
  exact ⟨s', herror⟩

/-- A failure of unification shows its two types with one naming of their variables, and a new namer
shows a type with one naming of its own. Different variables are called differently exactly if
neither their numbers nor their labels nor the letters that are given out meet. -/
theorem renderings_apart_iff {α : Type} (hs : s.Valid) :
    (∀ t u, s.Holds t → s.Holds u → (s.view t).Plain → (s.view u).Plain →
      ∃ s', (throwMismatch t u : StoreM α) s =
        .error (.mismatch (s.textsOf t u).1 (s.textsOf t u).2) s') ∧
    (∀ v t, s.Has v → s.Holds t → (s.view (.var v)).Plain → (s.view t).Plain →
      ∃ s', (throwRecursive v t : StoreM α) s =
        .error (.recursive (s.textsOf (.var v) t).1 (s.textsOf (.var v) t).2) s') ∧
    (∀ t, s.Holds t → (s.view t).Plain →
      ∃ s', showNew t s = .ok ((s.view t).text (s.naming (s.view t).vars)) s') ∧
    ∀ vs, CalledApart s vs ↔ NamesApart s vs := by
  refine ⟨fun t u ht hu hpt hpu => throwMismatch_text hs ht hu hpt hpu,
    fun v t hv ht hpv hpt => throwRecursive_text hs hv ht hpv hpt, fun t ht hplain => ?_,
    fun vs => calledApart_iff⟩
  obtain ⟨_, s', hshow, _, rfl⟩ := (showNew_text hs ht hplain).exists_ok
  exact ⟨s', hshow⟩

theorem renderings_apart_iff_mixed :
    (∃ s', (throwMismatch (.var ⟨0⟩) (.var ⟨1⟩) : StoreM Unit) mixedStore =
      .error (.mismatch "a" "a") s') ∧ ¬ CalledApart mixedStore [⟨0⟩, ⟨1⟩] := by
  obtain ⟨hmismatch, _, _, happart⟩ := renderings_apart_iff (α := Unit) mixedStore_allows.valid
  refine ⟨?_, fun h => ?_⟩
  · obtain ⟨s', herror⟩ := hmismatch (.var ⟨0⟩) (.var ⟨1⟩) (by decide) (by decide)
      (view_var_of_unbound (s := mixedStore) (v := ⟨0⟩) rfl ▸ .var _)
      (view_var_of_unbound (s := mixedStore) (v := ⟨1⟩) rfl ▸ .var _)
    have htexts : mixedStore.textsOf (.var ⟨0⟩) (.var ⟨1⟩) = ("a", "a") := by decide +kernel
    rw [htexts] at herror
    exact ⟨s', herror⟩
  · exact absurd ((happart _).mp h).letters (by decide +kernel)

open Session in
/-- A session in which the type of the identity is inferred and a variable is made. -/
def identitySession : List Step :=
  [{ command := .infer (.ok (.lam "x" (.ident "x"))) none false, keep := some "t" },
   { command := .var, keep := some "v" }]

open Session in
/-- The label that inference has stored is also the letter of the new variable. -/
theorem mismatch_shown_alike :
    let state := (runFrom identitySession (Store.empty, {})).2
    ∃ t u v w, state.2.types.lookup "t" = some t ∧ state.2.types.lookup "v" = some u ∧
      state.1.freeVars t = [v] ∧ state.1.freeVars u = [w] ∧ v ≠ w ∧
      ∃ s', (throwMismatch t u : StoreM Unit) state.1 = .error (.mismatch "a -> a" "a") s' := by
  intro state
  have ht : (state.2.types.lookup "t").map state.1.freeVars = some [⟨3⟩] := by decide +kernel
  have hu : (state.2.types.lookup "v").map state.1.freeVars = some [⟨4⟩] := by decide +kernel
  obtain ⟨_, s', herror, he⟩ := exists_error_of_test (s := state.1)
    (x := (throwMismatch ((state.2.types.lookup "t").getD .bare)
      ((state.2.types.lookup "v").getD .bare) : StoreM Unit))
    (p := fun e _ => e = .mismatch "a -> a" "a") (by decide +kernel)
  obtain ⟨t, ht, hv⟩ := Option.map_eq_some_iff.mp ht
  obtain ⟨u, hu, hw⟩ := Option.map_eq_some_iff.mp hu
  rw [ht, hu, of_decide_eq_true he] at herror
  exact ⟨t, u, ⟨3⟩, ⟨4⟩, ht, hu, hv, hw, by decide, s', herror⟩

end LetPoly
