import LetPoly.Infer
import LetPoly.Proofs.Lists
import LetPoly.Proofs.Names
import LetPoly.Proofs.Outcome
import Mathlib.Data.Fintype.EquivFin

/-!
# Terms that are not well-formed

Analysis fails for a term in which a bare or missing term is looked at. A function over a term is
analysed as a function of a name that its body does not use. So what is known of well-formed terms
goes over to all of them, and to all terms with a hole.

* `analyse_eq_of_lookup` — only the types of free names count
* `exists_wellFormed_or_fails` — every term is analysed as a well-formed one, or fails
* `OneHole.reading` — so is every term with a hole, unless it does not look into the hole at all
-/

namespace LetPoly

variable {x : String} {e e' d d' f f' a a' b b' body body' p p' : Term}

/-! ## Names that are not free -/

/-- Analysis looks up free names only. -/
theorem analyse_eq_of_lookup (e : Term) : ∀ {env env' : Env} {pinned : List Ty},
    (∀ y ∈ e.freeNames, env.lookup y = env'.lookup y) →
    analyse e env pinned = analyse e env' pinned := by
  have hextend : ∀ {env env' : Env} {body : Term} {x : String} (t : Ty),
      (∀ y ∈ body.freeNames, y ≠ x → env.lookup y = env'.lookup y) →
      ∀ y ∈ body.freeNames, (env.extend x t).lookup y = (env'.extend x t).lookup y := by
    intro env env' body x t h y hy
    unfold Env.extend
    rw [lookup_cons_eq, lookup_cons_eq]
    by_cases hyx : y = x
    · rw [if_pos hyx, if_pos hyx]
    · rw [if_neg hyx, if_neg hyx, h y hy hyx]
  induction e with
  | ident x =>
    intro env env' pinned h
    rw [analyse_ident, analyse_ident, typeOfName, typeOfName, h x (by simp)]
  | lam x body ih =>
    intro env env' pinned h
    rw [analyse_lam, analyse_lam]
    refine bind_congr fun v => ?_
    rw [ih (hextend _ fun y hy hne => h y (by simp [hy, hne]))]
  | app f a ihf iha =>
    intro env env' pinned h
    rw [analyse_app, analyse_app, ihf fun y hy => h y (by simp [hy]),
      iha fun y hy => h y (by simp [hy])]
  | letIn x d b ihd ihb =>
    intro env env' pinned h
    rw [analyse_letIn, analyse_letIn, ihd fun y hy => h y (by simp [hy])]
    exact bind_congr fun t => ihb (hextend _ fun y hy hne => h y (by simp [hy, hne]))
  | letrec x d b ihd ihb =>
    intro env env' pinned h
    rw [analyse_letrec, analyse_letrec]
    refine bind_congr fun v => ?_
    rw [ihd (hextend _ fun y hy hne => h y (by simp [hy, hne])),
      ihb (hextend _ fun y hy hne => h y (by simp [hy, hne]))]
  | lamOver p body _ ih =>
    intro env env' pinned h
    rw [analyse_lamOver, analyse_lamOver]
    refine bind_congr fun v => ?_
    rw [ih h]
  | bare => exact fun _ => rfl
  | missing => exact fun _ => rfl

/-- A function over a term is analysed as one of a name that its body does not use. -/
theorem analyse_lamOver_eq_lam (p : Term) (hx : x ∉ body.freeNames) :
    analyse (.lamOver p body) = analyse (.lam x body) := by
  funext env pinned
  rw [analyse_lamOver, analyse_lam]
  refine bind_congr fun v => ?_
  rw [analyse_eq_of_lookup body]
  intro y hy
  have hne : y ≠ x := fun heq => hx (heq ▸ hy)
  unfold Env.extend
  rw [lookup_cons_eq, if_neg hne]

/-- There is a name outside any finite number of names. -/
theorem exists_new_name (names : List String) : ∃ x, x ∉ names := by
  obtain ⟨x, hx⟩ := Infinite.exists_notMem_finset names.toFinset
  exact ⟨x, fun hmem => hx (List.mem_toFinset.mpr hmem)⟩

/-! ## Parts that are analysed alike -/

theorem analyse_lam_congr (h : analyse b = analyse b') :
    analyse (.lam x b) = analyse (.lam x b') := by
  funext env pinned
  rw [analyse_lam, analyse_lam, h]

theorem analyse_app_congr (hf : analyse f = analyse f') (ha : analyse a = analyse a') :
    analyse (.app f a) = analyse (.app f' a') := by
  funext env pinned
  rw [analyse_app, analyse_app, hf, ha]

theorem analyse_letIn_congr (hd : analyse d = analyse d') (hb : analyse b = analyse b') :
    analyse (.letIn x d b) = analyse (.letIn x d' b') := by
  funext env pinned
  rw [analyse_letIn, analyse_letIn, hd, hb]

theorem analyse_letrec_congr (hd : analyse d = analyse d') (hb : analyse b = analyse b') :
    analyse (.letrec x d b) = analyse (.letrec x d' b') := by
  funext env pinned
  rw [analyse_letrec, analyse_letrec, hd, hb]

theorem analyse_lamOver_congr (h : analyse body = analyse body') :
    analyse (.lamOver p body) = analyse (.lamOver p' body') := by
  funext env pinned
  rw [analyse_lamOver, analyse_lamOver, h]

/-! ## Terms for which analysis fails -/

/-- The computation fails in every store. -/
def Fails {α : Type} (x : StoreM α) : Prop :=
  ∀ s, Ends x s (fun _ _ => False) (fun _ _ => True)

section

variable {α β : Type} {y : StoreM α} {g : α → StoreM β}

theorem Fails.bind (h : Fails y) : Fails (y >>= g) := by
  intro s
  rw [ends_bind]
  exact (h s).mono (fun _ _ h => h.elim) (fun _ _ h => h)

theorem fails_bind (h : ∀ r, Fails (g r)) : Fails (y >>= g) := by
  intro s
  rw [ends_bind]
  unfold Ends
  split
  · exact h _ _
  · trivial

end

/-- Analysis of the term fails. -/
def Term.Fails (e : Term) : Prop := ∀ env pinned, LetPoly.Fails (analyse e env pinned)

theorem Term.Fails.lam (h : b.Fails) : (Term.lam x b).Fails := fun _ _ =>
  fails_bind fun _ => (h _ _).bind

theorem Term.Fails.app (h : f.Fails ∨ a.Fails) : (Term.app f a).Fails := by
  intro env pinned
  rcases h with h | h
  · exact (h _ _).bind
  · exact fails_bind fun _ => (h _ _).bind

theorem Term.Fails.letIn (h : d.Fails ∨ b.Fails) : (Term.letIn x d b).Fails := by
  intro env pinned
  rcases h with h | h
  · exact (h _ _).bind
  · exact fails_bind fun _ => h _ _

theorem Term.Fails.letrec (h : d.Fails ∨ b.Fails) : (Term.letrec x d b).Fails := by
  intro env pinned
  rcases h with h | h
  · exact fails_bind fun _ => (h _ _).bind
  · exact fails_bind fun _ => fails_bind fun _ => fails_bind fun _ => h _ _

theorem Term.Fails.lamOver (h : body.Fails) : (Term.lamOver p body).Fails := fun _ _ =>
  fails_bind fun _ => (h _ _).bind

/-- Every term is analysed as a well-formed one, or its analysis fails. -/
theorem exists_wellFormed_or_fails (e : Term) :
    (∃ e', e'.WellFormed ∧ analyse e' = analyse e) ∨ e.Fails := by
  induction e with
  | ident x => exact .inl ⟨.ident x, trivial, rfl⟩
  | lam x body ih =>
    rcases ih with ⟨body', hwf, heq⟩ | hfails
    · exact .inl ⟨.lam x body', hwf, analyse_lam_congr heq⟩
    · exact .inr hfails.lam
  | app f a ihf iha =>
    rcases ihf with ⟨f', hf, heqf⟩ | hfails
    · rcases iha with ⟨a', ha, heqa⟩ | hfails
      · exact .inl ⟨.app f' a', ⟨hf, ha⟩, analyse_app_congr heqf heqa⟩
      · exact .inr (.app (.inr hfails))
    · exact .inr (.app (.inl hfails))
  | letIn x d b ihd ihb =>
    rcases ihd with ⟨d', hd, heqd⟩ | hfails
    · rcases ihb with ⟨b', hb, heqb⟩ | hfails
      · exact .inl ⟨.letIn x d' b', ⟨hd, hb⟩, analyse_letIn_congr heqd heqb⟩
      · exact .inr (.letIn (.inr hfails))
    · exact .inr (.letIn (.inl hfails))
  | letrec x d b ihd ihb =>
    rcases ihd with ⟨d', hd, heqd⟩ | hfails
    · rcases ihb with ⟨b', hb, heqb⟩ | hfails
      · exact .inl ⟨.letrec x d' b', ⟨hd, hb⟩, analyse_letrec_congr heqd heqb⟩
      · exact .inr (.letrec (.inr hfails))
    · exact .inr (.letrec (.inl hfails))
  | lamOver p body _ ih =>
    rcases ih with ⟨body', hwf, heq⟩ | hfails
    · obtain ⟨x, hx⟩ := exists_new_name body'.freeNames
      refine .inl ⟨.lam x body', hwf, ?_⟩
      rw [← analyse_lamOver_eq_lam p hx]
      exact analyse_lamOver_congr heq
    · exact .inr hfails.lamOver
  | bare => exact .inr fun _ _ _ => trivial
  | missing => exact .inr fun _ _ _ => trivial

/-! ## Terms with a hole -/

/-- What analysis makes of a term with a hole, whatever is put into the hole. -/
inductive OneHole.Reading (names : List String) (C : OneHole) : Prop
  /-- It is analysed as a well-formed one, if the free names of what is put in are among the
  `names`. -/
  | wellFormed (C' : OneHole) (hwf : C'.WellFormed)
    (heq : ∀ e, (∀ y ∈ e.freeNames, y ∈ names) → analyse (C'.fill e) = analyse (C.fill e))
  /-- Analysis fails. -/
  | fails (h : ∀ e, (C.fill e).Fails)
  /-- The hole is not looked at. -/
  | blind (h : ∀ e₁ e₂, analyse (C.fill e₁) = analyse (C.fill e₂))

namespace OneHole

variable {names : List String} {C D : OneHole}

/-- Another layer around a term with a hole: it is looked through, and what it adds is analysed as
something well-formed or fails. -/
theorem Reading.layer {k : Term → Term} (hC : C.Reading names)
    (hfill : ∀ e, D.fill e = k (C.fill e))
    (hcongr : ∀ {e e'}, analyse e = analyse e' → analyse (k e) = analyse (k e'))
    (hfails : ∀ {e}, e.Fails → (k e).Fails)
    (hadds : (∃ wrap : OneHole → OneHole, (∀ C', C'.WellFormed → (wrap C').WellFormed) ∧
      ∀ C' e, analyse ((wrap C').fill e) = analyse (k (C'.fill e))) ∨ ∀ e, (k e).Fails) :
    D.Reading names := by
  rcases hadds with ⟨wrap, hwrap, hanalyse⟩ | hadds
  · cases hC with
    | wellFormed C' hwf heq =>
      refine .wellFormed (wrap C') (hwrap C' hwf) fun e he => ?_
      rw [hanalyse, hfill]
      exact hcongr (heq e he)
    | fails h =>
      refine .fails fun e => ?_
      rw [hfill]
      exact hfails (h e)
    | blind h =>
      refine .blind fun e₁ e₂ => ?_
      rw [hfill, hfill]
      exact hcongr (h e₁ e₂)
  · refine .fails fun e => ?_
    rw [hfill]
    exact hadds _

/-- The free names of a filled term are those around the hole and those of what is put in. -/
theorem mem_freeNames_fill {y : String} (h : y ∈ (C.fill e).freeNames) :
    y ∈ (C.fill .bare).freeNames ∨ y ∈ e.freeNames := by
  induction C with
  | hole => exact .inr h
  | lam x C ih | function C a ih | argument f C ih | letDefinition x C b ih | letBody x d C ih
  | letrecDefinition x C b ih | letrecBody x d C ih | overBody p C ih =>
    simp only [fill, Term.mem_freeNames_lam, Term.mem_freeNames_app, Term.mem_freeNames_letIn,
      Term.mem_freeNames_letrec, Term.mem_freeNames_lamOver] at h ih ⊢
    tauto
  | overParam C body => exact .inl h

theorem reading (names : List String) (C : OneHole) : C.Reading names := by
  induction C with
  | hole => exact .wellFormed .hole trivial fun _ _ => rfl
  | lam x C ih =>
    exact ih.layer (fun _ => rfl) analyse_lam_congr Term.Fails.lam
      (.inl ⟨.lam x, fun _ h => h, fun _ _ => rfl⟩)
  | function C a ih =>
    refine ih.layer (k := (.app · a)) (fun _ => rfl) (analyse_app_congr · rfl) (.app <| .inl ·) ?_
    rcases exists_wellFormed_or_fails a with ⟨a', ha, heq⟩ | hfails
    · exact .inl ⟨(.function · a'), fun _ h => ⟨h, ha⟩, fun _ _ => analyse_app_congr rfl heq⟩
    · exact .inr fun _ => .app (.inr hfails)
  | argument f C ih =>
    refine ih.layer (k := .app f) (fun _ => rfl) (analyse_app_congr rfl ·) (.app <| .inr ·) ?_
    rcases exists_wellFormed_or_fails f with ⟨f', hf, heq⟩ | hfails
    · exact .inl ⟨.argument f', fun _ h => ⟨hf, h⟩, fun _ _ => analyse_app_congr heq rfl⟩
    · exact .inr fun _ => .app (.inl hfails)
  | letDefinition x C b ih =>
    refine ih.layer (k := (.letIn x · b)) (fun _ => rfl) (analyse_letIn_congr · rfl)
      (.letIn <| .inl ·) ?_
    rcases exists_wellFormed_or_fails b with ⟨b', hb, heq⟩ | hfails
    · exact .inl ⟨(.letDefinition x · b'), fun _ h => ⟨h, hb⟩,
        fun _ _ => analyse_letIn_congr rfl heq⟩
    · exact .inr fun _ => .letIn (.inr hfails)
  | letBody x d C ih =>
    refine ih.layer (k := .letIn x d) (fun _ => rfl) (analyse_letIn_congr rfl ·)
      (.letIn <| .inr ·) ?_
    rcases exists_wellFormed_or_fails d with ⟨d', hd, heq⟩ | hfails
    · exact .inl ⟨.letBody x d', fun _ h => ⟨hd, h⟩, fun _ _ => analyse_letIn_congr heq rfl⟩
    · exact .inr fun _ => .letIn (.inl hfails)
  | letrecDefinition x C b ih =>
    refine ih.layer (k := (.letrec x · b)) (fun _ => rfl) (analyse_letrec_congr · rfl)
      (.letrec <| .inl ·) ?_
    rcases exists_wellFormed_or_fails b with ⟨b', hb, heq⟩ | hfails
    · exact .inl ⟨(.letrecDefinition x · b'), fun _ h => ⟨h, hb⟩,
        fun _ _ => analyse_letrec_congr rfl heq⟩
    · exact .inr fun _ => .letrec (.inr hfails)
  | letrecBody x d C ih =>
    refine ih.layer (k := .letrec x d) (fun _ => rfl) (analyse_letrec_congr rfl ·)
      (.letrec <| .inr ·) ?_
    rcases exists_wellFormed_or_fails d with ⟨d', hd, heq⟩ | hfails
    · exact .inl ⟨.letrecBody x d', fun _ h => ⟨hd, h⟩, fun _ _ => analyse_letrec_congr heq rfl⟩
    · exact .inr fun _ => .letrec (.inl hfails)
  | overParam C body => exact .blind fun _ _ => rfl
  | overBody p C ih =>
    cases ih with
    | wellFormed C' hwf heq =>
      -- the name of the parameter is to be new for everything that may be put in
      obtain ⟨x, hx⟩ := exists_new_name ((C'.fill .bare).freeNames ++ names)
      refine .wellFormed (.lam x C') hwf fun e he => ?_
      have hnew : x ∉ (C'.fill e).freeNames := by
        intro hmem
        rcases mem_freeNames_fill hmem with hmem | hmem
        · exact hx (List.mem_append_left _ hmem)
        · exact hx (List.mem_append_right _ (he x hmem))
      exact (analyse_lamOver_eq_lam p hnew).symm.trans (analyse_lamOver_congr (heq e he))
    | fails h => exact .fails fun e => (h e).lamOver
    | blind h => exact .blind fun e₁ e₂ => analyse_lamOver_congr (h e₁ e₂)

end OneHole

end LetPoly
