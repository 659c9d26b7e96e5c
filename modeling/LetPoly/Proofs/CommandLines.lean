import Mathlib.Data.List.TakeWhile
import LetPoly.CommandLine
import LetPoly.Proofs.Failures
import LetPoly.Proofs.History
import LetPoly.Proofs.Showing

/-!
# Command lines

The programs of a command line share the variables made so far and the state of tracing, and one of
them may fail in the middle of an analysis. None of this shows: every program is answered as if it
were the only one.

* `Idle` — no analysis is under way, and everything has been written out
* `inferText_alike` — a program is answered in the same way from all such states
* `runTerm_eq` — a program is run as if it were the first
* `request_names` — words that are names are understood as names
* `run_compositional` — a command line is run word by word
-/

namespace LetPoly.CommandLine

open Store

variable {traced : Bool} {e : Term} {p q : Shared}

/-! ## One program -/

/-- No analysis is under way, and everything that has been reported has been written out. -/
structure Idle (p : Shared) : Prop where
  valid : p.1.Valid
  depth : p.2.depth = 0
  log : p.2.log = []

/-- What a run starts from. -/
abbrev start : Shared := (Store.empty, {})

theorem idle_start : Idle start := ⟨valid_empty, rfl, rfl⟩

/-- The stores are valid, no analysis is under way, and the same has been reported. -/
def AtRest (p q : Shared) : Prop := p.1.Valid ∧ q.1.Valid ∧ Trace.Rested p.2 q.2

/-- From any two states without an analysis under way the same type is found, or the same failure. -/
theorem inferProgram_alike (hp : Idle p) (hq : Idle q) :
    Alike (inferProgram traced e) p (inferProgram traced e) q
      (fun t t' p' q' => (Moved .infer (.shift p.1 q.1) p.1 q.1 p'.1 q'.1 ∧
        Same (.shift p.1 q.1) p'.1 q'.1 t t') ∧ Trace.Rested p'.2 q'.2)
      (fun p' q' => Moved .infer (.shift p.1 q.1) p.1 q.1 p'.1 q'.1 ∧
        Trace.Rested p'.2 q'.2) := by
  have htwins := twins_shift hp.valid hq.valid
  have hpaced := paced_shift p.1 q.1
  have hrest : Trace.Rested p.2 q.2 := ⟨hp.depth, hq.depth, hq.log.trans hp.log.symm⟩
  cases traced with
  | true =>
    exact inferWith_alike carryAlike_fst
      (fun _ _ => Trace.analyseTraced_rested e) hrest htwins hpaced .none
  | false =>
    refine (carryAlike_fst hrest (inferWith_alike carryAlike_id
      (fun _ _ => analysePlain_alike typeOfName_alike e) trivial htwins hpaced .none)).mono ?_ ?_
    · exact fun _ _ _ _ hq => ⟨hq.1.1, hq.2⟩
    · exact fun _ _ hq => ⟨hq.1.1, hq.2⟩

/-- From any two states without an analysis under way a program is answered in the same way. -/
theorem inferText_alike (hp : Idle p) (hq : Idle q) :
    Alike (inferText traced e) p (inferText traced e) q
      (fun text text' p' q' => text' = text ∧ AtRest p' q') AtRest := by
  unfold inferText
  refine .bind ((inferProgram_alike hp hq).mono ?_ ?_)
  · rintro t t' ⟨s₁, tr₁⟩ ⟨s₁', tr₁'⟩ ⟨⟨hm, ht⟩, hrest⟩
    rw [alike_lift]
    refine (showNew_alike hm.twins ht).mono ?_ (fun _ _ h => h.elim)
    exact fun _ _ _ _ hq => ⟨hq.1, hq.2.twins.valid, hq.2.twins.valid', hrest⟩
  · exact fun _ _ hq => ⟨hq.1.twins.valid, hq.1.twins.valid', hq.2⟩

/-! ## Programs without a type -/

theorem isUntypable_of_documented {names : List String} {err : Error}
    (h : Documented e names err) : err.isUntypable = true := by
  cases h with
  | conflict h =>
    cases err with
    | mismatch => rfl
    | recursive => rfl
    | _ => exact h.elim
  | undefined => rfl

theorem start_setting : PlainSetting Store.empty [] [] where
  valid := valid_empty
  plain _ _ h := nomatch h
  env _ _ h := nomatch h
  pinned := by simp

/-- A well-formed program without overlong numerals has a type, or it is reported to have none. -/
theorem inferText_untypable (he : e.WellFormed)
    (hdigits : ∀ x ∈ e.freeNames, x.toList.countP Char.isDigit ≤ Decimal.maxDigits) :
    Ends (inferText traced e) start (fun _ _ => True) (fun err _ => err.isUntypable = true) := by
  have halike := start_setting.infer_alike he {} (.inr rfl)
  have hfails : Ends (infer e none) Store.empty (fun _ _ => True)
      (fun err _ => err.isUntypable = true) :=
    (infer_fails valid_empty (by simp) he fun x hx => hdigits x hx.1).mono (fun _ _ h => h)
      (fun _ _ h => isUntypable_of_documented h)
  -- the type that is found can be shown
  have hfound : Ends (inferProgram traced e) start
      (fun t p => p.1.Valid ∧ p.1.Holds t ∧ (p.1.view t).Plain)
      (fun err _ => err.isUntypable = true) := by
    cases traced with
    | false =>
      refine ends_lift.mpr ((halike.ends_left.and hfails).mono ?_ (fun _ _ h => h.2))
      rintro t s₁ ⟨⟨_, _, hm, ht⟩, _⟩
      exact ⟨hm.twins.valid, ht.holds, ht.takes.plain⟩
    | true =>
      refine (halike.ends_right.and (halike.fails_right hfails)).mono ?_ (fun _ _ h => h.2)
      rintro t q ⟨⟨_, _, hm, ht⟩, _⟩
      exact ⟨hm.twins.valid', ht.holds', ht.takes.plain_right⟩
  unfold inferText
  rw [ends_bind]
  refine hfound.mono ?_ (fun _ _ h => h)
  rintro t ⟨s₁, tr⟩ ⟨hs, ht, hplain⟩
  exact ends_lift.mpr ((showNew_text hs ht hplain).mono (fun _ _ _ => trivial) (fun _ _ h => h.elim))

theorem samples_wellFormed : ∀ entry ∈ Samples.all, entry.2.WellFormed ∧
    ∀ x ∈ entry.2.freeNames, x.toList.countP Char.isDigit ≤ Decimal.maxDigits := by
  decide +kernel

/-- What a program writes when it is the first, or the only one. -/
def alone (traced : Bool) (e : Term) : Outcome := (runTerm traced e start).1

/-- A program that has a type, or is reported to have none, is run as if it were the first, and the
run goes on without an analysis under way. -/
theorem runTerm_eq (hp : Idle p)
    (he : Ends (inferText traced e) start (fun _ _ => True) (fun err _ => err.isUntypable = true)) :
    ∃ p', runTerm traced e p = (alone traced e, some p') ∧ Idle p' := by
  have halike : Alike (inferText traced e) start (inferText traced e) p _ _ :=
    inferText_alike idle_start hp
  unfold alone runTerm
  cases hstart : inferText traced e start with
  | ok text p₁ =>
    obtain ⟨_, p', hrun, rfl, _, hvalid, hrest⟩ := halike.of_ok hstart
    rw [hrun]
    refine ⟨(p'.1, { p'.2 with log := [] }), ?_, hvalid, hrest.depth', rfl⟩
    simp only [Trace.messages, hrest.log]
  | error err p₁ =>
    obtain ⟨p', hrun, _, hvalid, hrest⟩ := halike.of_error hstart
    rw [hrun]
    refine ⟨(p'.1, { p'.2 with log := [] }), ?_, hvalid, hrest.depth', rfl⟩
    simp only [Trace.messages, hrest.log, he.of_error hstart, if_true]

theorem find?_eq_none_iff {w : String} : Samples.find? w = none ↔ w ∉ Samples.names := by
  unfold Samples.find? Samples.names
  generalize Samples.all = samples
  rw [List.lookup_eq_none_iff, List.mem_map, not_exists]
  simp only [bne_iff_ne, not_and, ne_comm]

/-- A sample program is run as if it were the only one, and the run goes on. -/
theorem runNames_cons (hp : Idle p) {w : String} (hw : w ∈ Samples.names) (rest : List String) :
    ∃ p', Idle p' ∧
      runNames traced (w :: rest) p = runNames traced [w] start ++ runNames traced rest p' := by
  obtain ⟨e, he⟩ := Option.ne_none_iff_exists'.mp fun h => find?_eq_none_iff.mp h hw
  obtain ⟨hwf, hdigits⟩ := samples_wellFormed (w, e) (mem_of_lookup he)
  have hanswer : Ends (inferText traced e) start _ _ := inferText_untypable hwf hdigits
  obtain ⟨p', hrun, hp'⟩ := runTerm_eq hp hanswer
  obtain ⟨p₀, hstart, _⟩ := runTerm_eq idle_start hanswer
  refine ⟨p', hp', ?_⟩
  simp only [runNames, he, hrun, hstart, Outcome.append_assoc, Outcome.empty_append]

/-! ## Arguments -/

/-- The words that ask for reports. -/
def options (traced : Bool) : List String := if traced then ["--trace"] else []

/-- The word does not start with a dash. -/
def IsName (w : String) : Prop := w.toList.head? ≠ some '-'

theorem classify_name {w : String} (hw : IsName w) : classify w = .ok .name := by
  unfold classify
  dsimp only
  split <;> simp_all [IsName]

theorem classifyAll_names {ws : List String} (hws : ∀ w ∈ ws, IsName w) :
    classifyAll ws = .ok (ws.map (·, .name)) := by
  induction ws with
  | nil => rfl
  | cons w ws ih =>
    obtain ⟨hw, hws⟩ := List.forall_mem_cons.mp hws
    have hdash : w ≠ "--" := by
      rintro rfl
      exact hw rfl
    rw [classifyAll, classify_name hw, ih hws]
    · rfl
    · exact hdash

theorem take_names {t : Taken} (hclosed : t.closed = false) (hextras : t.extras = [])
    (ws : List String) :
    take t (ws.map (·, .name)) = .ok (.run ((t.names.reverse ++ ws).erase "--") t.traced) := by
  induction ws generalizing t with
  | nil => simp [take, hextras]
  | cons w ws ih =>
    have hname : t.name w = { t with names := w :: t.names } := by
      unfold Taken.name
      rw [hclosed]
      rfl
    show take (t.name w) (ws.map (·, .name)) = _
    rw [hname, ih (t := { t with names := w :: t.names }) hclosed hextras]
    simp

/-- Words that are names are understood as names. -/
theorem request_names {ws : List String} (hws : ∀ w ∈ ws, IsName w) :
    request (options traced ++ ws) = .ok (.run ws traced) := by
  have herase : ws.erase "--" = ws := List.erase_of_not_mem fun h => hws "--" h rfl
  have htake : take { traced } (ws.map (·, .name)) = .ok (.run ws traced) := by
    rw [take_names rfl rfl, List.reverse_nil, List.nil_append, herase]
  cases traced with
  | false =>
    show (classifyAll ws >>= take {}) = _
    rw [classifyAll_names hws]
    exact htake
  | true =>
    show (classifyAll ("--trace" :: ws) >>= take {}) = _
    rw [classifyAll, classifyAll_names hws]
    · exact htake
    · decide

/-! ## Command lines -/

/-- What a run ends with when it comes to a word that names no sample program, or to no such word. -/
def ending : Option String → Outcome
  | none => {}
  | some w => refuse (.unknownSample w)

/-- From any state without an analysis under way, each name is run as if it were the only one. -/
theorem runNames_eq (ws : List String) : ∀ {p : Shared}, Idle p →
    runNames traced ws p =
      ((ws.takeWhile (· ∈ Samples.names)).map fun w => runNames traced [w] start).foldr (· ++ ·)
        (ending (ws.find? (· ∉ Samples.names))) := by
  induction ws with
  | nil => exact fun _ => rfl
  | cons w ws ih =>
    intro p hp
    by_cases hw : w ∈ Samples.names
    · obtain ⟨p', hp', hrun⟩ := runNames_cons hp hw ws
      rw [hrun, ih hp', List.takeWhile_cons, List.find?_cons]
      simp [hw]
    · rw [List.takeWhile_cons, List.find?_cons, runNames, find?_eq_none_iff.mpr hw]
      simp [hw, ending]

/-- What is written by runs one after the other. -/
theorem text_foldr {text : Outcome → String} (htext : ∀ a b, text (a ++ b) = text a ++ text b)
    (runs : List Outcome) (last : Outcome) :
    text (runs.foldr (· ++ ·) last) = String.join (runs.map text) ++ text last := by
  induction runs with
  | nil => simp
  | cons a runs ih => simp [htext, ih, String.append_assoc]

theorem code_foldr (runs : List Outcome) (last : Outcome) :
    (runs.foldr (· ++ ·) last).code = last.code := by
  induction runs with
  | nil => rfl
  | cons a runs ih => simp [ih]

/-- The names that are run: all there are, if none are given. -/
def asked (ws : List String) : List String := if ws.isEmpty then Samples.names else ws

theorem run_names {ws : List String} (hws : ∀ w ∈ ws, IsName w) :
    run (options traced ++ ws) = runNames traced (asked ws) start := by
  unfold run
  rw [request_names hws]
  rfl

theorem isName_of_mem_names : ∀ w ∈ Samples.names, IsName w := by
  unfold IsName
  decide

/-- A command line is run word by word. For names with or without a request for reports, and for all
sample programs if there are none: what is written is what is written for each of them alone, in
their order, up to the first that names no sample program. That one is refused. -/
theorem run_compositional (traced : Bool) (ws : List String) (hws : ∀ w ∈ ws, IsName w) :
    let runs := ((asked ws).takeWhile (· ∈ Samples.names)).map fun w => run (options traced ++ [w])
    let whole := run (options traced ++ ws)
    whole.out = String.join (runs.map Outcome.out) ∧
      match (asked ws).find? (· ∉ Samples.names) with
      | none => whole.err = String.join (runs.map Outcome.err) ∧ whole.code = 0
      | some w => whole.err = String.join (runs.map Outcome.err) ++
          (usage ++ "hindley: error: unknown example " ++ w ++ "\n") ∧ whole.code = 2 := by
  have halone : ∀ w ∈ (asked ws).takeWhile (· ∈ Samples.names),
      run (options traced ++ [w]) = runNames traced [w] start := by
    intro w hw
    have hname := isName_of_mem_names w (by simpa using List.mem_takeWhile_imp hw)
    exact run_names (List.forall_mem_singleton.mpr hname)
  intro runs whole
  have hwhole : whole = runs.foldr (· ++ ·) (ending ((asked ws).find? (· ∉ Samples.names))) := by
    show run (options traced ++ ws) = _
    rw [run_names hws, runNames_eq _ idle_start]
    exact congrArg (List.foldr (· ++ ·) _) (List.map_congr_left fun w hw => (halone w hw).symm)
  rw [hwhole, text_foldr Outcome.out_append, text_foldr Outcome.err_append, code_foldr]
  cases (asked ws).find? (· ∉ Samples.names) with
  | none => exact ⟨String.append_empty, String.append_empty, rfl⟩
  | some w => exact ⟨String.append_empty, rfl, rfl⟩

/-- Two programs without a type, one of them twice, one with a type, and a word that is none. -/
def mixedWords : List String := ["mismatch", "identity", "mismatch", "undefined", "nope", "pinned"]

theorem run_compositional_mixed :
    (run ("--trace" :: mixedWords)).err =
      (run ["--trace", "mismatch"]).err ++ ((run ["--trace", "identity"]).err ++
        ((run ["--trace", "mismatch"]).err ++ (run ["--trace", "undefined"]).err)) ++
          (usage ++ "hindley: error: unknown example " ++ "nope" ++ "\n") ∧
    (run ("--trace" :: mixedWords)).code = 2 := by
  have hnames : ∀ w ∈ mixedWords, IsName w := by
    unfold IsName
    decide
  have hruns : (asked mixedWords).takeWhile (· ∈ Samples.names) =
      ["mismatch", "identity", "mismatch", "undefined"] := by decide
  have hunknown : (asked mixedWords).find? (· ∉ Samples.names) = some "nope" := by decide
  have hwhole := (run_compositional true mixedWords hnames).2
  rw [hruns, hunknown] at hwhole
  simpa [options] using hwhole

end LetPoly.CommandLine
