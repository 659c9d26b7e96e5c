import LetPoly.Term

/-!
# Reading terms off their text

The text of a term is nested in parentheses: a word stands for itself, and everything else is a row
of two or more parts between parentheses, with one blank between a part and the next. Such a text
can be taken apart in one way only, because a word ends where a blank or a closing parenthesis
follows. What the parts are tells the terms apart: an application has two of them, a function four,
and the two kinds of definition six with different words in front. So no word needs to be reserved.

* `Form` — texts nested in parentheses, `Term.form` — that of a term
* `Form.write_inj` — no two forms have the same text, also with more text behind them
* `Term.form_inj` — no two terms have the same form
* `render_unambiguous` — no two terms have the same text
-/

namespace LetPoly

/-! ## Forms -/

/-- A text nested in parentheses: a word, or a row of forms. -/
inductive Form where
  | word (w : List Char)
  | row (first : Form) (rest : List Form)

/-- A word is not empty and has neither blanks nor parentheses in it. -/
def IsWord (w : List Char) : Prop := w ≠ [] ∧ ∀ c ∈ w, c ≠ ' ' ∧ c ≠ '(' ∧ c ≠ ')'

/-- The text behind a form ends it: there is none, or it starts with a blank or a closing
parenthesis. -/
def EndsForm (rest : List Char) : Prop := ∀ c ∈ rest.head?, c = ' ' ∨ c = ')'

namespace Form

mutual

/-- The text of a form. -/
def write : Form → List Char
  | .word w => w
  | .row first rest => '(' :: (first.write ++ writeRest rest)

/-- The text of the forms in a row behind the first one. -/
def writeRest : List Form → List Char
  | [] => [')']
  | f :: rest => ' ' :: (f.write ++ writeRest rest)

end

mutual

/-- All words of the form are words. -/
def Plain : Form → Prop
  | .word w => IsWord w
  | .row first rest => first.Plain ∧ PlainAll rest

/-- All words of the forms are words. -/
def PlainAll : List Form → Prop
  | [] => True
  | f :: rest => f.Plain ∧ PlainAll rest

end

variable {v w r r' : List Char}

/-- A word that is ended by what follows is all that there is before a blank or a parenthesis. -/
theorem takeWhile_word (hw : IsWord w) (hr : EndsForm r) :
    (w ++ r).takeWhile (fun c => c ≠ ' ' ∧ c ≠ '(' ∧ c ≠ ')') = w := by
  rw [List.takeWhile_append_of_pos fun c hc => decide_eq_true (hw.2 c hc)]
  cases r with
  | nil => simp
  | cons c r => rcases hr c rfl with rfl | rfl <;> simp

/-- Words that are ended by what follows are the same if the texts are. -/
theorem word_inj (hv : IsWord v) (hw : IsWord w) (hr : EndsForm r) (hr' : EndsForm r')
    (h : v ++ r = w ++ r') : v = w ∧ r = r' := by
  have hvw : v = w := by rw [← takeWhile_word hv hr, h, takeWhile_word hw hr']
  exact ⟨hvw, List.append_cancel_left (hvw ▸ h)⟩

/-- A word is not the start of a row. -/
theorem word_ne_row (hw : IsWord w) : w ++ r ≠ '(' :: r' := by
  intro h
  cases w with
  | nil => exact hw.1 rfl
  | cons c w => exact (hw.2 c List.mem_cons_self).2.1 (List.cons.inj h).1

/-- A form is ended by the end of the text. -/
theorem endsForm_nil : EndsForm [] := by simp [EndsForm]

/-- What follows a form in a row ends it. -/
theorem endsForm_writeRest (rest : List Form) : EndsForm (writeRest rest ++ r) := by
  cases rest with
  | nil => exact fun c hc => .inr (Option.some.inj hc).symm
  | cons f rest => exact fun c hc => .inl (Option.some.inj hc).symm

mutual

/-- Forms that are ended by what follows are the same if the texts are. -/
theorem write_inj : ∀ (f g : Form) {r r' : List Char}, f.Plain → g.Plain → EndsForm r →
    EndsForm r' → f.write ++ r = g.write ++ r' → f = g ∧ r = r'
  | .word v, .word w, _, _, hv, hw, hr, hr', h => by
    obtain ⟨rfl, rfl⟩ := word_inj hv hw hr hr' h
    exact ⟨rfl, rfl⟩
  | .word v, .row first rest, _, _, hv, _, _, _, h => absurd h (word_ne_row hv)
  | .row first rest, .word w, _, _, _, hw, _, _, h => absurd h.symm (word_ne_row hw)
  | .row first rest, .row first' rest', r, r', hf, hg, _, _, h => by
    simp only [write, List.cons_append, List.append_assoc, List.cons.injEq, true_and] at h
    obtain ⟨rfl, htail⟩ := write_inj first first' hf.1 hg.1 (endsForm_writeRest rest)
      (endsForm_writeRest rest') h
    obtain ⟨rfl, rfl⟩ := writeRest_inj rest rest' hf.2 hg.2 htail
    exact ⟨rfl, rfl⟩

/-- A row ends with its closing parenthesis, whatever follows. -/
theorem writeRest_inj : ∀ (fs gs : List Form) {r r' : List Char}, PlainAll fs → PlainAll gs →
    writeRest fs ++ r = writeRest gs ++ r' → fs = gs ∧ r = r'
  | [], [], _, _, _, _, h => ⟨rfl, (List.cons.inj h).2⟩
  | [], _ :: _, _, _, _, _, h => absurd (List.cons.inj h).1 (by decide)
  | _ :: _, [], _, _, _, _, h => absurd (List.cons.inj h).1 (by decide)
  | f :: fs, g :: gs, r, r', hf, hg, h => by
    simp only [writeRest, List.cons_append, List.append_assoc, List.cons.injEq, true_and] at h
    obtain ⟨rfl, htail⟩ := write_inj f g hf.1 hg.1 (endsForm_writeRest fs) (endsForm_writeRest gs) h
    obtain ⟨rfl, rfl⟩ := writeRest_inj fs gs hf.2 hg.2 htail
    exact ⟨rfl, rfl⟩

end

end Form

/-! ## Terms -/

namespace Term

variable {t u : Term}

/-- All names of a term, bound or not. -/
def names : Term → List String
  | .ident x => [x]
  | .lam x b => x :: b.names
  | .app f a => f.names ++ a.names
  | .letIn x d b => x :: (d.names ++ b.names)
  | .letrec x d b => x :: (d.names ++ b.names)
  | .lamOver p b => p.names ++ b.names
  | .bare => []
  | .missing => []

/-- The form of a well-formed term; the words between its parts are words like any others. -/
def form : Term → Form
  | .ident x => .word x.toList
  | .lam x b => .row (.word ['f', 'n']) [.word x.toList, .word ['=', '>'], b.form]
  | .app f a => .row f.form [a.form]
  | .letIn x d b =>
    .row (.word ['l', 'e', 't'])
      [.word x.toList, .word ['='], d.form, .word ['i', 'n'], b.form]
  | .letrec x d b =>
    .row (.word ['l', 'e', 't', 'r', 'e', 'c'])
      [.word x.toList, .word ['='], d.form, .word ['i', 'n'], b.form]
  | .lamOver .. | .bare | .missing => .word []

/-- The text of a well-formed term is that of its form. -/
theorem render_eq_write (h : t.WellFormed) : t.render = .ok (String.ofList t.form.write) := by
  induction t with
  | ident x => exact congrArg Except.ok String.ofList_toList.symm
  | lam x b ih =>
    rw [render, ih h]
    refine congrArg Except.ok (String.toList_injective ?_)
    simp [form, Form.write, Form.writeRest]
  | app f a ihf iha =>
    rw [render, ihf h.1, iha h.2]
    refine congrArg Except.ok (String.toList_injective ?_)
    simp [form, Form.write, Form.writeRest]
  | letIn x d b ihd ihb | letrec x d b ihd ihb =>
    rw [render, ihd h.1, ihb h.2]
    refine congrArg Except.ok (String.toList_injective ?_)
    simp [form, Form.write, Form.writeRest]
  | lamOver p b => exact h.elim
  | bare => exact h.elim
  | missing => exact h.elim

/-- The form of a term whose names are words. -/
theorem plain_form (h : t.WellFormed) (hnames : ∀ x ∈ t.names, IsWord x.toList) : t.form.Plain := by
  induction t with
  | ident x => exact hnames x List.mem_cons_self
  | lam x b ih =>
    obtain ⟨hx, hb⟩ := List.forall_mem_cons.mp hnames
    refine ⟨?_, hx, ?_, ih h hb, trivial⟩
    all_goals simp [Form.Plain, IsWord]
  | app f a ihf iha =>
    obtain ⟨hf, ha⟩ := List.forall_mem_append.mp hnames
    exact ⟨ihf h.1 hf, iha h.2 ha, trivial⟩
  | letIn x d b ihd ihb | letrec x d b ihd ihb =>
    obtain ⟨hx, hparts⟩ := List.forall_mem_cons.mp hnames
    obtain ⟨hd, hb⟩ := List.forall_mem_append.mp hparts
    refine ⟨?_, hx, ?_, ihd h.1 hd, ?_, ihb h.2 hb, trivial⟩
    all_goals simp [Form.Plain, IsWord]
  | lamOver p b => exact h.elim
  | bare => exact h.elim
  | missing => exact h.elim

/-- Well-formed terms with the same form are the same: the number of parts and the word in front
say which kind of term it is. -/
theorem form_inj (ht : t.WellFormed) (hu : u.WellFormed) (h : t.form = u.form) : t = u := by
  induction t generalizing u with
  | ident x =>
    cases u with
    | ident y => simpa [form, String.toList_inj] using h
    | lam | app | letIn | letrec => exact nomatch h
    | lamOver | bare | missing => exact hu.elim
  | lam x b ih =>
    cases u with
    | lam y b' =>
      simp only [form, Form.row.injEq, List.cons.injEq, Form.word.injEq, String.toList_inj] at h
      obtain ⟨-, rfl, -, hb, -⟩ := h
      rw [ih ht (u := b') hu hb]
    | ident | app | letIn | letrec => simp [form] at h
    | lamOver | bare | missing => exact hu.elim
  | app f a ihf iha =>
    cases u with
    | app f' a' =>
      simp only [form, Form.row.injEq, List.cons.injEq] at h
      obtain ⟨hf, ha, -⟩ := h
      rw [ihf ht.1 hu.1 hf, iha ht.2 hu.2 ha]
    | ident | lam | letIn | letrec => simp [form] at h
    | lamOver | bare | missing => exact hu.elim
  | letIn x d b ihd ihb =>
    cases u with
    | letIn y d' b' =>
      simp only [form, Form.row.injEq, List.cons.injEq, Form.word.injEq, String.toList_inj] at h
      obtain ⟨-, rfl, -, hd, -, hb, -⟩ := h
      rw [ihd ht.1 hu.1 hd, ihb ht.2 hu.2 hb]
    | ident | lam | app | letrec => simp [form] at h
    | lamOver | bare | missing => exact hu.elim
  | letrec x d b ihd ihb =>
    cases u with
    | letrec y d' b' =>
      simp only [form, Form.row.injEq, List.cons.injEq, Form.word.injEq, String.toList_inj] at h
      obtain ⟨-, rfl, -, hd, -, hb, -⟩ := h
      rw [ihd ht.1 hu.1 hd, ihb ht.2 hu.2 hb]
    | ident | lam | app | letIn => simp [form] at h
    | lamOver | bare | missing => exact hu.elim
  | lamOver p b => exact ht.elim
  | bare => exact ht.elim
  | missing => exact ht.elim

/-- Every well-formed term has a text. If its names are words, of which none is reserved, then no
other such term has the same text. -/
theorem render_unambiguous (ht : t.WellFormed) (hu : u.WellFormed)
    (htn : ∀ x ∈ t.names, IsWord x.toList) (hun : ∀ x ∈ u.names, IsWord x.toList) :
    ∃ text text', t.render = .ok text ∧ u.render = .ok text' ∧ (text = text' → t = u) := by
  refine ⟨_, _, render_eq_write ht, render_eq_write hu, fun heq => ?_⟩
  have hwrite : t.form.write ++ [] = u.form.write ++ [] := by
    rw [String.ofList_injective heq]
  have hform := Form.write_inj t.form u.form (plain_form ht htn) (plain_form hu hun)
    Form.endsForm_nil Form.endsForm_nil hwrite
  exact form_inj ht hu hform.1

/-- Calls of functions with the names of the words in a function and in a definition. -/
theorem render_unambiguous_keywords :
    let call : Term := .app (.app (.ident "fn") (.ident "x")) (.app (.ident "=>") (.ident "let"))
    let function : Term := .lam "x" (.app (.ident "=>") (.ident "let"))
    ∃ text text', call.render = .ok text ∧ function.render = .ok text' ∧ text ≠ text' := by
  intro call function
  obtain ⟨text, text', htext, htext', hsame⟩ :=
    render_unambiguous (t := call) (u := function) (by decide) (by decide)
      (by simp [call, names, IsWord]) (by simp [function, names, IsWord])
  exact ⟨text, text', htext, htext', fun heq => absurd (hsame heq) (by decide)⟩

end Term

end LetPoly
