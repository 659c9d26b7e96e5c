import LetPoly.Proofs.Reporting
import LetPoly.Proofs.Tracing

/-!
# Reports are bracketed

A traced analysis writes one message when it comes to a node of the term and one when it leaves it.
The messages follow a walk through the term. If the analysis fails, they follow the walk up to the
node at which the failure arose: the nodes that have been entered and not left are those on the way
there.

* `Term.walk` — the events of a whole walk, each node by its path
* `Tells` — the message of an event
* `Call.RaisesAt` — the node at which a failure arises
* `reports` — one induction on terms for successes and failures
* `trace_bracketed` — the messages of every analysis of a well-formed term
-/

namespace LetPoly

variable {e : Term} {i k : Nat} {q : List Nat}

/-! ## Nodes and walks -/

/-- The walk comes to the node at a path, or leaves it. -/
inductive Event where
  | enter (path : List Nat)
  | leave (path : List Nat)
deriving DecidableEq

namespace Event

/-- The event seen from the node above, of which the walk is in the part with the given number. -/
def under (i : Nat) : Event → Event
  | .enter q => .enter (i :: q)
  | .leave q => .leave (i :: q)

/-- The events of walks through parts that are numbered from `i` on. -/
def nest (i : Nat) : List (List Event) → List Event
  | [] => []
  | events :: rest => events.map (under i) ++ nest (i + 1) rest

end Event

namespace Term

/-- The parts that are analysed, in this order. -/
def children : Term → List Term
  | .ident _ | .bare | .missing => []
  | .lam _ body | .lamOver _ body => [body]
  | .app f a => [f, a]
  | .letIn _ d b | .letrec _ d b => [d, b]

/-- The node at a path. -/
def at? : Term → List Nat → Option Term
  | e, [] => some e
  | e, i :: q => e.children[i]?.bind fun child => child.at? q

/-- A walk through all nodes: each is entered before its parts and left after them, and parts come
in order. -/
def walk : Term → List Event
  | .ident _ | .bare | .missing => [.enter [], .leave []]
  | .lam _ body | .lamOver _ body => .enter [] :: (Event.nest 0 [body.walk] ++ [.leave []])
  | .app f a => .enter [] :: (Event.nest 0 [f.walk, a.walk] ++ [.leave []])
  | .letIn _ d b | .letrec _ d b => .enter [] :: (Event.nest 0 [d.walk, b.walk] ++ [.leave []])

/-- The walk up to and without the part with the given number. -/
def walkUpTo (e : Term) (k : Nat) : List Event :=
  .enter [] :: Event.nest 0 ((e.children.take k).map walk)

theorem walk_eq (e : Term) :
    e.walk = .enter [] :: (Event.nest 0 (e.children.map walk) ++ [.leave []]) := by
  cases e <;> rfl

/-- To show something of all terms, show it of those of whose parts it holds. -/
theorem induct_children {motive : Term → Prop}
    (h : ∀ e : Term, (∀ child ∈ e.children, motive child) → motive e) (e : Term) : motive e := by
  induction e with
  | ident | bare | missing => exact h _ nofun
  | lam _ _ ih | lamOver _ _ _ ih => exact h _ (List.forall_mem_singleton.mpr ih)
  | app _ _ ih ih' | letIn _ _ _ ih ih' | letrec _ _ _ ih ih' =>
    exact h _ (List.forall_mem_cons.mpr ⟨ih, List.forall_mem_singleton.mpr ih'⟩)

end Term

namespace Event

variable {ev : Event} {events : List Event} {walks walks' : List (List Event)}

theorem under_injective (i : Nat) : Function.Injective (under i) := by
  rintro (q | q) (q' | q') h <;> simp_all [under]

@[simp] theorem under_ne_enter (i : Nat) (ev : Event) : ev.under i ≠ enter [] := by
  cases ev <;> simp [under]

@[simp] theorem under_ne_leave (i : Nat) (ev : Event) : ev.under i ≠ leave [] := by
  cases ev <;> simp [under]

theorem under_mem_map {j : Nat} : ev.under j ∈ events.map (under i) ↔ j = i ∧ ev ∈ events := by
  constructor
  · intro h
    obtain ⟨ev', hev', heq⟩ := List.mem_map.mp h
    obtain rfl : j = i := by cases ev <;> cases ev' <;> simp_all [under]
    exact ⟨rfl, under_injective j heq ▸ hev'⟩
  · rintro ⟨rfl, h⟩
    exact List.mem_map_of_mem h

theorem nest_append (i : Nat) (walks walks' : List (List Event)) :
    nest i (walks ++ walks') = nest i walks ++ nest (i + walks.length) walks' := by
  induction walks generalizing i with
  | nil => rfl
  | cons events rest ih =>
    rw [List.cons_append, nest, nest, ih, List.append_assoc, List.length_cons, Nat.add_assoc,
      Nat.add_comm 1]

/-- The events of a part are those of its own walk. -/
theorem under_mem_nest {j : Nat} : ev.under j ∈ nest i walks ↔
    ∃ k events, j = i + k ∧ walks[k]? = some events ∧ ev ∈ events := by
  induction walks generalizing i with
  | nil => simp [nest]
  | cons events rest ih =>
    rw [nest, List.mem_append, under_mem_map, ih]
    constructor
    · rintro (⟨rfl, hev⟩ | ⟨k, events', rfl, hk, hev⟩)
      · exact ⟨0, events, rfl, rfl, hev⟩
      · exact ⟨k + 1, events', by omega, hk, hev⟩
    · rintro ⟨k, events', rfl, hk, hev⟩
      cases k with
      | zero =>
        obtain rfl := Option.some.inj hk
        exact .inl ⟨rfl, hev⟩
      | succ k => exact .inr ⟨k, events', by omega, hk, hev⟩

theorem exists_under_of_mem_nest (h : ev ∈ nest i walks) : ∃ j ev', ev = under j ev' := by
  induction walks generalizing i with
  | nil => exact nomatch h
  | cons events rest ih =>
    rcases List.mem_append.mp h with h | h
    · obtain ⟨ev', _, rfl⟩ := List.mem_map.mp h
      exact ⟨i, ev', rfl⟩
    · exact ih h

theorem nodup_nest (h : ∀ events ∈ walks, events.Nodup) (i : Nat) : (nest i walks).Nodup := by
  induction walks generalizing i with
  | nil => exact List.nodup_nil
  | cons events rest ih =>
    obtain ⟨hevents, hrest⟩ := List.forall_mem_cons.mp h
    refine List.nodup_append.mpr ⟨hevents.map (under_injective i), ih hrest _, ?_⟩
    rintro _ hev _ hev' rfl
    obtain ⟨ev, _, rfl⟩ := List.mem_map.mp hev
    obtain ⟨k, _, hk, _⟩ := under_mem_nest.mp hev'
    omega

end Event

namespace Term

open Event

/-- The root is entered and left, and everything else happens under it. -/
theorem root_mem_walk (e : Term) : enter [] ∈ e.walk ∧ leave [] ∈ e.walk := by
  rw [walk_eq]
  simp

theorem under_mem_nest_walks {ev : Event} {es : List Term} :
    ev.under i ∈ nest 0 (es.map walk) ↔ ∃ child, es[i]? = some child ∧ ev ∈ child.walk := by
  simp only [under_mem_nest, Nat.zero_add, List.getElem?_map, Option.map_eq_some_iff]
  constructor
  · rintro ⟨_, _, rfl, ⟨child, hchild, rfl⟩, hev⟩
    exact ⟨child, hchild, hev⟩
  · rintro ⟨child, hchild, hev⟩
    exact ⟨i, _, rfl, ⟨child, hchild, rfl⟩, hev⟩

theorem under_mem_walk {ev : Event} :
    ev.under i ∈ e.walk ↔ ∃ child, e.children[i]? = some child ∧ ev ∈ child.walk := by
  rw [walk_eq, ← under_mem_nest_walks]
  simp

/-- Every node is entered and left. -/
theorem mem_walk_iff : ∀ {q : List Nat} {e : Term},
    (enter q ∈ e.walk ↔ (e.at? q).isSome) ∧ (leave q ∈ e.walk ↔ (e.at? q).isSome)
  | [], e => by simp [root_mem_walk, at?]
  | i :: q, e => by
    have hnode : ∀ ev : Event, (∀ child : Term, ev ∈ child.walk ↔ (child.at? q).isSome) →
        (ev.under i ∈ e.walk ↔ (e.at? (i :: q)).isSome) := by
      intro ev hev
      rw [under_mem_walk, at?]
      cases e.children[i]? with
      | none => simp
      | some child => simp [hev]
    exact ⟨hnode (enter q) fun child => mem_walk_iff.1, hnode (leave q) fun child => mem_walk_iff.2⟩

/-- No node is entered or left twice. -/
theorem nodup_walk (e : Term) : e.walk.Nodup := by
  induction e using induct_children with
  | h e ih =>
    have hnest : (nest 0 (e.children.map walk)).Nodup := by
      refine nodup_nest (fun events hevents => ?_) 0
      obtain ⟨child, hchild, rfl⟩ := List.mem_map.mp hevents
      exact ih child hchild
    have hroot : ∀ ev ∈ nest 0 (e.children.map walk), ev ≠ enter [] ∧ ev ≠ leave [] := by
      intro ev hev
      obtain ⟨j, ev', rfl⟩ := exists_under_of_mem_nest hev
      simp
    rw [walk_eq, List.nodup_cons, List.nodup_append]
    refine ⟨?_, hnest, List.nodup_singleton _, ?_⟩
    · simp only [List.mem_append, List.mem_singleton, reduceCtorEq, or_false]
      exact fun h => (hroot _ h).1 rfl
    · rintro ev hev _ hleave rfl
      exact (hroot _ hev).2 (List.mem_singleton.mp hleave)

end Term

/-! ## Walks that stop -/

/-- The node has been entered and not left. -/
def Open (events : List Event) (q : List Nat) : Prop := .enter q ∈ events ∧ .leave q ∉ events

section

open Event

variable {child : Term} {events : List Event}

theorem walkUpTo_prefix_walk (e : Term) (k : Nat) : e.walkUpTo k <+: e.walk := by
  rw [Term.walk_eq, Term.walkUpTo]
  nth_rewrite 2 [← List.take_append_drop k e.children]
  rw [List.map_append, nest_append]
  simp

theorem walkUpTo_succ (hchild : e.children[k]? = some child) :
    e.walkUpTo (k + 1) = e.walkUpTo k ++ child.walk.map (under k) := by
  obtain ⟨hlt, hget⟩ := List.getElem?_eq_some_iff.mp hchild
  have hlength : ((e.children.take k).map Term.walk).length = k := by
    rw [List.length_map, List.length_take]
    omega
  rw [Term.walkUpTo, Term.walkUpTo, List.take_succ_eq_append_getElem hlt, hget, List.map_append,
    nest_append, hlength, Nat.zero_add]
  simp [nest]

/-- A walk that has stopped in a part. -/
theorem stopped_prefix_walk (hchild : e.children[k]? = some child) (h : events <+: child.walk) :
    e.walkUpTo k ++ events.map (under k) <+: e.walk := by
  have hpart : e.walkUpTo k ++ events.map (under k) <+: e.walkUpTo (k + 1) := by
    rw [walkUpTo_succ hchild, List.prefix_append_right_inj]
    exact h.map _
  exact hpart.trans (walkUpTo_prefix_walk e (k + 1))

/-- The whole walk leaves the root after its last part. -/
theorem walkUpTo_length (e : Term) : e.walk = e.walkUpTo e.children.length ++ [leave []] := by
  rw [Term.walk_eq, Term.walkUpTo, List.take_length]
  rfl

theorem open_nil : Open (e.walkUpTo k ++ events.map (under k)) [] := by
  refine ⟨by simp [Term.walkUpTo], ?_⟩
  simp only [Term.walkUpTo, List.mem_append, List.mem_cons, reduceCtorEq, false_or, List.mem_map]
  rintro (h | ⟨ev, _, heq⟩)
  · obtain ⟨j, ev, heq⟩ := exists_under_of_mem_nest h
    exact under_ne_leave j ev heq.symm
  · exact under_ne_leave k ev heq

/-- What happens under the root happens in an earlier part or in the one in which the walk has
stopped. -/
theorem under_mem_stopped {j : Nat} {ev : Event} :
    ev.under j ∈ e.walkUpTo k ++ events.map (under k) ↔
      (∃ child, (e.children.take k)[j]? = some child ∧ ev ∈ child.walk) ∨ j = k ∧ ev ∈ events := by
  rw [List.mem_append, under_mem_map, ← Term.under_mem_nest_walks]
  simp [Term.walkUpTo]

/-- Earlier parts have been left as a whole, so that only the part in which the walk has stopped has
nodes that are open. -/
theorem open_cons {j : Nat} :
    Open (e.walkUpTo k ++ events.map (under k)) (j :: q) ↔ j = k ∧ Open events q := by
  show (enter q).under j ∈ _ ∧ (leave q).under j ∉ _ ↔ _
  rw [under_mem_stopped, under_mem_stopped]
  simp only [Term.mem_walk_iff]
  constructor
  · rintro ⟨hbefore | ⟨rfl, hq⟩, hnot⟩
    · exact absurd (.inl hbefore) hnot
    · exact ⟨rfl, hq, fun hq' => hnot (.inr ⟨rfl, hq'⟩)⟩
  · rintro ⟨rfl, hq, hq'⟩
    refine ⟨.inr ⟨rfl, hq⟩, ?_⟩
    rintro (⟨child, hchild, _⟩ | ⟨_, h⟩)
    · have hlt := (List.getElem?_eq_some_iff.mp hchild).1
      rw [List.length_take] at hlt
      omega
    · exact hq' h

end

/-! ## Messages -/

/-- The message reports the event, in the analysis of a term at a depth. -/
def Tells (e : Term) (depth : Nat) : Event → String → Prop
  | .enter q, message => ∃ node text, e.at? q = some node ∧ node.render = .ok text ∧
      message = "".pushn ' ' (2 * (depth + q.length)) ++ ("> analysing " ++ text)
  | .leave q, message => ∃ node text type, e.at? q = some node ∧ node.render = .ok text ∧
      message = "".pushn ' ' (2 * (depth + q.length)) ++
        ("< analysing " ++ text ++ " : " ++ type)

/-- What has been written from one state of tracing to another reports the events, in order. -/
def Told (e : Term) (depth : Nat) (events : List Event) (tr tr' : Trace) : Prop :=
  ∃ messages, tr'.messages = tr.messages ++ messages ∧ List.Forall₂ (Tells e depth) events messages

variable {depth : Nat} {events events' : List Event} {tr tr₁ tr₂ : Trace} {child : Term}

theorem Told.trans (h : Told e depth events tr tr₁) (h₁ : Told e depth events' tr₁ tr₂) :
    Told e depth (events ++ events') tr tr₂ := by
  obtain ⟨messages, heq, hall⟩ := h
  obtain ⟨messages', heq', hall'⟩ := h₁
  refine ⟨messages ++ messages', ?_, List.rel_append hall hall'⟩
  rw [heq', heq, List.append_assoc]

/-- What is reported on a part is reported on the term. -/
theorem Told.under (hchild : e.children[i]? = some child)
    (h : Told child (depth + 1) events tr tr₁) :
    Told e depth (events.map (Event.under i)) tr tr₁ := by
  obtain ⟨messages, heq, hall⟩ := h
  refine ⟨messages, heq, List.forall₂_map_left_iff.mpr (hall.imp fun ev message hev => ?_)⟩
  have hat : ∀ q, e.at? (i :: q) = child.at? q := fun q => by rw [Term.at?, hchild]; rfl
  have hdepth : ∀ q : List Nat, depth + (i :: q).length = depth + 1 + q.length := fun q => by
    rw [List.length_cons]
    omega
  cases ev with
  | enter q =>
    obtain ⟨node, text, hnode, htext, hmessage⟩ := hev
    exact ⟨node, text, (hat q).trans hnode, htext, by rw [hdepth, hmessage]⟩
  | leave q =>
    obtain ⟨node, text, type, hnode, htext, hmessage⟩ := hev
    exact ⟨node, text, type, (hat q).trans hnode, htext, by rw [hdepth, hmessage]⟩

/-! ## Calls -/

/-- The state of tracing in which the parts of a term are analysed: the term has been entered. -/
def Trace.opening (e : Term) (tr : Trace) : Trace :=
  match e.render with
  | .error _ => tr
  | .ok text =>
    { tr with
      depth := tr.depth + 1
      namer := if tr.depth = 0 then {} else tr.namer
      log := ("".pushn ' ' (2 * tr.depth) ++ ("> analysing " ++ text)) :: tr.log }

theorem Trace.depth_opening {text : String} (htext : e.render = .ok text) (tr : Trace) :
    (tr.opening e).depth = tr.depth + 1 := by
  simp [Trace.opening, htext]

theorem Trace.told_opening {text : String} (htext : e.render = .ok text) (tr : Trace) :
    Told e tr.depth (e.walkUpTo 0) tr (tr.opening e) := by
  refine ⟨[_], ?_, .cons ⟨e, text, rfl, htext, rfl⟩ .nil⟩
  simp [Trace.opening, htext, Trace.messages]

/-- Reporting on a term that can be shown: it is entered, its parts are analysed, and the type that
has been found is shown. -/
theorem Trace.ends_around_opening {x : TraceM Ty} {text : String} {s : Store}
    {Q : Ty → Store × Trace → Prop} {E : Error → Store × Trace → Prop}
    (htext : e.render = .ok text) :
    Ends (Trace.around e x) (s, tr) Q E ↔
      Ends x (s, tr.opening e)
        (fun t p => Ends (do
            let type ← Trace.showType t
            Trace.write tr.depth ("< analysing " ++ text ++ " : " ++ type)
            return t) (p.1, { p.2 with depth := p.2.depth - 1 }) Q E)
        (fun err p => E err (p.1, { p.2 with depth := p.2.depth - 1 })) := by
  unfold Trace.around Trace.opening
  rw [ends_bind, Trace.ends_enter, Term.title_of_render htext, htext]
  dsimp only
  rw [ends_bind, Trace.ends_write, ends_bind, Trace.ends_deeper]
  by_cases h : tr.depth = 0
  · simp only [h, reduceIte]
  · simp only [h, reduceIte]

/-- An analysis of a term with what it starts from. -/
structure Call where
  term : Term
  env : Env
  pinned : List Ty
  store : Store
  trace : Trace

namespace Call

/-- The outcome of the analysis. -/
def run (c : Call) : EStateM.Result Error (Store × Trace) Ty :=
  analyseTraced c.term c.env c.pinned (c.store, c.trace)

def Succeeds (c : Call) : Prop := ∃ t p, c.run = .ok t p

def Fails (c : Call) : Prop := ∃ err p, c.run = .error err p

/-- The analysis of a term comes to the analysis of its part with the given number. -/
inductive Makes : Call → Nat → Call → Prop
  | body {x : String} {b : Term} {env : Env} {pinned : List Ty} {s : Store} {tr : Trace} :
    Makes ⟨.lam x b, env, pinned, s, tr⟩ 0
      ⟨b, env.extend x (.var (s.pushNext none).1), .var (s.pushNext none).1 :: pinned,
        (s.pushNext none).2, tr.opening (.lam x b)⟩
  | function {f a : Term} {env : Env} {pinned : List Ty} {s : Store} {tr : Trace} :
    Makes ⟨.app f a, env, pinned, s, tr⟩ 0 ⟨f, env, pinned, s, tr.opening (.app f a)⟩
  | argument {f a : Term} {env : Env} {pinned : List Ty} {s s₁ : Store} {tr tr₁ : Trace} {t : Ty} :
    run ⟨f, env, pinned, s, tr.opening (.app f a)⟩ = .ok t (s₁, tr₁) →
    Makes ⟨.app f a, env, pinned, s, tr⟩ 1 ⟨a, env, pinned, s₁, tr₁⟩
  | definition {x : String} {d b : Term} {env : Env} {pinned : List Ty} {s : Store} {tr : Trace} :
    Makes ⟨.letIn x d b, env, pinned, s, tr⟩ 0 ⟨d, env, pinned, s, tr.opening (.letIn x d b)⟩
  | scope {x : String} {d b : Term} {env : Env} {pinned : List Ty} {s s₁ : Store} {tr tr₁ : Trace}
      {t : Ty} :
    run ⟨d, env, pinned, s, tr.opening (.letIn x d b)⟩ = .ok t (s₁, tr₁) →
    Makes ⟨.letIn x d b, env, pinned, s, tr⟩ 1 ⟨b, env.extend x t, pinned, s₁, tr₁⟩
  | recDefinition {x : String} {d b : Term} {env : Env} {pinned : List Ty} {s : Store}
      {tr : Trace} :
    Makes ⟨.letrec x d b, env, pinned, s, tr⟩ 0
      ⟨d, env.extend x (.var (s.pushNext none).1), .var (s.pushNext none).1 :: pinned,
        (s.pushNext none).2, tr.opening (.letrec x d b)⟩
  | recScope {x : String} {d b : Term} {env : Env} {pinned : List Ty} {s s₁ s₂ : Store}
      {tr tr₁ : Trace} {t : Ty} :
    run ⟨d, env.extend x (.var (s.pushNext none).1), .var (s.pushNext none).1 :: pinned,
      (s.pushNext none).2, tr.opening (.letrec x d b)⟩ = .ok t (s₁, tr₁) →
    unify (.var (s.pushNext none).1) t s₁ = .ok () s₂ →
    Makes ⟨.letrec x d b, env, pinned, s, tr⟩ 1
      ⟨b, env.extend x (.var (s.pushNext none).1), pinned, s₂, tr₁⟩

/-- The failure arises at the node at a path: not in one of its parts, but in what is done for the
node itself. -/
inductive RaisesAt : Call → List Nat → Prop
  | root {c : Call} : c.Fails → (∀ i c', c.Makes i c' → c'.Succeeds) → RaisesAt c []
  | part {c c' : Call} {i : Nat} {q : List Nat} :
    c.Makes i c' → RaisesAt c' q → RaisesAt c (i :: q)

variable {c c' : Call}

theorem Fails.not_succeeds (h : c.Fails) : ¬ c.Succeeds := by
  obtain ⟨err, p, h⟩ := h
  rintro ⟨t, p', h'⟩
  rw [h] at h'
  cases h'

theorem fails_of_not_succeeds (h : ¬ c.Succeeds) : c.Fails := by
  cases hrun : c.run with
  | ok t p => exact absurd ⟨t, p, hrun⟩ h
  | error err p => exact ⟨err, p, hrun⟩

/-- The part is the one with the number. -/
theorem Makes.children_eq (h : c.Makes i c') : c.term.children[i]? = some c'.term := by
  cases h <;> rfl

theorem Makes.wellFormed (h : c.Makes i c') (he : c.term.WellFormed) : c'.term.WellFormed := by
  cases h with
  | body => exact he
  | function | definition | recDefinition => exact he.1
  | argument | scope | recScope => exact he.2

/-- A term has at most two parts. -/
theorem Makes.lt_two (h : c.Makes i c') : i < 2 := by
  cases h <;> decide

/-- There is one call for each part. -/
theorem Makes.functional {c₁ c₂ : Call} (h₁ : c.Makes i c₁) (h₂ : c.Makes i c₂) : c₁ = c₂ := by
  cases h₁ with
  | body | function | definition | recDefinition =>
    cases h₂
    rfl
  | argument h =>
    cases h₂ with
    | argument h' =>
      rw [h] at h'
      cases h'
      rfl
  | scope h =>
    cases h₂ with
    | scope h' =>
      rw [h] at h'
      cases h'
      rfl
  | recScope h hunify =>
    cases h₂ with
    | recScope h' hunify' =>
      rw [h] at h'
      cases h'
      rw [hunify] at hunify'
      cases hunify'
      rfl

/-- The second part is come to only if the first one has not failed. -/
theorem Makes.first_succeeds {c₀ c₁ : Call} (h₁ : c.Makes 1 c₁) (h₀ : c.Makes 0 c₀) :
    c₀.Succeeds := by
  cases h₁ with
  | argument h | scope h | recScope h _ =>
    cases h₀
    exact ⟨_, _, h⟩

/-- If the second part does not fail, no part does. -/
theorem Makes.all_succeed {c₁ : Call} (h₁ : c.Makes 1 c₁) (hok : c₁.Succeeds) :
    ∀ i c', c.Makes i c' → c'.Succeeds := by
  intro i c' h
  obtain rfl | rfl : i = 0 ∨ i = 1 := by
    have hlt := h.lt_two
    omega
  · exact h₁.first_succeeds h
  · rwa [h.functional h₁]

/-- The messages so far report the walk up to the node at which the failure arises. -/
def Stopped (c : Call) (tr : Trace) : Prop :=
  ∃ path events, c.RaisesAt path ∧ events <+: c.term.walk ∧
    (∀ q, Open events q ↔ q <+: path) ∧ Told c.term c.trace.depth events c.trace tr

/-- A failure of what is done for the node itself. -/
theorem Stopped.root (hfail : c.Fails) (hparts : ∀ i c', c.Makes i c' → c'.Succeeds)
    (htold : Told c.term c.trace.depth (c.term.walkUpTo k) c.trace tr) : c.Stopped tr := by
  refine ⟨[], c.term.walkUpTo k, .root hfail hparts, walkUpTo_prefix_walk _ _, fun q => ?_, htold⟩
  have hnil : c.term.walkUpTo k = c.term.walkUpTo k ++ [].map (Event.under k) := by simp
  rw [hnil]
  cases q with
  | nil => exact ⟨fun _ => List.nil_prefix, fun _ => open_nil⟩
  | cons j q =>
    rw [open_cons]
    simp [Open]

/-- A failure in a part. -/
theorem Stopped.part (hmakes : c.Makes i c') (hdepth : c'.trace.depth = c.trace.depth + 1)
    (hbefore : Told c.term c.trace.depth (c.term.walkUpTo i) c.trace c'.trace)
    (h : c'.Stopped tr) : c.Stopped tr := by
  obtain ⟨path, events, hraises, hprefix, hopen, htold⟩ := h
  rw [hdepth] at htold
  refine ⟨i :: path, _, .part hmakes hraises, stopped_prefix_walk hmakes.children_eq hprefix,
    fun q => ?_, hbefore.trans (htold.under hmakes.children_eq)⟩
  cases q with
  | nil => simp [open_nil]
  | cons j q => rw [open_cons, List.cons_prefix_cons, hopen]

/-- What a call reports if it succeeds and if it fails. -/
def Reports (c : Call) : Prop :=
  Ends (analyseTraced c.term c.env c.pinned) (c.store, c.trace)
    (fun _ p => Told c.term c.trace.depth c.term.walk c.trace p.2 ∧
      ∀ i c', c.Makes i c' → c'.Succeeds)
    (fun _ p => c.Fails → c.Stopped p.2)

/-- A part is analysed after the parts before it. -/
theorem Makes.visit (hmakes : c.Makes i c') (hdepth : c'.trace.depth = c.trace.depth + 1)
    (hbefore : Told c.term c.trace.depth (c.term.walkUpTo i) c.trace c'.trace)
    (h : c'.Reports) :
    Ends (analyseTraced c'.term c'.env c'.pinned) (c'.store, c'.trace)
      (fun t p => c'.run = .ok t p ∧ p.2.depth = c.trace.depth + 1 ∧
        Told c.term c.trace.depth (c.term.walkUpTo (i + 1)) c.trace p.2)
      (fun _ p => c.Stopped p.2) := by
  refine ((h.and ends_self).and (Trace.keepsDepth_analyseTraced c'.term _)).mono ?_ ?_
  · rintro t p ⟨⟨⟨htold, _⟩, hok⟩, hkept⟩
    rw [hdepth] at htold
    refine ⟨hok, hkept.trans hdepth, ?_⟩
    rw [walkUpTo_succ hmakes.children_eq]
    exact hbefore.trans (htold.under hmakes.children_eq)
  · rintro err p ⟨⟨hstopped, herror⟩, _⟩
    exact (hstopped ⟨err, p, herror⟩).part hmakes hdepth hbefore

/-- A call reports as it should if the analysis of the parts of its term does. -/
theorem reports_of_parts {x : TraceM Ty} {text : String} (htext : c.term.render = .ok text)
    (hrun : analyseTraced c.term c.env c.pinned = Trace.around c.term x)
    (hx : Ends x (c.store, c.trace.opening c.term)
      (fun _ p => Told c.term c.trace.depth (c.term.walkUpTo c.term.children.length) c.trace p.2 ∧
        ∀ i c', c.Makes i c' → c'.Succeeds)
      (fun _ p => c.Fails → c.Stopped p.2)) : c.Reports := by
  unfold Reports
  rw [hrun, Trace.ends_around_opening htext]
  refine hx.mono (fun t p ⟨htold, hparts⟩ => ?_) (fun _ _ h => h)
  rw [ends_bind, Trace.ends_showType]
  have hclosing : ∀ (type : String) (s : Store) (namer : Namer), Told c.term c.trace.depth
      c.term.walk c.trace { p.2 with
        depth := p.2.depth - 1
        namer
        log := ("".pushn ' ' (2 * c.trace.depth) ++
          ("< analysing " ++ text ++ " : " ++ type)) :: p.2.log } := by
    intro type s namer
    rw [walkUpTo_length]
    refine htold.trans ⟨[_], ?_, .cons ⟨c.term, text, type, rfl, htext, rfl⟩ .nil⟩
    simp [Trace.messages]
  unfold Ends
  cases LetPoly.showType t (p.1, { p.2 with depth := p.2.depth - 1 }.namer) with
  | ok type q => exact ⟨hclosing type q.1 q.2, hparts⟩
  | error err q => exact fun hfail => .root hfail hparts htold

/-- Every call for a well-formed term reports as it should. -/
theorem reports {e : Term} : ∀ (_ : e.WellFormed) (env : Env) (pinned : List Ty) (s : Store)
    (tr : Trace), Reports ⟨e, env, pinned, s, tr⟩ := by
  induction e with
  | ident x =>
    intro he env pinned s tr
    obtain ⟨text, htext⟩ := he.exists_render
    have htold := Trace.told_opening htext tr
    refine reports_of_parts htext rfl (ends_lift.mpr ?_)
    have hparts : ∀ i c', Makes ⟨.ident x, env, pinned, s, tr⟩ i c' → c'.Succeeds := nofun
    unfold Ends
    cases typeOfName x env pinned s with
    | ok t s₁ => exact ⟨htold, hparts⟩
    | error err s₁ => exact fun hfail => .root hfail hparts htold
  | lam x b ih =>
    intro he env pinned s tr
    obtain ⟨text, htext⟩ := he.exists_render
    refine reports_of_parts htext rfl ?_
    rw [ends_bind, ends_lift, ends_newVar, ends_bind]
    refine (Makes.body.visit (Trace.depth_opening htext tr) (Trace.told_opening htext tr)
      (ih he _ _ _ _)).mono (fun t p ⟨hok, _, htold⟩ => ?_) (fun _ _ h _ => h)
    refine ⟨htold, fun i c' hmakes => ?_⟩
    cases hmakes
    exact ⟨t, p, hok⟩
  | app f a ihf iha =>
    intro he env pinned s tr
    obtain ⟨text, htext⟩ := he.exists_render
    refine reports_of_parts htext rfl ?_
    rw [ends_bind]
    refine (Makes.function.visit (Trace.depth_opening htext tr) (Trace.told_opening htext tr)
      (ihf he.1 _ _ _ _)).mono (fun t p ⟨hf, hdepth, htold⟩ => ?_) (fun _ _ h _ => h)
    rw [ends_bind]
    refine ((Makes.argument hf).visit hdepth htold (iha he.2 _ _ _ _)).mono
      (fun u ⟨s₂, tr₂⟩ ⟨ha, _, htold⟩ => ?_) (fun _ _ h _ => h)
    have hparts := (Makes.argument hf).all_succeed ⟨u, _, ha⟩
    rw [ends_bind, ends_lift, ends_newVar, ends_bind, ends_lift]
    -- after both parts, unification may still fail
    unfold Ends
    split
    · exact ⟨htold, hparts⟩
    · exact fun hfail => .root hfail hparts htold
  | letIn x d b ihd ihb =>
    intro he env pinned s tr
    obtain ⟨text, htext⟩ := he.exists_render
    refine reports_of_parts htext rfl ?_
    rw [ends_bind]
    refine (Makes.definition.visit (Trace.depth_opening htext tr) (Trace.told_opening htext tr)
      (ihd he.1 _ _ _ _)).mono (fun t p ⟨hd, hdepth, htold⟩ => ?_) (fun _ _ h _ => h)
    refine ((Makes.scope hd).visit hdepth htold (ihb he.2 _ _ _ _)).mono
      (fun u p' ⟨hb, _, htold⟩ => ?_) (fun _ _ h _ => h)
    exact ⟨htold, (Makes.scope hd).all_succeed ⟨u, p', hb⟩⟩
  | letrec x d b ihd ihb =>
    intro he env pinned s tr
    obtain ⟨text, htext⟩ := he.exists_render
    refine reports_of_parts htext rfl ?_
    rw [ends_bind, ends_lift, ends_newVar, ends_bind]
    refine (Makes.recDefinition.visit (Trace.depth_opening htext tr) (Trace.told_opening htext tr)
      (ihd he.1 _ _ _ _)).mono (fun t ⟨s₁, tr₁⟩ ⟨hd, hdepth, htold⟩ => ?_) (fun _ _ h _ => h)
    rw [ends_bind, ends_lift]
    refine ends_self.mono (fun _ s₂ hok => ?_) (fun err s₂ herror hfail => ?_)
    · refine ((Makes.recScope hd hok).visit hdepth htold (ihb he.2 _ _ _ _)).mono
        (fun u p ⟨hb, _, htold⟩ => ?_) (fun _ _ h _ => h)
      exact ⟨htold, (Makes.recScope hd hok).all_succeed ⟨u, p, hb⟩⟩
    · -- the definition does not fit its own uses, and the body is not come to
      refine .root hfail (fun i c' hmakes => ?_) htold
      cases hmakes with
      | recDefinition => exact ⟨t, _, hd⟩
      | recScope hd' hok' =>
        rw [hd] at hd'
        cases hd'
        rw [herror] at hok'
        cases hok'
  | lamOver p body => exact fun he => he.elim
  | bare => exact fun he => he.elim
  | missing => exact fun he => he.elim

/-! ### There is one such node -/

theorem RaisesAt.fails (h : c.RaisesAt q) (he : c.term.WellFormed) : c.Fails := by
  induction h with
  | root hfail _ => exact hfail
  | @part c c' i q hmakes _ ih =>
    refine fails_of_not_succeeds fun ⟨t, p, hok⟩ => ?_
    obtain ⟨_, hparts⟩ := (reports he c.env c.pinned c.store c.trace).of_ok hok
    exact (ih (hmakes.wellFormed he)).not_succeeds (hparts i c' hmakes)

/-- Only one part fails. -/
theorem Makes.unique {c₁ c₂ : Call} {j : Nat} (h₁ : c.Makes i c₁) (h₂ : c.Makes j c₂)
    (hfail₁ : c₁.Fails) (hfail₂ : c₂.Fails) : i = j ∧ c₁ = c₂ := by
  have hi := h₁.lt_two
  have hj := h₂.lt_two
  by_cases hij : i = j
  · subst hij
    exact ⟨rfl, h₁.functional h₂⟩
  · obtain ⟨rfl, rfl⟩ | ⟨rfl, rfl⟩ : i = 0 ∧ j = 1 ∨ i = 1 ∧ j = 0 := by omega
    · exact absurd (h₂.first_succeeds h₁) hfail₁.not_succeeds
    · exact absurd (h₁.first_succeeds h₂) hfail₂.not_succeeds

theorem RaisesAt.unique {q' : List Nat} (h : c.RaisesAt q) (h' : c.RaisesAt q')
    (he : c.term.WellFormed) : q = q' := by
  induction h generalizing q' with
  | root _ hparts =>
    cases h' with
    | root => rfl
    | part hmakes h' =>
      exact absurd (hparts _ _ hmakes) (h'.fails (hmakes.wellFormed he)).not_succeeds
  | part hmakes h ih =>
    have hfail := h.fails (hmakes.wellFormed he)
    cases h' with
    | root _ hparts => exact absurd (hparts _ _ hmakes) hfail.not_succeeds
    | part hmakes' h' =>
      obtain ⟨rfl, rfl⟩ :=
        hmakes.unique hmakes' hfail (h'.fails (hmakes'.wellFormed he))
      rw [ih h' (hmakes.wellFormed he)]

end Call

/-! ## The messages of an analysis -/

/-- The depth is back, so that the next analysis starts without a term around it and with new
letters if this one did. -/
def Restored (tr tr' : Trace) : Prop :=
  tr'.depth = tr.depth ∧ (tr.depth = 0 → ∀ e env pinned s,
    analyseTraced e env pinned (s, tr') =
      analyseTraced e env pinned (s, { tr' with depth := 0, namer := {} }))

theorem restored_of_depth {tr' : Trace} (h : tr'.depth = tr.depth) : Restored tr tr' := by
  refine ⟨h, fun hzero e env pinned s => ?_⟩
  have hdepth : tr'.depth = 0 := h.trans hzero
  rw [Trace.analyseTraced_newLetters hdepth, ← hdepth]

/-- An analysis of a well-formed term writes the messages of a walk through the term, in which every
node is entered once and left once. If it fails, it writes those of the walk up to the one node at
which the failure arises: the nodes that have been entered and not left are those on the path to it.
In both cases the depth is back. -/
theorem trace_bracketed (he : e.WellFormed) (env : Env) (pinned : List Ty) (s : Store)
    (tr : Trace) :
    Ends (analyseTraced e env pinned) (s, tr)
      (fun _ p => Told e tr.depth e.walk tr p.2 ∧ Restored tr p.2)
      (fun _ p => (∃ path events, Call.RaisesAt ⟨e, env, pinned, s, tr⟩ path ∧
          (∀ path', Call.RaisesAt ⟨e, env, pinned, s, tr⟩ path' → path' = path) ∧
          events <+: e.walk ∧ (∀ q, Open events q ↔ q <+: path) ∧
          Told e tr.depth events tr p.2) ∧
        Restored tr p.2) ∧
    e.walk.Nodup ∧
    ∀ q, (.enter q ∈ e.walk ↔ (e.at? q).isSome) ∧ (.leave q ∈ e.walk ↔ (e.at? q).isSome) := by
  refine ⟨?_, e.nodup_walk, fun q => Term.mem_walk_iff⟩
  have hreports : Call.Reports ⟨e, env, pinned, s, tr⟩ := Call.reports he env pinned s tr
  refine ((hreports.and ends_self).and (Trace.keepsDepth_analyseTraced e (s, tr))).mono ?_ ?_
  · rintro t p ⟨⟨⟨htold, _⟩, _⟩, hdepth⟩
    exact ⟨htold, restored_of_depth hdepth⟩
  · rintro err p ⟨⟨hstopped, herror⟩, hdepth⟩
    obtain ⟨path, events, hraises, hprefix, hopen, htold⟩ := hstopped ⟨err, p, herror⟩
    refine ⟨⟨path, events, hraises, fun path' h => ?_, hprefix, hopen, htold⟩,
      restored_of_depth hdepth⟩
    exact h.unique hraises he

/-- A number is applied inside the argument of a function. -/
def innerCall : Term := .app (.lam "x" (.ident "x")) (.app (.ident "3") (.ident "4"))

/-- What is reported until the inner call fails. -/
def innerMessages : List String :=
  ["> analysing ((fn x => x) (3 4))",
   "  > analysing (fn x => x)",
   "    > analysing x",
   "    < analysing x : a",
   "  < analysing (fn x => x) : a -> a",
   "  > analysing (3 4)",
   "    > analysing 3",
   "    < analysing 3 : int",
   "    > analysing 4",
   "    < analysing 4 : int"]

theorem trace_bracketed_failing : innerCall.WellFormed ∧
    ∃ err p path events, analyseTraced innerCall [] [] (Store.empty, {}) = .error err p ∧
      p.2.messages = innerMessages ∧ Call.RaisesAt ⟨innerCall, [], [], Store.empty, {}⟩ path ∧
      events <+: innerCall.walk ∧ (∀ q, Open events q ↔ q <+: path) ∧
      Told innerCall 0 events {} p.2 ∧ Restored {} p.2 := by
  have he : innerCall.WellFormed := by decide
  have hfails : (match analyseTraced innerCall [] [] (Store.empty, {}) with
      | .ok _ _ => false
      | .error _ p => p.2.messages == innerMessages) = true := by decide +kernel
  have hends := trace_bracketed he [] [] Store.empty {}
  -- for any computation, so that the run is not evaluated again
  revert hends hfails
  generalize analyseTraced innerCall [] [] = x
  intro hfails hends
  cases hx : x (Store.empty, {}) with
  | ok t p =>
    rw [hx] at hfails
    exact nomatch hfails
  | error err p =>
    rw [hx] at hfails
    obtain ⟨⟨path, events, hraises, _, hprefix, hopen, htold⟩, hrestored⟩ := hends.1.of_error hx
    exact ⟨he, err, p, path, events, rfl, beq_iff_eq.mp hfails, hraises, hprefix, hopen, htold,
      hrestored⟩

end LetPoly
