import LetPoly.Proofs.Grammar
import LetPoly.Proofs.Operations

/-!
# The types that texts denote

What a signature denotes is said without a store: `Sig.type ρ` is its type when `ρ` gives the
variables of its names. Reading a text makes one variable for each name that occurs, in the order of
first occurrences, and returns the type for these variables.

* `Sig.names`, `Sig.type` — the names of variables, and the type for given variables
* `Store.grown` — a store with new variables
* `Sig.denote_eq` — the type that is returned and the store that is left
* `signature_denotes` — texts that spell a signature, and the others
-/

namespace LetPoly

open Store

/-! ## New variables -/

/-- The store with `n` more variables, numbered by the counter. -/
def Store.grown (s : Store) : Nat → Store
  | 0 => s
  | n + 1 => ((s.grown n).pushNext none).2

namespace Store

variable {s : Store} {v : Var}

theorem size_grown (s : Store) (n : Nat) : (s.grown n).cells.size = s.cells.size + n := by
  induction n with
  | zero => rfl
  | succ n ih =>
    show ((s.grown n).cells.push _).size = _
    rw [Array.size_push, ih, Nat.add_assoc]

theorem counter_grown (s : Store) (n : Nat) : (s.grown n).counter = s.counter + n := by
  induction n with
  | zero => rfl
  | succ n ih =>
    show (s.grown n).counter + 1 = _
    rw [ih, Nat.add_assoc]

theorem has_grown {n : Nat} : (s.grown n).Has v ↔ v.index < s.cells.size + n := by
  rw [Has, size_grown]

theorem cell?_grown_succ (s : Store) (n : Nat) (v : Var) :
    (s.grown (n + 1)).cell? v =
      if v.index = s.cells.size + n then some { id := s.counter + n } else (s.grown n).cell? v := by
  show ((s.grown n).cells.push { id := (s.grown n).counter })[v.index]? = _
  rw [Array.getElem?_push, size_grown, counter_grown]
  rfl

/-- The variables from before are as before. -/
theorem cell?_grown_of_has (hv : s.Has v) (n : Nat) : (s.grown n).cell? v = s.cell? v := by
  induction n with
  | zero => rfl
  | succ n ih =>
    have hne : v.index ≠ s.cells.size + n := Nat.ne_of_lt (Nat.lt_add_right n hv)
    rw [cell?_grown_succ, if_neg hne, ih]

/-- The new variables have consecutive numbers, no binding and no label. -/
theorem cell?_grown_new {i n : Nat} (hi : i < n) :
    (s.grown n).cell? ⟨s.cells.size + i⟩ = some { id := s.counter + i } := by
  induction n with
  | zero => omega
  | succ n ih =>
    rw [cell?_grown_succ]
    by_cases h : i = n
    · simp [h]
    · rw [if_neg (by simpa using h)]
      exact ih (by omega)

theorem allows_grown (hs : s.Valid) (n : Nat) : Rights.grow.Allows s (s.grown n) := by
  induction n with
  | zero => exact .refl hs
  | succ n ih => exact ih.trans (allows_pushNext ih.valid)

end Store

namespace Signature

/-! ## Types without a store -/

mutual

/-- The names of variables in a type from left to right, each as often as it occurs. -/
def Sig.names : Sig → List String
  | .operand o => o.names
  | .arrow arg result => arg.names ++ result.names

/-- The names of variables in an operand. -/
def Operand.names : Operand → List String
  | .name text => if isVariableName text then [text] else []
  | .apply _ args => args.names
  | .group s => s.names

/-- The names of variables in components. -/
def Args.names : Args → List String
  | .one s => s.names
  | .more s rest => s.names ++ rest.names

end

mutual

/-- The type that a tree denotes when `ρ` gives the variables. -/
def Sig.type (ρ : String → Var) : Sig → Ty
  | .operand o => o.type ρ
  | .arrow arg result => .fn (arg.type ρ) (result.type ρ)

/-- The type that an operand denotes. -/
def Operand.type (ρ : String → Var) : Operand → Ty
  | .name text => if isVariableName text then .var (ρ text) else .con text []
  | .apply name args => .con name (args.types ρ)
  | .group s => s.type ρ

/-- The types that components denote. -/
def Args.types (ρ : String → Var) : Args → List Ty
  | .one s => [s.type ρ]
  | .more s rest => s.type ρ :: rest.types ρ

end

section

variable {ρ ρ' : String → Var}

mutual

theorem Sig.type_congr : ∀ (s : Sig), (∀ x ∈ s.names, ρ x = ρ' x) → s.type ρ = s.type ρ'
  | .operand o, h => by rw [Sig.type, Sig.type, o.type_congr h]
  | .arrow arg result, h => by
    have harg := arg.type_congr fun x hx => h x (List.mem_append_left _ hx)
    have hresult := result.type_congr fun x hx => h x (List.mem_append_right _ hx)
    rw [Sig.type, Sig.type, harg, hresult]

theorem Operand.type_congr : ∀ (o : Operand), (∀ x ∈ o.names, ρ x = ρ' x) → o.type ρ = o.type ρ'
  | .name text, h => by
    rw [Operand.type, Operand.type]
    split
    · next hvar => rw [h text (by simp [Operand.names, hvar])]
    · rfl
  | .apply name args, h => by rw [Operand.type, Operand.type, args.types_congr h]
  | .group s, h => by rw [Operand.type, Operand.type, s.type_congr h]

theorem Args.types_congr : ∀ (args : Args), (∀ x ∈ args.names, ρ x = ρ' x) →
    args.types ρ = args.types ρ'
  | .one s, h => by rw [Args.types, Args.types, s.type_congr h]
  | .more s rest, h => by
    have hs := s.type_congr fun x hx => h x (List.mem_append_left _ hx)
    have hrest := rest.types_congr fun x hx => h x (List.mem_append_right _ hx)
    rw [Args.types, Args.types, hs, hrest]

end

-- The variables of the type stand where the names stand.
mutual

theorem Sig.vars_type (ρ : String → Var) : ∀ s : Sig, (s.type ρ).vars = s.names.map ρ
  | .operand o => o.vars_type ρ
  | .arrow arg result => by
    rw [Sig.type, Sig.names, List.map_append, ← arg.vars_type ρ, ← result.vars_type ρ]
    simp [Ty.fn, Ty.vars, Ty.varsList]

theorem Operand.vars_type (ρ : String → Var) : ∀ o : Operand, (o.type ρ).vars = o.names.map ρ
  | .name text => by
    rw [Operand.type, Operand.names]
    split <;> rfl
  | .apply name args => args.vars_types ρ
  | .group s => s.vars_type ρ

theorem Args.vars_types (ρ : String → Var) : ∀ args : Args,
    Ty.varsList (args.types ρ) = args.names.map ρ
  | .one s => by
    rw [Args.types, Args.names, ← s.vars_type ρ]
    simp [Ty.varsList]
  | .more s rest => by
    rw [Args.types, Args.names, List.map_append, ← s.vars_type ρ, ← rest.vars_types ρ, Ty.varsList]

end

mutual

theorem Sig.plain_type (ρ : String → Var) : ∀ s : Sig, (s.type ρ).Plain
  | .operand o => o.plain_type ρ
  | .arrow arg result => Ty.plain_fn_iff.mpr ⟨arg.plain_type ρ, result.plain_type ρ⟩

theorem Operand.plain_type (ρ : String → Var) : ∀ o : Operand, (o.type ρ).Plain
  | .name text => by
    rw [Operand.type]
    split
    · exact .var _
    · exact .con (by simp)
  | .apply name args => .con (args.plain_types ρ)
  | .group s => s.plain_type ρ

theorem Args.plain_types (ρ : String → Var) : ∀ args : Args, ∀ t ∈ args.types ρ, t.Plain
  | .one s => List.forall_mem_singleton.mpr (s.plain_type ρ)
  | .more s rest => List.forall_mem_cons.mpr ⟨s.plain_type ρ, rest.plain_types ρ⟩

end

end

/-! ## Variables by first occurrence -/

/-- The variable of a name when variables are made for `names` in the order of first occurrences. -/
def numbering (s : Store) (names : List String) (x : String) : Var :=
  ⟨s.cells.size + names.eraseDups.idxOf x⟩

/-- Later names do not change the variables of earlier ones. -/
theorem numbering_append {s : Store} {names : List String} {x : String} (hx : x ∈ names)
    (later : List String) : numbering s (names ++ later) x = numbering s names x := by
  unfold numbering
  rw [List.eraseDups_append, List.idxOf_append_of_mem (List.mem_eraseDups.mpr hx)]

/-- The state after variables have been made for names. -/
structure Scoped (s : Store) (names : List String) (p : Store × Scope) : Prop where
  store : p.1 = s.grown names.eraseDups.length
  scope : ∀ x, p.2.lookup x = if x ∈ names then some (numbering s names x) else none

theorem scoped_nil (s : Store) : Scoped s [] (s, []) := ⟨rfl, fun _ => rfl⟩

/-- A name that has occurred has its variable already. -/
theorem Scoped.of_mem {s : Store} {names : List String} {p : Store × Scope} {x : String}
    (h : Scoped s names p) (hx : x ∈ names) : Scoped s (names ++ [x]) p where
  store := by rw [eraseDups_concat_of_mem hx, h.store]
  scope y := by
    have hmem : y ∈ names ++ [x] ↔ y ∈ names := by
      rw [List.mem_append, List.mem_singleton]
      exact ⟨fun hy => hy.elim id (fun hy => hy ▸ hx), .inl⟩
    rw [h.scope]
    simp only [hmem]
    split
    · next hy => rw [numbering_append hy]
    · rfl

/-- A name that has not occurred takes the next variable. -/
theorem Scoped.cons {s s₁ : Store} {names : List String} {scope : Scope} {x : String}
    (h : Scoped s names (s₁, scope)) (hx : x ∉ names) :
    (s₁.pushNext none).1 = numbering s (names ++ [x]) x ∧
      Scoped s (names ++ [x]) ((s₁.pushNext none).2, (x, (s₁.pushNext none).1) :: scope) := by
  have hs₁ : s₁ = s.grown names.eraseDups.length := h.store
  have hnew : (s₁.pushNext none).1 = numbering s (names ++ [x]) x := by
    have hx' : x ∉ names.eraseDups := fun hmem => hx (List.mem_eraseDups.mp hmem)
    unfold numbering
    rw [eraseDups_concat_of_not_mem hx, List.idxOf_append_of_notMem hx', List.idxOf_cons_self,
      Nat.add_zero, ← size_grown, ← hs₁]
    rfl
  refine ⟨hnew, ⟨?_, fun y => ?_⟩⟩
  · rw [eraseDups_concat_of_not_mem hx, List.length_append, hs₁]
    rfl
  · rw [lookup_cons_eq, hnew]
    by_cases hy : y = x
    · simp [hy]
    · rw [if_neg hy, h.scope]
      simp only [List.mem_append, List.mem_singleton, hy, or_false]
      split
      · next hmem => rw [numbering_append hmem]
      · rfl

/-! ## Making variables on the way -/

theorem scopeVar_eq {s : Store} {names : List String} {p : Store × Scope} (x : String)
    (h : Scoped s names p) {E : Error → Store × Scope → Prop} :
    Ends (scopeVar x) p
      (fun v q => v = numbering s (names ++ [x]) x ∧ Scoped s (names ++ [x]) q) E := by
  obtain ⟨s₁, scope⟩ := p
  unfold scopeVar
  rw [ends_modifyGet]
  dsimp only
  have hlook : scope.lookup x = if x ∈ names then some (numbering s names x) else none := h.scope x
  by_cases hx : x ∈ names
  · rw [hlook, if_pos hx]
    exact ⟨(numbering_append hx _).symm, h.of_mem hx⟩
  · rw [hlook, if_neg hx]
    exact h.cons hx

-- Earlier parts are read in a smaller numbering; by `numbering_append` it makes no difference.
mutual

theorem Sig.denote_eq : ∀ (sig : Sig) {s : Store} {names : List String} {p : Store × Scope},
    Scoped s names p →
    Ends sig.denote p
      (fun t q => t = sig.type (numbering s (names ++ sig.names)) ∧
        Scoped s (names ++ sig.names) q) (fun _ _ => False)
  | .operand o, s, names, p, h => by
    rw [Sig.denote]
    exact o.denote_eq h
  | .arrow arg result, s, names, p, h => by
    rw [Sig.denote, ends_bind]
    refine (arg.denote_eq h).mono (fun a q ⟨ha, hq⟩ => ?_) (fun _ _ h => h)
    rw [ends_bind]
    refine (result.denote_eq hq).mono (fun r q' ⟨hr, hq'⟩ => ?_) (fun _ _ h => h)
    rw [List.append_assoc] at hr hq'
    refine ⟨?_, hq'⟩
    have harg : arg.type (numbering s (names ++ (arg.names ++ result.names))) = a := by
      rw [ha, ← List.append_assoc]
      exact arg.type_congr fun x hx => numbering_append (List.mem_append_right _ hx) _
    rw [Sig.type, Sig.names, harg, ← hr]

theorem Operand.denote_eq : ∀ (o : Operand) {s : Store} {names : List String} {p : Store × Scope},
    Scoped s names p →
    Ends o.denote p
      (fun t q => t = o.type (numbering s (names ++ o.names)) ∧ Scoped s (names ++ o.names) q)
      (fun _ _ => False)
  | .name text, s, names, p, h => by
    rw [Operand.denote, Operand.names]
    split
    · next hvar =>
      rw [ends_bind]
      refine (scopeVar_eq text h).mono (fun v q ⟨hv, hq⟩ => ?_) (fun _ _ h => h)
      refine ⟨?_, hq⟩
      rw [Operand.type, if_pos hvar, hv]
    · next hvar =>
      rw [List.append_nil]
      refine ⟨?_, h⟩
      rw [Operand.type, if_neg hvar]
  | .apply name args, s, names, p, h => by
    rw [Operand.denote, ends_bind]
    refine (args.denote_eq h).mono (fun ts q ⟨hts, hq⟩ => ?_) (fun _ _ h => h)
    refine ⟨?_, hq⟩
    rw [Operand.type, Operand.names, hts]
  | .group sig, s, names, p, h => by
    rw [Operand.denote]
    exact sig.denote_eq h

theorem Args.denote_eq : ∀ (args : Args) {s : Store} {names : List String} {p : Store × Scope},
    Scoped s names p →
    Ends args.denote p
      (fun ts q => ts = args.types (numbering s (names ++ args.names)) ∧
        Scoped s (names ++ args.names) q) (fun _ _ => False)
  | .one sig, s, names, p, h => by
    rw [Args.denote, ends_bind]
    refine (sig.denote_eq h).mono (fun t q ⟨ht, hq⟩ => ?_) (fun _ _ h => h)
    refine ⟨?_, hq⟩
    rw [Args.types, Args.names, ht]
  | .more sig rest, s, names, p, h => by
    rw [Args.denote, ends_bind]
    refine (sig.denote_eq h).mono (fun t q ⟨ht, hq⟩ => ?_) (fun _ _ h => h)
    rw [ends_bind]
    refine (rest.denote_eq hq).mono (fun ts q' ⟨hts, hq'⟩ => ?_) (fun _ _ h => h)
    rw [List.append_assoc] at hts hq'
    refine ⟨?_, hq'⟩
    have hsig : sig.type (numbering s (names ++ (sig.names ++ rest.names))) = t := by
      rw [ht, ← List.append_assoc]
      exact sig.type_congr fun x hx => numbering_append (List.mem_append_right _ hx) _
    rw [Args.types, Args.names, hsig, ← hts]

end

/-! ## Texts -/

/-- The distinct variables of a signature, in the order of their first occurrences. -/
def Sig.variables (sig : Sig) : List String := sig.names.eraseDups

/-- A text that spells a signature denotes its type for new variables. -/
theorem signature_of_spells {text : String} {sig : Sig} (h : Spells text sig) (s : Store) :
    signature text s =
      .ok (sig.type (numbering s sig.names)) (s.grown sig.variables.length) := by
  unfold signature
  rw [parse_eq_ok_iff.mpr h]
  show StoreWithM.within [] sig.denote s = _
  have hends : Ends (StoreWithM.within [] sig.denote) s
      (fun t s' => t = sig.type (numbering s sig.names) ∧ s' = s.grown sig.variables.length)
      (fun _ _ => False) := by
    rw [ends_within]
    exact (sig.denote_eq (scoped_nil s)).mono (fun t q h => ⟨h.1, h.2.store⟩) (fun _ _ h => h)
  obtain ⟨t, s', heq, rfl, rfl⟩ := hends.exists_ok
  exact heq

/-- All other texts fail and change nothing. -/
theorem signature_of_not_spells {text : String} (h : ∀ sig, ¬ Spells text sig) (s : Store) :
    ∃ problem, signature text s = .error (.signature text problem) s := by
  unfold signature
  cases hp : parse text with
  | ok sig => exact absurd (parse_eq_ok_iff.mp hp) (h sig)
  | error problem => exact ⟨problem, rfl⟩

/-- The type that a text denotes is its own view: its variables are new. -/
theorem view_type {s : Store} (hs : s.Valid) (sig : Sig) :
    (s.grown sig.variables.length).view (sig.type (numbering s sig.names)) =
      sig.type (numbering s sig.names) := by
  have hgrow := allows_grown hs sig.variables.length
  -- each variable of the type is one of the new ones
  have hnew : ∀ v ∈ (sig.type (numbering s sig.names)).vars,
      ∃ i < sig.variables.length, v = ⟨s.cells.size + i⟩ := by
    intro v hv
    rw [sig.vars_type] at hv
    obtain ⟨x, hx, rfl⟩ := List.mem_map.mp hv
    exact ⟨_, List.idxOf_lt_length_of_mem (List.mem_eraseDups.mpr hx), rfl⟩
  refine hgrow.valid.view_eq_self (fun v hv => ?_) (fun v hv => ?_)
  · obtain ⟨i, hi, rfl⟩ := hnew v hv
    exact has_grown.mpr (Nat.add_lt_add_left hi _)
  · obtain ⟨i, hi, rfl⟩ := hnew v hv
    rw [binding, cell?_grown_new hi]
    rfl

/-- New variables for names: they are numbered on from the counter in the order of the names, have
neither a binding nor a label, and are different for different names. Nothing else is new. -/
structure NewVariables (s : Store) (names : List String) (ρ : String → Var) (s' : Store) :
    Prop where
  counter : s'.counter = s.counter + names.length
  size : s'.cells.size = s.cells.size + names.length
  old : ∀ v, s.Has v → s'.cell? v = s.cell? v
  new : ∀ i x, names[i]? = some x → ¬ s.Has (ρ x) ∧
    s'.cell? (ρ x) = some { id := s.counter + i, binding := none, label := none }
  injective : ∀ x ∈ names, ∀ y ∈ names, ρ x = ρ y → x = y

theorem newVariables_numbering (s : Store) (names : List String) :
    NewVariables s names.eraseDups (numbering s names) (s.grown names.eraseDups.length) where
  counter := counter_grown s _
  size := size_grown s _
  old v hv := cell?_grown_of_has hv _
  new i x hi := by
    obtain ⟨hlt, hx⟩ := List.getElem?_eq_some_iff.mp hi
    have hidx : names.eraseDups.idxOf x = i := by
      rw [← hx]
      exact (nodup_eraseDups names).idxOf_getElem i hlt
    unfold numbering
    rw [hidx]
    refine ⟨fun h => ?_, cell?_grown_new hlt⟩
    have : s.cells.size + i < s.cells.size := h
    omega
  injective x hx y hy h := by
    have hidx : names.eraseDups.idxOf x = names.eraseDups.idxOf y :=
      Nat.add_left_cancel (Var.mk.inj h)
    exact (List.idxOf_inj hx).mp hidx

/-- A text denotes a type exactly if it splits into the tokens of a signature. There is only one
such signature; the type is the one that it denotes for new variables, one for each name in the
order of first occurrences. All other texts are refused, and the store is left as it was. -/
theorem signature_denotes (text : String) (s : Store) :
    (∃ sig, Spells text sig ∧ (∀ sig', Spells text sig' → sig' = sig) ∧
      ∃ ρ s', signature text s = .ok (sig.type ρ) s' ∧ NewVariables s sig.variables ρ s') ∨
    (∀ sig, ¬ Spells text sig) ∧
      ∃ problem, signature text s = .error (.signature text problem) s := by
  by_cases h : ∃ sig, Spells text sig
  · obtain ⟨sig, hsig⟩ := h
    exact .inl ⟨sig, hsig, fun _ => hsig.unique, _, _, signature_of_spells hsig s,
      newVariables_numbering s sig.names⟩
  · have hnone : ∀ sig, ¬ Spells text sig := fun sig hsig => h ⟨sig, hsig⟩
    exact .inr ⟨hnone, signature_of_not_spells hnone s⟩

end Signature

/-! ## Environments of signatures -/

open Signature in
/-- What holds of the types that texts denote holds of the types of an environment that is read from
texts; reading it fails only if one of the texts is refused. -/
theorem ofSignatures_denote {P : Ty → Prop}
    (hP : ∀ {text sig} (ρ : String → Var), Spells text sig → P (sig.type ρ))
    {sigs : List (String × String)} : ∀ {s : Store} {env : Env}, s.Valid → env.Held s →
    (∀ p ∈ env, P (s.view p.2)) →
    Ends (Env.ofSignatures sigs env) s
      (fun env' s' => env'.map Prod.fst = (sigs.map Prod.fst).reverse ++ env.map Prod.fst ∧
        ∀ p ∈ env', P (s'.view p.2))
      (fun _ _ => ∃ p ∈ sigs, ∀ sig, ¬ Spells p.2 sig) := by
  induction sigs with
  | nil => exact fun hs _ henv => ⟨rfl, henv⟩
  | cons p rest ih =>
    obtain ⟨x, text⟩ := p
    intro s env hs hheld henv
    unfold Env.ofSignatures
    rw [ends_bind]
    by_cases h : ∃ sig, Spells text sig
    · obtain ⟨sig, hsig⟩ := h
      have hgrow := allows_grown hs sig.variables.length
      have hview := view_type hs sig
      have hheld' := (signature_ends text hs).of_ok (signature_of_spells hsig s)
      unfold Ends
      rw [signature_of_spells hsig s]
      refine (ih hgrow.valid ((hheld.later hgrow).extend x hheld'.2) ?_).mono ?_ ?_
      · refine List.forall_mem_cons.mpr ⟨?_, fun p hp => ?_⟩
        · rw [hview]
          exact hP _ hsig
        · rw [hgrow.view_eq (fun _ hb => hb) hs (hheld p hp)]
          exact henv p hp
      · rintro env' s' ⟨hnames, hall⟩
        refine ⟨?_, hall⟩
        rw [hnames]
        simp [Env.extend]
      · rintro _ _ ⟨p, hp, hnone⟩
        exact ⟨p, List.mem_cons_of_mem _ hp, hnone⟩
    · have hnone : ∀ sig, ¬ Spells text sig := fun sig hsig => h ⟨sig, hsig⟩
      obtain ⟨problem, herror⟩ := signature_of_not_spells hnone s
      unfold Ends
      rw [herror]
      exact ⟨(x, text), List.mem_cons_self, hnone⟩

open Signature in
theorem preludeSignatures_spelled : ∀ p ∈ Env.preludeSignatures, ∃ sig, Spells p.2 sig := by
  have hok : ∀ p ∈ Env.preludeSignatures, (parse p.2).isOk = true := by decide +kernel
  intro p hp
  cases h : parse p.2 with
  | ok sig => exact ⟨sig, parse_eq_ok_iff.mp h⟩
  | error problem =>
    have hp := hok p hp
    rw [h] at hp
    exact nomatch hp

open Signature in
/-- Making the prelude never fails, and its types are ones that texts denote. -/
theorem prelude_denote {s : Store} {P : Ty → Prop} (hs : s.Valid)
    (hP : ∀ {text sig} (ρ : String → Var), Spells text sig → P (sig.type ρ)) :
    Ends Env.prelude s
      (fun env s' => (Rights.grow.Allows s s' ∧ env.Held s') ∧
        env.map Prod.fst = (Env.preludeSignatures.map Prod.fst).reverse ∧
        ∀ p ∈ env, P (s'.view p.2))
      (fun _ _ => False) := by
  refine ((prelude_ends hs).and (ofSignatures_denote hP hs nofun nofun)).mono ?_ ?_
  · rintro env s' ⟨hgrow, hnames, hall⟩
    exact ⟨hgrow, hnames.trans (List.append_nil _), hall⟩
  · rintro _ _ ⟨_, p, hp, hnone⟩
    obtain ⟨sig, hsig⟩ := preludeSignatures_spelled p hp
    exact hnone sig hsig

end LetPoly
