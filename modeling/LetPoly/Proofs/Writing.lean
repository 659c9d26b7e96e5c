import LetPoly.Proofs.Denotation
import LetPoly.Proofs.Letters
import LetPoly.Proofs.Showing
import LetPoly.Proofs.Vocabulary

/-!
# The notation of types

The text of a type is a signature that denotes the type, if the notation has a way to write its
operators and the variables are called by names of variables. Types that signatures denote are of
that kind.

* `Writes`, `Ty.Writable` — what the notation can write
* `Written` — a signature that writes a type
* `Ty.Writable.exists_written` — the text of a type spells a signature that writes it
* `Spells.writable` — the types that signatures denote
-/

namespace LetPoly

namespace Signature

/-! ## What can be written -/

/-- The notation has a way to write the operator with so many components. -/
inductive Writes : String → Nat → Prop
  | arrow : Writes "->" 2
  /-- A name before components in parentheses. -/
  | apply {op : String} {n : Nat} : IsName op → 0 < n → Writes op n
  /-- A name on its own, which must not be taken for a variable. -/
  | constant {op : String} : IsName op → isVariableName op = false → Writes op 0

theorem writes_int : Writes "int" 0 :=
  .constant ⟨'i', ['n', 't'], rfl, rfl, List.all_eq_true.mp rfl⟩ rfl

end Signature

/-- The notation has a way to write all operators of the type. -/
abbrev Ty.Writable (t : Ty) : Prop := t.Over Signature.Writes

namespace Signature

/-! ## Texts before other texts -/

/-- The text splits into the tokens, also when a text follows that does not go on with a name. -/
def Lexed (cs : List Char) (us : List Token) : Prop :=
  ∀ rest ts, EndsName rest → Lexes rest ts → Lexes (cs ++ rest) (us ++ ts)

theorem Lexed.lexes {cs : List Char} {us : List Token} (h : Lexed cs us) : Lexes cs us := by
  have := h [] [] nofun .nil
  rwa [List.append_nil, List.append_nil] at this

theorem lexed_name {x : String} (h : IsName x) : Lexed x.toList [.name x] := by
  obtain ⟨c, cs, hx, hc, hcs⟩ := h
  intro rest ts hrest hts
  have hname := Lexes.name hc hcs hrest hts
  rw [← hx, String.ofList_toList] at hname
  rw [hx]
  exact hname

theorem endsName_cons {c : Char} (h : isNameChar c = false) (cs : List Char) :
    EndsName (c :: cs) := by
  intro d hd
  rwa [← Option.some.inj hd]

theorem Lexed.arrow {cs ds : List Char} {us vs : List Token} (h : Lexed cs us) (h' : Lexed ds vs) :
    Lexed (cs ++ " -> ".toList ++ ds) (us ++ .arrow :: vs) := by
  intro rest ts hrest hts
  have hright : Lexes (' ' :: '-' :: '>' :: ' ' :: (ds ++ rest)) (.arrow :: (vs ++ ts)) :=
    .blank rfl (.arrow (.blank rfl (h' rest ts hrest hts)))
  have := h _ _ (endsName_cons rfl _) hright
  simpa using this

theorem Lexed.comma {cs ds : List Char} {us vs : List Token} (h : Lexed cs us) (h' : Lexed ds vs) :
    Lexed (cs ++ ", ".toList ++ ds) (us ++ .comma :: vs) := by
  intro rest ts hrest hts
  have hright : Lexes (',' :: ' ' :: (ds ++ rest)) (.comma :: (vs ++ ts)) :=
    .comma (.blank rfl (h' rest ts hrest hts))
  have := h _ _ (endsName_cons rfl _) hright
  simpa using this

theorem Lexed.parens {cs : List Char} {us : List Token} (h : Lexed cs us) :
    Lexed ("(".toList ++ cs ++ ")".toList) (.leftParen :: (us ++ [.rightParen])) := by
  intro rest ts hrest hts
  have := Lexes.leftParen (h _ _ (endsName_cons rfl _) (.rightParen hts))
  simpa using this

theorem Lexed.apply {x : String} {cs : List Char} {us : List Token} (hx : IsName x)
    (h : Lexed cs us) : Lexed (x.toList ++ "(".toList ++ cs ++ ")".toList)
      (.name x :: .leftParen :: (us ++ [.rightParen])) := by
  intro rest ts hrest hts
  have hright : Lexes ('(' :: (cs ++ ')' :: rest)) (.leftParen :: (us ++ .rightParen :: ts)) :=
    .leftParen (h _ _ (endsName_cons rfl _) (.rightParen hts))
  have := lexed_name hx _ _ (endsName_cons rfl _) hright
  simpa using this

/-! ## Signatures that write types -/

variable {name : Var → String} {t : Ty}

/-- The signature writes the type whose variables are called by `name`. -/
structure Written (name : Var → String) (t : Ty) (sig : Sig) : Prop where
  lexed : Lexed (t.text name).toList sig.tokens
  type_eq : ∀ ρ, sig.type ρ = t.subst fun v => .var (ρ (name v))
  names_eq : sig.names = t.vars.map name
  /-- Only functions need parentheses before an arrow. -/
  operand : t.isFunction = false → ∃ o, sig = .operand o

/-- The components write the types whose variables are called by `name`. -/
structure WrittenAll (name : Var → String) (ts : List Ty) (args : Args) : Prop where
  lexed : Lexed (", ".intercalate (ts.map (Ty.text name))).toList args.tokens
  types_eq : ∀ ρ, args.types ρ = ts.map (Ty.subst fun v => .var (ρ (name v)))
  names_eq : args.names = (Ty.varsList ts).map name

/-- A type that can be written can be written before an arrow. -/
theorem Written.exists_operand {sig : Sig} (h : Written name t sig) : ∃ o : Operand,
    Lexed (if t.isFunction then "(" ++ t.text name ++ ")" else t.text name).toList o.tokens ∧
      (∀ ρ, o.type ρ = t.subst fun v => .var (ρ (name v))) ∧ o.names = t.vars.map name := by
  cases hfn : t.isFunction with
  | false =>
    obtain ⟨o, rfl⟩ := h.operand hfn
    exact ⟨o, h.lexed, h.type_eq, h.names_eq⟩
  | true =>
    refine ⟨.group sig, ?_, h.type_eq, h.names_eq⟩
    rw [if_pos rfl, String.toList_append, String.toList_append]
    exact h.lexed.parens

theorem exists_writtenAll : ∀ {ts : List Ty}, ts ≠ [] → (∀ t ∈ ts, ∃ sig, Written name t sig) →
    ∃ args, WrittenAll name ts args
  | [], hne, _ => absurd rfl hne
  | [t], _, h => by
    obtain ⟨sig, hsig⟩ := h t (by simp)
    refine ⟨.one sig, ?_, fun ρ => ?_, ?_⟩
    · rw [List.map_singleton, String.intercalate_singleton]
      exact hsig.lexed
    · rw [Args.types, hsig.type_eq, List.map_singleton]
    · rw [Args.names, hsig.names_eq, Ty.varsList, Ty.varsList, List.append_nil]
  | t :: u :: ts, _, h => by
    obtain ⟨sig, hsig⟩ := h t (by simp)
    have hrest : ∀ x ∈ u :: ts, ∃ sig, Written name x sig :=
      fun x hx => h x (List.mem_cons_of_mem _ hx)
    obtain ⟨args, hargs⟩ := exists_writtenAll (List.cons_ne_nil u ts) hrest
    refine ⟨.more sig args, ?_, fun ρ => ?_, ?_⟩
    · have hlexed := hargs.lexed
      rw [List.map_cons] at hlexed
      rw [List.map_cons, List.map_cons, String.intercalate_cons_cons, String.toList_append,
        String.toList_append]
      exact hsig.lexed.comma hlexed
    · rw [Args.types, hsig.type_eq, hargs.types_eq]
      rfl
    · rw [Args.names, hsig.names_eq, hargs.names_eq, ← List.map_append]
      rfl

end Signature

open Signature in
/-- The text of a type is a signature that writes the type, if its variables are called by names of
variables. -/
theorem Ty.Writable.exists_written {name : Var → String} {t : Ty} (h : t.Writable)
    (hname : ∀ v ∈ t.vars, isVariableName (name v) = true) : ∃ sig, Written name t sig := by
  induction h with
  | var v =>
    have hv := hname v (by simp)
    refine ⟨.operand (.name (name v)), lexed_name (isName_of_isVariableName hv), fun ρ => ?_, ?_,
      fun _ => ⟨_, rfl⟩⟩
    · rw [Sig.type, Operand.type, if_pos hv, Ty.subst_var]
    · rw [Sig.names, Operand.names, if_pos hv, Ty.vars_var, List.map_singleton]
  | @con op args hop _ ih =>
    have hparts : ∀ u ∈ args, ∃ sig, Written name u sig :=
      fun u hu => ih u hu fun v hv => hname v (Ty.mem_vars_con.mpr ⟨u, hu, hv⟩)
    generalize hlen : args.length = n at hop
    cases hop with
    | arrow =>
      obtain ⟨arg, result, rfl⟩ := List.length_eq_two.mp hlen
      obtain ⟨sig, hsig⟩ := hparts arg (by simp)
      obtain ⟨o, hlexed, htype, hnames⟩ := hsig.exists_operand
      obtain ⟨sig', hsig'⟩ := hparts result (by simp)
      refine ⟨.arrow o sig', ?_, fun ρ => ?_, ?_, nofun⟩
      · show Lexed ((Ty.fn arg result).text name).toList _
        rw [Ty.text_fn, String.toList_append, String.toList_append]
        exact hlexed.arrow hsig'.lexed
      · rw [Sig.type, htype, hsig'.type_eq]
        exact (Ty.subst_fn ..).symm
      · rw [Sig.names, hnames, hsig'.names_eq, ← List.map_append]
        simp [Ty.vars, Ty.varsList]
    | apply hop hpos =>
      have hne : args ≠ [] := List.length_pos_iff.mp (hlen ▸ hpos)
      have hfn : ¬ (op = "->" ∧ args.length = 2) := fun h => not_isName_arrow (h.1 ▸ hop)
      obtain ⟨as, has⟩ := exists_writtenAll hne hparts
      refine ⟨.operand (.apply op as), ?_, fun ρ => ?_, has.names_eq, fun _ => ⟨_, rfl⟩⟩
      · rw [Ty.text_con hne hfn, String.toList_append, String.toList_append, String.toList_append]
        exact has.lexed.apply hop
      · rw [Sig.type, Operand.type, has.types_eq, Ty.subst_con]
    | constant hop hvar =>
      obtain rfl := List.length_eq_zero_iff.mp hlen
      refine ⟨.operand (.name op), ?_, fun ρ => ?_, ?_, fun _ => ⟨_, rfl⟩⟩
      · rw [Ty.text_nil]
        exact lexed_name hop
      · rw [Sig.type, Operand.type, if_neg (by simp [hvar]), Ty.subst_con, List.map_nil]
      · rw [Sig.names, Operand.names, if_neg (by simp [hvar])]
        rfl

/-! ## Types that signatures denote -/

namespace Signature

theorem Args.length_types_pos (ρ : String → Var) (args : Args) : 0 < (args.types ρ).length := by
  cases args with
  | one _ => exact Nat.one_pos
  | more _ _ => exact Nat.succ_pos _

mutual

theorem Sig.writable_type (ρ : String → Var) : ∀ sig : Sig,
    (∀ x, .name x ∈ sig.tokens → IsName x) → (sig.type ρ).Writable
  | .operand o, h => o.writable_type ρ h
  | .arrow arg result, h => by
    rw [Sig.tokens] at h
    refine Ty.over_fn_iff.mpr ⟨.arrow, arg.writable_type ρ fun x hx => h x ?_,
      result.writable_type ρ fun x hx => h x ?_⟩
    · exact List.mem_append_left _ hx
    · exact List.mem_append_right _ (List.mem_cons_of_mem _ hx)

theorem Operand.writable_type (ρ : String → Var) : ∀ o : Operand,
    (∀ x, .name x ∈ o.tokens → IsName x) → (o.type ρ).Writable
  | .name text, h => by
    rw [Operand.type]
    split
    · exact .var _
    · next hvar =>
      exact .con (.constant (h text (by simp [Operand.tokens])) (Bool.eq_false_iff.mpr hvar)) nofun
  | .apply name args, h => by
    rw [Operand.tokens] at h
    refine .con (.apply (h name (by simp)) (args.length_types_pos ρ)) ?_
    exact args.writable_types ρ fun x hx => h x (by simp [hx])
  | .group s, h => s.writable_type ρ fun x hx => h x (by simp [Operand.tokens, hx])

theorem Args.writable_types (ρ : String → Var) : ∀ args : Args,
    (∀ x, .name x ∈ args.tokens → IsName x) → ∀ t ∈ args.types ρ, t.Writable
  | .one s, h => List.forall_mem_singleton.mpr (s.writable_type ρ h)
  | .more s rest, h => by
    rw [Args.tokens] at h
    refine List.forall_mem_cons.mpr ⟨s.writable_type ρ fun x hx => h x ?_,
      rest.writable_types ρ fun x hx => h x ?_⟩
    · exact List.mem_append_left _ hx
    · exact List.mem_append_right _ (List.mem_cons_of_mem _ hx)

end

/-- The types that texts denote can be written. -/
theorem Spells.writable {text : String} {sig : Sig} (h : Spells text sig) (ρ : String → Var) :
    (sig.type ρ).Writable :=
  sig.writable_type ρ fun _ hx => Lexes.isName h hx

end Signature

end LetPoly
