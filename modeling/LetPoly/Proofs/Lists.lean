import Mathlib.Data.List.Forall2
import Mathlib.Data.List.Induction

/-!
# Lists

Facts about lists of entries and about lists side by side that the proofs about stores and contexts
share.
-/

namespace LetPoly

variable {α β γ δ : Type}

/-! ## Entries -/

section Entries

variable [DecidableEq α] {l : List (α × β)} {k : α} {b : β}

theorem lookup_cons_eq (k : α) (b : β) (l : List (α × β)) (j : α) :
    ((k, b) :: l).lookup j = if j = k then some b else l.lookup j := by
  rw [List.lookup_cons]
  by_cases h : j = k
  · simp [h]
  · rw [beq_eq_false_iff_ne.mpr h, if_neg h]

theorem mem_of_lookup (h : l.lookup k = some b) : (k, b) ∈ l := by
  obtain ⟨l₁, l₂, heq, _⟩ := List.lookup_eq_some_iff.mp h
  simp [heq]

theorem lookup_map_snd (f : β → γ) (l : List (α × β)) (k : α) :
    (l.map fun p => (p.1, f p.2)).lookup k = (l.lookup k).map f := by
  induction l with
  | nil => rfl
  | cons p l ih =>
    rw [List.map_cons, lookup_cons_eq, lookup_cons_eq, ih]
    split <;> rfl

/-- Keys that belong together are both missing, or both have values that belong together. -/
def LookupsAlike {α α' β β' : Type} [BEq α] [BEq α'] (K : α → α' → Prop) (R : β → β' → Prop)
    (l : List (α × β)) (l' : List (α' × β')) : Prop :=
  ∀ k k', K k k' → Option.Rel R (l.lookup k) (l'.lookup k')

variable {α' β' : Type} [DecidableEq α'] {K : α → α' → Prop} {R R' : β → β' → Prop}
  {l' : List (α' × β')}

theorem LookupsAlike.mono (h : LookupsAlike K R l l') (hR : ∀ b b', R b b' → R' b b') :
    LookupsAlike K R' l l' := by
  intro k k' hk
  have hrel := h k k' hk
  revert hrel
  generalize l.lookup k = o
  generalize l'.lookup k' = o'
  rintro (hb | _)
  · exact .some (hR _ _ hb)
  · exact .none

theorem LookupsAlike.cons (h : LookupsAlike K R l l') {j : α} {j' : α'} {b : β} {b' : β'}
    (hj : ∀ k k', K k k' → (k = j ↔ k' = j')) (hb : R b b') :
    LookupsAlike K R ((j, b) :: l) ((j', b') :: l') := by
  intro k k' hk
  rw [lookup_cons_eq, lookup_cons_eq]
  by_cases hkj : k = j
  · rw [if_pos hkj, if_pos ((hj k k' hk).mp hkj)]
    exact .some hb
  · rw [if_neg hkj, if_neg fun heq => hkj ((hj k k' hk).mpr heq)]
    exact h k k' hk

end Entries

/-! ## Members -/

theorem mem_of_mem_eraseDupsBy {r : α → α → Bool} {x : α} (n : Nat) :
    ∀ {l : List α}, l.length ≤ n → x ∈ l.eraseDupsBy r → x ∈ l := by
  induction n with
  | zero =>
    intro l hl hx
    rw [Nat.le_zero, List.length_eq_zero_iff] at hl
    subst hl
    exact hx
  | succ n ih =>
    intro l hl hx
    cases l with
    | nil => exact hx
    | cons a l =>
      rw [List.length_cons] at hl
      rw [List.eraseDupsBy_cons, List.mem_cons] at hx
      rcases hx with rfl | hx
      · exact List.mem_cons_self
      · have hfilter := List.length_filter_le (fun b => r b a = false) l
        exact List.mem_cons_of_mem _ (List.mem_filter.mp (ih (by omega) hx)).1

section

variable [BEq α] [LawfulBEq α] {l : List α} {x : α}

theorem eraseDups_concat_of_mem (hx : x ∈ l) : (l ++ [x]).eraseDups = l.eraseDups := by
  simp [List.eraseDups_append, List.removeAll, hx]

theorem eraseDups_concat_of_not_mem (hx : x ∉ l) : (l ++ [x]).eraseDups = l.eraseDups ++ [x] := by
  simp [List.eraseDups_append, List.removeAll, List.eraseDups_cons, hx]

theorem nodup_eraseDups (l : List α) : l.eraseDups.Nodup := by
  induction l using List.reverseRecOn with
  | nil => simp
  | append_singleton l x ih =>
    by_cases hx : x ∈ l
    · rwa [eraseDups_concat_of_mem hx]
    · rw [eraseDups_concat_of_not_mem hx]
      refine List.nodup_append.mpr ⟨ih, by simp, fun y hy z hz => ?_⟩
      rw [List.mem_singleton.mp hz]
      exact fun heq => hx (heq ▸ List.mem_eraseDups.mp hy)

end

/-! ## Lists side by side -/

/-- What follows for the left members of related pairs holds of all members on the left. -/
theorem forall_mem_left {R : α → β → Prop} {P : α → Prop} {xs : List α} {ys : List β}
    (h : List.Forall₂ R xs ys) (hP : ∀ x y, R x y → P x) : ∀ x ∈ xs, P x :=
  ((List.forall₂_and_left _ _).mp (h.imp fun x y hxy => ⟨hP x y hxy, hxy⟩)).1

theorem forall_mem_right {R : α → β → Prop} {P : β → Prop} {xs : List α} {ys : List β}
    (h : List.Forall₂ R xs ys) (hP : ∀ x y, R x y → P y) : ∀ y ∈ ys, P y :=
  forall_mem_left (R := flip R) h.flip fun y x hxy => hP x y hxy

theorem forall₂_zip {R : α → β → Prop} {S : γ → δ → Prop} {xs : List α} {ys : List β}
    (h : List.Forall₂ R xs ys) : ∀ {zs : List γ} {ws : List δ}, List.Forall₂ S zs ws →
      List.Forall₂ (fun p q => R p.1 q.1 ∧ S p.2 q.2) (xs.zip zs) (ys.zip ws) := by
  induction h with
  | nil => exact fun _ => .nil
  | cons hxy _ ih =>
    intro zs ws h'
    cases h' with
    | nil => exact .nil
    | cons hzw h' => exact .cons ⟨hxy, hzw⟩ (ih h')

/-- Members that are found at the same positions stand at the same positions. -/
theorem idxOf?_eq_of_forall₂ [BEq α] [LawfulBEq α] [BEq β] [LawfulBEq β] {R : α → β → Prop}
    (hR : ∀ {x y x' y'}, R x y → R x' y' → (x = x' ↔ y = y')) {xs : List α} {ys : List β}
    (h : List.Forall₂ R xs ys) {a : α} {b : β} (hab : R a b) : ys.idxOf? b = xs.idxOf? a := by
  induction h with
  | nil => rfl
  | @cons x y xs ys hxy _ ih =>
    rw [List.idxOf?_cons, List.idxOf?_cons, ih]
    by_cases hx : x = a
    · rw [if_pos (beq_iff_eq.mpr hx), if_pos (beq_iff_eq.mpr ((hR hxy hab).mp hx))]
    · rw [if_neg fun h => hx (beq_iff_eq.mp h),
        if_neg fun h => hx ((hR hxy hab).mpr (beq_iff_eq.mp h))]

/-- Members that are equal at the same positions are repeated at the same positions. -/
theorem forall₂_eraseDups [BEq α] [LawfulBEq α] [BEq β] [LawfulBEq β] {R : α → β → Prop}
    (hR : ∀ {x y x' y'}, R x y → R x' y' → (x = x' ↔ y = y')) (n : Nat) :
    ∀ {xs : List α} {ys : List β}, xs.length ≤ n → List.Forall₂ R xs ys →
      List.Forall₂ R xs.eraseDups ys.eraseDups := by
  induction n with
  | zero =>
    intro xs ys hn h
    rw [Nat.le_zero, List.length_eq_zero_iff] at hn
    subst hn
    obtain rfl := List.forall₂_nil_left_iff.mp h
    exact .nil
  | succ n ih =>
    intro xs ys hn h
    cases h with
    | nil => exact .nil
    | @cons x y xs ys hxy h =>
      rw [List.eraseDups_cons, List.eraseDups_cons]
      rw [List.length_cons] at hn
      have hle := List.length_filter_le (fun a => !a == x) xs
      refine .cons hxy (ih (by omega) ?_)
      refine List.rel_filter (fun a b hab => ?_) h
      simp [hR hab hxy]

theorem map_eq_map_iff {f : α → γ} {g : β → γ} {xs : List α} {ys : List β}
    (h : xs.length = ys.length) :
    xs.map f = ys.map g ↔ ∀ p ∈ xs.zip ys, f p.1 = g p.2 := by
  induction xs generalizing ys with
  | nil =>
    rw [List.length_nil, eq_comm, List.length_eq_zero_iff] at h
    simp [h]
  | cons x xs ih =>
    cases ys with
    | nil => simp at h
    | cons y ys =>
      rw [List.length_cons, List.length_cons, Nat.add_right_cancel_iff] at h
      simp [ih h]

/-- Lists with the same images are related if members with the same image are. -/
theorem forall₂_of_map_eq {f : α → γ} {g : β → γ} {R : α → β → Prop} {xs : List α} {ys : List β}
    (h : xs.map f = ys.map g) (hR : ∀ x ∈ xs, ∀ y ∈ ys, f x = g y → R x y) :
    List.Forall₂ R xs ys := by
  have hlen : xs.length = ys.length := by simpa using congrArg List.length h
  refine List.forall₂_iff_zip.mpr ⟨hlen, fun {x y} hmem => ?_⟩
  obtain ⟨hx, hy⟩ := List.of_mem_zip hmem
  exact hR x hx y hy ((map_eq_map_iff hlen).mp h (x, y) hmem)

end LetPoly
