import Mathlib.Data.List.Basic

/-!
# Searches

Two searches of a list: for the first value that has a property, and for the newest one, the
first of those with the highest key.  What a search finds depends on the order of the list in
general; it does not when the property, or the key among the values with the property,
determines the value.
-/

namespace Search

variable {α : Type}

/-- `x` is the first value of `xs` that has the property `P`. -/
def First (P : α → Prop) (xs : List α) (x : α) : Prop :=
  P x ∧ ∃ before after, xs = before ++ x :: after ∧ ∀ y ∈ before, ¬P y

/-- `x` is the newest value of `xs` that has the property `P`: those before it have lower keys,
and those after it have no higher ones. -/
def Newest (P : α → Prop) (key : α → ℕ) (xs : List α) (x : α) : Prop :=
  P x ∧ ∃ before after, xs = before ++ x :: after ∧
    (∀ y ∈ before, P y → key y < key x) ∧ ∀ y ∈ after, P y → key y ≤ key x

variable {P : α → Prop} {key : α → ℕ} {xs ys : List α} {x : α}

/-! ### First values -/

theorem First.mem (h : First P xs x) :
  x ∈ xs
  := by
  obtain ⟨-, before, after, rfl, -⟩ := h
  exact List.mem_append_right _ List.mem_cons_self

theorem first_iff_find? {p : α → Bool} :
  First (fun x => p x = true) xs x ↔ xs.find? p = some x
  := by
  rw [List.find?_eq_some_iff_append, First]
  simp

/-- Where the property determines the value, the value that has it is the first. -/
theorem first_of_mem (hx : x ∈ xs) (hP : P x) (hunique : ∀ y ∈ xs, P y → y = x) :
  First P xs x
  := by
  obtain ⟨before, after, rfl, hnew⟩ := List.eq_append_cons_of_mem hx
  refine ⟨hP, before, after, rfl, ?_⟩
  intro y hy hPy
  obtain rfl := hunique y (List.mem_append_left _ hy) hPy
  exact hnew hy

/-- The first value does not depend on the order where the property determines it. -/
theorem First.perm (h : First P xs x) (hperm : xs.Perm ys)
    (hunique : ∀ y ∈ xs, P y → y = x) :
  First P ys x
  := by
  apply first_of_mem (hperm.mem_iff.mp h.mem) h.1
  intro y hy
  exact hunique y (hperm.mem_iff.mpr hy)

/-! ### Newest values -/

theorem Newest.mem (h : Newest P key xs x) :
  x ∈ xs
  := by
  obtain ⟨-, before, after, rfl, -⟩ := h
  exact List.mem_append_right _ List.mem_cons_self

/-- No value with the property has a higher key than the newest. -/
theorem Newest.le {y : α} (h : Newest P key xs x) (hy : y ∈ xs) (hP : P y) :
  key y ≤ key x
  := by
  obtain ⟨-, before, after, rfl, hbefore, hafter⟩ := h
  obtain hy | hy := List.mem_append.mp hy
  · exact Nat.le_of_lt (hbefore y hy hP)
  · obtain rfl | hy := List.mem_cons.mp hy
    · exact Nat.le_refl _
    · exact hafter y hy hP

/-- Where the key determines the value, the value with the highest key is the newest. -/
theorem newest_of_mem (hx : x ∈ xs) (hP : P x) (hle : ∀ y ∈ xs, P y → key y ≤ key x)
    (hunique : ∀ y ∈ xs, P y → key y = key x → y = x) :
  Newest P key xs x
  := by
  obtain ⟨before, after, rfl, hnew⟩ := List.eq_append_cons_of_mem hx
  refine ⟨hP, before, after, rfl, ?_, ?_⟩
  · intro y hy hPy
    have hmem : y ∈ before ++ x :: after := List.mem_append_left _ hy
    apply Nat.lt_of_le_of_ne (hle y hmem hPy)
    intro heq
    obtain rfl := hunique y hmem hPy heq
    exact hnew hy
  · intro y hy
    exact hle y (List.mem_append_right _ (List.mem_cons_of_mem x hy))

/-- The newest value does not depend on the order where the key determines it. -/
theorem Newest.perm (h : Newest P key xs x) (hperm : xs.Perm ys)
    (hunique : ∀ y ∈ xs, P y → key y = key x → y = x) :
  Newest P key ys x
  := by
  apply newest_of_mem (hperm.mem_iff.mp h.mem) h.1
  · intro y hy
    exact h.le (hperm.mem_iff.mpr hy)
  · intro y hy
    exact hunique y (hperm.mem_iff.mpr hy)

theorem not_newest_nil :
  ¬Newest P key [] x
  := by
  intro h
  cases h.mem

/-- The newest value of a list that has one value more, at its end. -/
theorem newest_concat {a : α} :
  Newest P key (xs ++ [a]) x ↔
    x = a ∧ P a ∧ (∀ y ∈ xs, P y → key y < key a) ∨
      Newest P key xs x ∧ (P a → key a ≤ key x)
  := by
  constructor
  · rintro ⟨hP, before, after, heq, hbefore, hafter⟩
    obtain rfl | ⟨after, b, rfl⟩ := List.eq_nil_or_concat after
    · obtain ⟨rfl, hlast⟩ := List.append_inj' heq rfl
      obtain rfl := List.singleton_inj.mp hlast
      exact .inl ⟨rfl, hP, hbefore⟩
    · rw [List.concat_eq_append, ← List.cons_append, ← List.append_assoc] at heq
      obtain ⟨rfl, hlast⟩ := List.append_inj' heq rfl
      obtain rfl := List.singleton_inj.mp hlast
      rw [List.concat_eq_append] at hafter
      right
      constructor
      · exact ⟨hP, before, after, rfl, hbefore, fun y hy => hafter y (List.mem_append_left _ hy)⟩
      · exact hafter a (List.mem_append_right _ List.mem_cons_self)
  · rintro (⟨rfl, hP, hbefore⟩ | ⟨⟨hP, before, after, rfl, hbefore, hafter⟩, ha⟩)
    · refine ⟨hP, xs, [], rfl, hbefore, ?_⟩
      rintro y ⟨⟩
    · refine ⟨hP, before, after ++ [a], by rw [List.append_assoc, List.cons_append], hbefore, ?_⟩
      intro y hy hPy
      obtain hy | hy := List.mem_append.mp hy
      · exact hafter y hy hPy
      · obtain rfl := List.mem_singleton.mp hy
        exact ha hPy

end Search
