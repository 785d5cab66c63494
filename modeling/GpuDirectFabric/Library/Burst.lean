import Mathlib.Data.List.Basic
import Mathlib.Logic.Function.Basic

/-!
# Bursts

Two strings of the same length differ in a *burst* of length `n` when they differ, and only inside
some window of `n` consecutive places.

A checksum is computed by a *shift register*.  A state of the register has `depth` places, and a
step takes a symbol in and moves the others down; what falls out shows which symbol it was.  So two
states that agree above some place come from states that agree above the next one, and by the same
symbol if it came in the same state.  A string *sealed* with the final state of the register never
differs in a burst of length `depth` from another sealed string.
-/

/-- The strings have the same length and differ, only inside some window of length `n`. -/
structure Burst {β : Type} (n : ℕ) (xs ys : List β) : Prop where
  length : xs.length = ys.length
  ne : xs ≠ ys
  window : ∃ i, xs.take i = ys.take i ∧ xs.drop (i + n) = ys.drop (i + n)

/-- A shift register: `Agree k s s'` says that the states agree above the `k` lowest places. -/
structure ShiftRegister (σ β : Type) where
  step : σ → β → σ
  depth : ℕ
  Agree : ℕ → σ → σ → Prop
  agree_zero : ∀ {s s'}, Agree 0 s s' ↔ s = s'
  step_injective : ∀ b, Function.Injective fun s => step s b
  back : ∀ {k s s' b b'}, k < depth → Agree k (step s b) (step s' b') → Agree (k + 1) s s'
  symbol : ∀ {k s b b'}, k < depth → Agree k (step s b) (step s b') → b = b'

namespace ShiftRegister

variable {σ β : Type} (R : ShiftRegister σ β)

/-- The state after a string. -/
def run (s : σ) (xs : List β) : σ := xs.foldl R.step s

theorem run_append (s : σ) (xs ys : List β) :
  R.run s (xs ++ ys) = R.run (R.run s xs) ys
  := List.foldl_append

/-- A string does not make different states equal. -/
theorem run_injective (xs : List β) :
  Function.Injective fun s => R.run s xs
  := by
  induction xs with
  | nil =>
      intro s s' h
      exact h
  | cons x xs ih =>
      intro s s' h
      apply R.step_injective x
      apply ih
      exact h

variable {R}

/-- States that agree above some place come from states that agree above as many places more as
symbols have come in. -/
theorem agree_of_run {k : ℕ} {xs ys : List β} (hlength : xs.length = ys.length)
    (hk : k + xs.length ≤ R.depth) {s s' : σ} (h : R.Agree k (R.run s xs) (R.run s' ys)) :
  R.Agree (k + xs.length) s s'
  := by
  induction xs generalizing ys s s' with
  | nil =>
      obtain rfl := List.length_eq_zero_iff.mp hlength.symm
      exact h
  | cons x xs ih =>
      cases ys with
      | nil => cases hlength
      | cons y ys =>
          rw [List.length_cons] at hk
          have hstep : R.Agree (k + xs.length) (R.step s x) (R.step s' y) :=
            ih (Nat.succ.inj hlength) (by omega) h
          apply R.back (by omega) hstep

/-- Strings that are not too long for the register and lead from one state to states that agree
above some place are the same. -/
theorem eq_of_agree {k : ℕ} {xs ys : List β} (hlength : xs.length = ys.length)
    (hk : k + xs.length ≤ R.depth) {s : σ} (h : R.Agree k (R.run s xs) (R.run s ys)) :
  xs = ys
  := by
  induction xs generalizing ys s with
  | nil => exact (List.length_eq_zero_iff.mp hlength.symm).symm
  | cons x xs ih =>
      cases ys with
      | nil => cases hlength
      | cons y ys =>
          rw [List.length_cons] at hk
          have hrest : xs.length = ys.length := Nat.succ.inj hlength
          have hstep : R.Agree (k + xs.length) (R.step s x) (R.step s y) := by
            apply agree_of_run hrest (by omega)
            exact h
          obtain rfl := R.symbol (by omega) hstep
          rw [ih hrest (by omega) h]

end ShiftRegister

/-- What is written after a string to seal it, from the final state of the register: as many symbols
as the register has places, of which the last ones determine the places above. -/
structure Seal {σ β : Type} (R : ShiftRegister σ β) where
  image : σ → List β
  length_image : ∀ s, (image s).length = R.depth
  agree : ∀ {k s s'}, (image s).drop k = (image s').drop k → R.Agree k s s'

namespace Seal

variable {σ β : Type} {R : ShiftRegister σ β} (S : Seal R)

/-- The string, with its seal. -/
def sealed (init : σ) (xs : List β) : List β := xs ++ S.image (R.run init xs)

theorem length_sealed (init : σ) (xs : List β) :
  (S.sealed init xs).length = xs.length + R.depth
  := by
  rw [sealed, List.length_append, S.length_image]

/-- Sealed strings that agree outside of a window agree inside of it. -/
theorem window_eq {init : σ} {pre win win' post : List β} {k : ℕ}
    (hlength : win.length = win'.length) (hk : k + win.length ≤ R.depth)
    (hpost : k = 0 ∨ post = [])
    (hseal : (S.image (R.run init (pre ++ (win ++ post)))).drop k
      = (S.image (R.run init (pre ++ (win' ++ post)))).drop k) :
  win = win'
  := by
  have hagree := S.agree hseal
  simp only [R.run_append] at hagree
  obtain rfl | rfl := hpost
  · have hequal := R.run_injective post (R.agree_zero.mp hagree)
    exact ShiftRegister.eq_of_agree hlength hk (R.agree_zero.mpr hequal)
  · exact ShiftRegister.eq_of_agree hlength hk hagree

/-- Sealed strings do not differ in a burst. -/
theorem not_burst (init : σ) (xs ys : List β) :
  ¬Burst R.depth (S.sealed init xs) (S.sealed init ys)
  := by
  rintro ⟨hlength, hne, i, htake, hdrop⟩
  rw [length_sealed, length_sealed, Nat.add_right_cancel_iff] at hlength
  apply hne
  suffices h : xs = ys by rw [h]
  rw [sealed, sealed, List.take_append, List.take_append] at htake
  rw [sealed, sealed, List.drop_append, List.drop_append] at hdrop
  have hpre : xs.take i = ys.take i :=
    (List.append_inj htake (by rw [List.length_take, List.length_take, hlength])).1
  obtain ⟨hpost, hseal⟩ := List.append_inj hdrop
    (by rw [List.length_drop, List.length_drop, hlength])
  rw [← hlength] at hseal
  generalize hk : i + R.depth - xs.length = k at hseal
  have hsplit : ∀ zs : List β,
      zs = zs.take i ++ ((zs.drop i).take R.depth ++ zs.drop (i + R.depth)) := by
    intro zs
    rw [← List.drop_drop, List.take_append_drop, List.take_append_drop]
  have hwin : (xs.drop i).take R.depth = (ys.drop i).take R.depth := by
    by_cases hinside : xs.length ≤ i
    · rw [List.drop_of_length_le hinside, List.drop_of_length_le (hlength ▸ hinside)]
    · rw [hsplit xs, hsplit ys, hpre, hpost] at hseal
      apply S.window_eq _ _ _ hseal
      · simp only [List.length_take, List.length_drop, hlength]
      · rw [List.length_take, List.length_drop]
        omega
      · by_cases hwhole : i + R.depth ≤ xs.length
        · exact .inl (by omega)
        · right
          apply List.drop_of_length_le
          omega
  rw [hsplit xs, hsplit ys, hpre, hwin, hpost]

end Seal
