import GpuDirectFabric.Library.Transition
import Mathlib.Data.List.Basic

/-!
# Reads in a history

An observer of a system reads one part of a world, and later another part of a later world.  The two
parts are those of one world in between, if every step in between that changes the second part
leaves the first one as it was read.
-/

namespace System

variable {W E : Type}

/-! ### Spans of a history -/

/-- The worlds before the events of a history, back to the latest event that satisfies `p`. -/
def since (p : E → Bool) : List (W × E) → List W
  | [] => []
  | (w, e) :: h => w :: if p e then [] else since p h

/-- The history up to the latest event that satisfies `p`. -/
def upTo (p : E → Bool) (h : List (W × E)) : List (W × E) := h.dropWhile fun t => !p t.2

section

variable {p : E → Bool} {h : List (W × E)} {w : W} {e : E}

theorem since_of_event (he : p e = true) :
  since p ((w, e) :: h) = [w]
  := by rw [since, if_pos he]

theorem since_of_not (he : p e = false) :
  since p ((w, e) :: h) = w :: since p h
  := by rw [since, if_neg (Bool.eq_false_iff.mp he)]

theorem upTo_of_event (he : p e = true) :
  upTo p ((w, e) :: h) = (w, e) :: h
  := by rw [upTo, List.dropWhile_cons_of_neg (by simp [he])]

theorem upTo_of_not (he : p e = false) :
  upTo p ((w, e) :: h) = upTo p h
  := by rw [upTo, List.dropWhile_cons_of_pos (by simp [he]), upTo]

end

/-! ### Two reads -/

section

variable {α β : Type} {f : W → α} {g : W → β}

/-- In the worlds `ws`, latest first, every step that changes `g` leaves `f` at the value `a`. -/
def Leaves (f : W → α) (g : W → β) (a : α) (ws : List W) : Prop :=
  ∀ w w', [w', w] <:+: ws → g w' ≠ g w → f w' = a

/-- When the steps that change `g` leave `f` as it is in the first world, some world has the `f` of
the first world and the `g` of the last. -/
theorem Leaves.common {w v : W} {ws : List W} (h : Leaves f g (f v) (w :: ws))
    (hfirst : (w :: ws).getLast? = some v) :
  ∃ u ∈ w :: ws, f u = f v ∧ g u = g w
  := by
  induction ws generalizing w with
  | nil =>
      obtain rfl := Option.some.inj hfirst
      exact ⟨w, List.mem_cons_self, rfl, rfl⟩
  | cons w₀ ws ih =>
      by_cases hg : g w = g w₀
      · have hrest : Leaves f g (f v) (w₀ :: ws) :=
          fun u u' hstep => h u u' (hstep.trans (List.suffix_cons w _).isInfix)
        rw [List.getLast?_cons_cons] at hfirst
        obtain ⟨u, hu, hfu, hgu⟩ := ih hrest hfirst
        exact ⟨u, List.mem_cons_of_mem w hu, hfu, hgu.trans hg.symm⟩
      · have hstep : [w, w₀] <:+: w :: w₀ :: ws := (List.prefix_append [w, w₀] ws).isInfix
        exact ⟨w, List.mem_cons_self, h w₀ w hstep hg, rfl⟩

end

end System
