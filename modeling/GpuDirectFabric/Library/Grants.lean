import GpuDirectFabric.Library.Transition
import Mathlib.Data.List.Basic

/-!
# Grants and revocations

Something is granted by some steps of a system and revoked by others.  It holds after a step when
the step grants it, or it held before and the step does not revoke it.  Then whether it holds can be
read off the history: it has been granted, or held from the start, and has not been revoked since.
-/

namespace System

variable {W E : Type} {S : System W E} {P : Prop} {G R : W → E → Prop}

/-- What the steps that satisfy `G` grant, and those that satisfy `R` revoke, has been granted in
the history `h`, or before it if `P`, and not been revoked since. -/
def Granted (P : Prop) (G R : W → E → Prop) (h : List (W × E)) : Prop :=
  ∃ later earlier, h = later ++ earlier ∧ (∀ t ∈ later, ¬R t.1 t.2) ∧
    match earlier with
    | [] => P
    | t :: _ => G t.1 t.2

theorem granted_nil :
  Granted P G R [] ↔ P
  := by
  constructor
  · rintro ⟨later, earlier, heq, -, hgranted⟩
    obtain ⟨-, rfl⟩ := List.append_eq_nil_iff.mp heq.symm
    apply hgranted
  · intro hP
    exact ⟨[], [], rfl, List.forall_mem_nil _, hP⟩

theorem granted_cons {w : W} {e : E} {h : List (W × E)} :
  Granted P G R ((w, e) :: h) ↔ G w e ∨ Granted P G R h ∧ ¬R w e
  := by
  constructor
  · rintro ⟨later, earlier, heq, hkept, hgranted⟩
    cases later with
    | nil =>
        rw [List.nil_append] at heq
        rw [← heq] at hgranted
        left
        apply hgranted
    | cons t later =>
        obtain ⟨rfl, rfl⟩ := List.cons.inj heq
        rw [List.forall_mem_cons] at hkept
        right
        exact ⟨⟨later, earlier, rfl, hkept.2, hgranted⟩, hkept.1⟩
  · rintro (hG | ⟨⟨later, earlier, rfl, hkept, hgranted⟩, hR⟩)
    · exact ⟨[], (w, e) :: h, rfl, List.forall_mem_nil _, hG⟩
    · refine ⟨(w, e) :: later, earlier, rfl, ?_, hgranted⟩
      rw [List.forall_mem_cons]
      use hR

/-- What a step from a reachable world grants and revokes holds at the end of a run exactly when the
run, or its start, has granted it and not revoked it since. -/
theorem Run.holds_iff_granted {A : W → Prop} (hstart : ∀ w, S.start w → (A w ↔ P))
    (hstep : ∀ w e w', S.Reachable w → S.step w e w' → (A w' ↔ G w e ∨ A w ∧ ¬R w e))
    (hhandover : ∀ d w e w', S.Reachable w → S.handover d w e w' →
      (A w' ↔ G w e ∨ A w ∧ ¬R w e))
    {h : List (W × E)} {w : W} (hrun : S.Run h w) :
  A w ↔ Granted P G R h
  := by
  induction hrun with
  | start hw =>
      rw [granted_nil]
      apply hstart _ hw
  | step hrun hs ih =>
      rw [granted_cons, ← ih]
      apply hstep _ _ _ ⟨_, hrun⟩ hs
  | handover hrun _ hs ih =>
      rw [granted_cons, ← ih]
      apply hhandover _ _ _ _ ⟨_, hrun⟩ hs

end System
