import Mathlib.Data.List.Basic

/-!
# Transition systems and fences

A *system* has starting worlds, labelled steps, and labelled *handovers*: steps that also
read a world, the donor, reached by another run of the system, as when a process starts from
what an earlier one left behind.  A run carries its history, the worlds it went through and the
labels of the steps it took there, latest first.

A *fence* is what keeps evidence current.  Holders cite resources at a generation, and each
resource has at most one current generation.  The citations are sound when every cited
generation is the current one.  A step that moves a resource on has to revoke the citations of
it; such steps keep the citations sound.
-/

/-- A transition system on worlds `W` with labels `E`; `handover d w e w'` is a step from `w` to
`w'` that reads the donor `d`. -/
structure System (W E : Type) where
  start : W → Prop
  step : W → E → W → Prop
  handover : W → W → E → W → Prop

namespace System

variable {W E : Type} {S : System W E}

/-- `S.Run h w`: a run of `S` with history `h` has reached `w`. -/
inductive Run (S : System W E) : List (W × E) → W → Prop
  | start {w : W} (hw : S.start w) : Run S [] w
  | step {h : List (W × E)} {w w' : W} {e : E} (run : Run S h w) (hs : S.step w e w') :
      Run S ((w, e) :: h) w'
  | handover {h h' : List (W × E)} {w d w' : W} {e : E} (run : Run S h w) (donor : Run S h' d)
      (hs : S.handover d w e w') : Run S ((w, e) :: h) w'

/-- The worlds some run reaches. -/
def Reachable (S : System W E) (w : W) : Prop := ∃ h, S.Run h w

/-- What holds at the start and is kept by steps, and by handovers from worlds where it
holds, holds in every reachable world. -/
theorem Reachable.invariant {P : W → Prop} (hstart : ∀ w, S.start w → P w)
    (hstep : ∀ w e w', P w → S.step w e w' → P w')
    (hhandover : ∀ d w e w', P d → P w → S.handover d w e w' → P w') {w : W}
    (h : S.Reachable w) :
  P w
  := by
  obtain ⟨h, hrun⟩ := h
  induction hrun with
  | start hw => exact hstart _ hw
  | step _ hs ih => exact hstep _ _ _ ih hs
  | handover _ _ hs ihw ihd => exact hhandover _ _ _ _ ihd ihw hs

/-- What holds at the start and is kept by the steps and handovers between reachable worlds holds in
every reachable world. -/
theorem Reachable.induction {P : W → Prop} (hstart : ∀ w, S.start w → P w)
    (hstep : ∀ w e w', S.Reachable w → P w → S.step w e w' → P w')
    (hhandover : ∀ d w e w', S.Reachable d → P d → S.Reachable w → P w → S.handover d w e w' →
      P w') {w : W} (h : S.Reachable w) :
  P w
  := by
  obtain ⟨h, hrun⟩ := h
  induction hrun with
  | start hw => apply hstart _ hw
  | step hrun hs ih => apply hstep _ _ _ ⟨_, hrun⟩ ih hs
  | handover hrun hdonor hs ihw ihd =>
      apply hhandover _ _ _ _ ⟨_, hdonor⟩ ihd ⟨_, hrun⟩ ihw hs

/-- The system that takes only the steps that meet `C`. -/
def restrict (S : System W E) (C : W → E → Prop) : System W E :=
  { S with step := fun w e w' => C w e ∧ S.step w e w' }

/-- A system that takes fewer steps stays in reachable worlds. -/
theorem Reachable.of_restrict {C : W → E → Prop} {w : W} (h : (S.restrict C).Reachable w) :
  S.Reachable w
  := by
  apply h.invariant
  · intro w hw
    exact ⟨_, .start hw⟩
  · rintro w e w' ⟨h, hrun⟩ ⟨-, hs⟩
    exact ⟨_, hrun.step hs⟩
  · rintro d w e w' ⟨h', hdonor⟩ ⟨h, hrun⟩ hs
    exact ⟨_, hrun.handover hdonor hs⟩

/-- The worlds of a run that has reached `w`, latest first. -/
def visited (h : List (W × E)) (w : W) : List W := w :: h.map Prod.fst

/-- The worlds of a run are reachable. -/
theorem Run.reachable_of_visited {h : List (W × E)} {v w : W} (hrun : S.Run h w)
    (hv : v ∈ visited h w) :
  S.Reachable v
  := by
  induction hrun with
  | start hw =>
      obtain rfl := List.mem_singleton.mp hv
      exact ⟨_, .start hw⟩
  | step hrun hs ih =>
      obtain rfl | hv := List.mem_cons.mp hv
      · exact ⟨_, hrun.step hs⟩
      · exact ih hv
  | handover hrun hdonor hs ih =>
      obtain rfl | hv := List.mem_cons.mp hv
      · exact ⟨_, hrun.handover hdonor hs⟩
      · exact ih hv

/-- What holds after a step or handover of a run, and is kept by those the run took since, holds at
its end. -/
theorem Run.since {P : W → Prop} {u w : W} {e : E} {later earlier : List (W × E)}
    (hrun : S.Run (later ++ (u, e) :: earlier) w)
    (hstart : ∀ v, (S.step u e v ∨ ∃ d, S.handover d u e v) → P v)
    (hstep : ∀ v e v', (v, e) ∈ later → S.Reachable v → P v →
      (S.step v e v' ∨ ∃ d, S.handover d v e v') → P v') :
  P w
  := by
  induction later generalizing w with
  | nil =>
      apply hstart
      cases hrun with
      | step _ hs => exact .inl hs
      | handover _ _ hs => exact .inr ⟨_, hs⟩
  | cons t later ih =>
      have hkept : ∀ v e v', (v, e) ∈ later → S.Reachable v → P v →
          (S.step v e v' ∨ ∃ d, S.handover d v e v') → P v' := by
        intro v e v' hmem
        apply hstep v e v' (List.mem_cons_of_mem t hmem)
      cases hrun with
      | step run hs =>
          apply hstep _ _ _ List.mem_cons_self ⟨_, run⟩ (ih run hkept) (.inl hs)
      | handover run _ hs =>
          apply hstep _ _ _ List.mem_cons_self ⟨_, run⟩ (ih run hkept) (.inr ⟨_, hs⟩)

/-- The world before a step of a run is one of its worlds. -/
theorem mem_visited_of_mem {u w : W} {e : E} {h : List (W × E)} (ht : (u, e) ∈ h) :
  u ∈ visited h w
  := List.mem_cons_of_mem w (List.mem_map_of_mem ht)

/-- The steps of a run that has reached `w`, latest first: the world before, the label and the world
after. -/
def steps : List (W × E) → W → List (W × E × W)
  | [], _ => []
  | (v, e) :: h, w => (v, e, w) :: steps h v

/-- The steps of a run are steps or handovers of the system, from reachable worlds. -/
theorem Run.of_mem_steps {h : List (W × E)} {v v' w : W} {e : E} (hrun : S.Run h w)
    (ht : (v, e, v') ∈ steps h w) :
  S.Reachable v ∧ (S.step v e v' ∨ ∃ d, S.handover d v e v')
  := by
  induction hrun with
  | start => cases ht
  | step hrun hs ih =>
      obtain ht | ht := List.mem_cons.mp ht
      · cases ht
        exact ⟨⟨_, hrun⟩, .inl hs⟩
      · exact ih ht
  | handover hrun _ hs ih =>
      obtain ht | ht := List.mem_cons.mp ht
      · cases ht
        exact ⟨⟨_, hrun⟩, .inr ⟨_, hs⟩⟩
      · exact ih ht

/-- Suppose that, in a reachable world where `P` holds, a step or handover keeps it exactly when it
meets `C`.  Then `P` holds in every world of a run from a start where it holds, exactly when every
step the run took meets `C`. -/
theorem Run.invariant_iff {P : W → Prop} {C : W → E → Prop} (hstart : ∀ w, S.start w → P w)
    (hstep : ∀ w e w', S.Reachable w → P w → S.step w e w' → (P w' ↔ C w e))
    (hhandover : ∀ d w e w', S.Reachable d → S.Reachable w → P w → S.handover d w e w' →
      (P w' ↔ C w e))
    {h : List (W × E)} {w : W} (hrun : S.Run h w) :
  (∀ v ∈ visited h w, P v) ↔ ∀ p ∈ h, C p.1 p.2
  := by
  have hnext : ∀ {h : List (W × E)} {w w' : W} {e : E},
      ((∀ v ∈ visited h w, P v) ↔ ∀ p ∈ h, C p.1 p.2) → (P w → (P w' ↔ C w e)) →
      ((∀ v ∈ visited ((w, e) :: h) w', P v) ↔ ∀ p ∈ (w, e) :: h, C p.1 p.2) := by
    intro h w w' e ih hs
    rw [List.forall_mem_cons, ← ih, visited, List.map_cons, List.forall_mem_cons]
    constructor
    · rintro ⟨hP', hvisited⟩
      exact ⟨(hs (hvisited w List.mem_cons_self)).mp hP', hvisited⟩
    · rintro ⟨hC, hvisited⟩
      exact ⟨(hs (hvisited w List.mem_cons_self)).mpr hC, hvisited⟩
  induction hrun with
  | start hw =>
      rw [visited, List.map_nil, List.forall_mem_singleton]
      constructor
      · intro _ p hp
        cases hp
      · intro
        exact hstart _ hw
  | step hrun hs ih => exact hnext ih fun hP => hstep _ _ _ ⟨_, hrun⟩ hP hs
  | handover hrun hdonor hs ih _ =>
      exact hnext ih fun hP => hhandover _ _ _ _ ⟨_, hdonor⟩ ⟨_, hrun⟩ hP hs

/-- Suppose that `R` is transitive, and that the worlds before and after a step or handover are
related by `R` exactly when it meets `C`.  Then every world of a run is related to all later ones
exactly when every step the run took meets `C`. -/
theorem Run.pairwise_iff {R : W → W → Prop} {C : W → E → Prop}
    (htrans : ∀ u v w, R u v → R v w → R u w)
    (hstep : ∀ w e w', S.Reachable w → S.step w e w' → (R w w' ↔ C w e))
    (hhandover : ∀ d w e w', S.Reachable w → S.handover d w e w' → (R w w' ↔ C w e))
    {h : List (W × E)} {w : W} (hrun : S.Run h w) :
  (visited h w).Pairwise (fun v u => R u v) ↔ ∀ p ∈ h, C p.1 p.2
  := by
  have hnext : ∀ {h : List (W × E)} {w w' : W} {e : E},
      ((visited h w).Pairwise (fun v u => R u v) ↔ ∀ p ∈ h, C p.1 p.2) → (R w w' ↔ C w e) →
      ((visited ((w, e) :: h) w').Pairwise (fun v u => R u v) ↔ ∀ p ∈ (w, e) :: h, C p.1 p.2) := by
    intro h w w' e ih hs
    rw [List.forall_mem_cons, ← ih, ← hs]
    change (w' :: visited h w).Pairwise _ ↔ _
    rw [List.pairwise_cons]
    constructor
    · rintro ⟨hlast, hbefore⟩
      exact ⟨hlast w List.mem_cons_self, hbefore⟩
    · rintro ⟨hlast, hbefore⟩
      refine ⟨fun u hu => ?_, hbefore⟩
      obtain rfl | hu := List.mem_cons.mp hu
      · exact hlast
      · exact htrans u w w' ((List.pairwise_cons.mp hbefore).1 u hu) hlast
  induction hrun with
  | start hw =>
      constructor
      · intro _ p hp
        cases hp
      · intro
        exact List.pairwise_singleton _ _
  | step hrun hs ih => exact hnext ih (hstep _ _ _ ⟨_, hrun⟩ hs)
  | handover hrun _ hs ih _ => exact hnext ih (hhandover _ _ _ _ ⟨_, hrun⟩ hs)

/-- In the worlds `ws`, latest first, what `A` says does not hold again once it has ceased to. -/
def NeverAgain (A : W → Prop) (ws : List W) : Prop :=
  ∀ u v w, [w, v, u].Sublist ws → A u → ¬A v → ¬A w

/-- When `A` can only give way to `D`, which excludes `A` and stays, `A` never holds again. -/
theorem neverAgain_of_pairwise {A D : W → Prop} {ws : List W} (hdisjoint : ∀ w ∈ ws, D w → ¬A w)
    (h : ws.Pairwise fun v u => (A u → A v ∨ D v) ∧ (D u → D v)) :
  NeverAgain A ws
  := by
  intro u v w hsublist hu hv
  obtain ⟨hw, hvu⟩ := List.pairwise_cons.mp (h.sublist hsublist)
  obtain hv' | hdead := ((List.pairwise_cons.mp hvu).1 u List.mem_cons_self).1 hu
  · exact absurd hv' hv
  · apply hdisjoint w (hsublist.subset List.mem_cons_self)
    exact (hw v List.mem_cons_self).2 hdead

end System

/-! ## Fences -/

/-- Resources `R` with their current generations `G`, and the generations at which holders
`D` cite them. -/
structure Fence (R G D : Type) where
  current : R → Option G
  cites : D → R → G → Prop

namespace Fence

variable {R G D : Type}

/-- Every cited generation is the current one. -/
def Sound (f : Fence R G D) : Prop := ∀ d r g, f.cites d r g → f.current r = some g

/-- A step from `f` to `f'` moves a resource on only if it revokes the citations of it, and what
it cites anew is current. -/
structure Step (f f' : Fence R G D) : Prop where
  revoked : ∀ d r g g', f.current r = some g → f'.current r ≠ some g → ¬f'.cites d r g'
  granted : ∀ d r g, f'.cites d r g → f.cites d r g ∨ f'.current r = some g

theorem Sound.step {f f' : Fence R G D} (hs : f.Sound) (h : f.Step f') :
  f'.Sound
  := by
  intro d r g hcite
  obtain hold | hcurrent := h.granted d r g hcite
  · by_contra hmoved
    exact h.revoked d r g g (hs d r g hold) hmoved hcite
  · exact hcurrent

/-- Where nothing is cited, all citations are sound. -/
theorem Sound.of_no_cites {f : Fence R G D} (h : ∀ d r g, ¬f.cites d r g) :
  f.Sound
  := fun d r g hcite => absurd hcite (h d r g)

end Fence
