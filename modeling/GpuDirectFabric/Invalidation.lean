import GpuDirectFabric.StaleWorkers

/-!
# Invalidation

When a buffer is retired or moves to its next generation, the registrations for it are to be
revalidated and the plans from it superseded.  A fallback plan also stages its data through a
buffer of its own, which is a buffer like any other; the plans that stage through a buffer stay
in force when it moves on.
-/

namespace GpuDirectFabric

open Coordinator

/-- The stage starts or ends in the buffer. -/
def TransferStage.References (stage : TransferStage) (x : BufferId) : Prop :=
  stage.src = x ∨ stage.dst = x

/-- The plan starts from the buffer, or has a stage that starts or ends there. -/
def TransferPlan.References (plan : TransferPlan) (x : BufferId) : Prop :=
  plan.source = x ∨ ∃ stage ∈ plan.stages, stage.References x

/-- The event is a call that succeeds in retiring the buffer `x` or in advancing its generation. -/
def Event.MovesOn (e : Event) (x : BufferId) (s : State) : Prop :=
  ∃ caller,
    e = .retireBuffer x caller ∧ (Coordinator.retireBuffer x caller s).1 = .ok () ∨
    e = .advanceBufferGeneration x caller ∧
      ∃ b, (Coordinator.advanceBufferGeneration x caller s).1 = .ok b

/-- No plan in force refers to `x` in `s'`, and what does not refer to `x` is as it was in `s`. -/
structure Invalidates (x : BufferId) (s s' : State) : Prop where
  plans : s'.plans.All fun _ plan => plan.authoritative = true → ¬plan.References x
  otherPlans : s.plans.All fun k plan => ¬plan.References x → s'.plans.lookup k = some plan
  otherRegistrations : s.registrations.All fun k r =>
    r.buffer ≠ x → s'.registrations.lookup k = some r

/-- The plans in force that refer to `x` start from it. -/
def OnlySources (x : BufferId) (s : State) : Prop :=
  s.plans.All fun _ plan => plan.authoritative = true → plan.References x → plan.source = x

/-- A buffer that moves on has the registrations for it revalidated and the plans from it
superseded. -/
theorem Event.MovesOn.tables {e : Event} {x : BufferId} {s : State} (h : e.MovesOn x s) :
  (apply e s).plans = s.plans.mapVals (State.supersedeIf fun p => p.source = x) ∧
    (apply e s).registrations = s.registrations.mapVals (State.revalidateIf fun r => r.buffer = x)
  := by
  obtain ⟨caller, ⟨rfl, hok⟩ | ⟨rfl, b', hok⟩⟩ := h
  · rw [apply]
    rw [Coordinator.retireBuffer] at hok ⊢
    cases hb : s.buffers.lookup x with
    | none =>
        rw [hb] at hok
        cases hok
    | some b =>
        rw [hb] at hok
        obtain ⟨hcheck, -⟩ := ok_of_check hok
        dsimp only
        rw [if_neg hcheck]
        exact ⟨rfl, rfl⟩
  · rw [apply]
    rw [Coordinator.advanceBufferGeneration] at hok ⊢
    cases hb : s.buffers.lookup x with
    | none =>
        rw [hb] at hok
        cases hok
    | some b =>
        rw [hb] at hok
        obtain ⟨hcheck, -⟩ := ok_of_check hok
        dsimp only
        rw [if_neg hcheck]
        exact ⟨rfl, rfl⟩

/-- When a buffer moves on, the plans that refer to it are taken out of force, and nothing else is,
exactly when those in force all start from it. -/
theorem invalidates_iff {e : Event} {x : BufferId} {s : State} (h : e.MovesOn x s) :
  Invalidates x s (apply e s) ↔ OnlySources x s
  := by
  obtain ⟨hplans, hregistrations⟩ := h.tables
  have hlookup : ∀ k, (apply e s).plans.lookup k
      = (s.plans.lookup k).map (State.supersedeIf fun p => p.source = x) := by
    intro k
    rw [hplans, Table.lookup_mapVals]
  have hother : ∀ plan : TransferPlan, plan.source ≠ x →
      State.supersedeIf (fun p => p.source = x) plan = plan := by
    intro plan hsource
    exact if_neg (by simpa using hsource)
  constructor
  · intro hinvalidates k plan hplan hauthoritative hreferences
    by_contra hsource
    refine hinvalidates.plans k plan ?_ hauthoritative hreferences
    rw [hlookup, hplan, Option.map_some, hother plan hsource]
  · intro honly
    constructor
    · intro k plan' hplan' hauthoritative hreferences
      rw [hlookup] at hplan'
      obtain ⟨plan, hplan, rfl⟩ := Option.map_eq_some_iff.mp hplan'
      by_cases hsource : plan.source = x
      · rw [State.supersedeIf, if_pos (by simpa using hsource)] at hauthoritative
        cases hauthoritative
      · rw [hother plan hsource] at hauthoritative hreferences
        exact hsource (honly k plan hplan hauthoritative hreferences)
    · intro k plan hplan hnot
      rw [hlookup, hplan, Option.map_some, hother plan]
      exact fun hsource => hnot (.inl hsource)
    · intro k r hr hbuffer
      rw [hregistrations, Table.lookup_mapVals, hr, Option.map_some, State.revalidateIf,
        if_neg (by simpa using hbuffer)]

namespace Fixture

/-- The world in which the buffer is deregistered again, and can be staged. -/
def stageable : World := registered.replay
  [.publishCapability
      { provider := "host"
        capability := "host_staging"
        value := "true"
        support := .synthetic
        authority := { epoch := 1 } },
    .deregisterBuffer 7 owner]

theorem reachable_stageable (setting : Setting) :
  (fabric setting World.New).Reachable stageable
  := reachable_replay (reachable_registered setting) rfl

/-- The world in which the fallback is planned. -/
def fallback : World := stageable.plan request

theorem reachable_fallback (setting : Setting) :
  (fabric setting World.New).Reachable fallback
  := reachable_plan (reachable_stageable setting) request

/-- The fallback plan, which stages through the buffer 11. -/
def fallbackPlan : TransferPlan := (fallback.state.plans.lookup 9).getD {}

theorem movesOn_staging :
  (Event.retireBuffer 11 owner).MovesOn 11 fallback.state
  := ⟨owner, .inl ⟨rfl, by decide +kernel⟩⟩

end Fixture

theorem invalidates_iff_fixture :
  Invalidates 11 Fixture.fallback.state (apply (.retireBuffer 11 Fixture.owner)
    Fixture.fallback.state) ↔ OnlySources 11 Fixture.fallback.state
  := invalidates_iff Fixture.movesOn_staging

/-- The plan stays in force when the buffer it stages through is retired. -/
theorem staged_plan_in_force :
  persistedFabric.Reachable Fixture.fallback ∧
  (Event.retireBuffer 11 Fixture.owner).MovesOn 11 Fixture.fallback.state ∧
  ¬Invalidates 11 Fixture.fallback.state
    (Fixture.fallback.next (.retireBuffer 11 Fixture.owner)).state
  := by
  refine ⟨Fixture.reachable_fallback _, Fixture.movesOn_staging, fun h => ?_⟩
  have hplan : ∃ plan, (Fixture.fallback.next
      (.retireBuffer 11 Fixture.owner)).state.plans.lookup 9 = some plan ∧
      plan.authoritative = true ∧ ∃ stage ∈ plan.stages, stage.dst = 11 := by
    decide +kernel
  obtain ⟨plan, hplan, hauthoritative, stage, hstage, hdst⟩ := hplan
  exact h.plans 9 plan hplan hauthoritative (.inr ⟨stage, hstage, .inr hdst⟩)

end GpuDirectFabric
