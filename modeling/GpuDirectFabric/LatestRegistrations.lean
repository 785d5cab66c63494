import GpuDirectFabric.Frames

/-!
# Latest registrations

The registrations of a buffer for an endpoint are numbered by their generations.  A new one is
numbered above all the others, and is made only when the latest of them is not in force; so at
most one is in force, and it is the latest.
-/

namespace GpuDirectFabric

open Coordinator Persistence

/-- The state holds the registration `r` under the key `k`, for the pair. -/
structure State.Holds (s : State) (buffer : BufferId) (endpoint : EndpointId) (k : RegistrationId)
    (r : Registration) : Prop where
  stored : s.registrations.lookup k = some r
  buffer : r.buffer = buffer
  endpoint : r.endpoint = endpoint

/-- The registrations of the pair have distinct generations, at most one is `REGISTERED`, and
that one has the highest generation. -/
structure State.AtMostOneCurrent (s : State) (buffer : BufferId) (endpoint : EndpointId) :
    Prop where
  distinct : ∀ k k' r r', s.Holds buffer endpoint k r → s.Holds buffer endpoint k' r' →
    r.generation = r'.generation → k = k'
  single : ∀ k k' r r', s.Holds buffer endpoint k r → s.Holds buffer endpoint k' r' →
    r.state = .registered → r'.state = .registered → k = k'
  highest : ∀ k k' r r', s.Holds buffer endpoint k r → s.Holds buffer endpoint k' r' →
    r.state = .registered → r'.generation ≤ r.generation

/-- Registrations of one pair have distinct generations, and one that is `REGISTERED` has the
highest. -/
structure LatestCurrent (s : State) : Prop where
  distinct : ∀ buffer endpoint k k' r r', s.Holds buffer endpoint k r →
    s.Holds buffer endpoint k' r' → r.generation = r'.generation → k = k'
  highest : ∀ buffer endpoint k k' r r', s.Holds buffer endpoint k r →
    s.Holds buffer endpoint k' r' → r.state = .registered → r'.generation ≤ r.generation

/-- The latest registration of a pair is one of the pair. -/
theorem holds_of_latest {s : State} {buffer : BufferId} {endpoint : EndpointId} {r : Registration}
    (hr : latestRegistration s buffer endpoint = some r) :
  ∃ k, s.Holds buffer endpoint k r
  := by
  obtain ⟨hmem, hpair⟩ := PathPlanner.latest_mem hr
  obtain ⟨k, hk⟩ := Table.mem_values.mp hmem
  rw [Bool.and_eq_true, decide_eq_true_eq, decide_eq_true_eq] at hpair
  exact ⟨k, hk, hpair.1, hpair.2⟩

namespace LatestCurrent

variable {s s' : State}

theorem atMostOneCurrent (h : LatestCurrent s) (buffer : BufferId) (endpoint : EndpointId) :
  s.AtMostOneCurrent buffer endpoint
  where
  distinct := h.distinct buffer endpoint
  single := by
    intro k k' r r' hr hr' hstate hstate'
    apply h.distinct buffer endpoint k k' r r' hr hr'
    apply le_antisymm
    · exact h.highest buffer endpoint k' k r' r hr' hr hstate'
    · exact h.highest buffer endpoint k k' r r' hr hr' hstate
  highest := h.highest buffer endpoint

/-- The registration in force is the latest. -/
theorem eq_latest {buffer : BufferId} {endpoint : EndpointId} {k : RegistrationId}
    {r : Registration} (h : LatestCurrent s) (hr : s.Holds buffer endpoint k r)
    (hstate : r.state = .registered) :
  latestRegistration s buffer endpoint = some r
  := by
  obtain ⟨latest, hlatest, hle⟩ := le_latestRegistration hr.stored hr.buffer hr.endpoint
  obtain ⟨k', hholds⟩ := holds_of_latest hlatest
  have hge := h.highest buffer endpoint k k' r latest hr hholds hstate
  obtain rfl := h.distinct buffer endpoint k k' r latest hr hholds (le_antisymm hle hge)
  rw [hlatest, ← hholds.stored, hr.stored]

/-- A registration of the pair after an event was one before the event, or is a new one that the
event made for this pair. -/
theorem cases_holds {e : Event} (hwf : WellFormed s) (he : Effect e s s')
    (hrecover : ∀ file, e ≠ .recover file) {buffer : BufferId} {endpoint : EndpointId}
    {k : RegistrationId} {r : Registration} (hr : s'.Holds buffer endpoint k r) :
  (∃ r', s.Holds buffer endpoint k r' ∧ r.Continues r') ∨
    ∃ p backend, e = .registerBuffer p backend ∧ p.buffer = buffer ∧ p.endpoint = endpoint ∧
      Registered s p backend r ∧ Newest s p r
  := by
  obtain ⟨r', hr', hlater⟩ | ⟨p, backend, rfl, hnew, hnewest⟩ := he.registration hrecover hr.stored
  · left
    refine ⟨r', ⟨hr', ?_, ?_⟩, hlater⟩
    · rw [← hlater.buffer, hr.buffer]
    · rw [← hlater.endpoint, hr.endpoint]
  · right
    refine ⟨p, backend, rfl, ?_, ?_, hnew, hnewest⟩
    · obtain ⟨b, hb, -, hbuffer, -⟩ := hnew.buffer
      rw [← hr.buffer, hbuffer, hwf.buffer_id hb]
    · obtain ⟨d, hd, hendpoint, -⟩ := hnew.endpoint
      rw [← hr.endpoint, hendpoint, hwf.endpoint_id hd]

/-- Every effect but a recovery keeps the current registrations the latest ones. -/
theorem effect {e : Event} (h : LatestCurrent s) (hwf : WellFormed s) (he : Effect e s s')
    (hrecover : ∀ file, e ≠ .recover file) :
  LatestCurrent s'
  where
  distinct := by
    intro buffer endpoint k k' r r' hr hr' hgeneration
    obtain ⟨o, ho, hlater⟩ | ⟨p, backend, rfl, rfl, rfl, hnew, hnewest⟩ :=
      cases_holds hwf he hrecover hr
    · obtain ⟨o', ho', hlater'⟩ | ⟨p, backend, rfl, rfl, rfl, hnew, hnewest⟩ :=
        cases_holds hwf he hrecover hr'
      · apply h.distinct buffer endpoint k k' o o' ho ho'
        rw [← hlater.generation, hgeneration, hlater'.generation]
      · have hlt := hnewest.highest k o ho.stored ho.buffer ho.endpoint
        rw [← hlater.generation, hgeneration] at hlt
        exact absurd hlt (lt_irrefl _)
    · obtain ⟨o', ho', hlater'⟩ | ⟨p', backend', heq, -, -, hnew', -⟩ :=
        cases_holds hwf he hrecover hr'
      · have hlt := hnewest.highest k' o' ho'.stored ho'.buffer ho'.endpoint
        rw [← hlater'.generation, hgeneration] at hlt
        exact absurd hlt (lt_irrefl _)
      · cases heq
        have hsame := Except.ok.inj (hnew.result.symm.trans hnew'.result)
        have hwf' := hwf.effect he hrecover
        rw [← hwf'.registration_id hr.stored, ← hwf'.registration_id hr'.stored, hsame]
  highest := by
    intro buffer endpoint k k' r r' hr hr' hstate
    obtain ⟨o, ho, hlater⟩ | ⟨p, backend, rfl, rfl, rfl, hnew, hnewest⟩ :=
      cases_holds hwf he hrecover hr
    · obtain ⟨o', ho', hlater'⟩ | ⟨p, backend, rfl, rfl, rfl, hnew, hnewest⟩ :=
        cases_holds hwf he hrecover hr'
      · rw [hlater.generation, hlater'.generation]
        exact h.highest buffer endpoint k k' o o' ho ho' (hlater.registered hstate)
      · have hstate := hlater.registered hstate
        exact absurd hstate (hnewest.superseded o (h.eq_latest ho hstate))
    · obtain ⟨o', ho', hlater'⟩ | ⟨p', backend', heq, -, -, hnew', -⟩ :=
        cases_holds hwf he hrecover hr'
      · rw [hlater'.generation]
        exact (hnewest.highest k' o' ho'.stored ho'.buffer ho'.endpoint).le
      · cases heq
        exact (congrArg Registration.generation
          (Except.ok.inj (hnew.result.symm.trans hnew'.result))).ge

/-- What is recovered keeps its generations, and nothing of it is in force. -/
theorem recovered {d : State} (h : LatestCurrent d) (hs : RecoveredFrom d s) :
  LatestCurrent s
  := by
  have hdonor : ∀ {buffer endpoint k r}, s.Holds buffer endpoint k r →
      ∃ k' r', d.Holds buffer endpoint k' r' ∧ r'.id = k ∧ r = recoveredRegistration r' := by
    intro buffer endpoint k r hr
    obtain ⟨r', hmem, rfl, rfl⟩ := hs.registrations k r hr.stored
    obtain ⟨k', hk'⟩ := Table.mem_values.mp hmem
    exact ⟨k', r', ⟨hk', hr.buffer, hr.endpoint⟩, rfl, rfl⟩
  constructor
  · intro buffer endpoint k k' r r' hr hr' hgeneration
    obtain ⟨k₁, r₁, hr₁, rfl, rfl⟩ := hdonor hr
    obtain ⟨k₂, r₂, hr₂, rfl, rfl⟩ := hdonor hr'
    obtain rfl := h.distinct buffer endpoint k₁ k₂ r₁ r₂ hr₁ hr₂ hgeneration
    rw [Option.some.inj (hr₁.stored.symm.trans hr₂.stored)]
  · intro buffer endpoint k k' r r' hr hr' hstate
    obtain ⟨k₁, r₁, hr₁, rfl, rfl⟩ := hdonor hr
    exact absurd hstate (recoveredState_ne r₁.state)

end LatestCurrent

/-- The current registrations of coordinators that recover only what coordinators persisted are
the latest ones. -/
theorem latestCurrent_of_reachable {w : World} (h : persistedFabric.Reachable w) :
  LatestCurrent w.state
  := by
  refine (persistedFabric_invariant (P := LatestCurrent) ?_ ?_ ?_ h).2
  · intro epoch
    constructor
    · rintro buffer endpoint k k' r r' ⟨⟨⟩⟩
    · rintro buffer endpoint k k' r r' ⟨⟨⟩⟩
  · intro e s hwf hs he hrecover
    exact hs.effect hwf he hrecover
  · intro d s hd hs
    exact hd.recovered hs

/-- In every reachable state each pair has at most one current registration, which is the latest
of the pair, whatever ids the backends return. -/
theorem at_most_one_current {w : World} (h : persistedFabric.Reachable w) (buffer : BufferId)
    (endpoint : EndpointId) :
  w.state.AtMostOneCurrent buffer endpoint
  := (latestCurrent_of_reachable h).atMostOneCurrent buffer endpoint

namespace Fixture

/-- The world in which the buffer is registered again after a change of its generation. -/
def renewed : World := registered.replay
  [.advanceBufferGeneration 6 owner,
    .registerBuffer { buffer := 6, endpoint := 4, authority := owner, support := .real } none]

theorem reachable_renewed (setting : Setting) :
  (fabric setting World.New).Reachable renewed
  := reachable_replay (reachable_registered setting) rfl

end Fixture

theorem at_most_one_current_fixture :
  Fixture.renewed.state.AtMostOneCurrent 6 4
  := at_most_one_current (Fixture.reachable_renewed _) 6 4

/-- What a plan is bound to is what registration, deregistration and the planner find. -/
theorem searches_agree {w : World} (h : persistedFabric.Reachable w) {buffer : BufferId}
    {endpoint : EndpointId} {r : Registration}
    (hr : registeredRegistration w.state buffer endpoint = some r) :
  latestRegistration w.state buffer endpoint = some r ∧
    ∀ p, PathPlanner.findRegistration (buildEvidenceLocked p w.state) buffer endpoint = some r
  := by
  obtain ⟨hstored, hbuffer, hendpoint, hstate⟩ :=
    registeredRegistration_spec (wellFormed_of_reachable h) hr
  have hlatest := (latestCurrent_of_reachable h).eq_latest ⟨hstored, hbuffer, hendpoint⟩ hstate
  exact ⟨hlatest, fun p => hlatest⟩

example : Fixture.renewed.state.registrations.size = 2 ∧
    (registeredRegistration Fixture.renewed.state 6 4).isSome = true := by decide +kernel

end GpuDirectFabric
