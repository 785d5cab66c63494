import GpuDirectFabric.Directories
import GpuDirectFabric.Withdrawals

/-!
# Registered paths

The planner compares the generations and the epochs of all that a direct path rests on, since it is
given a snapshot and nothing about where that is from.  In a snapshot of a coordinator these always
agree: what is `REGISTERED` there is for an active buffer and an endpoint as they are.  So the
verdict on a path can be said without generations, and without the order of any search: its ends
are registered, they are fit for each other, and the directory has what takes one to the other.
-/

namespace GpuDirectFabric

open Coordinator PathPlanner

/-- A direct path takes the request from the buffer, which is on a device. -/
structure DirectSource (p : PlanRequestParams) (b : BufferRecord) (s : State) : Prop where
  stored : p.source ≠ 0 ∧ s.buffers.lookup p.source = some b
  size : p.size ≤ b.size
  domain : isGpuMemory b.domain = true
  alignment : 64 ≤ b.alignment ∧ b.alignment ∣ p.size
  device : b.device ≠ 0 ∧ ∃ d, s.devices.lookup b.device = some d

/-- A path leads to the endpoint. -/
structure Destination (p : PlanRequestParams) (e : EndpointRecord) (s : State) : Prop where
  stored : p.destination ≠ 0 ∧ s.endpoints.lookup p.destination = some e
  classified : e.endpointClass ≠ .unknown
  healthy : e.healthy = true

/-- A direct path leads to the endpoint, by a provider that is there and has the capability. -/
structure DirectDestination (p : PlanRequestParams) (e : EndpointRecord) (s : State) : Prop
    extends Destination p e s where
  supported : e.support ≠ .unsupported
  provider : ∃ v, s.directory.providers (providerFor e.endpointClass) = some v ∧
    v.available = true ∧ v.support ≠ .unsupported
  capability : ∃ c, s.directory.capabilities
      (providerFor e.endpointClass, capFor e.endpointClass) = some c ∧
    c.value = "true" ∧ c.support ≠ .unsupported

/-- The registration is in force between the ends of the request, and they are fit for a direct
path. -/
structure RegisteredPath (p : PlanRequestParams) (r : Registration) (s : State) : Prop where
  holds : s.Holds p.source p.destination r.id r
  registered : r.state = .registered
  live : r.authority.workerOwned = true → s.workerLiveLocked r.authority = true
  source : ∃ b, DirectSource p b s
  destination : ∃ e, DirectDestination p e s

/-- The request can be staged through the host, at the present epoch. -/
structure StagedPath (p : PlanRequestParams) (s : State) : Prop where
  policy : p.policy ≠ .directOnly
  destination : ∃ e, Destination p e s
  staging : ∃ provider c, s.directory.capabilities (provider, "host_staging") = some c ∧
    c.value = "true" ∧ c.support ≠ .unsupported ∧ c.authority.epoch = s.epoch

section

variable {p : PlanRequestParams} {s : State}

/-! ### The direct path -/

/-- The grounds of a direct path are in the records. -/
theorem Grounds.registeredPath (hwf : WellFormed s) (hnamed : DirectoryNamed s)
    {b : BufferRecord} {e : EndpointRecord} (h : Grounds p s b e) :
  ∃ r, RegisteredPath p r s
  := by
  obtain ⟨hb, hsource, -⟩ := h.source
  obtain ⟨he, hdestination, hclass, hsupport, hhealthy⟩ := h.destination
  obtain ⟨k, r, hr, hstate, -, -, hlive⟩ := h.registration
  obtain rfl := hwf.registration_id hr.stored
  use r
  constructor
  · apply hr
  · apply hstate
  · intro _
    apply hlive
  · use b
    constructor
    · use valid_iff.mp hsource
    · apply h.size
    · apply h.domain
    · use h.alignment.1
      apply Nat.dvd_of_mod_eq_zero h.alignment.2
    · use valid_iff.mp h.device.1
      apply h.device.2
  · use e
    constructor
    · constructor
      · use valid_iff.mp hdestination
      · apply hclass
      · apply hhealthy
    · apply hsupport
    · obtain ⟨k, v, hv, hname, hprovider⟩ := h.provider
      use v
      constructor
      · apply (Table.view_eq_some hnamed.providers).mpr
        use ⟨k, hv⟩
      · apply hprovider
    · obtain ⟨k, c, hc, hprovider, hcapability, hcap⟩ := h.capability
      use c
      constructor
      · apply (Table.view_eq_some hnamed.capabilities).mpr
        use ⟨k, hc⟩
        rw [CapabilityObservation.key, hprovider, hcapability]
      · apply hcap

/-- A registration in force is for the ends as they are, so it needs no comparison. -/
theorem RegisteredPath.grounds (hsound : s.fence.Sound) (hnamed : DirectoryNamed s)
    {r : Registration} (h : RegisteredPath p r s) :
  ∃ b e, Grounds p s b e
  := by
  obtain ⟨b, hb⟩ := h.source
  obtain ⟨e, he⟩ := h.destination
  have hcurrent := registrationCurrent_of_sound hsound h.holds.stored h.registered
  obtain ⟨b', hb', hactive, hbgeneration⟩ := hcurrent.buffer
  obtain ⟨e', he', hegeneration⟩ := hcurrent.endpoint
  rw [h.holds.buffer, hb.stored.2] at hb'
  rw [h.holds.endpoint, he.stored.2] at he'
  cases hb'
  cases he'
  use b, e
  constructor
  · use hb.stored.2, valid_iff.mpr hb.stored.1
  · apply hb.size
  · apply hb.domain
  · use hb.alignment.1
    apply Nat.mod_eq_zero_of_dvd hb.alignment.2
  · use valid_iff.mpr hb.device.1
    apply hb.device.2
  · use he.stored.2, valid_iff.mpr he.stored.1, he.classified, he.supported
    apply he.healthy
  · obtain ⟨v, hv, hprovider⟩ := he.provider
    obtain ⟨⟨k, hk⟩, hname⟩ := (Table.view_eq_some hnamed.providers).mp hv
    use k, v, hk, hname
  · obtain ⟨c, hc, hcap⟩ := he.capability
    obtain ⟨⟨k, hk⟩, hname⟩ := (Table.view_eq_some hnamed.capabilities).mp hc
    obtain ⟨hprovider, hcapability⟩ := Prod.mk.inj hname
    use k, c, hk, hprovider, hcapability
  · use r.id, r, h.holds, h.registered, hbgeneration.symm, hegeneration.symm
    cases howned : r.authority.workerOwned with
    | true => apply h.live howned
    | false => simp [State.workerLiveLocked, howned, hcurrent.epoch]

end

section

variable {p : PlanRequestParams} {w : World}

/-- A path of a coordinator is direct exactly when its ends are registered for it. -/
theorem directConditions_iff_registeredPath (h : persistedFabric.Reachable w) :
  DirectConditions (pathRequest p) (buildEvidenceLocked p w.state) ↔
    ∃ r, RegisteredPath p r w.state
  := by
  rw [← directRequirements_iff]
  have hwf := wellFormed_of_reachable h
  have hnamed := directoryNamed_of_reachable h
  constructor
  · intro hdirect
    obtain ⟨b, e, hgrounds⟩ := grounds_of_requirements hwf hdirect
    apply hgrounds.registeredPath hwf hnamed
  · rintro ⟨r, hr⟩
    obtain ⟨b, e, hgrounds⟩ := hr.grounds (fence_sound h) hnamed
    apply requirements_of_grounds hwf (latestCurrent_of_reachable h)
      (capabilitiesUnique_of_reachable h) hgrounds

/-- The planner finds the registration of a registered path. -/
theorem RegisteredPath.found (h : persistedFabric.Reachable w) {r : Registration}
    (hr : RegisteredPath p r w.state) :
  findRegistration (buildEvidenceLocked p w.state) (buildEvidenceLocked p w.state).source.id
    (buildEvidenceLocked p w.state).destination.id = some r
  := by
  have hwf := wellFormed_of_reachable h
  obtain ⟨b, hb⟩ := hr.source
  obtain ⟨e, he⟩ := hr.destination
  rw [evidence_source hb.stored.2, evidence_destination he.stored.2,
    hwf.buffer_id hb.stored.2, hwf.endpoint_id he.stored.2]
  apply (latestCurrent_of_reachable h).eq_latest hr.holds hr.registered

/-- The decision on a registered path is taken from its registration. -/
theorem RegisteredPath.decision (h : persistedFabric.Reachable w) {r : Registration}
    (hr : RegisteredPath p r w.state) :
  (evaluatePath p w.state).support = r.support ∧
    (evaluatePath p w.state).eligibility
      = if r.support = .real then .directAllowed else .directAllowedDegraded
  := by
  have hdirect := (directConditions_iff_registeredPath h).mpr ⟨r, hr⟩
  obtain ⟨r', hr', hdecision⟩ := evaluate_of_requirements ((directRequirements_iff _ _).mpr hdirect)
  obtain rfl := Option.some.inj ((hr.found h).symm.trans hr')
  apply hdecision

/-- What the direct path is classified by is its registration. -/
theorem registeredPath_classified (h : persistedFabric.Reachable w) :
  (DirectConditions (pathRequest p) (buildEvidenceLocked p w.state) ∧
      RealRegistration (buildEvidenceLocked p w.state) ↔
    ∃ r, RegisteredPath p r w.state ∧ r.support = .real) ∧
  (DirectConditions (pathRequest p) (buildEvidenceLocked p w.state) ∧
      ¬RealRegistration (buildEvidenceLocked p w.state) ↔
    ∃ r, RegisteredPath p r w.state ∧ r.support ≠ .real)
  := by
  rw [directConditions_iff_registeredPath h]
  constructor
  · constructor
    · rintro ⟨⟨r, hr⟩, hreal⟩
      use r, hr
      apply (realRegistration_iff (hr.found h)).mp hreal
    · rintro ⟨r, hr, hreal⟩
      use ⟨r, hr⟩
      apply (realRegistration_iff (hr.found h)).mpr hreal
  · constructor
    · rintro ⟨⟨r, hr⟩, hnot⟩
      use r, hr
      intro hreal
      apply hnot ((realRegistration_iff (hr.found h)).mpr hreal)
    · rintro ⟨r, hr, hnot⟩
      use ⟨r, hr⟩
      intro hreal
      apply hnot ((realRegistration_iff (hr.found h)).mp hreal)

/-! ### The verdict -/

/-- Staging is open where the directory says so. -/
theorem stagingOpen_iff_destination (h : persistedFabric.Reachable w) :
  StagingOpen (buildEvidenceLocked p w.state) ↔
    (∃ e, Destination p e w.state) ∧
      ∃ provider c, w.state.directory.capabilities (provider, "host_staging") = some c ∧
        c.value = "true" ∧ c.support ≠ .unsupported ∧ c.authority.epoch = w.state.epoch
  := by
  have hwf := wellFormed_of_reachable h
  have hstaging := (plannerReads_of_named (directoryNamed_of_reachable h)).staging p
  rw [← hstaging, ← stagingOpen_iff, Bool.and_eq_true, Bool.and_eq_true, Bool.and_eq_true]
  apply and_congr_left
  intro _
  constructor
  · rintro ⟨⟨hvalid, hhealthy⟩, hclass⟩
    obtain ⟨e, he⟩ := lookup_of_valid EndpointRecord.id rfl hvalid
    rw [evidence_destination he] at hvalid hhealthy hclass
    rw [hwf.endpoint_id he] at hvalid
    use e
    constructor
    · use valid_iff.mp hvalid
    · simpa using hclass
    · apply hhealthy
  · rintro ⟨e, he⟩
    rw [evidence_destination he.stored.2, hwf.endpoint_id he.stored.2]
    use ⟨valid_iff.mpr he.stored.1, he.healthy⟩
    simpa using he.classified

/-- The verdict on every path of every coordinator, without generations and searches: direct on a
registration in force, which it takes its support from, and staged where there is none and the
directory has host staging. -/
theorem path_verdict (h : persistedFabric.Reachable w) (p : PlanRequestParams) :
  ((evaluatePath p w.state).eligibility = .directAllowed ↔
      ∃ r, RegisteredPath p r w.state ∧ r.support = .real) ∧
    ((evaluatePath p w.state).eligibility = .directAllowedDegraded ↔
      ∃ r, RegisteredPath p r w.state ∧ r.support ≠ .real) ∧
    ((evaluatePath p w.state).eligibility = .fallbackRequired ↔
      StagedPath p w.state ∧ ∀ r, ¬RegisteredPath p r w.state) ∧
    ∀ r, RegisteredPath p r w.state → (evaluatePath p w.state).support = r.support
  := by
  obtain ⟨hreal, hdegraded, hfallback⟩ :=
    evaluate_eligibility_iff (pathRequest p) (buildEvidenceLocked p w.state)
  obtain ⟨hreal', hdegraded'⟩ := registeredPath_classified (p := p) h
  use hreal.trans hreal', hdegraded.trans hdegraded'
  refine ⟨hfallback.trans ?_, fun r hr => (hr.decision h).1⟩
  rw [stagingOpen_iff_destination h, directConditions_iff_registeredPath h, not_exists]
  constructor
  · rintro ⟨hpolicy, hnone, hdestination, hstaging⟩
    exact ⟨⟨hpolicy, hdestination, hstaging⟩, hnone⟩
  · rintro ⟨⟨hpolicy, hdestination, hstaging⟩, hnone⟩
    use hpolicy, hnone, hdestination

end

/-- The path that has been registered. -/
theorem path_verdict_registered :
  ∃ r, RegisteredPath Fixture.request r Fixture.registered.state ∧ r.support = .real
  := by
  apply (path_verdict (Fixture.reachable_registered _) Fixture.request).1.mp
  decide +kernel

end GpuDirectFabric
