import GpuDirectFabric.Snapshots
import GpuDirectFabric.Revalidation

/-!
# Withdrawals

In the reachable states the direct path is open on grounds that do not depend on any order: there
are records of the right kind, and among them a registration in force and an observation of the
direct capability.  Grounds that stand after evidence has been withdrawn stood before.
-/

namespace GpuDirectFabric

open Coordinator Persistence PathPlanner

/-! ### Grounds -/

/-- The grounds for the direct path of the request: the buffer `b` and the endpoint `e` suit it,
and the state holds a device, a provider, a capability and a registration for them. -/
structure Grounds (p : PlanRequestParams) (s : State) (b : BufferRecord) (e : EndpointRecord) :
    Prop where
  source : s.buffers.lookup p.source = some b ∧ valid p.source = true ∧ b.lifecycle = .active
  size : p.size ≤ b.size
  domain : isGpuMemory b.domain = true
  alignment : 64 ≤ b.alignment ∧ p.size % b.alignment = 0
  device : valid b.device = true ∧ ∃ d, s.devices.lookup b.device = some d
  destination : s.endpoints.lookup p.destination = some e ∧ valid p.destination = true ∧
    e.endpointClass ≠ .unknown ∧ e.support ≠ .unsupported ∧ e.healthy = true
  provider : ∃ k v, s.providers.lookup k = some v ∧ v.name = providerFor e.endpointClass ∧
    v.available = true ∧ v.support ≠ .unsupported
  capability : ∃ k c, s.capabilities.lookup k = some c ∧
    c.provider = providerFor e.endpointClass ∧ c.capability = capFor e.endpointClass ∧
    c.value = "true" ∧ c.support ≠ .unsupported
  registration : ∃ k r, s.Holds p.source p.destination k r ∧ r.state = .registered ∧
    r.bufferGeneration = b.generation ∧ r.endpointGeneration = e.generation ∧
    s.workerLiveLocked r.authority = true

section

variable {p : PlanRequestParams} {s : State}

/-- Where the requirements are met, there are grounds. -/
theorem grounds_of_requirements (hwf : WellFormed s)
    (h : DirectRequirements (pathRequest p) (buildEvidenceLocked p s)) :
  ∃ b e, Grounds p s b e
  := by
  obtain ⟨b, hb⟩ := lookup_of_valid BufferRecord.id rfl h.source.1
  obtain ⟨e, he⟩ := lookup_of_valid EndpointRecord.id rfl h.destination.1
  have hsource := evidence_source hb
  have hdestination := evidence_destination he
  have hdevice := h.device.1
  have hactive := h.source
  have hclass := h.destination
  have hcapability := h.capability
  have hregistration := h.registration
  rw [hsource, hwf.buffer_id hb] at hactive
  rw [hdestination, hwf.endpoint_id he] at hclass
  rw [hdestination] at hcapability
  rw [hsource, hdestination, hwf.buffer_id hb, hwf.endpoint_id he] at hregistration
  refine ⟨b, e, ⟨hb, hactive⟩, hsource ▸ h.size, hsource ▸ h.domain, hsource ▸ h.alignment, ?_,
    ⟨he, hclass.1, hclass.2, hdestination ▸ h.supported, hdestination ▸ h.healthy⟩, ?_, ?_, ?_⟩
  · rw [evidence_device hb] at hdevice
    split at hdevice
    next hvalid => exact ⟨hvalid, lookup_of_valid DeviceRecord.id rfl hdevice⟩
    next => cases hdevice
  · obtain ⟨v, hv, hprovider⟩ := providerAvailable_iff.mp (hdestination ▸ h.provider)
    obtain ⟨k, hk⟩ := Table.mem_values.mp hv
    exact ⟨k, v, hk, hprovider⟩
  · obtain ⟨c, hc, hcap⟩ := hcapability
    obtain ⟨hpair, -⟩ := capabilityFor_eq_some_iff.mp hc
    obtain ⟨k, hk⟩ := Table.mem_values.mp (capabilityFor_eq_some_iff.mp hc).mem
    exact ⟨k, c, hk, hpair.1, hpair.2, hcap⟩
  · obtain ⟨r, hr, hstate, hbuffer, hendpoint, hlive⟩ := hregistration
    obtain ⟨k, hk⟩ := holds_of_latest hr
    rw [authorityLive_eq hwf.workers] at hlive
    exact ⟨k, r, hk, hstate, hbuffer, hendpoint, hlive⟩

/-- Where the searches are unambiguous, the requirements are met on any grounds. -/
theorem requirements_of_grounds (hwf : WellFormed s) (hlatest : LatestCurrent s)
    (hunique : s.CapabilitiesUnique) {b : BufferRecord} {e : EndpointRecord}
    (h : Grounds p s b e) :
  DirectRequirements (pathRequest p) (buildEvidenceLocked p s)
  := by
  obtain ⟨hb, hvalidSource, hactive⟩ := h.source
  obtain ⟨he, hvalidDestination, hclass, hsupport, hhealthy⟩ := h.destination
  obtain ⟨hvalidDevice, dev, hdev⟩ := h.device
  have hsource := evidence_source hb
  have hdestination := evidence_destination he
  have hdevice := evidence_device hb
  rw [if_pos hvalidDevice, hdev, Option.getD_some] at hdevice
  have hbid := hwf.buffer_id hb
  have heid := hwf.endpoint_id he
  have hdid := hwf.devices _ _ hdev
  constructor
  · rw [hsource, hbid]
    exact ⟨hvalidSource, hactive⟩
  · rw [hsource]
    exact h.size
  · rw [hdestination, heid]
    exact ⟨hvalidDestination, hclass⟩
  · rw [hdestination]
    exact hsupport
  · rw [hdestination]
    exact hhealthy
  · rw [hdestination]
    intro latest hlatest
    exact latest_generation (fun k e he => hwf.endpoint_id he) (by rw [heid, he]) hlatest
  · rw [hsource]
    exact h.domain
  · rw [hdevice, hdid]
    use hvalidDevice
    intro latest hlatest
    rw [← hdid] at hlatest
    exact latest_generation hwf.devices (by rw [hdid, hdev]) hlatest
  · obtain ⟨k, v, hv, hprovider⟩ := h.provider
    rw [hdestination]
    exact providerAvailable_iff.mpr ⟨v, Table.mem_values.mpr ⟨k, hv⟩, hprovider⟩
  · obtain ⟨k, c, hc, hprovider, hcapability, hcap⟩ := h.capability
    rw [hdestination]
    refine ⟨c, ?_, hcap⟩
    apply capabilityFor_eq_some_iff.mpr
    have hmem : c ∈ (buildEvidenceLocked p s).capabilities := Table.mem_values.mpr ⟨k, hc⟩
    apply Search.first_of_mem hmem ⟨hprovider, hcapability⟩
    rintro c' hmem' ⟨hprovider', hcapability'⟩
    apply eq_of_mem_values hmem' hmem
    intro k₁ k₂ hk₁ hk₂
    exact hunique k₁ k₂ c' c hk₁ hk₂ (hprovider'.trans hprovider.symm)
      (hcapability'.trans hcapability.symm)
  · obtain ⟨k, r, hr, hstate, hbuffer, hendpoint, hlive⟩ := h.registration
    rw [hsource, hdestination, hbid, heid]
    refine ⟨r, hlatest.eq_latest hr hstate, hstate, hbuffer, hendpoint, ?_⟩
    rw [authorityLive_eq hwf.workers]
    exact hlive
  · rw [hsource]
    exact h.alignment

end

/-- In every reachable state, a path is direct exactly if there are grounds for it. -/
theorem isDirect_iff_grounds {w : World} (h : persistedFabric.Reachable w)
    (p : PlanRequestParams) :
  (evaluatePath p w.state).eligibility.isDirect = true ↔ ∃ b e, Grounds p w.state b e
  := by
  have hwf := wellFormed_of_reachable h
  apply (evaluate_isDirect _ _).trans
  constructor
  · exact grounds_of_requirements hwf
  · rintro ⟨b, e, hgrounds⟩
    exact requirements_of_grounds hwf (latestCurrent_of_reachable h)
      (capabilitiesUnique_of_reachable h) hgrounds

/-! ### Withdrawing evidence -/

/-- The event withdraws evidence. -/
def Event.Withdraws : Event → Prop
  | .deregisterBuffer _ _ | .markWorkerDead _ | .advanceEpoch | .retireBuffer _ _
  | .advanceBufferGeneration _ _ | .advanceEndpointGeneration _ _ | .revokeCapability _ _ _ => True
  | .setEndpointHealth _ healthy _ => healthy = false
  | .publishCapability p => p.value ≠ "true"
  | .addProvider p => p.available = false
  | _ => False

/-- A registration in force after some are revalidated was in force before, and not one of them. -/
theorem holds_of_revalidated {q : Registration → Bool} {s s' : State}
    (hs : s'.registrations = s.registrations.mapVals (State.revalidateIf q)) {buffer : BufferId}
    {endpoint : EndpointId} {k : RegistrationId} {r : Registration}
    (hr : s'.Holds buffer endpoint k r) (hstate : r.state = .registered) :
  s.Holds buffer endpoint k r ∧ q r = false
  := by
  obtain ⟨hstored, hbuffer, hendpoint⟩ := hr
  rw [hs] at hstored
  obtain ⟨hstored, hq⟩ := lookup_revalidateIf hstored hstate
  exact ⟨⟨hstored, hbuffer, hendpoint⟩, hq⟩

/-- A registration in force after one is retired was in force before. -/
theorem holds_of_retired {id : RegistrationId} {reg : Registration} {s s' : State}
    (hs : s'.registrations = s.registrations.insert id reg) (hreg : reg.state = .retired)
    {buffer : BufferId} {endpoint : EndpointId} {k : RegistrationId} {r : Registration}
    (hr : s'.Holds buffer endpoint k r) (hstate : r.state = .registered) :
  s.Holds buffer endpoint k r
  := by
  obtain ⟨hstored, hbuffer, hendpoint⟩ := hr
  rw [hs] at hstored
  obtain ⟨-, rfl⟩ | ⟨-, hold⟩ := Table.lookup_insert_some hstored
  · rw [hreg] at hstate
    cases hstate
  · exact ⟨hold, hbuffer, hendpoint⟩

/-- An authority that is live among fewer workers is live. -/
theorem workerLive_of_fewer {s s' : State} {a : Authority} (hepoch : s'.epoch = s.epoch)
    (hworkers : ∀ k w, s'.workers.lookup k = some w → s.workers.lookup k = some w)
    (h : s'.workerLiveLocked a = true) :
  s.workerLiveLocked a = true
  := by
  rw [State.workerLiveLocked, hepoch] at h
  rw [State.workerLiveLocked]
  split at h
  next => cases h
  next hcurrent =>
    rw [if_neg hcurrent]
    split at h
    next hunowned => rw [if_pos hunowned]
    next howned =>
      rw [if_neg howned]
      split at h
      next => cases h
      next w hw =>
        rw [hworkers _ _ hw]
        exact h

namespace Grounds

variable {p : PlanRequestParams} {s s' : State} {b : BufferRecord} {e : EndpointRecord}

/-- The registration in force for the grounds is not one that has been taken out of force. -/
theorem registration_of_revalidated {q : Registration → Bool} (h : Grounds p s' b e)
    (hs : s'.registrations = s.registrations.mapVals (State.revalidateIf q))
    (hlive : ∀ a, s'.workerLiveLocked a = true → s.workerLiveLocked a = true) :
  ∃ k r, s.Holds p.source p.destination k r ∧ r.state = .registered ∧
    r.bufferGeneration = b.generation ∧ r.endpointGeneration = e.generation ∧
    s.workerLiveLocked r.authority = true ∧ q r = false
  := by
  obtain ⟨k, r, hr, hstate, hbuffer, hendpoint, hrlive⟩ := h.registration
  obtain ⟨hold, hq⟩ := holds_of_revalidated hs hr hstate
  exact ⟨k, r, hold, hstate, hbuffer, hendpoint, hlive _ hrlive, hq⟩

/-- The registration in force for the grounds is not one that has been retired. -/
theorem registration_of_retired {id : RegistrationId} {reg : Registration} (h : Grounds p s' b e)
    (hs : s'.registrations = s.registrations.insert id reg) (hreg : reg.state = .retired)
    (hlive : ∀ a, s'.workerLiveLocked a = s.workerLiveLocked a) :
  ∃ k r, s.Holds p.source p.destination k r ∧ r.state = .registered ∧
    r.bufferGeneration = b.generation ∧ r.endpointGeneration = e.generation ∧
    s.workerLiveLocked r.authority = true
  := by
  obtain ⟨k, r, hr, hstate, hbuffer, hendpoint, hrlive⟩ := h.registration
  rw [hlive] at hrlive
  exact ⟨k, r, holds_of_retired hs hreg hr hstate, hstate, hbuffer, hendpoint, hrlive⟩

/-- The registration in force for the grounds stays where registrations and workers do. -/
theorem registration_of_kept (h : Grounds p s' b e) (hs : s'.registrations = s.registrations)
    (hlive : ∀ a, s'.workerLiveLocked a = s.workerLiveLocked a) :
  ∃ k r, s.Holds p.source p.destination k r ∧ r.state = .registered ∧
    r.bufferGeneration = b.generation ∧ r.endpointGeneration = e.generation ∧
    s.workerLiveLocked r.authority = true
  := by
  obtain ⟨k, r, hr, hstate, hbuffer, hendpoint, hrlive⟩ := h.registration
  have hstored := hr.stored
  rw [hs] at hstored
  rw [hlive] at hrlive
  exact ⟨k, r, ⟨hstored, hr.buffer, hr.endpoint⟩, hstate, hbuffer, hendpoint, hrlive⟩

/-- The endpoint for the grounds is not one for which no grounds could stand. -/
theorem destination_of_insert {id : EndpointId} {e' : EndpointRecord} (h : Grounds p s' b e)
    (hs : s'.endpoints = s.endpoints.insert id e') (hne : e = e' → p.destination ≠ id) :
  s.endpoints.lookup p.destination = some e
  := by
  have he := h.destination.1
  rw [hs] at he
  obtain ⟨hid, rfl⟩ | ⟨-, hold⟩ := Table.lookup_insert_some he
  · exact absurd hid (hne rfl)
  · exact hold

theorem source_of_insert {id : BufferId} {b' : BufferRecord} (h : Grounds p s' b e)
    (hs : s'.buffers = s.buffers.insert id b') (hne : b = b' → p.source ≠ id) :
  s.buffers.lookup p.source = some b
  := by
  have hb := h.source.1
  rw [hs] at hb
  obtain ⟨hid, rfl⟩ | ⟨-, hold⟩ := Table.lookup_insert_some hb
  · exact absurd hid (hne rfl)
  · exact hold

end Grounds

/-- Grounds that stand after evidence has been withdrawn stood before. -/
theorem Effect.grounds_before {event : Event} {s s' : State} (he : Effect event s s')
    (hw : event.Withdraws) {p : PlanRequestParams} {b : BufferRecord} {e : EndpointRecord}
    (h : Grounds p s' b e) :
  ∃ b₀ e₀, Grounds p s b₀ e₀
  := by
  cases he with
  | refused => exact ⟨b, e, h⟩
  | markWorkerDead =>
      obtain ⟨k, r, hr, hstate, hbuffer, hendpoint, hlive, -⟩ :=
        h.registration_of_revalidated rfl (fun a => workerLive_of_fewer rfl fun k w hw => by
          rw [Coordinator.markWorkerDead, Table.lookup_erase_eq] at hw
          split at hw
          · cases hw
          · exact hw)
      exact ⟨b, e, { h with registration := ⟨k, r, hr, hstate, hbuffer, hendpoint, hlive⟩ }⟩
  | advanceEpoch =>
      obtain ⟨k, r, hr, hstate, -⟩ := h.registration
      obtain ⟨-, hnot⟩ := holds_of_revalidated rfl hr hstate
      simp [hstate] at hnot
  | advanceBufferGeneration | retireBuffer =>
      obtain ⟨k, r, hr, hstate, hbuffer, hendpoint, hlive, hnot⟩ :=
        h.registration_of_revalidated (s := s) rfl (fun a ha => ha)
      have hsource := h.source_of_insert (s := s) rfl fun _ hid => by
        simp [hr.buffer, hid] at hnot
      exact ⟨b, e, { h with
        source := ⟨hsource, h.source.2⟩
        registration := ⟨k, r, hr, hstate, hbuffer, hendpoint, hlive⟩ }⟩
  | advanceEndpointGeneration =>
      obtain ⟨k, r, hr, hstate, hbuffer, hendpoint, hlive, hnot⟩ :=
        h.registration_of_revalidated (s := s) rfl (fun a ha => ha)
      have hdestination := h.destination_of_insert (s := s) rfl fun _ hid => by
        simp [hr.endpoint, hid] at hnot
      exact ⟨b, e, { h with
        destination := ⟨hdestination, h.destination.2⟩
        registration := ⟨k, r, hr, hstate, hbuffer, hendpoint, hlive⟩ }⟩
  | @setEndpointHealth _ id healthy authority e' he' =>
      have hhealthy : healthy = false := hw
      have hdestination := h.destination_of_insert (s := s) rfl fun heq => by
        have := h.destination.2.2.2.2
        rw [heq, hhealthy] at this
        cases this
      exact ⟨b, e, { h with
        destination := ⟨hdestination, h.destination.2⟩
        registration := h.registration_of_kept rfl fun _ => rfl }⟩
  | @updateProvider _ params | @addProvider _ params =>
      have hunavailable : params.available = false := hw
      obtain ⟨k, v, hv, hname, havailable, hsupport⟩ := h.provider
      obtain ⟨-, rfl⟩ | ⟨-, hold⟩ := Table.lookup_insert_some hv
      · exact absurd (hunavailable.symm.trans havailable) Bool.false_ne_true
      · exact ⟨b, e, { h with
          provider := ⟨k, v, hold, hname, havailable, hsupport⟩
          registration := h.registration_of_kept rfl fun _ => rfl }⟩
  | publishCapability hk =>
      obtain ⟨k, c, hc, hprovider, hcapability, hvalue, hsupport⟩ := h.capability
      obtain ⟨-, rfl⟩ | ⟨-, hold⟩ := Table.lookup_insert_some hc
      · exact absurd hvalue hw
      · exact ⟨b, e, { h with
          capability := ⟨k, c, hold, hprovider, hcapability, hvalue, hsupport⟩
          registration := h.registration_of_kept rfl fun _ => rfl }⟩
  | revokeCapability =>
      obtain ⟨k, c, hc, hcap⟩ := h.capability
      rw [Table.lookup_erase_eq] at hc
      split at hc
      · cases hc
      · exact ⟨b, e, { h with
          capability := ⟨k, c, hc, hcap⟩
          registration := h.registration_of_kept rfl fun _ => rfl }⟩
  | retire | deregisterBuffer =>
      exact ⟨b, e, { h with registration := h.registration_of_retired rfl rfl fun _ => rfl }⟩
  | @deregisterCached _ id authority reg b' hreg hb' =>
      have hregistration := h.registration_of_retired (s := s) rfl rfl fun _ => rfl
      have hb := h.source.1
      obtain ⟨hid, rfl⟩ | ⟨-, hold⟩ := Table.lookup_insert_some hb
      · exact ⟨b', e, { h with
          source := ⟨hid ▸ hb', h.source.2⟩
          registration := hregistration }⟩
      · exact ⟨b, e, { h with
          source := ⟨hold, h.source.2⟩
          registration := hregistration }⟩
  | _ => exact absurd hw id

theorem Event.isCall_of_withdraws {e : Event} (he : e.Withdraws) :
  e.isCall = true
  := by
  cases e with
  | planCommit => exact absurd he id
  | rehash => exact absurd he id
  | recover => exact absurd he id
  | _ => rfl

/-- In every reachable state, withdrawing evidence opens no direct path, in whatever order the
tables are traversed after it. -/
theorem withdrawal_never_opens {w : World} (h : persistedFabric.Reachable w) {e : Event}
    (he : e.Withdraws) (p : PlanRequestParams)
    (hclosed : (evaluatePath p w.state).eligibility.isDirect = false) {s : State}
    (hs : (apply e w.state).Rearranged s) :
  (evaluatePath p s).eligibility.isDirect = false
  := by
  have hallowed : e.Allowed ⟨false, true⟩ w :=
    Event.allowed_of_isCall (Event.isCall_of_withdraws he)
  have hnext : persistedFabric.Reachable (w.next e) := reachable_next h hallowed
  rw [evaluatePath_rearranged hnext p hs]
  rw [Bool.eq_false_iff] at hclosed ⊢
  intro hopen
  apply hclosed
  obtain ⟨b, endpoint, hgrounds⟩ := (isDirect_iff_grounds hnext p).mp hopen
  exact (isDirect_iff_grounds h p).mpr (hallowed.effect.grounds_before he hgrounds)

theorem withdrawal_never_opens_fixture :
  (evaluatePath Fixture.request (apply (.revokeCapability "rdma" "direct_nic" {})
    Fixture.unhealthy.state)).eligibility.isDirect = false
  := by
  have hclosed : (evaluatePath Fixture.request Fixture.unhealthy.state).eligibility.isDirect
      = false := by
    decide +kernel
  have hwithdraws : (Event.revokeCapability "rdma" "direct_nic" {}).Withdraws := trivial
  exact withdrawal_never_opens (Fixture.reachable_unhealthy _) hwithdraws Fixture.request hclosed
    (.refl _)

end GpuDirectFabric
