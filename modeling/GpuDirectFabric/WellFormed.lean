import GpuDirectFabric.Effects
import GpuDirectFabric.Recovery

/-!
# Well-formed registries

Every record is stored under its own id, and the ids the coordinator draws are fresh: none of
the tables that draw their ids holds one that is still to come.  This holds of every state of
coordinators that recover only what coordinators persisted.
-/

namespace GpuDirectFabric

open Coordinator Persistence

/-- Every record is stored under its own id, and `nextId` bounds the ids drawn from it. -/
structure WellFormed (s : State) : Prop where
  buffers : s.buffers.All fun k b => b.id = k ∧ k ≤ s.nextId
  devices : s.devices.All fun k d => d.id = k
  endpoints : s.endpoints.All fun k e => e.id = k ∧ k ≤ s.nextId
  nics : s.nics.All fun k n => n.id = k
  storage : s.storage.All fun k e => e.id = k
  providers : s.providers.All fun k p => p.id = k
  capabilities : s.capabilities.All fun _ c => c.id ≤ s.nextId
  capability : ∀ k k' c c', s.capabilities.lookup k = some c → s.capabilities.lookup k' = some c' →
    c.id = c'.id → k = k'
  registrations : s.registrations.All fun k r =>
    r.id = k ∧ valid k = true ∧ r.state ≠ .deregistering
  plans : s.plans.All fun k p => p.id = k ∧ k ≤ s.nextId ∧ (p.copyCount = 1 ∨ p.copyCount = 2)
  attempts : s.attempts.All fun k a => a.id = k ∧ k ≤ s.nextId ∧ a.planId ≤ s.nextId
  workers : s.workers.All fun k w => w.1 = k

namespace WellFormed

variable {s s' : State}

/-- A new coordinator has no records. -/
theorem start (epoch : CoordinatorEpoch) :
  WellFormed (Coordinator epoch)
  where
  buffers := .empty
  devices := .empty
  endpoints := .empty
  nics := .empty
  storage := .empty
  providers := .empty
  capabilities := .empty
  capability := by rintro k k' c c' ⟨⟩
  registrations := .empty
  plans := .empty
  attempts := .empty
  workers := .empty

/-- Ids may be drawn. -/
theorem nextId {n : ℕ} (h : WellFormed s) (hn : s.nextId ≤ n) :
  WellFormed { s with nextId := n }
  := { h with
    buffers := h.buffers.mono fun _ _ hb => ⟨hb.1, hb.2.trans hn⟩
    endpoints := h.endpoints.mono fun _ _ he => ⟨he.1, he.2.trans hn⟩
    capabilities := h.capabilities.mono fun _ _ hc => hc.trans hn
    plans := h.plans.mono fun _ _ hp => ⟨hp.1, hp.2.1.trans hn, hp.2.2⟩
    attempts := h.attempts.mono fun _ _ ha => ⟨ha.1, ha.2.1.trans hn, ha.2.2.trans hn⟩ }

/-- A buffer is stored under its id. -/
theorem buffer_id {k : BufferId} {b : BufferRecord} (h : WellFormed s)
    (hb : s.buffers.lookup k = some b) :
  b.id = k
  := (h.buffers k b hb).1

/-- So is an endpoint. -/
theorem endpoint_id {k : EndpointId} {e : EndpointRecord} (h : WellFormed s)
    (he : s.endpoints.lookup k = some e) :
  e.id = k
  := (h.endpoints k e he).1

/-- So is a plan. -/
theorem plan_id {k : TransferPlanId} {p : TransferPlan} (h : WellFormed s)
    (hp : s.plans.lookup k = some p) :
  p.id = k
  := (h.plans k p hp).1

/-- So is a registration. -/
theorem registration_id {k : RegistrationId} {r : Registration} (h : WellFormed s)
    (hr : s.registrations.lookup k = some r) :
  r.id = k
  := (h.registrations k r hr).1

/-- Nothing is stored yet under an id still to be drawn. -/
theorem buffer_fresh {n : ℕ} (h : WellFormed s) (hn : s.nextId < n) :
  s.buffers.lookup n = none
  := by
  apply Option.eq_none_iff_forall_ne_some.mpr
  intro b hb
  have := (h.buffers n b hb).2
  omega

/-- An id that is not yet drawn is that of no endpoint. -/
theorem endpoint_fresh {n : ℕ} (h : WellFormed s) (hn : s.nextId < n) :
  s.endpoints.lookup n = none
  := by
  apply Option.eq_none_iff_forall_ne_some.mpr
  intro e he
  have := (h.endpoints n e he).2
  omega

/-- Nor is it that of a plan. -/
theorem plan_fresh {n : ℕ} (h : WellFormed s) (hn : s.nextId < n) :
  s.plans.lookup n = none
  := by
  apply Option.eq_none_iff_forall_ne_some.mpr
  intro p hp
  have := (h.plans n p hp).2.1
  omega

/-- Superseding plans and revalidating registrations keeps the records in place. -/
theorem invalidate {p : Registration → Bool} {q : TransferPlan → Bool} (h : WellFormed s) :
  WellFormed (s.invalidate p q)
  := { h with
    registrations := by
      refine h.registrations.mapVals fun k r hr => ?_
      rw [State.revalidateIf]
      split
      · exact ⟨hr.1, hr.2.1, by rintro ⟨⟩⟩
      · exact hr
    plans := by
      refine h.plans.mapVals fun k p hp => ?_
      rw [State.supersedeIf]
      split
      · exact hp
      · exact hp }

/-- The sweep of the registrations changes only their states. -/
theorem revalidate {p : Registration → Bool} (h : WellFormed s) :
  WellFormed { s with registrations := s.registrations.mapVals (State.revalidateIf p) }
  := { h with registrations := (h.invalidate (q := fun _ => false)).registrations }

/-- So does retiring one. -/
theorem retireRegistration (id : RegistrationId) (h : WellFormed s) :
  WellFormed (retireRegistration id s)
  := { h with
    registrations := by
      refine h.registrations.mapVals fun k r hr => ?_
      split
      · exact ⟨hr.1, hr.2.1, by rintro ⟨⟩⟩
      · exact hr }

/-- The order of storage does not matter. -/
theorem rearranged (h : WellFormed s) (hs : s.Rearranged s') :
  WellFormed s'
  where
  buffers := by
    rw [hs.nextId]
    exact hs.buffers.all h.buffers
  devices := hs.devices.all h.devices
  endpoints := by
    rw [hs.nextId]
    exact hs.endpoints.all h.endpoints
  nics := hs.nics.all h.nics
  storage := hs.storage.all h.storage
  providers := hs.providers.all h.providers
  capabilities := by
    rw [hs.nextId]
    exact hs.capabilities.all h.capabilities
  capability := by
    intro k k' c c' hc hc'
    rw [hs.capabilities.lookup] at hc hc'
    exact h.capability k k' c c' hc hc'
  registrations := hs.registrations.all h.registrations
  plans := by
    rw [hs.nextId]
    exact hs.plans.all h.plans
  attempts := by
    rw [hs.nextId]
    exact hs.attempts.all h.attempts
  workers := hs.workers.all h.workers

/-- The record `add_nic` and `add_storage_endpoint` store is under its id. -/
theorem addNic (rec : NicRecord) (h : WellFormed s) :
  WellFormed (addNic rec s).2
  := by
  have hn := s.le_nextIdUnless (valid rec.id)
  exact { h.nextId hn with nics := h.nics.insert rfl }

/-- A storage endpoint is stored under its own id or a new one. -/
theorem addStorageEndpoint (rec : StorageEndpointRecord) (h : WellFormed s) :
  WellFormed (addStorageEndpoint rec s).2
  := by
  have hn := s.le_nextIdUnless (valid rec.id)
  exact { h.nextId hn with storage := h.storage.insert rfl }

/-- A capability with a new id may take over a key. -/
theorem insertCapability {k : ℕ} {c : CapabilityObservation} (h : WellFormed s)
    (hc : c.id = s.nextId + 1) :
  WellFormed { s.nextIdLocked with capabilities := s.capabilities.insert k c }
  := { h.nextId (Nat.le_succ s.nextId) with
    capabilities := by
      refine Table.All.insert (h.capabilities.mono fun _ _ hb => hb.trans (Nat.le_succ _)) ?_
      rw [hc]
      exact le_rfl
    capability := by
      intro k₁ k₂ c₁ c₂ hc₁ hc₂ heq
      have hold : ∀ k c', s.capabilities.lookup k = some c' → c'.id ≠ c.id := by
        intro k c' hc'
        rw [hc]
        exact Nat.ne_of_lt (Nat.lt_succ_of_le (h.capabilities k c' hc'))
      rw [Table.lookup_insert_eq] at hc₁ hc₂
      split at hc₁
      next h₁ =>
        split at hc₂
        next h₂ => rw [h₁, h₂]
        next =>
          obtain rfl := Option.some.inj hc₁
          exact absurd heq.symm (hold k₂ c₂ hc₂)
      next =>
        split at hc₂
        next =>
          obtain rfl := Option.some.inj hc₂
          exact absurd heq (hold k₁ c₁ hc₁)
        next => exact h.capability k₁ k₂ c₁ c₂ hc₁ hc₂ heq }

theorem eraseCapability {k : ℕ} (h : WellFormed s) :
  WellFormed { s with capabilities := s.capabilities.erase k }
  := { h with
    capabilities := h.capabilities.erase
    capability := by
      intro k₁ k₂ c₁ c₂ hc₁ hc₂ heq
      rw [Table.lookup_erase_eq] at hc₁ hc₂
      split at hc₁
      next => cases hc₁
      next =>
        split at hc₂
        next => cases hc₂
        next => exact h.capability k₁ k₂ c₁ c₂ hc₁ hc₂ heq }

/-- An accepted registration is stored under the backend's id or a new one. -/
theorem acceptRegistration {p : RegisterParams} {buffer : BufferRecord}
    {endpoint : EndpointRecord} {latest : Option Registration} {rr : RegisterResult}
    (h : WellFormed s) (hbuffer : s.buffers.lookup p.buffer = some buffer) :
  WellFormed (acceptRegistration p buffer endpoint latest rr s).2
  := by
  have hn := s.le_nextIdUnless (valid rr.id)
  have hkey : valid (registrationKey rr s) = true := by
    rw [registrationKey]
    split
    next hvalid => exact hvalid
    next => rfl
  exact { h.nextId hn with
    registrations := h.registrations.insert ⟨rfl, hkey, by rintro ⟨⟩⟩
    buffers := (h.nextId hn).buffers.modify hbuffer fun hold => hold }

/-- Every effect but a recovery keeps the registries well formed. -/
theorem effect {e : Event} (h : WellFormed s) (he : Effect e s s')
    (hrecover : ∀ file, e ≠ .recover file) :
  WellFormed s'
  := by
  have hnext := h.nextId (Nat.le_succ s.nextId)
  have hle2 : s.nextId ≤ s.nextId + 2 := Nat.le_add_right _ _
  have hle3 : s.nextId ≤ s.nextId + 3 := Nat.le_add_right _ _
  cases he with
  | refused => exact h
  | setLimits => exact { h with }
  | registerWorker hepoch hvalid hboot hname =>
      obtain rfl | ⟨live, hlive⟩ := hname
      · exact { h with workers := h.workers.insert rfl }
      · exact { h with workers := h.workers.modify hlive fun hold => hold }
  | markWorkerDead => exact { h.revalidate with workers := h.workers.erase }
  | advanceEpoch => exact { h.invalidate with workers := .empty }
  | createBuffer => exact { hnext with buffers := hnext.buffers.insert ⟨rfl, le_rfl⟩ }
  | advanceBufferGeneration hb | retireBuffer hb =>
      apply WellFormed.invalidate
      exact { h with buffers := h.buffers.modify hb fun hold => hold }
  | addDevice => exact { hnext with devices := h.devices.insert rfl }
  | addEndpoint => exact { hnext with endpoints := hnext.endpoints.insert ⟨rfl, le_rfl⟩ }
  | advanceEndpointGeneration he =>
      apply WellFormed.invalidate
      exact { h with endpoints := h.endpoints.modify he fun hold => hold }
  | setEndpointHealth he => exact { h with endpoints := h.endpoints.modify he fun hold => hold }
  | addNic => exact h.addNic _
  | addStorageEndpoint => exact h.addStorageEndpoint _
  | updateProvider hv => exact { h with providers := h.providers.modify hv fun hold => hold }
  | addProvider => exact { hnext with providers := h.providers.insert rfl }
  | publishCapability => exact { h.insertCapability rfl with }
  | revokeCapability => exact h.eraseCapability
  | retireDeregistering => exact h.retireRegistration _
  | registerBuffer haccepted hretired =>
      obtain rfl | ⟨latest, -, -, rfl⟩ := hretired
      · exact h.acceptRegistration haccepted.buffer
      · exact (h.retireRegistration latest.id).acceptRegistration haccepted.buffer
  | retire hreg | deregisterBuffer hreg =>
      exact { h with
        registrations := h.registrations.modify hreg fun hold => ⟨hold.1, hold.2.1, by rintro ⟨⟩⟩ }
  | deregisterCached hreg hb =>
      exact { h with
        registrations := h.registrations.modify hreg fun hold => ⟨hold.1, hold.2.1, by rintro ⟨⟩⟩
        buffers := h.buffers.modify hb fun hold => hold }
  | planDirect => exact { (h.nextId hle2) with
      plans := (h.nextId hle2).plans.insert ⟨rfl, Nat.le_succ _, .inl rfl⟩ }
  | planFallback => exact { (h.nextId hle3) with
      buffers := (h.nextId hle3).buffers.insert ⟨rfl, le_rfl⟩
      plans := (h.nextId hle3).plans.insert ⟨rfl, Nat.le_add_right _ 2, .inr rfl⟩ }
  | @beginTransfer _ _ plan authority backend handle hready =>
      obtain ⟨hid, hplanId, -, -⟩ := runAttempt_core plan handle backend
        (newAttempt plan authority (s.nextId + 1) s.epoch)
      obtain ⟨hold, hle, -⟩ := h.plans _ _ hready.stored
      refine { hnext with attempts := hnext.attempts.insert ⟨rfl, hid.le, ?_⟩ }
      rw [← hold] at hle
      exact (hplanId.le.trans hle).trans (Nat.le_succ _)
  | failTransfer => exact { h with }
  | completeTransfer hattempt hn =>
      exact { h.nextId hn with attempts := (h.nextId hn).attempts.modify hattempt fun hold => hold }
  | cancelTransfer hattempt =>
      exact { h with attempts := h.attempts.modify hattempt fun hold => hold }
  | verifyTransfer => exact { hnext with }
  | rehash hs => exact h.rearranged hs
  | recover => exact absurd rfl (hrecover _)

/-- What is recovered from well-formed registries is well formed. -/
theorem recovered {d : State} (h : WellFormed d) (hs : RecoveredFrom d s) :
  WellFormed s
  where
  buffers := by
    rintro k _ hb
    obtain ⟨b, hmem, rfl, rfl⟩ := hs.buffers k _ hb
    obtain ⟨k, rfl, hle⟩ := h.buffers.of_mem_values hmem
    rw [hs.nextId]
    exact ⟨rfl, hle⟩
  devices := by
    rintro k _ hd
    obtain ⟨d, -, rfl, rfl⟩ := hs.devices k _ hd
    rfl
  endpoints := by
    rintro k _ he
    obtain ⟨e, hmem, rfl, rfl⟩ := hs.endpoints k _ he
    obtain ⟨k, rfl, hle⟩ := h.endpoints.of_mem_values hmem
    rw [hs.nextId]
    exact ⟨rfl, hle⟩
  nics := by
    rintro k _ hn
    obtain ⟨n, -, rfl, rfl⟩ := hs.nics k _ hn
    rfl
  storage := by
    rintro k _ he
    obtain ⟨e, -, rfl, rfl⟩ := hs.storage k _ he
    rfl
  providers := by
    rintro k _ hp
    obtain ⟨p, -, rfl, rfl⟩ := hs.providers k _ hp
    rfl
  capabilities := by
    rintro k _ hc
    obtain ⟨c, hmem, -, rfl⟩ := hs.capabilities k _ hc
    obtain ⟨k, hle⟩ := h.capabilities.of_mem_values hmem
    rw [hs.nextId]
    exact hle
  capability := by
    rintro k k' _ _ hc hc' heq
    obtain ⟨c, -, rfl, rfl⟩ := hs.capabilities k _ hc
    obtain ⟨c', -, rfl, rfl⟩ := hs.capabilities k' _ hc'
    exact heq
  registrations := by
    rintro k _ hr
    obtain ⟨r, hmem, rfl, rfl⟩ := hs.registrations k _ hr
    obtain ⟨k, rfl, hvalid, hstate⟩ := h.registrations.of_mem_values hmem
    refine ⟨rfl, hvalid, ?_⟩
    rw [recoveredRegistration, recoveredState]
    split
    · rintro ⟨⟩
    · exact hstate
  plans := by
    rintro k _ hp
    obtain ⟨p, hmem, rfl, rfl⟩ := hs.plans k _ hp
    obtain ⟨k, rfl, hle, hcount⟩ := h.plans.of_mem_values hmem
    rw [hs.nextId]
    exact ⟨rfl, hle, hcount⟩
  attempts := by
    rw [hs.attempts]
    exact .empty
  workers := by
    rw [hs.workers]
    exact .empty

end WellFormed

/-! ### Reachable states -/

/-- Suppose that a property of well-formed states holds of new coordinators, is kept by every effect
but a recovery, and is recovered from the states where it holds.  Then it holds of every state of
coordinators that recover only what coordinators persisted, and these are well formed. -/
theorem persistedFabric_invariant {P : State → Prop} (hstart : ∀ epoch, P (Coordinator epoch))
    (heffect : ∀ e s, WellFormed s → P s → Effect e s (apply e s) → (∀ file, e ≠ .recover file) →
      P (apply e s))
    (hrecovered : ∀ d s, P d → RecoveredFrom d s → P s) {w : World}
    (h : persistedFabric.Reachable w) :
  WellFormed w.state ∧ P w.state
  := by
  apply h.invariant (P := fun w => WellFormed w.state ∧ P w.state)
  · rintro w ⟨epoch, rfl⟩
    exact ⟨.start epoch, hstart epoch⟩
  · rintro w e w' ⟨hwf, hP⟩ ⟨hallowed, rfl⟩
    have hnot : ∀ file, e ≠ .recover file := by
      rintro file rfl
      exact absurd hallowed.1 (by decide)
    exact ⟨hwf.effect hallowed.effect hnot, heffect e w.state hwf hP hallowed.effect hnot⟩
  · rintro d w e w' ⟨hwfd, hPd⟩ hw ⟨hfits, -, rfl, rfl⟩
    rw [World.next_state, apply]
    obtain hsame | hrec := recoverFromFile_persisted hfits w.state
    · rw [hsame]
      exact hw
    · exact ⟨hwfd.recovered hrec, hrecovered d.state _ hPd hrec⟩

/-- The registries of every reachable state are well formed. -/
theorem wellFormed_of_reachable {w : World} (h : persistedFabric.Reachable w) :
  WellFormed w.state
  := by
  refine (persistedFabric_invariant (P := fun _ => True) ?_ ?_ ?_ h).1
  · intros
    trivial
  · intros
    trivial
  · intros
    trivial

end GpuDirectFabric
