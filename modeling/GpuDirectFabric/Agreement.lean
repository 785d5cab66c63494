import GpuDirectFabric.Directories

/-!
# Agreement

The operations read a table by its keys and its size, search it for a name that one entry has, or
scan it for a latest entry that is unique.  So an operation on two states that are rearrangements of
each other gives one result, and leaves states that are rearrangements of each other.
-/

namespace GpuDirectFabric

open Coordinator PathPlanner

/-- The two calls give one result, and leave states that are rearrangements of each other. -/
structure Agree {α : Type} (x y : Result α × State) : Prop where
  result : y.1 = x.1
  state : x.2.Rearranged y.2

namespace Agree

variable {α : Type} {s s' : State}

/-- Both calls are refused, or have nothing to do. -/
theorem same (hs : s.Rearranged s') (r : Result α) :
  Agree (r, s) (r, s')
  := ⟨rfl, hs⟩

/-- Both calls return, and leave rearrangements. -/
theorem done {t t' : State} (r : Result α) (h : t.Rearranged t') :
  Agree (r, t) (r, t')
  := ⟨rfl, h⟩

/-- Both calls pass a check, or both are refused. -/
theorem check {c c' : Prop} [Decidable c] [Decidable c'] {r : Result α} {x y : Result α × State}
    (hs : s.Rearranged s') (hc : c' ↔ c) (h : ¬c → Agree x y) :
  Agree (if c then (r, s) else x) (if c' then (r, s') else y)
  := by
  by_cases hrefused : c
  · rw [if_pos hrefused, if_pos (hc.mpr hrefused)]
    apply Agree.same hs
  · rw [if_neg hrefused, if_neg (mt hc.mp hrefused)]
    apply h hrefused

end Agree

namespace State.Rearranged

variable {s s' s'' : State}

/-- Rearrangements compose, table by table. -/
theorem trans (h : s.Rearranged s') (h' : s'.Rearranged s'') :
  s.Rearranged s''
  where
  epoch := h'.epoch.trans h.epoch
  nextId := h'.nextId.trans h.nextId
  freshness := h'.freshness.trans h.freshness
  buffers := h.buffers.trans h'.buffers
  devices := h.devices.trans h'.devices
  endpoints := h.endpoints.trans h'.endpoints
  nics := h.nics.trans h'.nics
  storage := h.storage.trans h'.storage
  registrations := h.registrations.trans h'.registrations
  providers := h.providers.trans h'.providers
  capabilities := h.capabilities.trans h'.capabilities
  plans := h.plans.trans h'.plans
  attempts := h.attempts.trans h'.attempts
  receipts := h.receipts.trans h'.receipts
  verifications := h.verifications.trans h'.verifications
  workers := h.workers.trans h'.workers
  workerMaxBoot := h.workerMaxBoot.trans h'.workerMaxBoot
  limits := by
    obtain ⟨hb, hr, he, hp, ha⟩ := h.limits
    obtain ⟨hb', hr', he', hp', ha'⟩ := h'.limits
    use hb'.trans hb, hr'.trans hr, he'.trans he, hp'.trans hp, ha'.trans ha

/-- Liveness is a lookup. -/
theorem workerLiveLocked (hs : s.Rearranged s') :
  s'.workerLiveLocked = s.workerLiveLocked
  := by
  funext a
  rw [State.workerLiveLocked, State.workerLiveLocked, hs.epoch, hs.workers.lookup]

/-- A sweep goes through whole tables, record by record. -/
theorem invalidate (hs : s.Rearranged s') (p : Registration → Bool) (q : TransferPlan → Bool) :
  (s.invalidate p q).Rearranged (s'.invalidate p q)
  := { hs with
    registrations := hs.registrations.map _
    plans := hs.plans.map _ }

end State.Rearranged

section

variable {s s' : State}

/-! ### Workers -/

/-- The limits are no tables. -/
theorem setLimits_rearranged (b r e p a : ℕ) (hs : s.Rearranged s') :
  (setLimits b r e p a s).Rearranged (setLimits b r e p a s')
  := { hs with limits := ⟨rfl, rfl, rfl, rfl, rfl⟩ }

/-- What `register_worker` finds of a worker and its boot id are lookups. -/
theorem registerWorker_agree (worker : WorkerId) (boot : WorkerBootId) (epoch : CoordinatorEpoch)
    (hs : s.Rearranged s') :
  Agree (registerWorker worker boot epoch s) (registerWorker worker boot epoch s')
  := by
  have hstore : ∀ w : WorkerId × WorkerBootId,
      State.Rearranged
        { s with
          workers := s.workers.insert worker w
          workerMaxBoot := s.workerMaxBoot.insert worker boot }
        { s' with
          workers := s'.workers.insert worker w
          workerMaxBoot := s'.workerMaxBoot.insert worker boot } := by
    intro w
    exact { hs with
      workers := hs.workers.insert worker w
      workerMaxBoot := hs.workerMaxBoot.insert worker boot }
  rw [registerWorker, registerWorker, hs.workers.lookup, hs.workerMaxBoot.lookup]
  apply Agree.check hs (by rw [hs.epoch])
  intro
  apply Agree.check hs Iff.rfl
  intro
  apply Agree.check hs Iff.rfl
  intro
  split
  next =>
    cases s.workers.lookup worker with
    | some live =>
        apply Agree.check hs Iff.rfl
        intro
        apply Agree.done _ (hstore _)
    | none =>
        apply Agree.check hs Iff.rfl
        intro
        apply Agree.done _ (hstore _)
  next => apply Agree.done _ (hstore _)

/-- The registrations of a dead worker are swept one by one. -/
theorem markWorkerDead_agree (worker : WorkerId) (hs : s.Rearranged s') :
  Agree (markWorkerDead worker s) (markWorkerDead worker s')
  := by
  apply Agree.done
  exact { hs with
    workers := hs.workers.erase worker
    registrations := hs.registrations.map _ }

/-- So are all registrations and plans when the epoch changes. -/
theorem advanceEpoch_agree (hs : s.Rearranged s') :
  Agree (advanceEpoch s) (advanceEpoch s')
  := by
  apply Agree.done
  exact { hs with
    epoch := congrArg (· + 1) hs.epoch
    workers := .refl _
    registrations := hs.registrations.map _
    plans := hs.plans.map _ }

/-! ### Buffers, devices, endpoints, nics and storage endpoints -/

/-- Room for a buffer is a matter of size. -/
theorem createBuffer_agree (p : CreateBufferParams) (hs : s.Rearranged s') :
  Agree (createBuffer p s) (createBuffer p s')
  := by
  simp only [createBuffer, hs.buffers.size, hs.workerLiveLocked, State.nextIdLocked,
    State.nextFreshnessLocked, hs.nextId, hs.freshness]
  apply Agree.check hs Iff.rfl
  intro
  apply Agree.check hs (by rw [hs.limits.1])
  intro
  apply Agree.check hs Iff.rfl
  intro
  apply Agree.done
  exact { hs with
    nextId := rfl
    freshness := rfl
    buffers := hs.buffers.insert _ _ }

/-- The buffer is looked up, and what depends on it is swept. -/
theorem advanceBufferGeneration_agree (id : BufferId) (authority : Authority)
    (hs : s.Rearranged s') :
  Agree (advanceBufferGeneration id authority s) (advanceBufferGeneration id authority s')
  := by
  simp only [advanceBufferGeneration, hs.buffers.lookup, hs.workerLiveLocked,
    State.nextFreshnessLocked, hs.freshness]
  cases s.buffers.lookup id with
  | none => exact .same hs _
  | some b =>
    apply Agree.check hs Iff.rfl
    intro
    apply Agree.done
    apply State.Rearranged.invalidate
    exact { hs with
      freshness := rfl
      buffers := hs.buffers.insert _ _ }

/-- The same holds when it is retired. -/
theorem retireBuffer_agree (id : BufferId) (authority : Authority) (hs : s.Rearranged s') :
  Agree (retireBuffer id authority s) (retireBuffer id authority s')
  := by
  simp only [retireBuffer, hs.buffers.lookup, hs.workerLiveLocked, State.nextFreshnessLocked,
    hs.freshness]
  cases s.buffers.lookup id with
  | none => exact .same hs _
  | some b =>
    apply Agree.check hs Iff.rfl
    intro
    apply Agree.done
    apply State.Rearranged.invalidate
    exact { hs with
      freshness := rfl
      buffers := hs.buffers.insert _ _ }

/-- A device is stored under a new id. -/
theorem addDevice_agree (p : DeviceAddParams) (hs : s.Rearranged s') :
  Agree (addDevice p s) (addDevice p s')
  := by
  simp only [addDevice, hs.workerLiveLocked, State.nextIdLocked, State.nextFreshnessLocked,
    hs.nextId, hs.freshness]
  apply Agree.check hs Iff.rfl
  intro
  apply Agree.done
  exact { hs with
    nextId := rfl
    freshness := rfl
    devices := hs.devices.insert _ _ }

/-- Room for an endpoint is a matter of size. -/
theorem addEndpoint_agree (p : EndpointAddParams) (hs : s.Rearranged s') :
  Agree (addEndpoint p s) (addEndpoint p s')
  := by
  simp only [addEndpoint, hs.endpoints.size, hs.workerLiveLocked, State.nextIdLocked,
    State.nextFreshnessLocked, hs.nextId, hs.freshness]
  apply Agree.check hs (by rw [hs.limits.2.2.1])
  intro
  apply Agree.check hs Iff.rfl
  intro
  apply Agree.done
  exact { hs with
    nextId := rfl
    freshness := rfl
    endpoints := hs.endpoints.insert _ _ }

/-- The endpoint is looked up, and what depends on it is swept. -/
theorem advanceEndpointGeneration_agree (id : EndpointId) (authority : Authority)
    (hs : s.Rearranged s') :
  Agree (advanceEndpointGeneration id authority s) (advanceEndpointGeneration id authority s')
  := by
  simp only [advanceEndpointGeneration, hs.endpoints.lookup, hs.workerLiveLocked,
    State.nextFreshnessLocked, hs.freshness]
  cases s.endpoints.lookup id with
  | none => exact .same hs _
  | some e =>
    apply Agree.check hs Iff.rfl
    intro
    apply Agree.done
    apply State.Rearranged.invalidate
    exact { hs with
      freshness := rfl
      endpoints := hs.endpoints.insert _ _ }

/-- Its health is set in its place. -/
theorem setEndpointHealth_agree (id : EndpointId) (healthy : Bool) (authority : Authority)
    (hs : s.Rearranged s') :
  Agree (setEndpointHealth id healthy authority s) (setEndpointHealth id healthy authority s')
  := by
  simp only [setEndpointHealth, hs.endpoints.lookup, hs.workerLiveLocked,
    State.nextFreshnessLocked, hs.freshness]
  cases s.endpoints.lookup id with
  | none => exact .same hs _
  | some e =>
    apply Agree.check hs Iff.rfl
    intro
    apply Agree.done
    exact { hs with
      freshness := rfl
      endpoints := hs.endpoints.insert _ _ }

/-- A network interface is stored under its own id or a new one. -/
theorem addNic_agree (rec : NicRecord) (hs : s.Rearranged s') :
  Agree (addNic rec s) (addNic rec s')
  := by
  simp only [addNic, State.nextIdUnless, State.nextFreshnessLocked, hs.nextId, hs.freshness]
  apply Agree.done
  exact { hs with
    nextId := rfl
    freshness := rfl
    nics := hs.nics.insert _ _ }

/-- So is a storage endpoint. -/
theorem addStorageEndpoint_agree (rec : StorageEndpointRecord) (hs : s.Rearranged s') :
  Agree (addStorageEndpoint rec s) (addStorageEndpoint rec s')
  := by
  simp only [addStorageEndpoint, State.nextIdUnless, State.nextFreshnessLocked, hs.nextId,
    hs.freshness]
  apply Agree.done
  exact { hs with
    nextId := rfl
    freshness := rfl
    storage := hs.storage.insert _ _ }

/-! ### Providers and capabilities -/

/-- An entry that is the only one with a property is found in any order of traversal. -/
theorem findEntry_rearranged {V : Type} {t t' : Table V} (h : t.Rearranged t') {p : V → Bool}
    (hunique : ∀ k k' v v', t.lookup k = some v → t.lookup k' = some v' → p v = true →
      p v' = true → k = k') :
  findEntry p t' = findEntry p t
  := by
  rw [findEntry, findEntry]
  congr 1
  apply find?_perm h
  rintro ⟨k, v⟩ hmem ⟨k', v'⟩ hmem' hv hv'
  have hlookup := AList.mem_lookup_iff.mpr hmem
  have hlookup' := AList.mem_lookup_iff.mpr hmem'
  obtain rfl := hunique k k' v v' hlookup hlookup' hv hv'
  obtain rfl := Option.mem_unique hlookup hlookup'
  rfl

/-- The first provider of a name is the only one. -/
theorem DirectoryNamed.findProvider (h : DirectoryNamed s) (hs : s.Rearranged s') (name : Str) :
  findEntry (fun v : ProviderInfo => v.name = name) s'.providers =
    findEntry (fun v : ProviderInfo => v.name = name) s.providers
  := by
  apply findEntry_rearranged hs.providers
  intro k k' v v' hv hv' hname hname'
  rw [decide_eq_true_eq] at hname hname'
  apply h.providers k k' v v' hv hv' (hname.trans hname'.symm)

/-- So is the first observation of a capability. -/
theorem DirectoryNamed.findCapability (h : DirectoryNamed s) (hs : s.Rearranged s')
    (provider capability : Str) :
  findEntry (fun c : CapabilityObservation =>
      c.provider = provider && c.capability = capability) s'.capabilities =
    findEntry (fun c : CapabilityObservation =>
      c.provider = provider && c.capability = capability) s.capabilities
  := by
  apply findEntry_rearranged hs.capabilities
  intro k k' c c' hc hc' hkey hkey'
  rw [Bool.and_eq_true, decide_eq_true_eq, decide_eq_true_eq] at hkey hkey'
  apply h.capabilities k k' c c' hc hc'
  rw [CapabilityObservation.key, CapabilityObservation.key, hkey.1, hkey.2, hkey'.1, hkey'.2]

/-- The search for the name of a provider ends at the same entry. -/
theorem addProvider_agree (p : ProviderAddParams) (h : DirectoryNamed s) (hs : s.Rearranged s') :
  Agree (addProvider p s) (addProvider p s')
  := by
  simp only [addProvider, h.findProvider hs, State.nextIdLocked, hs.nextId]
  apply Agree.check hs Iff.rfl
  intro
  cases findEntry (fun v : ProviderInfo => v.name = p.name) s.providers with
  | some kv =>
      apply Agree.done
      exact { hs with
        nextId := rfl
        providers := hs.providers.insert _ _ }
  | none =>
      apply Agree.done
      exact { hs with
        nextId := rfl
        providers := hs.providers.insert _ _ }

/-- The observation that is replaced is the same. -/
theorem publishCapability_agree (p : CapabilityPublishParams) (h : DirectoryNamed s)
    (hs : s.Rearranged s') :
  Agree (publishCapability p s) (publishCapability p s')
  := by
  simp only [publishCapability, hs.workerLiveLocked, State.nextIdLocked,
    State.nextFreshnessLocked, hs.nextId, hs.freshness, h.findCapability hs]
  apply Agree.check hs Iff.rfl
  intro
  cases findEntry (fun c : CapabilityObservation =>
      c.provider = p.provider && c.capability = p.capability) s.capabilities with
  | some kv =>
      apply Agree.done
      exact { hs with
        nextId := rfl
        freshness := rfl
        capabilities := hs.capabilities.insert _ _ }
  | none =>
      apply Agree.done
      exact { hs with
        nextId := rfl
        freshness := rfl
        capabilities := hs.capabilities.insert _ _ }

/-- So is the one that is revoked. -/
theorem revokeCapability_agree (provider capability : Str) (authority : Authority)
    (h : DirectoryNamed s) (hs : s.Rearranged s') :
  Agree (revokeCapability provider capability authority s)
    (revokeCapability provider capability authority s')
  := by
  simp only [revokeCapability, hs.workerLiveLocked, h.findCapability hs]
  cases findEntry (fun c : CapabilityObservation =>
      c.provider = provider && c.capability = capability) s.capabilities with
  | none => exact .same hs _
  | some kc =>
      apply Agree.check hs Iff.rfl
      intro
      apply Agree.done
      exact { hs with capabilities := hs.capabilities.erase _ }

/-! ### Registrations -/

/-- Of the registrations of a pair, the one with the highest generation is found in any order. -/
theorem LatestCurrent.latest_rearranged (h : LatestCurrent s) (hs : s.Rearranged s')
    (buffer : BufferId) (endpoint : EndpointId) {p : Registration → Bool}
    (hp : ∀ r, p r = true → r.buffer = buffer ∧ r.endpoint = endpoint) :
  latest p Registration.generation s'.registrations.values =
    latest p Registration.generation s.registrations.values
  := by
  apply latest_perm hs.registrations.perm_values
  intro r hr r' hr' hpair hpair' hgeneration
  apply eq_of_mem_values hr hr'
  intro k k' hk hk'
  obtain ⟨hbuffer, hendpoint⟩ := hp r hpair
  obtain ⟨hbuffer', hendpoint'⟩ := hp r' hpair'
  apply h.distinct buffer endpoint k k' r r' ⟨hk, hbuffer, hendpoint⟩ ⟨hk', hbuffer', hendpoint'⟩
    hgeneration

/-- The latest registration of a pair is the only one with its generation. -/
theorem LatestCurrent.latestRegistration (h : LatestCurrent s) (hs : s.Rearranged s')
    (buffer : BufferId) (endpoint : EndpointId) :
  latestRegistration s' buffer endpoint = latestRegistration s buffer endpoint
  := by
  apply h.latest_rearranged hs buffer endpoint
  intro r hr
  simpa using hr

/-- So is the latest of those that are in force. -/
theorem LatestCurrent.registeredRegistration (h : LatestCurrent s) (hs : s.Rearranged s')
    (buffer : BufferId) (endpoint : EndpointId) :
  registeredRegistration s' buffer endpoint = registeredRegistration s buffer endpoint
  := by
  apply h.latest_rearranged hs buffer endpoint
  intro r hr
  rw [Bool.and_eq_true, Bool.and_eq_true, decide_eq_true_eq, decide_eq_true_eq] at hr
  apply hr.1

/-- What is stored depends on the backend's answer and the counters. -/
theorem acceptRegistration_agree (p : RegisterParams) (buffer : BufferRecord)
    (endpoint : EndpointRecord) (latestReg : Option Registration) (rr : RegisterResult)
    (hs : s.Rearranged s') :
  Agree (acceptRegistration p buffer endpoint latestReg rr s)
    (acceptRegistration p buffer endpoint latestReg rr s')
  := by
  simp only [acceptRegistration, registrationKey, storeRegistration, State.nextIdUnless,
    State.nextFreshnessLocked, hs.nextId, hs.freshness]
  apply Agree.done
  exact { hs with
    nextId := rfl
    freshness := rfl
    registrations := hs.registrations.insert _ _
    buffers := hs.buffers.insert _ _ }

/-- The backend is asked for the same. -/
theorem stageRegistration_agree (p : RegisterParams) (backend : Option Backend)
    (buffer : BufferRecord) (endpoint : EndpointRecord) (latestReg : Option Registration)
    (hs : s.Rearranged s') :
  Agree (stageRegistration p backend buffer endpoint latestReg s)
    (stageRegistration p backend buffer endpoint latestReg s')
  := by
  rw [stageRegistration, stageRegistration]
  cases backendRegister p backend buffer endpoint with
  | error e => exact .same hs _
  | ok rr => exact acceptRegistration_agree p buffer endpoint latestReg rr hs

/-- The checks of `register_buffer` are lookups and the search for the latest registration. -/
theorem registerBuffer_agree (p : RegisterParams) (backend : Option Backend)
    (h : LatestCurrent s) (hs : s.Rearranged s') :
  Agree (registerBuffer p backend s) (registerBuffer p backend s')
  := by
  simp only [registerBuffer, hs.buffers.lookup, hs.endpoints.lookup, hs.registrations.size,
    hs.workerLiveLocked, h.latestRegistration hs]
  cases s.buffers.lookup p.buffer with
  | none => exact .same hs _
  | some buffer =>
  apply Agree.check hs Iff.rfl
  intro
  cases s.endpoints.lookup p.endpoint with
  | none => exact .same hs _
  | some endpoint =>
  apply Agree.check hs Iff.rfl
  intro
  apply Agree.check hs (by rw [hs.limits.2.1])
  intro
  apply Agree.check hs (by rw [hs.epoch])
  intro
  apply Agree.check hs Iff.rfl
  intro
  apply Agree.check hs Iff.rfl
  intro
  apply Agree.check hs Iff.rfl
  intro
  cases latestRegistration s p.buffer p.endpoint with
  | none => exact stageRegistration_agree p backend buffer endpoint none hs
  | some latestReg =>
  apply Agree.check hs Iff.rfl
  intro
  split
  next =>
    apply Agree.check hs Iff.rfl
    intro
    exact .same hs _
  apply Agree.check hs Iff.rfl
  intro
  apply stageRegistration_agree
  split
  · exact { hs with registrations := hs.registrations.map _ }
  · exact hs

/-- Whether the buffer still refers to the registration is a lookup. -/
theorem clearRegistration_rearranged (id : RegistrationId) (buffer : BufferId)
    (hs : s.Rearranged s') :
  (clearRegistration id buffer s).Rearranged (clearRegistration id buffer s')
  := by
  simp only [clearRegistration, hs.buffers.lookup, State.nextFreshnessLocked, hs.freshness]
  cases s.buffers.lookup buffer with
  | none => exact hs
  | some b =>
      dsimp only
      split
      · exact { hs with
          freshness := rfl
          buffers := hs.buffers.insert _ _ }
      · exact hs

/-- Whether there is a newer registration is the search for the latest one. -/
theorem deregisterBuffer_agree (id : RegistrationId) (authority : Authority)
    (h : LatestCurrent s) (hs : s.Rearranged s') :
  Agree (deregisterBuffer id authority s) (deregisterBuffer id authority s')
  := by
  simp only [deregisterBuffer, hs.registrations.lookup, hs.workerLiveLocked,
    h.latestRegistration hs, State.nextFreshnessLocked, hs.freshness]
  cases s.registrations.lookup id with
  | none => exact .same hs _
  | some reg =>
  apply Agree.check hs Iff.rfl
  intro
  split
  next =>
    apply Agree.done
    exact { hs with
      freshness := rfl
      registrations := hs.registrations.insert _ _ }
  apply Agree.check hs Iff.rfl
  intro
  apply Agree.check hs Iff.rfl
  intro
  apply Agree.done
  apply clearRegistration_rearranged
  exact { hs with
    freshness := rfl
    registrations := hs.registrations.insert _ _ }

/-! ### Plans -/

/-- The registration that a plan is bound to is found by search. -/
theorem planTransferCommit_agree (p : PlanRequestParams) (d : PathDecision) (h : LatestCurrent s)
    (hs : s.Rearranged s') :
  Agree (planTransferCommit p d s) (planTransferCommit p d s')
  := by
  simp only [planTransferCommit, hs.plans.size, hs.buffers.lookup, hs.endpoints.lookup,
    h.registeredRegistration hs]
  apply Agree.check hs Iff.rfl
  intro
  apply Agree.check hs (by rw [hs.limits.2.2.2.1])
  intro
  cases s.buffers.lookup p.source with
  | none => exact .same hs _
  | some src =>
  apply Agree.check hs Iff.rfl
  intro
  cases s.endpoints.lookup p.destination with
  | none => exact .same hs _
  | some dst =>
  apply Agree.check hs Iff.rfl
  intro
  apply Agree.check hs Iff.rfl
  intro
  simp only [storePlan, storeDirectPlan, storeFallbackPlan, State.nextIdLocked,
    State.nextFreshnessLocked, hs.nextId, hs.epoch, hs.freshness]
  split
  · apply Agree.done
    exact { hs with
      epoch := rfl
      nextId := rfl
      freshness := rfl
      plans := hs.plans.insert _ _ }
  · apply Agree.done
    exact { hs with
      epoch := rfl
      nextId := rfl
      freshness := rfl
      buffers := hs.buffers.insert _ _
      plans := hs.plans.insert _ _ }

/-! ### Transfers -/

/-- The registration that a plan is bound to is looked up. -/
theorem registrationCurrent_rearranged (plan : TransferPlan) (hs : s.Rearranged s') :
  registrationCurrent plan s' = registrationCurrent plan s
  := by
  rw [registrationCurrent, registrationCurrent, hs.registrations.lookup]

/-- The backend is given the same transfer to run. -/
theorem startAttempt_agree (plan : TransferPlan) (authority : Authority)
    (handle : Option BackendHandle) (backend : Option Backend) (hs : s.Rearranged s') :
  Agree (startAttempt plan authority handle backend s)
    (startAttempt plan authority handle backend s')
  := by
  simp only [startAttempt, State.nextIdLocked, hs.nextId, hs.epoch]
  apply Agree.done
  exact { hs with
    epoch := rfl
    nextId := rfl
    attempts := hs.attempts.insert _ _ }

/-- The checks of `begin_transfer` are lookups. -/
theorem beginTransfer_agree (planId : TransferPlanId) (authority : Authority)
    (backend : Option Backend) (hs : s.Rearranged s') :
  Agree (beginTransfer planId authority backend s) (beginTransfer planId authority backend s')
  := by
  simp only [beginTransfer, hs.plans.lookup, hs.buffers.lookup, hs.endpoints.lookup,
    hs.workerLiveLocked, hs.attempts.size, registrationCurrent_rearranged _ hs]
  cases s.plans.lookup planId with
  | none => exact .same hs _
  | some plan =>
  apply Agree.check hs Iff.rfl
  intro
  apply Agree.check hs (by rw [hs.epoch])
  intro
  apply Agree.check hs Iff.rfl
  intro
  apply Agree.check hs Iff.rfl
  intro
  apply Agree.check hs (by rw [hs.limits.2.2.2.2])
  intro
  cases s.buffers.lookup plan.source with
  | none => exact .same hs _
  | some buffer =>
  apply Agree.check hs Iff.rfl
  intro
  cases s.endpoints.lookup plan.destination with
  | none => exact .same hs _
  | some endpoint =>
  apply Agree.check hs Iff.rfl
  intro
  apply Agree.check hs Iff.rfl
  intro
  apply startAttempt_agree plan authority buffer.handle backend hs

/-- The attempt and its receipt are stored under its id. -/
theorem commitAttempt_rearranged (id : TransferAttemptId) (attempt : TransferAttempt)
    (receipt : TransferReceipt) (hs : s.Rearranged s') :
  (commitAttempt id attempt receipt s).Rearranged (commitAttempt id attempt receipt s')
  := { hs with
    attempts := hs.attempts.insert _ _
    receipts := hs.receipts.insert _ _ }

/-- A verification is stored under a new id. -/
theorem storeVerification_rearranged (attempt : TransferAttempt) (passed : Bool)
    (hs : s.Rearranged s') :
  (storeVerification attempt passed s).Rearranged (storeVerification attempt passed s')
  := by
  simp only [storeVerification, State.nextIdLocked, hs.nextId]
  exact { hs with
    nextId := rfl
    verifications := hs.verifications.insert _ _ }

/-- The receipt depends on the attempt alone. -/
theorem finishAttempt_agree (id : TransferAttemptId) (attempt : TransferAttempt)
    (hs : s.Rearranged s') :
  Agree (finishAttempt id attempt s) (finishAttempt id attempt s')
  := by
  have hcommit := fun receipt => commitAttempt_rearranged id attempt receipt hs
  rw [finishAttempt, finishAttempt]
  split
  next => exact .done _ (storeVerification_rearranged _ _ (hcommit _))
  next =>
    dsimp only
    apply Agree.done
    split
    · exact storeVerification_rearranged _ _ (hcommit _)
    · exact hcommit _

/-- The attempt, its receipt and its plan are looked up. -/
theorem completeTransfer_agree (id : TransferAttemptId) (authority : Authority)
    (hs : s.Rearranged s') :
  Agree (completeTransfer id authority s) (completeTransfer id authority s')
  := by
  simp only [completeTransfer, hs.attempts.lookup, hs.receipts.lookup, hs.plans.lookup,
    hs.workerLiveLocked]
  cases s.attempts.lookup id with
  | none => exact .same hs _
  | some attempt =>
  apply Agree.check hs Iff.rfl
  intro
  apply Agree.check hs Iff.rfl
  intro
  split
  next =>
    cases s.receipts.lookup id with
    | some receipt => exact .same hs _
    | none =>
        apply Agree.done
        exact { hs with receipts := hs.receipts.insert _ _ }
  apply Agree.check hs Iff.rfl
  intro
  apply Agree.check hs Iff.rfl
  intro
  apply finishAttempt_agree id attempt hs

/-- The attempt is looked up. -/
theorem cancelTransfer_agree (id : TransferAttemptId) (authority : Authority)
    (hs : s.Rearranged s') :
  Agree (cancelTransfer id authority s) (cancelTransfer id authority s')
  := by
  simp only [cancelTransfer, hs.attempts.lookup, hs.workerLiveLocked]
  cases s.attempts.lookup id with
  | none => exact .same hs _
  | some attempt =>
  apply Agree.check hs Iff.rfl
  intro
  apply Agree.check hs Iff.rfl
  intro
  apply Agree.done
  exact { hs with
    attempts := hs.attempts.insert _ _
    receipts := hs.receipts.insert _ _ }

/-- So it is to be verified. -/
theorem verifyTransfer_agree (id : TransferAttemptId) (passed : Bool) (bytesChecked : ℕ)
    (hs : s.Rearranged s') :
  Agree (verifyTransfer id passed bytesChecked s) (verifyTransfer id passed bytesChecked s')
  := by
  simp only [verifyTransfer, hs.attempts.lookup, State.nextIdLocked, hs.nextId]
  cases s.attempts.lookup id with
  | none => exact .same hs _
  | some attempt =>
      apply Agree.done
      exact { hs with
        nextId := rfl
        verifications := hs.verifications.insert _ _ }

end

end GpuDirectFabric
