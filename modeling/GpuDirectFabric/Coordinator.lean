import GpuDirectFabric.State

/-!
# The operations of the coordinator

Each operation runs under the coordinator's mutex, as a function from the state to a result
and the state after the call.  `plan_transfer` evaluates the path on an unlocked snapshot
first: `planTransferCommit` is what it then does under the mutex with the decision.
-/

namespace GpuDirectFabric

namespace Coordinator

/-- The limits are replaced, whatever the tables hold. -/
def setLimits (maxBuffers maxRegistrations maxEndpoints maxPlans maxAttempts : ℕ) (s : State) :
    State :=
  { s with
    maxBuffers := maxBuffers
    maxRegistrations := maxRegistrations
    maxEndpoints := maxEndpoints
    maxPlans := maxPlans
    maxAttempts := maxAttempts }

/-! ### Worker liveness -/

/-- `register_worker`: a new incarnation is admitted under the current epoch, unless its boot id is
older than the highest one seen, or the worker is dead and its boot id is not higher. -/
def registerWorker (worker : WorkerId) (boot : WorkerBootId) (epoch : CoordinatorEpoch)
    (s : State) : Result Unit × State :=
  if epoch != s.epoch then
    (err .staleEpoch "worker epoch mismatch", s)
  else if !valid worker then
    (err .invalidArgument "invalid worker id", s)
  else
    let prevMax := (s.workerMaxBoot.lookup worker).getD 0
    if boot < prevMax then
      (err .staleBoot "worker boot id is stale", s)
    else if prevMax != 0 then
      match s.workers.lookup worker with
      | some (w, live) =>
        if live = boot then (.ok (), s)
        else
          -- the incarnation advanced while live: the registrations of the old one stay
          (.ok (), { s with
            workers := s.workers.insert worker (w, boot)
            workerMaxBoot := s.workerMaxBoot.insert worker boot })
      | none =>
        if boot ≤ prevMax then
          (err .staleBoot "resurrecting a dead worker requires a fresh boot id", s)
        else
          (.ok (), { s with
            workerMaxBoot := s.workerMaxBoot.insert worker boot
            workers := s.workers.insert worker (worker, boot) })
    else
      (.ok (), { s with
        workerMaxBoot := s.workerMaxBoot.insert worker boot
        workers := s.workers.insert worker (worker, boot) })

/-- `mark_worker_dead`: the worker is forgotten, its highest boot id is not, and the registrations
in force under it require revalidation. -/
def markWorkerDead (worker : WorkerId) (s : State) : Result Unit × State :=
  (.ok (), { s with
    workers := s.workers.erase worker
    registrations := s.registrations.mapVals
      (State.revalidateIf fun r => r.authority.worker = worker && r.authority.workerOwned) })

/-- `advance_epoch`: no worker is live under the new epoch, and no registration or plan is in force.
-/
def advanceEpoch (s : State) : Result Unit × State :=
  (.ok (), { s with
    epoch := s.epoch + 1
    workers := ∅
    registrations := s.registrations.mapVals
      (State.revalidateIf fun r => r.state = .registered || r.state = .registering)
    plans := s.plans.mapVals (State.supersedeIf fun _ => true) })

/-! ### Buffers -/

/-- The record `create_buffer` stores. -/
def newBuffer (p : CreateBufferParams) (id : BufferId) (freshness : ℕ) : BufferRecord :=
  { id := id
    generation := 1
    authority := p.authority
    domain := p.domain
    size := p.size
    alignment := p.alignment
    device := p.device
    locality := p.locality
    registrationState := .unregistered
    lifecycle := .active
    support := p.support
    provenance := p.provenance
    freshness := freshness
    name := p.name
    handle := none }

/-- `create_buffer`, within the limit and under a live authority. -/
def createBuffer (p : CreateBufferParams) (s : State) : Result BufferRecord × State :=
  if p.size > 0 && p.alignment = 0 then
    (err .invalidArgument "alignment must be nonzero when size > 0", s)
  else if s.buffers.size ≥ s.maxBuffers then
    (err .resourceLimit "buffer limit reached", s)
  else if p.authority.workerOwned && !s.workerLiveLocked p.authority then
    (err .staleBoot "buffer owner authority is not live", s)
  else
    let s := s.nextIdLocked.nextFreshnessLocked
    let b := newBuffer p s.nextId s.freshness
    (.ok b, { s with buffers := s.buffers.insert b.id b })

/-- `advance_buffer_generation`: only the owner of a buffer that a worker owns may advance it, and
what depends on the old generation is invalidated. -/
def advanceBufferGeneration (id : BufferId) (authority : Authority) (s : State) :
    Result BufferRecord × State :=
  match s.buffers.lookup id with
  | none => (err .notFound "buffer not found", s)
  | some b =>
    if b.authority.workerOwned &&
        (authority != b.authority || !s.workerLiveLocked b.authority) then
      (err .staleBoot "buffer generation advance not authorized by owner", s)
    else
      let s := s.nextFreshnessLocked
      let b := { b with generation := b.generation + 1, freshness := s.freshness }
      (.ok b, { s with buffers := s.buffers.insert id b }.invalidateBufferDependentsLocked id)

/-- `retire_buffer`: the buffer stays in its table, and what depends on it is invalidated. -/
def retireBuffer (id : BufferId) (authority : Authority) (s : State) : Result Unit × State :=
  match s.buffers.lookup id with
  | none => (err .notFound "buffer not found", s)
  | some b =>
    if b.authority.workerOwned &&
        (authority != b.authority || !s.workerLiveLocked b.authority) then
      (err .staleBoot "buffer retire not authorized by owner", s)
    else
      let s := s.nextFreshnessLocked
      let b := { b with lifecycle := .retired, freshness := s.freshness }
      (.ok (), { s with buffers := s.buffers.insert id b }.invalidateBufferDependentsLocked id)

/-! ### Devices, endpoints, nics and storage endpoints -/

/-- The record `add_device` stores. -/
def newDevice (p : DeviceAddParams) (id : DeviceId) (freshness : ℕ) : DeviceRecord :=
  { id := id
    generation := 1
    name := p.name
    computeCapability := p.computeCapability
    peerMemorySupported := p.peerMemorySupported
    support := p.support
    provenance := p.provenance
    authority := p.authority
    freshness := freshness }

/-- `add_device`, for which there is no limit. -/
def addDevice (p : DeviceAddParams) (s : State) : Result DeviceRecord × State :=
  if p.authority.workerOwned && !s.workerLiveLocked p.authority then
    (err .staleBoot "device authority not live", s)
  else
    let s := s.nextIdLocked.nextFreshnessLocked
    let d := newDevice p s.nextId s.freshness
    (.ok d, { s with devices := s.devices.insert d.id d })

/-- The record `add_endpoint` stores. -/
def newEndpoint (p : EndpointAddParams) (id : EndpointId) (freshness : ℕ) : EndpointRecord :=
  { id := id
    generation := 1
    endpointClass := p.endpointClass
    name := p.name
    topologyHint := p.topologyHint
    healthy := p.healthy
    provider := p.provider
    support := p.support
    provenance := p.provenance
    authority := p.authority
    freshness := freshness }

/-- `add_endpoint`, within the limit and under a live authority. -/
def addEndpoint (p : EndpointAddParams) (s : State) : Result EndpointRecord × State :=
  if s.endpoints.size ≥ s.maxEndpoints then
    (err .resourceLimit "endpoint limit reached", s)
  else if p.authority.workerOwned && !s.workerLiveLocked p.authority then
    (err .staleBoot "endpoint authority not live", s)
  else
    let s := s.nextIdLocked.nextFreshnessLocked
    let e := newEndpoint p s.nextId s.freshness
    (.ok e, { s with endpoints := s.endpoints.insert e.id e })

/-- `advance_endpoint_generation`: what depends on the old generation is invalidated. -/
def advanceEndpointGeneration (id : EndpointId) (authority : Authority) (s : State) :
    Result EndpointRecord × State :=
  match s.endpoints.lookup id with
  | none => (err .notFound "endpoint not found", s)
  | some e =>
    if e.authority.workerOwned &&
        (authority != e.authority || !s.workerLiveLocked e.authority) then
      (err .staleBoot "endpoint generation advance not authorized", s)
    else
      let s := s.nextFreshnessLocked
      let e := { e with generation := e.generation + 1, freshness := s.freshness }
      (.ok e, { s with endpoints := s.endpoints.insert id e }.invalidateEndpointDependentsLocked id)

/-- `set_endpoint_health`: the generation stays, and nothing is invalidated. -/
def setEndpointHealth (id : EndpointId) (healthy : Bool) (authority : Authority) (s : State) :
    Result Unit × State :=
  match s.endpoints.lookup id with
  | none => (err .notFound "endpoint not found", s)
  | some e =>
    if e.authority.workerOwned &&
        (!s.workerLiveLocked e.authority || authority != e.authority) then
      (err .staleBoot "endpoint health update not authorized", s)
    else
      let s := s.nextFreshnessLocked
      let e := { e with healthy := healthy, freshness := s.freshness }
      (.ok (), { s with endpoints := s.endpoints.insert id e })

/-- `add_nic`: the record is stored under the caller's own id and generation, if it has any. -/
def addNic (rec : NicRecord) (s : State) : Result NicRecord × State :=
  let s := s.nextIdUnless (valid rec.id)
  let n := if !valid rec.id then { rec with id := s.nextId } else rec
  let n := if n.generation = 0 then { n with generation := 1 } else n
  let s := s.nextFreshnessLocked
  let n := { n with freshness := s.freshness }
  (.ok n, { s with nics := s.nics.insert n.id n })

/-- `add_storage_endpoint`, likewise. -/
def addStorageEndpoint (rec : StorageEndpointRecord) (s : State) :
    Result StorageEndpointRecord × State :=
  let s := s.nextIdUnless (valid rec.id)
  let e := if !valid rec.id then { rec with id := s.nextId } else rec
  let e := if e.generation = 0 then { e with generation := 1 } else e
  let s := s.nextFreshnessLocked
  let e := { e with freshness := s.freshness }
  (.ok e, { s with storage := s.storage.insert e.id e })

/-! ### Providers and capabilities -/

/-- The first entry of a table, in traversal order, whose value satisfies `p`. -/
def findEntry {V : Type} (p : V → Bool) (t : Table V) : Option (ℕ × V) :=
  (t.entries.find? fun kv => p kv.2).map fun kv => (kv.1, kv.2)

/-- The record `add_provider` stores for a new name. -/
def newProvider (p : ProviderAddParams) (id : ProviderId) : ProviderInfo :=
  { id := id
    name := p.name
    available := p.available
    support := p.support
    provenance := p.provenance }

/-- `add_provider`: a provider of this name is updated in its place. -/
def addProvider (p : ProviderAddParams) (s : State) : Result ProviderInfo × State :=
  if p.name.isEmpty then
    (err .invalidArgument "provider name required", s)
  else match findEntry (fun v : ProviderInfo => v.name = p.name) s.providers with
    | some (k, v) =>
      let v := { v with
        available := p.available, support := p.support, provenance := p.provenance }
      (.ok v, { s with providers := s.providers.insert k v })
    | none =>
      let s := s.nextIdLocked
      let info := newProvider p s.nextId
      (.ok info, { s with providers := s.providers.insert info.id info })

/-- The observation `publish_capability` stores. -/
def newCapability (p : CapabilityPublishParams) (id : CapabilityObservationId) (freshness : ℕ) :
    CapabilityObservation :=
  { id := id
    provider := p.provider
    capability := p.capability
    value := p.value
    support := p.support
    provenance := p.provenance
    authority := p.authority
    freshness := freshness }

/-- `publish_capability`: an observation of the same capability is replaced. -/
def publishCapability (p : CapabilityPublishParams) (s : State) :
    Result CapabilityObservation × State :=
  if p.authority.workerOwned && !s.workerLiveLocked p.authority then
    (err .staleBoot "capability authority not live", s)
  else
    let s := s.nextIdLocked.nextFreshnessLocked
    let c := newCapability p s.nextId s.freshness
    match findEntry (fun v : CapabilityObservation =>
        v.provider = p.provider && v.capability = p.capability) s.capabilities with
    | some (k, _) =>
      -- the new observation takes over the key of the one it replaces
      (.ok c, { s with capabilities := s.capabilities.insert k c })
    | none => (.ok c, { s with capabilities := s.capabilities.insert c.id c })

/-- `revoke_capability`: there need not be any such observation. -/
def revokeCapability (provider capability : Str) (authority : Authority) (s : State) :
    Result Unit × State :=
  match findEntry (fun c : CapabilityObservation =>
      c.provider = provider && c.capability = capability) s.capabilities with
  | none => (.ok (), s)
  | some (k, c) =>
    if c.authority.workerOwned &&
        (authority != c.authority || !s.workerLiveLocked c.authority) then
      (err .staleBoot "capability revoke not authorized", s)
    else (.ok (), { s with capabilities := s.capabilities.erase k })

/-! ### Registration -/

/-- The registration of a buffer for an endpoint with the highest generation. -/
def latestRegistration (s : State) (buffer : BufferId) (endpoint : EndpointId) :
    Option Registration :=
  PathPlanner.latest (fun r => r.buffer = buffer && r.endpoint = endpoint)
    Registration.generation s.registrations.values

/-- What the backend is asked to register. -/
def registrationSpec (buffer : BufferRecord) (endpoint : EndpointRecord)
    (authority : Authority) : RegistrationSpec :=
  { buffer := buffer.id
    domain := buffer.domain
    bufferGeneration := buffer.generation
    endpoint := endpoint.id
    endpointClass := endpoint.endpointClass
    endpointGeneration := endpoint.generation
    size := buffer.size
    alignment := buffer.alignment
    authority := authority
    support := buffer.support }

/-- The backend's answer, or the parameters' own values when there is no backend. -/
def backendRegister (p : RegisterParams) (backend : Option Backend) (buffer : BufferRecord)
    (endpoint : EndpointRecord) : Result RegisterResult :=
  match backend with
  | none => .ok { id := 0, support := p.support, provenance := p.provenance, handle := none }
  | some be =>
    match be.registerBuffer (registrationSpec buffer endpoint p.authority) with
    | .error e => err .registrationFailed e.message
    | .ok rr => .ok rr

/-- The record `register_buffer` stores. -/
def newRegistration (p : RegisterParams) (buffer : BufferRecord) (endpoint : EndpointRecord)
    (latestReg : Option Registration) (rr : RegisterResult) (id : RegistrationId)
    (freshness : ℕ) : Registration :=
  { id := id
    generation := match latestReg with
      | some r => r.generation + 1
      | none => 1
    buffer := buffer.id
    bufferGeneration := buffer.generation
    endpoint := endpoint.id
    endpointGeneration := endpoint.generation
    provider := p.provider
    authority := p.authority
    state := .registered
    support := rr.support
    provenance := rr.provenance
    freshness := freshness
    requiredCapabilities := p.requiredCapabilities
    handle := rr.handle }

/-- Store a registration, and the reference its buffer caches to it. -/
def storeRegistration (id : BufferId) (buffer : BufferRecord) (reg : Registration) (s : State) :
    State :=
  let s := { s with registrations := s.registrations.insert reg.id reg }
  let s := s.nextFreshnessLocked
  { s with buffers := s.buffers.insert id { buffer with
      registrationState := .registered
      registrationId := reg.id
      registrationGeneration := reg.generation
      freshness := s.freshness } }

/-- The id a registration is stored under: the backend's, or a new one when it gives none. -/
def registrationKey (rr : RegisterResult) (s : State) : RegistrationId :=
  if valid rr.id then rr.id else s.nextId + 1

/-- Store the registration the backend has answered with `rr`. -/
def acceptRegistration (p : RegisterParams) (buffer : BufferRecord) (endpoint : EndpointRecord)
    (latestReg : Option Registration) (rr : RegisterResult) (s : State) :
    Result Registration × State :=
  let id := registrationKey rr s
  let s := (s.nextIdUnless (valid rr.id)).nextFreshnessLocked
  let reg := newRegistration p buffer endpoint latestReg rr id s.freshness
  (.ok reg, storeRegistration p.buffer buffer reg s)

/-- The stage of `register_buffer` after all its checks: ask the backend, then store the
registration. -/
def stageRegistration (p : RegisterParams) (backend : Option Backend) (buffer : BufferRecord)
    (endpoint : EndpointRecord) (latestReg : Option Registration) (s : State) :
    Result Registration × State :=
  match backendRegister p backend buffer endpoint with
  | .error e => (.error e, s)
  | .ok rr => acceptRegistration p buffer endpoint latestReg rr s

/-- Retire the registration `id` if the state holds it. -/
def retireRegistration (id : RegistrationId) (s : State) : State :=
  { s with
    registrations := s.registrations.mapVals fun v =>
      if v.id = id then { v with state := .retired } else v }

/-- `register_buffer`: the latest registration of the pair answers the same request again, stands in
the way of another one, or is succeeded by a new registration. -/
def registerBuffer (p : RegisterParams) (backend : Option Backend) (s : State) :
    Result Registration × State :=
  match s.buffers.lookup p.buffer with
  | none => (err .invalidBuffer "buffer does not exist", s)
  | some buffer =>
  if buffer.lifecycle != .active then
    (err .invalidBuffer "buffer is retired", s)
  else match s.endpoints.lookup p.endpoint with
  | none => (err .notFound "endpoint does not exist", s)
  | some endpoint =>
  if endpoint.support = .unsupported then
    (err .registrationFailed "cannot register against an unsupported endpoint", s)
  else if s.registrations.size ≥ s.maxRegistrations then
    (err .resourceLimit "registration limit reached", s)
  else if p.authority.epoch != s.epoch then
    (err .staleEpoch "registration authority epoch is stale", s)
  else if p.authority.workerOwned && !s.workerLiveLocked p.authority then
    (err .staleBoot "registering worker authority is not live", s)
  else if buffer.authority.workerOwned && buffer.authority != p.authority then
    (err .registrationFailed "buffer is owned by a different worker", s)
  else if buffer.authority.workerOwned && buffer.authority.epoch != p.authority.epoch then
    (err .staleEpoch "buffer and registration epochs differ", s)
  else match latestRegistration s p.buffer p.endpoint with
  | none => stageRegistration p backend buffer endpoint none s
  | some latestReg =>
    if latestReg.state = .registered &&
        latestReg.bufferGeneration = buffer.generation &&
        latestReg.endpointGeneration = endpoint.generation &&
        latestReg.authority = p.authority &&
        latestReg.provider = p.provider then
      (.ok { latestReg with duplicated := true }, s)
    else if latestReg.state = .registered then
      if latestReg.authority != p.authority || latestReg.provider != p.provider then
        (err .registrationFailed
          "conflicting registration already exists for this buffer+endpoint", s)
      else (err .registrationFailed "registration already active", s)
    else if latestReg.state = .registering then
      (err .registrationFailed "registration is already in progress", s)
    else
      stageRegistration p backend buffer endpoint (some latestReg)
        (if latestReg.state = .deregistering then retireRegistration latestReg.id s else s)

/-- The buffer with its cached reference to the registration `id` cleared, if it has one. -/
def clearRegistration (id : RegistrationId) (buffer : BufferId) (s : State) : State :=
  match s.buffers.lookup buffer with
  | none => s
  | some b =>
    if b.registrationId = id then
      let s := s.nextFreshnessLocked
      { s with buffers := s.buffers.insert buffer { b with
          registrationState := .unregistered
          registrationId := 0
          registrationGeneration := 0
          freshness := s.freshness } }
    else s

/-- `deregister_buffer`: a registration whose owner is dead is retired for any caller, without its
buffer. -/
def deregisterBuffer (id : RegistrationId) (authority : Authority) (s : State) :
    Result Unit × State :=
  match s.registrations.lookup id with
  | none => (err .notFound "registration not found", s)
  | some reg =>
    if reg.state = .retired || reg.state = .unregistered then (.ok (), s)
    else if reg.authority.workerOwned && !s.workerLiveLocked reg.authority then
      (.ok (), { s with
        registrations := s.registrations.insert id { reg with state := .retired } })
    else if reg.authority.workerOwned && authority != reg.authority then
      (err .staleBoot "deregistration not authorized by registration owner", s)
    else if (latestRegistration s reg.buffer reg.endpoint).any fun r => r.id != reg.id then
      (err .staleGeneration "stale deregistration rejected (newer registration exists)", s)
    else
      let s := s.nextFreshnessLocked
      let s := { s with registrations := s.registrations.insert id { reg with
        state := .retired, handle := none, freshness := s.freshness } }
      (.ok (), clearRegistration reg.id reg.buffer s)

/-! ### Path evaluation and planning -/

/-- The snapshot of the state that a path is evaluated against; a record that is missing is the
default one. -/
def buildEvidenceLocked (p : PlanRequestParams) (s : State) : PathEvidence :=
  let source := (s.buffers.lookup p.source).getD {}
  { epoch := s.epoch
    source := source
    destination := (s.endpoints.lookup p.destination).getD {}
    device := if valid source.device then (s.devices.lookup source.device).getD {} else {}
    registrations := s.registrations.values
    capabilities := s.capabilities.values
    devices := s.devices.values
    endpoints := s.endpoints.values
    providers := s.providers.values
    liveWorkers := s.workers.values }

/-- The part of the parameters that the planner reads. -/
def pathRequest (p : PlanRequestParams) : PathRequest :=
  { source := p.source
    destination := p.destination
    direction := p.direction
    policy := p.policy
    size := p.size }

/-- `evaluate_path`: the decision of the planner on a snapshot of the state. -/
def evaluatePath (p : PlanRequestParams) (s : State) : PathDecision :=
  PathPlanner.evaluate (pathRequest p) (buildEvidenceLocked p s)

/-- The code a request without a plan is refused with. -/
def errorForEligibility : PathEligibility → ErrorCode
  | .directAllowed | .directAllowedDegraded => .ok
  | .registrationRequired => .registrationRequired
  | .registrationStale => .registrationStale
  | .endpointStale => .staleEndpoint
  | .deviceStale => .staleGeneration
  | .topologyIncompatible => .topologyIncompatible
  | .providerUnavailable => .providerUnavailable
  | .noValidPath => .noValidPath
  | .revalidationRequired => .revalidationRequired
  | .insufficientEvidence => .directUnavailable
  | .policyRejected => .fallbackDisallowed
  | .invalidBuffer => .invalidBuffer
  | _ => .unsupported

/-- The registration a plan is bound to: the `REGISTERED` one of the pair with the highest
generation. -/
def registeredRegistration (s : State) (buffer : BufferId) (endpoint : EndpointId) :
    Option Registration :=
  PathPlanner.latest
    (fun r => r.buffer = buffer && r.endpoint = endpoint && r.state = .registered)
    Registration.generation s.registrations.values

/-- The staging buffer of a fallback plan. -/
def stagingBuffer (id : BufferId) (freshness : ℕ) (authority : Authority) (size : ℕ) :
    BufferRecord :=
  { id := id
    generation := 1
    authority := authority
    domain := .hostPinned
    size := size
    alignment := 64
    locality := .local
    support := .synthetic
    provenance := .syntheticFixture
    lifecycle := .active
    freshness := freshness
    name := "fallback_staging" }

/-- The one stage of a direct plan, from the source to the endpoint. -/
def directStage (d : PathDecision) (src : BufferId) (dst : EndpointId) : TransferStage :=
  { pathClass := d.directClass
    support := d.support
    provenance := d.provenance
    src := src
    endpoint := dst
    direct := true
    description := "direct " ++ d.directClass.toString }

/-- The stages of a fallback plan, into the staging buffer and out of it. -/
def fallbackStages (d : PathDecision) (src tmp : BufferId) (dst : EndpointId) :
    List TransferStage :=
  let cls := match d.selectedFallback with
    | some c => c.pathClass
    | none => .gpuToHostPinned
  [{ pathClass := cls
     support := .synthetic
     provenance := .syntheticFixture
     src := src
     dst := tmp
     direct := false
     description := "GPU -> pinned host staging" },
   { pathClass := cls
     support := .synthetic
     provenance := .syntheticFixture
     src := tmp
     endpoint := dst
     direct := false
     description := "pinned host staging -> endpoint" }]

/-- The plan without its stages. -/
def planRecord (p : PlanRequestParams) (d : PathDecision) (src : BufferRecord)
    (dst : EndpointRecord) (reg : Option Registration) (id : TransferPlanId)
    (pathGeneration : PathGeneration) (epoch : CoordinatorEpoch) : TransferPlan :=
  { id := id
    pathGeneration := pathGeneration
    generation := 1
    source := src.id
    sourceGeneration := src.generation
    destination := dst.id
    destinationGeneration := dst.generation
    policy := p.policy
    expectedBytes := p.size
    eligibility := d.eligibility
    support := d.support
    provenance := d.provenance
    epoch := epoch
    authority := src.authority
    explanation := d.summary
    authoritative := true
    registrationId := match reg with | some r => r.id | none => 0
    registrationGeneration := match reg with | some r => r.generation | none => 0
    registrationBufferGeneration := match reg with | some r => r.bufferGeneration | none => 0 }

/-- Store a plan with one direct stage. -/
def storeDirectPlan (d : PathDecision) (plan : TransferPlan) (s : State) :
    Result TransferPlan × State :=
  let plan := { plan with
    stages := [directStage d plan.source plan.destination]
    copyCount := 1 }
  (.ok plan, { s with plans := s.plans.insert plan.id plan })

/-- Store a plan with two stages, through a new staging buffer. -/
def storeFallbackPlan (d : PathDecision) (plan : TransferPlan) (s : State) :
    Result TransferPlan × State :=
  let s := s.nextIdLocked.nextFreshnessLocked
  let tmp := stagingBuffer s.nextId s.freshness plan.authority plan.expectedBytes
  let s := { s with buffers := s.buffers.insert tmp.id tmp }
  let plan := { plan with
    stages := fallbackStages d plan.source tmp.id plan.destination
    copyCount := 2 }
  (.ok plan, { s with plans := s.plans.insert plan.id plan })

/-- The commit of `plan_transfer` after all its checks. -/
def storePlan (p : PlanRequestParams) (d : PathDecision) (src : BufferRecord)
    (dst : EndpointRecord) (reg : Option Registration) (s : State) :
    Result TransferPlan × State :=
  let s := s.nextIdLocked
  let id := s.nextId
  let s := s.nextIdLocked
  let plan := planRecord p d src dst reg id s.nextId s.epoch
  if d.eligibility.isDirect then storeDirectPlan d plan s else storeFallbackPlan d plan s

/-- What `plan_transfer` does with the decision `d` on the request `p`. -/
def planTransferCommit (p : PlanRequestParams) (d : PathDecision) (s : State) :
    Result TransferPlan × State :=
  if !d.eligibility.isDirect &&
      !(d.eligibility = .fallbackRequired && d.fallbackAvailable) then
    (err (errorForEligibility d.eligibility) d.directRejection, s)
  else if s.plans.size ≥ s.maxPlans then
    (err .resourceLimit "plan limit reached", s)
  else match s.buffers.lookup p.source with
  | none => (err .staleBuffer "source buffer disappeared", s)
  | some src =>
  if src.generation != d.sourceGeneration then
    (err .staleGeneration "source buffer generation advanced since snapshot", s)
  else match s.endpoints.lookup p.destination with
  | none => (err .staleEndpoint "destination endpoint disappeared", s)
  | some dst =>
  if dst.generation != d.destinationGeneration then
    (err .staleEndpoint "destination endpoint generation advanced since snapshot", s)
  else
    let reg := registeredRegistration s src.id dst.id
    if d.eligibility.isDirect && reg.isNone then
      (err .registrationStale "registration required for direct path vanished", s)
    else storePlan p d src dst reg s

/-- `plan_transfer` with nothing between its snapshot and its commit. -/
def planTransfer (p : PlanRequestParams) (s : State) : Result TransferPlan × State :=
  planTransferCommit p (evaluatePath p s) s

end Coordinator

end GpuDirectFabric
