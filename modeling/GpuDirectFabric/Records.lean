import GpuDirectFabric.Enums

/-!
# Records

The values the coordinator keeps and exchanges.  Ids, generations, boot ids and epochs are
natural numbers, the id `0` standing for "none".  A shared pointer is an optional value.
-/

namespace GpuDirectFabric

abbrev BufferId := ℕ
abbrev RegistrationId := ℕ
abbrev DeviceId := ℕ
abbrev EndpointId := ℕ
abbrev NicId := ℕ
abbrev StorageEndpointId := ℕ
abbrev TransferPlanId := ℕ
abbrev TransferAttemptId := ℕ
abbrev VerificationId := ℕ
abbrev WorkerId := ℕ
abbrev CapabilityObservationId := ℕ
abbrev ProviderId := ℕ
abbrev PathId := ℕ

abbrev BufferGeneration := ℕ
abbrev RegistrationGeneration := ℕ
abbrev DeviceGeneration := ℕ
abbrev EndpointGeneration := ℕ
abbrev NicGeneration := ℕ
abbrev StorageGeneration := ℕ
abbrev TransferGeneration := ℕ
abbrev PathGeneration := ℕ
abbrev WorkerBootId := ℕ
abbrev CoordinatorEpoch := ℕ

/-- `Id::valid`: an id that is not the "none" id. -/
def valid (id : ℕ) : Bool := id != 0

/-! ### Results -/

/-- An error: a code and texts for a reader. -/
structure Error where
  code : ErrorCode := .ok
  message : Str := []
  detail : Str := []
deriving DecidableEq

/-- A value or an error. -/
abbrev Result (α : Type) := Except Error α

/-- A failed result. -/
def err {α : Type} (code : ErrorCode) (message : Str) : Result α :=
  .error { code := code, message := message }

/-! ### Authorities -/

/-- Who vouches for a piece of evidence: a worker incarnation, or the coordinator itself when
there is no worker, under an epoch. -/
structure Authority where
  worker : WorkerId := 0
  boot : WorkerBootId := 0
  epoch : CoordinatorEpoch := 0
deriving DecidableEq

/-- The authority is a worker's. -/
def Authority.workerOwned (a : Authority) : Bool := valid a.worker

/-! ### Registry records -/

/-- An opaque handle of a backend. -/
structure BackendHandle where
  opaqueId : ℕ
deriving DecidableEq

/-- A buffer, with the registration it refers to. -/
structure BufferRecord where
  id : BufferId := 0
  generation : BufferGeneration := 0
  authority : Authority := {}
  domain : MemoryDomain := .unknown
  size : ℕ := 0
  alignment : ℕ := 1
  device : DeviceId := 0
  deviceGeneration : DeviceGeneration := 0
  locality : Locality := .unknown
  registrationState : RegistrationState := .unregistered
  registrationId : RegistrationId := 0
  registrationGeneration : RegistrationGeneration := 0
  lifecycle : BufferLifecycle := .active
  support : Support := .unknown
  provenance : Provenance := .syntheticFixture
  freshness : ℕ := 0
  name : Str := []
  handle : Option BackendHandle := none
deriving DecidableEq

/-- A device. -/
structure DeviceRecord where
  id : DeviceId := 0
  generation : DeviceGeneration := 0
  name : Str := []
  computeCapability : Str := []
  peerMemorySupported : Bool := false
  support : Support := .unknown
  provenance : Provenance := .syntheticFixture
  authority : Authority := {}
  freshness : ℕ := 0
deriving DecidableEq

/-- An endpoint of transfers. -/
structure EndpointRecord where
  id : EndpointId := 0
  generation : EndpointGeneration := 0
  endpointClass : EndpointClass := .unknown
  name : Str := []
  topologyHint : Str := []
  healthy : Bool := false
  provider : ProviderId := 0
  support : Support := .unknown
  provenance : Provenance := .syntheticFixture
  authority : Authority := {}
  freshness : ℕ := 0
  handle : Option BackendHandle := none
deriving DecidableEq

/-- A network interface. -/
structure NicRecord where
  id : NicId := 0
  generation : NicGeneration := 0
  name : Str := []
  locator : Str := []
  rdmaCapable : Bool := false
  directPathCapable : Bool := false
  provider : ProviderId := 0
  support : Support := .unknown
  provenance : Provenance := .syntheticFixture
  authority : Authority := {}
  freshness : ℕ := 0
deriving DecidableEq

/-- A storage endpoint. -/
structure StorageEndpointRecord where
  id : StorageEndpointId := 0
  generation : StorageGeneration := 0
  name : Str := []
  backendName : Str := []
  path : Str := []
  directPathCapable : Bool := false
  provider : ProviderId := 0
  support : Support := .unknown
  provenance : Provenance := .syntheticFixture
  authority : Authority := {}
  freshness : ℕ := 0
deriving DecidableEq

/-- The registration of a buffer for an endpoint, at the generations these had. -/
structure Registration where
  id : RegistrationId := 0
  generation : RegistrationGeneration := 0
  buffer : BufferId := 0
  bufferGeneration : BufferGeneration := 0
  endpoint : EndpointId := 0
  endpointGeneration : EndpointGeneration := 0
  provider : ProviderId := 0
  authority : Authority := {}
  state : RegistrationState := .unregistered
  support : Support := .unknown
  provenance : Provenance := .syntheticFixture
  duplicated : Bool := false
  freshness : ℕ := 0
  requiredCapabilities : List Str := []
  handle : Option BackendHandle := none
deriving DecidableEq

/-- A point-in-time observation of a capability. -/
structure CapabilityObservation where
  id : CapabilityObservationId := 0
  provider : Str := []
  capability : Str := []
  value : Str := []
  support : Support := .unknown
  provenance : Provenance := .syntheticFixture
  authority : Authority := {}
  freshness : ℕ := 0
deriving DecidableEq

/-- What is known of a provider. -/
structure ProviderInfo where
  id : ProviderId := 0
  name : Str := []
  available : Bool := false
  support : Support := .unknown
  provenance : Provenance := .syntheticFixture
deriving DecidableEq

/-! ### Paths -/

/-- Why a requirement failed, or that it was met. -/
structure RequirementViolation where
  requirement : Str := []
  satisfied : Bool := false
  detail : Str := []
deriving DecidableEq

/-- A path that a request might take. -/
structure PathCandidate where
  pathClass : PathClass := .gpuToHostPinned
  direct : Bool := false
  support : Support := .unknown
  provenance : Provenance := .syntheticFixture
  stageCount : ℕ := 1
  description : Str := []
deriving DecidableEq

/-- A request for a path. -/
structure PathRequest where
  source : BufferId := 0
  destination : EndpointId := 0
  direction : Direction := .gpuToPeer
  policy : PathPolicy := .preferDirect
  size : ℕ := 0
deriving DecidableEq

/-- The snapshot of evidence a path is evaluated against. -/
structure PathEvidence where
  source : BufferRecord := {}
  destination : EndpointRecord := {}
  device : DeviceRecord := {}
  registrations : List Registration := []
  capabilities : List CapabilityObservation := []
  devices : List DeviceRecord := []
  endpoints : List EndpointRecord := []
  providers : List ProviderInfo := []
  liveWorkers : List (WorkerId × WorkerBootId) := []
  epoch : CoordinatorEpoch := 0

/-- A decision on a request, with the reasons for it. -/
structure PathDecision where
  eligibility : PathEligibility := .unsupported
  directEligibility : PathEligibility := .unsupported
  directClass : PathClass := .gpuToGpuDirect
  support : Support := .unknown
  provenance : Provenance := .syntheticFixture
  degraded : Bool := false
  fallbackAvailable : Bool := false
  fallbackDisallowed : Bool := false
  sourceGeneration : BufferGeneration := 0
  destinationGeneration : EndpointGeneration := 0
  violations : List RequirementViolation := []
  directCandidates : List PathCandidate := []
  fallbackCandidates : List PathCandidate := []
  selectedFallback : Option PathCandidate := none
  selectedPath : Option PathId := none
  summary : Str := []
  directRejection : Str := []
deriving DecidableEq

/-! ### Transfers -/

/-- A stage of a plan, from a buffer to a buffer or an endpoint. -/
structure TransferStage where
  pathClass : PathClass := .gpuToHostPinned
  support : Support := .unknown
  provenance : Provenance := .syntheticFixture
  src : BufferId := 0
  dst : BufferId := 0
  endpoint : EndpointId := 0
  direct : Bool := false
  description : Str := []
deriving DecidableEq

/-- A plan, at the generations its two ends and its registration had. -/
structure TransferPlan where
  id : TransferPlanId := 0
  pathGeneration : PathGeneration := 0
  generation : TransferGeneration := 0
  source : BufferId := 0
  sourceGeneration : BufferGeneration := 0
  destination : EndpointId := 0
  destinationGeneration : EndpointGeneration := 0
  registrationId : RegistrationId := 0
  registrationGeneration : RegistrationGeneration := 0
  registrationBufferGeneration : BufferGeneration := 0
  policy : PathPolicy := .preferDirect
  expectedBytes : ℕ := 0
  eligibility : PathEligibility := .unsupported
  support : Support := .unknown
  provenance : Provenance := .syntheticFixture
  copyCount : ℕ := 0
  stages : List TransferStage := []
  fallbackReasons : List RequirementViolation := []
  explanation : Str := []
  epoch : CoordinatorEpoch := 0
  authority : Authority := {}
  authoritative : Bool := true
deriving DecidableEq

/-- An attempt to carry out a plan, with what the backend has reported. -/
structure TransferAttempt where
  id : TransferAttemptId := 0
  planId : TransferPlanId := 0
  planGeneration : TransferGeneration := 0
  state : TransferState := .planned
  bytes : ℕ := 0
  epoch : CoordinatorEpoch := 0
  authority : Authority := {}
  completionCommitted : Bool := false
  submittedBytes : ℕ := 0
  backendToken : Str := []
  integrityChecked : Bool := false
  integrityPassed : Bool := false
  method : Str := []
  support : Support := .unknown
  provenance : Provenance := .syntheticFixture
  detail : Str := []
deriving DecidableEq

/-- What is published of an attempt that has ended. -/
structure TransferReceipt where
  attemptId : TransferAttemptId := 0
  planGeneration : TransferGeneration := 0
  state : TransferState := .failed
  bytes : ℕ := 0
  integrityVerified : Bool := false
  support : Support := .unknown
  provenance : Provenance := .syntheticFixture
  method : Str := []
  epoch : CoordinatorEpoch := 0
  detail : Str := []
deriving DecidableEq

/-- What is published of a verification. -/
structure VerificationReceipt where
  id : VerificationId := 0
  attemptId : TransferAttemptId := 0
  passed : Bool := false
  bytesChecked : ℕ := 0
  support : Support := .unknown
  method : Str := []
  expected : Str := []
  actual : Str := []
deriving DecidableEq

/-! ### Backends -/

/-- What the coordinator asks a backend to register. -/
structure RegistrationSpec where
  buffer : BufferId := 0
  domain : MemoryDomain := .unknown
  bufferGeneration : BufferGeneration := 0
  endpoint : EndpointId := 0
  endpointClass : EndpointClass := .unknown
  endpointGeneration : EndpointGeneration := 0
  size : ℕ := 0
  alignment : ℕ := 1
  authority : Authority := {}
  support : Support := .unknown

/-- A backend's answer to a registration. -/
structure RegisterResult where
  id : RegistrationId := 0
  generation : RegistrationGeneration := 0
  support : Support := .unknown
  provenance : Provenance := .syntheticFixture
  handle : Option BackendHandle := none

/-- The data-plane request of a transfer. -/
structure TransferRun where
  plan : TransferPlan := {}
  acceleratorBuffer : BufferId := 0
  expectedBytes : ℕ := 0
  acceleratorHandle : Option BackendHandle := none

/-- A backend's report of a transfer. -/
structure TransferOutcome where
  state : TransferState := .failed
  bytes : ℕ := 0
  integrityChecked : Bool := false
  integrityPassed : Bool := false
  method : Str := []
  support : Support := .unknown
  provenance : Provenance := .syntheticFixture
  detail : Str := []

/-- What a backend answers during one call of the coordinator: a backend with a state of its
own is a different `Backend` from call to call. -/
structure Backend where
  registerBuffer : RegistrationSpec → Result RegisterResult
  runTransfer : TransferRun → Result TransferOutcome

/-! ### Parameter bundles -/

/-- The parameters of `create_buffer`. -/
structure CreateBufferParams where
  domain : MemoryDomain := .unknown
  size : ℕ := 0
  alignment : ℕ := 64
  device : DeviceId := 0
  locality : Locality := .local
  support : Support := .unknown
  provenance : Provenance := .syntheticFixture
  authority : Authority := {}
  name : Str := []

/-- The parameters of `register_buffer`. -/
structure RegisterParams where
  buffer : BufferId := 0
  endpoint : EndpointId := 0
  provider : ProviderId := 0
  authority : Authority := {}
  support : Support := .unknown
  provenance : Provenance := .syntheticFixture
  requiredCapabilities : List Str := []

/-- The parameters of `add_endpoint`. -/
structure EndpointAddParams where
  endpointClass : EndpointClass := .unknown
  name : Str := []
  topologyHint : Str := []
  healthy : Bool := false
  provider : ProviderId := 0
  support : Support := .unknown
  provenance : Provenance := .syntheticFixture
  authority : Authority := {}

/-- The parameters of `add_device`. -/
structure DeviceAddParams where
  name : Str := []
  computeCapability : Str := []
  peerMemorySupported : Bool := false
  support : Support := .unknown
  provenance : Provenance := .syntheticFixture
  authority : Authority := {}

/-- The parameters of `add_provider`. -/
structure ProviderAddParams where
  name : Str := []
  available : Bool := false
  support : Support := .unknown
  provenance : Provenance := .syntheticFixture

/-- The parameters of `publish_capability`. -/
structure CapabilityPublishParams where
  provider : Str := []
  capability : Str := []
  value : Str := []
  support : Support := .unknown
  provenance : Provenance := .syntheticFixture
  authority : Authority := {}

/-- The parameters of `plan_transfer`. -/
structure PlanRequestParams where
  source : BufferId := 0
  destination : EndpointId := 0
  direction : Direction := .gpuToPeer
  policy : PathPolicy := .preferDirect
  size : ℕ := 0
deriving DecidableEq

end GpuDirectFabric
