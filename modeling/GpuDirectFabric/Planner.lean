import GpuDirectFabric.Records

/-!
# The path planner

`evaluate` computes the decision on a path request from a snapshot of evidence.  The direct
path has requirements, checked in a fixed order; the direct outcome stays `unsupported`
until one of them fails, and the checks after a failure are skipped.
-/

namespace GpuDirectFabric

namespace PathPlanner

/-- The memory is one that a direct path can start from. -/
def isGpuMemory (d : MemoryDomain) : Bool :=
  d = .cudaDevice || d = .cudaManaged || d = .registeredGpuMemory

/-- The memory is pinned on the host. -/
def isHostPinned (d : MemoryDomain) : Bool :=
  d = .hostPinned || d = .registeredHostMemory

/-- The provider that serves endpoints of a class. -/
def providerFor : EndpointClass → Str
  | .nic => "rdma"
  | .storage => "storage"
  | .peerDevice => "cuda"
  | _ => "host"

/-- The capability that a direct path to endpoints of a class requires. -/
def capFor : EndpointClass → Str
  | .nic => "direct_nic"
  | .storage => "direct_storage"
  | .peerDevice => "peer_memory"
  | _ => "direct_host"

/-- The class of the direct path for a request. -/
def classifyDirect (req : PathRequest) (ev : PathEvidence) : PathClass :=
  match req.direction with
  | .gpuToPeer =>
    match ev.destination.endpointClass with
    | .nic => .gpuToNicDirect
    | .storage => .gpuToStorageDirect
    | .peerDevice => .gpuToGpuDirect
    | _ => .gpuToNicDirect
  | .peerToGpu =>
    match ev.destination.endpointClass with
    | .nic => .nicToGpuDirect
    | .storage => .storageToGpuDirect
    | .peerDevice => .gpuToGpuDirect
    | _ => .nicToGpuDirect

/-- The authority is of the current epoch, and when it is a worker's, of the incarnation the
evidence lists as live. -/
def authorityLive (a : Authority) (ev : PathEvidence) : Bool :=
  if a.epoch != ev.epoch then false
  else if !a.workerOwned then true
  else ev.liveWorkers.any fun w => w.1 = a.worker && w.2 = a.boot

/-- The first value of `xs` that satisfies `p` and has the highest key among those that do. -/
def latest {α : Type} (p : α → Bool) (key : α → ℕ) (xs : List α) : Option α :=
  xs.foldl (fun best x =>
    if p x && best.all (fun b => key b < key x) then some x else best) none

section

variable {α : Type} {p : α → Bool} {key : α → ℕ}

/-- What the search makes of the values after `best`: a value it had or one of theirs, of a key
at least as high as all of them. -/
theorem foldl_latest (xs : List α) (best : Option α) :
  (∀ x, xs.foldl (fun best x =>
      if p x && best.all (fun b => key b < key x) then some x else best) best = some x →
    best = some x ∨ x ∈ xs ∧ p x = true) ∧
  ∀ y, best = some y ∨ y ∈ xs ∧ p y = true →
    ∃ x, xs.foldl (fun best x =>
      if p x && best.all (fun b => key b < key x) then some x else best) best = some x ∧
      key y ≤ key x
  := by
  induction xs generalizing best with
  | nil =>
      constructor
      · intro x h
        exact .inl h
      · rintro y (h | ⟨h, -⟩)
        · exact ⟨y, h, le_rfl⟩
        · cases h
  | cons x xs ih =>
      rw [List.foldl_cons]
      split
      next hstep =>
        rw [Bool.and_eq_true] at hstep
        obtain ⟨hmem, hmax⟩ := ih (some x)
        constructor
        · intro z hz
          obtain hz | ⟨hz, hp⟩ := hmem z hz
          · obtain rfl := Option.some.inj hz
            exact .inr ⟨List.mem_cons_self, hstep.1⟩
          · exact .inr ⟨List.mem_cons_of_mem x hz, hp⟩
        · rintro y (rfl | ⟨hy, hp⟩)
          · obtain ⟨z, hz, hle⟩ := hmax x (.inl rfl)
            have hlt : key y < key x := by simpa using hstep.2
            exact ⟨z, hz, hlt.le.trans hle⟩
          · obtain rfl | hy := List.mem_cons.mp hy
            · exact hmax y (.inl rfl)
            · exact hmax y (.inr ⟨hy, hp⟩)
      next hstep =>
        obtain ⟨hmem, hmax⟩ := ih best
        constructor
        · intro z hz
          obtain hz | ⟨hz, hp⟩ := hmem z hz
          · exact .inl hz
          · exact .inr ⟨List.mem_cons_of_mem x hz, hp⟩
        · rintro y (hy | ⟨hy, hp⟩)
          · exact hmax y (.inl hy)
          · obtain rfl | hy := List.mem_cons.mp hy
            · cases best with
              | none => simp [hp] at hstep
              | some b =>
                  have hle : key y ≤ key b := by simpa [hp] using hstep
                  obtain ⟨z, hz, hz'⟩ := hmax b (.inl rfl)
                  exact ⟨z, hz, hle.trans hz'⟩
            · exact hmax y (.inr ⟨hy, hp⟩)

/-- The latest element is one of the list, and satisfies the predicate. -/
theorem latest_mem {xs : List α} {x : α} (h : latest p key xs = some x) :
  x ∈ xs ∧ p x = true
  := by
  obtain hnone | hmem := (foldl_latest xs none).1 x h
  · cases hnone
  · exact hmem

/-- No element that satisfies the predicate is later. -/
theorem latest_max {xs : List α} {x y : α} (h : latest p key xs = some x) (hy : y ∈ xs)
    (hp : p y = true) :
  key y ≤ key x
  := by
  obtain ⟨z, hz, hle⟩ := (@foldl_latest _ p key xs none).2 y (.inr ⟨hy, hp⟩)
  obtain rfl := Option.some.inj (h.symm.trans hz)
  exact hle

/-- A value that satisfies the predicate is found if there is one. -/
theorem latest_isSome {xs : List α} {y : α} (hy : y ∈ xs) (hp : p y = true) :
  ∃ x, latest p key xs = some x
  := by
  obtain ⟨x, hx, -⟩ := (@foldl_latest _ p key xs none).2 y (.inr ⟨hy, hp⟩)
  exact ⟨x, hx⟩

end
/-- The record of an endpoint with the highest generation. -/
def latestEndpoint (ev : PathEvidence) (id : EndpointId) : Option EndpointRecord :=
  latest (fun e => e.id = id) EndpointRecord.generation ev.endpoints

/-- The record of a device with the highest generation. -/
def latestDevice (ev : PathEvidence) (id : DeviceId) : Option DeviceRecord :=
  latest (fun d => d.id = id) DeviceRecord.generation ev.devices

/-- The registration of a pair with the highest generation, whatever its state. -/
def findRegistration (ev : PathEvidence) (buffer : BufferId) (endpoint : EndpointId) :
    Option Registration :=
  latest (fun r => r.buffer = buffer && r.endpoint = endpoint) Registration.generation
    ev.registrations

/-- Host staging has been observed in the current epoch. -/
def hostStagingAvailable (ev : PathEvidence) : Bool :=
  ev.capabilities.any fun c =>
    c.capability = "host_staging" && c.value = "true" && c.support != .unsupported &&
      c.authority.epoch = ev.epoch

/-- A provider of this name is available. -/
def providerAvailable (ev : PathEvidence) (provider : Str) : Bool :=
  ev.providers.any fun p => p.name = provider && p.available && p.support != .unsupported

/-- The first observation of the capability. -/
def capabilityFor (ev : PathEvidence) (provider capability : Str) :
    Option CapabilityObservation :=
  ev.capabilities.find? fun c => c.provider = provider && c.capability = capability

/-- The class of the staged path for a request. -/
def fallbackClass (req : PathRequest) (ev : PathEvidence) : PathClass :=
  match req.direction with
  | .gpuToPeer =>
    match ev.destination.endpointClass with
    | .nic => .gpuToHostStagedToNic
    | .storage => .gpuToHostStagedToStorage
    | _ => .gpuToHostPinned
  | .peerToGpu =>
    match ev.destination.endpointClass with
    | .nic => .nicToHostStagedToGpu
    | .storage => .storageToHostStagedToGpu
    | _ => .hostPinnedToGpu

/-- The decision with its one fallback candidate, through the host. -/
def addFallbackCandidates (d : PathDecision) (req : PathRequest) (ev : PathEvidence) :
    PathDecision :=
  let c : PathCandidate :=
    { direct := false
      stageCount := 2
      support := .synthetic
      provenance := .syntheticFixture
      description := "pinned-host staging fallback"
      pathClass := fallbackClass req ev }
  { d with
    fallbackCandidates := d.fallbackCandidates ++ [c]
    selectedFallback := some c
    fallbackAvailable := true }

/-! ### Requirements -/

/-- An evaluation in progress: the decision so far and the direct outcome. -/
structure Evaluation where
  decision : PathDecision
  direct : PathEligibility

namespace Evaluation

/-- Record a requirement, with the verdict on it. -/
def addV (req : Str) (sat : Bool) (detail : Str) (e : Evaluation) : Evaluation :=
  { e with decision := { e.decision with
      violations := e.decision.violations ++ [⟨req, sat, detail⟩] } }

/-- The requirement is met. -/
def satisfied (req detail : Str) (e : Evaluation) : Evaluation := e.addV req true detail

/-- The requirement fails, which settles the direct outcome. -/
def violated (req detail : Str) (direct : PathEligibility) (e : Evaluation) : Evaluation :=
  { e.addV req false detail with direct := direct }

/-- The decision with another support label. -/
def withSupport (s : Support) (e : Evaluation) : Evaluation :=
  { e with decision := { e.decision with support := s } }

/-- The decision with another provenance. -/
def withProvenance (p : Provenance) (e : Evaluation) : Evaluation :=
  { e with decision := { e.decision with provenance := p } }

/-- The decision with a reason to reject the direct path. -/
def withRejection (r : Str) (e : Evaluation) : Evaluation :=
  { e with decision := { e.decision with directRejection := r } }

end Evaluation

/-- Make a check unless the direct outcome is settled. -/
def unlessSettled (check : Evaluation → Evaluation) (e : Evaluation) : Evaluation :=
  if e.direct = .unsupported then check e else e

/-- The source must be an active buffer. -/
def checkSource (ev : PathEvidence) (e : Evaluation) : Evaluation :=
  if !valid ev.source.id then
    e.violated "source_buffer" "source buffer id is nil" .invalidBuffer
  else if ev.source.lifecycle != .active then
    e.violated "source_buffer" "source buffer is retired" .invalidBuffer
  else e.satisfied "source_buffer" "source buffer present and active"

/-- The request must fit the source. -/
def checkSize (req : PathRequest) (ev : PathEvidence) (e : Evaluation) : Evaluation :=
  if req.size > ev.source.size then
    e.violated "size" "request size exceeds buffer capacity" .noValidPath
  else e.satisfied "size" "request size within buffer capacity"

/-- The destination must be an endpoint of a known class. -/
def checkDestination (ev : PathEvidence) (e : Evaluation) : Evaluation :=
  if !valid ev.destination.id || ev.destination.endpointClass = .unknown then
    e.violated "destination_endpoint" "destination endpoint missing or unclassified" .noValidPath
  else (e.satisfied "destination_endpoint" "destination endpoint present").withProvenance
    ev.destination.provenance

/-- It must not be classified as unsupported. -/
def checkDestinationSupported (ev : PathEvidence) (e : Evaluation) : Evaluation :=
  if ev.destination.support = .unsupported then
    ((e.violated "destination_supported"
      "destination endpoint classified unsupported for direct access"
      .directUnsupported).withSupport .unsupported).withRejection
      "destination endpoint does not expose a supported direct path"
  else e.satisfied "destination_supported" "destination endpoint classified as supported"

/-- It must be healthy. -/
def checkDestinationHealthy (ev : PathEvidence) (e : Evaluation) : Evaluation :=
  if !ev.destination.healthy then
    (e.violated "destination_healthy" "destination endpoint is not healthy"
      .endpointStale).withRejection "destination endpoint is unhealthy"
  else e.satisfied "destination_healthy" "destination endpoint healthy"

/-- It must be of the latest generation in the evidence. -/
def checkDestinationGeneration (ev : PathEvidence) (e : Evaluation) : Evaluation :=
  if (latestEndpoint ev ev.destination.id).any
      fun latest => latest.generation != ev.destination.generation then
    (e.violated "destination_generation" "destination endpoint generation is stale"
      .endpointStale).withRejection "destination endpoint generation advanced since snapshot"
  else e.satisfied "destination_generation" "destination endpoint generation current"

/-- The source must be in memory of the GPU. -/
def checkSourceDomain (ev : PathEvidence) (e : Evaluation) : Evaluation :=
  let gpuSrc := isGpuMemory ev.source.domain
  let pinnedSrc := isHostPinned ev.source.domain
  if !gpuSrc && !pinnedSrc then
    (e.violated "source_memory_domain" "source buffer is not accelerator or pinned memory"
      .directUnsupported).withRejection "source memory domain is not eligible for a governed path"
  else if !gpuSrc then
    (e.violated "source_is_accelerator"
      "governed source is host memory; direct accelerator path requires accelerator memory"
      .directUnsupported).withRejection "governed buffer is host memory, not accelerator memory"
  else (e.satisfied "source_is_accelerator" "source is accelerator memory").withSupport
    ev.source.support

/-- The device of the source must be there, at its latest generation. -/
def checkDevice (ev : PathEvidence) (e : Evaluation) : Evaluation :=
  if !valid ev.device.id then
    e.violated "source_device" "no device associated with the source" .deviceStale
  else if (latestDevice ev ev.device.id).any
      fun latest => latest.generation != ev.device.generation then
    (e.violated "source_device" "device generation is stale" .deviceStale).withRejection
      "device generation advanced since snapshot"
  else e.satisfied "source_device" "device current"

/-- The provider for the class of the destination must be available. -/
def checkProvider (ev : PathEvidence) (e : Evaluation) : Evaluation :=
  let provider := providerFor ev.destination.endpointClass
  if !providerAvailable ev provider then
    ((e.violated "provider_available" ("provider '" ++ provider ++ "' is unavailable")
      .providerUnavailable).withSupport .unsupported).withRejection
      ("no available provider for " ++ provider ++ " direct path")
  else e.satisfied "provider_available" ("provider '" ++ provider ++ "' available")

/-- The capability that the class requires must be observed. -/
def checkCapability (ev : PathEvidence) (e : Evaluation) : Evaluation :=
  let reqCap := capFor ev.destination.endpointClass
  let absent (support : Support) : Evaluation :=
    ((e.violated "direct_capability"
      ("direct capability '" ++ reqCap ++ "' not evidenced as supported")
      .insufficientEvidence).withSupport support).withRejection
      ("direct capability '" ++ reqCap ++ "' absent or unsupported")
  match capabilityFor ev (providerFor ev.destination.endpointClass) reqCap with
  | none => absent .unsupported
  | some cap =>
    if cap.value != "true" || cap.support = .unsupported then absent cap.support
    else ((e.satisfied "direct_capability"
      ("direct capability '" ++ reqCap ++ "' supported")).withSupport cap.support).withProvenance
      cap.provenance

/-- The pair must be registered, at its generations and under a live authority. -/
def checkRegistration (ev : PathEvidence) (e : Evaluation) : Evaluation :=
  match findRegistration ev ev.source.id ev.destination.id with
  | none =>
    (e.violated "registration_current" "no current registration for buffer+endpoint"
      .registrationRequired).withRejection
      "buffer is not registered for the destination endpoint"
  | some reg =>
    if reg.state != .registered then
      (e.violated "registration_current" "registration is not in REGISTERED state"
        .registrationStale).withRejection "registration state is not current"
    else if reg.bufferGeneration != ev.source.generation ||
        reg.endpointGeneration != ev.destination.generation then
      (e.violated "registration_current" "registration generation is stale"
        .registrationStale).withRejection
        "registration generation no longer matches buffer/endpoint"
    else if !authorityLive reg.authority ev then
      (e.violated "registration_authority" "registration authority is not live"
        .revalidationRequired).withRejection
        "registration authority is stale (worker or epoch advanced)"
    else ((e.satisfied "registration_current"
      "registration current and authorized").withSupport reg.support).withProvenance
      reg.provenance

/-- The last check, which also grants the direct path. -/
def checkAlignment (req : PathRequest) (ev : PathEvidence) (e : Evaluation) : Evaluation :=
  if ev.source.alignment < 64 || req.size % ev.source.alignment != 0 then
    (e.violated "alignment" "alignment not supported by direct path"
      .directUnsupported).withRejection
      "buffer alignment is unsupported for the direct path"
  else { e.satisfied "alignment" "alignment supported" with
    direct := if e.decision.support = .real then .directAllowed else .directAllowedDegraded }

/-- All requirements of the direct path, in order. -/
def checkDirect (req : PathRequest) (ev : PathEvidence) : Evaluation :=
  let d : PathDecision :=
    { directClass := classifyDirect req ev
      sourceGeneration := ev.source.generation
      destinationGeneration := ev.destination.generation }
  let e := checkSource ev ⟨d, .unsupported⟩
  let e := unlessSettled (checkSize req ev) e
  let e := unlessSettled (checkDestination ev) e
  let e := unlessSettled (checkDestinationSupported ev) e
  let e := unlessSettled (checkDestinationHealthy ev) e
  let e := unlessSettled (checkDestinationGeneration ev) e
  let e := unlessSettled (checkSourceDomain ev) e
  let e := unlessSettled (checkDevice ev) e
  let e := unlessSettled (checkProvider ev) e
  let e := unlessSettled (checkCapability ev) e
  let e := unlessSettled (checkRegistration ev) e
  unlessSettled (checkAlignment req ev) e

end PathPlanner

/-- The eligibility allows the direct path. -/
def PathEligibility.isDirect (e : PathEligibility) : Bool :=
  e = .directAllowed || e = .directAllowedDegraded

namespace PathPlanner

/-- The final outcome, from the direct one and the policy. -/
def outcome (req : PathRequest) (ev : PathEvidence) (e : Evaluation) : PathDecision :=
  let d := { e.decision with directEligibility := e.direct }
  if e.direct.isDirect then
    let cand : PathCandidate :=
      { pathClass := d.directClass
        direct := true
        stageCount := 1
        support := d.support
        provenance := d.provenance
        description := "direct " ++ d.directClass.toString ++ " (" ++
          CEnum.toString d.support ++ ")" }
    { d with
      directCandidates := d.directCandidates ++ [cand]
      eligibility := e.direct }
  else
    let destUsable := valid ev.destination.id && ev.destination.healthy &&
      ev.destination.endpointClass != .unknown
    if req.policy = .directOnly then
      { d with
        eligibility := e.direct
        fallbackDisallowed := hostStagingAvailable ev && destUsable }
    else if destUsable && hostStagingAvailable ev then
      addFallbackCandidates { d with eligibility := .fallbackRequired } req ev
    else { d with eligibility := e.direct }

/-- `PathPlanner::evaluate`, which never fails. -/
def evaluate (req : PathRequest) (ev : PathEvidence) : PathDecision :=
  let d := outcome req ev (checkDirect req ev)
  { d with
    summary := "path " ++ d.directClass.toString ++ "; direct=" ++
      CEnum.toString d.directEligibility ++ "; final=" ++ CEnum.toString d.eligibility ++
      "; support=" ++ CEnum.toString d.support
    degraded := d.directEligibility = .directAllowedDegraded }

end PathPlanner

end GpuDirectFabric
