import GpuDirectFabric.World

/-!
# Effects

`Effect e s s'` says how the event `e` can take the state `s` to `s'`: the call is refused and
leaves the state alone, or it has passed its checks and makes one update.  What an invariant
needs to know of an operation is read off here, and not from the operation.
-/

namespace GpuDirectFabric

open Coordinator

/-- The checks of `register_buffer` have passed, and the backend has answered with `rr`. -/
structure Accepted (p : RegisterParams) (backend : Option Backend) (b : BufferRecord)
    (e : EndpointRecord) (rr : RegisterResult) (s : State) : Prop where
  buffer : s.buffers.lookup p.buffer = some b
  active : b.lifecycle = .active
  endpoint : s.endpoints.lookup p.endpoint = some e
  epoch : p.authority.epoch = s.epoch
  live : p.authority.workerOwned = true → s.workerLiveLocked p.authority = true
  owner : b.authority.workerOwned = true → b.authority = p.authority
  answer : backendRegister p backend b e = .ok rr

/-- `register_buffer` goes on from `s'`: from the state of the call, or with the registration
of the pair retired that was being deregistered. -/
def Retires (p : RegisterParams) (s s' : State) : Prop :=
  s' = s ∨ ∃ latest, latestRegistration s p.buffer p.endpoint = some latest ∧
    latest.state = .deregistering ∧ s' = retireRegistration latest.id s

/-- Nothing but the registrations changes where `register_buffer` goes on. -/
theorem Retires.frame {p : RegisterParams} {s s' : State} (h : Retires p s s') :
  ∃ registrations, s' = { s with registrations := registrations }
  := by
  obtain rfl | ⟨latest, -, -, rfl⟩ := h
  · exact ⟨_, rfl⟩
  · exact ⟨_, rfl⟩

/-- The checks of `begin_transfer` have passed for `plan`, which is stored under `planId`. -/
structure Ready (planId : TransferPlanId) (authority : Authority) (plan : TransferPlan)
    (s : State) : Prop where
  stored : s.plans.lookup planId = some plan
  authoritative : plan.authoritative = true
  epoch : plan.epoch = s.epoch
  live : authority.workerOwned = true → s.workerLiveLocked authority = true
  owner : authority.workerOwned = true → plan.authority.workerOwned = true →
    authority = plan.authority
  source : ∃ b, s.buffers.lookup plan.source = some b ∧ b.generation = plan.sourceGeneration
  destination : ∃ e, s.endpoints.lookup plan.destination = some e ∧
    e.generation = plan.destinationGeneration
  registration : registrationCurrent plan s = true

/-- The ways an event can change the state. -/
inductive Effect : Event → State → State → Prop
  | refused {e : Event} {s : State} : Effect e s s
  | setLimits {s : State} {b r e p a : ℕ} : Effect (.setLimits b r e p a) s (setLimits b r e p a s)
  | registerWorker {s : State} {worker w : WorkerId} {boot : WorkerBootId}
      {epoch : CoordinatorEpoch} (hepoch : epoch = s.epoch) (hvalid : valid worker = true)
      (hboot : (s.workerMaxBoot.lookup worker).getD 0 ≤ boot)
      (hname : w = worker ∨ ∃ live, s.workers.lookup worker = some (w, live)) :
      Effect (.registerWorker worker boot epoch) s
        { s with
          workers := s.workers.insert worker (w, boot)
          workerMaxBoot := s.workerMaxBoot.insert worker boot }
  | markWorkerDead {s : State} {worker : WorkerId} :
      Effect (.markWorkerDead worker) s (markWorkerDead worker s).2
  | advanceEpoch {s : State} : Effect .advanceEpoch s (advanceEpoch s).2
  | createBuffer {s : State} {p : CreateBufferParams}
      (hlive : p.authority.workerOwned = true → s.workerLiveLocked p.authority = true) :
      Effect (.createBuffer p) s
        { s.nextIdLocked.nextFreshnessLocked with
          buffers := s.buffers.insert (s.nextId + 1)
            (newBuffer p (s.nextId + 1) (s.freshness + 1)) }
  | advanceBufferGeneration {s : State} {id : BufferId} {authority : Authority}
      {b : BufferRecord} (hb : s.buffers.lookup id = some b) :
      Effect (.advanceBufferGeneration id authority) s
        ({ s.nextFreshnessLocked with
          buffers := s.buffers.insert id
            { b with generation := b.generation + 1, freshness := s.freshness + 1 }
          }.invalidateBufferDependentsLocked id)
  | retireBuffer {s : State} {id : BufferId} {authority : Authority} {b : BufferRecord}
      (hb : s.buffers.lookup id = some b) :
      Effect (.retireBuffer id authority) s
        ({ s.nextFreshnessLocked with
          buffers := s.buffers.insert id
            { b with lifecycle := .retired, freshness := s.freshness + 1 }
          }.invalidateBufferDependentsLocked id)
  | addDevice {s : State} {p : DeviceAddParams} :
      Effect (.addDevice p) s
        { s.nextIdLocked.nextFreshnessLocked with
          devices := s.devices.insert (s.nextId + 1)
            (newDevice p (s.nextId + 1) (s.freshness + 1)) }
  | addEndpoint {s : State} {p : EndpointAddParams} :
      Effect (.addEndpoint p) s
        { s.nextIdLocked.nextFreshnessLocked with
          endpoints := s.endpoints.insert (s.nextId + 1)
            (newEndpoint p (s.nextId + 1) (s.freshness + 1)) }
  | advanceEndpointGeneration {s : State} {id : EndpointId} {authority : Authority}
      {e : EndpointRecord} (he : s.endpoints.lookup id = some e) :
      Effect (.advanceEndpointGeneration id authority) s
        ({ s.nextFreshnessLocked with
          endpoints := s.endpoints.insert id
            { e with generation := e.generation + 1, freshness := s.freshness + 1 }
          }.invalidateEndpointDependentsLocked id)
  | setEndpointHealth {s : State} {id : EndpointId} {healthy : Bool} {authority : Authority}
      {e : EndpointRecord} (he : s.endpoints.lookup id = some e) :
      Effect (.setEndpointHealth id healthy authority) s
        { s.nextFreshnessLocked with
          endpoints := s.endpoints.insert id
            { e with healthy := healthy, freshness := s.freshness + 1 } }
  | addNic {s : State} {rec : NicRecord} : Effect (.addNic rec) s (addNic rec s).2
  | addStorageEndpoint {s : State} {rec : StorageEndpointRecord} :
      Effect (.addStorageEndpoint rec) s (addStorageEndpoint rec s).2
  | updateProvider {s : State} {p : ProviderAddParams} {k : ℕ} {v : ProviderInfo}
      (hv : s.providers.lookup k = some v) :
      Effect (.addProvider p) s
        { s with
          providers := s.providers.insert k
            { v with
              available := p.available, support := p.support, provenance := p.provenance } }
  | addProvider {s : State} {p : ProviderAddParams} :
      Effect (.addProvider p) s
        { s.nextIdLocked with
          providers := s.providers.insert (s.nextId + 1) (newProvider p (s.nextId + 1)) }
  | publishCapability {s : State} {p : CapabilityPublishParams} {k : ℕ}
      (hk : k = s.nextId + 1 ∨ ∃ c, s.capabilities.lookup k = some c) :
      Effect (.publishCapability p) s
        { s.nextIdLocked.nextFreshnessLocked with
          capabilities := s.capabilities.insert k
            (newCapability p (s.nextId + 1) (s.freshness + 1)) }
  | revokeCapability {s : State} {provider capability : Str} {authority : Authority} {k : ℕ} :
      Effect (.revokeCapability provider capability authority) s
        { s with capabilities := s.capabilities.erase k }
  | retireDeregistering {s : State} {p : RegisterParams} {backend : Option Backend}
      {id : RegistrationId} :
      Effect (.registerBuffer p backend) s (retireRegistration id s)
  | registerBuffer {s s' : State} {p : RegisterParams} {backend : Option Backend}
      {buffer : BufferRecord} {endpoint : EndpointRecord} {rr : RegisterResult}
      (haccepted : Accepted p backend buffer endpoint rr s)
      (hretired : Retires p s s')
      (hresult : registerBuffer p backend s
        = acceptRegistration p buffer endpoint (latestRegistration s p.buffer p.endpoint) rr s') :
      Effect (.registerBuffer p backend) s
        (acceptRegistration p buffer endpoint (latestRegistration s p.buffer p.endpoint) rr s').2
  | retire {s : State} {id : RegistrationId} {authority : Authority} {reg : Registration}
      (hreg : s.registrations.lookup id = some reg) :
      Effect (.deregisterBuffer id authority) s
        { s with registrations := s.registrations.insert id { reg with state := .retired } }
  | deregisterBuffer {s : State} {id : RegistrationId} {authority : Authority}
      {reg : Registration} (hreg : s.registrations.lookup id = some reg) :
      Effect (.deregisterBuffer id authority) s
        { s.nextFreshnessLocked with
          registrations := s.registrations.insert id
            { reg with state := .retired, handle := none, freshness := s.freshness + 1 } }
  | deregisterCached {s : State} {id : RegistrationId} {authority : Authority}
      {reg : Registration} {b : BufferRecord} (hreg : s.registrations.lookup id = some reg)
      (hb : s.buffers.lookup reg.buffer = some b) :
      Effect (.deregisterBuffer id authority) s
        { s.nextFreshnessLocked.nextFreshnessLocked with
          registrations := s.registrations.insert id
            { reg with state := .retired, handle := none, freshness := s.freshness + 1 }
          buffers := s.buffers.insert reg.buffer
            { b with
              registrationState := .unregistered
              registrationId := 0
              registrationGeneration := 0
              freshness := s.freshness + 2 } }
  | planDirect {s : State} {p : PlanRequestParams} {d : PathDecision} {src : BufferRecord}
      {dst : EndpointRecord} {reg : Registration}
      (hdirect : d.eligibility.isDirect = true)
      (hsrc : s.buffers.lookup p.source = some src)
      (hsrcGeneration : src.generation = d.sourceGeneration)
      (hdst : s.endpoints.lookup p.destination = some dst)
      (hdstGeneration : dst.generation = d.destinationGeneration)
      (hreg : registeredRegistration s src.id dst.id = some reg)
      (hresult : planTransferCommit p d s
        = storeDirectPlan d
            (planRecord p d src dst (some reg) (s.nextId + 1) (s.nextId + 2) s.epoch)
            s.nextIdLocked.nextIdLocked) :
      Effect (.planCommit p d) s
        (storeDirectPlan d
          (planRecord p d src dst (some reg) (s.nextId + 1) (s.nextId + 2) s.epoch)
          s.nextIdLocked.nextIdLocked).2
  | planFallback {s : State} {p : PlanRequestParams} {d : PathDecision} {src : BufferRecord}
      {dst : EndpointRecord}
      (hfallback : d.eligibility = .fallbackRequired) (havailable : d.fallbackAvailable = true)
      (hsrc : s.buffers.lookup p.source = some src)
      (hsrcGeneration : src.generation = d.sourceGeneration)
      (hdst : s.endpoints.lookup p.destination = some dst)
      (hdstGeneration : dst.generation = d.destinationGeneration)
      (hresult : planTransferCommit p d s
        = storeFallbackPlan d
            (planRecord p d src dst (registeredRegistration s src.id dst.id) (s.nextId + 1)
              (s.nextId + 2) s.epoch)
            s.nextIdLocked.nextIdLocked) :
      Effect (.planCommit p d) s
        (storeFallbackPlan d
          (planRecord p d src dst (registeredRegistration s src.id dst.id) (s.nextId + 1)
            (s.nextId + 2) s.epoch)
          s.nextIdLocked.nextIdLocked).2
  | beginTransfer {s : State} {planId : TransferPlanId} {plan : TransferPlan}
      {authority : Authority} {backend : Option Backend} {handle : Option BackendHandle}
      (hready : Ready planId authority plan s) :
      Effect (.beginTransfer planId authority backend) s
        (startAttempt plan authority handle backend s).2
  | failTransfer {s : State} {id : TransferAttemptId} {authority : Authority}
      {receipt : TransferReceipt} :
      Effect (.completeTransfer id authority) s
        { s with receipts := s.receipts.insert id receipt }
  | completeTransfer {s : State} {id : TransferAttemptId} {authority : Authority}
      {attempt : TransferAttempt} {receipt : TransferReceipt}
      {verifications : Table VerificationReceipt} {n : ℕ}
      (hattempt : s.attempts.lookup id = some attempt) (hn : s.nextId ≤ n) :
      Effect (.completeTransfer id authority) s
        { commitAttempt id attempt receipt s with verifications := verifications, nextId := n }
  | cancelTransfer {s : State} {id : TransferAttemptId} {authority : Authority}
      {attempt : TransferAttempt} {receipt : TransferReceipt}
      (hattempt : s.attempts.lookup id = some attempt) :
      Effect (.cancelTransfer id authority) s
        { s with
          attempts := s.attempts.insert id
            { attempt with state := .cancelled, completionCommitted := false }
          receipts := s.receipts.insert id receipt }
  | verifyTransfer {s : State} {id : TransferAttemptId} {passed : Bool} {n : ℕ}
      {vr : VerificationReceipt} :
      Effect (.verifyTransfer id passed n) s
        { s.nextIdLocked with verifications := s.verifications.insert (s.nextId + 1) vr }
  | rehash {s s' : State} (h : s.Rearranged s') : Effect (.rehash s') s s'
  | recover {s : State} {file : Bytes} :
      Effect (.recover file) s (recoverFromFile file s).2

namespace Effect

/-- A check that refuses the call, before the rest of the operation. -/
theorem check {e : Event} {s : State} {α : Type} {c : Prop} [Decidable c] {error : Result α}
    {rest : Result α × State} (h : ¬c → Effect e s rest.2) :
  Effect e s (if c then (error, s) else rest).2
  := by
  split
  next => exact .refused
  next hc => exact h hc

end Effect

namespace Coordinator

/-- A call that succeeds has passed its check. -/
theorem ok_of_check {α : Type} {c : Prop} [Decidable c] {e : Error} {a : α} {s : State}
    {rest : Result α × State} (h : (if c then (.error e, s) else rest).1 = .ok a) :
  ¬c ∧ rest.1 = .ok a
  := by
  split at h
  next => cases h
  next hc => exact ⟨hc, h⟩

/-! ### The effects of the operations -/

/-- A worker that is admitted is recorded with its boot id, and one that is live already changes
nothing. -/
theorem registerWorker_effect (worker : WorkerId) (boot : WorkerBootId)
    (epoch : CoordinatorEpoch) (s : State) :
  Effect (.registerWorker worker boot epoch) s (registerWorker worker boot epoch s).2
  := by
  rw [registerWorker]
  apply Effect.check
  intro hepoch
  apply Effect.check
  intro hvalid
  apply Effect.check
  intro hboot
  have hepoch : epoch = s.epoch := by simpa using hepoch
  have hvalid : valid worker = true := by simpa using hvalid
  have hboot : (s.workerMaxBoot.lookup worker).getD 0 ≤ boot := by simpa using hboot
  split
  next =>
    cases hlookup : s.workers.lookup worker with
    | some live =>
        dsimp only
        split
        next => exact .refused
        next => exact .registerWorker hepoch hvalid hboot (.inr ⟨live.2, hlookup⟩)
    | none =>
        apply Effect.check
        intro
        exact .registerWorker hepoch hvalid hboot (.inl rfl)
  next => exact .registerWorker hepoch hvalid hboot (.inl rfl)

/-- A new buffer takes a new id. -/
theorem createBuffer_effect (p : CreateBufferParams) (s : State) :
  Effect (.createBuffer p) s (createBuffer p s).2
  := by
  apply Effect.check
  intro
  apply Effect.check
  intro
  apply Effect.check
  intro hlive
  apply Effect.createBuffer
  intro howned
  simpa [howned] using hlive

/-- The sweep of what depends on the buffer is part of the effect. -/
theorem advanceBufferGeneration_effect (id : BufferId) (authority : Authority) (s : State) :
  Effect (.advanceBufferGeneration id authority) s (advanceBufferGeneration id authority s).2
  := by
  rw [advanceBufferGeneration]
  cases hb : s.buffers.lookup id with
  | none => exact .refused
  | some b =>
      apply Effect.check
      intro
      exact .advanceBufferGeneration hb

/-- So it is when the buffer is retired. -/
theorem retireBuffer_effect (id : BufferId) (authority : Authority) (s : State) :
  Effect (.retireBuffer id authority) s (retireBuffer id authority s).2
  := by
  rw [retireBuffer]
  cases hb : s.buffers.lookup id with
  | none => exact .refused
  | some b =>
      apply Effect.check
      intro
      exact .retireBuffer hb

/-- A new device takes a new id. -/
theorem addDevice_effect (p : DeviceAddParams) (s : State) :
  Effect (.addDevice p) s (addDevice p s).2
  := by
  apply Effect.check
  intro
  exact .addDevice

/-- A new endpoint takes a new id. -/
theorem addEndpoint_effect (p : EndpointAddParams) (s : State) :
  Effect (.addEndpoint p) s (addEndpoint p s).2
  := by
  apply Effect.check
  intro
  apply Effect.check
  intro
  exact .addEndpoint

/-- The sweep of what depends on the endpoint is part of the effect. -/
theorem advanceEndpointGeneration_effect (id : EndpointId) (authority : Authority) (s : State) :
  Effect (.advanceEndpointGeneration id authority) s (advanceEndpointGeneration id authority s).2
  := by
  rw [advanceEndpointGeneration]
  cases he : s.endpoints.lookup id with
  | none => exact .refused
  | some e =>
      apply Effect.check
      intro
      exact .advanceEndpointGeneration he

/-- Only the record of the endpoint changes. -/
theorem setEndpointHealth_effect (id : EndpointId) (healthy : Bool) (authority : Authority)
    (s : State) :
  Effect (.setEndpointHealth id healthy authority) s (setEndpointHealth id healthy authority s).2
  := by
  rw [setEndpointHealth]
  cases he : s.endpoints.lookup id with
  | none => exact .refused
  | some e =>
      apply Effect.check
      intro
      exact .setEndpointHealth he

/-- What `findEntry` finds is stored under the key it gives. -/
theorem lookup_of_findEntry {V : Type} {p : V → Bool} {t : Table V} {k : ℕ} {v : V}
    (h : findEntry p t = some (k, v)) :
  t.lookup k = some v
  := by
  obtain ⟨⟨k', v'⟩, hfind, heq⟩ := Option.map_eq_some_iff.mp h
  obtain ⟨rfl, rfl⟩ := Prod.mk.inj heq
  exact AList.mem_lookup_iff.mpr (List.mem_of_find?_eq_some hfind)

/-- A provider is added, or the one of its name updated. -/
theorem addProvider_effect (p : ProviderAddParams) (s : State) :
  Effect (.addProvider p) s (addProvider p s).2
  := by
  apply Effect.check
  intro
  cases hfind : findEntry (fun v : ProviderInfo => v.name = p.name) s.providers with
  | some kv => exact .updateProvider (lookup_of_findEntry hfind)
  | none => exact .addProvider

/-- An observation is added, or takes the key of the one it replaces. -/
theorem publishCapability_effect (p : CapabilityPublishParams) (s : State) :
  Effect (.publishCapability p) s (publishCapability p s).2
  := by
  apply Effect.check
  intro
  dsimp only
  split
  next k c hfind => exact .publishCapability (.inr ⟨c, lookup_of_findEntry hfind⟩)
  next => exact .publishCapability (.inl rfl)

/-- The observation is erased, if there is one and the caller may revoke it. -/
theorem revokeCapability_effect (provider capability : Str) (authority : Authority) (s : State) :
  Effect (.revokeCapability provider capability authority) s
    (revokeCapability provider capability authority s).2
  := by
  rw [revokeCapability]
  split
  next => exact .refused
  next =>
    apply Effect.check
    intro
    exact .revokeCapability

/-- The ways a call of `register_buffer` can end.  A registration of the pair that is being
deregistered is retired before the backend is asked, and stays retired whatever the answer. -/
inductive RegisterOutcome (p : RegisterParams) (backend : Option Backend) (s : State) :
    Result Registration × State → Prop
  | refused {e : Error} : RegisterOutcome p backend s (.error e, s)
  | duplicate {latest : Registration}
      (hlatest : latestRegistration s p.buffer p.endpoint = some latest) :
      RegisterOutcome p backend s (.ok { latest with duplicated := true }, s)
  | failed {s' : State} {e : Error} (hretired : Retires p s s') :
      RegisterOutcome p backend s (.error e, s')
  | accepted {s' : State} {buffer : BufferRecord} {endpoint : EndpointRecord}
      {rr : RegisterResult} (hretired : Retires p s s')
      (haccepted : Accepted p backend buffer endpoint rr s) :
      RegisterOutcome p backend s (acceptRegistration p buffer endpoint
        (latestRegistration s p.buffer p.endpoint) rr s')

/-- A check of `register_buffer`, which is refused or goes on. -/
theorem RegisterOutcome.check {p : RegisterParams} {backend : Option Backend} {s : State}
    {c : Prop} [Decidable c] {e : Error} {rest : Result Registration × State}
    (h : ¬c → RegisterOutcome p backend s rest) :
  RegisterOutcome p backend s (if c then (.error e, s) else rest)
  := by
  split
  next => exact .refused
  next hc => exact h hc

/-- After the checks, the backend decides whether the registration is stored. -/
theorem stageRegistration_outcome {p : RegisterParams} {backend : Option Backend} {s s' : State}
    {buffer : BufferRecord} {endpoint : EndpointRecord} {latest : Option Registration}
    (hlatest : latestRegistration s p.buffer p.endpoint = latest) (hretired : Retires p s s')
    (haccepted : ∀ rr, backendRegister p backend buffer endpoint = .ok rr →
      Accepted p backend buffer endpoint rr s) :
  RegisterOutcome p backend s (stageRegistration p backend buffer endpoint latest s')
  := by
  subst hlatest
  rw [stageRegistration]
  cases hrr : backendRegister p backend buffer endpoint with
  | error e => exact .failed hretired
  | ok rr => exact .accepted hretired (haccepted rr hrr)

/-- The ways `register_buffer` can end, with what its checks have found. -/
theorem registerBuffer_outcome (p : RegisterParams) (backend : Option Backend) (s : State) :
  RegisterOutcome p backend s (registerBuffer p backend s)
  := by
  rw [registerBuffer]
  cases hbuffer : s.buffers.lookup p.buffer with
  | none => exact .refused
  | some buffer =>
  apply RegisterOutcome.check
  intro hactive
  cases hendpoint : s.endpoints.lookup p.endpoint with
  | none => exact .refused
  | some endpoint =>
  apply RegisterOutcome.check
  intro
  apply RegisterOutcome.check
  intro
  apply RegisterOutcome.check
  intro hepoch
  apply RegisterOutcome.check
  intro hlive
  apply RegisterOutcome.check
  intro howner
  apply RegisterOutcome.check
  intro
  have haccepted : ∀ rr, backendRegister p backend buffer endpoint = .ok rr →
      Accepted p backend buffer endpoint rr s := by
    intro rr hrr
    refine ⟨hbuffer, by simpa using hactive, hendpoint, by simpa using hepoch, ?_, ?_, hrr⟩
    · intro howned
      simpa [howned] using hlive
    · intro howned
      simpa [howned] using howner
  cases hlatest : latestRegistration s p.buffer p.endpoint with
  | none => exact stageRegistration_outcome hlatest (.inl rfl) haccepted
  | some latest =>
      dsimp only
      split
      next => exact .duplicate hlatest
      split
      next => split <;> exact .refused
      apply RegisterOutcome.check
      intro
      apply stageRegistration_outcome hlatest _ haccepted
      split
      next hstate => exact .inr ⟨latest, hlatest, hstate, rfl⟩
      next => exact .inl rfl

/-- A registration is stored, after the latest one of its pair was retired if it was being
deregistered. -/
theorem registerBuffer_effect (p : RegisterParams) (backend : Option Backend) (s : State) :
  Effect (.registerBuffer p backend) s (registerBuffer p backend s).2
  := by
  have h := registerBuffer_outcome p backend s
  generalize hresult : registerBuffer p backend s = result at h
  cases h with
  | refused => exact .refused
  | duplicate => exact .refused
  | failed hretired =>
      obtain rfl | ⟨latest, -, -, rfl⟩ := hretired
      · exact .refused
      · exact .retireDeregistering
  | accepted hretired haccepted => exact .registerBuffer haccepted hretired hresult

/-- The registration is retired, and its buffer forgets it, unless its owner is dead or the buffer
refers to another one. -/
theorem deregisterBuffer_effect (id : RegistrationId) (authority : Authority) (s : State) :
  Effect (.deregisterBuffer id authority) s (deregisterBuffer id authority s).2
  := by
  rw [deregisterBuffer]
  cases hreg : s.registrations.lookup id with
  | none => exact .refused
  | some reg =>
      apply Effect.check
      intro
      dsimp only
      split
      next => exact .retire hreg
      next =>
        apply Effect.check
        intro
        apply Effect.check
        intro
        dsimp only
        rw [clearRegistration]
        cases hb : s.buffers.lookup reg.buffer with
        | none =>
            dsimp only [State.nextFreshnessLocked]
            rw [hb]
            exact .deregisterBuffer hreg
        | some b =>
            dsimp only [State.nextFreshnessLocked]
            rw [hb]
            dsimp only
            split
            next => exact .deregisterCached hreg hb
            next => exact .deregisterBuffer hreg

/-- A commit is refused, or all its checks have passed and it stores the plan. -/
theorem planTransferCommit_cases (p : PlanRequestParams) (d : PathDecision) (s : State) :
  (∃ e, planTransferCommit p d s = (.error e, s)) ∨
    ∃ src dst, s.buffers.lookup p.source = some src ∧ src.generation = d.sourceGeneration ∧
      s.endpoints.lookup p.destination = some dst ∧ dst.generation = d.destinationGeneration ∧
      (d.eligibility.isDirect = true ∨
        d.eligibility = .fallbackRequired ∧ d.fallbackAvailable = true) ∧
      (d.eligibility.isDirect = true → (registeredRegistration s src.id dst.id).isSome = true) ∧
      planTransferCommit p d s
        = storePlan p d src dst (registeredRegistration s src.id dst.id) s
  := by
  rw [planTransferCommit]
  split
  next => exact .inl ⟨_, rfl⟩
  next heligible =>
  split
  next => exact .inl ⟨_, rfl⟩
  next =>
  cases hsrc : s.buffers.lookup p.source with
  | none => exact .inl ⟨_, rfl⟩
  | some src =>
  dsimp only
  split
  next => exact .inl ⟨_, rfl⟩
  next hsrcGeneration =>
  cases hdst : s.endpoints.lookup p.destination with
  | none => exact .inl ⟨_, rfl⟩
  | some dst =>
  dsimp only
  split
  next => exact .inl ⟨_, rfl⟩
  next hdstGeneration =>
  split
  next => exact .inl ⟨_, rfl⟩
  next hreg =>
    refine .inr ⟨src, dst, rfl, by simpa using hsrcGeneration, rfl, by simpa using hdstGeneration,
      ?_, ?_, rfl⟩
    · by_cases hdirect : d.eligibility.isDirect = true
      · exact .inl hdirect
      · exact .inr (by simpa [hdirect] using heligible)
    · intro hdirect
      simpa [hdirect, Option.isSome_iff_ne_none] using hreg

/-- A direct plan is stored, or a fallback plan and its staging buffer. -/
theorem planTransferCommit_effect (p : PlanRequestParams) (d : PathDecision) (s : State) :
  Effect (.planCommit p d) s (planTransferCommit p d s).2
  := by
  obtain ⟨e, heq⟩ | ⟨src, dst, hsrc, hsrcGeneration, hdst, hdstGeneration, heligible, hreg, heq⟩ :=
    planTransferCommit_cases p d s
  · rw [heq]
    exact .refused
  · rw [storePlan] at heq
    split at heq
    next hdirect =>
      obtain ⟨reg, hfound⟩ := Option.isSome_iff_exists.mp (hreg hdirect)
      rw [hfound] at heq
      rw [heq]
      exact .planDirect hdirect hsrc hsrcGeneration hdst hdstGeneration hfound heq
    next hdirect =>
      obtain hdirect' | ⟨hfallback, havailable⟩ := heligible
      · exact absurd hdirect' hdirect
      · rw [heq]
        exact .planFallback hfallback havailable hsrc hsrcGeneration hdst hdstGeneration heq

/-- Running the data plane does not change what the attempt is an attempt of. -/
theorem runAttempt_core (plan : TransferPlan) (handle : Option BackendHandle)
    (backend : Option Backend) (a : TransferAttempt) :
  (runAttempt plan handle backend a).id = a.id ∧
    (runAttempt plan handle backend a).planId = a.planId ∧
    (runAttempt plan handle backend a).epoch = a.epoch ∧
    (runAttempt plan handle backend a).authority = a.authority
  := by
  unfold runAttempt
  split
  · exact ⟨rfl, rfl, rfl, rfl⟩
  · split
    · exact ⟨rfl, rfl, rfl, rfl⟩
    · exact ⟨rfl, rfl, rfl, rfl⟩

/-- The ways a call of `begin_transfer` can end. -/
inductive BeginOutcome (planId : TransferPlanId) (authority : Authority)
    (backend : Option Backend) (s : State) : Result TransferAttempt × State → Prop
  | refused {e : Error} : BeginOutcome planId authority backend s (.error e, s)
  | begun {plan : TransferPlan} {handle : Option BackendHandle}
      (hready : Ready planId authority plan s) :
      BeginOutcome planId authority backend s (startAttempt plan authority handle backend s)

/-- A check of `begin_transfer`, which is refused or goes on. -/
theorem BeginOutcome.check {planId : TransferPlanId} {authority : Authority}
    {backend : Option Backend} {s : State} {c : Prop} [Decidable c] {e : Error}
    {rest : Result TransferAttempt × State}
    (h : ¬c → BeginOutcome planId authority backend s rest) :
  BeginOutcome planId authority backend s (if c then (.error e, s) else rest)
  := by
  split
  next => exact .refused
  next hc => exact h hc

/-- The ways `begin_transfer` can end, with what its checks have found. -/
theorem beginTransfer_outcome (planId : TransferPlanId) (authority : Authority)
    (backend : Option Backend) (s : State) :
  BeginOutcome planId authority backend s (beginTransfer planId authority backend s)
  := by
  rw [beginTransfer]
  cases hplan : s.plans.lookup planId with
  | none => exact .refused
  | some plan =>
  apply BeginOutcome.check
  intro hauthoritative
  apply BeginOutcome.check
  intro hepoch
  apply BeginOutcome.check
  intro hlive
  apply BeginOutcome.check
  intro howner
  apply BeginOutcome.check
  intro
  cases hbuffer : s.buffers.lookup plan.source with
  | none => exact .refused
  | some buffer =>
  apply BeginOutcome.check
  intro hsource
  cases hendpoint : s.endpoints.lookup plan.destination with
  | none => exact .refused
  | some endpoint =>
  apply BeginOutcome.check
  intro hdestination
  apply BeginOutcome.check
  intro hregistration
  apply BeginOutcome.begun
  constructor
  · exact hplan
  · simpa using hauthoritative
  · simpa using hepoch
  · intro hcaller
    simpa [hcaller] using hlive
  · intro hcaller hplanOwner
    simpa [hcaller, hplanOwner] using howner
  · exact ⟨buffer, hbuffer, by simpa using hsource⟩
  · exact ⟨endpoint, hendpoint, by simpa using hdestination⟩
  · simpa using hregistration

/-- A transfer that begins has passed all checks, and belongs to its caller. -/
theorem ready_of_ok {planId : TransferPlanId} {authority : Authority} {backend : Option Backend}
    {s : State} {attempt : TransferAttempt}
    (h : (beginTransfer planId authority backend s).1 = .ok attempt) :
  attempt.authority = authority ∧ ∃ plan, Ready planId authority plan s
  := by
  have houtcome := beginTransfer_outcome planId authority backend s
  generalize beginTransfer planId authority backend s = result at h houtcome
  cases houtcome with
  | refused => cases h
  | @begun plan handle hready =>
      obtain rfl := Except.ok.inj h
      exact ⟨(runAttempt_core plan handle backend _).2.2.2, plan, hready⟩

/-- An attempt is stored under a new id. -/
theorem beginTransfer_effect (planId : TransferPlanId) (authority : Authority)
    (backend : Option Backend) (s : State) :
  Effect (.beginTransfer planId authority backend) s (beginTransfer planId authority backend s).2
  := by
  have h := beginTransfer_outcome planId authority backend s
  generalize beginTransfer planId authority backend s = result at h
  cases h with
  | refused => exact .refused
  | begun hready => exact .beginTransfer hready

/-- An attempt that is committed gets its receipt, and a verification if its data have failed the
check, or have passed it and are complete. -/
theorem finishAttempt_effect {id : TransferAttemptId} (authority : Authority)
    {attempt : TransferAttempt} {s : State} (hattempt : s.attempts.lookup id = some attempt) :
  Effect (.completeTransfer id authority) s (finishAttempt id attempt s).2
  := by
  rw [finishAttempt]
  split
  next => exact .completeTransfer hattempt (Nat.le_succ _)
  next =>
    dsimp only
    split
    next => exact .completeTransfer hattempt (Nat.le_succ _)
    next => exact .completeTransfer hattempt le_rfl

/-- The attempt is committed, or a failed one gets its receipt, or nothing changes. -/
theorem completeTransfer_effect (id : TransferAttemptId) (authority : Authority) (s : State) :
  Effect (.completeTransfer id authority) s (completeTransfer id authority s).2
  := by
  rw [completeTransfer]
  cases hattempt : s.attempts.lookup id with
  | none => exact .refused
  | some attempt =>
      apply Effect.check
      intro
      apply Effect.check
      intro
      dsimp only
      split
      next =>
        cases s.receipts.lookup id with
        | some receipt => exact .refused
        | none => exact .failTransfer
      next =>
        apply Effect.check
        intro
        apply Effect.check
        intro
        exact finishAttempt_effect authority hattempt

/-- The attempt is cancelled, and its receipt replaced. -/
theorem cancelTransfer_effect (id : TransferAttemptId) (authority : Authority) (s : State) :
  Effect (.cancelTransfer id authority) s (cancelTransfer id authority s).2
  := by
  rw [cancelTransfer]
  cases hattempt : s.attempts.lookup id with
  | none => exact .refused
  | some attempt =>
      apply Effect.check
      intro
      apply Effect.check
      intro
      exact .cancelTransfer hattempt

/-- A verification is stored under a new id, and the attempt stays as it is. -/
theorem verifyTransfer_effect (id : TransferAttemptId) (passed : Bool) (bytesChecked : ℕ)
    (s : State) :
  Effect (.verifyTransfer id passed bytesChecked) s (verifyTransfer id passed bytesChecked s).2
  := by
  rw [verifyTransfer]
  cases s.attempts.lookup id with
  | none => exact .refused
  | some attempt => exact .verifyTransfer

end Coordinator

/-- Every event has one of the effects. -/
theorem apply_effect (e : Event) (s : State) (hrehash : ∀ s', e = .rehash s' → s.Rearranged s') :
  Effect e s (apply e s)
  := by
  cases e with
  | setLimits => exact .setLimits
  | registerWorker worker boot epoch => exact registerWorker_effect worker boot epoch s
  | markWorkerDead => exact .markWorkerDead
  | advanceEpoch => exact .advanceEpoch
  | createBuffer p => exact createBuffer_effect p s
  | advanceBufferGeneration id authority => exact advanceBufferGeneration_effect id authority s
  | retireBuffer id authority => exact retireBuffer_effect id authority s
  | addDevice p => exact addDevice_effect p s
  | addEndpoint p => exact addEndpoint_effect p s
  | advanceEndpointGeneration id authority =>
      exact advanceEndpointGeneration_effect id authority s
  | setEndpointHealth id healthy authority => exact setEndpointHealth_effect id healthy authority s
  | addNic => exact .addNic
  | addStorageEndpoint => exact .addStorageEndpoint
  | addProvider p => exact addProvider_effect p s
  | publishCapability p => exact publishCapability_effect p s
  | revokeCapability provider capability authority =>
      exact revokeCapability_effect provider capability authority s
  | registerBuffer p backend => exact registerBuffer_effect p backend s
  | deregisterBuffer id authority => exact deregisterBuffer_effect id authority s
  | planSnapshot => exact .refused
  | planCommit p d => exact planTransferCommit_effect p d s
  | beginTransfer planId authority backend => exact beginTransfer_effect planId authority backend s
  | completeTransfer id authority => exact completeTransfer_effect id authority s
  | cancelTransfer id authority => exact cancelTransfer_effect id authority s
  | verifyTransfer id passed bytesChecked => exact verifyTransfer_effect id passed bytesChecked s
  | rehash s' => exact .rehash (hrehash s' rfl)
  | recover => exact .recover

/-- An event that may happen has one of the effects. -/
theorem Event.Allowed.effect {setting : Setting} {w : World} {e : Event}
    (h : e.Allowed setting w) :
  Effect e w.state (apply e w.state)
  := by
  apply apply_effect
  rintro s' rfl
  exact h

end GpuDirectFabric
