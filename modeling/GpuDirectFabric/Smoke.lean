import GpuDirectFabric.RegisteredPaths
import GpuDirectFabric.Seeding

/-!
# A synthetic transfer

The run of `smoke.cpp`, up to its receipt: seed a coordinator from the synthetic backend, make a
buffer on its device, register the buffer for one of its endpoints, ask for the path, and transfer.
It goes through on every reachable state with room, for every endpoint and every buffer that a
direct path can take.
-/

namespace GpuDirectFabric

open Coordinator PathPlanner

/-- The path decided on, and the receipt of the transfer. -/
def smoke (backend : SyntheticBackend) (bp : CreateBufferParams) (rp : RegisterParams)
    (c : EndpointClass) (p : PlanRequestParams) (s : State) :
    Result (PathDecision × TransferReceipt) × State :=
  let seeding := seedSynthetic backend s
  andThen (createBuffer { bp with device := seeding.1.device } seeding.2) fun b s =>
  andThen (registerBuffer
    { rp with buffer := b.id, endpoint := seeding.1.endpoint c, authority := bp.authority }
    (some backend.toBackend) s) fun _ s =>
  let backend := { backend with nextRegId := backend.nextRegId + 1 }
  let p := { p with source := b.id, destination := seeding.1.endpoint c }
  andThen (transfer p bp.authority (some backend.toBackend) s) fun r s' =>
  (.ok (evaluatePath p s, r), s')

/-- The room the run needs. -/
structure SmokeRoom (s : State) : Prop where
  endpoints : s.endpoints.size + 3 ≤ s.maxEndpoints
  buffers : s.buffers.size < s.maxBuffers
  registrations : s.registrations.size < s.maxRegistrations
  plans : s.plans.size < s.maxPlans
  attempts : s.attempts.size < s.maxAttempts

/-- What the run asks for can be had on a direct path, by a caller that may act. -/
structure SmokeRequest (bp : CreateBufferParams) (c : EndpointClass) (p : PlanRequestParams)
    (s : State) : Prop where
  endpointClass : c.HasDirectPath
  epoch : bp.authority.epoch = s.epoch
  live : bp.authority.workerOwned = true → s.workerLiveLocked bp.authority = true
  domain : isGpuMemory bp.domain = true
  size : p.size ≤ bp.size
  alignment : 64 ≤ bp.alignment ∧ bp.alignment ∣ p.size

/-! ### What a direct path takes -/

/-- The state has a device, an endpoint of the class, and a provider with the capability. -/
structure Equipped (c : EndpointClass) (device : DeviceId) (endpoint : EndpointId) (s : State) :
    Prop where
  device : device ≠ 0 ∧ ∃ d, s.devices.lookup device = some d
  endpoint : Placed c endpoint s
  provider : Offered (providerFor c) s
  capability : Observed (providerFor c, capFor c) s

/-- Making and registering buffers leaves the equipment alone. -/
structure EquipmentFrame (s s' : State) : Prop where
  devices : s'.devices = s.devices
  endpoints : s'.endpoints = s.endpoints
  providers : s'.providers = s.providers
  capabilities : s'.capabilities = s.capabilities
  epoch : s'.epoch = s.epoch
  workers : s'.workers = s.workers
  limits : s'.maxRegistrations = s.maxRegistrations ∧ s'.plans = s.plans ∧
    s'.maxPlans = s.maxPlans ∧ s'.attempts = s.attempts ∧ s'.maxAttempts = s.maxAttempts

theorem EquipmentFrame.trans {s s' s'' : State} (h : EquipmentFrame s s')
    (h' : EquipmentFrame s' s'') :
  EquipmentFrame s s''
  := by
  obtain ⟨hregistrations, hplans, hmaxPlans, hattempts, hmaxAttempts⟩ := h.limits
  obtain ⟨hregistrations', hplans', hmaxPlans', hattempts', hmaxAttempts'⟩ := h'.limits
  constructor
  · apply h'.devices.trans h.devices
  · apply h'.endpoints.trans h.endpoints
  · apply h'.providers.trans h.providers
  · apply h'.capabilities.trans h.capabilities
  · apply h'.epoch.trans h.epoch
  · apply h'.workers.trans h.workers
  · use hregistrations'.trans hregistrations, hplans'.trans hplans, hmaxPlans'.trans hmaxPlans,
      hattempts'.trans hattempts
    apply hmaxAttempts'.trans hmaxAttempts

theorem EquipmentFrame.live {s s' : State} (h : EquipmentFrame s s') (a : Authority) :
  s'.workerLiveLocked a = s.workerLiveLocked a
  := by rw [State.workerLiveLocked, State.workerLiveLocked, h.epoch, h.workers]

theorem Equipped.of_frame {c : EndpointClass} {device : DeviceId} {endpoint : EndpointId}
    {s s' : State} (h : Equipped c device endpoint s) (hframe : EquipmentFrame s s') :
  Equipped c device endpoint s'
  := by
  have hdirectory : s'.directory = s.directory := by
    rw [State.directory, State.directory, hframe.providers, hframe.capabilities]
  constructor
  · rw [hframe.devices]
    apply h.device
  · rw [Placed, hframe.endpoints]
    apply h.endpoint
  · rw [Offered, hdirectory]
    apply h.provider
  · rw [Observed, hdirectory]
    apply h.capability

/-! ### The buffer -/

/-- Where there is room, a live caller makes a buffer. -/
theorem createBuffer_eq {p : CreateBufferParams} {s : State} (halignment : p.alignment ≠ 0)
    (hroom : s.buffers.size < s.maxBuffers)
    (hlive : p.authority.workerOwned = true → s.workerLiveLocked p.authority = true) :
  createBuffer p s = (.ok (newBuffer p (s.nextId + 1) (s.freshness + 1)),
    { s.nextIdLocked.nextFreshnessLocked with
      buffers := s.buffers.insert (s.nextId + 1)
        (newBuffer p (s.nextId + 1) (s.freshness + 1)) })
  := by
  have hlive' : ¬(p.authority.workerOwned && !s.workerLiveLocked p.authority) = true := by
    simpa using hlive
  rw [createBuffer, if_neg (by simp [halignment]), if_neg (not_le.mpr hroom), if_neg hlive']
  rfl

/-- Nothing is registered yet for a buffer still to be made. -/
theorem unregistered_of_fresh {w : World} (hw : persistedFabric.Reachable w) {k : RegistrationId}
    {r : Registration} (hr : w.state.registrations.lookup k = some r) :
  r.buffer ≠ w.state.nextId + 1
  := by
  obtain ⟨hwf, hresolve⟩ := resolves_of_reachable hw
  obtain ⟨b, hb⟩ := (hresolve.registrations k r hr).buffer.has
  intro heq
  have hle := (hwf.buffers _ b hb).2
  rw [heq] at hle
  apply absurd hle (Nat.not_succ_le_self _)

/-! ### Its registration -/

/-- The registration has been put in force, by a call with the parameters for the buffer. -/
structure InForce (p : RegisterParams) (b : BufferRecord) (r : Registration) (s s' : State) :
    Prop where
  holds : s'.Holds p.buffer p.endpoint r.id r
  registered : r.state = .registered
  authority : r.authority = p.authority
  buffer : ∃ b', s'.buffers.lookup p.buffer = some b' ∧ b'.fixed = b.fixed
  frame : EquipmentFrame s s'

/-- The first registration of a buffer is put in force when the backend answers. -/
theorem registers_first {p : RegisterParams} {b : BufferRecord} {e : EndpointRecord} {s : State}
    (h : RegisterAllowed p b e s) (hwf : WellFormed s)
    (hroom : s.registrations.size < s.maxRegistrations)
    (hfirst : ∀ k r, s.registrations.lookup k = some r → r.buffer ≠ p.buffer)
    {backend : Option Backend} {rr : RegisterResult}
    (hanswer : backendRegister p backend b e = .ok rr) :
  ∃ r, (registerBuffer p backend s).1 = .ok r ∧ r.support = rr.support ∧
    InForce p b r s (registerBuffer p backend s).2
  := by
  have hidle : PairIdle p s := by
    intro latest hlatest
    obtain ⟨k, hk⟩ := holds_of_latest hlatest
    apply absurd hk.buffer (hfirst k latest hk.stored)
  rw [h.accepts hwf hroom hidle hanswer, acceptRegistration]
  refine ⟨_, rfl, rfl, ?_⟩
  constructor
  · constructor
    · apply AList.lookup_insert
    · apply hwf.buffer_id h.buffer
    · apply hwf.endpoint_id h.endpoint
  · rfl
  · rfl
  · refine ⟨_, AList.lookup_insert _, rfl⟩
  · exact ⟨rfl, rfl, rfl, rfl, rfl, rfl, rfl, rfl, rfl, rfl, rfl⟩

/-- Between a suitable buffer and an endpoint that the state is equipped for, a registration in
force is a registered path. -/
theorem InForce.registeredPath {p : PlanRequestParams} {q : RegisterParams} {b : BufferRecord}
    {r : Registration} {s s' : State} {c : EndpointClass} (h : InForce q b r s s')
    (hc : c.HasDirectPath) (hsource : q.buffer = p.source ∧ p.source ≠ 0)
    (hdestination : q.endpoint = p.destination) (hequipped : Equipped c b.device p.destination s)
    (hlive : q.authority.workerOwned = true → s.workerLiveLocked q.authority = true)
    (hdomain : isGpuMemory b.domain = true) (hsize : p.size ≤ b.size)
    (halignment : 64 ≤ b.alignment ∧ b.alignment ∣ p.size) :
  RegisteredPath p r s'
  := by
  have hequipped' := hequipped.of_frame h.frame
  obtain ⟨b', hb', hfixed⟩ := h.buffer
  obtain ⟨hsize', halignment', hdomain', hdevice', -⟩ :
      b'.size = b.size ∧ b'.alignment = b.alignment ∧ b'.domain = b.domain ∧
        b'.device = b.device ∧ b'.authority = b.authority := by
    simpa [BufferRecord.fixed] using hfixed
  obtain ⟨hne, e, he, rfl, hhealthy, hsupport⟩ := hequipped'.endpoint
  obtain ⟨v, hv, havailable, hvsupport⟩ := hequipped'.provider
  obtain ⟨o, ho, hvalue, hosupport⟩ := hequipped'.capability
  constructor
  · rw [← hsource.1, ← hdestination]
    apply h.holds
  · apply h.registered
  · rw [h.authority, h.frame.live]
    apply hlive
  · use b'
    constructor
    · rw [← hsource.1]
      rw [← hsource.1] at hsource
      use hsource.2
    · rw [hsize']
      apply hsize
    · rw [hdomain']
      apply hdomain
    · rw [halignment']
      apply halignment
    · rw [hdevice']
      apply hequipped'.device
  · use e
    constructor
    · constructor
      · use hne
      · obtain hnic | hstorage | hpeer := hc
        · simp [hnic]
        · simp [hstorage]
        · simp [hpeer]
      · apply hhealthy
    · simp [hsupport]
    · use v, hv, havailable
      simp [hvsupport]
    · use o, ho, hvalue
      simp [hosupport]

/-! ### The transfer -/

section

variable {backend : SyntheticBackend} (hsound : backend.corrupt = false) (plan : TransferPlan)
  (handle : Option BackendHandle)

include hsound

/-- A synthetic backend that is not set to corrupt delivers. -/
theorem synthetic_delivers :
  BackendDelivers (some backend.toBackend) plan handle
  := by
  refine ⟨_, rfl, ?_⟩
  simp [TransferOutcome.RulesOut, hsound, transferRun]

/-- The receipt of a transfer on a synthetic backend. -/
theorem synthetic_verdict (caller : Authority) (id : TransferAttemptId) (epoch : CoordinatorEpoch) :
  (verdict (runAttempt plan handle (some backend.toBackend)
      (newAttempt plan caller id epoch))).bytes = plan.expectedBytes ∧
    (verdict (runAttempt plan handle (some backend.toBackend)
      (newAttempt plan caller id epoch))).integrityVerified = true ∧
    (verdict (runAttempt plan handle (some backend.toBackend)
      (newAttempt plan caller id epoch))).support = .synthetic
  := by
  have hcorrupt : ¬(runAttempt plan handle (some backend.toBackend)
      (newAttempt plan caller id epoch)).Corrupt := by
    rintro ⟨-, hfailed⟩
    simp [runAttempt, SyntheticBackend.toBackend, SyntheticBackend.runTransfer, hsound] at hfailed
  rw [verdict, if_neg hcorrupt]
  exact ⟨rfl, rfl, rfl⟩

end

/-- In a coordinator with a registered path, a caller that may act for the source gets a transfer
through on a synthetic backend. -/
theorem RegisteredPath.transfer {w : World} (hw : persistedFabric.Reachable w)
    {p : PlanRequestParams} {r : Registration} (h : RegisteredPath p r w.state)
    (hplans : w.state.plans.size < w.state.maxPlans)
    (hattempts : w.state.attempts.size < w.state.maxAttempts) {caller : Authority}
    (hlive : caller.workerOwned = true → w.state.workerLiveLocked caller = true)
    (howner : ∀ b, w.state.buffers.lookup p.source = some b → caller.workerOwned = true →
      b.authority.workerOwned = true → caller = b.authority)
    {backend : SyntheticBackend} (hsound : backend.corrupt = false) :
  ∃ receipt, (GpuDirectFabric.transfer p caller (some backend.toBackend) w.state).1
      = .ok receipt ∧ receipt.state = .completed ∧ receipt.bytes = p.size ∧
    receipt.integrityVerified = true ∧ receipt.support = .synthetic
  := by
  have hdeliverable : Deliverable p caller (some backend.toBackend) w.state := by
    constructor
    · constructor
      · apply hplans
      · obtain ⟨b, hb⟩ := h.source
        use b, hb.stored.2
      · left
        apply (directConditions_iff_registeredPath hw).mpr ⟨r, h⟩
    · apply hattempts
    · apply hlive
    · apply howner
    · intro plan src _ _
      apply synthetic_delivers hsound
  obtain ⟨plan, src, a, s, -, hstores, hbegun, hreceipt, hcompleted⟩ :=
    Deliverable.transfer hw hdeliverable
  obtain ⟨hbytes, hverified, hsupport⟩ := synthetic_verdict hsound plan src.handle caller
    ((planTransfer p w.state).2.nextId + 1) (planTransfer p w.state).2.epoch
  rw [← hbegun.run] at hbytes hverified hsupport
  use verdict a, hreceipt, hcompleted, hbytes.trans hstores.size, hverified

/-! ### The run -/

section

variable {w : World} {bp : CreateBufferParams} {c : EndpointClass} {p : PlanRequestParams}

/-- In a coordinator equipped for the class, a buffer can be made and registered for the endpoint,
which opens a path between them. -/
theorem registers_path (hw : persistedFabric.Reachable w) {endpoint : EndpointId}
    (hequipped : Equipped c bp.device endpoint w.state)
    (hbuffers : w.state.buffers.size < w.state.maxBuffers)
    (hregistrations : w.state.registrations.size < w.state.maxRegistrations)
    (hrequest : SmokeRequest bp c p w.state) (rp : RegisterParams) (backend : Option Backend)
    {rr : RegisterResult} (hanswer : ∀ q b e, backendRegister q backend b e = .ok rr) :
  ∃ b r v, (createBuffer bp w.state).1 = .ok b ∧
    (registerBuffer { rp with buffer := b.id, endpoint := endpoint, authority := bp.authority }
      backend (createBuffer bp w.state).2).1 = .ok r ∧ r.support = rr.support ∧
    v.state = (registerBuffer
      { rp with buffer := b.id, endpoint := endpoint, authority := bp.authority }
      backend (createBuffer bp w.state).2).2 ∧
    persistedFabric.Reachable v ∧ EquipmentFrame w.state v.state ∧
    (∃ b', v.state.buffers.lookup b.id = some b' ∧ b'.authority = bp.authority) ∧
    RegisteredPath { p with source := b.id, destination := endpoint } r v.state
  := by
  have hne : bp.alignment ≠ 0 := by
    have hle := hrequest.alignment.1
    omega
  obtain ⟨b, hb⟩ : ∃ b, b = newBuffer bp (w.state.nextId + 1) (w.state.freshness + 1) := ⟨_, rfl⟩
  obtain ⟨u, hu⟩ : ∃ u, u = w.next (.createBuffer bp) := ⟨_, rfl⟩
  have hreachable : persistedFabric.Reachable u := by
    rw [hu]
    apply reachable_next (e := .createBuffer bp) hw trivial
  have hmade := createBuffer_eq hne hbuffers hrequest.live
  have hstate : u.state = (createBuffer bp w.state).2 := by rw [hu, World.next_state, apply]
  rw [← hb] at hmade
  have hframe : EquipmentFrame w.state u.state := by
    rw [hstate, hmade]
    exact ⟨rfl, rfl, rfl, rfl, rfl, rfl, rfl, rfl, rfl, rfl, rfl⟩
  have hid : b.id = w.state.nextId + 1 := by rw [hb, newBuffer]
  have hlookup : u.state.buffers.lookup b.id = some b := by
    rw [hstate, hmade, hid]
    apply AList.lookup_insert
  have hequipped' := hequipped.of_frame hframe
  obtain ⟨-, e, he, -, -, hsupport⟩ := hequipped'.endpoint
  have hallowed : RegisterAllowed
      { rp with buffer := b.id, endpoint := endpoint, authority := bp.authority } b e u.state := by
    constructor
    · apply hlookup
    · rw [hb, newBuffer]
    · apply he
    · simp [hsupport]
    · rw [hframe.epoch]
      apply hrequest.epoch
    · rw [hframe.live]
      apply hrequest.live
    · intro _
      rw [hb, newBuffer]
  have hfirst : ∀ k r, u.state.registrations.lookup k = some r → r.buffer ≠ b.id := by
    intro k r hr
    rw [hid]
    apply unregistered_of_fresh hw (k := k)
    rw [hstate, hmade] at hr
    apply hr
  have hregistrations' : u.state.registrations.size < u.state.maxRegistrations := by
    rw [hframe.limits.1, hstate, hmade]
    apply hregistrations
  obtain ⟨r, hr, hrsupport, hforce⟩ := registers_first hallowed (wellFormed_of_reachable hreachable)
    hregistrations' hfirst (hanswer _ _ _)
  rw [← hstate, hmade]
  refine ⟨b, r, u.next (.registerBuffer _ backend), rfl, hr, hrsupport, rfl, ?_, ?_, ?_, ?_⟩
  · apply reachable_next (e := .registerBuffer _ backend) hreachable trivial
  · apply hframe.trans hforce.frame
  · obtain ⟨b', hb', hfixed⟩ := hforce.buffer
    use b', hb'
    obtain ⟨-, -, -, -, hauthority⟩ :
        b'.size = b.size ∧ b'.alignment = b.alignment ∧ b'.domain = b.domain ∧
          b'.device = b.device ∧ b'.authority = b.authority := by
      simpa [BufferRecord.fixed] using hfixed
    rw [hauthority, hb, newBuffer]
  · apply hforce.registeredPath hrequest.endpointClass
    · use rfl
      change b.id ≠ 0
      rw [hid]
      apply Nat.succ_ne_zero
    · rfl
    · rw [hb]
      apply hequipped'
    · rw [hframe.live]
      apply hrequest.live
    · rw [hb]
      apply hrequest.domain
    · rw [hb]
      apply hrequest.size
    · rw [hb]
      apply hrequest.alignment

/-- The run of the smoke test goes through on every reachable state with room, for every size that
the buffer holds and its alignment divides: the path is direct but degraded, and the transfer is
completed, all of it and verified, as a synthetic one. -/
theorem smoke_completes (hw : persistedFabric.Reachable w) (hroom : SmokeRoom w.state)
    (hrequest : SmokeRequest bp c p w.state) {backend : SyntheticBackend}
    (hsound : backend.corrupt = false) (rp : RegisterParams) :
  ∃ d r, (smoke backend bp rp c p w.state).1 = .ok (d, r) ∧
    d.eligibility = .directAllowedDegraded ∧ d.support = .synthetic ∧
    r.state = .completed ∧ r.bytes = p.size ∧ r.integrityVerified = true ∧ r.support = .synthetic
  := by
  have hseeded := seeded_of_room hw backend hroom.endpoints
  have hreachable : persistedFabric.Reachable (w.replay (seedCalls backend w.state.epoch)) :=
    reachable_seeds hw (seeds_seedCalls backend w.state.epoch)
  have hstate := seedSynthetic_state backend w
  generalize hseeding : seedSynthetic backend w.state = seeding at hseeded hstate
  generalize w.replay (seedCalls backend w.state.epoch) = u at hreachable hstate
  have hframe := hseeded.frame
  rw [hstate] at hframe
  obtain ⟨hmaxBuffers, hmaxRegistrations, -, hmaxPlans, hmaxAttempts⟩ := hframe.limits
  have hrequest' : SmokeRequest { bp with device := seeding.1.device } c p u.state := by
    constructor
    · apply hrequest.endpointClass
    · rw [hframe.epoch]
      apply hrequest.epoch
    · rw [State.workerLiveLocked, hframe.epoch, hframe.workers, ← State.workerLiveLocked]
      apply hrequest.live
    · apply hrequest.domain
    · apply hrequest.size
    · apply hrequest.alignment
  have hequipped : Equipped c seeding.1.device (seeding.1.endpoint c) u.state := by
    rw [← hstate]
    constructor
    · apply hseeded.device
    · apply hseeded.endpoint c hrequest.endpointClass
    · apply hseeded.provider c hrequest.endpointClass
    · apply hseeded.capability c hrequest.endpointClass
  have hbuffers : u.state.buffers.size < u.state.maxBuffers := by
    rw [hframe.buffers, hmaxBuffers]
    apply hroom.buffers
  have hregistrations : u.state.registrations.size < u.state.maxRegistrations := by
    rw [hframe.registrations, hmaxRegistrations]
    apply hroom.registrations
  obtain ⟨b, r, v, hb, hr, hsupport, hv, hreachable', hframe', ⟨b', hb', howner⟩, hpath⟩ :=
    registers_path hreachable hequipped hbuffers hregistrations hrequest' rp
      (some backend.toBackend) (fun _ _ _ => rfl)
  obtain ⟨-, hplans, hmaxPlans', hattempts, hmaxAttempts'⟩ := hframe'.limits
  have hroomPlans : v.state.plans.size < v.state.maxPlans := by
    rw [hplans, hmaxPlans', hframe.plans, hmaxPlans]
    apply hroom.plans
  have hroomAttempts : v.state.attempts.size < v.state.maxAttempts := by
    rw [hattempts, hmaxAttempts', hframe.attempts, hmaxAttempts]
    apply hroom.attempts
  have hlive : bp.authority.workerOwned = true → v.state.workerLiveLocked bp.authority = true := by
    rw [hframe'.live]
    apply hrequest'.live
  have hsound' : ({ backend with nextRegId := backend.nextRegId + 1 } : SyntheticBackend).corrupt
      = false := hsound
  obtain ⟨receipt, hreceipt, houtcome⟩ := hpath.transfer hreachable' hroomPlans hroomAttempts hlive
    (fun b₀ hb₀ _ _ => by
      obtain rfl := Option.some.inj (hb'.symm.trans hb₀)
      apply howner.symm) hsound'
  obtain ⟨hdecision, heligibility⟩ := hpath.decision hreachable'
  rw [hsupport] at hdecision heligibility
  refine ⟨_, receipt, ?_, heligibility, hdecision, houtcome⟩
  rw [smoke, hseeding]
  dsimp only
  rw [hstate]
  apply andThen_eq_ok_iff.mpr ⟨b, hb, ?_⟩
  apply andThen_eq_ok_iff.mpr ⟨r, hr, ?_⟩
  rw [hv] at hreceipt
  rw [hv]
  apply andThen_eq_ok_iff.mpr ⟨receipt, hreceipt, rfl⟩

end

namespace Fixture

/-- The buffer of the test, owned by the coordinator. -/
def smokeBuffer : CreateBufferParams :=
  { domain := .cudaDevice
    size := 1024 * 1024
    support := .synthetic
    authority := { epoch := 1 }
    name := "gpu_src" }

def smokeRequest : PlanRequestParams := { size := 1024 * 1024 }

theorem smokeRoom_new :
  SmokeRoom (Coordinator 1)
  := by
  constructor
  · decide
  · decide
  · decide
  · decide
  · decide

theorem smokeRequest_new :
  SmokeRequest smokeBuffer .nic smokeRequest (Coordinator 1)
  := by
  constructor
  · left
    rfl
  · rfl
  · decide
  · rfl
  · decide
  · decide

end Fixture

/-- The run of the test itself, in a new coordinator. -/
theorem smoke_completes_new :
  ∃ d r, (smoke {} Fixture.smokeBuffer { support := .synthetic } .nic Fixture.smokeRequest
      (Coordinator 1)).1 = .ok (d, r) ∧
    d.eligibility = .directAllowedDegraded ∧ d.support = .synthetic ∧
    r.state = .completed ∧ r.bytes = 1024 * 1024 ∧ r.integrityVerified = true ∧
    r.support = .synthetic
  := by
  apply smoke_completes (w := { state := Coordinator 1 }) (reachable_new _ 1)
  · apply Fixture.smokeRoom_new
  · apply Fixture.smokeRequest_new
  · rfl

end GpuDirectFabric
