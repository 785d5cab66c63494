import GpuDirectFabric.Stages
import GpuDirectFabric.Finality

/-!
# The backends that exist

Of the backends only the synthetic one registers anything or moves any data.  Those for a provider
that is missing refuse every call, and so does the one for CUDA, which has no direct path to offer.
Where they are the only ones, nothing is registered, no path is direct and no transfer is completed.
-/

namespace GpuDirectFabric

open Coordinator Persistence PathPlanner

/-! ### Backends that refuse -/

/-- `UnsupportedBackend`, for a provider that is not there. -/
structure UnsupportedBackend where
  name : Str
  providerName : Str
  provenance : Provenance

namespace UnsupportedBackend

/-- The one observation it reports: that its capability is absent. -/
def capabilities (b : UnsupportedBackend) : List CapabilityObservation :=
  [{ provider := b.providerName
     capability := b.name
     value := "false"
     support := .unsupported
     provenance := b.provenance
     freshness := 0 }]

/-- The one provider it reports, which is not available. -/
def providers (b : UnsupportedBackend) : List ProviderInfo :=
  [{ id := 1
     name := b.providerName
     available := false
     support := .unsupported
     provenance := b.provenance }]

/-- Nothing is ever registered. -/
def registerBuffer (_spec : RegistrationSpec) (_b : UnsupportedBackend) : Result RegisterResult :=
  err .unsupported "provider is not available on this platform"

/-- Nothing is ever transferred. -/
def runTransfer (_run : TransferRun) (_b : UnsupportedBackend) : Result TransferOutcome :=
  err .unsupported "provider is not available on this platform"

def toBackend (b : UnsupportedBackend) : Backend where
  registerBuffer spec := b.registerBuffer spec
  runTransfer run := b.runTransfer run

end UnsupportedBackend

def makeRdmaBackend : UnsupportedBackend := ⟨"rdma", "rdma", .rdmaProvider⟩

def makeStorageBackend : UnsupportedBackend := ⟨"storage", "storage", .storageBackend⟩

def makeNoopBackend : UnsupportedBackend := ⟨"unsupported", "unknown", .derived⟩

/-- What the CUDA runtime says of its devices: their number, unless the call fails, and the name and
the compute capability of each, unless that call fails. -/
structure CudaRuntime where
  count : Option ℤ
  props : ℕ → Option (Str × ℕ × ℕ)

/-- `CudaBackend`. -/
structure CudaBackend where
  devices : List DeviceRecord := []
  providers : List ProviderInfo := []
  deviceCount : ℕ := 0
  discovered : Bool := false

namespace CudaBackend

/-- The record of the device at an index. -/
def discoveredDevice (runtime : CudaRuntime) (i : ℕ) : DeviceRecord :=
  { id := i + 1
    generation := 1
    name := match runtime.props i with
      | some (name, _, _) => name
      | none => "cuda-device-" ++ Nat.repr i
    computeCapability := match runtime.props i with
      | some (_, major, minor) => Nat.repr major ++ "." ++ Nat.repr minor
      | none => "unknown"
    peerMemorySupported := false
    support := .real
    provenance := .cudaRuntime
    freshness := 0 }

/-- Ask the runtime for its devices.  A failure forgets the devices found before, but not that there
was a discovery. -/
def discover (runtime : CudaRuntime) (b : CudaBackend) : CudaBackend :=
  let count := runtime.count.getD 0
  if count ≤ 0 then { b with devices := [], providers := [], deviceCount := 0 }
  else
    { devices := (List.range count.toNat).map (discoveredDevice runtime)
      providers :=
        [{ id := 1
           name := "cuda"
           available := true
           support := .real
           provenance := .cudaRuntime }]
      deviceCount := count.toNat
      discovered := true }

/-- Devices were found. -/
def available (b : CudaBackend) : Bool := b.discovered && b.deviceCount > 0

def support (b : CudaBackend) : Support :=
  if b.discovered && b.deviceCount > 0 then .real else .unsupported

/-- What it reports of the runtime it has found; peer memory is reported as absent. -/
def capabilities (b : CudaBackend) : List CapabilityObservation :=
  let add (capability value : Str) (provenance : Provenance) : CapabilityObservation :=
    { provider := "cuda"
      capability := capability
      value := value
      support := .real
      provenance := provenance
      freshness := 0 }
  [add "device_present" (if b.discovered && b.deviceCount > 0 then "true" else "false")
      .cudaRuntime,
    add "registered_gpu_memory" "true" .cudaDriver,
    add "host_pinned" "true" .cudaRuntime,
    add "peer_memory" "false" .cudaRuntime]

/-- Registrations are refused, whether a device was found or not. -/
def registerBuffer (_spec : RegistrationSpec) (_b : CudaBackend) : Result RegisterResult :=
  err .unsupported "CUDA backend does not expose a real direct registration path"

/-- So are transfers. -/
def runTransfer (_run : TransferRun) (_b : CudaBackend) : Result TransferOutcome :=
  err .unsupported "no real GPUDirect path is available to execute"

def toBackend (b : CudaBackend) : Backend where
  registerBuffer spec := b.registerBuffer spec
  runTransfer run := b.runTransfer run

end CudaBackend

/-- What the backend says of itself agrees with the devices and the provider it lists. -/
structure CudaBackend.Consistent (b : CudaBackend) : Prop where
  devices : b.devices.map DeviceRecord.id = (List.range b.deviceCount).map Nat.succ
  providers : b.providers ≠ [] ↔ b.deviceCount ≠ 0
  discovered : b.deviceCount ≠ 0 → b.discovered = true

namespace CudaBackend

/-- Discovery leaves a backend that agrees with itself. -/
theorem consistent_discover (b : CudaBackend) (runtime : CudaRuntime) :
  (b.discover runtime).Consistent
  := by
  rw [CudaBackend.discover]
  split
  next =>
    constructor
    · rfl
    · simp
    · intro hcount
      exact absurd rfl hcount
  next hcount =>
    constructor
    · dsimp only
      rw [List.map_map]
      rfl
    · dsimp only
      constructor
      · intro
        omega
      · intro
        apply List.cons_ne_nil
    · intro
      rfl

/-- The backend is available, and its support real, exactly while it lists devices. -/
theorem Consistent.available_iff {b : CudaBackend} (h : b.Consistent) :
  (b.available = true ↔ b.devices ≠ []) ∧ (b.support = .real ↔ b.available = true)
  := by
  have hdevices : b.devices ≠ [] ↔ b.deviceCount ≠ 0 := by
    have hlength := congrArg List.length h.devices
    rw [List.length_map, List.length_map, List.length_range] at hlength
    rw [← hlength]
    simp
  constructor
  · rw [hdevices, available, Bool.and_eq_true, decide_eq_true_eq, gt_iff_lt, Nat.pos_iff_ne_zero]
    exact and_iff_right_of_imp h.discovered
  · rw [support, available]
    split
    next hboth => simp [hboth]
    next hboth => simpa using hboth

/-- Whatever the runtime said each time, after any discoveries the backend is consistent. -/
theorem consistent_of_discoveries (runtimes : List CudaRuntime) :
  (runtimes.foldl (fun b runtime => b.discover runtime) ({} : CudaBackend)).Consistent
  := by
  obtain rfl | ⟨before, runtime, rfl⟩ := List.eq_nil_or_concat runtimes
  · exact ⟨rfl, by simp, fun h => absurd rfl h⟩
  · rw [List.concat_eq_append, List.foldl_append]
    apply consistent_discover

end CudaBackend

/-! ### A platform without the synthetic backend -/

/-- The backend refuses every call. -/
structure Backend.Refuses (be : Backend) : Prop where
  registerBuffer : ∀ spec, ∃ e, be.registerBuffer spec = .error e
  runTransfer : ∀ run, ∃ e, be.runTransfer run = .error e

theorem UnsupportedBackend.refuses (b : UnsupportedBackend) :
  b.toBackend.Refuses
  := ⟨fun _ => ⟨_, rfl⟩, fun _ => ⟨_, rfl⟩⟩

theorem CudaBackend.refuses (b : CudaBackend) :
  b.toBackend.Refuses
  := ⟨fun _ => ⟨_, rfl⟩, fun _ => ⟨_, rfl⟩⟩

/-- A call that may be given a backend is given one, and one that refuses. -/
def Event.Refused : Event → Prop
  | .registerBuffer _ backend => ∃ be, backend = some be ∧ be.Refuses
  | .beginTransfer _ _ backend => ∃ be, backend = some be ∧ be.Refuses
  | _ => True

/-- Coordinators whose backends all refuse. -/
def refusingFabric : System World Event := persistedFabric.restrict fun _ e => e.Refused

/-- An attempt or a receipt in this state was not completed, and will not be. -/
def TransferState.Ended (state : TransferState) : Prop := state = .failed ∨ state = .cancelled

/-- Nothing is registered, planned as direct or transferred. -/
structure State.Unserved (s : State) : Prop where
  registrations : s.registrations.All fun _ _ => False
  plans : s.plans.All fun _ p => p.eligibility.isDirect = false
  attempts : s.attempts.All fun _ a => a.state.Ended
  receipts : s.receipts.All fun _ r => r.state.Ended

namespace State.Unserved

variable {e : Event} {s s' : State}

theorem start (epoch : CoordinatorEpoch) :
  (Coordinator epoch).Unserved
  := ⟨.empty, .empty, .empty, .empty⟩

/-- An accepted registration has an answer, which a backend that refuses does not give. -/
theorem not_accepted {p : RegisterParams} {backend : Option Backend} {b : BufferRecord}
    {e : EndpointRecord} {rr : RegisterResult}
    (hrefused : Event.Refused (.registerBuffer p backend)) :
  ¬Accepted p backend b e rr s
  := by
  intro haccepted
  obtain ⟨be, rfl, hrefuses⟩ := hrefused
  obtain ⟨error, herror⟩ := hrefuses.registerBuffer (registrationSpec b e p.authority)
  have hanswer := haccepted.answer
  simp only [backendRegister, herror] at hanswer
  cases hanswer

theorem effect_registrations (h : s.Unserved) (he : Effect e s s') (hrefused : e.Refused)
    (hrecover : ∀ file, e ≠ .recover file) :
  s'.registrations.All fun _ _ => False
  := by
  cases he with
  | markWorkerDead | advanceEpoch | advanceBufferGeneration | retireBuffer
  | advanceEndpointGeneration | retireDeregistering =>
      exact h.registrations.mapVals fun _ _ hr => hr
  | registerBuffer haccepted => exact absurd haccepted (not_accepted hrefused)
  | retire hreg | deregisterBuffer hreg | deregisterCached hreg =>
      exact (h.registrations _ _ hreg).elim
  | rehash hs =>
      intro k r hr
      rw [hs.registrations.lookup] at hr
      exact h.registrations k r hr
  | recover => exact absurd rfl (hrecover _)
  | _ => exact h.registrations

theorem effect_plans (h : s.Unserved) (he : Effect e s s') (hrecover : ∀ file, e ≠ .recover file) :
  s'.plans.All fun _ p => p.eligibility.isDirect = false
  := by
  have hsuperseded : ∀ {p : TransferPlan} (q : TransferPlan → Bool),
      p.eligibility.isDirect = false → (State.supersedeIf q p).eligibility.isDirect = false := by
    intro p q hp
    rw [State.supersedeIf]
    split
    · exact hp
    · exact hp
  cases he with
  | advanceEpoch | advanceBufferGeneration | retireBuffer | advanceEndpointGeneration =>
      exact h.plans.mapVals fun _ _ hp => hsuperseded _ hp
  | registerBuffer haccepted hretired =>
      obtain ⟨_, rfl⟩ := hretired.frame
      exact h.plans
  | planDirect hdirect hsrc hsrcGeneration hdst hdstGeneration hreg =>
      obtain ⟨k, hk⟩ := Table.mem_values.mp (latest_mem hreg).1
      exact (h.registrations k _ hk).elim
  | @planFallback _ _ d _ _ hfallback =>
      have hstaged : d.eligibility.isDirect = false := by
        rw [hfallback]
        rfl
      exact h.plans.insert hstaged
  | rehash hs => exact hs.plans.all h.plans
  | recover => exact absurd rfl (hrecover _)
  | _ => exact h.plans

/-- The attempt of a backend that refuses has failed. -/
theorem runAttempt_refused {be : Backend} (hrefuses : be.Refuses) (plan : TransferPlan)
    (handle : Option BackendHandle) (a : TransferAttempt) :
  (runAttempt plan handle (some be) a).state = .failed
  := by
  rw [runAttempt]
  dsimp only
  obtain ⟨error, herror⟩ := hrefuses.runTransfer
    { plan := plan
      acceleratorBuffer := plan.source
      expectedBytes := plan.expectedBytes
      acceleratorHandle := handle }
  rw [herror]

theorem effect_transfers (h : s.Unserved) (hwf : WellFormed s) (he : Effect e s (apply e s))
    (hrefused : e.Refused) (hrecover : ∀ file, e ≠ .recover file) :
  ((apply e s).attempts.All fun _ a => a.state.Ended) ∧
    (apply e s).receipts.All fun _ r => r.state.Ended
  := by
  by_cases hbegin : ∃ planId authority backend, e = .beginTransfer planId authority backend
  · obtain ⟨planId, authority, backend, rfl⟩ := hbegin
    obtain ⟨be, rfl, hrefuses⟩ := hrefused
    have houtcome := beginTransfer_outcome planId authority (some be) s
    rw [apply]
    generalize beginTransfer planId authority (some be) s = call at houtcome
    cases houtcome with
    | refused => exact ⟨h.attempts, h.receipts⟩
    | begun =>
        refine ⟨?_, h.receipts⟩
        apply h.attempts.insert
        exact .inl (runAttempt_refused hrefuses _ _ _)
  · have hmove := he.move hrecover
    have hattempt := fun k a => he.attempt hrecover (k := k) (a := a)
    generalize apply e s = s' at hmove hattempt
    cases hmove with
    | rest hattempts hreceipts =>
        constructor
        · intro k a ha
          rw [hattempts] at ha
          exact h.attempts k a ha
        · intro k r hr
          rw [hreceipts] at hr
          exact h.receipts k r hr
    | @begun _ _ _ id a hid hopen hstate hattempts hreceipts =>
        have ha : s'.attempts.lookup id = some a := by
          rw [hattempts]
          exact AList.lookup_insert _
        obtain ⟨a', ha', -⟩ | ⟨planId, authority, backend, rfl, -⟩ := hattempt id a ha
        · exact absurd (hwf.attempts id a' ha').2.1 (not_le.mpr hid)
        · exact absurd ⟨planId, authority, backend, rfl⟩ hbegin
    | completed hattempt hopen hcancelled hfailed =>
        obtain hended | hended := h.attempts _ _ hattempt
        · exact absurd hended hfailed
        · exact absurd hended hcancelled
    | reported hattempt hfailed hnone hr hattempts hreceipts =>
        rw [hattempts, hreceipts]
        exact ⟨h.attempts, h.receipts.insert (.inl hr)⟩
    | cancelled hattempt hopen hcaller hattempts hreceipts =>
        rw [hattempts, hreceipts]
        exact ⟨h.attempts.insert (.inr rfl), h.receipts.insert (.inr rfl)⟩

theorem effect (h : s.Unserved) (hwf : WellFormed s) (he : Effect e s (apply e s))
    (hrefused : e.Refused) (hrecover : ∀ file, e ≠ .recover file) :
  (apply e s).Unserved
  := by
  obtain ⟨hattempts, hreceipts⟩ := h.effect_transfers hwf he hrefused hrecover
  exact ⟨h.effect_registrations he hrefused hrecover, h.effect_plans he hrecover, hattempts,
    hreceipts⟩

theorem recovered {d : State} (h : d.Unserved) (hs : RecoveredFrom d s) :
  s.Unserved
  where
  registrations := by
    intro k r hr
    obtain ⟨r', hmem, -⟩ := hs.registrations k r hr
    obtain ⟨_, hfalse⟩ := h.registrations.of_mem_values hmem
    exact hfalse
  plans := by
    intro k p hp
    obtain ⟨p', hmem, -, rfl⟩ := hs.plans k p hp
    obtain ⟨_, hstaged⟩ := h.plans.of_mem_values hmem
    exact hstaged
  attempts := by
    rw [hs.attempts]
    exact .empty
  receipts := by
    rw [hs.receipts]
    exact .empty

/-- Where nothing is registered no path is direct. -/
theorem not_direct (h : s.Unserved) (p : PlanRequestParams) :
  (evaluatePath p s).eligibility.isDirect = false
  := by
  rw [← Bool.not_eq_true]
  intro hdirect
  obtain ⟨r, ⟨-, before, after, hregistrations, -⟩, -⟩ :=
    ((directRequirements_iff _ _).mp ((evaluate_isDirect _ _).mp hdirect)).registration
  have hmem : r ∈ s.registrations.values := by
    change s.registrations.values = _ at hregistrations
    rw [hregistrations]
    exact List.mem_append_right _ List.mem_cons_self
  obtain ⟨_, hfalse⟩ := h.registrations.of_mem_values hmem
  exact hfalse

end State.Unserved

/-- Where all backends refuse, no state that is reached, over restarts too, has a registration, a
direct path, a direct plan, or an attempt or receipt that has not failed or been cancelled. -/
theorem refusing_unserved {w : World} (h : refusingFabric.Reachable w) :
  w.state.Unserved ∧ ∀ p, (evaluatePath p w.state).eligibility.isDirect = false
  := by
  have hunserved : w.state.Unserved := by
    apply h.induction
    · rintro w ⟨epoch, rfl⟩
      exact .start epoch
    · rintro w e w' hreach hw ⟨hrefused, hallowed, rfl⟩
      have hrecover : ∀ file, e ≠ .recover file := by
        rintro file rfl
        exact absurd hallowed.1 (by decide)
      exact hw.effect (wellFormed_of_reachable hreach.of_restrict) hallowed.effect hrefused hrecover
    · rintro d w e w' - hd - hw ⟨hfits, -, rfl, rfl⟩
      rw [World.next_state, Coordinator.apply]
      obtain hsame | hrecovered := recoverFromFile_persisted hfits w.state
      · rw [hsame]
        exact hw
      · exact hd.recovered hrecovered
  exact ⟨hunserved, hunserved.not_direct⟩

theorem refusing_next {w : World} {e : Event} (h : refusingFabric.Reachable w)
    (hallowed : e.Allowed ⟨false, true⟩ w) (hrefused : e.Refused) :
  refusingFabric.Reachable (w.next e)
  := by
  obtain ⟨_, hrun⟩ := h
  exact ⟨_, hrun.step ⟨hrefused, hallowed, rfl⟩⟩

theorem refusing_replay {w : World} {es : List Event} (h : refusingFabric.Reachable w)
    (hes : es.all Event.isCall = true) (hrefused : ∀ e ∈ es, e.Refused) :
  refusingFabric.Reachable (w.replay es)
  := by
  induction es generalizing w with
  | nil => exact h
  | cons e es ih =>
      rw [List.all_cons, Bool.and_eq_true] at hes
      rw [List.forall_mem_cons] at hrefused
      exact ih (refusing_next h (Event.allowed_of_isCall hes.1) hrefused.1) hes.2 hrefused.2

namespace Fixture

/-- The calls of the fixture, with the registration asked of a provider that is missing. -/
def refusedCalls : List Event :=
  calls.dropLast ++
    [.registerBuffer { buffer := 6, endpoint := 4, authority := owner, support := .real }
        (some makeRdmaBackend.toBackend),
      .publishCapability
        { provider := "host"
          capability := "host_staging"
          value := "true"
          support := .synthetic
          authority := { epoch := 1 } }]

/-- The transfer is staged, and begun on the backend for CUDA. -/
def unserved : World :=
  ((({ state := Coordinator 1 } : World).replay refusedCalls).plan request).replay
    [.beginTransfer 8 owner (some ({} : CudaBackend).toBackend), .completeTransfer 11 owner]

theorem reachable_unserved :
  refusingFabric.Reachable unserved
  := by
  have hcalls : refusingFabric.Reachable
      (({ state := Coordinator 1 } : World).replay refusedCalls) := by
    apply refusing_replay
    · exact ⟨[], .start ⟨1, rfl⟩⟩
    · rfl
    · have hrefuses := makeRdmaBackend.refuses
      simp [refusedCalls, calls, Event.Refused, hrefuses]
  apply refusing_replay
  · apply refusing_next
    · exact refusing_next hcalls trivial trivial
    · exact List.mem_cons_self
    · trivial
  · rfl
  · have hrefuses := ({} : CudaBackend).refuses
    simp [Event.Refused, hrefuses]

example : (unserved.state.receipts.lookup 11).map TransferReceipt.state = some .failed := by
  decide +kernel

end Fixture

theorem refusing_unserved_fixture :
  Fixture.unserved.state.Unserved ∧
    ∀ p, (evaluatePath p Fixture.unserved.state).eligibility.isDirect = false
  := refusing_unserved Fixture.reachable_unserved

end GpuDirectFabric
