import GpuDirectFabric.Library.Transition
import GpuDirectFabric.Lifecycle
import GpuDirectFabric.Persistence

/-!
# The system

A world is the state of a coordinator together with the path decisions that calls of
`plan_transfer` have computed from their unlocked snapshots and not committed yet.  An event
is a call of an operation, with everything a caller or a backend may choose, one of the two
halves of `plan_transfer`, or the recovery of a state file.  Since the order of traversal of a
hash map may change at any time, so may the state, to a rearrangement of itself.
-/

namespace GpuDirectFabric

open Coordinator

/-- What can happen to a coordinator. -/
inductive Event where
  | setLimits (maxBuffers maxRegistrations maxEndpoints maxPlans maxAttempts : ℕ)
  | registerWorker (worker : WorkerId) (boot : WorkerBootId) (epoch : CoordinatorEpoch)
  | markWorkerDead (worker : WorkerId)
  | advanceEpoch
  | createBuffer (p : CreateBufferParams)
  | advanceBufferGeneration (id : BufferId) (authority : Authority)
  | retireBuffer (id : BufferId) (authority : Authority)
  | addDevice (p : DeviceAddParams)
  | addEndpoint (p : EndpointAddParams)
  | advanceEndpointGeneration (id : EndpointId) (authority : Authority)
  | setEndpointHealth (id : EndpointId) (healthy : Bool) (authority : Authority)
  | addNic (rec : NicRecord)
  | addStorageEndpoint (rec : StorageEndpointRecord)
  | addProvider (p : ProviderAddParams)
  | publishCapability (p : CapabilityPublishParams)
  | revokeCapability (provider capability : Str) (authority : Authority)
  | registerBuffer (p : RegisterParams) (backend : Option Backend)
  | deregisterBuffer (id : RegistrationId) (authority : Authority)
  | planSnapshot (p : PlanRequestParams)
  | planCommit (p : PlanRequestParams) (d : PathDecision)
  | beginTransfer (planId : TransferPlanId) (authority : Authority) (backend : Option Backend)
  | completeTransfer (attemptId : TransferAttemptId) (authority : Authority)
  | cancelTransfer (attemptId : TransferAttemptId) (authority : Authority)
  | verifyTransfer (attemptId : TransferAttemptId) (passed : Bool) (bytesChecked : ℕ)
  | rehash (s : State)
  | recover (file : Bytes)

/-- The state after an event. -/
def Coordinator.apply : Event → State → State
  | .setLimits b r e p a, s => setLimits b r e p a s
  | .registerWorker worker boot epoch, s => (registerWorker worker boot epoch s).2
  | .markWorkerDead worker, s => (markWorkerDead worker s).2
  | .advanceEpoch, s => (advanceEpoch s).2
  | .createBuffer p, s => (createBuffer p s).2
  | .advanceBufferGeneration id authority, s => (advanceBufferGeneration id authority s).2
  | .retireBuffer id authority, s => (retireBuffer id authority s).2
  | .addDevice p, s => (addDevice p s).2
  | .addEndpoint p, s => (addEndpoint p s).2
  | .advanceEndpointGeneration id authority, s => (advanceEndpointGeneration id authority s).2
  | .setEndpointHealth id healthy authority, s => (setEndpointHealth id healthy authority s).2
  | .addNic rec, s => (addNic rec s).2
  | .addStorageEndpoint rec, s => (addStorageEndpoint rec s).2
  | .addProvider p, s => (addProvider p s).2
  | .publishCapability p, s => (publishCapability p s).2
  | .revokeCapability provider capability authority, s =>
    (revokeCapability provider capability authority s).2
  | .registerBuffer p backend, s => (registerBuffer p backend s).2
  | .deregisterBuffer id authority, s => (deregisterBuffer id authority s).2
  | .planSnapshot _, s => s
  | .planCommit p d, s => (planTransferCommit p d s).2
  | .beginTransfer planId authority backend, s => (beginTransfer planId authority backend s).2
  | .completeTransfer attemptId authority, s => (completeTransfer attemptId authority s).2
  | .cancelTransfer attemptId authority, s => (cancelTransfer attemptId authority s).2
  | .verifyTransfer attemptId passed bytesChecked, s =>
    (verifyTransfer attemptId passed bytesChecked s).2
  | .rehash s', _ => s'
  | .recover file, s => (recoverFromFile file s).2

/-- A coordinator, and the decisions `plan_transfer` has still to commit. -/
structure World where
  state : State
  pending : List (PlanRequestParams × PathDecision) := []

/-- The world after an event. -/
def World.next (w : World) (e : Event) : World where
  state := apply e w.state
  pending := match e with
    | .planSnapshot p => (p, evaluatePath p w.state) :: w.pending
    | .planCommit p d => w.pending.erase (p, d)
    | _ => w.pending

theorem World.next_state (w : World) (e : Event) :
  (w.next e).state = apply e w.state
  := rfl

/-- Which recoveries a system allows: of any file at all, and of a file while a call of
`plan_transfer` is between its snapshot and its commit. -/
structure Setting where
  anyFile : Bool
  midPlan : Bool

/-- A file may be recovered now. -/
def Setting.MayRecover (setting : Setting) (w : World) : Prop :=
  setting.midPlan = true ∨ w.pending = []

/-- The event may happen: a commit has its snapshot before it, a state changes by itself only
to a rearrangement, and a recovery is one of those the setting allows. -/
def Event.Allowed (setting : Setting) (w : World) : Event → Prop
  | .planCommit p d => (p, d) ∈ w.pending
  | .rehash s => w.state.Rearranged s
  | .recover _ => setting.anyFile = true ∧ setting.MayRecover w
  | _ => True

/-- The records of the state have numbers and strings of the widths of their fields, as they
have in the program, so that a file can hold them. -/
@[mk_iff]
structure State.Fits (s : State) : Prop where
  epoch : s.epoch < 2 ^ 64
  nextId : s.nextId < 2 ^ 64
  freshness : s.freshness < 2 ^ 64
  buffers : s.buffers.size < 2 ^ 32 ∧ ∀ b ∈ s.buffers.values, Persistence.FitsBuffer b
  devices : s.devices.size < 2 ^ 32 ∧ ∀ d ∈ s.devices.values, Persistence.FitsDevice d
  endpoints : s.endpoints.size < 2 ^ 32 ∧ ∀ e ∈ s.endpoints.values, Persistence.FitsEndpoint e
  nics : s.nics.size < 2 ^ 32 ∧ ∀ n ∈ s.nics.values, Persistence.FitsNic n
  storage : s.storage.size < 2 ^ 32 ∧ ∀ e ∈ s.storage.values, Persistence.FitsStorageEndpoint e
  providers : s.providers.size < 2 ^ 32 ∧ ∀ p ∈ s.providers.values, Persistence.FitsProvider p
  capabilities : s.capabilities.size < 2 ^ 32 ∧
    ∀ c ∈ s.capabilities.values, Persistence.FitsCapability c
  registrations : s.registrations.size < 2 ^ 32 ∧
    ∀ r ∈ s.registrations.values, Persistence.FitsRegistration r
  plans : s.plans.size < 2 ^ 32 ∧ ∀ p ∈ s.plans.values, Persistence.FitsPlan p

instance : DecidablePred State.Fits := fun s => decidable_of_iff' _ (State.fits_iff s)

/-- The system of coordinators: a world moves by an allowed event, or by recovering a file
that a coordinator of the system persisted. -/
def fabric (setting : Setting) (start : World → Prop) : System World Event where
  start := start
  step w e w' := e.Allowed setting w ∧ w' = w.next e
  handover d w e w' := d.state.Fits ∧ setting.MayRecover w ∧
    e = .recover (persistToFile d.state) ∧ w' = w.next e

/-- A new coordinator, of any epoch. -/
def World.New (w : World) : Prop := ∃ epoch, w = { state := Coordinator epoch }

/-- Coordinators that recover only what coordinators persisted, possibly in the middle of a
call of `plan_transfer`.  Files made by hand, which `openFabric` admits, are excluded. -/
def persistedFabric : System World Event := fabric ⟨false, true⟩ World.New

/-- Coordinators that recover anything at any time. -/
def openFabric : System World Event := fabric ⟨true, true⟩ World.New

/-- One coordinator process, which recovers nothing. -/
def process (start : World → Prop) : System World Event where
  start := start
  step w e w' := (∀ file, e ≠ .recover file) ∧ e.Allowed ⟨false, true⟩ w ∧ w' = w.next e
  handover _ _ _ _ := False

/-- A process that starts in reachable worlds stays in reachable worlds. -/
theorem reachable_of_process {start : World → Prop}
    (hstart : ∀ w, start w → persistedFabric.Reachable w) {w : World}
    (h : (process start).Reachable w) :
  persistedFabric.Reachable w
  := by
  apply h.invariant hstart
  · rintro w e w' ⟨h, hrun⟩ ⟨-, hallowed, rfl⟩
    exact ⟨_, hrun.step ⟨hallowed, rfl⟩⟩
  · rintro d w e w' _ _ ⟨⟩

/-! ### Replaying events -/

theorem reachable_next {setting : Setting} {start : World → Prop} {w : World} {e : Event}
    (h : (fabric setting start).Reachable w) (he : e.Allowed setting w) :
  (fabric setting start).Reachable (w.next e)
  := by
  obtain ⟨h, hrun⟩ := h
  exact ⟨_, hrun.step ⟨he, rfl⟩⟩

/-- A process that goes on from a reachable world stays in reachable worlds. -/
theorem reachable_of_process_from {u v : World} (hu : persistedFabric.Reachable u)
    (hv : (process (· = u)).Reachable v) :
  persistedFabric.Reachable v
  := by
  apply reachable_of_process _ hv
  rintro w rfl
  exact hu

/-- What holds in a reachable world, and is kept by every step of the process that goes on from
there, holds in all the worlds of the process. -/
theorem process_invariant {u v : World} {P : State → Prop} (hu : persistedFabric.Reachable u)
    (hv : (process (· = u)).Reachable v) (hstart : P u.state)
    (hnext : ∀ w e, persistedFabric.Reachable w → (∀ file, e ≠ .recover file) →
      e.Allowed ⟨false, true⟩ w → P w.state → P (apply e w.state)) :
  P v.state
  := by
  have hinv : persistedFabric.Reachable v ∧ P v.state := by
    apply hv.invariant (P := fun w => persistedFabric.Reachable w ∧ P w.state)
    · rintro w rfl
      exact ⟨hu, hstart⟩
    · rintro w e w' ⟨hw, hP⟩ ⟨hrecover, hallowed, rfl⟩
      exact ⟨reachable_next hw hallowed, hnext w e hw hrecover hallowed hP⟩
    · rintro d w e w' _ _ ⟨⟩
  exact hinv.2

/-- A call that may be made in any world. -/
def Event.isCall : Event → Bool
  | .planCommit _ _ | .rehash _ | .recover _ => false
  | _ => true

theorem Event.allowed_of_isCall {setting : Setting} {w : World} {e : Event}
    (he : e.isCall = true) :
  e.Allowed setting w
  := by
  cases e with
  | planCommit => cases he
  | rehash => cases he
  | recover => cases he
  | _ => trivial

/-- A process may make a call. -/
theorem run_call {start : World → Prop} {h : List (World × Event)} {w : World} {e : Event}
    (hrun : (process start).Run h w) (he : e.isCall = true) :
  (process start).Run ((w, e) :: h) (w.next e)
  := by
  refine hrun.step ⟨?_, Event.allowed_of_isCall he, rfl⟩
  rintro file rfl
  cases he

/-- The world after a list of calls. -/
def World.replay (w : World) (es : List Event) : World := es.foldl World.next w

/-- The world after a call of `plan_transfer` that nothing interrupts. -/
def World.plan (w : World) (p : PlanRequestParams) : World :=
  (w.next (.planSnapshot p)).next (.planCommit p (evaluatePath p w.state))

/-- Uninterrupted, the two halves are the whole call. -/
theorem World.plan_state (w : World) (p : PlanRequestParams) :
  (w.plan p).state = (planTransfer p w.state).2
  := by
  rw [World.plan, World.next_state, World.next_state, apply, apply, planTransfer]

theorem reachable_replay {setting : Setting} {start : World → Prop} {w : World} {es : List Event}
    (h : (fabric setting start).Reachable w) (hes : es.all Event.isCall = true) :
  (fabric setting start).Reachable (w.replay es)
  := by
  induction es generalizing w with
  | nil => exact h
  | cons e es ih =>
      rw [List.all_cons, Bool.and_eq_true] at hes
      exact ih (reachable_next h (Event.allowed_of_isCall hes.1)) hes.2

theorem reachable_plan {setting : Setting} {start : World → Prop} {w : World}
    (h : (fabric setting start).Reachable w) (p : PlanRequestParams) :
  (fabric setting start).Reachable (w.plan p)
  := by
  apply reachable_next (reachable_next h _)
  · exact List.mem_cons_self
  · trivial

/-- A new coordinator is a start of the persisted and of the open system. -/
theorem reachable_new (setting : Setting) (epoch : CoordinatorEpoch) :
  (fabric setting World.New).Reachable { state := Coordinator epoch }
  := ⟨[], .start ⟨epoch, rfl⟩⟩

/-! ### A fixture -/

namespace Fixture

/-- The worker that owns the buffer of the fixture. -/
def owner : Authority := { worker := 1, boot := 1, epoch := 1 }

/-- One GPU buffer of a worker, registered for one healthy NIC with a direct path. -/
def calls : List Event :=
  [.addProvider { name := "rdma", available := true, support := .real },
    .addDevice { name := "gpu0" },
    .addEndpoint { endpointClass := .nic, healthy := true, support := .real },
    .publishCapability
      { provider := "rdma"
        capability := "direct_nic"
        value := "true"
        support := .real
        authority := { epoch := 1 } },
    .registerWorker 1 1 1,
    .createBuffer { domain := .cudaDevice, size := 4096, device := 3, authority := owner },
    .registerBuffer { buffer := 6, endpoint := 4, authority := owner, support := .real } none]

/-- The world in which the buffer is registered. -/
def registered : World := ({ state := Coordinator 1 } : World).replay calls

def request : PlanRequestParams := { source := 6, destination := 4, size := 4096 }

/-- The world in which a direct path is planned. -/
def planned : World := registered.plan request

theorem reachable_registered (setting : Setting) :
  (fabric setting World.New).Reachable registered
  := reachable_replay (reachable_new setting 1) rfl

theorem reachable_planned (setting : Setting) :
  (fabric setting World.New).Reachable planned
  := reachable_plan (reachable_registered setting) request

/-- The direct plan. -/
def plan : TransferPlan := (planned.state.plans.lookup 8).getD {}

theorem lookup_plan :
  planned.state.plans.lookup 8 = some plan
  := by decide

example : plan.eligibility = .directAllowed ∧ plan.authoritative = true := by decide +kernel

/-- The world in which the owner has begun the transfer, on a synthetic backend. -/
def begun : World := planned.next (.beginTransfer 8 owner (some ({} : SyntheticBackend).toBackend))

theorem reachable_begun (setting : Setting) :
  (fabric setting World.New).Reachable begun
  := reachable_next (reachable_planned setting) trivial

/-- The receipt of the completed transfer. -/
def receipt : TransferReceipt :=
  ((completeTransfer 10 owner begun.state).2.receipts.lookup 10).getD {}

end Fixture

end GpuDirectFabric
