import GpuDirectFabric.Library.Table
import GpuDirectFabric.Planner

/-!
# The coordinator's state

The tables are hash maps: the order in which one is traversed is unspecified, so two states
that are rearrangements of each other stand for the same registries.
-/

namespace GpuDirectFabric

/-- `Coordinator::State`. -/
structure State where
  epoch : CoordinatorEpoch := 1
  nextId : ℕ := 1
  freshness : ℕ := 1
  buffers : Table BufferRecord := ∅
  devices : Table DeviceRecord := ∅
  endpoints : Table EndpointRecord := ∅
  nics : Table NicRecord := ∅
  storage : Table StorageEndpointRecord := ∅
  registrations : Table Registration := ∅
  providers : Table ProviderInfo := ∅
  capabilities : Table CapabilityObservation := ∅
  plans : Table TransferPlan := ∅
  attempts : Table TransferAttempt := ∅
  receipts : Table TransferReceipt := ∅
  verifications : Table VerificationReceipt := ∅
  workers : Table (WorkerId × WorkerBootId) := ∅
  workerMaxBoot : Table ℕ := ∅
  maxBuffers : ℕ := 8192
  maxRegistrations : ℕ := 8192
  maxEndpoints : ℕ := 4096
  maxPlans : ℕ := 4096
  maxAttempts : ℕ := 4096

/-- The state of a new coordinator. -/
def Coordinator (epoch : CoordinatorEpoch) : State := { epoch := epoch }

namespace State

/-- Draw an id, which is the new `nextId`. -/
def nextIdLocked (s : State) : State := { s with nextId := s.nextId + 1 }

/-- Draw an id unless there is one already. -/
def nextIdUnless (given : Bool) (s : State) : State :=
  { s with nextId := if given then s.nextId else s.nextId + 1 }

theorem le_nextIdUnless (given : Bool) (s : State) :
  s.nextId ≤ (s.nextIdUnless given).nextId
  := by
  rw [nextIdUnless]
  split
  · exact le_rfl
  · exact Nat.le_succ _

/-- Draw a freshness stamp, which is the new `freshness`. -/
def nextFreshnessLocked (s : State) : State := { s with freshness := s.freshness + 1 }

/-- The authority is of the current epoch, and when it is a worker's, names the live
incarnation of that worker. -/
def workerLiveLocked (s : State) (a : Authority) : Bool :=
  if a.epoch != s.epoch then false
  else if !a.workerOwned then true
  else match s.workers.lookup a.worker with
    | none => false
    | some w => w.2 = a.boot

/-- The registration with the `REVALIDATION_REQUIRED` state, when `p` holds of it. -/
def revalidateIf (p : Registration → Bool) (r : Registration) : Registration :=
  if p r then { r with state := .revalidationRequired } else r

/-- The plan superseded, when `p` holds of it. -/
def supersedeIf (p : TransferPlan → Bool) (plan : TransferPlan) : TransferPlan :=
  if p plan then { plan with authoritative := false } else plan

/-- Take the registrations that satisfy `p` and the plans that satisfy `q` out of force. -/
def invalidate (p : Registration → Bool) (q : TransferPlan → Bool) (s : State) : State :=
  { s with
    registrations := s.registrations.mapVals (revalidateIf p)
    plans := s.plans.mapVals (supersedeIf q) }

def invalidateBufferDependentsLocked (buffer : BufferId) (s : State) : State :=
  s.invalidate (fun r => r.buffer = buffer) (fun p => p.source = buffer)

def invalidateEndpointDependentsLocked (endpoint : EndpointId) (s : State) : State :=
  s.invalidate (fun r => r.endpoint = endpoint) (fun p => p.destination = endpoint)

/-- The two states hold the same entries, possibly in other orders of traversal. -/
structure Rearranged (s s' : State) : Prop where
  epoch : s'.epoch = s.epoch
  nextId : s'.nextId = s.nextId
  freshness : s'.freshness = s.freshness
  buffers : s.buffers.Rearranged s'.buffers
  devices : s.devices.Rearranged s'.devices
  endpoints : s.endpoints.Rearranged s'.endpoints
  nics : s.nics.Rearranged s'.nics
  storage : s.storage.Rearranged s'.storage
  registrations : s.registrations.Rearranged s'.registrations
  providers : s.providers.Rearranged s'.providers
  capabilities : s.capabilities.Rearranged s'.capabilities
  plans : s.plans.Rearranged s'.plans
  attempts : s.attempts.Rearranged s'.attempts
  receipts : s.receipts.Rearranged s'.receipts
  verifications : s.verifications.Rearranged s'.verifications
  workers : s.workers.Rearranged s'.workers
  workerMaxBoot : s.workerMaxBoot.Rearranged s'.workerMaxBoot
  limits : s'.maxBuffers = s.maxBuffers ∧ s'.maxRegistrations = s.maxRegistrations ∧
    s'.maxEndpoints = s.maxEndpoints ∧ s'.maxPlans = s.maxPlans ∧ s'.maxAttempts = s.maxAttempts

theorem Rearranged.refl (s : State) :
  Rearranged s s
  := ⟨rfl, rfl, rfl, .refl _, .refl _, .refl _, .refl _, .refl _, .refl _, .refl _, .refl _,
    .refl _, .refl _, .refl _, .refl _, .refl _, .refl _, ⟨rfl, rfl, rfl, rfl, rfl⟩⟩

end State

end GpuDirectFabric
