import GpuDirectFabric.Agreement
import GpuDirectFabric.Library.Machine
import GpuDirectFabric.Listings

/-!
# The order of traversal

Nothing fixes the order in which a hash map is traversed, and it may change between two calls.  The
coordinator is a machine that answers calls, and such a change is a drift of its state.  What it
answers does not show the drifts: neither what an operation returns, nor a listing, nor the file it
persists, but for the list of live workers, which is in the order of traversal.
-/

namespace GpuDirectFabric

open Codec Coordinator Persistence

/-! ### Calls and answers -/

/-- A call of the coordinator: an operation, or a look at what it stores. -/
inductive Call where
  | operation (e : Event)
  | epoch
  | buffers
  | getBuffer (id : BufferId)
  | devices
  | endpoints
  | nics
  | storageEndpoints
  | providers
  | capabilities
  | registrations
  | plans
  | attempts
  | receipts
  | latestReceipt (id : TransferAttemptId)
  | liveWorkers
  | persistToFile

/-- What a caller is told. -/
inductive Answer where
  | nothing
  | done (r : Result Unit)
  | epoch (epoch : CoordinatorEpoch)
  | buffer (r : Result BufferRecord)
  | device (r : Result DeviceRecord)
  | endpoint (r : Result EndpointRecord)
  | nic (r : Result NicRecord)
  | storageEndpoint (r : Result StorageEndpointRecord)
  | provider (r : Result ProviderInfo)
  | capability (r : Result CapabilityObservation)
  | registration (r : Result Registration)
  | decision (d : PathDecision)
  | plan (r : Result TransferPlan)
  | attempt (r : Result TransferAttempt)
  | receipt (r : Result TransferReceipt)
  | verification (r : Result VerificationReceipt)
  | buffers (l : List BufferRecord)
  | devices (l : List DeviceRecord)
  | endpoints (l : List EndpointRecord)
  | nics (l : List NicRecord)
  | storageEndpoints (l : List StorageEndpointRecord)
  | providers (l : List ProviderInfo)
  | capabilities (l : List CapabilityObservation)
  | registrations (l : List Registration)
  | plans (l : List TransferPlan)
  | attempts (l : List TransferAttempt)
  | receipts (l : List TransferReceipt)
  | workers (l : List (WorkerId × WorkerBootId))
  | file (file : Bytes)

/-- The answers are the same, or list the same workers. -/
def Answer.Alike : Answer → Answer → Prop
  | .workers l, .workers l' => l.Perm l'
  | a, a' => a = a'

theorem Answer.Alike.of_eq {a a' : Answer} (h : a' = a) :
  a.Alike a'
  := by
  rw [h]
  cases a with
  | workers l => exact .refl l
  | _ => rfl

/-- What the caller of an operation is told. -/
def Coordinator.answer : Event → State → Answer
  | .setLimits _ _ _ _ _, _ => .nothing
  | .registerWorker worker boot epoch, s => .done (registerWorker worker boot epoch s).1
  | .markWorkerDead worker, s => .done (markWorkerDead worker s).1
  | .advanceEpoch, s => .done (advanceEpoch s).1
  | .createBuffer p, s => .buffer (createBuffer p s).1
  | .advanceBufferGeneration id authority, s => .buffer (advanceBufferGeneration id authority s).1
  | .retireBuffer id authority, s => .done (retireBuffer id authority s).1
  | .addDevice p, s => .device (addDevice p s).1
  | .addEndpoint p, s => .endpoint (addEndpoint p s).1
  | .advanceEndpointGeneration id authority, s =>
    .endpoint (advanceEndpointGeneration id authority s).1
  | .setEndpointHealth id healthy authority, s => .done (setEndpointHealth id healthy authority s).1
  | .addNic rec, s => .nic (addNic rec s).1
  | .addStorageEndpoint rec, s => .storageEndpoint (addStorageEndpoint rec s).1
  | .addProvider p, s => .provider (addProvider p s).1
  | .publishCapability p, s => .capability (publishCapability p s).1
  | .revokeCapability provider capability authority, s =>
    .done (revokeCapability provider capability authority s).1
  | .registerBuffer p backend, s => .registration (registerBuffer p backend s).1
  | .deregisterBuffer id authority, s => .done (deregisterBuffer id authority s).1
  | .planSnapshot p, s => .decision (evaluatePath p s)
  | .planCommit p d, s => .plan (planTransferCommit p d s).1
  | .beginTransfer planId authority backend, s =>
    .attempt (beginTransfer planId authority backend s).1
  | .completeTransfer attemptId authority, s => .receipt (completeTransfer attemptId authority s).1
  | .cancelTransfer attemptId authority, s => .receipt (cancelTransfer attemptId authority s).1
  | .verifyTransfer attemptId passed bytesChecked, s =>
    .verification (verifyTransfer attemptId passed bytesChecked s).1
  | .rehash _, _ => .nothing
  | .recover file, s => .done (recoverFromFile file s).1

/-- A caller may make the operation now: the commit of a plan has its snapshot before it, a change
of order is no operation, and a recovery is no operation of a running coordinator. -/
def Event.callable (w : World) : Event → Bool
  | .planCommit p d => w.pending.contains (p, d)
  | .rehash _ | .recover _ => false
  | _ => true

/-- The coordinator as a machine. -/
def coordinatorMachine : Machine World Call Answer where
  answer
    | .operation e, w => if e.callable w then answer e w.state else .nothing
    | .epoch, w => .epoch w.state.epoch
    | .buffers, w => .buffers (buffers w.state)
    | .getBuffer id, w => .buffer (getBuffer id w.state)
    | .devices, w => .devices (devices w.state)
    | .endpoints, w => .endpoints (endpoints w.state)
    | .nics, w => .nics (nics w.state)
    | .storageEndpoints, w => .storageEndpoints (storageEndpoints w.state)
    | .providers, w => .providers (providers w.state)
    | .capabilities, w => .capabilities (capabilities w.state)
    | .registrations, w => .registrations (registrations w.state)
    | .plans, w => .plans (plans w.state)
    | .attempts, w => .attempts (attempts w.state)
    | .receipts, w => .receipts (receipts w.state)
    | .latestReceipt id, w => .receipt (latestReceipt id w.state)
    | .liveWorkers, w => .workers (liveWorkers w.state)
    | .persistToFile, w => .file (persistToFile w.state)
  next
    | .operation e, w => if e.callable w then w.next e else w
    | _, w => w

/-- The worlds differ in the order of traversal only. -/
structure World.Drifted (w w' : World) : Prop where
  state : w.state.Rearranged w'.state
  pending : w'.pending = w.pending

theorem Event.allowed_of_callable {w : World} {e : Event} (he : e.callable w = true) :
  e.Allowed ⟨false, true⟩ w
  := by
  cases e with
  | planCommit p d => simpa [Event.callable, Event.Allowed] using he
  | rehash | recover => cases he
  | _ => trivial

/-! ### Operations -/

/-- An operation on two worlds that differ in the order of traversal is answered alike, and leaves
two such worlds. -/
theorem operation_agree {w : World} (h : persistedFabric.Reachable w) {s : State}
    (hs : w.state.Rearranged s) {e : Event} (he : e.callable w = true) :
  answer e s = answer e w.state ∧ (apply e w.state).Rearranged (apply e s)
  := by
  have hnamed := directoryNamed_of_reachable h
  have hlatest := latestCurrent_of_reachable h
  have hagree : ∀ {α : Type} {x y : Result α × State} (f : Result α → Answer), Agree x y →
      f y.1 = f x.1 ∧ x.2.Rearranged y.2 := by
    intro α x y f hxy
    apply And.intro (congrArg f hxy.result) hxy.state
  cases e with
  | setLimits b r e p a => exact ⟨rfl, setLimits_rearranged b r e p a hs⟩
  | registerWorker worker boot epoch => exact hagree _ (registerWorker_agree worker boot epoch hs)
  | markWorkerDead worker => exact hagree _ (markWorkerDead_agree worker hs)
  | advanceEpoch => exact hagree _ (advanceEpoch_agree hs)
  | createBuffer p => exact hagree _ (createBuffer_agree p hs)
  | advanceBufferGeneration id a => exact hagree _ (advanceBufferGeneration_agree id a hs)
  | retireBuffer id a => exact hagree _ (retireBuffer_agree id a hs)
  | addDevice p => exact hagree _ (addDevice_agree p hs)
  | addEndpoint p => exact hagree _ (addEndpoint_agree p hs)
  | advanceEndpointGeneration id a => exact hagree _ (advanceEndpointGeneration_agree id a hs)
  | setEndpointHealth id healthy a => exact hagree _ (setEndpointHealth_agree id healthy a hs)
  | addNic rec => exact hagree _ (addNic_agree rec hs)
  | addStorageEndpoint rec => exact hagree _ (addStorageEndpoint_agree rec hs)
  | addProvider p => exact hagree _ (addProvider_agree p hnamed hs)
  | publishCapability p => exact hagree _ (publishCapability_agree p hnamed hs)
  | revokeCapability provider capability a =>
      exact hagree _ (revokeCapability_agree provider capability a hnamed hs)
  | registerBuffer p backend => exact hagree _ (registerBuffer_agree p backend hlatest hs)
  | deregisterBuffer id a => exact hagree _ (deregisterBuffer_agree id a hlatest hs)
  | planSnapshot p =>
      exact ⟨congrArg Answer.decision (evaluatePath_rearranged h p hs), hs⟩
  | planCommit p d => exact hagree _ (planTransferCommit_agree p d hlatest hs)
  | beginTransfer planId a backend => exact hagree _ (beginTransfer_agree planId a backend hs)
  | completeTransfer id a => exact hagree _ (completeTransfer_agree id a hs)
  | cancelTransfer id a => exact hagree _ (cancelTransfer_agree id a hs)
  | verifyTransfer id passed n => exact hagree _ (verifyTransfer_agree id passed n hs)
  | rehash | recover => cases he

/-! ### Listings and files -/

/-- The lists of one table, and of one that holds the same, are the same. -/
theorem lists_rearranged {V K : Type} [LinearOrder K] {name : V → K} {t t' : Table V}
    {l l' : List V} (ht : t.Rearranged t') (h : t.Lists name l) (h' : t'.Lists name l') :
  l' = l
  := by
  apply Table.Lists.unique h'
  constructor
  · intro v
    rw [h.mem]
    simp only [ht.lookup]
  · rw [h.length, ht.size]
  · apply h.increasing

theorem putSection_rearranged {ρ : Type} {F : Format Error ρ} {id : ρ → ℕ} {t t' : Table ρ}
    (ht : t.Rearranged t') (h : t.Named id) :
  putSection F id t' = putSection F id t
  := by
  have hsorted : sortedById id t' = sortedById id t := ht.listing h
  rw [putSection, putSection, hsorted]

/-- The file a coordinator persists does not depend on the order of traversal. -/
theorem persistToFile_rearranged {s s' : State} (hwf : WellFormed s) (hs : s.Rearranged s') :
  persistToFile s' = persistToFile s
  := by
  have hcapabilities : s.capabilities.Named CapabilityObservation.id := hwf.capability
  rw [persistToFile, persistToFile, stateBody, stateBody, stateSections, stateSections,
    registrySections, registrySections, hs.epoch, hs.nextId, hs.freshness,
    putSection_rearranged hs.buffers (Table.All.named (hwf.buffers.mono fun _ _ hb => hb.1)),
    putSection_rearranged hs.devices (Table.All.named hwf.devices),
    putSection_rearranged hs.endpoints (Table.All.named (hwf.endpoints.mono fun _ _ he => he.1)),
    putSection_rearranged hs.nics (Table.All.named hwf.nics),
    putSection_rearranged hs.storage (Table.All.named hwf.storage),
    putSection_rearranged hs.providers (Table.All.named hwf.providers),
    putSection_rearranged hs.capabilities hcapabilities,
    putSection_rearranged hs.registrations
      (Table.All.named (hwf.registrations.mono fun _ _ hr => hr.1)),
    putSection_rearranged hs.plans (Table.All.named (hwf.plans.mono fun _ _ hp => hp.1))]

/-! ### Drifts -/

theorem World.Drifted.trans {w w' w'' : World} (h : w.Drifted w') (h' : w'.Drifted w'') :
  w.Drifted w''
  := ⟨h.state.trans h'.state, h'.pending.trans h.pending⟩

theorem World.Drifted.reachable {w w' : World} (h : w.Drifted w')
    (hw : persistedFabric.Reachable w) :
  persistedFabric.Reachable w'
  := by
  have hnext : w' = w.next (.rehash w'.state) := by
    obtain ⟨s, pending⟩ := w'
    obtain rfl := h.pending
    rfl
  rw [hnext]
  apply reachable_next (e := .rehash w'.state) hw h.state

theorem callable_drifted {w w' : World} (h : w.Drifted w') (e : Event) :
  e.callable w' = e.callable w
  := by
  cases e with
  | planCommit p d => rw [Event.callable, Event.callable, h.pending]
  | _ => rfl

/-- In worlds that have drifted apart an operation has the same answer, and leaves worlds that have
drifted apart. -/
theorem operation_drifted {w w' : World} (hw : persistedFabric.Reachable w) (h : w.Drifted w')
    (e : Event) :
  coordinatorMachine.answer (.operation e) w' = coordinatorMachine.answer (.operation e) w ∧
    (coordinatorMachine.next (.operation e) w).Drifted (coordinatorMachine.next (.operation e) w')
  := by
  dsimp only [coordinatorMachine]
  rw [callable_drifted h]
  split
  next he =>
    obtain ⟨hanswer, hstate⟩ := operation_agree hw h.state he
    apply And.intro hanswer
    constructor
    · apply hstate
    · cases e with
      | planSnapshot p =>
          dsimp only [World.next]
          rw [h.pending, evaluatePath_rearranged hw p h.state]
      | planCommit p d =>
          dsimp only [World.next]
          rw [h.pending]
      | _ => exact h.pending
  next => exact ⟨rfl, h⟩

/-- A drift is a bisimulation of the coordinator, up to the order of live workers. -/
theorem drifted_bisimulation :
  coordinatorMachine.Bisimulation persistedFabric.Reachable World.Drifted Answer.Alike
  where
  trans _ _ _ := World.Drifted.trans
  related _ _ hw h := h.reachable hw
  keeps := by
    intro c w hw
    cases c with
    | operation e =>
        dsimp only [coordinatorMachine]
        split
        next he => exact reachable_next hw (Event.allowed_of_callable he)
        next => exact hw
    | _ => exact hw
  answer := by
    intro c w w' hw h
    have hlisted := listings_of_reachable hw
    have hlisted' := listings_of_reachable (h.reachable hw)
    have hs := h.state
    have hlists : ∀ {V K : Type} [LinearOrder K] {name : V → K} {t t' : Table V} {l l' : List V}
        (f : List V → Answer), t.Rearranged t' → t.Lists name l → t'.Lists name l' →
        (f l).Alike (f l') := by
      intro V K _ name t t' l l' f ht hl hl'
      apply Answer.Alike.of_eq
      rw [lists_rearranged ht hl hl']
    cases c with
    | operation e => exact .of_eq (operation_drifted hw h e).1
    | epoch => exact .of_eq (congrArg Answer.epoch hs.epoch)
    | buffers => exact hlists .buffers hs.buffers hlisted.buffers hlisted'.buffers
    | getBuffer id =>
        apply Answer.Alike.of_eq
        dsimp only [coordinatorMachine]
        rw [getBuffer, getBuffer, hs.buffers.lookup]
    | devices => exact hlists .devices hs.devices hlisted.devices hlisted'.devices
    | endpoints => exact hlists .endpoints hs.endpoints hlisted.endpoints hlisted'.endpoints
    | nics => exact hlists .nics hs.nics hlisted.nics hlisted'.nics
    | storageEndpoints =>
        exact hlists .storageEndpoints hs.storage hlisted.storageEndpoints
          hlisted'.storageEndpoints
    | providers => exact hlists .providers hs.providers hlisted.providers hlisted'.providers
    | capabilities =>
        exact hlists .capabilities hs.capabilities hlisted.capabilities hlisted'.capabilities
    | registrations =>
        exact hlists .registrations hs.registrations hlisted.registrations hlisted'.registrations
    | plans => exact hlists .plans hs.plans hlisted.plans hlisted'.plans
    | attempts => exact hlists .attempts hs.attempts hlisted.attempts hlisted'.attempts
    | receipts => exact hlists .receipts hs.receipts hlisted.receipts hlisted'.receipts
    | latestReceipt id =>
        apply Answer.Alike.of_eq
        dsimp only [coordinatorMachine]
        rw [latestReceipt, latestReceipt, hs.receipts.lookup]
    | liveWorkers => exact hs.workers.perm_values
    | persistToFile =>
        exact .of_eq (congrArg Answer.file
          (persistToFile_rearranged (wellFormed_of_reachable hw) hs))
  next := by
    intro c w w' hw h
    cases c with
    | operation e => exact (operation_drifted hw h e).2
    | _ => exact h

/-- Whatever order the hash maps are traversed in, and however it changes between the calls, from
any reachable world the coordinator gives the same answers to any calls, up to the order of live
workers, and ends with the same records. -/
theorem traversal_unobservable {w w' t : World} (hw : persistedFabric.Reachable w)
    (hdrifted : w.Drifted w') {calls : List Call} {answers : List Answer}
    (hdrifts : coordinatorMachine.Drifts World.Drifted w' calls answers t) :
  List.Forall₂ Answer.Alike (coordinatorMachine.answers w calls) answers ∧
    (coordinatorMachine.run w calls).Drifted t
  := drifted_bisimulation.unobservable hw hdrifted hdrifts

namespace Fixture

/-- The table traversed backwards. -/
def backwards {V : Type} (t : Table V) : Table V :=
  ⟨t.entries.reverse, (List.perm_nodupKeys (List.reverse_perm _)).mpr t.nodupKeys⟩

theorem rearranged_backwards {V : Type} (t : Table V) :
  t.Rearranged (backwards t)
  := (List.reverse_perm _).symm

/-- Two workers and two devices are known. -/
def crowded : World := registered.replay [.registerWorker 2 1 1, .addDevice { name := "gpu1" }]

/-- The same world, with the workers and the devices traversed backwards. -/
def crowdedBackwards : World :=
  { crowded with
    state := { crowded.state with
      workers := backwards crowded.state.workers
      devices := backwards crowded.state.devices } }

theorem drifted_crowded :
  crowded.Drifted crowdedBackwards
  where
  state := { State.Rearranged.refl crowded.state with
    workers := rearranged_backwards _
    devices := rearranged_backwards _ }
  pending := rfl

end Fixture

theorem traversal_unobservable_crowded :
  List.Forall₂ Answer.Alike
      (coordinatorMachine.answers Fixture.crowded [.liveWorkers, .devices])
      [coordinatorMachine.answer .liveWorkers Fixture.crowdedBackwards,
        coordinatorMachine.answer .devices Fixture.crowdedBackwards] ∧
    (coordinatorMachine.run Fixture.crowded [.liveWorkers, .devices]).Drifted
      Fixture.crowdedBackwards
  := traversal_unobservable (reachable_replay (Fixture.reachable_registered _) rfl)
    Fixture.drifted_crowded
    (.call ⟨.refl _, rfl⟩ (.call ⟨.refl _, rfl⟩ (.done ⟨.refl _, rfl⟩)))

end GpuDirectFabric
