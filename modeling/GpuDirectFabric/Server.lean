import GpuDirectFabric.Protocol
import GpuDirectFabric.World

/-!
# The server

The server accepts connections one at a time.  The first frame of a connection is a handshake: it
registers a worker, or opens a connection for queries.  Each worker connection has a thread of its
own, which handles the worker's messages until the connection drops or a message can not be
answered, and then marks the worker dead.  Each message makes at most one call of the coordinator.

The connections of a server are those of workers.  Its events are a handshake, a message of one of
the connections, the end of the messages of one, the cleaning up after it, and a call that another
thread of the process makes.  What the server prints is not part of the model.
-/

namespace GpuDirectFabric

open Codec Persistence Coordinator PayloadReader

namespace CoordinatorServer

/-! ### Replies -/

/-- An acknowledgement, with up to three ids. -/
def sendAck (id1 id2 id3 : ℕ) : Frame :=
  { type := .ack
    payload := [putLE 1 0, putU64 id1, putU64 id2, putU64 id3].flatten }

/-- A refusal; the enumerators of `ErrorCode` are listed in the order of their values. -/
def sendNack (code : ErrorCode) (msg : Str) : Frame :=
  { type := .nack
    payload := [putLE 1 1, putU32 code.ctorIdx, putStr msg].flatten }

/-- The reply to a call, and the state after it. -/
def respond {α : Type} (ack : α → Frame) : Result α × State → Option Frame × State
  | (.ok a, s) => (some (ack a), s)
  | (.error e, s) => (some (sendNack e.code e.message), s)

/-! ### Messages -/

/-- The worker, boot id and epoch of a handshake. -/
def readWorker : StateM PayloadReader Authority := do
  let w ← u64
  let b ← u64
  let e ← u64
  return { worker := w, boot := b, epoch := e }

/-- The parameters of a `PUBLISH_DEVICE` message, unless a string of it is cut off. -/
def deviceParams (auth : Authority) : StateM PayloadReader (Option DeviceAddParams) :=
  withStr fun name => withStr fun cc => do
    let peer ← u8
    let ssup ← u8
    let prov ← u8
    return some {
      name := name
      computeCapability := cc
      peerMemorySupported := peer != 0
      support := CEnum.ofU32 ssup
      provenance := CEnum.ofU32 prov
      authority := auth }

/-- The parameters of a `PUBLISH_ENDPOINT` message, unless a string of it is cut off. -/
def endpointParams (auth : Authority) : StateM PayloadReader (Option EndpointAddParams) := do
  let cls ← u8
  withStr fun nm => withStr fun top => do
    let healthy ← u8
    let ssup ← u8
    let prov ← u8
    return some {
      endpointClass := CEnum.ofU32 cls
      name := nm
      topologyHint := top
      healthy := healthy != 0
      support := CEnum.ofU32 ssup
      provenance := CEnum.ofU32 prov
      authority := auth }

/-- The parameters of a `PUBLISH_CAPABILITY` message, unless a string of it is cut off. -/
def capabilityParams (auth : Authority) : StateM PayloadReader (Option CapabilityPublishParams) :=
  withStr fun prov => withStr fun cap => withStr fun val => do
    let ssup ← u8
    let pr ← u8
    return some {
      provider := prov
      capability := cap
      value := val
      support := CEnum.ofU32 ssup
      provenance := CEnum.ofU32 pr
      authority := auth }

/-- The parameters of a `CREATE_BUFFER` message. -/
def bufferParams (auth : Authority) : StateM PayloadReader CreateBufferParams := do
  let dm ← u8
  let bsize ← u64
  let balign ← u64
  let dev ← u64
  let ssup ← u8
  let prov ← u8
  return {
    domain := CEnum.ofU32 dm
    size := bsize
    alignment := balign
    device := dev
    locality := .local
    support := CEnum.ofU32 ssup
    provenance := CEnum.ofU32 prov
    authority := auth
    name := "worker_buffer" }

/-- The parameters of a `REGISTER_BUFFER` message. -/
def registerParams (auth : Authority) : StateM PayloadReader RegisterParams := do
  let bid ← u64
  let eid ← u64
  let ssup ← u8
  let prov ← u8
  return {
    buffer := bid
    endpoint := eid
    authority := auth
    support := CEnum.ofU32 ssup
    provenance := CEnum.ofU32 prov
    requiredCapabilities := [] }

/-- The reply to a frame on the connection of a worker, and the state after it; there is none when
the server gives the connection up. -/
def handleWorkerMessage (f : Frame) (auth : Authority) (s : State) : Option Frame × State :=
  match f.type with
  | .publishDevice =>
    match (deviceParams auth f.reader).1 with
    | none => (none, s)
    | some p => respond (fun d => sendAck d.id 0 0) (addDevice p s)
  | .publishEndpoint =>
    match (endpointParams auth f.reader).1 with
    | none => (none, s)
    | some p => respond (fun e => sendAck e.id 0 0) (addEndpoint p s)
  | .publishCapability =>
    match (capabilityParams auth f.reader).1 with
    | none => (none, s)
    | some p => respond (fun c => sendAck c.id 0 0) (publishCapability p s)
  | .createBuffer =>
    respond (fun b => sendAck b.id b.generation 0) (createBuffer (bufferParams auth f.reader).1 s)
  | .registerBuffer =>
    respond (fun r => sendAck r.id r.generation 0)
      (registerBuffer (registerParams auth f.reader).1 none s)
  | .ready => (some (sendAck 0 0 0), s)
  | _ => (some (sendNack .unsupported "unsupported worker message"), s)

/-- What the server does with a connection after its first frame: close it, possibly after a
reply, answer queries on it, or acknowledge the worker and handle its messages. -/
inductive Handshake where
  | closed (reply : Option Frame)
  | query
  | worker (auth : Authority) (reply : Frame)

/-- The first frame of a connection. -/
def handshake (hf : Frame) (s : State) : Handshake × State :=
  if hf.type ≠ .hello ∧ hf.type ≠ .registerWorker then (.closed none, s)
  else
    let auth := (readWorker hf.reader).1
    if auth.worker ≠ 0 then
      match registerWorker auth.worker auth.boot auth.epoch s with
      | (.error e, s) => (.closed (some (sendNack e.code e.message)), s)
      | (.ok (), s) => (.worker auth (sendAck 0 0 0), s)
    else (.query, s)

end CoordinatorServer

open CoordinatorServer

/-! ### The calls of messages -/

/-- The call a message makes. -/
def workerCall (f : Frame) (auth : Authority) : Option Event :=
  match f.type with
  | .publishDevice => (deviceParams auth f.reader).1.map .addDevice
  | .publishEndpoint => (endpointParams auth f.reader).1.map .addEndpoint
  | .publishCapability => (capabilityParams auth f.reader).1.map .publishCapability
  | .createBuffer => some (.createBuffer (bufferParams auth f.reader).1)
  | .registerBuffer => some (.registerBuffer (registerParams auth f.reader).1 none)
  | _ => none

theorem respond_state {α : Type} (ack : α → Frame) (call : Result α × State) :
  (respond ack call).2 = call.2
  := by
  obtain ⟨result, s⟩ := call
  cases result with
  | ok a => rfl
  | error e => rfl

/-- The state after a message is that after its call. -/
theorem handleWorkerMessage_state (f : Frame) (auth : Authority) (s : State) :
  (handleWorkerMessage f auth s).2 = ((workerCall f auth).map (apply · s)).getD s
  := by
  rw [handleWorkerMessage, workerCall]
  cases f.type with
  | publishDevice =>
      dsimp only
      cases (deviceParams auth f.reader).1 with
      | none => rfl
      | some p => exact respond_state _ _
  | publishEndpoint =>
      dsimp only
      cases (endpointParams auth f.reader).1 with
      | none => rfl
      | some p => exact respond_state _ _
  | publishCapability =>
      dsimp only
      cases (capabilityParams auth f.reader).1 with
      | none => rfl
      | some p => exact respond_state _ _
  | createBuffer => exact respond_state _ _
  | registerBuffer => exact respond_state _ _
  | _ => rfl

/-- The call of a message adds a record under the authority of the connection. -/
inductive Publishes (auth : Authority) : Event → Prop
  | addDevice {p : DeviceAddParams} (hp : p.authority = auth) : Publishes auth (.addDevice p)
  | addEndpoint {p : EndpointAddParams} (hp : p.authority = auth) : Publishes auth (.addEndpoint p)
  | publishCapability {p : CapabilityPublishParams} (hp : p.authority = auth) :
      Publishes auth (.publishCapability p)
  | createBuffer {p : CreateBufferParams} (hp : p.authority = auth) :
      Publishes auth (.createBuffer p)
  | registerBuffer {p : RegisterParams} (hp : p.authority = auth) :
      Publishes auth (.registerBuffer p none)

theorem authority_deviceParams {auth : Authority} {r : PayloadReader} {p : DeviceAddParams}
    (h : (deviceParams auth r).1 = some p) :
  p.authority = auth
  := by
  obtain ⟨_, _, h⟩ := withStr_eq_some h
  obtain ⟨_, _, h⟩ := withStr_eq_some h
  rw [bind_apply, bind_apply, bind_apply] at h
  obtain rfl := Option.some.inj h
  rfl

theorem authority_endpointParams {auth : Authority} {r : PayloadReader} {p : EndpointAddParams}
    (h : (endpointParams auth r).1 = some p) :
  p.authority = auth
  := by
  rw [endpointParams, bind_apply] at h
  obtain ⟨_, _, h⟩ := withStr_eq_some h
  obtain ⟨_, _, h⟩ := withStr_eq_some h
  rw [bind_apply, bind_apply, bind_apply] at h
  obtain rfl := Option.some.inj h
  rfl

theorem authority_capabilityParams {auth : Authority} {r : PayloadReader}
    {p : CapabilityPublishParams} (h : (capabilityParams auth r).1 = some p) :
  p.authority = auth
  := by
  obtain ⟨_, _, h⟩ := withStr_eq_some h
  obtain ⟨_, _, h⟩ := withStr_eq_some h
  obtain ⟨_, _, h⟩ := withStr_eq_some h
  rw [bind_apply, bind_apply] at h
  obtain rfl := Option.some.inj h
  rfl

theorem authority_bufferParams (auth : Authority) (r : PayloadReader) :
  (bufferParams auth r).1.authority = auth
  := by
  simp only [bufferParams, bind_apply]
  rfl

theorem authority_registerParams (auth : Authority) (r : PayloadReader) :
  (registerParams auth r).1.authority = auth
  := by
  simp only [registerParams, bind_apply]
  rfl

theorem publishes_of_workerCall {f : Frame} {auth : Authority} {e : Event}
    (h : workerCall f auth = some e) :
  Publishes auth e
  := by
  rw [workerCall] at h
  cases htype : f.type with
  | publishDevice =>
      rw [htype] at h
      obtain ⟨p, hp, rfl⟩ := Option.map_eq_some_iff.mp h
      exact .addDevice (authority_deviceParams hp)
  | publishEndpoint =>
      rw [htype] at h
      obtain ⟨p, hp, rfl⟩ := Option.map_eq_some_iff.mp h
      exact .addEndpoint (authority_endpointParams hp)
  | publishCapability =>
      rw [htype] at h
      obtain ⟨p, hp, rfl⟩ := Option.map_eq_some_iff.mp h
      exact .publishCapability (authority_capabilityParams hp)
  | createBuffer =>
      rw [htype] at h
      obtain rfl := Option.some.inj h
      exact .createBuffer (authority_bufferParams _ _)
  | registerBuffer =>
      rw [htype] at h
      obtain rfl := Option.some.inj h
      exact .registerBuffer (authority_registerParams _ _)
  | _ =>
      rw [htype] at h
      cases h

theorem Publishes.isCall {auth : Authority} {e : Event} (h : Publishes auth e) :
  e.isCall = true
  := by
  cases h <;> rfl

/-- The call a handshake makes. -/
def handshakeCall (hf : Frame) : Option Event :=
  if hf.type ≠ .hello ∧ hf.type ≠ .registerWorker then none
  else
    let auth := (readWorker hf.reader).1
    if auth.worker ≠ 0 then some (.registerWorker auth.worker auth.boot auth.epoch) else none

/-- The state after a handshake is that after its call. -/
theorem handshake_state (hf : Frame) (s : State) :
  (handshake hf s).2 = ((handshakeCall hf).map (apply · s)).getD s
  := by
  rw [handshake, handshakeCall]
  split
  next => rfl
  dsimp only
  split
  next =>
    change _ = (registerWorker _ _ _ s).2
    split
    next hresult => rw [hresult]
    next hresult => rw [hresult]
  next => rfl

theorem handshakeCall_eq_some {hf : Frame} {call : Event} (h : handshakeCall hf = some call) :
  ∃ worker boot epoch, call = .registerWorker worker boot epoch
  := by
  rw [handshakeCall] at h
  split at h
  next => cases h
  dsimp only at h
  split at h
  next => exact ⟨_, _, _, (Option.some.inj h).symm⟩
  next => cases h

/-- The worker whose handshake is acknowledged has a valid id. -/
theorem worker_of_handshake {hf : Frame} {s : State} {auth : Authority} {reply : Frame}
    (h : (handshake hf s).1 = .worker auth reply) :
  auth.workerOwned = true
  := by
  rw [handshake] at h
  split at h
  next => cases h
  dsimp only at h
  split at h
  next hworker =>
    split at h
    next => cases h
    next =>
      cases h
      rw [Authority.workerOwned, valid, bne_iff_ne]
      exact hworker
  next => cases h

/-! ### The server as a system -/

/-- How far the thread of a connection is: it handles messages, is about to mark its worker dead,
or has closed the connection. -/
inductive Phase where
  | receiving | closing | closed
deriving DecidableEq

/-- The connection of a worker, with the authority of its handshake. -/
structure Connection where
  authority : Authority
  phase : Phase := .receiving
deriving DecidableEq

/-- A coordinator, and the connections its server has accepted from workers, the latest one
last. -/
structure Server where
  world : World
  connections : List Connection := []

/-- What can happen at a server. -/
inductive ServerEvent where
  | handshake (hf : Frame)
  | message (i : ℕ) (f : Frame) (sent : Bool)
  | hangUp (i : ℕ)
  | cleanUp (i : ℕ)
  | call (e : Event)

namespace Server

/-- The server with another state of the coordinator. -/
def withState (v : Server) (s : State) : Server := { v with world := { v.world with state := s } }

/-- The thread of the connection `i` has come to another phase. -/
def withPhase (v : Server) (i : ℕ) (phase : Phase) : Server :=
  { v with connections := v.connections.modify i fun c => { c with phase := phase } }

/-- The server after an event.  The thread of a connection goes on to clean up when it receives no
further frame, and when a message has no reply or the reply can not be sent. -/
def next (v : Server) : ServerEvent → Server
  | .handshake hf =>
    match CoordinatorServer.handshake hf v.world.state with
    | (.worker auth _, s) =>
      let v := v.withState s
      { v with connections := v.connections ++ [{ authority := auth }] }
    | (_, s) => v.withState s
  | .message i f sent =>
    match v.connections[i]? with
    | none => v
    | some c =>
      let (reply, s) := handleWorkerMessage f c.authority v.world.state
      let v := v.withState s
      if reply.isSome && sent then v else v.withPhase i .closing
  | .hangUp i => v.withPhase i .closing
  | .cleanUp i =>
    match v.connections[i]? with
    | none => v
    | some c =>
      (v.withState (markWorkerDead c.authority.worker v.world.state).2).withPhase i .closed
  | .call e => { v with world := v.world.next e }

/-- The connection `i` is in the phase. -/
def InPhase (v : Server) (i : ℕ) (phase : Phase) : Prop :=
  ∃ c, v.connections[i]? = some c ∧ c.phase = phase

end Server

/-- The event may happen: a thread receives in one phase and cleans up in the next, and the other
threads of the process recover no file. -/
def ServerEvent.Enabled (v : Server) : ServerEvent → Prop
  | .handshake _ => True
  | .message i _ _ => v.InPhase i .receiving
  | .hangUp i => v.InPhase i .receiving
  | .cleanUp i => v.InPhase i .closing
  | .call e => (∀ file, e ≠ .recover file) ∧ e.Allowed ⟨false, true⟩ v.world

/-- The call of the coordinator that an event makes. -/
def ServerEvent.calls (v : Server) : ServerEvent → Option Event
  | .handshake hf => handshakeCall hf
  | .message i f _ => v.connections[i]?.bind fun c => workerCall f c.authority
  | .hangUp _ => none
  | .cleanUp i => v.connections[i]?.map fun c => .markWorkerDead c.authority.worker
  | .call e => some e

/-- The servers of new coordinators. -/
def server : System Server ServerEvent where
  start v := World.New v.world ∧ v.connections = []
  step v e v' := e.Enabled v ∧ v' = v.next e
  handover _ _ _ _ := False

/-! ### Runs of the server -/

namespace Server

/-- The state after a message is that after its call. -/
theorem next_message {v : Server} {i : ℕ} {f : Frame} {sent : Bool} {c : Connection}
    (hc : v.connections[i]? = some c) :
  (v.next (.message i f sent)).world
    = { v.world with state := (handleWorkerMessage f c.authority v.world.state).2 }
  := by
  rw [next, hc]
  dsimp only
  split
  · rfl
  · rfl

/-- The coordinator does nothing at an event, or makes its call. -/
theorem next_world {v : Server} {e : ServerEvent} (he : e.Enabled v) :
  (v.next e).world = ((e.calls v).map v.world.next).getD v.world
  := by
  cases e with
  | handshake hf =>
      have hworld : (v.next (.handshake hf)).world
          = { v.world with state := (handshake hf v.world.state).2 } := by
        rw [next]
        split
        next h => rw [h]; rfl
        next h => rw [h]; rfl
      rw [hworld, handshake_state, ServerEvent.calls]
      cases hcall : handshakeCall hf with
      | none => rfl
      | some call =>
          obtain ⟨worker, boot, epoch, rfl⟩ := handshakeCall_eq_some hcall
          rfl
  | message i f sent =>
      obtain ⟨c, hc, -⟩ := he
      rw [next_message hc, handleWorkerMessage_state, ServerEvent.calls, hc, Option.bind_some]
      cases hcall : workerCall f c.authority with
      | none => rfl
      | some call =>
          have hpublishes := publishes_of_workerCall hcall
          cases hpublishes <;> rfl
  | hangUp i => rfl
  | cleanUp i =>
      obtain ⟨c, hc, -⟩ := he
      rw [next, ServerEvent.calls, hc]
      rfl
  | call e => rfl

/-- The call of an event is one that the coordinator allows, and recovers no file. -/
theorem allowed_of_calls {v : Server} {e : ServerEvent} (he : e.Enabled v) {call : Event}
    (hcall : e.calls v = some call) :
  (∀ file, call ≠ .recover file) ∧ call.Allowed ⟨false, true⟩ v.world
  := by
  cases e with
  | handshake hf =>
      obtain ⟨worker, boot, epoch, rfl⟩ := handshakeCall_eq_some hcall
      exact ⟨by rintro _ ⟨⟩, trivial⟩
  | message i f sent =>
      obtain ⟨c, -, hcall⟩ := Option.bind_eq_some_iff.mp hcall
      have hpublishes := publishes_of_workerCall hcall
      refine ⟨?_, Event.allowed_of_isCall hpublishes.isCall⟩
      rintro file rfl
      cases hpublishes
  | hangUp i => cases hcall
  | cleanUp i =>
      obtain ⟨c, -, rfl⟩ := Option.map_eq_some_iff.mp hcall
      exact ⟨by rintro _ ⟨⟩, trivial⟩
  | call e =>
      obtain rfl := Option.some.inj hcall
      exact he

/-- The coordinator of a server goes through runs of a coordinator process. -/
theorem reachable_world {v : Server} (h : server.Reachable v) :
  (process World.New).Reachable v.world
  := by
  refine h.invariant (P := fun v => (process World.New).Reachable v.world) ?_ ?_ ?_
  · rintro v ⟨hnew, -⟩
    exact ⟨[], .start hnew⟩
  · rintro v e v' ⟨history, hrun⟩ ⟨he, rfl⟩
    rw [next_world he]
    cases hcall : e.calls v with
    | none => exact ⟨history, hrun⟩
    | some call =>
        obtain ⟨hrecover, hallowed⟩ := allowed_of_calls he hcall
        exact ⟨_, hrun.step ⟨hrecover, hallowed, rfl⟩⟩
  · rintro d v e v' _ _ ⟨⟩

theorem connections_withPhase {v : Server} {i j : ℕ} {phase : Phase} {c : Connection}
    (hc : (v.withPhase i phase).connections[j]? = some c) :
  ∃ c', v.connections[j]? = some c' ∧ c'.authority = c.authority
  := by
  rw [withPhase, List.getElem?_modify] at hc
  obtain ⟨c', hc', rfl⟩ := Option.map_eq_some_iff.mp hc
  use c', hc'
  split
  · rfl
  · rfl

/-- A connection keeps the authority of the handshake that opens it. -/
theorem connection_of_next {v : Server} {e : ServerEvent} {j : ℕ} {c : Connection}
    (hc : (v.next e).connections[j]? = some c) :
  (∃ c', v.connections[j]? = some c' ∧ c'.authority = c.authority) ∨
    ∃ hf reply, e = .handshake hf ∧ (handshake hf v.world.state).1 = .worker c.authority reply
  := by
  cases e with
  | handshake hf =>
      rw [next] at hc
      split at hc
      next auth reply s hresult =>
        dsimp only at hc
        rw [List.getElem?_append] at hc
        split at hc
        next => exact .inl ⟨c, hc, rfl⟩
        next =>
          obtain rfl := List.mem_singleton.mp (List.mem_of_getElem? hc)
          exact .inr ⟨hf, reply, rfl, congrArg Prod.fst hresult⟩
      next => exact .inl ⟨c, hc, rfl⟩
  | message i f sent =>
      left
      rw [next] at hc
      split at hc
      next => exact ⟨c, hc, rfl⟩
      next =>
        dsimp only at hc
        split at hc
        · exact ⟨c, hc, rfl⟩
        · exact connections_withPhase hc
  | hangUp i => exact .inl (connections_withPhase hc)
  | cleanUp i =>
      left
      rw [next] at hc
      split at hc
      next => exact ⟨c, hc, rfl⟩
      next => exact connections_withPhase hc
  | call e => exact .inl ⟨c, hc, rfl⟩

/-- The connections of a server are those of workers with valid ids. -/
theorem workerOwned_of_reachable {v : Server} (h : server.Reachable v) :
  ∀ c ∈ v.connections, c.authority.workerOwned = true
  := by
  refine h.invariant (P := fun v => ∀ c ∈ v.connections, c.authority.workerOwned = true) ?_ ?_ ?_
  · rintro v ⟨-, hnone⟩ c hc
    rw [hnone] at hc
    cases hc
  · rintro v e v' hv ⟨-, rfl⟩ c hc
    obtain ⟨j, hj⟩ := List.mem_iff_getElem?.mp hc
    obtain ⟨c', hc', hsame⟩ | ⟨hf, reply, -, hopened⟩ := connection_of_next hj
    · rw [← hsame]
      exact hv c' (List.mem_of_getElem? hc')
    · exact worker_of_handshake hopened
  · rintro d v e v' _ _ ⟨⟩

end Server

theorem Server.run_new (epoch : CoordinatorEpoch) :
  server.Run [] { world := { state := Coordinator epoch } }
  := .start ⟨⟨epoch, rfl⟩, rfl⟩

/-- An event that may happen takes a run on. -/
theorem Server.run_next {h : List (Server × ServerEvent)} {v : Server} (hrun : server.Run h v)
    {e : ServerEvent} (he : e.Enabled v) :
  server.Run ((v, e) :: h) (v.next e)
  := hrun.step ⟨he, rfl⟩

/-! ### A fixture -/

namespace Fixture

/-- The handshake of an incarnation of the worker of the fixture. -/
def hello (boot : WorkerBootId) : Frame :=
  { type := .hello, payload := [putU64 1, putU64 boot, putU64 1].flatten }

/-- The server to which that worker has connected. -/
def connected : Server :=
  ({ world := { state := Coordinator 1 } } : Server).next (.handshake (hello 1))

theorem reachable_connected :
  server.Reachable connected
  := ⟨_, Server.run_next (Server.run_new 1) trivial⟩

theorem connected_connection :
  connected.connections[0]? = some { authority := owner }
  := by decide +kernel

end Fixture

end GpuDirectFabric
