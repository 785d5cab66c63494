import GpuDirectFabric.Library.Calls
import GpuDirectFabric.Streams
import GpuDirectFabric.WorkerClient

/-!
# Sessions

The clients of many workers call one coordinator at a time, each over a connection of its own that
the server has a thread for, while the server takes other connections and the process makes calls of
its own.  A connection carries bytes, in pieces of any size, and may break at any time; then the
call in progress and all later ones of the client report failure.

Such sessions refine calls that are made directly: the coordinator goes through calls one after
another, those of each client in the order in which it makes them and each of them at most once, and
what a client reports is what its own calls have returned, until its connection breaks.  A call that
reports failure then may have been made all the same, but only the first one; the later ones are not
made.
-/

namespace GpuDirectFabric

open Codec Persistence Protocol Coordinator CoordinatorServer

/-! ### Replies can be sent -/

/-- The message of an error of the call is short. -/
def Brief {α : Type} (call : Result α × State) : Prop :=
  ∀ e, call.1 = .error e → e.message.length ≤ 100

theorem Brief.ok {α : Type} {a : α} {s : State} :
  Brief (.ok a, s)
  := by
  rintro e ⟨⟩

theorem Brief.err {α : Type} {code : ErrorCode} {message : Str} {s : State}
    (h : message.length ≤ 100) :
  Brief ((GpuDirectFabric.err code message : Result α), s)
  := by
  rintro e ⟨⟩
  apply h

theorem Brief.check {α : Type} {c : Prop} [Decidable c] {code : ErrorCode} {message : Str}
    {s : State} {rest : Result α × State} (h : message.length ≤ 100) (hrest : Brief rest) :
  Brief (if c then (GpuDirectFabric.err code message, s) else rest)
  := by
  split
  · apply Brief.err h
  · apply hrest

theorem brief_addDevice (p : DeviceAddParams) (s : State) :
  Brief (addDevice p s)
  := by
  apply Brief.check
  · decide
  · apply Brief.ok

theorem brief_addEndpoint (p : EndpointAddParams) (s : State) :
  Brief (addEndpoint p s)
  := by
  apply Brief.check
  · decide
  apply Brief.check
  · decide
  · apply Brief.ok

theorem brief_publishCapability (p : CapabilityPublishParams) (s : State) :
  Brief (publishCapability p s)
  := by
  apply Brief.check
  · decide
  · dsimp only
    split
    · apply Brief.ok
    · apply Brief.ok

theorem brief_createBuffer (p : CreateBufferParams) (s : State) :
  Brief (createBuffer p s)
  := by
  apply Brief.check
  · decide
  apply Brief.check
  · decide
  apply Brief.check
  · decide
  · apply Brief.ok

/-- Without a backend, no error has a message from outside. -/
theorem brief_registerBuffer (p : RegisterParams) (s : State) :
  Brief (registerBuffer p none s)
  := by
  have hstage : ∀ b e latest t, Brief (stageRegistration p none b e latest t) := by
    intro b e latest t
    apply Brief.ok
  rw [registerBuffer]
  split
  next =>
    apply Brief.err
    decide
  apply Brief.check
  · decide
  split
  next =>
    apply Brief.err
    decide
  apply Brief.check
  · decide
  apply Brief.check
  · decide
  apply Brief.check
  · decide
  apply Brief.check
  · decide
  apply Brief.check
  · decide
  apply Brief.check
  · decide
  split
  next => apply hstage
  split
  next => apply Brief.ok
  split
  next =>
    apply Brief.check
    · decide
    · apply Brief.err
      decide
  apply Brief.check
  · decide
  · apply hstage

theorem sendable_sendAck (id1 id2 id3 : ℕ) :
  Sendable (sendAck id1 id2 id3)
  := by
  have hlength : (sendAck id1 id2 id3).payload.length = 25 := by
    simp [sendAck, putU64]
  rw [Sendable, hlength]
  decide

theorem sendable_sendNack (code : ErrorCode) {message : Str} (h : message.length ≤ 100) :
  Sendable (sendNack code message)
  := by
  have hlength : (sendNack code message).payload.length = 1 + (4 + (4 + message.length)) := by
    simp [sendNack, length_putStr, length_putU32]
  have hmax : kProtoMaxPayload = 2 ^ 20 := by decide
  rw [Sendable, hlength, hmax]
  omega

theorem sendable_respond {α : Type} {ack : α → Frame} (hack : ∀ a, Sendable (ack a))
    {call : Result α × State} (h : Brief call) {reply : Frame}
    (hreply : (respond ack call).1 = some reply) :
  Sendable reply
  := by
  obtain ⟨result, s⟩ := call
  cases result with
  | ok a =>
      obtain rfl := Option.some.inj hreply
      apply hack
  | error e =>
      obtain rfl := Option.some.inj hreply
      apply sendable_sendNack
      apply h e rfl

/-- Every reply of the server to a message can be sent. -/
theorem sendable_reply {f : Frame} {auth : Authority} {s : State} {reply : Frame}
    (h : (handleWorkerMessage f auth s).1 = some reply) :
  Sendable reply
  := by
  rw [handleWorkerMessage] at h
  cases htype : f.type with
  | publishDevice =>
      rw [htype] at h
      dsimp only at h
      split at h
      next => cases h
      next => apply sendable_respond (fun _ => sendable_sendAck _ _ _) (brief_addDevice _ _) h
  | publishEndpoint =>
      rw [htype] at h
      dsimp only at h
      split at h
      next => cases h
      next => apply sendable_respond (fun _ => sendable_sendAck _ _ _) (brief_addEndpoint _ _) h
  | publishCapability =>
      rw [htype] at h
      dsimp only at h
      split at h
      next => cases h
      next =>
        apply sendable_respond (fun _ => sendable_sendAck _ _ _) (brief_publishCapability _ _) h
  | createBuffer =>
      rw [htype] at h
      apply sendable_respond (fun _ => sendable_sendAck _ _ _) (brief_createBuffer _ _) h
  | registerBuffer =>
      rw [htype] at h
      apply sendable_respond (fun _ => sendable_sendAck _ _ _) (brief_registerBuffer _ _) h
  | ready =>
      rw [htype] at h
      obtain rfl := Option.some.inj h
      apply sendable_sendAck
  | _ =>
      rw [htype] at h
      obtain rfl := Option.some.inj h
      apply sendable_sendNack
      decide

/-! ### The calls of a client -/

/-- A call of a client, with its parameters. -/
inductive ClientCall where
  | publishDevice (name cc : Str) (peer : Bool) (s : Support) (p : Provenance)
  | publishEndpoint (cls : EndpointClass) (name top : Str) (healthy : Bool) (s : Support)
    (p : Provenance)
  | publishCapability (provider cap val : Str) (s : Support) (p : Provenance)
  | createBuffer (domain : MemoryDomain) (size align device : UInt64) (s : Support)
    (p : Provenance)
  | registerBuffer (buffer endpoint : UInt64) (s : Support) (p : Provenance)

/-- What a call of a client returns: an id, if it succeeds and has one to report, or whether it
succeeds. -/
inductive Report where
  | id (id : Option UInt64)
  | success (ok : Bool)
deriving DecidableEq

/-- The call reports that it has failed. -/
def Report.Failed (r : Report) : Prop := r = .id none ∨ r = .success false

namespace ClientCall

/-- The frame the client sends. -/
def frame (client : WorkerClient) : ClientCall → Frame
  | publishDevice name cc peer s p => client.deviceFrame name cc peer s p
  | publishEndpoint cls name top healthy s p => client.endpointFrame cls name top healthy s p
  | publishCapability provider cap val s p => client.capabilityFrame provider cap val s p
  | createBuffer domain size align device s p => client.bufferFrame domain size align device s p
  | registerBuffer buffer endpoint s p => client.registrationFrame buffer endpoint s p

/-- The enumerators are some of those that have names. -/
def InRange : ClientCall → Prop
  | publishDevice _ _ _ s p => CEnum.InRange s ∧ CEnum.InRange p
  | publishEndpoint cls _ _ _ s p => CEnum.InRange cls ∧ CEnum.InRange s ∧ CEnum.InRange p
  | publishCapability _ _ _ s p => CEnum.InRange s ∧ CEnum.InRange p
  | createBuffer domain _ _ _ s p => CEnum.InRange domain ∧ CEnum.InRange s ∧ CEnum.InRange p
  | registerBuffer _ _ s p => CEnum.InRange s ∧ CEnum.InRange p

/-- What the client returns when it has received the reply, if there is one. -/
def report (reply : Option Frame) : ClientCall → Report
  | publishCapability _ _ _ _ _ =>
    .success (WorkerClient.recvAck (reply.map encodeFrame)).isSome
  | _ => .id ((WorkerClient.recvAck (reply.map encodeFrame)).map Prod.fst)

/-- A call that receives no reply reports failure. -/
theorem report_none (call : ClientCall) :
  (call.report none).Failed
  := by
  cases call with
  | publishCapability => right; rfl
  | _ => left; rfl

/-- The call of the client on the connection `i`: what it returns, and the server after it. -/
def remote (client : WorkerClient) (i : ℕ) (v : Server) : ClientCall → Report × Server
  | publishDevice name cc peer s p => (client.publishDevice name cc peer s p i v).map .id id
  | publishEndpoint cls name top healthy s p =>
    (client.publishEndpoint cls name top healthy s p i v).map .id id
  | publishCapability provider cap val s p =>
    (client.publishCapability provider cap val s p i v).map .success id
  | createBuffer domain size align device s p =>
    (client.createBuffer domain size align device s p i v).map .id id
  | registerBuffer buffer endpoint s p =>
    (client.registerBuffer buffer endpoint s p i v).map .id id

/-- What is reported of the result of a call, and the state after it. -/
def reported {α : Type} (ok : α → Report) (failed : Report) (call : Result α × State) :
    Report × State :=
  call.map (fun
    | .ok a => ok a
    | .error _ => failed) id

/-- The call made directly under the authority: what a client would return, and the state after
it. -/
def direct (auth : Authority) (s : State) : ClientCall → Report × State
  | publishDevice name cc peer sup prov =>
    reported (fun d => .id (some (UInt64.ofNat d.id))) (.id none) (addDevice {
      name := name
      computeCapability := cc
      peerMemorySupported := peer
      support := sup
      provenance := prov
      authority := auth } s)
  | publishEndpoint cls name top healthy sup prov =>
    reported (fun e => .id (some (UInt64.ofNat e.id))) (.id none) (addEndpoint {
      endpointClass := cls
      name := name
      topologyHint := top
      healthy := healthy
      support := sup
      provenance := prov
      authority := auth } s)
  | publishCapability provider cap val sup prov =>
    reported (fun _ => .success true) (.success false) (Coordinator.publishCapability {
      provider := provider
      capability := cap
      value := val
      support := sup
      provenance := prov
      authority := auth } s)
  | createBuffer domain size align device sup prov =>
    reported (fun b => .id (some (UInt64.ofNat b.id))) (.id none) (Coordinator.createBuffer {
      domain := domain
      size := size.toNat
      alignment := align.toNat
      device := device.toNat
      locality := .local
      support := sup
      provenance := prov
      authority := auth
      name := "worker_buffer" } s)
  | registerBuffer buffer endpoint sup prov =>
    reported (fun r => .id (some (UInt64.ofNat r.id))) (.id none) (Coordinator.registerBuffer {
      buffer := buffer.toNat
      endpoint := endpoint.toNat
      authority := auth
      support := sup
      provenance := prov
      requiredCapabilities := [] } none s)

end ClientCall

/-- A call that a client can send: its enumerators are in range, and its frame is short enough. -/
structure Request where
  client : WorkerClient
  call : ClientCall
  inRange : call.InRange
  sendable : Sendable (call.frame client)

namespace Request

/-- The frame of a request. -/
def frame (r : Request) : { f : Frame // Sendable f } := ⟨r.call.frame r.client, r.sendable⟩

variable {v : Server} {i : ℕ} {c : Connection}

/-- A frame that is sent on a connection is a message on it. -/
theorem call_eq {f : Frame} (hf : Sendable f) (hc : v.connections[i]? = some c) :
  WorkerClient.call f i v
    = (WorkerClient.recvAck ((handleWorkerMessage f c.authority v.world.state).1.map encodeFrame),
      v.next (.message i f true))
  := by
  rw [WorkerClient.call, Server.receive, decodeFrame_encodeFrame hf]
  dsimp only
  rw [hc, Option.bind_some]

theorem callForId_eq {f : Frame} (hf : Sendable f) (hc : v.connections[i]? = some c) :
  WorkerClient.callForId f i v
    = ((WorkerClient.recvAck
        ((handleWorkerMessage f c.authority v.world.state).1.map encodeFrame)).map Prod.fst,
      v.next (.message i f true))
  := by
  rw [WorkerClient.callForId, call_eq hf hc]

/-- A call of a client on a connection is a message on it, and the report of the reply. -/
theorem remote_eq_message (r : Request) (hc : v.connections[i]? = some c) :
  r.call.remote r.client i v
    = (r.call.report (handleWorkerMessage (r.call.frame r.client) c.authority v.world.state).1,
      v.next (.message i (r.call.frame r.client) true))
  := by
  obtain ⟨client, call, hrange, hsendable⟩ := r
  dsimp only
  cases call with
  | publishDevice name cc peer s p =>
      rw [ClientCall.frame] at hsendable
      rw [ClientCall.remote, WorkerClient.publishDevice, callForId_eq hsendable hc]
      rfl
  | publishEndpoint cls name top healthy s p =>
      rw [ClientCall.frame] at hsendable
      rw [ClientCall.remote, WorkerClient.publishEndpoint, callForId_eq hsendable hc]
      rfl
  | publishCapability provider cap val s p =>
      rw [ClientCall.frame] at hsendable
      rw [ClientCall.remote, WorkerClient.publishCapability, call_eq hsendable hc]
      rfl
  | createBuffer domain size align device s p =>
      rw [ClientCall.frame] at hsendable
      rw [ClientCall.remote, WorkerClient.createBuffer, callForId_eq hsendable hc]
      rfl
  | registerBuffer buffer endpoint s p =>
      rw [ClientCall.frame] at hsendable
      rw [ClientCall.remote, WorkerClient.registerBuffer, callForId_eq hsendable hc]
      rfl

/-- A remote call that mirrors a direct one reports its result. -/
theorem map_of_mirrors {α β : Type} {remote : β × Server} {direct : Result α × State}
    {report : α → β} {failed : β} (h : Mirrors remote v direct report failed) (g : β → Report) :
  remote.map g id
    = (ClientCall.reported (fun a => g (report a)) (g failed) direct).map id v.withState
  := by
  obtain ⟨result, s⟩ := direct
  cases result with
  | ok a =>
      obtain rfl : remote = (report a, v.withState s) := h
      rfl
  | error e =>
      obtain ⟨rfl, rfl⟩ : remote = (failed, v) ∧ s = v.world.state := h
      rfl

/-- A call of a client is the direct call under the authority of the connection. -/
theorem remote_eq_direct (r : Request) (hc : v.connections[i]? = some c) :
  r.call.remote r.client i v = (r.call.direct c.authority v.world.state).map id v.withState
  := by
  obtain ⟨client, call, hrange, hsendable⟩ := r
  dsimp only
  cases call with
  | publishDevice name cc peer s p =>
      obtain ⟨hs, hp⟩ := hrange
      rw [ClientCall.remote, ClientCall.direct]
      apply map_of_mirrors (WorkerClient.publishDevice_mirrors hc client peer hs hp hsendable)
  | publishEndpoint cls name top healthy s p =>
      obtain ⟨hcls, hs, hp⟩ := hrange
      rw [ClientCall.remote, ClientCall.direct]
      apply map_of_mirrors
        (WorkerClient.publishEndpoint_mirrors hc client healthy hcls hs hp hsendable)
  | publishCapability provider cap val s p =>
      obtain ⟨hs, hp⟩ := hrange
      rw [ClientCall.remote, ClientCall.direct]
      apply map_of_mirrors (WorkerClient.publishCapability_mirrors hc client hs hp hsendable)
  | createBuffer domain size align device s p =>
      obtain ⟨hdomain, hs, hp⟩ := hrange
      rw [ClientCall.remote, ClientCall.direct]
      apply map_of_mirrors
        (WorkerClient.createBuffer_mirrors hc client size align device hdomain hs hp)
  | registerBuffer buffer endpoint s p =>
      obtain ⟨hs, hp⟩ := hrange
      rw [ClientCall.remote, ClientCall.direct]
      apply map_of_mirrors (WorkerClient.registerBuffer_mirrors hc client buffer endpoint hs hp)

/-- A message with a request is answered, and its reply reports the direct call, whose effect it
has. -/
theorem answered (r : Request) (hc : v.connections[i]? = some c) (hphase : c.phase = .receiving) :
  ∃ reply, (handleWorkerMessage (r.call.frame r.client) c.authority v.world.state).1 = some reply ∧
    r.call.report (some reply) = (r.call.direct c.authority v.world.state).1 ∧
    v.next (.message i (r.call.frame r.client) true)
      = v.withState (r.call.direct c.authority v.world.state).2
  := by
  have heq := (r.remote_eq_message hc).symm.trans (r.remote_eq_direct hc)
  have hreport := congrArg Prod.fst heq
  have hnext := congrArg Prod.snd heq
  rw [Prod.map_fst, id] at hreport
  rw [Prod.map_snd] at hnext
  cases hreply : (handleWorkerMessage (r.call.frame r.client) c.authority v.world.state).1 with
  | some reply =>
      rw [hreply] at hreport
      use reply, rfl, hreport, hnext
  | none =>
      -- the server would give up the connection, which a direct call leaves alone
      dsimp only at hnext
      rw [Server.next, hc] at hnext
      dsimp only at hnext
      rw [hreply, Option.isSome_none, Bool.false_and, if_neg Bool.false_ne_true] at hnext
      have hconnection := congrArg (fun u => u.connections[i]?) hnext
      rw [Server.withPhase] at hconnection
      dsimp only [Server.withState] at hconnection
      rw [List.getElem?_modify_eq, hc] at hconnection
      have hclosing := congrArg Connection.phase (Option.some.inj hconnection)
      rw [hphase] at hclosing
      cases hclosing

end Request

/-! ### Sessions over bytes -/

/-- What is carried on a connection: a frame that can be sent. -/
abbrev WireFrame := { f : Frame // Sendable f }

/-- The server as a service of the connections of `clients`: the thread of a connection receives a
frame, handles it and sends the reply.  All other events are steps of its own, the messages of other
connections among them. -/
def wire (clients : ℕ → Prop) : Service ℕ Server WireFrame WireFrame ServerEvent UInt8 where
  start := server.start
  serves i f v a v' := v.InPhase i .receiving ∧
    (v.connections[i]?.bind fun c => (handleWorkerMessage f.1 c.authority v.world.state).1)
      = some a.1 ∧
    v' = v.next (.message i f.1 true)
  own v e v' := server.step v e v' ∧ ∀ i f sent, clients i → e ≠ .message i f sent
  request f := encodeFrame f.1
  answer f := encodeFrame f.1

/-- A request is at the front of the stream exactly when `recv_frame` receives its frame. -/
theorem recvFrame_iff_request {c : TcpConn} (hc : c.Receives) (clients : ℕ → Prop) (f : WireFrame) :
  c.recvFrame.1 = .ok f.1 ↔ ∃ rest, c.inbound.queue = (wire clients).request f ++ rest
  := by
  have hdelivers := hc.delivers
  constructor
  · intro hrecv
    cases hparse : parseFrame c.inbound.queue with
    | error e =>
        rw [hparse, TcpConn.Delivers, hrecv] at hdelivers
        cases hdelivers
    | ok parsed =>
        rw [hparse, TcpConn.Delivers, hrecv] at hdelivers
        have hframe : f.1 = parsed.1 := Except.ok.inj hdelivers.1
        use parsed.2
        change c.inbound.queue = encodeFrame f.1 ++ parsed.2
        rw [hframe]
        apply (TcpConn.parseFrame_eq_ok_iff.mp hparse).2
  · rintro ⟨rest, hqueue⟩
    have hparse := TcpConn.parseFrame_eq_ok_iff.mpr ⟨f.2, hqueue⟩
    rw [hparse] at hdelivers
    apply hdelivers.1

/-- The programs of the clients of some connections: what to call next, after the reports so far. -/
def Programs := ℕ → Option (List Report → Option Request)

namespace Programs

variable (ps : Programs)

/-- The connection is that of a client. -/
def Client (i : ℕ) : Prop := (ps i).isSome = true

/-- What the client of the connection `i` calls next. -/
def request (i : ℕ) (reports : List Report) : Option Request := (ps i).bind fun p => p reports

/-- The reports with that of one call more, which has received a reply or none. -/
def report (i : ℕ) (reports : List Report) (reply : Option WireFrame) : List Report :=
  match ps.request i reports with
  | some r => reports ++ [r.call.report (reply.map Subtype.val)]
  | none => reports

/-- The reports of calls with these replies. -/
def reports (i : ℕ) (replies : List (Option WireFrame)) : List Report :=
  replies.foldl (ps.report i) []

/-- The frame the client of the connection `i` sends next. -/
def script (i : ℕ) (replies : List (Option WireFrame)) : Option WireFrame :=
  (ps.request i (ps.reports i replies)).map Request.frame

theorem reports_concat (i : ℕ) (replies : List (Option WireFrame)) (reply : Option WireFrame) :
  ps.reports i (replies ++ [reply]) = ps.report i (ps.reports i replies) reply
  := by rw [reports, reports, List.foldl_concat]

/-- Calls that receive no reply add reports of failure, one at least if there is a call to make. -/
theorem reports_unanswered (i n : ℕ) (replies : List (Option WireFrame)) :
  ∃ failures, ps.reports i (replies ++ List.replicate n none) = ps.reports i replies ++ failures ∧
    (∀ f ∈ failures, f.Failed) ∧
    (failures ≠ [] ↔ 0 < n ∧ (ps.request i (ps.reports i replies)).isSome = true)
  := by
  induction n with
  | zero =>
      use []
      simp
  | succ n ih =>
      obtain ⟨failures, heq, hfailed, hsome⟩ := ih
      rw [List.replicate_succ', ← List.append_assoc, reports_concat, heq, report]
      cases hrequest : ps.request i (ps.reports i replies ++ failures) with
      | some r =>
          use failures ++ [r.call.report none]
          refine ⟨List.append_assoc _ _ _, ?_, ?_⟩
          · intro f hf
            obtain hf | hf := List.mem_append.mp hf
            · apply hfailed f hf
            · obtain rfl := List.mem_singleton.mp hf
              apply r.call.report_none
          · refine iff_of_true (by simp) ⟨n.succ_pos, ?_⟩
            by_cases hnone : failures = []
            · rw [hnone, List.append_nil] at hrequest
              rw [hrequest, Option.isSome_some]
            · apply (hsome.mp hnone).2
      | none =>
          use failures, rfl, hfailed
          rw [hsome]
          apply and_congr_left
          intro hfirst
          apply iff_of_true _ n.succ_pos
          by_contra hzero
          -- with no call before it, there would be one to make
          have hnone : failures = [] := by
            by_contra hne
            apply hzero (hsome.mp hne).1
          rw [hnone, List.append_nil] at hrequest
          rw [hrequest] at hfirst
          cases hfirst

/-- The sessions of the clients with the server. -/
def sessions : System (Service.Lines ℕ Server WireFrame UInt8)
    (Service.LineEvent ℕ WireFrame WireFrame ServerEvent) :=
  (wire ps.Client).lines ps.script

end Programs

/-! ### Sessions of direct calls -/

/-- A server, and what the clients have reported. -/
structure Direct where
  server : Server
  reports : ℕ → List Report := fun _ => []

/-- What can happen when the calls of the clients are made directly. -/
inductive DirectEvent where
  | call (i : ℕ)
  | own (e : ServerEvent)

/-- A client makes its next call directly, under the authority of its connection, while the server
keeps the connection open; or the server takes a step of its own. -/
inductive DirectStep (ps : Programs) : Direct → DirectEvent → Direct → Prop
  | call {u : Direct} {i : ℕ} {r : Request} {c : Connection}
      (hrequest : ps.request i (u.reports i) = some r)
      (hc : u.server.connections[i]? = some c) (hphase : c.phase = .receiving) :
      DirectStep ps u (.call i)
        { server := u.server.withState (r.call.direct c.authority u.server.world.state).2
          reports := Function.update u.reports i
            (u.reports i ++ [(r.call.direct c.authority u.server.world.state).1]) }
  | own {u : Direct} {e : ServerEvent} {v : Server} (hown : server.step u.server e v)
      (hclients : ∀ i f sent, ps.Client i → e ≠ .message i f sent) :
      DirectStep ps u (.own e) { u with server := v }

/-- The sessions in which calls are made directly. -/
def Programs.direct (ps : Programs) : System Direct DirectEvent where
  start u := server.start u.server ∧ ∀ i, u.reports i = []
  step := DirectStep ps
  handover _ _ _ _ := False

/-! ### The refinement -/

theorem coded_wire (clients : ℕ → Prop) :
  (wire clients).Coded
  := by
  have hcode : PrefixCode (fun _ => True) fun f : WireFrame => encodeFrame f.1 := by
    intro f g rest rest' _ _ heq
    apply Subtype.ext
    apply prefixCode_encodeFrame f.1 g.1 rest rest' f.2 g.2 heq
  have hne : ∀ f : WireFrame, encodeFrame f.1 ≠ [] := by
    intro f hnil
    have hlength := length_encodeFrame f.1
    rw [hnil, List.length_nil, kProtoHeaderSize] at hlength
    omega
  exact ⟨hcode, hcode, hne, hne⟩

section

variable {ps : Programs}

/-- What the clients have been told, as they report it. -/
def told (ps : Programs) (u : Service.Told ℕ Server WireFrame) : Direct where
  server := u.object
  reports i := ps.reports i ((u.answers i).map some)

/-- One client is told one reply more. -/
theorem told_concat (u : Service.Told ℕ Server WireFrame) (v : Server) {i : ℕ} {r : Request}
    (hrequest : ps.request i ((told ps u).reports i) = some r) (reply : WireFrame) :
  told ps { object := v, answers := Function.update u.answers i (u.answers i ++ [reply]) }
    = { server := v
        reports := Function.update (told ps u).reports i
          ((told ps u).reports i ++ [r.call.report (some reply.1)]) }
  := by
  rw [told]
  congr 1
  funext j
  dsimp only
  by_cases hj : j = i
  · obtain rfl := hj
    have hrequest' : ps.request j (ps.reports j ((u.answers j).map some)) = some r := hrequest
    rw [Function.update_self, Function.update_self, List.map_append, List.map_singleton,
      ps.reports_concat, Programs.report, hrequest']
    rfl
  · rw [Function.update_of_ne hj, Function.update_of_ne hj]
    rfl

/-- Calls with frames are calls made directly. -/
theorem direct_of_atomic {u : Service.Told ℕ Server WireFrame}
    (h : ((wire ps.Client).atomic ps.script).Reachable u) :
  ps.direct.Reachable (told ps u)
  := by
  apply h.invariant (P := fun u => ps.direct.Reachable (told ps u))
  · rintro u ⟨hstart, hnone⟩
    refine ⟨[], .start ⟨hstart, ?_⟩⟩
    intro i
    change ps.reports i ((u.answers i).map some) = []
    rw [hnone]
    rfl
  · rintro u e u' ⟨history, hrun⟩ hstep
    cases hstep with
    | @call i q a s hscript hserves =>
        obtain ⟨r, hrequest, rfl⟩ := Option.map_eq_some_iff.mp hscript
        obtain ⟨⟨c, hc, hphase⟩, hreply, rfl⟩ := hserves
        obtain ⟨reply, hreply', hreport, hnext⟩ := r.answered hc hphase
        rw [hc] at hreply
        obtain rfl : reply = a.1 := Option.some.inj (hreply'.symm.trans hreply)
        refine ⟨_, hrun.step (e := .call i) ?_⟩
        have hcall := DirectStep.call (u := told ps u) hrequest hc hphase
        rw [told_concat u _ hrequest, hreport]
        change DirectStep ps _ _ ⟨u.object.next (.message i (r.call.frame r.client) true), _⟩
        rw [hnext]
        apply hcall
    | @own e _ hown =>
        refine ⟨_, hrun.step (e := .own e) ?_⟩
        apply DirectStep.own (u := told ps u) hown.1 hown.2
  · rintro d u e u' _ _ ⟨⟩

/-- To make the calls of clients directly is one way of going on for a server. -/
theorem server_of_direct {u : Direct} (h : ps.direct.Reachable u) :
  server.Reachable u.server
  := by
  apply h.invariant (P := fun u => server.Reachable u.server)
  · rintro u ⟨hstart, -⟩
    use [], .start hstart
  · rintro u e u' ⟨history, hrun⟩ hstep
    cases hstep with
    | @call i r c _ hc hphase =>
        obtain ⟨reply, -, -, hnext⟩ := r.answered hc hphase
        rw [← hnext]
        have hreceiving : u.server.InPhase i .receiving := ⟨c, hc, hphase⟩
        exact ⟨_, Server.run_next (e := .message i _ true) hrun hreceiving⟩
    | own hown => exact ⟨_, hrun.step hown⟩
  · rintro d u e u' _ _ ⟨⟩

/-- Sessions over bytes refine sessions of direct calls.  Whatever the interleaving, the pieces in
which bytes arrive and the connections that break, there is a run of direct calls, which every
client makes in its order and at most once each, that leads to the same server.  A client has
reported what its calls have returned, and then failures, if its connection has broken; and the
calls that have been made are those, and at most one more: the one it is waiting for, or the first
that has reported failure. -/
theorem sessions_refine {w : Service.Lines ℕ Server WireFrame UInt8}
    (h : ps.sessions.Reachable w) :
  ∃ u, ps.direct.Reachable u ∧ server.Reachable u.server ∧ u.server = w.object ∧
    ∀ i, ∃ heard failures, ps.reports i (w.line i).told = heard ++ failures ∧
      (∀ f ∈ failures, f.Failed) ∧ (failures ≠ [] → (w.line i).cut = true) ∧
      (u.reports i = heard ∨
        ((w.line i).waiting = true ∨ failures ≠ []) ∧ ∃ last, u.reports i = heard ++ [last])
  := by
  obtain ⟨u, hu, hmatches⟩ := Service.refines_atomic (coded_wire ps.Client) h
  have hdirect := direct_of_atomic hu
  use told ps u, hdirect, server_of_direct hdirect, hmatches.object
  intro i
  obtain ⟨heard, n, htold, hcut, hmade⟩ := (hmatches.stage i).told
  obtain ⟨failures, heq, hfailed, hsome⟩ := ps.reports_unanswered i n (heard.map some)
  rw [htold]
  use ps.reports i (heard.map some), failures, heq, hfailed
  constructor
  · intro hfailures
    apply (hcut (hsome.mp hfailures).1).1
  change ps.reports i ((u.answers i).map some) = _ ∨
    _ ∧ ∃ last, ps.reports i ((u.answers i).map some) = _
  obtain hsame | ⟨hopen, ⟨q, hscript⟩, a, hlast⟩ := hmade
  · left
    rw [hsame]
  · right
    obtain ⟨r, hrequest, -⟩ := Option.map_eq_some_iff.mp hscript
    constructor
    · apply hopen.imp_right
      intro hn
      apply hsome.mpr
      use hn
      rw [hrequest, Option.isSome_some]
    · use r.call.report (some a.1)
      rw [hlast, List.map_append, List.map_singleton, ps.reports_concat, Programs.report, hrequest]
      rfl

/-- A client that waits on a connection that neither end has given up is answered, whatever the
other connections are doing. -/
theorem session_answered {w : Service.Lines ℕ Server WireFrame UInt8}
    (h : ps.sessions.Reachable w) {i : ℕ} (hwaiting : (w.line i).waiting = true)
    (hcut : (w.line i).cut = false) (hphase : w.object.InPhase i .receiving) :
  (wire ps.Client).Hears ps.script i w
  := by
  apply Service.hears (coded_wire ps.Client) h hwaiting hcut
  intro f hscript
  obtain ⟨r, -, rfl⟩ := Option.map_eq_some_iff.mp hscript
  obtain ⟨c, hc, hreceiving⟩ := hphase
  obtain ⟨reply, hreply, -⟩ := r.answered hc hreceiving
  refine ⟨⟨reply, sendable_reply hreply⟩, _, ⟨c, hc, hreceiving⟩, ?_, rfl⟩
  rw [hc]
  apply hreply

end

namespace Fixture

/-- A request for a buffer. -/
def bufferRequest : Request where
  client := { worker := 1, boot := 1, epoch := 1 }
  call := .createBuffer .cudaDevice 4096 64 3 .synthetic .syntheticFixture
  inRange := ⟨by decide, by decide, by decide⟩
  sendable := by
    rw [Sendable]
    decide +kernel

/-- The client of the connection of the fixture asks for two buffers. -/
def programs : Programs := fun i =>
  if i = 0 then some fun reports => if reports.length < 2 then some bufferRequest else none
  else none

/-- The client has asked, and has not sent anything yet. -/
def asking : Service.Lines ℕ Server WireFrame UInt8 :=
  ({ object := connected } : Service.Lines ℕ Server WireFrame UInt8).withLine 0
    { waiting := true, unsent := encodeFrame bufferRequest.frame.1 }

theorem reachable_asking :
  programs.sessions.Reachable asking
  := by
  have hnew : programs.sessions.Run []
      { object := { world := { state := Coordinator 1 } } } :=
    .start ⟨⟨⟨1, rfl⟩, rfl⟩, fun _ => rfl⟩
  have hhandshake : (wire programs.Client).own { world := { state := Coordinator 1 } }
      (.handshake (hello 1)) connected := by
    refine ⟨⟨trivial, rfl⟩, ?_⟩
    rintro _ _ _ _ ⟨⟩
  have hconnected : programs.sessions.Run _ { object := connected } := hnew.step (.own hhandshake)
  exact ⟨_, hconnected.step (.ask (i := 0) (q := bufferRequest.frame) rfl rfl)⟩

/-- The reply to the request. -/
def ack : WireFrame := ⟨sendAck 2 1 0, sendable_sendAck _ _ _⟩

theorem serves_ack :
  (wire programs.Client).serves 0 bufferRequest.frame connected ack
    (connected.next (.message 0 bufferRequest.frame.1 true))
  := by
  refine ⟨⟨_, connected_connection, rfl⟩, ?_, rfl⟩
  rw [connected_connection]
  decide +kernel

/-- The request is carried out, the connection breaks before the reply arrives, and so the call and
the next one report failure. -/
theorem reachable_broken :
  ∃ w, programs.sessions.Reachable w ∧
    w.object = connected.next (.message 0 bufferRequest.frame.1 true) ∧
    w.line 0 = { told := [none, none], unanswered := encodeFrame ack.1, cut := true }
  := by
  obtain ⟨h, hrun⟩ := reachable_asking
  have hsent := hrun.step (.send (i := 0) (encodeFrame bufferRequest.frame.1).length rfl)
  have hup : [] ++ (encodeFrame bufferRequest.frame.1).take
      (encodeFrame bufferRequest.frame.1).length = encodeFrame bufferRequest.frame.1 ++ [] := by
    rw [List.take_length, List.nil_append, List.append_nil]
  have hserved := hsent.step
    (.serve (i := 0) (q := bufferRequest.frame) rfl hup serves_ack)
  have hfailed := (hserved.step (.cut (i := 0) 0)).step (.fail (i := 0) rfl rfl)
  have hasked := hfailed.step (.ask (i := 0) (q := bufferRequest.frame) rfl rfl)
  exact ⟨_, ⟨_, hasked.step (.fail (i := 0) rfl rfl)⟩, rfl, rfl⟩

end Fixture

/-- Two calls have reported failure, of which one has been made. -/
theorem sessions_refine_broken :
  ∃ (w : Service.Lines ℕ Server WireFrame UInt8) (u : Direct),
    w.object.world.state.buffers.size = 1 ∧
    Fixture.programs.reports 0 (w.line 0).told = [.id none, .id none] ∧
    Fixture.programs.direct.Reachable u ∧ server.Reachable u.server ∧ u.server = w.object ∧
    ∀ i, ∃ heard failures, Fixture.programs.reports i (w.line i).told = heard ++ failures ∧
      (∀ f ∈ failures, f.Failed) ∧ (failures ≠ [] → (w.line i).cut = true) ∧
      (u.reports i = heard ∨
        ((w.line i).waiting = true ∨ failures ≠ []) ∧ ∃ last, u.reports i = heard ++ [last])
  := by
  obtain ⟨w, hreachable, hobject, hline⟩ := Fixture.reachable_broken
  obtain ⟨u, hu⟩ := sessions_refine hreachable
  use w, u
  refine ⟨?_, ?_, hu⟩
  · rw [hobject]
    decide +kernel
  · rw [hline]
    rfl

theorem session_answered_asking :
  (wire Fixture.programs.Client).Hears Fixture.programs.script 0 Fixture.asking
  := by
  apply session_answered Fixture.reachable_asking
  · rfl
  · rfl
  · use { authority := Fixture.owner }, Fixture.connected_connection

end GpuDirectFabric
