import GpuDirectFabric.FrameCodec
import GpuDirectFabric.Messages

/-!
# The client of a worker

A worker process makes its calls of the coordinator through a client, which writes the parameters
of each call into a frame and reads the ids of what the call has made from the acknowledgement.  The
frame ends with the worker, boot id and epoch of the client, which the server does not read: the
call is made under the authority of the handshake.

A remote call has the effect of the local one, and says whether that succeeds.
-/

namespace GpuDirectFabric

open Codec Persistence Protocol Coordinator PayloadReader CoordinatorServer

/-! ### Written payloads -/

/-- A word that comes next in the payload is read. -/
theorem word_putLE {w n : ℕ} {r : PayloadReader} {rest : Bytes} (hw : 0 < w)
    (hrest : r.rest = putLE w n ++ rest) :
  word w r = (n % 256 ^ w, r.advanced w) ∧ (r.advanced w).rest = rest
  := by
  constructor
  · rw [word_apply hw, hrest, if_pos (by simp), List.take_left' (length_putLE w n), leNat_putLE]
  · rw [rest_advanced, hrest, List.drop_left' (length_putLE w n)]

/-- Where the image `bs` comes next in the payload, the read `m` returns `a` and goes past it. -/
def Yields {α : Type} (m : StateM PayloadReader α) (bs : Bytes) (a : α) : Prop :=
  ∀ (r : PayloadReader) (rest : Bytes), r.fail = false → r.rest = bs ++ rest →
    ∃ r', m r = (a, r') ∧ r'.fail = false ∧ r'.rest = rest

namespace Yields

variable {α β : Type}

/-- A reader that reads nothing. -/
theorem pure (a : α) :
  Yields (pure a : StateM PayloadReader α) [] a
  := fun r _ hfail hrest => ⟨r, rfl, hfail, hrest⟩

/-- A word is read back, before the rest of the read. -/
theorem word {w n : ℕ} {bs : Bytes} {b : β} {k : ℕ → StateM PayloadReader β} (hw : 0 < w)
    (hn : n < 256 ^ w) (hk : Yields (k n) bs b) :
  Yields (PayloadReader.word w >>= k) (putLE w n ++ bs) b
  := by
  intro r rest hfail hrest
  rw [List.append_assoc] at hrest
  obtain ⟨hword, hafter⟩ := word_putLE hw hrest
  rw [Nat.mod_eq_of_lt hn] at hword
  rw [bind_apply, hword]
  exact hk _ _ hfail hafter

/-- A string is read back, before the rest of the read. -/
theorem str {s : Str} {bs : Bytes} {b : Option β} {k : Str → StateM PayloadReader (Option β)}
    (hs : s.length ≤ maxStr) (hk : Yields (k s) bs b) :
  Yields (withStr k) (putStr s ++ bs) b
  := by
  intro r rest hfail hrest
  have hmax : maxStr = 2 ^ 20 := by decide
  rw [putStr, List.append_assoc, List.append_assoc] at hrest
  have hlength : r.p.length = r.off + (4 + (s.length + (bs ++ rest).length)) := by
    have hrest := congrArg List.length hrest
    rw [length_rest] at hrest
    simp only [List.length_append, length_putU32] at hrest ⊢
    omega
  have hlen : PayloadReader.u32 r = (s.length, r.advanced 4) := by
    rw [PayloadReader.u32, word_apply (by decide), hrest, if_pos (by simp [length_putU32]),
      List.take_left' (length_putU32 _), leNat_putU32 (by omega)]
  have hstr : PayloadReader.str r = (some s, (r.advanced 4).advanced s.length) := by
    have hdrop : (r.p.drop (r.off + 4)).take s.length = s := by
      have hrest : r.p.drop (r.off + 4) = s ++ (bs ++ rest) := by
        rw [← List.drop_drop, ← PayloadReader.rest, hrest, List.drop_left' (length_putU32 _)]
      rw [hrest, List.take_left]
    rw [PayloadReader.str, hlen]
    dsimp only
    rw [if_neg]
    · rw [advanced, hdrop]
    · simp only [advanced, hfail, Bool.false_or, Bool.or_eq_true, decide_eq_true_eq]
      omega
  rw [withStr, hstr]
  apply hk
  · exact hfail
  · rw [rest_advanced, rest_advanced, hrest, List.drop_left' (length_putU32 _), List.drop_left]

/-- What is read from a payload that starts with the image. -/
theorem reader {m : StateM PayloadReader α} {bs rest : Bytes} {a : α} (h : Yields m bs a)
    {f : Frame} (hpayload : f.payload = bs ++ rest) :
  (m f.reader).1 = a
  := by
  obtain ⟨r', hr', -⟩ := h f.reader rest rfl hpayload
  rw [hr']

end Yields

/-! ### The client -/

/-- A client, with the worker, boot id and epoch of its handshake. -/
structure WorkerClient where
  worker : UInt64 := 0
  boot : UInt64 := 0
  epoch : UInt64 := 0

/-- What becomes of the bytes of a frame that the worker of the connection `i` sends: the bytes of
the reply, if there is one, and the server after it. -/
def Server.receive (i : ℕ) (wire : Bytes) (v : Server) : Option Bytes × Server :=
  match decodeFrame wire with
  | .error _ => (none, v.next (.hangUp i))
  | .ok f =>
    let reply := v.connections[i]?.bind fun c =>
      (handleWorkerMessage f c.authority v.world.state).1
    (reply.map encodeFrame, v.next (.message i f true))

namespace WorkerClient

/-- The byte of an enumerator. -/
def putEnum {E : Type} [CEnum E] (e : E) : Bytes := putLE 1 (CEnum.toU32 e)

/-- The byte of a truth value. -/
def putFlag (b : Bool) : Bytes := putLE 1 (if b then 1 else 0)

/-- The words at the end of every payload. -/
def authority (client : WorkerClient) : Bytes :=
  [putU64 client.worker.toNat, putU64 client.boot.toNat, putU64 client.epoch.toNat].flatten

/-- The frame that publishes a device. -/
def deviceFrame (name cc : Str) (peer : Bool) (s : Support) (p : Provenance)
    (client : WorkerClient) : Frame :=
  { type := .publishDevice
    payload := [putStr name, putStr cc, putFlag peer, putEnum s, putEnum p,
      client.authority].flatten }

/-- The frame that publishes an endpoint. -/
def endpointFrame (cls : EndpointClass) (name top : Str) (healthy : Bool) (s : Support)
    (p : Provenance) (client : WorkerClient) : Frame :=
  { type := .publishEndpoint
    payload := [putEnum cls, putStr name, putStr top, putFlag healthy, putEnum s, putEnum p,
      client.authority].flatten }

/-- The frame that publishes an observation. -/
def capabilityFrame (provider cap val : Str) (s : Support) (p : Provenance)
    (client : WorkerClient) : Frame :=
  { type := .publishCapability
    payload := [putStr provider, putStr cap, putStr val, putEnum s, putEnum p,
      client.authority].flatten }

/-- The frame that asks for a buffer. -/
def bufferFrame (domain : MemoryDomain) (size align device : UInt64) (s : Support) (p : Provenance)
    (client : WorkerClient) : Frame :=
  { type := .createBuffer
    payload := [putEnum domain, putU64 size.toNat, putU64 align.toNat, putU64 device.toNat,
      putEnum s, putEnum p, client.authority].flatten }

/-- The frame that asks for a registration. -/
def registrationFrame (buffer endpoint : UInt64) (s : Support) (p : Provenance)
    (client : WorkerClient) : Frame :=
  { type := .registerBuffer
    payload := [putU64 buffer.toNat, putU64 endpoint.toNat, putEnum s, putEnum p,
      client.authority].flatten }

/-- The ids in an acknowledgement, if the reply is one. -/
def recvAck (reply : Option Bytes) : Option (UInt64 × UInt64) :=
  match reply.map decodeFrame with
  | none | some (.error _) => none
  | some (.ok f) =>
    if f.type = .nack then none
    else if f.type ≠ .ack then none
    else
      let (status, r) := u8 f.reader
      if r.fail then none
      else if status ≠ 0 then none
      else
        let (id1, r) := PayloadReader.u64 r
        let (id2, r) := PayloadReader.u64 r
        if r.fail then none else some (UInt64.ofNat id1, UInt64.ofNat id2)

/-- Send a frame on the connection `i` and receive the reply. -/
def call (f : Frame) (i : ℕ) (v : Server) : Option (UInt64 × UInt64) × Server :=
  let (reply, v) := v.receive i (encodeFrame f)
  (recvAck reply, v)

/-- A call that reports the first of the ids; `none` stands for `false`. -/
def callForId (f : Frame) (i : ℕ) (v : Server) : Option UInt64 × Server :=
  let (ids, v) := call f i v
  (ids.map Prod.fst, v)

/-- `WorkerClient::publish_device`. -/
def publishDevice (name cc : Str) (peer : Bool) (s : Support) (p : Provenance)
    (client : WorkerClient) (i : ℕ) (v : Server) : Option UInt64 × Server :=
  callForId (client.deviceFrame name cc peer s p) i v

/-- `WorkerClient::publish_endpoint`. -/
def publishEndpoint (cls : EndpointClass) (name top : Str) (healthy : Bool) (s : Support)
    (p : Provenance) (client : WorkerClient) (i : ℕ) (v : Server) : Option UInt64 × Server :=
  callForId (client.endpointFrame cls name top healthy s p) i v

/-- `WorkerClient::publish_capability`, which reports success alone. -/
def publishCapability (provider cap val : Str) (s : Support) (p : Provenance)
    (client : WorkerClient) (i : ℕ) (v : Server) : Bool × Server :=
  let (ids, v) := call (client.capabilityFrame provider cap val s p) i v
  (ids.isSome, v)

/-- `WorkerClient::create_buffer`. -/
def createBuffer (domain : MemoryDomain) (size align device : UInt64) (s : Support)
    (p : Provenance) (client : WorkerClient) (i : ℕ) (v : Server) : Option UInt64 × Server :=
  callForId (client.bufferFrame domain size align device s p) i v

/-- `WorkerClient::register_buffer`. -/
def registerBuffer (buffer endpoint : UInt64) (s : Support) (p : Provenance)
    (client : WorkerClient) (i : ℕ) (v : Server) : Option UInt64 × Server :=
  callForId (client.registrationFrame buffer endpoint s p) i v

/-! ### Replies -/

/-- The image of a frame is read as the frame or is rejected. -/
theorem decodeFrame_image (f : Frame) :
  decodeFrame (encodeFrame f) = .ok f ∨ ∃ error, decodeFrame (encodeFrame f) = .error error
  := by
  cases hdecode : decodeFrame (encodeFrame f) with
  | error error => exact .inr ⟨error, rfl⟩
  | ok f' =>
      left
      have hlength := congrArg List.length (encodeFrame_of_decodeFrame hdecode)
      rw [length_encodeFrame, length_encodeFrame] at hlength
      rw [← hdecode]
      apply decodeFrame_encodeFrame
      have := length_of_decodeFrame hdecode
      omega

/-- The ids of an acknowledgement come back modulo `2 ^ 64`. -/
theorem recvAck_ack (id1 id2 id3 : ℕ) :
  recvAck (some (encodeFrame (sendAck id1 id2 id3))) = some (UInt64.ofNat id1, UInt64.ofNat id2)
  := by
  have hlength : (sendAck id1 id2 id3).payload.length = 25 := by
    simp [sendAck, putU64]
  have hdecode : decodeFrame (encodeFrame (sendAck id1 id2 id3)) = .ok (sendAck id1 id2 id3) := by
    apply decodeFrame_encodeFrame
    rw [hlength]
    decide
  have hrest : (sendAck id1 id2 id3).reader.rest
      = putLE 1 0 ++ (putLE 8 id1 ++ (putLE 8 id2 ++ putU64 id3)) := by
    simp [sendAck, Frame.reader, PayloadReader.rest, putU64]
  obtain ⟨hstatus, hrest⟩ := word_putLE Nat.one_pos hrest
  obtain ⟨hid1, hrest⟩ := word_putLE (by decide) hrest
  obtain ⟨hid2, -⟩ := word_putLE (by decide) hrest
  have hword : ∀ n, UInt64.ofNat (n % 256 ^ 8) = UInt64.ofNat n := fun _ => UInt64.ofNat_mod_size
  rw [recvAck, Option.map_some, hdecode]
  simp only [u8, PayloadReader.u64, hstatus, hid1, hid2, hword]
  rfl

/-- A refusal comes back as failure, without its code. -/
theorem recvAck_nack (code : ErrorCode) (msg : Str) :
  recvAck (some (encodeFrame (sendNack code msg))) = none
  := by
  rw [recvAck, Option.map_some]
  obtain hdecode | ⟨error, hdecode⟩ := decodeFrame_image (sendNack code msg)
  · rw [hdecode]
    rfl
  · rw [hdecode]

/-! ### Parameters -/

/-- An enumerator with a name fits a byte when there are at most 256 names. -/
theorem enum_lt {E : Type} [CEnum E] {e : E} (h : CEnum.InRange e)
    (hnames : (CEnum.names E).length ≤ 256) :
  CEnum.toU32 e < 256 ^ 1
  := lt_of_lt_of_le h hnames

theorem support_lt {s : Support} (h : CEnum.InRange s) :
  CEnum.toU32 s < 256 ^ 1
  := enum_lt h (by decide)

theorem provenance_lt {p : Provenance} (h : CEnum.InRange p) :
  CEnum.toU32 p < 256 ^ 1
  := enum_lt h (by decide)

theorem flag_lt (b : Bool) :
  (if b then 1 else 0) < 256 ^ 1
  := by cases b <;> decide

theorem word_lt (n : UInt64) :
  n.toNat < 256 ^ 8
  := n.toNat_lt

theorem flag_bne_zero (b : Bool) :
  ((if b then 1 else 0) != 0) = b
  := by cases b <;> rfl

/-- The server reads from the payload what the client has put there. -/
theorem deviceParams_yields (auth : Authority) {name cc : Str} (peer : Bool) {s : Support}
    {p : Provenance} (hs : CEnum.InRange s) (hp : CEnum.InRange p) (hname : name.length ≤ maxStr)
    (hcc : cc.length ≤ maxStr) :
  Yields (deviceParams auth)
    (putStr name ++ (putStr cc ++ (putFlag peer ++ (putEnum s ++ (putEnum p ++ [])))))
    (some {
      name := name
      computeCapability := cc
      peerMemorySupported := peer
      support := s
      provenance := p
      authority := auth })
  := by
  refine Yields.str hname (Yields.str hcc ?_)
  refine Yields.word Nat.one_pos (flag_lt peer) (Yields.word Nat.one_pos (support_lt hs) ?_)
  refine Yields.word Nat.one_pos (provenance_lt hp) ?_
  rw [flag_bne_zero, CEnum.ofU32_toU32, CEnum.ofU32_toU32]
  exact .pure _

theorem endpointParams_yields (auth : Authority) {cls : EndpointClass} {name top : Str}
    (healthy : Bool) {s : Support} {p : Provenance} (hcls : CEnum.InRange cls)
    (hs : CEnum.InRange s) (hp : CEnum.InRange p) (hname : name.length ≤ maxStr)
    (htop : top.length ≤ maxStr) :
  Yields (endpointParams auth)
    (putEnum cls ++ (putStr name ++ (putStr top ++ (putFlag healthy ++ (putEnum s ++
      (putEnum p ++ []))))))
    (some {
      endpointClass := cls
      name := name
      topologyHint := top
      healthy := healthy
      support := s
      provenance := p
      authority := auth })
  := by
  refine Yields.word Nat.one_pos (enum_lt hcls (by decide)) ?_
  refine Yields.str hname (Yields.str htop ?_)
  refine Yields.word Nat.one_pos (flag_lt healthy) (Yields.word Nat.one_pos (support_lt hs) ?_)
  refine Yields.word Nat.one_pos (provenance_lt hp) ?_
  rw [flag_bne_zero, CEnum.ofU32_toU32, CEnum.ofU32_toU32, CEnum.ofU32_toU32]
  exact .pure _

theorem capabilityParams_yields (auth : Authority) {provider cap val : Str} {s : Support}
    {p : Provenance} (hs : CEnum.InRange s) (hp : CEnum.InRange p)
    (hprovider : provider.length ≤ maxStr) (hcap : cap.length ≤ maxStr)
    (hval : val.length ≤ maxStr) :
  Yields (capabilityParams auth)
    (putStr provider ++ (putStr cap ++ (putStr val ++ (putEnum s ++ (putEnum p ++ [])))))
    (some {
      provider := provider
      capability := cap
      value := val
      support := s
      provenance := p
      authority := auth })
  := by
  refine Yields.str hprovider (Yields.str hcap (Yields.str hval ?_))
  refine Yields.word Nat.one_pos (support_lt hs) (Yields.word Nat.one_pos (provenance_lt hp) ?_)
  rw [CEnum.ofU32_toU32, CEnum.ofU32_toU32]
  exact .pure _

theorem bufferParams_yields (auth : Authority) {domain : MemoryDomain} (size align device : UInt64)
    {s : Support} {p : Provenance} (hdomain : CEnum.InRange domain) (hs : CEnum.InRange s)
    (hp : CEnum.InRange p) :
  Yields (bufferParams auth)
    (putEnum domain ++ (putU64 size.toNat ++ (putU64 align.toNat ++ (putU64 device.toNat ++
      (putEnum s ++ (putEnum p ++ []))))))
    { domain := domain
      size := size.toNat
      alignment := align.toNat
      device := device.toNat
      locality := .local
      support := s
      provenance := p
      authority := auth
      name := "worker_buffer" }
  := by
  refine Yields.word Nat.one_pos (enum_lt hdomain (by decide)) ?_
  refine Yields.word (by decide) (word_lt size) (Yields.word (by decide) (word_lt align) ?_)
  refine Yields.word (by decide) (word_lt device) (Yields.word Nat.one_pos (support_lt hs) ?_)
  refine Yields.word Nat.one_pos (provenance_lt hp) ?_
  rw [CEnum.ofU32_toU32, CEnum.ofU32_toU32, CEnum.ofU32_toU32]
  exact .pure _

theorem registerParams_yields (auth : Authority) (buffer endpoint : UInt64) {s : Support}
    {p : Provenance} (hs : CEnum.InRange s) (hp : CEnum.InRange p) :
  Yields (registerParams auth)
    (putU64 buffer.toNat ++ (putU64 endpoint.toNat ++ (putEnum s ++ (putEnum p ++ []))))
    { buffer := buffer.toNat
      endpoint := endpoint.toNat
      authority := auth
      support := s
      provenance := p
      requiredCapabilities := [] }
  := by
  refine Yields.word (by decide) (word_lt buffer) (Yields.word (by decide) (word_lt endpoint) ?_)
  refine Yields.word Nat.one_pos (support_lt hs) (Yields.word Nat.one_pos (provenance_lt hp) ?_)
  rw [CEnum.ofU32_toU32, CEnum.ofU32_toU32]
  exact .pure _

end WorkerClient

/-! ### Remote calls -/

/-- The remote call has the effect of the direct one on the coordinator and returns what `report`
says of its result; or the direct one fails, and the remote one returns `failed` and leaves the
server alone. -/
def Mirrors {α β : Type} (remote : β × Server) (v : Server) (direct : Result α × State)
    (report : α → β) (failed : β) : Prop :=
  match direct.1 with
  | .ok a => remote = (report a, v.withState direct.2)
  | .error _ => remote = (failed, v) ∧ direct.2 = v.world.state

/-- What is made of the answer of a remote call. -/
theorem Mirrors.map {α β γ : Type} {remote : β × Server} {v : Server} {direct : Result α × State}
    {report : α → β} {failed : β} (h : Mirrors remote v direct report failed) (g : β → γ) :
  Mirrors (g remote.1, remote.2) v direct (fun a => g (report a)) (g failed)
  := by
  obtain ⟨result, s⟩ := direct
  cases result with
  | ok a =>
      obtain rfl : remote = (report a, v.withState s) := h
      rfl
  | error e =>
      obtain ⟨hremote, hs⟩ : remote = (failed, v) ∧ s = v.world.state := h
      rw [hremote]
      exact ⟨rfl, hs⟩

namespace WorkerClient

/-- A call whose handling is that of a direct one, with an acknowledgement of its ids. -/
theorem call_mirrors {α : Type} {v : Server} {i : ℕ} {c : Connection}
    (hc : v.connections[i]? = some c) {f : Frame} (hbound : f.payload.length ≤ kProtoMaxPayload)
    {direct : Result α × State} (id1 id2 : α → ℕ)
    (hhandled : handleWorkerMessage f c.authority v.world.state
      = respond (fun a => sendAck (id1 a) (id2 a) 0) direct)
    {P : Prop} (hguarded : Guarded v.world.state P direct) :
  Mirrors (call f i v) v direct (fun a => some (UInt64.ofNat (id1 a), UInt64.ofNat (id2 a))) none
  := by
  rw [call, Server.receive, decodeFrame_encodeFrame hbound]
  dsimp only
  rw [Server.next, hc, Option.bind_some]
  dsimp only
  rw [hhandled]
  cases hguarded with
  | passed hP a s' =>
      rw [Mirrors, respond]
      dsimp only
      rw [Option.map_some, recvAck_ack]
      rfl
  | refused hP e =>
      rw [Mirrors, respond]
      dsimp only
      rw [Option.map_some, recvAck_nack]
      exact ⟨rfl, rfl⟩

/-- A call that reports an id mirrors the direct call whose reply the server sends. -/
theorem callForId_mirrors {α : Type} {v : Server} {i : ℕ} {c : Connection}
    (hc : v.connections[i]? = some c) {f : Frame} (hbound : f.payload.length ≤ kProtoMaxPayload)
    {direct : Result α × State} (id1 id2 : α → ℕ)
    (hhandled : handleWorkerMessage f c.authority v.world.state
      = respond (fun a => sendAck (id1 a) (id2 a) 0) direct)
    {P : Prop} (hguarded : Guarded v.world.state P direct) :
  Mirrors (callForId f i v) v direct (fun a => some (UInt64.ofNat (id1 a))) none
  := (call_mirrors hc hbound id1 id2 hhandled hguarded).map (Option.map Prod.fst)

/-- So does a call that reports success. -/
theorem callForSuccess_mirrors {α : Type} {v : Server} {i : ℕ} {c : Connection}
    (hc : v.connections[i]? = some c) {f : Frame} (hbound : f.payload.length ≤ kProtoMaxPayload)
    {direct : Result α × State} (id1 id2 : α → ℕ)
    (hhandled : handleWorkerMessage f c.authority v.world.state
      = respond (fun a => sendAck (id1 a) (id2 a) 0) direct)
    {P : Prop} (hguarded : Guarded v.world.state P direct) :
  Mirrors (let (ids, v) := call f i v; (ids.isSome, v)) v direct (fun _ => true) false
  := (call_mirrors hc hbound id1 id2 hhandled hguarded).map Option.isSome

theorem publishDevice_mirrors {v : Server} {i : ℕ} {c : Connection}
    (hc : v.connections[i]? = some c) (client : WorkerClient) {name cc : Str} (peer : Bool)
    {s : Support} {p : Provenance} (hs : CEnum.InRange s) (hp : CEnum.InRange p)
    (hbound : (client.deviceFrame name cc peer s p).payload.length ≤ kProtoMaxPayload) :
  Mirrors (client.publishDevice name cc peer s p i v) v
    (addDevice {
      name := name
      computeCapability := cc
      peerMemorySupported := peer
      support := s
      provenance := p
      authority := c.authority } v.world.state)
    (fun d => some (UInt64.ofNat d.id)) none
  := by
  have hpayload : (client.deviceFrame name cc peer s p).payload
      = putStr name ++ (putStr cc ++ (putFlag peer ++ (putEnum s ++ (putEnum p ++ [])))) ++
        client.authority := by
    simp [deviceFrame]
  have hlength := congrArg List.length hpayload
  simp only [List.length_append, length_putStr] at hlength
  have hname : name.length ≤ kProtoMaxPayload := by omega
  have hcc : cc.length ≤ kProtoMaxPayload := by omega
  have hread := (deviceParams_yields c.authority peer hs hp hname hcc).reader hpayload
  refine callForId_mirrors hc hbound DeviceRecord.id (fun _ => 0) ?_
    (addDevice_guarded _ v.world.state)
  rw [handleWorkerMessage]
  dsimp only [deviceFrame] at hread ⊢
  rw [hread]

theorem publishEndpoint_mirrors {v : Server} {i : ℕ} {c : Connection}
    (hc : v.connections[i]? = some c) (client : WorkerClient) {cls : EndpointClass}
    {name top : Str} (healthy : Bool) {s : Support} {p : Provenance} (hcls : CEnum.InRange cls)
    (hs : CEnum.InRange s) (hp : CEnum.InRange p)
    (hbound : (client.endpointFrame cls name top healthy s p).payload.length ≤ kProtoMaxPayload) :
  Mirrors (client.publishEndpoint cls name top healthy s p i v) v
    (addEndpoint {
      endpointClass := cls
      name := name
      topologyHint := top
      healthy := healthy
      support := s
      provenance := p
      authority := c.authority } v.world.state)
    (fun e => some (UInt64.ofNat e.id)) none
  := by
  have hpayload : (client.endpointFrame cls name top healthy s p).payload
      = putEnum cls ++ (putStr name ++ (putStr top ++ (putFlag healthy ++ (putEnum s ++
        (putEnum p ++ []))))) ++ client.authority := by
    simp [endpointFrame]
  have hlength := congrArg List.length hpayload
  simp only [List.length_append, length_putStr] at hlength
  have hname : name.length ≤ kProtoMaxPayload := by omega
  have htop : top.length ≤ kProtoMaxPayload := by omega
  have hread := (endpointParams_yields c.authority healthy hcls hs hp hname htop).reader hpayload
  refine callForId_mirrors hc hbound EndpointRecord.id (fun _ => 0) ?_
    (addEndpoint_guarded _ v.world.state)
  rw [handleWorkerMessage]
  dsimp only [endpointFrame] at hread ⊢
  rw [hread]

theorem publishCapability_mirrors {v : Server} {i : ℕ} {c : Connection}
    (hc : v.connections[i]? = some c) (client : WorkerClient) {provider cap val : Str}
    {s : Support} {p : Provenance} (hs : CEnum.InRange s) (hp : CEnum.InRange p)
    (hbound : (client.capabilityFrame provider cap val s p).payload.length ≤ kProtoMaxPayload) :
  Mirrors (client.publishCapability provider cap val s p i v) v
    (Coordinator.publishCapability {
      provider := provider
      capability := cap
      value := val
      support := s
      provenance := p
      authority := c.authority } v.world.state)
    (fun _ => true) false
  := by
  have hpayload : (client.capabilityFrame provider cap val s p).payload
      = putStr provider ++ (putStr cap ++ (putStr val ++ (putEnum s ++ (putEnum p ++ [])))) ++
        client.authority := by
    simp [capabilityFrame]
  have hlength := congrArg List.length hpayload
  simp only [List.length_append, length_putStr] at hlength
  have hprovider : provider.length ≤ kProtoMaxPayload := by omega
  have hcap : cap.length ≤ kProtoMaxPayload := by omega
  have hval : val.length ≤ kProtoMaxPayload := by omega
  have hread := (capabilityParams_yields c.authority hs hp hprovider hcap hval).reader hpayload
  rw [publishCapability]
  refine callForSuccess_mirrors hc hbound CapabilityObservation.id (fun _ => 0) ?_
    (publishCapability_guarded _ v.world.state)
  rw [handleWorkerMessage]
  dsimp only [capabilityFrame] at hread ⊢
  rw [hread]

theorem createBuffer_mirrors {v : Server} {i : ℕ} {c : Connection}
    (hc : v.connections[i]? = some c) (client : WorkerClient) {domain : MemoryDomain}
    (size align device : UInt64) {s : Support} {p : Provenance} (hdomain : CEnum.InRange domain)
    (hs : CEnum.InRange s) (hp : CEnum.InRange p) :
  Mirrors (client.createBuffer domain size align device s p i v) v
    (Coordinator.createBuffer {
      domain := domain
      size := size.toNat
      alignment := align.toNat
      device := device.toNat
      locality := .local
      support := s
      provenance := p
      authority := c.authority
      name := "worker_buffer" } v.world.state)
    (fun b => some (UInt64.ofNat b.id)) none
  := by
  have hpayload : (client.bufferFrame domain size align device s p).payload
      = putEnum domain ++ (putU64 size.toNat ++ (putU64 align.toNat ++ (putU64 device.toNat ++
        (putEnum s ++ (putEnum p ++ []))))) ++ client.authority := by
    simp [bufferFrame]
  have hbound : (client.bufferFrame domain size align device s p).payload.length
      ≤ kProtoMaxPayload := by
    have hmax : kProtoMaxPayload = 2 ^ 20 := by decide
    simp only [bufferFrame, WorkerClient.authority, putEnum, putU64, length_putLE,
      List.flatten_cons, List.flatten_nil, List.length_append, List.length_nil]
    omega
  have hread := (bufferParams_yields c.authority size align device hdomain hs hp).reader hpayload
  refine callForId_mirrors hc hbound BufferRecord.id BufferRecord.generation ?_
    (createBuffer_guarded _ v.world.state)
  rw [handleWorkerMessage]
  dsimp only [bufferFrame] at hread ⊢
  rw [hread]

theorem registerBuffer_mirrors {v : Server} {i : ℕ} {c : Connection}
    (hc : v.connections[i]? = some c) (client : WorkerClient) (buffer endpoint : UInt64)
    {s : Support} {p : Provenance} (hs : CEnum.InRange s) (hp : CEnum.InRange p) :
  Mirrors (client.registerBuffer buffer endpoint s p i v) v
    (Coordinator.registerBuffer {
      buffer := buffer.toNat
      endpoint := endpoint.toNat
      authority := c.authority
      support := s
      provenance := p
      requiredCapabilities := [] } none v.world.state)
    (fun r => some (UInt64.ofNat r.id)) none
  := by
  have hpayload : (client.registrationFrame buffer endpoint s p).payload
      = putU64 buffer.toNat ++ (putU64 endpoint.toNat ++ (putEnum s ++ (putEnum p ++ []))) ++
        client.authority := by
    simp [registrationFrame]
  have hbound : (client.registrationFrame buffer endpoint s p).payload.length
      ≤ kProtoMaxPayload := by
    have hmax : kProtoMaxPayload = 2 ^ 20 := by decide
    simp only [registrationFrame, WorkerClient.authority, putEnum, putU64, length_putLE,
      List.flatten_cons, List.flatten_nil, List.length_append, List.length_nil]
    omega
  have hread := (registerParams_yields c.authority buffer endpoint hs hp).reader hpayload
  refine callForId_mirrors hc hbound Registration.id Registration.generation ?_
    (registerBuffer_guarded _ v.world.state)
  rw [handleWorkerMessage]
  dsimp only [registrationFrame] at hread ⊢
  rw [hread]

/-- The calls of the client on the connection `i`, with enumerators and payloads in range, mirror
the direct calls with the same parameters under the authority `auth`. -/
structure MirrorsCalls (client : WorkerClient) (i : ℕ) (auth : Authority) (v : Server) : Prop where
  publishDevice : ∀ name cc peer s p, CEnum.InRange s → CEnum.InRange p →
    (client.deviceFrame name cc peer s p).payload.length ≤ kProtoMaxPayload →
    Mirrors (client.publishDevice name cc peer s p i v) v
      (addDevice {
        name := name
        computeCapability := cc
        peerMemorySupported := peer
        support := s
        provenance := p
        authority := auth } v.world.state)
      (fun d => some (UInt64.ofNat d.id)) none
  publishEndpoint : ∀ cls name top healthy s p, CEnum.InRange cls → CEnum.InRange s →
    CEnum.InRange p →
    (client.endpointFrame cls name top healthy s p).payload.length ≤ kProtoMaxPayload →
    Mirrors (client.publishEndpoint cls name top healthy s p i v) v
      (addEndpoint {
        endpointClass := cls
        name := name
        topologyHint := top
        healthy := healthy
        support := s
        provenance := p
        authority := auth } v.world.state)
      (fun e => some (UInt64.ofNat e.id)) none
  publishCapability : ∀ provider cap val s p, CEnum.InRange s → CEnum.InRange p →
    (client.capabilityFrame provider cap val s p).payload.length ≤ kProtoMaxPayload →
    Mirrors (client.publishCapability provider cap val s p i v) v
      (Coordinator.publishCapability {
        provider := provider
        capability := cap
        value := val
        support := s
        provenance := p
        authority := auth } v.world.state)
      (fun _ => true) false
  createBuffer : ∀ domain size align device s p, CEnum.InRange domain → CEnum.InRange s →
    CEnum.InRange p →
    Mirrors (client.createBuffer domain size align device s p i v) v
      (Coordinator.createBuffer {
        domain := domain
        size := size.toNat
        alignment := align.toNat
        device := device.toNat
        locality := .local
        support := s
        provenance := p
        authority := auth
        name := "worker_buffer" } v.world.state)
      (fun b => some (UInt64.ofNat b.id)) none
  registerBuffer : ∀ buffer endpoint s p, CEnum.InRange s → CEnum.InRange p →
    Mirrors (client.registerBuffer buffer endpoint s p i v) v
      (Coordinator.registerBuffer {
        buffer := buffer.toNat
        endpoint := endpoint.toNat
        authority := auth
        support := s
        provenance := p
        requiredCapabilities := [] } none v.world.state)
      (fun r => some (UInt64.ofNat r.id)) none

/-- The calls of every client mirror the direct ones, on every connection of a worker and in every
state of the coordinator. -/
theorem remote_calls_mirror {v : Server} {i : ℕ} {c : Connection}
    (hc : v.connections[i]? = some c) (client : WorkerClient) :
  client.MirrorsCalls i c.authority v
  where
  publishDevice _ _ peer _ _ hs hp hbound := publishDevice_mirrors hc client peer hs hp hbound
  publishEndpoint _ _ _ healthy _ _ hcls hs hp hbound :=
    publishEndpoint_mirrors hc client healthy hcls hs hp hbound
  publishCapability _ _ _ _ _ hs hp hbound := publishCapability_mirrors hc client hs hp hbound
  createBuffer _ size align device _ _ hdomain hs hp :=
    createBuffer_mirrors hc client size align device hdomain hs hp
  registerBuffer buffer endpoint _ _ hs hp := registerBuffer_mirrors hc client buffer endpoint hs hp

theorem remote_calls_mirror_connected :
  ({ worker := 1, boot := 1, epoch := 1 } : WorkerClient).MirrorsCalls 0 Fixture.owner
    Fixture.connected
  := remote_calls_mirror Fixture.connected_connection _

end WorkerClient

end GpuDirectFabric
