import GpuDirectFabric.Server
import GpuDirectFabric.StaleWorkers
import GpuDirectFabric.Incarnations

/-!
# Messages to the server

A message changes the state of the coordinator only while the incarnation that opened the
connection is live.

A message whose payload is malformed is to change nothing and not to be acknowledged.  The handlers
give up at a string that is cut off; but they do not look at the reader's flag after their other
reads, nor test the range of an enumeration byte, so what is missing is read as zero, and the call
goes through unless its own checks refuse what was read.
-/

namespace GpuDirectFabric

open Codec Persistence Protocol Coordinator PayloadReader CoordinatorServer

/-! ### Live incarnations -/

/-- A worker that is not live changes nothing by a message. -/
theorem handleWorkerMessage_of_stale {auth : Authority} {s : State}
    (howned : auth.workerOwned = true) (hstale : s.workerLiveLocked auth = false) (f : Frame) :
  (handleWorkerMessage f auth s).2 = s
  := by
  rw [handleWorkerMessage_state]
  cases hcall : workerCall f auth with
  | none => rfl
  | some e =>
      cases publishes_of_workerCall hcall with
      | addDevice hp | publishCapability hp =>
          obtain rfl := hp
          exact unchanged_of_stale howned hstale
      | addEndpoint hp => exact addEndpoint_of_stale howned hstale hp
      | createBuffer hp => exact createBuffer_of_stale howned hstale hp
      | registerBuffer hp => exact registerBuffer_of_stale howned hstale hp

/-- However connections, messages, disconnects and other calls are interleaved: a message changes
the state only if the incarnation of the connection's handshake is the live one. -/
theorem only_live_incarnation_writes {v : Server} (h : server.Reachable v) {i : ℕ} {c : Connection}
    (hc : v.connections[i]? = some c) {f : Frame} {sent : Bool}
    (hchanged : (v.next (.message i f sent)).world.state ≠ v.world.state) :
  c.authority.epoch = v.world.state.epoch ∧
    v.world.state.LiveIncarnation c.authority.worker c.authority.boot
  := by
  have howned := Server.workerOwned_of_reachable h c (List.mem_of_getElem? hc)
  rw [← workerLive_iff howned]
  by_contra hlive
  rw [Bool.not_eq_true] at hlive
  rw [Server.next_message hc] at hchanged
  exact hchanged (handleWorkerMessage_of_stale howned hlive f)

namespace Fixture

/-- A capability message that ends before its enumeration bytes. -/
def truncated : Frame :=
  { type := .publishCapability
    payload := [putStr "rdma", putStr "direct_nic", putStr "true"].flatten }

/-- The message changes the state. -/
theorem truncated_changes :
  (connected.next (.message 0 truncated true)).world.state ≠ connected.world.state
  := by
  apply ne_of_freshness
  decide +kernel

end Fixture

theorem only_live_incarnation_writes_fixture :
  Fixture.owner.epoch = Fixture.connected.world.state.epoch ∧
    Fixture.connected.world.state.LiveIncarnation Fixture.owner.worker Fixture.owner.boot
  := only_live_incarnation_writes Fixture.reachable_connected Fixture.connected_connection
    Fixture.truncated_changes

/-! ### Calls and their checks -/

/-- The authority is not that of a worker that is not live. -/
def State.Trusts (s : State) (a : Authority) : Prop :=
  a.workerOwned = true → s.workerLiveLocked a = true

/-- The latest registration of a pair does not stand in the way of another one: it is not in
progress, and if it is in force, it is the one asked for. -/
structure LatestAllows (p : RegisterParams) (buffer : BufferRecord) (endpoint : EndpointRecord)
    (latest : Registration) : Prop where
  finished : latest.state ≠ .registering
  same : latest.state = .registered →
    latest.bufferGeneration = buffer.generation ∧
    latest.endpointGeneration = endpoint.generation ∧
    latest.authority = p.authority ∧ latest.provider = p.provider

/-- The checks of `register_buffer` let the buffer be registered for the endpoint. -/
structure PairRegistrable (s : State) (p : RegisterParams) (buffer : BufferRecord)
    (endpoint : EndpointRecord) : Prop where
  active : buffer.lifecycle = .active
  supported : endpoint.support ≠ .unsupported
  room : s.registrations.size < s.maxRegistrations
  epoch : p.authority.epoch = s.epoch
  trusted : s.Trusts p.authority
  owner : buffer.authority.workerOwned = true → buffer.authority = p.authority
  latest : ∀ latest, latestRegistration s p.buffer p.endpoint = some latest →
    LatestAllows p buffer endpoint latest

/-- The checks of `register_buffer` let the call through. -/
def Registrable (s : State) (p : RegisterParams) : Prop :=
  ∃ buffer endpoint, s.buffers.lookup p.buffer = some buffer ∧
    s.endpoints.lookup p.endpoint = some endpoint ∧ PairRegistrable s p buffer endpoint

/-- The checks of a call that the server makes let it through. -/
def Event.Passes (s : State) : Event → Prop
  | .registerWorker worker boot epoch => Admits s worker boot epoch
  | .addDevice p => s.Trusts p.authority
  | .addEndpoint p => s.endpoints.size < s.maxEndpoints ∧ s.Trusts p.authority
  | .publishCapability p => s.Trusts p.authority
  | .createBuffer p =>
    (0 < p.size → p.alignment ≠ 0) ∧ s.buffers.size < s.maxBuffers ∧ s.Trusts p.authority
  | .registerBuffer p _ => Registrable s p
  | _ => True

/-- The call succeeds when `P` holds, and otherwise it fails and changes nothing. -/
inductive Guarded {α : Type} (s : State) (P : Prop) : Result α × State → Prop
  | passed (hP : P) (a : α) (s' : State) : Guarded s P (.ok a, s')
  | refused (hP : ¬P) (e : Error) : Guarded s P (.error e, s)

theorem Guarded.check {α : Type} {s : State} {P c : Prop} [Decidable c] {e : Error}
    {rest : Result α × State} (hc : c → ¬P) (h : ¬c → Guarded s P rest) :
  Guarded s P (if c then (.error e, s) else rest)
  := by
  split
  next hc' => exact .refused (hc hc') e
  next hc' => exact h hc'

theorem Guarded.congr {α : Type} {s : State} {P Q : Prop} {call : Result α × State} (hPQ : P ↔ Q)
    (h : Guarded s P call) :
  Guarded s Q call
  := by
  rw [← hPQ]
  exact h

theorem Guarded.of_ok {α : Type} {s : State} {P : Prop} {call : Result α × State} {a : α}
    (h : Guarded s P call) (hok : call.1 = .ok a) :
  P
  := by
  cases h with
  | passed hP => exact hP
  | refused => cases hok

/-- A call that is refused leaves the state alone. -/
theorem Guarded.refused_state {α : Type} {s : State} {P : Prop} {call : Result α × State}
    (h : Guarded s P call) (hP : ¬P) :
  call.2 = s
  := by
  cases h with
  | passed hP' => exact absurd hP' hP
  | refused => rfl

theorem trusts_iff {s : State} {a : Authority} :
  s.Trusts a ↔ ¬(a.workerOwned && !s.workerLiveLocked a) = true
  := by
  simp [State.Trusts]

namespace Coordinator

theorem addDevice_guarded (p : DeviceAddParams) (s : State) :
  Guarded s (s.Trusts p.authority) (addDevice p s)
  := by
  rw [addDevice, trusts_iff]
  apply Guarded.check
  · exact not_not_intro
  · intro htrusts
    exact .passed htrusts _ _

theorem addEndpoint_guarded (p : EndpointAddParams) (s : State) :
  Guarded s (s.endpoints.size < s.maxEndpoints ∧ s.Trusts p.authority) (addEndpoint p s)
  := by
  rw [addEndpoint, trusts_iff]
  apply Guarded.check
  · intro hfull h
    exact absurd h.1 (not_lt.mpr hfull)
  intro hroom
  apply Guarded.check
  · intro hstale h
    exact h.2 hstale
  · intro htrusts
    exact .passed ⟨not_le.mp hroom, htrusts⟩ _ _

theorem publishCapability_guarded (p : CapabilityPublishParams) (s : State) :
  Guarded s (s.Trusts p.authority) (publishCapability p s)
  := by
  rw [publishCapability, trusts_iff]
  apply Guarded.check
  · exact not_not_intro
  · intro htrusts
    dsimp only
    split
    · exact .passed htrusts _ _
    · exact .passed htrusts _ _

theorem createBuffer_guarded (p : CreateBufferParams) (s : State) :
  Guarded s ((0 < p.size → p.alignment ≠ 0) ∧ s.buffers.size < s.maxBuffers ∧
    s.Trusts p.authority) (createBuffer p s)
  := by
  rw [createBuffer, trusts_iff]
  apply Guarded.check
  · intro hunaligned h
    simp only [gt_iff_lt, Bool.and_eq_true, decide_eq_true_eq] at hunaligned
    exact h.1 hunaligned.1 hunaligned.2
  intro haligned
  apply Guarded.check
  · intro hfull h
    exact absurd h.2.1 (not_lt.mpr hfull)
  intro hroom
  apply Guarded.check
  · intro hstale h
    exact h.2.2 hstale
  · intro htrusts
    exact .passed ⟨by simpa using haligned, not_le.mp hroom, htrusts⟩ _ _

theorem createBuffer_passed {p : CreateBufferParams} {s : State}
    (hpasses : Event.Passes s (.createBuffer p)) :
  createBuffer p s = (.ok (newBuffer p (s.nextId + 1) (s.freshness + 1)),
    { s.nextIdLocked.nextFreshnessLocked with
      buffers := s.buffers.insert (s.nextId + 1) (newBuffer p (s.nextId + 1) (s.freshness + 1)) })
  := by
  obtain ⟨halignment, hroom, htrusts⟩ := hpasses
  rw [createBuffer, if_neg (by simpa using halignment), if_neg (not_le.mpr hroom),
    if_neg (trusts_iff.mp htrusts)]
  rfl

theorem addDevice_passed {p : DeviceAddParams} {s : State}
    (hpasses : Event.Passes s (.addDevice p)) :
  addDevice p s = (.ok (newDevice p (s.nextId + 1) (s.freshness + 1)),
    { s.nextIdLocked.nextFreshnessLocked with
      devices := s.devices.insert (s.nextId + 1) (newDevice p (s.nextId + 1) (s.freshness + 1)) })
  := by
  rw [addDevice, if_neg (trusts_iff.mp hpasses)]
  rfl

theorem addEndpoint_passed {p : EndpointAddParams} {s : State}
    (hpasses : Event.Passes s (.addEndpoint p)) :
  addEndpoint p s = (.ok (newEndpoint p (s.nextId + 1) (s.freshness + 1)),
    { s.nextIdLocked.nextFreshnessLocked with
      endpoints := s.endpoints.insert (s.nextId + 1)
        (newEndpoint p (s.nextId + 1) (s.freshness + 1)) })
  := by
  obtain ⟨hroom, htrusts⟩ := hpasses
  rw [addEndpoint, if_neg (not_le.mpr hroom), if_neg (trusts_iff.mp htrusts)]
  rfl

theorem registerWorker_guarded (worker : WorkerId) (boot : WorkerBootId) (epoch : CoordinatorEpoch)
    (s : State) :
  Guarded s (Admits s worker boot epoch) (registerWorker worker boot epoch s)
  := by
  have houtcome := registerWorker_outcome worker boot epoch s
  generalize registerWorker worker boot epoch s = call at houtcome
  cases houtcome with
  | refused hrefused => exact .refused hrefused _
  | duplicate hadmits => exact .passed hadmits _ _
  | admitted hadmits => exact .passed hadmits _ _

theorem stageRegistration_none (p : RegisterParams) (buffer : BufferRecord)
    (endpoint : EndpointRecord) (latest : Option Registration) (s : State) :
  ∃ r s', stageRegistration p none buffer endpoint latest s = (.ok r, s')
  := ⟨_, _, rfl⟩

/-- The checks on the latest registration of the pair, before a rest that succeeds. -/
theorem latest_guarded (p : RegisterParams) (buffer : BufferRecord) (endpoint : EndpointRecord)
    (latest : Registration) (s : State) {rest : Result Registration × State}
    (hrest : ∃ r s', rest = (.ok r, s')) :
  Guarded s (LatestAllows p buffer endpoint latest)
    (if latest.state = .registered && latest.bufferGeneration = buffer.generation &&
        latest.endpointGeneration = endpoint.generation && latest.authority = p.authority &&
        latest.provider = p.provider then
      (.ok { latest with duplicated := true }, s)
    else if latest.state = .registered then
      if latest.authority != p.authority || latest.provider != p.provider then
        (err .registrationFailed
          "conflicting registration already exists for this buffer+endpoint", s)
      else (err .registrationFailed "registration already active", s)
    else if latest.state = .registering then
      (err .registrationFailed "registration is already in progress", s)
    else rest)
  := by
  split
  next hsame =>
    simp only [Bool.and_eq_true, decide_eq_true_eq] at hsame
    obtain ⟨⟨⟨⟨hstate, hb⟩, he⟩, ha⟩, hprovider⟩ := hsame
    refine .passed ⟨?_, fun _ => ⟨hb, he, ha, hprovider⟩⟩ _ _
    rw [hstate]
    decide
  next hdifferent =>
  split
  next hregistered =>
    have hnot : ¬LatestAllows p buffer endpoint latest := by
      intro h
      obtain ⟨hb, he, ha, hprovider⟩ := h.same hregistered
      simp [hregistered, hb, he, ha, hprovider] at hdifferent
    split
    · exact .refused hnot _
    · exact .refused hnot _
  next hregistered =>
  apply Guarded.check
  · intro hregistering h
    exact h.finished hregistering
  · intro hregistering
    obtain ⟨r, s', rfl⟩ := hrest
    exact .passed ⟨hregistering, fun h => absurd h hregistered⟩ r s'

theorem registerBuffer_guarded (p : RegisterParams) (s : State) :
  Guarded s (Registrable s p) (registerBuffer p none s)
  := by
  rw [registerBuffer]
  cases hbuffer : s.buffers.lookup p.buffer with
  | none =>
      refine .refused ?_ _
      rintro ⟨buffer, endpoint, hb, -⟩
      rw [hbuffer] at hb
      cases hb
  | some buffer =>
  have hactive : Registrable s p → buffer.lifecycle = .active := by
    rintro ⟨buffer', endpoint', hb, -, h⟩
    obtain rfl := Option.some.inj (hbuffer.symm.trans hb)
    exact h.active
  apply Guarded.check
  · intro hretired h
    simp [hactive h] at hretired
  intro hlifecycle
  cases hendpoint : s.endpoints.lookup p.endpoint with
  | none =>
      refine .refused ?_ _
      rintro ⟨buffer', endpoint, -, he, -⟩
      rw [hendpoint] at he
      cases he
  | some endpoint =>
  have hpair : PairRegistrable s p buffer endpoint ↔ Registrable s p := by
    constructor
    · intro h
      exact ⟨buffer, endpoint, hbuffer, hendpoint, h⟩
    · rintro ⟨buffer', endpoint', hb, he, h⟩
      obtain rfl := Option.some.inj (hbuffer.symm.trans hb)
      obtain rfl := Option.some.inj (hendpoint.symm.trans he)
      exact h
  apply Guarded.congr hpair
  apply Guarded.check
  · exact fun hunsupported h => h.supported hunsupported
  intro hsupported
  apply Guarded.check
  · exact fun hfull h => absurd h.room (not_lt.mpr hfull)
  intro hroom
  apply Guarded.check
  · intro hepoch h
    simp [h.epoch] at hepoch
  intro hepoch
  apply Guarded.check
  · exact fun hstale h => trusts_iff.mp h.trusted hstale
  intro htrusted
  apply Guarded.check
  · intro hother h
    simp only [Bool.and_eq_true, bne_iff_ne] at hother
    exact hother.2 (h.owner hother.1)
  intro howner
  apply Guarded.check
  · intro hother h
    simp only [Bool.and_eq_true, bne_iff_ne] at hother
    exact hother.2 (congrArg Authority.epoch (h.owner hother.1))
  intro
  have hlatest : (∀ latest, latestRegistration s p.buffer p.endpoint = some latest →
      LatestAllows p buffer endpoint latest) ↔ PairRegistrable s p buffer endpoint := by
    constructor
    · intro hlatest
      refine ⟨by simpa using hlifecycle, hsupported, not_le.mp hroom, by simpa using hepoch,
        trusts_iff.mpr htrusted, ?_, hlatest⟩
      intro howned
      simpa [howned] using howner
    · exact PairRegistrable.latest
  apply Guarded.congr hlatest
  cases latestRegistration s p.buffer p.endpoint with
  | none =>
      obtain ⟨r, s', hstage⟩ := stageRegistration_none p buffer endpoint none s
      dsimp only
      rw [hstage]
      refine .passed ?_ r s'
      rintro latest ⟨⟩
  | some latest =>
      refine Guarded.congr ?_ (latest_guarded p buffer endpoint latest s
        (stageRegistration_none p buffer endpoint (some latest) _))
      simp

end Coordinator

/-! ### Layouts of messages -/

/-- The byte of an enumeration. -/
def enumField (E : Type) [CEnum E] : Field := .enum (CEnum.names E).length

/-- The fields a message on the connection of a worker is read for. -/
def workerLayout : MessageType → Layout
  | .publishDevice => [.str, .str, .u8, enumField Support, enumField Provenance]
  | .publishEndpoint =>
    [enumField EndpointClass, .str, .str, .u8, enumField Support, enumField Provenance]
  | .publishCapability => [.str, .str, .str, enumField Support, enumField Provenance]
  | .createBuffer =>
    [enumField MemoryDomain, .u64, .u64, .u64, enumField Support, enumField Provenance]
  | .registerBuffer => [.u64, .u64, enumField Support, enumField Provenance]
  | _ => []

/-- The fields a handshake is read for. -/
def handshakeLayout : MessageType → Layout
  | .hello | .registerWorker => [.u64, .u64, .u64]
  | _ => []

/-- The fields of a message up to its last string. -/
def stringLayout : MessageType → Layout
  | .publishDevice => [.str, .str]
  | .publishEndpoint => [enumField EndpointClass, .str, .str]
  | .publishCapability => [.str, .str, .str]
  | _ => []

/-- A string of the message is cut off. -/
def StringsCut (f : Frame) : Prop := ¬(stringLayout f.type).Complete f.payload

/-! ### Malformed messages -/

/-- The state is as before, and the reply, if there is one, is no acknowledgement. -/
def Harmless (s : State) (reply : Option Frame) (s' : State) : Prop :=
  s' = s ∧ ∀ frame, reply = some frame → frame.type ≠ .ack

/-- The reply to a first frame. -/
def CoordinatorServer.Handshake.reply : Handshake → Option Frame
  | .closed reply => reply
  | .query => none
  | .worker _ reply => some reply

/-- A reply to a call is harmless exactly when the call does not pass its checks. -/
theorem respond_harmless_iff {α : Type} {s : State} {P : Prop} {call : Result α × State}
    (hcall : Guarded s P call) {ack : α → Frame} (hack : ∀ a, (ack a).type = .ack) :
  Harmless s (respond ack call).1 (respond ack call).2 ↔ ¬P
  := by
  cases hcall with
  | passed hP a s' =>
      refine iff_of_false ?_ (not_not_intro hP)
      rintro ⟨-, hreply⟩
      exact hreply (ack a) rfl (hack a)
  | refused hP e =>
      refine iff_of_true ⟨rfl, ?_⟩ hP
      intro frame hframe
      obtain rfl := Option.some.inj hframe
      rintro ⟨⟩

theorem deviceParams_stops (auth : Authority) :
  Stops (stringLayout .publishDevice) (deviceParams auth)
  := by
  apply Stops.str
  intro name
  apply Stops.str
  intro cc
  apply Stops.some
  rintro r ⟨⟩

theorem endpointParams_stops (auth : Authority) :
  Stops (stringLayout .publishEndpoint) (endpointParams auth)
  := by
  apply Stops.word Nat.one_pos (fun _ => rfl) (by simp)
  intro cls
  apply Stops.str
  intro nm
  apply Stops.str
  intro top
  apply Stops.some
  rintro r ⟨⟩

theorem capabilityParams_stops (auth : Authority) :
  Stops (stringLayout .publishCapability) (capabilityParams auth)
  := by
  apply Stops.str
  intro prov
  apply Stops.str
  intro cap
  apply Stops.str
  intro val
  apply Stops.some
  rintro r ⟨⟩

/-- A message that is read for the parameters of one call is harmless exactly when a string of it is
cut off or the checks of the call refuse the parameters. -/
theorem params_harmless_iff {α β : Type} {s : State} {cut : Prop} {params : Option α}
    {event : α → Event} {call : α → Result β × State} {outcome : Option Frame × State}
    (ack : β → Frame) (hack : ∀ b, (ack b).type = .ack) (hcut : params = none ↔ cut)
    (hcall : ∀ p, Guarded s ((event p).Passes s) (call p))
    (hnone : params = none → outcome = (none, s))
    (hsome : ∀ p, params = some p → outcome = respond ack (call p)) :
  Harmless s outcome.1 outcome.2 ↔ cut ∨ ∃ e, params.map event = some e ∧ ¬e.Passes s
  := by
  cases hparams : params with
  | none =>
      rw [hnone hparams]
      refine iff_of_true ⟨rfl, ?_⟩ (.inl (hcut.mp hparams))
      rintro frame ⟨⟩
  | some p =>
      have huncut : ¬cut := by
        intro h
        rw [hcut.mpr h] at hparams
        cases hparams
      rw [hsome p hparams, respond_harmless_iff (hcall p) hack]
      simp [huncut]

/-- A message that is read for some fields is harmless exactly when a string of it is cut off or the
checks of its call refuse the fields as they are read. -/
theorem handleWorkerMessage_harmless_iff {wire : Bytes} {f : Frame}
    (hwire : decodeFrame wire = .ok f) (hlayout : workerLayout f.type ≠ []) (auth : Authority)
    (s : State) :
  Harmless s (handleWorkerMessage f auth s).1 (handleWorkerMessage f auth s).2 ↔
    StringsCut f ∨ ∃ e, workerCall f auth = some e ∧ ¬e.Passes s
  := by
  have hbound : f.payload.length ≤ maxStr := length_of_decodeFrame hwire
  rw [handleWorkerMessage, workerCall, StringsCut]
  cases htype : f.type with
  | publishDevice =>
      apply params_harmless_iff (fun d : DeviceRecord => sendAck d.id 0 0) (fun _ => rfl)
        ((deviceParams_stops auth).none_iff hbound) (fun p => addDevice_guarded p s)
      · intro hnone
        dsimp only
        rw [hnone]
      · intro p hp
        dsimp only
        rw [hp]
  | publishEndpoint =>
      apply params_harmless_iff (fun e : EndpointRecord => sendAck e.id 0 0) (fun _ => rfl)
        ((endpointParams_stops auth).none_iff hbound) (fun p => addEndpoint_guarded p s)
      · intro hnone
        dsimp only
        rw [hnone]
      · intro p hp
        dsimp only
        rw [hp]
  | publishCapability =>
      apply params_harmless_iff (fun c : CapabilityObservation => sendAck c.id 0 0)
        (fun _ => rfl) ((capabilityParams_stops auth).none_iff hbound)
        (fun p => publishCapability_guarded p s)
      · intro hnone
        dsimp only
        rw [hnone]
      · intro p hp
        dsimp only
        rw [hp]
  | createBuffer =>
      dsimp only
      rw [respond_harmless_iff (createBuffer_guarded _ s) fun _ => rfl]
      simp [stringLayout, Layout.Complete, Event.Passes]
  | registerBuffer =>
      dsimp only
      rw [respond_harmless_iff (registerBuffer_guarded _ s) fun _ => rfl]
      simp [stringLayout, Layout.Complete, Event.Passes]
  | _ => exact absurd (by rw [htype]; rfl) hlayout

/-- A handshake is harmless exactly when it is not that of a worker, or the checks of
`register_worker` refuse its fields as they are read. -/
theorem handshake_harmless_iff {hf : Frame} (hlayout : handshakeLayout hf.type ≠ []) (s : State) :
  Harmless s (handshake hf s).1.reply (handshake hf s).2 ↔
    (readWorker hf.reader).1.worker = 0 ∨
      ¬Event.Passes s (.registerWorker (readWorker hf.reader).1.worker
        (readWorker hf.reader).1.boot (readWorker hf.reader).1.epoch)
  := by
  have htype : ¬(hf.type ≠ .hello ∧ hf.type ≠ .registerWorker) := by
    intro htype
    cases h : hf.type with
    | hello => exact htype.1 h
    | registerWorker => exact htype.2 h
    | _ => exact hlayout (by rw [h]; rfl)
  rw [handshake, if_neg htype]
  dsimp only
  generalize (readWorker hf.reader).1 = auth
  by_cases hworker : auth.worker = 0
  · rw [if_neg (not_not_intro hworker)]
    refine iff_of_true ⟨rfl, ?_⟩ (.inl hworker)
    rintro frame ⟨⟩
  · rw [if_pos hworker]
    have hcall := registerWorker_guarded auth.worker auth.boot auth.epoch s
    generalize registerWorker auth.worker auth.boot auth.epoch s = call at hcall
    cases hcall with
    | passed hadmits a s' =>
        refine iff_of_false ?_ ?_
        · rintro ⟨-, hreply⟩
          exact hreply (sendAck 0 0 0) rfl rfl
        · rintro (hzero | hrefused)
          · exact hworker hzero
          · exact hrefused hadmits
    | refused hrefused e =>
        refine iff_of_true ⟨rfl, ?_⟩ (.inr hrefused)
        intro frame hframe
        obtain rfl := Option.some.inj hframe
        rintro ⟨⟩

/-- Only messages that are read for some fields can be malformed. -/
theorem layout_of_malformed {fs : Layout} {bs : Bytes} (h : fs.Malformed bs) :
  fs ≠ []
  := by
  rintro rfl
  obtain hshort | hrange := h
  · exact hshort trivial
  · exact hrange trivial

/-- A malformed handshake or message that is received in a valid frame changes nothing and is not
acknowledged, exactly when the handler gives up at a string that is cut off, does not take the
handshake for that of a worker, or makes a call whose checks refuse the fields as they are read. -/
theorem malformed_harmless_iff {wire : Bytes} {f : Frame} (hwire : decodeFrame wire = .ok f)
    (auth : Authority) (s : State) :
  (((handshakeLayout f.type).Malformed f.payload →
      Harmless s (handshake f s).1.reply (handshake f s).2) ↔
    ((handshakeLayout f.type).Malformed f.payload →
      (readWorker f.reader).1.worker = 0 ∨
        ¬Event.Passes s (.registerWorker (readWorker f.reader).1.worker
          (readWorker f.reader).1.boot (readWorker f.reader).1.epoch))) ∧
  (((workerLayout f.type).Malformed f.payload →
      Harmless s (handleWorkerMessage f auth s).1 (handleWorkerMessage f auth s).2) ↔
    ((workerLayout f.type).Malformed f.payload →
      StringsCut f ∨ ∃ e, workerCall f auth = some e ∧ ¬e.Passes s))
  := by
  constructor
  · apply forall_congr'
    intro hmalformed
    exact handshake_harmless_iff (layout_of_malformed hmalformed) s
  · apply forall_congr'
    intro hmalformed
    exact handleWorkerMessage_harmless_iff hwire (layout_of_malformed hmalformed) auth s

namespace Fixture

theorem decode_truncated :
  decodeFrame (encodeFrame truncated) = .ok truncated
  := decodeFrame_encodeFrame (by decide)

/-- A handshake without its boot and epoch. -/
def shortHello : Frame := { type := .hello, payload := putU64 1 }

theorem decode_shortHello :
  decodeFrame (encodeFrame shortHello) = .ok shortHello
  := decodeFrame_encodeFrame (by decide)

/-- The capability that is published instead. -/
def evidence : CapabilityObservation :=
  ((handleWorkerMessage truncated owner connected.world.state).2.capabilities.lookup 2).getD {}

end Fixture

theorem malformed_harmless_fixture :
  (((handshakeLayout Fixture.shortHello.type).Malformed Fixture.shortHello.payload →
      Harmless Fixture.connected.world.state
        (handshake Fixture.shortHello Fixture.connected.world.state).1.reply
        (handshake Fixture.shortHello Fixture.connected.world.state).2) ↔
    ((handshakeLayout Fixture.shortHello.type).Malformed Fixture.shortHello.payload →
      (readWorker Fixture.shortHello.reader).1.worker = 0 ∨
        ¬Event.Passes Fixture.connected.world.state (.registerWorker
          (readWorker Fixture.shortHello.reader).1.worker
          (readWorker Fixture.shortHello.reader).1.boot
          (readWorker Fixture.shortHello.reader).1.epoch))) ∧
  (((workerLayout Fixture.truncated.type).Malformed Fixture.truncated.payload →
      Harmless Fixture.connected.world.state
        (handleWorkerMessage Fixture.truncated Fixture.owner Fixture.connected.world.state).1
        (handleWorkerMessage Fixture.truncated Fixture.owner Fixture.connected.world.state).2) ↔
    ((workerLayout Fixture.truncated.type).Malformed Fixture.truncated.payload →
      StringsCut Fixture.truncated ∨
      ∃ e, workerCall Fixture.truncated Fixture.owner = some e ∧
        ¬e.Passes Fixture.connected.world.state))
  := by
  constructor
  · apply (malformed_harmless_iff Fixture.decode_shortHello Fixture.owner _).1
  · apply (malformed_harmless_iff Fixture.decode_truncated _ _).2

/-- A message without its enumeration bytes is acknowledged, and publishes a capability as `REAL`
evidence from the CUDA runtime. -/
theorem truncated_message_acknowledged :
  server.Reachable Fixture.connected ∧
  decodeFrame (encodeFrame Fixture.truncated) = .ok Fixture.truncated ∧
  (workerLayout Fixture.truncated.type).Malformed Fixture.truncated.payload ∧
  ¬Harmless Fixture.connected.world.state
    (handleWorkerMessage Fixture.truncated Fixture.owner Fixture.connected.world.state).1
    (handleWorkerMessage Fixture.truncated Fixture.owner Fixture.connected.world.state).2 ∧
  Fixture.evidence.support = .real ∧ Fixture.evidence.provenance = .cudaRuntime
  := by
  have hreply : (handleWorkerMessage Fixture.truncated Fixture.owner
      Fixture.connected.world.state).1 = some (sendAck 2 0 0) := by
    decide +kernel
  refine ⟨Fixture.reachable_connected, Fixture.decode_truncated, by decide +kernel, ?_,
    by decide +kernel, by decide +kernel⟩
  rintro ⟨-, hharmless⟩
  exact hharmless _ hreply rfl

end GpuDirectFabric
