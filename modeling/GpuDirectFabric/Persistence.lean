import GpuDirectFabric.RecordCodec
import Mathlib.Data.List.Sort

/-!
# State files

A state file is a frame around a body: a magic number, a version, the length of the body, the
body, and a checksum of all of these.  The body is a header record followed by one section for
each table, holding the images of its records in the order of their ids.  Persisting gives the
bytes of the file, and recovering takes them; how the bytes come to stand in the file system is a
matter of its own.
-/

namespace GpuDirectFabric

open Codec

namespace Persistence

def kMag : Bytes := str "GDFSTATE"

def kVersion : ℕ := 1

/-- The longest body accepted, 256 MiB. -/
def kMaxPayload : ℕ := 1 <<< 28

/-! ### The checksum -/

/-- One step of the division by the CRC-32 polynomial. -/
def crcStep (c : UInt32) : UInt32 :=
  if c &&& 1 != 0 then (0xEDB88320 : UInt32) ^^^ (c >>> 1) else c >>> 1

/-- The entry of the CRC table for `i`. -/
def crcEntry (i : UInt32) : UInt32 := crcStep^[8] i

def crc32 (data : Bytes) : UInt32 :=
  data.foldl (fun crc b => crcEntry ((crc ^^^ b.toUInt32) &&& 0xFF) ^^^ (crc >>> 8)) 0xFFFFFFFF
    ^^^ 0xFFFFFFFF

/-! ### Writing -/

/-- The records of a table in the order of their ids. -/
def sortedById {ρ : Type} (id : ρ → ℕ) (t : Table ρ) : List ρ :=
  t.values.insertionSort fun a b => id a ≤ id b

/-- A section: the number of records, and their images. -/
def putSection {ρ : Type} (F : Format Error ρ) (id : ρ → ℕ) (t : Table ρ) : Bytes :=
  putU32 (sortedById id t).length ++ ((sortedById id t).map F.put).flatten

/-- The sections of the registries. -/
def registrySections (s : State) : Bytes :=
  [putSection bufferFormat BufferRecord.id s.buffers,
    putSection deviceFormat DeviceRecord.id s.devices,
    putSection endpointFormat EndpointRecord.id s.endpoints,
    putSection nicFormat NicRecord.id s.nics,
    putSection storageEndpointFormat StorageEndpointRecord.id s.storage,
    putSection providerFormat ProviderInfo.id s.providers,
    putSection capabilityFormat CapabilityObservation.id s.capabilities,
    putSection registrationFormat Registration.id s.registrations].flatten

/-- The sections of the body, that of the plans last. -/
def stateSections (s : State) : Bytes :=
  registrySections s ++ putSection planFormat TransferPlan.id s.plans

/-- The body of the state file: the header record and the sections. -/
def stateBody (s : State) : Bytes :=
  [putU64 s.epoch, putU64 s.nextId, putU64 s.freshness].flatten ++ stateSections s

/-- The part of the file the checksum covers. -/
def checkedPart (body : Bytes) : Bytes :=
  [kMag, putU32 kVersion, putU64 body.length, body].flatten

/-- A body in its frame. -/
def frame (body : Bytes) : Bytes :=
  checkedPart body ++ putU32 (crc32 (checkedPart body)).toNat

/-! ### Reading -/

/-- Fail with the given error when `c` holds. -/
def reject (c : Bool) (code : ErrorCode) (message : Str) : Result Unit :=
  if c then err code message else .ok ()

/-- The body of a state file, if its frame is right. -/
def openFrame (file : Bytes) : Result Bytes := do
  reject (file.length < 24) .persistenceError "state file too short (truncated)"
  reject (file.take 8 != kMag) .persistenceError "bad magic"
  let (ver, hdr) ← u32 "truncated header" (file.drop 8)
  reject (ver > kVersion) .unsupported "unsupported future state version"
  reject (ver < kVersion) .persistenceError "unsupported old state version"
  let (payloadLen, _) ← u64 "truncated length" hdr
  reject (payloadLen > kMaxPayload) .persistenceError "absurd payload length"
  let expected := 20 + payloadLen + 4
  reject (file.length < expected) .persistenceError "state file truncated"
  reject (file.length > expected) .persistenceError "trailing garbage after state"
  reject (file.length != expected) .persistenceError "state length mismatch"
  let (readCrc, _) ← u32 "truncated crc" ((file.drop (20 + payloadLen)).take 4)
  reject (readCrc != (crc32 (file.take (20 + payloadLen))).toNat) .persistenceError
    "state CRC mismatch (corrupt)"
  pure ((file.drop 20).take payloadLen)

/-- The header record, as the state recovered before any section is. -/
def readHeader : Reader Error State := do
  let epoch ← u64 "truncated header record"
  let nextId ← u64 "truncated header record"
  let freshness ← u64 "truncated header record"
  pure { epoch := epoch, nextId := nextId, freshness := freshness }

/-- Recover a section into the table that `update` updates. -/
def recoverSection {ρ : Type} (F : Format Error ρ) (id : ρ → ℕ)
    (update : (Table ρ → Table ρ) → State → State) (message : Str) :
    Decoder State Error Unit := do
  let cnt ← Decoder.lift (boundedCount maxCount message)
  Decoder.modify (update fun _ => ∅)
  Decoder.storeMany F.read (fun r => update fun t => t.insert (id r) r) cnt

def recoverBuffers : Decoder State Error Unit :=
  recoverSection bufferFormat BufferRecord.id
    (fun f s => { s with buffers := f s.buffers }) "invalid buffer count"

def recoverDevices : Decoder State Error Unit :=
  recoverSection deviceFormat DeviceRecord.id
    (fun f s => { s with devices := f s.devices }) "invalid device count"

def recoverEndpoints : Decoder State Error Unit :=
  recoverSection endpointFormat EndpointRecord.id
    (fun f s => { s with endpoints := f s.endpoints }) "invalid endpoint count"

def recoverNics : Decoder State Error Unit :=
  recoverSection nicFormat NicRecord.id
    (fun f s => { s with nics := f s.nics }) "invalid nic count"

def recoverStorage : Decoder State Error Unit :=
  recoverSection storageEndpointFormat StorageEndpointRecord.id
    (fun f s => { s with storage := f s.storage }) "invalid storage count"

def recoverProviders : Decoder State Error Unit :=
  recoverSection providerFormat ProviderInfo.id
    (fun f s => { s with providers := f s.providers }) "invalid provider count"

def recoverCapabilities : Decoder State Error Unit :=
  recoverSection capabilityFormat CapabilityObservation.id
    (fun f s => { s with capabilities := f s.capabilities }) "invalid capability count"

def recoverRegistrations : Decoder State Error Unit :=
  recoverSection registrationFormat Registration.id
    (fun f s => { s with registrations := f s.registrations }) "invalid registration count"

def storeRecoveredPlan (p : TransferPlan) (s : State) : State :=
  { s with plans := s.plans.insert p.id p }

/-- The loop over the plans, at index `v8`.  The copy count of a plan is read into `cnt`, the
variable that bounds the loop.  As `cnt` stays below `2 ^ 32`, so does the number of rounds. -/
def recoverPlansLoop : (rounds : ℕ) → (v8 cnt : ℕ) → Decoder State Error Unit
  | 0, _, _ => pure ()
  | rounds + 1, v8, cnt =>
    if v8 < cnt then do
      let p ← Decoder.lift readPlan
      Decoder.modify (storeRecoveredPlan p)
      recoverPlansLoop rounds (v8 + 1) p.copyCount
    else pure ()

def recoverPlans : Decoder State Error Unit := do
  let cnt ← Decoder.lift (boundedCount maxCount "invalid plan count")
  Decoder.modify fun s => { s with plans := ∅ }
  recoverPlansLoop (2 ^ 32) 0 cnt

/-- The sections of the registries, in order. -/
def recoverRegistries : Decoder State Error Unit := do
  recoverBuffers
  recoverDevices
  recoverEndpoints
  recoverNics
  recoverStorage
  recoverProviders
  recoverCapabilities
  recoverRegistrations

/-- The sections of the body, that of the plans last. -/
def recoverSections : Decoder State Error Unit := do
  recoverRegistries
  recoverPlans

/-! ### Frames -/

theorem ok_bind {α β : Type} (a : α) (f : α → Result β) :
  (Except.ok a >>= f) = f a
  := rfl

theorem reject_bind {c : Bool} (h : c = false) (code : ErrorCode) (message : Str) {β : Type}
    (f : Unit → Result β) :
  (reject c code message >>= f) = f ()
  := by
  rw [h]
  rfl

theorem bind_eq_ok {α β : Type} {x : Result α} {f : α → Result β} {b : β} :
  (x >>= f) = .ok b ↔ ∃ a, x = .ok a ∧ f a = .ok b
  := by
  cases x with
  | error e => constructor <;> simp [bind, Except.bind]
  | ok a => simp [bind, Except.bind]

theorem reject_eq_ok {c : Bool} {code : ErrorCode} {message : Str} {u : Unit} :
  reject c code message = .ok u ↔ c = false
  := by
  cases c
  · simp [reject]
  · simp [reject, err]

theorem length_kMag :
  kMag.length = 8
  := by decide

/-- What stands before the body takes 20 bytes. -/
theorem length_preamble (n : ℕ) :
  (kMag ++ (putU32 kVersion ++ putU64 n)).length = 20
  := by
  simp [putU32, putU64, length_kMag]

theorem checkedPart_eq (body : Bytes) :
  checkedPart body = (kMag ++ (putU32 kVersion ++ putU64 body.length)) ++ body
  := by
  simp [checkedPart]

theorem length_checkedPart (body : Bytes) :
  (checkedPart body).length = 20 + body.length
  := by
  rw [checkedPart_eq, List.length_append, length_preamble]

theorem length_frame (body : Bytes) :
  (frame body).length = 20 + body.length + 4
  := by
  rw [frame, List.length_append, length_checkedPart, putU32, length_putLE]

/-- The frame after the magic number. -/
theorem drop_frame (body : Bytes) :
  ∃ rest, (frame body).drop 8 = putU32 kVersion ++ (putU64 body.length ++ rest)
  := by
  use body ++ putU32 (crc32 (checkedPart body)).toNat
  rw [← length_kMag, frame, checkedPart]
  simp

theorem take_frame (body : Bytes) :
  (frame body).take 8 = kMag
  := by
  rw [← length_kMag, frame, checkedPart]
  simp

/-- The frame of a body that is not too long is right. -/
theorem openFrame_frame {body : Bytes} (h : body.length ≤ kMaxPayload) :
  openFrame (frame body) = .ok body
  := by
  have hmax : kMaxPayload = 2 ^ 28 := by decide
  obtain ⟨rest, hdrop⟩ := drop_frame body
  have hver := (reads_u32 (n := kVersion) (by decide) "truncated header").ok trivial
    (putU64 body.length ++ rest)
  have hpay := (reads_u64 (n := body.length) (by omega) "truncated length").ok trivial rest
  have hcrc := (reads_u32 (crc32 (checkedPart body)).toNat_lt "truncated crc").ok trivial []
  have htake : (frame body).take (20 + body.length) = checkedPart body := by
    rw [frame, ← length_checkedPart, List.take_left]
  have hcrcdrop : ((frame body).drop (20 + body.length)).take 4
      = putU32 (crc32 (checkedPart body)).toNat ++ [] := by
    rw [frame, ← length_checkedPart, List.drop_left, List.append_nil, List.take_of_length_le]
    simp [putU32]
  have hbody : ((frame body).drop 20).take body.length = body := by
    rw [frame, checkedPart_eq, List.append_assoc, List.drop_left' (length_preamble _),
      List.take_left]
  rw [openFrame, reject_bind (by simp [length_frame]), reject_bind (by simp [take_frame]),
    hdrop, hver, ok_bind]
  dsimp only
  rw [reject_bind (by decide), reject_bind (by decide), hpay, ok_bind]
  dsimp only
  rw [reject_bind (by simpa using h), reject_bind (by simp [length_frame]),
    reject_bind (by simp [length_frame]), reject_bind (by simp [length_frame]), hcrcdrop, hcrc,
    ok_bind]
  dsimp only
  rw [reject_bind (by simp [htake]), hbody]
  rfl

/-- A file whose frame is right is the frame of its body. -/
theorem frame_of_openFrame {file body : Bytes} (h : openFrame file = .ok body) :
  file = frame body ∧ body.length ≤ kMaxPayload
  := by
  simp only [openFrame, bind_eq_ok, reject_eq_ok, decide_eq_false_iff_not, bne_eq_false_iff_eq,
    not_lt] at h
  obtain ⟨_, -, _, hmag, ⟨ver, hdr⟩, hver, _, hnew, _, hold, ⟨len, rest⟩, hlen, _, hmax, _, -, _, -,
    _, hsize, ⟨crc, tail⟩, hcrc, _, hsum, hbody⟩ := h
  obtain rfl : ver = kVersion := le_antisymm hnew hold
  have hstart : file = (kMag ++ (putU32 kVersion ++ putU64 len)) ++ rest := by
    have hdrop : file.drop 8 = putU32 kVersion ++ hdr := Reader.eq_of_word hver
    have hrest : hdr = putU64 len ++ rest := Reader.eq_of_word hlen
    rw [List.append_assoc, List.append_assoc, ← hrest, ← hdrop, ← hmag, List.take_append_drop]
  have hpre := length_preamble len
  have hrest : rest.length = len + 4 := by
    rw [hstart, List.length_append, hpre] at hsize
    omega
  obtain rfl : rest.take len = body := by
    rw [hstart, List.drop_left' hpre] at hbody
    exact Except.ok.inj hbody
  have hlen : (rest.take len).length = len := List.length_take_of_le (by omega)
  have hchecked : file.take (20 + len) = checkedPart (rest.take len) := by
    rw [hstart, ← hpre, List.take_length_add_append, checkedPart_eq, hlen]
  have hsum' : file.drop (20 + len) = putU32 crc := by
    have himage := Reader.eq_of_word hcrc
    rw [List.take_of_length_le (by rw [List.length_drop]; omega)] at himage
    have hlength := congrArg List.length himage
    rw [List.length_drop, List.length_append, length_putLE] at hlength
    obtain rfl : tail = [] := List.eq_nil_of_length_eq_zero (by omega)
    rw [himage, List.append_nil]
    rfl
  constructor
  · rw [frame, ← hchecked, ← hsum, ← hsum', List.take_append_drop]
  · rw [hlen]
    exact hmax

/-- The frame of a body that is too long is rejected. -/
theorem openFrame_frame_fails {body : Bytes} (h : kMaxPayload < body.length) :
  ∃ e, openFrame (frame body) = .error e
  := by
  cases hopen : openFrame (frame body) with
  | error e => exact ⟨e, rfl⟩
  | ok payload =>
      obtain ⟨heq, hmax⟩ := frame_of_openFrame hopen
      have hlength := congrArg List.length heq
      rw [length_frame, length_frame] at hlength
      omega

end Persistence

namespace Coordinator

open Persistence

/-- The bytes of the file `persist_to_file` writes. -/
def persistToFile (s : State) : Bytes := frame (stateBody s)

/-- `recover_from_file` on the bytes of the file, into a coordinator in the state `out`.  The
state is replaced once the header record has been read. -/
def recoverFromFile (file : Bytes) (out : State) : Result Unit × State :=
  match openFrame file with
  | .error e => (.error e, out)
  | .ok payload =>
    match readHeader payload with
    | .error e => (.error e, out)
    | .ok (header, sections) =>
      match recoverSections sections header with
      | (.error e, s) => (.error e, s)
      | (.ok _, s) => (.ok (), s)

end Coordinator

end GpuDirectFabric
