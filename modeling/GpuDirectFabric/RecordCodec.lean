import GpuDirectFabric.State

/-!
# Record images

How each record is written to a state file and read back.  Reading drops what the file does
not carry, and takes process-local authority away: `recovered…` is what becomes of a record
that is written and read.  A record *fits* when its numbers have the width of their fields,
as they do in the program, and is *readable* when it is within the bounds the reader checks.
-/

namespace GpuDirectFabric

open Codec

namespace Persistence

/-- The error of a malformed state file. -/
def malformed (message : Str) : Error := { code := .persistenceError, message := message }

/-! ### Fields -/

/-- An unsigned number in four bytes, least significant first. -/
def putU32 (v : ℕ) : Bytes := putLE 4 v

/-- An unsigned number in eight bytes, least significant first. -/
def putU64 (v : ℕ) : Bytes := putLE 8 v

/-- A string is written after its length. -/
def putStr (s : Str) : Bytes := putU32 s.length ++ s

/-- A truth value takes a number of four bytes. -/
def putBool (b : Bool) : Bytes := putU32 (if b then 1 else 0)

/-- An enumerator is written as its number. -/
def encodeEnum {E : Type} [CEnum E] (e : E) : Bytes := putU32 (CEnum.toU32 e)

@[simp]
theorem length_putU32 (n : ℕ) :
  (putU32 n).length = 4
  := length_putLE 4 n

@[simp]
theorem length_putU64 (n : ℕ) :
  (putU64 n).length = 8
  := length_putLE 8 n

@[simp]
theorem length_putStr (s : Str) :
  (putStr s).length = 4 + s.length
  := by
  rw [putStr, List.length_append, length_putU32]

@[simp]
theorem length_putBool (b : Bool) :
  (putBool b).length = 4
  := length_putU32 _

@[simp]
theorem length_encodeEnum {E : Type} [CEnum E] (e : E) :
  (encodeEnum e).length = 4
  := length_putU32 _

/-- A number of four bytes, or the error `message` when they are not there. -/
def u32 (message : Str) : Reader Error ℕ := Reader.word 4 (malformed message)

/-- A number of eight bytes. -/
def u64 (message : Str) : Reader Error ℕ := Reader.word 8 (malformed message)

/-- The longest string a reader accepts, and the most records in a section. -/
def maxCount : ℕ := 1 <<< 20

/-- The most capabilities of a registration a reader accepts. -/
def maxCapabilities : ℕ := 4096

/-- A count of at most `bound`. -/
def boundedCount (bound : ℕ) (message : Str) : Reader Error ℕ := do
  let n ← u32 message
  Reader.guard (n ≤ bound) (malformed message)
  pure n

/-- A string of at most `maxCount` bytes. -/
def readStr (message : Str) : Reader Error Str := do
  let len ← boundedCount maxCount message
  Reader.take len (malformed message)

/-- A truth value, which must have been written as zero or one. -/
def readBool (message : Str) : Reader Error Bool := do
  let u ← boundedCount 1 message
  pure (u = 1)

/-- An enumerator, validated by converting it to its name and back. -/
def readEnum (E : Type) [CEnum E] [DecidableEq E] (message : Str) : Reader Error E := do
  let v ← u32 message
  let e : E := CEnum.ofU32 v
  Reader.guard (CEnum.fromString (CEnum.toString e) = some e) (malformed message)
  pure e

/-! ### Reading fields back -/

/-- A number is read back when it has the width of its field. -/
theorem reads_u32 {n : ℕ} (h : n < 2 ^ 32) (message : Str) :
  (u32 message).Reads (putU32 n) True n
  := by
  have hword := Reader.Reads.word 4 n (malformed message)
  rw [Nat.mod_eq_of_lt (by omega)] at hword
  exact hword

theorem reads_u64 {n : ℕ} (h : n < 2 ^ 64) (message : Str) :
  (u64 message).Reads (putU64 n) True n
  := by
  have hword := Reader.Reads.word 8 n (malformed message)
  rw [Nat.mod_eq_of_lt (by omega)] at hword
  exact hword

/-- A count is read back when it is within its bound, and rejected when it is not. -/
theorem reads_boundedCount {n : ℕ} (h : n < 2 ^ 32) (bound : ℕ) (message : Str) :
  (boundedCount bound message).Reads (putU32 n) (n ≤ bound) n
  := by
  apply Reader.Reads.congr
  · apply (reads_u32 h message).last
    apply (Reader.Reads.guard _ _).last
    apply Reader.Reads.pure
  · simp

/-- A string is read back when it is not too long. -/
theorem reads_str {s : Str} (h : s.length < 2 ^ 32) (message : Str) :
  (readStr message).Reads (putStr s) (s.length ≤ maxCount) s
  := by
  apply Reader.Reads.congr
  · apply (reads_boundedCount h maxCount message).bind
    apply Reader.Reads.take rfl
  · simp

/-- So are strings one after another, of which none may be too long. -/
theorem reads_strs {ss : List Str} (h : ∀ s ∈ ss, s.length < 2 ^ 32) (message : Str) :
  (Reader.many (readStr message) ss.length).Reads (ss.map putStr).flatten
    (∀ s ∈ ss, s.length ≤ maxCount) ss
  := by
  have hmany := Reader.Reads.many fun s hs => reads_str (h s hs) message
  rw [List.map_id'] at hmany
  exact hmany

theorem reads_bool (b : Bool) (message : Str) :
  (readBool message).Reads (putBool b) True b
  := by
  have hlt : (if b then 1 else 0) < 2 ^ 32 := by split <;> omega
  have hb : decide ((if b then 1 else 0) = 1) = b := by cases b <;> rfl
  apply Reader.Reads.congr
  · apply (reads_boundedCount hlt 1 message).last
    rw [hb]
    apply Reader.Reads.pure
  · cases b <;> simp

/-- An enumerator is read back when it is one of those with a name. -/
theorem reads_enum {E : Type} [CEnum E] [DecidableEq E] (e : E) (message : Str) :
  (readEnum E message).Reads (encodeEnum e) (CEnum.InRange e) e
  := by
  apply Reader.Reads.congr
  · apply (reads_u32 (CEnum.toU32_lt e) message).last
    rw [CEnum.ofU32_toU32]
    apply (Reader.Reads.guard _ _).last
    apply Reader.Reads.pure
  · rw [decide_eq_true_iff, CEnum.fromString_toString]
    simp

/-! ### Buffers -/

/-- The image of a buffer.  The authority and what is known of its registration stay behind. -/
def putBuffer (b : BufferRecord) : Bytes :=
  [putU64 b.id, putU64 b.generation, encodeEnum b.domain, putU64 b.size, putU64 b.alignment,
    putU64 b.device, putU64 b.deviceGeneration, encodeEnum b.locality, encodeEnum b.support,
    encodeEnum b.provenance, encodeEnum b.lifecycle, putStr b.name].flatten

/-- Read a buffer, with the error texts of its fields. -/
def readBuffer : Reader Error BufferRecord := do
  let id ← u64 "truncated buffer"
  let generation ← u64 "truncated buffer gen"
  let domain ← readEnum MemoryDomain "invalid buffer domain"
  let size ← u64 "truncated buffer size"
  let alignment ← u64 "truncated buffer alignment"
  let device ← u64 "truncated buffer device"
  let deviceGeneration ← u64 "truncated buffer device gen"
  let locality ← readEnum Locality "invalid buffer enum"
  let support ← readEnum Support "invalid buffer enum"
  let provenance ← readEnum Provenance "invalid buffer enum"
  let lifecycle ← readEnum BufferLifecycle "invalid buffer enum"
  let name ← readStr "truncated buffer name"
  pure
    { id := id
      generation := generation
      domain := domain
      size := size
      alignment := alignment
      device := device
      deviceGeneration := deviceGeneration
      locality := locality
      support := support
      provenance := provenance
      lifecycle := lifecycle
      name := name
      registrationState := .unregistered
      handle := none }

/-- What a buffer becomes, without its authority and its registration. -/
def recoveredBuffer (b : BufferRecord) : BufferRecord :=
  { b with
    authority := {}
    registrationState := .unregistered
    registrationId := 0
    registrationGeneration := 0
    freshness := 0
    handle := none }

/-- The numbers of the buffer have the width of their fields. -/
@[mk_iff]
structure FitsBuffer (b : BufferRecord) : Prop where
  id : b.id < 2 ^ 64
  generation : b.generation < 2 ^ 64
  size : b.size < 2 ^ 64
  alignment : b.alignment < 2 ^ 64
  device : b.device < 2 ^ 64
  deviceGeneration : b.deviceGeneration < 2 ^ 64
  name : b.name.length < 2 ^ 32

instance : DecidablePred FitsBuffer := fun b => decidable_of_iff' _ (fitsBuffer_iff b)

/-- The enumerators of the buffer have names, and its own name is not too long. -/
def ReadableBuffer (b : BufferRecord) : Prop :=
  CEnum.InRange b.domain ∧ CEnum.InRange b.locality ∧ CEnum.InRange b.support ∧
    CEnum.InRange b.provenance ∧ CEnum.InRange b.lifecycle ∧ b.name.length ≤ maxCount

instance : DecidablePred ReadableBuffer := fun _ => inferInstanceAs (Decidable (_ ∧ _))

/-- A buffer is read back exactly when it is readable. -/
theorem reads_buffer {b : BufferRecord} (h : FitsBuffer b) :
  readBuffer.Reads (putBuffer b) (ReadableBuffer b) (recoveredBuffer b)
  := by
  apply Reader.Reads.congr
  · apply (reads_u64 h.id _).field
    apply (reads_u64 h.generation _).field
    apply (reads_enum b.domain _).field
    apply (reads_u64 h.size _).field
    apply (reads_u64 h.alignment _).field
    apply (reads_u64 h.device _).field
    apply (reads_u64 h.deviceGeneration _).field
    apply (reads_enum b.locality _).field
    apply (reads_enum b.support _).field
    apply (reads_enum b.provenance _).field
    apply (reads_enum b.lifecycle _).field
    apply (reads_str h.name _).field
    apply Reader.Reads.pure
  · simp [ReadableBuffer]

/-! ### Devices -/

/-- The image of a device. -/
def putDevice (d : DeviceRecord) : Bytes :=
  [putU64 d.id, putU64 d.generation, putStr d.name, putStr d.computeCapability,
    putBool d.peerMemorySupported, encodeEnum d.support, encodeEnum d.provenance].flatten

/-- Read a device. -/
def readDevice : Reader Error DeviceRecord := do
  let id ← u64 "truncated device"
  let generation ← u64 "truncated device gen"
  let name ← readStr "device strings"
  let computeCapability ← readStr "device strings"
  let peerMemorySupported ← readBool "device bool"
  let support ← readEnum Support "device enum"
  let provenance ← readEnum Provenance "device enum"
  pure
    { id := id
      generation := generation
      name := name
      computeCapability := computeCapability
      peerMemorySupported := peerMemorySupported
      support := support
      provenance := provenance }

/-- What a device becomes. -/
def recoveredDevice (d : DeviceRecord) : DeviceRecord :=
  { d with
    authority := {}
    freshness := 0 }

/-- The numbers of the device have the width of their fields. -/
@[mk_iff]
structure FitsDevice (d : DeviceRecord) : Prop where
  id : d.id < 2 ^ 64
  generation : d.generation < 2 ^ 64
  name : d.name.length < 2 ^ 32
  computeCapability : d.computeCapability.length < 2 ^ 32

instance : DecidablePred FitsDevice := fun d => decidable_of_iff' _ (fitsDevice_iff d)

/-- What the reader checks of a device. -/
def ReadableDevice (d : DeviceRecord) : Prop :=
  d.name.length ≤ maxCount ∧ d.computeCapability.length ≤ maxCount ∧ CEnum.InRange d.support ∧
    CEnum.InRange d.provenance

instance : DecidablePred ReadableDevice := fun _ => inferInstanceAs (Decidable (_ ∧ _))

/-- A device is read back exactly when it is readable. -/
theorem reads_device {d : DeviceRecord} (h : FitsDevice d) :
  readDevice.Reads (putDevice d) (ReadableDevice d) (recoveredDevice d)
  := by
  apply Reader.Reads.congr
  · apply (reads_u64 h.id _).field
    apply (reads_u64 h.generation _).field
    apply (reads_str h.name _).field
    apply (reads_str h.computeCapability _).field
    apply (reads_bool d.peerMemorySupported _).field
    apply (reads_enum d.support _).field
    apply (reads_enum d.provenance _).field
    apply Reader.Reads.pure
  · simp [ReadableDevice]

/-! ### Endpoints -/

/-- The image of an endpoint. -/
def putEndpoint (e : EndpointRecord) : Bytes :=
  [putU64 e.id, putU64 e.generation, encodeEnum e.endpointClass, putStr e.name,
    putStr e.topologyHint, putBool e.healthy, putU64 e.provider, encodeEnum e.support,
    encodeEnum e.provenance].flatten

/-- Read an endpoint. -/
def readEndpoint : Reader Error EndpointRecord := do
  let id ← u64 "truncated endpoint"
  let generation ← u64 "truncated endpoint gen"
  let endpointClass ← readEnum EndpointClass "endpoint class"
  let name ← readStr "endpoint strings"
  let topologyHint ← readStr "endpoint strings"
  let healthy ← readBool "endpoint health"
  let provider ← u64 "endpoint provider"
  let support ← readEnum Support "endpoint enum"
  let provenance ← readEnum Provenance "endpoint enum"
  pure
    { id := id
      generation := generation
      endpointClass := endpointClass
      name := name
      topologyHint := topologyHint
      healthy := healthy
      provider := provider
      support := support
      provenance := provenance
      handle := none }

/-- What an endpoint becomes. -/
def recoveredEndpoint (e : EndpointRecord) : EndpointRecord :=
  { e with
    authority := {}
    freshness := 0
    handle := none }

/-- The numbers of the endpoint have the width of their fields. -/
@[mk_iff]
structure FitsEndpoint (e : EndpointRecord) : Prop where
  id : e.id < 2 ^ 64
  generation : e.generation < 2 ^ 64
  name : e.name.length < 2 ^ 32
  topologyHint : e.topologyHint.length < 2 ^ 32
  provider : e.provider < 2 ^ 64

instance : DecidablePred FitsEndpoint := fun e => decidable_of_iff' _ (fitsEndpoint_iff e)

/-- What the reader checks of an endpoint. -/
def ReadableEndpoint (e : EndpointRecord) : Prop :=
  CEnum.InRange e.endpointClass ∧ e.name.length ≤ maxCount ∧ e.topologyHint.length ≤ maxCount ∧
    CEnum.InRange e.support ∧ CEnum.InRange e.provenance

instance : DecidablePred ReadableEndpoint := fun _ => inferInstanceAs (Decidable (_ ∧ _))

/-- An endpoint is read back exactly when it is readable. -/
theorem reads_endpoint {e : EndpointRecord} (h : FitsEndpoint e) :
  readEndpoint.Reads (putEndpoint e) (ReadableEndpoint e) (recoveredEndpoint e)
  := by
  apply Reader.Reads.congr
  · apply (reads_u64 h.id _).field
    apply (reads_u64 h.generation _).field
    apply (reads_enum e.endpointClass _).field
    apply (reads_str h.name _).field
    apply (reads_str h.topologyHint _).field
    apply (reads_bool e.healthy _).field
    apply (reads_u64 h.provider _).field
    apply (reads_enum e.support _).field
    apply (reads_enum e.provenance _).field
    apply Reader.Reads.pure
  · simp [ReadableEndpoint]

/-! ### Nics -/

/-- The image of a network interface. -/
def putNic (n : NicRecord) : Bytes :=
  [putU64 n.id, putU64 n.generation, putStr n.name, putStr n.locator, putBool n.rdmaCapable,
    putBool n.directPathCapable, putU64 n.provider, encodeEnum n.support,
    encodeEnum n.provenance].flatten

/-- Read a network interface. -/
def readNic : Reader Error NicRecord := do
  let id ← u64 "truncated nic"
  let generation ← u64 "truncated nic gen"
  let name ← readStr "nic strings"
  let locator ← readStr "nic strings"
  let rdmaCapable ← readBool "nic bool"
  let directPathCapable ← readBool "nic bool"
  let provider ← u64 "nic provider"
  let support ← readEnum Support "nic enum"
  let provenance ← readEnum Provenance "nic enum"
  pure
    { id := id
      generation := generation
      name := name
      locator := locator
      rdmaCapable := rdmaCapable
      directPathCapable := directPathCapable
      provider := provider
      support := support
      provenance := provenance }

/-- What a network interface becomes. -/
def recoveredNic (n : NicRecord) : NicRecord :=
  { n with
    authority := {}
    freshness := 0 }

/-- The numbers of the network interface have the width of their fields. -/
@[mk_iff]
structure FitsNic (n : NicRecord) : Prop where
  id : n.id < 2 ^ 64
  generation : n.generation < 2 ^ 64
  name : n.name.length < 2 ^ 32
  locator : n.locator.length < 2 ^ 32
  provider : n.provider < 2 ^ 64

instance : DecidablePred FitsNic := fun n => decidable_of_iff' _ (fitsNic_iff n)

/-- What the reader checks of a network interface. -/
def ReadableNic (n : NicRecord) : Prop :=
  n.name.length ≤ maxCount ∧ n.locator.length ≤ maxCount ∧ CEnum.InRange n.support ∧
    CEnum.InRange n.provenance

instance : DecidablePred ReadableNic := fun _ => inferInstanceAs (Decidable (_ ∧ _))

/-- A network interface is read back exactly when it is readable. -/
theorem reads_nic {n : NicRecord} (h : FitsNic n) :
  readNic.Reads (putNic n) (ReadableNic n) (recoveredNic n)
  := by
  apply Reader.Reads.congr
  · apply (reads_u64 h.id _).field
    apply (reads_u64 h.generation _).field
    apply (reads_str h.name _).field
    apply (reads_str h.locator _).field
    apply (reads_bool n.rdmaCapable _).field
    apply (reads_bool n.directPathCapable _).field
    apply (reads_u64 h.provider _).field
    apply (reads_enum n.support _).field
    apply (reads_enum n.provenance _).field
    apply Reader.Reads.pure
  · simp [ReadableNic]

/-! ### Storage endpoints -/

/-- The image of a storage endpoint. -/
def putStorageEndpoint (e : StorageEndpointRecord) : Bytes :=
  [putU64 e.id, putU64 e.generation, putStr e.name, putStr e.backendName, putStr e.path,
    putBool e.directPathCapable, putU64 e.provider, encodeEnum e.support,
    encodeEnum e.provenance].flatten

/-- Read a storage endpoint. -/
def readStorageEndpoint : Reader Error StorageEndpointRecord := do
  let id ← u64 "truncated storage"
  let generation ← u64 "truncated storage gen"
  let name ← readStr "storage strings"
  let backendName ← readStr "storage strings"
  let path ← readStr "storage strings"
  let directPathCapable ← readBool "storage bool"
  let provider ← u64 "storage provider"
  let support ← readEnum Support "storage enum"
  let provenance ← readEnum Provenance "storage enum"
  pure
    { id := id
      generation := generation
      name := name
      backendName := backendName
      path := path
      directPathCapable := directPathCapable
      provider := provider
      support := support
      provenance := provenance }

/-- What a storage endpoint becomes. -/
def recoveredStorageEndpoint (e : StorageEndpointRecord) : StorageEndpointRecord :=
  { e with
    authority := {}
    freshness := 0 }

/-- The numbers of the storage endpoint have the width of their fields. -/
@[mk_iff]
structure FitsStorageEndpoint (e : StorageEndpointRecord) : Prop where
  id : e.id < 2 ^ 64
  generation : e.generation < 2 ^ 64
  name : e.name.length < 2 ^ 32
  backendName : e.backendName.length < 2 ^ 32
  path : e.path.length < 2 ^ 32
  provider : e.provider < 2 ^ 64

instance : DecidablePred FitsStorageEndpoint :=
  fun e => decidable_of_iff' _ (fitsStorageEndpoint_iff e)

/-- What the reader checks of a storage endpoint. -/
def ReadableStorageEndpoint (e : StorageEndpointRecord) : Prop :=
  e.name.length ≤ maxCount ∧ e.backendName.length ≤ maxCount ∧ e.path.length ≤ maxCount ∧
    CEnum.InRange e.support ∧ CEnum.InRange e.provenance

instance : DecidablePred ReadableStorageEndpoint :=
  fun _ => inferInstanceAs (Decidable (_ ∧ _))

/-- A storage endpoint is read back exactly when it is readable. -/
theorem reads_storageEndpoint {e : StorageEndpointRecord} (h : FitsStorageEndpoint e) :
  readStorageEndpoint.Reads (putStorageEndpoint e) (ReadableStorageEndpoint e)
    (recoveredStorageEndpoint e)
  := by
  apply Reader.Reads.congr
  · apply (reads_u64 h.id _).field
    apply (reads_u64 h.generation _).field
    apply (reads_str h.name _).field
    apply (reads_str h.backendName _).field
    apply (reads_str h.path _).field
    apply (reads_bool e.directPathCapable _).field
    apply (reads_u64 h.provider _).field
    apply (reads_enum e.support _).field
    apply (reads_enum e.provenance _).field
    apply Reader.Reads.pure
  · simp [ReadableStorageEndpoint]

/-! ### Providers -/

/-- The image of a provider, of which all is carried. -/
def putProvider (p : ProviderInfo) : Bytes :=
  [putU64 p.id, putStr p.name, putBool p.available, encodeEnum p.support,
    encodeEnum p.provenance].flatten

/-- Read a provider. -/
def readProvider : Reader Error ProviderInfo := do
  let id ← u64 "truncated provider"
  let name ← readStr "provider name"
  let available ← readBool "provider bool"
  let support ← readEnum Support "provider enum"
  let provenance ← readEnum Provenance "provider enum"
  pure
    { id := id
      name := name
      available := available
      support := support
      provenance := provenance }

/-- The numbers of the provider have the width of their fields. -/
@[mk_iff]
structure FitsProvider (p : ProviderInfo) : Prop where
  id : p.id < 2 ^ 64
  name : p.name.length < 2 ^ 32

instance : DecidablePred FitsProvider := fun p => decidable_of_iff' _ (fitsProvider_iff p)

/-- What the reader checks of a provider. -/
def ReadableProvider (p : ProviderInfo) : Prop :=
  p.name.length ≤ maxCount ∧ CEnum.InRange p.support ∧ CEnum.InRange p.provenance

instance : DecidablePred ReadableProvider := fun _ => inferInstanceAs (Decidable (_ ∧ _))

/-- A provider is read back, unchanged, exactly when it is readable. -/
theorem reads_provider {p : ProviderInfo} (h : FitsProvider p) :
  readProvider.Reads (putProvider p) (ReadableProvider p) p
  := by
  apply Reader.Reads.congr
  · apply (reads_u64 h.id _).field
    apply (reads_str h.name _).field
    apply (reads_bool p.available _).field
    apply (reads_enum p.support _).field
    apply (reads_enum p.provenance _).field
    apply Reader.Reads.pure
  · simp [ReadableProvider]

/-! ### Capabilities -/

/-- The image of an observation, with the authority it was made under. -/
def putCapability (c : CapabilityObservation) : Bytes :=
  [putU64 c.id, putStr c.provider, putStr c.capability, putStr c.value, encodeEnum c.support,
    encodeEnum c.provenance, putU64 c.authority.worker, putU64 c.authority.boot,
    putU64 c.authority.epoch, putU64 c.freshness].flatten

/-- Read an observation. -/
def readCapability : Reader Error CapabilityObservation := do
  let id ← u64 "truncated cap id"
  let provider ← readStr "cap strings"
  let capability ← readStr "cap strings"
  let value ← readStr "cap strings"
  let support ← readEnum Support "cap enum"
  let provenance ← readEnum Provenance "cap enum"
  let worker ← u64 "cap worker"
  let boot ← u64 "cap boot"
  let authorityEpoch ← u64 "cap epoch"
  let freshness ← u64 "cap freshness"
  pure
    { id := id
      provider := provider
      capability := capability
      value := value
      support := support
      provenance := provenance
      authority := { worker := worker, boot := boot, epoch := authorityEpoch }
      freshness := freshness }

/-- The numbers of the observation have the width of their fields. -/
@[mk_iff]
structure FitsCapability (c : CapabilityObservation) : Prop where
  id : c.id < 2 ^ 64
  provider : c.provider.length < 2 ^ 32
  capability : c.capability.length < 2 ^ 32
  value : c.value.length < 2 ^ 32
  worker : c.authority.worker < 2 ^ 64
  boot : c.authority.boot < 2 ^ 64
  authorityEpoch : c.authority.epoch < 2 ^ 64
  freshness : c.freshness < 2 ^ 64

instance : DecidablePred FitsCapability := fun c => decidable_of_iff' _ (fitsCapability_iff c)

/-- What the reader checks of an observation. -/
def ReadableCapability (c : CapabilityObservation) : Prop :=
  c.provider.length ≤ maxCount ∧ c.capability.length ≤ maxCount ∧ c.value.length ≤ maxCount ∧
    CEnum.InRange c.support ∧ CEnum.InRange c.provenance

instance : DecidablePred ReadableCapability := fun _ => inferInstanceAs (Decidable (_ ∧ _))

/-- An observation is read back, unchanged, exactly when it is readable. -/
theorem reads_capability {c : CapabilityObservation} (h : FitsCapability c) :
  readCapability.Reads (putCapability c) (ReadableCapability c) c
  := by
  apply Reader.Reads.congr
  · apply (reads_u64 h.id _).field
    apply (reads_str h.provider _).field
    apply (reads_str h.capability _).field
    apply (reads_str h.value _).field
    apply (reads_enum c.support _).field
    apply (reads_enum c.provenance _).field
    apply (reads_u64 h.worker _).field
    apply (reads_u64 h.boot _).field
    apply (reads_u64 h.authorityEpoch _).field
    apply (reads_u64 h.freshness _).field
    apply Reader.Reads.pure
  · simp [ReadableCapability]

/-! ### Registrations -/

/-- The image of a registration, the strings of its capabilities after their number. -/
def putRegistration (r : Registration) : Bytes :=
  [putU64 r.id, putU64 r.generation, putU64 r.buffer, putU64 r.bufferGeneration,
    putU64 r.endpoint, putU64 r.endpointGeneration, putU64 r.provider,
    putU64 r.authority.worker, putU64 r.authority.boot, putU64 r.authority.epoch,
    encodeEnum r.state, encodeEnum r.support, encodeEnum r.provenance, putBool r.duplicated,
    putU64 r.freshness, putU32 r.requiredCapabilities.length,
    (r.requiredCapabilities.map putStr).flatten].flatten

/-- A registration is never recovered as current. -/
def recoveredState (s : RegistrationState) : RegistrationState :=
  if s = .registered then .revalidationRequired else s

/-- Read a registration. -/
def readRegistration : Reader Error Registration := do
  let id ← u64 "truncated reg id"
  let generation ← u64 "reg gen"
  let buffer ← u64 "reg buffer"
  let bufferGeneration ← u64 "reg buffer gen"
  let endpoint ← u64 "reg endpoint"
  let endpointGeneration ← u64 "reg endpoint gen"
  let provider ← u64 "reg provider"
  let worker ← u64 "reg worker"
  let boot ← u64 "reg boot"
  let authorityEpoch ← u64 "reg epoch"
  let state ← readEnum RegistrationState "reg state"
  let support ← readEnum Support "reg enum"
  let provenance ← readEnum Provenance "reg enum"
  let duplicated ← readBool "reg dup"
  let freshness ← u64 "reg freshness"
  let ncap ← boundedCount maxCapabilities "reg caps"
  let requiredCapabilities ← Reader.many (readStr "reg cap str") ncap
  pure
    { id := id
      generation := generation
      buffer := buffer
      bufferGeneration := bufferGeneration
      endpoint := endpoint
      endpointGeneration := endpointGeneration
      provider := provider
      authority := { worker := worker, boot := boot, epoch := authorityEpoch }
      state := recoveredState state
      support := support
      provenance := provenance
      duplicated := duplicated
      freshness := freshness
      requiredCapabilities := requiredCapabilities
      handle := none }

/-- What a registration becomes: it is not in force any more. -/
def recoveredRegistration (r : Registration) : Registration :=
  { r with
    state := recoveredState r.state
    handle := none }

/-- The numbers of the registration have the width of their fields. -/
@[mk_iff]
structure FitsRegistration (r : Registration) : Prop where
  id : r.id < 2 ^ 64
  generation : r.generation < 2 ^ 64
  buffer : r.buffer < 2 ^ 64
  bufferGeneration : r.bufferGeneration < 2 ^ 64
  endpoint : r.endpoint < 2 ^ 64
  endpointGeneration : r.endpointGeneration < 2 ^ 64
  provider : r.provider < 2 ^ 64
  worker : r.authority.worker < 2 ^ 64
  boot : r.authority.boot < 2 ^ 64
  authorityEpoch : r.authority.epoch < 2 ^ 64
  freshness : r.freshness < 2 ^ 64
  requiredCapabilities : r.requiredCapabilities.length < 2 ^ 32
  capability : ∀ s ∈ r.requiredCapabilities, s.length < 2 ^ 32

instance : DecidablePred FitsRegistration := fun r => decidable_of_iff' _ (fitsRegistration_iff r)

/-- What the reader checks of a registration. -/
def ReadableRegistration (r : Registration) : Prop :=
  CEnum.InRange r.state ∧ CEnum.InRange r.support ∧ CEnum.InRange r.provenance ∧
    r.requiredCapabilities.length ≤ maxCapabilities ∧
    ∀ s ∈ r.requiredCapabilities, s.length ≤ maxCount

instance : DecidablePred ReadableRegistration := fun _ => inferInstanceAs (Decidable (_ ∧ _))

/-- A registration is read back exactly when it is readable. -/
theorem reads_registration {r : Registration} (h : FitsRegistration r) :
  readRegistration.Reads (putRegistration r) (ReadableRegistration r) (recoveredRegistration r)
  := by
  apply Reader.Reads.congr
  · apply (reads_u64 h.id _).field
    apply (reads_u64 h.generation _).field
    apply (reads_u64 h.buffer _).field
    apply (reads_u64 h.bufferGeneration _).field
    apply (reads_u64 h.endpoint _).field
    apply (reads_u64 h.endpointGeneration _).field
    apply (reads_u64 h.provider _).field
    apply (reads_u64 h.worker _).field
    apply (reads_u64 h.boot _).field
    apply (reads_u64 h.authorityEpoch _).field
    apply (reads_enum r.state _).field
    apply (reads_enum r.support _).field
    apply (reads_enum r.provenance _).field
    apply (reads_bool r.duplicated _).field
    apply (reads_u64 h.freshness _).field
    apply (reads_boundedCount h.requiredCapabilities _ _).field
    apply (reads_strs h.capability _).field
    apply Reader.Reads.pure
  · simp [ReadableRegistration]

/-! ### Plans -/

/-- The image of a plan.  Its stages stay behind. -/
def putPlan (p : TransferPlan) : Bytes :=
  [putU64 p.id, putU64 p.pathGeneration, putU64 p.generation, putU64 p.source,
    putU64 p.sourceGeneration, putU64 p.destination, putU64 p.destinationGeneration,
    putU64 p.registrationId, putU64 p.registrationGeneration,
    putU64 p.registrationBufferGeneration, encodeEnum p.policy, putU64 p.expectedBytes,
    encodeEnum p.eligibility, encodeEnum p.support, encodeEnum p.provenance, putU32 p.copyCount,
    putStr p.explanation, putU64 p.epoch, putU64 p.authority.worker, putU64 p.authority.boot,
    putU64 p.authority.epoch].flatten

/-- Read a plan. -/
def readPlan : Reader Error TransferPlan := do
  let id ← u64 "truncated plan id"
  let pathGeneration ← u64 "plan path gen"
  let generation ← u64 "plan gen"
  let source ← u64 "plan source"
  let sourceGeneration ← u64 "plan source gen"
  let destination ← u64 "plan dest"
  let destinationGeneration ← u64 "plan dest gen"
  let registrationId ← u64 "plan reg id"
  let registrationGeneration ← u64 "plan reg gen"
  let registrationBufferGeneration ← u64 "plan reg buf gen"
  let policy ← readEnum PathPolicy "plan policy"
  let expectedBytes ← u64 "plan expected"
  let eligibility ← readEnum PathEligibility "plan enum"
  let support ← readEnum Support "plan enum"
  let provenance ← readEnum Provenance "plan enum"
  let copyCount ← u32 "plan copy count"
  let explanation ← readStr "plan explanation"
  let epoch ← u64 "plan epoch"
  let worker ← u64 "plan worker"
  let boot ← u64 "plan boot"
  let authorityEpoch ← u64 "plan auth epoch"
  pure
    { id := id
      pathGeneration := pathGeneration
      generation := generation
      source := source
      sourceGeneration := sourceGeneration
      destination := destination
      destinationGeneration := destinationGeneration
      registrationId := registrationId
      registrationGeneration := registrationGeneration
      registrationBufferGeneration := registrationBufferGeneration
      policy := policy
      expectedBytes := expectedBytes
      eligibility := eligibility
      support := support
      provenance := provenance
      copyCount := copyCount
      explanation := explanation
      epoch := epoch
      authority := { worker := worker, boot := boot, epoch := authorityEpoch }
      authoritative := false }

/-- What a plan becomes: it is without stages, and not authoritative. -/
def recoveredPlan (p : TransferPlan) : TransferPlan :=
  { p with
    stages := []
    fallbackReasons := []
    authoritative := false }

/-- The numbers of the plan have the width of their fields. -/
@[mk_iff]
structure FitsPlan (p : TransferPlan) : Prop where
  id : p.id < 2 ^ 64
  pathGeneration : p.pathGeneration < 2 ^ 64
  generation : p.generation < 2 ^ 64
  source : p.source < 2 ^ 64
  sourceGeneration : p.sourceGeneration < 2 ^ 64
  destination : p.destination < 2 ^ 64
  destinationGeneration : p.destinationGeneration < 2 ^ 64
  registrationId : p.registrationId < 2 ^ 64
  registrationGeneration : p.registrationGeneration < 2 ^ 64
  registrationBufferGeneration : p.registrationBufferGeneration < 2 ^ 64
  expectedBytes : p.expectedBytes < 2 ^ 64
  copyCount : p.copyCount < 2 ^ 32
  explanation : p.explanation.length < 2 ^ 32
  epoch : p.epoch < 2 ^ 64
  worker : p.authority.worker < 2 ^ 64
  boot : p.authority.boot < 2 ^ 64
  authorityEpoch : p.authority.epoch < 2 ^ 64

instance : DecidablePred FitsPlan := fun p => decidable_of_iff' _ (fitsPlan_iff p)

/-- What the reader checks of a plan. -/
def ReadablePlan (p : TransferPlan) : Prop :=
  CEnum.InRange p.policy ∧ CEnum.InRange p.eligibility ∧ CEnum.InRange p.support ∧
    CEnum.InRange p.provenance ∧ p.explanation.length ≤ maxCount

instance : DecidablePred ReadablePlan := fun _ => inferInstanceAs (Decidable (_ ∧ _))

/-- A plan is read back exactly when it is readable. -/
theorem reads_plan {p : TransferPlan} (h : FitsPlan p) :
  readPlan.Reads (putPlan p) (ReadablePlan p) (recoveredPlan p)
  := by
  apply Reader.Reads.congr
  · apply (reads_u64 h.id _).field
    apply (reads_u64 h.pathGeneration _).field
    apply (reads_u64 h.generation _).field
    apply (reads_u64 h.source _).field
    apply (reads_u64 h.sourceGeneration _).field
    apply (reads_u64 h.destination _).field
    apply (reads_u64 h.destinationGeneration _).field
    apply (reads_u64 h.registrationId _).field
    apply (reads_u64 h.registrationGeneration _).field
    apply (reads_u64 h.registrationBufferGeneration _).field
    apply (reads_enum p.policy _).field
    apply (reads_u64 h.expectedBytes _).field
    apply (reads_enum p.eligibility _).field
    apply (reads_enum p.support _).field
    apply (reads_enum p.provenance _).field
    apply (reads_u32 h.copyCount _).field
    apply (reads_str h.explanation _).field
    apply (reads_u64 h.epoch _).field
    apply (reads_u64 h.worker _).field
    apply (reads_u64 h.boot _).field
    apply (reads_u64 h.authorityEpoch _).field
    apply Reader.Reads.pure
  · simp [ReadablePlan]

/-! ### Formats -/

/-- Buffers as records of a section. -/
def bufferFormat : Format Error BufferRecord where
  put := putBuffer
  read := readBuffer
  recovered := recoveredBuffer
  Fits := FitsBuffer
  Readable := ReadableBuffer
  reads _ := reads_buffer

/-- Devices as records of a section. -/
def deviceFormat : Format Error DeviceRecord where
  put := putDevice
  read := readDevice
  recovered := recoveredDevice
  Fits := FitsDevice
  Readable := ReadableDevice
  reads _ := reads_device

/-- Endpoints as records of a section. -/
def endpointFormat : Format Error EndpointRecord where
  put := putEndpoint
  read := readEndpoint
  recovered := recoveredEndpoint
  Fits := FitsEndpoint
  Readable := ReadableEndpoint
  reads _ := reads_endpoint

/-- Network interfaces as records of a section. -/
def nicFormat : Format Error NicRecord where
  put := putNic
  read := readNic
  recovered := recoveredNic
  Fits := FitsNic
  Readable := ReadableNic
  reads _ := reads_nic

/-- Storage endpoints as records of a section. -/
def storageEndpointFormat : Format Error StorageEndpointRecord where
  put := putStorageEndpoint
  read := readStorageEndpoint
  recovered := recoveredStorageEndpoint
  Fits := FitsStorageEndpoint
  Readable := ReadableStorageEndpoint
  reads _ := reads_storageEndpoint

/-- Providers as records of a section. -/
def providerFormat : Format Error ProviderInfo where
  put := putProvider
  read := readProvider
  recovered := id
  Fits := FitsProvider
  Readable := ReadableProvider
  reads _ := reads_provider

/-- Observations as records of a section. -/
def capabilityFormat : Format Error CapabilityObservation where
  put := putCapability
  read := readCapability
  recovered := id
  Fits := FitsCapability
  Readable := ReadableCapability
  reads _ := reads_capability

/-- Registrations as records of a section. -/
def registrationFormat : Format Error Registration where
  put := putRegistration
  read := readRegistration
  recovered := recoveredRegistration
  Fits := FitsRegistration
  Readable := ReadableRegistration
  reads _ := reads_registration

/-- Plans as records of a section. -/
def planFormat : Format Error TransferPlan where
  put := putPlan
  read := readPlan
  recovered := recoveredPlan
  Fits := FitsPlan
  Readable := ReadablePlan
  reads _ := reads_plan

end Persistence

end GpuDirectFabric
