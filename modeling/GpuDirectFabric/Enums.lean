import GpuDirectFabric.Library.Codec
import Mathlib.Data.List.Nodup

/-!
# Enumerations

A C++ `enum class` has the named enumerators and, since its underlying type is `int`, every
other value of that type: a cast from an integer may produce any of them.  Each enumeration
here has one constructor for each named enumerator and a constructor `other` for the values
past the last one.  `toString` and `fromString` come from one list of names, as the macros
of the source generate both from one list.
-/

namespace GpuDirectFabric

/-- A `std::string`: a string of bytes. -/
abbrev Str := Bytes

/-- The bytes of a literal. -/
def str (s : String) : Str := s.toList.map fun c => UInt8.ofNat c.toNat

instance : Coe String Str := ⟨str⟩

/-- An enumeration with underlying type `int`: the names of its enumerators, whose values
are `0, 1, 2, …`, and the casts to and from the unsigned image of the underlying value. -/
class CEnum (E : Type) where
  names : List Str
  toU32 : E → ℕ
  ofU32 : ℕ → E
  ofU32_toU32 : ∀ e, ofU32 (toU32 e) = e
  toU32_lt : ∀ e, toU32 e < 2 ^ 32
  toU32_ofU32 : ∀ n < 2 ^ 32, toU32 (ofU32 n) = n
  names_nodup : names.Nodup
  length_names : names.length ≤ 2 ^ 32

namespace CEnum

variable {E : Type} [CEnum E]

/-- The name of a named enumerator, and `"UNKNOWN"` for any other value. -/
def toString (e : E) : Str := (names E)[toU32 e]?.getD "UNKNOWN"

/-- The enumerator with a given name. -/
def fromString (s : Str) : Option E := ((names E).idxOf? s).map ofU32

/-- The value is that of a named enumerator. -/
def InRange (e : E) : Prop := toU32 e < (names E).length

instance (e : E) : Decidable (InRange e) := inferInstanceAs (Decidable (_ < _))

/-- A value comes back from its name exactly when it is that of a named enumerator. -/
theorem fromString_toString (e : E) :
  fromString (toString e) = some e ↔ InRange e
  := by
  constructor
  · intro h
    obtain ⟨i, hi, hofU32⟩ := Option.map_eq_some_iff.mp h
    have hlt : i < (names E).length := (List.idxOf?_eq_some_iff.mp hi).choose
    have hu : toU32 e = i := by
      rw [← hofU32, toU32_ofU32 i (lt_of_lt_of_le hlt length_names)]
    rw [InRange, hu]
    exact hlt
  · intro h
    rw [InRange] at h
    have hname : toString e = (names E)[toU32 e] := by
      rw [toString, List.getElem?_eq_getElem h]
      rfl
    have hidx : (names E).idxOf? (toString e) = some (toU32 e) := by
      rw [List.idxOf?_eq_some_iff]
      use h, hname.symm
      intro j hj heq
      rw [hname, names_nodup.getElem_inj_iff] at heq
      omega
    rw [fromString, hidx, Option.map_some, ofU32_toU32]

end CEnum

/-- Memory domains. -/
inductive MemoryDomain where
  | hostPageable | hostPinned | cudaDevice | cudaManaged | peerDevice | registeredGpuMemory
  | registeredHostMemory | storageVisibleBuffer | nicVisibleBuffer | unknown
  | other (v : Fin 4294967286)
deriving DecidableEq

namespace MemoryDomain

/-- The underlying value of an enumerator. -/
def toU32 : MemoryDomain → ℕ
  | .hostPageable => 0
  | .hostPinned => 1
  | .cudaDevice => 2
  | .cudaManaged => 3
  | .peerDevice => 4
  | .registeredGpuMemory => 5
  | .registeredHostMemory => 6
  | .storageVisibleBuffer => 7
  | .nicVisibleBuffer => 8
  | .unknown => 9
  | .other v => v + 10

/-- The enumerator of an underlying value. -/
def ofU32 : ℕ → MemoryDomain
  | 0 => .hostPageable
  | 1 => .hostPinned
  | 2 => .cudaDevice
  | 3 => .cudaManaged
  | 4 => .peerDevice
  | 5 => .registeredGpuMemory
  | 6 => .registeredHostMemory
  | 7 => .storageVisibleBuffer
  | 8 => .nicVisibleBuffer
  | 9 => .unknown
  | n + 10 => .other (Fin.ofNat _ n)

instance : CEnum MemoryDomain where
  names := ["HOST_PAGEABLE", "HOST_PINNED", "CUDA_DEVICE", "CUDA_MANAGED", "PEER_DEVICE",
    "REGISTERED_GPU_MEMORY", "REGISTERED_HOST_MEMORY", "STORAGE_VISIBLE_BUFFER",
    "NIC_VISIBLE_BUFFER", "UNKNOWN"]
  toU32 := toU32
  ofU32 := ofU32
  ofU32_toU32 e := by cases e <;> simp [toU32, ofU32]
  toU32_lt e := by cases e <;> simp only [toU32] <;> omega
  toU32_ofU32 n hn := by
    unfold ofU32
    split <;> simp only [toU32, Fin.val_ofNat]
    omega
  names_nodup := by decide
  length_names := by decide

end MemoryDomain

/-- Where an observation comes from. -/
inductive Provenance where
  | cudaRuntime | cudaDriver | nvml | operatingSystem | rdmaProvider | verbs | dmaBuf
  | storageBackend | nvidiaDriver | benchmark | persisted | derived | syntheticFixture
  | other (v : Fin 4294967283)
deriving DecidableEq

namespace Provenance

/-- The underlying value of an enumerator. -/
def toU32 : Provenance → ℕ
  | .cudaRuntime => 0
  | .cudaDriver => 1
  | .nvml => 2
  | .operatingSystem => 3
  | .rdmaProvider => 4
  | .verbs => 5
  | .dmaBuf => 6
  | .storageBackend => 7
  | .nvidiaDriver => 8
  | .benchmark => 9
  | .persisted => 10
  | .derived => 11
  | .syntheticFixture => 12
  | .other v => v + 13

/-- The enumerator of an underlying value. -/
def ofU32 : ℕ → Provenance
  | 0 => .cudaRuntime
  | 1 => .cudaDriver
  | 2 => .nvml
  | 3 => .operatingSystem
  | 4 => .rdmaProvider
  | 5 => .verbs
  | 6 => .dmaBuf
  | 7 => .storageBackend
  | 8 => .nvidiaDriver
  | 9 => .benchmark
  | 10 => .persisted
  | 11 => .derived
  | 12 => .syntheticFixture
  | n + 13 => .other (Fin.ofNat _ n)

instance : CEnum Provenance where
  names := ["CUDA_RUNTIME", "CUDA_DRIVER", "NVML", "OPERATING_SYSTEM", "RDMA_PROVIDER", "VERBS",
    "DMA_BUF", "STORAGE_BACKEND", "NVIDIA_DRIVER", "BENCHMARK", "PERSISTED", "DERIVED",
    "SYNTHETIC_FIXTURE"]
  toU32 := toU32
  ofU32 := ofU32
  ofU32_toU32 e := by cases e <;> simp [toU32, ofU32]
  toU32_lt e := by cases e <;> simp only [toU32] <;> omega
  toU32_ofU32 n hn := by
    unfold ofU32
    split <;> simp only [toU32, Fin.val_ofNat]
    omega
  names_nodup := by decide
  length_names := by decide

end Provenance

/-- The support classification. -/
inductive Support where
  | real | synthetic | unsupported | unknown
  | other (v : Fin 4294967292)
deriving DecidableEq

namespace Support

/-- The underlying value of an enumerator. -/
def toU32 : Support → ℕ
  | .real => 0
  | .synthetic => 1
  | .unsupported => 2
  | .unknown => 3
  | .other v => v + 4

/-- The enumerator of an underlying value. -/
def ofU32 : ℕ → Support
  | 0 => .real
  | 1 => .synthetic
  | 2 => .unsupported
  | 3 => .unknown
  | n + 4 => .other (Fin.ofNat _ n)

instance : CEnum Support where
  names := ["REAL", "SYNTHETIC", "UNSUPPORTED", "UNKNOWN"]
  toU32 := toU32
  ofU32 := ofU32
  ofU32_toU32 e := by cases e <;> simp [toU32, ofU32]
  toU32_lt e := by cases e <;> simp only [toU32] <;> omega
  toU32_ofU32 n hn := by
    unfold ofU32
    split <;> simp only [toU32, Fin.val_ofNat]
    omega
  names_nodup := by decide
  length_names := by decide

end Support

/-- The registration lifecycle. -/
inductive RegistrationState where
  | unregistered | registering | registered | revalidationRequired | deregistering | retired
  | failed | unsupported
  | other (v : Fin 4294967288)
deriving DecidableEq

namespace RegistrationState

/-- The underlying value of an enumerator. -/
def toU32 : RegistrationState → ℕ
  | .unregistered => 0
  | .registering => 1
  | .registered => 2
  | .revalidationRequired => 3
  | .deregistering => 4
  | .retired => 5
  | .failed => 6
  | .unsupported => 7
  | .other v => v + 8

/-- The enumerator of an underlying value. -/
def ofU32 : ℕ → RegistrationState
  | 0 => .unregistered
  | 1 => .registering
  | 2 => .registered
  | 3 => .revalidationRequired
  | 4 => .deregistering
  | 5 => .retired
  | 6 => .failed
  | 7 => .unsupported
  | n + 8 => .other (Fin.ofNat _ n)

instance : CEnum RegistrationState where
  names := ["UNREGISTERED", "REGISTERING", "REGISTERED", "REVALIDATION_REQUIRED", "DEREGISTERING",
    "RETIRED", "FAILED", "UNSUPPORTED"]
  toU32 := toU32
  ofU32 := ofU32
  ofU32_toU32 e := by cases e <;> simp [toU32, ofU32]
  toU32_lt e := by cases e <;> simp only [toU32] <;> omega
  toU32_ofU32 n hn := by
    unfold ofU32
    split <;> simp only [toU32, Fin.val_ofNat]
    omega
  names_nodup := by decide
  length_names := by decide

end RegistrationState

/-- The buffer lifecycle. -/
inductive BufferLifecycle where
  | active | retired
  | other (v : Fin 4294967294)
deriving DecidableEq

namespace BufferLifecycle

/-- The underlying value of an enumerator. -/
def toU32 : BufferLifecycle → ℕ
  | .active => 0
  | .retired => 1
  | .other v => v + 2

/-- The enumerator of an underlying value. -/
def ofU32 : ℕ → BufferLifecycle
  | 0 => .active
  | 1 => .retired
  | n + 2 => .other (Fin.ofNat _ n)

instance : CEnum BufferLifecycle where
  names := ["ACTIVE", "RETIRED"]
  toU32 := toU32
  ofU32 := ofU32
  ofU32_toU32 e := by cases e <;> simp [toU32, ofU32]
  toU32_lt e := by cases e <;> simp only [toU32] <;> omega
  toU32_ofU32 n hn := by
    unfold ofU32
    split <;> simp only [toU32, Fin.val_ofNat]
    omega
  names_nodup := by decide
  length_names := by decide

end BufferLifecycle

/-- The outcomes of a path evaluation. -/
inductive PathEligibility where
  | directAllowed | directAllowedDegraded | directUnsupported | registrationRequired
  | registrationStale | endpointStale | deviceStale | topologyIncompatible
  | providerUnavailable | fallbackRequired | noValidPath | revalidationRequired
  | insufficientEvidence | policyRejected | invalidBuffer | unsupported
  | other (v : Fin 4294967280)
deriving DecidableEq

namespace PathEligibility

/-- The underlying value of an enumerator. -/
def toU32 : PathEligibility → ℕ
  | .directAllowed => 0
  | .directAllowedDegraded => 1
  | .directUnsupported => 2
  | .registrationRequired => 3
  | .registrationStale => 4
  | .endpointStale => 5
  | .deviceStale => 6
  | .topologyIncompatible => 7
  | .providerUnavailable => 8
  | .fallbackRequired => 9
  | .noValidPath => 10
  | .revalidationRequired => 11
  | .insufficientEvidence => 12
  | .policyRejected => 13
  | .invalidBuffer => 14
  | .unsupported => 15
  | .other v => v + 16

/-- The enumerator of an underlying value. -/
def ofU32 : ℕ → PathEligibility
  | 0 => .directAllowed
  | 1 => .directAllowedDegraded
  | 2 => .directUnsupported
  | 3 => .registrationRequired
  | 4 => .registrationStale
  | 5 => .endpointStale
  | 6 => .deviceStale
  | 7 => .topologyIncompatible
  | 8 => .providerUnavailable
  | 9 => .fallbackRequired
  | 10 => .noValidPath
  | 11 => .revalidationRequired
  | 12 => .insufficientEvidence
  | 13 => .policyRejected
  | 14 => .invalidBuffer
  | 15 => .unsupported
  | n + 16 => .other (Fin.ofNat _ n)

instance : CEnum PathEligibility where
  names := ["DIRECT_ALLOWED", "DIRECT_ALLOWED_DEGRADED", "DIRECT_UNSUPPORTED",
    "REGISTRATION_REQUIRED", "REGISTRATION_STALE", "ENDPOINT_STALE", "DEVICE_STALE",
    "TOPOLOGY_INCOMPATIBLE", "PROVIDER_UNAVAILABLE", "FALLBACK_REQUIRED", "NO_VALID_PATH",
    "REVALIDATION_REQUIRED", "INSUFFICIENT_EVIDENCE", "POLICY_REJECTED", "INVALID_BUFFER",
    "UNSUPPORTED"]
  toU32 := toU32
  ofU32 := ofU32
  ofU32_toU32 e := by cases e <;> simp [toU32, ofU32]
  toU32_lt e := by cases e <;> simp only [toU32] <;> omega
  toU32_ofU32 n hn := by
    unfold ofU32
    split <;> simp only [toU32, Fin.val_ofNat]
    omega
  names_nodup := by decide
  length_names := by decide

end PathEligibility

/-- What a caller accepts in place of a direct path. -/
inductive PathPolicy where
  | directOnly | preferDirect | allowStaging | bestAvailable
  | other (v : Fin 4294967292)
deriving DecidableEq

namespace PathPolicy

/-- The underlying value of an enumerator. -/
def toU32 : PathPolicy → ℕ
  | .directOnly => 0
  | .preferDirect => 1
  | .allowStaging => 2
  | .bestAvailable => 3
  | .other v => v + 4

/-- The enumerator of an underlying value. -/
def ofU32 : ℕ → PathPolicy
  | 0 => .directOnly
  | 1 => .preferDirect
  | 2 => .allowStaging
  | 3 => .bestAvailable
  | n + 4 => .other (Fin.ofNat _ n)

instance : CEnum PathPolicy where
  names := ["DIRECT_ONLY", "PREFER_DIRECT", "ALLOW_STAGING", "BEST_AVAILABLE"]
  toU32 := toU32
  ofU32 := ofU32
  ofU32_toU32 e := by cases e <;> simp [toU32, ofU32]
  toU32_lt e := by cases e <;> simp only [toU32] <;> omega
  toU32_ofU32 n hn := by
    unfold ofU32
    split <;> simp only [toU32, Fin.val_ofNat]
    omega
  names_nodup := by decide
  length_names := by decide

end PathPolicy

/-- Endpoint classes. -/
inductive EndpointClass where
  | nic | storage | peerDevice | host | unknown
  | other (v : Fin 4294967291)
deriving DecidableEq

namespace EndpointClass

/-- The underlying value of an enumerator. -/
def toU32 : EndpointClass → ℕ
  | .nic => 0
  | .storage => 1
  | .peerDevice => 2
  | .host => 3
  | .unknown => 4
  | .other v => v + 5

/-- The enumerator of an underlying value. -/
def ofU32 : ℕ → EndpointClass
  | 0 => .nic
  | 1 => .storage
  | 2 => .peerDevice
  | 3 => .host
  | 4 => .unknown
  | n + 5 => .other (Fin.ofNat _ n)

instance : CEnum EndpointClass where
  names := ["NIC", "STORAGE", "PEER_DEVICE", "HOST", "UNKNOWN"]
  toU32 := toU32
  ofU32 := ofU32
  ofU32_toU32 e := by cases e <;> simp [toU32, ofU32]
  toU32_lt e := by cases e <;> simp only [toU32] <;> omega
  toU32_ofU32 n hn := by
    unfold ofU32
    split <;> simp only [toU32, Fin.val_ofNat]
    omega
  names_nodup := by decide
  length_names := by decide

end EndpointClass

/-- Locality of a buffer. -/
inductive Locality where
  | local | remote | unknown
  | other (v : Fin 4294967293)
deriving DecidableEq

namespace Locality

/-- The underlying value of an enumerator. -/
def toU32 : Locality → ℕ
  | .local => 0
  | .remote => 1
  | .unknown => 2
  | .other v => v + 3

/-- The enumerator of an underlying value. -/
def ofU32 : ℕ → Locality
  | 0 => .local
  | 1 => .remote
  | 2 => .unknown
  | n + 3 => .other (Fin.ofNat _ n)

instance : CEnum Locality where
  names := ["LOCAL", "REMOTE", "UNKNOWN"]
  toU32 := toU32
  ofU32 := ofU32
  ofU32_toU32 e := by cases e <;> simp [toU32, ofU32]
  toU32_lt e := by cases e <;> simp only [toU32] <;> omega
  toU32_ofU32 n hn := by
    unfold ofU32
    split <;> simp only [toU32, Fin.val_ofNat]
    omega
  names_nodup := by decide
  length_names := by decide

end Locality
/-- Path classes. -/
inductive PathClass where
  | gpuToGpuDirect | gpuToNicDirect | nicToGpuDirect | gpuToStorageDirect | storageToGpuDirect
  | gpuToHostPinned | hostPinnedToGpu | gpuToHostStagedToNic | nicToHostStagedToGpu
  | gpuToHostStagedToStorage | storageToHostStagedToGpu
deriving DecidableEq

/-- The name of a path class. -/
def PathClass.toString : PathClass → Str
  | .gpuToGpuDirect => "GPU_TO_GPU_DIRECT"
  | .gpuToNicDirect => "GPU_TO_NIC_DIRECT"
  | .nicToGpuDirect => "NIC_TO_GPU_DIRECT"
  | .gpuToStorageDirect => "GPU_TO_STORAGE_DIRECT"
  | .storageToGpuDirect => "STORAGE_TO_GPU_DIRECT"
  | .gpuToHostPinned => "GPU_TO_HOST_PINNED"
  | .hostPinnedToGpu => "HOST_PINNED_TO_GPU"
  | .gpuToHostStagedToNic => "GPU_TO_HOST_STAGED_TO_NIC"
  | .nicToHostStagedToGpu => "NIC_TO_HOST_STAGED_TO_GPU"
  | .gpuToHostStagedToStorage => "GPU_TO_HOST_STAGED_TO_STORAGE"
  | .storageToHostStagedToGpu => "STORAGE_TO_HOST_STAGED_TO_GPU"

/-- The transfer lifecycle. -/
inductive TransferState where
  | planned | authorized | submitted | inFlight | completed | verified | failed | cancelled
  | stale | revalidationRequired
deriving DecidableEq

/-- Error codes. -/
inductive ErrorCode where
  | ok | notFound | unsupported | invalidArgument | invalidBuffer | invalidMemoryDomain
  | registrationRequired | registrationStale | registrationFailed | staleBuffer | staleEndpoint
  | staleGeneration | staleBoot | staleEpoch | directUnavailable | providerUnavailable
  | topologyIncompatible | fallbackRequired | fallbackDisallowed | noValidPath
  | revalidationRequired | transferFailed | transferStale | integrityFailure | protocolError
  | persistenceError | resourceLimit | cancelled
deriving DecidableEq

/-- Which side of a governed transfer the data originates on. -/
inductive Direction where
  | gpuToPeer | peerToGpu
deriving DecidableEq

end GpuDirectFabric
