import GpuDirectFabric.RecordCodec
import GpuDirectFabric.Library.Acceptance

/-!
# Images

The readers of a state file accept nothing but images: what a reader of records has consumed, on
any input, is the image of a record that fits and is readable, and the record it returns is what is
recovered from that one.
-/

namespace GpuDirectFabric

open Codec

namespace Persistence

/-! ### Fields -/

/-- A number of four bytes that is accepted is the one these bytes stand for. -/
theorem accepts_u32 (message : Str) :
  (u32 message).Accepts fun n used => n < 2 ^ 32 ∧ used = putU32 n
  := by
  apply (Reader.Accepts.word 4 _).mono
  rintro n used ⟨hlt, rfl⟩
  exact ⟨hlt, rfl⟩

theorem accepts_u64 (message : Str) :
  (u64 message).Accepts fun n used => n < 2 ^ 64 ∧ used = putU64 n
  := by
  apply (Reader.Accepts.word 8 _).mono
  rintro n used ⟨hlt, rfl⟩
  exact ⟨hlt, rfl⟩

/-- A count that is accepted is within its bound. -/
theorem accepts_boundedCount {bound : ℕ} (message : Str) :
  (boundedCount bound message).Accepts fun n used => n ≤ bound ∧ used = putU32 n
  := by
  rw [boundedCount]
  refine (accepts_u32 message).field fun n _ => ?_
  apply (Reader.Accepts.guard _ _).bind
  rintro _ _ ⟨hle, rfl⟩
  apply Reader.Accepts.pure
  use of_decide_eq_true hle
  simp

/-- A string that is short enough has a length of the width of its field. -/
theorem fits_of_maxCount {n : ℕ} (h : n ≤ maxCount) :
  n < 2 ^ 32
  := by
  have hmax : maxCount = 2 ^ 20 := by decide
  omega

/-- A string that is accepted is within the bound, and read from its own image. -/
theorem accepts_str (message : Str) :
  (readStr message).Accepts fun s used => s.length ≤ maxCount ∧ used = putStr s
  := by
  rw [readStr]
  refine (accepts_boundedCount message).field fun n hn => ?_
  apply (Reader.Accepts.take n _).mono
  rintro s _ ⟨rfl, rfl⟩
  exact ⟨hn, rfl⟩

/-- Strings that are accepted are those their number promises. -/
theorem accepts_strs (n : ℕ) (message : Str) :
  (Reader.many (readStr message) n).Accepts fun ss used =>
    (ss.length = n ∧ ∀ s ∈ ss, s.length ≤ maxCount) ∧ used = (ss.map putStr).flatten
  := by
  have hstr : (readStr message).Accepts fun s used =>
      ∃ s', s'.length ≤ maxCount ∧ s = id s' ∧ used = putStr s' := by
    apply (accepts_str message).mono
    rintro s _ ⟨hs, rfl⟩
    exact ⟨s, hs, rfl, rfl⟩
  apply (Reader.Accepts.many hstr n).mono
  rintro _ _ ⟨ss, hlength, hss, rfl, rfl⟩
  rw [List.map_id]
  exact ⟨⟨hlength, hss⟩, rfl⟩

/-- A truth value that is accepted has been read from its own image: no other number is one. -/
theorem accepts_bool (message : Str) :
  (readBool message).Accepts fun b used => True ∧ used = putBool b
  := by
  rw [readBool]
  refine (accepts_boundedCount message).field fun n hn => ?_
  apply Reader.Accepts.pure
  use trivial
  obtain rfl | rfl : n = 0 ∨ n = 1 := by omega
  · rfl
  · rfl

/-- An enumerator that is accepted has a name. -/
theorem accepts_enum (E : Type) [CEnum E] [DecidableEq E] (message : Str) :
  (readEnum E message).Accepts fun e used => CEnum.InRange e ∧ used = encodeEnum e
  := by
  rw [readEnum]
  refine (accepts_u32 message).field fun n hn => ?_
  apply (Reader.Accepts.guard _ _).bind
  rintro _ _ ⟨hname, rfl⟩
  apply Reader.Accepts.pure
  use (CEnum.fromString_toString _).mp (of_decide_eq_true hname)
  simp [encodeEnum, CEnum.toU32_ofU32 n hn]

/-! ### Records -/

/-- A buffer that is accepted fits, is readable, and has been read from its own image. -/
theorem accepts_buffer :
  readBuffer.Accepts fun b used =>
    (FitsBuffer b ∧ ReadableBuffer b ∧ b = recoveredBuffer b) ∧ used = putBuffer b
  := by
  rw [readBuffer]
  refine (accepts_u64 _).field fun id hid => ?_
  refine (accepts_u64 _).field fun generation hgeneration => ?_
  refine (accepts_enum MemoryDomain _).field fun domain hdomain => ?_
  refine (accepts_u64 _).field fun size hsize => ?_
  refine (accepts_u64 _).field fun alignment halignment => ?_
  refine (accepts_u64 _).field fun device hdevice => ?_
  refine (accepts_u64 _).field fun deviceGeneration hdeviceGeneration => ?_
  refine (accepts_enum Locality _).field fun locality hlocality => ?_
  refine (accepts_enum Support _).field fun support hsupport => ?_
  refine (accepts_enum Provenance _).field fun provenance hprovenance => ?_
  refine (accepts_enum BufferLifecycle _).field fun lifecycle hlifecycle => ?_
  refine (accepts_str _).field fun name hname => ?_
  apply Reader.Accepts.pure
  exact ⟨⟨⟨hid, hgeneration, hsize, halignment, hdevice, hdeviceGeneration,
      fits_of_maxCount hname⟩, ⟨hdomain, hlocality, hsupport, hprovenance, hlifecycle, hname⟩,
      rfl⟩, rfl⟩

/-- So has a device. -/
theorem accepts_device :
  readDevice.Accepts fun d used =>
    (FitsDevice d ∧ ReadableDevice d ∧ d = recoveredDevice d) ∧ used = putDevice d
  := by
  rw [readDevice]
  refine (accepts_u64 _).field fun id hid => ?_
  refine (accepts_u64 _).field fun generation hgeneration => ?_
  refine (accepts_str _).field fun name hname => ?_
  refine (accepts_str _).field fun computeCapability hcomputeCapability => ?_
  refine (accepts_bool _).field fun peerMemorySupported _ => ?_
  refine (accepts_enum Support _).field fun support hsupport => ?_
  refine (accepts_enum Provenance _).field fun provenance hprovenance => ?_
  apply Reader.Accepts.pure
  exact ⟨⟨⟨hid, hgeneration, fits_of_maxCount hname, fits_of_maxCount hcomputeCapability⟩, ⟨hname,
      hcomputeCapability, hsupport, hprovenance⟩, rfl⟩, rfl⟩

/-- So has an endpoint. -/
theorem accepts_endpoint :
  readEndpoint.Accepts fun e used =>
    (FitsEndpoint e ∧ ReadableEndpoint e ∧ e = recoveredEndpoint e) ∧ used = putEndpoint e
  := by
  rw [readEndpoint]
  refine (accepts_u64 _).field fun id hid => ?_
  refine (accepts_u64 _).field fun generation hgeneration => ?_
  refine (accepts_enum EndpointClass _).field fun endpointClass hendpointClass => ?_
  refine (accepts_str _).field fun name hname => ?_
  refine (accepts_str _).field fun topologyHint htopologyHint => ?_
  refine (accepts_bool _).field fun healthy _ => ?_
  refine (accepts_u64 _).field fun provider hprovider => ?_
  refine (accepts_enum Support _).field fun support hsupport => ?_
  refine (accepts_enum Provenance _).field fun provenance hprovenance => ?_
  apply Reader.Accepts.pure
  exact ⟨⟨⟨hid, hgeneration, fits_of_maxCount hname, fits_of_maxCount htopologyHint, hprovider⟩,
      ⟨hendpointClass, hname, htopologyHint, hsupport, hprovenance⟩, rfl⟩, rfl⟩

/-- So has a network interface. -/
theorem accepts_nic :
  readNic.Accepts fun n used =>
    (FitsNic n ∧ ReadableNic n ∧ n = recoveredNic n) ∧ used = putNic n
  := by
  rw [readNic]
  refine (accepts_u64 _).field fun id hid => ?_
  refine (accepts_u64 _).field fun generation hgeneration => ?_
  refine (accepts_str _).field fun name hname => ?_
  refine (accepts_str _).field fun locator hlocator => ?_
  refine (accepts_bool _).field fun rdmaCapable _ => ?_
  refine (accepts_bool _).field fun directPathCapable _ => ?_
  refine (accepts_u64 _).field fun provider hprovider => ?_
  refine (accepts_enum Support _).field fun support hsupport => ?_
  refine (accepts_enum Provenance _).field fun provenance hprovenance => ?_
  apply Reader.Accepts.pure
  exact ⟨⟨⟨hid, hgeneration, fits_of_maxCount hname, fits_of_maxCount hlocator, hprovider⟩, ⟨hname,
      hlocator, hsupport, hprovenance⟩, rfl⟩, rfl⟩

/-- So has a storage endpoint. -/
theorem accepts_storageEndpoint :
  readStorageEndpoint.Accepts fun e used =>
    (FitsStorageEndpoint e ∧ ReadableStorageEndpoint e ∧ e = recoveredStorageEndpoint e) ∧
      used = putStorageEndpoint e
  := by
  rw [readStorageEndpoint]
  refine (accepts_u64 _).field fun id hid => ?_
  refine (accepts_u64 _).field fun generation hgeneration => ?_
  refine (accepts_str _).field fun name hname => ?_
  refine (accepts_str _).field fun backendName hbackendName => ?_
  refine (accepts_str _).field fun path hpath => ?_
  refine (accepts_bool _).field fun directPathCapable _ => ?_
  refine (accepts_u64 _).field fun provider hprovider => ?_
  refine (accepts_enum Support _).field fun support hsupport => ?_
  refine (accepts_enum Provenance _).field fun provenance hprovenance => ?_
  apply Reader.Accepts.pure
  exact ⟨⟨⟨hid, hgeneration, fits_of_maxCount hname, fits_of_maxCount hbackendName,
      fits_of_maxCount hpath, hprovider⟩, ⟨hname, hbackendName, hpath, hsupport, hprovenance⟩,
      rfl⟩, rfl⟩

/-- So has a provider. -/
theorem accepts_provider :
  readProvider.Accepts fun p used =>
    (FitsProvider p ∧ ReadableProvider p ∧ p = id p) ∧ used = putProvider p
  := by
  rw [readProvider]
  refine (accepts_u64 _).field fun id hid => ?_
  refine (accepts_str _).field fun name hname => ?_
  refine (accepts_bool _).field fun available _ => ?_
  refine (accepts_enum Support _).field fun support hsupport => ?_
  refine (accepts_enum Provenance _).field fun provenance hprovenance => ?_
  apply Reader.Accepts.pure
  exact ⟨⟨⟨hid, fits_of_maxCount hname⟩, ⟨hname, hsupport, hprovenance⟩, rfl⟩, rfl⟩

/-- So has an observation. -/
theorem accepts_capability :
  readCapability.Accepts fun c used =>
    (FitsCapability c ∧ ReadableCapability c ∧ c = id c) ∧ used = putCapability c
  := by
  rw [readCapability]
  refine (accepts_u64 _).field fun id hid => ?_
  refine (accepts_str _).field fun provider hprovider => ?_
  refine (accepts_str _).field fun capability hcapability => ?_
  refine (accepts_str _).field fun value hvalue => ?_
  refine (accepts_enum Support _).field fun support hsupport => ?_
  refine (accepts_enum Provenance _).field fun provenance hprovenance => ?_
  refine (accepts_u64 _).field fun worker hworker => ?_
  refine (accepts_u64 _).field fun boot hboot => ?_
  refine (accepts_u64 _).field fun authorityEpoch hauthorityEpoch => ?_
  refine (accepts_u64 _).field fun freshness hfreshness => ?_
  apply Reader.Accepts.pure
  exact ⟨⟨⟨hid, fits_of_maxCount hprovider, fits_of_maxCount hcapability, fits_of_maxCount hvalue,
      hworker, hboot, hauthorityEpoch, hfreshness⟩, ⟨hprovider, hcapability, hvalue, hsupport,
      hprovenance⟩, rfl⟩, rfl⟩

/-- A plan that is accepted fits, is readable, and has been read from its own image, without stages.
-/
theorem accepts_plan :
  readPlan.Accepts fun p used =>
    (FitsPlan p ∧ ReadablePlan p ∧ p = recoveredPlan p) ∧ used = putPlan p
  := by
  rw [readPlan]
  refine (accepts_u64 _).field fun id hid => ?_
  refine (accepts_u64 _).field fun pathGeneration hpathGeneration => ?_
  refine (accepts_u64 _).field fun generation hgeneration => ?_
  refine (accepts_u64 _).field fun source hsource => ?_
  refine (accepts_u64 _).field fun sourceGeneration hsourceGeneration => ?_
  refine (accepts_u64 _).field fun destination hdestination => ?_
  refine (accepts_u64 _).field fun destinationGeneration hdestinationGeneration => ?_
  refine (accepts_u64 _).field fun registrationId hregistrationId => ?_
  refine (accepts_u64 _).field fun registrationGeneration hregistrationGeneration => ?_
  refine (accepts_u64 _).field fun registrationBufferGeneration hregistrationBufferGeneration => ?_
  refine (accepts_enum PathPolicy _).field fun policy hpolicy => ?_
  refine (accepts_u64 _).field fun expectedBytes hexpectedBytes => ?_
  refine (accepts_enum PathEligibility _).field fun eligibility heligibility => ?_
  refine (accepts_enum Support _).field fun support hsupport => ?_
  refine (accepts_enum Provenance _).field fun provenance hprovenance => ?_
  refine (accepts_u32 _).field fun copyCount hcopyCount => ?_
  refine (accepts_str _).field fun explanation hexplanation => ?_
  refine (accepts_u64 _).field fun epoch hepoch => ?_
  refine (accepts_u64 _).field fun worker hworker => ?_
  refine (accepts_u64 _).field fun boot hboot => ?_
  refine (accepts_u64 _).field fun authorityEpoch hauthorityEpoch => ?_
  apply Reader.Accepts.pure
  exact ⟨⟨⟨hid, hpathGeneration, hgeneration, hsource, hsourceGeneration, hdestination,
      hdestinationGeneration, hregistrationId, hregistrationGeneration,
      hregistrationBufferGeneration, hexpectedBytes, hcopyCount, fits_of_maxCount hexplanation,
      hepoch, hworker, hboot, hauthorityEpoch⟩, ⟨hpolicy, heligibility, hsupport, hprovenance,
      hexplanation⟩, rfl⟩, rfl⟩

/-- The state that was stored is not the one that is read. -/
theorem accepts_registration :
  readRegistration.Accepts fun r used => ∃ r', (FitsRegistration r' ∧ ReadableRegistration r') ∧
    r = recoveredRegistration r' ∧ used = putRegistration r'
  := by
  rw [readRegistration]
  refine (accepts_u64 _).field fun id hid => ?_
  refine (accepts_u64 _).field fun generation hgeneration => ?_
  refine (accepts_u64 _).field fun buffer hbuffer => ?_
  refine (accepts_u64 _).field fun bufferGeneration hbufferGeneration => ?_
  refine (accepts_u64 _).field fun endpoint hendpoint => ?_
  refine (accepts_u64 _).field fun endpointGeneration hendpointGeneration => ?_
  refine (accepts_u64 _).field fun provider hprovider => ?_
  refine (accepts_u64 _).field fun worker hworker => ?_
  refine (accepts_u64 _).field fun boot hboot => ?_
  refine (accepts_u64 _).field fun authorityEpoch hauthorityEpoch => ?_
  refine (accepts_enum RegistrationState _).field fun state hstate => ?_
  refine (accepts_enum Support _).field fun support hsupport => ?_
  refine (accepts_enum Provenance _).field fun provenance hprovenance => ?_
  refine (accepts_bool _).field fun duplicated _ => ?_
  refine (accepts_u64 _).field fun freshness hfreshness => ?_
  refine (accepts_boundedCount _).field fun ncap hncap => ?_
  refine (accepts_strs ncap _).field fun requiredCapabilities hcapabilities => ?_
  obtain ⟨rfl, hshort⟩ := hcapabilities
  apply Reader.Accepts.pure
  refine ⟨{
    id := id
    generation := generation
    buffer := buffer
    bufferGeneration := bufferGeneration
    endpoint := endpoint
    endpointGeneration := endpointGeneration
    provider := provider
    authority := { worker := worker, boot := boot, epoch := authorityEpoch }
    state := state
    support := support
    provenance := provenance
    duplicated := duplicated
    freshness := freshness
    requiredCapabilities := requiredCapabilities
    handle := none }, ⟨⟨hid, hgeneration, hbuffer, hbufferGeneration, hendpoint,
        hendpointGeneration, hprovider, hworker, hboot, hauthorityEpoch, hfreshness, ?_, ?_⟩,
        hstate, hsupport, hprovenance, hncap, hshort⟩, rfl, rfl⟩
  · have hmax : maxCapabilities = 4096 := rfl
    dsimp only
    omega
  · exact fun s hs => fits_of_maxCount (hshort s hs)

/-! ### Formats -/

/-- A reader whose value is the record the image was of. -/
theorem exact_of_accepts {ρ : Type} {F : Format Error ρ}
    (h : F.read.Accepts fun r used =>
      (F.Fits r ∧ F.Readable r ∧ r = F.recovered r) ∧ used = F.put r) :
  F.Exact
  := by
  apply h.mono
  rintro r _ ⟨⟨hfits, hreadable, heq⟩, rfl⟩
  exact ⟨r, ⟨hfits, hreadable⟩, heq, rfl⟩

/-- The reader of buffers accepts nothing but their images. -/
theorem exact_buffer :
  bufferFormat.Exact
  := exact_of_accepts accepts_buffer

/-- So does that of devices. -/
theorem exact_device :
  deviceFormat.Exact
  := exact_of_accepts accepts_device

/-- So does that of endpoints. -/
theorem exact_endpoint :
  endpointFormat.Exact
  := exact_of_accepts accepts_endpoint

/-- So does that of network interfaces. -/
theorem exact_nic :
  nicFormat.Exact
  := exact_of_accepts accepts_nic

/-- So does that of storage endpoints. -/
theorem exact_storageEndpoint :
  storageEndpointFormat.Exact
  := exact_of_accepts accepts_storageEndpoint

/-- So does that of providers. -/
theorem exact_provider :
  providerFormat.Exact
  := exact_of_accepts accepts_provider

/-- So does that of observations. -/
theorem exact_capability :
  capabilityFormat.Exact
  := exact_of_accepts accepts_capability

/-- So does that of registrations, which takes what was written out of force. -/
theorem exact_registration :
  registrationFormat.Exact
  := accepts_registration

/-- So does that of plans. -/
theorem exact_plan :
  planFormat.Exact
  := exact_of_accepts accepts_plan

end Persistence

end GpuDirectFabric
