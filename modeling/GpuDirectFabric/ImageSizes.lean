import GpuDirectFabric.Images
import GpuDirectFabric.Limits
import GpuDirectFabric.RoundTrip

/-!
# The sizes of images

How long the body of a state file is: each table adds the length of the images of its records.  An
update that changes no field of variable length leaves the length of the body alone.
-/

namespace GpuDirectFabric

open Codec Coordinator

namespace Persistence

/-! ### Records -/

/-- Of a buffer, only the name is of variable length. -/
theorem length_putBuffer (b : BufferRecord) :
  (putBuffer b).length = 72 + b.name.length
  := by
  simp only [putBuffer, List.flatten_cons, List.flatten_nil, List.length_append, List.length_nil,
    length_putU64, length_encodeEnum, length_putStr]
  omega

/-- Of an endpoint, its name and the hint of its topology. -/
theorem length_putEndpoint (e : EndpointRecord) :
  (putEndpoint e).length = 48 + e.name.length + e.topologyHint.length
  := by
  simp only [putEndpoint, List.flatten_cons, List.flatten_nil, List.length_append, List.length_nil,
    length_putU64, length_putBool, length_encodeEnum, length_putStr]
  omega

/-- Of a registration, the names of the capabilities it requires. -/
theorem length_putRegistration (r : Registration) :
  (putRegistration r).length = 108 + ((r.requiredCapabilities.map putStr).flatten).length
  := by
  simp only [putRegistration, List.flatten_cons, List.flatten_nil, List.length_append,
    List.length_nil, length_putU64, length_putU32, length_putBool, length_encodeEnum]
  omega

/-- Of a plan, its explanation. -/
theorem length_putPlan (p : TransferPlan) :
  (putPlan p).length = 144 + p.explanation.length
  := by
  simp only [putPlan, List.flatten_cons, List.flatten_nil, List.length_append, List.length_nil,
    length_putU64, length_putU32, length_encodeEnum, length_putStr]
  omega

/-! ### Sections -/

section

variable {ρ : Type} {F : Format Error ρ}

/-- The length of the images of the records of a table. -/
def imageSize (F : Format Error ρ) (t : Table ρ) : ℕ := t.weight fun r => (F.put r).length

/-- The length of the image of the record under a key, if there is one. -/
def imageSizeAt (F : Format Error ρ) (t : Table ρ) (k : ℕ) : ℕ :=
  t.weightAt (fun r => (F.put r).length) k

/-- A section takes four bytes more than its records. -/
theorem length_putSection (F : Format Error ρ) (id : ρ → ℕ) (t : Table ρ) :
  (putSection F id t).length = 4 + imageSize F t
  := by
  have hperm : (sortedById id t).Perm t.values := List.perm_insertionSort _ _
  rw [putSection, List.length_append, length_putU32, List.length_flatten, List.map_map]
  rw [imageSize, Table.weight, (hperm.map _).sum_nat]
  rfl

/-- The lengths of the images of the tables that are persisted. -/
def imageSizes (s : State) : ℕ :=
  imageSize bufferFormat s.buffers + imageSize deviceFormat s.devices +
    imageSize endpointFormat s.endpoints + imageSize nicFormat s.nics +
    imageSize storageEndpointFormat s.storage + imageSize providerFormat s.providers +
    imageSize capabilityFormat s.capabilities + imageSize registrationFormat s.registrations +
    imageSize planFormat s.plans

/-- The header record takes 24 bytes, and the count of each of the nine sections 4. -/
theorem length_stateBody (s : State) :
  (stateBody s).length = 60 + imageSizes s
  := by
  rw [stateBody, stateSections, registrySections, imageSizes]
  simp only [List.flatten_cons, List.flatten_nil, List.length_append, List.length_nil,
    length_putSection, length_putU64]
  omega

/-- The record `r'` is written as readable as `r`, and in as many bytes. -/
structure WrittenAlike (F : Format Error ρ) (r r' : ρ) : Prop where
  length : (F.put r').length = (F.put r).length
  readable : F.Readable r → F.Readable r'

theorem WrittenAlike.refl (r : ρ) :
  WrittenAlike F r r
  := ⟨rfl, id⟩

/-- The section of `t'` is no longer than that of `t`, and is as readable. -/
structure SectionKept (F : Format Error ρ) (t t' : Table ρ) : Prop where
  size : t'.size ≤ t.size
  readable : t.All (fun _ r => F.Readable r) → t'.All fun _ r => F.Readable r
  images : imageSize F t' ≤ imageSize F t

namespace SectionKept

variable {t t' : Table ρ} {k : ℕ} {r r' : ρ}

/-- A table keeps its own section. -/
theorem refl (F : Format Error ρ) (t : Table ρ) :
  SectionKept F t t
  := ⟨le_rfl, id, le_rfl⟩

/-- A record is replaced by one that is written alike. -/
theorem modify (hr : t.lookup k = some r) (h : WrittenAlike F r r') :
  SectionKept F t (t.insert k r')
  where
  size := (Table.size_insert_of_lookup hr).le
  readable ht := ht.modify hr h.readable
  images := by
    have hweight := Table.weight_insert (fun r => (F.put r).length) t k r'
    rw [Table.weightAt_of_lookup hr, h.length] at hweight
    exact (Nat.add_right_cancel hweight).le

/-- So are all records. -/
theorem mapVals {f : ρ → ρ} (t : Table ρ) (h : ∀ r, WrittenAlike F r (f r)) :
  SectionKept F t (t.mapVals f)
  where
  size := (Table.size_mapVals f t).le
  readable ht := ht.mapVals fun _ r hr => (h r).readable hr
  images := (Table.weight_mapVals t fun r => (h r).length).le

/-- A record less makes the section shorter. -/
theorem erase (t : Table ρ) (k : ℕ) :
  SectionKept F t (t.erase k)
  where
  size := Table.size_erase_le t k
  readable ht := ht.erase
  images := by
    rw [imageSize, imageSize, ← Table.weight_erase _ t k]
    exact Nat.le_add_right _ _

/-- The records are sorted before they are written. -/
theorem rearranged (h : t.Rearranged t') :
  SectionKept F t t'
  where
  size := h.size.le
  readable ht := h.all ht
  images := (h.weight _).le

/-- What is kept stays within the bounds of the reader. -/
theorem bounded (h : SectionKept F t t') (ht : Bounded F t) :
  Bounded F t'
  := by
  have hreadable : t.All fun _ r => F.Readable r := Table.forall_values.mp ht.readable
  exact ⟨h.size.trans ht.size, Table.forall_values.mpr (h.readable hreadable)⟩

end SectionKept

end

/-- The sections of `s'` are no longer than those of `s`, and are as readable. -/
structure SectionsKept (s s' : State) : Prop where
  buffers : SectionKept bufferFormat s.buffers s'.buffers
  devices : SectionKept deviceFormat s.devices s'.devices
  endpoints : SectionKept endpointFormat s.endpoints s'.endpoints
  nics : SectionKept nicFormat s.nics s'.nics
  storage : SectionKept storageEndpointFormat s.storage s'.storage
  providers : SectionKept providerFormat s.providers s'.providers
  capabilities : SectionKept capabilityFormat s.capabilities s'.capabilities
  registrations : SectionKept registrationFormat s.registrations s'.registrations
  plans : SectionKept planFormat s.plans s'.plans

theorem SectionsKept.refl (s : State) :
  SectionsKept s s
  := ⟨.refl _ _, .refl _ _, .refl _ _, .refl _ _, .refl _ _, .refl _ _, .refl _ _, .refl _ _,
    .refl _ _⟩

/-- What the file of the state holds is within the bounds the reader checks, but for the number of
plans. -/
@[mk_iff]
structure WrittenWithin (s : State) : Prop extends RegistriesWithin s where
  plans : s.plans.All fun _ p => ReadablePlan p

/-- So do all sections, and the body. -/
theorem SectionsKept.within {s s' : State} (h : SectionsKept s s') (hs : WrittenWithin s) :
  WrittenWithin s'
  := by
  refine ⟨⟨⟨h.buffers.bounded hs.buffers, h.devices.bounded hs.devices,
    h.endpoints.bounded hs.endpoints, h.nics.bounded hs.nics, h.storage.bounded hs.storage,
    h.providers.bounded hs.providers, h.capabilities.bounded hs.capabilities,
    h.registrations.bounded hs.registrations⟩, ?_⟩, h.plans.readable hs.plans⟩
  have hbody := hs.body
  have hb := h.buffers.images
  have hd := h.devices.images
  have he := h.endpoints.images
  have hn := h.nics.images
  have ht := h.storage.images
  have hp := h.providers.images
  have hc := h.capabilities.images
  have hr := h.registrations.images
  have hq := h.plans.images
  rw [length_stateBody, imageSizes] at hbody ⊢
  omega

/-! ### Records that are written alike -/

/-- A buffer with the same name is written alike. -/
theorem writtenAlike_buffer {b b' : BufferRecord} (hname : b'.name = b.name)
    (hreadable : ReadableBuffer b → ReadableBuffer b') :
  WrittenAlike bufferFormat b b'
  where
  length := by
    change (putBuffer b').length = (putBuffer b).length
    rw [length_putBuffer, length_putBuffer, hname]
  readable := hreadable

/-- So is an endpoint with the same texts. -/
theorem writtenAlike_endpoint {e e' : EndpointRecord} (hname : e'.name = e.name)
    (htopology : e'.topologyHint = e.topologyHint)
    (hreadable : ReadableEndpoint e → ReadableEndpoint e') :
  WrittenAlike endpointFormat e e'
  where
  length := by
    change (putEndpoint e').length = (putEndpoint e).length
    rw [length_putEndpoint, length_putEndpoint, hname, htopology]
  readable := hreadable

/-- So is a registration that requires the same capabilities. -/
theorem writtenAlike_registration {r r' : Registration}
    (hcapabilities : r'.requiredCapabilities = r.requiredCapabilities)
    (hreadable : ReadableRegistration r → ReadableRegistration r') :
  WrittenAlike registrationFormat r r'
  where
  length := by
    change (putRegistration r').length = (putRegistration r).length
    rw [length_putRegistration, length_putRegistration, hcapabilities]
  readable := hreadable

/-- So is a plan with the same explanation. -/
theorem writtenAlike_plan {p p' : TransferPlan} (hexplanation : p'.explanation = p.explanation)
    (hreadable : ReadablePlan p → ReadablePlan p') :
  WrittenAlike planFormat p p'
  where
  length := by
    change (putPlan p').length = (putPlan p).length
    rw [length_putPlan, length_putPlan, hexplanation]
  readable := hreadable

theorem inRange_retired :
  CEnum.InRange RegistrationState.retired
  := by decide

theorem inRange_revalidationRequired :
  CEnum.InRange RegistrationState.revalidationRequired
  := by decide

theorem inRange_lifecycleRetired :
  CEnum.InRange BufferLifecycle.retired
  := by decide

/-- A registration that has to be revalidated is written alike. -/
theorem writtenAlike_revalidateIf (p : Registration → Bool) (r : Registration) :
  WrittenAlike registrationFormat r (State.revalidateIf p r)
  := by
  rw [State.revalidateIf]
  split
  · apply writtenAlike_registration
    · rfl
    · rintro ⟨-, hrest⟩
      exact ⟨inRange_revalidationRequired, hrest⟩
  · exact .refl r

/-- So is a plan that is superseded. -/
theorem writtenAlike_supersedeIf (q : TransferPlan → Bool) (p : TransferPlan) :
  WrittenAlike planFormat p (State.supersedeIf q p)
  := by
  rw [State.supersedeIf]
  split
  · exact writtenAlike_plan rfl id
  · exact .refl p

/-- So is a registration that is retired. -/
theorem writtenAlike_retired {r : Registration} {handle : Option BackendHandle} {freshness : ℕ} :
  WrittenAlike registrationFormat r
    { r with state := .retired, handle := handle, freshness := freshness }
  := by
  apply writtenAlike_registration
  · rfl
  · rintro ⟨-, hrest⟩
    exact ⟨inRange_retired, hrest⟩

end Persistence

/-! ### Events -/

open Persistence

/-- The event stores a record that it was given, or those of a file. -/
def Event.Writes : Event → Bool
  | .createBuffer _ | .addDevice _ | .addEndpoint _ | .addNic _ | .addStorageEndpoint _
  | .addProvider _ | .publishCapability _ | .registerBuffer _ _ | .planCommit _ _
  | .recover _ => true
  | _ => false

/-- The other events leave the sections as readable and as short as they are. -/
theorem Effect.sectionsKept {e : Event} {s s' : State} (he : Effect e s s')
    (hnot : e.Writes = false) :
  SectionsKept s s'
  := by
  have hrefl := SectionsKept.refl s
  cases he with
  | createBuffer => cases hnot
  | addDevice => cases hnot
  | addEndpoint => cases hnot
  | addNic => cases hnot
  | addStorageEndpoint => cases hnot
  | updateProvider => cases hnot
  | addProvider => cases hnot
  | publishCapability => cases hnot
  | retireDeregistering => cases hnot
  | registerBuffer => cases hnot
  | planDirect => cases hnot
  | planFallback => cases hnot
  | recover => cases hnot
  | advanceBufferGeneration hb =>
      exact { hrefl with
        buffers := .modify hb (writtenAlike_buffer rfl id)
        registrations := .mapVals _ (writtenAlike_revalidateIf _)
        plans := .mapVals _ (writtenAlike_supersedeIf _) }
  | retireBuffer hb =>
      exact { hrefl with
        buffers := .modify hb (writtenAlike_buffer rfl fun h =>
          ⟨h.1, h.2.1, h.2.2.1, h.2.2.2.1, inRange_lifecycleRetired, h.2.2.2.2.2⟩)
        registrations := .mapVals _ (writtenAlike_revalidateIf _)
        plans := .mapVals _ (writtenAlike_supersedeIf _) }
  | markWorkerDead =>
      exact { hrefl with registrations := .mapVals _ (writtenAlike_revalidateIf _) }
  | advanceEpoch =>
      exact { hrefl with
        registrations := .mapVals _ (writtenAlike_revalidateIf _)
        plans := .mapVals _ (writtenAlike_supersedeIf _) }
  | advanceEndpointGeneration he =>
      exact { hrefl with
        endpoints := .modify he (writtenAlike_endpoint rfl rfl id)
        registrations := .mapVals _ (writtenAlike_revalidateIf _)
        plans := .mapVals _ (writtenAlike_supersedeIf _) }
  | setEndpointHealth he =>
      exact { hrefl with endpoints := .modify he (writtenAlike_endpoint rfl rfl id) }
  | revokeCapability => exact { hrefl with capabilities := .erase _ _ }
  | retire hreg => exact { hrefl with registrations := .modify hreg writtenAlike_retired }
  | deregisterBuffer hreg =>
      exact { hrefl with registrations := .modify hreg writtenAlike_retired }
  | deregisterCached hreg hb =>
      exact { hrefl with
        registrations := .modify hreg writtenAlike_retired
        buffers := .modify hb (writtenAlike_buffer rfl id) }
  | rehash hs =>
      exact ⟨.rearranged hs.buffers, .rearranged hs.devices, .rearranged hs.endpoints,
        .rearranged hs.nics, .rearranged hs.storage, .rearranged hs.providers,
        .rearranged hs.capabilities, .rearranged hs.registrations, .rearranged hs.plans⟩
  | _ => exact { hrefl with }

end GpuDirectFabric
