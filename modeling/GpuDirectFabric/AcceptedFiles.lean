import GpuDirectFabric.Contents

/-!
# Accepted files

What a recovery that succeeds has made sure of, for every byte string.  The framing, the counts of
the registries and the bounds of the records are; that the plans are as many as stored, that nothing
follows them, and that ids, generations and references are in order are not.
-/

namespace GpuDirectFabric

open Codec Coordinator Persistence

/-! ### The end of the file -/

/-- The recovery reads as many plans as are stored and then is at the end of the payload. -/
def ReadsWhole (file : Bytes) (s : State) : Prop :=
  ∃ payload c, openFrame file = .ok payload ∧ readContents payload = .ok (c, []) ∧
    c.plans.length = c.planCount ∧ s = c.state

/-- The file is the frame of the image of contents whose plans are as many as their stored
number. -/
def WellCounted (file : Bytes) : Prop :=
  ∃ w : Contents, w.Valid ∧ w.plans.length = w.planCount ∧ w.image.length ≤ kMaxPayload ∧
    file = frame w.image

/-- A recovery that succeeds reads the whole file exactly when the plans are as many as stored, are
the end of the payload, and have copy counts that lead the loop over all of them. -/
theorem reads_whole_iff {file : Bytes} {out s : State}
    (h : recoverFromFile file out = (.ok (), s)) :
  ReadsWhole file s ↔ WellCounted file
  := by
  constructor
  · rintro ⟨payload, c, hopen, hread, hcount, -⟩
    obtain ⟨rfl, hlength⟩ := frame_of_openFrame hopen
    obtain ⟨_, ⟨w, hw, rfl, rfl⟩, rfl⟩ := accepts_contents payload c [] hread
    rw [List.append_nil] at hlength ⊢
    exact ⟨w, hw, (List.length_map _).symm.trans hcount, hlength, rfl⟩
  · rintro ⟨w, hw, hcount, hlength, rfl⟩
    have hread := (reads_contents hw).ok trivial []
    rw [List.append_nil] at hread
    refine ⟨w.image, w.recovered, openFrame_frame hlength, hread, (List.length_map _).trans hcount,
      ?_⟩
    obtain ⟨payload, c, rest, hopen, hread', rfl⟩ := recoverFromFile_eq_ok.mp h
    rw [openFrame_frame hlength] at hopen
    cases hopen
    rw [hread] at hread'
    cases hread'
    rfl

namespace Fixture

/-- The contents of the file of a new coordinator. -/
def emptyContents : Contents where
  epoch := 1
  nextId := 0
  freshness := 0
  buffers := []
  devices := []
  endpoints := []
  nics := []
  storage := []
  providers := []
  capabilities := []
  registrations := []
  planCount := 0
  plans := []

theorem sectionValid_nil {ρ : Type} (F : Format Error ρ) :
  SectionValid F []
  := ⟨Nat.zero_le _, List.forall_mem_nil _, List.forall_mem_nil _⟩

theorem valid_emptyContents :
  emptyContents.Valid
  where
  epoch := by decide
  nextId := by decide
  freshness := by decide
  buffers := sectionValid_nil _
  devices := sectionValid_nil _
  endpoints := sectionValid_nil _
  nics := sectionValid_nil _
  storage := sectionValid_nil _
  providers := sectionValid_nil _
  capabilities := sectionValid_nil _
  registrations := sectionValid_nil _
  planCount := Nat.zero_le _
  plans := List.forall_mem_nil _
  leads := Nat.zero_le _

/-- The file of a new coordinator with a byte more in its payload, and the checksum of that. -/
def trailing : Bytes := frame (emptyContents.image ++ [0])

end Fixture

theorem reads_whole_iff_fixture :
  ReadsWhole (frame Fixture.emptyContents.image) Fixture.emptyContents.recovered.state ↔
    WellCounted (frame Fixture.emptyContents.image)
  := by
  have haccepted : recoverFromFile (frame Fixture.emptyContents.image) {}
      = (.ok (), Fixture.emptyContents.recovered.state) := by
    apply recoverFromFile_ok_iff.mpr
    refine ⟨_, [], Fixture.valid_emptyContents, ?_, by decide, rfl⟩
    rw [List.append_nil]
  exact reads_whole_iff haccepted

/-- A file with a byte after the plans is accepted. -/
theorem not_reads_whole :
  recoverFromFile Fixture.trailing {} = (.ok (), Fixture.emptyContents.recovered.state) ∧
    ¬ReadsWhole Fixture.trailing Fixture.emptyContents.recovered.state
  := by
  have hlength : (Fixture.emptyContents.image ++ [0]).length ≤ kMaxPayload := by decide
  use recoverFromFile_ok_iff.mpr ⟨_, [0], Fixture.valid_emptyContents, rfl, hlength, rfl⟩
  rintro ⟨payload, c, hopen, hread, -⟩
  rw [Fixture.trailing, openFrame_frame hlength] at hopen
  cases hopen
  rw [(reads_contents Fixture.valid_emptyContents).ok trivial] at hread
  cases hread

/-! ### References, generations and ids -/

/-- Records under distinct ids, none of which is nil or beyond the counter. -/
@[mk_iff]
structure Numbered {ρ : Type} (id : ρ → ℕ) (nextId : ℕ) (rs : List ρ) : Prop where
  distinct : (rs.map id).Nodup
  valid : ∀ r ∈ rs, id r ≠ 0
  counted : ∀ r ∈ rs, id r ≤ nextId

/-- The records of the contents are numbered, their generations start at one, and the buffers and
endpoints they refer to are among them. -/
@[mk_iff]
structure Persistence.Contents.Sound (w : Contents) : Prop where
  buffers : Numbered BufferRecord.id w.nextId w.buffers ∧ ∀ b ∈ w.buffers, 1 ≤ b.generation
  devices : Numbered DeviceRecord.id w.nextId w.devices ∧ ∀ d ∈ w.devices, 1 ≤ d.generation
  endpoints : Numbered EndpointRecord.id w.nextId w.endpoints ∧
    ∀ e ∈ w.endpoints, 1 ≤ e.generation
  nics : Numbered NicRecord.id w.nextId w.nics ∧ ∀ n ∈ w.nics, 1 ≤ n.generation
  storage : Numbered StorageEndpointRecord.id w.nextId w.storage ∧ ∀ e ∈ w.storage, 1 ≤ e.generation
  providers : Numbered ProviderInfo.id w.nextId w.providers
  capabilities : Numbered CapabilityObservation.id w.nextId w.capabilities
  registrations : Numbered Registration.id w.nextId w.registrations ∧
    ∀ r ∈ w.registrations, 1 ≤ r.generation
  plans : Numbered TransferPlan.id w.nextId w.plans ∧ ∀ p ∈ w.plans, 1 ≤ p.generation
  registrationReferences : ∀ r ∈ w.registrations,
    (∃ b ∈ w.buffers, b.id = r.buffer) ∧ ∃ e ∈ w.endpoints, e.id = r.endpoint
  planReferences : ∀ p ∈ w.plans,
    (∃ b ∈ w.buffers, b.id = p.source) ∧ ∃ e ∈ w.endpoints, e.id = p.destination

/-- No section of the contents has a nil id or one id twice. -/
@[mk_iff]
structure Persistence.Contents.Distinct (c : Contents) : Prop where
  buffers : (c.buffers.map BufferRecord.id).Nodup ∧ ∀ b ∈ c.buffers, b.id ≠ 0
  devices : (c.devices.map DeviceRecord.id).Nodup ∧ ∀ d ∈ c.devices, d.id ≠ 0
  endpoints : (c.endpoints.map EndpointRecord.id).Nodup ∧ ∀ e ∈ c.endpoints, e.id ≠ 0
  nics : (c.nics.map NicRecord.id).Nodup ∧ ∀ n ∈ c.nics, n.id ≠ 0
  storage : (c.storage.map StorageEndpointRecord.id).Nodup ∧ ∀ e ∈ c.storage, e.id ≠ 0
  providers : (c.providers.map ProviderInfo.id).Nodup ∧ ∀ p ∈ c.providers, p.id ≠ 0
  capabilities : (c.capabilities.map CapabilityObservation.id).Nodup ∧ ∀ o ∈ c.capabilities,
      o.id ≠ 0
  registrations : (c.registrations.map Registration.id).Nodup ∧ ∀ r ∈ c.registrations, r.id ≠ 0
  plans : (c.plans.map TransferPlan.id).Nodup ∧ ∀ p ∈ c.plans, p.id ≠ 0

/-- In the state, registrations and plans refer to buffers and endpoints that exist, generations
start at one, and no id is beyond the counter. -/
@[mk_iff]
structure State.Consistent (s : State) : Prop where
  registrations : s.registrations.All fun _ r =>
    (∃ b, s.buffers.lookup r.buffer = some b) ∧ ∃ e, s.endpoints.lookup r.endpoint = some e
  plans : s.plans.All fun _ p =>
    (∃ b, s.buffers.lookup p.source = some b) ∧ ∃ e, s.endpoints.lookup p.destination = some e
  buffers : s.buffers.All fun k b => k ≤ s.nextId ∧ 1 ≤ b.generation
  devices : s.devices.All fun k d => k ≤ s.nextId ∧ 1 ≤ d.generation
  endpoints : s.endpoints.All fun k e => k ≤ s.nextId ∧ 1 ≤ e.generation
  nics : s.nics.All fun k n => k ≤ s.nextId ∧ 1 ≤ n.generation
  storage : s.storage.All fun k e => k ≤ s.nextId ∧ 1 ≤ e.generation
  providers : s.providers.All fun k _ => k ≤ s.nextId
  capabilities : s.capabilities.All fun k _ => k ≤ s.nextId
  registrationIds : s.registrations.All fun k r => k ≤ s.nextId ∧ 1 ≤ r.generation
  planIds : s.plans.All fun k p => k ≤ s.nextId ∧ 1 ≤ p.generation

/-- The ids the recovery has read are distinct and not nil, and the state is consistent. -/
def RecoversSound (file : Bytes) (s : State) : Prop :=
  ∃ payload c rest, openFrame file = .ok payload ∧ readContents payload = .ok (c, rest) ∧
    s = c.state ∧ c.Distinct ∧ s.Consistent

/-- The file holds sound contents. -/
def SoundFile (file : Bytes) : Prop :=
  ∃ w : Contents, ∃ rest, w.Valid ∧ file = frame (w.image ++ rest) ∧
    (w.image ++ rest).length ≤ kMaxPayload ∧ w.Sound

section

variable {ρ : Type} (id : ρ → ℕ) (f : ρ → ρ) (hid : ∀ r, id (f r) = id r) {rs : List ρ}

include hid

/-- What is recovered from numbered records has their numbers. -/
theorem numbered_map {nextId : ℕ} :
  Numbered id nextId (rs.map f) ↔ Numbered id nextId rs
  := by
  have hids : id ∘ f = id := funext hid
  simp only [numbered_iff, List.map_map, hids, List.forall_mem_map, hid]

theorem exists_id_map {k : ℕ} :
  (∃ r ∈ rs.map f, id r = k) ↔ ∃ r ∈ rs, id r = k
  := by
  simp only [List.mem_map, exists_exists_and_eq_and, hid]

end

/-- The table of numbered records, and what holds of their ids, of its entries. -/
theorem numbered_iff_table {ρ : Type} {id : ρ → ℕ} {nextId : ℕ} {rs : List ρ} {Q : ρ → Prop} :
  Numbered id nextId rs ∧ (∀ r ∈ rs, Q r) ↔
    ((rs.map id).Nodup ∧ ∀ r ∈ rs, id r ≠ 0) ∧
      (Table.ofList id rs).All fun k r => k ≤ nextId ∧ Q r
  := by
  constructor
  · rintro ⟨h, hQ⟩
    use ⟨h.distinct, h.valid⟩
    rw [Table.all_ofList h.distinct]
    exact fun r hr => ⟨h.counted r hr, hQ r hr⟩
  · rintro ⟨⟨hdistinct, hvalid⟩, hall⟩
    rw [Table.all_ofList hdistinct] at hall
    exact ⟨⟨hdistinct, hvalid, fun r hr => (hall r hr).1⟩, fun r hr => (hall r hr).2⟩

/-- Numbered records of which nothing else is asked. -/
theorem numbered_iff_table' {ρ : Type} {id : ρ → ℕ} {nextId : ℕ} {rs : List ρ} :
  Numbered id nextId rs ↔
    ((rs.map id).Nodup ∧ ∀ r ∈ rs, id r ≠ 0) ∧ (Table.ofList id rs).All fun k _ => k ≤ nextId
  := by
  have h : Numbered id nextId rs ∧ (∀ r ∈ rs, True) ↔ _ := numbered_iff_table
  simpa using h

namespace Persistence.Contents

/-- What is recovered from contents is sound exactly when they are. -/
theorem sound_recovered {w : Contents} :
  w.recovered.Sound ↔ w.Sound
  := by
  simp only [sound_iff, recovered, List.forall_mem_map, List.map_id,
    numbered_map BufferRecord.id recoveredBuffer fun _ => rfl,
    numbered_map DeviceRecord.id recoveredDevice fun _ => rfl,
    numbered_map EndpointRecord.id recoveredEndpoint fun _ => rfl,
    numbered_map NicRecord.id recoveredNic fun _ => rfl,
    numbered_map StorageEndpointRecord.id recoveredStorageEndpoint fun _ => rfl,
    numbered_map Registration.id recoveredRegistration fun _ => rfl,
    numbered_map TransferPlan.id recoveredPlan fun _ => rfl,
    exists_id_map BufferRecord.id recoveredBuffer fun _ => rfl,
    exists_id_map EndpointRecord.id recoveredEndpoint fun _ => rfl]
  rfl

/-- Contents are sound exactly when their ids are distinct and not nil, and the state they make is
consistent. -/
theorem sound_iff_consistent {c : Contents} :
  c.Sound ↔ c.Distinct ∧ c.state.Consistent
  := by
  constructor
  · intro h
    obtain ⟨hbuffers, hbufferIds⟩ := numbered_iff_table.mp h.buffers
    obtain ⟨hdevices, hdeviceIds⟩ := numbered_iff_table.mp h.devices
    obtain ⟨hendpoints, hendpointIds⟩ := numbered_iff_table.mp h.endpoints
    obtain ⟨hnics, hnicIds⟩ := numbered_iff_table.mp h.nics
    obtain ⟨hstorage, hstorageIds⟩ := numbered_iff_table.mp h.storage
    obtain ⟨hproviders, hproviderIds⟩ := numbered_iff_table'.mp h.providers
    obtain ⟨hcapabilities, hcapabilityIds⟩ := numbered_iff_table'.mp h.capabilities
    obtain ⟨hregistrations, hregistrationIds⟩ := numbered_iff_table.mp h.registrations
    obtain ⟨hplans, hplanIds⟩ := numbered_iff_table.mp h.plans
    refine ⟨⟨hbuffers, hdevices, hendpoints, hnics, hstorage, hproviders, hcapabilities,
      hregistrations, hplans⟩, ⟨?_, ?_, hbufferIds, hdeviceIds, hendpointIds, hnicIds, hstorageIds,
      hproviderIds, hcapabilityIds, hregistrationIds, hplanIds⟩⟩
    · intro k r hr
      obtain ⟨hmem, -⟩ := (Table.lookup_ofList hregistrations.1).mp hr
      obtain ⟨hbuffer, hendpoint⟩ := h.registrationReferences r hmem
      exact ⟨(Table.exists_lookup_ofList hbuffers.1).mpr hbuffer,
        (Table.exists_lookup_ofList hendpoints.1).mpr hendpoint⟩
    · intro k p hp
      obtain ⟨hmem, -⟩ := (Table.lookup_ofList hplans.1).mp hp
      obtain ⟨hsource, hdestination⟩ := h.planReferences p hmem
      exact ⟨(Table.exists_lookup_ofList hbuffers.1).mpr hsource,
        (Table.exists_lookup_ofList hendpoints.1).mpr hdestination⟩
  · rintro ⟨hids, h⟩
    constructor
    · exact numbered_iff_table.mpr ⟨hids.buffers, h.buffers⟩
    · exact numbered_iff_table.mpr ⟨hids.devices, h.devices⟩
    · exact numbered_iff_table.mpr ⟨hids.endpoints, h.endpoints⟩
    · exact numbered_iff_table.mpr ⟨hids.nics, h.nics⟩
    · exact numbered_iff_table.mpr ⟨hids.storage, h.storage⟩
    · exact numbered_iff_table'.mpr ⟨hids.providers, h.providers⟩
    · exact numbered_iff_table'.mpr ⟨hids.capabilities, h.capabilities⟩
    · exact numbered_iff_table.mpr ⟨hids.registrations, h.registrationIds⟩
    · exact numbered_iff_table.mpr ⟨hids.plans, h.planIds⟩
    · intro r hr
      obtain ⟨hbuffer, hendpoint⟩ := (Table.all_ofList hids.registrations.1).mp h.registrations r hr
      exact ⟨(Table.exists_lookup_ofList hids.buffers.1).mp hbuffer,
        (Table.exists_lookup_ofList hids.endpoints.1).mp hendpoint⟩
    · intro p hp
      obtain ⟨hsource, hdestination⟩ := (Table.all_ofList hids.plans.1).mp h.plans p hp
      exact ⟨(Table.exists_lookup_ofList hids.buffers.1).mp hsource,
        (Table.exists_lookup_ofList hids.endpoints.1).mp hdestination⟩

end Persistence.Contents

/-- A recovery that succeeds leaves a sound state exactly when the file holds sound contents. -/
theorem recovers_sound_iff {file : Bytes} {out s : State}
    (h : recoverFromFile file out = (.ok (), s)) :
  RecoversSound file s ↔ SoundFile file
  := by
  constructor
  · rintro ⟨payload, c, rest, hopen, hread, rfl, hdistinct, hconsistent⟩
    obtain ⟨rfl, hlength⟩ := frame_of_openFrame hopen
    obtain ⟨_, ⟨w, hw, rfl, rfl⟩, rfl⟩ := accepts_contents payload c rest hread
    refine ⟨w, rest, hw, rfl, hlength, ?_⟩
    exact Contents.sound_recovered.mp (Contents.sound_iff_consistent.mpr ⟨hdistinct, hconsistent⟩)
  · rintro ⟨w, rest, hw, rfl, hlength, hsound⟩
    have hread := (reads_contents hw).ok trivial rest
    obtain ⟨payload, c, rest', hopen, hread', rfl⟩ := recoverFromFile_eq_ok.mp h
    rw [openFrame_frame hlength] at hopen
    cases hopen
    rw [hread] at hread'
    cases hread'
    obtain ⟨hdistinct, hconsistent⟩ :=
      Contents.sound_iff_consistent.mp (Contents.sound_recovered.mpr hsound)
    exact ⟨_, _, rest, openFrame_frame hlength, hread, rfl, hdistinct, hconsistent⟩

namespace Fixture

/-- The contents of a file with a registration and nothing else. -/
def danglingContents : Contents where
  epoch := 1
  nextId := 1
  freshness := 0
  buffers := []
  devices := []
  endpoints := []
  nics := []
  storage := []
  providers := []
  capabilities := []
  registrations := [{ id := 1, generation := 1, buffer := 2, endpoint := 3 }]
  planCount := 0
  plans := []

theorem valid_danglingContents :
  danglingContents.Valid
  where
  epoch := by decide
  nextId := by decide
  freshness := by decide
  buffers := sectionValid_nil _
  devices := sectionValid_nil _
  endpoints := sectionValid_nil _
  nics := sectionValid_nil _
  storage := sectionValid_nil _
  providers := sectionValid_nil _
  capabilities := sectionValid_nil _
  registrations := by
    refine ⟨by decide, List.forall_mem_singleton.mpr ?_, List.forall_mem_singleton.mpr ?_⟩
    · change FitsRegistration _
      decide
    · change ReadableRegistration _
      decide
  planCount := Nat.zero_le _
  plans := List.forall_mem_nil _
  leads := Nat.zero_le _

/-- The file with the dangling registration is accepted. -/
theorem recover_dangling :
  recoverFromFile (frame (danglingContents.image ++ [])) {}
    = (.ok (), danglingContents.recovered.state)
  := recoverFromFile_ok_iff.mpr ⟨_, [], valid_danglingContents, rfl, by decide +kernel, rfl⟩

end Fixture

theorem recovers_sound_iff_fixture :
  RecoversSound (frame (Fixture.danglingContents.image ++ []))
      Fixture.danglingContents.recovered.state ↔
    SoundFile (frame (Fixture.danglingContents.image ++ []))
  := recovers_sound_iff Fixture.recover_dangling

/-- A file whose registration refers to a buffer that does not exist is accepted. -/
theorem not_recovers_sound :
  recoverFromFile (frame (Fixture.danglingContents.image ++ [])) {}
      = (.ok (), Fixture.danglingContents.recovered.state) ∧
    ¬RecoversSound (frame (Fixture.danglingContents.image ++ []))
      Fixture.danglingContents.recovered.state
  := by
  use Fixture.recover_dangling
  rintro ⟨payload, c, rest, -, -, -, -, hconsistent⟩
  have hregistration : Fixture.danglingContents.recovered.state.registrations.lookup 1
      = some (recoveredRegistration { id := 1, generation := 1, buffer := 2, endpoint := 3 }) := by
    decide
  obtain ⟨⟨b, hb⟩, -⟩ := hconsistent.registrations 1 _ hregistration
  cases hb

end GpuDirectFabric
