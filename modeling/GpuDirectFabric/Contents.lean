import GpuDirectFabric.Images
import GpuDirectFabric.RoundTrip

/-!
# The contents of state files

A recovery that succeeds has read the file as lists of records, one for each section, and the state
it leaves is made of these lists.  The files that are read so are exactly the frames of bodies that
begin with the images of such lists, where the copy counts of the plans lead the loop over them.
-/

namespace GpuDirectFabric

open Codec Coordinator

namespace Persistence

/-! ### Sections as lists -/

/-- A section, read into a list. -/
def readSection {ρ : Type} (F : Format Error ρ) (message : Str) : Reader Error (List ρ) := do
  let cnt ← boundedCount maxCount message
  Reader.many F.read cnt

/-- The section of a list of records. -/
def sectionImage {ρ : Type} (F : Format Error ρ) (rs : List ρ) : Bytes :=
  putU32 rs.length ++ (rs.map F.put).flatten

/-- A section can hold the records and is within the bounds the reader checks. -/
structure SectionValid {ρ : Type} (F : Format Error ρ) (rs : List ρ) : Prop where
  size : rs.length ≤ maxCount
  fits : ∀ r ∈ rs, F.Fits r
  readable : ∀ r ∈ rs, F.Readable r

section

variable {ρ : Type} {F : Format Error ρ} {id : ρ → ℕ}

theorem reads_section {rs : List ρ} (h : SectionValid F rs) (message : Str) :
  (readSection F message).Reads (sectionImage F rs) True (rs.map F.recovered)
  := by
  apply Reader.Reads.congr
  · apply (reads_boundedCount (fits_of_maxCount h.size) maxCount message).bind
    exact .many fun r hr => F.reads r (h.fits r hr)
  · simp only [h.size, true_and, iff_true]
    exact h.readable

theorem accepts_section (hexact : F.Exact) (message : Str) :
  (readSection F message).Accepts fun rs used =>
    ∃ ws, SectionValid F ws ∧ rs = ws.map F.recovered ∧ used = sectionImage F ws
  := by
  rw [readSection]
  refine (accepts_boundedCount message).field fun n hn => ?_
  apply (Reader.Accepts.many hexact n).mono
  rintro _ _ ⟨ws, rfl, hws, rfl, rfl⟩
  exact ⟨ws, ⟨hn, fun r hr => (hws r hr).1, fun r hr => (hws r hr).2⟩, rfl, rfl⟩

/-- A section is recovered into the table of the records read. -/
theorem recoverSection_eq_ok {update : (Table ρ → Table ρ) → State → State} {message : Str}
    (hupdate : ∀ f g s, update f (update g s) = update (fun t => f (g t)) s) {bs rest : Bytes}
    {s s' : State} :
  recoverSection F id update message bs s = (.ok ((), rest), s') ↔
    ∃ rs, readSection F message bs = .ok (rs, rest) ∧ s' = update (fun _ => Table.ofList id rs) s
  := by
  rw [recoverSection, Decoder.bind_eq_ok]
  constructor
  · rintro ⟨cnt, bs₁, s₁, hcnt, hstore⟩
    obtain ⟨hread, rfl⟩ := Decoder.lift_eq_ok.mp hcnt
    rw [Decoder.bind_ok (Decoder.modify_apply _ _ _)] at hstore
    obtain ⟨rs, hrs, rfl⟩ := Decoder.storeMany_eq_ok.mp hstore
    refine ⟨rs, ?_, foldl_update hupdate rs ∅ s₁⟩
    rw [readSection, Reader.bind_ok hread, hrs]
  · rintro ⟨rs, hread, rfl⟩
    obtain ⟨cnt, bs₁, hcnt, hrs⟩ := Reader.bind_eq_ok.mp hread
    refine ⟨cnt, bs₁, s, Decoder.lift_eq_ok.mpr ⟨hcnt, rfl⟩, ?_⟩
    rw [Decoder.bind_ok (Decoder.modify_apply _ _ _)]
    exact Decoder.storeMany_eq_ok.mpr ⟨rs, hrs, (foldl_update hupdate rs ∅ s).symm⟩

end

/-! ### The plans as a list -/

/-- The loop over the plans, read into a list. -/
def readPlansLoop : (rounds : ℕ) → (v8 cnt : ℕ) → Reader Error (List TransferPlan)
  | 0, _, _ => pure []
  | rounds + 1, v8, cnt =>
    if v8 < cnt then do
      let p ← readPlan
      let ps ← readPlansLoop rounds (v8 + 1) p.copyCount
      pure (p :: ps)
    else pure []

/-- From the index `v8` and with the bound `cnt`, the loop makes as many rounds as there are copy
counts: each but the last takes it to a next round, and the last does not. -/
def Leads : (v8 cnt : ℕ) → List ℕ → Prop
  | v8, cnt, [] => cnt ≤ v8
  | v8, cnt, c :: copies => v8 < cnt ∧ Leads (v8 + 1) c copies

/-- The plans are stored as the loop reads them. -/
theorem recoverPlansLoop_eq_ok {rounds v8 cnt : ℕ} {bs rest : Bytes} {s s' : State} :
  recoverPlansLoop rounds v8 cnt bs s = (.ok ((), rest), s') ↔
    ∃ ps, readPlansLoop rounds v8 cnt bs = .ok (ps, rest) ∧
      s' = ps.foldl (fun s p => storeRecoveredPlan p s) s
  := by
  have hstop : ∀ {bs : Bytes} {s : State},
      (pure () : Decoder State Error Unit) bs s = (.ok ((), rest), s') ↔
        ∃ ps, (pure [] : Reader Error (List TransferPlan)) bs = .ok (ps, rest) ∧
          s' = ps.foldl (fun s p => storeRecoveredPlan p s) s := by
    intro bs s
    constructor
    · rintro ⟨⟩
      exact ⟨[], rfl, rfl⟩
    · rintro ⟨_, ⟨⟩, rfl⟩
      rfl
  induction rounds generalizing v8 cnt bs s with
  | zero => exact hstop
  | succ rounds ih =>
      rw [recoverPlansLoop, readPlansLoop]
      split
      next =>
        rw [Decoder.bind_eq_ok]
        constructor
        · rintro ⟨p, bs₁, s₁, hread, hloop⟩
          obtain ⟨hp, rfl⟩ := Decoder.lift_eq_ok.mp hread
          rw [Decoder.bind_ok (Decoder.modify_apply _ _ _)] at hloop
          obtain ⟨ps, hps, rfl⟩ := ih.mp hloop
          refine ⟨p :: ps, ?_, rfl⟩
          rw [Reader.bind_ok hp, Reader.bind_ok hps]
          rfl
        · rintro ⟨ps, hread, rfl⟩
          obtain ⟨p, bs₁, hp, hread⟩ := Reader.bind_eq_ok.mp hread
          obtain ⟨ps', bs₂, hps, hpure⟩ := Reader.bind_eq_ok.mp hread
          cases hpure
          refine ⟨p, bs₁, s, Decoder.lift_eq_ok.mpr ⟨hp, rfl⟩, ?_⟩
          rw [Decoder.bind_ok (Decoder.modify_apply _ _ _)]
          exact ih.mpr ⟨ps', hps, rfl⟩
      next => exact hstop

section

variable {rounds v8 cnt : ℕ}

/-- The plans that the loop is led over by their copy counts are read. -/
theorem readPlansLoop_of_leads {ws : List TransferPlan} (hrounds : rounds + v8 = 2 ^ 32)
    (hcnt : cnt < 2 ^ 32) (hleads : Leads v8 cnt (ws.map TransferPlan.copyCount))
    (hfits : ∀ p ∈ ws, FitsPlan p) (hreadable : ∀ p ∈ ws, ReadablePlan p) (rest : Bytes) :
  readPlansLoop rounds v8 cnt ((ws.map putPlan).flatten ++ rest) = .ok (ws.map recoveredPlan, rest)
  := by
  induction ws generalizing rounds v8 cnt with
  | nil =>
      cases rounds with
      | zero => rfl
      | succ rounds =>
          rw [readPlansLoop, if_neg (not_lt.mpr hleads)]
          rfl
  | cons w ws ih =>
      obtain ⟨hlt, hleads⟩ := hleads
      rw [List.forall_mem_cons] at hfits hreadable
      obtain ⟨rounds, rfl⟩ : ∃ n, rounds = n + 1 := ⟨rounds - 1, by omega⟩
      have hloop : readPlansLoop rounds (v8 + 1) (recoveredPlan w).copyCount
          ((ws.map putPlan).flatten ++ rest)
          = .ok (ws.map recoveredPlan, rest) :=
        ih (by omega) hfits.1.copyCount hleads hfits.2 hreadable.2
      rw [readPlansLoop, if_pos hlt, List.map_cons, List.flatten_cons, List.append_assoc,
        Reader.bind_ok ((reads_plan hfits.1).ok hreadable.1 _), Reader.bind_ok hloop]
      rfl

/-- The loop accepts only images of plans that it is led over by their copy counts. -/
theorem accepts_plansLoop (hrounds : rounds + v8 = 2 ^ 32) (hcnt : cnt < 2 ^ 32) :
  (readPlansLoop rounds v8 cnt).Accepts fun ps used =>
    ∃ ws : List TransferPlan, (∀ p ∈ ws, FitsPlan p ∧ ReadablePlan p) ∧
      Leads v8 cnt (ws.map TransferPlan.copyCount) ∧ ps = ws.map recoveredPlan ∧
      used = (ws.map putPlan).flatten
  := by
  induction rounds generalizing v8 cnt with
  | zero =>
      apply Reader.Accepts.pure
      refine ⟨[], List.forall_mem_nil _, ?_, rfl, rfl⟩
      change cnt ≤ v8
      omega
  | succ rounds ih =>
      rw [readPlansLoop]
      split
      next hlt =>
        apply exact_plan.bind
        rintro _ _ ⟨w, ⟨hfits, hreadable⟩, rfl, rfl⟩
        apply (ih (by omega) hfits.copyCount).bind
        rintro _ _ ⟨ws, hws, hleads, rfl, rfl⟩
        apply Reader.Accepts.pure
        refine ⟨w :: ws, List.forall_mem_cons.mpr ⟨⟨hfits, hreadable⟩, hws⟩, ⟨hlt, hleads⟩, rfl, ?_⟩
        rw [List.append_nil]
        rfl
      next hle =>
        apply Reader.Accepts.pure
        exact ⟨[], List.forall_mem_nil _, not_lt.mp hle, rfl, rfl⟩

end

/-! ### Contents -/

/-- What a state file holds: the counters, the records of each section in the order of the file, and
the number of plans stored before the plans. -/
structure Contents where
  epoch : ℕ
  nextId : ℕ
  freshness : ℕ
  buffers : List BufferRecord
  devices : List DeviceRecord
  endpoints : List EndpointRecord
  nics : List NicRecord
  storage : List StorageEndpointRecord
  providers : List ProviderInfo
  capabilities : List CapabilityObservation
  registrations : List Registration
  planCount : ℕ
  plans : List TransferPlan

/-- The body of a state file, read into lists. -/
def readContents : Reader Error Contents := do
  let epoch ← u64 "truncated header record"
  let nextId ← u64 "truncated header record"
  let freshness ← u64 "truncated header record"
  let buffers ← readSection bufferFormat "invalid buffer count"
  let devices ← readSection deviceFormat "invalid device count"
  let endpoints ← readSection endpointFormat "invalid endpoint count"
  let nics ← readSection nicFormat "invalid nic count"
  let storage ← readSection storageEndpointFormat "invalid storage count"
  let providers ← readSection providerFormat "invalid provider count"
  let capabilities ← readSection capabilityFormat "invalid capability count"
  let registrations ← readSection registrationFormat "invalid registration count"
  let planCount ← boundedCount maxCount "invalid plan count"
  let plans ← readPlansLoop (2 ^ 32) 0 planCount
  pure
    { epoch := epoch
      nextId := nextId
      freshness := freshness
      buffers := buffers
      devices := devices
      endpoints := endpoints
      nics := nics
      storage := storage
      providers := providers
      capabilities := capabilities
      registrations := registrations
      planCount := planCount
      plans := plans }

namespace Contents

/-- The state made of the records of the contents. -/
def state (c : Contents) : State where
  epoch := c.epoch
  nextId := c.nextId
  freshness := c.freshness
  buffers := Table.ofList BufferRecord.id c.buffers
  devices := Table.ofList DeviceRecord.id c.devices
  endpoints := Table.ofList EndpointRecord.id c.endpoints
  nics := Table.ofList NicRecord.id c.nics
  storage := Table.ofList StorageEndpointRecord.id c.storage
  providers := Table.ofList ProviderInfo.id c.providers
  capabilities := Table.ofList CapabilityObservation.id c.capabilities
  registrations := Table.ofList Registration.id c.registrations
  plans := Table.ofList TransferPlan.id c.plans

/-- The image of the contents. -/
def image (w : Contents) : Bytes :=
  [putU64 w.epoch, putU64 w.nextId, putU64 w.freshness, sectionImage bufferFormat w.buffers,
    sectionImage deviceFormat w.devices, sectionImage endpointFormat w.endpoints,
    sectionImage nicFormat w.nics, sectionImage storageEndpointFormat w.storage,
    sectionImage providerFormat w.providers, sectionImage capabilityFormat w.capabilities,
    sectionImage registrationFormat w.registrations, putU32 w.planCount,
    (w.plans.map putPlan).flatten].flatten

/-- What is recovered from the records of the contents. -/
def recovered (w : Contents) : Contents :=
  { w with
    buffers := w.buffers.map recoveredBuffer
    devices := w.devices.map recoveredDevice
    endpoints := w.endpoints.map recoveredEndpoint
    nics := w.nics.map recoveredNic
    storage := w.storage.map recoveredStorageEndpoint
    providers := w.providers.map id
    capabilities := w.capabilities.map id
    registrations := w.registrations.map recoveredRegistration
    plans := w.plans.map recoveredPlan }

/-- A file can hold the records, they are within the bounds the reader checks, and the copy counts
of the plans lead the loop over them. -/
structure Valid (w : Contents) : Prop where
  epoch : w.epoch < 2 ^ 64
  nextId : w.nextId < 2 ^ 64
  freshness : w.freshness < 2 ^ 64
  buffers : SectionValid bufferFormat w.buffers
  devices : SectionValid deviceFormat w.devices
  endpoints : SectionValid endpointFormat w.endpoints
  nics : SectionValid nicFormat w.nics
  storage : SectionValid storageEndpointFormat w.storage
  providers : SectionValid providerFormat w.providers
  capabilities : SectionValid capabilityFormat w.capabilities
  registrations : SectionValid registrationFormat w.registrations
  planCount : w.planCount ≤ maxCount
  plans : ∀ p ∈ w.plans, FitsPlan p ∧ ReadablePlan p
  leads : Leads 0 w.planCount (w.plans.map TransferPlan.copyCount)

end Contents

/-- The image of valid contents is read back, whatever follows it. -/
theorem reads_contents {w : Contents} (h : w.Valid) :
  readContents.Reads w.image True w.recovered
  := by
  have hplans : (readPlansLoop (2 ^ 32) 0 w.planCount).Reads (w.plans.map putPlan).flatten True
      (w.plans.map recoveredPlan) := by
    constructor
    · intro _ rest
      exact readPlansLoop_of_leads (Nat.add_zero _) (fits_of_maxCount h.planCount) h.leads
        (fun p hp => (h.plans p hp).1) (fun p hp => (h.plans p hp).2) rest
    · intro hnot
      exact absurd trivial hnot
  apply Reader.Reads.congr
  · apply (reads_u64 h.epoch _).field
    apply (reads_u64 h.nextId _).field
    apply (reads_u64 h.freshness _).field
    apply (reads_section h.buffers _).field
    apply (reads_section h.devices _).field
    apply (reads_section h.endpoints _).field
    apply (reads_section h.nics _).field
    apply (reads_section h.storage _).field
    apply (reads_section h.providers _).field
    apply (reads_section h.capabilities _).field
    apply (reads_section h.registrations _).field
    apply (reads_boundedCount (fits_of_maxCount h.planCount) _ _).field
    apply hplans.field
    apply Reader.Reads.pure
  · simp [h.planCount]

/-- Bodies are read only if they begin with the image of valid contents. -/
theorem accepts_contents :
  readContents.Accepts fun c used => ∃ w : Contents, w.Valid ∧ c = w.recovered ∧ used = w.image
  := by
  rw [readContents]
  refine (accepts_u64 _).field fun epoch hepoch => ?_
  refine (accepts_u64 _).field fun nextId hnextId => ?_
  refine (accepts_u64 _).field fun freshness hfreshness => ?_
  apply (accepts_section exact_buffer _).bind
  rintro _ _ ⟨buffers, hbuffers, rfl, rfl⟩
  apply (accepts_section exact_device _).bind
  rintro _ _ ⟨devices, hdevices, rfl, rfl⟩
  apply (accepts_section exact_endpoint _).bind
  rintro _ _ ⟨endpoints, hendpoints, rfl, rfl⟩
  apply (accepts_section exact_nic _).bind
  rintro _ _ ⟨nics, hnics, rfl, rfl⟩
  apply (accepts_section exact_storageEndpoint _).bind
  rintro _ _ ⟨storage, hstorage, rfl, rfl⟩
  apply (accepts_section exact_provider _).bind
  rintro _ _ ⟨providers, hproviders, rfl, rfl⟩
  apply (accepts_section exact_capability _).bind
  rintro _ _ ⟨capabilities, hcapabilities, rfl, rfl⟩
  apply (accepts_section exact_registration _).bind
  rintro _ _ ⟨registrations, hregistrations, rfl, rfl⟩
  refine (accepts_boundedCount _).field fun planCount hplanCount => ?_
  apply (accepts_plansLoop (Nat.add_zero _) (fits_of_maxCount hplanCount)).bind
  rintro _ _ ⟨plans, hplans, hleads, rfl, rfl⟩
  apply Reader.Accepts.pure
  exact ⟨⟨epoch, nextId, freshness, buffers, devices, endpoints, nics, storage, providers,
    capabilities, registrations, planCount, plans⟩, ⟨hepoch, hnextId, hfreshness, hbuffers,
        hdevices,
    hendpoints, hnics, hstorage, hproviders, hcapabilities, hregistrations, hplanCount, hplans,
    hleads⟩, rfl, rfl⟩

/-! ### Recoveries -/

theorem recoverRegistries_eq_ok {bs rest : Bytes} {s s' : State} :
  recoverRegistries bs s = (.ok ((), rest), s') ↔
    ∃ buffers bs₁ devices bs₂ endpoints bs₃ nics bs₄ storage bs₅ providers bs₆ capabilities bs₇
      registrations,
      readSection bufferFormat "invalid buffer count" bs = .ok (buffers, bs₁) ∧
      readSection deviceFormat "invalid device count" bs₁ = .ok (devices, bs₂) ∧
      readSection endpointFormat "invalid endpoint count" bs₂ = .ok (endpoints, bs₃) ∧
      readSection nicFormat "invalid nic count" bs₃ = .ok (nics, bs₄) ∧
      readSection storageEndpointFormat "invalid storage count" bs₄ = .ok (storage, bs₅) ∧
      readSection providerFormat "invalid provider count" bs₅ = .ok (providers, bs₆) ∧
      readSection capabilityFormat "invalid capability count" bs₆ = .ok (capabilities, bs₇) ∧
      readSection registrationFormat "invalid registration count" bs₇ = .ok (registrations, rest) ∧
      s' = { s with
        buffers := Table.ofList BufferRecord.id buffers
        devices := Table.ofList DeviceRecord.id devices
        endpoints := Table.ofList EndpointRecord.id endpoints
        nics := Table.ofList NicRecord.id nics
        storage := Table.ofList StorageEndpointRecord.id storage
        providers := Table.ofList ProviderInfo.id providers
        capabilities := Table.ofList CapabilityObservation.id capabilities
        registrations := Table.ofList Registration.id registrations }
  := by
  simp only [recoverRegistries, recoverBuffers, recoverDevices, recoverEndpoints, recoverNics,
    recoverStorage, recoverProviders, recoverCapabilities, recoverRegistrations, Decoder.bind_eq_ok]
  constructor
  · rintro ⟨_, bs₁, _, h₁, _, bs₂, _, h₂, _, bs₃, _, h₃, _, bs₄, _, h₄, _, bs₅, _, h₅, _, bs₆, _,
      h₆, _, bs₇, _, h₇, h₈⟩
    obtain ⟨buffers, hbuffers, rfl⟩ := (recoverSection_eq_ok fun _ _ _ => rfl).mp h₁
    obtain ⟨devices, hdevices, rfl⟩ := (recoverSection_eq_ok fun _ _ _ => rfl).mp h₂
    obtain ⟨endpoints, hendpoints, rfl⟩ := (recoverSection_eq_ok fun _ _ _ => rfl).mp h₃
    obtain ⟨nics, hnics, rfl⟩ := (recoverSection_eq_ok fun _ _ _ => rfl).mp h₄
    obtain ⟨storage, hstorage, rfl⟩ := (recoverSection_eq_ok fun _ _ _ => rfl).mp h₅
    obtain ⟨providers, hproviders, rfl⟩ := (recoverSection_eq_ok fun _ _ _ => rfl).mp h₆
    obtain ⟨capabilities, hcapabilities, rfl⟩ := (recoverSection_eq_ok fun _ _ _ => rfl).mp h₇
    obtain ⟨registrations, hregistrations, rfl⟩ := (recoverSection_eq_ok fun _ _ _ => rfl).mp h₈
    exact ⟨buffers, bs₁, devices, bs₂, endpoints, bs₃, nics, bs₄, storage, bs₅, providers, bs₆,
      capabilities, bs₇, registrations, hbuffers, hdevices, hendpoints, hnics, hstorage, hproviders,
      hcapabilities, hregistrations, rfl⟩
  · rintro ⟨buffers, bs₁, devices, bs₂, endpoints, bs₃, nics, bs₄, storage, bs₅, providers, bs₆,
      capabilities, bs₇, registrations, hbuffers, hdevices, hendpoints, hnics, hstorage, hproviders,
      hcapabilities, hregistrations, rfl⟩
    exact ⟨(), bs₁, _, (recoverSection_eq_ok fun _ _ _ => rfl).mpr ⟨buffers, hbuffers, rfl⟩,
      (), bs₂, _, (recoverSection_eq_ok fun _ _ _ => rfl).mpr ⟨devices, hdevices, rfl⟩,
      (), bs₃, _, (recoverSection_eq_ok fun _ _ _ => rfl).mpr ⟨endpoints, hendpoints, rfl⟩,
      (), bs₄, _, (recoverSection_eq_ok fun _ _ _ => rfl).mpr ⟨nics, hnics, rfl⟩,
      (), bs₅, _, (recoverSection_eq_ok fun _ _ _ => rfl).mpr ⟨storage, hstorage, rfl⟩,
      (), bs₆, _, (recoverSection_eq_ok fun _ _ _ => rfl).mpr ⟨providers, hproviders, rfl⟩,
      (), bs₇, _, (recoverSection_eq_ok fun _ _ _ => rfl).mpr ⟨capabilities, hcapabilities, rfl⟩,
      (recoverSection_eq_ok fun _ _ _ => rfl).mpr ⟨registrations, hregistrations, rfl⟩⟩

theorem foldl_storeRecoveredPlan (ps : List TransferPlan) (s : State) :
  ps.foldl (fun s p => storeRecoveredPlan p s) s
    = { s with plans := ps.foldl (fun t p => t.insert p.id p) s.plans }
  := by
  induction ps generalizing s with
  | nil => rfl
  | cons p ps ih =>
      rw [List.foldl_cons, ih]
      rfl

theorem recoverPlans_eq_ok {bs rest : Bytes} {s s' : State} :
  recoverPlans bs s = (.ok ((), rest), s') ↔
    ∃ cnt bs₁ ps, boundedCount maxCount "invalid plan count" bs = .ok (cnt, bs₁) ∧
      readPlansLoop (2 ^ 32) 0 cnt bs₁ = .ok (ps, rest) ∧
      s' = { s with plans := Table.ofList TransferPlan.id ps }
  := by
  rw [recoverPlans, Decoder.bind_eq_ok]
  constructor
  · rintro ⟨cnt, bs₁, s₁, hread, hloop⟩
    obtain ⟨hcnt, rfl⟩ := Decoder.lift_eq_ok.mp hread
    rw [Decoder.bind_ok (Decoder.modify_apply _ _ _)] at hloop
    obtain ⟨ps, hps, rfl⟩ := recoverPlansLoop_eq_ok.mp hloop
    exact ⟨cnt, bs₁, ps, hcnt, hps, foldl_storeRecoveredPlan ps _⟩
  · rintro ⟨cnt, bs₁, ps, hcnt, hps, rfl⟩
    refine ⟨cnt, bs₁, s, Decoder.lift_eq_ok.mpr ⟨hcnt, rfl⟩, ?_⟩
    rw [Decoder.bind_ok (Decoder.modify_apply _ _ _)]
    exact recoverPlansLoop_eq_ok.mpr ⟨ps, hps,
        (foldl_storeRecoveredPlan ps { s with plans := ∅ }).symm⟩

theorem readHeader_eq_ok {bs rest : Bytes} {header : State} :
  readHeader bs = .ok (header, rest) ↔
    ∃ epoch bs₁ nextId bs₂ freshness, u64 "truncated header record" bs = .ok (epoch, bs₁) ∧
      u64 "truncated header record" bs₁ = .ok (nextId, bs₂) ∧
      u64 "truncated header record" bs₂ = .ok (freshness, rest) ∧
      header = { epoch := epoch, nextId := nextId, freshness := freshness }
  := by
  simp only [readHeader, Reader.bind_eq_ok]
  constructor
  · rintro ⟨epoch, bs₁, hepoch, nextId, bs₂, hnextId, freshness, bs₃, hfreshness, hpure⟩
    cases hpure
    exact ⟨epoch, bs₁, nextId, bs₂, freshness, hepoch, hnextId, hfreshness, rfl⟩
  · rintro ⟨epoch, bs₁, nextId, bs₂, freshness, hepoch, hnextId, hfreshness, rfl⟩
    exact ⟨epoch, bs₁, hepoch, nextId, bs₂, hnextId, freshness, rest, hfreshness, rfl⟩

/-- The sections are recovered after the header record exactly when the contents are read. -/
theorem recoverSections_eq_ok {payload rest : Bytes} {s : State} :
  (∃ header sections, readHeader payload = .ok (header, sections) ∧
      recoverSections sections header = (.ok ((), rest), s)) ↔
    ∃ c, readContents payload = .ok (c, rest) ∧ s = c.state
  := by
  constructor
  · rintro ⟨header, sections, hheader, hsections⟩
    obtain ⟨epoch, bs₁, nextId, bs₂, freshness, hepoch, hnextId, hfreshness, rfl⟩ :=
      readHeader_eq_ok.mp hheader
    obtain ⟨_, bs₃, s₃, hregistries, hplans⟩ := Decoder.bind_eq_ok.mp hsections
    obtain ⟨buffers, _, devices, _, endpoints, _, nics, _, storage, _, providers, _, capabilities,
        _,
      registrations, hbuffers, hdevices, hendpoints, hnics, hstorage, hproviders, hcapabilities,
      hregistrations, rfl⟩ := recoverRegistries_eq_ok.mp hregistries
    obtain ⟨planCount, _, plans, hcnt, hloop, rfl⟩ := recoverPlans_eq_ok.mp hplans
    refine ⟨⟨epoch, nextId, freshness, buffers, devices, endpoints, nics, storage, providers,
      capabilities, registrations, planCount, plans⟩, ?_, rfl⟩
    rw [readContents, Reader.bind_ok hepoch, Reader.bind_ok hnextId, Reader.bind_ok hfreshness,
      Reader.bind_ok hbuffers, Reader.bind_ok hdevices, Reader.bind_ok hendpoints,
      Reader.bind_ok hnics, Reader.bind_ok hstorage, Reader.bind_ok hproviders,
      Reader.bind_ok hcapabilities, Reader.bind_ok hregistrations, Reader.bind_ok hcnt,
      Reader.bind_ok hloop]
    rfl
  · rintro ⟨c, hread, rfl⟩
    simp only [readContents, Reader.bind_eq_ok] at hread
    obtain ⟨epoch, _, hepoch, nextId, _, hnextId, freshness, sections, hfreshness, buffers, _,
      hbuffers, devices, _, hdevices, endpoints, _, hendpoints, nics, _, hnics, storage, _,
          hstorage,
      providers, _, hproviders, capabilities, _, hcapabilities, registrations, _, hregistrations,
      planCount, _, hcnt, plans, _, hloop, hpure⟩ := hread
    cases hpure
    refine ⟨_, sections, readHeader_eq_ok.mpr ⟨epoch, _, nextId, _, freshness, hepoch, hnextId,
      hfreshness, rfl⟩, Decoder.bind_eq_ok.mpr ⟨(), _, _, recoverRegistries_eq_ok.mpr ⟨buffers, _,
      devices, _, endpoints, _, nics, _, storage, _, providers, _, capabilities, _, registrations,
      hbuffers, hdevices, hendpoints, hnics, hstorage, hproviders, hcapabilities, hregistrations,
      rfl⟩, recoverPlans_eq_ok.mpr ⟨planCount, _, plans, hcnt, hloop, rfl⟩⟩⟩

/-- A recovery that succeeds reads the contents of the file, which the state is made of. -/
theorem recoverFromFile_eq_ok {file : Bytes} {out s : State} :
  recoverFromFile file out = (.ok (), s) ↔
    ∃ payload c rest, openFrame file = .ok payload ∧ readContents payload = .ok (c, rest) ∧
      s = c.state
  := by
  rw [recoverFromFile]
  cases hopen : openFrame file with
  | error e =>
      constructor
      · rintro ⟨⟩
      · rintro ⟨payload, c, rest, ⟨⟩, -⟩
  | ok payload =>
      dsimp only
      constructor
      · intro h
        split at h
        next => cases h
        next header sections hheader =>
          split at h
          next => cases h
          next r s' hsections =>
            cases h
            obtain ⟨_, rest⟩ := r
            obtain ⟨c, hread, rfl⟩ := recoverSections_eq_ok.mp ⟨header, sections, hheader,
                hsections⟩
            exact ⟨payload, c, rest, rfl, hread, rfl⟩
      · rintro ⟨_, c, rest, ⟨⟩, hread, hs⟩
        obtain ⟨header, sections, hheader, hsections⟩ := recoverSections_eq_ok.mpr ⟨c, hread, hs⟩
        rw [hheader]
        dsimp only
        rw [hsections]

/-- The files that are recovered are the frames of bodies that begin with the image of valid
contents, and the state is made of what is recovered from these. -/
theorem recoverFromFile_ok_iff {file : Bytes} {out s : State} :
  recoverFromFile file out = (.ok (), s) ↔
    ∃ w : Contents, ∃ rest, w.Valid ∧ file = frame (w.image ++ rest) ∧
      (w.image ++ rest).length ≤ kMaxPayload ∧ s = w.recovered.state
  := by
  rw [recoverFromFile_eq_ok]
  constructor
  · rintro ⟨payload, c, rest, hopen, hread, rfl⟩
    obtain ⟨rfl, hlength⟩ := frame_of_openFrame hopen
    obtain ⟨_, ⟨w, hw, rfl, rfl⟩, rfl⟩ := accepts_contents payload c rest hread
    exact ⟨w, rest, hw, rfl, hlength, rfl⟩
  · rintro ⟨w, rest, hw, rfl, hlength, rfl⟩
    exact ⟨_, w.recovered, rest, openFrame_frame hlength, (reads_contents hw).ok trivial rest, rfl⟩

end Persistence

end GpuDirectFabric
