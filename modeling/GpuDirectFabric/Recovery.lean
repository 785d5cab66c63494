import GpuDirectFabric.World

/-!
# What a recovery leaves

A recovery that gets past the frame and the header record leaves a state made of recovered
records only, even when it fails part-way.  From a file that a coordinator persisted these are
the records of that coordinator, without their live authority; from any file at all they carry
no live authority.
-/

namespace GpuDirectFabric

open Codec Coordinator

namespace Persistence

/-! ### Sorted records -/

theorem mem_sortedById {ρ : Type} {id : ρ → ℕ} {t : Table ρ} {r : ρ} :
  r ∈ sortedById id t ↔ r ∈ t.values
  := List.mem_insertionSort _

theorem length_sortedById {ρ : Type} (id : ρ → ℕ) (t : Table ρ) :
  (sortedById id t).length = t.size
  := by
  rw [sortedById, List.length_insertionSort, Table.length_values]

/-! ### Sections -/

section

variable {ρ : Type} {F : Format Error ρ} {id : ρ → ℕ}
  {update : (Table ρ → Table ρ) → State → State} {P : State → Prop}

theorem recoverSection_keeps {Q : ρ → Prop} (message : Str) (hread : F.read.Returns Q)
    (hclear : ∀ s, P s → P (update (fun _ => ∅) s))
    (hstore : ∀ r, Q r → ∀ s, P s → P (update (fun t => t.insert (id r) r) s)) :
  (recoverSection F id update message).Keeps P
  := by
  refine .bind (.lift _) fun cnt => ?_
  refine .bind (.modify hclear) fun _ => ?_
  apply Decoder.Keeps.storeMany hread hstore

theorem recoverSection_keepsOn {t : Table ρ} (message : Str) (hsize : t.size < 2 ^ 32)
    (hfits : ∀ r ∈ t.values, F.Fits r) (hclear : ∀ s, P s → P (update (fun _ => ∅) s))
    (hstore : ∀ r ∈ t.values, ∀ s, P s →
      P (update (fun t => t.insert (id (F.recovered r)) (F.recovered r)) s)) :
  (recoverSection F id update message).KeepsOn P (putSection F id t) ()
  := by
  rw [← length_sortedById id] at hsize
  apply (Decoder.KeepsOn.lift (reads_boundedCount hsize maxCount message)).bind
  apply (Decoder.KeepsOn.modify hclear).first
  apply Decoder.KeepsOn.storeMany
  · intro r hr
    exact F.reads r (hfits r (mem_sortedById.mp hr))
  · intro r hr
    exact hstore r (mem_sortedById.mp hr)

end

/-! ### The loop over the plans -/

theorem readPlan_nil :
  ∃ e, readPlan [] = .error e
  := ⟨_, rfl⟩

/-- On the images of plans the loop keeps what storing these plans keeps, however many rounds
it makes. -/
theorem recoverPlansLoop_keepsAt {P : State → Prop} {ps : List TransferPlan}
    (hfits : ∀ p ∈ ps, FitsPlan p)
    (hstore : ∀ p ∈ ps, ∀ s, P s → P (storeRecoveredPlan (recoveredPlan p) s))
    (rounds v8 cnt : ℕ) :
  (recoverPlansLoop rounds v8 cnt).KeepsAt P (ps.map putPlan).flatten
  := by
  induction ps generalizing rounds v8 cnt with
  | nil =>
      intro s hs
      cases rounds with
      | zero => exact hs
      | succ rounds =>
          rw [recoverPlansLoop]
          split
          · obtain ⟨e, he⟩ := readPlan_nil
            rw [List.map_nil, List.flatten_nil, Decoder.bind_error (Decoder.lift_error he s)]
            exact hs
          · exact hs
  | cons p ps ih =>
      rw [List.forall_mem_cons] at hfits hstore
      cases rounds with
      | zero => exact fun s hs => hs
      | succ rounds =>
          rw [recoverPlansLoop]
          split
          · refine (Decoder.KeepsOn.lift (reads_plan hfits.1)).field_at ?_
            refine (Decoder.KeepsOn.modify hstore.1).first_at ?_
            exact ih hfits.2 hstore.2 rounds (v8 + 1) p.copyCount
          · exact fun s hs => hs

/-- On the images of plans the loop fails, or stores some of them. -/
theorem recoverPlans_keepsAt {P : State → Prop} {t : Table TransferPlan}
    (hsize : t.size < 2 ^ 32) (hfits : ∀ p ∈ t.values, FitsPlan p)
    (hclear : ∀ s, P s → P { s with plans := ∅ })
    (hstore : ∀ p ∈ t.values, ∀ s, P s → P (storeRecoveredPlan (recoveredPlan p) s)) :
  recoverPlans.KeepsAt P (putSection planFormat TransferPlan.id t)
  := by
  rw [← length_sortedById TransferPlan.id] at hsize
  refine (Decoder.KeepsOn.lift (reads_boundedCount hsize maxCount _)).bind_at ?_
  refine (Decoder.KeepsOn.modify hclear).first_at ?_
  apply recoverPlansLoop_keepsAt
  · intro p hp
    exact hfits p (mem_sortedById.mp hp)
  · intro p hp
    exact hstore p (mem_sortedById.mp hp)

/-! ### Recovering a persisted file -/

/-- The value at a key is recovered from one of the records `rs`, with that id. -/
def FromRecord {ρ : Type} (id : ρ → ℕ) (recovered : ρ → ρ) (rs : List ρ) (k : ℕ) (r : ρ) : Prop :=
  ∃ r' ∈ rs, id r' = k ∧ r = recovered r'

/-- The state `s` is made of records recovered from those of `d`. -/
structure RecoveredFrom (d s : State) : Prop where
  epoch : s.epoch = d.epoch
  nextId : s.nextId = d.nextId
  freshness : s.freshness = d.freshness
  buffers : s.buffers.All (FromRecord BufferRecord.id recoveredBuffer d.buffers.values)
  devices : s.devices.All (FromRecord DeviceRecord.id recoveredDevice d.devices.values)
  endpoints : s.endpoints.All
    (FromRecord EndpointRecord.id recoveredEndpoint d.endpoints.values)
  nics : s.nics.All (FromRecord NicRecord.id recoveredNic d.nics.values)
  storage : s.storage.All
    (FromRecord StorageEndpointRecord.id recoveredStorageEndpoint d.storage.values)
  providers : s.providers.All (FromRecord ProviderInfo.id id d.providers.values)
  capabilities : s.capabilities.All
    (FromRecord CapabilityObservation.id id d.capabilities.values)
  registrations : s.registrations.All
    (FromRecord Registration.id recoveredRegistration d.registrations.values)
  plans : s.plans.All (FromRecord TransferPlan.id recoveredPlan d.plans.values)
  attempts : s.attempts = ∅
  receipts : s.receipts = ∅
  verifications : s.verifications = ∅
  workers : s.workers = ∅
  workerMaxBoot : s.workerMaxBoot = ∅

/-- The header record alone recovers no record. -/
theorem RecoveredFrom.header (d : State) :
  RecoveredFrom d { epoch := d.epoch, nextId := d.nextId, freshness := d.freshness }
  where
  epoch := rfl
  nextId := rfl
  freshness := rfl
  buffers := .empty
  devices := .empty
  endpoints := .empty
  nics := .empty
  storage := .empty
  providers := .empty
  capabilities := .empty
  registrations := .empty
  plans := .empty
  attempts := rfl
  receipts := rfl
  verifications := rfl
  workers := rfl
  workerMaxBoot := rfl

theorem reads_header {s : State} (h : s.Fits) :
  readHeader.Reads [putU64 s.epoch, putU64 s.nextId, putU64 s.freshness].flatten True
    { epoch := s.epoch, nextId := s.nextId, freshness := s.freshness }
  := by
  apply Reader.Reads.congr
  · apply (reads_u64 h.epoch _).field
    apply (reads_u64 h.nextId _).field
    apply (reads_u64 h.freshness _).field
    apply Reader.Reads.pure
  · simp

/-- Decoding the registries of `d` keeps the state made of records recovered from `d`. -/
theorem recoverRegistries_keepsOn {d : State} (h : d.Fits) :
  recoverRegistries.KeepsOn (RecoveredFrom d) (registrySections d) ()
  := by
  refine (recoverSection_keepsOn _ h.buffers.1 h.buffers.2
    (fun s hs => { hs with buffers := .empty })
    fun r hr s hs => { hs with buffers := hs.buffers.insert ⟨r, hr, rfl, rfl⟩ }).field ?_
  refine (recoverSection_keepsOn _ h.devices.1 h.devices.2
    (fun s hs => { hs with devices := .empty })
    fun r hr s hs => { hs with devices := hs.devices.insert ⟨r, hr, rfl, rfl⟩ }).field ?_
  refine (recoverSection_keepsOn _ h.endpoints.1 h.endpoints.2
    (fun s hs => { hs with endpoints := .empty })
    fun r hr s hs => { hs with endpoints := hs.endpoints.insert ⟨r, hr, rfl, rfl⟩ }).field ?_
  refine (recoverSection_keepsOn _ h.nics.1 h.nics.2
    (fun s hs => { hs with nics := .empty })
    fun r hr s hs => { hs with nics := hs.nics.insert ⟨r, hr, rfl, rfl⟩ }).field ?_
  refine (recoverSection_keepsOn _ h.storage.1 h.storage.2
    (fun s hs => { hs with storage := .empty })
    fun r hr s hs => { hs with storage := hs.storage.insert ⟨r, hr, rfl, rfl⟩ }).field ?_
  refine (recoverSection_keepsOn _ h.providers.1 h.providers.2
    (fun s hs => { hs with providers := .empty })
    fun r hr s hs => { hs with providers := hs.providers.insert ⟨r, hr, rfl, rfl⟩ }).field ?_
  refine (recoverSection_keepsOn _ h.capabilities.1 h.capabilities.2
    (fun s hs => { hs with capabilities := .empty })
    fun r hr s hs => { hs with capabilities := hs.capabilities.insert ⟨r, hr, rfl, rfl⟩ }).field ?_
  rw [List.flatten_singleton]
  exact recoverSection_keepsOn _ h.registrations.1 h.registrations.2
    (fun s hs => { hs with registrations := .empty })
    fun r hr s hs => { hs with registrations := hs.registrations.insert ⟨r, hr, rfl, rfl⟩ }

/-- Decoding the sections of `d` keeps the state made of records recovered from `d`. -/
theorem recoverSections_keepsAt {d : State} (h : d.Fits) :
  recoverSections.KeepsAt (RecoveredFrom d) (stateSections d)
  := by
  refine (recoverRegistries_keepsOn h).bind_at ?_
  refine recoverPlans_keepsAt h.plans.1 h.plans.2 ?_ ?_
  · intro s hs
    exact { hs with plans := .empty }
  · intro p hp s hs
    exact { hs with plans := hs.plans.insert ⟨p, hp, rfl, rfl⟩ }

/-- A recovery of the file persisted in `d` leaves the state alone, or what decoding the sections
leaves, after the header record. -/
theorem recoverFromFile_leaves {d : State} (h : d.Fits) (out : State) {P : State → Prop}
    (hsections : (stateBody d).length ≤ kMaxPayload → P (recoverSections (stateSections d)
      { epoch := d.epoch, nextId := d.nextId, freshness := d.freshness }).2) :
  (recoverFromFile (persistToFile d) out).2 = out ∨ P (recoverFromFile (persistToFile d) out).2
  := by
  rw [recoverFromFile, persistToFile]
  by_cases hmax : (stateBody d).length ≤ kMaxPayload
  · right
    have hleft := hsections hmax
    rw [openFrame_frame hmax]
    dsimp only
    rw [stateBody, (reads_header h).ok trivial]
    dsimp only
    split
    next heq =>
      rw [heq] at hleft
      apply hleft
    next heq =>
      rw [heq] at hleft
      apply hleft
  · left
    obtain ⟨e, he⟩ := openFrame_frame_fails (not_le.mp hmax)
    rw [he]

/-- A recovery of the file persisted in `d` leaves the state alone or leaves one made of records
recovered from `d`. -/
theorem recoverFromFile_persisted {d : State} (h : d.Fits) (out : State) :
  (recoverFromFile (persistToFile d) out).2 = out ∨
    RecoveredFrom d (recoverFromFile (persistToFile d) out).2
  := by
  apply recoverFromFile_leaves h out
  intro _
  apply recoverSections_keepsAt h _ (.header d)

/-! ### Recovering any file -/

/-- The state carries no live authority: no worker is live, no registration is `REGISTERED`, and
no plan is authoritative. -/
structure Unowned (s : State) : Prop where
  workers : s.workers = ∅
  registrations : s.registrations.All fun _ r => r.state ≠ .registered
  plans : s.plans.All fun _ p => p.authoritative = false

/-- An epoch change leaves no live authority. -/
theorem advanceEpoch_unowned (s : State) :
  Unowned (advanceEpoch s).2
  where
  workers := rfl
  registrations := by
    intro k r hr hstate
    obtain ⟨r', hr', rfl⟩ := Option.map_eq_some_iff.mp ((Table.lookup_mapVals _ _ _).symm.trans hr)
    rw [State.revalidateIf] at hstate
    split at hstate
    next => cases hstate
    next hne => simp [hstate] at hne
  plans := by
    intro k p hp
    obtain ⟨p', hp', rfl⟩ := Option.map_eq_some_iff.mp ((Table.lookup_mapVals _ _ _).symm.trans hp)
    rfl

theorem recoveredState_ne (s : RegistrationState) :
  recoveredState s ≠ .registered
  := by
  rw [recoveredState]
  split
  next => decide
  next h => exact h

/-- What is recovered from a persisted state carries no live authority. -/
theorem RecoveredFrom.unowned {d s : State} (hs : RecoveredFrom d s) :
  Unowned s
  where
  workers := hs.workers
  registrations := by
    intro k r hr
    obtain ⟨r, -, -, rfl⟩ := hs.registrations k r hr
    exact recoveredState_ne r.state
  plans := by
    intro k p hp
    obtain ⟨p, -, -, rfl⟩ := hs.plans k p hp
    rfl

theorem readRegistration_returns :
  readRegistration.Returns fun r => r.state ≠ .registered
  := by
  rw [readRegistration]
  iterate 17
    apply Reader.Returns.bind
    intro
  exact .pure (recoveredState_ne _)

theorem readPlan_returns :
  readPlan.Returns fun p => p.authoritative = false
  := by
  rw [readPlan]
  iterate 21
    apply Reader.Returns.bind
    intro
  exact .pure rfl

theorem recoverPlansLoop_unowned (rounds v8 cnt : ℕ) :
  (recoverPlansLoop rounds v8 cnt).Keeps Unowned
  := by
  induction rounds generalizing v8 cnt with
  | zero => exact .pure ()
  | succ rounds ih =>
      rw [recoverPlansLoop]
      split
      · refine .lift_bind readPlan_returns fun p hp => ?_
        refine .bind (.modify fun s hs => { hs with plans := hs.plans.insert hp }) fun _ => ?_
        exact ih (v8 + 1) p.copyCount
      · exact .pure ()

theorem recoverRegistries_unowned :
  recoverRegistries.Keeps Unowned
  := by
  have hother : ∀ {ρ : Type} (g : Reader Error ρ), g.Returns fun _ => True := by
    intro ρ g bs a bs' _
    trivial
  iterate 7
    refine .bind (recoverSection_keeps _ (hother _) (fun s hs => { hs with })
      fun r _ s hs => { hs with }) fun _ => ?_
  exact recoverSection_keeps _ readRegistration_returns
    (fun s hs => { hs with registrations := .empty })
    fun r hr s hs => { hs with registrations := hs.registrations.insert hr }

theorem recoverSections_unowned :
  recoverSections.Keeps Unowned
  := by
  refine .bind recoverRegistries_unowned fun _ => ?_
  refine .bind (.lift _) fun cnt => ?_
  refine .bind (.modify fun s hs => { hs with plans := .empty }) fun _ => ?_
  exact recoverPlansLoop_unowned (2 ^ 32) 0 cnt

theorem readHeader_returns :
  readHeader.Returns Unowned
  := by
  rw [readHeader]
  iterate 3
    apply Reader.Returns.bind
    intro
  exact .pure ⟨rfl, .empty, .empty⟩

/-- A recovery of any file that gets past the header record leaves no live authority, whether it
succeeds or not. -/
theorem recoverFromFile_unowned (file : Bytes) (out : State) :
  (∃ e, recoverFromFile file out = (.error e, out)) ∨
    Unowned (recoverFromFile file out).2
  := by
  rw [recoverFromFile]
  split
  next e _ => exact .inl ⟨e, rfl⟩
  next payload hopen =>
    split
    next e _ => exact .inl ⟨e, rfl⟩
    next header sections hheader =>
      right
      have hkeeps := recoverSections_unowned sections header (readHeader_returns _ _ _ hheader)
      split
      next heq =>
        rw [heq] at hkeeps
        exact hkeeps
      next heq =>
        rw [heq] at hkeeps
        exact hkeeps

end Persistence

end GpuDirectFabric
