import GpuDirectFabric.Listings
import GpuDirectFabric.Reopening
import GpuDirectFabric.WriterBounds

/-!
# Restarts that change nothing

What a recovery leaves is a state that persists and recovers as it is: its records are stored in the
order of their ids, they have nothing that a file does not carry, and of its plans there are no more
than the loop over the plans reads.  So what can be lost in restarts is lost in the first one, and
all that the following ones change is the epoch.
-/

namespace GpuDirectFabric

open Codec Coordinator

namespace Persistence

/-! ### Tables -/

section

variable {ρ : Type} {F : Format Error ρ} {id : ρ → ℕ} {t : Table ρ}

/-- The table is stored as a recovery stores it, and a recovery does not change its records. -/
structure Canonical (F : Format Error ρ) (id : ρ → ℕ) (t : Table ρ) : Prop where
  named : t.Named id
  stored : Table.ofList id (sortedById id t) = t
  recovered : ∀ r ∈ t.values, F.recovered r = r

theorem Canonical.restored (h : Canonical F id t) :
  restored F id t = t
  := by
  have hrecords : (sortedById id t).map F.recovered = sortedById id t := by
    conv_rhs => rw [← List.map_id (sortedById id t)]
    apply List.map_congr_left
    intro r hr
    apply h.recovered r (mem_sortedById.mp hr)
  rw [Persistence.restored, hrecords, h.stored]

/-- Records in the order of their ids stay in order when they change and keep their ids. -/
theorem increasing_map {f : ρ → ρ} (hid : ∀ r, id (f r) = id r) {rs : List ρ}
    (h : rs.Pairwise fun a b => id a < id b) :
  (rs.map f).Pairwise fun a b => id a < id b
  := by
  apply List.pairwise_map.mpr
  apply h.imp
  intro a b hlt
  rw [hid, hid]
  apply hlt

theorem sortedById_ofList {rs : List ρ} (h : rs.Pairwise fun a b => id a < id b) :
  sortedById id (Table.ofList id rs) = rs
  := Table.listing_ofList h

theorem canonical_ofList {rs : List ρ} (h : rs.Pairwise fun a b => id a < id b)
    (hrecovered : ∀ r ∈ rs, F.recovered r = r) :
  Canonical F id (Table.ofList id rs)
  := by
  have hsorted := sortedById_ofList h
  have hnodup : (rs.map id).Nodup := List.pairwise_map.mpr (h.imp fun hlt => hlt.ne)
  constructor
  · apply ((Table.all_ofList hnodup).mpr fun _ _ => rfl).named
  · rw [hsorted]
  · intro r hr
    rw [← mem_sortedById, hsorted] at hr
    apply hrecovered r hr

/-- The records of a canonical table may be changed into others that a recovery does not change. -/
theorem Canonical.mapVals (h : Canonical F id t) {f : ρ → ρ} (hid : ∀ r, id (f r) = id r)
    (hf : ∀ r, F.recovered r = r → F.recovered (f r) = f r) :
  Canonical F id (t.mapVals f)
  := by
  have hstored : t.mapVals f = Table.ofList id ((sortedById id t).map f) := by
    conv_lhs => rw [← h.stored]
    apply Table.mapVals_ofList hid
  rw [hstored]
  apply canonical_ofList (increasing_map hid (Table.listing_lt h.named))
  intro r hr
  obtain ⟨r', hr', rfl⟩ := List.mem_map.mp hr
  apply hf r' (h.recovered r' (mem_sortedById.mp hr'))

/-- The records lose in a recovery what they lose in the first one, and neither their ids nor their
widths change. -/
structure Settles (F : Format Error ρ) (id : ρ → ℕ) : Prop where
  named : ∀ r, id (F.recovered r) = id r
  recovered : ∀ r, F.recovered (F.recovered r) = F.recovered r
  fits : ∀ r, F.Fits r → F.Fits (F.recovered r)

theorem Settles.recovered_eq (h : Settles F id) {rs : List ρ} :
  ∀ r ∈ rs.map F.recovered, F.recovered r = r
  := by
  intro r hr
  obtain ⟨r, -, rfl⟩ := List.mem_map.mp hr
  apply h.recovered

/-- What a section is recovered to is canonical. -/
theorem Settles.canonical (h : Settles F id) (hnamed : t.Named id) :
  Canonical F id (Persistence.restored F id t)
  := canonical_ofList (increasing_map h.named (Table.listing_lt hnamed)) h.recovered_eq

/-- It fits where the section does. -/
theorem Settles.fits_restored (h : Settles F id) (hnamed : t.Named id)
    (hfits : t.size < 2 ^ 32 ∧ ∀ r ∈ t.values, F.Fits r) :
  (Persistence.restored F id t).size < 2 ^ 32 ∧
    ∀ r ∈ (Persistence.restored F id t).values, F.Fits r
  := by
  have hsorted : sortedById id (Persistence.restored F id t) = (sortedById id t).map F.recovered :=
    sortedById_ofList (increasing_map h.named (Table.listing_lt hnamed))
  constructor
  · rw [← length_sortedById id, hsorted, List.length_map, length_sortedById]
    apply hfits.1
  · intro r hr
    have hr : r ∈ sortedById id (Persistence.restored F id t) := mem_sortedById.mpr hr
    rw [hsorted] at hr
    obtain ⟨r', hr', rfl⟩ := List.mem_map.mp hr
    apply h.fits r' (hfits.2 r' (mem_sortedById.mp hr'))

end

theorem settles_buffer :
  Settles bufferFormat BufferRecord.id
  := ⟨fun _ => rfl, fun _ => rfl, fun _ h => { h with }⟩

theorem settles_device :
  Settles deviceFormat DeviceRecord.id
  := ⟨fun _ => rfl, fun _ => rfl, fun _ h => { h with }⟩

theorem settles_endpoint :
  Settles endpointFormat EndpointRecord.id
  := ⟨fun _ => rfl, fun _ => rfl, fun _ h => { h with }⟩

theorem settles_nic :
  Settles nicFormat NicRecord.id
  := ⟨fun _ => rfl, fun _ => rfl, fun _ h => { h with }⟩

theorem settles_storageEndpoint :
  Settles storageEndpointFormat StorageEndpointRecord.id
  := ⟨fun _ => rfl, fun _ => rfl, fun _ h => { h with }⟩

theorem settles_provider :
  Settles providerFormat ProviderInfo.id
  := ⟨fun _ => rfl, fun _ => rfl, fun _ h => h⟩

theorem settles_capability :
  Settles capabilityFormat CapabilityObservation.id
  := ⟨fun _ => rfl, fun _ => rfl, fun _ h => h⟩

/-- A registration that is neither in force nor has a handle is recovered as it is. -/
theorem recoveredRegistration_eq {r : Registration} (hstate : r.state ≠ .registered)
    (hhandle : r.handle = none) :
  recoveredRegistration r = r
  := by rw [recoveredRegistration, recoveredState, if_neg hstate, ← hhandle]

theorem settles_registration :
  Settles registrationFormat Registration.id
  where
  named _ := rfl
  recovered r := recoveredRegistration_eq (recoveredState_ne r.state) rfl
  fits _ h := { h with }

theorem settles_plan :
  Settles planFormat TransferPlan.id
  := ⟨fun _ => rfl, fun _ => rfl, fun _ h => { h with }⟩

/-! ### Plans -/

/-- The state with the plans, as they are recovered, stored on top of its own. -/
def withPlans (ps : List TransferPlan) (s : State) : State :=
  { s with plans := (ps.map recoveredPlan).foldl (fun t p => t.insert p.id p) s.plans }

theorem copyCount_le {p : TransferPlan} (h : p.copyCount = 1 ∨ p.copyCount = 2) :
  p.copyCount ≤ 2
  := by
  obtain hone | htwo := h
  · rw [hone]
    apply Nat.le_succ
  · apply htwo.le

section

variable {ps : List TransferPlan} {rounds : ℕ} {s s' : State}

/-- On plans whose copy counts keep them, the loop reads them all. -/
theorem recoverPlansLoop_kept (hkept : Kept (ps.map TransferPlan.copyCount))
    (hcount : ∀ p ∈ ps, p.copyCount = 1 ∨ p.copyCount = 2) (hfits : ∀ p ∈ ps, FitsPlan p)
    (hreadable : ∀ p ∈ ps, ReadablePlan p) :
  recoverPlansLoop (rounds + 2) 0 ps.length (ps.map putPlan).flatten s
    = (.ok ((), []), withPlans ps s)
  := by
  cases ps with
  | nil => exact recoverPlansLoop_stop le_rfl
  | cons p ps =>
  rw [List.forall_mem_cons] at hcount hfits hreadable
  rw [List.map_cons, List.flatten_cons, List.length_cons,
    recoverPlansLoop_next (Nat.succ_pos _) hfits.1 hreadable.1]
  cases ps with
  | nil =>
      have hone : p.copyCount = 1 := by simpa [Kept] using hkept
      rw [hone]
      apply recoverPlansLoop_stop le_rfl
  | cons q ps =>
      obtain ⟨htwo, rfl⟩ : p.copyCount = 2 ∧ ps = [] := by simpa [Kept] using hkept
      rw [List.forall_mem_cons] at hcount hfits hreadable
      rw [htwo, List.map_cons, List.flatten_cons,
        recoverPlansLoop_next (Nat.lt_succ_self 1) hfits.2.1 hreadable.2.1]
      apply recoverPlansLoop_stop (copyCount_le hcount.2.1)

/-- When the loop succeeds after a first plan with copy count `2`, it has read a second one. -/
theorem recoverPlansLoop_ok_second (hcount : ∀ p ∈ ps, p.copyCount = 1 ∨ p.copyCount = 2)
    (hfits : ∀ p ∈ ps, FitsPlan p) {a : Unit × Bytes}
    (h : recoverPlansLoop (rounds + 1) 1 2 (ps.map putPlan).flatten s = (.ok a, s')) :
  ∃ q qs, ps = q :: qs ∧ s' = storeRecoveredPlan (recoveredPlan q) s
  := by
  cases ps with
  | nil =>
      obtain ⟨e, he⟩ : ∃ e, recoverPlansLoop (rounds + 1) 1 2 [] s = (.error e, s) :=
        recoverPlansLoop_truncated (Nat.lt_succ_self 1)
      cases h.symm.trans he
  | cons q qs =>
  rw [List.forall_mem_cons] at hcount hfits
  rw [List.map_cons, List.flatten_cons] at h
  by_cases hq : ReadablePlan q
  · rw [recoverPlansLoop_next (Nat.lt_succ_self 1) hfits.1 hq,
      recoverPlansLoop_stop (copyCount_le hcount.1)] at h
    exact ⟨q, qs, rfl, (congrArg Prod.snd h).symm⟩
  · obtain ⟨e, he⟩ : ∃ e, recoverPlansLoop (rounds + 1) 1 2
        (putPlan q ++ (qs.map putPlan).flatten) s = (.error e, s) :=
      recoverPlansLoop_unreadable (Nat.lt_succ_self 1) hfits.1 hq
    cases h.symm.trans he

/-- When the loop succeeds, it has read the first of the plans, as many as their copy counts
keep. -/
theorem recoverPlansLoop_ok (hcount : ∀ p ∈ ps, p.copyCount = 1 ∨ p.copyCount = 2)
    (hfits : ∀ p ∈ ps, FitsPlan p) {a : Unit × Bytes}
    (h : recoverPlansLoop (rounds + 2) 0 ps.length (ps.map putPlan).flatten s = (.ok a, s')) :
  ∃ qs, qs <+: ps ∧ Kept (qs.map TransferPlan.copyCount) ∧ s' = withPlans qs s
  := by
  cases ps with
  | nil =>
      rw [List.length_nil, recoverPlansLoop_stop le_rfl] at h
      exact ⟨[], ⟨[], rfl⟩, .inl rfl, (congrArg Prod.snd h).symm⟩
  | cons p ps =>
  rw [List.forall_mem_cons] at hcount hfits
  rw [List.map_cons, List.flatten_cons, List.length_cons] at h
  by_cases hp : ReadablePlan p
  · rw [recoverPlansLoop_next (Nat.succ_pos _) hfits.1 hp] at h
    obtain hone | htwo := hcount.1
    · rw [hone, recoverPlansLoop_stop le_rfl] at h
      refine ⟨[p], ⟨ps, rfl⟩, .inr (.inl ?_), (congrArg Prod.snd h).symm⟩
      rw [List.map_singleton, hone]
    · rw [htwo] at h
      obtain ⟨q, qs, rfl, hstored⟩ := recoverPlansLoop_ok_second hcount.2 hfits.2 h
      refine ⟨[p, q], ⟨qs, rfl⟩, .inr (.inr ⟨q.copyCount, ?_⟩), hstored⟩
      rw [List.map_cons, List.map_singleton, htwo]
  · obtain ⟨e, he⟩ : ∃ e, recoverPlansLoop (rounds + 2) 0 (ps.length + 1)
        (putPlan p ++ (ps.map putPlan).flatten) s = (.error e, s) :=
      recoverPlansLoop_unreadable (Nat.succ_pos _) hfits.1 hp
    cases h.symm.trans he

end

section

variable {t : Table TransferPlan} {s s' : State}

/-- The section of the plans, once its count is read. -/
theorem recoverPlans_eq (hmax : t.size ≤ maxCount) :
  recoverPlans (putSection planFormat TransferPlan.id t) s
    = recoverPlansLoop (2 ^ 32) 0 (sortedById TransferPlan.id t).length
        ((sortedById TransferPlan.id t).map putPlan).flatten { s with plans := ∅ }
  := by
  have hlength := length_sortedById TransferPlan.id t
  have hcnt := reads_boundedCount (fits_of_maxCount (hlength.trans_le hmax)) maxCount
    "invalid plan count"
  rw [recoverPlans, putSection,
    Decoder.bind_ok (Decoder.lift_ok (hcnt.ok (hlength.trans_le hmax) _) s),
    Decoder.bind_ok (Decoder.modify_apply _ _ _)]
  rfl

/-- From a section of plans whose copy counts keep them, all are recovered. -/
theorem recoverPlans_kept
    (hkept : Kept ((sortedById TransferPlan.id t).map TransferPlan.copyCount))
    (hcount : ∀ p ∈ t.values, p.copyCount = 1 ∨ p.copyCount = 2)
    (hfits : ∀ p ∈ t.values, FitsPlan p) (hreadable : ∀ p ∈ t.values, ReadablePlan p)
    (hmax : t.size ≤ maxCount) :
  recoverPlans (putSection planFormat TransferPlan.id t) s
    = (.ok ((), []), { s with plans := restored planFormat TransferPlan.id t })
  := by
  obtain ⟨rounds, hrounds⟩ : ∃ rounds, 2 ^ 32 = rounds + 2 := ⟨2 ^ 32 - 2, rfl⟩
  rw [recoverPlans_eq hmax, hrounds]
  apply recoverPlansLoop_kept hkept
  · intro p hp
    apply hcount p (mem_sortedById.mp hp)
  · intro p hp
    apply hfits p (mem_sortedById.mp hp)
  · intro p hp
    apply hreadable p (mem_sortedById.mp hp)

/-- What is recovered from a section of plans are the first of them, as many as their copy counts
keep. -/
theorem recoverPlans_ok (hcount : ∀ p ∈ t.values, p.copyCount = 1 ∨ p.copyCount = 2)
    (hsize : t.size < 2 ^ 32) (hfits : ∀ p ∈ t.values, FitsPlan p) {a : Unit × Bytes}
    (h : recoverPlans (putSection planFormat TransferPlan.id t) s = (.ok a, s')) :
  ∃ ps, ps <+: sortedById TransferPlan.id t ∧ Kept (ps.map TransferPlan.copyCount) ∧
    s' = { s with plans := Table.ofList TransferPlan.id (ps.map recoveredPlan) }
  := by
  obtain ⟨rounds, hrounds⟩ : ∃ rounds, 2 ^ 32 = rounds + 2 := ⟨2 ^ 32 - 2, rfl⟩
  by_cases hmax : t.size ≤ maxCount
  · rw [recoverPlans_eq hmax, hrounds] at h
    apply recoverPlansLoop_ok _ _ h
    · intro p hp
      apply hcount p (mem_sortedById.mp hp)
    · intro p hp
      apply hfits p (mem_sortedById.mp hp)
  · have hlength := length_sortedById TransferPlan.id t
    rw [← hlength] at hsize hmax
    obtain ⟨e, he⟩ := (reads_boundedCount hsize maxCount "invalid plan count").fails hmax
      (((sortedById TransferPlan.id t).map planFormat.put).flatten)
    rw [recoverPlans, putSection, Decoder.bind_error (Decoder.lift_error he s)] at h
    cases h

end

/-- The loop over the plans reads all the plans of the table, and gives it back. -/
structure SettledPlans (t : Table TransferPlan) : Prop where
  canonical : Canonical planFormat TransferPlan.id t
  kept : Kept ((sortedById TransferPlan.id t).map TransferPlan.copyCount)
  copies : ∀ p ∈ t.values, p.copyCount = 1 ∨ p.copyCount = 2
  fits : ∀ p ∈ t.values, FitsPlan p

theorem SettledPlans.size_le {t : Table TransferPlan} (h : SettledPlans t) :
  t.size ≤ 2
  := by
  rw [← length_sortedById TransferPlan.id, ← List.length_map TransferPlan.copyCount]
  obtain hnone | hone | ⟨c, htwo⟩ := h.kept
  · rw [hnone]
    apply Nat.zero_le
  · rw [hone]
    apply Nat.le_succ
  · rw [htwo]
    apply le_rfl

/-- The first plans of a section, if their copy counts keep them, are settled once recovered. -/
theorem settledPlans_of_kept {t : Table TransferPlan} (hnamed : t.Named TransferPlan.id)
    (hcount : ∀ p ∈ t.values, p.copyCount = 1 ∨ p.copyCount = 2)
    (hfits : ∀ p ∈ t.values, FitsPlan p) {ps : List TransferPlan}
    (hfirst : ps <+: sortedById TransferPlan.id t) (hkept : Kept (ps.map TransferPlan.copyCount)) :
  SettledPlans (Table.ofList TransferPlan.id (ps.map recoveredPlan))
  := by
  have hincreasing := increasing_map settles_plan.named
    ((Table.listing_lt hnamed).sublist hfirst.sublist)
  have hsorted : sortedById TransferPlan.id (Table.ofList TransferPlan.id (ps.map recoveredPlan))
      = ps.map recoveredPlan := sortedById_ofList hincreasing
  have hmem : ∀ p ∈ (Table.ofList TransferPlan.id (ps.map recoveredPlan)).values,
      ∃ p' ∈ t.values, recoveredPlan p' = p := by
    intro p hp
    have hp : p ∈ sortedById TransferPlan.id _ := mem_sortedById.mpr hp
    rw [hsorted] at hp
    obtain ⟨p', hp', rfl⟩ := List.mem_map.mp hp
    use p', mem_sortedById.mp (hfirst.subset hp')
  constructor
  · apply canonical_ofList hincreasing settles_plan.recovered_eq
  · rw [hsorted, List.map_map]
    apply hkept
  · intro p hp
    obtain ⟨p', hp', rfl⟩ := hmem p hp
    apply hcount p' hp'
  · intro p hp
    obtain ⟨p', hp', rfl⟩ := hmem p hp
    apply settles_plan.fits p' (hfits p' hp')

/-! ### States -/

/-- A recovery gives this state back: its tables are canonical, the loop over the plans reads all of
them, and it has nothing that a file does not carry. -/
structure Settled (s : State) : Prop where
  buffers : Canonical bufferFormat BufferRecord.id s.buffers
  devices : Canonical deviceFormat DeviceRecord.id s.devices
  endpoints : Canonical endpointFormat EndpointRecord.id s.endpoints
  nics : Canonical nicFormat NicRecord.id s.nics
  storage : Canonical storageEndpointFormat StorageEndpointRecord.id s.storage
  providers : Canonical providerFormat ProviderInfo.id s.providers
  capabilities : Canonical capabilityFormat CapabilityObservation.id s.capabilities
  registrations : Canonical registrationFormat Registration.id s.registrations
  plans : SettledPlans s.plans
  carried : s =
    { epoch := s.epoch
      nextId := s.nextId
      freshness := s.freshness
      buffers := s.buffers
      devices := s.devices
      endpoints := s.endpoints
      nics := s.nics
      storage := s.storage
      providers := s.providers
      capabilities := s.capabilities
      registrations := s.registrations
      plans := s.plans }
  fits : s.Fits
  within : WrittenWithin s

/-- A settled state is recovered from its file as it is. -/
theorem Settled.recovers {s : State} (h : Settled s) (out : State) :
  recoverFromFile (persistToFile s) out = (.ok (), s)
  := by
  have hregistries : { restoreRegistries s
      { epoch := s.epoch, nextId := s.nextId, freshness := s.freshness } with
      plans := s.plans } = s := by
    rw [restoreRegistries, h.buffers.restored, h.devices.restored, h.endpoints.restored,
      h.nics.restored, h.storage.restored, h.providers.restored, h.capabilities.restored,
      h.registrations.restored]
    symm
    apply h.carried
  rw [h.within.reaches_plans h.fits, recoverPlans_kept h.plans.kept h.plans.copies h.plans.fits
    (Table.forall_values.mpr h.within.plans) (h.plans.size_le.trans (by decide)),
    h.plans.canonical.restored, hregistries]
  rfl

/-- What is restored of the registries fits where these do. -/
theorem fits_restored {d : State} (hwf : WellFormed d) (hfits : d.Fits) {plans : Table TransferPlan}
    (hplans : SettledPlans plans) :
  State.Fits { restoreRegistries d
    { epoch := d.epoch, nextId := d.nextId, freshness := d.freshness } with plans := plans }
  := by
  have hbuffers := (hwf.buffers.mono fun _ _ hb => hb.1).named
  have hendpoints := (hwf.endpoints.mono fun _ _ he => he.1).named
  have hregistrations := (hwf.registrations.mono fun _ _ hr => hr.1).named
  constructor
  · apply hfits.epoch
  · apply hfits.nextId
  · apply hfits.freshness
  · apply settles_buffer.fits_restored hbuffers hfits.buffers
  · apply settles_device.fits_restored hwf.devices.named hfits.devices
  · apply settles_endpoint.fits_restored hendpoints hfits.endpoints
  · apply settles_nic.fits_restored hwf.nics.named hfits.nics
  · apply settles_storageEndpoint.fits_restored hwf.storage.named hfits.storage
  · apply settles_provider.fits_restored hwf.providers.named hfits.providers
  · apply settles_capability.fits_restored hwf.capability hfits.capabilities
  · apply settles_registration.fits_restored hregistrations hfits.registrations
  · use hplans.size_le.trans_lt (by decide)
    apply hplans.fits

/-- What is recovered from a persisted file is settled. -/
theorem settled_of_recovered {d out s : State} (hwf : WellFormed d) (hfits : d.Fits)
    (h : recoverFromFile (persistToFile d) out = (.ok (), s)) :
  Settled s
  := by
  have hwithin : WrittenWithin s := by
    have hrecovered := within_recovered hfits (within_new 1)
    rw [recovered_anywhere h] at hrecovered
    apply hrecovered
  have hcount : ∀ p ∈ d.plans.values, p.copyCount = 1 ∨ p.copyCount = 2 := by
    intro p hp
    obtain ⟨k, hk⟩ := Table.mem_values.mp hp
    apply (hwf.plans k p hk).2.2
  obtain ⟨-, heq⟩ | ⟨-, e, s', heq⟩ := recoverFromFile_persistToFile hfits out
  · rw [h] at heq
    generalize hresult : recoverPlans _ _ = result at heq
    obtain ⟨e | a, s'⟩ := result
    · cases congrArg Prod.fst heq
    obtain rfl : s = s' := congrArg Prod.snd heq
    obtain ⟨ps, hfirst, hkept, rfl⟩ := recoverPlans_ok hcount hfits.plans.1 hfits.plans.2 hresult
    have hplans := settledPlans_of_kept (hwf.plans.mono fun _ _ hp => hp.1).named hcount
      hfits.plans.2 hfirst hkept
    constructor
    · apply settles_buffer.canonical (hwf.buffers.mono fun _ _ hb => hb.1).named
    · apply settles_device.canonical hwf.devices.named
    · apply settles_endpoint.canonical (hwf.endpoints.mono fun _ _ he => he.1).named
    · apply settles_nic.canonical hwf.nics.named
    · apply settles_storageEndpoint.canonical hwf.storage.named
    · apply settles_provider.canonical hwf.providers.named
    · apply settles_capability.canonical hwf.capability
    · apply settles_registration.canonical (hwf.registrations.mono fun _ _ hr => hr.1).named
    · apply hplans
    · rfl
    · apply fits_restored hwf hfits hplans
    · apply hwithin
  · rw [h] at heq
    cases congrArg Prod.fst heq

/-! ### Epochs -/

theorem recovered_revalidateIf {q : Registration → Bool} {r : Registration}
    (h : recoveredRegistration r = r) :
  recoveredRegistration (State.revalidateIf q r) = State.revalidateIf q r
  := by
  have hhandle : r.handle = none := by
    rw [← h]
    rfl
  rw [State.revalidateIf]
  split
  · apply recoveredRegistration_eq
    · rintro ⟨⟩
    · apply hhandle
  · apply h

/-- A recovered plan is superseded already. -/
theorem supersedeIf_recovered {q : TransferPlan → Bool} {p : TransferPlan}
    (h : recoveredPlan p = p) :
  State.supersedeIf q p = p
  := by
  have hauthoritative : p.authoritative = false := by
    rw [← h]
    rfl
  rw [State.supersedeIf]
  split
  · rw [← hauthoritative]
  · rfl

theorem fits_revalidateIf {q : Registration → Bool} {r : Registration} (h : FitsRegistration r) :
  FitsRegistration (State.revalidateIf q r)
  := by
  rw [State.revalidateIf]
  split
  · exact { h with }
  · apply h

/-- A settled state after an epoch change, and with another epoch, is settled. -/
theorem Settled.advanced {s : State} (h : Settled s) {epoch : ℕ} (hepoch : epoch < 2 ^ 64) :
  Settled { (advanceEpoch s).2 with epoch := epoch }
  := by
  have hplans : (advanceEpoch s).2.plans = s.plans := Table.mapVals_eq_self fun p hp =>
    supersedeIf_recovered (h.plans.canonical.recovered p hp)
  have hregistrations : (advanceEpoch s).2.registrations.size < 2 ^ 32 ∧
      ∀ r ∈ (advanceEpoch s).2.registrations.values, FitsRegistration r := by
    have hall : (advanceEpoch s).2.registrations.All fun _ r => FitsRegistration r :=
      (Table.forall_values.mp h.fits.registrations.2).mapVals fun _ _ => fits_revalidateIf
    use (List.length_map _).trans_lt h.fits.registrations.1
    apply Table.forall_values.mpr hall
  have hwithin : WrittenWithin (advanceEpoch s).2 :=
    ((Effect.advanceEpoch (s := s)).sectionsKept rfl).within h.within
  have hepochs : SectionsKept (advanceEpoch s).2 { (advanceEpoch s).2 with epoch := epoch } :=
    { SectionsKept.refl (advanceEpoch s).2 with }
  constructor
  · apply h.buffers
  · apply h.devices
  · apply h.endpoints
  · apply h.nics
  · apply h.storage
  · apply h.providers
  · apply h.capabilities
  · apply h.registrations.mapVals
    · intro r
      rw [State.revalidateIf]
      split <;> rfl
    · intro r hr
      apply recovered_revalidateIf hr
  · dsimp only
    rw [hplans]
    apply h.plans
  · conv_lhs => rw [h.carried]
    rfl
  · constructor
    · apply hepoch
    · apply h.fits.nextId
    · apply h.fits.freshness
    · apply h.fits.buffers
    · apply h.fits.devices
    · apply h.fits.endpoints
    · apply h.fits.nics
    · apply h.fits.storage
    · apply h.fits.providers
    · apply h.fits.capabilities
    · apply hregistrations
    · dsimp only
      rw [hplans]
      apply h.fits.plans
  · apply hepochs.within hwithin

/-- A registration that has been revalidated needs it no more. -/
theorem revalidateIf_idem {q : Registration → Bool} {r : Registration}
    (hq : q { r with state := .revalidationRequired } = false) :
  State.revalidateIf q (State.revalidateIf q r) = State.revalidateIf q r
  := by
  by_cases hr : q r = true
  · rw [State.revalidateIf.eq_def q r, if_pos hr, State.revalidateIf, hq]
    rfl
  · rw [State.revalidateIf.eq_def q r, if_neg hr, State.revalidateIf, if_neg hr]

/-- After an epoch change, others change the epoch alone. -/
theorem advanceEpoch_advanced (s : State) (epoch : ℕ) :
  (advanceEpoch { (advanceEpoch s).2 with epoch := epoch }).2
    = { (advanceEpoch s).2 with epoch := epoch + 1 }
  := by
  have hregistrations : (advanceEpoch s).2.registrations.All fun _ r =>
      State.revalidateIf (fun r => r.state = .registered || r.state = .registering) r = r := by
    intro k r hr
    obtain ⟨r', -, rfl⟩ := Option.map_eq_some_iff.mp ((Table.lookup_mapVals _ _ _).symm.trans hr)
    apply revalidateIf_idem
    rfl
  have hplans : (advanceEpoch s).2.plans.All fun _ p =>
      State.supersedeIf (fun _ => true) p = p := by
    intro k p hp
    obtain ⟨p', -, rfl⟩ := Option.map_eq_some_iff.mp ((Table.lookup_mapVals _ _ _).symm.trans hp)
    rfl
  rw [advanceEpoch, Table.mapVals_eq_self (Table.forall_values.mpr hregistrations),
    Table.mapVals_eq_self (Table.forall_values.mpr hplans)]
  rfl

end Persistence

/-! ### Restarts -/

/-- A restart: a new coordinator recovers the file the old one has persisted, and changes the
epoch. -/
def restart (s : State) : Result State :=
  let call := recoverFromFile (persistToFile s) (Coordinator (s.epoch + 1))
  match call.1 with
  | .error e => .error e
  | .ok _ => .ok (advanceEpoch call.2).2

/-- A number of restarts, up to the first that fails. -/
def restarts : ℕ → State → Result State
  | 0, s => .ok s
  | n + 1, s => do restarts n (← restart s)

theorem restart_eq_ok_iff {s t : State} :
  restart s = .ok t ↔
    ∃ u, recoverFromFile (persistToFile s) (Coordinator (s.epoch + 1)) = (.ok (), u) ∧
      t = (advanceEpoch u).2
  := by
  rw [restart]
  generalize recoverFromFile _ _ = call
  obtain ⟨e | _, u⟩ := call
  · simp
  · simp [eq_comm]

/-- A restart of a settled state after an epoch change, in whichever epoch, changes it alone. -/
theorem Persistence.Settled.restart {u : State} (h : Settled u) {epoch : ℕ}
    (hepoch : epoch < 2 ^ 64) :
  restart { (advanceEpoch u).2 with epoch := epoch }
    = .ok { (advanceEpoch u).2 with epoch := epoch + 1 }
  := by
  apply restart_eq_ok_iff.mpr
  exact ⟨_, (h.advanced hepoch).recovers _, (advanceEpoch_advanced u epoch).symm⟩

theorem Persistence.Settled.restarts {u : State} (h : Settled u) {n epoch : ℕ}
    (hn : epoch + n ≤ 2 ^ 64) :
  restarts n { (advanceEpoch u).2 with epoch := epoch }
    = .ok { (advanceEpoch u).2 with epoch := epoch + n }
  := by
  induction n generalizing epoch with
  | zero => rfl
  | succ n ih =>
      rw [GpuDirectFabric.restarts, h.restart (by omega), ok_bind, ih (by omega),
        Nat.add_right_comm, Nat.add_assoc]

/-- All that can be lost in restarts is lost in the first one: when it succeeds, all the following
ones do, and they change the epoch and nothing else. -/
theorem restarts_stable {w : World} (h : persistedFabric.Reachable w) (hfits : w.state.Fits)
    {s : State} (hs : restart w.state = .ok s) {n : ℕ} (hn : s.epoch + n < 2 ^ 64) :
  restarts n s = .ok { s with epoch := s.epoch + n }
  := by
  obtain ⟨u, hrecover, rfl⟩ := restart_eq_ok_iff.mp hs
  have hsettled := Persistence.settled_of_recovered (wellFormed_of_reachable h) hfits hrecover
  apply hsettled.restarts hn.le

namespace Fixture

/-- A restart of the world in which a direct path is planned carries the plan over. -/
theorem restart_planned :
  ∃ s, restart planned.state = .ok s ∧ s.epoch = 2 ∧ (s.plans.lookup 8).isSome = true
  := by
  have hsurvive :
      Persistence.PlansSurvive planned.state (Coordinator (planned.state.epoch + 1)) := by
    apply (Persistence.plansSurvive_iff (wellFormed_of_reachable (reachable_planned _))
      (by decide +kernel) _).mpr
    use by decide +kernel
    right
    left
    decide +kernel
  obtain ⟨hok, hplans⟩ := hsurvive
  have hplan := hplans 8
  rw [lookup_plan, Option.map_some] at hplan
  have hpersisted := Persistence.recoverFromFile_persisted (d := planned.state) (by decide +kernel)
    (Coordinator (planned.state.epoch + 1))
  generalize hresult : recoverFromFile _ _ = result at hok hplan hpersisted
  obtain ⟨r, u⟩ := result
  obtain rfl : r = .ok () := hok
  refine ⟨_, restart_eq_ok_iff.mpr ⟨u, hresult, rfl⟩, ?_, ?_⟩
  · obtain rfl | hrecovered := hpersisted
    · cases hplan
    · apply congrArg Nat.succ (hrecovered.epoch.trans _)
      decide +kernel
  · rw [advanceEpoch]
    dsimp only at hplan ⊢
    rw [Table.lookup_mapVals, hplan, Option.map_some, Option.isSome_some]

end Fixture

theorem restarts_stable_planned :
  ∃ s, restart Fixture.planned.state = .ok s ∧ (s.plans.lookup 8).isSome = true ∧
    restarts 5 s = .ok { s with epoch := s.epoch + 5 }
  := by
  obtain ⟨s, hs, hepoch, hplan⟩ := Fixture.restart_planned
  use s, hs, hplan
  apply restarts_stable (Fixture.reachable_planned _) (by decide +kernel) hs
  rw [hepoch]
  decide

end GpuDirectFabric
