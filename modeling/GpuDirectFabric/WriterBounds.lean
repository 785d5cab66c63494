import GpuDirectFabric.Generations
import GpuDirectFabric.Messages
import GpuDirectFabric.RecoveredSizes

/-!
# The writer and the reader's bounds

The reader of a state file bounds the strings, lists, counts and enumerators it accepts, and the
body as a whole.  Neither the writer nor the operations look at these bounds: a record that exceeds
one is accepted from a caller or a worker, and is written.
-/

namespace GpuDirectFabric

open Codec Coordinator Persistence

/-! ### Records that enter -/

section

variable {ρ : Type} {F : Format Error ρ} {t : Table ρ} {k : ℕ} {r : ρ} {s s' : State}

/-- The record `r` can be stored in the table `t` of `s`, under the key `k`, within the bounds: it
is readable, it replaces another one or the section has room, and the body has room for it. -/
structure Enters (F : Format Error ρ) (t : Table ρ) (k : ℕ) (r : ρ) (s : State) : Prop where
  readable : F.Readable r
  room : (t.lookup k).isSome = true ∨ t.size < maxCount
  body : (stateBody s).length + (F.put r).length ≤ kMaxPayload + imageSizeAt F t k

theorem bounded_insert_iff (ht : Bounded F t) :
  Bounded F (t.insert k r) ↔
    F.Readable r ∧ ((t.lookup k).isSome = true ∨ t.size < maxCount)
  := by
  rw [bounded_iff, Table.size_insert]
  have hsize := ht.size
  have hreadable : t.All fun _ r => F.Readable r := Table.forall_values.mp ht.readable
  have hroom : (if (t.lookup k).isSome = true then t.size else t.size + 1) ≤ maxCount ↔
      (t.lookup k).isSome = true ∨ t.size < maxCount := by
    split
    next hheld => exact iff_of_true hsize (.inl hheld)
    next hheld => exact (or_iff_right hheld).symm
  rw [hroom, and_comm]
  apply and_congr_left
  intro
  constructor
  · intro h
    exact h r (Table.mem_values.mpr ⟨k, AList.lookup_insert _⟩)
  · intro hr
    exact Table.forall_values.mpr (hreadable.insert hr)

theorem imageSize_insert (F : Format Error ρ) (t : Table ρ) (k : ℕ) (r : ρ) :
  imageSize F (t.insert k r) + imageSizeAt F t k = imageSize F t + (F.put r).length
  := Table.weight_insert _ _ _ _

/-- When `s'` is `s` with another record in one of the tables, it is within the bounds exactly when
the record enters within them. -/
theorem within_iff_enters (ht : Bounded F t)
    (hlength : imageSizes s' + imageSize F t = imageSizes s + imageSize F (t.insert k r))
    (hs' : WrittenWithin s' ↔
      Bounded F (t.insert k r) ∧ (stateBody s').length ≤ kMaxPayload) :
  WrittenWithin s' ↔ Enters F t k r s
  := by
  have himages := imageSize_insert F t k r
  have hbody := length_stateBody s
  have hbody' := length_stateBody s'
  rw [hs', bounded_insert_iff ht]
  constructor
  · rintro ⟨⟨hreadable, hroom⟩, hmax⟩
    exact ⟨hreadable, hroom, by omega⟩
  · rintro ⟨hreadable, hroom, hmax⟩
    exact ⟨⟨hreadable, hroom⟩, by omega⟩

end

/-! ### Calls that store a record -/

section

variable {s : State}

/-- The key and the record `add_provider` stores. -/
def providerEntry (p : ProviderAddParams) (s : State) : ProviderId × ProviderInfo :=
  match findEntry (fun v : ProviderInfo => v.name = p.name) s.providers with
  | some (k, v) =>
    (k, { v with available := p.available, support := p.support, provenance := p.provenance })
  | none => (s.nextId + 1, newProvider p (s.nextId + 1))

theorem addProvider_passed {p : ProviderAddParams} (hname : p.name.isEmpty = false) :
  ∃ n, (addProvider p s).2 = { s with
    nextId := n
    providers := s.providers.insert (providerEntry p s).1 (providerEntry p s).2 }
  := by
  rw [addProvider, hname, if_neg Bool.false_ne_true, providerEntry]
  cases findEntry (fun v : ProviderInfo => v.name = p.name) s.providers with
  | none => exact ⟨s.nextId + 1, rfl⟩
  | some kv => exact ⟨s.nextId, rfl⟩

/-- The key `publish_capability` stores an observation under. -/
def capabilityKey (p : CapabilityPublishParams) (s : State) : CapabilityObservationId :=
  match findEntry (fun v : CapabilityObservation =>
      v.provider = p.provider && v.capability = p.capability) s.capabilities with
  | some (k, _) => k
  | none => s.nextId + 1

theorem publishCapability_passed {p : CapabilityPublishParams}
    (hpasses : Event.Passes s (.publishCapability p)) :
  (publishCapability p s).2 = { s.nextIdLocked.nextFreshnessLocked with
    capabilities := s.capabilities.insert (capabilityKey p s)
      (newCapability p (s.nextId + 1) (s.freshness + 1)) }
  := by
  rw [publishCapability, if_neg (trusts_iff.mp hpasses), capabilityKey]
  dsimp only [State.nextIdLocked, State.nextFreshnessLocked]
  cases findEntry (fun v : CapabilityObservation =>
      v.provider = p.provider && v.capability = p.capability) s.capabilities with
  | none => rfl
  | some kv => rfl

end

/-! ### Commits -/

/-- A commit of the decision passes its checks. -/
structure Commits (p : PlanRequestParams) (d : PathDecision) (s : State) : Prop
    extends CommitChecks p d s where
  eligible : d.eligibility.isDirect = true ∧
      (registeredRegistration s p.source p.destination).isSome = true ∨
    d.eligibility = .fallbackRequired ∧ d.fallbackAvailable = true

/-- What a commit of the decision writes of the plan, up to its numbers. -/
def plannedRecord (p : PlanRequestParams) (d : PathDecision) : TransferPlan :=
  planRecord p d {} {} none 0 0 0

/-- What it writes of the staging buffer, up to its numbers. -/
def stagedRecord : BufferRecord := stagingBuffer 0 0 {} 0

/-- The plan, and the staging buffer if it needs one, can be stored within the bounds. -/
structure PlanEnters (p : PlanRequestParams) (d : PathDecision) (s : State) : Prop where
  readable : ReadablePlan (plannedRecord p d)
  room : d.eligibility.isDirect = false → s.buffers.size < maxCount
  body : (stateBody s).length + (putPlan (plannedRecord p d)).length +
    (if d.eligibility.isDirect then 0 else (putBuffer stagedRecord).length) ≤ kMaxPayload

/-- A commit that passes its checks goes on to store a plan. -/
theorem planTransferCommit_of_commits {p : PlanRequestParams} {d : PathDecision} {s : State}
    (hwf : WellFormed s) (h : Commits p d s) :
  ∃ src dst, planTransferCommit p d s
    = storePlan p d src dst (registeredRegistration s src.id dst.id) s
  := by
  obtain ⟨src, hsrc, hsrcGeneration⟩ := h.source
  obtain ⟨dst, hdst, hdstGeneration⟩ := h.destination
  use src, dst
  have heligible : ¬(!d.eligibility.isDirect &&
      !(d.eligibility = .fallbackRequired && d.fallbackAvailable)) = true := by
    obtain ⟨hdirect, -⟩ | ⟨hfallback, havailable⟩ := h.eligible
    · simp [hdirect]
    · simp [hfallback, havailable]
  have hregistered : ¬(d.eligibility.isDirect &&
      (registeredRegistration s src.id dst.id).isNone) = true := by
    rw [hwf.buffer_id hsrc, hwf.endpoint_id hdst]
    obtain ⟨-, hsome⟩ | ⟨hfallback, -⟩ := h.eligible
    · simp [Option.isSome_iff_ne_none.mp hsome]
    · simp [hfallback, PathEligibility.isDirect]
  rw [planTransferCommit, if_neg heligible, if_neg (not_le.mpr h.room), hsrc]
  dsimp only
  rw [if_neg (by simp [hsrcGeneration]), hdst]
  dsimp only
  rw [if_neg (by simp [hdstGeneration]), if_neg hregistered]

/-- Any other commit leaves the state alone. -/
theorem planTransferCommit_of_not_commits {p : PlanRequestParams} {d : PathDecision} {s : State}
    (hwf : WellFormed s) (h : ¬Commits p d s) :
  (planTransferCommit p d s).2 = s
  := by
  obtain hsame | hroom := planTransferCommit_room p d s
  · exact hsame
  obtain ⟨e, heq⟩ | ⟨src, dst, hsrc, hsrcGeneration, hdst, hdstGeneration, heligible, hreg, -⟩ :=
    planTransferCommit_cases p d s
  · rw [heq]
  · apply absurd _ h
    refine ⟨⟨hroom, ⟨src, hsrc, hsrcGeneration⟩, ⟨dst, hdst, hdstGeneration⟩⟩, ?_⟩
    obtain hdirect | hfallback := heligible
    · left
      use hdirect
      rw [← hwf.buffer_id hsrc, ← hwf.endpoint_id hdst]
      exact hreg hdirect
    · exact .inr hfallback

/-- What a commit that passes its checks stores. -/
theorem planTransferCommit_stores {p : PlanRequestParams} {d : PathDecision} {s : State}
    (hwf : WellFormed s) (h : Commits p d s) :
  ∃ plan, WrittenAlike planFormat (plannedRecord p d) plan ∧
    (ReadablePlan plan → ReadablePlan (plannedRecord p d)) ∧
    (d.eligibility.isDirect = true ∧
        (planTransferCommit p d s).2 = { s.nextIdLocked.nextIdLocked with
          plans := s.plans.insert (s.nextId + 1) plan } ∨
      d.eligibility.isDirect = false ∧ ∃ t freshness, WrittenAlike bufferFormat stagedRecord t ∧
        (planTransferCommit p d s).2 = { s with
          nextId := s.nextId + 3
          freshness := freshness
          plans := s.plans.insert (s.nextId + 1) plan
          buffers := s.buffers.insert (s.nextId + 3) t })
  := by
  obtain ⟨src, dst, heq⟩ := planTransferCommit_of_commits hwf h
  rw [heq, storePlan]
  cases hdirect : d.eligibility.isDirect with
  | true =>
      refine ⟨_, ?_, ?_, .inl ⟨rfl, rfl⟩⟩
      · exact writtenAlike_plan rfl id
      · exact id
  | false =>
      refine ⟨_, ?_, ?_, .inr ⟨rfl, _, _, ?_, rfl⟩⟩
      · exact writtenAlike_plan rfl id
      · exact id
      · exact writtenAlike_buffer rfl id

theorem readable_stagedRecord :
  ReadableBuffer stagedRecord
  := by decide

theorem imageSize_insert_fresh {ρ : Type} {F : Format Error ρ} {t : Table ρ} {k : ℕ}
    (hnone : t.lookup k = none) (r : ρ) :
  imageSize F (t.insert k r) = imageSize F t + (F.put r).length
  := by
  have himages := imageSize_insert F t k r
  rw [imageSizeAt, Table.weightAt, hnone] at himages
  exact himages

theorem all_insert_iff {ρ : Type} {P : ρ → Prop} {t : Table ρ} {k : ℕ} {r : ρ}
    (ht : t.All fun _ r => P r) :
  Table.All (fun _ r => P r) (t.insert k r) ↔ P r
  := by
  constructor
  · intro h
    exact h k r (AList.lookup_insert _)
  · intro hr
    exact ht.insert hr

section

variable {p : PlanRequestParams} {d : PathDecision} {s : State}

/-- A direct plan that is stored stays within the bounds exactly when it enters within them. -/
theorem direct_within_iff {plan : TransferPlan} (hwf : WellFormed s) (hs : WrittenWithin s)
    (hdirect : d.eligibility.isDirect = true)
    (hplan : WrittenAlike planFormat (plannedRecord p d) plan)
    (hreadable : ReadablePlan plan → ReadablePlan (plannedRecord p d)) :
  WrittenWithin { s.nextIdLocked.nextIdLocked with plans := s.plans.insert (s.nextId + 1) plan } ↔
    PlanEnters p d s
  := by
  have hbody := length_stateBody s
  have hbody' := length_stateBody
    { s.nextIdLocked.nextIdLocked with plans := s.plans.insert (s.nextId + 1) plan }
  have himages := imageSize_insert_fresh (F := planFormat)
    (hwf.plan_fresh (Nat.lt_succ_self _)) plan
  rw [hplan.length] at himages
  simp only [imageSizes, State.nextIdLocked, himages] at hbody hbody' ⊢
  change _ = 60 + (_ + (_ + (putPlan _).length)) at hbody'
  constructor
  · intro h
    refine ⟨hreadable ((all_insert_iff hs.plans).mp h.plans), ?_, ?_⟩
    · intro hnot
      rw [hdirect] at hnot
      cases hnot
    · have hmax := h.body
      rw [if_pos hdirect]
      omega
  · intro h
    have hmax := h.body
    rw [if_pos hdirect] at hmax
    exact { hs with
      plans := (all_insert_iff hs.plans).mpr (hplan.readable h.readable)
      body := by omega }

/-- A fallback plan that is stored with its staging buffer stays within the bounds exactly when it
enters within them. -/
theorem staged_within_iff {plan : TransferPlan} {t : BufferRecord} {freshness : ℕ}
    (hwf : WellFormed s) (hs : WrittenWithin s) (hdirect : d.eligibility.isDirect = false)
    (hplan : WrittenAlike planFormat (plannedRecord p d) plan)
    (hreadable : ReadablePlan plan → ReadablePlan (plannedRecord p d))
    (ht : WrittenAlike bufferFormat stagedRecord t) :
  WrittenWithin { s with
    nextId := s.nextId + 3
    freshness := freshness
    plans := s.plans.insert (s.nextId + 1) plan
    buffers := s.buffers.insert (s.nextId + 3) t } ↔ PlanEnters p d s
  := by
  have hnone := hwf.buffer_fresh (Nat.lt_add_of_pos_right (by decide : 0 < 3))
  have hdirect' : ¬d.eligibility.isDirect = true := by
    rw [hdirect]
    exact Bool.false_ne_true
  have hinsert := bounded_insert_iff (k := s.nextId + 3) (r := t) hs.buffers
  rw [hnone, Option.isSome_none] at hinsert
  have hbody := length_stateBody s
  have hbody' := length_stateBody { s with
    nextId := s.nextId + 3
    freshness := freshness
    plans := s.plans.insert (s.nextId + 1) plan
    buffers := s.buffers.insert (s.nextId + 3) t }
  have hplans := imageSize_insert_fresh (F := planFormat)
    (hwf.plan_fresh (Nat.lt_succ_self _)) plan
  have hbuffers := imageSize_insert_fresh (F := bufferFormat) hnone t
  rw [hplan.length] at hplans
  rw [ht.length] at hbuffers
  simp only [imageSizes, hplans, hbuffers] at hbody hbody'
  change _ = 60 + (_ + (putBuffer _).length + _ + _ + _ + _ + _ + _ + _ + (_ + (putPlan _).length))
    at hbody'
  constructor
  · intro h
    refine ⟨hreadable ((all_insert_iff hs.plans).mp h.plans), ?_, ?_⟩
    · intro
      exact (hinsert.mp h.buffers).2.resolve_left Bool.false_ne_true
    · have hmax := h.body
      rw [if_neg hdirect']
      omega
  · intro h
    have hmax := h.body
    rw [if_neg hdirect'] at hmax
    exact { hs with
      plans := (all_insert_iff hs.plans).mpr (hplan.readable h.readable)
      buffers := hinsert.mpr ⟨ht.readable readable_stagedRecord, .inr (h.room hdirect)⟩
      body := by omega }

theorem planTransferCommit_within_iff (hwf : WellFormed s) (hs : WrittenWithin s)
    (h : Commits p d s) :
  WrittenWithin (planTransferCommit p d s).2 ↔ PlanEnters p d s
  := by
  obtain ⟨plan, hplan, hreadable, ⟨hdirect, heq⟩ | ⟨hdirect, t, freshness, ht, heq⟩⟩ :=
    planTransferCommit_stores hwf h
  · rw [heq]
    exact direct_within_iff hwf hs hdirect hplan hreadable
  · rw [heq]
    exact staged_within_iff hwf hs hdirect hplan hreadable ht

end

/-! ### Steps -/

/-- What the event stores, if it passes its checks, enters within the bounds. -/
def Event.StaysWithin (e : Event) (s : State) : Prop :=
  match e with
  | .createBuffer p => Event.Passes s (.createBuffer p) →
    Enters bufferFormat s.buffers (s.nextId + 1) (newBuffer p (s.nextId + 1) (s.freshness + 1)) s
  | .addDevice p => Event.Passes s (.addDevice p) →
    Enters deviceFormat s.devices (s.nextId + 1) (newDevice p (s.nextId + 1) (s.freshness + 1)) s
  | .addEndpoint p => Event.Passes s (.addEndpoint p) →
    Enters endpointFormat s.endpoints (s.nextId + 1)
      (newEndpoint p (s.nextId + 1) (s.freshness + 1)) s
  | .addNic rec =>
    Enters nicFormat s.nics (givenId rec.id s) (numberedNic rec s) s
  | .addStorageEndpoint rec =>
    Enters storageEndpointFormat s.storage (givenId rec.id s) (numberedStorageEndpoint rec s) s
  | .addProvider p => p.name.isEmpty = false →
    Enters providerFormat s.providers (providerEntry p s).1 (providerEntry p s).2 s
  | .publishCapability p => Event.Passes s (.publishCapability p) →
    Enters capabilityFormat s.capabilities (capabilityKey p s)
      (newCapability p (s.nextId + 1) (s.freshness + 1)) s
  | .registerBuffer p backend => ∀ b d rr, RegisterAllowed p b d s →
    s.registrations.size < s.maxRegistrations → PairIdle p s →
    backendRegister p backend b d = .ok rr →
    Enters registrationFormat s.registrations (registrationKey rr s)
      (newRegistration p b d (latestRegistration s p.buffer p.endpoint) rr (registrationKey rr s)
        (s.freshness + 1)) s
  | .planCommit p d => Commits p d s → PlanEnters p d s
  | _ => True

/-- A call that is refused keeps the bounds, and one that passes keeps them exactly when what it
stores enters within them. -/
theorem guarded_within_iff {s s' : State} {P Q : Prop} (hs : WrittenWithin s)
    (hrefused : ¬P → s' = s) (hpassed : P → (WrittenWithin s' ↔ Q)) :
  WrittenWithin s' ↔ (P → Q)
  := by
  by_cases hP : P
  · rw [hpassed hP]
    exact ⟨fun hQ _ => hQ, fun h => h hP⟩
  · rw [hrefused hP]
    exact iff_of_true hs fun h => absurd h hP

theorem createBuffer_within_iff {p : CreateBufferParams} {s : State} (hs : WrittenWithin s) :
  WrittenWithin (createBuffer p s).2 ↔ Event.StaysWithin (.createBuffer p) s
  := by
  apply guarded_within_iff hs (createBuffer_guarded p s).refused_state
  intro hpasses
  rw [createBuffer_passed hpasses]
  apply within_iff_enters hs.buffers
  · simp only [imageSizes, State.nextIdLocked, State.nextFreshnessLocked]
    omega
  · exact ⟨fun h => ⟨h.buffers, h.body⟩, fun h => { hs with buffers := h.1, body := h.2 }⟩

theorem addDevice_within_iff {p : DeviceAddParams} {s : State} (hs : WrittenWithin s) :
  WrittenWithin (addDevice p s).2 ↔ Event.StaysWithin (.addDevice p) s
  := by
  apply guarded_within_iff hs (addDevice_guarded p s).refused_state
  intro hpasses
  rw [addDevice_passed hpasses]
  apply within_iff_enters hs.devices
  · simp only [imageSizes, State.nextIdLocked, State.nextFreshnessLocked]
    omega
  · exact ⟨fun h => ⟨h.devices, h.body⟩, fun h => { hs with devices := h.1, body := h.2 }⟩

theorem addEndpoint_within_iff {p : EndpointAddParams} {s : State} (hs : WrittenWithin s) :
  WrittenWithin (addEndpoint p s).2 ↔ Event.StaysWithin (.addEndpoint p) s
  := by
  apply guarded_within_iff hs (addEndpoint_guarded p s).refused_state
  intro hpasses
  rw [addEndpoint_passed hpasses]
  apply within_iff_enters hs.endpoints
  · simp only [imageSizes, State.nextIdLocked, State.nextFreshnessLocked]
    omega
  · exact ⟨fun h => ⟨h.endpoints, h.body⟩, fun h => { hs with endpoints := h.1, body := h.2 }⟩

theorem addNic_within_iff {rec : NicRecord} {s : State} (hs : WrittenWithin s) :
  WrittenWithin (addNic rec s).2 ↔ Event.StaysWithin (.addNic rec) s
  := by
  rw [addNic_state]
  apply within_iff_enters hs.nics
  · simp only [imageSizes, State.nextIdUnless, State.nextFreshnessLocked]
    omega
  · exact ⟨fun h => ⟨h.nics, h.body⟩, fun h => { hs with nics := h.1, body := h.2 }⟩

theorem addStorageEndpoint_within_iff {rec : StorageEndpointRecord} {s : State}
    (hs : WrittenWithin s) :
  WrittenWithin (addStorageEndpoint rec s).2 ↔ Event.StaysWithin (.addStorageEndpoint rec) s
  := by
  rw [addStorageEndpoint_state]
  apply within_iff_enters hs.storage
  · simp only [imageSizes, State.nextIdUnless, State.nextFreshnessLocked]
    omega
  · exact ⟨fun h => ⟨h.storage, h.body⟩, fun h => { hs with storage := h.1, body := h.2 }⟩

theorem addProvider_within_iff {p : ProviderAddParams} {s : State} (hs : WrittenWithin s) :
  WrittenWithin (addProvider p s).2 ↔ Event.StaysWithin (.addProvider p) s
  := by
  apply guarded_within_iff hs
  · intro hname
    rw [addProvider, if_pos (by simpa using hname)]
  intro hname
  obtain ⟨n, heq⟩ := addProvider_passed hname
  rw [heq]
  apply within_iff_enters hs.providers
  · simp only [imageSizes]
    omega
  · exact ⟨fun h => ⟨h.providers, h.body⟩, fun h => { hs with providers := h.1, body := h.2 }⟩

theorem publishCapability_within_iff {p : CapabilityPublishParams} {s : State}
    (hs : WrittenWithin s) :
  WrittenWithin (publishCapability p s).2 ↔ Event.StaysWithin (.publishCapability p) s
  := by
  apply guarded_within_iff hs (publishCapability_guarded p s).refused_state
  intro hpasses
  rw [publishCapability_passed hpasses]
  apply within_iff_enters hs.capabilities
  · simp only [imageSizes, State.nextIdLocked, State.nextFreshnessLocked]
    omega
  · exact ⟨fun h => ⟨h.capabilities, h.body⟩,
      fun h => { hs with capabilities := h.1, body := h.2 }⟩

/-- A registration that is stored stays within the bounds exactly when it enters within them; its
buffer is written as before. -/
theorem acceptRegistration_within_iff {p : RegisterParams} {b : BufferRecord} {d : EndpointRecord}
    {latest : Option Registration} {rr : RegisterResult} {s : State} (hs : WrittenWithin s)
    (hb : s.buffers.lookup p.buffer = some b) :
  WrittenWithin (acceptRegistration p b d latest rr s).2 ↔
    Enters registrationFormat s.registrations (registrationKey rr s)
      (newRegistration p b d latest rr (registrationKey rr s) (s.freshness + 1)) s
  := by
  have hbuffers : ∀ b', WrittenAlike bufferFormat b b' →
      Bounded bufferFormat (s.buffers.insert p.buffer b') := by
    intro b' halike
    exact (SectionKept.modify hb halike).bounded hs.buffers
  have himages : ∀ b', WrittenAlike bufferFormat b b' →
      imageSize bufferFormat (s.buffers.insert p.buffer b') = imageSize bufferFormat s.buffers := by
    intro b' halike
    have himages := imageSize_insert bufferFormat s.buffers p.buffer b'
    rw [imageSizeAt, Table.weightAt_of_lookup hb, halike.length] at himages
    exact Nat.add_right_cancel himages
  apply within_iff_enters hs.registrations
  · simp only [acceptRegistration, storeRegistration, imageSizes, State.nextIdUnless,
      State.nextFreshnessLocked]
    rw [himages]
    · change _ + imageSize registrationFormat (s.registrations.insert (registrationKey rr s) _) + _
        + _ = _
      omega
    · exact writtenAlike_buffer rfl id
  · constructor
    · intro h
      exact ⟨h.registrations, h.body⟩
    · rintro ⟨hregistrations, hbody⟩
      exact { hs with
        registrations := hregistrations
        buffers := hbuffers _ (writtenAlike_buffer rfl id)
        body := hbody }

theorem registerBuffer_within_iff {p : RegisterParams} {backend : Option Backend} {s : State}
    (hwf : WellFormed s) (hs : WrittenWithin s) :
  WrittenWithin (registerBuffer p backend s).2 ↔ Event.StaysWithin (.registerBuffer p backend) s
  := by
  by_cases hstored : ∃ k, StoresUnder p backend k s
  · obtain ⟨k, b, d, rr, hallowed, hroom, hidle, hanswer, -⟩ := hstored
    rw [hallowed.accepts hwf hroom hidle hanswer,
      acceptRegistration_within_iff hs hallowed.buffer]
    constructor
    · intro henters b' d' rr' hallowed' _ _ hanswer'
      obtain rfl := Option.some.inj (hallowed.buffer.symm.trans hallowed'.buffer)
      obtain rfl := Option.some.inj (hallowed.endpoint.symm.trans hallowed'.endpoint)
      obtain rfl := Except.ok.inj (hanswer.symm.trans hanswer')
      exact henters
    · intro h
      exact h b d rr hallowed hroom hidle hanswer
  · rw [(registerBuffer_stored p backend hwf).resolve_right hstored]
    apply iff_of_true hs
    intro b d rr hallowed hroom hidle hanswer
    exact absurd ⟨_, b, d, rr, hallowed, hroom, hidle, hanswer, rfl⟩ hstored

/-- An event that recovers nothing keeps the bounds exactly when it stays within them. -/
theorem within_apply_iff {setting : Setting} {w : World} {e : Event}
    (hallowed : e.Allowed setting w) (hrecover : ∀ file, e ≠ .recover file)
    (hwf : WellFormed w.state) (hs : WrittenWithin w.state) :
  WrittenWithin (apply e w.state) ↔ e.StaysWithin w.state
  := by
  cases hwrites : e.Writes with
  | false =>
      apply iff_of_true ((hallowed.effect.sectionsKept hwrites).within hs)
      cases e with
      | createBuffer | addDevice | addEndpoint | addNic | addStorageEndpoint | addProvider
      | publishCapability | registerBuffer | planCommit | recover => cases hwrites
      | _ => trivial
  | true =>
      cases e with
      | createBuffer p => exact createBuffer_within_iff hs
      | addDevice p => exact addDevice_within_iff hs
      | addEndpoint p => exact addEndpoint_within_iff hs
      | addNic rec => exact addNic_within_iff hs
      | addStorageEndpoint rec => exact addStorageEndpoint_within_iff hs
      | addProvider p => exact addProvider_within_iff hs
      | publishCapability p => exact publishCapability_within_iff hs
      | registerBuffer p backend => exact registerBuffer_within_iff hwf hs
      | planCommit p d =>
          exact guarded_within_iff hs (planTransferCommit_of_not_commits hwf)
            (planTransferCommit_within_iff hwf hs)
      | recover file => exact absurd rfl (hrecover file)
      | _ => cases hwrites

/-! ### Runs -/

theorem within_new (epoch : CoordinatorEpoch) :
  WrittenWithin (Coordinator epoch)
  := by
  refine ⟨⟨⟨bounded_empty _, bounded_empty _, bounded_empty _, bounded_empty _, bounded_empty _,
    bounded_empty _, bounded_empty _, bounded_empty _⟩, ?_⟩, .empty⟩
  have hsizes : imageSizes (Coordinator epoch) = 0 := rfl
  rw [length_stateBody, hsizes]
  decide

/-- In every run, every state is within the bounds exactly when every step stays within them; a
recovery always does. -/
theorem fabric_within_iff {h : List (World × Event)} {w : World}
    (hrun : persistedFabric.Run h w) :
  (∀ v ∈ System.visited h w, WrittenWithin v.state) ↔ ∀ p ∈ h, p.2.StaysWithin p.1.state
  := by
  refine hrun.invariant_iff (P := fun w : World => WrittenWithin w.state)
    (C := fun w e => e.StaysWithin w.state) ?_ ?_ ?_
  · rintro w ⟨epoch, rfl⟩
    exact within_new epoch
  · rintro w e w' hw hs ⟨hallowed, rfl⟩
    apply within_apply_iff hallowed _ (wellFormed_of_reachable hw) hs
    rintro file rfl
    exact absurd hallowed.1 Bool.false_ne_true
  · rintro d w e w' - - hs ⟨hfits, -, rfl, rfl⟩
    refine iff_of_true ?_ trivial
    rw [World.next_state, apply]
    exact within_recovered hfits hs

/-- What the call of the event stores, if it passes its checks, enters within the bounds. -/
def ServerEvent.StaysWithin (e : ServerEvent) (v : Server) : Prop :=
  ∀ call, e.calls v = some call → call.StaysWithin v.world.state

theorem server_within_iff {h : List (Server × ServerEvent)} {v : Server} (hrun : server.Run h v) :
  (∀ u ∈ System.visited h v, WrittenWithin u.world.state) ↔ ∀ p ∈ h, p.2.StaysWithin p.1
  := by
  refine hrun.invariant_iff (P := fun v : Server => WrittenWithin v.world.state)
    (C := fun v e => e.StaysWithin v) ?_ ?_ ?_
  · rintro v ⟨⟨epoch, hv⟩, -⟩
    rw [hv]
    exact within_new epoch
  · rintro v e v' hv hs ⟨he, rfl⟩
    have hreachable : persistedFabric.Reachable v.world :=
      reachable_of_process (fun _ hnew => ⟨[], .start hnew⟩) (Server.reachable_world hv)
    rw [Server.next_world he, ServerEvent.StaysWithin]
    cases hcall : e.calls v with
    | none => exact iff_of_true hs fun call h => by cases h
    | some call =>
        obtain ⟨hrecover, hallowed⟩ := Server.allowed_of_calls he hcall
        have hiff := within_apply_iff hallowed hrecover (wellFormed_of_reachable hreachable) hs
        apply hiff.trans
        constructor
        · intro h call' hcall'
          obtain rfl := Option.some.inj hcall'
          exact h
        · intro h
          exact h call rfl
  · rintro d v e v' _ _ _ ⟨⟩

/-- Within the bounds, only the plans can make a recovery fail. -/
theorem Persistence.WrittenWithin.reaches_plans {d : State} (h : WrittenWithin d) (hfits : d.Fits)
    (out : State) :
  recoverFromFile (persistToFile d) out
    = (recoverPlans (putSection planFormat TransferPlan.id d.plans)
        (restoreRegistries d
          { epoch := d.epoch, nextId := d.nextId, freshness := d.freshness })).map
      (Except.map fun _ => ()) id
  := by
  obtain ⟨-, heq⟩ | ⟨hnot, -⟩ := recoverFromFile_persistToFile hfits out
  · exact heq
  · exact absurd h.toRegistriesWithin hnot

/-- In every run of coordinators, and in every run of a server, every state is within the bounds
exactly when every step stays within them; and from within the bounds a recovery of the persisted
file gets to the section of the plans. -/
theorem writer_within_bounds_iff {h : List (World × Event)} {w : World}
    (hrun : persistedFabric.Run h w) {g : List (Server × ServerEvent)} {v : Server}
    (hserver : server.Run g v) (d out : State) :
  ((∀ u ∈ System.visited h w, WrittenWithin u.state) ↔ ∀ p ∈ h, p.2.StaysWithin p.1.state) ∧
  ((∀ u ∈ System.visited g v, WrittenWithin u.world.state) ↔ ∀ p ∈ g, p.2.StaysWithin p.1) ∧
  (d.Fits → WrittenWithin d →
    recoverFromFile (persistToFile d) out
      = (recoverPlans (putSection planFormat TransferPlan.id d.plans)
          (restoreRegistries d
            { epoch := d.epoch, nextId := d.nextId, freshness := d.freshness })).map
        (Except.map fun _ => ()) id)
  := ⟨fabric_within_iff hrun, server_within_iff hserver,
    fun hfits hwithin => hwithin.reaches_plans hfits out⟩

namespace Fixture

/-- The device of a worker that sends a byte for its support that no enumerator has. -/
def unnamedSupport : Frame :=
  { type := .publishDevice, payload := [0, 0, 0, 0, 0, 0, 0, 0, 0, 200, 0] }

/-- The server after that message. -/
def miscast : Server := connected.next (.message 0 unnamedSupport true)

/-- The run that leads there. -/
def miscasting : List (Server × ServerEvent) :=
  [(connected, .message 0 unnamedSupport true),
    ({ world := { state := Coordinator 1 } }, .handshake (hello 1))]

theorem run_miscasting :
  server.Run miscasting miscast
  := by
  have hconnected := Server.run_next (Server.run_new 1) (e := .handshake (hello 1)) trivial
  exact Server.run_next hconnected ⟨_, connected_connection, rfl⟩

theorem not_within_miscast :
  ¬RegistriesWithin miscast.world.state
  := by
  intro h
  have hunreadable : ¬∀ d ∈ miscast.world.state.devices.values, ReadableDevice d := by
    decide +kernel
  exact hunreadable h.devices.readable

/-- The coordinator to which a device has been added, and its run. -/
def supplied : World := ({ state := Coordinator 1 } : World).next (.addDevice { name := "gpu0" })

def supplying : List (World × Event) :=
  [({ state := Coordinator 1 }, .addDevice { name := "gpu0" })]

theorem run_supplying :
  persistedFabric.Run supplying supplied
  := .step (.start ⟨1, rfl⟩) ⟨trivial, rfl⟩

theorem staysWithin_supplying :
  ∀ p ∈ supplying, p.2.StaysWithin p.1.state
  := by
  intro p hp
  obtain rfl := List.mem_singleton.mp hp
  intro _
  constructor
  · decide
  · right
    decide
  · decide +kernel

end Fixture

/-- The step that adds a device stays within the bounds, and so does the state it leads to; a step
of the other run does not. -/
theorem writer_within_bounds_fixture :
  WrittenWithin Fixture.supplied.state ∧
  ¬(∀ p ∈ Fixture.miscasting, p.2.StaysWithin p.1) ∧
  ∀ out, recoverFromFile (persistToFile Fixture.supplied.state) out
    = (recoverPlans (putSection planFormat TransferPlan.id Fixture.supplied.state.plans)
        (restoreRegistries Fixture.supplied.state
          { epoch := Fixture.supplied.state.epoch
            nextId := Fixture.supplied.state.nextId
            freshness := Fixture.supplied.state.freshness })).map
      (Except.map fun _ => ()) id
  := by
  have hbounds := writer_within_bounds_iff Fixture.run_supplying Fixture.run_miscasting
    Fixture.supplied.state
  have hwithin := (hbounds {}).1.mpr Fixture.staysWithin_supplying _ (.head _)
  refine ⟨hwithin, ?_, ?_⟩
  · intro hstays
    have hmiscast := (hbounds {}).2.1.mpr hstays _ (.head _)
    apply Fixture.not_within_miscast hmiscast.toRegistriesWithin
  · intro out
    apply (hbounds out).2.2 _ hwithin
    decide +kernel

/-- The byte is stored and written, and the file is rejected. -/
theorem unnamed_support_rejected :
  server.Reachable Fixture.miscast ∧ Fixture.miscast.world.state.Fits ∧
  ¬WrittenWithin Fixture.miscast.world.state ∧
  ∀ out, ∃ e s, recoverFromFile (persistToFile Fixture.miscast.world.state) out = (.error e, s)
  := by
  have hfits : Fixture.miscast.world.state.Fits := by decide +kernel
  have hnot := Fixture.not_within_miscast
  refine ⟨⟨_, Fixture.run_miscasting⟩, hfits, fun h => hnot h.toRegistriesWithin, fun out => ?_⟩
  obtain ⟨hwithin, -⟩ | ⟨-, e, s, heq⟩ := recoverFromFile_persistToFile hfits out
  · exact absurd hwithin hnot
  · exact ⟨e, s, heq⟩

end GpuDirectFabric
