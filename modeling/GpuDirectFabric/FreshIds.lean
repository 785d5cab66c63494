import GpuDirectFabric.Integrity
import GpuDirectFabric.Messages
import GpuDirectFabric.Stages

/-!
# Fresh ids

One counter gives ids to the records of eight tables.  It bounds all their keys, so that a record
that is created is stored under a key that was not used, and takes no other record's place.
-/

namespace GpuDirectFabric

open Coordinator Persistence

/-! ### Drawn keys -/

/-- The devices, providers and capabilities have keys and ids that have been drawn. -/
structure RegistriesDrawn (s : State) : Prop where
  devices : s.devices.All fun k d => k ≤ s.nextId ∧ d.id ≤ s.nextId
  providers : s.providers.All fun k v => k ≤ s.nextId ∧ v.id ≤ s.nextId
  capabilities : s.capabilities.All fun k c => k ≤ s.nextId ∧ c.id ≤ s.nextId

namespace RegistriesDrawn

variable {s s' : State}

/-- Ids may be drawn. -/
theorem nextId {n : ℕ} (h : RegistriesDrawn s) (hn : s.nextId ≤ n) :
  RegistriesDrawn { s with nextId := n }
  where
  devices := h.devices.mono fun _ _ hd => ⟨hd.1.trans hn, hd.2.trans hn⟩
  providers := h.providers.mono fun _ _ hv => ⟨hv.1.trans hn, hv.2.trans hn⟩
  capabilities := h.capabilities.mono fun _ _ hc => ⟨hc.1.trans hn, hc.2.trans hn⟩

theorem effect {e : Event} (h : RegistriesDrawn s) (he : Effect e s s')
    (hrecover : ∀ file, e ≠ .recover file) :
  RegistriesDrawn s'
  := by
  have hnext := h.nextId (Nat.le_succ s.nextId)
  cases he with
  | createBuffer => exact { hnext with }
  | addDevice => exact { hnext with devices := hnext.devices.insert ⟨le_rfl, le_rfl⟩ }
  | addEndpoint => exact { hnext with }
  | addNic => exact { h.nextId (s.le_nextIdUnless _) with }
  | addStorageEndpoint => exact { h.nextId (s.le_nextIdUnless _) with }
  | updateProvider hv =>
      exact { h with providers := h.providers.modify hv id }
  | addProvider => exact { hnext with providers := hnext.providers.insert ⟨le_rfl, le_rfl⟩ }
  | publishCapability hk =>
      obtain rfl | ⟨c, hc⟩ := hk
      · exact { hnext with capabilities := hnext.capabilities.insert ⟨le_rfl, le_rfl⟩ }
      · exact { hnext with
          capabilities := hnext.capabilities.insert ⟨(hnext.capabilities _ _ hc).1, le_rfl⟩ }
  | revokeCapability => exact { h with capabilities := h.capabilities.erase }
  | registerBuffer haccepted hretired =>
      obtain ⟨_, rfl⟩ := hretired.frame
      exact { h.nextId (s.le_nextIdUnless _) with }
  | planDirect => exact { h.nextId (Nat.le_add_right s.nextId 2) with }
  | planFallback => exact { h.nextId (Nat.le_add_right s.nextId 3) with }
  | beginTransfer => exact { hnext with }
  | completeTransfer _ hn => exact { h.nextId hn with }
  | verifyTransfer => exact { hnext with }
  | rehash hs =>
      constructor
      · intro k d hd
        rw [hs.devices.lookup] at hd
        rw [hs.nextId]
        exact h.devices k d hd
      · intro k v hv
        rw [hs.providers.lookup] at hv
        rw [hs.nextId]
        exact h.providers k v hv
      · intro k c hc
        rw [hs.capabilities.lookup] at hc
        rw [hs.nextId]
        exact h.capabilities k c hc
  | recover => exact absurd rfl (hrecover _)
  | _ => exact { h with }

/-- Records are recovered under their ids, which had been drawn. -/
theorem drawn_recovered {ρ : Type} {id : ρ → ℕ} {recovered : ρ → ρ} {t t' : Table ρ} {n : ℕ}
    (h : t.All fun k r => k ≤ n ∧ id r ≤ n) (ht' : t'.All (FromRecord id recovered t.values))
    (hid : ∀ r, id (recovered r) = id r) :
  t'.All fun k r => k ≤ n ∧ id r ≤ n
  := by
  rintro k r' hr'
  obtain ⟨r, hr, rfl, rfl⟩ := ht' k r' hr'
  obtain ⟨k', hk'⟩ := Table.mem_values.mp hr
  have hdrawn := (h k' r hk').2
  rw [hid]
  exact ⟨hdrawn, hdrawn⟩

theorem recovered {d : State} (h : RegistriesDrawn d) (hs : RecoveredFrom d s) :
  RegistriesDrawn s
  := by
  constructor
  · rw [hs.nextId]
    exact drawn_recovered h.devices hs.devices fun _ => rfl
  · rw [hs.nextId]
    exact drawn_recovered h.providers hs.providers fun _ => rfl
  · rw [hs.nextId]
    exact drawn_recovered h.capabilities hs.capabilities fun _ => rfl

end RegistriesDrawn

/-- The keys of the eight tables have been drawn. -/
structure KeysDrawn (s : State) : Prop where
  buffers : s.buffers.All fun k _ => k ≤ s.nextId
  devices : s.devices.All fun k _ => k ≤ s.nextId
  endpoints : s.endpoints.All fun k _ => k ≤ s.nextId
  providers : s.providers.All fun k _ => k ≤ s.nextId
  capabilities : s.capabilities.All fun k _ => k ≤ s.nextId
  plans : s.plans.All fun k _ => k ≤ s.nextId
  attempts : s.attempts.All fun k _ => k ≤ s.nextId
  verifications : s.verifications.All fun k _ => k ≤ s.nextId

theorem keysDrawn_of_reachable {w : World} (h : persistedFabric.Reachable w) :
  KeysDrawn w.state
  := by
  obtain ⟨hwf, hdrawn⟩ := persistedFabric_invariant (P := RegistriesDrawn)
    (fun _ => ⟨.empty, .empty, .empty⟩) (fun _ _ _ hP he hrecover => hP.effect he hrecover)
    (fun _ _ hP hs => hP.recovered hs) h
  exact ⟨hwf.buffers.mono fun _ _ hb => hb.2, hdrawn.devices.mono fun _ _ hd => hd.1,
    hwf.endpoints.mono fun _ _ he => he.2, hdrawn.providers.mono fun _ _ hv => hv.1,
    hdrawn.capabilities.mono fun _ _ hc => hc.1, hwf.plans.mono fun _ _ hp => hp.2.1,
    hwf.attempts.mono fun _ _ ha => ha.2.1, (accounted_of_reachable h).drawn⟩

/-! ### Creations -/

/-- The value `v` is added to the table under the key `k`, which was not used. -/
def AddsFresh {V : Type} (t t' : Table V) (k : ℕ) (v : V) : Prop :=
  t.lookup k = none ∧ t' = t.insert k v

theorem addsFresh_of_drawn {V : Type} {t : Table V} {n k : ℕ} {v : V} (h : t.All fun k _ => k ≤ n)
    (hk : n < k) :
  AddsFresh t (t.insert k v) k v
  := by
  refine ⟨?_, rfl⟩
  apply Option.eq_none_iff_forall_ne_some.mpr
  intro v' hv'
  exact absurd (h k v' hv') (not_le.mpr hk)

/-- No record of the table is replaced or lost. -/
def Keeps {V : Type} (t t' : Table V) : Prop := t.All fun k v => t'.lookup k = some v

theorem Keeps.refl {V : Type} (t : Table V) :
  Keeps t t
  := fun _ _ h => h

theorem AddsFresh.keeps {V : Type} {t t' : Table V} {k : ℕ} {v : V} (h : AddsFresh t t' k v) :
  Keeps t t'
  := by
  obtain ⟨hnone, rfl⟩ := h
  intro k' v' hv'
  rw [AList.lookup_insert_ne]
  · exact hv'
  · rintro rfl
    cases hnone.symm.trans hv'

/-- No record of the tables but that of the attempts is replaced or lost. -/
structure RegistriesKept (s s' : State) : Prop where
  buffers : Keeps s.buffers s'.buffers
  devices : Keeps s.devices s'.devices
  endpoints : Keeps s.endpoints s'.endpoints
  providers : Keeps s.providers s'.providers
  capabilities : Keeps s.capabilities s'.capabilities
  plans : Keeps s.plans s'.plans
  verifications : Keeps s.verifications s'.verifications

/-- No record of the eight tables is replaced or lost. -/
structure AllKept (s s' : State) : Prop extends RegistriesKept s s' where
  attempts : Keeps s.attempts s'.attempts

theorem AllKept.refl (s : State) :
  AllKept s s
  := ⟨⟨.refl _, .refl _, .refl _, .refl _, .refl _, .refl _, .refl _⟩, .refl _⟩

/-- The operations that create a record store it under a key that was not used, and keep all
others. -/
structure CreatesSafely (s : State) : Prop where
  createBuffer : ∀ p b, (createBuffer p s).1 = .ok b →
    AddsFresh s.buffers (createBuffer p s).2.buffers b.id b ∧ AllKept s (createBuffer p s).2
  addDevice : ∀ p d, (addDevice p s).1 = .ok d →
    AddsFresh s.devices (addDevice p s).2.devices d.id d ∧ AllKept s (addDevice p s).2
  addEndpoint : ∀ p e, (addEndpoint p s).1 = .ok e →
    AddsFresh s.endpoints (addEndpoint p s).2.endpoints e.id e ∧ AllKept s (addEndpoint p s).2
  addProvider : ∀ p v, (addProvider p s).1 = .ok v →
    (∀ k v', s.providers.lookup k = some v' → v'.name ≠ p.name) →
    AddsFresh s.providers (addProvider p s).2.providers v.id v ∧ AllKept s (addProvider p s).2
  publishCapability : ∀ p c, (publishCapability p s).1 = .ok c →
    (∀ k c', s.capabilities.lookup k = some c' →
      ¬(c'.provider = p.provider ∧ c'.capability = p.capability)) →
    AddsFresh s.capabilities (publishCapability p s).2.capabilities c.id c ∧
      AllKept s (publishCapability p s).2
  planTransfer : ∀ p d plan, (planTransferCommit p d s).1 = .ok plan →
    AddsFresh s.plans (planTransferCommit p d s).2.plans plan.id plan ∧
      AllKept s (planTransferCommit p d s).2 ∧
      (plan.copyCount = 2 → ∃ tmp t, (∃ a b, plan.stages = [a, b] ∧ a.dst = tmp) ∧
        AddsFresh s.buffers (planTransferCommit p d s).2.buffers tmp t)
  beginTransfer : ∀ planId caller backend a, (beginTransfer planId caller backend s).1 = .ok a →
    AddsFresh s.attempts (beginTransfer planId caller backend s).2.attempts a.id a ∧
      AllKept s (beginTransfer planId caller backend s).2
  verifyTransfer : ∀ id passed n vr, (verifyTransfer id passed n s).1 = .ok vr →
    AddsFresh s.verifications (verifyTransfer id passed n s).2.verifications vr.id vr ∧
      AllKept s (verifyTransfer id passed n s).2
  completeTransfer : ∀ id caller,
    ((completeTransfer id caller s).2.verifications = s.verifications ∨
      ∃ vr, AddsFresh s.verifications (completeTransfer id caller s).2.verifications vr.id vr) ∧
    RegistriesKept s (completeTransfer id caller s).2

theorem createBuffer_ok {p : CreateBufferParams} {s : State} {b : BufferRecord}
    (h : (createBuffer p s).1 = .ok b) :
  b.id = s.nextId + 1 ∧
    (createBuffer p s).2 = { s.nextIdLocked.nextFreshnessLocked with
      buffers := s.buffers.insert (s.nextId + 1) b }
  := by
  have hpasses := (createBuffer_guarded p s).of_ok h
  rw [createBuffer_passed hpasses] at h ⊢
  obtain rfl := Except.ok.inj h
  exact ⟨rfl, rfl⟩

theorem addDevice_ok {p : DeviceAddParams} {s : State} {d : DeviceRecord}
    (h : (addDevice p s).1 = .ok d) :
  d.id = s.nextId + 1 ∧
    (addDevice p s).2 = { s.nextIdLocked.nextFreshnessLocked with
      devices := s.devices.insert (s.nextId + 1) d }
  := by
  have hpasses := (addDevice_guarded p s).of_ok h
  rw [addDevice_passed hpasses] at h ⊢
  obtain rfl := Except.ok.inj h
  exact ⟨rfl, rfl⟩

theorem addEndpoint_ok {p : EndpointAddParams} {s : State} {e : EndpointRecord}
    (h : (addEndpoint p s).1 = .ok e) :
  e.id = s.nextId + 1 ∧
    (addEndpoint p s).2 = { s.nextIdLocked.nextFreshnessLocked with
      endpoints := s.endpoints.insert (s.nextId + 1) e }
  := by
  have hpasses := (addEndpoint_guarded p s).of_ok h
  rw [addEndpoint_passed hpasses] at h ⊢
  obtain rfl := Except.ok.inj h
  exact ⟨rfl, rfl⟩

theorem findEntry_eq_none {V : Type} {p : V → Bool} {t : Table V}
    (h : ∀ k v, t.lookup k = some v → p v = false) :
  findEntry p t = none
  := by
  rw [findEntry, Option.map_eq_none_iff, List.find?_eq_none]
  rintro ⟨k, v⟩ hmem
  rw [← AList.mem_lookup_iff] at hmem
  simp [h k v hmem]

/-- A provider of a new name gets a new id. -/
theorem addProvider_ok {p : ProviderAddParams} {s : State} {v : ProviderInfo}
    (h : (addProvider p s).1 = .ok v)
    (hnew : ∀ k v', s.providers.lookup k = some v' → v'.name ≠ p.name) :
  v.id = s.nextId + 1 ∧
    (addProvider p s).2 = { s.nextIdLocked with
      providers := s.providers.insert (s.nextId + 1) v }
  := by
  have hnone : findEntry (fun v : ProviderInfo => v.name = p.name) s.providers = none := by
    apply findEntry_eq_none
    intro k v' hv'
    exact decide_eq_false (hnew k v' hv')
  rw [addProvider] at h ⊢
  obtain ⟨hname, h⟩ := ok_of_check h
  rw [if_neg hname, hnone]
  rw [hnone] at h
  obtain rfl := Except.ok.inj h
  exact ⟨rfl, rfl⟩

/-- A capability that is not published yet gets a new id as its key. -/
theorem publishCapability_ok {p : CapabilityPublishParams} {s : State}
    {c : CapabilityObservation} (h : (publishCapability p s).1 = .ok c)
    (hnew : ∀ k c', s.capabilities.lookup k = some c' →
      ¬(c'.provider = p.provider ∧ c'.capability = p.capability)) :
  c.id = s.nextId + 1 ∧
    (publishCapability p s).2 = { s.nextIdLocked.nextFreshnessLocked with
      capabilities := s.capabilities.insert (s.nextId + 1) c }
  := by
  have hnone : findEntry (fun v : CapabilityObservation =>
      v.provider = p.provider && v.capability = p.capability) s.capabilities = none := by
    apply findEntry_eq_none
    intro k c' hc'
    rw [← Bool.not_eq_true]
    simpa using hnew k c' hc'
  rw [publishCapability] at h ⊢
  obtain ⟨hlive, h⟩ := ok_of_check h
  rw [if_neg hlive]
  dsimp only [State.nextIdLocked, State.nextFreshnessLocked] at h ⊢
  rw [hnone]
  rw [hnone] at h
  obtain rfl := Except.ok.inj h
  exact ⟨rfl, rfl⟩

theorem verifyTransfer_ok {id : TransferAttemptId} {passed : Bool} {n : ℕ} {s : State}
    {vr : VerificationReceipt} (h : (verifyTransfer id passed n s).1 = .ok vr) :
  vr.id = s.nextId + 1 ∧
    (verifyTransfer id passed n s).2 = { s.nextIdLocked with
      verifications := s.verifications.insert (s.nextId + 1) vr }
  := by
  rw [verifyTransfer] at h ⊢
  cases hattempt : s.attempts.lookup id with
  | none =>
      rw [hattempt] at h
      cases h
  | some a =>
      rw [hattempt] at h
      obtain rfl := Except.ok.inj h
      exact ⟨rfl, rfl⟩

/-- A commit stores the plan under a new id, and the staging buffer of a plan with two copies under
another. -/
theorem planTransferCommit_ok {p : PlanRequestParams} {d : PathDecision} {s : State}
    {plan : TransferPlan} (h : (planTransferCommit p d s).1 = .ok plan) :
  plan.id = s.nextId + 1 ∧
    (plan.copyCount = 1 ∧
        (planTransferCommit p d s).2 = { s.nextIdLocked.nextIdLocked with
          plans := s.plans.insert (s.nextId + 1) plan } ∨
      ∃ t freshness, (∃ a b, plan.stages = [a, b] ∧ a.dst = s.nextId + 3) ∧
        (planTransferCommit p d s).2 = { s with
          nextId := s.nextId + 3
          freshness := freshness
          plans := s.plans.insert (s.nextId + 1) plan
          buffers := s.buffers.insert (s.nextId + 3) t })
  := by
  obtain ⟨e, heq⟩ | ⟨src, dst, -, -, -, -, -, -, heq⟩ := planTransferCommit_cases p d s
  · rw [heq] at h
    cases h
  · rw [heq, storePlan] at h ⊢
    split at h
    next hdirect =>
      rw [if_pos hdirect]
      obtain rfl := Except.ok.inj h
      exact ⟨rfl, .inl ⟨rfl, rfl⟩⟩
    next hdirect =>
      rw [if_neg hdirect]
      obtain rfl := Except.ok.inj h
      refine ⟨rfl, .inr ⟨_, _, ⟨_, _, rfl, rfl⟩, rfl⟩⟩

/-- A completion stores at most a verification receipt, under a new id, besides the attempt and its
receipt. -/
theorem completeTransfer_tables (id : TransferAttemptId) (caller : Authority) (s : State) :
  ∃ attempts receipts, (completeTransfer id caller s).2
      = { s with attempts := attempts, receipts := receipts } ∨
    ∃ vr : VerificationReceipt, vr.id = s.nextId + 1 ∧ (completeTransfer id caller s).2
      = { s.nextIdLocked with
          attempts := attempts
          receipts := receipts
          verifications := s.verifications.insert (s.nextId + 1) vr }
  := by
  have houtcome := completeTransfer_outcome id caller s
  generalize completeTransfer id caller s = call at houtcome
  cases houtcome with
  | kept => exact ⟨_, _, .inl rfl⟩
  | reported => exact ⟨_, _, .inl rfl⟩
  | @decided a h =>
      by_cases hcorrupt : a.Corrupt
      · rw [finishAttempt_corrupt hcorrupt]
        exact ⟨_, _, .inr ⟨_, rfl, rfl⟩⟩
      · rw [finishAttempt_finished hcorrupt]
        dsimp only
        split
        · exact ⟨_, _, .inr ⟨_, rfl, rfl⟩⟩
        · exact ⟨_, _, .inl rfl⟩

/-- In every reachable state, also of coordinators that recovered what coordinators persisted, the
keys of the eight tables have been drawn from the counter, and records are created under keys that
were not used, at no other record's expense. -/
theorem fresh_ids {w : World} (h : persistedFabric.Reachable w) :
  KeysDrawn w.state ∧ CreatesSafely w.state
  := by
  have hdrawn := keysDrawn_of_reachable h
  have hkept := AllKept.refl w.state
  have hone : w.state.nextId < w.state.nextId + 1 := Nat.lt_succ_self _
  refine ⟨hdrawn, ?_, ?_, ?_, ?_, ?_, ?_, ?_, ?_, ?_⟩
  · intro p b hok
    obtain ⟨hid, heq⟩ := createBuffer_ok hok
    have hadds := addsFresh_of_drawn (v := b) hdrawn.buffers hone
    rw [hid, heq]
    exact ⟨hadds, { hkept with buffers := hadds.keeps }⟩
  · intro p d hok
    obtain ⟨hid, heq⟩ := addDevice_ok hok
    have hadds := addsFresh_of_drawn (v := d) hdrawn.devices hone
    rw [hid, heq]
    exact ⟨hadds, { hkept with devices := hadds.keeps }⟩
  · intro p e hok
    obtain ⟨hid, heq⟩ := addEndpoint_ok hok
    have hadds := addsFresh_of_drawn (v := e) hdrawn.endpoints hone
    rw [hid, heq]
    exact ⟨hadds, { hkept with endpoints := hadds.keeps }⟩
  · intro p v hok hnew
    obtain ⟨hid, heq⟩ := addProvider_ok hok hnew
    have hadds := addsFresh_of_drawn (v := v) hdrawn.providers hone
    rw [hid, heq]
    exact ⟨hadds, { hkept with providers := hadds.keeps }⟩
  · intro p c hok hnew
    obtain ⟨hid, heq⟩ := publishCapability_ok hok hnew
    have hadds := addsFresh_of_drawn (v := c) hdrawn.capabilities hone
    rw [hid, heq]
    exact ⟨hadds, { hkept with capabilities := hadds.keeps }⟩
  · intro p d plan hok
    obtain ⟨hid, ⟨hcopies, heq⟩ | ⟨t, freshness, hstages, heq⟩⟩ := planTransferCommit_ok hok
    · have hadds := addsFresh_of_drawn (v := plan) hdrawn.plans hone
      rw [hid, heq]
      refine ⟨hadds, { hkept with plans := hadds.keeps }, ?_⟩
      intro htwo
      rw [hcopies] at htwo
      cases htwo
    · have hthree : w.state.nextId < w.state.nextId + 3 := Nat.lt_add_of_pos_right (by decide)
      have hadds := addsFresh_of_drawn (v := plan) hdrawn.plans hone
      have haddsBuffer := addsFresh_of_drawn (v := t) hdrawn.buffers hthree
      rw [hid, heq]
      refine ⟨hadds, { hkept with plans := hadds.keeps, buffers := haddsBuffer.keeps }, ?_⟩
      intro
      exact ⟨_, t, hstages, haddsBuffer⟩
  · intro planId caller backend a hok
    obtain ⟨plan, hbegins⟩ := begins_of_ok hok
    have hadds := addsFresh_of_drawn (v := a) hdrawn.attempts hone
    rw [hbegins.result, hbegins.id]
    exact ⟨hadds, { hkept with attempts := hadds.keeps }⟩
  · intro id passed n vr hok
    obtain ⟨hid, heq⟩ := verifyTransfer_ok hok
    have hadds := addsFresh_of_drawn (v := vr) hdrawn.verifications hone
    rw [hid, heq]
    exact ⟨hadds, { hkept with verifications := hadds.keeps }⟩
  · intro id caller
    obtain ⟨attempts, receipts, heq | ⟨vr, hid, heq⟩⟩ := completeTransfer_tables id caller w.state
    · rw [heq]
      exact ⟨.inl rfl, { hkept.toRegistriesKept with }⟩
    · have hadds := addsFresh_of_drawn (v := vr) hdrawn.verifications hone
      rw [heq]
      refine ⟨.inr ⟨vr, ?_⟩, { hkept.toRegistriesKept with verifications := hadds.keeps }⟩
      rw [hid]
      exact hadds

theorem fresh_ids_fixture :
  KeysDrawn Fixture.fallback.state ∧ CreatesSafely Fixture.fallback.state
  := fresh_ids (Fixture.reachable_fallback _)

end GpuDirectFabric
