import GpuDirectFabric.ImageSizes

/-!
# The sizes of what is recovered

Whatever the file, the registries a recovery leaves are within the bounds the reader checks, also
when it fails part-way.  From a persisted file it leaves no more than that file holds.
-/

namespace GpuDirectFabric

open Codec Coordinator

namespace Persistence

/-! ### Records -/

theorem writtenAlike_recovered_registration (r : Registration) :
  WrittenAlike registrationFormat r (recoveredRegistration r)
  := by
  apply writtenAlike_registration
  · rfl
  · rintro ⟨hstate, hrest⟩
    refine ⟨?_, hrest⟩
    change CEnum.InRange (recoveredState r.state)
    rw [recoveredState]
    split
    · exact inRange_revalidationRequired
    · exact hstate

/-- An exact reader whose records are written alike once recovered returns readable ones. -/
theorem returns_readable {ρ : Type} {F : Format Error ρ} (hexact : F.Exact)
    (halike : ∀ r, WrittenAlike F r (F.recovered r)) :
  F.read.Returns F.Readable
  := by
  refine Reader.Accepts.returns (P := fun r => F.Readable r) hexact ?_
  rintro _ _ ⟨r, ⟨-, hreadable⟩, rfl, -⟩
  exact (halike r).readable hreadable

/-! ### Sections -/

section

variable {ρ : Type} {F : Format Error ρ} {id : ρ → ℕ}

theorem boundedCount_returns (bound : ℕ) (message : Str) :
  (boundedCount bound message).Returns fun n => n ≤ bound
  := (accepts_boundedCount message).returns fun _ _ h => h.1

/-- What is read from a section, on any input, is within the bounds. -/
theorem recoverSection_bounded {update : (Table ρ → Table ρ) → State → State} {P : State → Prop}
    (message : Str) (hread : F.read.Returns F.Readable)
    (hupdate : ∀ f g s, update f (update g s) = update (fun t => f (g t)) s)
    (hP : ∀ t, Bounded F t → ∀ s, P s → P (update (fun _ => t) s)) :
  (recoverSection F id update message).Keeps P
  := by
  refine .lift_bind (boundedCount_returns maxCount message) fun cnt hcnt => ?_
  intro bs s hs
  rw [Decoder.bind_ok (Decoder.modify_apply _ _ _)]
  have hstored : ∃ t, (Decoder.storeMany F.read (fun r => update fun t => t.insert (id r) r) cnt bs
      (update (fun _ => ∅) s)).2 = update (fun _ => t) s ∧ Table.size t ≤ 0 + cnt ∧
      t.All fun _ r => F.Readable r := by
    apply Decoder.storeMany_counted (P := fun m s' => ∃ t, s' = update (fun _ => t) s ∧
      Table.size t ≤ m ∧ t.All fun _ r => F.Readable r) hread
    · rintro m s' ⟨t, heq, hsize, ht⟩
      exact ⟨t, heq, hsize.trans (Nat.le_succ m), ht⟩
    · rintro r hr m _ ⟨t, rfl, hsize, ht⟩
      refine ⟨t.insert (id r) r, hupdate _ _ s, ?_, ht.insert hr⟩
      exact Table.size_insert_le (Nat.lt_succ_of_le hsize) _ _
    · exact ⟨∅, rfl, le_rfl, .empty⟩
  obtain ⟨t, heq, hsize, ht⟩ := hstored
  rw [heq]
  apply hP t _ s hs
  exact ⟨hsize.trans (by omega), Table.forall_values.mpr ht⟩

end

/-! ### Files -/

/-- The sections of the state are within the bounds the reader checks, but for the number of
plans. -/
structure SectionsBounded (s : State) : Prop extends RegistriesBounded s where
  plans : s.plans.All fun _ p => ReadablePlan p

theorem bounded_empty {ρ : Type} (F : Format Error ρ) :
  Bounded F ∅
  := ⟨Nat.zero_le _, Table.forall_values.mpr .empty⟩

theorem returns_readablePlan :
  readPlan.Returns ReadablePlan
  := returns_readable exact_plan fun _ => ⟨rfl, id⟩

theorem recoverPlansLoop_bounded (rounds v8 cnt : ℕ) :
  (recoverPlansLoop rounds v8 cnt).Keeps SectionsBounded
  := by
  induction rounds generalizing v8 cnt with
  | zero => exact .pure ()
  | succ rounds ih =>
      rw [recoverPlansLoop]
      split
      · refine .lift_bind returns_readablePlan fun p hp => ?_
        refine .bind (.modify fun s hs => ?_) fun _ => ih (v8 + 1) p.copyCount
        exact { hs with plans := hs.plans.insert hp }
      · exact .pure ()

theorem recoverSections_bounded :
  recoverSections.Keeps SectionsBounded
  := by
  have hregistries : recoverRegistries.Keeps SectionsBounded := by
    refine .bind (recoverSection_bounded _ (returns_readable exact_buffer fun _ => ⟨rfl, id⟩)
      (fun _ _ _ => rfl) fun t ht s hs => { hs with buffers := ht }) fun _ => ?_
    refine .bind (recoverSection_bounded _ (returns_readable exact_device fun _ => ⟨rfl, id⟩)
      (fun _ _ _ => rfl) fun t ht s hs => { hs with devices := ht }) fun _ => ?_
    refine .bind (recoverSection_bounded _ (returns_readable exact_endpoint fun _ => ⟨rfl, id⟩)
      (fun _ _ _ => rfl) fun t ht s hs => { hs with endpoints := ht }) fun _ => ?_
    refine .bind (recoverSection_bounded _ (returns_readable exact_nic fun _ => ⟨rfl, id⟩)
      (fun _ _ _ => rfl) fun t ht s hs => { hs with nics := ht }) fun _ => ?_
    refine .bind (recoverSection_bounded _
      (returns_readable exact_storageEndpoint fun _ => ⟨rfl, id⟩)
      (fun _ _ _ => rfl) fun t ht s hs => { hs with storage := ht }) fun _ => ?_
    refine .bind (recoverSection_bounded _ (returns_readable exact_provider fun _ => ⟨rfl, id⟩)
      (fun _ _ _ => rfl) fun t ht s hs => { hs with providers := ht }) fun _ => ?_
    refine .bind (recoverSection_bounded _ (returns_readable exact_capability fun _ => ⟨rfl, id⟩)
      (fun _ _ _ => rfl) fun t ht s hs => { hs with capabilities := ht }) fun _ => ?_
    exact recoverSection_bounded _
      (returns_readable exact_registration writtenAlike_recovered_registration)
      (fun _ _ _ => rfl) fun t ht s hs => { hs with registrations := ht }
  refine .bind hregistries fun _ => ?_
  refine .bind (.lift _) fun cnt => ?_
  refine .bind (.modify fun s hs => { hs with plans := .empty }) fun _ => ?_
  exact recoverPlansLoop_bounded (2 ^ 32) 0 cnt

/-- A recovery leaves the state alone or leaves sections within the bounds. -/
theorem recoverFromFile_bounded (file : Bytes) (out : State) :
  (recoverFromFile file out).2 = out ∨ SectionsBounded (recoverFromFile file out).2
  := by
  have hheader : readHeader.Returns SectionsBounded := by
    rw [readHeader]
    iterate 3
      apply Reader.Returns.bind
      intro
    apply Reader.Returns.pure
    exact ⟨⟨bounded_empty _, bounded_empty _, bounded_empty _, bounded_empty _, bounded_empty _,
      bounded_empty _, bounded_empty _, bounded_empty _⟩, .empty⟩
  rw [recoverFromFile]
  split
  · exact .inl rfl
  · split
    · exact .inl rfl
    next header sections hread =>
      right
      have hkeeps := recoverSections_bounded sections header (hheader _ _ _ hread)
      split
      next heq =>
        rw [heq] at hkeeps
        exact hkeeps
      next heq =>
        rw [heq] at hkeeps
        exact hkeeps

/-- The images of recovered records take no more room than those of the records they are recovered
from. -/
theorem imageSize_recovered {ρ : Type} {F : Format Error ρ} {id : ρ → ℕ} {t t' : Table ρ}
    (halike : ∀ r, WrittenAlike F r (F.recovered r))
    (h : t'.All (FromRecord id F.recovered t.values)) :
  imageSize F t' ≤ imageSize F t
  := by
  apply Table.weight_le_sum id
  intro k r' hr'
  obtain ⟨r, hr, hid, rfl⟩ := h k r' hr'
  exact ⟨r, hr, hid, (halike r).length⟩

theorem imageSizes_recovered {d s : State} (h : RecoveredFrom d s) :
  imageSizes s ≤ imageSizes d
  := by
  have hb := imageSize_recovered (F := bufferFormat) (fun _ => ⟨rfl, id⟩) h.buffers
  have hd := imageSize_recovered (F := deviceFormat) (fun _ => ⟨rfl, id⟩) h.devices
  have he := imageSize_recovered (F := endpointFormat) (fun _ => ⟨rfl, id⟩) h.endpoints
  have hn := imageSize_recovered (F := nicFormat) (fun _ => ⟨rfl, id⟩) h.nics
  have ht := imageSize_recovered (F := storageEndpointFormat) (fun _ => ⟨rfl, id⟩) h.storage
  have hp := imageSize_recovered (F := providerFormat) (fun _ => ⟨rfl, id⟩) h.providers
  have hc := imageSize_recovered (F := capabilityFormat) (fun _ => ⟨rfl, id⟩) h.capabilities
  have hr := imageSize_recovered (F := registrationFormat) writtenAlike_recovered_registration
    h.registrations
  have hq := imageSize_recovered (F := planFormat) (fun _ => ⟨rfl, id⟩) h.plans
  rw [imageSizes, imageSizes]
  omega

/-- A recovery of a persisted file, within the bounds or not, keeps the bounds. -/
theorem within_recovered {d s : State} (hfits : d.Fits) (hs : WrittenWithin s) :
  WrittenWithin (recoverFromFile (persistToFile d) s).2
  := by
  obtain hsame | hbounded := recoverFromFile_bounded (persistToFile d) s
  · rw [hsame]
    exact hs
  obtain hsame | hrecovered := recoverFromFile_persisted hfits s
  · rw [hsame]
    exact hs
  by_cases hmax : (stateBody d).length ≤ kMaxPayload
  · refine ⟨⟨hbounded.toRegistriesBounded, ?_⟩, hbounded.plans⟩
    have hsizes := imageSizes_recovered hrecovered
    rw [length_stateBody] at hmax ⊢
    omega
  · obtain ⟨e, he⟩ := openFrame_frame_fails (not_le.mp hmax)
    have hsame : (recoverFromFile (persistToFile d) s).2 = s := by
      rw [recoverFromFile, persistToFile, he]
    rw [hsame]
    exact hs

end Persistence

end GpuDirectFabric
