import GpuDirectFabric.Recovery
import GpuDirectFabric.WellFormed

/-!
# Round trips of state files

A file persisted from registries within the reader's bounds is recovered with every record it
holds.  The plans are recovered as well, unless their copy counts lead the loop over them astray.
-/

namespace GpuDirectFabric

open Codec Coordinator

namespace Persistence

/-! ### Sections -/

section

variable {ρ : Type} {F : Format Error ρ} {id : ρ → ℕ}

/-- The table is within the bounds the reader checks. -/
@[mk_iff]
structure Bounded (F : Format Error ρ) (t : Table ρ) : Prop where
  size : t.size ≤ maxCount
  readable : ∀ r ∈ t.values, F.Readable r

instance : DecidablePred (Bounded F) := fun t => decidable_of_iff' _ (bounded_iff F t)

/-- What is recovered from the section of a table. -/
def restored (F : Format Error ρ) (id : ρ → ℕ) (t : Table ρ) : Table ρ :=
  Table.ofList id ((sortedById id t).map F.recovered)

/-- Storing records one after another in the table that `update` updates. -/
theorem foldl_update {update : (Table ρ → Table ρ) → State → State}
    (hupdate : ∀ f g s, update f (update g s) = update (fun t => f (g t)) s) (rs : List ρ)
    (t : Table ρ) (s : State) :
  rs.foldl (fun s r => update (fun t => t.insert (id r) r) s) (update (fun _ => t) s)
    = update (fun _ => rs.foldl (fun t r => t.insert (id r) r) t) s
  := by
  induction rs generalizing t with
  | nil => rfl
  | cons r rs ih =>
      rw [List.foldl_cons, hupdate, ih]
      rfl

/-- A section is recovered in full if its table is within bounds, and else rejected. -/
theorem recoverSection_decodes {update : (Table ρ → Table ρ) → State → State} {t : Table ρ}
    (message : Str) (hupdate : ∀ f g s, update f (update g s) = update (fun t => f (g t)) s)
    (hsize : t.size < 2 ^ 32) (hfits : ∀ r ∈ t.values, F.Fits r) :
  (recoverSection F id update message).Decodes (putSection F id t) (Bounded F t) ()
    (update fun _ => restored F id t)
  := by
  have hlength := length_sortedById id t
  apply Decoder.Decodes.congr
  · apply (Decoder.Decodes.lift (reads_boundedCount (by rw [hlength]; exact hsize) _ _)).bind
    apply (Decoder.Decodes.modify _).first
    exact .storeMany fun r hr => F.reads r (hfits r (mem_sortedById.mp hr))
  · rw [hlength]
    constructor
    · rintro ⟨hcount, -, hreadable⟩
      exact ⟨hcount, fun r hr => hreadable r (mem_sortedById.mpr hr)⟩
    · rintro ⟨hcount, hreadable⟩
      exact ⟨hcount, trivial, fun r hr => hreadable r (mem_sortedById.mp hr)⟩
  · intro s
    exact foldl_update hupdate _ ∅ s

/-- The restored table holds under each id what is recovered from the record with that id. -/
theorem lookup_restored {t : Table ρ} (hid : ∀ r, id (F.recovered r) = id r)
    (hnodup : (t.values.map id).Nodup) (k : ℕ) (r : ρ) :
  (restored F id t).lookup k = some r ↔ FromRecord id F.recovered t.values k r
  := by
  have hperm : (sortedById id t).Perm t.values := List.perm_insertionSort _ _
  have hsorted : (((sortedById id t).map F.recovered).map id).Nodup := by
    have hids : id ∘ F.recovered = id := funext hid
    rw [List.map_map, hids]
    exact (hperm.map id).nodup_iff.mpr hnodup
  rw [restored, Table.lookup_ofList hsorted]
  constructor
  · rintro ⟨hmem, rfl⟩
    obtain ⟨r', hr', rfl⟩ := List.mem_map.mp hmem
    exact ⟨r', mem_sortedById.mp hr', (hid r').symm, rfl⟩
  · rintro ⟨r', hr', rfl, rfl⟩
    exact ⟨List.mem_map_of_mem (mem_sortedById.mpr hr'), hid r'⟩

/-- The table `t'` holds under each id what is recovered from the record of `t` with that id, and
nothing else. -/
def Restores {ρ : Type} (F : Format Error ρ) (id : ρ → ℕ) (t t' : Table ρ) : Prop :=
  ∀ k r, t'.lookup k = some r ↔ FromRecord id F.recovered t.values k r

/-- When the records are stored under their ids, what is recovered from each is under its own
key. -/
theorem Restores.lookup_eq {t t' : Table ρ} (h : Restores F id t t')
    (hkey : t.All fun k r => id r = k) (k : ℕ) :
  t'.lookup k = (t.lookup k).map F.recovered
  := by
  apply Option.ext
  intro r
  rw [h, Option.map_eq_some_iff]
  constructor
  · rintro ⟨r', hr', rfl, rfl⟩
    obtain ⟨k, hk⟩ := Table.mem_values.mp hr'
    obtain rfl := hkey k r' hk
    exact ⟨r', hk, rfl⟩
  · rintro ⟨r', hr', rfl⟩
    exact ⟨r', Table.mem_values.mpr ⟨k, hr'⟩, hkey k r' hr', rfl⟩

theorem lookup_restored_eq {t : Table ρ} (hid : ∀ r, id (F.recovered r) = id r)
    (hkey : t.All fun k r => id r = k) (k : ℕ) :
  (restored F id t).lookup k = (t.lookup k).map F.recovered
  := Restores.lookup_eq (lookup_restored hid hkey.nodup_map_values) hkey k

end

/-! ### The registries -/

/-- The registries are within the bounds the reader checks. -/
@[mk_iff]
structure RegistriesBounded (s : State) : Prop where
  buffers : Bounded bufferFormat s.buffers
  devices : Bounded deviceFormat s.devices
  endpoints : Bounded endpointFormat s.endpoints
  nics : Bounded nicFormat s.nics
  storage : Bounded storageEndpointFormat s.storage
  providers : Bounded providerFormat s.providers
  capabilities : Bounded capabilityFormat s.capabilities
  registrations : Bounded registrationFormat s.registrations

instance : DecidablePred RegistriesBounded :=
  fun s => decidable_of_iff' _ (registriesBounded_iff s)

/-- The body and the registries are within the bounds the reader checks. -/
@[mk_iff]
structure RegistriesWithin (s : State) : Prop extends RegistriesBounded s where
  body : (stateBody s).length ≤ kMaxPayload

instance : DecidablePred RegistriesWithin :=
  fun s => decidable_of_iff' _ (registriesWithin_iff s)

/-- The state is within the bounds the reader checks. -/
@[mk_iff]
structure WithinBounds (s : State) : Prop extends RegistriesWithin s where
  plans : Bounded planFormat s.plans

instance : DecidablePred WithinBounds := fun s => decidable_of_iff' _ (withinBounds_iff s)

/-- The state with the registries restored from the sections of `d`. -/
def restoreRegistries (d s : State) : State :=
  { s with
    buffers := restored bufferFormat BufferRecord.id d.buffers
    devices := restored deviceFormat DeviceRecord.id d.devices
    endpoints := restored endpointFormat EndpointRecord.id d.endpoints
    nics := restored nicFormat NicRecord.id d.nics
    storage := restored storageEndpointFormat StorageEndpointRecord.id d.storage
    providers := restored providerFormat ProviderInfo.id d.providers
    capabilities := restored capabilityFormat CapabilityObservation.id d.capabilities
    registrations := restored registrationFormat Registration.id d.registrations }

/-- The sections of the registries are recovered in full if all are within bounds, and else
rejected. -/
theorem recoverRegistries_decodes {d : State} (h : d.Fits) :
  recoverRegistries.Decodes (registrySections d) (RegistriesBounded d) () (restoreRegistries d)
  := by
  apply Decoder.Decodes.congr
  · apply (recoverSection_decodes _ (fun _ _ _ => rfl) h.buffers.1 h.buffers.2).field
    apply (recoverSection_decodes _ (fun _ _ _ => rfl) h.devices.1 h.devices.2).field
    apply (recoverSection_decodes _ (fun _ _ _ => rfl) h.endpoints.1 h.endpoints.2).field
    apply (recoverSection_decodes _ (fun _ _ _ => rfl) h.nics.1 h.nics.2).field
    apply (recoverSection_decodes _ (fun _ _ _ => rfl) h.storage.1 h.storage.2).field
    apply (recoverSection_decodes _ (fun _ _ _ => rfl) h.providers.1 h.providers.2).field
    apply (recoverSection_decodes _ (fun _ _ _ => rfl) h.capabilities.1 h.capabilities.2).field
    rw [List.flatten_singleton]
    exact recoverSection_decodes _ (fun _ _ _ => rfl) h.registrations.1 h.registrations.2
  · exact (registriesBounded_iff d).symm
  · intro s
    rfl

/-! ### The plans -/

section

variable {rounds v8 cnt : ℕ} {p : TransferPlan} {rest : Bytes} {s : State}

theorem recoverPlansLoop_stop (h : cnt ≤ v8) :
  recoverPlansLoop rounds v8 cnt rest s = (.ok ((), rest), s)
  := by
  cases rounds with
  | zero => rfl
  | succ rounds =>
      rw [recoverPlansLoop, if_neg (not_lt.mpr h)]
      rfl

/-- The loop goes on with the copy count of the plan just read as its bound. -/
theorem recoverPlansLoop_next (h : v8 < cnt) (hfits : FitsPlan p) (hreadable : ReadablePlan p) :
  recoverPlansLoop (rounds + 1) v8 cnt (putPlan p ++ rest) s
    = recoverPlansLoop rounds (v8 + 1) p.copyCount rest (storeRecoveredPlan (recoveredPlan p) s)
  := by
  rw [recoverPlansLoop, if_pos h,
    Decoder.bind_ok (Decoder.lift_ok ((reads_plan hfits).ok hreadable rest) s)]
  rfl

theorem recoverPlansLoop_unreadable (h : v8 < cnt) (hfits : FitsPlan p)
    (hreadable : ¬ReadablePlan p) :
  ∃ e, recoverPlansLoop (rounds + 1) v8 cnt (putPlan p ++ rest) s = (.error e, s)
  := by
  obtain ⟨e, he⟩ := (reads_plan hfits).fails hreadable rest
  rw [recoverPlansLoop, if_pos h, Decoder.bind_error (Decoder.lift_error he s)]
  exact ⟨e, rfl⟩

theorem recoverPlansLoop_truncated (h : v8 < cnt) :
  ∃ e, recoverPlansLoop (rounds + 1) v8 cnt [] s = (.error e, s)
  := by
  obtain ⟨e, he⟩ := readPlan_nil
  rw [recoverPlansLoop, if_pos h, Decoder.bind_error (Decoder.lift_error he s)]
  exact ⟨e, rfl⟩

end

/-- The copy counts, in the order of the plans' ids, for which the loop reads all plans and no
more. -/
def Kept (copies : List ℕ) : Prop := copies = [] ∨ copies = [1] ∨ ∃ c, copies = [2, c]

/-- A run of the decoder that succeeds and leaves the plans `ps`. -/
def Yields (r : Except Error (Unit × Bytes) × State) (ps : List TransferPlan) : Prop :=
  (∃ a, r.1 = .ok a) ∧
    ∀ k, r.2.plans.lookup k = (Table.ofList TransferPlan.id (ps.map recoveredPlan)).lookup k

/-- A plan that is not stored is not yielded. -/
theorem Yields.lookup {r : Except Error (Unit × Bytes) × State} {ps : List TransferPlan}
    (h : Yields r ps) (hnodup : (ps.map TransferPlan.id).Nodup) {p : TransferPlan} (hp : p ∈ ps) :
  r.2.plans.lookup p.id = some (recoveredPlan p)
  := by
  rw [h.2, Table.lookup_ofList]
  · exact ⟨List.mem_map_of_mem hp, rfl⟩
  · rw [List.map_map]
    exact hnodup

theorem not_yields_of_error {e : Error} {s : State} {ps : List TransferPlan} :
  ¬Yields (.error e, s) ps
  := by
  rintro ⟨⟨a, ha⟩, -⟩
  cases ha

/-- A run that has stored the first of the plans yields them all exactly when there are no
others. -/
theorem yields_stored_iff {a : Unit × Bytes} {stored others : List TransferPlan} {s : State}
    (hnodup : ((stored ++ others).map TransferPlan.id).Nodup)
    (hs : s.plans = Table.ofList TransferPlan.id (stored.map recoveredPlan)) :
  Yields (.ok a, s) (stored ++ others) ↔ others = []
  := by
  constructor
  · intro h
    cases others with
    | nil => rfl
    | cons q others =>
        have hq := h.lookup hnodup (List.mem_append_right _ List.mem_cons_self)
        rw [List.map_append] at hnodup
        have hstored : ((stored.map recoveredPlan).map TransferPlan.id).Nodup := by
          rw [List.map_map]
          exact hnodup.of_append_left
        rw [hs, Table.lookup_ofList hstored] at hq
        obtain ⟨p, hp, heq⟩ := List.mem_map.mp hq.1
        have hid : p.id = q.id := (congrArg TransferPlan.id heq :)
        have hmem : p.id ∈ (q :: others).map TransferPlan.id := by
          rw [hid]
          exact List.mem_map_of_mem List.mem_cons_self
        exact absurd hmem (List.disjoint_of_nodup_append hnodup (List.mem_map_of_mem hp))
  · rintro rfl
    rw [List.append_nil]
    refine ⟨⟨a, rfl⟩, fun k => ?_⟩
    rw [hs]

/-- The loop after a first plan with copy count `2`. -/
theorem recoverPlansLoop_yields_second {rounds : ℕ} {p : TransferPlan} {ps : List TransferPlan}
    {s : State} (hnodup : ((p :: ps).map TransferPlan.id).Nodup)
    (hcount : ∀ p ∈ ps, p.copyCount = 1 ∨ p.copyCount = 2) (hfits : ∀ p ∈ ps, FitsPlan p)
    (hreadable : ReadablePlan p)
    (hs : s.plans = Table.ofList TransferPlan.id ([p].map recoveredPlan)) :
  Yields (recoverPlansLoop (rounds + 1) 1 2 (ps.map putPlan).flatten s) (p :: ps) ↔
    (ReadablePlan p ∧ ∀ p ∈ ps, ReadablePlan p) ∧ Kept (2 :: ps.map TransferPlan.copyCount)
  := by
  cases ps with
  | nil =>
      obtain ⟨e, he⟩ : ∃ e, recoverPlansLoop (rounds + 1) 1 2 [] s = (.error e, s) :=
        recoverPlansLoop_truncated (Nat.lt_succ_self 1)
      rw [List.map_nil, List.flatten_nil, he]
      apply iff_of_false not_yields_of_error
      rintro ⟨-, hkept⟩
      simp [Kept] at hkept
  | cons q ps =>
  rw [List.forall_mem_cons] at hcount hfits
  rw [List.map_cons, List.flatten_cons, List.forall_mem_cons]
  by_cases hq : ReadablePlan q
  · have hle : q.copyCount ≤ 2 := by
      obtain hone | htwo := hcount.1
      · exact hone.le.trans (Nat.le_succ 1)
      · exact htwo.le
    have hstored : (storeRecoveredPlan (recoveredPlan q) s).plans
        = Table.ofList TransferPlan.id ([p, q].map recoveredPlan) := by
      rw [storeRecoveredPlan, hs]
      rfl
    rw [recoverPlansLoop_next (Nat.lt_succ_self 1) hfits.1 hq, recoverPlansLoop_stop hle]
    apply (yields_stored_iff hnodup hstored).trans
    constructor
    · rintro rfl
      exact ⟨⟨hreadable, hq, List.forall_mem_nil _⟩, .inr (.inr ⟨_, rfl⟩)⟩
    · rintro ⟨-, hkept⟩
      simpa [Kept] using hkept
  · obtain ⟨e, he⟩ : ∃ e, recoverPlansLoop (rounds + 1) 1 2
        (putPlan q ++ (ps.map putPlan).flatten) s = (.error e, s) :=
      recoverPlansLoop_unreadable (Nat.lt_succ_self 1) hfits.1 hq
    rw [he]
    apply iff_of_false not_yields_of_error
    intro h
    exact hq h.1.2.1

/-- With copy counts `1` and `2` the loop yields the plans it is given exactly when they are
readable and their copy counts keep them. -/
theorem recoverPlansLoop_yields_iff {rounds : ℕ} {ps : List TransferPlan} {s : State}
    (hnodup : (ps.map TransferPlan.id).Nodup)
    (hcount : ∀ p ∈ ps, p.copyCount = 1 ∨ p.copyCount = 2) (hfits : ∀ p ∈ ps, FitsPlan p)
    (hs : s.plans = ∅) :
  Yields (recoverPlansLoop (rounds + 2) 0 ps.length (ps.map putPlan).flatten s) ps ↔
    (∀ p ∈ ps, ReadablePlan p) ∧ Kept (ps.map TransferPlan.copyCount)
  := by
  cases ps with
  | nil =>
      rw [List.length_nil, recoverPlansLoop_stop le_rfl]
      constructor
      · intro
        exact ⟨List.forall_mem_nil _, .inl rfl⟩
      · intro
        refine ⟨⟨_, rfl⟩, fun k => ?_⟩
        rw [hs]
        rfl
  | cons p ps =>
  rw [List.forall_mem_cons] at hcount hfits
  rw [List.length_cons, List.map_cons, List.flatten_cons, List.forall_mem_cons, List.map_cons]
  by_cases hreadable : ReadablePlan p
  · rw [recoverPlansLoop_next (Nat.succ_pos _) hfits.1 hreadable]
    have hstored : (storeRecoveredPlan (recoveredPlan p) s).plans
        = Table.ofList TransferPlan.id ([p].map recoveredPlan) := by
      rw [storeRecoveredPlan, hs]
      rfl
    obtain hone | htwo := hcount.1
    · rw [recoverPlansLoop_stop hone.le]
      apply (yields_stored_iff hnodup hstored).trans
      rw [hone]
      constructor
      · rintro rfl
        exact ⟨⟨hreadable, List.forall_mem_nil _⟩, .inr (.inl rfl)⟩
      · rintro ⟨-, hkept⟩
        simpa [Kept] using hkept
    · rw [htwo]
      exact recoverPlansLoop_yields_second hnodup hcount.2 hfits.2 hreadable hstored
  · obtain ⟨e, he⟩ : ∃ e, recoverPlansLoop (rounds + 2) 0 (ps.length + 1)
        (putPlan p ++ (ps.map putPlan).flatten) s = (.error e, s) :=
      recoverPlansLoop_unreadable (Nat.succ_pos _) hfits.1 hreadable
    rw [he]
    apply iff_of_false not_yields_of_error
    intro h
    exact hreadable h.1.1

/-- The section of the plans yields them all exactly when they are within bounds and their copy
counts keep them. -/
theorem recoverPlans_yields_iff {t : Table TransferPlan} {s : State}
    (hnodup : (t.values.map TransferPlan.id).Nodup)
    (hcount : ∀ p ∈ t.values, p.copyCount = 1 ∨ p.copyCount = 2) (hsize : t.size < 2 ^ 32)
    (hfits : ∀ p ∈ t.values, FitsPlan p) :
  Yields (recoverPlans (putSection planFormat TransferPlan.id t) s)
      (sortedById TransferPlan.id t) ↔
    Bounded planFormat t ∧ Kept ((sortedById TransferPlan.id t).map TransferPlan.copyCount)
  := by
  have hlength := length_sortedById TransferPlan.id t
  have hperm : (sortedById TransferPlan.id t).Perm t.values := List.perm_insertionSort _ _
  have hcnt := reads_boundedCount (hlength ▸ hsize) maxCount "invalid plan count"
  obtain ⟨rounds, hrounds⟩ : ∃ rounds, 2 ^ 32 = rounds + 2 := ⟨2 ^ 32 - 2, rfl⟩
  by_cases hmax : (sortedById TransferPlan.id t).length ≤ maxCount
  · rw [recoverPlans, putSection, Decoder.bind_ok (Decoder.lift_ok (hcnt.ok hmax _) s),
      Decoder.bind_ok (Decoder.modify_apply _ _ _), hrounds]
    apply (recoverPlansLoop_yields_iff ((hperm.map _).nodup_iff.mpr hnodup)
      (fun p hp => hcount p (mem_sortedById.mp hp)) (fun p hp => hfits p (mem_sortedById.mp hp))
      rfl).trans
    rw [hlength] at hmax
    constructor
    · rintro ⟨hreadable, hkept⟩
      exact ⟨⟨hmax, fun p hp => hreadable p (mem_sortedById.mpr hp)⟩, hkept⟩
    · rintro ⟨hbounded, hkept⟩
      exact ⟨fun p hp => hbounded.readable p (mem_sortedById.mp hp), hkept⟩
  · obtain ⟨e, he⟩ := hcnt.fails hmax (((sortedById TransferPlan.id t).map planFormat.put).flatten)
    rw [recoverPlans, putSection, Decoder.bind_error (Decoder.lift_error he s)]
    apply iff_of_false not_yields_of_error
    rintro ⟨hbounded, -⟩
    rw [hlength] at hmax
    exact hmax hbounded.size

/-! ### Files -/

/-- A persisted file is rejected unless the registries are within bounds, and otherwise the recovery
restores the registries and goes on to the plans. -/
theorem recoverFromFile_persistToFile {d : State} (h : d.Fits) (out : State) :
  RegistriesWithin d ∧
      recoverFromFile (persistToFile d) out
        = (recoverPlans (putSection planFormat TransferPlan.id d.plans)
            (restoreRegistries d
              { epoch := d.epoch, nextId := d.nextId, freshness := d.freshness })).map
          (Except.map fun _ => ()) id ∨
    ¬RegistriesWithin d ∧ ∃ e s, recoverFromFile (persistToFile d) out = (.error e, s)
  := by
  rw [recoverFromFile, persistToFile]
  by_cases hmax : (stateBody d).length ≤ kMaxPayload
  · rw [openFrame_frame hmax]
    dsimp only
    rw [stateBody, (reads_header h).ok trivial, stateSections, recoverSections]
    dsimp only
    have hdecodes := recoverRegistries_decodes h
    by_cases hbounds : RegistriesWithin d
    · left
      use hbounds
      rw [Decoder.bind_ok (hdecodes.ok hbounds.toRegistriesBounded _ _)]
      generalize recoverPlans _ _ = result
      obtain ⟨⟨e⟩ | a, s⟩ := result
      · rfl
      · rfl
    · right
      use hbounds
      obtain ⟨e, s, he⟩ := hdecodes.fails (fun hregistries => hbounds ⟨hregistries, hmax⟩)
        (putSection planFormat TransferPlan.id d.plans)
        { epoch := d.epoch, nextId := d.nextId, freshness := d.freshness }
      rw [Decoder.bind_error he]
      exact ⟨e, s, rfl⟩
  · right
    refine ⟨fun hbounds => hmax hbounds.body, ?_⟩
    obtain ⟨e, he⟩ := openFrame_frame_fails (not_le.mp hmax)
    rw [he]
    exact ⟨e, out, rfl⟩

/-- A recovery of the file persisted in `d` succeeds and recovers the plans of `d`, each with all
the fields the file carries and not authoritative. -/
def PlansSurvive (d out : State) : Prop :=
  (recoverFromFile (persistToFile d) out).1 = .ok () ∧
  ∀ k, (recoverFromFile (persistToFile d) out).2.plans.lookup k
    = (d.plans.lookup k).map recoveredPlan

theorem plansSurvive_iff {d : State} (hwf : WellFormed d) (hfits : d.Fits) (out : State) :
  PlansSurvive d out ↔
    WithinBounds d ∧ Kept ((sortedById TransferPlan.id d.plans).map TransferPlan.copyCount)
  := by
  have hkey : d.plans.All fun k p => p.id = k := hwf.plans.mono fun _ _ hp => hp.1
  have hcount : ∀ p ∈ d.plans.values, p.copyCount = 1 ∨ p.copyCount = 2 := by
    intro p hp
    obtain ⟨k, hk⟩ := Table.mem_values.mp hp
    exact (hwf.plans k p hk).2.2
  have hplans := recoverPlans_yields_iff (s := restoreRegistries d
    { epoch := d.epoch, nextId := d.nextId, freshness := d.freshness })
    hkey.nodup_map_values hcount hfits.plans.1 hfits.plans.2
  rw [PlansSurvive]
  obtain ⟨hbounds, heq⟩ | ⟨hbounds, e, s, heq⟩ := recoverFromFile_persistToFile hfits out
  · rw [heq]
    have hlookup : ∀ k, (restored planFormat TransferPlan.id d.plans).lookup k
        = (d.plans.lookup k).map recoveredPlan :=
      lookup_restored_eq (fun _ => rfl) hkey
    generalize recoverPlans (putSection planFormat TransferPlan.id d.plans)
      (restoreRegistries d
        { epoch := d.epoch, nextId := d.nextId, freshness := d.freshness }) = result at hplans
    obtain ⟨⟨e⟩ | a, s⟩ := result
    · constructor
      · rintro ⟨hok, -⟩
        cases hok
      · rintro ⟨hwithin, hkept⟩
        exact absurd (hplans.mpr ⟨hwithin.plans, hkept⟩) not_yields_of_error
    · constructor
      · rintro ⟨-, hsurvive⟩
        have hyields : Yields (.ok a, s) (sortedById TransferPlan.id d.plans) :=
          ⟨⟨a, rfl⟩, fun k => (hsurvive k).trans (hlookup k).symm⟩
        obtain ⟨hplansBound, hkept⟩ := hplans.mp hyields
        exact ⟨⟨hbounds, hplansBound⟩, hkept⟩
      · rintro ⟨hwithin, hkept⟩
        obtain ⟨-, hyields⟩ := hplans.mpr ⟨hwithin.plans, hkept⟩
        exact ⟨rfl, fun k => (hyields k).trans (hlookup k)⟩
  · rw [heq]
    constructor
    · rintro ⟨hok, -⟩
      cases hok
    · rintro ⟨hwithin, -⟩
      exact absurd hwithin.toRegistriesWithin hbounds

/-- The section of no plans leaves no plans. -/
theorem recoverPlans_empty (s : State) :
  recoverPlans (putSection planFormat TransferPlan.id ∅) s = (.ok ((), []), { s with plans := ∅ })
  := by
  have hcnt := (reads_boundedCount (n := 0) (by decide) maxCount "invalid plan count").ok
    (Nat.zero_le _) []
  obtain ⟨rounds, hrounds⟩ : ∃ rounds, 2 ^ 32 = rounds + 1 := ⟨2 ^ 32 - 1, rfl⟩
  have hsection : putSection planFormat TransferPlan.id ∅ = putU32 0 ++ [] := rfl
  rw [recoverPlans, hsection, Decoder.bind_ok (Decoder.lift_ok hcnt s),
    Decoder.bind_ok (Decoder.modify_apply _ _ _), recoverPlansLoop_stop le_rfl]

/-! ### What survives -/

/-- The counters and the registries of `d` are those of `s`, up to what a file does not carry, and
`s` holds nothing else. -/
structure Survive (d s : State) : Prop where
  epoch : s.epoch = d.epoch
  nextId : s.nextId = d.nextId
  freshness : s.freshness = d.freshness
  buffers : Restores bufferFormat BufferRecord.id d.buffers s.buffers
  devices : Restores deviceFormat DeviceRecord.id d.devices s.devices
  endpoints : Restores endpointFormat EndpointRecord.id d.endpoints s.endpoints
  nics : Restores nicFormat NicRecord.id d.nics s.nics
  storage : Restores storageEndpointFormat StorageEndpointRecord.id d.storage s.storage
  providers : Restores providerFormat ProviderInfo.id d.providers s.providers
  capabilities : Restores capabilityFormat CapabilityObservation.id d.capabilities s.capabilities
  registrations : Restores registrationFormat Registration.id d.registrations s.registrations
  plans : s.plans = ∅
  attempts : s.attempts = ∅
  receipts : s.receipts = ∅
  verifications : s.verifications = ∅
  workers : s.workers = ∅
  workerMaxBoot : s.workerMaxBoot = ∅

/-- Among well-formed registries every record is restored. -/
theorem survive_restoreRegistries {d : State} (h : WellFormed d) :
  Survive d (restoreRegistries d
    { epoch := d.epoch, nextId := d.nextId, freshness := d.freshness })
  where
  epoch := rfl
  nextId := rfl
  freshness := rfl
  buffers := lookup_restored (fun _ => rfl) (h.buffers.mono fun _ _ hb => hb.1).nodup_map_values
  devices := lookup_restored (fun _ => rfl) h.devices.nodup_map_values
  endpoints := lookup_restored (fun _ => rfl) (h.endpoints.mono fun _ _ he => he.1).nodup_map_values
  nics := lookup_restored (fun _ => rfl) h.nics.nodup_map_values
  storage := lookup_restored (fun _ => rfl) h.storage.nodup_map_values
  providers := lookup_restored (fun _ => rfl) h.providers.nodup_map_values
  capabilities := lookup_restored (fun _ => rfl) (Table.nodup_map_values h.capability)
  registrations :=
    lookup_restored (fun _ => rfl) (h.registrations.mono fun _ _ hr => hr.1).nodup_map_values
  plans := rfl
  attempts := rfl
  receipts := rfl
  verifications := rfl
  workers := rfl
  workerMaxBoot := rfl

end Persistence

open Persistence

/-- Without plans, what is recovered are the registries. -/
theorem recoverFromFile_unplanned {d : State} (hplans : d.plans = ∅) (hfits : d.Fits)
    (hbounds : RegistriesWithin d) (out : State) :
  recoverFromFile (persistToFile d) out
    = (.ok (), restoreRegistries d
        { epoch := d.epoch, nextId := d.nextId, freshness := d.freshness })
  := by
  obtain ⟨-, heq⟩ | ⟨hnot, -⟩ := recoverFromFile_persistToFile hfits out
  · rw [hplans, recoverPlans_empty] at heq
    exact heq
  · exact absurd hbounds hnot

/-- What a coordinator without plans persists within the reader's bounds is recovered in full. -/
theorem registries_survive {w : World} (h : persistedFabric.Reachable w)
    (hplans : w.state.plans = ∅) (hfits : w.state.Fits) (hbounds : RegistriesWithin w.state)
    (out : State) :
  ∃ s, recoverFromFile (persistToFile w.state) out = (.ok (), s) ∧ Survive w.state s
  := ⟨_, recoverFromFile_unplanned hplans hfits hbounds out,
    survive_restoreRegistries (wellFormed_of_reachable h)⟩

theorem registries_survive_fixture :
  ∃ s, recoverFromFile (persistToFile Fixture.registered.state) {} = (.ok (), s) ∧
    Survive Fixture.registered.state s
  := registries_survive (Fixture.reachable_registered _) rfl (by decide +kernel)
    (by decide +kernel) {}

/-- In every reachable state a recovery of the persisted file recovers all plans exactly when the
state is within the reader's bounds and there are no plans, one direct plan, or two plans the first
of which is a fallback. -/
theorem plans_survive_iff {w : World} (h : persistedFabric.Reachable w) (hfits : w.state.Fits)
    (out : State) :
  PlansSurvive w.state out ↔
    WithinBounds w.state ∧
      Kept ((sortedById TransferPlan.id w.state.plans).map TransferPlan.copyCount)
  := plansSurvive_iff (wellFormed_of_reachable h) hfits out

theorem plans_survive_fixture :
  PlansSurvive Fixture.planned.state {}
  := by
  apply (plans_survive_iff (Fixture.reachable_planned _) (by decide +kernel) {}).mpr
  use by decide +kernel
  right
  left
  decide +kernel

namespace Fixture

/-- The world in which the direct path is planned twice. -/
def plannedTwice : World := planned.plan request

theorem reachable_plannedTwice (setting : Setting) :
  (fabric setting World.New).Reachable plannedTwice
  := reachable_plan (reachable_planned setting) request

end Fixture

/-- Of two direct plans the second is lost. -/
theorem second_plan_lost :
  persistedFabric.Reachable Fixture.plannedTwice ∧ Fixture.plannedTwice.state.Fits ∧
  WithinBounds Fixture.plannedTwice.state ∧ ¬PlansSurvive Fixture.plannedTwice.state {}
  := by
  have hreachable : persistedFabric.Reachable Fixture.plannedTwice :=
    Fixture.reachable_plannedTwice _
  have hfits : Fixture.plannedTwice.state.Fits := by decide +kernel
  have hcopies : (sortedById TransferPlan.id Fixture.plannedTwice.state.plans).map
      TransferPlan.copyCount = [1, 1] := by decide +kernel
  refine ⟨hreachable, hfits, by decide +kernel, ?_⟩
  rw [plansSurvive_iff (wellFormed_of_reachable hreachable) hfits, hcopies]
  rintro ⟨-, hkept⟩
  simp [Kept] at hkept

end GpuDirectFabric
