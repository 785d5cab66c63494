import GpuDirectFabric.RegistrationSteps
import GpuDirectFabric.RoundTrip
import GpuDirectFabric.Stages

/-!
# Resource limits

The operations that create a buffer, an endpoint, a registration, a plan or an attempt ask for room
first.  Two ways past the limits are left: a fallback plan adds the buffer it stages through
without asking, and a recovery, which also puts the limits back to their defaults, adds what it can
read of the registries in the file.
-/

namespace Table

variable {V W : Type}

theorem size_mapVals (f : V → W) (t : Table V) :
  (t.mapVals f).size = t.size
  := List.length_map _

/-- An insertion under a key that is taken replaces its entry. -/
theorem size_insert_of_lookup {t : Table V} {k : ℕ} {v v' : V} (h : t.lookup k = some v) :
  size (t.insert k v') = t.size
  := by
  rw [size_insert, h]
  rfl

/-- Where there is room for an entry, there is room after an insertion. -/
theorem size_insert_le {t : Table V} {n : ℕ} (h : t.size < n) (k : ℕ) (v : V) :
  size (t.insert k v) ≤ n
  := by
  rw [size_insert]
  split
  · exact h.le
  · exact h

theorem size_foldl_insert_le (key : V → ℕ) (rs : List V) (t : Table V) :
  size (rs.foldl (fun t r => t.insert (key r) r) t) ≤ t.size + rs.length
  := by
  induction rs generalizing t with
  | nil => exact Nat.le_refl _
  | cons r rs ih =>
      have hinsert := size_insert_le (Nat.lt_succ_self t.size) (key r) r
      have hrest := ih (t.insert (key r) r)
      rw [List.foldl_cons, List.length_cons]
      omega

/-- A table made from a list is no longer than it. -/
theorem size_ofList_le (key : V → ℕ) (rs : List V) :
  (ofList key rs).size ≤ rs.length
  := by
  have hempty : size (∅ : Table V) = 0 := rfl
  have hsize := size_foldl_insert_le key rs ∅
  rwa [hempty, Nat.zero_add] at hsize

end Table

namespace GpuDirectFabric

open Codec Coordinator Persistence

/-! ### Tables within limits -/

/-- The tables of `s` that are persisted are within the limits of `l`. -/
structure TablesWithin (s l : State) : Prop where
  buffers : s.buffers.size ≤ l.maxBuffers
  registrations : s.registrations.size ≤ l.maxRegistrations
  endpoints : s.endpoints.size ≤ l.maxEndpoints
  plans : s.plans.size ≤ l.maxPlans

/-- The tables of the state are within its limits. -/
structure WithinLimits (s : State) : Prop extends TablesWithin s s where
  attempts : s.attempts.size ≤ s.maxAttempts

/-- The event is a call of `set_limits`. -/
def Event.setsLimits : Event → Bool
  | .setLimits .. => true
  | _ => false

/-- A new coordinator whose limits have been set. -/
def World.Limited (w : World) : Prop :=
  ∃ epoch b r e p a, w = { state := setLimits b r e p a (Coordinator epoch) }

/-- Coordinators whose limits are fixed, and which recover what such coordinators persisted. -/
def limitedFabric : System World Event where
  start := World.Limited
  step w e w' := e.setsLimits = false ∧ e.Allowed ⟨false, true⟩ w ∧ w' = w.next e
  handover d w e w' := d.state.Fits ∧ e = .recover (persistToFile d.state) ∧ w' = w.next e

theorem reachable_of_limited {w : World} (h : limitedFabric.Reachable w) :
  persistedFabric.Reachable w
  := by
  apply h.invariant
  · rintro w ⟨epoch, b, r, e, p, a, rfl⟩
    have hnew : persistedFabric.Reachable { state := Coordinator epoch } :=
      ⟨[], .start ⟨epoch, rfl⟩⟩
    exact reachable_next (e := .setLimits b r e p a) hnew trivial
  · rintro w e w' hw ⟨-, hallowed, rfl⟩
    exact reachable_next hw hallowed
  · rintro d w e w' ⟨_, hdonor⟩ ⟨_, hrun⟩ ⟨hfits, rfl, rfl⟩
    exact ⟨_, hrun.handover hdonor ⟨hfits, .inl rfl, rfl, rfl⟩⟩

/-- The records of a table that a recovery stores when it comes to their section: those before the
first that it cannot read, unless there are too many. -/
def loaded {ρ : Type} (F : Format Error ρ) (id : ρ → ℕ) (t : Table ρ) : List ρ :=
  if t.size ≤ maxCount then (sortedById id t).takeWhile fun r => decide (F.Readable r) else []

/-- What a recovery stores of the registries of `d` is within the default limits.  It comes to a
section when it has read those before it in full. -/
structure LoadsWithin (d : State) : Prop where
  buffers : (loaded bufferFormat BufferRecord.id d.buffers).length ≤ ({} : State).maxBuffers
  endpoints : Bounded bufferFormat d.buffers → Bounded deviceFormat d.devices →
    (loaded endpointFormat EndpointRecord.id d.endpoints).length ≤ ({} : State).maxEndpoints
  registrations : Bounded bufferFormat d.buffers → Bounded deviceFormat d.devices →
    Bounded endpointFormat d.endpoints → Bounded nicFormat d.nics →
    Bounded storageEndpointFormat d.storage → Bounded providerFormat d.providers →
    Bounded capabilityFormat d.capabilities →
    (loaded registrationFormat Registration.id d.registrations).length
      ≤ ({} : State).maxRegistrations

/-- There is room for what the event adds: for the staging buffer, if it commits a fallback plan,
and under the default limits for what is stored of the file, if it recovers one. -/
def Event.Accommodated (e : Event) (s : State) : Prop :=
  match e with
  | .planCommit p d => d.eligibility = .fallbackRequired → d.fallbackAvailable = true →
    CommitChecks p d s → s.buffers.size < s.maxBuffers
  | .recover file => ∀ d : State, d.Fits → file = persistToFile d →
    (stateBody d).length ≤ kMaxPayload → LoadsWithin d
  | _ => True

/-! ### Room -/

/-- The room the event has asked for. -/
def Event.HasRoom (e : Event) (s : State) : Prop :=
  match e with
  | .createBuffer _ => s.buffers.size < s.maxBuffers
  | .addEndpoint _ => s.endpoints.size < s.maxEndpoints
  | .registerBuffer _ _ => s.registrations.size < s.maxRegistrations
  | .planCommit _ _ => s.plans.size < s.maxPlans
  | .beginTransfer _ _ _ => s.attempts.size < s.maxAttempts
  | _ => True

theorem createBuffer_room (p : CreateBufferParams) (s : State) :
  (createBuffer p s).2 = s ∨ s.buffers.size < s.maxBuffers
  := by
  rw [createBuffer]
  split
  · exact .inl rfl
  · split
    · exact .inl rfl
    next hroom => exact .inr (not_le.mp hroom)

theorem addEndpoint_room (p : EndpointAddParams) (s : State) :
  (addEndpoint p s).2 = s ∨ s.endpoints.size < s.maxEndpoints
  := by
  rw [addEndpoint]
  split
  · exact .inl rfl
  next hroom => exact .inr (not_le.mp hroom)

theorem planTransferCommit_room (p : PlanRequestParams) (d : PathDecision) (s : State) :
  (planTransferCommit p d s).2 = s ∨ s.plans.size < s.maxPlans
  := by
  cases hresult : (planTransferCommit p d s).1 with
  | ok plan => exact .inr (room_of_committed hresult)
  | error e =>
      obtain ⟨e', heq⟩ | ⟨src, dst, -, -, -, -, -, -, heq⟩ := planTransferCommit_cases p d s
      · rw [heq]
        exact .inl rfl
      · rw [heq, storePlan] at hresult
        split at hresult
        · cases hresult
        · cases hresult

theorem beginTransfer_room (planId : TransferPlanId) (authority : Authority)
    (backend : Option Backend) (s : State) :
  (beginTransfer planId authority backend s).2 = s ∨ s.attempts.size < s.maxAttempts
  := by
  rw [beginTransfer]
  cases s.plans.lookup planId with
  | none => exact .inl rfl
  | some plan =>
  dsimp only
  split
  · exact .inl rfl
  split
  · exact .inl rfl
  split
  · exact .inl rfl
  split
  · exact .inl rfl
  split
  · exact .inl rfl
  next hroom => exact .inr (not_le.mp hroom)

/-- An event that changes the state has found room for what it adds. -/
theorem Event.hasRoom {e : Event} {s : State} (hwf : WellFormed s) :
  apply e s = s ∨ e.HasRoom s
  := by
  cases e with
  | createBuffer p => exact createBuffer_room p s
  | addEndpoint p => exact addEndpoint_room p s
  | planCommit p d => exact planTransferCommit_room p d s
  | beginTransfer planId authority backend => exact beginTransfer_room planId authority backend s
  | registerBuffer p backend =>
      obtain hsame | ⟨k, b, d, rr, -, hroom, -⟩ := registerBuffer_stored p backend hwf
      · exact .inl hsame
      · exact .inr hroom
  | _ => exact .inr trivial

/-! ### Steps -/

theorem TablesWithin.rearranged {s s' : State} (h : TablesWithin s s) (hs : s.Rearranged s') :
  TablesWithin s' s'
  := by
  obtain ⟨hb, hr, he, hp, -⟩ := hs.limits
  constructor
  · rw [hs.buffers.size, hb]
    exact h.buffers
  · rw [hs.registrations.size, hr]
    exact h.registrations
  · rw [hs.endpoints.size, he]
    exact h.endpoints
  · rw [hs.plans.size, hp]
    exact h.plans

theorem WithinLimits.step {e : Event} {s s' : State} (h : WithinLimits s) (he : Effect e s s')
    (hlimits : e.setsLimits = false) (hrecover : ∀ file, e ≠ .recover file) (hroom : e.HasRoom s)
    (haccommodated : e.Accommodated s) :
  WithinLimits s'
  := by
  cases he with
  | refused => exact h
  | setLimits => cases hlimits
  | createBuffer => exact { h with buffers := Table.size_insert_le hroom _ _ }
  | advanceBufferGeneration hb | retireBuffer hb =>
      exact { h with
        buffers := (Table.size_insert_of_lookup hb).trans_le h.buffers
        registrations := (Table.size_mapVals _ _).trans_le h.registrations
        plans := (Table.size_mapVals _ _).trans_le h.plans }
  | advanceEpoch =>
      exact { h with
        registrations := (Table.size_mapVals _ _).trans_le h.registrations
        plans := (Table.size_mapVals _ _).trans_le h.plans }
  | markWorkerDead =>
      exact { h with registrations := (Table.size_mapVals _ _).trans_le h.registrations }
  | addEndpoint => exact { h with endpoints := Table.size_insert_le hroom _ _ }
  | advanceEndpointGeneration he =>
      exact { h with
        endpoints := (Table.size_insert_of_lookup he).trans_le h.endpoints
        registrations := (Table.size_mapVals _ _).trans_le h.registrations
        plans := (Table.size_mapVals _ _).trans_le h.plans }
  | setEndpointHealth he =>
      exact { h with endpoints := (Table.size_insert_of_lookup he).trans_le h.endpoints }
  | retireDeregistering =>
      exact { h with registrations := (Table.size_mapVals _ _).trans_le h.registrations }
  | registerBuffer haccepted hretired =>
      obtain rfl | ⟨latest, -, -, rfl⟩ := hretired
      · exact { h with
          buffers := (Table.size_insert_of_lookup haccepted.buffer).trans_le h.buffers
          registrations := Table.size_insert_le hroom _ _ }
      · exact { h with
          buffers := (Table.size_insert_of_lookup haccepted.buffer).trans_le h.buffers
          registrations :=
            Table.size_insert_le ((Table.size_mapVals _ _).trans_lt hroom) _ _ }
  | retire hreg | deregisterBuffer hreg =>
      exact { h with
        registrations := (Table.size_insert_of_lookup hreg).trans_le h.registrations }
  | deregisterCached hreg hb =>
      exact { h with
        buffers := (Table.size_insert_of_lookup hb).trans_le h.buffers
        registrations := (Table.size_insert_of_lookup hreg).trans_le h.registrations }
  | planDirect => exact { h with plans := Table.size_insert_le hroom _ _ }
  | planFallback hfallback havailable hsrc hsrcGeneration hdst hdstGeneration =>
      have hbuffers := haccommodated hfallback havailable
        ⟨hroom, ⟨_, hsrc, hsrcGeneration⟩, ⟨_, hdst, hdstGeneration⟩⟩
      exact { h with
        buffers := Table.size_insert_le hbuffers _ _
        plans := Table.size_insert_le hroom _ _ }
  | beginTransfer => exact { h with attempts := Table.size_insert_le hroom _ _ }
  | completeTransfer hattempt =>
      exact { h with attempts := (Table.size_insert_of_lookup hattempt).trans_le h.attempts }
  | cancelTransfer hattempt =>
      exact { h with attempts := (Table.size_insert_of_lookup hattempt).trans_le h.attempts }
  | rehash hs =>
      refine ⟨h.toTablesWithin.rearranged hs, ?_⟩
      rw [hs.attempts.size, hs.limits.2.2.2.2]
      exact h.attempts
  | recover => exact absurd rfl (hrecover _)
  | _ => exact { h with }

/-! ### Recoveries -/

/-- The limits are the default ones. -/
def DefaultLimits (s : State) : Prop :=
  s.maxBuffers = ({} : State).maxBuffers ∧
    s.maxRegistrations = ({} : State).maxRegistrations ∧
    s.maxEndpoints = ({} : State).maxEndpoints ∧ s.maxPlans = ({} : State).maxPlans

theorem recoverPlansLoop_defaultLimits (rounds v8 cnt : ℕ) :
  (recoverPlansLoop rounds v8 cnt).Keeps DefaultLimits
  := by
  induction rounds generalizing v8 cnt with
  | zero => exact .pure ()
  | succ rounds ih =>
      rw [recoverPlansLoop]
      split
      · refine .lift_bind readPlan_returns fun p _ => ?_
        refine .bind (.modify fun s hs => hs) fun _ => ?_
        exact ih (v8 + 1) p.copyCount
      · exact .pure ()

theorem recoverSections_defaultLimits :
  recoverSections.Keeps DefaultLimits
  := by
  have hany : ∀ {ρ : Type} (g : Reader Error ρ), g.Returns fun _ => True := by
    intro ρ g bs a bs' _
    trivial
  have hregistries : recoverRegistries.Keeps DefaultLimits := by
    iterate 7
      refine .bind (recoverSection_keeps _ (hany _) (fun s hs => hs) fun r _ s hs => hs) fun _ => ?_
    exact recoverSection_keeps _ (hany _) (fun s hs => hs) fun r _ s hs => hs
  refine .bind hregistries fun _ => ?_
  refine .bind (.lift _) fun cnt => ?_
  refine .bind (.modify fun s hs => hs) fun _ => ?_
  exact recoverPlansLoop_defaultLimits (2 ^ 32) 0 cnt

/-- A recovery leaves the state alone or puts the limits back to their defaults. -/
theorem recoverFromFile_defaultLimits (file : Bytes) (out : State) :
  (recoverFromFile file out).2 = out ∨ DefaultLimits (recoverFromFile file out).2
  := by
  have hheader : readHeader.Returns DefaultLimits := by
    rw [readHeader]
    iterate 3
      apply Reader.Returns.bind
      intro
    exact .pure ⟨rfl, rfl, rfl, rfl⟩
  rw [recoverFromFile]
  split
  · exact .inl rfl
  · split
    · exact .inl rfl
    next header sections hread =>
      right
      have hkeeps := recoverSections_defaultLimits sections header (hheader _ _ _ hread)
      split
      next heq =>
        rw [heq] at hkeeps
        exact hkeeps
      next heq =>
        rw [heq] at hkeeps
        exact hkeeps

/-- The tables with limits are within the default ones, and of the plans there are two at most. -/
structure LoadedWithin (s : State) : Prop where
  buffers : s.buffers.size ≤ ({} : State).maxBuffers
  registrations : s.registrations.size ≤ ({} : State).maxRegistrations
  endpoints : s.endpoints.size ≤ ({} : State).maxEndpoints
  plans : s.plans.size ≤ 2

section

variable {ρ : Type} {F : Format Error ρ} {id : ρ → ℕ}
  {update : (Table ρ → Table ρ) → State → State} {t : Table ρ}

/-- The table made from what is loaded is no larger. -/
theorem size_loaded (F : Format Error ρ) (id : ρ → ℕ) (t : Table ρ) :
  (Table.ofList id ((loaded F id t).map F.recovered)).size ≤ (loaded F id t).length
  := by
  have hsize := Table.size_ofList_le id ((loaded F id t).map F.recovered)
  rwa [List.length_map] at hsize

/-- On the section of a table, whether it is read in full or not, a recovery changes nothing or
makes the table from what is loaded. -/
theorem recoverSection_loaded (message : Str)
    (hupdate : ∀ f g s, update f (update g s) = update (fun t => f (g t)) s)
    (hsize : t.size < 2 ^ 32) (hfits : ∀ r ∈ t.values, F.Fits r) (rest : Bytes) (s : State) :
  (recoverSection F id update message (putSection F id t ++ rest) s).2 = s ∨
    (recoverSection F id update message (putSection F id t ++ rest) s).2
      = update (fun _ => Table.ofList id ((loaded F id t).map F.recovered)) s
  := by
  have hlength := length_sortedById id t
  have hcnt := reads_boundedCount (n := (sortedById id t).length) (by rwa [hlength]) maxCount
    message
  have hreads : ∀ r ∈ sortedById id t, F.read.Reads (F.put r) (F.Readable r) (F.recovered r) := by
    intro r hr
    apply F.reads r (hfits r (mem_sortedById.mp hr))
  rw [recoverSection, putSection, List.append_assoc]
  by_cases hmax : (sortedById id t).length ≤ maxCount
  · right
    rw [Decoder.bind_ok (Decoder.lift_ok (hcnt.ok hmax _) s),
      Decoder.bind_ok (Decoder.modify_apply _ _ _), Decoder.storeMany_state hreads,
      foldl_update hupdate, loaded, if_pos (by rwa [← hlength])]
    rfl
  · left
    obtain ⟨e, he⟩ := hcnt.fails hmax (((sortedById id t).map F.put).flatten ++ rest)
    rw [Decoder.bind_error (Decoder.lift_error he s)]

/-- The section of a table, when what is loaded of it may be stored. -/
theorem recoverSection_within (message : Str)
    (hupdate : ∀ f g s, update f (update g s) = update (fun t => f (g t)) s)
    (hsize : t.size < 2 ^ 32) (hfits : ∀ r ∈ t.values, F.Fits r)
    (hstore : ∀ s, LoadedWithin s →
      LoadedWithin (update (fun _ => Table.ofList id ((loaded F id t).map F.recovered)) s)) :
  (recoverSection F id update message).Triple LoadedWithin (fun s => LoadedWithin s ∧ Bounded F t)
    LoadedWithin (putSection F id t) ()
  := by
  intro rest s hs
  have hdecodes : (recoverSection F id update message).Decodes (putSection F id t) (Bounded F t) ()
      (update fun _ => restored F id t) := recoverSection_decodes message hupdate hsize hfits
  have hloaded :
      LoadedWithin (recoverSection F id update message (putSection F id t ++ rest) s).2 := by
    obtain hsame | hstored := recoverSection_loaded message hupdate hsize hfits rest s
    · rw [hsame]
      apply hs
    · rw [hstored]
      apply hstore s hs
  by_cases hbounded : Bounded F t
  · rw [hdecodes.ok hbounded] at hloaded ⊢
    constructor
    · intro r hr
      use (Except.ok.inj hr).symm, hloaded
    · rintro e ⟨⟩
  · obtain ⟨e, s', he⟩ := hdecodes.fails hbounded rest s
    rw [he] at hloaded ⊢
    constructor
    · rintro r ⟨⟩
    · intro e' _
      apply hloaded

end

/-- On the sections of the registries a recovery stays within the limits if what is loaded does. -/
theorem recoverRegistries_within {d : State} (h : d.Fits) (hwithin : LoadsWithin d) :
  recoverRegistries.Triple LoadedWithin
    (fun s => LoadedWithin s ∧ Bounded registrationFormat d.registrations) LoadedWithin
    (registrySections d) ()
  := by
  apply (recoverSection_within _ (fun _ _ _ => rfl) h.buffers.1 h.buffers.2
    fun s hs => { hs with buffers := (size_loaded _ _ _).trans hwithin.buffers }).field
  apply Decoder.Triple.assuming
  intro hbuffers
  apply (recoverSection_within _ (fun _ _ _ => rfl) h.devices.1 h.devices.2
    fun s hs => { hs with }).field
  apply Decoder.Triple.assuming
  intro hdevices
  apply (recoverSection_within _ (fun _ _ _ => rfl) h.endpoints.1 h.endpoints.2
    fun s hs => { hs with
      endpoints := (size_loaded _ _ _).trans (hwithin.endpoints hbuffers hdevices) }).field
  apply Decoder.Triple.assuming
  intro hendpoints
  apply (recoverSection_within _ (fun _ _ _ => rfl) h.nics.1 h.nics.2
    fun s hs => { hs with }).field
  apply Decoder.Triple.assuming
  intro hnics
  apply (recoverSection_within _ (fun _ _ _ => rfl) h.storage.1 h.storage.2
    fun s hs => { hs with }).field
  apply Decoder.Triple.assuming
  intro hstorage
  apply (recoverSection_within _ (fun _ _ _ => rfl) h.providers.1 h.providers.2
    fun s hs => { hs with }).field
  apply Decoder.Triple.assuming
  intro hproviders
  apply (recoverSection_within _ (fun _ _ _ => rfl) h.capabilities.1 h.capabilities.2
    fun s hs => { hs with }).field
  apply Decoder.Triple.assuming
  intro hcapabilities
  rw [List.flatten_singleton]
  apply recoverSection_within _ (fun _ _ _ => rfl) h.registrations.1 h.registrations.2
  intro s hs
  exact { hs with
    registrations := (size_loaded _ _ _).trans (hwithin.registrations hbuffers hdevices hendpoints
      hnics hstorage hproviders hcapabilities) }

/-- The loop over the plans stores two at most, since its bound becomes the copy count of the plan
just read. -/
theorem recoverPlansLoop_loaded {ps : List TransferPlan} (hfits : ∀ p ∈ ps, FitsPlan p)
    (hcount : ∀ p ∈ ps, p.copyCount ≤ 2) (rounds v8 cnt : ℕ) (hcnt : v8 = 0 ∨ cnt ≤ 2) (s : State)
    (hs : LoadedWithin s) (hsize : s.plans.size + (2 - v8) ≤ 2) :
  LoadedWithin (recoverPlansLoop rounds v8 cnt (ps.map putPlan).flatten s).2
  := by
  induction rounds generalizing ps v8 cnt s with
  | zero => exact hs
  | succ rounds ih =>
      by_cases hlt : v8 < cnt
      · cases ps with
        | nil =>
            obtain ⟨e, he⟩ : ∃ e, recoverPlansLoop (rounds + 1) v8 cnt [] s = (.error e, s) :=
              recoverPlansLoop_truncated hlt
            rw [List.map_nil, List.flatten_nil, he]
            apply hs
        | cons p ps =>
            rw [List.forall_mem_cons] at hfits hcount
            rw [List.map_cons, List.flatten_cons]
            by_cases hreadable : ReadablePlan p
            · rw [recoverPlansLoop_next hlt hfits.1 hreadable]
              have hstored := Table.size_insert_le (Nat.lt_succ_self s.plans.size) p.id
                (recoveredPlan p)
              have hplans : (storeRecoveredPlan (recoveredPlan p) s).plans.size
                  ≤ s.plans.size + 1 := hstored
              apply ih hfits.2 hcount.2
              · right
                apply hcount.1
              · exact { hs with plans := by omega }
              · omega
            · obtain ⟨e, he⟩ : ∃ e, recoverPlansLoop (rounds + 1) v8 cnt
                  (putPlan p ++ (ps.map putPlan).flatten) s = (.error e, s) :=
                recoverPlansLoop_unreadable hlt hfits.1 hreadable
              rw [he]
              apply hs
      · rw [recoverPlansLoop_stop (not_lt.mp hlt)]
        apply hs

/-- On the section of the plans a recovery stays within the limits, whatever the plans are. -/
theorem recoverPlans_loaded {d s : State} (hwf : WellFormed d) (h : d.Fits)
    (hs : LoadedWithin s) :
  LoadedWithin (recoverPlans (putSection planFormat TransferPlan.id d.plans) s).2
  := by
  have hlength := length_sortedById TransferPlan.id d.plans
  have hcnt := reads_boundedCount (n := (sortedById TransferPlan.id d.plans).length)
    (by rw [hlength]; apply h.plans.1) maxCount "invalid plan count"
  rw [recoverPlans, putSection]
  by_cases hmax : (sortedById TransferPlan.id d.plans).length ≤ maxCount
  · rw [Decoder.bind_ok (Decoder.lift_ok (hcnt.ok hmax _) s),
      Decoder.bind_ok (Decoder.modify_apply _ _ _)]
    apply recoverPlansLoop_loaded
    · intro p hp
      apply h.plans.2 p (mem_sortedById.mp hp)
    · intro p hp
      obtain ⟨k, hk⟩ := Table.mem_values.mp (mem_sortedById.mp hp)
      obtain ⟨-, -, hcopies⟩ := hwf.plans k p hk
      omega
    · left
      rfl
    · exact { hs with plans := Nat.zero_le 2 }
    · exact Nat.le_refl 2
  · obtain ⟨e, he⟩ := hcnt.fails hmax
      (((sortedById TransferPlan.id d.plans).map planFormat.put).flatten)
    rw [Decoder.bind_error (Decoder.lift_error he s)]
    apply hs

/-- A recovery of the file persisted in `d` leaves the state alone, or loads what is within the
default limits. -/
theorem recoverFromFile_loaded {d : State} (hwf : WellFormed d) (h : d.Fits)
    (hwithin : (stateBody d).length ≤ kMaxPayload → LoadsWithin d) (out : State) :
  (recoverFromFile (persistToFile d) out).2 = out ∨
    LoadedWithin (recoverFromFile (persistToFile d) out).2
  := by
  apply recoverFromFile_leaves h out
  intro hmax
  apply (recoverRegistries_within h (hwithin hmax)).bind_at
  · intro s hs
    apply recoverPlans_loaded hwf h hs.1
  · exact ⟨Nat.zero_le _, Nat.zero_le _, Nat.zero_le _, Nat.zero_le _⟩

theorem WithinLimits.recover {d s : State} (h : WithinLimits s) (hwf : WellFormed d)
    (hfits : d.Fits) (hwithin : (stateBody d).length ≤ kMaxPayload → LoadsWithin d) :
  WithinLimits (recoverFromFile (persistToFile d) s).2
  := by
  obtain hsame | hlimits := recoverFromFile_defaultLimits (persistToFile d) s
  · rw [hsame]
    exact h
  obtain hsame | hloaded := recoverFromFile_loaded hwf hfits hwithin s
  · rw [hsame]
    exact h
  obtain hsame | hrecovered := recoverFromFile_persisted hfits s
  · rw [hsame]
    exact h
  obtain ⟨hb, hr, he, hp⟩ := hlimits
  constructor
  · constructor
    · rw [hb]
      apply hloaded.buffers
    · rw [hr]
      apply hloaded.registrations
    · rw [he]
      apply hloaded.endpoints
    · rw [hp]
      apply hloaded.plans.trans
      decide
  · rw [hrecovered.attempts]
    exact Nat.zero_le _

/-! ### Runs -/

/-- In a run all of whose events are accommodated, every state is within its limits. -/
theorem limits_hold {h : List (World × Event)} {w : World} (hrun : limitedFabric.Run h w)
    (haccommodated : ∀ p ∈ h, p.2.Accommodated p.1.state) :
  ∀ v ∈ System.visited h w, WithinLimits v.state
  := by
  induction hrun with
  | start hw =>
      obtain ⟨epoch, b, r, e, p, a, rfl⟩ := hw
      intro v hv
      obtain rfl := List.mem_singleton.mp hv
      exact ⟨⟨Nat.zero_le _, Nat.zero_le _, Nat.zero_le _, Nat.zero_le _⟩, Nat.zero_le _⟩
  | @step h w w' e hrun hs ih =>
      obtain ⟨hlimits, hallowed, rfl⟩ := hs
      obtain ⟨hlast, hbefore⟩ := List.forall_mem_cons.mp haccommodated
      intro v hv
      obtain rfl | hv := List.mem_cons.mp hv
      · have hwithin := ih hbefore w List.mem_cons_self
        have hrecover : ∀ file, e ≠ .recover file := by
          rintro file rfl
          exact absurd hallowed.1 (by decide)
        obtain hsame | hroom := e.hasRoom (wellFormed_of_reachable (reachable_of_limited ⟨_, hrun⟩))
        · rw [World.next_state, hsame]
          exact hwithin
        · exact hwithin.step hallowed.effect hlimits hrecover hroom hlast
      · exact ih hbefore v hv
  | @handover h h' w d w' e hrun hdonor hs ih ih' =>
      obtain ⟨hfits, rfl, rfl⟩ := hs
      obtain ⟨hlast, hbefore⟩ := List.forall_mem_cons.mp haccommodated
      intro v hv
      obtain rfl | hv := List.mem_cons.mp hv
      · rw [World.next_state, apply]
        have hwf := wellFormed_of_reachable (reachable_of_limited ⟨_, hdonor⟩)
        exact (ih hbefore w List.mem_cons_self).recover hwf hfits (hlast d.state hfits rfl)
      · exact ih hbefore v hv

theorem limited_call {w : World} {e : Event} (h : limitedFabric.Reachable w)
    (hcall : e.isCall = true) (hlimits : e.setsLimits = false) :
  limitedFabric.Reachable (w.next e)
  := by
  obtain ⟨h, hrun⟩ := h
  exact ⟨_, hrun.step ⟨hlimits, Event.allowed_of_isCall hcall, rfl⟩⟩

namespace Fixture

/-- A coordinator with room for one buffer. -/
def cramped : World := { state := setLimits 1 8 8 8 8 (Coordinator 1) }

/-- The creation of that buffer. -/
def onlyBuffer : Event := .createBuffer { domain := .hostPinned, size := 4096 }

/-- The world in which the buffer can be staged to an endpoint. -/
def full : World := ((cramped.next onlyBuffer).next
  (.addEndpoint { endpointClass := .nic, healthy := true, support := .real })).next
  (.publishCapability
    { provider := "host"
      capability := "host_staging"
      value := "true"
      support := .synthetic
      authority := { epoch := 1 } })

/-- The request to do so. -/
def crampedRequest : PlanRequestParams := { source := 2, destination := 3, size := 4096 }

theorem run_onlyBuffer :
  limitedFabric.Run [(cramped, onlyBuffer)] (cramped.next onlyBuffer)
  := by
  have hcramped : World.Limited cramped := ⟨1, 1, 8, 8, 8, 8, rfl⟩
  exact (System.Run.start hcramped).step ⟨rfl, trivial, rfl⟩

theorem reachable_overfull :
  limitedFabric.Reachable (full.plan crampedRequest)
  := by
  have hfull : limitedFabric.Reachable full := by
    have hcreated : limitedFabric.Reachable (cramped.next onlyBuffer) := ⟨_, run_onlyBuffer⟩
    exact limited_call (limited_call hcreated rfl rfl) rfl rfl
  obtain ⟨h, hrun⟩ := limited_call (e := .planSnapshot crampedRequest) hfull rfl rfl
  exact ⟨_, hrun.step ⟨rfl, List.mem_cons_self, rfl⟩⟩

end Fixture

theorem limits_hold_fixture :
  WithinLimits (Fixture.cramped.next Fixture.onlyBuffer).state
  := by
  refine limits_hold Fixture.run_onlyBuffer ?_ _ List.mem_cons_self
  intro p hp
  obtain rfl := List.mem_singleton.mp hp
  trivial

/-- A fallback plan adds its staging buffer beyond the limit. -/
theorem staging_over_limit :
  limitedFabric.Reachable (Fixture.full.plan Fixture.crampedRequest) ∧
    ¬WithinLimits (Fixture.full.plan Fixture.crampedRequest).state
  := by
  refine ⟨Fixture.reachable_overfull, fun h => ?_⟩
  have hover : ¬(Fixture.full.plan Fixture.crampedRequest).state.buffers.size
      ≤ (Fixture.full.plan Fixture.crampedRequest).state.maxBuffers := by
    decide +kernel
  exact hover h.buffers

end GpuDirectFabric
