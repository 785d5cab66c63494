import GpuDirectFabric.FailedRecovery
import GpuDirectFabric.Leases
import GpuDirectFabric.Restart
import GpuDirectFabric.RestartFences

/-!
# Reopening paths

A restart from a file closes all direct paths, and all it takes from them are their registrations:
the file carries what their ends are and what the directory says of them.  So the first registration
of a pair after the restart opens the paths between them that their ends allow, and those that were
direct before the restart are among these.
-/

namespace GpuDirectFabric

open Coordinator PathPlanner Persistence

/-- A table restored whole stands for the same map. -/
theorem Persistence.Restores.view {ρ K : Type} [DecidableEq K] {F : Codec.Format Error ρ}
    {key : ρ → ℕ} {name : ρ → K} {t t' : Table ρ} (h : Restores F key t t')
    (hwhole : F.recovered = id) (hnamed : t.Named name) :
  t'.view name = t.view name
  := by
  have hvalues : ∀ k r, t'.lookup k = some r ↔ r ∈ t.values ∧ key r = k := by
    intro k r
    rw [h, hwhole]
    constructor
    · rintro ⟨r, hr, rfl, rfl⟩
      use hr
    · rintro ⟨hr, rfl⟩
      exact ⟨r, hr, rfl, rfl⟩
  have hnamed' : t'.Named name := by
    intro k k' r r' hr hr' hname
    obtain ⟨hmem, rfl⟩ := (hvalues k r).mp hr
    obtain ⟨hmem', rfl⟩ := (hvalues k' r').mp hr'
    rw [hnamed.eq hmem hmem' hname]
  funext x
  apply Option.ext
  intro r
  rw [Table.view_eq_some hnamed', Table.view_eq_some hnamed]
  simp only [hvalues, exists_and_left, exists_eq', and_true, Table.mem_values]

/-! ### The ends of paths -/

/-- What direct paths ask of a buffer. -/
def BufferRecord.extent (b : BufferRecord) : ℕ × ℕ × MemoryDomain × DeviceId :=
  (b.size, b.alignment, b.domain, b.device)

/-- What direct paths ask of an endpoint. -/
def EndpointRecord.kind (e : EndpointRecord) : EndpointClass × Bool × Support :=
  (e.endpointClass, e.healthy, e.support)

/-- The states have the same to offer to direct paths, but for registrations. -/
structure SameEnds (s s' : State) : Prop where
  buffers : ∀ k, (s'.buffers.lookup k).map BufferRecord.extent
    = (s.buffers.lookup k).map BufferRecord.extent
  devices : ∀ k, (s'.devices.lookup k).isSome = (s.devices.lookup k).isSome
  endpoints : ∀ k, (s'.endpoints.lookup k).map EndpointRecord.kind
    = (s.endpoints.lookup k).map EndpointRecord.kind
  directory : s'.directory = s.directory

namespace SameEnds

variable {s s' s'' : State}

theorem symm (h : SameEnds s s') :
  SameEnds s' s
  where
  buffers k := (h.buffers k).symm
  devices k := (h.devices k).symm
  endpoints k := (h.endpoints k).symm
  directory := h.directory.symm

theorem trans (h : SameEnds s s') (h' : SameEnds s' s'') :
  SameEnds s s''
  where
  buffers k := (h'.buffers k).trans (h.buffers k)
  devices k := (h'.devices k).trans (h.devices k)
  endpoints k := (h'.endpoints k).trans (h.endpoints k)
  directory := h'.directory.trans h.directory

theorem directEnds (h : SameEnds s s') {p : PlanRequestParams} (hends : DirectEnds p s) :
  DirectEnds p s'
  := by
  constructor
  · obtain ⟨b, hb⟩ := hends.source
    have hextent := h.buffers p.source
    rw [hb.stored.2, Option.map_some] at hextent
    obtain ⟨b', hb', hsame⟩ := Option.map_eq_some_iff.mp hextent
    obtain ⟨hsize, halignment, hdomain, hdevice⟩ :
        b'.size = b.size ∧ b'.alignment = b.alignment ∧ b'.domain = b.domain ∧
          b'.device = b.device := by
      simpa [BufferRecord.extent] using hsame
    use b'
    constructor
    · use hb.stored.1
    · rw [hsize]
      apply hb.size
    · rw [hdomain]
      apply hb.domain
    · rw [halignment]
      apply hb.alignment
    · rw [hdevice]
      use hb.device.1
      apply Option.isSome_iff_exists.mp
      rw [h.devices]
      apply Option.isSome_iff_exists.mpr hb.device.2
  · obtain ⟨e, he⟩ := hends.destination
    have hkind := h.endpoints p.destination
    rw [he.stored.2, Option.map_some] at hkind
    obtain ⟨e', he', hsame⟩ := Option.map_eq_some_iff.mp hkind
    obtain ⟨hclass, hhealthy, hsupport⟩ :
        e'.endpointClass = e.endpointClass ∧ e'.healthy = e.healthy ∧ e'.support = e.support := by
      simpa [EndpointRecord.kind] using hsame
    use e'
    constructor
    · constructor
      · use he.stored.1
      · rw [hclass]
        apply he.classified
      · rw [hhealthy]
        apply he.healthy
    · rw [hsupport]
      apply he.supported
    · rw [h.directory, hclass]
      apply he.provider
    · rw [h.directory, hclass]
      apply he.capability

theorem directEnds_iff (h : SameEnds s s') (p : PlanRequestParams) :
  DirectEnds p s' ↔ DirectEnds p s
  := ⟨h.symm.directEnds, h.directEnds⟩

/-- An epoch change leaves the ends alone. -/
theorem advanceEpoch (s : State) :
  SameEnds s (advanceEpoch s).2
  := ⟨fun _ => rfl, fun _ => rfl, fun _ => rfl, rfl⟩

/-- So do workers that register. -/
theorem join (ws : List (WorkerId × WorkerBootId)) (s : State) :
  SameEnds s (s.join ws)
  := by
  obtain ⟨_, _, hjoin⟩ := s.join_frame ws
  rw [hjoin]
  exact ⟨fun _ => rfl, fun _ => rfl, fun _ => rfl, rfl⟩

/-- A registration leaves the ends alone. -/
theorem registerBuffer (hwf : WellFormed s) (q : RegisterParams) (backend : Option Backend) :
  SameEnds s (registerBuffer q backend s).2
  := by
  obtain hsame | ⟨k, hstores⟩ := registerBuffer_stored q backend hwf
  · rw [hsame]
    exact ⟨fun _ => rfl, fun _ => rfl, fun _ => rfl, rfl⟩
  · obtain ⟨r, -, hstored⟩ := stored_of_storesUnder hwf hstores
    obtain ⟨b, freshness, hb, hbuffers⟩ := hstored.buffers
    obtain ⟨b', e, rr, hallowed, hroom, hidle, hanswer, -⟩ := hstores
    constructor
    · intro k
      rw [hbuffers]
      by_cases hk : k = q.buffer
      · rw [hk, AList.lookup_insert, hb]
        rfl
      · rw [AList.lookup_insert_ne hk]
    · rw [hallowed.accepts hwf hroom hidle hanswer]
      intro k
      rfl
    · rw [hallowed.accepts hwf hroom hidle hanswer]
      intro k
      rfl
    · rw [hallowed.accepts hwf hroom hidle hanswer]
      rfl

/-- What is reloaded from a file has the ends of what was persisted. -/
theorem reloaded {d : State} (hwf : WellFormed d) (hnamed : DirectoryNamed d) (h : Reloaded d s) :
  SameEnds d s
  := by
  have hbuffers := h.survive.buffers.lookup_eq (hwf.buffers.mono fun _ _ hb => hb.1)
  have hendpoints := h.survive.endpoints.lookup_eq (hwf.endpoints.mono fun _ _ he => he.1)
  have hdevices := h.survive.devices.lookup_eq hwf.devices
  constructor
  · intro k
    have hk : s.buffers.lookup k = (d.buffers.lookup k).map recoveredBuffer := hbuffers k
    rw [hk, Option.map_map]
    rfl
  · intro k
    have hk : s.devices.lookup k = (d.devices.lookup k).map recoveredDevice := hdevices k
    rw [hk, Option.isSome_map]
  · intro k
    have hk : s.endpoints.lookup k = (d.endpoints.lookup k).map recoveredEndpoint := hendpoints k
    rw [hk, Option.map_map]
    rfl
  · have hcapabilities := h.survive.capabilities.view rfl hnamed.capabilities
    have hproviders := h.survive.providers.view rfl hnamed.providers
    rw [State.directory, State.directory]
    congr 1

end SameEnds

/-! ### Registering -/

section

variable {w : World} {q : RegisterParams} {backend : Option Backend} {r : Registration}

/-- After a call of `register_buffer` that succeeds, the pair has a registration in force, with the
support it has returned, and its owner is live. -/
theorem leases_of_registered (hwf : WellFormed w.state)
    (hr : (registerBuffer q backend w.state).1 = .ok r) :
  ∃ r', (registerBuffer q backend w.state).2.Leases r' ∧
    (r'.buffer = q.buffer ∧ r'.endpoint = q.endpoint) ∧ r'.support = r.support ∧
    (r'.authority.workerOwned = true →
      (registerBuffer q backend w.state).2.workerLiveLocked r'.authority = true)
  := by
  obtain ⟨b, e, hallowed, hroom, hsuccess⟩ := registerBuffer_ok hr
  generalize registerBuffer q backend w.state = call at hr hsuccess
  cases hsuccess with
  | @duplicate latest hlatest hanswers =>
      obtain ⟨k, hk⟩ := holds_of_latest hlatest
      obtain rfl := hwf.registration_id hk.stored
      obtain rfl := Except.ok.inj hr
      use latest, ⟨hk.stored, hanswers.registered⟩, ⟨hk.buffer, hk.endpoint⟩, rfl
      rw [hanswers.authority]
      apply hallowed.live
  | accepted hidle hretired hanswer =>
      obtain rfl := retires_eq hwf hretired
      obtain rfl := Except.ok.inj hr
      refine ⟨_, ⟨AList.lookup_insert _, rfl⟩, ?_, rfl, hallowed.live⟩
      use hwf.buffer_id hallowed.buffer
      apply hwf.endpoint_id hallowed.endpoint

/-- A registration that succeeds opens the paths between its ends that these allow, and gives them
its support. -/
theorem registration_opens (h : persistedFabric.Reachable w)
    (hr : (registerBuffer q backend w.state).1 = .ok r) {p : PlanRequestParams}
    (hpair : q.buffer = p.source ∧ q.endpoint = p.destination) :
  ((evaluatePath p (registerBuffer q backend w.state).2).eligibility.isDirect = true ↔
      DirectEnds p w.state) ∧
    (DirectEnds p w.state →
      (evaluatePath p (registerBuffer q backend w.state).2).support = r.support)
  := by
  have hwf := wellFormed_of_reachable h
  obtain ⟨v, hv⟩ : ∃ v, v = w.next (.registerBuffer q backend) := ⟨_, rfl⟩
  have hreachable : persistedFabric.Reachable v := by
    rw [hv]
    apply reachable_next (e := .registerBuffer q backend) h trivial
  have hstate : (registerBuffer q backend w.state).2 = v.state := by
    rw [hv, World.next_state, apply]
  have hends : DirectEnds p v.state ↔ DirectEnds p w.state := by
    rw [← hstate]
    apply (SameEnds.registerBuffer hwf q backend).directEnds_iff
  obtain ⟨r', hleases, ⟨hbuffer, hendpoint⟩, hsupport, hlive⟩ := leases_of_registered hwf hr
  rw [hstate] at hleases hlive ⊢
  have hpath : DirectEnds p w.state → RegisteredPath p r' v.state := by
    intro h
    apply registeredPath_iff.mpr
    use hends.mpr h, hleases, ⟨hbuffer.trans hpair.1, hendpoint.trans hpair.2⟩
  constructor
  · rw [evaluatePath, evaluate_isDirect, directRequirements_iff,
      directConditions_iff_registeredPath hreachable]
    constructor
    · rintro ⟨r, hr⟩
      apply hends.mp ⟨hr.source, hr.destination⟩
    · intro h
      exact ⟨r', hpath h⟩
  · intro h
    rw [((hpath h).decision hreachable).1, hsupport]

end

/-! ### Restarts -/

/-- The caller may register now, there is room, and the backend answers. -/
structure MayRegister (q : RegisterParams) (backend : Option Backend) (s : State) : Prop where
  epoch : q.authority.epoch = s.epoch
  live : q.authority.workerOwned = true → s.workerLiveLocked q.authority = true
  room : s.registrations.size < s.maxRegistrations
  answers : ∀ b e, ∃ rr, backendRegister q backend b e = .ok rr

section

variable {w : World} {out s t : State}

/-- What is recovered from a file does not depend on the state before. -/
theorem recovered_anywhere {file : Bytes} (h : recoverFromFile file out = (.ok (), s)) (u : State) :
  recoverFromFile file u = (.ok (), s)
  := by
  by_cases hheader : HasHeader file
  · obtain ⟨result, hresult⟩ := recoverFromFile_read hheader
    rw [hresult, ← hresult out, h]
  · obtain ⟨e, he⟩ := recoverFromFile_unread hheader out
    rw [h] at he
    cases he

/-- A coordinator of the system may be in the state a restart leaves. -/
theorem reachable_restarted (h : persistedFabric.Reachable w) (hfits : w.state.Fits)
    (hrecover : recoverFromFile (persistToFile w.state) out = (.ok (), s)) :
  ∃ v, persistedFabric.Reachable v ∧ v.state = (advanceEpoch s).2
  := by
  obtain ⟨_, hdonor⟩ := h
  obtain ⟨_, hnew⟩ : persistedFabric.Reachable { state := Coordinator 1 } := reachable_new _ 1
  have hrun := hnew.handover hdonor ⟨hfits, .inl rfl, rfl, rfl⟩
  refine ⟨_, reachable_next (e := .advanceEpoch) ⟨_, hrun⟩ trivial, ?_⟩
  rw [World.next_state, World.next_state, apply, apply, recovered_anywhere hrecover]

/-- A coordinator of the system may be in the state after workers have registered. -/
theorem reachable_joined (h : persistedFabric.Reachable w) (ws : List (WorkerId × WorkerBootId)) :
  ∃ v, persistedFabric.Reachable v ∧ v.state = w.state.join ws
  := by
  induction ws generalizing w with
  | nil => exact ⟨w, h, rfl⟩
  | cons x ws ih =>
      have hnext : persistedFabric.Reachable (w.next (.registerWorker x.1 x.2 w.state.epoch)) :=
        reachable_next h trivial
      obtain ⟨v, hv, hstate⟩ := ih hnext
      use v, hv, hstate

/-- After an epoch change no registration is in force or being made, whichever workers register. -/
theorem pairIdle_joined (q : RegisterParams) (ws : List (WorkerId × WorkerBootId)) (s : State) :
  PairIdle q ((advanceEpoch s).2.join ws)
  := by
  obtain ⟨_, _, hjoin⟩ := (advanceEpoch s).2.join_frame ws
  rw [hjoin]
  intro latest hlatest
  obtain ⟨k, hk⟩ := holds_of_latest hlatest
  have hlookup : ((s.registrations.lookup k).map
      (State.revalidateIf fun r => r.state = .registered || r.state = .registering))
        = some latest := (Table.lookup_mapVals _ _ _).symm.trans hk.stored
  obtain ⟨r, -, rfl⟩ := Option.map_eq_some_iff.mp hlookup
  rw [State.revalidateIf]
  split
  next => constructor <;> rintro ⟨⟩
  next hnot => simpa using hnot

/-- No registration is in force, and no plan is. -/
theorem quiet_joined (ws : List (WorkerId × WorkerBootId)) (s : State) :
  Quiet [] ((advanceEpoch s).2.join ws)
  := by
  have hquiet := Quiet.of_unowned (h := []) (advanceEpoch_unowned s)
  obtain ⟨_, _, hjoin⟩ := (advanceEpoch s).2.join_frame ws
  rw [hjoin]
  constructor
  · apply hquiet.registrations
  · apply hquiet.plans

/-- After a restart, the ends of a path that was direct may be registered again. -/
theorem registers_again (h : persistedFabric.Reachable w) (hreloaded : Reloaded w.state s)
    {ws : List (WorkerId × WorkerBootId)} (ht : (advanceEpoch s).2.join ws = t)
    (hwf : WellFormed t) {p : PlanRequestParams}
    (hdirect : (evaluatePath p w.state).eligibility.isDirect = true) {q : RegisterParams}
    (hpair : q.buffer = p.source ∧ q.endpoint = p.destination) {backend : Option Backend}
    (hmay : MayRegister q backend t) :
  ∃ r, (registerBuffer q backend t).1 = .ok r
  := by
  have hidle := pairIdle_joined q ws s
  rw [ht] at hidle
  obtain ⟨_, _, hjoin⟩ := (advanceEpoch s).2.join_frame ws
  rw [ht] at hjoin
  obtain ⟨b, e, hgrounds⟩ := (isDirect_iff_grounds h p).mp hdirect
  obtain ⟨hb, -, hactive⟩ := hgrounds.source
  obtain ⟨he, -, -, hsupport, -⟩ := hgrounds.destination
  have hwf' := wellFormed_of_reachable h
  have hbuffer : t.buffers.lookup p.source = some (recoveredBuffer b) := by
    rw [hjoin]
    apply (hreloaded.survive.buffers.lookup_eq (hwf'.buffers.mono fun _ _ hb => hb.1) _).trans
    rw [hb]
    rfl
  have hendpoint : t.endpoints.lookup p.destination = some (recoveredEndpoint e) := by
    rw [hjoin]
    apply (hreloaded.survive.endpoints.lookup_eq (hwf'.endpoints.mono fun _ _ he => he.1) _).trans
    rw [he]
    rfl
  have hallowed : RegisterAllowed q (recoveredBuffer b) (recoveredEndpoint e) t := by
    constructor
    · rw [hpair.1]
      apply hbuffer
    · apply hactive
    · rw [hpair.2]
      apply hendpoint
    · apply hsupport
    · apply hmay.epoch
    · apply hmay.live
    · rintro ⟨⟩
  obtain ⟨rr, hanswer⟩ := hmay.answers (recoveredBuffer b) (recoveredEndpoint e)
  have haccepts := hallowed.accepts hwf hmay.room hidle hanswer
  exact ⟨_, congrArg Prod.fst haccepts⟩

end

/-- A restart closes all direct paths, whichever workers register after it.  The first registration
of a pair then opens the paths between them that the ends and the directory allowed before, and such
a registration succeeds where a path was direct. -/
theorem restart_reopens {w : World} (h : persistedFabric.Reachable w) (hfits : w.state.Fits)
    {out s t : State} (hrecover : recoverFromFile (persistToFile w.state) out = (.ok (), s))
    (ws : List (WorkerId × WorkerBootId)) (ht : (advanceEpoch s).2.join ws = t)
    (p : PlanRequestParams) :
  (evaluatePath p t).eligibility.isDirect = false ∧
  ∀ q backend, q.buffer = p.source ∧ q.endpoint = p.destination →
    (∀ r, (registerBuffer q backend t).1 = .ok r →
      ((evaluatePath p (registerBuffer q backend t).2).eligibility.isDirect = true
        ↔ DirectEnds p w.state) ∧
      (DirectEnds p w.state →
        (evaluatePath p (registerBuffer q backend t).2).support = r.support)) ∧
    ((evaluatePath p w.state).eligibility.isDirect = true → MayRegister q backend t →
      ∃ r, (registerBuffer q backend t).1 = .ok r)
  := by
  have hwf := wellFormed_of_reachable h
  have hreloaded := reloaded_of_recovered hwf hfits hrecover
  obtain ⟨u, hu, hrestarted⟩ := reachable_restarted h hfits hrecover
  obtain ⟨v, hv, hstate⟩ := reachable_joined hu ws
  rw [hrestarted, ht] at hstate
  have hsame : SameEnds w.state t := by
    have hreopened := SameEnds.reloaded hwf (directoryNamed_of_reachable h) hreloaded
    rw [← ht]
    apply (hreopened.trans (.advanceEpoch s)).trans (.join ws _)
  have hends := hsame.directEnds_iff p
  constructor
  · rw [← ht]
    apply (quiet_joined ws s).evaluatePath_not_direct
  · intro q backend hpair
    constructor
    · intro r hr
      rw [← hends]
      rw [← hstate] at hr ⊢
      apply registration_opens hv hr hpair
    · intro hdirect hmay
      have hwf' := wellFormed_of_reachable hv
      rw [hstate] at hwf'
      apply registers_again h hreloaded ht hwf' hdirect hpair hmay

namespace Fixture

/-- Another worker has registered after the restart. -/
def rejoined : State := (advanceEpoch reloaded).2.join [(2, 1)]

end Fixture

/-- The path that was registered before the restart. -/
theorem restart_reopens_registered :
  (evaluatePath Fixture.request Fixture.rejoined).eligibility.isDirect = false ∧
  ∀ q backend, q.buffer = 6 ∧ q.endpoint = 4 →
    (∀ r, (registerBuffer q backend Fixture.rejoined).1 = .ok r →
      ((evaluatePath Fixture.request
        (registerBuffer q backend Fixture.rejoined).2).eligibility.isDirect = true
          ↔ DirectEnds Fixture.request Fixture.registered.state) ∧
      (DirectEnds Fixture.request Fixture.registered.state →
        (evaluatePath Fixture.request
          (registerBuffer q backend Fixture.rejoined).2).support = r.support)) ∧
    ((evaluatePath Fixture.request Fixture.registered.state).eligibility.isDirect = true →
      MayRegister q backend Fixture.rejoined →
      ∃ r, (registerBuffer q backend Fixture.rejoined).1 = .ok r)
  := by
  apply restart_reopens (Fixture.reachable_registered _) (by decide +kernel)
    (Fixture.recover_registered {}) [(2, 1)] rfl Fixture.request

example :
  (evaluatePath Fixture.request
    (registerBuffer
      { buffer := 6
        endpoint := 4
        authority := { worker := 2, boot := 1, epoch := 2 }
        support := .real } none Fixture.rejoined).2).eligibility = .directAllowed
  := by decide +kernel

end GpuDirectFabric
