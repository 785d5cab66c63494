import GpuDirectFabric.Eligibility
import GpuDirectFabric.Fencing

/-!
# Revalidation of direct paths

Between the plan of a direct transfer and its beginning some of the requirements of the direct
path cannot fail: the generations are fenced, and the size, domain, alignment and device of a
buffer and the class and support of an endpoint stay as they were made.  The health of the
endpoint, the provider, the capability and the owner of the registration may change, and
`begin_transfer` does not look at them again.
-/

namespace GpuDirectFabric

open Coordinator Persistence

/-! ### Suitable buffers and endpoints -/

/-- The buffer and the endpoint meet the requirements of the direct path for `bytes` that are
fixed about them. -/
structure Suits (source : BufferId) (destination : EndpointId) (bytes : ℕ) (s : State) : Prop where
  buffer : ∃ b, s.buffers.lookup source = some b ∧ valid source = true ∧ bytes ≤ b.size ∧
    PathPlanner.isGpuMemory b.domain = true ∧ 64 ≤ b.alignment ∧ bytes % b.alignment = 0 ∧
    valid b.device = true ∧ ∃ d, s.devices.lookup b.device = some d
  endpoint : ∃ e, s.endpoints.lookup destination = some e ∧ valid destination = true ∧
    e.endpointClass ≠ .unknown ∧ e.support ≠ .unsupported

/-- The records of `s` are still there in `s'`, with what is fixed about them. -/
structure State.Keeps (s s' : State) : Prop where
  buffer : ∀ k b, s.buffers.lookup k = some b →
    ∃ b', s'.buffers.lookup k = some b' ∧ b'.fixed = b.fixed
  endpoint : ∀ k e, s.endpoints.lookup k = some e →
    ∃ e', s'.endpoints.lookup k = some e' ∧ e'.fixed = e.fixed
  device : ∀ k d, s.devices.lookup k = some d → ∃ d', s'.devices.lookup k = some d'

theorem State.Keeps.refl (s : State) :
  s.Keeps s
  where
  buffer := fun _ b hb => ⟨b, hb, rfl⟩
  endpoint := fun _ e he => ⟨e, he, rfl⟩
  device := fun _ d hd => ⟨d, hd⟩

theorem State.Keeps.trans {s s' s'' : State} (h : s.Keeps s') (h' : s'.Keeps s'') :
  s.Keeps s''
  where
  buffer := by
    intro k b hb
    obtain ⟨b', hb', hfixed⟩ := h.buffer k b hb
    obtain ⟨b'', hb'', hfixed'⟩ := h'.buffer k b' hb'
    use b'', hb''
    rw [hfixed', hfixed]
  endpoint := by
    intro k e he
    obtain ⟨e', he', hfixed⟩ := h.endpoint k e he
    obtain ⟨e'', he'', hfixed'⟩ := h'.endpoint k e' he'
    use e'', he''
    rw [hfixed', hfixed]
  device := by
    intro k d hd
    obtain ⟨d', hd'⟩ := h.device k d hd
    apply h'.device k d' hd'

/-- Everything but a recovery keeps the records. -/
theorem Effect.keeps {e : Event} {s s' : State} (he : Effect e s s') (hwf : WellFormed s)
    (hrecover : ∀ file, e ≠ .recover file) :
  s.Keeps s'
  where
  buffer := fun _ _ hb => he.keeps_buffer hwf hrecover hb
  endpoint := fun _ _ hr => he.keeps_endpoint hwf hrecover hr
  device := fun _ _ hd => he.keeps_device hrecover hd

/-- What suits a request goes on to suit it while the records are kept. -/
theorem Suits.kept {source : BufferId} {destination : EndpointId} {bytes : ℕ} {s s' : State}
    (h : Suits source destination bytes s) (hkept : s.Keeps s') :
  Suits source destination bytes s'
  where
  buffer := by
    obtain ⟨b, hb, hvalid, hsize, hdomain, hle, hmod, hdevice, d, hd⟩ := h.buffer
    obtain ⟨b', hb', hfixed⟩ := hkept.buffer _ b hb
    obtain ⟨d', hd'⟩ := hkept.device _ d hd
    obtain ⟨hsize', halign', hdomain', hdevice', -⟩ :
        b'.size = b.size ∧ b'.alignment = b.alignment ∧ b'.domain = b.domain ∧
          b'.device = b.device ∧ b'.authority = b.authority := by
      simpa [BufferRecord.fixed] using hfixed
    refine ⟨b', hb', hvalid, ?_⟩
    rw [hsize', halign', hdomain', hdevice']
    exact ⟨hsize, hdomain, hle, hmod, hdevice, d', hd'⟩
  endpoint := by
    obtain ⟨r, hr, hvalid, hclass, hsupport⟩ := h.endpoint
    obtain ⟨r', hr', hfixed⟩ := hkept.endpoint _ r hr
    obtain ⟨hclass', hsupport'⟩ : r'.endpointClass = r.endpointClass ∧ r'.support = r.support := by
      simpa [EndpointRecord.fixed] using hfixed
    refine ⟨r', hr', hvalid, ?_⟩
    rw [hclass', hsupport']
    exact ⟨hclass, hsupport⟩

/-! ### What a decision is made from -/

/-- A record of evidence with an id is one of the table's. -/
theorem lookup_of_valid {V : Type} {t : Table V} (id : V → ℕ) {default : V} {k : ℕ}
    (hdefault : id default = 0) (h : valid (id ((t.lookup k).getD default)) = true) :
  ∃ v, t.lookup k = some v
  := by
  cases hlookup : t.lookup k with
  | some v => exact ⟨v, rfl⟩
  | none =>
      rw [hlookup, Option.getD_none, hdefault] at h
      cases h

section

variable {p : PlanRequestParams} {s : State}

theorem evidence_source {b : BufferRecord} (hb : s.buffers.lookup p.source = some b) :
  (buildEvidenceLocked p s).source = b
  := by
  rw [buildEvidenceLocked, hb]
  rfl

theorem evidence_destination {e : EndpointRecord} (he : s.endpoints.lookup p.destination = some e) :
  (buildEvidenceLocked p s).destination = e
  := by
  rw [buildEvidenceLocked, he]
  rfl

theorem evidence_device {b : BufferRecord} (hb : s.buffers.lookup p.source = some b) :
  (buildEvidenceLocked p s).device
    = if valid b.device then (s.devices.lookup b.device).getD {} else {}
  := by
  rw [buildEvidenceLocked, hb]
  rfl

end

/-- What a direct decision is made from suits the request. -/
theorem suits_of_direct {p : PlanRequestParams} {s : State} (hwf : WellFormed s)
    (h : (evaluatePath p s).eligibility.isDirect = true) :
  Suits p.source p.destination p.size s
  := by
  have hreq := (PathPlanner.evaluate_isDirect _ _).mp h
  obtain ⟨b, hb⟩ := lookup_of_valid BufferRecord.id rfl hreq.source.1
  obtain ⟨r, hr⟩ := lookup_of_valid EndpointRecord.id rfl hreq.destination.1
  have hsource := evidence_source hb
  have hdestination := evidence_destination hr
  constructor
  · refine ⟨b, hb, ?_⟩
    have hvalid := hreq.source.1
    have hdevice := hreq.device.1
    rw [hsource, hwf.buffer_id hb] at hvalid
    refine ⟨hvalid, hsource ▸ hreq.size, hsource ▸ hreq.domain, hsource ▸ hreq.alignment.1,
      hsource ▸ hreq.alignment.2, ?_⟩
    rw [evidence_device hb] at hdevice
    split at hdevice
    next hvalid => exact ⟨hvalid, lookup_of_valid DeviceRecord.id rfl hdevice⟩
    next => cases hdevice
  · refine ⟨r, hr, ?_⟩
    obtain ⟨hvalid, hclass⟩ := hreq.destination
    have hsupport := hreq.supported
    rw [hdestination] at hvalid hclass hsupport
    rw [hwf.endpoint_id hr] at hvalid
    exact ⟨hvalid, hclass, hsupport⟩

/-- The direct decisions still to commit, and the direct plans in force, are for suitable
buffers and endpoints. -/
structure Prepared (w : World) : Prop where
  pending : ∀ p d, (p, d) ∈ w.pending → d.eligibility.isDirect = true →
    Suits p.source p.destination p.size w.state
  plans : w.state.plans.All fun _ plan =>
    plan.authoritative = true → plan.eligibility.isDirect = true →
      Suits plan.source plan.destination plan.expectedBytes w.state

/-- A pending decision was pending before, or has just been made. -/
theorem World.mem_pending_next {w : World} {e : Event} {p : PlanRequestParams} {d : PathDecision}
    (h : (p, d) ∈ (w.next e).pending) :
  (p, d) ∈ w.pending ∨ e = .planSnapshot p ∧ d = evaluatePath p w.state
  := by
  cases e with
  | planSnapshot p' =>
      obtain heq | hold := List.mem_cons.mp h
      · obtain ⟨rfl, rfl⟩ := Prod.mk.inj heq
        exact .inr ⟨rfl, rfl⟩
      · exact .inl hold
  | planCommit => exact .inl (List.mem_of_mem_erase h)
  | _ => exact .inl h

namespace Prepared

variable {w : World}

theorem next {setting : Setting} {e : Event} (h : Prepared w) (hwf : WellFormed w.state)
    (hallowed : e.Allowed setting w) (hrecover : ∀ file, e ≠ .recover file) :
  Prepared (w.next e)
  := by
  have heffect := hallowed.effect
  constructor
  · intro p d hmem hdirect
    rw [World.next_state]
    apply Suits.kept _ (heffect.keeps hwf hrecover)
    obtain hold | ⟨rfl, rfl⟩ := World.mem_pending_next hmem
    · exact h.pending p d hold hdirect
    · exact suits_of_direct hwf hdirect
  · intro k plan hplan hauthoritative hdirect
    rw [World.next_state] at hplan ⊢
    apply Suits.kept _ (heffect.keeps hwf hrecover)
    obtain hold | ⟨p, d, rfl, -, hnew⟩ := heffect.authoritative hrecover hplan hauthoritative
    · exact h.plans k plan hold hauthoritative hdirect
    · rw [hnew.eligibility] at hdirect
      obtain ⟨src, hsrc, -, hsource, -⟩ := hnew.source
      obtain ⟨dst, hdst, -, hdestination, -⟩ := hnew.destination
      rw [hsource, hdestination, hnew.request.2, hwf.buffer_id hsrc, hwf.endpoint_id hdst]
      exact h.pending p d hallowed hdirect

/-- A recovery leaves no plan in force, and there may be no decision still to commit. -/
theorem recover {d : State} (h : Prepared w) (hpending : w.pending = []) (hd : d.Fits) :
  Prepared (w.next (.recover (persistToFile d)))
  := by
  have hpending' : (w.next (.recover (persistToFile d))).pending = [] := by
    simp only [World.next]
    exact hpending
  constructor
  · intro p decision hmem
    rw [hpending'] at hmem
    cases hmem
  · rw [World.next_state, apply]
    obtain hsame | hrecovered := recoverFromFile_persisted hd w.state
    · rw [hsame]
      exact h.plans
    · intro k plan hplan hauthoritative
      rw [hrecovered.unowned.plans k plan hplan] at hauthoritative
      cases hauthoritative

end Prepared

/-- No recovery comes between the snapshot of a plan and its commit. -/
def Orderly (h : List (World × Event)) : Prop :=
  ∀ u file, (u, Event.recover file) ∈ h → u.pending = []

/-- Coordinators that do not recover while a call of `plan_transfer` is in progress have orderly
runs. -/
theorem orderly_of_reachable {w : World} (h : (fabric ⟨false, false⟩ World.New).Reachable w) :
  ∃ h, persistedFabric.Run h w ∧ Orderly h
  := by
  obtain ⟨h, hrun⟩ := h
  use h
  induction hrun with
  | start hw => exact ⟨.start hw, nofun⟩
  | @step h w w' e run hs ih =>
      obtain ⟨hallowed, rfl⟩ := hs
      have hrecover : ∀ file, e ≠ .recover file := by
        rintro file rfl
        exact absurd hallowed.1 (by decide)
      have hallowed' : e.Allowed ⟨false, true⟩ w := by
        cases e with
        | recover file => exact absurd rfl (hrecover file)
        | _ => exact hallowed
      use ih.1.step ⟨hallowed', rfl⟩
      intro u file hmem
      obtain heq | hmem := List.mem_cons.mp hmem
      · exact absurd (Prod.mk.inj heq).2.symm (hrecover file)
      · exact ih.2 u file hmem
  | handover run donor hs ih ihd =>
      obtain ⟨hfits, hmay, rfl, rfl⟩ := hs
      use ih.1.handover ihd.1 ⟨hfits, .inl rfl, rfl, rfl⟩
      intro u file hmem
      obtain heq | hmem := List.mem_cons.mp hmem
      · obtain ⟨rfl, -⟩ := Prod.mk.inj heq
        exact hmay.resolve_left nofun
      · exact ih.2 u file hmem

theorem prepared_of_run {h : List (World × Event)} {w : World} (hrun : persistedFabric.Run h w)
    (horderly : Orderly h) :
  Prepared w
  := by
  induction hrun with
  | start hw =>
      obtain ⟨epoch, rfl⟩ := hw
      constructor
      · rintro p d ⟨⟩
      · exact .empty
  | @step h w w' e run hs ih =>
      obtain ⟨hallowed, rfl⟩ := hs
      apply (ih _).next (wellFormed_of_reachable ⟨h, run⟩) hallowed
      · rintro file rfl
        exact absurd hallowed.1 (by decide)
      · intro u file hmem
        exact horderly u file (List.mem_cons_of_mem _ hmem)
  | handover run donor hs ih =>
      obtain ⟨hfits, -, rfl, rfl⟩ := hs
      apply (ih _).recover (horderly _ _ List.mem_cons_self) hfits
      intro u file hmem
      exact horderly u file (List.mem_cons_of_mem _ hmem)

/-! ### What is checked again -/

/-- The request of a plan; the direction, which a plan does not record, is any. -/
def planRequest (plan : TransferPlan) (direction : Direction) : PlanRequestParams :=
  { source := plan.source
    destination := plan.destination
    direction := direction
    policy := plan.policy
    size := plan.expectedBytes }

/-- The endpoint is healthy, a provider for its class is available, and its direct capability is
supported. -/
def Reached (destination : EndpointId) (s : State) : Prop :=
  ∃ e, s.endpoints.lookup destination = some e ∧ e.healthy = true ∧
    (∃ v ∈ s.providers.values, v.name = PathPlanner.providerFor e.endpointClass ∧
      v.available = true ∧ v.support ≠ .unsupported) ∧
    ∃ c, s.capabilities.values.find? (fun c =>
        c.provider = PathPlanner.providerFor e.endpointClass &&
          c.capability = PathPlanner.capFor e.endpointClass) = some c ∧
      c.value = "true" ∧ c.support ≠ .unsupported

/-- The evidence for a direct path that may be withdrawn: the endpoint is reached, and the latest
registration of the pair is in force under a live authority. -/
structure Evidenced (source : BufferId) (destination : EndpointId) (s : State) : Prop where
  endpoint : Reached destination s
  registration : ∃ r, latestRegistration s source destination = some r ∧
    r.state = .registered ∧ s.workerLiveLocked r.authority = true

/-- Liveness in the evidence is liveness in the state. -/
theorem authorityLive_eq {p : PlanRequestParams} {s : State}
    (hworkers : s.workers.All fun k v => v.1 = k) (a : Authority) :
  PathPlanner.authorityLive a (buildEvidenceLocked p s) = s.workerLiveLocked a
  := by
  rw [PathPlanner.authorityLive, State.workerLiveLocked]
  congr 1
  congr 1
  apply Bool.eq_iff_iff.mpr
  rw [List.any_eq_true]
  constructor
  · rintro ⟨v, hv, hmatch⟩
    obtain ⟨k, hk⟩ := Table.mem_values.mp hv
    obtain ⟨hworker, hboot⟩ : v.1 = a.worker ∧ v.2 = a.boot := by simpa using hmatch
    rw [← hworker, hworkers k v hk, hk]
    simpa using hboot
  · intro h
    cases hlookup : s.workers.lookup a.worker with
    | none =>
        rw [hlookup] at h
        cases h
    | some v =>
        rw [hlookup] at h
        refine ⟨v, Table.mem_values.mpr ⟨_, hlookup⟩, ?_⟩
        rw [hworkers _ v hlookup]
        simpa using h

/-- Among records stored under their ids, the latest one with an id is the one looked up. -/
theorem latest_generation {V : Type} {t : Table V} {id generation : V → ℕ} {v latest : V}
    (hid : t.All fun k v => id v = k) (hv : t.lookup (id v) = some v)
    (h : PathPlanner.latest (fun u => id u = id v) generation t.values = some latest) :
  generation latest = generation v
  := by
  obtain ⟨hmem, hsame⟩ := PathPlanner.latest_mem h
  obtain ⟨k, hk⟩ := Table.mem_values.mp hmem
  have hkey : id latest = id v := by simpa using hsame
  rw [← hid k latest hk, hkey, hv] at hk
  rw [Option.some.inj hk]

/-- The latest registration of a buffer and an endpoint, if it is in force, is at their generations,
and the buffer is active. -/
theorem generations_of_latest {s : State} (h : s.fence.Sound) {buffer : BufferId}
    {endpoint : EndpointId} {b : BufferRecord} {e : EndpointRecord} {r : Registration}
    (hb : s.buffers.lookup buffer = some b) (he : s.endpoints.lookup endpoint = some e)
    (hr : latestRegistration s buffer endpoint = some r) (hstate : r.state = .registered) :
  b.lifecycle = .active ∧ r.bufferGeneration = b.generation ∧
    r.endpointGeneration = e.generation
  := by
  obtain ⟨hmem, hpair⟩ := PathPlanner.latest_mem hr
  obtain ⟨k, hk⟩ := Table.mem_values.mp hmem
  obtain ⟨rfl, rfl⟩ : r.buffer = buffer ∧ r.endpoint = endpoint := by simpa using hpair
  have hcurrent := registrationCurrent_of_sound h hk hstate
  obtain ⟨b', hb', hactive, hbgeneration⟩ := hcurrent.buffer
  obtain ⟨e', he', hegeneration⟩ := hcurrent.endpoint
  obtain rfl := Option.some.inj (hb.symm.trans hb')
  obtain rfl := Option.some.inj (he.symm.trans he')
  exact ⟨hactive, hbgeneration.symm, hegeneration.symm⟩

/-- The path of a request is direct exactly when the two ends suit it and the evidence stands. -/
theorem isDirect_iff_evidenced {w : World} (hw : persistedFabric.Reachable w)
    (p : PlanRequestParams) :
  (evaluatePath p w.state).eligibility.isDirect = true ↔
    Suits p.source p.destination p.size w.state ∧ Evidenced p.source p.destination w.state
  := by
  have hwf := wellFormed_of_reachable hw
  constructor
  · intro hdirect
    have hsuits := suits_of_direct hwf hdirect
    obtain ⟨b, hb, -⟩ := hsuits.buffer
    obtain ⟨e, he, -⟩ := hsuits.endpoint
    have hsource := evidence_source hb
    have hdestination := evidence_destination he
    have hreq := (PathPlanner.evaluate_isDirect _ _).mp hdirect
    use hsuits
    constructor
    · refine ⟨e, he, hdestination ▸ hreq.healthy, ?_, ?_⟩
      · exact PathPlanner.providerAvailable_iff.mp (hdestination ▸ hreq.provider)
      · exact hdestination ▸ hreq.capability
    · obtain ⟨r, hr, hstate, -, -, hlive⟩ := hreq.registration
      rw [hsource, hdestination, hwf.buffer_id hb, hwf.endpoint_id he] at hr
      rw [authorityLive_eq hwf.workers] at hlive
      exact ⟨r, hr, hstate, hlive⟩
  · rintro ⟨hsuits, ⟨e', he', hhealthy, hprovider, hcapability⟩, r, hr, hstate, hlive⟩
    obtain ⟨b, hb, hvalidSource, hsize, hdomain, hle, hmod, hvalidDevice, dev, hdev⟩ :=
      hsuits.buffer
    obtain ⟨e, he, hvalidDestination, hclass, hsupport⟩ := hsuits.endpoint
    obtain rfl := Option.some.inj (he.symm.trans he')
    have hsource := evidence_source hb
    have hdestination := evidence_destination he
    have hdevice := evidence_device hb
    rw [if_pos hvalidDevice, hdev, Option.getD_some] at hdevice
    have hbid := hwf.buffer_id hb
    have heid := hwf.endpoint_id he
    have hdid := hwf.devices _ _ hdev
    obtain ⟨hactive, hbgeneration, hegeneration⟩ :=
      generations_of_latest (fence_sound hw) hb he hr hstate
    apply (PathPlanner.evaluate_isDirect _ _).mpr
    constructor
    · rw [hsource, hbid]
      exact ⟨hvalidSource, hactive⟩
    · rw [hsource]
      exact hsize
    · rw [hdestination, heid]
      exact ⟨hvalidDestination, hclass⟩
    · rw [hdestination]
      exact hsupport
    · rw [hdestination]
      exact hhealthy
    · rw [hdestination]
      intro latest hlatest
      exact latest_generation (fun k e he => hwf.endpoint_id he) (by rw [heid, he]) hlatest
    · rw [hsource]
      exact hdomain
    · rw [hdevice, hdid]
      use hvalidDevice
      intro latest hlatest
      rw [← hdid] at hlatest
      exact latest_generation hwf.devices (by rw [hdid, hdev]) hlatest
    · rw [hdestination]
      exact PathPlanner.providerAvailable_iff.mpr hprovider
    · rw [hdestination]
      exact hcapability
    · rw [hsource, hdestination, hbid, heid]
      refine ⟨r, hr, hstate, hbgeneration, hegeneration, ?_⟩
      rw [authorityLive_eq hwf.workers]
      exact hlive
    · rw [hsource]
      exact ⟨hle, hmod⟩

/-- When a transfer begins on a direct plan, the path is still direct exactly when the evidence that
`begin_transfer` does not look at again still stands.  The two ends suit the plan by themselves,
unless a recovery has come between the snapshot of a plan and its commit. -/
theorem direct_again_iff {h : List (World × Event)} {w : World} (hrun : persistedFabric.Run h w)
    {planId : TransferPlanId} {authority : Authority} {backend : Option Backend}
    {attempt : TransferAttempt} {plan : TransferPlan}
    (hbegin : (beginTransfer planId authority backend w.state).1 = .ok attempt)
    (hplan : w.state.plans.lookup planId = some plan)
    (hdirect : plan.eligibility.isDirect = true) (direction : Direction) :
  (evaluatePath (planRequest plan direction) w.state).eligibility.isDirect = true ↔
    (Orderly h ∨ Suits plan.source plan.destination plan.expectedBytes w.state) ∧
      Evidenced plan.source plan.destination w.state
  := by
  apply (isDirect_iff_evidenced ⟨h, hrun⟩ (planRequest plan direction)).trans
  apply and_congr_left
  intro _
  constructor
  · intro hsuits
    right
    apply hsuits
  · rintro (horderly | hsuits)
    · obtain ⟨-, plan', hready⟩ := ready_of_ok hbegin
      obtain rfl := Option.some.inj (hplan.symm.trans hready.stored)
      exact (prepared_of_run hrun horderly).plans _ _ hplan hready.authoritative hdirect
    · apply hsuits

namespace Fixture

/-- The planned world after the endpoint has been reported unhealthy. -/
def unhealthy : World := planned.next (.setEndpointHealth 4 false {})

theorem reachable_unhealthy (setting : Setting) :
  (fabric setting World.New).Reachable unhealthy
  := reachable_next (reachable_planned setting) trivial

/-- The attempt the owner begins without a backend. -/
def attempt : TransferAttempt :=
  ((beginTransfer 8 owner none planned.state).2.attempts.lookup 10).getD {}

end Fixture

theorem direct_again_iff_fixture :
  (evaluatePath (planRequest Fixture.plan .gpuToPeer)
      Fixture.planned.state).eligibility.isDirect = true ↔
    Evidenced Fixture.plan.source Fixture.plan.destination Fixture.planned.state
  := by
  obtain ⟨h, hrun, horderly⟩ := orderly_of_reachable (Fixture.reachable_planned _)
  have hbegin : (beginTransfer 8 Fixture.owner none Fixture.planned.state).1
      = .ok Fixture.attempt := by
    decide +kernel
  apply (direct_again_iff hrun hbegin Fixture.lookup_plan (by decide +kernel) .gpuToPeer).trans
  apply and_iff_right
  left
  apply horderly

/-- The endpoint has become unhealthy, and the direct transfer begins all the same. -/
theorem direct_not_again :
  persistedFabric.Reachable Fixture.unhealthy ∧
  (beginTransfer 8 Fixture.owner none Fixture.unhealthy.state).1 = .ok Fixture.attempt ∧
  Fixture.unhealthy.state.plans.lookup 8 = some Fixture.plan ∧
  Fixture.plan.eligibility.isDirect = true ∧
  ∀ direction, (evaluatePath (planRequest Fixture.plan direction)
    Fixture.unhealthy.state).eligibility.isDirect = false
  := by
  refine ⟨Fixture.reachable_unhealthy _, by decide +kernel, by decide +kernel, by decide +kernel,
    ?_⟩
  intro direction
  cases direction with
  | gpuToPeer => decide +kernel
  | peerToGpu => decide +kernel

end GpuDirectFabric
