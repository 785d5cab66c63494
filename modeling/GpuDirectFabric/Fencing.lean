import GpuDirectFabric.Frames
import GpuDirectFabric.WellFormed

/-!
# The generation and epoch fence

Registrations, plans and attempts in force cite buffers, endpoints and the epoch at the
generation they were made at.  An operation that moves one of these on takes everything that
cites it out of force, so what is in force is current.
-/

namespace GpuDirectFabric

open Coordinator Persistence

/-- What can be cited: a buffer that exists, a buffer that is active, an endpoint, the epoch. -/
inductive Resource where
  | buffer (id : BufferId)
  | activeBuffer (id : BufferId)
  | endpoint (id : EndpointId)
  | epoch

/-- What cites. -/
inductive Holder where
  | registration (id : RegistrationId)
  | plan (id : TransferPlanId)
  | attempt (id : TransferAttemptId)

namespace State

/-- The current generation of a resource. -/
def current (s : State) : Resource → Option ℕ
  | .buffer id => (s.buffers.lookup id).map BufferRecord.generation
  | .activeBuffer id => (s.buffers.lookup id).bind fun b =>
      if b.lifecycle = .active then some b.generation else none
  | .endpoint id => (s.endpoints.lookup id).map EndpointRecord.generation
  | .epoch => some s.epoch

/-- The citations of the registrations that are `REGISTERED`, of the plans that are
authoritative, and of the attempts of these plans. -/
inductive Cites (s : State) : Holder → Resource → ℕ → Prop
  | registrationBuffer {k : RegistrationId} {r : Registration}
      (hr : s.registrations.lookup k = some r) (hstate : r.state = .registered) :
      Cites s (.registration k) (.activeBuffer r.buffer) r.bufferGeneration
  | registrationEndpoint {k : RegistrationId} {r : Registration}
      (hr : s.registrations.lookup k = some r) (hstate : r.state = .registered) :
      Cites s (.registration k) (.endpoint r.endpoint) r.endpointGeneration
  | registrationEpoch {k : RegistrationId} {r : Registration}
      (hr : s.registrations.lookup k = some r) (hstate : r.state = .registered) :
      Cites s (.registration k) .epoch r.authority.epoch
  | planSource {k : TransferPlanId} {p : TransferPlan} (hp : s.plans.lookup k = some p)
      (hauthoritative : p.authoritative = true) :
      Cites s (.plan k) (.buffer p.source) p.sourceGeneration
  | planDestination {k : TransferPlanId} {p : TransferPlan} (hp : s.plans.lookup k = some p)
      (hauthoritative : p.authoritative = true) :
      Cites s (.plan k) (.endpoint p.destination) p.destinationGeneration
  | planEpoch {k : TransferPlanId} {p : TransferPlan} (hp : s.plans.lookup k = some p)
      (hauthoritative : p.authoritative = true) :
      Cites s (.plan k) .epoch p.epoch
  | attemptEpoch {k : TransferAttemptId} {a : TransferAttempt} {p : TransferPlan}
      (ha : s.attempts.lookup k = some a) (hp : s.plans.lookup a.planId = some p)
      (hauthoritative : p.authoritative = true) :
      Cites s (.attempt k) .epoch a.epoch

/-- The fence of a state. -/
def fence (s : State) : Fence Resource ℕ Holder where
  current := s.current
  cites := s.Cites

/-! ### Moving resources on -/

theorem current_buffer {s : State} {id : BufferId} {g : ℕ} :
  s.current (.buffer id) = some g ↔ ∃ b, s.buffers.lookup id = some b ∧ b.generation = g
  := Option.map_eq_some_iff

theorem current_activeBuffer {s : State} {id : BufferId} {g : ℕ} :
  s.current (.activeBuffer id) = some g ↔
    ∃ b, s.buffers.lookup id = some b ∧ b.lifecycle = .active ∧ b.generation = g
  := by
  rw [current, Option.bind_eq_some_iff]
  simp

theorem current_endpoint {s : State} {id : EndpointId} {g : ℕ} :
  s.current (.endpoint id) = some g ↔ ∃ e, s.endpoints.lookup id = some e ∧ e.generation = g
  := Option.map_eq_some_iff

/-- Storing a buffer moves nothing else on. -/
theorem current_insertBuffer {s : State} {k : BufferId} {b : BufferRecord} {r : Resource} {g : ℕ}
    (hgeneration : r = .buffer k ∨ r = .activeBuffer k → ∀ b', s.buffers.lookup k = some b' →
      b.generation = b'.generation)
    (hlifecycle : r = .activeBuffer k → ∀ b', s.buffers.lookup k = some b' →
      b.lifecycle = b'.lifecycle)
    (h : s.current r = some g) :
  { s with buffers := s.buffers.insert k b }.current r = some g
  := by
  cases r with
  | buffer id =>
      obtain ⟨b', hb', rfl⟩ := current_buffer.mp h
      rw [current_buffer, Table.lookup_insert_eq]
      split
      next hid =>
        subst hid
        exact ⟨b, rfl, hgeneration (.inl rfl) b' hb'⟩
      next => exact ⟨b', hb', rfl⟩
  | activeBuffer id =>
      obtain ⟨b', hb', hactive, rfl⟩ := current_activeBuffer.mp h
      rw [current_activeBuffer, Table.lookup_insert_eq]
      split
      next hid =>
        subst hid
        exact ⟨b, rfl, (hlifecycle rfl b' hb').trans hactive, hgeneration (.inr rfl) b' hb'⟩
      next => exact ⟨b', hb', hactive, rfl⟩
  | endpoint id => exact h
  | epoch => exact h

/-- Storing a registration moves nothing on. -/
theorem current_acceptRegistration {s : State} {p : RegisterParams} {buffer : BufferRecord}
    {endpoint : EndpointRecord} {latest : Option Registration} {rr : RegisterResult}
    {r : Resource} {g : ℕ} (hbuffer : s.buffers.lookup p.buffer = some buffer)
    (h : s.current r = some g) :
  (acceptRegistration p buffer endpoint latest rr s).2.current r = some g
  := by
  refine current_insertBuffer ?_ ?_ h
  · intro _ b hb
    obtain rfl := Option.some.inj (hbuffer.symm.trans hb)
    rfl
  · intro _ b hb
    obtain rfl := Option.some.inj (hbuffer.symm.trans hb)
    rfl

/-- Storing an endpoint moves nothing else on. -/
theorem current_insertEndpoint {s : State} {k : EndpointId} {e : EndpointRecord} {r : Resource}
    {g : ℕ} (hgeneration : r = .endpoint k → ∀ e', s.endpoints.lookup k = some e' →
      e.generation = e'.generation)
    (h : s.current r = some g) :
  { s with endpoints := s.endpoints.insert k e }.current r = some g
  := by
  cases r with
  | buffer id => exact h
  | activeBuffer id => exact h
  | endpoint id =>
      obtain ⟨e', he', rfl⟩ := current_endpoint.mp h
      rw [current_endpoint, Table.lookup_insert_eq]
      split
      next hid =>
        subst hid
        exact ⟨e, rfl, hgeneration rfl e' he'⟩
      next => exact ⟨e', he', rfl⟩
  | epoch => exact h

/-- After a buffer's dependents are invalidated nothing cites it. -/
theorem not_cites_buffer (s : State) (id : BufferId) (d : Holder) (g : ℕ) :
  ¬(s.invalidateBufferDependentsLocked id).Cites d (.buffer id) g ∧
    ¬(s.invalidateBufferDependentsLocked id).Cites d (.activeBuffer id) g
  := by
  constructor
  · intro hcite
    cases hcite with
    | planSource hp hauthoritative =>
        obtain ⟨-, hne⟩ := lookup_supersedeIf hp hauthoritative
        simp at hne
  · intro hcite
    cases hcite with
    | registrationBuffer hr hstate =>
        obtain ⟨-, hne⟩ := lookup_revalidateIf hr hstate
        simp at hne

theorem not_cites_endpoint (s : State) (id : EndpointId) (d : Holder) (g : ℕ) :
  ¬(s.invalidateEndpointDependentsLocked id).Cites d (.endpoint id) g
  := by
  intro hcite
  cases hcite with
  | registrationEndpoint hr hstate =>
      obtain ⟨-, hne⟩ := lookup_revalidateIf hr hstate
      simp at hne
  | planDestination hp hauthoritative =>
      obtain ⟨-, hne⟩ := lookup_supersedeIf hp hauthoritative
      simp at hne

theorem current_rearranged {s s' : State} (hs : s.Rearranged s') :
  s'.current = s.current
  := by
  funext r
  cases r with
  | buffer id => rw [current, current, hs.buffers.lookup]
  | activeBuffer id => rw [current, current, hs.buffers.lookup]
  | endpoint id => rw [current, current, hs.endpoints.lookup]
  | epoch => rw [current, current, hs.epoch]

/-- Where no registration is `REGISTERED` and no plan authoritative, nothing is cited. -/
theorem not_cites_unowned {s : State} (h : Unowned s) (d : Holder) (r : Resource) (g : ℕ) :
  ¬s.Cites d r g
  := by
  intro hcite
  cases hcite with
  | registrationBuffer hr hstate => exact h.registrations _ _ hr hstate
  | registrationEndpoint hr hstate => exact h.registrations _ _ hr hstate
  | registrationEpoch hr hstate => exact h.registrations _ _ hr hstate
  | planSource hp hauthoritative => simp [h.plans _ _ hp] at hauthoritative
  | planDestination hp hauthoritative => simp [h.plans _ _ hp] at hauthoritative
  | planEpoch hp hauthoritative => simp [h.plans _ _ hp] at hauthoritative
  | attemptEpoch ha hp hauthoritative => simp [h.plans _ _ hp] at hauthoritative

end State

/-! ### Effects are fenced -/

namespace Effect

variable {e : Event} {s s' : State}

/-- What an effect moves on, nothing cites afterwards. -/
theorem revoked (h : WellFormed s) (he : Effect e s s') (hrecover : ∀ file, e ≠ .recover file)
    {d : Holder} {r : Resource} {g g' : ℕ} (hcurrent : s.current r = some g)
    (hmoved : s'.current r ≠ some g) :
  ¬s'.Cites d r g'
  := by
  cases he with
  | advanceEpoch => exact State.not_cites_unowned (advanceEpoch_unowned s) d r g'
  | createBuffer =>
      refine absurd (State.current_insertBuffer ?_ ?_ hcurrent) hmoved
      · intro _ b hb
        rw [h.buffer_fresh (Nat.lt_succ_self _)] at hb
        cases hb
      · intro _ b hb
        rw [h.buffer_fresh (Nat.lt_succ_self _)] at hb
        cases hb
  | @advanceBufferGeneration _ id authority b hb =>
      by_cases hr : r = .buffer id ∨ r = .activeBuffer id
      · obtain rfl | rfl := hr
        · exact (State.not_cites_buffer _ id d g').1
        · exact (State.not_cites_buffer _ id d g').2
      · refine absurd (State.current_insertBuffer ?_ ?_ hcurrent) hmoved
        · intro hr'
          exact absurd hr' hr
        · intro hr'
          exact absurd (.inr hr') hr
  | @retireBuffer _ id authority b hb =>
      by_cases hr : r = .activeBuffer id
      · rw [hr]
        exact (State.not_cites_buffer _ id d g').2
      · refine absurd (State.current_insertBuffer ?_ ?_ hcurrent) hmoved
        · intro _ b' hb'
          obtain rfl := Option.some.inj (hb.symm.trans hb')
          rfl
        · intro hr'
          exact absurd hr' hr
  | addEndpoint =>
      refine absurd (State.current_insertEndpoint ?_ hcurrent) hmoved
      intro _ e he
      rw [h.endpoint_fresh (Nat.lt_succ_self _)] at he
      cases he
  | @advanceEndpointGeneration _ id =>
      by_cases hr : r = .endpoint id
      · rw [hr]
        exact State.not_cites_endpoint _ id d g'
      · refine absurd (State.current_insertEndpoint ?_ hcurrent) hmoved
        intro hr'
        exact absurd hr' hr
  | setEndpointHealth he =>
      refine absurd (State.current_insertEndpoint ?_ hcurrent) hmoved
      intro _ e he'
      obtain rfl := Option.some.inj (he.symm.trans he')
      rfl
  | registerBuffer haccepted hretired =>
      obtain ⟨registrations, rfl⟩ := hretired.frame
      have hkept : ({ s with registrations := registrations } : State).current r = some g :=
        hcurrent
      apply absurd _ hmoved
      apply State.current_acceptRegistration _ hkept
      exact haccepted.buffer
  | deregisterCached hreg hb =>
      refine absurd (State.current_insertBuffer ?_ ?_ hcurrent) hmoved
      · intro _ b hb'
        obtain rfl := Option.some.inj (hb.symm.trans hb')
        rfl
      · intro _ b hb'
        obtain rfl := Option.some.inj (hb.symm.trans hb')
        rfl
  | planFallback =>
      have hfresh := h.buffer_fresh (Nat.lt_add_of_pos_right (by decide : 0 < 3))
      refine absurd (State.current_insertBuffer ?_ ?_ hcurrent) hmoved
      · intro _ b hb
        cases hfresh.symm.trans hb
      · intro _ b hb
        cases hfresh.symm.trans hb
  | rehash hs =>
      rw [State.current_rearranged hs] at hmoved
      exact absurd hcurrent hmoved
  | recover => exact absurd rfl (hrecover _)
  | _ => exact absurd hcurrent hmoved

/-- What an effect cites anew was current before it. -/
theorem granted_before (h : WellFormed s) (he : Effect e s s')
    (hrecover : ∀ file, e ≠ .recover file) {d : Holder} {r : Resource} {g : ℕ}
    (hcite : s'.Cites d r g) :
  s.Cites d r g ∨ s.current r = some g
  := by
  cases hcite with
  | registrationBuffer hr hstate =>
      obtain hold | ⟨p, backend, rfl, hnew⟩ := he.registered hrecover hr hstate
      · exact .inl (.registrationBuffer hold hstate)
      · obtain ⟨b, hb, hactive, hid, hgeneration, -⟩ := hnew.buffer
        right
        rw [hid, h.buffer_id hb, hgeneration]
        exact State.current_activeBuffer.mpr ⟨b, hb, hactive, rfl⟩
  | registrationEndpoint hr hstate =>
      obtain hold | ⟨p, backend, rfl, hnew⟩ := he.registered hrecover hr hstate
      · exact .inl (.registrationEndpoint hold hstate)
      · obtain ⟨e, he, hid, hgeneration⟩ := hnew.endpoint
        right
        rw [hid, h.endpoint_id he, hgeneration]
        exact State.current_endpoint.mpr ⟨e, he, rfl⟩
  | registrationEpoch hr hstate =>
      obtain hold | ⟨p, backend, rfl, hnew⟩ := he.registered hrecover hr hstate
      · exact .inl (.registrationEpoch hold hstate)
      · right
        rw [hnew.authority, hnew.epoch]
        rfl
  | planSource hp hauthoritative =>
      obtain hold | ⟨p, d, rfl, -, hnew⟩ := he.authoritative hrecover hp hauthoritative
      · exact .inl (.planSource hold hauthoritative)
      · obtain ⟨src, hsrc, -, hid, hgeneration, -⟩ := hnew.source
        right
        rw [hid, h.buffer_id hsrc, hgeneration]
        exact State.current_buffer.mpr ⟨src, hsrc, rfl⟩
  | planDestination hp hauthoritative =>
      obtain hold | ⟨p, d, rfl, -, hnew⟩ := he.authoritative hrecover hp hauthoritative
      · exact .inl (.planDestination hold hauthoritative)
      · obtain ⟨dst, hdst, -, hid, hgeneration⟩ := hnew.destination
        right
        rw [hid, h.endpoint_id hdst, hgeneration]
        exact State.current_endpoint.mpr ⟨dst, hdst, rfl⟩
  | planEpoch hp hauthoritative =>
      obtain hold | ⟨p, d, rfl, -, hnew⟩ := he.authoritative hrecover hp hauthoritative
      · exact .inl (.planEpoch hold hauthoritative)
      · right
        rw [hnew.epoch]
        rfl
  | attemptEpoch ha hp hauthoritative =>
      obtain ⟨a, ha, hplanId, hepoch, -⟩ | ⟨planId, authority, backend, rfl, hnew⟩ :=
        he.attempt hrecover ha
      · rw [hplanId] at hp
        rw [hepoch]
        obtain hold | ⟨p, d, rfl, hk, hnew⟩ := he.authoritative hrecover hp hauthoritative
        · exact .inl (.attemptEpoch ha hold hauthoritative)
        · have hle := (h.attempts _ _ ha).2.2
          rw [hk, hnew.id] at hle
          exact absurd hle (Nat.not_succ_le_self _)
      · right
        rw [hnew.epoch]
        rfl

/-- Every effect but a recovery is a step of the fence. -/
theorem fence_step (h : WellFormed s) (he : Effect e s s')
    (hrecover : ∀ file, e ≠ .recover file) :
  s.fence.Step s'.fence
  where
  revoked _ _ _ _ := he.revoked h hrecover
  granted d r g hcite := by
    obtain hold | hcurrent := he.granted_before h hrecover hcite
    · exact .inl hold
    · right
      by_contra hmoved
      exact he.revoked h hrecover hcurrent hmoved hcite

end Effect

/-! ### Reachable states -/

/-- In every reachable state what is in force is current. -/
theorem fence_sound {w : World} (h : persistedFabric.Reachable w) :
  w.state.fence.Sound
  := by
  refine (persistedFabric_invariant (P := fun s => s.fence.Sound) ?_ ?_ ?_ h).2
  · intro epoch
    apply Fence.Sound.of_no_cites
    apply State.not_cites_unowned
    exact ⟨rfl, .empty, .empty⟩
  · intro e s hwf hs he hrecover
    exact hs.step (he.fence_step hwf hrecover)
  · intro d s _ hs
    apply Fence.Sound.of_no_cites
    exact State.not_cites_unowned hs.unowned

/-- The plan is of the current epoch, and its buffer and endpoint exist at the generations it was
made at. -/
structure PlanCurrent (s : State) (plan : TransferPlan) : Prop where
  epoch : plan.epoch = s.epoch
  source : ∃ b, s.buffers.lookup plan.source = some b ∧ b.generation = plan.sourceGeneration
  destination : ∃ e, s.endpoints.lookup plan.destination = some e ∧
    e.generation = plan.destinationGeneration

theorem planCurrent_of_sound {s : State} (h : s.fence.Sound) {k : TransferPlanId}
    {plan : TransferPlan} (hplan : s.plans.lookup k = some plan)
    (hauthoritative : plan.authoritative = true) :
  PlanCurrent s plan
  where
  epoch := (Option.some.inj (h _ _ _ (.planEpoch hplan hauthoritative))).symm
  source := State.current_buffer.mp (h _ _ _ (.planSource hplan hauthoritative))
  destination := State.current_endpoint.mp (h _ _ _ (.planDestination hplan hauthoritative))

/-- In every reachable state the authoritative plans are current, and a completion that newly
publishes a `COMPLETED` receipt completes an attempt of the current epoch, of a current plan. -/
theorem generation_fence {w : World} (h : persistedFabric.Reachable w) :
  (∀ k plan, w.state.plans.lookup k = some plan → plan.authoritative = true →
    PlanCurrent w.state plan) ∧
  ∀ id authority k receipt,
    (completeTransfer id authority w.state).2.receipts.lookup k = some receipt →
    receipt.state = .completed → w.state.receipts.lookup k ≠ some receipt →
    ∃ attempt plan, k = id ∧ w.state.attempts.lookup id = some attempt ∧
      w.state.plans.lookup attempt.planId = some plan ∧ plan.authoritative = true ∧
      PlanCurrent w.state plan ∧ attempt.epoch = w.state.epoch
  := by
  have hsound := fence_sound h
  constructor
  · intro k plan hplan hauthoritative
    exact planCurrent_of_sound hsound hplan hauthoritative
  · intro id authority k receipt hreceipt hstate hnew
    obtain hold | ⟨attempt, plan, hattempt, hplan, hauthoritative, -, hk, -⟩ :=
      completeTransfer_completed hreceipt hstate
    · exact absurd hold hnew
    · have hepoch := hsound _ _ _ (.attemptEpoch hattempt hplan hauthoritative)
      exact ⟨attempt, plan, hk, hattempt, hplan, hauthoritative,
        planCurrent_of_sound hsound hplan hauthoritative, (Option.some.inj hepoch).symm⟩

theorem generation_fence_fixture :
  PlanCurrent Fixture.planned.state Fixture.plan ∧
    ∃ attempt plan, 10 = 10 ∧ Fixture.begun.state.attempts.lookup 10 = some attempt ∧
      Fixture.begun.state.plans.lookup attempt.planId = some plan ∧ plan.authoritative = true ∧
      PlanCurrent Fixture.begun.state plan ∧ attempt.epoch = Fixture.begun.state.epoch
  := ⟨(generation_fence (Fixture.reachable_planned _)).1 8 _ Fixture.lookup_plan (by decide),
    (generation_fence (Fixture.reachable_begun _)).2 10 Fixture.owner 10 Fixture.receipt
      (by decide) (by decide) (by decide)⟩

/-- The registration is for an active buffer and an endpoint at their current generations, under
an authority of the current epoch. -/
structure RegistrationCurrent (s : State) (r : Registration) : Prop where
  buffer : ∃ b, s.buffers.lookup r.buffer = some b ∧ b.lifecycle = .active ∧
    b.generation = r.bufferGeneration
  endpoint : ∃ e, s.endpoints.lookup r.endpoint = some e ∧ e.generation = r.endpointGeneration
  epoch : r.authority.epoch = s.epoch

theorem registrationCurrent_of_sound {s : State} (h : s.fence.Sound) {k : RegistrationId}
    {r : Registration} (hr : s.registrations.lookup k = some r) (hstate : r.state = .registered) :
  RegistrationCurrent s r
  where
  buffer := State.current_activeBuffer.mp (h _ _ _ (.registrationBuffer hr hstate))
  endpoint := State.current_endpoint.mp (h _ _ _ (.registrationEndpoint hr hstate))
  epoch := (Option.some.inj (h _ _ _ (.registrationEpoch hr hstate))).symm

/-- In every reachable state the `REGISTERED` registrations are current, and a direct plan, whatever
the decision it is committed with, is bound to a `REGISTERED` registration of its buffer and
endpoint at its own generations. -/
theorem registered_current {w : World} (h : persistedFabric.Reachable w) :
  (∀ k r, w.state.registrations.lookup k = some r → r.state = .registered →
    RegistrationCurrent w.state r) ∧
  ∀ p d plan, (planTransferCommit p d w.state).1 = .ok plan → plan.eligibility.isDirect = true →
    ∃ r, w.state.registrations.lookup plan.registrationId = some r ∧ r.state = .registered ∧
      r.generation = plan.registrationGeneration ∧
      r.buffer = plan.source ∧ r.bufferGeneration = plan.sourceGeneration ∧
      r.endpoint = plan.destination ∧ r.endpointGeneration = plan.destinationGeneration
  := by
  have hwf := wellFormed_of_reachable h
  have hsound := fence_sound h
  constructor
  · intro k r hr hstate
    exact registrationCurrent_of_sound hsound hr hstate
  · intro p d plan hplan hdirect
    have hplanned := planned_of_ok hplan
    rw [hplanned.eligibility] at hdirect
    obtain ⟨r, hr, hid, hgeneration, -⟩ := hplanned.direct hdirect
    obtain ⟨hlookup, hbuffer, hendpoint, hstate⟩ := registeredRegistration_spec hwf hr
    have hcurrent := registrationCurrent_of_sound hsound hlookup hstate
    obtain ⟨src, hsrc, -, hsource, hsourceGeneration, -⟩ := hplanned.source
    obtain ⟨dst, hdst, -, hdestination, hdestinationGeneration⟩ := hplanned.destination
    obtain ⟨b, hb, -, hbGeneration⟩ := hcurrent.buffer
    obtain ⟨e, he, heGeneration⟩ := hcurrent.endpoint
    rw [hbuffer, hsource, hwf.buffer_id hsrc] at hb
    rw [hendpoint, hdestination, hwf.endpoint_id hdst] at he
    obtain rfl := Option.some.inj (hsrc.symm.trans hb)
    obtain rfl := Option.some.inj (hdst.symm.trans he)
    rw [hid]
    exact ⟨r, hlookup, hstate, hgeneration.symm, hbuffer, by rw [hsourceGeneration, hbGeneration],
      hendpoint, by rw [hdestinationGeneration, heGeneration]⟩

theorem registered_current_fixture :
  (∀ r, Fixture.registered.state.registrations.lookup 7 = some r → r.state = .registered →
    RegistrationCurrent Fixture.registered.state r) ∧
  ∃ r, Fixture.registered.state.registrations.lookup Fixture.plan.registrationId = some r ∧
    r.state = .registered ∧ r.generation = Fixture.plan.registrationGeneration ∧
    r.buffer = Fixture.plan.source ∧ r.bufferGeneration = Fixture.plan.sourceGeneration ∧
    r.endpoint = Fixture.plan.destination ∧
    r.endpointGeneration = Fixture.plan.destinationGeneration
  := ⟨(registered_current (Fixture.reachable_registered _)).1 7,
    (registered_current (Fixture.reachable_registered _)).2 Fixture.request
      (evaluatePath Fixture.request Fixture.registered.state) Fixture.plan (by decide) (by decide)⟩

end GpuDirectFabric
