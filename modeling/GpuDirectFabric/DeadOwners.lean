import GpuDirectFabric.Frames

/-!
# Dead owners

A transfer involves the authorities of its plan, of the registration the plan is bound to, and
of its attempt.  A worker that begins or completes a transfer shows that it is live, and with it
the owners of the plan and the attempt, which are then the same worker.  A caller that is not a
worker shows nothing.
-/

namespace GpuDirectFabric

open Coordinator Persistence

/-- When the authority is a worker's, it is live. -/
def State.OwnerLive (s : State) (a : Authority) : Prop :=
  a.workerOwned = true → s.workerLiveLocked a = true

/-- The authorities a transfer involves are live. -/
structure AllLive (s : State) (plan : TransferPlan) (attempt : TransferAttempt) : Prop where
  planOwner : s.OwnerLive plan.authority
  boundOwner : ∀ r, s.registrations.lookup plan.registrationId = some r →
    s.OwnerLive r.authority
  attemptOwner : s.OwnerLive attempt.authority

/-- The caller is a worker, or else the owners of the plan and of the attempt are live; and the
registration the plan is bound to is one of the plan's own buffer, which a worker owns, or else
its owner is live. -/
structure Covered (s : State) (caller owner : Authority) (plan : TransferPlan) : Prop where
  owners : caller.workerOwned = true ∨ s.OwnerLive plan.authority ∧ s.OwnerLive owner
  boundOwner : ∀ r, s.registrations.lookup plan.registrationId = some r →
    plan.authority.workerOwned = true ∧ r.buffer = plan.source ∨ s.OwnerLive r.authority

/-- The authorities in force agree with the owners of the buffers. -/
structure Owned (s : State) : Prop where
  registrations : s.registrations.All fun _ r => r.state = .registered →
    ∃ b, s.buffers.lookup r.buffer = some b ∧
      (b.authority.workerOwned = true → r.authority = b.authority)
  plans : s.plans.All fun _ plan => plan.authoritative = true →
    ∃ b, s.buffers.lookup plan.source = some b ∧ plan.authority = b.authority
  bound : ∀ k plan r, s.plans.lookup k = some plan → plan.authoritative = true →
    s.registrations.lookup plan.registrationId = some r → r.buffer = plan.source →
    plan.authority.workerOwned = true → r.authority = plan.authority
  attempts : ∀ k a plan, s.attempts.lookup k = some a → s.plans.lookup a.planId = some plan →
    plan.authoritative = true → a.authority.workerOwned = true →
    plan.authority.workerOwned = true → a.authority = plan.authority

namespace Owned

variable {s s' : State}

theorem of_unowned (h : Unowned s) :
  Owned s
  where
  registrations k r hr hstate := absurd hstate (h.registrations k r hr)
  plans k plan hplan hauthoritative := by
    rw [h.plans k plan hplan] at hauthoritative
    cases hauthoritative
  bound k plan _ hplan hauthoritative := by
    rw [h.plans k plan hplan] at hauthoritative
    cases hauthoritative
  attempts _ a plan _ hplan hauthoritative := by
    rw [h.plans a.planId plan hplan] at hauthoritative
    cases hauthoritative

/-- The owner of a buffer stays. -/
theorem keeps_owner {e : Event} {k : BufferId} {b : BufferRecord} (hwf : WellFormed s)
    (he : Effect e s s') (hrecover : ∀ file, e ≠ .recover file)
    (hb : s.buffers.lookup k = some b) :
  ∃ b', s'.buffers.lookup k = some b' ∧ b'.authority = b.authority
  := by
  obtain ⟨b', hb', hfixed⟩ := he.keeps_buffer hwf hrecover hb
  obtain ⟨-, -, -, -, howner⟩ :
      b'.size = b.size ∧ b'.alignment = b.alignment ∧ b'.domain = b.domain ∧
        b'.device = b.device ∧ b'.authority = b.authority := by
    simpa [BufferRecord.fixed] using hfixed
  exact ⟨b', hb', howner⟩

/-- The registration a new plan is bound to has the owner of the plan, when that is a worker. -/
theorem bound_of_planned {p : PlanRequestParams} {d : PathDecision} {plan : TransferPlan}
    {r : Registration} (h : Owned s) (hwf : WellFormed s) (hplan : Planned s p d plan)
    (hr : s.registrations.lookup plan.registrationId = some r)
    (howned : plan.authority.workerOwned = true) :
  r.authority = plan.authority
  := by
  obtain hnone | ⟨reg, hreg, hid⟩ := hplan.registration
  · rw [hnone] at hr
    exact absurd (hwf.registrations _ _ hr).2.1 nofun
  · obtain ⟨hlookup, hbuffer, -, hstate⟩ := registeredRegistration_spec hwf hreg
    rw [hid, hlookup] at hr
    obtain rfl := Option.some.inj hr
    obtain ⟨b, hb, howner⟩ := h.registrations _ _ hlookup hstate
    obtain ⟨src, hsrc, -, hsource, -, hauthority⟩ := hplan.source
    rw [hbuffer, hsource, hwf.buffer_id hsrc] at hb
    obtain rfl := Option.some.inj (hsrc.symm.trans hb)
    rw [hauthority] at howned ⊢
    exact howner howned

/-- Every effect but a recovery keeps the owners in agreement. -/
theorem effect {e : Event} (h : Owned s) (hwf : WellFormed s) (he : Effect e s s')
    (hrecover : ∀ file, e ≠ .recover file) :
  Owned s'
  where
  registrations := by
    intro k r hr hstate
    obtain hold | ⟨p, backend, rfl, hnew⟩ := he.registered hrecover hr hstate
    · obtain ⟨b, hb, howner⟩ := h.registrations k r hold hstate
      obtain ⟨b', hb', hsame⟩ := keeps_owner hwf he hrecover hb
      exact ⟨b', hb', by rw [hsame]; exact howner⟩
    · obtain ⟨b, hb, -, hid, -, howner⟩ := hnew.buffer
      obtain ⟨b', hb', hsame⟩ := keeps_owner hwf he hrecover hb
      rw [hid, hwf.buffer_id hb, hnew.authority]
      refine ⟨b', hb', ?_⟩
      rw [hsame]
      exact fun howned => (howner howned).symm
  plans := by
    intro k plan hplan hauthoritative
    obtain hold | ⟨p, d, rfl, -, hnew⟩ := he.authoritative hrecover hplan hauthoritative
    · obtain ⟨b, hb, howner⟩ := h.plans k plan hold hauthoritative
      obtain ⟨b', hb', hsame⟩ := keeps_owner hwf he hrecover hb
      exact ⟨b', hb', howner.trans hsame.symm⟩
    · obtain ⟨src, hsrc, -, hsource, -, hauthority⟩ := hnew.source
      obtain ⟨b', hb', hsame⟩ := keeps_owner hwf he hrecover hsrc
      rw [hsource, hwf.buffer_id hsrc]
      exact ⟨b', hb', hauthority.trans hsame.symm⟩
  bound := by
    intro k plan r hplan hauthoritative hr hbuffer howned
    obtain hold | ⟨p, d, rfl, -, hnew⟩ := he.authoritative hrecover hplan hauthoritative
    · obtain ⟨r', hr', hlater⟩ | ⟨p, backend, rfl, hnew, -⟩ := he.registration hrecover hr
      · rw [hlater.authority]
        exact h.bound k plan r' hold hauthoritative hr' (hlater.buffer.symm.trans hbuffer) howned
      · obtain ⟨b, hb, -, hid, -, howner⟩ := hnew.buffer
        obtain ⟨src, hsrc, hauthority⟩ := h.plans k plan hold hauthoritative
        rw [← hbuffer, hid, hwf.buffer_id hb] at hsrc
        obtain rfl := Option.some.inj (hb.symm.trans hsrc)
        rw [hauthority] at howned ⊢
        exact hnew.authority.trans (howner howned).symm
    · obtain ⟨r', hr', hlater⟩ | ⟨p, backend, hregister, -⟩ := he.registration hrecover hr
      · rw [hlater.authority]
        exact h.bound_of_planned hwf hnew hr' howned
      · cases hregister
  attempts := by
    intro k a plan ha hplan hauthoritative hattempt howned
    obtain ⟨a', ha', hplanId, -, hsame⟩ | ⟨planId, caller, backend, rfl, hnew⟩ :=
      he.attempt hrecover ha
    · rw [hplanId] at hplan
      rw [hsame] at hattempt ⊢
      obtain hold | ⟨p, d, rfl, hk, hnew⟩ := he.authoritative hrecover hplan hauthoritative
      · exact h.attempts k a' plan ha' hold hauthoritative hattempt howned
      · have hle := (hwf.attempts _ _ ha').2.2
        rw [hk, hnew.id] at hle
        exact absurd hle (Nat.not_succ_le_self _)
    · obtain ⟨plan', hready, hplanId⟩ := hnew.plan
      rw [hplanId, hwf.plan_id hready.stored] at hplan
      obtain hold | ⟨p, d, hcommit, -⟩ := he.authoritative hrecover hplan hauthoritative
      · obtain rfl := Option.some.inj (hready.stored.symm.trans hold)
        rw [hnew.authority] at hattempt ⊢
        exact hready.owner hattempt howned
      · cases hcommit

end Owned

theorem owned_of_reachable {w : World} (h : persistedFabric.Reachable w) :
  Owned w.state
  := by
  refine (persistedFabric_invariant (P := Owned) ?_ ?_ ?_ h).2
  · intro epoch
    exact .of_unowned ⟨rfl, .empty, .empty⟩
  · intro e s hwf hs he hrecover
    exact hs.effect hwf he hrecover
  · intro d s _ hs
    exact .of_unowned hs.unowned

/-- Where the caller and a worker that owns the plan agree with the attempt, the authorities
involved are all live exactly when they are covered. -/
theorem allLive_iff {s : State} {caller : Authority} {k : TransferPlanId} {plan : TransferPlan}
    {attempt : TransferAttempt} (h : Owned s) (hplan : s.plans.lookup k = some plan)
    (hauthoritative : plan.authoritative = true)
    (hcaller : caller.workerOwned = true →
      s.workerLiveLocked caller = true ∧ caller = attempt.authority)
    (howner : attempt.authority.workerOwned = true → plan.authority.workerOwned = true →
      attempt.authority = plan.authority) :
  AllLive s plan attempt ↔ Covered s caller attempt.authority plan
  := by
  constructor
  · intro hlive
    constructor
    · exact .inr ⟨hlive.planOwner, hlive.attemptOwner⟩
    · intro r hr
      exact .inr (hlive.boundOwner r hr)
  · intro hcovered
    have hboth : s.OwnerLive plan.authority ∧ s.OwnerLive attempt.authority := by
      obtain hworker | hboth := hcovered.owners
      · obtain ⟨hlive, rfl⟩ := hcaller hworker
        constructor
        · intro howned
          rw [← howner hworker howned]
          exact hlive
        · intro
          exact hlive
      · exact hboth
    refine ⟨hboth.1, ?_, hboth.2⟩
    intro r hr
    obtain ⟨howned, hbuffer⟩ | hlive := hcovered.boundOwner r hr
    · rw [h.bound k plan r hplan hauthoritative hr hbuffer howned]
      exact hboth.1
    · exact hlive

/-- When a transfer begins, and when its completion is newly published, the authorities it involves
are all live exactly when they are covered.  The owner of an attempt that begins is its caller. -/
theorem dead_owners_iff {w : World} (h : persistedFabric.Reachable w) :
  (∀ planId authority backend attempt plan,
    (beginTransfer planId authority backend w.state).1 = .ok attempt →
    w.state.plans.lookup planId = some plan →
    (AllLive w.state plan attempt ↔ Covered w.state authority authority plan)) ∧
  ∀ id authority k receipt attempt plan,
    (completeTransfer id authority w.state).2.receipts.lookup k = some receipt →
    receipt.state = .completed → w.state.receipts.lookup k ≠ some receipt →
    w.state.attempts.lookup id = some attempt →
    w.state.plans.lookup attempt.planId = some plan →
    (AllLive w.state plan attempt ↔ Covered w.state authority attempt.authority plan)
  := by
  have howned := owned_of_reachable h
  constructor
  · intro planId authority backend attempt plan hbegin hplan
    obtain ⟨hattempt, plan', hready⟩ := ready_of_ok hbegin
    obtain rfl := Option.some.inj (hplan.symm.trans hready.stored)
    have hiff : AllLive w.state plan attempt ↔
        Covered w.state authority attempt.authority plan := by
      apply allLive_iff howned hplan hready.authoritative
      · intro hcaller
        use hready.live hcaller, hattempt.symm
      · rw [hattempt]
        apply hready.owner
    rwa [hattempt] at hiff
  · intro id authority k receipt attempt plan hreceipt hstate hnew hattempt hplan
    obtain hold | ⟨attempt', plan', hattempt', hplan', hauthoritative, hcaller, -, -⟩ :=
      completeTransfer_completed hreceipt hstate
    · exact absurd hold hnew
    · obtain rfl := Option.some.inj (hattempt.symm.trans hattempt')
      obtain rfl := Option.some.inj (hplan.symm.trans hplan')
      apply allLive_iff howned hplan hauthoritative hcaller
      exact howned.attempts id attempt plan hattempt hplan hauthoritative

namespace Fixture

/-- The begun world after the owner has died. -/
def orphaned : World := begun.next (.markWorkerDead 1)

theorem reachable_orphaned (setting : Setting) :
  (fabric setting World.New).Reachable orphaned
  := reachable_next (reachable_begun setting) trivial

/-- The attempt the owner begins on the synthetic backend. -/
def running : TransferAttempt := (begun.state.attempts.lookup 10).getD {}

/-- The receipt a caller that is no worker gets for it after the death of the owner. -/
def orphanReceipt : TransferReceipt :=
  ((completeTransfer 10 { epoch := 1 } orphaned.state).2.receipts.lookup 10).getD {}

end Fixture

theorem dead_owners_iff_fixture :
  (AllLive Fixture.planned.state Fixture.plan Fixture.running ↔
    Covered Fixture.planned.state Fixture.owner Fixture.owner Fixture.plan) ∧
  (AllLive Fixture.begun.state Fixture.plan Fixture.running ↔
    Covered Fixture.begun.state Fixture.owner Fixture.running.authority Fixture.plan)
  := ⟨(dead_owners_iff (Fixture.reachable_planned _)).1 8 Fixture.owner
      (some ({} : SyntheticBackend).toBackend) Fixture.running Fixture.plan (by decide +kernel)
      (by decide +kernel),
    (dead_owners_iff (Fixture.reachable_begun _)).2 10 Fixture.owner 10 Fixture.receipt
      Fixture.running Fixture.plan (by decide +kernel) (by decide +kernel) (by decide +kernel)
      (by decide +kernel) (by decide +kernel)⟩

/-- The owner of the plan, the registration and the attempt has died, and a caller that is no
worker completes the transfer all the same. -/
theorem dead_owner_completes :
  persistedFabric.Reachable Fixture.orphaned ∧
  (completeTransfer 10 { epoch := 1 } Fixture.orphaned.state).2.receipts.lookup 10
    = some Fixture.orphanReceipt ∧
  Fixture.orphanReceipt.state = .completed ∧
  Fixture.orphaned.state.receipts.lookup 10 = none ∧
  Fixture.orphaned.state.attempts.lookup 10 = some Fixture.running ∧
  Fixture.orphaned.state.plans.lookup Fixture.running.planId = some Fixture.plan ∧
  ¬AllLive Fixture.orphaned.state Fixture.plan Fixture.running
  := by
  refine ⟨Fixture.reachable_orphaned _, by decide +kernel, by decide +kernel, by decide +kernel,
    by decide +kernel, by decide +kernel, ?_⟩
  intro h
  have hlive := h.attemptOwner (by decide +kernel)
  have hdead : Fixture.orphaned.state.workerLiveLocked Fixture.running.authority = false := by
    decide +kernel
  rw [hdead] at hlive
  cases hlive

end GpuDirectFabric
