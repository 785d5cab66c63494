import GpuDirectFabric.Completions

/-!
# Outcomes

What a backend reports of a transfer goes into the attempt when it begins: the bytes, whether their
integrity was checked, and whether it passed.  Of the state the backend reports, only `FAILED` does;
an attempt whose transfer was cancelled or has become stale in the backend is completed when its
bytes and their integrity are right.
-/

namespace GpuDirectFabric

open Coordinator

/-! ### What is reported -/

/-- What the backend is asked to run for the plan. -/
def transferRun (plan : TransferPlan) (handle : Option BackendHandle) : TransferRun :=
  { plan := plan
    acceleratorBuffer := plan.source
    expectedBytes := plan.expectedBytes
    acceleratorHandle := handle }

/-- What the backend reports of the transfer that a call of `begin_transfer` runs, if there is a
backend and the transfer is no error. -/
def reportedOutcome (planId : TransferPlanId) (backend : Option Backend) (s : State) :
    Option TransferOutcome :=
  (s.plans.lookup planId).bind fun plan =>
  (s.buffers.lookup plan.source).bind fun buffer =>
  backend.bind fun be => (be.runTransfer (transferRun plan buffer.handle)).toOption

/-- The attempt records what was reported. -/
structure Records (a : TransferAttempt) (plan : TransferPlan) (outcome : Option TransferOutcome) :
    Prop where
  planId : a.planId = plan.id
  submitted : a.submittedBytes = plan.expectedBytes
  bytes : a.bytes = (outcome.map TransferOutcome.bytes).getD 0
  checked : a.integrityChecked = (outcome.map TransferOutcome.integrityChecked).getD false
  passed : a.integrityPassed = (outcome.map TransferOutcome.integrityPassed).getD false

theorem runAttempt_records (plan : TransferPlan) (handle : Option BackendHandle)
    (backend : Option Backend) (authority : Authority) (id : TransferAttemptId)
    (epoch : CoordinatorEpoch) :
  Records (runAttempt plan handle backend (newAttempt plan authority id epoch)) plan
    (backend.bind fun be => (be.runTransfer (transferRun plan handle)).toOption)
  := by
  cases backend with
  | none => exact ⟨rfl, rfl, rfl, rfl, rfl⟩
  | some be =>
      rw [Option.bind_some, runAttempt]
      dsimp only
      rw [← transferRun]
      cases be.runTransfer (transferRun plan handle) with
      | error e => exact ⟨rfl, rfl, rfl, rfl, rfl⟩
      | ok outcome => exact ⟨rfl, rfl, rfl, rfl, rfl⟩

/-- Of the states that can be reported, the attempt records `FAILED`. -/
theorem runAttempt_state {plan : TransferPlan} {handle : Option BackendHandle} {be : Backend}
    {outcome : TransferOutcome} (authority : Authority) (id : TransferAttemptId)
    (epoch : CoordinatorEpoch) (h : be.runTransfer (transferRun plan handle) = .ok outcome) :
  (runAttempt plan handle (some be) (newAttempt plan authority id epoch)).state
    = if outcome.state = .failed then .failed else .inFlight
  := by
  rw [runAttempt]
  dsimp only
  rw [← transferRun, h]
  simp only
  rfl

/-- A call of `begin_transfer` that succeeds starts an attempt of an authoritative plan. -/
theorem beginTransfer_ok {planId : TransferPlanId} {authority : Authority}
    {backend : Option Backend} {s : State} {a : TransferAttempt}
    (h : (beginTransfer planId authority backend s).1 = .ok a) :
  ∃ plan buffer, s.plans.lookup planId = some plan ∧ plan.authoritative = true ∧
    s.buffers.lookup plan.source = some buffer ∧
    beginTransfer planId authority backend s = startAttempt plan authority buffer.handle backend s
  := by
  rw [beginTransfer] at h ⊢
  cases hplan : s.plans.lookup planId with
  | none =>
      rw [hplan] at h
      cases h
  | some plan =>
  rw [hplan] at h
  dsimp only at h ⊢
  obtain ⟨hauthoritative, h⟩ := ok_of_check h
  rw [if_neg hauthoritative]
  obtain ⟨hepoch, h⟩ := ok_of_check h
  rw [if_neg hepoch]
  obtain ⟨hlive, h⟩ := ok_of_check h
  rw [if_neg hlive]
  obtain ⟨howner, h⟩ := ok_of_check h
  rw [if_neg howner]
  obtain ⟨hroom, h⟩ := ok_of_check h
  rw [if_neg hroom]
  cases hbuffer : s.buffers.lookup plan.source with
  | none =>
      rw [hbuffer] at h
      cases h
  | some buffer =>
  rw [hbuffer] at h
  dsimp only at h ⊢
  obtain ⟨hsource, h⟩ := ok_of_check h
  rw [if_neg hsource]
  cases hendpoint : s.endpoints.lookup plan.destination with
  | none =>
      rw [hendpoint] at h
      cases h
  | some endpoint =>
  rw [hendpoint] at h
  dsimp only at h ⊢
  obtain ⟨hdestination, h⟩ := ok_of_check h
  rw [if_neg hdestination]
  obtain ⟨hregistration, h⟩ := ok_of_check h
  rw [if_neg hregistration]
  exact ⟨plan, buffer, rfl, by simpa using hauthoritative, hbuffer, rfl⟩

/-- The attempt a call of `begin_transfer` starts, and what it records. -/
structure Begins (planId : TransferPlanId) (authority : Authority) (backend : Option Backend)
    (s : State) (a : TransferAttempt) (plan : TransferPlan) : Prop where
  stored : s.plans.lookup planId = some plan
  authoritative : plan.authoritative = true
  records : Records a plan (reportedOutcome planId backend s)
  state : ∀ outcome, reportedOutcome planId backend s = some outcome →
    a.state = if outcome.state = .failed then .failed else .inFlight
  opened : a.completionCommitted = false
  started : a.state = .inFlight ∨ a.state = .failed
  id : a.id = s.nextId + 1
  result : (beginTransfer planId authority backend s).2
    = { s.nextIdLocked with attempts := s.attempts.insert (s.nextId + 1) a }

theorem begins_of_ok {planId : TransferPlanId} {authority : Authority}
    {backend : Option Backend} {s : State} {a : TransferAttempt}
    (h : (beginTransfer planId authority backend s).1 = .ok a) :
  ∃ plan, Begins planId authority backend s a plan
  := by
  obtain ⟨plan, buffer, hplan, hauthoritative, hbuffer, hstart⟩ := beginTransfer_ok h
  rw [hstart] at h
  obtain rfl := Except.ok.inj h
  have hreported : reportedOutcome planId backend s
      = backend.bind fun be => (be.runTransfer (transferRun plan buffer.handle)).toOption := by
    rw [reportedOutcome, hplan, Option.bind_some, hbuffer, Option.bind_some]
  have hid := (runAttempt_core plan buffer.handle backend
    (newAttempt plan authority (s.nextId + 1) s.epoch)).1
  obtain ⟨hopened, hstarted⟩ := runAttempt_open plan buffer.handle backend
    (a := newAttempt plan authority (s.nextId + 1) s.epoch) rfl
  refine ⟨plan, hplan, hauthoritative, ?_, ?_, hopened, hstarted, hid, ?_⟩
  · rw [hreported]
    exact runAttempt_records plan buffer.handle backend authority _ _
  · intro outcome houtcome
    rw [hreported] at houtcome
    obtain ⟨be, rfl, hrun⟩ := Option.bind_eq_some_iff.mp houtcome
    cases hresult : be.runTransfer (transferRun plan buffer.handle) with
    | error e =>
        rw [hresult] at hrun
        cases hrun
    | ok outcome' =>
        rw [hresult] at hrun
        obtain rfl := Option.some.inj hrun
        exact runAttempt_state authority _ _ hresult
  · rw [hstart, startAttempt]
    dsimp only
    rw [State.nextIdLocked, hid]
    rfl

/-! ### Transfers that did not succeed -/

/-- The attempt is bound not to be completed: it has failed or is cancelled, or it would fail. -/
def TransferAttempt.Doomed (a : TransferAttempt) : Prop :=
  a.state = .failed ∨ a.state = .cancelled ∨ a.Corrupt ∨ ¬a.Delivered

/-- An attempt that would fail is not decided to be completed. -/
theorem verdict_ne_completed {a : TransferAttempt} (h : a.Corrupt ∨ ¬a.Delivered) :
  (verdict a).state = .failed
  := by
  rw [verdict]
  split
  next => rfl
  next hsound =>
    obtain hcorrupt | hshort := h
    · exact absurd hcorrupt hsound
    · exact if_neg hshort

/-- The attempt under `k` is doomed, and has no `COMPLETED` receipt. -/
def DoomedAt (k : TransferAttemptId) (s : State) : Prop :=
  ∃ a, s.attempts.lookup k = some a ∧ a.Doomed ∧
    ∀ r, s.receipts.lookup k = some r → r.state ≠ .completed

theorem AttemptStep.doomed {e : Event} {s s' : State} {k : TransferAttemptId}
    {a : TransferAttempt} (hstep : AttemptStep e s s' k a) (hdoomed : a.Doomed)
    (hreceipts : ∀ r, s.receipts.lookup k = some r → r.state ≠ .completed) :
  DoomedAt k s'
  := by
  cases hstep with
  | rest hattempt hreceipt =>
      refine ⟨a, hattempt, hdoomed, ?_⟩
      rw [hreceipt]
      exact hreceipts
  | reported hfailed hattempt hreceipt =>
      refine ⟨a, hattempt, hdoomed, ?_⟩
      rw [hreceipt]
      rintro r ⟨⟩
      rintro ⟨⟩
  | decided he h hattempt hreceipt =>
      have hstate : (verdict a).state = .failed := by
        obtain hfailed | hcancelled | hrest := hdoomed
        · exact absurd hfailed h.notFailed
        · exact absurd hcancelled h.notCancelled
        · exact verdict_ne_completed hrest
      refine ⟨_, hattempt, .inl hstate, ?_⟩
      rw [hreceipt]
      rintro r ⟨⟩
      rw [hstate]
      rintro ⟨⟩
  | cancelled he hopen hattempt hreceipt =>
      refine ⟨_, hattempt, .inr (.inl rfl), ?_⟩
      rw [hreceipt]
      rintro r ⟨⟩
      rintro ⟨⟩

/-- A doomed attempt has no `COMPLETED` receipt in any later state of the process. -/
theorem doomedAt_of_run {u w : World} (hu : persistedFabric.Reachable u) {k : TransferAttemptId}
    (hdoomed : DoomedAt k u.state) (hw : (process (· = u)).Reachable w) :
  DoomedAt k w.state
  := by
  have hinv : persistedFabric.Reachable w ∧ DoomedAt k w.state := by
    refine hw.invariant (P := fun w => persistedFabric.Reachable w ∧ DoomedAt k w.state) ?_ ?_ ?_
    · rintro w rfl
      exact ⟨hu, hdoomed⟩
    · rintro w e w' ⟨hw, a, ha, hdoomed, hreceipts⟩ ⟨hrecover, hallowed, rfl⟩
      refine ⟨reachable_next hw hallowed, ?_⟩
      exact (hallowed.effect.attemptStep hrecover (wellFormed_of_reachable hw) ha).doomed hdoomed
        hreceipts
    · rintro d w e w' _ _ ⟨⟩
  exact hinv.2

/-- The backend reports that the transfer did not succeed. -/
def TransferState.Unsuccessful (state : TransferState) : Prop :=
  state = .failed ∨ state = .cancelled ∨ state = .stale ∨ state = .revalidationRequired

/-- What is reported rules a completion out: `FAILED`, broken integrity, or not the bytes asked
for. -/
def TransferOutcome.RulesOut (outcome : TransferOutcome) (plan : TransferPlan) : Prop :=
  outcome.state = .failed ∨
    outcome.integrityChecked = true ∧ outcome.integrityPassed = false ∨
    plan.expectedBytes ≠ 0 ∧ outcome.bytes ≠ plan.expectedBytes

/-- No later state of the process has a `COMPLETED` receipt for the attempt. -/
def NeverCompleted (k : TransferAttemptId) (u : World) : Prop :=
  ∀ w, (process (· = u)).Reachable w → ∀ r, w.state.receipts.lookup k = some r →
    r.state ≠ .completed

theorem Begins.doomed_iff {planId : TransferPlanId} {authority : Authority}
    {backend : Option Backend} {s : State} {a : TransferAttempt} {plan : TransferPlan}
    (h : Begins planId authority backend s a plan) {outcome : TransferOutcome}
    (houtcome : reportedOutcome planId backend s = some outcome) :
  a.Doomed ↔ outcome.RulesOut plan
  := by
  have hrecords := h.records
  rw [houtcome] at hrecords
  have hfailed : a.state = .failed ↔ outcome.state = .failed := by
    rw [h.state outcome houtcome]
    split
    next hstate => simp [hstate]
    next hstate => simp [hstate]
  have hnot : a.state ≠ .cancelled := by
    rw [h.state outcome houtcome]
    split
    · rintro ⟨⟩
    · rintro ⟨⟩
  rw [TransferAttempt.Doomed, TransferAttempt.Corrupt, TransferAttempt.Delivered, hfailed,
    hrecords.submitted, hrecords.bytes, hrecords.checked, hrecords.passed, not_or]
  simp [hnot, TransferOutcome.RulesOut]

/-- An attempt that is not doomed is completed when the coordinator completes it at once. -/
theorem Begins.completed {planId : TransferPlanId} {authority : Authority}
    {backend : Option Backend} {s : State} {a : TransferAttempt} {plan : TransferPlan}
    (h : Begins planId authority backend s a plan) (hwf : WellFormed s)
    (hnot : ¬a.Doomed) :
  ∃ r, (apply (.completeTransfer a.id {})
      (beginTransfer planId authority backend s).2).receipts.lookup a.id = some r ∧
    r.state = .completed
  := by
  simp only [TransferAttempt.Doomed, not_or, not_not] at hnot
  obtain ⟨hfailed, hcancelled, hsound, hdelivered⟩ := hnot
  have hcompletable : Completable a.id {} a (beginTransfer planId authority backend s).2 := by
    rw [h.result]
    constructor
    · rw [h.id]
      exact AList.lookup_insert _
    · rw [h.opened]
      rintro ⟨⟨⟩, -⟩
    · exact hcancelled
    · exact hfailed
    · rintro ⟨⟩
    · rw [h.records.planId, hwf.plan_id h.stored]
      change (s.plans.lookup planId).any _ = true
      rw [h.stored]
      exact h.authoritative
  use verdict a
  rw [apply, completeTransfer_decided hcompletable, (finishAttempt_tables _ _ _).2]
  use AList.lookup_insert _
  rw [verdict, if_neg hsound]
  exact if_pos hdelivered

/-- No receipt is stored under an id still to be drawn. -/
theorem receipt_fresh {s : State} (hwf : WellFormed s) (hsettled : Settled s) {k : ℕ}
    (hk : s.nextId < k) :
  s.receipts.lookup k = none
  := by
  apply Option.eq_none_iff_forall_ne_some.mpr
  intro r hr
  obtain ⟨a, ha, -⟩ := hsettled.receipts k r hr
  exact absurd hk (not_lt.mpr (hwf.attempts k a ha).2.1)

/-- An attempt whose backend reports that its transfer did not succeed is never completed, exactly
when the report rules a completion out. -/
theorem unsuccessful_never_completed_iff {u : World} (hu : persistedFabric.Reachable u)
    {planId : TransferPlanId} {authority : Authority} {backend : Option Backend}
    {a : TransferAttempt} (hbegun : (beginTransfer planId authority backend u.state).1 = .ok a)
    {plan : TransferPlan} (hplan : u.state.plans.lookup planId = some plan)
    {outcome : TransferOutcome} (houtcome : reportedOutcome planId backend u.state = some outcome) :
  (outcome.state.Unsuccessful →
    NeverCompleted a.id (u.next (.beginTransfer planId authority backend))) ↔
  (outcome.state.Unsuccessful → outcome.RulesOut plan)
  := by
  apply forall_congr'
  intro _
  obtain ⟨plan', hbegins⟩ := begins_of_ok hbegun
  obtain rfl := Option.some.inj (hplan.symm.trans hbegins.stored)
  have hwf := wellFormed_of_reachable hu
  have hnext : persistedFabric.Reachable (u.next (.beginTransfer planId authority backend)) :=
    reachable_next hu trivial
  rw [← hbegins.doomed_iff houtcome]
  constructor
  · intro hnever
    by_contra hnot
    obtain ⟨r, hr, hcompleted⟩ := hbegins.completed hwf hnot
    exact hnever _ ⟨_, run_call (.start rfl) (e := .completeTransfer a.id {}) rfl⟩ r hr hcompleted
  · intro hdoomed w hw
    have hdoomedAt : DoomedAt a.id (u.next (.beginTransfer planId authority backend)).state := by
      rw [World.next_state, apply, hbegins.result, hbegins.id]
      refine ⟨a, AList.lookup_insert _, hdoomed, ?_⟩
      intro r hr
      have hnone := receipt_fresh hwf (settled_of_reachable hu) (Nat.lt_succ_self u.state.nextId)
      cases hnone.symm.trans hr
    obtain ⟨-, -, -, hreceipts⟩ := doomedAt_of_run hnext hdoomedAt hw
    exact hreceipts

namespace Fixture

/-- A backend whose transfers are cancelled when all their bytes have gone. -/
def cancellingBackend : Backend where
  registerBuffer _ := err .unsupported "no registration"
  runTransfer run := .ok { state := .cancelled, bytes := run.expectedBytes }

/-- The attempt on that backend, and what is reported of it. -/
def withdrawn : TransferAttempt :=
  (planned.next (.beginTransfer 8 owner (some cancellingBackend))).state.attempts.lookup 10
    |>.getD {}

def withdrawal : TransferOutcome :=
  (reportedOutcome 8 (some cancellingBackend) planned.state).getD {}

theorem begun_withdrawn :
  (beginTransfer 8 owner (some cancellingBackend) planned.state).1 = .ok withdrawn
  := by
  have hresult : (beginTransfer 8 owner (some cancellingBackend) planned.state).1.toOption
      = some withdrawn := by
    decide +kernel
  cases hbegin : (beginTransfer 8 owner (some cancellingBackend) planned.state).1 with
  | error e =>
      rw [hbegin] at hresult
      cases hresult
  | ok a =>
      rw [hbegin] at hresult
      rw [Option.some.inj hresult]

theorem reported_withdrawal :
  reportedOutcome 8 (some cancellingBackend) planned.state = some withdrawal
  := by
  have hsome : (reportedOutcome 8 (some cancellingBackend) planned.state).isSome = true := by
    decide +kernel
  obtain ⟨outcome, houtcome⟩ := Option.isSome_iff_exists.mp hsome
  rw [withdrawal, houtcome]
  rfl

end Fixture

theorem unsuccessful_never_completed_fixture :
  (Fixture.withdrawal.state.Unsuccessful → NeverCompleted Fixture.withdrawn.id
    (Fixture.planned.next (.beginTransfer 8 Fixture.owner (some Fixture.cancellingBackend)))) ↔
  (Fixture.withdrawal.state.Unsuccessful → Fixture.withdrawal.RulesOut Fixture.plan)
  := unsuccessful_never_completed_iff (Fixture.reachable_planned _) Fixture.begun_withdrawn
    Fixture.lookup_plan Fixture.reported_withdrawal

/-- The backend reports that the transfer was cancelled, and the attempt is completed. -/
theorem cancelled_outcome_completed :
  persistedFabric.Reachable Fixture.planned ∧
  (beginTransfer 8 Fixture.owner (some Fixture.cancellingBackend) Fixture.planned.state).1
    = .ok Fixture.withdrawn ∧
  reportedOutcome 8 (some Fixture.cancellingBackend) Fixture.planned.state
    = some Fixture.withdrawal ∧
  Fixture.withdrawal.state = .cancelled ∧
  ¬NeverCompleted Fixture.withdrawn.id
    (Fixture.planned.next (.beginTransfer 8 Fixture.owner (some Fixture.cancellingBackend)))
  := by
  refine ⟨Fixture.reachable_planned _, Fixture.begun_withdrawn, Fixture.reported_withdrawal,
    by decide +kernel, fun hnever => ?_⟩
  have hcompleted : ∃ r, ((Fixture.planned.next (.beginTransfer 8 Fixture.owner
      (some Fixture.cancellingBackend))).next (.completeTransfer Fixture.withdrawn.id
        {})).state.receipts.lookup Fixture.withdrawn.id = some r ∧ r.state = .completed := by
    decide +kernel
  obtain ⟨r, hr, hstate⟩ := hcompleted
  exact hnever _ ⟨_, run_call (.start rfl) rfl⟩ r hr hstate

end GpuDirectFabric
