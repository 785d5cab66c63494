import GpuDirectFabric.LiveSources
import GpuDirectFabric.Outcomes

/-!
# Transfers that get through

What the coordinator refuses is said elsewhere; here is what it lets through.  A request is planned
exactly when the evidence opens a path for it, and a transfer that nothing interrupts is completed
exactly when its request can be planned, its caller may act for the source, and the backend
delivers.  Once begun and delivered, a transfer waits: whatever the process does in the meantime,
it is completed on demand unless it is cancelled or its plan is superseded.
-/

namespace GpuDirectFabric

open Coordinator PathPlanner

/-! ### Requests that can be planned -/

/-- There is room for a plan of the request, and a path for it in the evidence. -/
structure Plannable (p : PlanRequestParams) (s : State) : Prop where
  room : s.plans.size < s.maxPlans
  source : ∃ b, s.buffers.lookup p.source = some b
  path : DirectConditions (pathRequest p) (buildEvidenceLocked p s) ∨
    p.policy ≠ .directOnly ∧ StagingOpen (buildEvidenceLocked p s)

/-- A path leads to an endpoint that exists. -/
theorem Plannable.destination {p : PlanRequestParams} {s : State} (h : Plannable p s) :
  ∃ e, s.endpoints.lookup p.destination = some e
  := by
  have hid : ((s.endpoints.lookup p.destination).getD {}).id ≠ 0 := by
    obtain hdirect | ⟨-, hstaging⟩ := h.path
    · exact hdirect.destination.1
    · exact hstaging.destination.1
  cases he : s.endpoints.lookup p.destination with
  | none =>
      rw [he] at hid
      exact absurd rfl hid
  | some e => exact ⟨e, rfl⟩

/-- A direct path has a registration of its ends. -/
theorem PathPlanner.DirectConditions.registered {p : PlanRequestParams} {s : State}
    (h : DirectConditions (pathRequest p) (buildEvidenceLocked p s)) {b : BufferRecord}
    (hb : s.buffers.lookup p.source = some b) {e : EndpointRecord}
    (he : s.endpoints.lookup p.destination = some e) :
  ∃ r, registeredRegistration s b.id e.id = some r
  := by
  obtain ⟨r, ⟨⟨hbuffer, hendpoint⟩, before, after, hregistrations, -⟩, hstate, -⟩ := h.registration
  rw [buildEvidenceLocked] at hbuffer hendpoint hregistrations
  rw [hb, Option.getD_some] at hbuffer
  rw [he, Option.getD_some] at hendpoint
  apply latest_isSome (y := r)
  · change s.registrations.values = _ at hregistrations
    rw [hregistrations]
    exact List.mem_append_right _ List.mem_cons_self
  · simp [hbuffer, hendpoint, hstate]

/-- A call of `plan_transfer` that nothing interrupts makes a plan exactly when the request can be
planned. -/
theorem planTransfer_ok_iff {p : PlanRequestParams} {s : State} :
  (∃ plan, (planTransfer p s).1 = .ok plan) ↔ Plannable p s
  := by
  constructor
  · rintro ⟨plan, hplan⟩
    have hchecks := commitChecks_of_ok hplan
    obtain ⟨b, hb, -⟩ := hchecks.source
    refine ⟨hchecks.room, ⟨b, hb⟩, ?_⟩
    obtain ⟨src, dst, -, -, -, hstages⟩ := committed_stages hplan
    obtain ⟨hdirect, -⟩ | ⟨hfallback, -⟩ := hstages
    · exact .inl ((directRequirements_iff _ _).mp ((evaluate_isDirect _ _).mp hdirect))
    · obtain ⟨hpolicy, -, hstaging⟩ := (evaluate_eligibility_iff _ _).2.2.mp hfallback
      exact .inr ⟨hpolicy, hstaging⟩
  · intro h
    obtain ⟨b, hb⟩ := h.source
    obtain ⟨e, he⟩ := h.destination
    have hchecks : CommitChecks p (evaluatePath p s) s := by
      apply committable_iff.mp
      exact ⟨h.room, ⟨b, hb, by rw [hb]; rfl⟩, ⟨e, he, by rw [he]; rfl⟩⟩
    by_cases hopen : DirectConditions (pathRequest p) (buildEvidenceLocked p s)
    · have hdirect : (evaluatePath p s).eligibility.isDirect = true :=
        (evaluate_isDirect _ _).mpr ((directRequirements_iff _ _).mpr hopen)
      apply commit_direct hdirect hchecks
      intro b e hb he
      exact hopen.registered hb he
    · obtain hdirect | ⟨hpolicy, hstaging⟩ := h.path
      · exact absurd hdirect hopen
      · have hstaged : (evaluatePath p s).eligibility = .fallbackRequired :=
          (evaluate_eligibility_iff _ _).2.2.mpr ⟨hpolicy, hopen, hstaging⟩
        exact commit_staged hstaged (evaluate_selectedFallback hstaged).1 hchecks

/-! ### From the plan to its attempt -/

/-- The call of `plan_transfer` has stored `plan`, from the source `src`, and left the tables it
does not plan with alone. -/
structure Stores (p : PlanRequestParams) (plan : TransferPlan) (src : BufferRecord)
    (s s' : State) : Prop where
  stored : s'.plans.lookup plan.id = some plan
  authoritative : plan.authoritative = true
  size : plan.expectedBytes = p.size
  owner : plan.authority = src.authority
  source : s.buffers.lookup p.source = some src
  epoch : s'.epoch = s.epoch
  workers : s'.workers = s.workers
  attempts : s'.attempts = s.attempts ∧ s'.maxAttempts = s.maxAttempts
  receipts : s'.receipts = s.receipts
  registration : registrationCurrent plan s' = true
  kept : s'.buffers.lookup plan.source = some src

/-- A plan bound to what was found for its ends is bound to a current registration, or to none. -/
theorem registrationCurrent_of_found {s s' : State} (hwf : WellFormed s) {buffer : BufferId}
    {endpoint : EndpointId} {plan : TransferPlan} (hsame : s'.registrations = s.registrations)
    (hid : plan.registrationId
      = ((registeredRegistration s buffer endpoint).map Registration.id).getD 0)
    (hgeneration : plan.registrationGeneration
      = ((registeredRegistration s buffer endpoint).map Registration.generation).getD 0) :
  registrationCurrent plan s' = true
  := by
  rw [registrationCurrent, hid, hgeneration, hsame]
  cases hr : registeredRegistration s buffer endpoint with
  | none => rfl
  | some r =>
      obtain ⟨hlookup, -, -, hstate⟩ := registeredRegistration_spec hwf hr
      simp [hlookup, hstate]

theorem planRecord_registrationId (p : PlanRequestParams) (d : PathDecision) (src : BufferRecord)
    (dst : EndpointRecord) (reg : Option Registration) (id : TransferPlanId)
    (pathGeneration : PathGeneration) (epoch : CoordinatorEpoch) :
  (planRecord p d src dst reg id pathGeneration epoch).registrationId
    = (reg.map Registration.id).getD 0
  := by cases reg <;> rfl

theorem planRecord_registrationGeneration (p : PlanRequestParams) (d : PathDecision)
    (src : BufferRecord) (dst : EndpointRecord) (reg : Option Registration) (id : TransferPlanId)
    (pathGeneration : PathGeneration) (epoch : CoordinatorEpoch) :
  (planRecord p d src dst reg id pathGeneration epoch).registrationGeneration
    = (reg.map Registration.generation).getD 0
  := by cases reg <;> rfl

theorem planTransfer_stores {p : PlanRequestParams} {s : State} (hwf : WellFormed s)
    {plan : TransferPlan} (hplan : (planTransfer p s).1 = .ok plan) :
  ∃ src, Stores p plan src s (planTransfer p s).2
  := by
  rw [planTransfer] at hplan ⊢
  obtain ⟨e, heq⟩ | ⟨src, dst, hsrc, -, -, -, -, -, heq⟩ :=
    planTransferCommit_cases p (evaluatePath p s) s
  · rw [heq] at hplan
    cases hplan
  · use src
    have hbound : ∀ (plan : TransferPlan) (s' : State),
        plan.registrationId = (planRecord p (evaluatePath p s) src dst
          (registeredRegistration s src.id dst.id) s.nextIdLocked.nextId
          s.nextIdLocked.nextIdLocked.nextId s.epoch).registrationId →
        plan.registrationGeneration = (planRecord p (evaluatePath p s) src dst
          (registeredRegistration s src.id dst.id) s.nextIdLocked.nextId
          s.nextIdLocked.nextIdLocked.nextId s.epoch).registrationGeneration →
        s'.registrations = s.registrations → registrationCurrent plan s' = true := by
      intro plan s' hid hgeneration hsame
      apply registrationCurrent_of_found hwf hsame
      · rw [hid, planRecord_registrationId]
      · rw [hgeneration, planRecord_registrationGeneration]
    rw [heq, storePlan] at hplan ⊢
    have hid : s.buffers.lookup src.id = some src := by rw [hwf.buffer_id hsrc, hsrc]
    split at hplan
    next hdirect =>
      rw [if_pos hdirect]
      obtain rfl := Except.ok.inj hplan
      exact ⟨AList.lookup_insert _, rfl, rfl, rfl, hsrc, rfl, rfl, ⟨rfl, rfl⟩, rfl,
        hbound _ _ rfl rfl rfl, hid⟩
    next hdirect =>
      rw [if_neg hdirect]
      obtain rfl := Except.ok.inj hplan
      have hlt := (hwf.buffers _ _ hid).2.trans_lt (Nat.lt_add_of_pos_right (by decide : 0 < 3))
      exact ⟨AList.lookup_insert _, rfl, rfl, rfl, hsrc, rfl, rfl, ⟨rfl, rfl⟩, rfl,
        hbound _ _ rfl rfl rfl, (AList.lookup_insert_ne hlt.ne).trans hid⟩

/-- A call of `begin_transfer` succeeds exactly when its checks pass and there is room. -/
theorem beginTransfer_ok_iff (planId : TransferPlanId) (authority : Authority)
    (backend : Option Backend) (s : State) :
  (∃ a, (beginTransfer planId authority backend s).1 = .ok a) ↔
    (∃ plan, Ready planId authority plan s) ∧ s.attempts.size < s.maxAttempts
  := by
  constructor
  · rintro ⟨a, ha⟩
    refine ⟨(ready_of_ok ha).2, ?_⟩
    rw [beginTransfer] at ha
    split at ha
    · cases ha
    · obtain ⟨-, ha⟩ := ok_of_check ha
      obtain ⟨-, ha⟩ := ok_of_check ha
      obtain ⟨-, ha⟩ := ok_of_check ha
      obtain ⟨-, ha⟩ := ok_of_check ha
      exact not_le.mp (ok_of_check ha).1
  · rintro ⟨⟨plan, hready⟩, hroom⟩
    obtain ⟨b, hb, hbGeneration⟩ := hready.source
    obtain ⟨e, he, heGeneration⟩ := hready.destination
    have hlive : ¬(authority.workerOwned && !s.workerLiveLocked authority) = true := by
      simpa using hready.live
    have howner : ¬(authority.workerOwned && plan.authority.workerOwned &&
        authority != plan.authority) = true := by
      simpa using hready.owner
    rw [beginTransfer, hready.stored]
    dsimp only
    rw [if_neg (by simp [hready.authoritative]), if_neg (by simp [hready.epoch]), if_neg hlive,
      if_neg howner, if_neg (not_le.mpr hroom), hb]
    dsimp only
    rw [if_neg (by simp [hbGeneration]), he]
    dsimp only
    rw [if_neg (by simp [heGeneration]), if_neg (by simp [hready.registration])]
    exact ⟨_, rfl⟩

/-! ### From the attempt to its receipt -/

/-- The backend, if there is one, delivers the data of the plan: it reports no failure, no broken
integrity, and all the bytes. -/
def BackendDelivers (backend : Option Backend) (plan : TransferPlan)
    (handle : Option BackendHandle) : Prop :=
  match backend with
  | none => plan.expectedBytes = 0
  | some be => ∃ outcome, be.runTransfer (transferRun plan handle) = .ok outcome ∧
    ¬outcome.RulesOut plan

/-- An attempt is doomed from the start exactly when the backend does not deliver. -/
theorem runAttempt_doomed_iff (plan : TransferPlan) (handle : Option BackendHandle)
    (backend : Option Backend) (authority : Authority) (id : TransferAttemptId)
    (epoch : CoordinatorEpoch) :
  (runAttempt plan handle backend (newAttempt plan authority id epoch)).Doomed ↔
    ¬BackendDelivers backend plan handle
  := by
  cases backend with
  | none =>
      rw [BackendDelivers, runAttempt, TransferAttempt.Doomed, TransferAttempt.Corrupt,
        TransferAttempt.Delivered, newAttempt]
      simp [eq_comm]
  | some be =>
      rw [BackendDelivers, runAttempt]
      dsimp only
      rw [← transferRun]
      cases be.runTransfer (transferRun plan handle) with
      | error e => simp [TransferAttempt.Doomed]
      | ok outcome =>
          simp only [Except.ok.injEq, exists_eq_left', not_not]
          rw [TransferAttempt.Doomed, TransferAttempt.Corrupt, TransferAttempt.Delivered,
            TransferOutcome.RulesOut]
          by_cases hfailed : outcome.state = .failed
          · simp [hfailed]
          · simp [hfailed, newAttempt]

/-- What `complete_transfer` asks of the caller and of the plan of an attempt. -/
structure MayComplete (caller : Authority) (a : TransferAttempt) (s : State) : Prop where
  caller : MayCancel caller a s
  plan : (s.plans.lookup a.planId).any TransferPlan.authoritative = true

/-- A call that returns a `COMPLETED` receipt nobody has stored yet comes to decide. -/
theorem completable_of_completed {id : TransferAttemptId} {caller : Authority} {s : State}
    {r : TransferReceipt} (hr : (completeTransfer id caller s).1 = .ok r)
    (hcompleted : r.state = .completed) (hnone : s.receipts.lookup id = none) :
  ∃ a, Completable id caller a s
  := by
  rw [completeTransfer] at hr
  cases ha : s.attempts.lookup id with
  | none =>
      rw [ha] at hr
      cases hr
  | some a =>
  rw [ha, hnone] at hr
  dsimp only at hr
  rw [Option.isSome_none, Bool.and_false, if_neg Bool.false_ne_true] at hr
  obtain ⟨hcancelled, hr⟩ := ok_of_check hr
  split at hr
  next =>
    obtain rfl := Except.ok.inj hr
    cases hcompleted
  next hfailed =>
    obtain ⟨hcaller, hr⟩ := ok_of_check hr
    obtain ⟨hplan, -⟩ := ok_of_check hr
    refine ⟨a, ha, ?_, hcancelled, hfailed, ?_, by simpa using hplan⟩
    · simp [hnone]
    · intro howned
      simpa [howned] using hcaller

/-- An attempt without a receipt that the caller may complete, and that is not doomed, is completed
by the decision about it. -/
theorem completeTransfer_verdict {id : TransferAttemptId} {caller : Authority} {s : State}
    {a : TransferAttempt} (ha : s.attempts.lookup id = some a)
    (hnone : s.receipts.lookup id = none) (hmay : MayComplete caller a s) (h : ¬a.Doomed) :
  (completeTransfer id caller s).1 = .ok (verdict a) ∧ (verdict a).state = .completed
  := by
  simp only [TransferAttempt.Doomed, not_or, not_not] at h
  obtain ⟨hfailed, hcancelled, hsound, hdelivered⟩ := h
  have hcompletable : Completable id caller a s :=
    ⟨ha, by simp [hnone], hcancelled, hfailed, hmay.caller, hmay.plan⟩
  rw [completeTransfer_decided hcompletable, finishAttempt_finished hsound, verdict, if_neg hsound]
  exact ⟨rfl, if_pos hdelivered⟩

/-- An attempt without a receipt is completed exactly when the caller may complete it and it is not
doomed. -/
theorem completes_iff {id : TransferAttemptId} {caller : Authority} {s : State}
    {a : TransferAttempt} (ha : s.attempts.lookup id = some a)
    (hnone : s.receipts.lookup id = none) :
  (∃ r, (completeTransfer id caller s).1 = .ok r ∧ r.state = .completed) ↔
    MayComplete caller a s ∧ ¬a.Doomed
  := by
  constructor
  · rintro ⟨r, hr, hcompleted⟩
    obtain ⟨a', h⟩ := completable_of_completed hr hcompleted hnone
    obtain rfl := Option.some.inj (ha.symm.trans h.stored)
    refine ⟨⟨h.caller, h.plan⟩, ?_⟩
    rw [completeTransfer_decided h] at hr
    rintro (hfailed | hcancelled | hcorrupt | hshort)
    · exact h.notFailed hfailed
    · exact h.notCancelled hcancelled
    · rw [finishAttempt_corrupt hcorrupt] at hr
      cases hr
    · have hstate : (verdict a).state = .failed := verdict_ne_completed (.inr hshort)
      by_cases hcorrupt : a.Corrupt
      · rw [finishAttempt_corrupt hcorrupt] at hr
        cases hr
      · rw [verdict, if_neg hcorrupt] at hstate
        rw [finishAttempt_finished hcorrupt] at hr
        rw [← Except.ok.inj hr, hstate] at hcompleted
        cases hcompleted
  · rintro ⟨hmay, hdoomed⟩
    exact ⟨_, completeTransfer_verdict ha hnone hmay hdoomed⟩

/-- The attempt has just begun for the caller, who may complete it. -/
structure JustBegun (plan : TransferPlan) (handle : Option BackendHandle) (caller : Authority)
    (backend : Option Backend) (a : TransferAttempt) (s s' : State) : Prop where
  run : a = runAttempt plan handle backend (newAttempt plan caller (s.nextId + 1) s.epoch)
  stored : s'.attempts.lookup a.id = some a
  unanswered : s'.receipts.lookup a.id = none
  may : MayComplete caller a s'

theorem justBegun_of_ok {planId : TransferPlanId} {caller : Authority} {backend : Option Backend}
    {s : State} (hwf : WellFormed s) (hsettled : Settled s) {plan : TransferPlan}
    (hplan : s.plans.lookup planId = some plan) {b : BufferRecord}
    (hb : s.buffers.lookup plan.source = some b) {a : TransferAttempt}
    (ha : (beginTransfer planId caller backend s).1 = .ok a) :
  JustBegun plan b.handle caller backend a s (beginTransfer planId caller backend s).2
  := by
  obtain ⟨plan', b', hplan', hauthoritative, hb', hstart⟩ := beginTransfer_ok ha
  obtain rfl := Option.some.inj (hplan.symm.trans hplan')
  obtain rfl := Option.some.inj (hb.symm.trans hb')
  obtain ⟨hauthority, plan', hready⟩ := ready_of_ok ha
  obtain ⟨plan'', hbegins⟩ := begins_of_ok ha
  obtain rfl := Option.some.inj (hplan.symm.trans hbegins.stored)
  constructor
  · rw [hstart] at ha
    symm
    apply Except.ok.inj ha
  · rw [hbegins.result, hbegins.id]
    exact AList.lookup_insert _
  · rw [hbegins.result, hbegins.id]
    exact receipt_fresh hwf hsettled (Nat.lt_succ_self s.nextId)
  · rw [hbegins.result]
    constructor
    · intro howned
      exact ⟨hready.live howned, hauthority.symm⟩
    · rw [hbegins.records.planId, hwf.plan_id hplan]
      change (s.plans.lookup planId).any _ = true
      rw [hplan]
      exact hauthoritative

/-- It is completed by the caller exactly when the backend has delivered. -/
theorem JustBegun.completes_iff {plan : TransferPlan} {handle : Option BackendHandle}
    {caller : Authority} {backend : Option Backend} {a : TransferAttempt} {s s' : State}
    (h : JustBegun plan handle caller backend a s s') :
  (∃ r, (completeTransfer a.id caller s').1 = .ok r ∧ r.state = .completed) ↔
    BackendDelivers backend plan handle
  := by
  rw [GpuDirectFabric.completes_iff h.stored h.unanswered, h.run, runAttempt_doomed_iff, not_not,
    ← h.run]
  exact and_iff_right h.may

/-! ### Whole transfers -/

/-- A call, and the next one with its result unless it fails. -/
def andThen {α β : Type} (call : Result α × State) (next : α → State → Result β × State) :
    Result β × State :=
  match call.1 with
  | .error e => (.error e, call.2)
  | .ok a => next a call.2

theorem andThen_eq_ok_iff {α β : Type} {call : Result α × State}
    {next : α → State → Result β × State} {b : β} :
  (andThen call next).1 = .ok b ↔ ∃ a, call.1 = .ok a ∧ (next a call.2).1 = .ok b
  := by
  rw [andThen]
  cases call.1 with
  | error e => simp
  | ok a => simp

/-- A transfer from its request to its receipt, with nothing in between. -/
def transfer (p : PlanRequestParams) (caller : Authority) (backend : Option Backend) (s : State) :
    Result TransferReceipt × State :=
  andThen (planTransfer p s) fun plan s =>
  andThen (beginTransfer plan.id caller backend s) fun a s =>
  completeTransfer a.id caller s

/-- What the transfer of a request needs: a plan, room, a caller that may act for the source, and a
backend that delivers. -/
structure Deliverable (p : PlanRequestParams) (caller : Authority) (backend : Option Backend)
    (s : State) : Prop where
  plannable : Plannable p s
  room : s.attempts.size < s.maxAttempts
  live : caller.workerOwned = true → s.workerLiveLocked caller = true
  owner : ∀ src, s.buffers.lookup p.source = some src → caller.workerOwned = true →
    src.authority.workerOwned = true → caller = src.authority
  delivers : ∀ plan src, (planTransfer p s).1 = .ok plan →
    s.buffers.lookup p.source = some src → BackendDelivers backend plan src.handle

/-- The plan just made is ready for a caller that may act for its source. -/
theorem Stores.ready_iff {p : PlanRequestParams} {plan : TransferPlan} {src : BufferRecord}
    {w : World} (hw : persistedFabric.Reachable w)
    (h : Stores p plan src w.state (planTransfer p w.state).2) (caller : Authority) :
  (∃ plan', Ready plan.id caller plan' (planTransfer p w.state).2) ↔
    (caller.workerOwned = true → w.state.workerLiveLocked caller = true) ∧
    (caller.workerOwned = true → src.authority.workerOwned = true → caller = src.authority)
  := by
  have hlive : (planTransfer p w.state).2.workerLiveLocked caller
      = w.state.workerLiveLocked caller := by
    rw [State.workerLiveLocked, State.workerLiveLocked, h.epoch, h.workers]
  constructor
  · rintro ⟨plan', hready⟩
    obtain rfl := Option.some.inj (h.stored.symm.trans hready.stored)
    rw [← hlive, ← h.owner]
    exact ⟨hready.live, hready.owner⟩
  · rintro ⟨hlives, howner⟩
    have hsound := fence_sound (reachable_plan hw p)
    rw [World.plan_state] at hsound
    have hcurrent := planCurrent_of_sound hsound h.stored h.authoritative
    rw [← hlive] at hlives
    rw [← h.owner] at howner
    exact ⟨plan, h.stored, h.authoritative, hcurrent.epoch, hlives, howner, hcurrent.source,
      hcurrent.destination, h.registration⟩

/-- Where everything a transfer needs is there, it ends with the decision about its attempt, which
is completed. -/
theorem Deliverable.transfer {w : World} (hw : persistedFabric.Reachable w)
    {p : PlanRequestParams} {caller : Authority} {backend : Option Backend}
    (h : Deliverable p caller backend w.state) :
  ∃ plan src a s, (planTransfer p w.state).1 = .ok plan ∧
    Stores p plan src w.state (planTransfer p w.state).2 ∧
    JustBegun plan src.handle caller backend a (planTransfer p w.state).2 s ∧
    (transfer p caller backend w.state).1 = .ok (verdict a) ∧ (verdict a).state = .completed
  := by
  obtain ⟨plan, hplan⟩ := planTransfer_ok_iff.mpr h.plannable
  obtain ⟨src, hstores⟩ := planTransfer_stores (wellFormed_of_reachable hw) hplan
  have hw' : persistedFabric.Reachable (w.plan p) := reachable_plan hw p
  have hwf := wellFormed_of_reachable hw'
  have hsettled := settled_of_reachable hw'
  rw [World.plan_state] at hwf hsettled
  obtain ⟨a, ha⟩ := (beginTransfer_ok_iff plan.id caller backend _).mpr
    ⟨(hstores.ready_iff hw caller).mpr ⟨h.live, h.owner src hstores.source⟩, by
      rw [hstores.attempts.1, hstores.attempts.2]
      exact h.room⟩
  have hbegun := justBegun_of_ok hwf hsettled hstores.stored hstores.kept ha
  have hnot : ¬a.Doomed := by
    rw [hbegun.run, runAttempt_doomed_iff, not_not]
    exact h.delivers plan src hplan hstores.source
  obtain ⟨hr, hcompleted⟩ :=
    completeTransfer_verdict hbegun.stored hbegun.unanswered hbegun.may hnot
  refine ⟨plan, src, a, _, hplan, hstores, hbegun, ?_, hcompleted⟩
  exact andThen_eq_ok_iff.mpr ⟨plan, hplan, andThen_eq_ok_iff.mpr ⟨a, ha, hr⟩⟩

/-- In every reachable state, a transfer that nothing interrupts is completed exactly when what it
needs is there. -/
theorem transfer_completes_iff {w : World} (hw : persistedFabric.Reachable w)
    (p : PlanRequestParams) (caller : Authority) (backend : Option Backend) :
  (∃ r, (transfer p caller backend w.state).1 = .ok r ∧ r.state = .completed) ↔
    Deliverable p caller backend w.state
  := by
  constructor
  · rintro ⟨r, hr, hcompleted⟩
    obtain ⟨plan, hplan, hr⟩ := andThen_eq_ok_iff.mp hr
    obtain ⟨a, ha, hr⟩ := andThen_eq_ok_iff.mp hr
    obtain ⟨src, hstores⟩ := planTransfer_stores (wellFormed_of_reachable hw) hplan
    have hw' : persistedFabric.Reachable (w.plan p) := reachable_plan hw p
    have hwf := wellFormed_of_reachable hw'
    have hsettled := settled_of_reachable hw'
    rw [World.plan_state] at hwf hsettled
    obtain ⟨hbegun, hroom⟩ := (beginTransfer_ok_iff _ _ _ _).mp ⟨a, ha⟩
    obtain ⟨hlive, howner⟩ := (hstores.ready_iff hw caller).mp hbegun
    rw [hstores.attempts.1, hstores.attempts.2] at hroom
    refine ⟨planTransfer_ok_iff.mp ⟨plan, hplan⟩, hroom, hlive, ?_, ?_⟩
    · intro src' hsrc'
      obtain rfl := Option.some.inj (hstores.source.symm.trans hsrc')
      exact howner
    · intro plan' src' hplan' hsrc'
      obtain rfl := Option.some.inj (hstores.source.symm.trans hsrc')
      obtain rfl := Except.ok.inj (hplan.symm.trans hplan')
      apply (justBegun_of_ok hwf hsettled hstores.stored hstores.kept ha).completes_iff.mp
      exact ⟨r, hr, hcompleted⟩
  · intro h
    obtain ⟨plan, src, a, s, -, -, -, hr, hcompleted⟩ := h.transfer hw
    exact ⟨verdict a, hr, hcompleted⟩

namespace Fixture

/-- The plan of the fixture's request, and its backend, which delivers. -/
theorem deliverable :
  Deliverable request owner (some ({} : SyntheticBackend).toBackend) registered.state
  where
  plannable := planTransfer_ok_iff.mp (by
    cases hplan : (planTransfer request registered.state).1 with
    | ok plan => exact ⟨plan, rfl⟩
    | error e =>
        have hok : (planTransfer request registered.state).1.isOk = true := by decide +kernel
        rw [hplan] at hok
        cases hok)
  room := by decide +kernel
  live := by
    intro
    decide +kernel
  owner := by
    intro src hsrc
    have hall : (registered.state.buffers.lookup request.source).all
        fun src => src.authority = owner := by
      decide +kernel
    rw [hsrc, Option.all_some, decide_eq_true_eq] at hall
    intro _ _
    rw [hall]
  delivers := by
    intro plan src _ _
    use { bytes := plan.expectedBytes
          integrityChecked := true
          integrityPassed := true
          method := "synthetic-cpu-replica"
          support := .synthetic
          provenance := .syntheticFixture
          state := .completed
          detail := "synthetic transfer completed" }, rfl
    simp [TransferOutcome.RulesOut]

end Fixture

theorem transfer_completes_fixture :
  ∃ r, (transfer Fixture.request Fixture.owner (some ({} : SyntheticBackend).toBackend)
    Fixture.registered.state).1 = .ok r ∧ r.state = .completed
  := (transfer_completes_iff (Fixture.reachable_registered _) _ _ _).mpr Fixture.deliverable

/-! ### Begun transfers -/

/-- Where an attempt stands that was `a` when it began: it waits as it was, or it has come to one of
its ends. -/
inductive Standing (a : TransferAttempt) (s : State) : Prop
  | waiting (ha : s.attempts.lookup a.id = some a) (hr : s.receipts.lookup a.id = none)
  | completed (ha : s.attempts.lookup a.id = some (decided a))
      (hr : s.receipts.lookup a.id = some (verdict a))
  | cancelled (ha : s.attempts.lookup a.id = some (cancelledAs a))
      (hr : s.receipts.lookup a.id = some (cancelReceipt a))

/-- The decision about an attempt that is not doomed is to complete it. -/
theorem verdict_completed {a : TransferAttempt} (h : ¬a.Doomed) :
  (verdict a).state = .completed
  := by
  simp only [TransferAttempt.Doomed, not_or, not_not] at h
  rw [verdict, if_neg h.2.2.1]
  exact if_pos h.2.2.2

/-- No step takes an attempt that is not doomed anywhere else, and none leaves an end. -/
theorem AttemptStep.standing {e : Event} {s s' : State} {a a' : TransferAttempt}
    (hstep : AttemptStep e s s' a.id a') (ha' : s.attempts.lookup a.id = some a')
    (h : ¬a.Doomed) (hs : Standing a s) :
  Standing a s'
  := by
  cases hs with
  | waiting ha hr =>
      obtain rfl := Option.some.inj (ha.symm.trans ha')
      cases hstep with
      | rest hattempt hreceipt => exact .waiting hattempt (hreceipt.trans hr)
      | reported hfailed => exact absurd (.inl hfailed) h
      | decided _ _ hattempt hreceipt => exact .completed hattempt hreceipt
      | cancelled _ _ hattempt hreceipt => exact .cancelled hattempt hreceipt
  | completed ha hr =>
      obtain rfl := Option.some.inj (ha.symm.trans ha')
      cases hstep with
      | rest hattempt hreceipt => exact .completed hattempt (hreceipt.trans hr)
      | reported hfailed => cases (verdict_completed h).symm.trans hfailed
      | decided _ hcompletable => exact absurd ⟨rfl, by rw [hr]; rfl⟩ hcompletable.unanswered
      | cancelled _ hopen => cases hopen
  | cancelled ha hr =>
      obtain rfl := Option.some.inj (ha.symm.trans ha')
      cases hstep with
      | rest hattempt hreceipt => exact .cancelled hattempt (hreceipt.trans hr)
      | reported hfailed => cases hfailed
      | decided _ hcompletable => exact absurd rfl hcompletable.notCancelled
      | cancelled _ _ hattempt hreceipt => exact .cancelled hattempt hreceipt

theorem Standing.stored {a : TransferAttempt} {s : State} (h : Standing a s) :
  ∃ a', s.attempts.lookup a.id = some a'
  := by
  cases h with
  | waiting ha => exact ⟨_, ha⟩
  | completed ha => exact ⟨_, ha⟩
  | cancelled ha => exact ⟨_, ha⟩

/-- An attempt that stands somewhere is completed on demand when it is completed already, or waits
for a caller that may complete it. -/
theorem Standing.completes_iff {a : TransferAttempt} {s : State} (hs : Standing a s)
    (h : ¬a.Doomed) (caller : Authority) :
  (∃ r, (completeTransfer a.id caller s).1 = .ok r ∧ r.state = .completed) ↔
    s.receipts.lookup a.id = some (verdict a) ∨
      s.receipts.lookup a.id = none ∧ MayComplete caller a s
  := by
  cases hs with
  | waiting ha hr =>
      rw [GpuDirectFabric.completes_iff ha hr, hr]
      simp [h]
  | completed ha hr =>
      rw [completeTransfer_answered ha rfl hr]
      exact iff_of_true ⟨_, rfl, verdict_completed h⟩ (.inl hr)
  | cancelled ha hr =>
      rw [completeTransfer, ha, hr]
      have hne : cancelReceipt a ≠ verdict a := by
        intro heq
        have hstate := verdict_completed h
        rw [← heq] at hstate
        cases hstate
      simp [cancelledAs, err, hne]

/-- Whatever the process does after a call of `begin_transfer` whose backend delivered, the attempt
waits, is completed, or is cancelled; and it is completed on demand exactly when it is completed
already, or waits, its plan is in force, and the caller may complete it. -/
theorem completes_on_demand {u v : World} (hu : persistedFabric.Reachable u)
    {planId : TransferPlanId} {authority : Authority} {backend : Option Backend}
    {a : TransferAttempt} (ha : (beginTransfer planId authority backend u.state).1 = .ok a)
    (hdelivers : ∀ plan b, u.state.plans.lookup planId = some plan →
      u.state.buffers.lookup plan.source = some b → BackendDelivers backend plan b.handle)
    (hv : (process (· = u.next (.beginTransfer planId authority backend))).Reachable v) :
  Standing a v.state ∧ ∀ caller,
    (∃ r, (completeTransfer a.id caller v.state).1 = .ok r ∧ r.state = .completed) ↔
      v.state.receipts.lookup a.id = some (verdict a) ∨
        v.state.receipts.lookup a.id = none ∧ MayComplete caller a v.state
  := by
  have hwf := wellFormed_of_reachable hu
  obtain ⟨plan, b, hplan, -, hb, hstart⟩ := beginTransfer_ok ha
  have hnot : ¬a.Doomed := by
    have hdelivered := hdelivers plan b hplan hb
    rw [hstart] at ha
    rw [← Except.ok.inj ha]
    apply mt (runAttempt_doomed_iff _ _ _ _ _ _).mp
    exact not_not.mpr hdelivered
  have hnext : persistedFabric.Reachable (u.next (.beginTransfer planId authority backend)) :=
    reachable_next hu trivial
  have hstanding : Standing a v.state := by
    apply process_invariant (P := Standing a) hnext hv
    · obtain ⟨plan', hbegins⟩ := begins_of_ok ha
      rw [World.next_state, apply, hbegins.result]
      apply Standing.waiting
      · rw [hbegins.id]
        exact AList.lookup_insert _
      · rw [hbegins.id]
        exact receipt_fresh hwf (settled_of_reachable hu) (Nat.lt_succ_self u.state.nextId)
    · intro w e hw hrecover hallowed hs
      obtain ⟨a', ha'⟩ := hs.stored
      exact (hallowed.effect.attemptStep hrecover (wellFormed_of_reachable hw) ha').standing ha'
        hnot hs
  exact ⟨hstanding, hstanding.completes_iff hnot⟩

namespace Fixture

/-- The world in which the cancelling backend has made that transfer. -/
def begunTransfer : World := planned.next (.beginTransfer 8 owner (some cancellingBackend))

/-- The endpoint becomes unhealthy after that, and the buffer is retired. -/
def overtaken : World :=
  begunTransfer.replay [.setEndpointHealth 4 false {}, .retireBuffer 6 owner]

theorem reachable_overtaken :
  (process (· = begunTransfer)).Reachable overtaken
  := ⟨_, run_call (run_call (.start rfl) rfl) rfl⟩

end Fixture

/-- An attempt whose transfer the backend reports as cancelled, with all its bytes, is completed on
demand, also when its path has closed since. -/
theorem completes_on_demand_withdrawn :
  Standing Fixture.withdrawn Fixture.overtaken.state ∧
    ∀ caller, (∃ r, (completeTransfer Fixture.withdrawn.id caller Fixture.overtaken.state).1
        = .ok r ∧ r.state = .completed) ↔
      Fixture.overtaken.state.receipts.lookup Fixture.withdrawn.id
        = some (verdict Fixture.withdrawn) ∨
      Fixture.overtaken.state.receipts.lookup Fixture.withdrawn.id = none ∧
        MayComplete caller Fixture.withdrawn Fixture.overtaken.state
  := by
  apply completes_on_demand (Fixture.reachable_planned _) Fixture.begun_withdrawn
  · intro plan b _ _
    use { state := .cancelled, bytes := plan.expectedBytes }, rfl
    simp [TransferOutcome.RulesOut]
  · apply Fixture.reachable_overtaken

end GpuDirectFabric
