import GpuDirectFabric.Coordinator

/-!
# The lifecycle of a transfer

An attempt begins from a plan, and ends completed, failed or cancelled.  The receipt of an
attempt is what the coordinator publishes about its end, and a verification receipt what it
publishes about the integrity of the data.
-/

namespace GpuDirectFabric

namespace Coordinator

def makeReceipt (a : TransferAttempt) (state : TransferState) (integrityOk : Bool)
    (method detail : Str) : TransferReceipt :=
  { attemptId := a.id
    planGeneration := a.planGeneration
    state := state
    bytes := a.bytes
    integrityVerified := integrityOk
    support := a.support
    provenance := a.provenance
    method := method
    epoch := a.epoch
    detail := detail }

/-- The attempt as the plan describes it, before its data plane has run. -/
def newAttempt (plan : TransferPlan) (authority : Authority) (id : TransferAttemptId)
    (epoch : CoordinatorEpoch) : TransferAttempt :=
  { id := id
    planId := plan.id
    planGeneration := plan.generation
    state := .inFlight
    epoch := epoch
    authority := authority
    submittedBytes := plan.expectedBytes
    support := plan.support
    provenance := plan.provenance }

/-- The attempt after the backend, if there is one, has run the data plane. -/
def runAttempt (plan : TransferPlan) (handle : Option BackendHandle) (backend : Option Backend)
    (attempt : TransferAttempt) : TransferAttempt :=
  match backend with
  | none => attempt
  | some be =>
    match be.runTransfer
        { plan := plan
          acceleratorBuffer := plan.source
          expectedBytes := plan.expectedBytes
          acceleratorHandle := handle } with
    | .error e => { attempt with state := .failed, detail := e.message }
    | .ok outcome =>
      let failed := outcome.state = .failed
      { attempt with
        bytes := outcome.bytes
        integrityChecked := outcome.integrityChecked
        integrityPassed := outcome.integrityPassed
        method := outcome.method
        support := outcome.support
        provenance := outcome.provenance
        backendToken := Nat.repr outcome.bytes
        state := if failed then .failed else attempt.state
        detail := if failed && outcome.detail.isEmpty then "backend transfer failed"
          else outcome.detail }

/-- The stage of `begin_transfer` after all its checks. -/
def startAttempt (plan : TransferPlan) (authority : Authority) (handle : Option BackendHandle)
    (backend : Option Backend) (s : State) : Result TransferAttempt × State :=
  let s := s.nextIdLocked
  let attempt := runAttempt plan handle backend (newAttempt plan authority s.nextId s.epoch)
  (.ok attempt, { s with attempts := s.attempts.insert attempt.id attempt })

/-- The registration a plan is bound to, if any, is `REGISTERED` at the plan's generation. -/
def registrationCurrent (plan : TransferPlan) (s : State) : Bool :=
  !valid plan.registrationId ||
    (s.registrations.lookup plan.registrationId).any fun r =>
      r.generation = plan.registrationGeneration && r.state = .registered

def beginTransfer (planId : TransferPlanId) (authority : Authority) (backend : Option Backend)
    (s : State) : Result TransferAttempt × State :=
  match s.plans.lookup planId with
  | none => (err .notFound "transfer plan not found", s)
  | some plan =>
  if !plan.authoritative then
    (err .staleGeneration "transfer plan is superseded", s)
  else if plan.epoch != s.epoch then
    (err .staleEpoch "transfer plan epoch is stale", s)
  else if authority.workerOwned && !s.workerLiveLocked authority then
    (err .staleBoot "begin authority is not live", s)
  else if authority.workerOwned && plan.authority.workerOwned && authority != plan.authority then
    (err .staleBoot "begin authority does not match plan authority", s)
  else if s.attempts.size ≥ s.maxAttempts then
    (err .resourceLimit "attempt limit reached", s)
  else match s.buffers.lookup plan.source with
  | none => (err .staleGeneration "source generation advanced since plan", s)
  | some buffer =>
  if buffer.generation != plan.sourceGeneration then
    (err .staleGeneration "source generation advanced since plan", s)
  else match s.endpoints.lookup plan.destination with
  | none => (err .staleEndpoint "destination generation advanced since plan", s)
  | some endpoint =>
  if endpoint.generation != plan.destinationGeneration then
    (err .staleEndpoint "destination generation advanced since plan", s)
  else if !registrationCurrent plan s then
    (err .registrationStale "registration stale for transfer", s)
  else startAttempt plan authority buffer.handle backend s

/-- The verification receipt of a completion. -/
def verificationOf (a : TransferAttempt) (id : VerificationId) (passed : Bool) :
    VerificationReceipt :=
  { id := id
    attemptId := a.id
    passed := passed
    bytesChecked := a.bytes
    support := a.support
    method := a.method
    expected := "reference"
    actual := if passed then "reference" else "mismatch" }

/-- Store the end of an attempt: the attempt committed in its final state, and its receipt. -/
def commitAttempt (id : TransferAttemptId) (attempt : TransferAttempt) (receipt : TransferReceipt)
    (s : State) : State :=
  { s with
    attempts := s.attempts.insert id { attempt with
      state := receipt.state, completionCommitted := true }
    receipts := s.receipts.insert id receipt }

/-- Store the verification receipt of an attempt. -/
def storeVerification (attempt : TransferAttempt) (passed : Bool) (s : State) : State :=
  let s := s.nextIdLocked
  { s with
    verifications := s.verifications.insert s.nextId (verificationOf attempt s.nextId passed) }

/-- The stage of `complete_transfer` after all its checks. -/
def finishAttempt (id : TransferAttemptId) (attempt : TransferAttempt) (s : State) :
    Result TransferReceipt × State :=
  if attempt.integrityChecked && !attempt.integrityPassed then
    let receipt := makeReceipt attempt .failed false attempt.method
      "integrity verification failed"
    (err .integrityFailure "data integrity verification failed",
      storeVerification attempt false (commitAttempt id attempt receipt s))
  else
    let completed := attempt.submittedBytes = 0 || attempt.bytes = attempt.submittedBytes
    let receipt := makeReceipt attempt (if completed then .completed else .failed)
      attempt.integrityChecked attempt.method attempt.detail
    let s := commitAttempt id attempt receipt s
    (.ok receipt,
      if completed && attempt.integrityChecked && attempt.integrityPassed then
        storeVerification attempt true s
      else s)

def completeTransfer (attemptId : TransferAttemptId) (authority : Authority) (s : State) :
    Result TransferReceipt × State :=
  match s.attempts.lookup attemptId with
  | none => (err .notFound "transfer attempt not found", s)
  | some attempt =>
  let stored := s.receipts.lookup attemptId
  if attempt.completionCommitted && stored.isSome then
    (.ok (stored.getD {}), s)
  else if attempt.state = .cancelled then
    (err .cancelled "cannot complete a cancelled transfer", s)
  else if attempt.state = .failed then
    match stored with
    | some receipt => (.ok receipt, s)
    | none =>
      let receipt := makeReceipt attempt .failed false attempt.method attempt.detail
      (.ok receipt, { s with receipts := s.receipts.insert attemptId receipt })
  else if authority.workerOwned &&
      (!s.workerLiveLocked authority || authority != attempt.authority) then
    (err .staleBoot "completion authority mismatch", s)
  else if !(s.plans.lookup attempt.planId).any TransferPlan.authoritative then
    (err .staleGeneration "plan superseded; completion is stale", s)
  else finishAttempt attemptId attempt s

def cancelTransfer (attemptId : TransferAttemptId) (authority : Authority) (s : State) :
    Result TransferReceipt × State :=
  match s.attempts.lookup attemptId with
  | none => (err .notFound "transfer attempt not found", s)
  | some attempt =>
  if attempt.completionCommitted || attempt.state = .completed || attempt.state = .verified then
    (err .cancelled "cannot cancel an already completed transfer", s)
  else if authority.workerOwned &&
      (!s.workerLiveLocked authority || authority != attempt.authority) then
    (err .staleBoot "cancel authority mismatch", s)
  else
    let attempt := { attempt with state := .cancelled, completionCommitted := false }
    let receipt := makeReceipt attempt .cancelled false attempt.method
      "transfer cancelled before completion"
    (.ok receipt, { s with
      attempts := s.attempts.insert attemptId attempt
      receipts := s.receipts.insert attemptId receipt })

def verifyTransfer (attemptId : TransferAttemptId) (passed : Bool) (bytesChecked : ℕ)
    (s : State) : Result VerificationReceipt × State :=
  match s.attempts.lookup attemptId with
  | none => (err .notFound "transfer attempt not found", s)
  | some attempt =>
    let s := s.nextIdLocked
    let vr : VerificationReceipt :=
      { verificationOf attempt s.nextId passed with
        bytesChecked := bytesChecked
        method := if attempt.method.isEmpty then "explicit" else attempt.method }
    (.ok vr, { s with verifications := s.verifications.insert vr.id vr })

/-! ### Receipts of completion -/

theorem finishAttempt_completed {id k : TransferAttemptId} {attempt : TransferAttempt} {s : State}
    {receipt : TransferReceipt}
    (h : (finishAttempt id attempt s).2.receipts.lookup k = some receipt)
    (hstate : receipt.state = .completed) :
  s.receipts.lookup k = some receipt ∨
    k = id ∧ receipt = makeReceipt attempt .completed attempt.integrityChecked attempt.method
      attempt.detail
  := by
  rw [finishAttempt] at h
  split at h
  next =>
    obtain ⟨-, rfl⟩ | ⟨-, hold⟩ := Table.lookup_insert_some h
    · cases hstate
    · exact .inl hold
  next =>
    obtain ⟨state, hreceipts⟩ : ∃ state, (s.receipts.insert id (makeReceipt attempt state
        attempt.integrityChecked attempt.method attempt.detail)).lookup k = some receipt := by
      dsimp only at h
      split at h
      · exact ⟨_, h⟩
      · exact ⟨_, h⟩
    obtain ⟨rfl, rfl⟩ | ⟨-, hold⟩ := Table.lookup_insert_some hreceipts
    · obtain rfl : state = .completed := hstate
      exact .inr ⟨rfl, rfl⟩
    · exact .inl hold

/-- A completion publishes a `COMPLETED` receipt only for an attempt of an authoritative plan, to
a caller that is not a worker or is the live worker the attempt belongs to. -/
theorem completeTransfer_completed {id k : TransferAttemptId} {authority : Authority} {s : State}
    {receipt : TransferReceipt}
    (h : (completeTransfer id authority s).2.receipts.lookup k = some receipt)
    (hstate : receipt.state = .completed) :
  s.receipts.lookup k = some receipt ∨
    ∃ attempt plan, s.attempts.lookup id = some attempt ∧
      s.plans.lookup attempt.planId = some plan ∧ plan.authoritative = true ∧
      (authority.workerOwned = true →
        s.workerLiveLocked authority = true ∧ authority = attempt.authority) ∧
      k = id ∧
      receipt = makeReceipt attempt .completed attempt.integrityChecked attempt.method
        attempt.detail
  := by
  rw [completeTransfer] at h
  cases hattempt : s.attempts.lookup id with
  | none =>
      rw [hattempt] at h
      exact .inl h
  | some attempt =>
  rw [hattempt] at h
  dsimp only at h
  split at h
  next => exact .inl h
  split at h
  next => exact .inl h
  split at h
  next =>
    split at h
    next => exact .inl h
    next =>
      obtain ⟨-, rfl⟩ | ⟨-, hold⟩ := Table.lookup_insert_some h
      · cases hstate
      · exact .inl hold
  split at h
  next => exact .inl h
  next hcaller =>
  split at h
  next => exact .inl h
  next hplan =>
  obtain ⟨plan, hplan, hauthoritative⟩ : ∃ plan, s.plans.lookup attempt.planId = some plan ∧
      plan.authoritative = true := by
    rw [Bool.not_eq_true, Bool.not_eq_false'] at hplan
    exact (Option.any_eq_true _ _).mp hplan
  have hcaller : authority.workerOwned = true →
      s.workerLiveLocked authority = true ∧ authority = attempt.authority := by
    intro howned
    simpa [howned] using hcaller
  obtain hold | ⟨rfl, rfl⟩ := finishAttempt_completed h hstate
  · exact .inl hold
  · exact .inr ⟨attempt, plan, rfl, hplan, hauthoritative, hcaller, rfl, rfl⟩

end Coordinator

/-! ### The synthetic backend -/

/-- `SyntheticBackend`: it draws registration ids from a counter of its own. -/
structure SyntheticBackend where
  corrupt : Bool := false
  nextRegId : ℕ := 1

namespace SyntheticBackend

/-- The answer to a registration, which uses up an id. -/
def registerBuffer (_spec : RegistrationSpec) (b : SyntheticBackend) :
    Result RegisterResult × SyntheticBackend :=
  (.ok
    { id := b.nextRegId
      generation := 1
      support := .synthetic
      provenance := .syntheticFixture
      handle := some ⟨b.nextRegId⟩ },
    { b with nextRegId := b.nextRegId + 1 })

def runTransfer (run : TransferRun) (b : SyntheticBackend) : Result TransferOutcome :=
  .ok
    { bytes := run.expectedBytes
      integrityChecked := true
      integrityPassed := !b.corrupt
      method := "synthetic-cpu-replica"
      support := .synthetic
      provenance := .syntheticFixture
      state := if b.corrupt then .failed else .completed
      detail := if b.corrupt then "synthetic payload corruption detected"
        else "synthetic transfer completed" }

/-- The backend as the coordinator sees it during one call. -/
def toBackend (b : SyntheticBackend) : Backend where
  registerBuffer spec := (b.registerBuffer spec).1
  runTransfer run := b.runTransfer run

end SyntheticBackend

end GpuDirectFabric
