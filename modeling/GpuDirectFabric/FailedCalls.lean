import GpuDirectFabric.Frames

/-!
# Failed calls

A call that returns an error leaves the state as it was.  An operation makes its checks first and
its changes after them, with two exceptions: a registration may retire the latest registration of
its pair before it asks the backend, and a completion that finds the data corrupt commits the
failure and then returns an error.
-/

namespace GpuDirectFabric

open Coordinator Persistence

/-- The error a result is, if it is one. -/
def errorOf {α : Type} : Result α → Option Error
  | .error e => some e
  | .ok _ => none

/-- The error a call returns, if it fails. -/
def Coordinator.failure : Event → State → Option Error
  | .registerWorker worker boot epoch, s => errorOf (registerWorker worker boot epoch s).1
  | .markWorkerDead worker, s => errorOf (markWorkerDead worker s).1
  | .advanceEpoch, s => errorOf (advanceEpoch s).1
  | .createBuffer p, s => errorOf (createBuffer p s).1
  | .advanceBufferGeneration id authority, s => errorOf (advanceBufferGeneration id authority s).1
  | .retireBuffer id authority, s => errorOf (retireBuffer id authority s).1
  | .addDevice p, s => errorOf (addDevice p s).1
  | .addEndpoint p, s => errorOf (addEndpoint p s).1
  | .advanceEndpointGeneration id authority, s =>
    errorOf (advanceEndpointGeneration id authority s).1
  | .setEndpointHealth id healthy authority, s =>
    errorOf (setEndpointHealth id healthy authority s).1
  | .addNic rec, s => errorOf (addNic rec s).1
  | .addStorageEndpoint rec, s => errorOf (addStorageEndpoint rec s).1
  | .addProvider p, s => errorOf (addProvider p s).1
  | .publishCapability p, s => errorOf (publishCapability p s).1
  | .revokeCapability provider capability authority, s =>
    errorOf (revokeCapability provider capability authority s).1
  | .registerBuffer p backend, s => errorOf (registerBuffer p backend s).1
  | .deregisterBuffer id authority, s => errorOf (deregisterBuffer id authority s).1
  | .planCommit p d, s => errorOf (planTransferCommit p d s).1
  | .beginTransfer planId authority backend, s =>
    errorOf (beginTransfer planId authority backend s).1
  | .completeTransfer attemptId authority, s => errorOf (completeTransfer attemptId authority s).1
  | .cancelTransfer attemptId authority, s => errorOf (cancelTransfer attemptId authority s).1
  | .verifyTransfer attemptId passed bytesChecked, s =>
    errorOf (verifyTransfer attemptId passed bytesChecked s).1
  | .recover file, s => errorOf (recoverFromFile file s).1
  | .setLimits _ _ _ _ _, _ => none
  | .planSnapshot _, _ => none
  | .rehash _, _ => none

/-- From `s` to `s'` the attempt is committed as failed, with a failed receipt. -/
def CommitsFailure (id : TransferAttemptId) (s s' : State) : Prop :=
  ∃ attempt receipt, s.attempts.lookup id = some attempt ∧
    s'.attempts.lookup id = some { attempt with state := .failed, completionCommitted := true } ∧
    s'.receipts.lookup id = some receipt ∧ receipt.state = .failed

/-! ### Calls that are intact -/

/-- If the call fails, it leaves the state as it was. -/
def Intact {α : Type} (s : State) (call : Result α × State) : Prop :=
  ∀ error, errorOf call.1 = some error → call.2 = s

namespace Intact

variable {α : Type} {s : State}

/-- A call that fails and has changed nothing. -/
theorem failed (e : Error) :
  Intact s ((.error e : Result α), s)
  := fun _ _ => rfl

/-- A call that succeeds need not leave the state alone. -/
theorem ok (a : α) (s' : State) :
  Intact s (.ok a, s')
  := by
  rintro error ⟨⟩

/-- A check before an intact rest. -/
theorem check {c : Prop} [Decidable c] {e : Error} {rest : Result α × State}
    (h : Intact s rest) :
  Intact s (if c then (.error e, s) else rest)
  := by
  split
  · exact failed e
  · exact h

end Intact

namespace Coordinator

/-- A worker that is refused is not recorded, nor is its boot id. -/
theorem registerWorker_intact (worker : WorkerId) (boot : WorkerBootId)
    (epoch : CoordinatorEpoch) (s : State) :
  Intact s (registerWorker worker boot epoch s)
  := by
  rw [registerWorker]
  apply Intact.check
  apply Intact.check
  apply Intact.check
  split
  · cases s.workers.lookup worker with
    | some live =>
        dsimp only
        split
        · exact .ok _ _
        · exact .ok _ _
    | none =>
        apply Intact.check
        exact .ok _ _
  · exact .ok _ _

/-- A buffer that is refused takes no id. -/
theorem createBuffer_intact (p : CreateBufferParams) (s : State) :
  Intact s (createBuffer p s)
  := by
  apply Intact.check
  apply Intact.check
  apply Intact.check
  exact .ok _ _

/-- A generation that may not be advanced stays, and with it all that depends on it. -/
theorem advanceBufferGeneration_intact (id : BufferId) (authority : Authority) (s : State) :
  Intact s (advanceBufferGeneration id authority s)
  := by
  rw [advanceBufferGeneration]
  cases s.buffers.lookup id with
  | none => exact .failed _
  | some b =>
      apply Intact.check
      exact .ok _ _

/-- A buffer that may not be retired stays, and with it all that depends on it. -/
theorem retireBuffer_intact (id : BufferId) (authority : Authority) (s : State) :
  Intact s (retireBuffer id authority s)
  := by
  rw [retireBuffer]
  cases s.buffers.lookup id with
  | none => exact .failed _
  | some b =>
      apply Intact.check
      exact .ok _ _

/-- A device under an authority that is not live takes no id. -/
theorem addDevice_intact (p : DeviceAddParams) (s : State) :
  Intact s (addDevice p s)
  := by
  apply Intact.check
  exact .ok _ _

/-- An endpoint that is refused takes no id. -/
theorem addEndpoint_intact (p : EndpointAddParams) (s : State) :
  Intact s (addEndpoint p s)
  := by
  apply Intact.check
  apply Intact.check
  exact .ok _ _

/-- The generation of an endpoint is advanced only for its owner, and its dependents invalidated
only then. -/
theorem advanceEndpointGeneration_intact (id : EndpointId) (authority : Authority) (s : State) :
  Intact s (advanceEndpointGeneration id authority s)
  := by
  rw [advanceEndpointGeneration]
  cases s.endpoints.lookup id with
  | none => exact .failed _
  | some e =>
      apply Intact.check
      exact .ok _ _

/-- The health of an endpoint is set only for its owner. -/
theorem setEndpointHealth_intact (id : EndpointId) (healthy : Bool) (authority : Authority)
    (s : State) :
  Intact s (setEndpointHealth id healthy authority s)
  := by
  rw [setEndpointHealth]
  cases s.endpoints.lookup id with
  | none => exact .failed _
  | some e =>
      apply Intact.check
      exact .ok _ _

/-- A provider without a name takes no id. -/
theorem addProvider_intact (p : ProviderAddParams) (s : State) :
  Intact s (addProvider p s)
  := by
  rw [addProvider]
  apply Intact.check
  split
  · exact .ok _ _
  · exact .ok _ _

/-- An observation under an authority that is not live takes no id, nor the place of another. -/
theorem publishCapability_intact (p : CapabilityPublishParams) (s : State) :
  Intact s (publishCapability p s)
  := by
  rw [publishCapability]
  apply Intact.check
  dsimp only
  split
  · exact .ok _ _
  · exact .ok _ _

/-- An observation is revoked only for its owner. -/
theorem revokeCapability_intact (provider capability : Str) (authority : Authority) (s : State) :
  Intact s (revokeCapability provider capability authority s)
  := by
  rw [revokeCapability]
  split
  · exact .ok _ _
  · apply Intact.check
    exact .ok _ _

/-- A registration the backend refuses has retired nothing, since none was being deregistered. -/
theorem registerBuffer_intact {p : RegisterParams} {backend : Option Backend} {s : State}
    (h : WellFormed s) :
  Intact s (registerBuffer p backend s)
  := by
  have houtcome := registerBuffer_outcome p backend s
  generalize registerBuffer p backend s = call at houtcome
  cases houtcome with
  | refused => exact .failed _
  | duplicate => exact .ok _ _
  | failed hretired =>
      obtain rfl := retires_eq h hretired
      exact .failed _
  | accepted => exact .ok _ _

/-- All checks come before the registration is touched. -/
theorem deregisterBuffer_intact (id : RegistrationId) (authority : Authority) (s : State) :
  Intact s (deregisterBuffer id authority s)
  := by
  rw [deregisterBuffer]
  cases s.registrations.lookup id with
  | none => exact .failed _
  | some reg =>
      dsimp only
      split
      · exact .ok _ _
      split
      · exact .ok _ _
      apply Intact.check
      apply Intact.check
      exact .ok _ _

/-- The commit of a plan checks all it checks before it stores anything. -/
theorem planTransferCommit_intact (p : PlanRequestParams) (d : PathDecision) (s : State) :
  Intact s (planTransferCommit p d s)
  := by
  obtain ⟨e, heq⟩ | ⟨src, dst, -, -, -, -, -, -, heq⟩ := planTransferCommit_cases p d s
  · rw [heq]
    exact .failed e
  · rw [heq, storePlan]
    split
    · exact .ok _ _
    · exact .ok _ _

/-- A transfer that is refused takes no id. -/
theorem beginTransfer_intact (planId : TransferPlanId) (authority : Authority)
    (backend : Option Backend) (s : State) :
  Intact s (beginTransfer planId authority backend s)
  := by
  have houtcome := beginTransfer_outcome planId authority backend s
  generalize beginTransfer planId authority backend s = call at houtcome
  cases houtcome with
  | refused => exact .failed _
  | begun => exact .ok _ _

/-- An attempt that cannot be cancelled stays as it is. -/
theorem cancelTransfer_intact (id : TransferAttemptId) (authority : Authority) (s : State) :
  Intact s (cancelTransfer id authority s)
  := by
  rw [cancelTransfer]
  cases s.attempts.lookup id with
  | none => exact .failed _
  | some attempt =>
      apply Intact.check
      apply Intact.check
      exact .ok _ _

/-- An attempt that is not there is not verified. -/
theorem verifyTransfer_intact (id : TransferAttemptId) (passed : Bool) (bytesChecked : ℕ)
    (s : State) :
  Intact s (verifyTransfer id passed bytesChecked s)
  := by
  rw [verifyTransfer]
  cases s.attempts.lookup id with
  | none => exact .failed _
  | some attempt => exact .ok _ _

/-- A failed completion leaves the state as it was, or has found the data corrupt and commits the
attempt and a receipt as failed. -/
theorem completeTransfer_failed {id : TransferAttemptId} {authority : Authority} {s : State}
    {error : Error} (h : errorOf (completeTransfer id authority s).1 = some error) :
  error.code ≠ .integrityFailure ∧ (completeTransfer id authority s).2 = s ∨
    error.code = .integrityFailure ∧ CommitsFailure id s (completeTransfer id authority s).2
  := by
  rw [completeTransfer] at h ⊢
  cases hattempt : s.attempts.lookup id with
  | none =>
      rw [hattempt] at h
      obtain rfl := Option.some.inj h
      exact .inl ⟨by decide, rfl⟩
  | some attempt =>
  rw [hattempt] at h
  dsimp only at h ⊢
  split at h
  next => cases h
  next hcommitted =>
  rw [if_neg hcommitted]
  split at h
  next hcancelled =>
    obtain rfl := Option.some.inj h
    rw [if_pos hcancelled]
    exact .inl ⟨by decide, rfl⟩
  next hcancelled =>
  rw [if_neg hcancelled]
  split at h
  next =>
    cases hreceipt : s.receipts.lookup id with
    | some receipt =>
        rw [hreceipt] at h
        cases h
    | none =>
        rw [hreceipt] at h
        cases h
  next hfailed =>
  rw [if_neg hfailed]
  split at h
  next hcaller =>
    obtain rfl := Option.some.inj h
    rw [if_pos hcaller]
    exact .inl ⟨by decide, rfl⟩
  next hcaller =>
  rw [if_neg hcaller]
  split at h
  next hplan =>
    obtain rfl := Option.some.inj h
    rw [if_pos hplan]
    exact .inl ⟨by decide, rfl⟩
  next hplan =>
  rw [if_neg hplan]
  rw [finishAttempt] at h ⊢
  split at h
  next hcorrupt =>
    obtain rfl := Option.some.inj h
    rw [if_pos hcorrupt]
    exact .inr ⟨rfl, attempt, _, hattempt, AList.lookup_insert _, AList.lookup_insert _, rfl⟩
  next => cases h

end Coordinator

/-- In every reachable state a call that fails, other than a recovery, leaves the state as it was,
except that a completion that finds the data corrupt commits the failure. -/
theorem failed_call_unchanged {w : World} (h : persistedFabric.Reachable w) {e : Event}
    {error : Error} (herror : failure e w.state = some error)
    (hrecover : ∀ file, e ≠ .recover file) :
  (∀ id authority, e = .completeTransfer id authority → error.code = .integrityFailure →
    CommitsFailure id w.state (apply e w.state)) ∧
  ((∀ id authority, e = .completeTransfer id authority → error.code ≠ .integrityFailure) →
    apply e w.state = w.state)
  := by
  constructor
  · rintro id authority rfl hcode
    obtain ⟨hne, -⟩ | ⟨-, hcommits⟩ := completeTransfer_failed herror
    · exact absurd hcode hne
    · exact hcommits
  · intro hcode
    cases e with
    | registerWorker worker boot epoch => exact registerWorker_intact worker boot epoch _ _ herror
    | createBuffer p => exact createBuffer_intact p _ _ herror
    | advanceBufferGeneration id authority =>
        exact advanceBufferGeneration_intact id authority _ _ herror
    | retireBuffer id authority => exact retireBuffer_intact id authority _ _ herror
    | addDevice p => exact addDevice_intact p _ _ herror
    | addEndpoint p => exact addEndpoint_intact p _ _ herror
    | advanceEndpointGeneration id authority =>
        exact advanceEndpointGeneration_intact id authority _ _ herror
    | setEndpointHealth id healthy authority =>
        exact setEndpointHealth_intact id healthy authority _ _ herror
    | addProvider p => exact addProvider_intact p _ _ herror
    | publishCapability p => exact publishCapability_intact p _ _ herror
    | revokeCapability provider capability authority =>
        exact revokeCapability_intact provider capability authority _ _ herror
    | registerBuffer p backend =>
        exact registerBuffer_intact (wellFormed_of_reachable h) _ herror
    | deregisterBuffer id authority => exact deregisterBuffer_intact id authority _ _ herror
    | planCommit p d => exact planTransferCommit_intact p d _ _ herror
    | beginTransfer planId authority backend =>
        exact beginTransfer_intact planId authority backend _ _ herror
    | completeTransfer id authority =>
        obtain ⟨-, hsame⟩ | ⟨hfailure, -⟩ := completeTransfer_failed herror
        · exact hsame
        · exact absurd hfailure (hcode id authority rfl)
    | cancelTransfer id authority => exact cancelTransfer_intact id authority _ _ herror
    | verifyTransfer id passed bytesChecked =>
        exact verifyTransfer_intact id passed bytesChecked _ _ herror
    | recover file => exact absurd rfl (hrecover file)
    | _ => cases herror

namespace Fixture

/-- A backend that refuses everything. -/
def refusing : Backend where
  registerBuffer _ := err .providerUnavailable "refused"
  runTransfer _ := err .transferFailed "refused"

/-- The world in which the registration of the buffer needs revalidation. -/
def outdated : World := registered.next (.advanceBufferGeneration 6 owner)

theorem reachable_outdated (setting : Setting) :
  (fabric setting World.New).Reachable outdated
  := reachable_next (reachable_registered setting) trivial

/-- A registration on the backend that refuses everything. -/
def refused : Event :=
  .registerBuffer { buffer := 6, endpoint := 4, authority := owner } (some refusing)

end Fixture

theorem failed_call_fixture :
  apply Fixture.refused Fixture.outdated.state = Fixture.outdated.state
  := (@failed_call_unchanged _ (Fixture.reachable_outdated _) Fixture.refused
    { code := .registrationFailed, message := "refused" } (by decide +kernel)
    (by rintro file ⟨⟩)).2 (by rintro id authority ⟨⟩)

end GpuDirectFabric
