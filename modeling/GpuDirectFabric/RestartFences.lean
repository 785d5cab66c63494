import GpuDirectFabric.FailedCalls
import GpuDirectFabric.Messages
import GpuDirectFabric.RestartPaths

/-!
# Fencing after a restart

An operation that a coordinator rejects for authority reasons after it has changed the epoch in
process is to be rejected as well by the one that has recovered the persisted file.  The checks
that read the highest boot ids, or the owners of buffers and endpoints, find nothing there.
-/

namespace GpuDirectFabric

open Coordinator Persistence

/-! ### Rejections -/

/-- The error blames an authority: a boot id or an epoch is stale, or the buffer is another
worker's. -/
def Error.FromAuthority (e : Error) : Prop :=
  e.code = .staleBoot ∨ e.code = .staleEpoch ∨
    e.code = .registrationFailed ∧ e.message = "buffer is owned by a different worker"

instance : DecidablePred Error.FromAuthority :=
  fun e => inferInstanceAs (Decidable (e.code = .staleBoot ∨ e.code = .staleEpoch ∨
    e.code = .registrationFailed ∧ e.message = "buffer is owned by a different worker"))

/-- The result is a rejection for authority reasons. -/
def Fenced {α : Type} (result : Result α) : Prop := ∃ e ∈ errorOf result, e.FromAuthority

/-- The result is a rejection. -/
def Rejected {α : Type} (result : Result α) : Prop := (errorOf result).isSome = true

theorem not_rejected {α : Type} (a : α) :
  ¬Rejected (.ok a : Result α)
  := by
  rintro ⟨⟩

theorem Fenced.rejected {α : Type} {result : Result α} (h : Fenced result) :
  Rejected result
  := by
  obtain ⟨e, he, -⟩ := h
  exact Option.isSome_of_mem he

/-- A call that is guarded is rejected where it is not let through. -/
theorem Guarded.rejected_iff {α : Type} {s : State} {P : Prop} {call : Result α × State}
    (h : Guarded s P call) :
  Rejected call.1 ↔ ¬P
  := by
  cases h with
  | passed hP a => exact iff_of_false (not_rejected a) (not_not_intro hP)
  | refused hP => exact iff_of_true rfl hP

namespace Fenced

variable {α : Type}

theorem not_ok (a : α) :
  ¬Fenced (.ok a : Result α)
  := by
  rintro ⟨e, ⟨⟩, -⟩

theorem not_error {e : Error} (h : ¬e.FromAuthority) :
  ¬Fenced (.error e : Result α)
  := by
  rintro ⟨_, ⟨⟩, he⟩
  exact h he

/-- A check that blames no authority, before a rest that blames none. -/
theorem not_check {c : Prop} [Decidable c] {e : Error} {s : State} {rest : Result α × State}
    (he : ¬e.FromAuthority) (h : ¬c → ¬Fenced rest.1) :
  ¬Fenced (if c then (.error e, s) else rest).1
  := by
  split
  next => exact not_error he
  next hc => exact h hc

end Fenced

/-! ### Records of workers -/

/-- The call is on a record with that owner, if there is one, and checks its caller against the
owner. -/
inductive OwnerChecked {α : Type} (s : State) (caller : Authority) :
    Option Authority → Result α × State → Prop
  | missing {e : Error} (he : ¬e.FromAuthority) : OwnerChecked s caller none (.error e, s)
  | refused {owner : Authority} {e : Error} (he : e.FromAuthority)
      (h : ¬s.Authorizes caller owner) : OwnerChecked s caller (some owner) (.error e, s)
  | passed {owner : Authority} {a : α} {s' : State} (h : s.Authorizes caller owner) :
      OwnerChecked s caller (some owner) (.ok a, s')

theorem OwnerChecked.check {α : Type} {s : State} {caller owner : Authority} {c : Prop}
    [Decidable c] {e : Error} (he : e.FromAuthority) {a : α} {s' : State}
    (hc : c ↔ ¬s.Authorizes caller owner) :
  OwnerChecked s caller (some owner) (if c then (.error e, s) else (.ok a, s'))
  := by
  split
  next h => exact .refused he (hc.mp h)
  next h => exact .passed (not_not.mp (mt hc.mpr h))

namespace Coordinator

theorem advanceBufferGeneration_checked (id : BufferId) (caller : Authority) (s : State) :
  OwnerChecked s caller ((s.buffers.lookup id).map BufferRecord.authority)
    (advanceBufferGeneration id caller s)
  := by
  rw [advanceBufferGeneration]
  cases s.buffers.lookup id with
  | none => exact .missing (by decide)
  | some b => exact .check (.inl rfl) owner_check

theorem retireBuffer_checked (id : BufferId) (caller : Authority) (s : State) :
  OwnerChecked s caller ((s.buffers.lookup id).map BufferRecord.authority)
    (retireBuffer id caller s)
  := by
  rw [retireBuffer]
  cases s.buffers.lookup id with
  | none => exact .missing (by decide)
  | some b => exact .check (.inl rfl) owner_check

theorem advanceEndpointGeneration_checked (id : EndpointId) (caller : Authority) (s : State) :
  OwnerChecked s caller ((s.endpoints.lookup id).map EndpointRecord.authority)
    (advanceEndpointGeneration id caller s)
  := by
  rw [advanceEndpointGeneration]
  cases s.endpoints.lookup id with
  | none => exact .missing (by decide)
  | some e => exact .check (.inl rfl) owner_check

theorem setEndpointHealth_checked (id : EndpointId) (healthy : Bool) (caller : Authority)
    (s : State) :
  OwnerChecked s caller ((s.endpoints.lookup id).map EndpointRecord.authority)
    (setEndpointHealth id healthy caller s)
  := by
  rw [setEndpointHealth]
  cases s.endpoints.lookup id with
  | none => exact .missing (by decide)
  | some e =>
      apply OwnerChecked.check (.inl rfl)
      rw [Bool.or_comm]
      exact owner_check

end Coordinator

/-- A check of the owner rejects alike on both ways exactly when no worker owns the record: the file
does not carry the owner. -/
theorem OwnerChecked.fences_iff {R α : Type} {t u : State} {caller : Authority} {record : Option R}
    {owner : R → Authority} {recovered : R → R} {ct cu : Result α × State}
    (ht : OwnerChecked t caller (record.map owner) ct)
    (hu : OwnerChecked u caller ((record.map recovered).map owner) cu)
    (hrecovered : ∀ r, owner (recovered r) = {})
    (hdead : ∀ r ∈ record, (owner r).workerOwned = true → t.workerLiveLocked (owner r) = false) :
  (Fenced ct.1 → Rejected cu.1) ↔ ∀ r ∈ record, (owner r).workerOwned = false
  := by
  cases record with
  | none =>
      refine iff_of_true ?_ (by rintro r ⟨⟩)
      cases ht with
      | missing he => exact fun h => absurd h (Fenced.not_error he)
  | some r =>
      have haccepted : ¬Rejected cu.1 := by
        cases hu with
        | refused _ hnot => exact absurd (by rw [hrecovered]; rintro ⟨⟩) hnot
        | passed => exact not_rejected _
      have hforeign : (owner r).workerOwned = true → ¬t.Authorizes caller (owner r) := by
        intro howned h
        exact absurd (h howned).2 (by rw [hdead r rfl howned]; decide)
      cases ht with
      | refused he hnot =>
          refine iff_of_false (fun h => haccepted (h ⟨_, rfl, he⟩)) fun h => hnot ?_
          intro howned
          rw [h r rfl] at howned
          cases howned
      | passed h =>
          refine iff_of_true (fun h => absurd h (Fenced.not_ok _)) ?_
          rintro _ ⟨⟩
          exact Bool.eq_false_iff.mpr fun howned => hforeign howned h

/-! ### Registrations of buffers -/

/-- A call of `register_buffer` passes every check, also under the default limit, but for the one
that the buffer is a worker's. -/
structure TakesOver (p : RegisterParams) (backend : Option Backend) (b : BufferRecord)
    (e : EndpointRecord) (s : State) : Prop where
  buffer : s.buffers.lookup p.buffer = some b
  active : b.lifecycle = .active
  endpoint : s.endpoints.lookup p.endpoint = some e
  supported : e.support ≠ .unsupported
  room : s.registrations.size < s.maxRegistrations
  defaultRoom : s.registrations.size < ({} : State).maxRegistrations
  epoch : p.authority.epoch = s.epoch
  trusted : s.Trusts p.authority
  owned : b.authority.workerOwned = true
  answered : ∃ rr, backendRegister p backend b e = .ok rr

/-- After an epoch change the buffer is not the caller's. -/
theorem TakesOver.fenced {p : RegisterParams} {backend : Option Backend} {b : BufferRecord}
    {e : EndpointRecord} {t : State} (h : TakesOver p backend b e t) (ht : Renewed t) :
  Fenced (registerBuffer p backend t).1
  := by
  have hother : b.authority ≠ p.authority := by
    intro heq
    apply ht.bufferOwners _ _ h.buffer h.owned
    rw [heq, h.epoch]
  rw [registerBuffer, h.buffer]
  dsimp only
  rw [if_neg (by rw [h.active]; decide), h.endpoint]
  dsimp only
  rw [if_neg h.supported, if_neg (not_le.mpr h.room), if_neg (by simp [h.epoch]),
    if_neg (trusts_iff.mp h.trusted), if_pos (by simp [h.owned, hother])]
  exact ⟨_, rfl, .inr (.inr ⟨rfl, rfl⟩)⟩

/-- A call that is rejected for authority reasons has found room. -/
theorem room_of_fenced {p : RegisterParams} {backend : Option Backend} {s : State}
    {b : BufferRecord} {e : EndpointRecord} (hb : s.buffers.lookup p.buffer = some b)
    (hactive : b.lifecycle = .active) (he : s.endpoints.lookup p.endpoint = some e)
    (hsupported : e.support ≠ .unsupported) (h : Fenced (registerBuffer p backend s).1) :
  s.registrations.size < s.maxRegistrations
  := by
  by_contra hfull
  rw [registerBuffer, hb] at h
  dsimp only at h
  rw [if_neg (by rw [hactive]; decide), he] at h
  dsimp only at h
  rw [if_neg hsupported, if_pos (not_lt.mp hfull)] at h
  exact Fenced.not_error (by decide) h

theorem ByFile.registerBuffer_iff {t u : State} (h : ByFile t u) {p : RegisterParams}
    {backend : Option Backend} :
  (Fenced (registerBuffer p backend t).1 → Rejected (registerBuffer p backend u).1) ↔
    ¬∃ b e, TakesOver p backend b e t
  := by
  constructor
  · rintro hfences ⟨b, e, htakes⟩
    have hbuffer := h.buffers p.buffer
    have hendpoint := h.endpoints p.endpoint
    rw [htakes.buffer] at hbuffer
    rw [htakes.endpoint] at hendpoint
    obtain ⟨rr, hrr⟩ := htakes.answered
    have hallowed : RegisterAllowed p (recoveredBuffer b) (recoveredEndpoint e) u :=
      { buffer := hbuffer
        active := htakes.active
        endpoint := hendpoint
        supported := htakes.supported
        epoch := htakes.epoch.trans h.epoch.symm
        live := by
          rw [h.live]
          exact htakes.trusted
        owner := by rintro ⟨⟩ }
    have hroom : u.registrations.size < u.maxRegistrations := by
      rw [h.registrations, h.maxRegistrations]
      exact htakes.defaultRoom
    have haccepts : registerBuffer p backend u = _ :=
      hallowed.accepts h.renewedToo.wellFormed hroom (h.renewedToo.pairIdle p) hrr
    have hrejected := hfences (htakes.fenced h.renewed)
    rw [haccepts] at hrejected
    exact not_rejected _ hrejected
  · intro hnot hfenced
    by_contra haccepted
    obtain ⟨r, hr⟩ : ∃ r, (registerBuffer p backend u).1 = .ok r := by
      cases hresult : (registerBuffer p backend u).1 with
      | error e => exact absurd (by rw [hresult]; rfl) haccepted
      | ok r => exact ⟨r, rfl⟩
    obtain ⟨b', e', hallowed, hroom, hsuccess⟩ := registerBuffer_ok hr
    obtain ⟨b, hb, rfl⟩ := Option.map_eq_some_iff.mp
      ((h.buffers p.buffer).symm.trans hallowed.buffer)
    obtain ⟨e, he, rfl⟩ := Option.map_eq_some_iff.mp
      ((h.endpoints p.endpoint).symm.trans hallowed.endpoint)
    have hroomHere := room_of_fenced hb hallowed.active he hallowed.supported hfenced
    have htrusted : t.Trusts p.authority := by
      intro howned
      rw [← h.live]
      exact hallowed.live howned
    obtain ⟨rr, hrr⟩ : ∃ rr, backendRegister p backend b e = .ok rr := by
      generalize registerBuffer p backend u = call at hsuccess
      cases hsuccess with
      | duplicate hlatest hanswers =>
          exact absurd hanswers.registered (h.renewedToo.pairIdle p _ hlatest).1
      | @accepted _ rr _ _ hanswer => exact ⟨rr, hanswer⟩
    rw [h.registrations, h.maxRegistrations] at hroom
    cases howned : b.authority.workerOwned with
    | true =>
        exact hnot ⟨b, e, hb, hallowed.active, he, hallowed.supported, hroomHere, hroom,
          hallowed.epoch.trans h.epoch, htrusted, howned, rr, hrr⟩
    | false =>
        have hhere : RegisterAllowed p b e t :=
          { buffer := hb
            active := hallowed.active
            endpoint := he
            supported := hallowed.supported
            epoch := hallowed.epoch.trans h.epoch
            live := htrusted
            owner := by
              rw [howned]
              rintro ⟨⟩ }
        rw [hhere.accepts h.renewed.wellFormed hroomHere (h.renewed.pairIdle p) hrr] at hfenced
        exact Fenced.not_ok _ hfenced

/-! ### The other operations -/

theorem Coordinator.registerWorker_stale {worker : WorkerId} {boot : WorkerBootId}
    {epoch : CoordinatorEpoch} {s : State} (hepoch : epoch = s.epoch) (hvalid : valid worker = true)
    (hnone : s.workers.lookup worker = none)
    (hseen : (s.workerMaxBoot.lookup worker).getD 0 ≠ 0)
    (hstale : boot ≤ (s.workerMaxBoot.lookup worker).getD 0) :
  Fenced (registerWorker worker boot epoch s).1
  := by
  rw [registerWorker, if_neg (by simp [hepoch]), if_neg (by simp [hvalid])]
  dsimp only
  split
  next => exact ⟨_, rfl, .inl rfl⟩
  next =>
    simp only [bne_iff_ne, ne_eq, hseen, not_false_eq_true, if_true, hnone]
    exact ⟨_, rfl, .inl rfl⟩

namespace ByFile

variable {t u : State}

/-- A worker that is not live after the epoch change is admitted with any boot id, since the file
does not carry the highest one. -/
theorem registerWorker_iff (h : ByFile t u) {worker : WorkerId} {boot : WorkerBootId}
    {epoch : CoordinatorEpoch} :
  (Fenced (Coordinator.registerWorker worker boot epoch t).1 →
      Rejected (Coordinator.registerWorker worker boot epoch u).1) ↔
    (epoch = t.epoch → valid worker = true → t.workers.lookup worker = none →
      (t.workerMaxBoot.lookup worker).getD 0 ≠ 0 →
      (t.workerMaxBoot.lookup worker).getD 0 < boot)
  := by
  rw [(registerWorker_guarded worker boot epoch u).rejected_iff, h.admits_iff]
  constructor
  · intro hfences hepoch hvalid hnone hseen
    by_contra hstale
    apply hfences (registerWorker_stale hepoch hvalid hnone hseen (not_lt.mp hstale))
    refine ⟨hepoch, hvalid, fun hlive => ?_⟩
    rw [hnone] at hlive
    cases hlive
  · rintro hcarried hfenced ⟨hepoch, hvalid, hcurrent⟩
    apply (registerWorker_guarded worker boot epoch t).rejected_iff.mp hfenced.rejected
    refine ⟨hepoch, hvalid, ?_, fun hseen hnone => hcarried hepoch hvalid hnone hseen⟩
    cases hlookup : t.workers.lookup worker with
    | some live => exact hcurrent (by rw [hlookup]; rfl)
    | none =>
        by_cases hseen : (t.workerMaxBoot.lookup worker).getD 0 = 0
        · rw [hseen]
          exact Nat.zero_le _
        · exact (hcarried hepoch hvalid hlookup hseen).le

/-- The caller is trusted here exactly when it is there. -/
theorem trusts_iff (h : ByFile t u) (a : Authority) :
  u.Trusts a ↔ t.Trusts a
  := by
  rw [State.Trusts, State.Trusts, h.live]

theorem createBuffer (h : ByFile t u) {p : CreateBufferParams}
    (hfenced : Fenced (Coordinator.createBuffer p t).1) :
  Rejected (Coordinator.createBuffer p u).1
  := by
  rw [(createBuffer_guarded p u).rejected_iff, h.trusts_iff]
  rintro ⟨-, -, htrusted⟩
  revert hfenced
  rw [Coordinator.createBuffer]
  refine Fenced.not_check (by decide) fun _ => Fenced.not_check (by decide) fun _ => ?_
  rw [if_neg (GpuDirectFabric.trusts_iff.mp htrusted)]
  exact Fenced.not_ok _

theorem addDevice (h : ByFile t u) {p : DeviceAddParams}
    (hfenced : Fenced (Coordinator.addDevice p t).1) :
  Rejected (Coordinator.addDevice p u).1
  := by
  rw [(addDevice_guarded p u).rejected_iff, h.trusts_iff]
  intro htrusted
  rw [Coordinator.addDevice, if_neg (GpuDirectFabric.trusts_iff.mp htrusted)] at hfenced
  exact Fenced.not_ok _ hfenced

theorem addEndpoint (h : ByFile t u) {p : EndpointAddParams}
    (hfenced : Fenced (Coordinator.addEndpoint p t).1) :
  Rejected (Coordinator.addEndpoint p u).1
  := by
  rw [(addEndpoint_guarded p u).rejected_iff, h.trusts_iff]
  rintro ⟨-, htrusted⟩
  revert hfenced
  rw [Coordinator.addEndpoint]
  refine Fenced.not_check (by decide) fun _ => ?_
  rw [if_neg (GpuDirectFabric.trusts_iff.mp htrusted)]
  exact Fenced.not_ok _

theorem publishCapability (h : ByFile t u) {p : CapabilityPublishParams}
    (hfenced : Fenced (Coordinator.publishCapability p t).1) :
  Rejected (Coordinator.publishCapability p u).1
  := by
  rw [(publishCapability_guarded p u).rejected_iff, h.trusts_iff]
  intro htrusted
  rw [Coordinator.publishCapability, if_neg (GpuDirectFabric.trusts_iff.mp htrusted)] at hfenced
  dsimp only at hfenced
  split at hfenced
  · exact Fenced.not_ok _ hfenced
  · exact Fenced.not_ok _ hfenced

/-- The file carries the owners of capabilities. -/
theorem revokeCapability (h : ByFile t u) {provider capability : Str} {caller : Authority}
    (hfenced : Fenced (Coordinator.revokeCapability provider capability caller t).1) :
  Rejected (Coordinator.revokeCapability provider capability caller u).1
  := by
  rw [Coordinator.revokeCapability] at hfenced ⊢
  cases hhere : findEntry (fun c : CapabilityObservation =>
      c.provider = provider && c.capability = capability) t.capabilities with
  | none =>
      rw [hhere] at hfenced
      exact absurd hfenced (Fenced.not_ok _)
  | some entry =>
  obtain ⟨k, c⟩ := entry
  rw [hhere] at hfenced
  obtain ⟨k', hk'⟩ := h.capabilities k c (lookup_of_findEntry hhere)
  cases hthere : findEntry (fun c : CapabilityObservation =>
      c.provider = provider && c.capability = capability) u.capabilities with
  | none => exact absurd (holds_of_findEntry hhere) (not_of_findEntry hthere hk')
  | some entry' =>
  obtain ⟨k'', c'⟩ := entry'
  have hnames := holds_of_findEntry hhere
  have hnames' := holds_of_findEntry hthere
  have hc' := lookup_of_findEntry hthere
  simp only [Bool.and_eq_true, decide_eq_true_eq] at hnames hnames'
  obtain rfl := h.capabilitiesUnique k' k'' c c' hk' hc' (hnames.1.trans hnames'.1.symm)
    (hnames.2.trans hnames'.2.symm)
  obtain rfl := Option.some.inj (hk'.symm.trans hc')
  dsimp only at hfenced ⊢
  rw [h.live]
  split at hfenced
  next hrefused =>
    rw [if_pos hrefused]
    rfl
  next => exact absurd hfenced (Fenced.not_ok _)

/-- The file carries no attempts. -/
theorem completeTransfer (h : ByFile t u) (id : TransferAttemptId) (caller : Authority) :
  Rejected (Coordinator.completeTransfer id caller u).1
  := by
  rw [Coordinator.completeTransfer, h.attempts]
  rfl

theorem cancelTransfer (h : ByFile t u) (id : TransferAttemptId) (caller : Authority) :
  Rejected (Coordinator.cancelTransfer id caller u).1
  := by
  rw [Coordinator.cancelTransfer, h.attempts]
  rfl

end ByFile

namespace Renewed

variable {t : State}

/-- The owner of a registration is dead, so it is deregistered whoever asks. -/
theorem deregisterBuffer_not_fenced (h : Renewed t) (id : RegistrationId) (caller : Authority) :
  ¬Fenced (deregisterBuffer id caller t).1
  := by
  rw [deregisterBuffer]
  cases hreg : t.registrations.lookup id with
  | none => exact Fenced.not_error (by decide)
  | some reg =>
      dsimp only
      split
      next => exact Fenced.not_ok _
      split
      next => exact Fenced.not_ok _
      next hlive =>
        have hunowned : ¬reg.authority.workerOwned = true := by
          intro howned
          rw [howned, not_live (h.registrationOwners id reg hreg howned)] at hlive
          exact hlive rfl
        rw [if_neg (by simp [hunowned])]
        exact Fenced.not_check (by decide) fun _ => Fenced.not_ok _

/-- The plans are superseded before anything is asked of the caller. -/
theorem beginTransfer_not_fenced (h : Renewed t) (planId : TransferPlanId) (caller : Authority)
    (backend : Option Backend) :
  ¬Fenced (beginTransfer planId caller backend t).1
  := by
  rw [beginTransfer]
  cases hplan : t.plans.lookup planId with
  | none => exact Fenced.not_error (by decide)
  | some plan =>
      dsimp only
      rw [h.plans planId plan hplan]
      exact Fenced.not_error (by decide)

end Renewed

/-- The error that stands for an eligibility blames no authority. -/
theorem not_fromAuthority_eligibility (eligibility : PathEligibility) (message : Str) :
  ¬Error.FromAuthority { code := errorForEligibility eligibility, message := message }
  := by
  have hcodes : errorForEligibility eligibility ≠ .staleBoot ∧
      errorForEligibility eligibility ≠ .staleEpoch ∧
      errorForEligibility eligibility ≠ .registrationFailed := by
    cases eligibility with
    | other v => simp [errorForEligibility]
    | _ => decide
  rintro (hcode | hcode | ⟨hcode, -⟩)
  · exact hcodes.1 hcode
  · exact hcodes.2.1 hcode
  · exact hcodes.2.2 hcode

theorem planTransferCommit_not_fenced (p : PlanRequestParams) (d : PathDecision) (s : State) :
  ¬Fenced (planTransferCommit p d s).1
  := by
  rw [planTransferCommit]
  refine Fenced.not_check (not_fromAuthority_eligibility _ _) fun _ => ?_
  refine Fenced.not_check (by decide) fun _ => ?_
  cases s.buffers.lookup p.source with
  | none => exact Fenced.not_error (by decide)
  | some src =>
  refine Fenced.not_check (by decide) fun _ => ?_
  cases s.endpoints.lookup p.destination with
  | none => exact Fenced.not_error (by decide)
  | some dst =>
  refine Fenced.not_check (by decide) fun _ => ?_
  refine Fenced.not_check (by decide) fun _ => ?_
  rw [storePlan]
  split
  · exact Fenced.not_ok _
  · exact Fenced.not_ok _

theorem addProvider_not_fenced (p : ProviderAddParams) (s : State) :
  ¬Fenced (addProvider p s).1
  := by
  rw [addProvider]
  refine Fenced.not_check (by decide) fun _ => ?_
  split
  · exact Fenced.not_ok _
  · exact Fenced.not_ok _

theorem verifyTransfer_not_fenced (id : TransferAttemptId) (passed : Bool) (bytesChecked : ℕ)
    (s : State) :
  ¬Fenced (verifyTransfer id passed bytesChecked s).1
  := by
  rw [verifyTransfer]
  cases s.attempts.lookup id with
  | none => exact Fenced.not_error (by decide)
  | some attempt => exact Fenced.not_ok _

/-- The answer of a recovery does not depend on the state it is called in. -/
theorem recoverFromFile_answer (file : Bytes) (t u : State) :
  (recoverFromFile file t).1 = (recoverFromFile file u).1
  := by
  rw [recoverFromFile, recoverFromFile]
  split
  next => rfl
  next =>
    split
    next => rfl
    next => rfl

/-! ### Both ways -/

/-- An operation that the coordinator in the state `t` rejects for authority reasons is rejected as
well by the one in the state `u`. -/
def FencesAlike (op : Event) (t u : State) : Prop :=
  (∃ e ∈ failure op t, e.FromAuthority) → (failure op u).isSome = true

instance (op : Event) (t u : State) : Decidable (FencesAlike op t u) :=
  inferInstanceAs (Decidable
    ((∃ e ∈ failure op t, e.FromAuthority) → (failure op u).isSome = true))

/-- What the checks of the operation read of the state is carried over by a file, or does not make
them fail. -/
def Event.CarriedOver (t : State) : Event → Prop
  | .registerWorker worker boot epoch =>
    epoch = t.epoch → valid worker = true → t.workers.lookup worker = none →
      (t.workerMaxBoot.lookup worker).getD 0 ≠ 0 →
      (t.workerMaxBoot.lookup worker).getD 0 < boot
  | .advanceBufferGeneration id _ | .retireBuffer id _ =>
    ∀ b ∈ t.buffers.lookup id, b.authority.workerOwned = false
  | .advanceEndpointGeneration id _ | .setEndpointHealth id _ _ =>
    ∀ e ∈ t.endpoints.lookup id, e.authority.workerOwned = false
  | .registerBuffer p backend => ¬∃ b e, TakesOver p backend b e t
  | _ => True

theorem ByFile.fencesAlike_iff {t u : State} (h : ByFile t u) (op : Event) :
  FencesAlike op t u ↔ op.CarriedOver t
  := by
  have hbuffers := fun (id : BufferId) (b : BufferRecord) (hb : b ∈ t.buffers.lookup id)
    howned => Renewed.not_live (h.renewed.bufferOwners id b hb howned)
  have hendpoints := fun (id : EndpointId) (e : EndpointRecord) (he : e ∈ t.endpoints.lookup id)
    howned => Renewed.not_live (h.renewed.endpointOwners id e he howned)
  cases op with
  | registerWorker worker boot epoch => exact h.registerWorker_iff
  | advanceBufferGeneration id caller =>
      have hthere := advanceBufferGeneration_checked id caller u
      rw [h.buffers] at hthere
      exact (advanceBufferGeneration_checked id caller t).fences_iff hthere (fun _ => rfl)
        (hbuffers id)
  | retireBuffer id caller =>
      have hthere := retireBuffer_checked id caller u
      rw [h.buffers] at hthere
      exact (retireBuffer_checked id caller t).fences_iff hthere (fun _ => rfl) (hbuffers id)
  | advanceEndpointGeneration id caller =>
      have hthere := advanceEndpointGeneration_checked id caller u
      rw [h.endpoints] at hthere
      exact (advanceEndpointGeneration_checked id caller t).fences_iff hthere (fun _ => rfl)
        (hendpoints id)
  | setEndpointHealth id healthy caller =>
      have hthere := setEndpointHealth_checked id healthy caller u
      rw [h.endpoints] at hthere
      exact (setEndpointHealth_checked id healthy caller t).fences_iff hthere (fun _ => rfl)
        (hendpoints id)
  | registerBuffer p backend => exact h.registerBuffer_iff
  | createBuffer p => exact iff_of_true h.createBuffer trivial
  | addDevice p => exact iff_of_true h.addDevice trivial
  | addEndpoint p => exact iff_of_true h.addEndpoint trivial
  | publishCapability p => exact iff_of_true h.publishCapability trivial
  | revokeCapability => exact iff_of_true h.revokeCapability trivial
  | completeTransfer id caller => exact iff_of_true (fun _ => h.completeTransfer id caller) trivial
  | cancelTransfer id caller => exact iff_of_true (fun _ => h.cancelTransfer id caller) trivial
  | deregisterBuffer id caller =>
      exact iff_of_true (absurd · (h.renewed.deregisterBuffer_not_fenced id caller)) trivial
  | beginTransfer planId caller backend =>
      have hnot := h.renewed.beginTransfer_not_fenced planId caller backend
      exact iff_of_true (absurd · hnot) trivial
  | planCommit p d => exact iff_of_true (absurd · (planTransferCommit_not_fenced p d t)) trivial
  | addProvider p => exact iff_of_true (absurd · (addProvider_not_fenced p t)) trivial
  | verifyTransfer id passed bytesChecked =>
      exact iff_of_true (absurd · (verifyTransfer_not_fenced id passed bytesChecked t)) trivial
  | recover file =>
      refine iff_of_true (fun hfenced => ?_) trivial
      have hrejected : Rejected (recoverFromFile file t).1 := Fenced.rejected hfenced
      rw [recoverFromFile_answer file t u] at hrejected
      exact hrejected
  | _ => exact iff_of_true (by rintro ⟨e, ⟨⟩, -⟩) trivial

/-- In every reachable state: after the epoch has changed in process, and after a recovery of the
persisted file with the epoch changed there, and with the same workers registered since, an
operation is fenced alike exactly when what its checks read is carried over by the file. -/
theorem fences_alike_iff {w : World} (h : persistedFabric.Reachable w) (hfits : w.state.Fits)
    {out r : State} (hrecover : recoverFromFile (persistToFile w.state) out = (.ok (), r))
    {ws : List (WorkerId × WorkerBootId)} (hws : (advanceEpoch w.state).2.AdmitsAll ws)
    (op : Event) :
  FencesAlike op ((advanceEpoch w.state).2.join ws) ((advanceEpoch r).2.join ws) ↔
    op.CarriedOver ((advanceEpoch w.state).2.join ws)
  := ((byFile_of_recovered h hfits hrecover).join hws).fencesAlike_iff op

namespace Fixture

/-- What is recovered of the world in which the buffer is registered. -/
def reloaded : State :=
  restoreRegistries registered.state
    { epoch := registered.state.epoch
      nextId := registered.state.nextId
      freshness := registered.state.freshness }

theorem recover_registered (out : State) :
  recoverFromFile (persistToFile registered.state) out = (.ok (), reloaded)
  := recoverFromFile_unplanned rfl (by decide +kernel) (by decide +kernel) out

end Fixture

theorem Fixture.admits_second :
  (advanceEpoch registered.state).2.AdmitsAll [(2, 1)]
  := ⟨⟨rfl, rfl, Nat.zero_le _, fun hseen => absurd rfl hseen⟩, trivial⟩

theorem fences_alike_fixture :
  FencesAlike (.registerWorker 1 2 2) ((advanceEpoch Fixture.registered.state).2.join [(2, 1)])
    ((advanceEpoch Fixture.reloaded).2.join [(2, 1)])
  := (fences_alike_iff (Fixture.reachable_registered _) (by decide +kernel)
    (Fixture.recover_registered {}) Fixture.admits_second _).mpr
    (fun _ _ _ _ => by decide +kernel)

/-- By way of the file, the dead incarnation is accepted, and the buffer of the worker is taken over
by another worker, who registers it, and by callers that advance or retire it. -/
theorem file_lifts_fence :
  (∀ out, recoverFromFile (persistToFile Fixture.registered.state) out
    = (.ok (), Fixture.reloaded)) ∧
  ¬FencesAlike (.registerWorker 1 1 2) (advanceEpoch Fixture.registered.state).2
    (advanceEpoch Fixture.reloaded).2 ∧
  ¬FencesAlike (.advanceBufferGeneration 6 { worker := 2, boot := 1, epoch := 2 })
    (advanceEpoch Fixture.registered.state).2 (advanceEpoch Fixture.reloaded).2 ∧
  ¬FencesAlike (.retireBuffer 6 { worker := 2, boot := 1, epoch := 2 })
    (advanceEpoch Fixture.registered.state).2 (advanceEpoch Fixture.reloaded).2 ∧
  ¬FencesAlike
    (.registerBuffer
      { buffer := 6, endpoint := 4, authority := { worker := 2, boot := 1, epoch := 2 } } none)
    ((advanceEpoch Fixture.registered.state).2.join [(2, 1)])
    ((advanceEpoch Fixture.reloaded).2.join [(2, 1)])
  := ⟨Fixture.recover_registered, by decide +kernel, by decide +kernel, by decide +kernel,
    by decide +kernel⟩

end GpuDirectFabric
