import GpuDirectFabric.WellFormed

/-!
# Stale workers

A call that presents an authority is to change nothing when the authority is that of a worker
that is not live.  The operations that add records, and those that act on transfers, test the
authority presented.  The operations on records of other kinds test it against the owner of the
record, and so only where the record has a worker for an owner.
-/

namespace GpuDirectFabric

open Coordinator

/-- The authority a call presents. -/
def Event.authority : Event → Option Authority
  | .createBuffer p => some p.authority
  | .advanceBufferGeneration _ authority => some authority
  | .retireBuffer _ authority => some authority
  | .addDevice p => some p.authority
  | .addEndpoint p => some p.authority
  | .advanceEndpointGeneration _ authority => some authority
  | .setEndpointHealth _ _ authority => some authority
  | .publishCapability p => some p.authority
  | .revokeCapability _ _ authority => some authority
  | .registerBuffer p _ => some p.authority
  | .deregisterBuffer _ authority => some authority
  | .beginTransfer _ authority _ => some authority
  | .completeTransfer _ authority => some authority
  | .cancelTransfer _ authority => some authority
  | _ => none

/-! ### The owners of records -/

/-- The caller may act on what the owner owns: no worker owns it, or the caller is that worker,
and live. -/
def State.Authorizes (s : State) (caller owner : Authority) : Prop :=
  owner.workerOwned = true → caller = owner ∧ s.workerLiveLocked owner = true

instance (s : State) (caller owner : Authority) : Decidable (s.Authorizes caller owner) :=
  inferInstanceAs (Decidable (_ → _))

/-- A caller that is not live acts only on what no worker owns. -/
theorem authorizes_of_stale {s : State} {caller owner : Authority}
    (hstale : s.workerLiveLocked caller = false) :
  s.Authorizes caller owner ↔ owner.workerOwned = false
  := by
  constructor
  · intro h
    rw [← Bool.not_eq_true]
    intro howned
    obtain ⟨rfl, hlive⟩ := h howned
    rw [hlive] at hstale
    cases hstale
  · intro hunowned howned
    rw [hunowned] at howned
    cases howned

/-- The two checks of a deregistration. -/
theorem authorizes_of_checks {s : State} {caller owner : Authority}
    (hlive : ¬(owner.workerOwned && !s.workerLiveLocked owner) = true)
    (hcaller : ¬(owner.workerOwned && caller != owner) = true) :
  s.Authorizes caller owner
  := by
  intro howned
  simp only [howned, Bool.true_and, Bool.not_eq_true', bne_iff_ne, not_not] at hlive hcaller
  exact ⟨hcaller, by simpa using hlive⟩

theorem ne_of_freshness {s s' : State} (h : s'.freshness = s.freshness + 1) :
  s' ≠ s
  := by
  rintro rfl
  exact absurd h (Nat.ne_of_lt (Nat.lt_succ_self _))

/-- The check of the owner of a record refuses exactly the callers that are not authorized. -/
theorem owner_check {s : State} {caller owner : Authority} :
  (owner.workerOwned && (caller != owner || !s.workerLiveLocked owner)) = true ↔
    ¬s.Authorizes caller owner
  := by
  simp [State.Authorizes, imp_iff_not_or]

/-- A call that checks the owner of a record, and would change the state, leaves it alone exactly
when the caller is not authorized. -/
theorem owner_check_iff {α : Type} {e : Error} {s : State} {caller owner : Authority}
    {rest : Result α × State} (hrest : rest.2 ≠ s) :
  (if owner.workerOwned && (caller != owner || !s.workerLiveLocked owner) then (.error e, s)
      else rest).2 = s ↔ ¬s.Authorizes caller owner
  := by
  split
  next h => exact iff_of_true rfl (owner_check.mp h)
  next h => exact iff_of_false hrest (fun h' => h (owner_check.mpr h'))

/-- The registration is superseded: the latest one of its pair has another id. -/
def State.Superseded (s : State) (reg : Registration) : Prop :=
  ∃ latest, latestRegistration s reg.buffer reg.endpoint = some latest ∧ latest.id ≠ reg.id

/-- A call of `deregister_buffer` acts on the registration: it is not retired, and its owner is
dead, or else authorizes the caller and it is not superseded. -/
@[mk_iff]
structure Deregisters (caller : Authority) (reg : Registration) (s : State) : Prop where
  active : reg.state ≠ .retired ∧ reg.state ≠ .unregistered
  owner : reg.authority.workerOwned = true ∧ s.workerLiveLocked reg.authority = false ∨
    s.Authorizes caller reg.authority ∧ ¬s.Superseded reg

namespace Coordinator

theorem advanceBufferGeneration_unchanged_iff (id : BufferId) (caller : Authority) (s : State) :
  (advanceBufferGeneration id caller s).2 = s ↔
    ∀ b, s.buffers.lookup id = some b → ¬s.Authorizes caller b.authority
  := by
  rw [advanceBufferGeneration]
  cases s.buffers.lookup id with
  | none => simp
  | some b =>
      simp only [Option.some.injEq, forall_eq']
      exact owner_check_iff (ne_of_freshness rfl)

theorem retireBuffer_unchanged_iff (id : BufferId) (caller : Authority) (s : State) :
  (retireBuffer id caller s).2 = s ↔
    ∀ b, s.buffers.lookup id = some b → ¬s.Authorizes caller b.authority
  := by
  rw [retireBuffer]
  cases s.buffers.lookup id with
  | none => simp
  | some b =>
      simp only [Option.some.injEq, forall_eq']
      exact owner_check_iff (ne_of_freshness rfl)

theorem advanceEndpointGeneration_unchanged_iff (id : EndpointId) (caller : Authority)
    (s : State) :
  (advanceEndpointGeneration id caller s).2 = s ↔
    ∀ e, s.endpoints.lookup id = some e → ¬s.Authorizes caller e.authority
  := by
  rw [advanceEndpointGeneration]
  cases s.endpoints.lookup id with
  | none => simp
  | some e =>
      simp only [Option.some.injEq, forall_eq']
      exact owner_check_iff (ne_of_freshness rfl)

theorem setEndpointHealth_unchanged_iff (id : EndpointId) (healthy : Bool) (caller : Authority)
    (s : State) :
  (setEndpointHealth id healthy caller s).2 = s ↔
    ∀ e, s.endpoints.lookup id = some e → ¬s.Authorizes caller e.authority
  := by
  rw [setEndpointHealth]
  cases s.endpoints.lookup id with
  | none => simp
  | some e =>
      simp only [Option.some.injEq, forall_eq']
      rw [Bool.or_comm]
      exact owner_check_iff (ne_of_freshness rfl)

/-- The capability a call of `revoke_capability` revokes, with its key. -/
def revokedCapability (provider capability : Str) (s : State) :
    Option (ℕ × CapabilityObservation) :=
  findEntry (fun c => c.provider = provider && c.capability = capability) s.capabilities

theorem revokeCapability_unchanged_iff (provider capability : Str) (caller : Authority)
    (s : State) :
  (revokeCapability provider capability caller s).2 = s ↔
    ∀ k c, revokedCapability provider capability s = some (k, c) →
      ¬s.Authorizes caller c.authority
  := by
  rw [revokeCapability, revokedCapability]
  cases hfind : findEntry (fun c : CapabilityObservation =>
      c.provider = provider && c.capability = capability) s.capabilities with
  | none => simp
  | some kc =>
      obtain ⟨k, c⟩ := kc
      simp only [Option.some.injEq, Prod.mk.injEq, and_imp, forall_eq', forall_apply_eq_imp_iff]
      apply owner_check_iff
      intro heq
      have hlookup := congrArg (fun s : State => s.capabilities.lookup k) heq
      simp only [AList.lookup_erase, lookup_of_findEntry hfind] at hlookup
      cases hlookup

theorem freshness_le_clearRegistration (id : RegistrationId) (buffer : BufferId) (s : State) :
  s.freshness ≤ (clearRegistration id buffer s).freshness
  := by
  rw [clearRegistration]
  cases s.buffers.lookup buffer with
  | none => exact le_rfl
  | some b =>
      dsimp only
      split
      · exact Nat.le_succ _
      · exact le_rfl

theorem deregisterBuffer_unchanged_iff (id : RegistrationId) (caller : Authority) (s : State) :
  (deregisterBuffer id caller s).2 = s ↔
    ∀ reg, s.registrations.lookup id = some reg → ¬Deregisters caller reg s
  := by
  rw [deregisterBuffer]
  cases hreg : s.registrations.lookup id with
  | none => simp
  | some reg =>
  simp only [Option.some.injEq, forall_eq']
  split
  next hstate =>
    refine iff_of_true rfl (fun h => ?_)
    simp [h.active.1, h.active.2] at hstate
  next hstate =>
  have hactive : reg.state ≠ .retired ∧ reg.state ≠ .unregistered := by simpa using hstate
  split
  next hdead =>
    refine iff_of_false ?_ (fun h => h ⟨hactive, .inl (by simpa using hdead)⟩)
    intro heq
    have hlookup := congrArg (fun s : State => s.registrations.lookup id) heq
    simp only [AList.lookup_insert, hreg, Option.some.injEq] at hlookup
    exact hactive.1 (congrArg Registration.state hlookup).symm
  next hlive =>
  have hlive : reg.authority.workerOwned = true → s.workerLiveLocked reg.authority = true := by
    simpa using hlive
  split
  next hother =>
    refine iff_of_true rfl ?_
    rintro ⟨-, ⟨howned, hdead⟩ | ⟨hauthorizes, -⟩⟩
    · rw [hlive howned] at hdead
      cases hdead
    · simp only [Bool.and_eq_true, bne_iff_ne] at hother
      exact hother.2 (hauthorizes hother.1).1
  next hauthorized =>
  have hauthorizes : s.Authorizes caller reg.authority := by
    apply authorizes_of_checks
    · simpa using hlive
    · exact hauthorized
  split
  next hnewer =>
    refine iff_of_true rfl ?_
    rintro ⟨-, ⟨howned, hdead⟩ | ⟨-, hlatest⟩⟩
    · rw [hlive howned] at hdead
      cases hdead
    · apply hlatest
      simpa [State.Superseded, Option.any_eq_true] using hnewer
  next hlatest =>
    refine iff_of_false ?_ (fun h => h ⟨hactive, .inr ⟨hauthorizes, ?_⟩⟩)
    · intro heq
      have hle := (freshness_le_clearRegistration _ _ _).trans (congrArg State.freshness heq).le
      exact absurd hle (Nat.not_succ_le_self _)
    · simpa [State.Superseded, Option.any_eq_true] using hlatest

/-- A stale caller leaves a transfer alone unless it is a failed one without a receipt, whose
receipt its completion stores. -/
theorem completeTransfer_unchanged_iff {id : TransferAttemptId} {caller : Authority} {s : State}
    (howned : caller.workerOwned = true) (hstale : s.workerLiveLocked caller = false) :
  (completeTransfer id caller s).2 = s ↔
    ∀ attempt, s.attempts.lookup id = some attempt → attempt.state = .failed →
      (s.receipts.lookup id).isSome = true
  := by
  rw [completeTransfer]
  cases s.attempts.lookup id with
  | none => simp
  | some attempt =>
  simp only [Option.some.injEq, forall_eq']
  split
  next hcommitted =>
    rw [Bool.and_eq_true] at hcommitted
    exact iff_of_true rfl fun _ => hcommitted.2
  split
  next hcancelled => exact iff_of_true rfl (by simp [hcancelled])
  split
  next hfailed =>
    cases hreceipt : s.receipts.lookup id with
    | some receipt => exact iff_of_true rfl fun _ => rfl
    | none =>
        refine iff_of_false ?_ (by simp [hfailed])
        intro heq
        have hlookup := congrArg (fun s : State => s.receipts.lookup id) heq
        simp only [AList.lookup_insert, hreceipt] at hlookup
        cases hlookup
  next hfailed =>
    rw [if_pos (by simp [howned, hstale])]
    exact iff_of_true rfl fun h => absurd h hfailed

theorem cancelTransfer_of_stale {id : TransferAttemptId} {caller : Authority} {s : State}
    (howned : caller.workerOwned = true) (hstale : s.workerLiveLocked caller = false) :
  (cancelTransfer id caller s).2 = s
  := by
  rw [cancelTransfer]
  cases s.attempts.lookup id with
  | none => rfl
  | some attempt =>
      dsimp only
      split
      next => rfl
      next => rw [if_pos (by simp [howned, hstale])]

/-! ### Operations that test the caller -/

theorem unchanged_of_check {α : Type} {c : Prop} [Decidable c] {e : Error} {s : State}
    {rest : Result α × State} (h : ¬c → rest.2 = s) :
  (if c then (.error e, s) else rest).2 = s
  := by
  split
  next => rfl
  next hc => exact h hc

section

variable {caller : Authority} {s : State} (howned : caller.workerOwned = true)
  (hstale : s.workerLiveLocked caller = false)

include howned hstale

/-- The test of the caller. -/
theorem unchanged_of_stale {α : Type} {e : Error} {rest : Result α × State} :
  (if caller.workerOwned && !s.workerLiveLocked caller then (.error e, s) else rest).2 = s
  := by
  rw [if_pos (by simp [howned, hstale])]

theorem createBuffer_of_stale {p : CreateBufferParams} (hp : p.authority = caller) :
  (createBuffer p s).2 = s
  := by
  subst hp
  apply unchanged_of_check
  intro
  apply unchanged_of_check
  intro
  exact unchanged_of_stale howned hstale

theorem addEndpoint_of_stale {p : EndpointAddParams} (hp : p.authority = caller) :
  (addEndpoint p s).2 = s
  := by
  subst hp
  apply unchanged_of_check
  intro
  exact unchanged_of_stale howned hstale

theorem registerBuffer_of_stale {p : RegisterParams} {backend : Option Backend}
    (hp : p.authority = caller) :
  (registerBuffer p backend s).2 = s
  := by
  subst hp
  rw [registerBuffer]
  cases s.buffers.lookup p.buffer with
  | none => rfl
  | some buffer =>
  apply unchanged_of_check
  intro
  cases s.endpoints.lookup p.endpoint with
  | none => rfl
  | some endpoint =>
  apply unchanged_of_check
  intro
  apply unchanged_of_check
  intro
  apply unchanged_of_check
  intro
  exact unchanged_of_stale howned hstale

theorem beginTransfer_of_stale {planId : TransferPlanId} {backend : Option Backend} :
  (beginTransfer planId caller backend s).2 = s
  := by
  rw [beginTransfer]
  cases s.plans.lookup planId with
  | none => rfl
  | some plan =>
  apply unchanged_of_check
  intro
  apply unchanged_of_check
  intro
  exact unchanged_of_stale howned hstale

end

end Coordinator

/-! ### What a stale worker can change -/

/-- What the call acts on does not let a stale worker in: a buffer, endpoint or capability has a
worker for an owner; a registration is retired, has a live worker for an owner, or has none and is
superseded; a failed transfer has its receipt. -/
def Event.Screened (s : State) : Event → Prop
  | .advanceBufferGeneration id _ =>
    ∀ b, s.buffers.lookup id = some b → b.authority.workerOwned = true
  | .retireBuffer id _ => ∀ b, s.buffers.lookup id = some b → b.authority.workerOwned = true
  | .advanceEndpointGeneration id _ =>
    ∀ e, s.endpoints.lookup id = some e → e.authority.workerOwned = true
  | .setEndpointHealth id _ _ =>
    ∀ e, s.endpoints.lookup id = some e → e.authority.workerOwned = true
  | .revokeCapability provider capability _ =>
    ∀ k c, revokedCapability provider capability s = some (k, c) → c.authority.workerOwned = true
  | .deregisterBuffer id _ => ∀ reg, s.registrations.lookup id = some reg →
    reg.state = .retired ∨ reg.state = .unregistered ∨
    reg.authority.workerOwned = true ∧ s.workerLiveLocked reg.authority = true ∨
    reg.authority.workerOwned = false ∧ s.Superseded reg
  | .completeTransfer id _ => ∀ attempt, s.attempts.lookup id = some attempt →
    attempt.state = .failed → (s.receipts.lookup id).isSome = true
  | _ => True

/-- A stale caller deregisters what is not retired, unless its owner is live or it has none and is
superseded. -/
theorem not_deregisters_of_stale {s : State} {caller : Authority} {reg : Registration}
    (hstale : s.workerLiveLocked caller = false) :
  ¬Deregisters caller reg s ↔
    reg.state = .retired ∨ reg.state = .unregistered ∨
    reg.authority.workerOwned = true ∧ s.workerLiveLocked reg.authority = true ∨
    reg.authority.workerOwned = false ∧ s.Superseded reg
  := by
  rw [deregisters_iff, authorizes_of_stale hstale]
  cases reg.authority.workerOwned with
  | true => simp; tauto
  | false => simp; tauto

/-- A call by a worker that is not live leaves the state alone exactly when what it acts on does
not let a stale worker in. -/
theorem stale_unchanged_iff {s : State} {e : Event} {caller : Authority}
    (hcaller : e.authority = some caller) (howned : caller.workerOwned = true)
    (hstale : s.workerLiveLocked caller = false) :
  apply e s = s ↔ e.Screened s
  := by
  have howner : ∀ owner : Authority, ¬s.Authorizes caller owner ↔ owner.workerOwned = true := by
    intro owner
    rw [authorizes_of_stale hstale, Bool.not_eq_false]
  cases e with
  | createBuffer p =>
      exact iff_of_true (createBuffer_of_stale howned hstale (Option.some.inj hcaller)) trivial
  | advanceBufferGeneration id authority =>
      obtain rfl := Option.some.inj hcaller
      simp only [apply, advanceBufferGeneration_unchanged_iff, howner, Event.Screened]
  | retireBuffer id authority =>
      obtain rfl := Option.some.inj hcaller
      simp only [apply, retireBuffer_unchanged_iff, howner, Event.Screened]
  | addDevice p =>
      obtain rfl := Option.some.inj hcaller
      exact iff_of_true (unchanged_of_stale howned hstale) trivial
  | addEndpoint p =>
      exact iff_of_true (addEndpoint_of_stale howned hstale (Option.some.inj hcaller)) trivial
  | advanceEndpointGeneration id authority =>
      obtain rfl := Option.some.inj hcaller
      simp only [apply, advanceEndpointGeneration_unchanged_iff, howner, Event.Screened]
  | setEndpointHealth id healthy authority =>
      obtain rfl := Option.some.inj hcaller
      simp only [apply, setEndpointHealth_unchanged_iff, howner, Event.Screened]
  | publishCapability p =>
      obtain rfl := Option.some.inj hcaller
      exact iff_of_true (unchanged_of_stale howned hstale) trivial
  | revokeCapability provider capability authority =>
      obtain rfl := Option.some.inj hcaller
      simp only [apply, revokeCapability_unchanged_iff, howner, Event.Screened]
  | registerBuffer p backend =>
      exact iff_of_true (registerBuffer_of_stale howned hstale (Option.some.inj hcaller)) trivial
  | deregisterBuffer id authority =>
      obtain rfl := Option.some.inj hcaller
      simp only [apply, deregisterBuffer_unchanged_iff, not_deregisters_of_stale hstale,
        Event.Screened]
  | beginTransfer planId authority backend =>
      obtain rfl := Option.some.inj hcaller
      exact iff_of_true (beginTransfer_of_stale howned hstale) trivial
  | completeTransfer id authority =>
      obtain rfl := Option.some.inj hcaller
      exact completeTransfer_unchanged_iff howned hstale
  | cancelTransfer id authority =>
      obtain rfl := Option.some.inj hcaller
      exact iff_of_true (cancelTransfer_of_stale howned hstale) trivial
  | _ => cases hcaller

namespace Fixture

/-- The fixture after the death of the worker that owns the buffer. -/
def ownerless : World := registered.next (.markWorkerDead 1)

theorem reachable_ownerless (setting : Setting) :
  (fabric setting World.New).Reachable ownerless
  := reachable_next (reachable_registered setting) trivial

end Fixture

theorem stale_unchanged_fixture :
  apply (.retireBuffer 6 Fixture.owner) Fixture.ownerless.state = Fixture.ownerless.state ↔
    Event.Screened Fixture.ownerless.state (.retireBuffer 6 Fixture.owner)
  := stale_unchanged_iff rfl (by decide) (by decide +kernel)

/-- The dead worker moves on the generation of an endpoint that no worker owns. -/
theorem stale_worker_writes :
  persistedFabric.Reachable Fixture.ownerless ∧
  (Event.advanceEndpointGeneration 4 Fixture.owner).authority = some Fixture.owner ∧
  Fixture.owner.workerOwned = true ∧
  Fixture.ownerless.state.workerLiveLocked Fixture.owner = false ∧
  apply (.advanceEndpointGeneration 4 Fixture.owner) Fixture.ownerless.state
    ≠ Fixture.ownerless.state
  := by
  refine ⟨Fixture.reachable_ownerless _, rfl, by decide, by decide +kernel, ?_⟩
  apply ne_of_freshness
  decide +kernel

end GpuDirectFabric
