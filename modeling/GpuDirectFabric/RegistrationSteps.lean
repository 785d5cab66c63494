import GpuDirectFabric.OwnedRecords
import GpuDirectFabric.Registering

/-!
# What happens to a registration

A registration leaves the `REGISTERED` state in two ways: it is deregistered under its own id, or a
sweep over all registrations asks for its revalidation.  Besides, a backend that answers with its id
has it replaced.
-/

namespace GpuDirectFabric

open Coordinator

/-! ### Deregistration -/

/-- The registration once it is deregistered. -/
def Registration.deregistered (r : Registration) (freshness : ℕ) : Registration :=
  { r with state := .retired, handle := none, freshness := freshness }

/-- The buffer without its reference to a registration. -/
def BufferRecord.cleared (b : BufferRecord) (freshness : ℕ) : BufferRecord :=
  { b with
    registrationState := .unregistered
    registrationId := 0
    registrationGeneration := 0
    freshness := freshness }

/-- `clear_registration` changes the buffer it names, when that refers to the registration. -/
theorem lookup_clearRegistration_eq (id : RegistrationId) (buffer k : BufferId) (s : State) :
  (clearRegistration id buffer s).buffers.lookup k = (s.buffers.lookup k).map fun b =>
    if k = buffer ∧ b.registrationId = id then b.cleared (s.freshness + 1) else b
  := by
  rw [clearRegistration]
  cases hb : s.buffers.lookup buffer with
  | none =>
      dsimp only
      by_cases hk : k = buffer
      · rw [hk, hb]
        rfl
      · simp [hk]
  | some b =>
      dsimp only
      by_cases hk : k = buffer
      · subst hk
        rw [hb]
        split
        next hid =>
          rw [AList.lookup_insert, Option.map_some, if_pos ⟨rfl, hid⟩]
          rfl
        next hid =>
          rw [hb, Option.map_some, if_neg (fun h => hid h.2)]
      · split
        · rw [AList.lookup_insert_ne hk]
          simp [hk, State.nextFreshnessLocked]
        · simp [hk]

theorem registrations_clearRegistration (id : RegistrationId) (buffer : BufferId) (s : State) :
  (clearRegistration id buffer s).registrations = s.registrations
  := by
  rw [clearRegistration]
  cases s.buffers.lookup buffer with
  | none => rfl
  | some b =>
      dsimp only
      split
      · rfl
      · rfl

/-- The ways a call of `deregister_buffer` can end: it is refused, finds the registration retired,
retires that of a dead worker, or retires one that is not superseded. -/
inductive DeregisterOutcome (id : RegistrationId) (caller : Authority) (s : State) :
    Result Unit × State → Prop
  | refused (e : Error) : DeregisterOutcome id caller s (.error e, s)
  | idempotent {reg : Registration} (hreg : s.registrations.lookup id = some reg)
      (hstate : reg.state = .retired ∨ reg.state = .unregistered) :
      DeregisterOutcome id caller s (.ok (), s)
  | dead {reg : Registration} (hreg : s.registrations.lookup id = some reg)
      (hactive : reg.state ≠ .retired ∧ reg.state ≠ .unregistered)
      (howned : reg.authority.workerOwned = true)
      (hdead : s.workerLiveLocked reg.authority = false) :
      DeregisterOutcome id caller s (.ok (), { s with
        registrations := s.registrations.insert id { reg with state := .retired } })
  | current {reg : Registration} (hreg : s.registrations.lookup id = some reg)
      (hactive : reg.state ≠ .retired ∧ reg.state ≠ .unregistered)
      (hauthorizes : s.Authorizes caller reg.authority) (hlatest : ¬s.Superseded reg) :
      DeregisterOutcome id caller s (.ok (), clearRegistration reg.id reg.buffer
        { s.nextFreshnessLocked with
          registrations := s.registrations.insert id (reg.deregistered (s.freshness + 1)) })

theorem deregisterBuffer_outcome (id : RegistrationId) (caller : Authority) (s : State) :
  DeregisterOutcome id caller s (deregisterBuffer id caller s)
  := by
  rw [deregisterBuffer]
  cases hreg : s.registrations.lookup id with
  | none => exact .refused _
  | some reg =>
  dsimp only
  split
  next hstate => exact .idempotent hreg (by simpa using hstate)
  next hstate =>
  have hactive : reg.state ≠ .retired ∧ reg.state ≠ .unregistered := by simpa using hstate
  split
  next hdead =>
    simp only [Bool.and_eq_true, Bool.not_eq_true'] at hdead
    exact .dead hreg hactive hdead.1 hdead.2
  next hlive =>
  split
  next => exact .refused _
  next hcaller =>
  split
  next => exact .refused _
  next hlatest =>
    refine .current hreg hactive (authorizes_of_checks hlive hcaller) ?_
    simpa [State.Superseded, Option.any_eq_true] using hlatest

/-! ### Steps of a registration -/

/-- The event sweeps over all registrations, and asks for the revalidation of this one. -/
def Event.Sweeps (e : Event) (r : Registration) (s : State) : Prop :=
  match e with
  | .markWorkerDead worker => r.authority.worker = worker ∧ r.authority.workerOwned = true
  | .advanceEpoch => r.state = .registered ∨ r.state = .registering
  | .advanceBufferGeneration id caller | .retireBuffer id caller =>
    r.buffer = id ∧ ∃ b, s.buffers.lookup id = some b ∧ s.Authorizes caller b.authority
  | .advanceEndpointGeneration id caller =>
    r.endpoint = id ∧ ∃ d, s.endpoints.lookup id = some d ∧ s.Authorizes caller d.authority
  | _ => False

/-- A call of `register_buffer` stores a registration under the id `k`. -/
def StoresUnder (p : RegisterParams) (backend : Option Backend) (k : RegistrationId) (s : State) :
    Prop :=
  ∃ b d rr, RegisterAllowed p b d s ∧ s.registrations.size < s.maxRegistrations ∧ PairIdle p s ∧
    backendRegister p backend b d = .ok rr ∧ registrationKey rr s = k

/-- The call of `register_buffer` has stored the registration `r` under the id `k`, and its buffer
refers to it. -/
structure Stored (p : RegisterParams) (k : RegistrationId) (r : Registration) (s s' : State) :
    Prop where
  id : r.id = k
  registered : r.state = .registered
  buffer : r.buffer = p.buffer
  registrations : s'.registrations = s.registrations.insert k r
  buffers : ∃ b freshness, s.buffers.lookup p.buffer = some b ∧
    s'.buffers = s.buffers.insert p.buffer { b with
      registrationState := .registered
      registrationId := k
      registrationGeneration := r.generation
      freshness := freshness }

theorem stored_of_storesUnder {p : RegisterParams} {backend : Option Backend} {k : RegistrationId}
    {s : State} (hwf : WellFormed s) (h : StoresUnder p backend k s) :
  ∃ r, (registerBuffer p backend s).1 = .ok r ∧ Stored p k r s (registerBuffer p backend s).2
  := by
  obtain ⟨b, d, rr, hallowed, hroom, hidle, hanswer, rfl⟩ := h
  rw [hallowed.accepts hwf hroom hidle hanswer]
  refine ⟨_, rfl, rfl, rfl, hwf.buffer_id hallowed.buffer, rfl, b, _, hallowed.buffer, rfl⟩

/-- A call of `register_buffer` stores a registration, or leaves the state alone. -/
theorem registerBuffer_stored (p : RegisterParams) (backend : Option Backend) {s : State}
    (hwf : WellFormed s) :
  (registerBuffer p backend s).2 = s ∨ ∃ k, StoresUnder p backend k s
  := by
  cases hresult : (registerBuffer p backend s).1 with
  | error error =>
      left
      have houtcome := registerBuffer_outcome p backend s
      generalize registerBuffer p backend s = call at hresult houtcome
      cases houtcome with
      | refused => rfl
      | duplicate => rfl
      | failed hretired => exact retires_eq hwf hretired
      | accepted => cases hresult
  | ok r =>
      obtain ⟨b, d, hallowed, hroom, hsuccess⟩ := registerBuffer_ok hresult
      generalize registerBuffer p backend s = call at hsuccess
      cases hsuccess with
      | duplicate => exact .inl rfl
      | accepted hidle hretired hanswer =>
          exact .inr ⟨_, b, d, _, hallowed, hroom, hidle, hanswer, rfl⟩

/-- What an event does to the registration `r` stored under `k`. -/
inductive RegistrationStep (e : Event) (s s' : State) (k : RegistrationId) (r : Registration) :
    Prop
  | rest (hr : s'.registrations.lookup k = some r) (hnot : ¬e.Sweeps r s)
  | swept (hsweeps : e.Sweeps r s)
      (hr : s'.registrations.lookup k = some { r with state := .revalidationRequired })
  | deregistered {caller : Authority} {r' : Registration} (he : e = .deregisterBuffer k caller)
      (hactive : r.state ≠ .retired ∧ r.state ≠ .unregistered) (hretired : r'.state = .retired)
      (hr : s'.registrations.lookup k = some r')
  | replaced {p : RegisterParams} {backend : Option Backend} {r' : Registration}
      (he : e = .registerBuffer p backend) (hstores : StoresUnder p backend k s)
      (hstored : Stored p k r' s s')

namespace RegistrationStep

variable {e : Event} {s : State} {k : RegistrationId} {r : Registration}

/-- An event that does not reach the registrations. -/
theorem same {s' : State} (hr : s.registrations.lookup k = some r)
    (hsame : s'.registrations.lookup k = s.registrations.lookup k) (hnot : ¬e.Sweeps r s) :
  RegistrationStep e s s' k r
  := .rest (hsame.trans hr) hnot

/-- An event that revalidates the registrations of which `p` holds. -/
theorem revalidate {p : Registration → Bool} {s' : State} (hr : s.registrations.lookup k = some r)
    (hs' : s'.registrations = s.registrations.mapVals (State.revalidateIf p))
    (hp : e.Sweeps r s ↔ p r = true) :
  RegistrationStep e s s' k r
  := by
  have hlookup : s'.registrations.lookup k = some (State.revalidateIf p r) := by
    rw [hs', Table.lookup_mapVals, hr, Option.map_some]
  rw [State.revalidateIf] at hlookup
  split at hlookup
  next h => exact .swept (hp.mpr h) hlookup
  next h => exact .rest hlookup (mt hp.mp h)

/-- A call that the owner of a record authorizes, or that changes nothing. -/
theorem owned {R : Type} {record : Option R} {owner : R → Authority} {caller : Authority}
    {p : Registration → Bool} {s' : State} (hr : s.registrations.lookup k = some r)
    (hsweeps : e.Sweeps r s ↔ p r = true ∧ ∃ b, record = some b ∧ s.Authorizes caller (owner b))
    (hunchanged : s' = s ↔ ∀ b, record = some b → ¬s.Authorizes caller (owner b))
    (heffect : s' = s ∨ s'.registrations = s.registrations.mapVals (State.revalidateIf p)) :
  RegistrationStep e s s' k r
  := by
  by_cases hauthorizes : ∃ b, record = some b ∧ s.Authorizes caller (owner b)
  · obtain hsame | hs' := heffect
    · obtain ⟨b, hb, hauthorizes⟩ := hauthorizes
      exact absurd hauthorizes (hunchanged.mp hsame b hb)
    · exact .revalidate hr hs' (hsweeps.trans (and_iff_left hauthorizes))
  · obtain rfl := hunchanged.mpr fun b hb h => hauthorizes ⟨b, hb, h⟩
    exact .rest hr fun h => hauthorizes (hsweeps.mp h).2

/-- A deregistration retires the registration it names, if any. -/
theorem deregister {id : RegistrationId} {caller : Authority}
    (hr : s.registrations.lookup k = some r) :
  RegistrationStep (.deregisterBuffer id caller) s (deregisterBuffer id caller s).2 k r
  := by
  have houtcome := deregisterBuffer_outcome id caller s
  generalize deregisterBuffer id caller s = call at houtcome
  cases houtcome with
  | refused => exact .rest hr fun h => h
  | idempotent => exact .rest hr fun h => h
  | @dead reg hreg hactive howned hdead =>
      by_cases hk : k = id
      · subst hk
        obtain rfl := Option.some.inj (hr.symm.trans hreg)
        exact .deregistered rfl hactive rfl (AList.lookup_insert _)
      · exact .same hr (AList.lookup_insert_ne hk) fun h => h
  | @current reg hreg hactive hauthorizes hlatest =>
      by_cases hk : k = id
      · subst hk
        obtain rfl := Option.some.inj (hr.symm.trans hreg)
        have hlookup : (clearRegistration r.id r.buffer { s.nextFreshnessLocked with
            registrations := s.registrations.insert k (r.deregistered (s.freshness + 1)) }
            ).registrations.lookup k = some (r.deregistered (s.freshness + 1)) := by
          rw [registrations_clearRegistration]
          exact AList.lookup_insert _
        exact .deregistered rfl hactive rfl hlookup
      · refine .same hr ?_ fun h => h
        rw [registrations_clearRegistration]
        exact AList.lookup_insert_ne hk

/-- A registration leaves the others alone, but for one whose id the backend gives. -/
theorem register {p : RegisterParams} {backend : Option Backend} (hwf : WellFormed s)
    (hr : s.registrations.lookup k = some r) :
  RegistrationStep (.registerBuffer p backend) s (registerBuffer p backend s).2 k r
  := by
  obtain hsame | ⟨k', hstores⟩ := registerBuffer_stored p backend hwf
  · rw [hsame]
    exact .rest hr fun h => h
  · obtain ⟨r', -, hstored⟩ := stored_of_storesUnder hwf hstores
    by_cases hk : k = k'
    · subst hk
      exact .replaced rfl hstores hstored
    · refine .same hr ?_ fun h => h
      rw [hstored.registrations, AList.lookup_insert_ne hk]

end RegistrationStep

/-- Every event but a recovery makes one of these steps of each registration. -/
theorem Event.Allowed.registrationStep {setting : Setting} {w : World} {e : Event}
    (hallowed : e.Allowed setting w) (hrecover : ∀ file, e ≠ .recover file)
    (hwf : WellFormed w.state) {k : RegistrationId} {r : Registration}
    (hr : w.state.registrations.lookup k = some r) :
  RegistrationStep e w.state (apply e w.state) k r
  := by
  have he := hallowed.effect
  cases e with
  | markWorkerDead worker =>
      refine .revalidate hr rfl ?_
      simp [Event.Sweeps]
  | advanceEpoch =>
      refine .revalidate hr rfl ?_
      simp [Event.Sweeps]
  | advanceBufferGeneration id caller =>
      refine .owned (p := fun r => r.buffer = id) hr ?_
        (advanceBufferGeneration_unchanged_iff id caller w.state) ?_
      · simp [Event.Sweeps]
      · generalize apply _ w.state = s' at he
        cases he with
        | refused => exact .inl rfl
        | advanceBufferGeneration => exact .inr rfl
  | retireBuffer id caller =>
      refine .owned (p := fun r => r.buffer = id) hr ?_
        (retireBuffer_unchanged_iff id caller w.state) ?_
      · simp [Event.Sweeps]
      · generalize apply _ w.state = s' at he
        cases he with
        | refused => exact .inl rfl
        | retireBuffer => exact .inr rfl
  | advanceEndpointGeneration id caller =>
      refine .owned (p := fun r => r.endpoint = id) hr ?_
        (advanceEndpointGeneration_unchanged_iff id caller w.state) ?_
      · simp [Event.Sweeps]
      · generalize apply _ w.state = s' at he
        cases he with
        | refused => exact .inl rfl
        | advanceEndpointGeneration => exact .inr rfl
  | registerBuffer p backend => exact .register hwf hr
  | deregisterBuffer id caller => exact .deregister hr
  | rehash s => exact .same hr (hallowed.registrations.lookup k) fun h => h
  | recover file => exact absurd rfl (hrecover file)
  | _ =>
      generalize apply _ w.state = s' at he
      cases he with
      | _ => exact .same hr rfl fun h => h

end GpuDirectFabric
