import GpuDirectFabric.LatestRegistrations
import GpuDirectFabric.RegistrationIds

/-!
# Registering twice

A call of `register_buffer` that finds what it asks for registered already returns it as a
duplicate.  It looks for it after its other checks, and the limit of the registrations is one of
them: a registration that fills the table is not found again.
-/

namespace GpuDirectFabric

open Coordinator

/-- The checks of `register_buffer` that look at no registration have passed. -/
structure RegisterAllowed (p : RegisterParams) (b : BufferRecord) (e : EndpointRecord) (s : State) :
    Prop where
  buffer : s.buffers.lookup p.buffer = some b
  active : b.lifecycle = .active
  endpoint : s.endpoints.lookup p.endpoint = some e
  supported : e.support ≠ .unsupported
  epoch : p.authority.epoch = s.epoch
  live : p.authority.workerOwned = true → s.workerLiveLocked p.authority = true
  owner : b.authority.workerOwned = true → b.authority = p.authority

/-- The registration is in force and is what the parameters ask for. -/
structure Answers (p : RegisterParams) (b : BufferRecord) (e : EndpointRecord) (r : Registration) :
    Prop where
  registered : r.state = .registered
  bufferGeneration : r.bufferGeneration = b.generation
  endpointGeneration : r.endpointGeneration = e.generation
  authority : r.authority = p.authority
  provider : r.provider = p.provider

/-- The registration as a duplicate. -/
def Registration.duplicate (r : Registration) : Registration := { r with duplicated := true }

/-- The latest registration of the pair, if there is one, neither is in force nor is being made. -/
def PairIdle (p : RegisterParams) (s : State) : Prop :=
  ∀ latest, latestRegistration s p.buffer p.endpoint = some latest →
    latest.state ≠ .registered ∧ latest.state ≠ .registering

/-- The ways a call of `register_buffer` can succeed. -/
inductive RegisterSuccess (p : RegisterParams) (backend : Option Backend) (b : BufferRecord)
    (e : EndpointRecord) (s : State) : Result Registration × State → Prop
  | duplicate {latest : Registration}
      (hlatest : latestRegistration s p.buffer p.endpoint = some latest)
      (hanswers : Answers p b e latest) :
      RegisterSuccess p backend b e s (.ok latest.duplicate, s)
  | accepted {s' : State} {rr : RegisterResult} (hidle : PairIdle p s) (hretired : Retires p s s')
      (hanswer : backendRegister p backend b e = .ok rr) :
      RegisterSuccess p backend b e s (acceptRegistration p b e
        (latestRegistration s p.buffer p.endpoint) rr s')

theorem stageRegistration_success {p : RegisterParams} {backend : Option Backend} {b : BufferRecord}
    {e : EndpointRecord} {s s' : State} {latest : Option Registration} {r : Registration}
    (hlatest : latestRegistration s p.buffer p.endpoint = latest) (hidle : PairIdle p s)
    (hretired : Retires p s s') (h : (stageRegistration p backend b e latest s').1 = .ok r) :
  RegisterSuccess p backend b e s (stageRegistration p backend b e latest s')
  := by
  subst hlatest
  rw [stageRegistration] at h ⊢
  cases hrr : backendRegister p backend b e with
  | error error =>
      rw [hrr] at h
      cases h
  | ok rr => exact .accepted hidle hretired hrr

/-- A call that succeeds has found room. -/
theorem registerBuffer_ok {p : RegisterParams} {backend : Option Backend} {s : State}
    {r : Registration} (h : (registerBuffer p backend s).1 = .ok r) :
  ∃ b e, RegisterAllowed p b e s ∧ s.registrations.size < s.maxRegistrations ∧
    RegisterSuccess p backend b e s (registerBuffer p backend s)
  := by
  rw [registerBuffer] at h ⊢
  cases hbuffer : s.buffers.lookup p.buffer with
  | none =>
      rw [hbuffer] at h
      cases h
  | some b =>
  rw [hbuffer] at h
  obtain ⟨hactive, h⟩ := ok_of_check h
  dsimp only
  rw [if_neg hactive]
  cases hendpoint : s.endpoints.lookup p.endpoint with
  | none =>
      rw [hendpoint] at h
      cases h
  | some e =>
  rw [hendpoint] at h
  obtain ⟨hsupported, h⟩ := ok_of_check h
  obtain ⟨hroom, h⟩ := ok_of_check h
  obtain ⟨hepoch, h⟩ := ok_of_check h
  obtain ⟨hlive, h⟩ := ok_of_check h
  obtain ⟨howner, h⟩ := ok_of_check h
  obtain ⟨hepochs, h⟩ := ok_of_check h
  dsimp only
  rw [if_neg hsupported, if_neg hroom, if_neg hepoch, if_neg hlive, if_neg howner, if_neg hepochs]
  refine ⟨b, e, ⟨hbuffer, by simpa using hactive, hendpoint, hsupported, by simpa using hepoch,
    ?_, ?_⟩, not_le.mp hroom, ?_⟩
  · intro howned
    simpa [howned] using hlive
  · intro howned
    simpa [howned] using howner
  cases hlatest : latestRegistration s p.buffer p.endpoint with
  | none =>
      rw [hlatest] at h
      refine stageRegistration_success hlatest (fun latest hsome => ?_) (.inl rfl) h
      rw [hlatest] at hsome
      cases hsome
  | some latest =>
  rw [hlatest] at h
  dsimp only at h ⊢
  split at h
  next hduplicate =>
    rw [if_pos hduplicate]
    simp only [Bool.and_eq_true, decide_eq_true_eq] at hduplicate
    obtain ⟨⟨⟨⟨hstate, hbufferGeneration⟩, hendpointGeneration⟩, hauthority⟩, hprovider⟩ :=
      hduplicate
    exact .duplicate hlatest ⟨hstate, hbufferGeneration, hendpointGeneration, hauthority, hprovider⟩
  next hduplicate =>
  rw [if_neg hduplicate]
  split at h
  next =>
    obtain ⟨-, h⟩ := ok_of_check h
    cases h
  next hregistered =>
  rw [if_neg hregistered]
  obtain ⟨hregistering, h⟩ := ok_of_check h
  rw [if_neg hregistering]
  have hidle : PairIdle p s := by
    intro latest' hlatest'
    obtain rfl := Option.some.inj (hlatest.symm.trans hlatest')
    exact ⟨hregistered, hregistering⟩
  apply stageRegistration_success hlatest hidle _ h
  split
  next hstate => exact .inr ⟨latest, hlatest, hstate, rfl⟩
  next => exact .inl rfl

/-- Where there is no room, a call fails. -/
theorem registerBuffer_full {p : RegisterParams} {backend : Option Backend} {s : State}
    (hfull : ¬s.registrations.size < s.maxRegistrations) (r : Registration) :
  (registerBuffer p backend s).1 ≠ .ok r
  := by
  intro h
  obtain ⟨b, e, -, hroom, -⟩ := registerBuffer_ok h
  exact hfull hroom

namespace RegisterAllowed

variable {p : RegisterParams} {b : BufferRecord} {e : EndpointRecord} {s : State}

/-- The checks in the words of the code. -/
theorem checks (h : RegisterAllowed p b e s) :
  (b.lifecycle != .active) = false ∧ (p.authority.epoch != s.epoch) = false ∧
    (p.authority.workerOwned && !s.workerLiveLocked p.authority) = false ∧
    (b.authority.workerOwned && b.authority != p.authority) = false ∧
    (b.authority.workerOwned && b.authority.epoch != p.authority.epoch) = false
  := by
  have hguard : ∀ {a : Authority} {c : Bool}, (a.workerOwned = true → c = false) →
      (a.workerOwned && c) = false := by
    intro a c hc
    cases howned : a.workerOwned with
    | false => rfl
    | true => exact hc howned
  refine ⟨?_, ?_, hguard fun howned => ?_, hguard fun howned => ?_, hguard fun howned => ?_⟩
  · rw [h.active, bne_self_eq_false]
  · rw [h.epoch, bne_self_eq_false]
  · rw [h.live howned, Bool.not_true]
  · rw [h.owner howned, bne_self_eq_false]
  · rw [h.owner howned, bne_self_eq_false]

/-- Where there is room, a call that asks for the latest registration of its pair returns it. -/
theorem again {latest : Registration} (h : RegisterAllowed p b e s)
    (hroom : s.registrations.size < s.maxRegistrations)
    (hlatest : latestRegistration s p.buffer p.endpoint = some latest)
    (hanswers : Answers p b e latest) (backend : Option Backend) :
  registerBuffer p backend s = (.ok latest.duplicate, s)
  := by
  obtain ⟨hactive, hepoch, hlive, howner, hepochs⟩ := h.checks
  rw [registerBuffer, h.buffer]
  simp only [hactive, h.endpoint, h.supported, ge_iff_le, not_le.mpr hroom, hepoch, hlive, howner,
    hepochs, hlatest, if_false, Bool.false_eq_true]
  apply if_pos
  simp only [hanswers.registered, hanswers.bufferGeneration, hanswers.endpointGeneration,
    hanswers.authority, hanswers.provider, decide_true, Bool.and_true]

/-- Where there is room and the pair is idle, a call that the backend answers stores a
registration. -/
theorem accepts {backend : Option Backend} {rr : RegisterResult} (h : RegisterAllowed p b e s)
    (hwf : WellFormed s) (hroom : s.registrations.size < s.maxRegistrations) (hidle : PairIdle p s)
    (hanswer : backendRegister p backend b e = .ok rr) :
  registerBuffer p backend s
    = acceptRegistration p b e (latestRegistration s p.buffer p.endpoint) rr s
  := by
  obtain ⟨hactive, hepoch, hlive, howner, hepochs⟩ := h.checks
  rw [registerBuffer, h.buffer]
  simp only [hactive, h.endpoint, h.supported, ge_iff_le, not_le.mpr hroom, hepoch, hlive, howner,
    hepochs, if_false, Bool.false_eq_true]
  cases hlatest : latestRegistration s p.buffer p.endpoint with
  | none =>
      dsimp only
      rw [stageRegistration, hanswer]
  | some latest =>
      obtain ⟨hregistered, hregistering⟩ := hidle latest hlatest
      obtain ⟨k, hk⟩ := Table.mem_values.mp (PathPlanner.latest_mem hlatest).1
      have hderegistering := (hwf.registrations k latest hk).2.2
      simp only [hregistered, hregistering, hderegistering, decide_false, Bool.false_and, if_false,
        Bool.false_eq_true]
      rw [stageRegistration, hanswer]

end RegisterAllowed

/-! ### The call after a successful one -/

/-- Registering with the same parameters again succeeds, returns the registration as a duplicate
and changes nothing. -/
def RegistersAgain (p : RegisterParams) (backend : Option Backend) (r : Registration) (s : State) :
    Prop :=
  registerBuffer p backend s = (.ok r.duplicate, s)

/-- A call that succeeds leaves room for another registration: it finds the latest one of its pair
in force, or it replaces one, or it is not the last that has room. -/
def LeavesRoom (p : RegisterParams) (backend : Option Backend) (s : State) : Prop :=
  (∃ latest, latestRegistration s p.buffer p.endpoint = some latest ∧ latest.state = .registered) ∨
    (s.registrations.lookup (drawnId p backend s)).isSome = true ∨
    s.registrations.size + 1 < s.maxRegistrations

/-- What a call has registered can be registered again, and is found by the search for the latest
registration. -/
theorem registerAllowed_accepted {p : RegisterParams} {b : BufferRecord} {e : EndpointRecord}
    {s : State} (h : RegisterAllowed p b e s) (latest : Option Registration) (rr : RegisterResult) :
  ∃ b', RegisterAllowed p b' e (acceptRegistration p b e latest rr s).2 ∧
    Answers p b' e (newRegistration p b e latest rr (registrationKey rr s) (s.freshness + 1))
  := by
  refine ⟨_, ⟨AList.lookup_insert _, h.active, h.endpoint, h.supported, h.epoch, h.live, h.owner⟩,
    rfl, rfl, rfl, rfl, rfl⟩

/-- A call that is accepted leaves room exactly when there is room after it. -/
theorem leavesRoom_of_accepted {p : RegisterParams} {backend : Option Backend} {b : BufferRecord}
    {e : EndpointRecord} {rr : RegisterResult} {s : State}
    (haccepted : Accepted p backend b e rr s)
    (hroom : s.registrations.size < s.maxRegistrations) (hidle : PairIdle p s) :
  LeavesRoom p backend s ↔
    (acceptRegistration p b e (latestRegistration s p.buffer p.endpoint) rr s).2.registrations.size
      < s.maxRegistrations
  := by
  have hnot : ¬∃ latest, latestRegistration s p.buffer p.endpoint = some latest ∧
      latest.state = .registered := by
    rintro ⟨latest, hlatest, hstate⟩
    exact (hidle latest hlatest).1 hstate
  have hsize : (acceptRegistration p b e (latestRegistration s p.buffer p.endpoint) rr
      s).2.registrations.size = if (s.registrations.lookup (registrationKey rr s)).isSome
        then s.registrations.size else s.registrations.size + 1 := Table.size_insert _ _ _
  rw [hsize, LeavesRoom, drawnId_eq haccepted, or_iff_right hnot]
  split
  next hheld => exact iff_of_true (.inl hheld) hroom
  next hheld => exact or_iff_right hheld

/-- In every reachable state, whatever the backends: what a call has registered is found again as a
duplicate by the next call, with nothing changed, exactly when the first call leaves room. -/
theorem registers_again_iff {w : World} (h : persistedFabric.Reachable w) {p : RegisterParams}
    {backend : Option Backend} {r : Registration}
    (hr : (registerBuffer p backend w.state).1 = .ok r) (backend' : Option Backend) :
  RegistersAgain p backend' r (registerBuffer p backend w.state).2 ↔
    LeavesRoom p backend w.state
  := by
  have hwf := wellFormed_of_reachable h
  have hnext : persistedFabric.Reachable (w.next (.registerBuffer p backend)) :=
    reachable_next h trivial
  have hlatestCurrent : LatestCurrent (registerBuffer p backend w.state).2 :=
    latestCurrent_of_reachable hnext
  obtain ⟨b, e, hallowed, hroom, hsuccess⟩ := registerBuffer_ok hr
  generalize hcall : registerBuffer p backend w.state = call at hr hsuccess hlatestCurrent
  cases hsuccess with
  | @duplicate latest hlatest hanswers =>
      obtain rfl := Except.ok.inj hr
      apply iff_of_true
      · exact hallowed.again hroom hlatest hanswers backend'
      · exact .inl ⟨latest, hlatest, hanswers.registered⟩
  | @accepted s' rr hidle hretired hanswer =>
      obtain rfl := retires_eq hwf hretired
      obtain rfl := Except.ok.inj hr
      obtain ⟨b', hallowed', hanswers⟩ := registerAllowed_accepted hallowed
        (latestRegistration w.state p.buffer p.endpoint) rr
      have haccepted : Accepted p backend b e rr w.state :=
        ⟨hallowed.buffer, hallowed.active, hallowed.endpoint, hallowed.epoch,
          hallowed.live, hallowed.owner, hanswer⟩
      rw [leavesRoom_of_accepted haccepted hroom hidle]
      constructor
      · intro hagain
        by_contra hfull
        exact registerBuffer_full hfull _ (congrArg Prod.fst hagain)
      · intro hroom
        refine hallowed'.again hroom ?_ hanswers backend'
        refine hlatestCurrent.eq_latest ⟨AList.lookup_insert _, ?_, ?_⟩ rfl
        · exact hwf.buffer_id hallowed.buffer
        · exact hwf.endpoint_id hallowed.endpoint

namespace Fixture

/-- The world before the buffer of the fixture is registered, with room for one registration. -/
def narrow : World := ({ state := Coordinator 1 } : World).replay
  (.setLimits 8192 1 4096 4096 4096 :: calls.dropLast)

theorem reachable_narrow (setting : Setting) :
  (fabric setting World.New).Reachable narrow
  := reachable_replay (reachable_new setting 1) rfl

def lastRegistration : RegisterParams :=
  { buffer := 6, endpoint := 4, authority := owner, support := .real }

/-- The registration that fills the table. -/
def filling : Registration :=
  ((registerBuffer lastRegistration none narrow.state).2.registrations.lookup 7).getD {}

theorem registered_filling :
  (registerBuffer lastRegistration none narrow.state).1 = .ok filling
  := by decide +kernel

end Fixture

theorem registers_again_fixture :
  RegistersAgain Fixture.lastRegistration none Fixture.filling
    (registerBuffer Fixture.lastRegistration none Fixture.narrow.state).2 ↔
  LeavesRoom Fixture.lastRegistration none Fixture.narrow.state
  := registers_again_iff (Fixture.reachable_narrow _) Fixture.registered_filling none

/-- The call that fills the table succeeds, and the same call again fails. -/
theorem filling_registration_not_found :
  persistedFabric.Reachable Fixture.narrow ∧
  (registerBuffer Fixture.lastRegistration none Fixture.narrow.state).1 = .ok Fixture.filling ∧
  ¬RegistersAgain Fixture.lastRegistration none Fixture.filling
    (registerBuffer Fixture.lastRegistration none Fixture.narrow.state).2
  := by
  refine ⟨Fixture.reachable_narrow _, Fixture.registered_filling, fun hagain => ?_⟩
  have hfull : ¬(registerBuffer Fixture.lastRegistration none
      Fixture.narrow.state).2.registrations.size
    < (registerBuffer Fixture.lastRegistration none Fixture.narrow.state).2.maxRegistrations := by
    decide +kernel
  exact registerBuffer_full hfull _ (congrArg Prod.fst hagain)

end GpuDirectFabric
