import GpuDirectFabric.Library.Grants
import GpuDirectFabric.RegisteredPaths
import GpuDirectFabric.RegistrationSteps

/-!
# Registrations over time

A registration is a lease on the way from its buffer to its endpoint.  It is granted by the call of
`register_buffer` that makes it, and revoked by a deregistration, by a sweep over the registrations,
or when a backend gives its id to another one.  Nothing else bears on it: which registrations are in
force is determined by the calls there have been, and so is which paths are direct, up to the ends
of the path as they are now.
-/

namespace GpuDirectFabric

open Coordinator PathPlanner

/-- The registration is in force. -/
def State.Leases (s : State) (r : Registration) : Prop :=
  s.registrations.lookup r.id = some r ∧ r.state = .registered

/-- The event is a call of `register_buffer` that makes the registration. -/
def Event.Makes (e : Event) (r : Registration) (s : State) : Prop :=
  ∃ p backend, e = .registerBuffer p backend ∧
    (Coordinator.registerBuffer p backend s).1 = .ok r ∧ r.duplicated = false

/-- The event takes the registration out of force, if it is. -/
def Event.Revokes (e : Event) (r : Registration) (s : State) : Prop :=
  match e with
  | .deregisterBuffer id caller =>
    id = r.id ∧ (Coordinator.deregisterBuffer id caller s).1 = .ok ()
  | .registerBuffer p backend =>
    ∃ r', Event.Makes (.registerBuffer p backend) r' s ∧ r'.id = r.id
  | e => e.Sweeps r s

/-! ### Making registrations -/

section

variable {s : State}

/-- A call that makes a registration stores it. -/
theorem stored_of_makes (hwf : WellFormed s) {p : RegisterParams} {backend : Option Backend}
    {r : Registration} (h : Event.Makes (.registerBuffer p backend) r s) :
  StoresUnder p backend r.id s ∧ Stored p r.id r s (registerBuffer p backend s).2
  := by
  obtain ⟨_, _, ⟨⟩, hr, hnew⟩ := h
  obtain ⟨b, d, hallowed, hroom, hsuccess⟩ := registerBuffer_ok hr
  have hstores : StoresUnder p backend r.id s := by
    generalize registerBuffer p backend s = call at hr hsuccess
    cases hsuccess with
    | duplicate =>
        obtain rfl := Except.ok.inj hr
        cases hnew
    | accepted hidle hretired hanswer =>
        obtain rfl := Except.ok.inj hr
        obtain rfl := retires_eq hwf hretired
        exact ⟨b, d, _, hallowed, hroom, hidle, hanswer, rfl⟩
  use hstores
  obtain ⟨r', hr', hstored⟩ := stored_of_storesUnder hwf hstores
  obtain rfl := Except.ok.inj (hr.symm.trans hr')
  apply hstored

/-- A call that stores a registration makes it. -/
theorem makes_of_storesUnder (hwf : WellFormed s) {p : RegisterParams} {backend : Option Backend}
    {k : RegistrationId} (h : StoresUnder p backend k s) :
  ∃ r, Event.Makes (.registerBuffer p backend) r s ∧ r.id = k
  := by
  obtain ⟨b, d, rr, hallowed, hroom, hidle, hanswer, rfl⟩ := h
  have hr := congrArg Prod.fst (hallowed.accepts hwf hroom hidle hanswer)
  exact ⟨_, ⟨p, backend, rfl, hr, rfl⟩, rfl⟩

/-- A call of `register_buffer` leaves what is in force to the registration it makes, if any. -/
theorem leases_registerBuffer (hwf : WellFormed s) (p : RegisterParams) (backend : Option Backend)
    (r : Registration) :
  (registerBuffer p backend s).2.Leases r ↔
    Event.Makes (.registerBuffer p backend) r s ∨
      s.Leases r ∧ ¬Event.Revokes (.registerBuffer p backend) r s
  := by
  by_cases hmade : ∃ r', Event.Makes (.registerBuffer p backend) r' s
  · obtain ⟨r', hmakes⟩ := hmade
    have hstored := (stored_of_makes hwf hmakes).2
    have honly : ∀ r, Event.Makes (.registerBuffer p backend) r s → r' = r := by
      rintro r ⟨_, _, ⟨⟩, hr, -⟩
      obtain ⟨_, _, ⟨⟩, hr', -⟩ := hmakes
      apply Except.ok.inj (hr'.symm.trans hr)
    by_cases hid : r.id = r'.id
    · rw [State.Leases, hstored.registrations, hid, AList.lookup_insert]
      constructor
      · rintro ⟨heq, -⟩
        obtain rfl := Option.some.inj heq
        left
        apply hmakes
      · rintro (h | ⟨-, hnot⟩)
        · rw [honly r h]
          use rfl
          rw [← honly r h]
          apply hstored.registered
        · apply absurd ⟨r', hmakes, hid.symm⟩ hnot
    · rw [State.Leases, hstored.registrations, AList.lookup_insert_ne hid]
      constructor
      · intro h
        right
        use h
        rintro ⟨r'', h', hid'⟩
        rw [honly r'' h'] at hid
        apply hid hid'.symm
      · rintro (h | ⟨h, -⟩)
        · apply absurd (congrArg Registration.id (honly r h)).symm hid
        · apply h
  · obtain hsame | ⟨k, hstores⟩ := registerBuffer_stored p backend hwf
    · rw [hsame]
      constructor
      · intro h
        right
        use h
        rintro ⟨r', h', -⟩
        apply hmade ⟨r', h'⟩
      · rintro (h | ⟨h, -⟩)
        · apply absurd ⟨r, h⟩ hmade
        · apply h
    · obtain ⟨r', h', -⟩ := makes_of_storesUnder hwf hstores
      apply absurd ⟨r', h'⟩ hmade

/-- Retiring a registration takes it, and no other, out of force. -/
theorem leases_retired {s' : State} {id : RegistrationId} {reg : Registration}
    (hs' : s'.registrations = s.registrations.insert id reg) (hreg : reg.state = .retired)
    (r : Registration) :
  s'.Leases r ↔ s.Leases r ∧ id ≠ r.id
  := by
  rw [State.Leases, hs']
  by_cases hid : r.id = id
  · rw [hid, AList.lookup_insert]
    constructor
    · rintro ⟨heq, hstate⟩
      rw [← Option.some.inj heq, hreg] at hstate
      cases hstate
    · rintro ⟨-, hne⟩
      apply absurd rfl hne
  · rw [AList.lookup_insert_ne hid]
    apply (and_iff_left (Ne.symm hid)).symm

/-- A deregistration takes what it retires out of force. -/
theorem leases_deregisterBuffer (id : RegistrationId) (caller : Authority) (r : Registration) :
  (deregisterBuffer id caller s).2.Leases r ↔
    s.Leases r ∧ ¬Event.Revokes (.deregisterBuffer id caller) r s
  := by
  have houtcome := deregisterBuffer_outcome id caller s
  rw [Event.Revokes]
  generalize deregisterBuffer id caller s = call at houtcome
  cases houtcome with
  | refused e =>
      apply (and_iff_left _).symm
      rintro ⟨-, ⟨⟩⟩
  | @idempotent reg hreg hstate =>
      apply (and_iff_left_of_imp _).symm
      rintro ⟨hr, hregistered⟩ ⟨rfl, -⟩
      obtain rfl := Option.some.inj (hreg.symm.trans hr)
      rw [hregistered] at hstate
      simp at hstate
  | dead hreg hactive howned hdead =>
      rw [leases_retired rfl rfl, and_iff_left rfl]
  | current hreg hactive hauthorizes hlatest =>
      rw [leases_retired (registrations_clearRegistration ..) rfl, and_iff_left rfl]

end

/-! ### Runs -/

/-- After a step, a registration is in force when the step made it, or it was in force and the step
does not revoke it. -/
theorem leases_next {w : World} {e : Event} (hwf : WellFormed w.state)
    (hallowed : e.Allowed ⟨false, true⟩ w) (hrecover : ∀ file, e ≠ .recover file)
    (r : Registration) :
  (w.next e).state.Leases r ↔ e.Makes r w.state ∨ w.state.Leases r ∧ ¬e.Revokes r w.state
  := by
  rw [World.next_state]
  by_cases hregister : ∃ p backend, e = .registerBuffer p backend
  · obtain ⟨p, backend, rfl⟩ := hregister
    apply leases_registerBuffer hwf
  have hmakes : ¬e.Makes r w.state := by
    rintro ⟨p, backend, rfl, -⟩
    apply hregister ⟨p, backend, rfl⟩
  rw [or_iff_right hmakes]
  by_cases hderegister : ∃ id caller, e = .deregisterBuffer id caller
  · obtain ⟨id, caller, rfl⟩ := hderegister
    apply leases_deregisterBuffer
  have hsweeps : e.Revokes r w.state ↔ e.Sweeps r w.state := by
    cases e with
    | registerBuffer p backend => exact absurd ⟨p, backend, rfl⟩ hregister
    | deregisterBuffer id caller => exact absurd ⟨id, caller, rfl⟩ hderegister
    | _ => rfl
  rw [hsweeps]
  have hstep : ∀ {r'}, w.state.registrations.lookup r.id = some r' →
      ¬e.Sweeps r' w.state ∧ (apply e w.state).registrations.lookup r.id = some r' ∨
      e.Sweeps r' w.state ∧ (apply e w.state).registrations.lookup r.id
        = some { r' with state := .revalidationRequired } := by
    intro r' hr'
    cases hallowed.registrationStep hrecover hwf hr' with
    | rest hr hnot => exact .inl ⟨hnot, hr⟩
    | swept hsweeps hr => exact .inr ⟨hsweeps, hr⟩
    | deregistered he => exact absurd ⟨_, _, he⟩ hderegister
    | replaced he => exact absurd ⟨_, _, he⟩ hregister
  constructor
  · rintro ⟨hr, hstate⟩
    obtain ⟨r', hr', -⟩ | ⟨p, backend, he, -⟩ := hallowed.effect.registration hrecover hr
    · obtain ⟨hnot, hsame⟩ | ⟨-, hswept⟩ := hstep hr'
      · obtain rfl := Option.some.inj (hsame.symm.trans hr)
        use ⟨hr', hstate⟩
      · rw [← Option.some.inj (hswept.symm.trans hr)] at hstate
        cases hstate
    · apply absurd ⟨p, backend, he⟩ hregister
  · rintro ⟨⟨hr, hstate⟩, hnot⟩
    obtain ⟨-, hsame⟩ | ⟨hswept, -⟩ := hstep hr
    · use hsame
    · apply absurd hswept hnot

/-- The registrations in force are those granted and not revoked since. -/
theorem leases_iff_granted {u w : World} (hu : persistedFabric.Reachable u)
    {h : List (World × Event)} (hrun : (process (· = u)).Run h w) (r : Registration) :
  w.state.Leases r ↔
    System.Granted (u.state.Leases r) (fun v e => e.Makes r v.state)
      (fun v e => e.Revokes r v.state) h
  := by
  apply hrun.holds_iff_granted (A := fun v => v.state.Leases r)
  · rintro v rfl
    rfl
  · rintro v e _ hv ⟨hrecover, hallowed, rfl⟩
    apply leases_next (wellFormed_of_reachable (reachable_of_process_from hu hv)) hallowed hrecover
  · rintro d v e _ _ ⟨⟩

/-! ### Paths -/

/-- The ends of the request are fit for a direct path. -/
structure DirectEnds (p : PlanRequestParams) (s : State) : Prop where
  source : ∃ b, DirectSource p b s
  destination : ∃ e, DirectDestination p e s

/-- A path is registered when its ends are fit, and a registration of them is in force whose owner
is live. -/
theorem registeredPath_iff {p : PlanRequestParams} {r : Registration} {s : State} :
  RegisteredPath p r s ↔
    DirectEnds p s ∧ s.Leases r ∧ (r.buffer = p.source ∧ r.endpoint = p.destination) ∧
      (r.authority.workerOwned = true → s.workerLiveLocked r.authority = true)
  := by
  constructor
  · intro h
    use ⟨h.source, h.destination⟩, ⟨h.holds.stored, h.registered⟩,
      ⟨h.holds.buffer, h.holds.endpoint⟩
    apply h.live
  · rintro ⟨hends, ⟨hstored, hregistered⟩, ⟨hbuffer, hendpoint⟩, hlive⟩
    use ⟨hstored, hbuffer, hendpoint⟩, hregistered, hlive, hends.source
    apply hends.destination

/-- A path is direct exactly when its ends are fit now, and there has been a registration of them
that is not revoked since, and whose owner is live now. -/
theorem direct_since {u w : World} (hu : persistedFabric.Reachable u) {h : List (World × Event)}
    (hrun : (process (· = u)).Run h w) (p : PlanRequestParams) :
  (evaluatePath p w.state).eligibility.isDirect = true ↔
    DirectEnds p w.state ∧ ∃ r,
      System.Granted (u.state.Leases r) (fun v e => e.Makes r v.state)
        (fun v e => e.Revokes r v.state) h ∧
      (r.buffer = p.source ∧ r.endpoint = p.destination) ∧
      (r.authority.workerOwned = true → w.state.workerLiveLocked r.authority = true)
  := by
  have hw := reachable_of_process_from hu ⟨h, hrun⟩
  rw [evaluatePath, evaluate_isDirect, directRequirements_iff,
    directConditions_iff_registeredPath hw]
  simp only [registeredPath_iff, leases_iff_granted hu hrun, exists_and_left]

namespace Fixture

/-- The buffer goes to its next generation, and is registered again. -/
def renewing : List Event :=
  [.advanceBufferGeneration 6 owner,
    .registerBuffer { buffer := 6, endpoint := 4, authority := owner, support := .real } none]

/-- The history of these calls, latest first. -/
def renewedHistory : List (World × Event) :=
  [(registered.next renewing[0], renewing[1]), (registered, renewing[0])]

theorem run_renewing :
  (process (· = registered)).Run renewedHistory (registered.replay renewing)
  := run_call (run_call (.start rfl) rfl) rfl

end Fixture

/-- The path that has been registered anew. -/
theorem direct_since_renewed :
  DirectEnds Fixture.request (Fixture.registered.replay Fixture.renewing).state ∧ ∃ r,
    System.Granted (Fixture.registered.state.Leases r) (fun v e => e.Makes r v.state)
      (fun v e => e.Revokes r v.state) Fixture.renewedHistory ∧
    (r.buffer = Fixture.request.source ∧ r.endpoint = Fixture.request.destination) ∧
    (r.authority.workerOwned = true →
      (Fixture.registered.replay Fixture.renewing).state.workerLiveLocked r.authority = true)
  := by
  apply (direct_since (Fixture.reachable_registered _) Fixture.run_renewing Fixture.request).mp
  decide +kernel

end GpuDirectFabric
