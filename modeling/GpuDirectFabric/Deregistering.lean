import GpuDirectFabric.RegistrationSteps

/-!
# Deregistration

A call of `deregister_buffer` retires the registration it names and touches no other.  Retirement is
not the end of it: two of the sweeps over the registrations do not skip the retired ones, and ask
for their revalidation.
-/

namespace GpuDirectFabric

open Coordinator Persistence

/-! ### One call -/

/-- No registration is `UNREGISTERED`. -/
def NeverUnregistered (s : State) : Prop :=
  s.registrations.All fun _ r => r.state ≠ .unregistered

theorem NeverUnregistered.effect {e : Event} {s s' : State} (h : NeverUnregistered s)
    (hwf : WellFormed s) (he : Effect e s s') (hrecover : ∀ file, e ≠ .recover file) :
  NeverUnregistered s'
  := by
  have hrevalidated : ∀ p : Registration → Bool,
      (s.registrations.mapVals (State.revalidateIf p)).All fun _ r => r.state ≠ .unregistered := by
    intro p
    refine Table.All.mapVals h fun k r hr => ?_
    rw [State.revalidateIf]
    split
    · rintro ⟨⟩
    · exact hr
  cases he with
  | markWorkerDead => exact hrevalidated _
  | advanceEpoch => exact hrevalidated _
  | advanceBufferGeneration => exact hrevalidated _
  | retireBuffer => exact hrevalidated _
  | advanceEndpointGeneration => exact hrevalidated _
  | retireDeregistering =>
      refine Table.All.mapVals h fun k r hr => ?_
      split
      · rintro ⟨⟩
      · exact hr
  | registerBuffer haccepted hretired =>
      obtain rfl := retires_eq hwf hretired
      exact Table.All.insert h (by rintro ⟨⟩)
  | retire => exact Table.All.insert h (by rintro ⟨⟩)
  | deregisterBuffer => exact Table.All.insert h (by rintro ⟨⟩)
  | deregisterCached => exact Table.All.insert h (by rintro ⟨⟩)
  | rehash hs => exact hs.registrations.all h
  | recover => exact absurd rfl (hrecover _)
  | _ => exact h

theorem neverUnregistered_of_reachable {w : World} (h : persistedFabric.Reachable w) :
  NeverUnregistered w.state
  := by
  refine (persistedFabric_invariant (P := NeverUnregistered) ?_ ?_ ?_ h).2
  · intro epoch
    exact .empty
  · intro e s hwf hs he hrecover
    exact hs.effect hwf he hrecover
  · intro d s hd hs k r hr
    obtain ⟨r', hmem, -, rfl⟩ := hs.registrations k r hr
    obtain ⟨k', hk'⟩ := Table.mem_values.mp hmem
    rw [recoveredRegistration, recoveredState]
    split
    · rintro ⟨⟩
    · exact hd k' r' hk'

/-- The state holds a registration of the same pair with a higher generation. -/
def State.Outdated (s : State) (reg : Registration) : Prop :=
  ∃ k r, s.Holds reg.buffer reg.endpoint k r ∧ reg.generation < r.generation

/-- An outdated registration is superseded by the latest of its pair. -/
theorem superseded_of_outdated {s : State} {id : RegistrationId} {reg : Registration}
    (hwf : WellFormed s) (hreg : s.registrations.lookup id = some reg) (h : s.Outdated reg) :
  s.Superseded reg
  := by
  obtain ⟨k, r, hholds, hlt⟩ := h
  obtain ⟨latest, hlatest, hle⟩ :=
    le_latestRegistration hholds.stored hholds.buffer hholds.endpoint
  refine ⟨latest, hlatest, fun hid => ?_⟩
  obtain ⟨k', hlatestHolds⟩ := holds_of_latest hlatest
  have hstored := hlatestHolds.stored
  rw [← hwf.registration_id hstored, hid, hwf.registration_id hreg, hreg] at hstored
  obtain rfl := Option.some.inj hstored
  exact absurd hlt (not_lt.mpr hle)

/-- A call of `deregister_buffer` changes no other registration.  It fails and changes nothing when
the registration it names is in use and outdated, unless the worker that owns it is dead.  Where it
succeeds, the registration is `RETIRED`.  It changes only the buffer that refers to it. -/
structure DeregistersSafely (id : RegistrationId) (caller : Authority) (s : State) : Prop where
  others : ∀ k, k ≠ id →
    (deregisterBuffer id caller s).2.registrations.lookup k = s.registrations.lookup k
  stale : ∀ reg, s.registrations.lookup id = some reg → reg.state ≠ .retired →
    reg.state ≠ .unregistered → s.Outdated reg →
    (reg.authority.workerOwned = true → s.workerLiveLocked reg.authority = true) →
    ∃ e, deregisterBuffer id caller s = (.error e, s)
  retired : (deregisterBuffer id caller s).1 = .ok () →
    ∃ reg, (deregisterBuffer id caller s).2.registrations.lookup id = some reg ∧
      reg.state = .retired
  cached : ∀ k, (deregisterBuffer id caller s).2.buffers.lookup k ≠ s.buffers.lookup k →
    ∃ b, s.buffers.lookup k = some b ∧ b.registrationId = id

/-- In every reachable state deregistration is safe. -/
theorem deregisters_safely {w : World} (h : persistedFabric.Reachable w) (id : RegistrationId)
    (caller : Authority) :
  DeregistersSafely id caller w.state
  := by
  have hwf := wellFormed_of_reachable h
  have hnever := neverUnregistered_of_reachable h
  have houtcome := deregisterBuffer_outcome id caller w.state
  constructor
  · intro k hk
    generalize deregisterBuffer id caller w.state = call at houtcome
    cases houtcome with
    | refused => rfl
    | idempotent => rfl
    | dead => exact AList.lookup_insert_ne hk
    | current =>
        rw [registrations_clearRegistration]
        exact AList.lookup_insert_ne hk
  · intro reg hreg hretired hunregistered houtdated hlive
    generalize deregisterBuffer id caller w.state = call at houtcome
    cases houtcome with
    | refused e => exact ⟨e, rfl⟩
    | idempotent hreg' hstate =>
        obtain rfl := Option.some.inj (hreg.symm.trans hreg')
        exact absurd hstate (not_or.mpr ⟨hretired, hunregistered⟩)
    | dead hreg' hactive howned hdead =>
        obtain rfl := Option.some.inj (hreg.symm.trans hreg')
        rw [hlive howned] at hdead
        cases hdead
    | current hreg' hactive hauthorizes hlatest =>
        obtain rfl := Option.some.inj (hreg.symm.trans hreg')
        exact absurd (superseded_of_outdated hwf hreg houtdated) hlatest
  · intro hok
    generalize deregisterBuffer id caller w.state = call at houtcome hok
    cases houtcome with
    | refused => cases hok
    | idempotent hreg hstate => exact ⟨_, hreg, hstate.resolve_right (hnever id _ hreg)⟩
    | dead => exact ⟨_, AList.lookup_insert _, rfl⟩
    | @current reg =>
        refine ⟨reg.deregistered (w.state.freshness + 1), ?_, rfl⟩
        rw [registrations_clearRegistration]
        exact AList.lookup_insert _
  · intro k hchanged
    generalize deregisterBuffer id caller w.state = call at houtcome hchanged
    cases houtcome with
    | refused => exact absurd rfl hchanged
    | idempotent => exact absurd rfl hchanged
    | dead => exact absurd rfl hchanged
    | @current reg hreg =>
        by_contra hnone
        apply hchanged
        rw [lookup_clearRegistration_eq, hwf.registration_id hreg]
        change (w.state.buffers.lookup k).map _ = w.state.buffers.lookup k
        cases hb : w.state.buffers.lookup k with
        | none => rfl
        | some b =>
            rw [Option.map_some, if_neg]
            rintro ⟨-, hid⟩
            exact hnone ⟨b, hb, hid⟩

theorem deregisters_safely_fixture :
  DeregistersSafely 7 Fixture.owner Fixture.renewed.state
  := deregisters_safely (Fixture.reachable_renewed _) 7 Fixture.owner

/-! ### After retirement -/

/-- The event takes a retired registration out of retirement: it sweeps over it, or it stores
another one under its id. -/
def Event.Revives (e : Event) (s : State) : Prop :=
  ∃ k r, s.registrations.lookup k = some r ∧ r.state = .retired ∧
    (e.Sweeps r s ∨ ∃ p backend, e = .registerBuffer p backend ∧ StoresUnder p backend k s)

/-- What is retired in `s` is retired in `s'`, and to deregister it there succeeds and changes
nothing. -/
def RetiredKept (s s' : State) : Prop :=
  s.registrations.All fun k r => r.state = .retired →
    (∃ r', s'.registrations.lookup k = some r' ∧ r'.state = .retired) ∧
      ∀ caller, deregisterBuffer k caller s' = (.ok (), s')

/-- To deregister a retired registration succeeds and changes nothing. -/
theorem deregisterBuffer_retired {s : State} {k : RegistrationId} {r : Registration}
    (hr : s.registrations.lookup k = some r) (hretired : r.state = .retired) (caller : Authority) :
  deregisterBuffer k caller s = (.ok (), s)
  := by
  rw [deregisterBuffer, hr]
  simp [hretired]

theorem RetiredKept.trans {s s' s'' : State} (h : RetiredKept s s') (h' : RetiredKept s' s'') :
  RetiredKept s s''
  := by
  intro k r hr hretired
  obtain ⟨⟨r', hr', hretired'⟩, -⟩ := h k r hr hretired
  exact h' k r' hr' hretired'

/-- An event keeps what is retired exactly when it does not revive any of it. -/
theorem retiredKept_iff {setting : Setting} {w : World} {e : Event}
    (hallowed : e.Allowed setting w) (hrecover : ∀ file, e ≠ .recover file)
    (hwf : WellFormed w.state) :
  RetiredKept w.state (apply e w.state) ↔ ¬e.Revives w.state
  := by
  constructor
  · rintro hkept ⟨k, r, hr, hretired, hrevives⟩
    obtain ⟨⟨r', hr', hretired'⟩, -⟩ := hkept k r hr hretired
    cases hallowed.registrationStep hrecover hwf hr with
    | rest _ hnot =>
        obtain hsweeps | ⟨p, backend, rfl, hstores⟩ := hrevives
        · exact hnot hsweeps
        · obtain ⟨r'', -, hstored⟩ := stored_of_storesUnder hwf hstores
          have hlookup : (apply (.registerBuffer p backend) w.state).registrations.lookup k
              = some r'' := by
            rw [apply, hstored.registrations, AList.lookup_insert]
          obtain rfl := Option.some.inj (hr'.symm.trans hlookup)
          exact absurd (hstored.registered.symm.trans hretired') (by decide)
    | swept _ hswept =>
        obtain rfl := Option.some.inj (hr'.symm.trans hswept)
        cases hretired'
    | deregistered _ hactive => exact hactive.1 hretired
    | replaced _ _ hstored =>
        rw [hstored.registrations, AList.lookup_insert] at hr'
        obtain rfl := Option.some.inj hr'
        exact absurd (hstored.registered.symm.trans hretired') (by decide)
  · intro hnot k r hr hretired
    suffices hstays : ∃ r', (apply e w.state).registrations.lookup k = some r' ∧
        r'.state = .retired by
      obtain ⟨r', hr', hretired'⟩ := hstays
      exact ⟨⟨r', hr', hretired'⟩, deregisterBuffer_retired hr' hretired'⟩
    cases hallowed.registrationStep hrecover hwf hr with
    | rest hrest => exact ⟨r, hrest, hretired⟩
    | swept hsweeps => exact absurd ⟨k, r, hr, hretired, .inl hsweeps⟩ hnot
    | deregistered _ hactive => exact absurd hretired hactive.1
    | replaced he hstores =>
        exact absurd ⟨k, r, hr, hretired, .inr ⟨_, _, he, hstores⟩⟩ hnot

/-- Through the worlds `ws`, latest first, `RETIRED` is final. -/
def RetirementsFinal (ws : List World) : Prop := ws.Pairwise fun v u => RetiredKept u.state v.state

/-- In every run of a process from a reachable world, `RETIRED` is final exactly when no step
revives a retired registration. -/
theorem retirement_final_iff {h : List (World × Event)} {w : World}
    (hrun : (process persistedFabric.Reachable).Run h w) :
  RetirementsFinal (System.visited h w) ↔ ∀ p ∈ h, ¬p.2.Revives p.1.state
  := by
  refine System.Run.pairwise_iff (R := fun u v : World => RetiredKept u.state v.state)
    (C := fun u e => ¬e.Revives u.state) (fun _ _ _ => RetiredKept.trans) ?_ ?_ hrun
  · rintro u e v hu ⟨hrecover, hallowed, rfl⟩
    exact retiredKept_iff hallowed hrecover
      (wellFormed_of_reachable (reachable_of_process (fun _ hw => hw) hu))
  · rintro d u e v _ ⟨⟩

namespace Fixture

/-- The world in which the owner has deregistered its buffer. -/
def deregistered : World := registered.next (.deregisterBuffer 7 owner)

/-- The run in which the owner then dies. -/
def revived : List (World × Event) :=
  [(deregistered, .markWorkerDead 1), (registered, .deregisterBuffer 7 owner)]

theorem run_revived :
  (process persistedFabric.Reachable).Run revived (deregistered.next (.markWorkerDead 1))
  := run_call (run_call (.start (reachable_registered _)) rfl) rfl

end Fixture

theorem retirement_final_fixture :
  RetirementsFinal (System.visited Fixture.revived
    (Fixture.deregistered.next (.markWorkerDead 1))) ↔
  ∀ p ∈ Fixture.revived, ¬p.2.Revives p.1.state
  := retirement_final_iff Fixture.run_revived

/-- The death of its owner takes a registration out of retirement. -/
theorem retired_registration_revived :
  (process persistedFabric.Reachable).Run Fixture.revived
    (Fixture.deregistered.next (.markWorkerDead 1)) ∧
  ¬RetirementsFinal (System.visited Fixture.revived
    (Fixture.deregistered.next (.markWorkerDead 1)))
  := by
  refine ⟨Fixture.run_revived, fun hfinal => ?_⟩
  have hkept := (List.pairwise_cons.mp hfinal).1 Fixture.deregistered List.mem_cons_self
  have hstates : ∃ r, Fixture.deregistered.state.registrations.lookup 7 = some r ∧
      r.state = .retired ∧
      ((Fixture.deregistered.next (.markWorkerDead 1)).state.registrations.lookup 7).map
        Registration.state = some .revalidationRequired := by
    decide +kernel
  obtain ⟨r, hr, hretired, hrevived⟩ := hstates
  obtain ⟨⟨r', hr', hretired'⟩, -⟩ := hkept 7 r hr hretired
  rw [hr', Option.map_some, hretired'] at hrevived
  cases hrevived

end GpuDirectFabric
