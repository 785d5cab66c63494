import GpuDirectFabric.Deregistering

/-!
# Cached registrations

A buffer caches the state, id and generation of the registration made for it last.  The cache is
written when a registration is stored, and when the one it refers to is deregistered by a live
owner; nothing else that happens to registrations reaches it.
-/

namespace GpuDirectFabric

open Coordinator Persistence

/-- What the buffer caches of its registration. -/
def BufferRecord.cached (b : BufferRecord) :
    RegistrationState × RegistrationId × RegistrationGeneration :=
  (b.registrationState, b.registrationId, b.registrationGeneration)

/-- The cache of the buffer `b`, stored under `k`, agrees with the registrations: if it says
`REGISTERED`, it refers to a registration in force for the buffer, and if it says `UNREGISTERED`,
there is none. -/
structure BufferRecord.Agrees (b : BufferRecord) (k : BufferId) (s : State) : Prop where
  registered : b.registrationState = .registered →
    ∃ r, s.registrations.lookup b.registrationId = some r ∧ r.state = .registered ∧
      r.buffer = k ∧ r.generation = b.registrationGeneration
  unregistered : b.registrationState = .unregistered →
    ∀ k' r, s.registrations.lookup k' = some r → r.buffer = k → r.state ≠ .registered

/-- The caches of all buffers agree with the registrations. -/
def CachesAgree (s : State) : Prop := s.buffers.All fun k b => b.Agrees k s

/-- The ways an event can leave a cache behind: it sweeps over the registration the cache refers to,
or stores one for another buffer under its id; it retires the one of a dead worker; or it clears the
cache while another registration of the buffer is in force. -/
inductive Misleads (s : State) : Event → Prop
  | swept {e : Event} {k : BufferId} {b : BufferRecord} {r : Registration}
      (hb : s.buffers.lookup k = some b) (hcached : b.registrationState = .registered)
      (hr : s.registrations.lookup b.registrationId = some r) (hsweeps : e.Sweeps r s) :
      Misleads s e
  | replaced {p : RegisterParams} {backend : Option Backend} {k : BufferId} {b : BufferRecord}
      (hb : s.buffers.lookup k = some b) (hcached : b.registrationState = .registered)
      (hother : k ≠ p.buffer) (hstores : StoresUnder p backend b.registrationId s) :
      Misleads s (.registerBuffer p backend)
  | dead {caller : Authority} {k : BufferId} {b : BufferRecord} {r : Registration}
      (hb : s.buffers.lookup k = some b) (hcached : b.registrationState = .registered)
      (hr : s.registrations.lookup b.registrationId = some r)
      (howned : r.authority.workerOwned = true) (hdead : s.workerLiveLocked r.authority = false) :
      Misleads s (.deregisterBuffer b.registrationId caller)
  | cleared {caller : Authority} {k : BufferId} {b : BufferRecord} {r r' : Registration}
      {k' : RegistrationId} (hb : s.buffers.lookup k = some b)
      (hr : s.registrations.lookup b.registrationId = some r) (hbuffer : r.buffer = k)
      (hactive : r.state ≠ .retired ∧ r.state ≠ .unregistered)
      (hauthorizes : s.Authorizes caller r.authority) (hlatest : ¬s.Superseded r)
      (hk' : k' ≠ b.registrationId) (hr' : s.registrations.lookup k' = some r')
      (hbuffer' : r'.buffer = k) (hregistered : r'.state = .registered) :
      Misleads s (.deregisterBuffer b.registrationId caller)

/-- Other events leave the caches as they are, and the buffers they add are `UNREGISTERED`. -/
theorem Effect.keeps_cached {e : Event} {s s' : State} (he : Effect e s s')
    (hrecover : ∀ file, e ≠ .recover file) (hregister : ∀ p backend, e ≠ .registerBuffer p backend)
    (hderegister : ∀ id caller, e ≠ .deregisterBuffer id caller) {k : BufferId} {b' : BufferRecord}
    (hb' : s'.buffers.lookup k = some b') :
  (∃ b, s.buffers.lookup k = some b ∧ b'.cached = b.cached) ∨
    s.nextId < k ∧ b'.registrationState = .unregistered
  := by
  have hmodify : ∀ {n : BufferId} {v v' : BufferRecord}, s.buffers.lookup n = some v →
      (s.buffers.insert n v').lookup k = some b' → v'.cached = v.cached →
      (∃ b, s.buffers.lookup k = some b ∧ b'.cached = b.cached) ∨
        s.nextId < k ∧ b'.registrationState = .unregistered := by
    intro n v v' hv hb' hcached
    obtain ⟨rfl, rfl⟩ | ⟨-, hold⟩ := Table.lookup_insert_some hb'
    · exact .inl ⟨v, hv, hcached⟩
    · exact .inl ⟨b', hold, rfl⟩
  have hnew : ∀ {n : BufferId} {v : BufferRecord}, s.nextId < n →
      v.registrationState = .unregistered → (s.buffers.insert n v).lookup k = some b' →
      (∃ b, s.buffers.lookup k = some b ∧ b'.cached = b.cached) ∨
        s.nextId < k ∧ b'.registrationState = .unregistered := by
    intro n v hn hstate hb'
    obtain ⟨rfl, rfl⟩ | ⟨-, hold⟩ := Table.lookup_insert_some hb'
    · exact .inr ⟨hn, hstate⟩
    · exact .inl ⟨b', hold, rfl⟩
  cases he with
  | createBuffer => exact hnew (Nat.lt_succ_self _) rfl hb'
  | advanceBufferGeneration hb => exact hmodify hb hb' rfl
  | retireBuffer hb => exact hmodify hb hb' rfl
  | registerBuffer => exact absurd rfl (hregister _ _)
  | deregisterCached => exact absurd rfl (hderegister _ _)
  | planFallback => exact hnew (Nat.lt_add_of_pos_right (by decide : 0 < 3)) rfl hb'
  | rehash hs => exact .inl ⟨b', (hs.buffers.lookup k).symm.trans hb', rfl⟩
  | recover => exact absurd rfl (hrecover _)
  | _ => exact .inl ⟨b', hb', rfl⟩

namespace CachesAgree

variable {s s' : State}

/-- Where nothing is in force, caches that say `UNREGISTERED` agree. -/
theorem of_unregistered (hbuffers : s.buffers.All fun _ b => b.registrationState = .unregistered)
    (hregistrations : s.registrations.All fun _ r => r.state ≠ .registered) :
  CachesAgree s
  := by
  intro k b hb
  constructor
  · intro hregistered
    rw [hbuffers k b hb] at hregistered
    cases hregistered
  · intro _ k' r hr _
    exact hregistrations k' r hr

/-- What a buffer refers to. -/
theorem lookup {k : BufferId} {b : BufferRecord} (h : CachesAgree s)
    (hb : s.buffers.lookup k = some b) (hcached : b.registrationState = .registered) :
  ∃ r, s.registrations.lookup b.registrationId = some r ∧ r.state = .registered ∧
    r.buffer = k ∧ r.generation = b.registrationGeneration
  := (h k b hb).registered hcached

/-- A registration the event stores misleads no cache but those that refer to its id. -/
theorem register_iff {p : RegisterParams} {backend : Option Backend} (h : CachesAgree s)
    (hwf : WellFormed s) :
  CachesAgree (registerBuffer p backend s).2 ↔ ¬Misleads s (.registerBuffer p backend)
  := by
  constructor
  · intro hafter hmisleads
    cases hmisleads with
    | swept _ _ _ hsweeps => exact hsweeps
    | replaced hb hcached hother hstores =>
        obtain ⟨r, -, hstored⟩ := stored_of_storesUnder hwf hstores
        obtain ⟨b₀, freshness, -, hbuffers⟩ := hstored.buffers
        rw [← AList.lookup_insert_ne hother, ← hbuffers] at hb
        obtain ⟨r', hr', -, hbuffer, -⟩ := hafter.lookup hb hcached
        rw [hstored.registrations, AList.lookup_insert] at hr'
        obtain rfl := Option.some.inj hr'
        exact hother (hbuffer.symm.trans hstored.buffer)
  · intro hnot
    obtain hsame | ⟨id, hstores⟩ := registerBuffer_stored p backend hwf
    · rw [hsame]
      exact h
    obtain ⟨r, -, hstored⟩ := stored_of_storesUnder hwf hstores
    obtain ⟨b₀, freshness, hb₀, hbuffers⟩ := hstored.buffers
    intro k b hb
    rw [hbuffers] at hb
    obtain ⟨rfl, rfl⟩ | ⟨hk, hold⟩ := Table.lookup_insert_some hb
    · constructor
      · intro
        refine ⟨r, ?_, hstored.registered, hstored.buffer, rfl⟩
        rw [hstored.registrations]
        exact AList.lookup_insert _
      · rintro ⟨⟩
    · constructor
      · intro hcached
        have hid : b.registrationId ≠ id := by
          rintro rfl
          exact hnot (.replaced hold hcached hk hstores)
        rw [hstored.registrations, AList.lookup_insert_ne hid]
        exact h.lookup hold hcached
      · intro hcached k' r' hr' hbuffer
        rw [hstored.registrations] at hr'
        obtain ⟨-, rfl⟩ | ⟨-, hr'⟩ := Table.lookup_insert_some hr'
        · exact absurd (hbuffer.symm.trans hstored.buffer) hk
        · exact (h k b hold).unregistered hcached k' r' hr' hbuffer

/-- To retire the registration of a dead worker misleads a cache that refers to it. -/
theorem retire_iff {id : RegistrationId} {caller : Authority} {reg : Registration}
    (h : CachesAgree s) (hreg : s.registrations.lookup id = some reg)
    (howned : reg.authority.workerOwned = true) (hdead : s.workerLiveLocked reg.authority = false) :
  CachesAgree { s with registrations := s.registrations.insert id { reg with state := .retired } } ↔
    ¬Misleads s (.deregisterBuffer id caller)
  := by
  constructor
  · intro hafter hmisleads
    cases hmisleads with
    | swept _ _ _ hsweeps => exact hsweeps
    | dead hb hcached =>
        obtain ⟨r, hr, hstate, -⟩ := hafter.lookup hb hcached
        obtain rfl := Option.some.inj ((AList.lookup_insert _).symm.trans hr)
        cases hstate
    | cleared _ hr _ _ hauthorizes =>
        obtain rfl := Option.some.inj (hreg.symm.trans hr)
        rw [(hauthorizes howned).2] at hdead
        cases hdead
  · intro hnot k b hb
    constructor
    · intro hcached
      have hid : b.registrationId ≠ id := by
        rintro rfl
        exact hnot (.dead hb hcached hreg howned hdead)
      obtain ⟨r, hr, hrest⟩ := h.lookup hb hcached
      exact ⟨r, (AList.lookup_insert_ne hid).trans hr, hrest⟩
    · intro hcached k' r' hr' hbuffer
      obtain ⟨-, rfl⟩ | ⟨-, hold⟩ := Table.lookup_insert_some hr'
      · rintro ⟨⟩
      · exact (h k b hb).unregistered hcached k' r' hold hbuffer

/-- To retire a registration and to clear the cache that refers to it misleads that cache when
another registration of the buffer is in force. -/
theorem clear_iff {id : RegistrationId} {caller : Authority} {reg reg' : Registration} {s' : State}
    (h : CachesAgree s) (hwf : WellFormed s) (hreg : s.registrations.lookup id = some reg)
    (hactive : reg.state ≠ .retired ∧ reg.state ≠ .unregistered)
    (hauthorizes : s.Authorizes caller reg.authority) (hlatest : ¬s.Superseded reg)
    (hretired : reg'.state = .retired) (hbuffers : s'.buffers = s.buffers)
    (hregistrations : s'.registrations = s.registrations.insert id reg') :
  CachesAgree (clearRegistration reg.id reg.buffer s') ↔ ¬Misleads s (.deregisterBuffer id caller)
  := by
  have hid := hwf.registration_id hreg
  have hlookup : ∀ k, (clearRegistration reg.id reg.buffer s').buffers.lookup k
      = (s.buffers.lookup k).map fun b =>
        if k = reg.buffer ∧ b.registrationId = id then b.cleared (s'.freshness + 1) else b := by
    intro k
    rw [lookup_clearRegistration_eq, hbuffers, hid]
  have hstored : (clearRegistration reg.id reg.buffer s').registrations
      = s.registrations.insert id reg' := by
    rw [registrations_clearRegistration, hregistrations]
  constructor
  · intro hafter hmisleads
    cases hmisleads with
    | swept _ _ _ hsweeps => exact hsweeps
    | dead hb hcached hr howned hdead =>
        obtain rfl := Option.some.inj (hreg.symm.trans hr)
        rw [(hauthorizes howned).2] at hdead
        cases hdead
    | @cleared _ k b r r' k' hb hr hbuffer _ _ _ hk' hr' hbuffer' hregistered =>
        obtain rfl := Option.some.inj (hreg.symm.trans hr)
        have hb' : (clearRegistration reg.id reg.buffer s').buffers.lookup k
            = some (b.cleared (s'.freshness + 1)) := by
          rw [hlookup, hb, Option.map_some, if_pos ⟨hbuffer.symm, rfl⟩]
        refine (hafter k _ hb').unregistered rfl k' r' ?_ hbuffer' hregistered
        rw [hstored, AList.lookup_insert_ne hk', hr']
  · intro hnot k b' hb'
    rw [hlookup] at hb'
    obtain ⟨b, hb, rfl⟩ := Option.map_eq_some_iff.mp hb'
    split
    next hclears =>
      obtain ⟨hk, rfl⟩ := hclears
      constructor
      · rintro ⟨⟩
      · intro _ k' r' hr' hbuffer hregistered
        rw [hstored] at hr'
        obtain ⟨-, rfl⟩ | ⟨hk', hold⟩ := Table.lookup_insert_some hr'
        · rw [hretired] at hregistered
          cases hregistered
        · exact hnot (.cleared hb hreg hk.symm hactive hauthorizes hlatest hk' hold hbuffer
            hregistered)
    next hclears =>
      constructor
      · intro hcached
        obtain ⟨r, hr, hstate, hbuffer, hgeneration⟩ := h.lookup hb hcached
        have hne : b.registrationId ≠ id := by
          rintro rfl
          obtain rfl := Option.some.inj (hreg.symm.trans hr)
          exact hclears ⟨hbuffer.symm, rfl⟩
        refine ⟨r, ?_, hstate, hbuffer, hgeneration⟩
        rw [hstored, AList.lookup_insert_ne hne, hr]
      · intro hcached k' r' hr' hbuffer
        rw [hstored] at hr'
        obtain ⟨-, rfl⟩ | ⟨-, hold⟩ := Table.lookup_insert_some hr'
        · rw [hretired]
          rintro ⟨⟩
        · exact (h k b hb).unregistered hcached k' r' hold hbuffer

/-- A deregistration misleads a cache when it retires what the cache refers to without clearing it,
or clears it while another registration is in force. -/
theorem deregister_iff {id : RegistrationId} {caller : Authority} (h : CachesAgree s)
    (hwf : WellFormed s) :
  CachesAgree (deregisterBuffer id caller s).2 ↔ ¬Misleads s (.deregisterBuffer id caller)
  := by
  have hmisled : Misleads s (.deregisterBuffer id caller) →
      ∃ reg, s.registrations.lookup id = some reg ∧ Deregisters caller reg s := by
    rintro (⟨-, -, -, ⟨⟩⟩ | - | ⟨hb, hcached, hr, howned, hdead⟩ |
      ⟨-, hr, -, hactive, hauthorizes, hlatest, -, -, -, -⟩)
    · obtain ⟨r, hr', hstate, -⟩ := h.lookup hb hcached
      obtain rfl := Option.some.inj (hr.symm.trans hr')
      refine ⟨_, hr, ⟨?_, ?_⟩, .inl ⟨howned, hdead⟩⟩
      · rw [hstate]
        rintro ⟨⟩
      · rw [hstate]
        rintro ⟨⟩
    · exact ⟨_, hr, hactive, .inr ⟨hauthorizes, hlatest⟩⟩
  have hunchanged := deregisterBuffer_unchanged_iff id caller s
  have houtcome := deregisterBuffer_outcome id caller s
  have hsame : (deregisterBuffer id caller s).2 = s →
      (CachesAgree (deregisterBuffer id caller s).2 ↔
        ¬Misleads s (.deregisterBuffer id caller)) := by
    intro hsame
    rw [hsame]
    refine iff_of_true h fun hmisleads => ?_
    obtain ⟨reg, hreg, hderegisters⟩ := hmisled hmisleads
    exact hunchanged.mp hsame reg hreg hderegisters
  generalize deregisterBuffer id caller s = call at houtcome hsame
  cases houtcome with
  | refused => exact hsame rfl
  | idempotent => exact hsame rfl
  | dead hreg _ howned hdead => exact h.retire_iff hreg howned hdead
  | current hreg hactive hauthorizes hlatest =>
      exact h.clear_iff hwf hreg hactive hauthorizes hlatest rfl rfl rfl

/-- Other events mislead a cache when they sweep over what it refers to. -/
theorem sweep_iff {setting : Setting} {w : World} {e : Event} (hallowed : e.Allowed setting w)
    (hrecover : ∀ file, e ≠ .recover file) (hregister : ∀ p backend, e ≠ .registerBuffer p backend)
    (hderegister : ∀ id caller, e ≠ .deregisterBuffer id caller)
    (hw : persistedFabric.Reachable w) (h : CachesAgree w.state) :
  CachesAgree (apply e w.state) ↔ ¬Misleads w.state e
  := by
  have hwf := wellFormed_of_reachable hw
  have he := hallowed.effect
  constructor
  · intro hafter hmisleads
    cases hmisleads with
    | @swept _ k b r hb hcached hr hsweeps =>
        obtain ⟨b', hb', -⟩ := he.keeps_buffer hwf hrecover hb
        obtain ⟨b₀, hb₀, hsame⟩ | ⟨hnew, -⟩ :=
          he.keeps_cached hrecover hregister hderegister hb'
        · obtain rfl := Option.some.inj (hb.symm.trans hb₀)
          obtain ⟨hstate, hrest⟩ := Prod.mk.inj hsame
          obtain ⟨r', hr', hregistered, -⟩ := hafter.lookup hb' (hstate.trans hcached)
          rw [(Prod.mk.inj hrest).1] at hr'
          cases hallowed.registrationStep hrecover hwf hr with
          | rest _ hnot => exact hnot hsweeps
          | swept _ hswept =>
              obtain rfl := Option.some.inj (hswept.symm.trans hr')
              cases hregistered
          | deregistered heq => exact hderegister _ _ heq
          | replaced heq => exact hregister _ _ heq
        · rw [hwf.buffer_fresh hnew] at hb
          cases hb
    | replaced => exact hregister _ _ rfl
    | dead => exact hderegister _ _ rfl
    | cleared => exact hderegister _ _ rfl
  · intro hnot k b' hb'
    have hbefore : ∀ k' r', (apply e w.state).registrations.lookup k' = some r' →
        r'.state = .registered → w.state.registrations.lookup k' = some r' := by
      intro k' r' hr' hstate
      obtain hold | ⟨p, backend, rfl, -⟩ := he.registered hrecover hr' hstate
      · exact hold
      · exact absurd rfl (hregister p backend)
    obtain ⟨b, hb, hsame⟩ | ⟨hnew, hunregistered⟩ :=
      he.keeps_cached hrecover hregister hderegister hb'
    · obtain ⟨hstate, hrest⟩ := Prod.mk.inj hsame
      obtain ⟨hid, hgeneration⟩ := Prod.mk.inj hrest
      constructor
      · intro hcached
        rw [hstate] at hcached
        obtain ⟨r, hr, hregistered, hbuffer, hr'⟩ := h.lookup hb hcached
        rw [hid, hgeneration]
        cases hallowed.registrationStep hrecover hwf hr with
        | rest hrest => exact ⟨r, hrest, hregistered, hbuffer, hr'⟩
        | swept hsweeps => exact absurd (.swept hb hcached hr hsweeps) hnot
        | deregistered heq => exact absurd heq (hderegister _ _)
        | replaced heq => exact absurd heq (hregister _ _)
      · intro hcached k' r' hr' hbuffer hregistered
        rw [hstate] at hcached
        exact (h k b hb).unregistered hcached k' r' (hbefore k' r' hr' hregistered) hbuffer
          hregistered
    · constructor
      · intro hcached
        rw [hunregistered] at hcached
        cases hcached
      · rintro - k' r' hr' rfl hregistered
        have hdrawn := (ownersAgree_of_reachable hw).drawn k' r' (hbefore k' r' hr' hregistered)
        exact absurd hnew (not_lt.mpr hdrawn)

/-- An event keeps the caches in agreement exactly when it does not mislead one. -/
theorem next_iff {setting : Setting} {w : World} {e : Event} (hallowed : e.Allowed setting w)
    (hrecover : ∀ file, e ≠ .recover file) (hw : persistedFabric.Reachable w)
    (h : CachesAgree w.state) :
  CachesAgree (apply e w.state) ↔ ¬Misleads w.state e
  := by
  by_cases hregister : ∃ p backend, e = .registerBuffer p backend
  · obtain ⟨p, backend, rfl⟩ := hregister
    exact h.register_iff (wellFormed_of_reachable hw)
  by_cases hderegister : ∃ id caller, e = .deregisterBuffer id caller
  · obtain ⟨id, caller, rfl⟩ := hderegister
    exact h.deregister_iff (wellFormed_of_reachable hw)
  refine h.sweep_iff hallowed hrecover ?_ ?_ hw
  · rintro p backend rfl
    exact hregister ⟨p, backend, rfl⟩
  · rintro id caller rfl
    exact hderegister ⟨id, caller, rfl⟩

end CachesAgree

/-- In every run the caches agree with the registrations in all its states exactly when no step
misleads one. -/
theorem caches_agree_iff {h : List (World × Event)} {w : World} (hrun : persistedFabric.Run h w) :
  (∀ v ∈ System.visited h w, CachesAgree v.state) ↔ ∀ p ∈ h, ¬Misleads p.1.state p.2
  := by
  refine hrun.invariant_iff (P := fun w => CachesAgree w.state)
    (C := fun w e => ¬Misleads w.state e) ?_ ?_ ?_
  · rintro w ⟨epoch, rfl⟩
    exact .empty
  · rintro w e w' hw hagree ⟨hallowed, rfl⟩
    refine hagree.next_iff hallowed ?_ hw
    rintro file rfl
    exact absurd hallowed.1 (by decide)
  · rintro d w e w' - - hagree ⟨hfits, -, rfl, rfl⟩
    apply iff_of_true
    · rw [World.next_state, apply]
      obtain hsame | hrec := recoverFromFile_persisted hfits w.state
      · rw [hsame]
        exact hagree
      · apply CachesAgree.of_unregistered
        · intro k b hb
          obtain ⟨b', -, -, rfl⟩ := hrec.buffers k b hb
          rfl
        · intro k r hr
          obtain ⟨r', -, -, rfl⟩ := hrec.registrations k r hr
          exact recoveredState_ne r'.state
    · intro hmisleads
      cases hmisleads with
      | swept _ _ _ hsweeps => exact hsweeps

namespace Fixture

/-- The world in which the owner has moved its registered buffer on. -/
def movedOn : World := registered.next (.advanceBufferGeneration 6 owner)

theorem reachable_movedOn :
  persistedFabric.Reachable movedOn
  := reachable_next (reachable_registered _) trivial

end Fixture

theorem caches_agree_iff_fixture :
  ∃ h, persistedFabric.Run h Fixture.movedOn ∧
    ((∀ v ∈ System.visited h Fixture.movedOn, CachesAgree v.state) ↔
      ∀ p ∈ h, ¬Misleads p.1.state p.2)
  := by
  obtain ⟨h, hrun⟩ := Fixture.reachable_movedOn
  exact ⟨h, hrun, caches_agree_iff hrun⟩

/-- The buffer says `REGISTERED`, and its registration is to be revalidated. -/
theorem cache_left_behind :
  persistedFabric.Reachable Fixture.movedOn ∧ ¬CachesAgree Fixture.movedOn.state
  := by
  refine ⟨Fixture.reachable_movedOn, fun hagree => ?_⟩
  have hcached : ∃ b, Fixture.movedOn.state.buffers.lookup 6 = some b ∧
      b.registrationState = .registered ∧
      (Fixture.movedOn.state.registrations.lookup b.registrationId).map Registration.state
        = some .revalidationRequired := by
    decide +kernel
  obtain ⟨b, hb, hsays, hstate⟩ := hcached
  obtain ⟨r, hr, hregistered, -⟩ := hagree.lookup hb hsays
  rw [hr, Option.map_some, hregistered] at hstate
  cases hstate

end GpuDirectFabric
