import GpuDirectFabric.RegistrationSteps

/-!
# Generations

Buffers and endpoints are numbered by the coordinator, whose numbers only go up.  The generations
of nics and storage endpoints come with their records from the caller, and a registration is stored
under the id its backend chooses, also when another registration is there.
-/

namespace GpuDirectFabric

open Coordinator

/-! ### Numbered tables -/

section

variable {V : Type} {gen : V → ℕ} {t t' t'' : Table V}

/-- The values of the table are still there, with generations that are not lower. -/
def NotLower (gen : V → ℕ) (t t' : Table V) : Prop :=
  t.All fun k v => ∃ v', t'.lookup k = some v' ∧ gen v ≤ gen v'

theorem NotLower.refl (gen : V → ℕ) (t : Table V) :
  NotLower gen t t
  := fun _ v hv => ⟨v, hv, le_rfl⟩

theorem NotLower.trans (h : NotLower gen t t') (h' : NotLower gen t' t'') :
  NotLower gen t t''
  := by
  intro k v hv
  obtain ⟨v', hv', hle⟩ := h k v hv
  obtain ⟨v'', hv'', hle'⟩ := h' k v' hv'
  exact ⟨v'', hv'', hle.trans hle'⟩

/-- An insertion lowers no generation exactly when it does not lower that of the value it
replaces. -/
theorem notLower_insert_iff {k : ℕ} {v : V} :
  NotLower gen t (t.insert k v) ↔ ∀ v₀, t.lookup k = some v₀ → gen v₀ ≤ gen v
  := by
  constructor
  · intro h v₀ hv₀
    obtain ⟨v', hv', hle⟩ := h k v₀ hv₀
    rw [AList.lookup_insert] at hv'
    obtain rfl := Option.some.inj hv'
    exact hle
  · intro h k' v' hv'
    by_cases hk : k' = k
    · subst hk
      exact ⟨v, AList.lookup_insert _, h v' hv'⟩
    · exact ⟨v', (AList.lookup_insert_ne hk).trans hv', le_rfl⟩

theorem notLower_insert {k : ℕ} {v v₀ : V} (hv₀ : t.lookup k = some v₀) (hle : gen v₀ ≤ gen v) :
  NotLower gen t (t.insert k v)
  := by
  apply notLower_insert_iff.mpr
  intro v₁ hv₁
  obtain rfl := Option.some.inj (hv₀.symm.trans hv₁)
  exact hle

theorem notLower_insert_fresh {k : ℕ} {v : V} (hnone : t.lookup k = none) :
  NotLower gen t (t.insert k v)
  := by
  apply notLower_insert_iff.mpr
  intro v₀ hv₀
  cases hnone.symm.trans hv₀

end

/-- The registrations of every pair are numbered as high in `t'` as in `t`. -/
def PairsNotLower (t t' : Table Registration) : Prop :=
  t.All fun _ r => ∃ k' r', t'.lookup k' = some r' ∧ r'.buffer = r.buffer ∧
    r'.endpoint = r.endpoint ∧ r.generation ≤ r'.generation

theorem PairsNotLower.refl (t : Table Registration) :
  PairsNotLower t t
  := fun k r hr => ⟨k, r, hr, rfl, rfl, le_rfl⟩

theorem PairsNotLower.trans {t t' t'' : Table Registration} (h : PairsNotLower t t')
    (h' : PairsNotLower t' t'') :
  PairsNotLower t t''
  := by
  intro k r hr
  obtain ⟨k', r', hr', hbuffer, hendpoint, hle⟩ := h k r hr
  obtain ⟨k'', r'', hr'', hbuffer', hendpoint', hle'⟩ := h' k' r' hr'
  exact ⟨k'', r'', hr'', hbuffer'.trans hbuffer, hendpoint'.trans hendpoint, hle.trans hle'⟩

/-- The generations of the buffers, endpoints, nics and storage endpoints, and the highest ones of
the registrations of each pair, are not lower in `s'` than in `s`. -/
structure GenerationsKept (s s' : State) : Prop where
  buffers : NotLower BufferRecord.generation s.buffers s'.buffers
  endpoints : NotLower EndpointRecord.generation s.endpoints s'.endpoints
  nics : NotLower NicRecord.generation s.nics s'.nics
  storage : NotLower StorageEndpointRecord.generation s.storage s'.storage
  registrations : PairsNotLower s.registrations s'.registrations

namespace GenerationsKept

variable {s s' s'' : State}

theorem refl (s : State) :
  GenerationsKept s s
  := ⟨.refl _ _, .refl _ _, .refl _ _, .refl _ _, .refl _⟩

theorem trans (h : GenerationsKept s s') (h' : GenerationsKept s' s'') :
  GenerationsKept s s''
  := ⟨h.buffers.trans h'.buffers, h.endpoints.trans h'.endpoints, h.nics.trans h'.nics,
    h.storage.trans h'.storage, h.registrations.trans h'.registrations⟩

end GenerationsKept

/-! ### Steps that renumber nothing -/

/-- The record is numbered like the registration, for the same pair. -/
def SameNumber (r r' : Registration) : Prop :=
  r'.buffer = r.buffer ∧ r'.endpoint = r.endpoint ∧ r'.generation = r.generation

theorem pairsNotLower_mapVals {t : Table Registration} {f : Registration → Registration}
    (hf : ∀ r, SameNumber r (f r)) :
  PairsNotLower t (t.mapVals f)
  := by
  intro k r hr
  obtain ⟨hbuffer, hendpoint, hgeneration⟩ := hf r
  refine ⟨k, f r, ?_, hbuffer, hendpoint, hgeneration.ge⟩
  rw [Table.lookup_mapVals, hr]
  rfl

theorem pairsNotLower_modify {t : Table Registration} {k : RegistrationId} {r r' : Registration}
    (hr : t.lookup k = some r) (hsame : SameNumber r r') :
  PairsNotLower t (t.insert k r')
  := by
  intro k₁ r₁ hr₁
  by_cases hk : k₁ = k
  · subst hk
    obtain rfl := Option.some.inj (hr.symm.trans hr₁)
    obtain ⟨hbuffer, hendpoint, hgeneration⟩ := hsame
    exact ⟨k₁, r', AList.lookup_insert _, hbuffer, hendpoint, hgeneration.ge⟩
  · exact ⟨k₁, r₁, (AList.lookup_insert_ne hk).trans hr₁, rfl, rfl, le_rfl⟩

theorem sameNumber_revalidateIf (p : Registration → Bool) (r : Registration) :
  SameNumber r (State.revalidateIf p r)
  := by
  rw [State.revalidateIf]
  split
  · exact ⟨rfl, rfl, rfl⟩
  · exact ⟨rfl, rfl, rfl⟩

/-- The event stores a record, or the records of a file, with numbers it was given. -/
def Event.Renumbers : Event → Bool
  | .addNic _ | .addStorageEndpoint _ | .registerBuffer _ _ | .recover _ => true
  | _ => false

theorem Effect.generationsKept {e : Event} {s s' : State} (hwf : WellFormed s)
    (he : Effect e s s') (hnot : e.Renumbers = false) :
  GenerationsKept s s'
  := by
  have hrefl := GenerationsKept.refl s
  cases he with
  | createBuffer =>
      exact { hrefl with
        buffers := notLower_insert_fresh (hwf.buffer_fresh (Nat.lt_succ_self _)) }
  | advanceBufferGeneration hb =>
      exact { hrefl with
        buffers := notLower_insert hb (Nat.le_succ _)
        registrations := pairsNotLower_mapVals (sameNumber_revalidateIf _) }
  | retireBuffer hb =>
      exact { hrefl with
        buffers := notLower_insert hb le_rfl
        registrations := pairsNotLower_mapVals (sameNumber_revalidateIf _) }
  | addEndpoint =>
      exact { hrefl with
        endpoints := notLower_insert_fresh (hwf.endpoint_fresh (Nat.lt_succ_self _)) }
  | advanceEndpointGeneration he =>
      exact { hrefl with
        endpoints := notLower_insert he (Nat.le_succ _)
        registrations := pairsNotLower_mapVals (sameNumber_revalidateIf _) }
  | setEndpointHealth he =>
      exact { hrefl with endpoints := notLower_insert he le_rfl }
  | markWorkerDead =>
      exact { hrefl with registrations := pairsNotLower_mapVals (sameNumber_revalidateIf _) }
  | advanceEpoch =>
      exact { hrefl with registrations := pairsNotLower_mapVals (sameNumber_revalidateIf _) }
  | addNic => cases hnot
  | addStorageEndpoint => cases hnot
  | retireDeregistering => cases hnot
  | registerBuffer => cases hnot
  | retire hreg =>
      exact { hrefl with registrations := pairsNotLower_modify hreg ⟨rfl, rfl, rfl⟩ }
  | deregisterBuffer hreg =>
      exact { hrefl with registrations := pairsNotLower_modify hreg ⟨rfl, rfl, rfl⟩ }
  | deregisterCached hreg hb =>
      exact { hrefl with
        buffers := notLower_insert hb le_rfl
        registrations := pairsNotLower_modify hreg ⟨rfl, rfl, rfl⟩ }
  | planFallback =>
      exact { hrefl with
        buffers := notLower_insert_fresh
          (hwf.buffer_fresh (Nat.lt_add_of_pos_right (by decide : 0 < 3))) }
  | rehash hs =>
      constructor
      · exact fun k v hv => ⟨v, (hs.buffers.lookup k).trans hv, le_rfl⟩
      · exact fun k v hv => ⟨v, (hs.endpoints.lookup k).trans hv, le_rfl⟩
      · exact fun k v hv => ⟨v, (hs.nics.lookup k).trans hv, le_rfl⟩
      · exact fun k v hv => ⟨v, (hs.storage.lookup k).trans hv, le_rfl⟩
      · exact fun k r hr => ⟨k, r, (hs.registrations.lookup k).trans hr, rfl, rfl, le_rfl⟩
  | recover => cases hnot
  | _ => exact { hrefl with }

/-! ### Steps with numbers from outside -/

/-- The number of the registration `r` under `k` is reached under another id. -/
def NumberedElsewhere (t : Table Registration) (k : RegistrationId) (r : Registration) : Prop :=
  ∃ k' r', k' ≠ k ∧ t.lookup k' = some r' ∧ r'.buffer = r.buffer ∧ r'.endpoint = r.endpoint ∧
    r.generation ≤ r'.generation

/-- A new registration that is the highest of its pair lowers no other pair exactly when the
registration it replaces, if any, is of the same pair or is reached elsewhere. -/
theorem pairsNotLower_insert_iff {t : Table Registration} {k : RegistrationId} {r' : Registration}
    (hhighest : ∀ k₁ r₁, t.lookup k₁ = some r₁ → r₁.buffer = r'.buffer →
      r₁.endpoint = r'.endpoint → r₁.generation ≤ r'.generation) :
  PairsNotLower t (t.insert k r') ↔ ∀ r, t.lookup k = some r →
    ¬(r.buffer = r'.buffer ∧ r.endpoint = r'.endpoint) → NumberedElsewhere t k r
  := by
  constructor
  · intro h r hr hother
    obtain ⟨k₁, r₁, hr₁, hbuffer, hendpoint, hle⟩ := h k r hr
    by_cases hk : k₁ = k
    · subst hk
      rw [AList.lookup_insert] at hr₁
      obtain rfl := Option.some.inj hr₁
      exact absurd ⟨hbuffer.symm, hendpoint.symm⟩ hother
    · rw [AList.lookup_insert_ne hk] at hr₁
      exact ⟨k₁, r₁, hk, hr₁, hbuffer, hendpoint, hle⟩
  · intro h k₁ r₁ hr₁
    by_cases hk : k₁ = k
    · subst hk
      by_cases hpair : r₁.buffer = r'.buffer ∧ r₁.endpoint = r'.endpoint
      · obtain ⟨hbuffer, hendpoint⟩ := hpair
        exact ⟨k₁, r', AList.lookup_insert _, hbuffer.symm, hendpoint.symm,
          hhighest k₁ r₁ hr₁ hbuffer hendpoint⟩
      · obtain ⟨k₂, r₂, hk₂, hr₂, hsame⟩ := h r₁ hr₁ hpair
        exact ⟨k₂, r₂, (AList.lookup_insert_ne hk₂).trans hr₂, hsame⟩
    · exact ⟨k₁, r₁, (AList.lookup_insert_ne hk).trans hr₁, rfl, rfl, le_rfl⟩

/-- The generation the coordinator gives a record that comes with this one. -/
def givenGeneration (generation : ℕ) : ℕ := if generation = 0 then 1 else generation

/-- The id the coordinator gives a record that comes with this one. -/
def givenId (id : ℕ) (s : State) : ℕ := if valid id then id else s.nextId + 1

/-- A record that comes with its number is not numbered below the one it replaces, and a
registration replaces one of its own pair, or one whose number is reached elsewhere. -/
def Event.KeepsGenerations (e : Event) (s : State) : Prop :=
  match e with
  | .addNic rec => ∀ n, s.nics.lookup (givenId rec.id s) = some n →
    n.generation ≤ givenGeneration rec.generation
  | .addStorageEndpoint rec => ∀ d, s.storage.lookup (givenId rec.id s) = some d →
    d.generation ≤ givenGeneration rec.generation
  | .registerBuffer p backend => ∀ k r, StoresUnder p backend k s →
    s.registrations.lookup k = some r → ¬(r.buffer = p.buffer ∧ r.endpoint = p.endpoint) →
    NumberedElsewhere s.registrations k r
  | _ => True

/-- The nic as `add_nic` stores it. -/
def numberedNic (rec : NicRecord) (s : State) : NicRecord :=
  { rec with
    id := givenId rec.id s
    generation := givenGeneration rec.generation
    freshness := s.freshness + 1 }

theorem addNic_state (rec : NicRecord) (s : State) :
  (addNic rec s).2 = { (s.nextIdUnless (valid rec.id)).nextFreshnessLocked with
    nics := s.nics.insert (givenId rec.id s) (numberedNic rec s) }
  := by
  rw [addNic, numberedNic, givenId, givenGeneration]
  cases hvalid : valid rec.id with
  | false =>
      by_cases hzero : rec.generation = 0
      · simp [hzero, State.nextIdUnless, State.nextFreshnessLocked]
      · simp [hzero, State.nextIdUnless, State.nextFreshnessLocked]
  | true =>
      by_cases hzero : rec.generation = 0
      · simp [hzero, State.nextIdUnless, State.nextFreshnessLocked]
      · simp [hzero, State.nextIdUnless, State.nextFreshnessLocked]

/-- The storage endpoint as `add_storage_endpoint` stores it. -/
def numberedStorageEndpoint (rec : StorageEndpointRecord) (s : State) : StorageEndpointRecord :=
  { rec with
    id := givenId rec.id s
    generation := givenGeneration rec.generation
    freshness := s.freshness + 1 }

theorem addStorageEndpoint_state (rec : StorageEndpointRecord) (s : State) :
  (addStorageEndpoint rec s).2 = { (s.nextIdUnless (valid rec.id)).nextFreshnessLocked with
    storage := s.storage.insert (givenId rec.id s) (numberedStorageEndpoint rec s) }
  := by
  rw [addStorageEndpoint, numberedStorageEndpoint, givenId, givenGeneration]
  cases hvalid : valid rec.id with
  | false =>
      by_cases hzero : rec.generation = 0
      · simp [hzero, State.nextIdUnless, State.nextFreshnessLocked]
      · simp [hzero, State.nextIdUnless, State.nextFreshnessLocked]
  | true =>
      by_cases hzero : rec.generation = 0
      · simp [hzero, State.nextIdUnless, State.nextFreshnessLocked]
      · simp [hzero, State.nextIdUnless, State.nextFreshnessLocked]

/-- The latest generation is below the one a new registration of the pair is given. -/
theorem generation_le_newRegistration {p : RegisterParams} {b : BufferRecord} {e : EndpointRecord}
    {rr : RegisterResult} {s : State} {id : RegistrationId} {freshness : ℕ} {k : RegistrationId}
    {r : Registration} (hr : s.registrations.lookup k = some r) (hbuffer : r.buffer = p.buffer)
    (hendpoint : r.endpoint = p.endpoint) :
  r.generation ≤ (newRegistration p b e (latestRegistration s p.buffer p.endpoint) rr id
    freshness).generation
  := by
  obtain ⟨latest, hlatest, hle⟩ := le_latestRegistration hr hbuffer hendpoint
  simp only [newRegistration, hlatest]
  exact hle.trans (Nat.le_succ _)

/-- The call of `register_buffer` has stored the registration `r` under the id `k`, as the highest
one of its pair. -/
structure StoredHighest (p : RegisterParams) (k : RegistrationId) (r : Registration)
    (s s' : State) : Prop where
  buffer : r.buffer = p.buffer
  endpoint : r.endpoint = p.endpoint
  highest : ∀ k₁ r₁, s.registrations.lookup k₁ = some r₁ → r₁.buffer = r.buffer →
    r₁.endpoint = r.endpoint → r₁.generation ≤ r.generation
  registrations : s'.registrations = s.registrations.insert k r
  endpoints : s'.endpoints = s.endpoints
  nics : s'.nics = s.nics
  storage : s'.storage = s.storage

theorem storedHighest_of_storesUnder {p : RegisterParams} {backend : Option Backend}
    {k : RegistrationId} {s : State} (hwf : WellFormed s) (h : StoresUnder p backend k s) :
  ∃ r, StoredHighest p k r s (registerBuffer p backend s).2
  := by
  obtain ⟨b, d, rr, hallowed, hroom, hidle, hanswer, rfl⟩ := h
  rw [hallowed.accepts hwf hroom hidle hanswer]
  have hbuffer : b.id = p.buffer := hwf.buffer_id hallowed.buffer
  have hendpoint : d.id = p.endpoint := hwf.endpoint_id hallowed.endpoint
  refine ⟨_, hbuffer, hendpoint, ?_, rfl, rfl, rfl, rfl⟩
  intro k₁ r₁ hr₁ hbuffer₁ hendpoint₁
  exact generation_le_newRegistration hr₁ (hbuffer₁.trans hbuffer) (hendpoint₁.trans hendpoint)

/-- A call of `register_buffer` that stores a registration lowers no generation exactly when that
does not take the place of the highest one of another pair. -/
theorem registerBuffer_generationsKept_iff {p : RegisterParams} {backend : Option Backend}
    {k : RegistrationId} {s : State} (hwf : WellFormed s) (hstores : StoresUnder p backend k s) :
  GenerationsKept s (registerBuffer p backend s).2 ↔ ∀ r, s.registrations.lookup k = some r →
    ¬(r.buffer = p.buffer ∧ r.endpoint = p.endpoint) → NumberedElsewhere s.registrations k r
  := by
  obtain ⟨r', hhighest⟩ := storedHighest_of_storesUnder hwf hstores
  obtain ⟨r, -, hstored⟩ := stored_of_storesUnder hwf hstores
  rw [← hhighest.buffer, ← hhighest.endpoint, ← pairsNotLower_insert_iff hhighest.highest,
    ← hhighest.registrations]
  constructor
  · exact GenerationsKept.registrations
  · intro hkept
    obtain ⟨b, freshness, hb, hbuffers⟩ := hstored.buffers
    constructor
    · rw [hbuffers]
      exact notLower_insert hb le_rfl
    · rw [hhighest.endpoints]
      exact .refl _ _
    · rw [hhighest.nics]
      exact .refl _ _
    · rw [hhighest.storage]
      exact .refl _ _
    · exact hkept

/-- The same call stores no registration under two ids. -/
theorem StoresUnder.unique {p : RegisterParams} {backend : Option Backend}
    {k k' : RegistrationId} {s : State} (h : StoresUnder p backend k s)
    (h' : StoresUnder p backend k' s) :
  k = k'
  := by
  obtain ⟨b, d, rr, hallowed, -, -, hanswer, rfl⟩ := h
  obtain ⟨b', d', rr', hallowed', -, -, hanswer', rfl⟩ := h'
  obtain rfl := Option.some.inj (hallowed.buffer.symm.trans hallowed'.buffer)
  obtain rfl := Option.some.inj (hallowed.endpoint.symm.trans hallowed'.endpoint)
  obtain rfl := Except.ok.inj (hanswer.symm.trans hanswer')
  rfl

/-- An event lowers no generation exactly when it keeps them. -/
theorem generationsKept_iff {setting : Setting} {w : World} {e : Event}
    (hallowed : e.Allowed setting w) (hrecover : ∀ file, e ≠ .recover file)
    (hwf : WellFormed w.state) :
  GenerationsKept w.state (apply e w.state) ↔ e.KeepsGenerations w.state
  := by
  have hrefl := GenerationsKept.refl w.state
  cases hrenumbers : e.Renumbers with
  | false =>
      apply iff_of_true (hallowed.effect.generationsKept hwf hrenumbers)
      cases e with
      | addNic | addStorageEndpoint | registerBuffer | recover => cases hrenumbers
      | _ => trivial
  | true =>
      cases e with
      | addNic rec =>
          have hinsert : NotLower NicRecord.generation w.state.nics _ ↔ _ :=
            notLower_insert_iff (k := givenId rec.id w.state) (v := numberedNic rec w.state)
          rw [apply, addNic_state]
          apply Iff.trans _ hinsert
          exact ⟨GenerationsKept.nics, fun hnics => { hrefl with nics := hnics }⟩
      | addStorageEndpoint rec =>
          have hinsert : NotLower StorageEndpointRecord.generation w.state.storage _ ↔ _ :=
            notLower_insert_iff (k := givenId rec.id w.state)
              (v := numberedStorageEndpoint rec w.state)
          rw [apply, addStorageEndpoint_state]
          apply Iff.trans _ hinsert
          exact ⟨GenerationsKept.storage, fun hstorage => { hrefl with storage := hstorage }⟩
      | registerBuffer p backend =>
          rw [apply, Event.KeepsGenerations]
          by_cases hstored : ∃ k, StoresUnder p backend k w.state
          · obtain ⟨k, hstores⟩ := hstored
            rw [registerBuffer_generationsKept_iff hwf hstores]
            constructor
            · intro hkept k' r hstores' hr hother
              obtain rfl := hstores.unique hstores'
              exact hkept r hr hother
            · intro hkept r hr hother
              exact hkept k r hstores hr hother
          · rw [(registerBuffer_stored p backend hwf).resolve_right hstored]
            exact iff_of_true hrefl fun k _ hstores _ _ => absurd ⟨k, hstores⟩ hstored
      | recover file => exact absurd rfl (hrecover file)
      | _ => cases hrenumbers

/-! ### Runs of a process -/

/-- Through the worlds `ws`, latest first, no generation decreases. -/
def NeverDecrease (ws : List World) : Prop := ws.Pairwise fun v u => GenerationsKept u.state v.state

/-- In every run of a process from a reachable world, the generations never decrease exactly when
no step takes a lower one from outside, and none stores a registration in the place of the highest
one of another pair. -/
theorem never_decrease_iff {h : List (World × Event)} {w : World}
    (hrun : (process persistedFabric.Reachable).Run h w) :
  NeverDecrease (System.visited h w) ↔ ∀ p ∈ h, p.2.KeepsGenerations p.1.state
  := by
  refine System.Run.pairwise_iff (R := fun u v : World => GenerationsKept u.state v.state)
    (C := fun u e => e.KeepsGenerations u.state) (fun _ _ _ => GenerationsKept.trans) ?_ ?_ hrun
  · rintro u e v hu ⟨hrecover, hallowed, rfl⟩
    exact generationsKept_iff hallowed hrecover
      (wellFormed_of_reachable (reachable_of_process (fun _ hw => hw) hu))
  · rintro d u e v _ ⟨⟩

namespace Fixture

/-- The world with a nic of generation 3. -/
def equipped : World := registered.next (.addNic { id := 20, generation := 3 })

/-- The run that adds the nic, and then again as of generation 1. -/
def downgraded : List (World × Event) :=
  [(equipped, .addNic { id := 20, generation := 1 }),
    (registered, .addNic { id := 20, generation := 3 })]

theorem run_downgraded :
  (process persistedFabric.Reachable).Run downgraded
    (equipped.next (.addNic { id := 20, generation := 1 }))
  := run_call (run_call (.start (reachable_registered _)) rfl) rfl

end Fixture

theorem never_decrease_fixture :
  NeverDecrease (System.visited Fixture.downgraded
    (Fixture.equipped.next (.addNic { id := 20, generation := 1 }))) ↔
  ∀ p ∈ Fixture.downgraded, p.2.KeepsGenerations p.1.state
  := never_decrease_iff Fixture.run_downgraded

/-- A nic that is added again with a lower generation keeps that. -/
theorem nic_generation_lowered :
  (process persistedFabric.Reachable).Run Fixture.downgraded
    (Fixture.equipped.next (.addNic { id := 20, generation := 1 })) ∧
  ¬NeverDecrease (System.visited Fixture.downgraded
    (Fixture.equipped.next (.addNic { id := 20, generation := 1 })))
  := by
  refine ⟨Fixture.run_downgraded, fun hnever => ?_⟩
  have hkept := (List.pairwise_cons.mp hnever).1 Fixture.equipped List.mem_cons_self
  have hnics : (∃ n, Fixture.equipped.state.nics.lookup 20 = some n ∧ n.generation = 3) ∧
      ((Fixture.equipped.next (.addNic { id := 20, generation := 1 })).state.nics.lookup 20).map
        NicRecord.generation = some 1 := by
    decide +kernel
  obtain ⟨⟨n, hn, hthree⟩, hone⟩ := hnics
  obtain ⟨n', hn', hle⟩ := hkept.nics 20 n hn
  rw [hn', Option.map_some] at hone
  rw [hthree, Option.some.inj hone] at hle
  exact absurd hle (by decide)

end GpuDirectFabric
