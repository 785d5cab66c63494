import GpuDirectFabric.StaleWorkers
import GpuDirectFabric.Frames

/-!
# Owned records

A buffer or an endpoint that a worker owns is changed only by that worker, while it is live.
Registration and deregistration write the buffer too.  Deregistration is authorized by the owner
of the registration, so the registrations of an owned buffer must have the owner of the buffer.
-/

namespace GpuDirectFabric

open Coordinator Persistence

/-! ### Which operations change a buffer or an endpoint -/

namespace Effect

variable {e : Event} {s s' : State}

/-- Ids are drawn in ascending order. -/
theorem nextId_le (he : Effect e s s') (hrecover : ∀ file, e ≠ .recover file) :
  s.nextId ≤ s'.nextId
  := by
  cases he with
  | createBuffer => exact Nat.le_succ _
  | addDevice => exact Nat.le_succ _
  | addEndpoint => exact Nat.le_succ _
  | @addNic _ rec => exact s.le_nextIdUnless (valid rec.id)
  | @addStorageEndpoint _ rec => exact s.le_nextIdUnless (valid rec.id)
  | addProvider => exact Nat.le_succ _
  | publishCapability => exact Nat.le_succ _
  | @registerBuffer _ _ _ _ _ _ rr haccepted hretired =>
      obtain ⟨_, rfl⟩ := hretired.frame
      exact s.le_nextIdUnless (valid rr.id)
  | planDirect => exact Nat.le_add_right _ 2
  | planFallback => exact Nat.le_add_right _ 3
  | beginTransfer => exact Nat.le_succ _
  | completeTransfer hattempt hn => exact hn
  | verifyTransfer => exact Nat.le_succ _
  | rehash hs => exact hs.nextId.ge
  | recover => exact absurd rfl (hrecover _)
  | _ => exact le_rfl

/-- A new buffer has an id still to be drawn before the event. -/
theorem buffer_new (he : Effect e s s') (hrecover : ∀ file, e ≠ .recover file) {k : BufferId}
    {b : BufferRecord} (hnone : s.buffers.lookup k = none)
    (hb : s'.buffers.lookup k = some b) :
  s.nextId < k
  := by
  have hmodify : ∀ {k' : BufferId} {v v' : BufferRecord}, s.buffers.lookup k' = some v →
      (s.buffers.insert k' v').lookup k = some b → s.nextId < k := by
    intro k' v v' hv hb
    obtain ⟨rfl, -⟩ | ⟨-, hold⟩ := Table.lookup_insert_some hb
    · rw [hnone] at hv
      cases hv
    · rw [hnone] at hold
      cases hold
  have hfresh : ∀ {n : ℕ} {v : BufferRecord}, s.nextId < n →
      (s.buffers.insert n v).lookup k = some b → s.nextId < k := by
    intro n v hn hb
    obtain ⟨rfl, -⟩ | ⟨-, hold⟩ := Table.lookup_insert_some hb
    · exact hn
    · rw [hnone] at hold
      cases hold
  have hsame : s.buffers.lookup k = some b → s.nextId < k := by
    intro hold
    rw [hnone] at hold
    cases hold
  cases he with
  | createBuffer => exact hfresh (Nat.lt_succ_self _) hb
  | advanceBufferGeneration hb' => exact hmodify hb' hb
  | retireBuffer hb' => exact hmodify hb' hb
  | registerBuffer haccepted hretired =>
      obtain ⟨_, rfl⟩ := hretired.frame
      exact hmodify haccepted.buffer hb
  | deregisterCached hreg hb' => exact hmodify hb' hb
  | planFallback => exact hfresh (Nat.lt_add_of_pos_right (by decide : 0 < 3)) hb
  | rehash hs => exact hsame ((hs.buffers.lookup k).symm.trans hb)
  | recover => exact absurd rfl (hrecover _)
  | _ => exact hsame hb

/-- A buffer changes only by an operation on it, by its registration, or by a deregistration. -/
theorem buffer_changed (he : Effect e s s') (hrecover : ∀ file, e ≠ .recover file)
    (h : WellFormed s) {k : BufferId} {b : BufferRecord} (hb : s.buffers.lookup k = some b)
    (hne : s'.buffers.lookup k ≠ some b) :
  (∃ caller, e = .advanceBufferGeneration k caller) ∨ (∃ caller, e = .retireBuffer k caller) ∨
    (∃ p backend, e = .registerBuffer p backend ∧ s.Authorizes p.authority b.authority) ∨
    ∃ id caller, e = .deregisterBuffer id caller
  := by
  have hkey : ∀ {n : BufferId} {v : BufferRecord}, (s.buffers.insert n v).lookup k ≠ some b →
      k = n := by
    intro n v hne
    by_contra hk
    exact hne ((AList.lookup_insert_ne hk).trans hb)
  have hfresh : ∀ {n : BufferId} {v : BufferRecord}, s.nextId < n →
      (s.buffers.insert n v).lookup k = some b := by
    intro n v hn
    refine (AList.lookup_insert_ne ?_).trans hb
    rintro rfl
    rw [h.buffer_fresh hn] at hb
    cases hb
  cases he with
  | createBuffer => exact absurd (hfresh (Nat.lt_succ_self _)) hne
  | advanceBufferGeneration =>
      obtain rfl := hkey hne
      exact .inl ⟨_, rfl⟩
  | retireBuffer =>
      obtain rfl := hkey hne
      exact .inr (.inl ⟨_, rfl⟩)
  | registerBuffer haccepted hretired =>
      obtain ⟨_, rfl⟩ := hretired.frame
      obtain rfl := hkey hne
      obtain rfl := Option.some.inj (haccepted.buffer.symm.trans hb)
      refine .inr (.inr (.inl ⟨_, _, rfl, fun howned => ?_⟩))
      have howner := haccepted.owner howned
      rw [howner] at howned ⊢
      exact ⟨rfl, haccepted.live howned⟩
  | deregisterCached => exact .inr (.inr (.inr ⟨_, _, rfl⟩))
  | planFallback =>
      exact absurd (hfresh (Nat.lt_add_of_pos_right (by decide : 0 < 3))) hne
  | rehash hs => exact absurd ((hs.buffers.lookup k).trans hb) hne
  | recover => exact absurd rfl (hrecover _)
  | _ => exact absurd hb hne

/-- An endpoint changes only by an operation on it. -/
theorem endpoint_changed (he : Effect e s s') (hrecover : ∀ file, e ≠ .recover file)
    (h : WellFormed s) {k : EndpointId} {d : EndpointRecord} (hd : s.endpoints.lookup k = some d)
    (hne : s'.endpoints.lookup k ≠ some d) :
  (∃ caller, e = .advanceEndpointGeneration k caller) ∨
    ∃ healthy caller, e = .setEndpointHealth k healthy caller
  := by
  have hkey : ∀ {n : EndpointId} {v : EndpointRecord},
      (s.endpoints.insert n v).lookup k ≠ some d → k = n := by
    intro n v hne
    by_contra hk
    exact hne ((AList.lookup_insert_ne hk).trans hd)
  cases he with
  | addEndpoint =>
      obtain rfl := hkey hne
      rw [h.endpoint_fresh (Nat.lt_succ_self _)] at hd
      cases hd
  | advanceEndpointGeneration =>
      obtain rfl := hkey hne
      exact .inl ⟨_, rfl⟩
  | setEndpointHealth =>
      obtain rfl := hkey hne
      exact .inr ⟨_, _, rfl⟩
  | registerBuffer haccepted hretired =>
      obtain ⟨_, rfl⟩ := hretired.frame
      exact absurd hd hne
  | rehash hs => exact absurd ((hs.endpoints.lookup k).trans hd) hne
  | recover => exact absurd rfl (hrecover _)
  | _ => exact absurd hd hne

end Effect

/-- Clearing the reference a buffer caches changes no other buffer. -/
theorem lookup_clearRegistration {id : RegistrationId} {buffer k : BufferId} {s : State}
    (hk : k ≠ buffer) :
  (clearRegistration id buffer s).buffers.lookup k = s.buffers.lookup k
  := by
  rw [clearRegistration]
  cases s.buffers.lookup buffer with
  | none => rfl
  | some b =>
      dsimp only
      split
      · exact AList.lookup_insert_ne hk
      · rfl

/-- A deregistration that changes a buffer is of a registration of the buffer, and its caller is
authorized by the owner of the registration. -/
theorem deregisterBuffer_changed {id : RegistrationId} {caller : Authority} {s : State}
    {k : BufferId}
    (hne : (deregisterBuffer id caller s).2.buffers.lookup k ≠ s.buffers.lookup k) :
  ∃ reg, s.registrations.lookup id = some reg ∧ reg.buffer = k ∧
    s.Authorizes caller reg.authority
  := by
  rw [deregisterBuffer] at hne
  cases hreg : s.registrations.lookup id with
  | none =>
      rw [hreg] at hne
      exact absurd rfl hne
  | some reg =>
  rw [hreg] at hne
  dsimp only at hne
  split at hne
  next => exact absurd rfl hne
  split at hne
  next => exact absurd rfl hne
  next hlive =>
  split at hne
  next => exact absurd rfl hne
  next hcaller =>
  split at hne
  next => exact absurd rfl hne
  refine ⟨reg, rfl, ?_, authorizes_of_checks hlive hcaller⟩
  by_contra hk
  exact hne (lookup_clearRegistration (Ne.symm hk))

/-! ### The registrations of owned buffers -/

/-- The registrations of a buffer that a worker owns have its owner, and are of a buffer drawn
before. -/
structure OwnersAgree (s : State) : Prop where
  agree : ∀ k r b, s.registrations.lookup k = some r → s.buffers.lookup r.buffer = some b →
    b.authority.workerOwned = true → r.authority = b.authority
  drawn : s.registrations.All fun _ r => r.buffer ≤ s.nextId

namespace OwnersAgree

variable {s s' : State}

/-- Every effect but a recovery keeps the owners in agreement. -/
theorem effect {e : Event} (h : OwnersAgree s) (hwf : WellFormed s) (he : Effect e s s')
    (hrecover : ∀ file, e ≠ .recover file) :
  OwnersAgree s'
  where
  agree := by
    intro k r b' hr hb' howned
    have hkept : ∀ b, s.buffers.lookup r.buffer = some b → b'.authority = b.authority := by
      intro b hb
      obtain ⟨u, hu, hfixed⟩ := he.keeps_buffer hwf hrecover hb
      obtain rfl := Option.some.inj (hb'.symm.trans hu)
      exact (Prod.mk.inj (Prod.mk.inj (Prod.mk.inj (Prod.mk.inj hfixed).2).2).2).2
    obtain ⟨r', hr', hlater⟩ | ⟨p, backend, rfl, hnew, -⟩ := he.registration hrecover hr
    · cases hb : s.buffers.lookup r.buffer with
      | none =>
          have hdrawn : r.buffer ≤ s.nextId := hlater.buffer.trans_le (h.drawn k r' hr')
          exact absurd (he.buffer_new hrecover hb hb') (not_lt.mpr hdrawn)
      | some b =>
          rw [hkept b hb] at howned ⊢
          rw [hlater.authority]
          rw [hlater.buffer] at hb
          exact h.agree k r' b hr' hb howned
    · obtain ⟨b, hb, -, hid, -, howner⟩ := hnew.buffer
      rw [← hwf.buffer_id hb, ← hid] at hb
      rw [hkept b hb] at howned ⊢
      rw [hnew.authority, howner howned]
  drawn := by
    intro k r hr
    apply le_trans _ (he.nextId_le hrecover)
    obtain ⟨r', hr', hlater⟩ | ⟨p, backend, rfl, hnew, -⟩ := he.registration hrecover hr
    · rw [hlater.buffer]
      exact h.drawn k r' hr'
    · obtain ⟨b, hb, -, hid, -⟩ := hnew.buffer
      rw [hid, hwf.buffer_id hb]
      exact (hwf.buffers _ b hb).2

/-- No worker owns a recovered buffer. -/
theorem recovered {d : State} (h : OwnersAgree d) (hs : RecoveredFrom d s) :
  OwnersAgree s
  where
  agree := by
    intro k r b hr hb howned
    obtain ⟨b', -, -, rfl⟩ := hs.buffers _ b hb
    cases howned
  drawn := by
    intro k r hr
    obtain ⟨r', hmem, -, rfl⟩ := hs.registrations k r hr
    obtain ⟨k', hk'⟩ := Table.mem_values.mp hmem
    rw [hs.nextId]
    exact h.drawn k' r' hk'

end OwnersAgree

/-- In every reachable state the registrations of an owned buffer have its owner. -/
theorem ownersAgree_of_reachable {w : World} (h : persistedFabric.Reachable w) :
  OwnersAgree w.state
  := by
  refine (persistedFabric_invariant (P := OwnersAgree) ?_ ?_ ?_ h).2
  · intro epoch
    exact ⟨by rintro k r b ⟨⟩, .empty⟩
  · intro e s hwf hs he hrecover
    exact hs.effect hwf he hrecover
  · intro d s hd hs
    exact hd.recovered hs

/-! ### Changes of owned records -/

/-- An authorized call that changes what a worker owns presents the authority of that worker, which
is live. -/
theorem presented_of_authorizes {e : Event} {s : State} {caller owner : Authority}
    (hcaller : e.authority = some caller) (h : s.Authorizes caller owner)
    (howned : owner.workerOwned = true) :
  e.authority = some owner ∧ s.workerLiveLocked owner = true
  := by
  obtain ⟨rfl, hlive⟩ := h howned
  exact ⟨hcaller, hlive⟩

/-- An operation on a record that changes something has the owner of the record authorize it. -/
theorem authorizes_of_changed {R : Type} {record : Option R} {owner : R → Authority} {s s' : State}
    {caller : Authority}
    (hiff : s' = s ↔ ∀ r, record = some r → ¬s.Authorizes caller (owner r)) (hne : s' ≠ s) :
  ∃ r, record = some r ∧ s.Authorizes caller (owner r)
  := by
  by_contra hnone
  apply hne
  apply hiff.mpr
  intro r hr hauthorizes
  exact hnone ⟨r, hr, hauthorizes⟩

/-- An owned buffer or endpoint that differs after an operation, other than a recovery, was changed
by a call that presented the authority of its owner, which was live. -/
theorem owned_records_change {setting : Setting} {w : World} (h : persistedFabric.Reachable w)
    {e : Event} (hallowed : e.Allowed setting w) (hrecover : ∀ file, e ≠ .recover file) :
  (∀ k b, w.state.buffers.lookup k = some b → b.authority.workerOwned = true →
    (w.next e).state.buffers.lookup k ≠ some b →
    e.authority = some b.authority ∧ w.state.workerLiveLocked b.authority = true) ∧
  (∀ k d, w.state.endpoints.lookup k = some d → d.authority.workerOwned = true →
    (w.next e).state.endpoints.lookup k ≠ some d →
    e.authority = some d.authority ∧ w.state.workerLiveLocked d.authority = true)
  := by
  have hwf := wellFormed_of_reachable h
  rw [World.next_state]
  constructor
  · intro k b hb howned hne
    have hchanged : apply e w.state ≠ w.state := by
      intro heq
      rw [heq] at hne
      exact hne hb
    obtain ⟨caller, rfl⟩ | ⟨caller, rfl⟩ | ⟨p, backend, rfl, hauthorizes⟩ | ⟨id, caller, rfl⟩ :=
      hallowed.effect.buffer_changed hrecover hwf hb hne
    · obtain ⟨b', hb', hauthorizes⟩ := authorizes_of_changed
        (advanceBufferGeneration_unchanged_iff k caller w.state) hchanged
      obtain rfl := Option.some.inj (hb.symm.trans hb')
      exact presented_of_authorizes rfl hauthorizes howned
    · obtain ⟨b', hb', hauthorizes⟩ := authorizes_of_changed
        (retireBuffer_unchanged_iff k caller w.state) hchanged
      obtain rfl := Option.some.inj (hb.symm.trans hb')
      exact presented_of_authorizes rfl hauthorizes howned
    · exact presented_of_authorizes rfl hauthorizes howned
    · rw [apply] at hne
      obtain ⟨reg, hreg, rfl, hauthorizes⟩ := deregisterBuffer_changed (hb ▸ hne)
      rw [(ownersAgree_of_reachable h).agree id reg b hreg hb howned] at hauthorizes
      exact presented_of_authorizes rfl hauthorizes howned
  · intro k d hd howned hne
    have hchanged : apply e w.state ≠ w.state := by
      intro heq
      rw [heq] at hne
      exact hne hd
    obtain ⟨caller, rfl⟩ | ⟨healthy, caller, rfl⟩ :=
      hallowed.effect.endpoint_changed hrecover hwf hd hne
    · obtain ⟨d', hd', hauthorizes⟩ := authorizes_of_changed
        (advanceEndpointGeneration_unchanged_iff k caller w.state) hchanged
      obtain rfl := Option.some.inj (hd.symm.trans hd')
      exact presented_of_authorizes rfl hauthorizes howned
    · obtain ⟨d', hd', hauthorizes⟩ := authorizes_of_changed
        (setEndpointHealth_unchanged_iff k healthy caller w.state) hchanged
      obtain rfl := Option.some.inj (hd.symm.trans hd')
      exact presented_of_authorizes rfl hauthorizes howned

/-- The owner changes the buffer of the fixture. -/
theorem owned_records_fixture :
  (Event.retireBuffer 6 Fixture.owner).authority
      = some (((Fixture.registered.state.buffers.lookup 6).getD {}).authority) ∧
    Fixture.registered.state.workerLiveLocked
      ((Fixture.registered.state.buffers.lookup 6).getD {}).authority = true
  := (@owned_records_change ⟨false, true⟩ _ (Fixture.reachable_registered _)
    (.retireBuffer 6 Fixture.owner) trivial (by rintro file ⟨⟩)).1 6 _ (by decide +kernel)
    (by decide +kernel) (by decide +kernel)

end GpuDirectFabric
