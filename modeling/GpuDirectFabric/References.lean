import GpuDirectFabric.Finality
import GpuDirectFabric.Generations
import GpuDirectFabric.RoundTrip

/-!
# References

The records of the coordinator refer to each other by their ids, and to buffers and endpoints also
by the generation they had.  No operation removes a record that another one refers to, and none
makes a generation lower, so every reference resolves in every reachable state.  A restart loads the
sections of a file one after another, those that are referred to before those that refer to them;
so references resolve even after a recovery that fails part-way.
-/

namespace GpuDirectFabric

open Codec Coordinator Persistence

/-! ### Citations -/

section

variable {V : Type} {gen : V → ℕ} {t t' : Table V} {k g : ℕ}

/-- The table has an entry under the key. -/
def Has (t : Table V) (k : ℕ) : Prop := ∃ v, t.lookup k = some v

/-- The entry under the key is or has been at the generation, which is not zero. -/
def Cited (gen : V → ℕ) (t : Table V) (k g : ℕ) : Prop :=
  1 ≤ g ∧ ∃ v, t.lookup k = some v ∧ g ≤ gen v

theorem Cited.has (h : Cited gen t k g) :
  Has t k
  := by
  obtain ⟨-, v, hv, -⟩ := h
  use v

theorem Has.keep (h : Has t k) (ht : NotLower gen t t') :
  Has t' k
  := by
  obtain ⟨v, hv⟩ := h
  obtain ⟨v', hv', -⟩ := ht k v hv
  use v', hv'

theorem Cited.keep (h : Cited gen t k g) (ht : NotLower gen t t') :
  Cited gen t' k g
  := by
  obtain ⟨hpos, v, hv, hle⟩ := h
  obtain ⟨v', hv', hle'⟩ := ht k v hv
  use hpos, v', hv', hle.trans hle'

theorem notLower_mapVals {f : V → V} (hf : ∀ v, gen v ≤ gen (f v)) :
  NotLower gen t (t.mapVals f)
  := by
  intro k v hv
  use f v
  rw [Table.lookup_mapVals, hv]
  use rfl, hf v

theorem notLower_rearranged (h : t.Rearranged t') :
  NotLower gen t t'
  := by
  intro k v hv
  use v, (h.lookup k).trans hv

end

/-- The stage moves data between buffers and endpoints there are. -/
structure TransferStage.Resolves (st : TransferStage) (s : State) : Prop where
  src : Has s.buffers st.src
  dst : st.dst = 0 ∨ Has s.buffers st.dst
  endpoint : st.endpoint = 0 ∨ Has s.endpoints st.endpoint

/-- The plan is for a buffer and an endpoint there are, at generations they have had. -/
structure TransferPlan.Resolves (p : TransferPlan) (s : State) : Prop where
  source : Cited BufferRecord.generation s.buffers p.source p.sourceGeneration
  destination : Cited EndpointRecord.generation s.endpoints p.destination p.destinationGeneration
  registration : p.registrationId = 0 ∨ Has s.registrations p.registrationId
  stages : ∀ st ∈ p.stages, st.Resolves s

/-- The registration is of a buffer for an endpoint there are, at generations they have had. -/
structure Registration.Resolves (r : Registration) (s : State) : Prop where
  generation : 1 ≤ r.generation
  buffer : Cited BufferRecord.generation s.buffers r.buffer r.bufferGeneration
  endpoint : Cited EndpointRecord.generation s.endpoints r.endpoint r.endpointGeneration

/-- Every generation counts from one, and every reference of a record resolves. -/
structure ReferencesResolve (s : State) : Prop where
  buffers : s.buffers.All fun _ b =>
    1 ≤ b.generation ∧ (b.registrationId = 0 ∨ Has s.registrations b.registrationId)
  endpoints : s.endpoints.All fun _ e => 1 ≤ e.generation
  registrations : s.registrations.All fun _ r => r.Resolves s
  plans : s.plans.All fun _ p => p.Resolves s
  attempts : s.attempts.All fun _ a => Has s.plans a.planId
  receipts : s.receipts.All fun k r => r.attemptId = k ∧ Has s.attempts k
  verifications : s.verifications.All fun k v => v.id = k ∧ Has s.attempts v.attemptId

/-! ### What is referred to stays -/

/-- What records refer to stays, with generations that are not lower. -/
structure Retained (s s' : State) : Prop where
  buffers : NotLower BufferRecord.generation s.buffers s'.buffers
  endpoints : NotLower EndpointRecord.generation s.endpoints s'.endpoints
  registrations : NotLower (fun _ => 0) s.registrations s'.registrations
  plans : NotLower (fun _ => 0) s.plans s'.plans
  attempts : NotLower (fun _ => 0) s.attempts s'.attempts

namespace Retained

variable {s s' : State}

theorem refl (s : State) :
  Retained s s
  := ⟨.refl _ _, .refl _ _, .refl _ _, .refl _ _, .refl _ _⟩

theorem rearranged (hs : s.Rearranged s') :
  Retained s s'
  where
  buffers := notLower_rearranged hs.buffers
  endpoints := notLower_rearranged hs.endpoints
  registrations := notLower_rearranged hs.registrations
  plans := notLower_rearranged hs.plans
  attempts := notLower_rearranged hs.attempts

theorem stage {st : TransferStage} (h : st.Resolves s) (hs : Retained s s') :
  st.Resolves s'
  where
  src := h.src.keep hs.buffers
  dst := h.dst.imp_right fun hdst => hdst.keep hs.buffers
  endpoint := h.endpoint.imp_right fun hendpoint => hendpoint.keep hs.endpoints

theorem plan {p : TransferPlan} (h : p.Resolves s) (hs : Retained s s') :
  p.Resolves s'
  where
  source := h.source.keep hs.buffers
  destination := h.destination.keep hs.endpoints
  registration := h.registration.imp_right fun hreg => hreg.keep hs.registrations
  stages st hst := hs.stage (h.stages st hst)

theorem registration {r : Registration} (h : r.Resolves s) (hs : Retained s s') :
  r.Resolves s'
  where
  generation := h.generation
  buffer := h.buffer.keep hs.buffers
  endpoint := h.endpoint.keep hs.endpoints

end Retained

/-- No event but a recovery removes what records refer to. -/
theorem Effect.retained {e : Event} {s s' : State} (h : WellFormed s) (he : Effect e s s')
    (hrecover : ∀ file, e ≠ .recover file) :
  Retained s s'
  := by
  have hrefl := Retained.refl s
  cases he with
  | markWorkerDead =>
      exact { hrefl with registrations := notLower_mapVals fun _ => le_rfl }
  | advanceEpoch =>
      exact { hrefl with
        registrations := notLower_mapVals fun _ => le_rfl
        plans := notLower_mapVals fun _ => le_rfl }
  | createBuffer =>
      exact { hrefl with
        buffers := notLower_insert_fresh (h.buffer_fresh (Nat.lt_succ_self _)) }
  | advanceBufferGeneration hb =>
      exact { hrefl with
        buffers := notLower_insert hb (Nat.le_succ _)
        registrations := notLower_mapVals fun _ => le_rfl
        plans := notLower_mapVals fun _ => le_rfl }
  | retireBuffer hb =>
      exact { hrefl with
        buffers := notLower_insert hb le_rfl
        registrations := notLower_mapVals fun _ => le_rfl
        plans := notLower_mapVals fun _ => le_rfl }
  | addEndpoint =>
      exact { hrefl with
        endpoints := notLower_insert_fresh (h.endpoint_fresh (Nat.lt_succ_self _)) }
  | advanceEndpointGeneration he =>
      exact { hrefl with
        endpoints := notLower_insert he (Nat.le_succ _)
        registrations := notLower_mapVals fun _ => le_rfl
        plans := notLower_mapVals fun _ => le_rfl }
  | setEndpointHealth he => exact { hrefl with endpoints := notLower_insert he le_rfl }
  | retireDeregistering =>
      exact { hrefl with registrations := notLower_mapVals fun _ => le_rfl }
  | registerBuffer haccepted hretired =>
      obtain rfl := retires_eq h hretired
      exact { hrefl with
        buffers := notLower_insert haccepted.buffer le_rfl
        registrations := notLower_insert_iff.mpr fun _ _ => le_rfl }
  | retire hreg | deregisterBuffer hreg =>
      exact { hrefl with registrations := notLower_insert hreg le_rfl }
  | deregisterCached hreg hb =>
      exact { hrefl with
        buffers := notLower_insert hb le_rfl
        registrations := notLower_insert hreg le_rfl }
  | planDirect => exact { hrefl with plans := notLower_insert_iff.mpr fun _ _ => le_rfl }
  | planFallback =>
      exact { hrefl with
        buffers := notLower_insert_fresh
          (h.buffer_fresh (Nat.lt_add_of_pos_right (by decide : 0 < 3)))
        plans := notLower_insert_iff.mpr fun _ _ => le_rfl }
  | beginTransfer => exact { hrefl with attempts := notLower_insert_iff.mpr fun _ _ => le_rfl }
  | completeTransfer | cancelTransfer =>
      exact { hrefl with attempts := notLower_insert_iff.mpr fun _ _ => le_rfl }
  | rehash hs => exact .rearranged hs
  | recover => exact absurd rfl (hrecover _)
  | _ => exact { hrefl with }

/-! ### Records after an event -/

theorem TransferPlan.Resolves.supersedeIf {q : TransferPlan → Bool} {p : TransferPlan} {s : State}
    (h : p.Resolves s) :
  (State.supersedeIf q p).Resolves s
  := by
  rw [State.supersedeIf]
  split
  · exact { h with }
  · exact h

/-- A plan of stages that move data between what there is. -/
theorem TransferPlan.Resolves.staged {p : TransferPlan} {s : State} {stages : List TransferStage}
    {copies : ℕ} (h : p.Resolves s) (hstages : ∀ st ∈ stages, st.Resolves s) :
  ({ p with stages := stages, copyCount := copies } : TransferPlan).Resolves s
  := { h with stages := hstages }

theorem resolves_directStage {d : PathDecision} {src : BufferId} {dst : EndpointId} {s : State}
    (hsrc : Has s.buffers src) (hdst : Has s.endpoints dst) :
  (directStage d src dst).Resolves s
  where
  src := hsrc
  dst := .inl rfl
  endpoint := .inr hdst

theorem resolves_fallbackStages {d : PathDecision} {src tmp : BufferId} {dst : EndpointId}
    {s : State} (hsrc : Has s.buffers src) (htmp : Has s.buffers tmp)
    (hdst : Has s.endpoints dst) :
  ∀ st ∈ fallbackStages d src tmp dst, st.Resolves s
  := by
  intro st hst
  obtain rfl | hst := List.mem_cons.mp hst
  · apply TransferStage.Resolves.mk hsrc (.inr htmp) (.inl rfl)
  · obtain rfl := List.mem_singleton.mp hst
    apply TransferStage.Resolves.mk htmp (.inl rfl) (.inr hdst)

theorem Registration.Resolves.revalidateIf {p : Registration → Bool} {r : Registration}
    {s : State} (h : r.Resolves s) :
  (State.revalidateIf p r).Resolves s
  := by
  rw [State.revalidateIf]
  split
  · exact { h with }
  · exact h

namespace ReferencesResolve

variable {e : Event} {s s' : State}

theorem cited_buffer {k : BufferId} {b : BufferRecord} (h : ReferencesResolve s)
    (hwf : WellFormed s) (hb : s.buffers.lookup k = some b) :
  Cited BufferRecord.generation s.buffers b.id b.generation
  := by
  obtain rfl := hwf.buffer_id hb
  use (h.buffers _ b hb).1, b, hb

theorem cited_endpoint {k : EndpointId} {d : EndpointRecord} (h : ReferencesResolve s)
    (hwf : WellFormed s) (hd : s.endpoints.lookup k = some d) :
  Cited EndpointRecord.generation s.endpoints d.id d.generation
  := by
  obtain rfl := hwf.endpoint_id hd
  use h.endpoints _ d hd, d, hd

/-- The plan of a request is for the buffer and the endpoint of the request, and bound to a
registration there is. -/
theorem planRecord {p : PlanRequestParams} {src : BufferRecord} {dst : EndpointRecord}
    (h : ReferencesResolve s) (hwf : WellFormed s) (hsrc : s.buffers.lookup p.source = some src)
    (hdst : s.endpoints.lookup p.destination = some dst) (d : PathDecision) (id : TransferPlanId)
    (pathGeneration : PathGeneration) (epoch : CoordinatorEpoch) :
  (planRecord p d src dst (registeredRegistration s src.id dst.id) id pathGeneration
    epoch).Resolves s
  where
  source := h.cited_buffer hwf hsrc
  destination := h.cited_endpoint hwf hdst
  registration := by
    cases hreg : registeredRegistration s src.id dst.id with
    | none =>
        left
        rfl
    | some reg =>
        right
        use reg
        apply (registeredRegistration_spec hwf hreg).1
  stages := by
    rintro st ⟨⟩

/-- The registrations after an event. -/
theorem effect_registrations (h : ReferencesResolve s) (hwf : WellFormed s) (he : Effect e s s')
    (hrecover : ∀ file, e ≠ .recover file) :
  s'.registrations.All fun _ r => r.Resolves s'
  := by
  have hretained := he.retained hwf hrecover
  have hold : s.registrations.All fun _ r => r.Resolves s' :=
    h.registrations.mono fun _ _ hr => hretained.registration hr
  cases he with
  | markWorkerDead | advanceEpoch | advanceBufferGeneration | retireBuffer
  | advanceEndpointGeneration => exact hold.mapVals fun _ _ hr => hr.revalidateIf
  | retireDeregistering =>
      refine hold.mapVals fun k r hr => ?_
      split
      · exact { hr with }
      · exact hr
  | registerBuffer haccepted hretired =>
      obtain rfl := retires_eq hwf hretired
      apply hold.insert
      constructor
      · dsimp only [newRegistration]
        split
        · apply Nat.le_add_left
        · apply le_rfl
      · apply (h.cited_buffer hwf haccepted.buffer).keep hretained.buffers
      · apply (h.cited_endpoint hwf haccepted.endpoint).keep hretained.endpoints
  | retire hreg | deregisterBuffer hreg | deregisterCached hreg =>
      exact hold.modify hreg fun hr => { hr with }
  | rehash hs => exact hs.registrations.all hold
  | recover => exact absurd rfl (hrecover _)
  | _ => exact hold

/-- The plans after an event. -/
theorem effect_plans (h : ReferencesResolve s) (hwf : WellFormed s) (he : Effect e s s')
    (hrecover : ∀ file, e ≠ .recover file) :
  s'.plans.All fun _ p => p.Resolves s'
  := by
  have hretained := he.retained hwf hrecover
  have hold : s.plans.All fun _ p => p.Resolves s' :=
    h.plans.mono fun _ _ hp => hretained.plan hp
  cases he with
  | advanceEpoch | advanceBufferGeneration | retireBuffer | advanceEndpointGeneration =>
      exact hold.mapVals fun _ _ hp => hp.supersedeIf
  | registerBuffer haccepted hretired =>
      obtain rfl := retires_eq hwf hretired
      exact hold
  | @planDirect _ p d src dst reg _ hsrc _ hdst _ hreg =>
      have hplan := hretained.plan
        (h.planRecord hwf hsrc hdst d (s.nextId + 1) (s.nextId + 2) s.epoch)
      rw [hreg] at hplan
      apply hold.insert
      apply hplan.staged
      intro st hst
      obtain rfl := List.mem_singleton.mp hst
      apply resolves_directStage hplan.source.has hplan.destination.has
  | @planFallback _ p d src dst _ _ hsrc _ hdst =>
      have hplan := hretained.plan
        (h.planRecord hwf hsrc hdst d (s.nextId + 1) (s.nextId + 2) s.epoch)
      apply hold.insert
      apply hplan.staged
      apply resolves_fallbackStages hplan.source.has _ hplan.destination.has
      exact ⟨_, AList.lookup_insert s.buffers⟩
  | rehash hs => exact hs.plans.all hold
  | recover => exact absurd rfl (hrecover _)
  | _ => exact hold

/-- The buffers after an event. -/
theorem effect_buffers (h : ReferencesResolve s) (hwf : WellFormed s) (he : Effect e s s')
    (hrecover : ∀ file, e ≠ .recover file) :
  s'.buffers.All fun _ b =>
    1 ≤ b.generation ∧ (b.registrationId = 0 ∨ Has s'.registrations b.registrationId)
  := by
  have hretained := he.retained hwf hrecover
  have hold : s.buffers.All fun _ b =>
      1 ≤ b.generation ∧ (b.registrationId = 0 ∨ Has s'.registrations b.registrationId) := by
    intro k b hb
    obtain ⟨hpos, hreg⟩ := h.buffers k b hb
    use hpos, hreg.imp_right fun hreg => hreg.keep hretained.registrations
  cases he with
  | createBuffer | planFallback => exact hold.insert ⟨le_rfl, .inl rfl⟩
  | advanceBufferGeneration hb =>
      exact hold.modify hb fun hb => ⟨hb.1.trans (Nat.le_succ _), hb.2⟩
  | retireBuffer hb => exact hold.modify hb fun hb => hb
  | registerBuffer haccepted hretired =>
      obtain rfl := retires_eq hwf hretired
      exact hold.modify haccepted.buffer fun hb => ⟨hb.1, .inr ⟨_, AList.lookup_insert _⟩⟩
  | deregisterCached hreg hb => exact hold.modify hb fun hb => ⟨hb.1, .inl rfl⟩
  | rehash hs => exact hs.buffers.all hold
  | recover => exact absurd rfl (hrecover _)
  | _ => exact hold

/-- The endpoints after an event. -/
theorem effect_endpoints (h : ReferencesResolve s) (hwf : WellFormed s) (he : Effect e s s')
    (hrecover : ∀ file, e ≠ .recover file) :
  s'.endpoints.All fun _ d => 1 ≤ d.generation
  := by
  have hold := h.endpoints
  cases he with
  | addEndpoint => exact hold.insert le_rfl
  | advanceEndpointGeneration hd => exact hold.modify hd fun hd => hd.trans (Nat.le_succ _)
  | setEndpointHealth hd => exact hold.modify hd fun hd => hd
  | registerBuffer haccepted hretired =>
      obtain rfl := retires_eq hwf hretired
      exact hold
  | rehash hs => exact hs.endpoints.all hold
  | recover => exact absurd rfl (hrecover _)
  | _ => exact hold

/-- The attempts after an event. -/
theorem effect_attempts (h : ReferencesResolve s) (hwf : WellFormed s) (he : Effect e s s')
    (hrecover : ∀ file, e ≠ .recover file) :
  s'.attempts.All fun _ a => Has s'.plans a.planId
  := by
  have hplans := (he.retained hwf hrecover).plans
  intro k a ha
  obtain ⟨a', ha', hplan, -⟩ | ⟨planId, authority, backend, rfl, hbegun⟩ :=
    he.attempt hrecover ha
  · rw [hplan]
    apply (h.attempts k a' ha').keep hplans
  · obtain ⟨plan, hready, hplan⟩ := hbegun.plan
    rw [hplan, hwf.plan_id hready.stored]
    apply Has.keep _ hplans
    use plan, hready.stored

end ReferencesResolve

/-! ### Receipts -/

/-- The receipt is about the attempt. -/
structure TransferReceipt.About (r : TransferReceipt) (a : TransferAttempt) : Prop where
  attemptId : r.attemptId = a.id
  bytes : r.bytes = a.bytes
  support : r.support = a.support
  provenance : r.provenance = a.provenance

/-- The verification is of the attempt. -/
structure VerificationReceipt.About (v : VerificationReceipt) (a : TransferAttempt) : Prop where
  attemptId : v.attemptId = a.id
  support : v.support = a.support

/-- A receipt that `complete_transfer` stores is under the id of the attempt it is about. -/
theorem completeTransfer_receipts {id k : TransferAttemptId} {authority : Authority} {s : State}
    {r : TransferReceipt} (hr : (completeTransfer id authority s).2.receipts.lookup k = some r) :
  s.receipts.lookup k = some r ∨
    k = id ∧ ∃ a, s.attempts.lookup id = some a ∧ r.About a
  := by
  rw [completeTransfer] at hr
  cases ha : s.attempts.lookup id with
  | none =>
      rw [ha] at hr
      exact .inl hr
  | some a =>
  rw [ha] at hr
  have hstored : ∀ r' : TransferReceipt, r'.About a →
      (s.receipts.insert id r').lookup k = some r →
      s.receipts.lookup k = some r ∨ k = id ∧ ∃ a', some a = some a' ∧ r.About a' := by
    intro r' habout hr
    obtain ⟨rfl, rfl⟩ | ⟨-, hold⟩ := Table.lookup_insert_some hr
    · right
      use rfl, a
    · left
      apply hold
  dsimp only at hr
  split at hr
  next => exact .inl hr
  split at hr
  next => exact .inl hr
  split at hr
  next =>
    split at hr
    next => exact .inl hr
    next => exact hstored _ ⟨rfl, rfl, rfl, rfl⟩ hr
  split at hr
  next => exact .inl hr
  split at hr
  next => exact .inl hr
  rw [finishAttempt] at hr
  split at hr
  next => exact hstored _ ⟨rfl, rfl, rfl, rfl⟩ hr
  next =>
    dsimp only at hr
    split at hr
    · exact hstored _ ⟨rfl, rfl, rfl, rfl⟩ hr
    · exact hstored _ ⟨rfl, rfl, rfl, rfl⟩ hr

/-- A verification that `complete_transfer` stores is of its attempt, under an id of its own. -/
theorem completeTransfer_verifications {id : TransferAttemptId} {k : VerificationId}
    {authority : Authority} {s : State} {v : VerificationReceipt}
    (hv : (completeTransfer id authority s).2.verifications.lookup k = some v) :
  s.verifications.lookup k = some v ∨
    v.id = k ∧ ∃ a, s.attempts.lookup id = some a ∧ v.About a
  := by
  rw [completeTransfer] at hv
  cases ha : s.attempts.lookup id with
  | none =>
      rw [ha] at hv
      exact .inl hv
  | some a =>
  rw [ha] at hv
  have hstored : ∀ passed, (s.verifications.insert (s.nextId + 1)
        (verificationOf a (s.nextId + 1) passed)).lookup k = some v →
      s.verifications.lookup k = some v ∨ v.id = k ∧ ∃ a', some a = some a' ∧ v.About a' := by
    intro passed hv
    obtain ⟨rfl, rfl⟩ | ⟨-, hold⟩ := Table.lookup_insert_some hv
    · right
      exact ⟨rfl, a, rfl, rfl, rfl⟩
    · left
      apply hold
  dsimp only at hv
  split at hv
  next => exact .inl hv
  split at hv
  next => exact .inl hv
  split at hv
  next =>
    split at hv
    next => exact .inl hv
    next => exact .inl hv
  split at hv
  next => exact .inl hv
  split at hv
  next => exact .inl hv
  rw [finishAttempt] at hv
  split at hv
  next => exact hstored _ hv
  next =>
    dsimp only at hv
    split at hv
    · exact hstored _ hv
    · exact .inl hv

theorem cancelTransfer_receipts {id k : TransferAttemptId} {authority : Authority} {s : State}
    {r : TransferReceipt} (hr : (cancelTransfer id authority s).2.receipts.lookup k = some r) :
  s.receipts.lookup k = some r ∨
    k = id ∧ ∃ a, s.attempts.lookup id = some a ∧ r.About a
  := by
  rw [cancelTransfer] at hr
  cases ha : s.attempts.lookup id with
  | none =>
      rw [ha] at hr
      exact .inl hr
  | some a =>
  rw [ha] at hr
  dsimp only at hr
  split at hr
  next => exact .inl hr
  split at hr
  next => exact .inl hr
  obtain ⟨rfl, rfl⟩ | ⟨-, hold⟩ := Table.lookup_insert_some hr
  · right
    exact ⟨rfl, a, rfl, rfl, rfl, rfl, rfl⟩
  · left
    apply hold

/-- Only the end of an attempt brings receipts. -/
theorem Effect.keeps_receipts {e : Event} {s s' : State} (he : Effect e s s')
    (hrecover : ∀ file, e ≠ .recover file) (hcomplete : ∀ id a, e ≠ .completeTransfer id a)
    (hcancel : ∀ id a, e ≠ .cancelTransfer id a) (k : TransferAttemptId) :
  s'.receipts.lookup k = s.receipts.lookup k
  := by
  cases he with
  | registerBuffer haccepted hretired =>
      obtain ⟨_, rfl⟩ := hretired.frame
      rfl
  | failTransfer | completeTransfer => exact absurd rfl (hcomplete _ _)
  | cancelTransfer => exact absurd rfl (hcancel _ _)
  | rehash hs => exact hs.receipts.lookup k
  | recover => exact absurd rfl (hrecover _)
  | _ => rfl

/-- Only a completion or a verification brings verifications. -/
theorem Effect.keeps_verifications {e : Event} {s s' : State} (he : Effect e s s')
    (hrecover : ∀ file, e ≠ .recover file) (hcomplete : ∀ id a, e ≠ .completeTransfer id a)
    (hverify : ∀ id b n, e ≠ .verifyTransfer id b n) (k : VerificationId) :
  s'.verifications.lookup k = s.verifications.lookup k
  := by
  cases he with
  | registerBuffer haccepted hretired =>
      obtain ⟨_, rfl⟩ := hretired.frame
      rfl
  | failTransfer | completeTransfer => exact absurd rfl (hcomplete _ _)
  | verifyTransfer => exact absurd rfl (hverify _ _ _)
  | rehash hs => exact hs.verifications.lookup k
  | recover => exact absurd rfl (hrecover _)
  | _ => rfl

/-- A new receipt is about the attempt under its key. -/
theorem apply_receipts {e : Event} {s : State} (he : Effect e s (apply e s))
    (hrecover : ∀ file, e ≠ .recover file) {k : TransferAttemptId} {r : TransferReceipt}
    (hr : (apply e s).receipts.lookup k = some r) :
  s.receipts.lookup k = some r ∨ ∃ a, s.attempts.lookup k = some a ∧ r.About a
  := by
  have hown : ∀ {id : TransferAttemptId}, s.receipts.lookup k = some r ∨
        k = id ∧ (∃ a, s.attempts.lookup id = some a ∧ r.About a) →
      s.receipts.lookup k = some r ∨ ∃ a, s.attempts.lookup k = some a ∧ r.About a := by
    rintro id (hold | ⟨rfl, habout⟩)
    · left
      apply hold
    · right
      apply habout
  cases e with
  | completeTransfer id authority => exact hown (completeTransfer_receipts hr)
  | cancelTransfer id authority => exact hown (cancelTransfer_receipts hr)
  | recover => exact absurd rfl (hrecover _)
  | _ =>
      left
      rw [← he.keeps_receipts hrecover (by rintro _ _ ⟨⟩) (by rintro _ _ ⟨⟩)]
      exact hr

/-- A new verification is of an attempt there is, under an id of its own. -/
theorem apply_verifications {e : Event} {s : State} (he : Effect e s (apply e s))
    (hrecover : ∀ file, e ≠ .recover file) {k : VerificationId} {v : VerificationReceipt}
    (hv : (apply e s).verifications.lookup k = some v) :
  s.verifications.lookup k = some v ∨
    v.id = k ∧ ∃ id a, s.attempts.lookup id = some a ∧ v.About a
  := by
  cases e with
  | completeTransfer id authority =>
      obtain hold | ⟨hid, hattempt⟩ := completeTransfer_verifications hv
      · left
        apply hold
      · right
        use hid, id
  | verifyTransfer id passed bytesChecked =>
      rw [apply, verifyTransfer] at hv
      cases ha : s.attempts.lookup id with
      | none =>
          rw [ha] at hv
          exact .inl hv
      | some a =>
          rw [ha] at hv
          obtain ⟨rfl, rfl⟩ | ⟨-, hold⟩ := Table.lookup_insert_some hv
          · right
            exact ⟨rfl, id, a, ha, rfl, rfl⟩
          · left
            apply hold
  | recover => exact absurd rfl (hrecover _)
  | _ =>
      left
      rw [← he.keeps_verifications hrecover (by rintro _ _ ⟨⟩) (by rintro _ _ _ ⟨⟩)]
      exact hv

/-- Every event but a recovery keeps the references resolved. -/
theorem ReferencesResolve.step {e : Event} {s : State} (h : ReferencesResolve s)
    (hwf : WellFormed s) (he : Effect e s (apply e s)) (hrecover : ∀ file, e ≠ .recover file) :
  ReferencesResolve (apply e s)
  where
  buffers := h.effect_buffers hwf he hrecover
  endpoints := h.effect_endpoints hwf he hrecover
  registrations := h.effect_registrations hwf he hrecover
  plans := h.effect_plans hwf he hrecover
  attempts := h.effect_attempts hwf he hrecover
  receipts := by
    have hattempts := (he.retained hwf hrecover).attempts
    intro k r hr
    obtain hold | ⟨a, ha, habout⟩ := apply_receipts he hrecover hr
    · obtain ⟨hid, ha⟩ := h.receipts k r hold
      apply And.intro hid (ha.keep hattempts)
    · have hid : r.attemptId = k := habout.attemptId.trans (hwf.attempts k a ha).1
      apply And.intro hid (Has.keep ⟨a, ha⟩ hattempts)
  verifications := by
    have hattempts := (he.retained hwf hrecover).attempts
    intro k v hv
    obtain hold | ⟨hid, id, a, ha, habout⟩ := apply_verifications he hrecover hv
    · obtain ⟨hid, ha⟩ := h.verifications k v hold
      apply And.intro hid (ha.keep hattempts)
    · have hattempt : v.attemptId = id := habout.attemptId.trans (hwf.attempts id a ha).1
      rw [hattempt]
      apply And.intro hid (Has.keep ⟨a, ha⟩ hattempts)

/-! ### Recoveries that fail part-way -/

/-- Every record of `t` has been recovered into `t'`. -/
def Complete {ρ : Type} (id : ρ → ℕ) (t t' : Table ρ) : Prop := ∀ r ∈ t.values, Has t' (id r)

theorem complete_restored {ρ : Type} {F : Format Error ρ} {id : ρ → ℕ} {t : Table ρ}
    (hid : ∀ r, id (F.recovered r) = id r) (hnodup : (t.values.map id).Nodup) :
  Complete id t (restored F id t)
  := by
  intro r hr
  use F.recovered r
  rw [lookup_restored hid hnodup]
  use r

/-- All buffers and all endpoints have been recovered. -/
structure EntitiesComplete (d s : State) : Prop where
  allBuffers : Complete BufferRecord.id d.buffers s.buffers
  allEndpoints : Complete EndpointRecord.id d.endpoints s.endpoints

/-- A recovery that has got as far as the registrations has recovered all buffers and endpoints, and
one that has got as far as the plans has recovered all registrations. -/
structure Linked (d s : State) : Prop extends RecoveredFrom d s where
  registered : s.registrations = ∅ ∨ EntitiesComplete d s
  planned : s.plans = ∅ ∨
    EntitiesComplete d s ∧ Complete Registration.id d.registrations s.registrations

/-- A recovery before the registrations, with all the buffers and all the endpoints if these are
behind it. -/
structure Loading (buffersDone endpointsDone : Bool) (d s : State) : Prop
    extends RecoveredFrom d s where
  unregistered : s.registrations = ∅
  unplanned : s.plans = ∅
  loadedBuffers : buffersDone = true → Complete BufferRecord.id d.buffers s.buffers
  loadedEndpoints : endpointsDone = true → Complete EndpointRecord.id d.endpoints s.endpoints

/-- A recovery before the plans, with all the buffers and endpoints. -/
structure Loaded (d s : State) : Prop extends RecoveredFrom d s, EntitiesComplete d s where
  unplanned : s.plans = ∅

theorem Loading.linked {buffersDone endpointsDone : Bool} {d s : State}
    (h : Loading buffersDone endpointsDone d s) :
  Linked d s
  := { h with
    registered := .inl h.unregistered
    planned := .inl h.unplanned }

theorem Loading.loaded {d s : State} (h : Loading true true d s) :
  Loaded d s
  := { h with
    allBuffers := h.loadedBuffers rfl
    allEndpoints := h.loadedEndpoints rfl }

theorem Loaded.linked {d s : State} (h : Loaded d s) :
  Linked d s
  := { h with
    registered := .inr h.toEntitiesComplete
    planned := .inl h.unplanned }

/-- The section of a table is decoded from a state of `P` to a state of `Q`, and what is left when
it fails is of `R`. -/
theorem recoverSection_triple {ρ : Type} {F : Format Error ρ} {id : ρ → ℕ}
    {update : (Table ρ → Table ρ) → State → State} {t : Table ρ} {P Q R : State → Prop}
    (message : Str) (hupdate : ∀ f g s, update f (update g s) = update (fun t => f (g t)) s)
    (hsize : t.size < 2 ^ 32) (hfits : ∀ r ∈ t.values, F.Fits r)
    (hclear : ∀ s, P s → P (update (fun _ => ∅) s))
    (hstore : ∀ r ∈ t.values, ∀ s, P s →
      P (update (fun t => t.insert (id (F.recovered r)) (F.recovered r)) s))
    (hQ : ∀ s, P s → Q (update (fun _ => restored F id t) s)) (hR : ∀ s, P s → R s) :
  (recoverSection F id update message).Triple P Q R (putSection F id t) ()
  := by
  apply Decoder.Triple.of_keepsOn (recoverSection_keepsOn message hsize hfits hclear hstore)
    (recoverSection_decodes message hupdate hsize hfits) _ hR
  intro s hs _
  apply hQ s hs

/-- What is restored from a table is recovered from its records. -/
theorem fromRecord_restored {ρ : Type} {F : Format Error ρ} {id : ρ → ℕ} {t : Table ρ}
    (hid : ∀ r, id (F.recovered r) = id r) (hnodup : (t.values.map id).Nodup) :
  (restored F id t).All (FromRecord id F.recovered t.values)
  := fun k r hr => (lookup_restored hid hnodup k r).mp hr

/-- Decoding the registries of `d` recovers first what is referred to, and then what refers to
it. -/
theorem recoverRegistries_triple {d : State} (hwf : WellFormed d) (h : d.Fits) :
  recoverRegistries.Triple (Loading false false d)
    (fun s => Loaded d s ∧ Complete Registration.id d.registrations s.registrations) (Linked d)
    (registrySections d) ()
  := by
  have hbuffers := (hwf.buffers.mono fun _ _ hb => hb.1).nodup_map_values
  have hendpoints := (hwf.endpoints.mono fun _ _ he => he.1).nodup_map_values
  have hregistrations := (hwf.registrations.mono fun _ _ hr => hr.1).nodup_map_values
  refine (recoverSection_triple (Q := Loading true false d) _ (fun _ _ _ => rfl) h.buffers.1
    h.buffers.2
    (fun s hs => { hs with buffers := .empty, loadedBuffers := by rintro ⟨⟩ })
    (fun r hr s hs => { hs with
      buffers := hs.buffers.insert ⟨r, hr, rfl, rfl⟩
      loadedBuffers := by rintro ⟨⟩ })
    (fun s hs => { hs with
      buffers := fromRecord_restored (fun _ => rfl) hbuffers
      loadedBuffers := fun _ => complete_restored (fun _ => rfl) hbuffers })
    fun s hs => hs.linked).field ?_
  refine (recoverSection_triple (Q := Loading true false d) _ (fun _ _ _ => rfl) h.devices.1
    h.devices.2
    (fun s hs => { hs with devices := .empty })
    (fun r hr s hs => { hs with devices := hs.devices.insert ⟨r, hr, rfl, rfl⟩ })
    (fun s hs => { hs with
      devices := fromRecord_restored (fun _ => rfl) hwf.devices.nodup_map_values })
    fun s hs => hs.linked).field ?_
  refine (recoverSection_triple (Q := Loading true true d) _ (fun _ _ _ => rfl) h.endpoints.1
    h.endpoints.2
    (fun s hs => { hs with endpoints := .empty, loadedEndpoints := by rintro ⟨⟩ })
    (fun r hr s hs => { hs with
      endpoints := hs.endpoints.insert ⟨r, hr, rfl, rfl⟩
      loadedEndpoints := by rintro ⟨⟩ })
    (fun s hs => { hs with
      endpoints := fromRecord_restored (fun _ => rfl) hendpoints
      loadedEndpoints := fun _ => complete_restored (fun _ => rfl) hendpoints })
    fun s hs => hs.linked).field ?_
  refine (recoverSection_triple (Q := Loading true true d) _ (fun _ _ _ => rfl) h.nics.1 h.nics.2
    (fun s hs => { hs with nics := .empty })
    (fun r hr s hs => { hs with nics := hs.nics.insert ⟨r, hr, rfl, rfl⟩ })
    (fun s hs => { hs with
      nics := fromRecord_restored (fun _ => rfl) hwf.nics.nodup_map_values })
    fun s hs => hs.linked).field ?_
  refine (recoverSection_triple (Q := Loading true true d) _ (fun _ _ _ => rfl) h.storage.1
    h.storage.2
    (fun s hs => { hs with storage := .empty })
    (fun r hr s hs => { hs with storage := hs.storage.insert ⟨r, hr, rfl, rfl⟩ })
    (fun s hs => { hs with
      storage := fromRecord_restored (fun _ => rfl) hwf.storage.nodup_map_values })
    fun s hs => hs.linked).field ?_
  refine (recoverSection_triple (Q := Loading true true d) _ (fun _ _ _ => rfl) h.providers.1
    h.providers.2
    (fun s hs => { hs with providers := .empty })
    (fun r hr s hs => { hs with providers := hs.providers.insert ⟨r, hr, rfl, rfl⟩ })
    (fun s hs => { hs with
      providers := fromRecord_restored (F := providerFormat) (fun _ => rfl)
        hwf.providers.nodup_map_values })
    fun s hs => hs.linked).field ?_
  refine (recoverSection_triple (Q := Loading true true d) _ (fun _ _ _ => rfl) h.capabilities.1
    h.capabilities.2
    (fun s hs => { hs with capabilities := .empty })
    (fun r hr s hs => { hs with capabilities := hs.capabilities.insert ⟨r, hr, rfl, rfl⟩ })
    (fun s hs => { hs with
      capabilities := fromRecord_restored (F := capabilityFormat) (fun _ => rfl)
        (Table.nodup_map_values hwf.capability) })
    fun s hs => hs.linked).field ?_
  rw [List.flatten_singleton]
  refine Decoder.Triple.consequence (recoverSection_triple (P := Loaded d) _ (fun _ _ _ => rfl)
    h.registrations.1 h.registrations.2
    (fun s hs => { hs with registrations := .empty })
    (fun r hr s hs => { hs with registrations := hs.registrations.insert ⟨r, hr, rfl, rfl⟩ })
    (fun s hs => ⟨{ hs with
      registrations := fromRecord_restored (fun _ => rfl) hregistrations },
      complete_restored (fun _ => rfl) hregistrations⟩)
    fun s hs => hs.linked) fun s hs => hs.loaded

/-- Decoding the sections of `d` leaves linked records. -/
theorem recoverSections_linked {d s : State} (hwf : WellFormed d) (h : d.Fits)
    (hs : Loading false false d s) :
  Linked d (recoverSections (stateSections d) s).2
  := by
  apply (recoverRegistries_triple hwf h).bind_at _ hs
  rintro s ⟨hloaded, hregistrations⟩
  have hkeeps := recoverPlans_keepsAt (P := fun s => RecoveredFrom d s ∧
      Complete BufferRecord.id d.buffers s.buffers ∧
      Complete EndpointRecord.id d.endpoints s.endpoints ∧
      Complete Registration.id d.registrations s.registrations) h.plans.1 h.plans.2
    (fun s hs => ⟨{ hs.1 with plans := .empty }, hs.2⟩)
    (fun p hp s hs => ⟨{ hs.1 with plans := hs.1.plans.insert ⟨p, hp, rfl, rfl⟩ }, hs.2⟩)
  obtain ⟨hrecovered, hbuffers, hendpoints, hregistrations⟩ :=
    hkeeps s ⟨hloaded.toRecoveredFrom, hloaded.allBuffers, hloaded.allEndpoints, hregistrations⟩
  have hentities := EntitiesComplete.mk hbuffers hendpoints
  exact { hrecovered with
    registered := .inr hentities
    planned := .inr ⟨hentities, hregistrations⟩ }

/-- A recovery of the file persisted in `d` leaves the state alone or leaves linked records. -/
theorem recoverFromFile_linked {d : State} (hwf : WellFormed d) (h : d.Fits) (out : State) :
  (recoverFromFile (persistToFile d) out).2 = out ∨
    Linked d (recoverFromFile (persistToFile d) out).2
  := by
  apply recoverFromFile_leaves h out
  intro _
  apply recoverSections_linked hwf h
  exact { RecoveredFrom.header d with
    unregistered := rfl
    unplanned := rfl
    loadedBuffers := by rintro ⟨⟩
    loadedEndpoints := by rintro ⟨⟩ }

/-! ### References after a recovery -/

section

variable {d s : State}

/-- A buffer there was is there, at the generation it had. -/
theorem Linked.cited_buffer {k : BufferId} {g : BufferGeneration} (h : Linked d s)
    (hwf : WellFormed d) (hentities : EntitiesComplete d s)
    (hcited : Cited BufferRecord.generation d.buffers k g) :
  Cited BufferRecord.generation s.buffers k g
  := by
  obtain ⟨hpos, b, hb, hle⟩ := hcited
  obtain ⟨b', hb'⟩ := hentities.allBuffers b (Table.mem_values.mpr ⟨k, hb⟩)
  rw [hwf.buffer_id hb] at hb'
  obtain ⟨b₁, hmem, hid, rfl⟩ := h.buffers k b' hb'
  obtain ⟨k₁, hk₁⟩ := Table.mem_values.mp hmem
  obtain rfl : k₁ = k := (hwf.buffer_id hk₁).symm.trans hid
  obtain rfl := Option.some.inj (hk₁.symm.trans hb)
  exact ⟨hpos, _, hb', hle⟩

/-- An endpoint there was is there, at the generation it had. -/
theorem Linked.cited_endpoint {k : EndpointId} {g : EndpointGeneration} (h : Linked d s)
    (hwf : WellFormed d) (hentities : EntitiesComplete d s)
    (hcited : Cited EndpointRecord.generation d.endpoints k g) :
  Cited EndpointRecord.generation s.endpoints k g
  := by
  obtain ⟨hpos, e, he, hle⟩ := hcited
  obtain ⟨e', he'⟩ := hentities.allEndpoints e (Table.mem_values.mpr ⟨k, he⟩)
  rw [hwf.endpoint_id he] at he'
  obtain ⟨e₁, hmem, hid, rfl⟩ := h.endpoints k e' he'
  obtain ⟨k₁, hk₁⟩ := Table.mem_values.mp hmem
  obtain rfl : k₁ = k := (hwf.endpoint_id hk₁).symm.trans hid
  obtain rfl := Option.some.inj (hk₁.symm.trans he)
  exact ⟨hpos, _, he', hle⟩

/-- Linked records resolve their references. -/
theorem ReferencesResolve.recovered (hd : ReferencesResolve d) (hwf : WellFormed d)
    (h : Linked d s) :
  ReferencesResolve s
  where
  buffers := by
    intro k b hb
    obtain ⟨b, hmem, rfl, rfl⟩ := h.buffers k b hb
    obtain ⟨k, hk⟩ := Table.mem_values.mp hmem
    use (hd.buffers k b hk).1
    left
    rfl
  endpoints := by
    intro k e he
    obtain ⟨e, hmem, rfl, rfl⟩ := h.endpoints k e he
    obtain ⟨k, hk⟩ := Table.mem_values.mp hmem
    apply hd.endpoints k e hk
  registrations := by
    intro k r hr
    obtain hnone | hentities := h.registered
    · rw [hnone] at hr
      cases hr
    · obtain ⟨r, hmem, rfl, rfl⟩ := h.registrations k r hr
      obtain ⟨k, hk⟩ := Table.mem_values.mp hmem
      have hresolves := hd.registrations k r hk
      constructor
      · apply hresolves.generation
      · apply h.cited_buffer hwf hentities hresolves.buffer
      · apply h.cited_endpoint hwf hentities hresolves.endpoint
  plans := by
    intro k p hp
    obtain hnone | ⟨hentities, hregistrations⟩ := h.planned
    · rw [hnone] at hp
      cases hp
    · obtain ⟨p, hmem, rfl, rfl⟩ := h.plans k p hp
      obtain ⟨k, hk⟩ := Table.mem_values.mp hmem
      have hresolves := hd.plans k p hk
      constructor
      · apply h.cited_buffer hwf hentities hresolves.source
      · apply h.cited_endpoint hwf hentities hresolves.destination
      · apply hresolves.registration.imp_right
        rintro ⟨r, hr⟩
        have hhas := hregistrations r (Table.mem_values.mpr ⟨_, hr⟩)
        rw [hwf.registration_id hr] at hhas
        apply hhas
      · rintro st ⟨⟩
  attempts := by
    rw [h.attempts]
    apply Table.All.empty
  receipts := by
    rw [h.receipts]
    apply Table.All.empty
  verifications := by
    rw [h.verifications]
    apply Table.All.empty

end

theorem resolves_of_reachable {w : World} (h : persistedFabric.Reachable w) :
  WellFormed w.state ∧ ReferencesResolve w.state
  := by
  apply h.invariant (P := fun w => WellFormed w.state ∧ ReferencesResolve w.state)
  · rintro w ⟨epoch, rfl⟩
    apply And.intro (.start epoch)
    constructor
    all_goals apply Table.All.empty
  · rintro w e w' ⟨hwf, hw⟩ ⟨hallowed, rfl⟩
    have hrecover : ∀ file, e ≠ .recover file := by
      rintro file rfl
      exact absurd hallowed.1 (by decide)
    apply And.intro (hwf.effect hallowed.effect hrecover)
    apply hw.step hwf hallowed.effect hrecover
  · rintro d w e w' ⟨hwfd, hd⟩ hw ⟨hfits, -, rfl, rfl⟩
    rw [World.next_state, Coordinator.apply]
    obtain hsame | hlinked := recoverFromFile_linked hwfd hfits w.state
    · rw [hsame]
      apply hw
    · apply And.intro (hwfd.recovered hlinked.toRecoveredFrom)
      apply hd.recovered hwfd hlinked

/-- In every reachable state every reference resolves: registrations and plans are of buffers and
endpoints there are, at generations these have had, the stages of a plan move data between such, and
attempts, receipts and verifications are of plans and attempts there are.  So it is also after a
restart, and after a recovery that fails part-way. -/
theorem references_resolve {w : World} (h : persistedFabric.Reachable w) :
  ReferencesResolve w.state
  := (resolves_of_reachable h).2

theorem references_resolve_begun :
  ReferencesResolve Fixture.begun.state
  := references_resolve (Fixture.reachable_begun _)

end GpuDirectFabric
