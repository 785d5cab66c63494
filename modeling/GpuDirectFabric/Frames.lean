import GpuDirectFabric.WellFormed

/-!
# Frames

What no event but one of its own kind can do: put a registration into the `REGISTERED` state,
make a plan authoritative, start an attempt, or make a worker live.
-/

namespace GpuDirectFabric

open Coordinator Persistence

/-! ### Events -/

/-- An event that may happen leaves the state alone, leaves no live authority, or is no recovery and
has one of the effects. -/
theorem Event.Allowed.outcome {setting : Setting} {w : World} {e : Event}
    (h : e.Allowed setting w) :
  apply e w.state = w.state ∨ Unowned (apply e w.state) ∨
    (∀ file, e ≠ .recover file) ∧ Effect e w.state (apply e w.state)
  := by
  by_cases hrecover : ∃ file, e = .recover file
  · obtain ⟨file, rfl⟩ := hrecover
    rw [apply]
    obtain ⟨error, heq⟩ | hunowned := recoverFromFile_unowned file w.state
    · left
      rw [heq]
    · exact .inr (.inl hunowned)
  · exact .inr (.inr ⟨fun file heq => hrecover ⟨file, heq⟩, h.effect⟩)

/-! ### Taking out of force -/

/-- A registration still in force is one that was not revalidated. -/
theorem lookup_revalidateIf {p : Registration → Bool} {t : Table Registration} {k : ℕ}
    {r : Registration} (hr : (t.mapVals (State.revalidateIf p)).lookup k = some r)
    (hstate : r.state = .registered) :
  t.lookup k = some r ∧ p r = false
  := by
  rw [Table.lookup_mapVals] at hr
  obtain ⟨r', hr', rfl⟩ := Option.map_eq_some_iff.mp hr
  rw [State.revalidateIf] at hstate ⊢
  split at hstate
  next => cases hstate
  next hp =>
    rw [if_neg hp]
    exact ⟨hr', by simpa using hp⟩

/-- A plan still in force is one that was not superseded. -/
theorem lookup_supersedeIf {q : TransferPlan → Bool} {t : Table TransferPlan} {k : ℕ}
    {p : TransferPlan} (hp : (t.mapVals (State.supersedeIf q)).lookup k = some p)
    (hauthoritative : p.authoritative = true) :
  t.lookup k = some p ∧ q p = false
  := by
  rw [Table.lookup_mapVals] at hp
  obtain ⟨p', hp', rfl⟩ := Option.map_eq_some_iff.mp hp
  rw [State.supersedeIf] at hauthoritative ⊢
  split at hauthoritative
  next => cases hauthoritative
  next hq =>
    rw [if_neg hq]
    exact ⟨hp', by simpa using hq⟩

theorem lookup_retireRegistration {id : RegistrationId} {s : State} {k : ℕ} {r : Registration}
    (hr : (retireRegistration id s).registrations.lookup k = some r)
    (hstate : r.state = .registered) :
  s.registrations.lookup k = some r
  := by
  rw [retireRegistration, Table.lookup_mapVals] at hr
  obtain ⟨r', hr', rfl⟩ := Option.map_eq_some_iff.mp hr
  split at hstate
  next => cases hstate
  next hid =>
    rw [if_neg hid]
    exact hr'

/-! ### Registrations -/

/-- The registration `r` is one `register_buffer` makes from the parameters `p`. -/
structure Registered (s : State) (p : RegisterParams) (backend : Option Backend)
    (r : Registration) : Prop where
  result : (registerBuffer p backend s).1 = .ok r
  buffer : ∃ b, s.buffers.lookup p.buffer = some b ∧ b.lifecycle = .active ∧ r.buffer = b.id ∧
    r.bufferGeneration = b.generation ∧
    (b.authority.workerOwned = true → b.authority = p.authority)
  endpoint : ∃ e, s.endpoints.lookup p.endpoint = some e ∧ r.endpoint = e.id ∧
    r.endpointGeneration = e.generation
  authority : r.authority = p.authority
  epoch : p.authority.epoch = s.epoch
  live : p.authority.workerOwned = true → s.workerLiveLocked p.authority = true

theorem registered_of_accepted {p : RegisterParams} {backend : Option Backend}
    {buffer : BufferRecord} {endpoint : EndpointRecord} {latest : Option Registration}
    {rr : RegisterResult} {s s' : State} (haccepted : Accepted p backend buffer endpoint rr s)
    (hresult : registerBuffer p backend s = acceptRegistration p buffer endpoint latest rr s') :
  Registered s p backend (newRegistration p buffer endpoint latest rr (registrationKey rr s')
    (s'.freshness + 1))
  where
  result := by
    rw [hresult]
    rfl
  buffer := ⟨_, haccepted.buffer, haccepted.active, rfl, rfl, haccepted.owner⟩
  endpoint := ⟨_, haccepted.endpoint, rfl, rfl⟩
  authority := rfl
  epoch := haccepted.epoch
  live := haccepted.live

/-- The registration is of a higher generation than all of the pair the parameters `p` name, of
which the latest is not in force. -/
structure Newest (s : State) (p : RegisterParams) (r : Registration) : Prop where
  highest : ∀ k r', s.registrations.lookup k = some r' → r'.buffer = p.buffer →
    r'.endpoint = p.endpoint → r'.generation < r.generation
  superseded : ∀ latest, latestRegistration s p.buffer p.endpoint = some latest →
    latest.state ≠ .registered

/-- The latest registration of a pair is of the highest generation. -/
theorem le_latestRegistration {s : State} {buffer : BufferId} {endpoint : EndpointId}
    {k : RegistrationId} {r : Registration} (hr : s.registrations.lookup k = some r)
    (hbuffer : r.buffer = buffer) (hendpoint : r.endpoint = endpoint) :
  ∃ latest, latestRegistration s buffer endpoint = some latest ∧
    r.generation ≤ latest.generation
  := by
  have hmem := Table.mem_values.mpr ⟨k, hr⟩
  obtain ⟨latest, hlatest⟩ : ∃ latest, latestRegistration s buffer endpoint = some latest :=
    PathPlanner.latest_isSome hmem (by simp [hbuffer, hendpoint])
  exact ⟨latest, hlatest, PathPlanner.latest_max hlatest hmem (by simp [hbuffer, hendpoint])⟩

/-- While the latest registration of the pair is in force, it is all that `register_buffer`
returns. -/
theorem duplicated_of_registered {p : RegisterParams} {backend : Option Backend} {s : State}
    {latest r : Registration} (hlatest : latestRegistration s p.buffer p.endpoint = some latest)
    (hstate : latest.state = .registered) (hr : (registerBuffer p backend s).1 = .ok r) :
  r.duplicated = true
  := by
  rw [registerBuffer] at hr
  cases hbuffer : s.buffers.lookup p.buffer with
  | none =>
      rw [hbuffer] at hr
      cases hr
  | some buffer =>
  rw [hbuffer] at hr
  replace hr := (ok_of_check hr).2
  cases hendpoint : s.endpoints.lookup p.endpoint with
  | none =>
      rw [hendpoint] at hr
      cases hr
  | some endpoint =>
  rw [hendpoint] at hr
  replace hr := (ok_of_check hr).2
  replace hr := (ok_of_check hr).2
  replace hr := (ok_of_check hr).2
  replace hr := (ok_of_check hr).2
  replace hr := (ok_of_check hr).2
  replace hr := (ok_of_check hr).2
  rw [hlatest] at hr
  dsimp only at hr
  split at hr
  next =>
    obtain rfl := Except.ok.inj hr
    rfl
  next =>
    replace hr := (ok_of_check hr).2
    cases hr

theorem newest_of_accepted {p : RegisterParams} {backend : Option Backend} {buffer : BufferRecord}
    {endpoint : EndpointRecord} {rr : RegisterResult} {s s' : State} {id : RegistrationId}
    {freshness : ℕ}
    (hresult : registerBuffer p backend s
      = acceptRegistration p buffer endpoint (latestRegistration s p.buffer p.endpoint) rr s') :
  Newest s p (newRegistration p buffer endpoint (latestRegistration s p.buffer p.endpoint) rr id
    freshness)
  where
  highest := by
    intro k r hr hbuffer hendpoint
    obtain ⟨latest, hlatest, hle⟩ := le_latestRegistration hr hbuffer hendpoint
    rw [hlatest]
    exact Nat.lt_succ_of_le hle
  superseded := by
    intro latest hlatest hstate
    have hduplicated := duplicated_of_registered hlatest hstate (by rw [hresult]; rfl)
    cases hduplicated

/-- A registration is `REGISTERED` after an event only if it was before, or if the event
registered it. -/
theorem Effect.registered {e : Event} {s s' : State} (he : Effect e s s')
    (hrecover : ∀ file, e ≠ .recover file) {k : RegistrationId} {r : Registration}
    (hr : s'.registrations.lookup k = some r) (hstate : r.state = .registered) :
  s.registrations.lookup k = some r ∨
    ∃ p backend, e = .registerBuffer p backend ∧ Registered s p backend r
  := by
  cases he with
  | markWorkerDead => exact .inl (lookup_revalidateIf hr hstate).1
  | advanceEpoch => exact .inl (lookup_revalidateIf hr hstate).1
  | advanceBufferGeneration => exact .inl (lookup_revalidateIf hr hstate).1
  | retireBuffer => exact .inl (lookup_revalidateIf hr hstate).1
  | advanceEndpointGeneration => exact .inl (lookup_revalidateIf hr hstate).1
  | retireDeregistering => exact .inl (lookup_retireRegistration hr hstate)
  | registerBuffer haccepted hretired hresult =>
      obtain ⟨-, rfl⟩ | ⟨-, hold⟩ := Table.lookup_insert_some hr
      · exact .inr ⟨_, _, rfl, registered_of_accepted haccepted hresult⟩
      · obtain rfl | ⟨latest, -, -, rfl⟩ := hretired
        · exact .inl hold
        · exact .inl (lookup_retireRegistration hold hstate)
  | retire | deregisterBuffer | deregisterCached =>
      obtain ⟨-, rfl⟩ | ⟨-, hold⟩ := Table.lookup_insert_some hr
      · cases hstate
      · exact .inl hold
  | rehash hs =>
      rw [hs.registrations.lookup] at hr
      exact .inl hr
  | recover => exact absurd rfl (hrecover _)
  | _ => exact .inl hr

/-- `r'` is the registration `r` at a later time: for the same pair, at the same generation, of
the same authority, and in force only if `r` was. -/
structure Registration.Continues (r' r : Registration) : Prop where
  buffer : r'.buffer = r.buffer
  endpoint : r'.endpoint = r.endpoint
  generation : r'.generation = r.generation
  authority : r'.authority = r.authority
  registered : r'.state = .registered → r.state = .registered

namespace Registration.Continues

theorem refl (r : Registration) :
  r.Continues r
  := ⟨rfl, rfl, rfl, rfl, fun h => h⟩

/-- A registration taken out of force. -/
theorem retired {r : Registration} {state : RegistrationState} {handle : Option BackendHandle}
    {freshness : ℕ} (hstate : state ≠ .registered) :
  Continues { r with state := state, handle := handle, freshness := freshness } r
  := ⟨rfl, rfl, rfl, rfl, fun h => absurd h hstate⟩

theorem revalidateIf (p : Registration → Bool) (r : Registration) :
  (State.revalidateIf p r).Continues r
  := by
  rw [State.revalidateIf]
  split
  · exact .retired (by decide)
  · exact .refl r

end Registration.Continues

/-- The registrations of a retired state are those of the state, later. -/
theorem continues_of_retireRegistration {id : RegistrationId} {s : State} {k : RegistrationId}
    {r : Registration} (hr : (retireRegistration id s).registrations.lookup k = some r) :
  ∃ r', s.registrations.lookup k = some r' ∧ r.Continues r'
  := by
  rw [retireRegistration, Table.lookup_mapVals] at hr
  obtain ⟨r', hr', rfl⟩ := Option.map_eq_some_iff.mp hr
  use r', hr'
  split
  · exact .retired (by decide)
  · exact .refl r'

/-- A registration after an event is a registration from before the event, or the event made it. -/
theorem Effect.registration {e : Event} {s s' : State} (he : Effect e s s')
    (hrecover : ∀ file, e ≠ .recover file) {k : RegistrationId} {r : Registration}
    (hr : s'.registrations.lookup k = some r) :
  (∃ r', s.registrations.lookup k = some r' ∧ r.Continues r') ∨
    ∃ p backend, e = .registerBuffer p backend ∧ Registered s p backend r ∧ Newest s p r
  := by
  have hrevalidated : ∀ {p : Registration → Bool},
      (s.registrations.mapVals (State.revalidateIf p)).lookup k = some r →
      ∃ r', s.registrations.lookup k = some r' ∧ r.Continues r' := by
    intro p hr
    rw [Table.lookup_mapVals] at hr
    obtain ⟨r', hr', rfl⟩ := Option.map_eq_some_iff.mp hr
    exact ⟨r', hr', .revalidateIf p r'⟩
  cases he with
  | markWorkerDead => exact .inl (hrevalidated hr)
  | advanceEpoch => exact .inl (hrevalidated hr)
  | advanceBufferGeneration => exact .inl (hrevalidated hr)
  | retireBuffer => exact .inl (hrevalidated hr)
  | advanceEndpointGeneration => exact .inl (hrevalidated hr)
  | retireDeregistering => exact .inl (continues_of_retireRegistration hr)
  | registerBuffer haccepted hretires hresult =>
      obtain ⟨-, rfl⟩ | ⟨-, hold⟩ := Table.lookup_insert_some hr
      · exact .inr ⟨_, _, rfl, registered_of_accepted haccepted hresult,
          newest_of_accepted hresult⟩
      · obtain rfl | ⟨latest, -, -, rfl⟩ := hretires
        · exact .inl ⟨r, hold, .refl r⟩
        · exact .inl (continues_of_retireRegistration hold)
  | retire hreg | deregisterBuffer hreg | deregisterCached hreg =>
      obtain ⟨rfl, rfl⟩ | ⟨-, hold⟩ := Table.lookup_insert_some hr
      · exact .inl ⟨_, hreg, .retired (by decide)⟩
      · exact .inl ⟨r, hold, .refl r⟩
  | rehash hs =>
      rw [hs.registrations.lookup] at hr
      exact .inl ⟨r, hr, .refl r⟩
  | recover => exact absurd rfl (hrecover _)
  | _ => exact .inl ⟨r, hr, .refl r⟩

/-- Among well-formed registries no registration is being deregistered, so none is retired by
registering. -/
theorem retires_eq {p : RegisterParams} {s s' : State} (h : WellFormed s) (hs : Retires p s s') :
  s' = s
  := by
  obtain rfl | ⟨latest, hlatest, hstate, -⟩ := hs
  · rfl
  · obtain ⟨k, hk⟩ := Table.mem_values.mp (PathPlanner.latest_mem hlatest).1
    exact absurd hstate (h.registrations k latest hk).2.2

/-- The registration a plan is bound to is one of the state's, for its buffer and endpoint. -/
theorem registeredRegistration_spec {s : State} (h : WellFormed s) {buffer : BufferId}
    {endpoint : EndpointId} {r : Registration}
    (hr : registeredRegistration s buffer endpoint = some r) :
  s.registrations.lookup r.id = some r ∧ r.buffer = buffer ∧ r.endpoint = endpoint ∧
    r.state = .registered
  := by
  obtain ⟨hmem, hp⟩ := PathPlanner.latest_mem hr
  obtain ⟨k, hk⟩ := Table.mem_values.mp hmem
  obtain rfl := h.registration_id hk
  use hk
  simpa [and_assoc] using hp

/-! ### Plans -/

/-- The plan is one `plan_transfer` commits for the request `p` with the decision `d`. -/
structure Planned (s : State) (p : PlanRequestParams) (d : PathDecision) (plan : TransferPlan) :
    Prop where
  result : (planTransferCommit p d s).1 = .ok plan
  id : plan.id = s.nextId + 1
  source : ∃ src, s.buffers.lookup p.source = some src ∧ src.generation = d.sourceGeneration ∧
    plan.source = src.id ∧ plan.sourceGeneration = src.generation ∧ plan.authority = src.authority
  destination : ∃ dst, s.endpoints.lookup p.destination = some dst ∧
    dst.generation = d.destinationGeneration ∧ plan.destination = dst.id ∧
    plan.destinationGeneration = dst.generation
  epoch : plan.epoch = s.epoch
  request : plan.policy = p.policy ∧ plan.expectedBytes = p.size
  eligibility : plan.eligibility = d.eligibility
  registration : plan.registrationId = 0 ∨
    ∃ reg, registeredRegistration s plan.source plan.destination = some reg ∧
      plan.registrationId = reg.id
  direct : d.eligibility.isDirect = true →
    ∃ reg, registeredRegistration s plan.source plan.destination = some reg ∧
      plan.registrationId = reg.id ∧ plan.registrationGeneration = reg.generation ∧
      plan.registrationBufferGeneration = reg.bufferGeneration

theorem planned_of_ok {p : PlanRequestParams} {d : PathDecision} {s : State} {plan : TransferPlan}
    (h : (planTransferCommit p d s).1 = .ok plan) :
  Planned s p d plan
  := by
  have hresult := h
  obtain ⟨e, heq⟩ | ⟨src, dst, hsrc, hsrcGeneration, hdst, hdstGeneration, heligible, hreg, heq⟩ :=
    planTransferCommit_cases p d s
  · rw [heq] at h
    cases h
  · rw [heq, storePlan] at h
    split at h
    next hdirect =>
      obtain ⟨reg, hfound⟩ := Option.isSome_iff_exists.mp (hreg hdirect)
      rw [hfound] at h
      obtain rfl := Except.ok.inj h
      exact ⟨hresult, rfl, ⟨src, hsrc, hsrcGeneration, rfl, rfl, rfl⟩,
        ⟨dst, hdst, hdstGeneration, rfl, rfl⟩, rfl, ⟨rfl, rfl⟩, rfl, .inr ⟨reg, hfound, rfl⟩,
        fun _ => ⟨reg, hfound, rfl, rfl, rfl⟩⟩
    next hdirect =>
      obtain rfl := Except.ok.inj h
      refine ⟨hresult, rfl, ⟨src, hsrc, hsrcGeneration, rfl, rfl, rfl⟩,
        ⟨dst, hdst, hdstGeneration, rfl, rfl⟩, rfl, ⟨rfl, rfl⟩, rfl, ?_,
        fun hdirect' => absurd hdirect' hdirect⟩
      cases hfound : registeredRegistration s src.id dst.id with
      | none => exact .inl rfl
      | some reg => exact .inr ⟨reg, hfound, rfl⟩

/-- A plan is authoritative after an event only if it was before, or if the event committed
it. -/
theorem Effect.authoritative {e : Event} {s s' : State} (he : Effect e s s')
    (hrecover : ∀ file, e ≠ .recover file) {k : TransferPlanId} {plan : TransferPlan}
    (hplan : s'.plans.lookup k = some plan) (hauthoritative : plan.authoritative = true) :
  s.plans.lookup k = some plan ∨
    ∃ p d, e = .planCommit p d ∧ k = plan.id ∧ Planned s p d plan
  := by
  cases he with
  | advanceEpoch => exact .inl (lookup_supersedeIf hplan hauthoritative).1
  | advanceBufferGeneration => exact .inl (lookup_supersedeIf hplan hauthoritative).1
  | retireBuffer => exact .inl (lookup_supersedeIf hplan hauthoritative).1
  | advanceEndpointGeneration => exact .inl (lookup_supersedeIf hplan hauthoritative).1
  | registerBuffer haccepted hretired =>
      obtain ⟨_, rfl⟩ := hretired.frame
      exact .inl hplan
  | planDirect hdirect hsrc hsrcGeneration hdst hdstGeneration hreg hresult
  | planFallback hfallback havailable hsrc hsrcGeneration hdst hdstGeneration hresult =>
      obtain ⟨rfl, rfl⟩ | ⟨-, hold⟩ := Table.lookup_insert_some hplan
      · exact .inr ⟨_, _, rfl, rfl, planned_of_ok (by rw [hresult]; rfl)⟩
      · exact .inl hold
  | rehash hs =>
      rw [hs.plans.lookup] at hplan
      exact .inl hplan
  | recover => exact absurd rfl (hrecover _)
  | _ => exact .inl hplan

/-! ### Attempts -/

/-- The attempt is one `begin_transfer` starts from the plan `planId` for the caller
`authority`. -/
structure Begun (s : State) (planId : TransferPlanId) (authority : Authority)
    (a : TransferAttempt) : Prop where
  plan : ∃ plan, Ready planId authority plan s ∧ a.planId = plan.id
  id : a.id = s.nextId + 1
  epoch : a.epoch = s.epoch
  authority : a.authority = authority

/-- An attempt after an event is an attempt of the same plan, epoch and authority as before, or
the event began it. -/
theorem Effect.attempt {e : Event} {s s' : State} (he : Effect e s s')
    (hrecover : ∀ file, e ≠ .recover file) {k : TransferAttemptId} {a : TransferAttempt}
    (ha : s'.attempts.lookup k = some a) :
  (∃ a', s.attempts.lookup k = some a' ∧ a.planId = a'.planId ∧ a.epoch = a'.epoch ∧
      a.authority = a'.authority) ∨
    ∃ planId authority backend, e = .beginTransfer planId authority backend ∧
      Begun s planId authority a
  := by
  cases he with
  | registerBuffer haccepted hretired =>
      obtain ⟨_, rfl⟩ := hretired.frame
      exact .inl ⟨a, ha, rfl, rfl, rfl⟩
  | @beginTransfer _ _ plan authority backend handle hready =>
      obtain ⟨-, rfl⟩ | ⟨-, hold⟩ := Table.lookup_insert_some ha
      · obtain ⟨hid, hplanId, haepoch, haauthority⟩ := runAttempt_core plan handle backend
          (newAttempt plan authority (s.nextId + 1) s.epoch)
        exact .inr ⟨_, _, _, rfl, ⟨plan, hready, hplanId⟩, hid, haepoch, haauthority⟩
      · exact .inl ⟨a, hold, rfl, rfl, rfl⟩
  | completeTransfer hattempt | cancelTransfer hattempt =>
      obtain ⟨rfl, rfl⟩ | ⟨-, hold⟩ := Table.lookup_insert_some ha
      · exact .inl ⟨_, hattempt, rfl, rfl, rfl⟩
      · exact .inl ⟨a, hold, rfl, rfl, rfl⟩
  | rehash hs =>
      rw [hs.attempts.lookup] at ha
      exact .inl ⟨a, ha, rfl, rfl, rfl⟩
  | recover => exact absurd rfl (hrecover _)
  | _ => exact .inl ⟨a, ha, rfl, rfl, rfl⟩

/-! ### What is fixed about buffers and endpoints -/

/-- The fields of a buffer that no operation changes. -/
def BufferRecord.fixed (b : BufferRecord) : ℕ × ℕ × MemoryDomain × DeviceId × Authority :=
  (b.size, b.alignment, b.domain, b.device, b.authority)

/-- The fields of an endpoint that no operation changes. -/
def EndpointRecord.fixed (e : EndpointRecord) : EndpointClass × Support :=
  (e.endpointClass, e.support)

/-- Storing a value with the fixed part of the one it replaces keeps all the fixed parts. -/
theorem Table.lookup_insert_fixed {V F : Type} (fixed : V → F) {t : Table V} {k k' : ℕ} {v v' : V}
    (hv : ∀ u, t.lookup k = some u → fixed v = fixed u) (hv' : t.lookup k' = some v') :
  ∃ u, (t.insert k v).lookup k' = some u ∧ fixed u = fixed v'
  := by
  rw [Table.lookup_insert_eq]
  split
  next hk =>
    subst hk
    exact ⟨v, rfl, hv v' hv'⟩
  next => exact ⟨v', hv', rfl⟩

namespace Effect

variable {e : Event} {s s' : State}

/-- A buffer stays, with the size, alignment, domain, device and owner it was made with. -/
theorem keeps_buffer (h : WellFormed s) (he : Effect e s s') (hrecover : ∀ file, e ≠ .recover file)
    {k : BufferId} {b : BufferRecord} (hb : s.buffers.lookup k = some b) :
  ∃ b', s'.buffers.lookup k = some b' ∧ b'.fixed = b.fixed
  := by
  have hmodify : ∀ {k' : BufferId} {v v' : BufferRecord}, s.buffers.lookup k' = some v →
      v'.fixed = v.fixed →
      ∃ u, (s.buffers.insert k' v').lookup k = some u ∧ u.fixed = b.fixed := by
    intro k' v v' hv hfixed
    apply Table.lookup_insert_fixed BufferRecord.fixed _ hb
    intro u hu
    obtain rfl := Option.some.inj (hv.symm.trans hu)
    exact hfixed
  have hfresh : ∀ {n : ℕ} {v : BufferRecord}, s.nextId < n →
      ∃ u, (s.buffers.insert n v).lookup k = some u ∧ u.fixed = b.fixed := by
    intro n v hn
    apply Table.lookup_insert_fixed BufferRecord.fixed _ hb
    intro u hu
    rw [h.buffer_fresh hn] at hu
    cases hu
  cases he with
  | createBuffer => exact hfresh (Nat.lt_succ_self _)
  | advanceBufferGeneration hb' => exact hmodify hb' rfl
  | retireBuffer hb' => exact hmodify hb' rfl
  | registerBuffer haccepted hretired =>
      obtain ⟨_, rfl⟩ := hretired.frame
      exact hmodify haccepted.buffer rfl
  | deregisterCached hreg hb' => exact hmodify hb' rfl
  | planFallback => exact hfresh (Nat.lt_add_of_pos_right (by decide : 0 < 3))
  | rehash hs => exact ⟨b, (hs.buffers.lookup k).trans hb, rfl⟩
  | recover => exact absurd rfl (hrecover _)
  | _ => exact ⟨b, hb, rfl⟩

/-- An endpoint stays, with the class and support it was made with. -/
theorem keeps_endpoint (h : WellFormed s) (he : Effect e s s')
    (hrecover : ∀ file, e ≠ .recover file) {k : EndpointId} {r : EndpointRecord}
    (hr : s.endpoints.lookup k = some r) :
  ∃ r', s'.endpoints.lookup k = some r' ∧ r'.fixed = r.fixed
  := by
  have hmodify : ∀ {k' : EndpointId} {v v' : EndpointRecord}, s.endpoints.lookup k' = some v →
      v'.fixed = v.fixed →
      ∃ u, (s.endpoints.insert k' v').lookup k = some u ∧ u.fixed = r.fixed := by
    intro k' v v' hv hfixed
    apply Table.lookup_insert_fixed EndpointRecord.fixed _ hr
    intro u hu
    obtain rfl := Option.some.inj (hv.symm.trans hu)
    exact hfixed
  cases he with
  | addEndpoint =>
      apply Table.lookup_insert_fixed EndpointRecord.fixed _ hr
      intro u hu
      rw [h.endpoint_fresh (Nat.lt_succ_self _)] at hu
      cases hu
  | advanceEndpointGeneration hr' => exact hmodify hr' rfl
  | setEndpointHealth hr' => exact hmodify hr' rfl
  | registerBuffer haccepted hretired =>
      obtain ⟨_, rfl⟩ := hretired.frame
      exact ⟨r, hr, rfl⟩
  | rehash hs => exact ⟨r, (hs.endpoints.lookup k).trans hr, rfl⟩
  | recover => exact absurd rfl (hrecover _)
  | _ => exact ⟨r, hr, rfl⟩

/-- A device stays. -/
theorem keeps_device (he : Effect e s s') (hrecover : ∀ file, e ≠ .recover file) {k : DeviceId}
    {d : DeviceRecord} (hd : s.devices.lookup k = some d) :
  ∃ d', s'.devices.lookup k = some d'
  := by
  cases he with
  | addDevice =>
      obtain ⟨d', hd', -⟩ := Table.lookup_insert_fixed (fun _ => ()) (fun _ _ => rfl) hd
      exact ⟨d', hd'⟩
  | registerBuffer haccepted hretired =>
      obtain ⟨_, rfl⟩ := hretired.frame
      exact ⟨d, hd⟩
  | rehash hs => exact ⟨d, (hs.devices.lookup k).trans hd⟩
  | recover => exact absurd rfl (hrecover _)
  | _ => exact ⟨d, hd⟩

end Effect

end GpuDirectFabric
