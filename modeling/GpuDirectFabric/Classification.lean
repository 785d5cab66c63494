import GpuDirectFabric.DirectPath
import GpuDirectFabric.References
import GpuDirectFabric.Revalidation

/-!
# Classification

Every record carries a label that says how far it is supported by evidence.  The coordinator itself
writes only the labels `UNKNOWN`, `UNSUPPORTED` and `SYNTHETIC`; every other one it copies, from the
parameters of a call, from the answer of a backend, from another record or from a file.  So a set of
labels with these three is closed under whatever happens: as long as nothing from outside carries
another label, nothing inside does, over restarts too.  In particular real support is never
synthesized.
-/

namespace GpuDirectFabric

open Codec Coordinator Persistence PathPlanner

/-- A set of labels that contains those the coordinator writes of its own. -/
structure Closed (L : Support → Prop) : Prop where
  unknown : L .unknown
  unsupported : L .unsupported
  synthetic : L .synthetic

/-! ### Decisions -/

/-- The labels of a decision, and of the paths it considers. -/
structure PathDecision.Labelled (L : Support → Prop) (d : PathDecision) : Prop where
  support : L d.support
  direct : ∀ c ∈ d.directCandidates, L c.support
  fallback : ∀ c ∈ d.fallbackCandidates, L c.support

/-- The labels of the evidence that a decision may take over. -/
structure PathEvidence.Labelled (L : Support → Prop) (ev : PathEvidence) : Prop where
  source : L ev.source.support
  capabilities : ∀ c ∈ ev.capabilities, L c.support
  registrations : ∀ r ∈ ev.registrations, L r.support

/-- An evaluation before the candidates, with a label of `L`. -/
structure Evaluation.Labelled (L : Support → Prop) (e : Evaluation) : Prop where
  support : L e.decision.support
  direct : e.decision.directCandidates = []
  fallback : e.decision.fallbackCandidates = []

namespace PathPlanner

variable {L : Support → Prop} {req : PathRequest} {ev : PathEvidence}

/-- A check that keeps the label in `L`. -/
def KeepsLabel (L : Support → Prop) (check : Evaluation → Evaluation) : Prop :=
  ∀ e, Evaluation.Labelled L e → Evaluation.Labelled L (check e)

theorem KeepsLabel.unlessSettled {check : Evaluation → Evaluation} (h : KeepsLabel L check) :
  KeepsLabel L (unlessSettled check)
  := by
  intro e he
  rw [PathPlanner.unlessSettled]
  split
  · apply h e he
  · apply he

theorem keepsLabel_checkSource :
  KeepsLabel L (checkSource ev)
  := by
  intro e he
  rw [checkSource]
  split
  · exact { he with }
  · split
    · exact { he with }
    · exact { he with }

theorem keepsLabel_checkSize :
  KeepsLabel L (checkSize req ev)
  := by
  intro e he
  rw [checkSize]
  split
  · exact { he with }
  · exact { he with }

theorem keepsLabel_checkDestination :
  KeepsLabel L (checkDestination ev)
  := by
  intro e he
  rw [checkDestination]
  split
  · exact { he with }
  · exact { he with }

theorem keepsLabel_checkDestinationSupported (hL : Closed L) :
  KeepsLabel L (checkDestinationSupported ev)
  := by
  intro e he
  rw [checkDestinationSupported]
  split
  · exact { he with support := hL.unsupported }
  · exact { he with }

theorem keepsLabel_checkDestinationHealthy :
  KeepsLabel L (checkDestinationHealthy ev)
  := by
  intro e he
  rw [checkDestinationHealthy]
  split
  · exact { he with }
  · exact { he with }

theorem keepsLabel_checkDestinationGeneration :
  KeepsLabel L (checkDestinationGeneration ev)
  := by
  intro e he
  rw [checkDestinationGeneration]
  split
  · exact { he with }
  · exact { he with }

theorem keepsLabel_checkSourceDomain (hev : ev.Labelled L) :
  KeepsLabel L (checkSourceDomain ev)
  := by
  intro e he
  rw [checkSourceDomain]
  split
  · exact { he with }
  · split
    · exact { he with }
    · exact { he with support := hev.source }

theorem keepsLabel_checkDevice :
  KeepsLabel L (checkDevice ev)
  := by
  intro e he
  rw [checkDevice]
  split
  · exact { he with }
  · split
    · exact { he with }
    · exact { he with }

theorem keepsLabel_checkProvider (hL : Closed L) :
  KeepsLabel L (checkProvider ev)
  := by
  intro e he
  rw [checkProvider]
  split
  · exact { he with support := hL.unsupported }
  · exact { he with }

theorem keepsLabel_checkCapability (hL : Closed L) (hev : ev.Labelled L) :
  KeepsLabel L (checkCapability ev)
  := by
  intro e he
  rw [checkCapability]
  dsimp only
  split
  next => exact { he with support := hL.unsupported }
  next cap hcap =>
    have hsupport := hev.capabilities cap (List.mem_of_find?_eq_some hcap)
    split
    · exact { he with support := hsupport }
    · exact { he with support := hsupport }

theorem keepsLabel_checkRegistration (hev : ev.Labelled L) :
  KeepsLabel L (checkRegistration ev)
  := by
  intro e he
  rw [checkRegistration]
  split
  next => exact { he with }
  next reg hreg =>
    have hsupport := hev.registrations reg (latest_mem hreg).1
    split
    · exact { he with }
    · split
      · exact { he with }
      · split
        · exact { he with }
        · exact { he with support := hsupport }

theorem keepsLabel_checkAlignment :
  KeepsLabel L (checkAlignment req ev)
  := by
  intro e he
  rw [checkAlignment]
  split
  · exact { he with }
  · exact { he with }

theorem labelled_checkDirect (req : PathRequest) (hL : Closed L) (hev : ev.Labelled L) :
  Evaluation.Labelled L (checkDirect req ev)
  := by
  apply keepsLabel_checkAlignment.unlessSettled
  apply (keepsLabel_checkRegistration hev).unlessSettled
  apply (keepsLabel_checkCapability hL hev).unlessSettled
  apply (keepsLabel_checkProvider hL).unlessSettled
  apply keepsLabel_checkDevice.unlessSettled
  apply (keepsLabel_checkSourceDomain hev).unlessSettled
  apply keepsLabel_checkDestinationGeneration.unlessSettled
  apply keepsLabel_checkDestinationHealthy.unlessSettled
  apply (keepsLabel_checkDestinationSupported hL).unlessSettled
  apply keepsLabel_checkDestination.unlessSettled
  apply keepsLabel_checkSize.unlessSettled
  apply keepsLabel_checkSource
  exact ⟨hL.unknown, rfl, rfl⟩

theorem labelled_fallback (hL : Closed L) {d : PathDecision} (hsupport : L d.support)
    (hdirect : d.directCandidates = []) (hfallback : d.fallbackCandidates = []) :
  (addFallbackCandidates d req ev).Labelled L
  := by
  constructor
  · apply hsupport
  · intro c hc
    rw [addFallbackCandidates, hdirect] at hc
    cases hc
  · intro c hc
    rw [addFallbackCandidates, hfallback] at hc
    obtain rfl := List.mem_singleton.mp hc
    apply hL.synthetic

theorem labelled_direct {d : PathDecision} {c : PathCandidate} (hsupport : L d.support)
    (hcandidate : L c.support) (hdirect : d.directCandidates = [c])
    (hfallback : d.fallbackCandidates = []) :
  d.Labelled L
  := by
  constructor
  · apply hsupport
  · rw [hdirect]
    intro c' hc
    obtain rfl := List.mem_singleton.mp hc
    apply hcandidate
  · rw [hfallback]
    apply List.forall_mem_nil

theorem labelled_refused {d : PathDecision} (hsupport : L d.support)
    (hdirect : d.directCandidates = []) (hfallback : d.fallbackCandidates = []) :
  d.Labelled L
  := by
  constructor
  · apply hsupport
  · rw [hdirect]
    apply List.forall_mem_nil
  · rw [hfallback]
    apply List.forall_mem_nil

theorem labelled_outcome (req : PathRequest) (ev : PathEvidence) (hL : Closed L)
    {e : Evaluation} (he : Evaluation.Labelled L e) :
  (outcome req ev e).Labelled L
  := by
  obtain ⟨hsupport, hdirect, hfallback⟩ := he
  rw [outcome]
  dsimp only
  generalize str "direct " ++ _ ++ _ ++ _ ++ _ = description
  split
  · rw [hdirect, List.nil_append]
    exact labelled_direct hsupport hsupport rfl hfallback
  · split
    · exact labelled_refused hsupport hdirect hfallback
    · split
      · exact labelled_fallback hL hsupport hdirect hfallback
      · exact labelled_refused hsupport hdirect hfallback

/-- A decision on evidence with labels of `L` has labels of `L`. -/
theorem labelled_evaluate (hL : Closed L) (hev : ev.Labelled L) :
  (evaluate req ev).Labelled L
  := by
  have houtcome := labelled_outcome req ev hL (labelled_checkDirect req hL hev)
  rw [evaluate]
  generalize outcome req ev (checkDirect req ev) = d at houtcome
  exact { houtcome with }

/-- Unless a registration is real, no path is direct without being degraded. -/
theorem not_directAllowed (hreal : ¬L .real) (hev : ev.Labelled L) :
  (evaluate req ev).eligibility ≠ .directAllowed
  := by
  intro hallowed
  obtain ⟨-, reg, hnewest, hsupport⟩ := (evaluate_eligibility_iff req ev).1.mp hallowed
  apply hreal
  rw [← hsupport]
  apply hev.registrations reg hnewest.mem

end PathPlanner

/-! ### States -/

/-- Every record is labelled in `L`. -/
structure State.Labelled (L : Support → Prop) (s : State) : Prop where
  buffers : s.buffers.All fun _ b => L b.support
  devices : s.devices.All fun _ d => L d.support
  endpoints : s.endpoints.All fun _ e => L e.support
  nics : s.nics.All fun _ n => L n.support
  storage : s.storage.All fun _ e => L e.support
  providers : s.providers.All fun _ p => L p.support
  capabilities : s.capabilities.All fun _ c => L c.support
  registrations : s.registrations.All fun _ r => L r.support
  plans : s.plans.All fun _ p => L p.support ∧ ∀ st ∈ p.stages, L st.support
  attempts : s.attempts.All fun _ a => L a.support
  receipts : s.receipts.All fun _ r => L r.support
  verifications : s.verifications.All fun _ v => L v.support

/-- What the event brings from outside is labelled in `L`: the parameters of a call, and whatever
the backend may answer. -/
def Event.Carries (L : Support → Prop) : Event → Prop
  | .createBuffer p => L p.support
  | .addDevice p => L p.support
  | .addEndpoint p => L p.support
  | .addNic rec => L rec.support
  | .addStorageEndpoint rec => L rec.support
  | .addProvider p => L p.support
  | .publishCapability p => L p.support
  | .registerBuffer p none => L p.support
  | .registerBuffer _ (some backend) =>
    ∀ spec rr, backend.registerBuffer spec = .ok rr → L rr.support
  | .beginTransfer _ _ (some backend) =>
    ∀ run outcome, backend.runTransfer run = .ok outcome → L outcome.support
  | _ => True

section

variable {L : Support → Prop}

/-- A snapshot of labelled records is labelled. -/
theorem State.Labelled.evidence {s : State} (hL : Closed L) (h : s.Labelled L)
    (p : PlanRequestParams) :
  (buildEvidenceLocked p s).Labelled L
  where
  source := by
    dsimp only [buildEvidenceLocked]
    cases hb : s.buffers.lookup p.source with
    | none => apply hL.unknown
    | some b => apply h.buffers _ b hb
  capabilities := Table.forall_values.mpr h.capabilities
  registrations := Table.forall_values.mpr h.registrations

/-- The answer to a registration is labelled as what the event carries. -/
theorem label_backendRegister {p : RegisterParams} {backend : Option Backend} {b : BufferRecord}
    {e : EndpointRecord} {rr : RegisterResult}
    (hcarries : (Event.registerBuffer p backend).Carries L)
    (hanswer : backendRegister p backend b e = .ok rr) :
  L rr.support
  := by
  cases backend with
  | none =>
      obtain rfl := Except.ok.inj hanswer
      apply hcarries
  | some backend =>
      rw [backendRegister] at hanswer
      split at hanswer
      next => cases hanswer
      next rr' hrr =>
        obtain rfl := Except.ok.inj hanswer
        apply hcarries _ rr' hrr

/-- An attempt is labelled as its plan, or as what the event carries. -/
theorem label_runAttempt {plan : TransferPlan} {planId : TransferPlanId} {authority : Authority}
    {handle : Option BackendHandle} {backend : Option Backend} {attempt : TransferAttempt}
    (hcarries : (Event.beginTransfer planId authority backend).Carries L)
    (hattempt : L attempt.support) :
  L (runAttempt plan handle backend attempt).support
  := by
  cases backend with
  | none => apply hattempt
  | some backend =>
      unfold runAttempt
      dsimp only
      split
      next => apply hattempt
      next outcome houtcome => apply hcarries _ outcome houtcome

namespace State.Labelled

variable {s s' : State} {e : Event}

theorem start (epoch : CoordinatorEpoch) :
  (Coordinator epoch).Labelled L
  := by
  constructor
  all_goals apply Table.All.empty

theorem mapRegistrations {f : Registration → Registration} (h : s.Labelled L)
    (hf : ∀ r, (f r).support = r.support) :
  (s.registrations.mapVals f).All fun _ r => L r.support
  := h.registrations.mapVals fun _ r hr => (congrArg L (hf r)).mpr hr

theorem support_revalidateIf (p : Registration → Bool) (r : Registration) :
  (State.revalidateIf p r).support = r.support
  := by
  rw [State.revalidateIf]
  split
  · rfl
  · rfl

theorem mapPlans (q : TransferPlan → Bool) (h : s.Labelled L) :
  (s.plans.mapVals (State.supersedeIf q)).All
    fun _ p => L p.support ∧ ∀ st ∈ p.stages, L st.support
  := by
  refine h.plans.mapVals fun k p hp => ?_
  rw [State.supersedeIf]
  split
  · apply hp
  · apply hp

theorem rearranged (h : s.Labelled L) (hs : s.Rearranged s') :
  s'.Labelled L
  where
  buffers := hs.buffers.all h.buffers
  devices := hs.devices.all h.devices
  endpoints := hs.endpoints.all h.endpoints
  nics := hs.nics.all h.nics
  storage := hs.storage.all h.storage
  providers := hs.providers.all h.providers
  capabilities := hs.capabilities.all h.capabilities
  registrations := hs.registrations.all h.registrations
  plans := hs.plans.all h.plans
  attempts := hs.attempts.all h.attempts
  receipts := hs.receipts.all h.receipts
  verifications := hs.verifications.all h.verifications

/-- A nic is stored with its label, whatever id and generation it is given. -/
theorem addNic {rec : NicRecord} (h : s.Labelled L) (hrec : L rec.support) :
  (addNic rec s).2.nics.All fun _ n => L n.support
  := by
  apply h.nics.insert
  dsimp only
  split
  · split
    · apply hrec
    · apply hrec
  · split
    · apply hrec
    · apply hrec

theorem addStorageEndpoint {rec : StorageEndpointRecord} (h : s.Labelled L)
    (hrec : L rec.support) :
  (addStorageEndpoint rec s).2.storage.All fun _ e => L e.support
  := by
  apply h.storage.insert
  dsimp only
  split
  · split
    · apply hrec
    · apply hrec
  · split
    · apply hrec
    · apply hrec

/-- The records after an event, but for receipts and verifications. -/
theorem effect_records (hL : Closed L) (h : s.Labelled L) (hwf : WellFormed s)
    (he : Effect e s s') (hrecover : ∀ file, e ≠ .recover file) (hcarries : e.Carries L)
    (hdecided : ∀ p d, e = .planCommit p d → L d.support) :
  { s' with receipts := ∅, verifications := ∅ : State }.Labelled L
  := by
  have hempty := Table.All.empty (V := TransferReceipt) (P := fun _ r => L r.support)
  have hempty' := Table.All.empty (V := VerificationReceipt) (P := fun _ v => L v.support)
  have hrest : { s with receipts := ∅, verifications := ∅ : State }.Labelled L :=
    { h with receipts := hempty, verifications := hempty' }
  cases he with
  | markWorkerDead =>
      exact { hrest with registrations := h.mapRegistrations (support_revalidateIf _) }
  | advanceEpoch =>
      exact { hrest with
        registrations := h.mapRegistrations (support_revalidateIf _)
        plans := h.mapPlans _ }
  | createBuffer => exact { hrest with buffers := h.buffers.insert hcarries }
  | advanceBufferGeneration hb | retireBuffer hb =>
      exact { hrest with
        buffers := h.buffers.modify hb fun hb => hb
        registrations := h.mapRegistrations (support_revalidateIf _)
        plans := h.mapPlans _ }
  | addDevice => exact { hrest with devices := h.devices.insert hcarries }
  | addEndpoint => exact { hrest with endpoints := h.endpoints.insert hcarries }
  | advanceEndpointGeneration hd =>
      exact { hrest with
        endpoints := h.endpoints.modify hd fun hd => hd
        registrations := h.mapRegistrations (support_revalidateIf _)
        plans := h.mapPlans _ }
  | setEndpointHealth hd =>
      exact { hrest with endpoints := h.endpoints.modify hd fun hd => hd }
  | addNic => exact { hrest with nics := h.addNic hcarries }
  | addStorageEndpoint => exact { hrest with storage := h.addStorageEndpoint hcarries }
  | updateProvider | addProvider =>
      exact { hrest with providers := h.providers.insert hcarries }
  | publishCapability => exact { hrest with capabilities := h.capabilities.insert hcarries }
  | revokeCapability => exact { hrest with capabilities := h.capabilities.erase }
  | retireDeregistering =>
      exact { hrest with
        registrations := by
          apply h.mapRegistrations
          intro r
          split
          · rfl
          · rfl }
  | registerBuffer haccepted hretired =>
      obtain rfl := retires_eq hwf hretired
      exact { hrest with
        buffers := h.buffers.modify haccepted.buffer fun hb => hb
        registrations :=
          h.registrations.insert (label_backendRegister hcarries haccepted.answer) }
  | retire hreg | deregisterBuffer hreg =>
      exact { hrest with registrations := h.registrations.modify hreg fun hr => hr }
  | deregisterCached hreg hb =>
      exact { hrest with
        registrations := h.registrations.modify hreg fun hr => hr
        buffers := h.buffers.modify hb fun hb => hb }
  | @planDirect _ p d src dst =>
      have hd := hdecided p d rfl
      exact { hrest with plans := h.plans.insert ⟨hd, List.forall_mem_singleton.mpr hd⟩ }
  | @planFallback _ p d src dst =>
      have hd := hdecided p d rfl
      exact { hrest with
        buffers := h.buffers.insert hL.synthetic
        plans := h.plans.insert ⟨hd, by
          intro st hst
          obtain rfl | hst := List.mem_cons.mp hst
          · apply hL.synthetic
          · obtain rfl := List.mem_singleton.mp hst
            apply hL.synthetic⟩ }
  | beginTransfer hready =>
      have hplan := (h.plans _ _ hready.stored).1
      exact { hrest with
        attempts := h.attempts.insert (label_runAttempt hcarries hplan) }
  | completeTransfer hattempt | cancelTransfer hattempt =>
      exact { hrest with attempts := h.attempts.modify hattempt fun ha => ha }
  | rehash hs =>
      exact { h.rearranged hs with receipts := hempty, verifications := hempty' }
  | recover => exact absurd rfl (hrecover _)
  | _ => exact { hrest with }

/-- Every event but a recovery keeps the labels in `L`, if what it carries has a label in `L`. -/
theorem step (hL : Closed L) (h : s.Labelled L) (hwf : WellFormed s)
    (he : Effect e s (apply e s)) (hrecover : ∀ file, e ≠ .recover file) (hcarries : e.Carries L)
    (hdecided : ∀ p d, e = .planCommit p d → L d.support) :
  (apply e s).Labelled L
  := { h.effect_records hL hwf he hrecover hcarries hdecided with
    receipts := by
      intro k r hr
      obtain hold | ⟨a, ha, habout⟩ := apply_receipts he hrecover hr
      · apply h.receipts k r hold
      · rw [habout.support]
        apply h.attempts k a ha
    verifications := by
      intro k v hv
      obtain hold | ⟨-, id, a, ha, habout⟩ := apply_verifications he hrecover hv
      · apply h.verifications k v hold
      · rw [habout.support]
        apply h.attempts id a ha }

/-- What is kept by recovering a record holds of a table recovered from records where it holds. -/
theorem all_recovered {ρ : Type} {id : ρ → ℕ} {recovered : ρ → ρ} {t t' : Table ρ} {P : ρ → Prop}
    (h : t'.All (FromRecord id recovered t.values)) (ht : t.All fun _ r => P r)
    (hP : ∀ r, P r → P (recovered r)) :
  t'.All fun _ r => P r
  := by
  intro k r hr
  obtain ⟨r, hmem, -, rfl⟩ := h k r hr
  apply hP
  apply Table.forall_values.mpr ht r hmem

/-- What is recovered from labelled records is labelled. -/
theorem recovered {d : State} (hd : d.Labelled L) (h : RecoveredFrom d s) :
  s.Labelled L
  where
  buffers := all_recovered h.buffers hd.buffers fun _ hb => hb
  devices := all_recovered h.devices hd.devices fun _ hb => hb
  endpoints := all_recovered h.endpoints hd.endpoints fun _ hb => hb
  nics := all_recovered h.nics hd.nics fun _ hb => hb
  storage := all_recovered h.storage hd.storage fun _ hb => hb
  providers := all_recovered h.providers hd.providers fun _ hb => hb
  capabilities := all_recovered h.capabilities hd.capabilities fun _ hb => hb
  registrations := all_recovered h.registrations hd.registrations fun _ hb => hb
  plans := by
    apply all_recovered h.plans hd.plans
    intro p hp
    use hp.1
    apply List.forall_mem_nil
  attempts := by
    rw [h.attempts]
    apply Table.All.empty
  receipts := by
    rw [h.receipts]
    apply Table.All.empty
  verifications := by
    rw [h.verifications]
    apply Table.All.empty

end State.Labelled

/-! ### Reachable worlds -/

/-- Coordinators to which everything that comes from outside is labelled in `L`. -/
def labelledFabric (L : Support → Prop) : System World Event :=
  persistedFabric.restrict fun _ e => e.Carries L

/-- The records and the pending decisions of a world are labelled in `L`. -/
structure World.Labelled (L : Support → Prop) (w : World) : Prop where
  state : w.state.Labelled L
  pending : ∀ p d, (p, d) ∈ w.pending → d.Labelled L

theorem World.Labelled.next {w : World} {e : Event} (hL : Closed L) (hw : w.Labelled L)
    (hstate : (w.next e).state.Labelled L) :
  (w.next e).Labelled L
  := by
  apply World.Labelled.mk hstate
  intro p d hpending
  obtain hold | ⟨rfl, rfl⟩ := World.mem_pending_next hpending
  · apply hw.pending p d hold
  · apply labelled_evaluate hL (hw.state.evidence hL p)

theorem labelled_of_reachable (hL : Closed L) {w : World} (h : (labelledFabric L).Reachable w) :
  w.Labelled L
  := by
  apply h.induction
  · rintro w ⟨epoch, rfl⟩
    apply World.Labelled.mk (.start epoch)
    rintro p d ⟨⟩
  · rintro w e w' hreach hw ⟨hcarries, hallowed, rfl⟩
    have hrecover : ∀ file, e ≠ .recover file := by
      rintro file rfl
      exact absurd hallowed.1 (by decide)
    apply hw.next hL
    apply hw.state.step hL (wellFormed_of_reachable hreach.of_restrict) hallowed.effect hrecover
      hcarries
    rintro p d rfl
    apply (hw.pending p d hallowed).support
  · rintro d w e w' - hd - hw ⟨hfits, -, rfl, rfl⟩
    apply hw.next hL
    rw [World.next_state, Coordinator.apply]
    obtain hsame | hrecovered := recoverFromFile_persisted hfits w.state
    · rw [hsame]
      apply hw.state
    · apply hd.state.recovered hrecovered

/-- Calls that carry labels in `L` may be made one after another. -/
theorem labelled_replay {w : World} {es : List Event} (h : (labelledFabric L).Reachable w)
    (hes : es.all Event.isCall = true) (hcarries : ∀ e ∈ es, e.Carries L) :
  (labelledFabric L).Reachable (w.replay es)
  := by
  induction es generalizing w with
  | nil => apply h
  | cons e es ih =>
      rw [List.all_cons, Bool.and_eq_true] at hes
      rw [List.forall_mem_cons] at hcarries
      obtain ⟨_, hrun⟩ := h
      apply ih _ hes.2 hcarries.2
      exact ⟨_, hrun.step ⟨hcarries.1, Event.allowed_of_isCall hes.1, rfl⟩⟩

/-- Labels are not made up.  If whatever comes from outside is labelled in a set with `UNKNOWN`,
`UNSUPPORTED` and `SYNTHETIC`, then so is every record of every reachable state, over restarts too,
and every decision on a path, with all its candidates.  If real support is not in the set, then no
path is ever direct without being degraded. -/
theorem labels_closed (hL : Closed L) {w : World} (h : (labelledFabric L).Reachable w) :
  w.state.Labelled L ∧ (∀ p, (evaluatePath p w.state).Labelled L) ∧
    (¬L .real → ∀ p, (evaluatePath p w.state).eligibility ≠ .directAllowed)
  := by
  have hw := labelled_of_reachable hL h
  use hw.state, fun p => labelled_evaluate hL (hw.state.evidence hL p)
  intro hreal p
  apply not_directAllowed hreal (hw.state.evidence hL p)

end

/-! ### A fixture -/

namespace Fixture

/-- One synthetic GPU buffer of a worker, registered for one healthy synthetic NIC. -/
def syntheticCalls : List Event :=
  [.addProvider { name := "rdma", available := true, support := .synthetic },
    .addDevice { name := "gpu0", support := .synthetic },
    .addEndpoint { endpointClass := .nic, healthy := true, support := .synthetic },
    .publishCapability
      { provider := "rdma"
        capability := "direct_nic"
        value := "true"
        support := .synthetic
        authority := { epoch := 1 } },
    .registerWorker 1 1 1,
    .createBuffer
      { domain := .cudaDevice
        size := 4096
        device := 3
        authority := owner
        support := .synthetic },
    .registerBuffer { buffer := 6, endpoint := 4, authority := owner, support := .synthetic } none]

/-- The world in which the synthetic buffer is registered. -/
def synthetic : World := ({ state := Coordinator 1 } : World).replay syntheticCalls

theorem reachable_synthetic :
  (labelledFabric (· ≠ .real)).Reachable synthetic
  := by
  apply labelled_replay
  · exact ⟨[], .start ⟨1, rfl⟩⟩
  · rfl
  · simp [syntheticCalls, Event.Carries]

example : (evaluatePath request synthetic.state).eligibility = .directAllowedDegraded := by
  decide +kernel

end Fixture

theorem labels_closed_synthetic :
  Fixture.synthetic.state.Labelled (· ≠ .real) ∧
  ∀ p, (evaluatePath p Fixture.synthetic.state).eligibility ≠ .directAllowed
  := by
  have hclosed : Closed (· ≠ .real) := by
    constructor
    all_goals rintro ⟨⟩
  obtain ⟨hlabelled, -, hallowed⟩ := labels_closed hclosed Fixture.reachable_synthetic
  use hlabelled
  apply hallowed
  intro hreal
  apply hreal rfl

end GpuDirectFabric
