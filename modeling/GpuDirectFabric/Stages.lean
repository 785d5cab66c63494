import GpuDirectFabric.Approval
import GpuDirectFabric.Invalidation

/-!
# The stages of a plan

The planner classifies a request by its direction; the stages of the plan are built afterwards,
by the coordinator, which does not look at the direction.  A fallback plan always starts from its
source buffer and ends at the endpoint.
-/

namespace GpuDirectFabric

open Coordinator PathPlanner

/-- The direction in which the paths of a class carry data; between two accelerators there is no
telling. -/
def PathClass.direction : PathClass → Option Direction
  | .gpuToGpuDirect => none
  | .gpuToNicDirect | .gpuToStorageDirect | .gpuToHostPinned | .gpuToHostStagedToNic
  | .gpuToHostStagedToStorage => some .gpuToPeer
  | .nicToGpuDirect | .storageToGpuDirect | .hostPinnedToGpu | .nicToHostStagedToGpu
  | .storageToHostStagedToGpu => some .peerToGpu

/-- The stages `a` and `b` carry data through the buffer `tmp` in the direction of the request. -/
def ChainsThrough (p : PlanRequestParams) (tmp : BufferId) (a b : TransferStage) : Prop :=
  match p.direction with
  | .gpuToPeer =>
    a.src = p.source ∧ a.dst = tmp ∧ b.src = tmp ∧ b.endpoint = p.destination
  | .peerToGpu =>
    a.endpoint = p.destination ∧ a.dst = tmp ∧ b.src = tmp ∧ b.dst = p.source

/-- The stages of the plan carry the data of the request, which turned `s` into `s'`. -/
structure CarriesRequest (p : PlanRequestParams) (plan : TransferPlan) (s s' : State) :
    Prop where
  copies : plan.copyCount = plan.stages.length
  direct : plan.eligibility.isDirect = true → ∃ stage, plan.stages = [stage] ∧
    stage.direct = true ∧ stage.src = p.source ∧ stage.endpoint = p.destination
  staged : plan.eligibility.isDirect = false → ∃ tmp a b, plan.stages = [a, b] ∧
    s.buffers.lookup tmp = none ∧ (∃ t, s'.buffers.lookup tmp = some t ∧ t.size = p.size) ∧
    ChainsThrough p tmp a b ∧
    a.pathClass.direction = some p.direction ∧ b.pathClass.direction = some p.direction

/-! ### What a commit stores -/

/-- A plan is committed with one direct stage, or with two stages through a new buffer. -/
theorem committed_stages {p : PlanRequestParams} {d : PathDecision} {s : State}
    {plan : TransferPlan} (h : (planTransferCommit p d s).1 = .ok plan) :
  ∃ src dst, s.buffers.lookup p.source = some src ∧ s.endpoints.lookup p.destination = some dst ∧
    plan.support = d.support ∧
    (d.eligibility.isDirect = true ∧ plan.copyCount = 1 ∧
        plan.stages = [directStage d src.id dst.id] ∨
      d.eligibility = .fallbackRequired ∧ plan.copyCount = 2 ∧
        plan.stages = fallbackStages d src.id (s.nextId + 3) dst.id ∧
        ∃ t, t.size = p.size ∧
          (planTransferCommit p d s).2.buffers = s.buffers.insert (s.nextId + 3) t)
  := by
  obtain ⟨e, heq⟩ | ⟨src, dst, hsrc, -, hdst, -, heligible, -, heq⟩ :=
    planTransferCommit_cases p d s
  · rw [heq] at h
    cases h
  · refine ⟨src, dst, hsrc, hdst, ?_⟩
    rw [heq, storePlan] at h ⊢
    split at h
    next hdirect =>
      rw [if_pos hdirect]
      obtain rfl := Except.ok.inj h
      exact ⟨rfl, .inl ⟨hdirect, rfl, rfl⟩⟩
    next hdirect =>
      rw [if_neg hdirect]
      obtain hdirect' | ⟨hfallback, -⟩ := heligible
      · exact absurd hdirect' hdirect
      · obtain rfl := Except.ok.inj h
        refine ⟨rfl, .inr ⟨hfallback, rfl, rfl, _, ?_, rfl⟩⟩
        rfl

/-- The checks of a commit on the room for the plan and on the two ends of the path. -/
structure CommitChecks (p : PlanRequestParams) (d : PathDecision) (s : State) : Prop where
  room : s.plans.size < s.maxPlans
  source : ∃ b, s.buffers.lookup p.source = some b ∧ b.generation = d.sourceGeneration
  destination : ∃ e, s.endpoints.lookup p.destination = some e ∧
    e.generation = d.destinationGeneration

theorem room_of_committed {p : PlanRequestParams} {d : PathDecision} {s : State}
    {plan : TransferPlan} (h : (planTransferCommit p d s).1 = .ok plan) :
  s.plans.size < s.maxPlans
  := by
  rw [planTransferCommit] at h
  split at h
  · cases h
  · split at h
    · cases h
    next hroom => exact not_le.mp hroom

theorem commitChecks_of_ok {p : PlanRequestParams} {d : PathDecision} {s : State}
    {plan : TransferPlan} (h : (planTransferCommit p d s).1 = .ok plan) :
  CommitChecks p d s
  := by
  have hroom := room_of_committed h
  obtain ⟨e, heq⟩ | ⟨src, dst, hsrc, hsrcGeneration, hdst, hdstGeneration, -, -, -⟩ :=
    planTransferCommit_cases p d s
  · rw [heq] at h
    cases h
  · exact ⟨hroom, ⟨src, hsrc, hsrcGeneration⟩, ⟨dst, hdst, hdstGeneration⟩⟩

/-- A direct decision is committed when the checks pass and the ends are registered. -/
theorem commit_direct {p : PlanRequestParams} {d : PathDecision} {s : State}
    (h : d.eligibility.isDirect = true) (hchecks : CommitChecks p d s)
    (hregistered : ∀ b e, s.buffers.lookup p.source = some b →
      s.endpoints.lookup p.destination = some e →
      ∃ r, registeredRegistration s b.id e.id = some r) :
  ∃ plan, (planTransferCommit p d s).1 = .ok plan
  := by
  obtain ⟨b, hb, hbGeneration⟩ := hchecks.source
  obtain ⟨e, he, heGeneration⟩ := hchecks.destination
  obtain ⟨r, hr⟩ := hregistered b e hb he
  have hfirst : ¬(!d.eligibility.isDirect &&
      !(d.eligibility = .fallbackRequired && d.fallbackAvailable)) = true := by
    simp [h]
  rw [planTransferCommit, if_neg hfirst, if_neg (not_le.mpr hchecks.room), hb]
  dsimp only
  rw [if_neg (by simp [hbGeneration]), he]
  dsimp only
  rw [if_neg (by simp [heGeneration]), hr, if_neg (by simp), storePlan, if_pos h]
  exact ⟨_, rfl⟩

/-- A decision to stage is committed when the checks pass. -/
theorem commit_staged {p : PlanRequestParams} {d : PathDecision} {s : State}
    (h : d.eligibility = .fallbackRequired) (havailable : d.fallbackAvailable = true)
    (hchecks : CommitChecks p d s) :
  ∃ plan, (planTransferCommit p d s).1 = .ok plan
  := by
  obtain ⟨b, hb, hbGeneration⟩ := hchecks.source
  obtain ⟨e, he, heGeneration⟩ := hchecks.destination
  have hnot : d.eligibility.isDirect = false := by
    rw [h]
    rfl
  have hfirst : ¬(!d.eligibility.isDirect &&
      !(d.eligibility = .fallbackRequired && d.fallbackAvailable)) = true := by
    simp [h, havailable]
  rw [planTransferCommit, if_neg hfirst, if_neg (not_le.mpr hchecks.room), hb]
  dsimp only
  rw [if_neg (by simp [hbGeneration]), he]
  dsimp only
  rw [if_neg (by simp [heGeneration]), hnot, Bool.false_and, if_neg Bool.false_ne_true, storePlan,
    if_neg (by simp [hnot])]
  exact ⟨_, rfl⟩

/-- A fallback is available, and its candidate is of the class of the request. -/
theorem evaluate_selectedFallback {req : PathRequest} {ev : PathEvidence}
    (h : (evaluate req ev).eligibility = .fallbackRequired) :
  (evaluate req ev).fallbackAvailable = true ∧
    ∃ c, (evaluate req ev).selectedFallback = some c ∧ c.pathClass = fallbackClass req ev
  := by
  have hunstaged := checkDirect_unstaged req ev
  rw [evaluate] at h ⊢
  generalize checkDirect req ev = e at hunstaged h ⊢
  dsimp only at h ⊢
  rw [outcome] at h ⊢
  split at h
  · exact absurd h hunstaged.1
  · rw [if_neg (by assumption)]
    dsimp only at h ⊢
    split at h
    · exact absurd h hunstaged.1
    · rw [if_neg (by assumption)]
      split at h
      · rw [if_pos (by assumption)]
        exact ⟨rfl, _, rfl, rfl⟩
      · exact absurd h hunstaged.1

theorem fallbackClass_direction (req : PathRequest) (ev : PathEvidence) :
  (fallbackClass req ev).direction = some req.direction
  := by
  rw [fallbackClass]
  cases req.direction with
  | gpuToPeer => cases ev.destination.endpointClass <;> rfl
  | peerToGpu => cases ev.destination.endpointClass <;> rfl

/-- The stages of a fallback are of the class of its request, and run from the source buffer to
the endpoint. -/
theorem fallbackStages_eq {req : PathRequest} {ev : PathEvidence}
    (h : (evaluate req ev).eligibility = .fallbackRequired) (src tmp : BufferId)
    (dst : EndpointId) :
  ∃ a b, fallbackStages (evaluate req ev) src tmp dst = [a, b] ∧
    a.pathClass = fallbackClass req ev ∧ b.pathClass = fallbackClass req ev ∧
    a.src = src ∧ a.dst = tmp ∧ b.src = tmp ∧ b.endpoint = dst ∧ a.endpoint = 0
  := by
  obtain ⟨-, c, hc, hclass⟩ := evaluate_selectedFallback h
  rw [fallbackStages, hc]
  exact ⟨_, _, rfl, hclass, hclass, rfl, rfl, rfl, rfl, rfl⟩

/-! ### The direction of the data -/

/-- The stages of a plan carry the data of the request exactly when the direct path was allowed on
the snapshot or the data starts in the source buffer, whatever happened between the snapshot and
the commit. -/
theorem carriesRequest_iff {u w : World} (hu : persistedFabric.Reachable u)
    (hw : persistedFabric.Reachable w) {p : PlanRequestParams} {plan : TransferPlan}
    (hcommit : (planTransferCommit p (evaluatePath p u.state) w.state).1 = .ok plan) :
  CarriesRequest p plan w.state (planTransferCommit p (evaluatePath p u.state) w.state).2 ↔
    DirectConditions (pathRequest p) (buildEvidenceLocked p u.state) ∨ p.direction = .gpuToPeer
  := by
  have hwf := wellFormed_of_reachable hw
  have heligibility := (planned_of_ok hcommit).eligibility
  obtain ⟨src, dst, hsrc, hdst, -, hstages⟩ := committed_stages hcommit
  have hsource : src.id = p.source := hwf.buffer_id hsrc
  have hdestination : dst.id = p.destination := hwf.endpoint_id hdst
  rw [hsource, hdestination] at hstages
  obtain ⟨hdirect, hcopies, hstages⟩ | ⟨hfallback, hcopies, hstages, t, hsize, hbuffers⟩ := hstages
  · have hopen := (directRequirements_iff _ _).mp ((evaluate_isDirect _ _).mp hdirect)
    refine iff_of_true ?_ (.inl hopen)
    constructor
    · rw [hcopies, hstages]
      rfl
    · intro
      exact ⟨_, hstages, rfl, rfl, rfl⟩
    · intro hnot
      rw [heligibility, hdirect] at hnot
      cases hnot
  · obtain ⟨-, hclosed, hstaging⟩ := (evaluate_eligibility_iff _ _).2.2.mp hfallback
    obtain ⟨a, b, hab, haclass, hbclass, hasrc, hadst, hbsrc, hbend, haend⟩ :=
      fallbackStages_eq hfallback p.source (w.state.nextId + 3) p.destination
    have hdirection := fallbackClass_direction (pathRequest p) (buildEvidenceLocked p u.state)
    have hplan : plan.stages = [a, b] := hstages.trans hab
    have hnot : plan.eligibility.isDirect = false := by
      rw [heligibility, hfallback]
      rfl
    constructor
    · intro hcarries
      right
      obtain ⟨tmp, a', b', hab', -, -, hchain, -, -⟩ := hcarries.staged hnot
      rw [hplan] at hab'
      obtain ⟨rfl, -⟩ := List.cons_eq_cons.mp hab'
      rw [ChainsThrough] at hchain
      cases hpdirection : p.direction with
      | gpuToPeer => rfl
      | peerToGpu =>
          rw [hpdirection] at hchain
          have hzero := (StagingOpen.destination_ne_zero hstaging (wellFormed_of_reachable hu))
          exact absurd (hchain.1.symm.trans haend) hzero
    · rintro (hopen | hforward)
      · exact absurd hopen hclosed
      · constructor
        · rw [hcopies, hplan]
          rfl
        · intro hd
          rw [hnot] at hd
          cases hd
        · intro
          refine ⟨w.state.nextId + 3, a, b, hplan, hwf.buffer_fresh (by omega), ⟨t, ?_, hsize⟩, ?_,
            ?_, ?_⟩
          · rw [hbuffers, Table.lookup_insert_eq, if_pos rfl]
          · rw [ChainsThrough, hforward]
            exact ⟨hasrc, hadst, hbsrc, hbend⟩
          · rw [haclass]
            exact hdirection
          · rw [hbclass]
            exact hdirection

namespace Fixture

/-- A request for data from the endpoint, of which the buffer is the other end. -/
def inbound : PlanRequestParams := { request with direction := .peerToGpu }

/-- Its fallback plan. -/
def inboundPlan : TransferPlan :=
  ((planTransfer inbound stageable.state).2.plans.lookup 9).getD {}

theorem planTransfer_inbound :
  (planTransfer inbound stageable.state).1 = .ok inboundPlan
  := by decide +kernel

end Fixture

theorem carriesRequest_iff_fixture :
  CarriesRequest Fixture.inbound Fixture.inboundPlan Fixture.stageable.state
      (planTransferCommit Fixture.inbound (evaluatePath Fixture.inbound Fixture.stageable.state)
        Fixture.stageable.state).2 ↔
    DirectConditions (pathRequest Fixture.inbound)
        (buildEvidenceLocked Fixture.inbound Fixture.stageable.state) ∨
      Fixture.inbound.direction = .gpuToPeer
  := carriesRequest_iff (Fixture.reachable_stageable _) (Fixture.reachable_stageable _)
    Fixture.planTransfer_inbound

/-- Data from the endpoint is planned as if it came from the buffer. -/
theorem inbound_plan_reversed :
  persistedFabric.Reachable Fixture.stageable ∧
    (planTransfer Fixture.inbound Fixture.stageable.state).1 = .ok Fixture.inboundPlan ∧
    ¬CarriesRequest Fixture.inbound Fixture.inboundPlan Fixture.stageable.state
      (planTransfer Fixture.inbound Fixture.stageable.state).2
  := by
  refine ⟨Fixture.reachable_stageable _, Fixture.planTransfer_inbound, fun h => ?_⟩
  obtain ⟨tmp, a, b, hstages, -, -, hchain, -, -⟩ := h.staged (by decide +kernel)
  have hends : Fixture.inboundPlan.stages.map TransferStage.endpoint = [0, 4] := by
    decide +kernel
  rw [hstages] at hends
  obtain ⟨hzero, -⟩ := List.cons_eq_cons.mp hends
  exact absurd (hchain.1.symm.trans hzero) (by decide)

end GpuDirectFabric
