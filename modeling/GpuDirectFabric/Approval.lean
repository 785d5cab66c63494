import GpuDirectFabric.DirectPath
import GpuDirectFabric.LatestRegistrations
import GpuDirectFabric.Revalidation

/-!
# Plans and their approval

`plan_transfer` evaluates a request on a snapshot and commits the decision later, when anything
may have happened to the coordinator.  A plan has the stages its decision asks for; whether the
planner would still approve of it in the state it is committed to depends on the evidence there.
-/

namespace GpuDirectFabric

open Coordinator PathPlanner

/-! ### Stages -/

/-- A plan for a request for the direct path alone has one direct stage and one copy, whatever
happened since the request was evaluated. -/
theorem stages_of_directOnly {p : PlanRequestParams} {s₀ s₁ : State} {plan : TransferPlan}
    (hpolicy : p.policy = .directOnly)
    (hcommit : (planTransferCommit p (evaluatePath p s₀) s₁).1 = .ok plan) :
  (∃ stage, plan.stages = [stage] ∧ stage.direct = true) ∧ plan.copyCount = 1
  := by
  obtain ⟨e, heq⟩ | ⟨src, dst, -, -, -, -, heligible, -, heq⟩ :=
    planTransferCommit_cases p (evaluatePath p s₀) s₁
  · rw [heq] at hcommit
    cases hcommit
  · have hdirect : (evaluatePath p s₀).eligibility.isDirect = true := by
      obtain hdirect | ⟨hfallback, -⟩ := heligible
      · exact hdirect
      · obtain ⟨hpolicy', -⟩ := (evaluate_eligibility_iff _ _).2.2.mp hfallback
        exact absurd hpolicy hpolicy'
    rw [heq, storePlan, if_pos hdirect] at hcommit
    obtain rfl := Except.ok.inj hcommit
    exact ⟨⟨_, rfl, rfl⟩, rfl⟩

/-- The policy has no part in the direct verdict, and decides alone whether a request that is not
direct may be staged: never for a request for the direct path alone, nor for its plans. -/
theorem policy_decides_staging_only :
  (∀ (req : PathRequest) (ev : PathEvidence) (policy : PathPolicy),
    SameVerdict (evaluate { req with policy := policy } ev) (evaluate req ev)) ∧
  (∀ (req : PathRequest) (ev : PathEvidence), req.policy = .directOnly →
    (evaluate req ev).eligibility = (evaluate req ev).directEligibility ∧
      (evaluate req ev).fallbackAvailable = false ∧
      (evaluate req ev).fallbackCandidates = [] ∧ (evaluate req ev).selectedFallback = none) ∧
  (∀ (req : PathRequest) (ev : PathEvidence), req.policy ≠ .directOnly →
    ((evaluate req ev).eligibility = .fallbackRequired ↔
        (evaluate req ev).directEligibility.isDirect = false ∧ StagingOpen ev) ∧
      ((evaluate req ev).eligibility = .fallbackRequired →
        ∃ c, (evaluate req ev).fallbackCandidates = [c] ∧
          (evaluate req ev).selectedFallback = some c)) ∧
  ∀ (p : PlanRequestParams) (s₀ s₁ : State) (plan : TransferPlan), p.policy = .directOnly →
    (planTransferCommit p (evaluatePath p s₀) s₁).1 = .ok plan →
    (∃ stage, plan.stages = [stage] ∧ stage.direct = true) ∧ plan.copyCount = 1
  := by
  refine ⟨?_, ?_, ?_, ?_⟩
  · intro req ev policy
    have h := evaluate_verdict { req with policy := policy } ev
    rw [checkDirect_policy] at h
    exact h.trans (evaluate_verdict req ev).symm
  · intro req ev hpolicy
    rw [evaluate_directEligibility]
    have hunstaged := checkDirect_unstaged req ev
    rw [evaluate]
    generalize checkDirect req ev = e at hunstaged
    exact outcome_directOnly ev hpolicy hunstaged
  · intro req ev hpolicy
    rw [evaluate_directEligibility]
    have hunstaged := checkDirect_unstaged req ev
    rw [evaluate]
    generalize checkDirect req ev = e at hunstaged
    exact outcome_staged hpolicy hunstaged
  · intro p s₀ s₁ plan hpolicy hcommit
    exact stages_of_directOnly hpolicy hcommit

namespace Fixture

/-- The request for the direct path alone. -/
def directOnlyRequest : PlanRequestParams := { request with policy := .directOnly }

/-- Its plan. -/
def directOnlyPlan : TransferPlan :=
  ((planTransfer directOnlyRequest registered.state).2.plans.lookup 8).getD {}

end Fixture

theorem policy_decides_staging_only_fixture :
  ((∃ stage, Fixture.directOnlyPlan.stages = [stage] ∧ stage.direct = true) ∧
      Fixture.directOnlyPlan.copyCount = 1) ∧
    (evaluate { Fixture.unclassifiedRequest with policy := .directOnly }
      Fixture.unclassified).fallbackAvailable = false ∧
    ((evaluate Fixture.unclassifiedRequest Fixture.unclassified).eligibility = .fallbackRequired ↔
      (evaluate Fixture.unclassifiedRequest Fixture.unclassified).directEligibility.isDirect
          = false ∧ StagingOpen Fixture.unclassified)
  := by
  obtain ⟨-, hdirectOnly, hstaged, hplan⟩ := policy_decides_staging_only
  refine ⟨?_, ?_, ?_⟩
  · exact hplan Fixture.directOnlyRequest Fixture.registered.state Fixture.registered.state _ rfl
      (by decide +kernel)
  · exact (hdirectOnly _ Fixture.unclassified rfl).2.1
  · exact (hstaged _ _ (by decide)).1

/-! ### Approval at the commit -/

/-- No recovery is among the steps. -/
def Unrecovered (steps : List (World × Event)) : Prop := ∀ u file, (u, Event.recover file) ∉ steps

/-- While nothing is recovered, the records of a snapshot stay. -/
theorem keeps_since {later earlier : List (World × Event)} {u w : World} {p : PlanRequestParams}
    (hrun : persistedFabric.Run (later ++ (u, .planSnapshot p) :: earlier) w)
    (hunrecovered : Unrecovered later) :
  u.state.Keeps w.state
  := by
  have hnext : ∀ v e v', persistedFabric.Reachable v → (∀ file, e ≠ .recover file) →
      (persistedFabric.step v e v' ∨ ∃ d, persistedFabric.handover d v e v') →
      v.state.Keeps v'.state := by
    rintro v e v' hv hrecover (⟨hallowed, rfl⟩ | ⟨d, -, -, rfl, -⟩)
    · apply hallowed.effect.keeps (wellFormed_of_reachable hv) hrecover
    · cases hrecover _ rfl
  apply hrun.since (P := fun v => u.state.Keeps v.state)
  · intro v hs
    have hu := hrun.reachable_of_visited
      (System.mem_visited_of_mem (List.mem_append_right later List.mem_cons_self))
    apply hnext _ _ _ hu _ hs
    rintro file ⟨⟩
  · intro v e v' hmem hv hkeeps hs
    apply hkeeps.trans (hnext v e v' hv _ hs)
    rintro file rfl
    apply hunrecovered v file hmem

/-- What the commit of a direct path does not look at: the endpoint is reached, and the registration
that the commit finds has a live authority, and is real exactly if that of the snapshot was. -/
structure DirectStands (p : PlanRequestParams) (s₀ s : State) : Prop where
  endpoint : Reached p.destination s
  registration : ∀ r, registeredRegistration s p.source p.destination = some r →
    s.workerLiveLocked r.authority = true ∧
      (r.support = .real ↔ RealRegistration (buildEvidenceLocked p s₀))

/-- What the commit of a staged path does not look at: the endpoint is healthy, host staging is
evidenced at the present epoch, and no direct path has come up. -/
structure StagingStands (p : PlanRequestParams) (s : State) : Prop where
  endpoint : ∃ e, s.endpoints.lookup p.destination = some e ∧ e.healthy = true
  staging : ∃ c ∈ s.capabilities.values, c.capability = "host_staging" ∧ c.value = "true" ∧
    c.support ≠ .unsupported ∧ c.authority.epoch = s.epoch
  closed : ¬(Suits p.source p.destination p.size s ∧ Evidenced p.source p.destination s)

/-- The endpoint is classified. -/
def Classified (destination : EndpointId) (s : State) : Prop :=
  ∃ e, s.endpoints.lookup destination = some e ∧ e.endpointClass ≠ .unknown

theorem Classified.kept {destination : EndpointId} {s s' : State} (h : Classified destination s)
    (hkept : s.Keeps s') :
  Classified destination s'
  := by
  obtain ⟨e, he, hclass⟩ := h
  obtain ⟨e', he', hfixed⟩ := hkept.endpoint _ e he
  obtain ⟨hclass', -⟩ : e'.endpointClass = e.endpointClass ∧ e'.support = e.support := by
    simpa [EndpointRecord.fixed] using hfixed
  use e', he'
  rw [hclass']
  apply hclass

/-- What the commit does not look at has not changed the decision made on the snapshot `s₀`.  What
is fixed about the two ends of the path matters only if something has been recovered meanwhile. -/
structure Upheld (later : List (World × Event)) (p : PlanRequestParams) (s₀ s : State) :
    Prop where
  direct : DirectConditions (pathRequest p) (buildEvidenceLocked p s₀) →
    (Unrecovered later ∨ Suits p.source p.destination p.size s) ∧ DirectStands p s₀ s
  staged : ¬DirectConditions (pathRequest p) (buildEvidenceLocked p s₀) →
    (Unrecovered later ∨ Classified p.destination s) ∧ StagingStands p s

/-- A destination that can be staged to is an endpoint. -/
theorem StagingOpen.destination_ne_zero {p : PlanRequestParams} {s : State}
    (h : StagingOpen (buildEvidenceLocked p s)) (hwf : WellFormed s) :
  p.destination ≠ 0
  := by
  obtain ⟨⟨hid, -⟩, -⟩ := h
  rw [buildEvidenceLocked] at hid
  cases he : s.endpoints.lookup p.destination with
  | none =>
      rw [he] at hid
      exact absurd rfl hid
  | some e =>
      rw [he, Option.getD_some] at hid
      rw [hwf.endpoint_id he] at hid
      exact hid

/-- A destination that can be staged to is classified. -/
theorem classified_of_stagingOpen {p : PlanRequestParams} {s : State}
    (h : StagingOpen (buildEvidenceLocked p s)) :
  Classified p.destination s
  := by
  obtain ⟨hid, -, hclass⟩ := h.destination
  obtain ⟨e, he⟩ := lookup_of_valid EndpointRecord.id rfl (valid_iff.mpr hid)
  rw [evidence_destination he] at hclass
  use e

section

variable {p : PlanRequestParams} {d : PathDecision} {w : World} {plan : TransferPlan}

/-- Only a direct path and a staged one are committed. -/
theorem decided_of_commit {s : State} (hcommit : (planTransferCommit p d s).1 = .ok plan) :
  d.eligibility.isDirect = true ∨ d.eligibility = .fallbackRequired
  := by
  obtain ⟨e, heq⟩ | ⟨src, dst, -, -, -, -, heligible, -⟩ := planTransferCommit_cases p d s
  · rw [heq] at hcommit
    cases hcommit
  · apply heligible.imp_right And.left

/-- The commit of a direct path has found the latest registration of its ends, which is in
force. -/
theorem found_of_commit (hw : persistedFabric.Reachable w)
    (hcommit : (planTransferCommit p d w.state).1 = .ok plan)
    (hdirect : d.eligibility.isDirect = true) :
  ∃ r, registeredRegistration w.state p.source p.destination = some r ∧
    latestRegistration w.state p.source p.destination = some r ∧ r.state = .registered
  := by
  have hwf := wellFormed_of_reachable hw
  have hplanned := planned_of_ok hcommit
  obtain ⟨src, hsrc, -, hsource, -⟩ := hplanned.source
  obtain ⟨dst, hdst, -, hdestination, -⟩ := hplanned.destination
  obtain ⟨r, hr, -⟩ := hplanned.direct hdirect
  rw [hsource, hdestination, hwf.buffer_id hsrc, hwf.endpoint_id hdst] at hr
  obtain ⟨-, -, -, hstate⟩ := registeredRegistration_spec hwf hr
  use r, hr, (searches_agree hw hr).1

/-- The planner takes the latest registration of two ends that are there. -/
theorem realRegistration_iff_latest (hw : persistedFabric.Reachable w)
    (hcommit : (planTransferCommit p d w.state).1 = .ok plan) {r : Registration}
    (hr : latestRegistration w.state p.source p.destination = some r) :
  RealRegistration (buildEvidenceLocked p w.state) ↔ r.support = .real
  := by
  have hwf := wellFormed_of_reachable hw
  have hplanned := planned_of_ok hcommit
  obtain ⟨src, hsrc, -⟩ := hplanned.source
  obtain ⟨dst, hdst, -⟩ := hplanned.destination
  apply realRegistration_iff
  rw [evidence_source hsrc, evidence_destination hdst, hwf.buffer_id hsrc, hwf.endpoint_id hdst]
  apply hr

/-- Where a direct path is committed, it is decided on again as before exactly if its ends suit it
and what the commit does not look at stands. -/
theorem direct_upheld_iff {s₀ : State} (hw : persistedFabric.Reachable w)
    (hcommit : (planTransferCommit p (evaluatePath p s₀) w.state).1 = .ok plan)
    (hdirect : (evaluatePath p s₀).eligibility.isDirect = true) :
  (evaluatePath p w.state).eligibility = (evaluatePath p s₀).eligibility ↔
    Suits p.source p.destination p.size w.state ∧ DirectStands p s₀ w.state
  := by
  obtain ⟨r, hr, hlatest, hstate⟩ := found_of_commit hw hcommit hdirect
  have hreal := realRegistration_iff_latest hw hcommit hlatest
  have hagain := isDirect_iff_evidenced hw p
  obtain ⟨hallowed₀, hdegraded₀, -⟩ :=
    evaluate_eligibility_iff (pathRequest p) (buildEvidenceLocked p s₀)
  obtain ⟨hallowed, hdegraded, -⟩ :=
    evaluate_eligibility_iff (pathRequest p) (buildEvidenceLocked p w.state)
  have hconditions := (evaluate_isDirect (pathRequest p) (buildEvidenceLocked p w.state)).trans
    (directRequirements_iff _ _)
  have hsame : (evaluatePath p w.state).eligibility = (evaluatePath p s₀).eligibility ↔
      (evaluatePath p w.state).eligibility.isDirect = true ∧
        (r.support = .real ↔ RealRegistration (buildEvidenceLocked p s₀)) := by
    rw [← hreal]
    obtain hdecided | hdecided := isDirect_iff.mp hdirect
    · obtain ⟨-, hreal₀⟩ := hallowed₀.mp hdecided
      rw [hdecided]
      apply hallowed.trans
      rw [evaluatePath, hconditions]
      simp [hreal₀]
    · obtain ⟨-, hreal₀⟩ := hdegraded₀.mp hdecided
      rw [hdecided]
      apply hdegraded.trans
      rw [evaluatePath, hconditions]
      simp [hreal₀]
  rw [hsame, hagain]
  constructor
  · rintro ⟨⟨hsuits, hreached, r', hr', -, hlive⟩, hsupport⟩
    obtain rfl := Option.some.inj (hlatest.symm.trans hr')
    use hsuits, hreached
    intro r' hr'
    obtain rfl := Option.some.inj (hr.symm.trans hr')
    use hlive
  · rintro ⟨hsuits, hreached, hregistration⟩
    obtain ⟨hlive, hsupport⟩ := hregistration r hr
    use ⟨hsuits, hreached, r, hlatest, hstate, hlive⟩

/-- Where a staged path is committed, it is decided on again as before exactly if its endpoint is
classified and what the commit does not look at stands. -/
theorem staged_upheld_iff {s₀ : State} (hwf₀ : WellFormed s₀) (hw : persistedFabric.Reachable w)
    (hcommit : (planTransferCommit p (evaluatePath p s₀) w.state).1 = .ok plan)
    (hstaged : (evaluatePath p s₀).eligibility = .fallbackRequired) :
  (evaluatePath p w.state).eligibility = (evaluatePath p s₀).eligibility ↔
    Classified p.destination w.state ∧ StagingStands p w.state
  := by
  obtain ⟨hpolicy, -, hopen⟩ := (evaluate_eligibility_iff _ _).2.2.mp hstaged
  obtain ⟨dst, hdst, -⟩ := (planned_of_ok hcommit).destination
  have hid := (wellFormed_of_reachable hw).endpoint_id hdst
  have hdestination := evidence_destination hdst
  have hclosed : DirectConditions (pathRequest p) (buildEvidenceLocked p w.state) ↔
      Suits p.source p.destination p.size w.state ∧ Evidenced p.source p.destination w.state := by
    rw [← isDirect_iff_evidenced hw, ← directRequirements_iff]
    apply (evaluate_isDirect _ _).symm
  rw [hstaged]
  apply (evaluate_eligibility_iff _ _).2.2.trans
  rw [hclosed]
  constructor
  · rintro ⟨-, hnot, hstaging⟩
    obtain ⟨-, hhealthy, hclass⟩ := hstaging.destination
    rw [hdestination] at hhealthy hclass
    use ⟨dst, hdst, hclass⟩, ⟨dst, hdst, hhealthy⟩, hstaging.staging
  · rintro ⟨⟨e, he, hclass⟩, ⟨e', he', hhealthy⟩, hstaging, hnot⟩
    obtain rfl := Option.some.inj (hdst.symm.trans he)
    obtain rfl := Option.some.inj (hdst.symm.trans he')
    use hpolicy, hnot
    constructor
    · rw [hdestination, hid]
      use StagingOpen.destination_ne_zero hopen hwf₀
    · apply hstaging

end

/-- Whatever happens between the snapshot and the commit of a call of `plan_transfer` that
succeeds, evaluating the request again at the commit gives the eligibility of the plan exactly when
what the commit does not look at upholds the decision. -/
theorem approved_at_commit_iff {later earlier : List (World × Event)} {u w : World}
    {p : PlanRequestParams} {plan : TransferPlan}
    (hrun : persistedFabric.Run (later ++ (u, .planSnapshot p) :: earlier) w)
    (hcommit : (planTransferCommit p (evaluatePath p u.state) w.state).1 = .ok plan) :
  (evaluatePath p w.state).eligibility = plan.eligibility ↔ Upheld later p u.state w.state
  := by
  have hw : persistedFabric.Reachable w := ⟨_, hrun⟩
  have hu := hrun.reachable_of_visited
    (System.mem_visited_of_mem (List.mem_append_right later List.mem_cons_self))
  have hwf := wellFormed_of_reachable hu
  have hplanned := planned_of_ok hcommit
  rw [hplanned.eligibility]
  obtain hdirect | hfallback := decided_of_commit hcommit
  · have hconditions := (directRequirements_iff _ _).mp ((evaluate_isDirect _ _).mp hdirect)
    have hsuits := suits_of_direct hwf hdirect
    apply (direct_upheld_iff hw hcommit hdirect).trans
    constructor
    · rintro ⟨hsuits, hstands⟩
      constructor
      · intro _
        use .inr hsuits
      · intro hclosed
        cases hclosed hconditions
    · intro hupheld
      obtain ⟨hunrecovered | hsuits', hstands⟩ := hupheld.direct hconditions
      · use hsuits.kept (keeps_since hrun hunrecovered)
      · use hsuits'
  · obtain ⟨-, hclosed, hopen⟩ := (evaluate_eligibility_iff _ _).2.2.mp hfallback
    apply (staged_upheld_iff hwf hw hcommit hfallback).trans
    constructor
    · rintro ⟨hclassified, hstands⟩
      constructor
      · intro hconditions
        cases hclosed hconditions
      · intro _
        use .inr hclassified
    · intro hupheld
      obtain ⟨hunrecovered | hclassified, hstands⟩ := hupheld.staged hclosed
      · use (classified_of_stagingOpen hopen).kept (keeps_since hrun hunrecovered)
      · use hclassified

namespace Fixture

/-- The registered world with the decision on the request still to commit. -/
def decided : World := registered.next (.planSnapshot request)

/-- The endpoint has become unhealthy before the commit. -/
def decidedUnhealthy : World := decided.next (.setEndpointHealth 4 false {})

/-- Another worker has registered before the commit. -/
def decidedJoined : World := decided.next (.registerWorker 2 1 1)

/-- A run takes a snapshot, and makes a call before the commit. -/
theorem run_snapshot {w : World} (hw : persistedFabric.Reachable w) (p : PlanRequestParams)
    {e : Event} (he : e.isCall = true) :
  ∃ earlier, persistedFabric.Run
    ([(w.next (.planSnapshot p), e)] ++ (w, .planSnapshot p) :: earlier)
    ((w.next (.planSnapshot p)).next e)
  := by
  obtain ⟨earlier, hrun⟩ := hw
  have hsnapshot : persistedFabric.Run ((w, .planSnapshot p) :: earlier)
      (w.next (.planSnapshot p)) := hrun.step ⟨trivial, rfl⟩
  use earlier
  apply hsnapshot.step ⟨Event.allowed_of_isCall he, rfl⟩

end Fixture

theorem approved_at_commit_iff_fixture :
  (evaluatePath Fixture.request Fixture.decidedJoined.state).eligibility
      = Fixture.plan.eligibility ↔
    Upheld [(Fixture.decided, .registerWorker 2 1 1)] Fixture.request Fixture.registered.state
      Fixture.decidedJoined.state
  := by
  obtain ⟨earlier, hrun⟩ := Fixture.run_snapshot (Fixture.reachable_registered _) Fixture.request
    (e := .registerWorker 2 1 1) rfl
  apply approved_at_commit_iff hrun
  decide +kernel

/-- A plan is committed that the planner would refuse in the state it is committed to: the endpoint
has become unhealthy since the snapshot. -/
theorem not_approved_at_commit :
  (∃ earlier, persistedFabric.Run ([(Fixture.decided, .setEndpointHealth 4 false {})] ++
      (Fixture.registered, .planSnapshot Fixture.request) :: earlier) Fixture.decidedUnhealthy) ∧
    (planTransferCommit Fixture.request (evaluatePath Fixture.request Fixture.registered.state)
      Fixture.decidedUnhealthy.state).1 = .ok Fixture.plan ∧
    Fixture.plan.eligibility = .directAllowed ∧
    (evaluatePath Fixture.request Fixture.decidedUnhealthy.state).eligibility = .endpointStale
  := by
  refine ⟨Fixture.run_snapshot (Fixture.reachable_registered _) Fixture.request rfl, ?_, ?_, ?_⟩
  · decide +kernel
  · decide +kernel
  · decide +kernel

end GpuDirectFabric
