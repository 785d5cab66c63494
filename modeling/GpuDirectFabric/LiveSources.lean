import GpuDirectFabric.Fencing
import GpuDirectFabric.Stages

/-!
# The source of a plan

The planner checks that the source buffer is active and large enough, as requirements of the direct
path.  A request that does not meet them is staged like any other that does not have a direct path,
and the commit only asks for the generation of the source.
-/

namespace GpuDirectFabric

open Coordinator PathPlanner

/-! ### Generations -/

namespace PathPlanner

/-- The generations of the evidence are recorded. -/
def Dated (ev : PathEvidence) (e : Evaluation) : Prop :=
  e.decision.sourceGeneration = ev.source.generation ∧
    e.decision.destinationGeneration = ev.destination.generation

/-- A decision records the generations of its evidence. -/
theorem evaluate_generations (req : PathRequest) (ev : PathEvidence) :
  (evaluate req ev).sourceGeneration = ev.source.generation ∧
    (evaluate req ev).destinationGeneration = ev.destination.generation
  := by
  have h : Dated ev (checkDirect req ev) := by
    apply checkDirect_induction
    · exact ⟨rfl, rfl⟩
    · intro e e' h _ hreports
      obtain ⟨hsource, hdestination, -⟩ := hreports.untouched
      exact ⟨hsource.trans h.1, hdestination.trans h.2⟩
  rw [evaluate]
  generalize checkDirect req ev = e at h
  rw [outcome]
  split
  · exact h
  · dsimp only
    split
    · exact h
    · split
      · exact h
      · exact h

end PathPlanner

/-! ### Commits of a staged path -/

/-- The checks of a commit on the room for the plan and on the two ends of the path. -/
structure Committable (p : PlanRequestParams) (s₀ s₁ : State) : Prop where
  room : s₁.plans.size < s₁.maxPlans
  source : ∃ b, s₁.buffers.lookup p.source = some b ∧
    b.generation = ((s₀.buffers.lookup p.source).getD {}).generation
  destination : ∃ e, s₁.endpoints.lookup p.destination = some e ∧
    e.generation = ((s₀.endpoints.lookup p.destination).getD {}).generation

theorem committable_iff {p : PlanRequestParams} {s₀ s₁ : State} :
  Committable p s₀ s₁ ↔ CommitChecks p (evaluatePath p s₀) s₁
  := by
  obtain ⟨hsource, hdestination⟩ :=
    evaluate_generations (pathRequest p) (buildEvidenceLocked p s₀)
  constructor
  · rintro ⟨hroom, ⟨b, hb, hbGeneration⟩, ⟨e, he, heGeneration⟩⟩
    exact ⟨hroom, ⟨b, hb, hbGeneration.trans hsource.symm⟩,
      ⟨e, he, heGeneration.trans hdestination.symm⟩⟩
  · rintro ⟨hroom, ⟨b, hb, hbGeneration⟩, ⟨e, he, heGeneration⟩⟩
    exact ⟨hroom, ⟨b, hb, hbGeneration.trans hsource⟩,
      ⟨e, he, heGeneration.trans hdestination⟩⟩

/-! ### Live sources -/

/-- The source buffer of the request is active and large enough. -/
def LiveSource (p : PlanRequestParams) (s : State) : Prop :=
  ∃ b, s.buffers.lookup p.source = some b ∧ b.lifecycle = .active ∧ p.size ≤ b.size

/-- The request is not for the direct path alone and has none on the snapshot `s₀`, on which it
can be staged; and its commit in `s₁` passes all checks, although the source is not live. -/
structure StagedUnchecked (p : PlanRequestParams) (s₀ s₁ : State) : Prop extends
    Committable p s₀ s₁ where
  policy : p.policy ≠ .directOnly
  closed : ¬DirectConditions (pathRequest p) (buildEvidenceLocked p s₀)
  staging : StagingOpen (buildEvidenceLocked p s₀)
  dead : ¬LiveSource p s₁

/-- The request has the direct path on the snapshot `s₀`, and its commit in `s₁` passes all checks,
although the coordinator has been recovered from a file meanwhile, with a smaller source. -/
structure ReplacedUnchecked (later : List (World × Event)) (p : PlanRequestParams)
    (s₀ s₁ : State) : Prop extends Committable p s₀ s₁ where
  direct : DirectConditions (pathRequest p) (buildEvidenceLocked p s₀)
  recovered : ¬Unrecovered later
  registered : ∃ r, registeredRegistration s₁ p.source p.destination = some r
  small : ∃ b, s₁.buffers.lookup p.source = some b ∧ b.size < p.size

/-- A commit leaves the source as it is. -/
theorem liveSource_commit_iff {p : PlanRequestParams} {d : PathDecision} {s : State}
    (hwf : WellFormed s) :
  LiveSource p (planTransferCommit p d s).2 ↔ LiveSource p s
  := by
  obtain ⟨e, heq⟩ | ⟨src, dst, hsrc, -, -, -, -, -, heq⟩ := planTransferCommit_cases p d s
  · rw [heq]
  · have hsame : (planTransferCommit p d s).2.buffers.lookup p.source
        = s.buffers.lookup p.source := by
      have hbound := (hwf.buffers _ _ hsrc).2
      rw [heq, storePlan]
      split
      · rfl
      · have hlt := hbound.trans_lt (Nat.lt_add_of_pos_right (by decide : 0 < 3))
        exact AList.lookup_insert_ne hlt.ne
    rw [LiveSource, LiveSource, hsame]

/-- The source of a direct decision has been large enough on the snapshot. -/
theorem sized_of_direct {p : PlanRequestParams} {s : State}
    (hconditions : DirectConditions (pathRequest p) (buildEvidenceLocked p s)) :
  ∃ b, s.buffers.lookup p.source = some b ∧ p.size ≤ b.size
  := by
  have hid := hconditions.source.1
  have hsize := hconditions.size
  rw [buildEvidenceLocked, pathRequest] at hsize
  rw [buildEvidenceLocked] at hid
  cases hb : s.buffers.lookup p.source with
  | none =>
      rw [hb] at hid
      exact absurd rfl hid
  | some b =>
      rw [hb] at hsize
      use b, rfl, hsize

/-- The source of a direct plan is active when the plan is committed, since its registration is in
force. -/
theorem activeSource_of_direct {v : World} (hv : persistedFabric.Reachable v)
    {p : PlanRequestParams} {d : PathDecision} {plan : TransferPlan}
    (hcommit : (planTransferCommit p d v.state).1 = .ok plan)
    (hdirect : d.eligibility.isDirect = true) :
  ∃ b, v.state.buffers.lookup p.source = some b ∧ b.lifecycle = .active
  := by
  obtain ⟨r, hr, -, -⟩ := found_of_commit hv hcommit hdirect
  obtain ⟨hlookup, hbuffer, -, hstate⟩ :=
    registeredRegistration_spec (wellFormed_of_reachable hv) hr
  obtain ⟨b, hb, hactive, -⟩ :=
    (registrationCurrent_of_sound (fence_sound hv) hlookup hstate).buffer
  rw [hbuffer] at hb
  use b, hb, hactive

/-- The commit of a direct plan that finds too small a source is one after a recovery. -/
theorem replaced_of_direct {later earlier : List (World × Event)} {u v : World}
    {p : PlanRequestParams} {plan : TransferPlan}
    (hrun : persistedFabric.Run (later ++ (u, .planSnapshot p) :: earlier) v)
    (hcommit : (planTransferCommit p (evaluatePath p u.state) v.state).1 = .ok plan)
    (hdirect : (evaluatePath p u.state).eligibility.isDirect = true)
    (hdead : ¬LiveSource p v.state) :
  ReplacedUnchecked later p u.state v.state
  := by
  have hv : persistedFabric.Reachable v := ⟨_, hrun⟩
  have hconditions := (directRequirements_iff _ _).mp ((evaluate_isDirect _ _).mp hdirect)
  obtain ⟨r, hr, -⟩ := found_of_commit hv hcommit hdirect
  obtain ⟨b, hb, hactive⟩ := activeSource_of_direct hv hcommit hdirect
  have hsmall : b.size < p.size := by
    by_contra hlarge
    apply hdead ⟨b, hb, hactive, not_lt.mp hlarge⟩
  have hrecovered : ¬Unrecovered later := by
    intro hunrecovered
    -- the sizes of buffers are kept, and that of the source was checked on the snapshot
    obtain ⟨b₀, hb₀, hsize⟩ := sized_of_direct hconditions
    obtain ⟨b', hb', hfixed⟩ := (keeps_since hrun hunrecovered).buffer _ b₀ hb₀
    obtain rfl := Option.some.inj (hb.symm.trans hb')
    have hkept : b.size = b₀.size := congrArg Prod.fst hfixed
    omega
  exact ⟨committable_iff.mpr (commitChecks_of_ok hcommit), hconditions, hrecovered, ⟨r, hr⟩,
    b, hb, hsmall⟩

/-- A request that is staged unchecked gets a plan. -/
theorem StagedUnchecked.committed {p : PlanRequestParams} {s₀ s₁ : State}
    (h : StagedUnchecked p s₀ s₁) :
  ∃ plan, (planTransferCommit p (evaluatePath p s₀) s₁).1 = .ok plan
  := by
  have hstaged : (evaluatePath p s₀).eligibility = .fallbackRequired :=
    (evaluate_eligibility_iff _ _).2.2.mpr ⟨h.policy, h.closed, h.staging⟩
  apply commit_staged hstaged (evaluate_selectedFallback hstaged).1
  apply committable_iff.mp h.toCommittable

/-- So does one whose source has been replaced by a smaller one. -/
theorem ReplacedUnchecked.committed {later : List (World × Event)} {p : PlanRequestParams}
    {s₀ s₁ : State} (h : ReplacedUnchecked later p s₀ s₁) (hwf : WellFormed s₁) :
  ∃ plan, (planTransferCommit p (evaluatePath p s₀) s₁).1 = .ok plan
  := by
  have hdirect : (evaluatePath p s₀).eligibility.isDirect = true :=
    (evaluate_isDirect _ _).mpr ((directRequirements_iff _ _).mpr h.direct)
  apply commit_direct hdirect (committable_iff.mp h.toCommittable)
  intro b e hb he
  rw [hwf.buffer_id hb, hwf.endpoint_id he]
  apply h.registered

/-- The plans of a call of `plan_transfer` have a live source when the call ends, whatever happens
between its snapshot in `u` and its commit in `v`, exactly when the call neither stages the request
unchecked nor commits a direct path from a source that a recovery has made smaller. -/
theorem live_source_iff {later earlier : List (World × Event)} {u v : World}
    {p : PlanRequestParams}
    (hrun : persistedFabric.Run (later ++ (u, .planSnapshot p) :: earlier) v) :
  (∀ plan, (planTransferCommit p (evaluatePath p u.state) v.state).1 = .ok plan →
    LiveSource p (planTransferCommit p (evaluatePath p u.state) v.state).2) ↔
  ¬StagedUnchecked p u.state v.state ∧ ¬ReplacedUnchecked later p u.state v.state
  := by
  have hv : persistedFabric.Reachable v := ⟨_, hrun⟩
  have hwf := wellFormed_of_reachable hv
  rw [liveSource_commit_iff hwf]
  constructor
  · intro hlive
    constructor
    · intro hunchecked
      obtain ⟨plan, hplan⟩ := hunchecked.committed
      apply hunchecked.dead (hlive plan hplan)
    · intro hreplaced
      obtain ⟨plan, hplan⟩ := hreplaced.committed hwf
      obtain ⟨b, hb, -, hsize⟩ := hlive plan hplan
      obtain ⟨b', hb', hsmall⟩ := hreplaced.small
      obtain rfl := Option.some.inj (hb.symm.trans hb')
      apply absurd hsize (not_le.mpr hsmall)
  · rintro ⟨hunstaged, hunreplaced⟩ plan hplan
    by_contra hdead
    obtain hdirect | hfallback := decided_of_commit hplan
    · apply hunreplaced (replaced_of_direct hrun hplan hdirect hdead)
    · obtain ⟨hpolicy, hclosed, hstaging⟩ := (evaluate_eligibility_iff _ _).2.2.mp hfallback
      have hchecks := committable_iff.mpr (commitChecks_of_ok hplan)
      apply hunstaged ⟨hchecks, hpolicy, hclosed, hstaging, hdead⟩

namespace Fixture

/-- The world in which the buffer that can be staged is retired. -/
def retiredSource : World := stageable.next (.retireBuffer 6 owner)

theorem reachable_retiredSource :
  persistedFabric.Reachable retiredSource
  := reachable_next (reachable_stageable _) trivial

/-- Another worker has registered between the snapshot of the request and its commit. -/
def retiredJoined : World :=
  (retiredSource.next (.planSnapshot request)).next (.registerWorker 2 1 1)

end Fixture

theorem live_source_iff_fixture :
  (∀ plan, (planTransferCommit Fixture.request
      (evaluatePath Fixture.request Fixture.retiredSource.state)
      Fixture.retiredJoined.state).1 = .ok plan →
    LiveSource Fixture.request (planTransferCommit Fixture.request
      (evaluatePath Fixture.request Fixture.retiredSource.state) Fixture.retiredJoined.state).2) ↔
  ¬StagedUnchecked Fixture.request Fixture.retiredSource.state Fixture.retiredJoined.state ∧
    ¬ReplacedUnchecked
      [(Fixture.retiredSource.next (.planSnapshot Fixture.request), .registerWorker 2 1 1)]
      Fixture.request Fixture.retiredSource.state Fixture.retiredJoined.state
  := by
  obtain ⟨earlier, hrun⟩ := Fixture.run_snapshot Fixture.reachable_retiredSource Fixture.request
    (e := .registerWorker 2 1 1) rfl
  apply live_source_iff hrun

/-- A plan is made from a retired buffer. -/
theorem retired_source_planned :
  persistedFabric.Reachable Fixture.retiredSource ∧
    (∃ plan, (planTransfer Fixture.request Fixture.retiredSource.state).1 = .ok plan) ∧
    ¬LiveSource Fixture.request (planTransfer Fixture.request Fixture.retiredSource.state).2
  := by
  have hplanned : (planTransfer Fixture.request Fixture.retiredSource.state).1.isOk = true := by
    decide +kernel
  have hretired : ((planTransfer Fixture.request Fixture.retiredSource.state).2.buffers.lookup
      Fixture.request.source).all (fun b => b.lifecycle = .retired) = true := by
    decide +kernel
  refine ⟨Fixture.reachable_retiredSource, ?_, ?_⟩
  · cases hcall : (planTransfer Fixture.request Fixture.retiredSource.state).1 with
    | ok plan => exact ⟨plan, rfl⟩
    | error e =>
        rw [hcall] at hplanned
        cases hplanned
  · rintro ⟨b, hb, hactive, -⟩
    rw [hb, Option.all_some, decide_eq_true_eq, hactive] at hretired
    cases hretired

end GpuDirectFabric
