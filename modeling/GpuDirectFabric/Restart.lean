import GpuDirectFabric.Eligibility
import GpuDirectFabric.Frames
import GpuDirectFabric.Recovery

/-!
# Restarts

A recovery that succeeds, and an epoch change, leave no live authority.  Authority comes back
from a registration only: until one succeeds no direct path is allowed, and the only plans a
transfer can begin from are those committed since.
-/

namespace GpuDirectFabric

open Coordinator Persistence

/-- The state is one a restart leaves: a recovery of any file, or an epoch change. -/
def Restarted (s : State) : Prop :=
  (∃ file out, recoverFromFile file out = (.ok (), s)) ∨ ∃ s₀, s = (advanceEpoch s₀).2

theorem Restarted.unowned {s : State} (h : Restarted s) :
  Unowned s
  := by
  obtain ⟨file, out, h⟩ | ⟨s₀, rfl⟩ := h
  · obtain ⟨e, he⟩ | hunowned := recoverFromFile_unowned file out
    · rw [he] at h
      cases h
    · rw [h] at hunowned
      exact hunowned
  · exact advanceEpoch_unowned s₀

/-- The event is a call of `register_buffer` that succeeds. -/
def Event.Registers (w : World) (e : Event) : Prop :=
  ∃ p backend r, e = .registerBuffer p backend ∧
    (Coordinator.registerBuffer p backend w.state).1 = .ok r

/-- The plan was committed by an event of the history. -/
def Committed (h : List (World × Event)) (plan : TransferPlan) : Prop :=
  ∃ u p d, (u, .planCommit p d) ∈ h ∧ (planTransferCommit p d u.state).1 = .ok plan

/-- No registration is in force, and the plans in force were committed in the history `h`. -/
structure Quiet (h : List (World × Event)) (s : State) : Prop where
  registrations : s.registrations.All fun _ r => r.state ≠ .registered
  plans : s.plans.All fun _ plan => plan.authoritative = true → Committed h plan

namespace Quiet

variable {h : List (World × Event)} {s : State}

theorem of_unowned (hs : Unowned s) :
  Quiet h s
  where
  registrations := hs.registrations
  plans := hs.plans.mono fun k plan hplan hauthoritative => by
    rw [hplan] at hauthoritative
    cases hauthoritative

theorem cons (hs : Quiet h s) (p : World × Event) :
  Quiet (p :: h) s
  where
  registrations := hs.registrations
  plans := by
    intro k plan hplan hauthoritative
    obtain ⟨u, p', d, hmem, hresult⟩ := hs.plans k plan hplan hauthoritative
    exact ⟨u, p', d, List.mem_cons_of_mem p hmem, hresult⟩

/-- An event that registers nothing keeps the coordinator quiet. -/
theorem next {setting : Setting} {w : World} {e : Event} (hs : Quiet h w.state)
    (hallowed : e.Allowed setting w) (hno : ¬e.Registers w) :
  Quiet ((w, e) :: h) (w.next e).state
  := by
  rw [World.next_state]
  obtain hsame | hunowned | ⟨hnot, heffect⟩ := hallowed.outcome
  · rw [hsame]
    exact hs.cons _
  · exact of_unowned hunowned
  · constructor
    · intro k r hr hstate
      obtain hold | ⟨p, backend, rfl, hnew⟩ := heffect.registered hnot hr hstate
      · exact hs.registrations k r hold hstate
      · exact hno ⟨p, backend, r, rfl, hnew.result⟩
    · intro k plan hplan hauthoritative
      obtain hold | ⟨p, d, rfl, -, hnew⟩ := heffect.authoritative hnot hplan hauthoritative
      · exact (hs.cons _).plans k plan hold hauthoritative
      · exact ⟨w, p, d, List.mem_cons_self, hnew.result⟩

/-- Without a registration in force no path is direct. -/
theorem evaluatePath_not_direct (hs : Quiet h s) (p : PlanRequestParams) :
  (evaluatePath p s).eligibility.isDirect = false
  := by
  apply Bool.eq_false_iff.mpr
  intro hdirect
  obtain ⟨r, hfound, hstate, -⟩ := ((PathPlanner.evaluate_isDirect _ _).mp hdirect).registration
  obtain ⟨k, hk⟩ := Table.mem_values.mp (PathPlanner.latest_mem hfound).1
  exact hs.registrations k r hk hstate

/-- Without a registration in force no direct plan is committed, whatever the decision. -/
theorem planTransferCommit_not_direct (hs : Quiet h s) {p : PlanRequestParams} {d : PathDecision}
    {plan : TransferPlan} (hplan : (planTransferCommit p d s).1 = .ok plan) :
  plan.eligibility.isDirect = false
  := by
  apply Bool.eq_false_iff.mpr
  intro hdirect
  have hplanned := planned_of_ok hplan
  rw [hplanned.eligibility] at hdirect
  obtain ⟨r, hfound, -⟩ := hplanned.direct hdirect
  obtain ⟨hmem, hr⟩ := PathPlanner.latest_mem hfound
  obtain ⟨k, hk⟩ := Table.mem_values.mp hmem
  rw [Bool.and_eq_true] at hr
  exact hs.registrations k r hk (by simpa using hr.2)

end Quiet

/-- A run without a successful registration stays quiet. -/
theorem quiet_of_run {setting : Setting} {w₀ w : World} {h : List (World × Event)}
    (hstart : Unowned w₀.state) (hrun : (fabric setting (· = w₀)).Run h w)
    (hno : ∀ v e, (v, e) ∈ h → ¬e.Registers v) :
  Quiet h w.state
  := by
  induction hrun with
  | start hw =>
      obtain rfl := hw
      exact .of_unowned hstart
  | step run hs ih =>
      obtain ⟨hallowed, rfl⟩ := hs
      apply Quiet.next _ hallowed (hno _ _ List.mem_cons_self)
      exact ih fun v e hmem => hno v e (List.mem_cons_of_mem _ hmem)
  | @handover _ _ v d _ _ run donor hs ih =>
      obtain ⟨-, hmay, rfl, rfl⟩ := hs
      have hallowed : Event.Allowed ⟨true, setting.midPlan⟩ v (.recover (persistToFile d.state)) :=
        ⟨rfl, hmay⟩
      apply Quiet.next _ hallowed (hno _ _ List.mem_cons_self)
      exact ih fun v e hmem => hno v e (List.mem_cons_of_mem _ hmem)

/-- A restart leaves no live authority, and in any run from there without a successful
registration no path is direct, no direct plan is committed, and a transfer begins only from a plan
committed in that run. -/
theorem restart_revokes :
  (∀ s, Restarted s → Unowned s) ∧
  ∀ w₀ w h, Restarted w₀.state → (fabric ⟨true, true⟩ (· = w₀)).Run h w →
    (∀ v e, (v, e) ∈ h → ¬e.Registers v) →
    (∀ p, (evaluatePath p w.state).eligibility.isDirect = false) ∧
    (∀ p d plan, (planTransferCommit p d w.state).1 = .ok plan →
      plan.eligibility.isDirect = false) ∧
    ∀ planId authority backend attempt,
      (beginTransfer planId authority backend w.state).1 = .ok attempt →
      ∃ plan, w.state.plans.lookup planId = some plan ∧ Committed h plan
  := by
  constructor
  · intro s hs
    exact hs.unowned
  · intro w₀ w h hstart hrun hno
    have hquiet := quiet_of_run hstart.unowned hrun hno
    refine ⟨hquiet.evaluatePath_not_direct, fun p d plan => hquiet.planTransferCommit_not_direct,
      ?_⟩
    intro planId authority backend attempt hbegin
    obtain ⟨-, plan, hready⟩ := ready_of_ok hbegin
    exact ⟨plan, hready.stored, hquiet.plans _ _ hready.stored hready.authoritative⟩

namespace Fixture

/-- The world right after an epoch change. -/
def restarted : World := { state := (advanceEpoch planned.state).2 }

/-- The staging through host memory is evidenced anew. -/
def publishStaging : Event :=
  .publishCapability
    { provider := "host"
      capability := "host_staging"
      value := "true"
      support := .synthetic
      authority := { epoch := 2 } }

/-- The world with the staging evidenced. -/
def staging : World := restarted.next publishStaging

/-- The world in which a staged path is planned. -/
def staged : World := staging.plan request

/-- What happened since the epoch change. -/
def stagedHistory : List (World × Event) :=
  [(staging.next (.planSnapshot request), .planCommit request (evaluatePath request staging.state)),
    (staging, .planSnapshot request), (restarted, publishStaging)]

theorem run_staged :
  (fabric ⟨true, true⟩ (· = restarted)).Run stagedHistory staged
  := by
  apply System.Run.step (System.Run.step (System.Run.step (.start rfl) _) _)
  · exact ⟨List.mem_cons_self, rfl⟩
  · exact ⟨trivial, rfl⟩
  · exact ⟨trivial, rfl⟩

end Fixture

theorem restart_revokes_fixture :
  Unowned Fixture.restarted.state ∧
  (evaluatePath Fixture.request Fixture.staged.state).eligibility.isDirect = false ∧
  ∃ plan, Fixture.staged.state.plans.lookup 11 = some plan ∧
    Committed Fixture.stagedHistory plan
  := by
  have hrestarted : Restarted Fixture.restarted.state := .inr ⟨_, rfl⟩
  have hno : ∀ v e, (v, e) ∈ Fixture.stagedHistory → ¬e.Registers v := by
    rintro v e hmem ⟨p, backend, r, rfl, -⟩
    simp [Fixture.stagedHistory, Fixture.publishStaging] at hmem
  obtain ⟨hpath, -, hbegin⟩ := restart_revokes.2 _ _ _ hrestarted Fixture.run_staged hno
  refine ⟨restart_revokes.1 _ hrestarted, hpath Fixture.request, ?_⟩
  cases hattempt : (beginTransfer 11 { epoch := 2 } none Fixture.staged.state).1 with
  | ok attempt => exact hbegin 11 { epoch := 2 } none attempt hattempt
  | error e =>
      have hok : (beginTransfer 11 { epoch := 2 } none Fixture.staged.state).1.isOk = true := by
        decide +kernel
      rw [hattempt] at hok
      cases hok

end GpuDirectFabric
