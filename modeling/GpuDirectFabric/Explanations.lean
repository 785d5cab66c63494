import GpuDirectFabric.DirectPath

/-!
# Explanations of decisions

A decision lists what the checks of the planner reported.  The list explains the direct outcome:
the checks after a requirement that is not satisfied are skipped, so such a requirement is the last
of the list, and it is there exactly when the direct path is refused.
-/

namespace GpuDirectFabric

namespace PathPlanner

/-- The reported requirements explain the direct outcome: they are satisfied while the outcome is
open or direct, and the last of them alone is not when the outcome is refused. -/
def Explained (vs : List RequirementViolation) (direct : PathEligibility) : Prop :=
  (∀ v ∈ vs, v.satisfied = true) ∧ (direct = .unsupported ∨ direct.isDirect = true) ∨
    ∃ met v, vs = met ++ [v] ∧ (∀ u ∈ met, u.satisfied = true) ∧ v.satisfied = false ∧
      Refused direct

/-- A report on an open evaluation keeps it explained. -/
theorem Reports.explained {e e' : Evaluation} (h : Reports e e') (hopen : e.direct = .unsupported)
    (hexplained : Explained e.decision.violations e.direct) :
  Explained e'.decision.violations e'.direct
  := by
  have hmet : ∀ u ∈ e.decision.violations, u.satisfied = true := by
    obtain ⟨hmet, -⟩ | ⟨_, _, _, _, _, hrefused⟩ := hexplained
    · exact hmet
    · exact absurd hopen hrefused.1
  obtain ⟨v, hentry, ⟨hsatisfied, hdirect⟩ | ⟨hunsatisfied, hrefused⟩⟩ := h.entry
  · refine .inl ⟨?_, hdirect.imp_left fun hkept => hkept.trans hopen⟩
    intro u hu
    rw [hentry, List.mem_append, List.mem_singleton] at hu
    obtain hu | rfl := hu
    · exact hmet u hu
    · exact hsatisfied
  · exact .inr ⟨_, v, hentry, hmet, hunsatisfied, hrefused⟩

theorem checkDirect_explained (req : PathRequest) (ev : PathEvidence) :
  Explained (checkDirect req ev).decision.violations (checkDirect req ev).direct
  := by
  apply checkDirect_induction (motive := fun e => Explained e.decision.violations e.direct)
  · exact .inl ⟨List.forall_mem_nil _, .inl rfl⟩
  · intro e e' h hopen hreports
    exact hreports.explained hopen h

/-- The checks add no candidate. -/
theorem checkDirect_directCandidates (req : PathRequest) (ev : PathEvidence) :
  (checkDirect req ev).decision.directCandidates = []
  := by
  apply checkDirect_induction (motive := fun e => e.decision.directCandidates = [])
  · rfl
  · intro e e' h _ hreports
    exact hreports.untouched.2.2.1.trans h

/-- The last check settles the outcome. -/
theorem checkDirect_settled (req : PathRequest) (ev : PathEvidence) :
  (checkDirect req ev).direct ≠ .unsupported
  := by
  obtain ⟨-, e, -, heq, -⟩ := checkDirect_eq req ev
  rw [heq]
  generalize unlessSettled (checkRegistration ev) e = e
  rw [unlessSettled]
  split
  next hopen =>
    rw [checkAlignment]
    split
    · rintro ⟨⟩
    · dsimp only
      split
      · rintro ⟨⟩
      · rintro ⟨⟩
  next hsettled => exact hsettled

/-- The verdict has a candidate exactly when the outcome is direct. -/
theorem verdict_directCandidates {e : Evaluation} (h : e.decision.directCandidates = []) :
  (verdict e).directCandidates ≠ [] ↔ e.direct.isDirect = true
  := by
  rw [verdict]
  split
  next hdirect => simp [hdirect]
  next hdirect => simp [hdirect, h]

theorem verdict_violations (e : Evaluation) :
  (verdict e).violations = e.decision.violations
  := by
  rw [verdict]
  split
  · rfl
  · rfl

/-- No fallback is selected for a direct outcome. -/
theorem evaluate_selectedFallback {req : PathRequest} {ev : PathEvidence}
    (h : (checkDirect req ev).direct.isDirect = true) :
  (evaluate req ev).selectedFallback = none
  := by
  have hunstaged := checkDirect_unstaged req ev
  rw [evaluate]
  generalize checkDirect req ev = e at h hunstaged
  rw [outcome, if_pos h]
  exact hunstaged.2.2.2

/-- The explanation of a decision matches its verdict. -/
theorem explanation_matches (req : PathRequest) (ev : PathEvidence) :
  (∃ met failed, (evaluate req ev).violations = met ++ failed ∧
    (∀ v ∈ met, v.satisfied = true) ∧ (∀ v ∈ failed, v.satisfied = false) ∧
    failed.length ≤ 1) ∧
  ((∃ v ∈ (evaluate req ev).violations, v.satisfied = false) ↔
    (evaluate req ev).directEligibility ≠ .directAllowed ∧
    (evaluate req ev).directEligibility ≠ .directAllowedDegraded) ∧
  (evaluate req ev).directEligibility ≠ .unsupported ∧
  ((evaluate req ev).directCandidates ≠ [] ↔
    (evaluate req ev).directEligibility = .directAllowed ∨
    (evaluate req ev).directEligibility = .directAllowedDegraded) ∧
  ((evaluate req ev).directCandidates ≠ [] → (evaluate req ev).selectedFallback = none)
  := by
  have hverdict := evaluate_verdict req ev
  have hsettled := checkDirect_settled req ev
  rw [hverdict.violations, verdict_violations, hverdict.directCandidates,
    verdict_directCandidates (checkDirect_directCandidates req ev), ← not_or, ← isDirect_iff,
    evaluate_directEligibility]
  refine ⟨?_, ?_, hsettled, Iff.rfl, evaluate_selectedFallback⟩
  · obtain ⟨hmet, -⟩ | ⟨met, v, heq, hmet, hv, -⟩ := checkDirect_explained req ev
    · exact ⟨_, [], (List.append_nil _).symm, hmet, List.forall_mem_nil _, Nat.zero_le 1⟩
    · refine ⟨met, [v], heq, hmet, fun u hu => ?_, le_rfl⟩
      rw [List.mem_singleton.mp hu]
      exact hv
  · obtain ⟨hmet, hopen | hdirect⟩ | ⟨met, v, heq, -, hv, hrefused⟩ :=
      checkDirect_explained req ev
    · exact absurd hopen hsettled
    · constructor
      · rintro ⟨v, hv, hfalse⟩
        rw [hmet v hv] at hfalse
        cases hfalse
      · intro hnot
        exact absurd hdirect hnot
    · constructor
      · intro
        rw [hrefused.2.2]
        exact Bool.false_ne_true
      · intro
        exact ⟨v, by rw [heq]; exact List.mem_concat_self, hv⟩

end PathPlanner

end GpuDirectFabric
