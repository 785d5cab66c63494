import GpuDirectFabric.Integrity

/-!
# Verifications

A verification receipt is stored when an attempt is decided, and by `verify_transfer` for any
attempt at all, with whatever verdict and number of bytes the caller gives.  The receipts that say
`passed` are of completed attempts as long as these calls are.
-/

namespace GpuDirectFabric

open Coordinator Persistence

/-- The verification receipts that say `passed` are of completed attempts, and of all their
bytes. -/
def PassedCompleted (s : State) : Prop :=
  s.verifications.All fun _ vr => vr.passed = true →
    ∃ a, s.attempts.lookup vr.attemptId = some a ∧ a.state = .completed ∧
      vr.bytesChecked = a.bytes

/-- If the event is a call of `verify_transfer` that says `passed`, it is of a completed attempt,
and of all its bytes. -/
def Event.VerifiesCompleted (e : Event) (s : State) : Prop :=
  ∀ id n, e = .verifyTransfer id true n → ∀ a, s.attempts.lookup id = some a →
    a.state = .completed ∧ n = a.bytes

/-- Where nothing is verified, nothing is wrongly said to have passed. -/
theorem PassedCompleted.empty {s : State} (h : s.verifications = ∅) :
  PassedCompleted s
  := by
  rw [PassedCompleted, h]
  exact .empty

/-- A committed attempt that is answered stays as it is. -/
theorem AttemptStep.keeps_answered {e : Event} {s s' : State} {k : TransferAttemptId}
    {a : TransferAttempt} (hstep : AttemptStep e s s' k a)
    (hcommitted : a.completionCommitted = true) (hreceipt : (s.receipts.lookup k).isSome = true) :
  s'.attempts.lookup k = some a
  := by
  cases hstep with
  | rest hattempt => exact hattempt
  | reported _ hattempt => exact hattempt
  | decided _ h => exact absurd ⟨hcommitted, hreceipt⟩ h.unanswered
  | cancelled _ hopen =>
      rw [hopen] at hcommitted
      cases hcommitted

/-- An event keeps the receipts that say `passed` those of completed attempts exactly when it does
not verify another attempt, or other bytes. -/
theorem VerificationStep.passedCompleted_iff {e : Event} {s s' : State}
    (hstep : VerificationStep e s s') (hwf : WellFormed s)
    (hkept : ∀ k a, s.attempts.lookup k = some a → a.state = .completed →
      s'.attempts.lookup k = some a)
    (hdecided : ∀ id caller a, e = .completeTransfer id caller → Completable id caller a s →
      s'.attempts.lookup id = some (decided a))
    (h : PassedCompleted s) :
  PassedCompleted s' ↔ e.VerifiesCompleted s
  := by
  have hold : s.verifications.All fun _ vr => vr.passed = true → ∃ a,
      s'.attempts.lookup vr.attemptId = some a ∧ a.state = .completed ∧
        vr.bytesChecked = a.bytes := by
    intro k vr hvr hpassed
    obtain ⟨a, ha, hcompleted, hbytes⟩ := h k vr hvr hpassed
    exact ⟨a, hkept _ a ha hcompleted, hcompleted, hbytes⟩
  cases hstep with
  | rest hverifications _ hnone =>
      apply iff_of_true
      · intro k vr hvr
        rw [hverifications] at hvr
        exact hold k vr hvr
      · intro id n he a ha
        rw [hnone id true n he] at ha
        cases ha
  | @completed id caller a passed he hcompletable hpassed hdelivered hverifications =>
      subst he
      apply iff_of_true
      · rw [PassedCompleted, hverifications]
        apply hold.insert
        intro hsays
        have hsays : passed = true := hsays
        refine ⟨decided a, ?_, ?_, rfl⟩
        · change s'.attempts.lookup a.id = _
          rw [(hwf.attempts id a hcompletable.stored).1]
          exact hdecided id caller a rfl hcompletable
        · rw [decided, verdict, if_neg (hpassed.mp hsays)]
          exact if_pos (hdelivered hsays)
      · rintro id' n ⟨⟩
  | @verified id passed n a vr he ha hattempts hid hvrPassed hbytes hverifications =>
      subst he
      have hvr : s'.verifications.lookup (s.nextId + 1) = some vr := by
        rw [hverifications, AList.lookup_insert]
      have hattempt : s'.attempts.lookup vr.attemptId = some a := by
        rw [hattempts, hid, (hwf.attempts id a ha).1, ha]
      constructor
      · rintro hafter id' n' ⟨⟩ a' ha'
        obtain rfl := Option.some.inj (ha.symm.trans ha')
        obtain ⟨a', ha', hcompleted, hall⟩ := hafter _ vr hvr hvrPassed
        obtain rfl := Option.some.inj (hattempt.symm.trans ha')
        exact ⟨hcompleted, hbytes.symm.trans hall⟩
      · intro hverifies
        rw [PassedCompleted, hverifications]
        apply hold.insert
        intro hpassed
        rw [hvrPassed] at hpassed
        subst hpassed
        obtain ⟨hcompleted, rfl⟩ := hverifies id n rfl a ha
        exact ⟨a, hattempt, hcompleted, hbytes⟩

/-- In every run, whatever the backends answer and in whatever order the calls come: in all its
states the receipts that say `passed` are of completed attempts, of all their bytes, exactly when
every call of `verify_transfer` that says so is. -/
theorem passed_completed_iff {h : List (World × Event)} {w : World}
    (hrun : persistedFabric.Run h w) :
  (∀ v ∈ System.visited h w, PassedCompleted v.state) ↔
    ∀ p ∈ h, p.2.VerifiesCompleted p.1.state
  := by
  refine hrun.invariant_iff (P := fun w => PassedCompleted w.state)
    (C := fun w e => e.VerifiesCompleted w.state) ?_ ?_ ?_
  · rintro w ⟨epoch, rfl⟩
    exact .empty rfl
  · rintro w e w' hw hpassed ⟨hallowed, rfl⟩
    have hrecover : ∀ file, e ≠ .recover file := by
      rintro file rfl
      exact absurd hallowed.1 (by decide)
    have hwf := wellFormed_of_reachable hw
    have hsettled := settled_of_reachable hw
    have haccounted := accounted_of_reachable hw
    rw [World.next_state]
    refine (hallowed.effect.verificationStep hrecover).passedCompleted_iff hwf ?_ ?_ hpassed
    · intro k a ha hcompleted
      have hcommitted := haccounted.committed k a ha hcompleted
      exact (hallowed.effect.attemptStep hrecover hwf ha).keeps_answered hcommitted
        (hsettled.committed k a ha hcommitted)
    · rintro id caller a rfl hcompletable
      rw [apply, completeTransfer_decided hcompletable, (finishAttempt_tables _ _ _).1,
        AList.lookup_insert]
  · rintro d w e w' - - hpassed ⟨hfits, -, rfl, rfl⟩
    apply iff_of_true
    · rw [World.next_state, apply]
      obtain hsame | hrec := recoverFromFile_persisted hfits w.state
      · rw [hsame]
        exact hpassed
      · exact .empty hrec.verifications
    · rintro id n ⟨⟩

namespace Fixture

/-- The run in which the owner cancels the transfer, and someone then verifies it. -/
def falselyVerified : World := cancelled.next (.verifyTransfer 10 true 4096)

theorem reachable_falselyVerified :
  persistedFabric.Reachable falselyVerified
  := reachable_next reachable_cancelled trivial

end Fixture

theorem passed_completed_iff_fixture :
  ∃ h, persistedFabric.Run h Fixture.falselyVerified ∧
    ((∀ v ∈ System.visited h Fixture.falselyVerified, PassedCompleted v.state) ↔
      ∀ p ∈ h, p.2.VerifiesCompleted p.1.state)
  := by
  obtain ⟨h, hrun⟩ := Fixture.reachable_falselyVerified
  exact ⟨h, hrun, passed_completed_iff hrun⟩

/-- A verification receipt says that a cancelled transfer has passed. -/
theorem cancelled_transfer_verified :
  persistedFabric.Reachable Fixture.falselyVerified ∧
  (Fixture.falselyVerified.state.attempts.lookup 10).map TransferAttempt.state = some .cancelled ∧
  ¬PassedCompleted Fixture.falselyVerified.state
  := by
  refine ⟨Fixture.reachable_falselyVerified, by decide +kernel, fun hpassed => ?_⟩
  have hverified : ∃ vr, Fixture.falselyVerified.state.verifications.lookup 11 = some vr ∧
      vr.passed = true ∧
      (Fixture.falselyVerified.state.attempts.lookup vr.attemptId).map TransferAttempt.state
        = some .cancelled := by
    decide +kernel
  obtain ⟨vr, hvr, hsays, hstate⟩ := hverified
  obtain ⟨a, ha, hcompleted, -⟩ := hpassed 11 vr hvr hsays
  rw [ha, Option.map_some, hcompleted] at hstate
  cases hstate

end GpuDirectFabric
