import GpuDirectFabric.OwnedRecords
import GpuDirectFabric.Outcomes

/-!
# What receipts say of bytes and integrity

An attempt keeps what its backend has reported when it began, and its plan keeps the bytes it
expects.  A `COMPLETED` receipt is made of these, together with the verification receipt of the
attempt.  A caller of `verify_transfer` can add verification receipts of its own, for any attempt.
-/

namespace GpuDirectFabric

open Coordinator Persistence

/-! ### What attempts and plans keep -/

/-- The attempts report the same. -/
structure SameReport (a b : TransferAttempt) : Prop where
  id : a.id = b.id
  planId : a.planId = b.planId
  submitted : a.submittedBytes = b.submittedBytes
  bytes : a.bytes = b.bytes
  checked : a.integrityChecked = b.integrityChecked
  passed : a.integrityPassed = b.integrityPassed

/-- An attempt is stored under its id after any event but a recovery, with the same report. -/
theorem AttemptStep.sameReport {e : Event} {s s' : State} {k : TransferAttemptId}
    {a a' : TransferAttempt} (hstep : AttemptStep e s s' k a)
    (ha' : s'.attempts.lookup k = some a') :
  SameReport a' a
  := by
  cases hstep with
  | rest hattempt _
  | reported _ hattempt _
  | decided _ _ hattempt _
  | cancelled _ _ hattempt _ =>
      obtain rfl := Option.some.inj (hattempt.symm.trans ha')
      exact ⟨rfl, rfl, rfl, rfl, rfl, rfl⟩

/-- An attempt that was not there before an event is one the event began. -/
theorem begun_of_new {e : Event} {s : State} (he : Effect e s (apply e s))
    (hrecover : ∀ file, e ≠ .recover file) {k : TransferAttemptId} {a : TransferAttempt}
    (hnone : s.attempts.lookup k = none) (ha : (apply e s).attempts.lookup k = some a) :
  ∃ planId authority backend, e = .beginTransfer planId authority backend ∧
    (beginTransfer planId authority backend s).1 = .ok a ∧ a.id = k
  := by
  obtain ⟨a', ha', -⟩ | ⟨planId, authority, backend, rfl, hbegun⟩ := he.attempt hrecover ha
  · rw [ha'] at hnone
    cases hnone
  · refine ⟨planId, authority, backend, rfl, ?_⟩
    rw [apply] at ha
    have houtcome := beginTransfer_outcome planId authority backend s
    generalize beginTransfer planId authority backend s = call at ha houtcome
    cases houtcome with
    | refused => cases hnone.symm.trans ha
    | begun =>
        obtain ⟨rfl, rfl⟩ | ⟨-, hold⟩ := Table.lookup_insert_some ha
        · exact ⟨rfl, rfl⟩
        · cases hnone.symm.trans hold

/-- A plan stays as it is, but for whether it is in force. -/
theorem Effect.keeps_plan {e : Event} {s s' : State} (hwf : WellFormed s) (he : Effect e s s')
    (hrecover : ∀ file, e ≠ .recover file) {k : TransferPlanId} {plan : TransferPlan}
    (hplan : s.plans.lookup k = some plan) :
  ∃ b, s'.plans.lookup k = some { plan with authoritative := b }
  := by
  have hsupersede : ∀ q, ∃ b, (s.plans.mapVals (State.supersedeIf q)).lookup k
      = some { plan with authoritative := b } := by
    intro q
    rw [Table.lookup_mapVals, hplan, Option.map_some, State.supersedeIf]
    split
    · exact ⟨false, rfl⟩
    · exact ⟨plan.authoritative, rfl⟩
  have hinsert : ∀ {n plan'}, s.nextId < n → ∃ b, (s.plans.insert n plan').lookup k
      = some { plan with authoritative := b } := by
    intro n plan' hn
    have hne : k ≠ n := ((hwf.plans k plan hplan).2.1.trans_lt hn).ne
    exact ⟨plan.authoritative, (AList.lookup_insert_ne hne).trans hplan⟩
  cases he with
  | advanceEpoch => exact hsupersede _
  | advanceBufferGeneration => exact hsupersede _
  | retireBuffer => exact hsupersede _
  | advanceEndpointGeneration => exact hsupersede _
  | registerBuffer haccepted hretired =>
      obtain ⟨_, rfl⟩ := hretired.frame
      exact ⟨plan.authoritative, hplan⟩
  | planDirect => exact hinsert (Nat.lt_succ_self _)
  | planFallback => exact hinsert (Nat.lt_succ_self _)
  | rehash hs => exact ⟨plan.authoritative, (hs.plans.lookup k).trans hplan⟩
  | recover => exact absurd rfl (hrecover _)
  | _ => exact ⟨plan.authoritative, hplan⟩

/-- The attempt was begun in the history `h`, and reports what its backend did. -/
def BegunIn (h : List (World × Event)) (a : TransferAttempt) : Prop :=
  ∃ u planId authority backend b plan, (u, Event.beginTransfer planId authority backend) ∈ h ∧
    (beginTransfer planId authority backend u.state).1 = .ok b ∧
    Begins planId authority backend u.state b plan ∧ SameReport a b

theorem BegunIn.mono {h h' : List (World × Event)} {a a' : TransferAttempt} (hsub : h ⊆ h')
    (hsame : SameReport a' a) (hbegun : BegunIn h a) :
  BegunIn h' a'
  := by
  obtain ⟨u, planId, authority, backend, b, plan, hmem, hok, hbegins, hab⟩ := hbegun
  refine ⟨u, planId, authority, backend, b, plan, hsub hmem, hok, hbegins, ?_⟩
  exact ⟨hsame.id.trans hab.id, hsame.planId.trans hab.planId, hsame.submitted.trans hab.submitted,
    hsame.bytes.trans hab.bytes, hsame.checked.trans hab.checked, hsame.passed.trans hab.passed⟩

/-- Every attempt was begun in the history of the run, from a plan that still expects the bytes
submitted. -/
theorem begunIn_of_run {h : List (World × Event)} {w : World} (hrun : persistedFabric.Run h w) :
  w.state.attempts.All fun _ a => BegunIn h a ∧
    ∃ plan, w.state.plans.lookup a.planId = some plan ∧ plan.expectedBytes = a.submittedBytes
  := by
  induction hrun with
  | start hw =>
      obtain ⟨epoch, rfl⟩ := hw
      exact .empty
  | @step h w w' e hrun hs ih =>
      obtain ⟨hallowed, rfl⟩ := hs
      have hwf := wellFormed_of_reachable ⟨h, hrun⟩
      have hrecover : ∀ file, e ≠ .recover file := by
        rintro file rfl
        exact absurd hallowed.1 (by decide)
      have hsub : h ⊆ (w, e) :: h := List.subset_cons_of_subset _ (List.Subset.refl h)
      intro k a' ha'
      rw [World.next_state] at ha' ⊢
      cases hold : w.state.attempts.lookup k with
      | some a =>
          obtain ⟨hbegun, plan, hplan, hbytes⟩ := ih k a hold
          have hsame := (hallowed.effect.attemptStep hrecover hwf hold).sameReport ha'
          obtain ⟨b, hplan'⟩ := hallowed.effect.keeps_plan hwf hrecover hplan
          refine ⟨hbegun.mono hsub hsame, { plan with authoritative := b }, ?_, ?_⟩
          · rw [hsame.planId]
            exact hplan'
          · exact hbytes.trans hsame.submitted.symm
      | none =>
          obtain ⟨planId, authority, backend, rfl, hok, rfl⟩ :=
            begun_of_new hallowed.effect hrecover hold ha'
          obtain ⟨plan, hbegins⟩ := begins_of_ok hok
          refine ⟨⟨w, planId, authority, backend, a', plan, List.mem_cons_self, hok, hbegins,
            ⟨rfl, rfl, rfl, rfl, rfl, rfl⟩⟩, plan, ?_, hbegins.records.submitted.symm⟩
          rw [apply, hbegins.result, hbegins.records.planId, hwf.plan_id hbegins.stored]
          exact hbegins.stored
  | @handover h h' w d w' e hrun hdonor hs ih ih' =>
      obtain ⟨hfits, -, rfl, rfl⟩ := hs
      rw [World.next_state, apply]
      obtain hsame | hrec := recoverFromFile_persisted hfits w.state
      · rw [hsame]
        intro k a ha
        obtain ⟨hbegun, hplan⟩ := ih k a ha
        refine ⟨hbegun.mono ?_ ⟨rfl, rfl, rfl, rfl, rfl, rfl⟩, hplan⟩
        exact List.subset_cons_of_subset _ (List.Subset.refl h)
      · rw [hrec.attempts]
        exact .empty

/-! ### Verification receipts -/

/-- What an event does to the verification receipts. -/
inductive VerificationStep (e : Event) (s s' : State) : Prop
  | rest (hverifications : ∀ k, s'.verifications.lookup k = s.verifications.lookup k)
      (hnext : s.nextId ≤ s'.nextId) (he : ∀ id passed n, e = .verifyTransfer id passed n →
        s.attempts.lookup id = none)
      (hdecided : ∀ id caller a, e = .completeTransfer id caller → Completable id caller a s →
        ¬a.Corrupt → a.Delivered → a.integrityChecked = false)
  | completed {id : TransferAttemptId} {caller : Authority} {a : TransferAttempt} {passed : Bool}
      (he : e = .completeTransfer id caller) (h : Completable id caller a s)
      (hpassed : passed = true ↔ ¬a.Corrupt) (hdelivered : passed = true → a.Delivered)
      (hverifications : s'.verifications
        = s.verifications.insert (s.nextId + 1) (verificationOf a (s.nextId + 1) passed))
      (hnext : s'.nextId = s.nextId + 1)
  | verified {id : TransferAttemptId} {passed : Bool} {n : ℕ} {a : TransferAttempt}
      {vr : VerificationReceipt} (he : e = .verifyTransfer id passed n)
      (ha : s.attempts.lookup id = some a) (hattempts : s'.attempts = s.attempts)
      (hid : vr.attemptId = a.id) (hpassed : vr.passed = passed) (hbytes : vr.bytesChecked = n)
      (hverifications : s'.verifications = s.verifications.insert (s.nextId + 1) vr)
      (hnext : s'.nextId = s.nextId + 1)

theorem completeTransfer_verificationStep (id : TransferAttemptId) (caller : Authority)
    (s : State) :
  VerificationStep (.completeTransfer id caller) s (completeTransfer id caller s).2
  := by
  have houtcome := completeTransfer_outcome id caller s
  generalize completeTransfer id caller s = call at houtcome
  cases houtcome with
  | kept _ hnot =>
      refine .rest (fun _ => rfl) le_rfl (by rintro _ _ _ ⟨⟩) ?_
      rintro _ _ a ⟨⟩ h
      exact absurd h (hnot a)
  | reported hattempt hfailed hnone =>
      refine .rest (fun _ => rfl) le_rfl (by rintro _ _ _ ⟨⟩) ?_
      rintro _ _ a' ⟨⟩ h
      obtain rfl := Option.some.inj (hattempt.symm.trans h.stored)
      exact absurd hfailed h.notFailed
  | @decided a h =>
      by_cases hcorrupt : a.Corrupt
      · rw [finishAttempt_corrupt hcorrupt]
        exact .completed rfl h (iff_of_false Bool.false_ne_true (not_not_intro hcorrupt))
          (by rintro ⟨⟩) rfl rfl
      · rw [finishAttempt_finished hcorrupt]
        dsimp only
        split
        next hstored =>
          exact .completed rfl h (iff_of_true rfl hcorrupt) (fun _ => hstored.1) rfl rfl
        next hstored =>
          refine .rest (fun _ => rfl) le_rfl (by rintro _ _ _ ⟨⟩) ?_
          rintro _ _ a' ⟨⟩ h' - hdelivered
          obtain rfl := Option.some.inj (h.stored.symm.trans h'.stored)
          rw [← Bool.not_eq_true]
          exact fun hchecked => hstored ⟨hdelivered, hchecked⟩

theorem verifyTransfer_verificationStep (id : TransferAttemptId) (passed : Bool) (n : ℕ)
    (s : State) :
  VerificationStep (.verifyTransfer id passed n) s (verifyTransfer id passed n s).2
  := by
  rw [verifyTransfer]
  cases hattempt : s.attempts.lookup id with
  | none =>
      refine .rest (fun _ => rfl) le_rfl ?_ (by rintro _ _ _ ⟨⟩)
      rintro _ _ _ ⟨⟩
      exact hattempt
  | some a => exact .verified rfl hattempt rfl rfl rfl rfl rfl rfl

/-- Every event but a recovery makes one of these steps. -/
theorem Effect.verificationStep {e : Event} {s : State} (he : Effect e s (apply e s))
    (hrecover : ∀ file, e ≠ .recover file) :
  VerificationStep e s (apply e s)
  := by
  by_cases hcomplete : ∃ id caller, e = .completeTransfer id caller
  · obtain ⟨id, caller, rfl⟩ := hcomplete
    exact completeTransfer_verificationStep id caller s
  by_cases hverify : ∃ id passed n, e = .verifyTransfer id passed n
  · obtain ⟨id, passed, n, rfl⟩ := hverify
    exact verifyTransfer_verificationStep id passed n s
  have hnotVerify : ∀ id passed n, e = .verifyTransfer id passed n →
      s.attempts.lookup id = none := by
    rintro id passed n rfl
    exact absurd ⟨_, _, _, rfl⟩ hverify
  have hnotComplete : ∀ id caller a, e = .completeTransfer id caller → Completable id caller a s →
      ¬a.Corrupt → a.Delivered → a.integrityChecked = false := by
    rintro id caller a rfl
    exact absurd ⟨_, _, rfl⟩ hcomplete
  have hnext := he.nextId_le hrecover
  generalize apply e s = s' at he hnext
  have hrest : (∀ k, s'.verifications.lookup k = s.verifications.lookup k) →
      VerificationStep e s s' := by
    intro hverifications
    exact .rest hverifications hnext hnotVerify hnotComplete
  cases he with
  | registerBuffer haccepted hretired =>
      obtain ⟨_, rfl⟩ := hretired.frame
      exact hrest fun _ => rfl
  | failTransfer => exact absurd ⟨_, _, rfl⟩ hcomplete
  | completeTransfer => exact absurd ⟨_, _, rfl⟩ hcomplete
  | verifyTransfer => exact absurd ⟨_, _, _, rfl⟩ hverify
  | rehash hs => exact hrest hs.verifications.lookup
  | recover => exact absurd rfl (hrecover _)
  | _ => exact hrest fun _ => rfl

/-! ### Receipts of completion -/

/-- A passed verification receipt of the attempt `a` is stored. -/
def HasPassed (s : State) (a : TransferAttempt) : Prop :=
  ∃ i vr, s.verifications.lookup i = some vr ∧ vr.attemptId = a.id ∧ vr.passed = true ∧
    vr.bytesChecked = a.bytes

/-- A `COMPLETED` receipt is that of the decision about its attempt. -/
structure Completes (s : State) (a : TransferAttempt) (r : TransferReceipt) : Prop where
  state : a.state = .completed
  committed : a.completionCommitted = true
  sound : ¬a.Corrupt
  delivered : a.Delivered
  attemptId : r.attemptId = a.id
  bytes : r.bytes = a.bytes
  integrity : r.integrityVerified = a.integrityChecked
  verification : a.integrityChecked = true → HasPassed s a

/-- The verification receipts are stored under ids that have been drawn, completed attempts are
committed, and `COMPLETED` receipts are those of decisions about their attempts. -/
structure Accounted (s : State) : Prop where
  drawn : s.verifications.All fun k _ => k ≤ s.nextId
  committed : s.attempts.All fun _ a => a.state = .completed → a.completionCommitted = true
  receipts : s.receipts.All fun k r => r.state = .completed →
    ∃ a, s.attempts.lookup k = some a ∧ Completes s a r

theorem VerificationStep.drawn {e : Event} {s s' : State} (hstep : VerificationStep e s s')
    (h : s.verifications.All fun k _ => k ≤ s.nextId) :
  s'.verifications.All fun k _ => k ≤ s'.nextId
  := by
  cases hstep with
  | rest hverifications hnext =>
      intro k vr hvr
      rw [hverifications] at hvr
      exact (h k vr hvr).trans hnext
  | completed _ _ _ _ hverifications hnext | verified _ _ _ _ _ _ hverifications hnext =>
      rw [hverifications, hnext]
      exact (h.mono fun _ _ hle => hle.trans (Nat.le_succ _)).insert le_rfl

/-- A verification receipt stays. -/
theorem VerificationStep.keeps {e : Event} {s s' : State} (hstep : VerificationStep e s s')
    (h : s.verifications.All fun k _ => k ≤ s.nextId) {k : VerificationId}
    {vr : VerificationReceipt} (hvr : s.verifications.lookup k = some vr) :
  s'.verifications.lookup k = some vr
  := by
  have hne : k ≠ s.nextId + 1 := (Nat.lt_succ_of_le (h k vr hvr)).ne
  cases hstep with
  | rest hverifications => rw [hverifications, hvr]
  | completed _ _ _ _ hverifications =>
      rw [hverifications, AList.lookup_insert_ne hne, hvr]
  | verified _ _ _ _ _ _ hverifications =>
      rw [hverifications, AList.lookup_insert_ne hne, hvr]

theorem HasPassed.step {e : Event} {s s' : State} (hstep : VerificationStep e s s')
    (h : s.verifications.All fun k _ => k ≤ s.nextId) {a : TransferAttempt}
    (hpassed : HasPassed s a) :
  HasPassed s' a
  := by
  obtain ⟨i, vr, hvr, hrest⟩ := hpassed
  exact ⟨i, vr, hstep.keeps h hvr, hrest⟩

/-- The decision about an attempt whose integrity was checked stores a passed verification
receipt. -/
theorem VerificationStep.hasPassed {s s' : State} {id : TransferAttemptId} {caller : Authority}
    {a : TransferAttempt} (hstep : VerificationStep (.completeTransfer id caller) s s')
    (h : Completable id caller a s) (hsound : ¬a.Corrupt) (hdelivered : a.Delivered)
    (hchecked : a.integrityChecked = true) :
  HasPassed s' a
  := by
  cases hstep with
  | rest _ _ _ hdecided =>
      rw [hdecided id caller a rfl h hsound hdelivered] at hchecked
      cases hchecked
  | completed he h' hpassed _ hverifications =>
      cases he
      obtain rfl := Option.some.inj (h.stored.symm.trans h'.stored)
      refine ⟨_, _, by rw [hverifications, AList.lookup_insert], rfl, hpassed.mpr hsound, rfl⟩
  | verified he => cases he

theorem Accounted.step {e : Event} {s : State} (h : Accounted s) (hwf : WellFormed s)
    (hsettled : Settled s) (hsettled' : Settled (apply e s)) (he : Effect e s (apply e s))
    (hrecover : ∀ file, e ≠ .recover file) :
  Accounted (apply e s)
  := by
  have hstep := he.verificationStep hrecover
  refine ⟨hstep.drawn h.drawn, ?_, ?_⟩
  · intro k a' ha' hcompleted
    cases hold : s.attempts.lookup k with
    | none =>
        obtain ⟨planId, authority, backend, rfl, hok, rfl⟩ := begun_of_new he hrecover hold ha'
        obtain ⟨plan, hbegins⟩ := begins_of_ok hok
        have hstarted := hbegins.started
        rw [hcompleted] at hstarted
        exact absurd hstarted (by decide)
    | some a =>
        cases he.attemptStep hrecover hwf hold with
        | rest hattempt _ =>
            obtain rfl := Option.some.inj (hattempt.symm.trans ha')
            exact h.committed k a hold hcompleted
        | reported hfailed hattempt _ =>
            obtain rfl := Option.some.inj (hattempt.symm.trans ha')
            exact h.committed k a hold hcompleted
        | decided _ _ hattempt _ =>
            obtain rfl := Option.some.inj (hattempt.symm.trans ha')
            rfl
        | cancelled _ _ hattempt _ =>
            obtain rfl := Option.some.inj (hattempt.symm.trans ha')
            cases hcompleted
  · intro k r hr hcompleted
    cases hold : s.attempts.lookup k with
    | none =>
        obtain ⟨a', ha', -⟩ := hsettled'.receipts k r hr
        obtain ⟨planId, authority, backend, rfl, hok, rfl⟩ := begun_of_new he hrecover hold ha'
        obtain ⟨plan, hbegins⟩ := begins_of_ok hok
        rw [apply, hbegins.result] at hr
        obtain ⟨a, ha, -⟩ := hsettled.receipts _ r hr
        cases hold.symm.trans ha
    | some a =>
        cases he.attemptStep hrecover hwf hold with
        | rest hattempt hreceipt =>
            rw [hreceipt] at hr
            obtain ⟨a', ha', hcompletes⟩ := h.receipts k r hr hcompleted
            obtain rfl := Option.some.inj (hold.symm.trans ha')
            refine ⟨a, hattempt, { hcompletes with verification := fun hchecked => ?_ }⟩
            exact (hcompletes.verification hchecked).step hstep h.drawn
        | reported _ _ hreceipt =>
            obtain rfl := Option.some.inj (hreceipt.symm.trans hr)
            cases hcompleted
        | decided hevent hcompletable hattempt hreceipt =>
            obtain rfl := Option.some.inj (hreceipt.symm.trans hr)
            have hgood : ¬a.Corrupt ∧ a.Delivered := by
              rw [← not_not (a := a.Delivered), ← not_or]
              intro hbad
              rw [verdict_ne_completed hbad] at hcompleted
              cases hcompleted
            have hverdict : verdict a = finishedReceipt a := if_neg hgood.1
            subst hevent
            refine ⟨_, hattempt, hcompleted, rfl, hgood.1, hgood.2, ?_, ?_, ?_, ?_⟩
            · rw [hverdict]
              rfl
            · rw [hverdict]
              rfl
            · rw [hverdict]
              rfl
            · intro hchecked
              obtain ⟨i, vr, hvr⟩ := hstep.hasPassed hcompletable hgood.1 hgood.2 hchecked
              exact ⟨i, vr, hvr⟩
        | cancelled _ _ _ hreceipt =>
            obtain rfl := Option.some.inj (hreceipt.symm.trans hr)
            cases hcompleted

/-- In every reachable state the transfers are accounted for. -/
theorem accounted_of_reachable {w : World} (h : persistedFabric.Reachable w) :
  Accounted w.state
  := by
  have hinv : (WellFormed w.state ∧ Settled w.state) ∧ Accounted w.state := by
    refine h.invariant (P := fun w => (WellFormed w.state ∧ Settled w.state) ∧ Accounted w.state)
      ?_ ?_ ?_
    · rintro w ⟨epoch, rfl⟩
      exact ⟨⟨.start epoch, ⟨.empty, .empty, .empty⟩⟩, ⟨.empty, .empty, .empty⟩⟩
    · rintro w e w' ⟨⟨hwf, hsettled⟩, haccounted⟩ ⟨hallowed, rfl⟩
      have hrecover : ∀ file, e ≠ .recover file := by
        rintro file rfl
        exact absurd hallowed.1 (by decide)
      have hsettled' := hsettled.move hwf (hallowed.effect.move hrecover)
      exact ⟨⟨hwf.effect hallowed.effect hrecover, hsettled'⟩,
        haccounted.step hwf hsettled hsettled' hallowed.effect hrecover⟩
    · rintro d w e w' ⟨⟨hwfd, -⟩, -⟩ hw ⟨hfits, -, rfl, rfl⟩
      rw [World.next_state, apply]
      obtain hsame | hrec := recoverFromFile_persisted hfits w.state
      · rw [hsame]
        exact hw
      · refine ⟨⟨hwfd.recovered hrec, ?_, ?_, ?_⟩, ?_, ?_, ?_⟩
        · rw [hrec.receipts]
          exact .empty
        · rw [hrec.attempts]
          exact .empty
        · rw [hrec.attempts]
          exact .empty
        · rw [hrec.verifications]
          exact .empty
        · rw [hrec.attempts]
          exact .empty
        · rw [hrec.receipts]
          exact .empty
  exact hinv.2

/-- The receipt, stored under `k`, is of a completed and committed attempt, of as many bytes as the
plan expects if it expects any.  It says that the integrity was verified exactly when the backend,
in the call that began the attempt, reported that it had been checked; it was reported to have
passed then, and a passed verification receipt of as many bytes is stored. -/
structure Truthful (h : List (World × Event)) (s : State) (k : TransferAttemptId)
    (r : TransferReceipt) : Prop where
  attempt : ∃ a plan, s.attempts.lookup k = some a ∧ r.attemptId = a.id ∧ a.state = .completed ∧
    a.completionCommitted = true ∧ s.plans.lookup a.planId = some plan ∧
    (plan.expectedBytes ≠ 0 → r.bytes = plan.expectedBytes)
  integrity : ∃ u planId authority backend b,
    (u, Event.beginTransfer planId authority backend) ∈ h ∧
    (beginTransfer planId authority backend u.state).1 = .ok b ∧ b.id = k ∧
    (r.integrityVerified = true ↔ ∃ outcome,
      reportedOutcome planId backend u.state = some outcome ∧ outcome.integrityChecked = true) ∧
    ∀ outcome, reportedOutcome planId backend u.state = some outcome →
      outcome.integrityChecked = true → outcome.integrityPassed = true
  verification : r.integrityVerified = true → ∃ i vr, s.verifications.lookup i = some vr ∧
    vr.attemptId = k ∧ vr.passed = true ∧ vr.bytesChecked = r.bytes

/-- In every reachable state, whatever the backends report: `COMPLETED` receipts tell the truth
about bytes and integrity. -/
theorem completed_receipts_truthful {h : List (World × Event)} {w : World}
    (hrun : persistedFabric.Run h w) {k : TransferAttemptId} {r : TransferReceipt}
    (hr : w.state.receipts.lookup k = some r) (hcompleted : r.state = .completed) :
  Truthful h w.state k r
  := by
  obtain ⟨a, ha, hcompletes⟩ :=
    (accounted_of_reachable ⟨h, hrun⟩).receipts k r hr hcompleted
  have hid : a.id = k := ((wellFormed_of_reachable ⟨h, hrun⟩).attempts k a ha).1
  obtain ⟨⟨u, planId, authority, backend, b, plan, hmem, hok, hbegins, hsame⟩, plan', hplan',
    hbytes⟩ := begunIn_of_run hrun k a ha
  have hchecked : r.integrityVerified
      = ((reportedOutcome planId backend u.state).map TransferOutcome.integrityChecked).getD false
    := (hcompletes.integrity.trans hsame.checked).trans hbegins.records.checked
  have hpassed : a.integrityPassed
      = ((reportedOutcome planId backend u.state).map TransferOutcome.integrityPassed).getD false :=
    hsame.passed.trans hbegins.records.passed
  constructor
  · refine ⟨a, plan', ha, hcompletes.attemptId, hcompletes.state, hcompletes.committed, hplan', ?_⟩
    intro hexpected
    rw [hbytes] at hexpected ⊢
    rw [hcompletes.bytes]
    exact hcompletes.delivered.resolve_left hexpected
  · refine ⟨u, planId, authority, backend, b, hmem, hok, hsame.id.symm.trans hid, ?_, ?_⟩
    · rw [hchecked]
      cases reportedOutcome planId backend u.state with
      | none => simp
      | some outcome => simp
    · intro outcome houtcome houtcomeChecked
      rw [houtcome] at hchecked hpassed
      have hattempt : a.integrityChecked = true :=
        hcompletes.integrity.symm.trans (hchecked.trans houtcomeChecked)
      by_contra hnot
      apply hcompletes.sound
      exact ⟨hattempt, hpassed.trans (by simpa using hnot)⟩
  · intro hverified
    obtain ⟨i, vr, hvr, hattemptId, hvrPassed, hvrBytes⟩ :=
      hcompletes.verification (hcompletes.integrity.symm.trans hverified)
    exact ⟨i, vr, hvr, hattemptId.trans hid, hvrPassed, hvrBytes.trans hcompletes.bytes.symm⟩

namespace Fixture

/-- The world in which the owner has completed the transfer. -/
def done : World := begun.next (.completeTransfer 10 owner)

theorem reachable_done :
  persistedFabric.Reachable done
  := reachable_next (reachable_begun _) trivial

end Fixture

theorem completed_receipts_truthful_fixture :
  ∃ h, Truthful h Fixture.done.state 10 Fixture.receipt
  := by
  obtain ⟨h, hrun⟩ := Fixture.reachable_done
  use h
  apply completed_receipts_truthful hrun
  · decide +kernel
  · decide +kernel

end GpuDirectFabric
