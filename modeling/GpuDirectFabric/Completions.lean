import GpuDirectFabric.Finality

/-!
# Completions

`complete_transfer` passes a gate before it decides the end of an attempt: the attempt is open, the
caller may complete it, and its plan is in force.  What it then decides depends on what the backend
has reported of the bytes and of their integrity, and not on the state the backend has reported,
except when that was `FAILED`.
-/

namespace GpuDirectFabric

open Coordinator

/-! ### The gate -/

/-- `complete_transfer` comes to its decision about the attempt. -/
structure Completable (id : TransferAttemptId) (caller : Authority) (a : TransferAttempt)
    (s : State) : Prop where
  stored : s.attempts.lookup id = some a
  unanswered : ¬(a.completionCommitted = true ∧ (s.receipts.lookup id).isSome = true)
  notCancelled : a.state ≠ .cancelled
  notFailed : a.state ≠ .failed
  caller : MayCancel caller a s
  plan : (s.plans.lookup a.planId).any TransferPlan.authoritative = true

/-- The backend has checked the integrity of the data and found it broken. -/
def TransferAttempt.Corrupt (a : TransferAttempt) : Prop :=
  a.integrityChecked = true ∧ a.integrityPassed = false

/-- The bytes the backend has reported are those asked for, unless none were. -/
def TransferAttempt.Delivered (a : TransferAttempt) : Prop :=
  a.submittedBytes = 0 ∨ a.bytes = a.submittedBytes

instance (a : TransferAttempt) : Decidable a.Corrupt := inferInstanceAs (Decidable (_ ∧ _))

instance (a : TransferAttempt) : Decidable a.Delivered := inferInstanceAs (Decidable (_ ∨ _))

/-- The receipt of an attempt whose integrity is broken. -/
def corruptReceipt (a : TransferAttempt) : TransferReceipt :=
  makeReceipt a .failed false a.method "integrity verification failed"

/-- The receipt of an attempt whose integrity is not broken. -/
def finishedReceipt (a : TransferAttempt) : TransferReceipt :=
  makeReceipt a (if a.Delivered then .completed else .failed) a.integrityChecked a.method a.detail

/-- The receipt that reports a failure. -/
def failureReceipt (a : TransferAttempt) : TransferReceipt :=
  makeReceipt a .failed false a.method a.detail

theorem finishAttempt_corrupt {id : TransferAttemptId} {a : TransferAttempt} {s : State}
    (h : a.Corrupt) :
  finishAttempt id a s = (err .integrityFailure "data integrity verification failed",
    storeVerification a false (commitAttempt id a (corruptReceipt a) s))
  := by
  rw [finishAttempt, h.1, h.2]
  rfl

theorem finishAttempt_finished {id : TransferAttemptId} {a : TransferAttempt} {s : State}
    (h : ¬a.Corrupt) :
  finishAttempt id a s = (.ok (finishedReceipt a),
    if a.Delivered ∧ a.integrityChecked = true then
      storeVerification a true (commitAttempt id a (finishedReceipt a) s)
    else commitAttempt id a (finishedReceipt a) s)
  := by
  have hsound : (a.integrityChecked && !a.integrityPassed) = false := by
    rw [← Bool.not_eq_true, Bool.and_eq_true, Bool.not_eq_true']
    exact h
  have hcompleted : (decide (a.submittedBytes = 0) || decide (a.bytes = a.submittedBytes))
      = decide a.Delivered := (Bool.decide_or _ _).symm
  have hchecked : (decide a.Delivered && a.integrityChecked && a.integrityPassed) = true ↔
      a.Delivered ∧ a.integrityChecked = true := by
    simp only [Bool.and_eq_true, decide_eq_true_eq]
    constructor
    · exact And.left
    · intro hboth
      exact ⟨hboth, by_contra fun hfailed => h ⟨hboth.2, Bool.not_eq_true _ ▸ hfailed⟩⟩
  rw [finishAttempt, hsound, hcompleted, if_neg Bool.false_ne_true]
  simp only [hchecked, decide_eq_true_eq]
  rfl

/-- The ways a call of `complete_transfer` can end: it refuses, or answers with the stored receipt,
and changes nothing; it reports a failure; or it decides. -/
inductive CompleteOutcome (id : TransferAttemptId) (caller : Authority) (s : State) :
    Result TransferReceipt × State → Prop
  | kept (result : Result TransferReceipt) (hnot : ∀ a, ¬Completable id caller a s) :
      CompleteOutcome id caller s (result, s)
  | reported {a : TransferAttempt} (hattempt : s.attempts.lookup id = some a)
      (hfailed : a.state = .failed) (hnone : s.receipts.lookup id = none) :
      CompleteOutcome id caller s (.ok (failureReceipt a),
        { s with receipts := s.receipts.insert id (failureReceipt a) })
  | decided {a : TransferAttempt} (h : Completable id caller a s) :
      CompleteOutcome id caller s (finishAttempt id a s)

theorem completeTransfer_outcome (id : TransferAttemptId) (caller : Authority) (s : State) :
  CompleteOutcome id caller s (completeTransfer id caller s)
  := by
  rw [completeTransfer]
  cases hattempt : s.attempts.lookup id with
  | none =>
      refine .kept _ fun a h => ?_
      rw [h.stored] at hattempt
      cases hattempt
  | some a =>
  have hnot : ∀ {c : Prop}, c → (Completable id caller a s → ¬c) →
      ∀ a', ¬Completable id caller a' s := by
    intro c hc hstop a' h
    obtain rfl := Option.some.inj (hattempt.symm.trans h.stored)
    exact hstop h hc
  dsimp only
  split
  next hanswered =>
    refine .kept _ (hnot hanswered fun h hanswered => h.unanswered ?_)
    simpa using hanswered
  next hunanswered =>
  split
  next hcancelled => exact .kept _ (hnot hcancelled Completable.notCancelled)
  next hcancelled =>
  split
  next hfailed =>
    cases hreceipt : s.receipts.lookup id with
    | some r => exact .kept _ (hnot hfailed Completable.notFailed)
    | none => exact .reported hattempt hfailed hreceipt
  next hfailed =>
  split
  next hcaller =>
    refine .kept _ (hnot hcaller fun h hcaller => ?_)
    rw [Bool.and_eq_true] at hcaller
    obtain ⟨howned, hstale⟩ := hcaller
    obtain ⟨hlive, heq⟩ := h.caller howned
    rw [hlive, ← heq, bne_self_eq_false] at hstale
    cases hstale
  next hcaller =>
  split
  next hplan =>
    refine .kept _ (hnot hplan fun h hplan => ?_)
    rw [h.plan] at hplan
    cases hplan
  next hplan =>
  apply CompleteOutcome.decided
  refine ⟨hattempt, by simpa using hunanswered, hcancelled, hfailed, ?_, by simpa using hplan⟩
  intro howned
  simpa [howned] using hcaller

/-- Where it comes to decide, it does. -/
theorem completeTransfer_decided {id : TransferAttemptId} {caller : Authority} {s : State}
    {a : TransferAttempt} (h : Completable id caller a s) :
  completeTransfer id caller s = finishAttempt id a s
  := by
  have houtcome := completeTransfer_outcome id caller s
  generalize completeTransfer id caller s = call at houtcome
  cases houtcome with
  | kept _ hnot => exact absurd h (hnot a)
  | reported hattempt hfailed hnone =>
      obtain rfl := Option.some.inj (hattempt.symm.trans h.stored)
      exact absurd hfailed h.notFailed
  | decided h' =>
      obtain rfl := Option.some.inj (h.stored.symm.trans h'.stored)
      rfl

/-- An attempt that is committed with a receipt is answered from it. -/
theorem completeTransfer_answered {id : TransferAttemptId} {caller : Authority} {s : State}
    {a : TransferAttempt} {r : TransferReceipt} (ha : s.attempts.lookup id = some a)
    (hcommitted : a.completionCommitted = true) (hr : s.receipts.lookup id = some r) :
  completeTransfer id caller s = (.ok r, s)
  := by
  rw [completeTransfer, ha]
  simp [hcommitted, hr]

/-! ### Completing twice -/

/-- The results are the same value, or errors with the same code. -/
def SameResult {α : Type} : Result α → Result α → Prop
  | .ok a, .ok b => a = b
  | .error e, .error f => e.code = f.code
  | _, _ => False

theorem SameResult.refl {α : Type} (r : Result α) :
  SameResult r r
  := by
  cases r with
  | ok a => rfl
  | error e => rfl

/-- Completing the attempt again at once gives the same result and changes nothing. -/
def CompletesTwice (id : TransferAttemptId) (caller : Authority) (s : State) : Prop :=
  SameResult (completeTransfer id caller s).1
    (completeTransfer id caller (completeTransfer id caller s).2).1 ∧
  (completeTransfer id caller (completeTransfer id caller s).2).2
    = (completeTransfer id caller s).2

theorem lookup_commitAttempt (id : TransferAttemptId) (a : TransferAttempt) (r : TransferReceipt)
    (s : State) :
  (commitAttempt id a r s).attempts.lookup id
      = some { a with state := r.state, completionCommitted := true } ∧
    (commitAttempt id a r s).receipts.lookup id = some r
  := ⟨AList.lookup_insert _, AList.lookup_insert _⟩

/-- A call that decides about an attempt whose integrity is broken fails, and the next one returns
a receipt. -/
theorem not_completesTwice {id : TransferAttemptId} {caller : Authority} {s : State}
    {a : TransferAttempt} (h : Completable id caller a s) (hcorrupt : a.Corrupt) :
  ¬CompletesTwice id caller s
  := by
  obtain ⟨ha, hr⟩ := lookup_commitAttempt id a (corruptReceipt a) s
  have hagain : completeTransfer id caller
      (storeVerification a false (commitAttempt id a (corruptReceipt a) s))
        = (.ok (corruptReceipt a), _) := completeTransfer_answered ha rfl hr
  rw [CompletesTwice, completeTransfer_decided h, finishAttempt_corrupt hcorrupt]
  dsimp only
  rw [hagain]
  exact And.left

/-- A call that decides about an attempt whose integrity is not broken is answered again from the
receipt. -/
theorem completesTwice_of_sound {id : TransferAttemptId} {caller : Authority} {s : State}
    {a : TransferAttempt} (h : Completable id caller a s) (hsound : ¬a.Corrupt) :
  CompletesTwice id caller s
  := by
  obtain ⟨ha, hr⟩ := lookup_commitAttempt id a (finishedReceipt a) s
  rw [CompletesTwice, completeTransfer_decided h, finishAttempt_finished hsound]
  dsimp only
  split
  · have hagain : completeTransfer id caller
        (storeVerification a true (commitAttempt id a (finishedReceipt a) s))
          = (.ok (finishedReceipt a), _) := completeTransfer_answered ha rfl hr
    rw [hagain]
    exact ⟨rfl, rfl⟩
  · rw [completeTransfer_answered ha rfl hr]
    exact ⟨rfl, rfl⟩

/-- Completing an attempt is idempotent exactly when the call does not come to decide about an
attempt whose integrity is broken. -/
theorem completes_twice_iff (id : TransferAttemptId) (caller : Authority) (s : State) :
  CompletesTwice id caller s ↔ ∀ a, Completable id caller a s → ¬a.Corrupt
  := by
  have houtcome := completeTransfer_outcome id caller s
  generalize hcall : completeTransfer id caller s = call at houtcome
  cases houtcome with
  | kept result hnot =>
      rw [CompletesTwice, hcall]
      dsimp only
      rw [hcall]
      exact iff_of_true ⟨.refl _, rfl⟩ fun a h => absurd h (hnot a)
  | @reported a hattempt hfailed hnone =>
      have hagain : completeTransfer id caller
          { s with receipts := s.receipts.insert id (failureReceipt a) }
            = (.ok (failureReceipt a),
              { s with receipts := s.receipts.insert id (failureReceipt a) }) := by
        rw [completeTransfer, hattempt, AList.lookup_insert]
        simp [hfailed]
      rw [CompletesTwice, hcall]
      dsimp only
      rw [hagain]
      refine iff_of_true ⟨rfl, rfl⟩ fun a' h => ?_
      obtain rfl := Option.some.inj (hattempt.symm.trans h.stored)
      exact absurd hfailed h.notFailed
  | @decided a h =>
      constructor
      · intro htwice a' h' hcorrupt
        exact not_completesTwice h' hcorrupt htwice
      · intro hsound
        exact completesTwice_of_sound h (hsound a h)

namespace Fixture

/-- A backend that reports a transfer as completed, of all its bytes, with broken integrity. -/
def corruptBackend : Backend where
  registerBuffer _ := err .unsupported "no registration"
  runTransfer run := .ok
    { state := .completed, bytes := run.expectedBytes, integrityChecked := true }

/-- The world in which the transfer is begun on that backend. -/
def corrupted : World := planned.next (.beginTransfer 8 owner (some corruptBackend))

theorem reachable_corrupted (setting : Setting) :
  (fabric setting World.New).Reachable corrupted
  := reachable_next (reachable_planned setting) trivial

/-- The attempt. -/
def corruptedAttempt : TransferAttempt := (corrupted.state.attempts.lookup 10).getD {}

theorem completable_corrupted :
  Completable 10 owner corruptedAttempt corrupted.state
  where
  stored := by decide +kernel
  unanswered := by decide +kernel
  notCancelled := by decide +kernel
  notFailed := by decide +kernel
  caller := by
    intro
    decide +kernel
  plan := by decide +kernel

end Fixture

/-- The first call fails with `INTEGRITY_FAILURE`, and the second one returns a receipt. -/
theorem integrity_failure_not_repeated :
  persistedFabric.Reachable Fixture.corrupted ∧
  ¬CompletesTwice 10 Fixture.owner Fixture.corrupted.state
  := by
  have hcorrupt : Fixture.corruptedAttempt.Corrupt := by decide +kernel
  exact ⟨Fixture.reachable_corrupted _, not_completesTwice Fixture.completable_corrupted hcorrupt⟩

/-! ### One attempt -/

/-- The receipt of the decision about an attempt. -/
def verdict (a : TransferAttempt) : TransferReceipt :=
  if a.Corrupt then corruptReceipt a else finishedReceipt a

/-- The attempt once it is decided. -/
def decided (a : TransferAttempt) : TransferAttempt :=
  { a with state := (verdict a).state, completionCommitted := true }

theorem finishAttempt_tables (id : TransferAttemptId) (a : TransferAttempt) (s : State) :
  (finishAttempt id a s).2.attempts = s.attempts.insert id (decided a) ∧
    (finishAttempt id a s).2.receipts = s.receipts.insert id (verdict a)
  := by
  rw [decided, verdict]
  by_cases hcorrupt : a.Corrupt
  · rw [finishAttempt_corrupt hcorrupt, if_pos hcorrupt]
    exact ⟨rfl, rfl⟩
  · rw [finishAttempt_finished hcorrupt, if_neg hcorrupt]
    dsimp only
    split
    · exact ⟨rfl, rfl⟩
    · exact ⟨rfl, rfl⟩

/-- The attempt once it is cancelled. -/
def cancelledAs (a : TransferAttempt) : TransferAttempt :=
  { a with state := .cancelled, completionCommitted := false }

/-- What an event does to the attempt `a` stored under `k`, and to its receipt. -/
inductive AttemptStep (e : Event) (s s' : State) (k : TransferAttemptId) (a : TransferAttempt) :
    Prop
  | rest (hattempt : s'.attempts.lookup k = some a)
      (hreceipt : s'.receipts.lookup k = s.receipts.lookup k)
  | reported (hfailed : a.state = .failed) (hattempt : s'.attempts.lookup k = some a)
      (hreceipt : s'.receipts.lookup k = some (failureReceipt a))
  | decided {caller : Authority} (he : e = .completeTransfer k caller)
      (h : Completable k caller a s) (hattempt : s'.attempts.lookup k = some (decided a))
      (hreceipt : s'.receipts.lookup k = some (verdict a))
  | cancelled {caller : Authority} (he : e = .cancelTransfer k caller)
      (hopen : a.completionCommitted = false)
      (hattempt : s'.attempts.lookup k = some (cancelledAs a))
      (hreceipt : s'.receipts.lookup k = some (cancelReceipt a))

theorem completeTransfer_attemptStep (id : TransferAttemptId) (caller : Authority) (s : State)
    {k : TransferAttemptId} {a : TransferAttempt} (ha : s.attempts.lookup k = some a) :
  AttemptStep (.completeTransfer id caller) s (completeTransfer id caller s).2 k a
  := by
  have houtcome := completeTransfer_outcome id caller s
  generalize completeTransfer id caller s = call at houtcome
  cases houtcome with
  | kept => exact .rest ha rfl
  | @reported a' hattempt hfailed hnone =>
      by_cases hk : k = id
      · subst hk
        obtain rfl := Option.some.inj (ha.symm.trans hattempt)
        exact .reported hfailed ha (AList.lookup_insert _)
      · exact .rest ha (AList.lookup_insert_ne hk)
  | @decided a' h =>
      obtain ⟨hattempts, hreceipts⟩ := finishAttempt_tables id a' s
      by_cases hk : k = id
      · subst hk
        obtain rfl := Option.some.inj (ha.symm.trans h.stored)
        apply AttemptStep.decided rfl h
        · rw [hattempts, AList.lookup_insert]
        · rw [hreceipts, AList.lookup_insert]
      · apply AttemptStep.rest
        · rw [hattempts, AList.lookup_insert_ne hk, ha]
        · rw [hreceipts, AList.lookup_insert_ne hk]

theorem cancelTransfer_attemptStep (id : TransferAttemptId) (caller : Authority) (s : State)
    {k : TransferAttemptId} {a : TransferAttempt} (ha : s.attempts.lookup k = some a) :
  AttemptStep (.cancelTransfer id caller) s (cancelTransfer id caller s).2 k a
  := by
  rw [cancelTransfer]
  cases hattempt : s.attempts.lookup id with
  | none => exact .rest ha rfl
  | some a' =>
  dsimp only
  split
  next => exact .rest ha rfl
  next hopen =>
  split
  next => exact .rest ha rfl
  next =>
    by_cases hk : k = id
    · subst hk
      obtain rfl := Option.some.inj (ha.symm.trans hattempt)
      simp only [Bool.or_eq_true, not_or, Bool.not_eq_true] at hopen
      exact .cancelled rfl hopen.1.1 (AList.lookup_insert _) (AList.lookup_insert _)
    · exact .rest ((AList.lookup_insert_ne hk).trans ha) (AList.lookup_insert_ne hk)

/-- Every event but a recovery makes one of these steps of each attempt. -/
theorem Effect.attemptStep {e : Event} {s : State} (he : Effect e s (apply e s))
    (hrecover : ∀ file, e ≠ .recover file) (hwf : WellFormed s) {k : TransferAttemptId}
    {a : TransferAttempt} (ha : s.attempts.lookup k = some a) :
  AttemptStep e s (apply e s) k a
  := by
  by_cases hcomplete : ∃ id caller, e = .completeTransfer id caller
  · obtain ⟨id, caller, rfl⟩ := hcomplete
    exact completeTransfer_attemptStep id caller s ha
  by_cases hcancel : ∃ id caller, e = .cancelTransfer id caller
  · obtain ⟨id, caller, rfl⟩ := hcancel
    exact cancelTransfer_attemptStep id caller s ha
  generalize apply e s = s' at he
  cases he with
  | registerBuffer haccepted hretired =>
      obtain ⟨_, rfl⟩ := hretired.frame
      exact .rest ha rfl
  | @beginTransfer _ _ plan authority backend handle hready =>
      have hid := (runAttempt_core plan handle backend
        (newAttempt plan authority (s.nextId + 1) s.epoch)).1
      have hne : k ≠ s.nextId + 1 := (Nat.lt_succ_of_le (hwf.attempts k a ha).2.1).ne
      refine .rest ?_ rfl
      rw [startAttempt]
      dsimp only
      rw [State.nextIdLocked, hid]
      exact (AList.lookup_insert_ne hne).trans ha
  | failTransfer => exact absurd ⟨_, _, rfl⟩ hcomplete
  | completeTransfer => exact absurd ⟨_, _, rfl⟩ hcomplete
  | cancelTransfer => exact absurd ⟨_, _, rfl⟩ hcancel
  | rehash hs => exact .rest ((hs.attempts.lookup k).trans ha) (hs.receipts.lookup k)
  | recover => exact absurd rfl (hrecover _)
  | _ => exact .rest ha rfl

end GpuDirectFabric
