import GpuDirectFabric.Frames

/-!
# How transfers end

An attempt, its receipt and the mark that its completion is committed are kept in three places.
Cancelled attempts and committed ones stay as they are, with their receipts.  Failed attempts
that are not committed can still be cancelled.
-/

namespace GpuDirectFabric

open Coordinator Persistence

/-- The receipt of an attempt that is cancelled. -/
def cancelReceipt (a : TransferAttempt) : TransferReceipt :=
  makeReceipt a .cancelled false a.method "transfer cancelled before completion"

/-- The caller may cancel the attempt. -/
def MayCancel (caller : Authority) (a : TransferAttempt) (s : State) : Prop :=
  caller.workerOwned = true → s.workerLiveLocked caller = true ∧ caller = a.authority

/-- What an event does to the attempts and receipts. -/
inductive TransferMove : Event → State → State → Prop
  | rest {e : Event} {s s' : State}
      (hattempts : ∀ k, s'.attempts.lookup k = s.attempts.lookup k)
      (hreceipts : ∀ k, s'.receipts.lookup k = s.receipts.lookup k) : TransferMove e s s'
  | begun {e : Event} {s s' : State} {id : TransferAttemptId} {a : TransferAttempt}
      (hid : s.nextId < id) (hopen : a.completionCommitted = false)
      (hstate : a.state = .inFlight ∨ a.state = .failed)
      (hattempts : s'.attempts = s.attempts.insert id a) (hreceipts : s'.receipts = s.receipts) :
      TransferMove e s s'
  | completed {e : Event} {s s' : State} {id : TransferAttemptId} {a : TransferAttempt}
      {r : TransferReceipt} (hattempt : s.attempts.lookup id = some a)
      (hopen : ¬(a.completionCommitted = true ∧ (s.receipts.lookup id).isSome = true))
      (hcancelled : a.state ≠ .cancelled) (hfailed : a.state ≠ .failed)
      (hr : r.state = .completed ∨ r.state = .failed)
      (hattempts : s'.attempts = s.attempts.insert id
        { a with state := r.state, completionCommitted := true })
      (hreceipts : s'.receipts = s.receipts.insert id r) : TransferMove e s s'
  | reported {e : Event} {s s' : State} {id : TransferAttemptId} {a : TransferAttempt}
      {r : TransferReceipt} (hattempt : s.attempts.lookup id = some a) (hfailed : a.state = .failed)
      (hnone : s.receipts.lookup id = none) (hr : r.state = .failed)
      (hattempts : s'.attempts = s.attempts) (hreceipts : s'.receipts = s.receipts.insert id r) :
      TransferMove e s s'
  | cancelled {s s' : State} {id : TransferAttemptId} {a : TransferAttempt} {caller : Authority}
      (hattempt : s.attempts.lookup id = some a) (hopen : a.completionCommitted = false)
      (hcaller : MayCancel caller a s)
      (hattempts : s'.attempts = s.attempts.insert id
        { a with state := .cancelled, completionCommitted := false })
      (hreceipts : s'.receipts = s.receipts.insert id (cancelReceipt a)) :
      TransferMove (.cancelTransfer id caller) s s'

/-! ### The operations on transfers -/

/-- Running the data plane commits nothing, and leaves the attempt in flight or failed. -/
theorem runAttempt_open (plan : TransferPlan) (handle : Option BackendHandle)
    (backend : Option Backend) {a : TransferAttempt} (hstate : a.state = .inFlight) :
  (runAttempt plan handle backend a).completionCommitted = a.completionCommitted ∧
    ((runAttempt plan handle backend a).state = .inFlight ∨
      (runAttempt plan handle backend a).state = .failed)
  := by
  unfold runAttempt
  split
  · exact ⟨rfl, .inl hstate⟩
  · split
    · exact ⟨rfl, .inr rfl⟩
    · refine ⟨rfl, ?_⟩
      dsimp only
      split
      · exact .inr rfl
      · exact .inl hstate

theorem beginTransfer_move (planId : TransferPlanId) (authority : Authority)
    (backend : Option Backend) (s : State) :
  TransferMove (.beginTransfer planId authority backend) s
    (beginTransfer planId authority backend s).2
  := by
  have houtcome := beginTransfer_outcome planId authority backend s
  generalize beginTransfer planId authority backend s = call at houtcome
  cases houtcome with
  | refused => exact .rest (fun _ => rfl) (fun _ => rfl)
  | @begun plan handle hready =>
      obtain ⟨hopen, hstate⟩ := runAttempt_open plan handle backend
        (a := newAttempt plan authority (s.nextId + 1) s.epoch) rfl
      obtain ⟨hid, -⟩ := runAttempt_core plan handle backend
        (newAttempt plan authority (s.nextId + 1) s.epoch)
      exact .begun (hid.symm ▸ Nat.lt_succ_self _) hopen hstate rfl rfl

theorem finishAttempt_move {id : TransferAttemptId} (authority : Authority) {a : TransferAttempt}
    {s : State} (hattempt : s.attempts.lookup id = some a)
    (hopen : ¬(a.completionCommitted = true ∧ (s.receipts.lookup id).isSome = true))
    (hcancelled : a.state ≠ .cancelled) (hfailed : a.state ≠ .failed) :
  TransferMove (.completeTransfer id authority) s (finishAttempt id a s).2
  := by
  rw [finishAttempt]
  split
  next => exact .completed hattempt hopen hcancelled hfailed (.inr rfl) rfl rfl
  next =>
    have hstate : ∀ completed : Bool, (if completed then TransferState.completed else .failed)
        = .completed ∨ (if completed then TransferState.completed else .failed) = .failed := by
      decide
    dsimp only
    split
    · exact .completed hattempt hopen hcancelled hfailed (hstate _) rfl rfl
    · exact .completed hattempt hopen hcancelled hfailed (hstate _) rfl rfl

theorem completeTransfer_move (id : TransferAttemptId) (authority : Authority) (s : State) :
  TransferMove (.completeTransfer id authority) s (completeTransfer id authority s).2
  := by
  rw [completeTransfer]
  cases hattempt : s.attempts.lookup id with
  | none => exact .rest (fun _ => rfl) (fun _ => rfl)
  | some a =>
  dsimp only
  split
  next => exact .rest (fun _ => rfl) (fun _ => rfl)
  next hopen =>
  split
  next => exact .rest (fun _ => rfl) (fun _ => rfl)
  next hcancelled =>
  split
  next hfailed =>
    cases hreceipt : s.receipts.lookup id with
    | some r => exact .rest (fun _ => rfl) (fun _ => rfl)
    | none => exact .reported hattempt hfailed hreceipt rfl rfl rfl
  next hfailed =>
  split
  next => exact .rest (fun _ => rfl) (fun _ => rfl)
  split
  next => exact .rest (fun _ => rfl) (fun _ => rfl)
  exact finishAttempt_move authority hattempt (by simpa using hopen) hcancelled hfailed

theorem cancelTransfer_move (id : TransferAttemptId) (caller : Authority) (s : State) :
  TransferMove (.cancelTransfer id caller) s (cancelTransfer id caller s).2
  := by
  rw [cancelTransfer]
  cases hattempt : s.attempts.lookup id with
  | none => exact .rest (fun _ => rfl) (fun _ => rfl)
  | some a =>
  dsimp only
  split
  next => exact .rest (fun _ => rfl) (fun _ => rfl)
  next hopen =>
  split
  next => exact .rest (fun _ => rfl) (fun _ => rfl)
  next hcaller =>
    refine .cancelled hattempt ?_ ?_ rfl rfl
    · simp only [Bool.or_eq_true, not_or, Bool.not_eq_true] at hopen
      exact hopen.1.1
    · intro howned
      simpa [howned] using hcaller

/-- The other events leave attempts and receipts alone. -/
theorem Effect.move {e : Event} {s : State} (he : Effect e s (apply e s))
    (hrecover : ∀ file, e ≠ .recover file) :
  TransferMove e s (apply e s)
  := by
  by_cases hbegin : ∃ planId authority backend, e = .beginTransfer planId authority backend
  · obtain ⟨planId, authority, backend, rfl⟩ := hbegin
    exact beginTransfer_move planId authority backend s
  by_cases hcomplete : ∃ id authority, e = .completeTransfer id authority
  · obtain ⟨id, authority, rfl⟩ := hcomplete
    exact completeTransfer_move id authority s
  by_cases hcancel : ∃ id authority, e = .cancelTransfer id authority
  · obtain ⟨id, authority, rfl⟩ := hcancel
    exact cancelTransfer_move id authority s
  generalize apply e s = s' at he
  cases he with
  | registerBuffer haccepted hretired =>
      obtain ⟨_, rfl⟩ := hretired.frame
      exact .rest (fun _ => rfl) (fun _ => rfl)
  | beginTransfer => exact absurd ⟨_, _, _, rfl⟩ hbegin
  | failTransfer => exact absurd ⟨_, _, rfl⟩ hcomplete
  | completeTransfer => exact absurd ⟨_, _, rfl⟩ hcomplete
  | cancelTransfer => exact absurd ⟨_, _, rfl⟩ hcancel
  | rehash hs => exact .rest hs.attempts.lookup hs.receipts.lookup
  | recover => exact absurd rfl (hrecover _)
  | _ => exact .rest (fun _ => rfl) (fun _ => rfl)

/-- What an event does to one attempt and its receipt: nothing, or it is completed, its failure is
reported, or it is cancelled. -/
inductive AttemptMove (e : Event) (s s' : State) (k : TransferAttemptId) (a : TransferAttempt) :
    Prop
  | rest (hattempt : s'.attempts.lookup k = some a)
      (hreceipt : s'.receipts.lookup k = s.receipts.lookup k)
  | completed (hopen : ¬(a.completionCommitted = true ∧ (s.receipts.lookup k).isSome = true))
      (hcancelled : a.state ≠ .cancelled) (hfailed : a.state ≠ .failed)
  | reported (hfailed : a.state = .failed) (hnone : s.receipts.lookup k = none)
      (hattempt : s'.attempts.lookup k = some a)
  | cancelled {caller : Authority} (he : e = .cancelTransfer k caller)
      (hopen : a.completionCommitted = false) (hcaller : MayCancel caller a s)
      (hattempt : s'.attempts.lookup k
        = some { a with state := .cancelled, completionCommitted := false })
      (hreceipt : s'.receipts.lookup k = some (cancelReceipt a))

/-- A move leaves the attempts it is not about alone. -/
theorem TransferMove.attemptMove {e : Event} {s s' : State} (hmove : TransferMove e s s')
    (hwf : WellFormed s) {k : TransferAttemptId} {a : TransferAttempt}
    (ha : s.attempts.lookup k = some a) :
  AttemptMove e s s' k a
  := by
  cases hmove with
  | rest hattempts hreceipts => exact .rest ((hattempts k).trans ha) (hreceipts k)
  | begun hid hopen hstate hattempts hreceipts =>
      have hne := ((hwf.attempts k a ha).2.1.trans_lt hid).ne
      apply AttemptMove.rest
      · rw [hattempts, AList.lookup_insert_ne hne, ha]
      · rw [hreceipts]
  | @completed _ _ _ id a' r hattempt hopen hcancelled hfailed hr hattempts hreceipts =>
      by_cases hk : k = id
      · subst hk
        obtain rfl := Option.some.inj (ha.symm.trans hattempt)
        exact .completed hopen hcancelled hfailed
      · apply AttemptMove.rest
        · rw [hattempts, AList.lookup_insert_ne hk, ha]
        · rw [hreceipts, AList.lookup_insert_ne hk]
  | @reported _ _ _ id a' r hattempt hfailed hnone hr hattempts hreceipts =>
      by_cases hk : k = id
      · subst hk
        obtain rfl := Option.some.inj (ha.symm.trans hattempt)
        exact .reported hfailed hnone (by rw [hattempts, ha])
      · apply AttemptMove.rest
        · rw [hattempts, ha]
        · rw [hreceipts, AList.lookup_insert_ne hk]
  | @cancelled _ _ id a' caller hattempt hopen hcaller hattempts hreceipts =>
      by_cases hk : k = id
      · subst hk
        obtain rfl := Option.some.inj (ha.symm.trans hattempt)
        refine .cancelled rfl hopen hcaller ?_ ?_
        · rw [hattempts, AList.lookup_insert]
        · rw [hreceipts, AList.lookup_insert]
      · apply AttemptMove.rest
        · rw [hattempts, AList.lookup_insert_ne hk, ha]
        · rw [hreceipts, AList.lookup_insert_ne hk]

/-! ### Settled attempts -/

/-- Receipts agree with their attempts; a cancelled attempt is not committed and has the receipt of
its cancellation; a committed attempt has a receipt. -/
structure Settled (s : State) : Prop where
  receipts : s.receipts.All fun k r => ∃ a, s.attempts.lookup k = some a ∧ a.state = r.state
  cancelled : s.attempts.All fun k a => a.state = .cancelled →
    a.completionCommitted = false ∧ s.receipts.lookup k = some (cancelReceipt a)
  committed : s.attempts.All fun k a => a.completionCommitted = true →
    (s.receipts.lookup k).isSome = true

namespace Settled

variable {e : Event} {s s' : State}

/-- An attempt and its receipt are stored, in states that agree. -/
theorem store {i : TransferAttemptId} {a : TransferAttempt} {r : TransferReceipt}
    (h : Settled s) (hagree : a.state = r.state)
    (hcancelled : a.state = .cancelled → a.completionCommitted = false ∧ r = cancelReceipt a)
    (hattempts : ∀ k, s'.attempts.lookup k = if k = i then some a else s.attempts.lookup k)
    (hreceipts : ∀ k, s'.receipts.lookup k = if k = i then some r else s.receipts.lookup k) :
  Settled s'
  where
  receipts := by
    intro k r' hr'
    rw [hreceipts] at hr'
    rw [hattempts]
    split
    next hk =>
      rw [if_pos hk] at hr'
      obtain rfl := Option.some.inj hr'
      exact ⟨a, rfl, hagree⟩
    next hk =>
      rw [if_neg hk] at hr'
      exact h.receipts k r' hr'
  cancelled := by
    intro k a' ha' hstate
    rw [hattempts] at ha'
    rw [hreceipts]
    split
    next hk =>
      rw [if_pos hk] at ha'
      obtain rfl := Option.some.inj ha'
      obtain ⟨hopen, rfl⟩ := hcancelled hstate
      exact ⟨hopen, rfl⟩
    next hk =>
      rw [if_neg hk] at ha'
      exact h.cancelled k a' ha' hstate
  committed := by
    intro k a' ha' hcommitted
    rw [hattempts] at ha'
    rw [hreceipts]
    split
    next => rfl
    next hk =>
      rw [if_neg hk] at ha'
      exact h.committed k a' ha' hcommitted

/-- Nothing is stored. -/
theorem rest (h : Settled s) (hattempts : ∀ k, s'.attempts.lookup k = s.attempts.lookup k)
    (hreceipts : ∀ k, s'.receipts.lookup k = s.receipts.lookup k) :
  Settled s'
  where
  receipts := by
    intro k r hr
    rw [hreceipts] at hr
    rw [hattempts]
    exact h.receipts k r hr
  cancelled := by
    intro k a ha
    rw [hattempts] at ha
    rw [hreceipts]
    exact h.cancelled k a ha
  committed := by
    intro k a ha
    rw [hattempts] at ha
    rw [hreceipts]
    exact h.committed k a ha

/-- A new attempt is stored, and no receipt. -/
theorem begun {i : TransferAttemptId} {a : TransferAttempt} (h : Settled s)
    (hnew : s.attempts.lookup i = none) (hopen : a.completionCommitted = false)
    (hstate : a.state ≠ .cancelled) (hattempts : s'.attempts = s.attempts.insert i a)
    (hreceipts : s'.receipts = s.receipts) :
  Settled s'
  where
  receipts := by
    intro k r hr
    rw [hreceipts] at hr
    obtain ⟨a', ha', hagree⟩ := h.receipts k r hr
    have hne : k ≠ i := by
      rintro rfl
      rw [hnew] at ha'
      cases ha'
    rw [hattempts, AList.lookup_insert_ne hne]
    exact ⟨a', ha', hagree⟩
  cancelled := by
    intro k a' ha' hcancelled
    rw [hattempts] at ha'
    rw [hreceipts]
    obtain ⟨rfl, rfl⟩ | ⟨-, hold⟩ := Table.lookup_insert_some ha'
    · exact absurd hcancelled hstate
    · exact h.cancelled k a' hold hcancelled
  committed := by
    intro k a' ha' hcommitted
    rw [hattempts] at ha'
    rw [hreceipts]
    obtain ⟨rfl, rfl⟩ | ⟨-, hold⟩ := Table.lookup_insert_some ha'
    · rw [hopen] at hcommitted
      cases hcommitted
    · exact h.committed k a' hold hcommitted

/-- Every event but a recovery keeps the attempts settled. -/
theorem move (h : Settled s) (hwf : WellFormed s) (hmove : TransferMove e s s') :
  Settled s'
  := by
  cases hmove with
  | rest hattempts hreceipts => exact h.rest hattempts hreceipts
  | @begun _ _ _ id a hid hopen hstate hattempts hreceipts =>
      refine h.begun ?_ hopen ?_ hattempts hreceipts
      · rw [← Option.not_isSome_iff_eq_none, Option.isSome_iff_exists]
        rintro ⟨a', ha'⟩
        exact absurd hid (not_lt.mpr (hwf.attempts id a' ha').2.1)
      · intro hcancelled
        rw [hcancelled] at hstate
        exact absurd hstate (by decide)
  | @completed _ _ _ id a r hattempt hopen hcancelled hfailed hr hattempts hreceipts =>
      refine h.store (i := id) (a := { a with state := r.state, completionCommitted := true })
        (r := r) rfl (fun hstate => ?_) ?_ ?_
      · have hstate : r.state = .cancelled := hstate
        rw [hstate] at hr
        exact absurd hr (by decide)
      · intro k
        rw [hattempts, Table.lookup_insert_eq]
      · intro k
        rw [hreceipts, Table.lookup_insert_eq]
  | @reported _ _ _ id a r hattempt hfailed hnone hr hattempts hreceipts =>
      refine h.store (i := id) (hfailed.trans hr.symm) (fun hstate => ?_) ?_ ?_
      · rw [hfailed] at hstate
        cases hstate
      · intro k
        rw [hattempts]
        split
        next hk => rw [hk, hattempt]
        next => rfl
      · intro k
        rw [hreceipts, Table.lookup_insert_eq]
  | @cancelled _ _ id a caller hattempt hopen hcaller hattempts hreceipts =>
      refine h.store (i := id)
        (a := { a with state := .cancelled, completionCommitted := false })
        (r := cancelReceipt a) rfl (fun _ => ⟨rfl, rfl⟩) ?_ ?_
      · intro k
        rw [hattempts, Table.lookup_insert_eq]
      · intro k
        rw [hreceipts, Table.lookup_insert_eq]

end Settled

/-- In every reachable state the attempts are settled. -/
theorem settled_of_reachable {w : World} (h : persistedFabric.Reachable w) :
  Settled w.state
  := by
  refine (persistedFabric_invariant (P := Settled) ?_ ?_ ?_ h).2
  · intro epoch
    exact ⟨.empty, .empty, .empty⟩
  · intro e s hwf hs he hrecover
    exact hs.move hwf (he.move hrecover)
  · intro d s _ hs
    constructor
    · rw [hs.receipts]
      exact .empty
    · rw [hs.attempts]
      exact .empty
    · rw [hs.attempts]
      exact .empty

/-! ### Cancelled and committed attempts -/

/-- A cancelled attempt and a committed one stay as they are, with their receipts. -/
theorem AttemptMove.keeps_final {e : Event} {s s' : State} {id : TransferAttemptId}
    {a : TransferAttempt} (hmove : AttemptMove e s s' id a) (h : Settled s) {r : TransferReceipt}
    (ha : s.attempts.lookup id = some a) (hr : s.receipts.lookup id = some r)
    (hfinal : a.state = .cancelled ∨ a.completionCommitted = true) :
  s'.attempts.lookup id = some a ∧ s'.receipts.lookup id = some r
  := by
  cases hmove with
  | rest hattempt hreceipt => exact ⟨hattempt, hreceipt.trans hr⟩
  | completed hopen hcancelled hfailed =>
      obtain hstate | hcommitted := hfinal
      · exact absurd hstate hcancelled
      · exact absurd ⟨hcommitted, by rw [hr]; rfl⟩ hopen
  | reported hfailed hnone hattempt =>
      rw [hnone] at hr
      cases hr
  | cancelled he hopen hcaller hattempt hreceipt =>
      obtain hstate | hcommitted := hfinal
      · obtain rfl := Option.some.inj (hr.symm.trans (h.cancelled id a ha hstate).2)
        rw [hattempt, hreceipt, ← hstate, ← hopen]
        exact ⟨rfl, rfl⟩
      · rw [hopen] at hcommitted
        cases hcommitted

/-- Along every run of a process from a reachable world, a cancelled or committed attempt and its
receipt stay as they are. -/
theorem final_of_run {u v : World} (hu : persistedFabric.Reachable u)
    {h : List (World × Event)} (hrun : (process (· = u)).Run h v) {id : TransferAttemptId}
    {a : TransferAttempt} {r : TransferReceipt} (ha : u.state.attempts.lookup id = some a)
    (hr : u.state.receipts.lookup id = some r)
    (hfinal : a.state = .cancelled ∨ a.completionCommitted = true) :
  v.state.attempts.lookup id = some a ∧ v.state.receipts.lookup id = some r
  := by
  refine process_invariant (P := fun s => s.attempts.lookup id = some a ∧
    s.receipts.lookup id = some r) hu ⟨h, hrun⟩ ⟨ha, hr⟩ ?_
  rintro w e hw hrecover hallowed ⟨ha, hr⟩
  have hmove := (hallowed.effect.move hrecover).attemptMove (wellFormed_of_reachable hw) ha
  exact hmove.keeps_final (settled_of_reachable hw) ha hr hfinal

/-- A completion of a cancelled attempt fails, one of a committed attempt returns its receipt. -/
theorem completeTransfer_final {s : State} (h : Settled s) {id : TransferAttemptId}
    {a : TransferAttempt} (ha : s.attempts.lookup id = some a) (authority : Authority) :
  (a.state = .cancelled → (completeTransfer id authority s).1
    = err .cancelled "cannot complete a cancelled transfer") ∧
  (a.completionCommitted = true → ∀ r, s.receipts.lookup id = some r →
    completeTransfer id authority s = (.ok r, s))
  := by
  rw [completeTransfer, ha]
  constructor
  · intro hstate
    have hopen := (h.cancelled id a ha hstate).1
    simp [hopen, hstate]
  · intro hcommitted r hr
    simp [hcommitted, hr]

/-- A committed attempt can not be cancelled. -/
theorem cancelTransfer_committed {s : State} {id : TransferAttemptId} {a : TransferAttempt}
    (ha : s.attempts.lookup id = some a) (hcommitted : a.completionCommitted = true)
    (authority : Authority) :
  cancelTransfer id authority s
    = (err .cancelled "cannot cancel an already completed transfer", s)
  := by
  rw [cancelTransfer, ha]
  simp [hcommitted]

/-- From a reachable world on, whatever the calls: a cancelled attempt stays as it is with its
`CANCELLED` receipt, and completing it fails; a committed attempt stays as it is with its receipt,
completing it returns that receipt, and cancelling it fails. -/
theorem cancel_and_complete_exclude {u v : World} (hu : persistedFabric.Reachable u)
    {h : List (World × Event)} (hrun : (process (· = u)).Run h v) {id : TransferAttemptId}
    {a : TransferAttempt} (ha : u.state.attempts.lookup id = some a) :
  (a.state = .cancelled → ∃ r, r.state = .cancelled ∧
    u.state.receipts.lookup id = some r ∧ v.state.receipts.lookup id = some r ∧
    v.state.attempts.lookup id = some a ∧
    ∀ authority, ∃ message, (completeTransfer id authority v.state).1 = err .cancelled message) ∧
  (a.completionCommitted = true → ∃ r,
    u.state.receipts.lookup id = some r ∧ v.state.receipts.lookup id = some r ∧
    v.state.attempts.lookup id = some a ∧
    (∀ authority, completeTransfer id authority v.state = (.ok r, v.state)) ∧
    ∀ authority, ∃ error, cancelTransfer id authority v.state = (.error error, v.state))
  := by
  have hsettled := settled_of_reachable hu
  have hv : persistedFabric.Reachable v := reachable_of_process_from hu ⟨h, hrun⟩
  have hlater := settled_of_reachable hv
  constructor
  · intro hstate
    have hr := (hsettled.cancelled id a ha hstate).2
    obtain ⟨ha', hr'⟩ := final_of_run hu hrun ha hr (.inl hstate)
    refine ⟨cancelReceipt a, rfl, hr, hr', ha', fun authority => ?_⟩
    exact ⟨_, (completeTransfer_final hlater ha' authority).1 hstate⟩
  · intro hcommitted
    obtain ⟨r, hr⟩ := Option.isSome_iff_exists.mp (hsettled.committed id a ha hcommitted)
    obtain ⟨ha', hr'⟩ := final_of_run hu hrun ha hr (.inr hcommitted)
    refine ⟨r, hr, hr', ha', fun authority => ?_, fun authority => ?_⟩
    · exact (completeTransfer_final hlater ha' authority).2 hcommitted r hr'
    · exact ⟨_, cancelTransfer_committed ha' hcommitted authority⟩

namespace Fixture

/-- The world in which the owner has cancelled the transfer. -/
def cancelled : World := begun.next (.cancelTransfer 10 owner)

/-- The cancelled attempt. -/
def cancelledAttempt : TransferAttempt := (cancelled.state.attempts.lookup 10).getD {}

theorem lookup_cancelledAttempt :
  cancelled.state.attempts.lookup 10 = some cancelledAttempt
  := by decide +kernel

theorem reachable_cancelled :
  persistedFabric.Reachable cancelled
  := reachable_next (reachable_begun _) trivial

end Fixture

/-- The owner tries to complete the transfer it has cancelled. -/
theorem cancel_and_complete_exclude_fixture :
  ∃ r, r.state = .cancelled ∧ Fixture.cancelled.state.receipts.lookup 10 = some r ∧
    (Fixture.cancelled.next (.completeTransfer 10 Fixture.owner)).state.receipts.lookup 10 = some r
  := by
  obtain ⟨hcancelled, -⟩ := cancel_and_complete_exclude Fixture.reachable_cancelled
    (run_call (.start rfl) (e := .completeTransfer 10 Fixture.owner) rfl)
    Fixture.lookup_cancelledAttempt
  obtain ⟨r, hr, hbefore, hafter, -⟩ := hcancelled (by decide +kernel)
  exact ⟨r, hr, hbefore, hafter⟩

/-! ### Failed attempts -/

/-- The event cancels an attempt that has failed and is not committed. -/
def Event.Relabels (e : Event) (s : State) : Prop :=
  ∃ id caller a, e = .cancelTransfer id caller ∧ s.attempts.lookup id = some a ∧
    a.state = .failed ∧ a.completionCommitted = false ∧ MayCancel caller a s

/-- What has failed in `s` has failed in `s'`, with the same receipts. -/
structure FailureKept (s s' : State) : Prop where
  attempts : s.attempts.All fun k a => a.state = .failed →
    ∃ a', s'.attempts.lookup k = some a' ∧ a'.state = .failed
  receipts : s.receipts.All fun k r => r.state = .failed → s'.receipts.lookup k = some r

theorem FailureKept.trans {s s' s'' : State} (h : FailureKept s s') (h' : FailureKept s' s'') :
  FailureKept s s''
  where
  attempts := by
    intro k a ha hfailed
    obtain ⟨a', ha', hfailed'⟩ := h.attempts k a ha hfailed
    exact h'.attempts k a' ha' hfailed'
  receipts := by
    intro k r hr hfailed
    exact h'.receipts k r (h.receipts k r hr hfailed) hfailed

/-- A cancellation of a failed attempt that is not committed goes through. -/
theorem not_failureKept_of_relabels {e : Event} {s : State} (h : e.Relabels s) :
  ¬FailureKept s (apply e s)
  := by
  obtain ⟨id, caller, a, rfl, ha, hfailed, hopen, hcaller⟩ := h
  have hguard : (caller.workerOwned && (!s.workerLiveLocked caller || caller != a.authority))
      = false := by
    cases howned : caller.workerOwned with
    | false => rfl
    | true =>
        obtain ⟨hlive, rfl⟩ := hcaller howned
        rw [hlive, bne_self_eq_false]
        rfl
  intro hkept
  obtain ⟨a', ha', hfailed'⟩ := hkept.attempts id a ha hfailed
  rw [apply, cancelTransfer, ha] at ha'
  simp only [hopen, hfailed, hguard, Bool.false_or] at ha'
  obtain rfl := Option.some.inj ((AList.lookup_insert _).symm.trans ha')
  cases hfailed'

/-- Every other move keeps failures. -/
theorem TransferMove.failureKept {e : Event} {s s' : State} (hmove : TransferMove e s s')
    (h : Settled s) (hwf : WellFormed s) (hnot : ¬e.Relabels s) :
  FailureKept s s'
  where
  attempts := by
    intro k a ha hfailed
    cases hmove.attemptMove hwf ha with
    | rest hattempt _ => exact ⟨a, hattempt, hfailed⟩
    | completed _ _ hnotFailed => exact absurd hfailed hnotFailed
    | reported _ _ hattempt => exact ⟨a, hattempt, hfailed⟩
    | cancelled he hopen hcaller _ _ => exact absurd ⟨k, _, a, he, ha, hfailed, hopen, hcaller⟩ hnot
  receipts := by
    intro k r hr hstate
    obtain ⟨a, ha, hagree⟩ := h.receipts k r hr
    have hfailed := hagree.trans hstate
    cases hmove.attemptMove hwf ha with
    | rest _ hreceipt => exact hreceipt.trans hr
    | completed _ _ hnotFailed => exact absurd hfailed hnotFailed
    | reported _ hnone _ =>
        rw [hnone] at hr
        cases hr
    | cancelled he hopen hcaller _ _ => exact absurd ⟨k, _, a, he, ha, hfailed, hopen, hcaller⟩ hnot

/-- Through the worlds `ws`, latest first, failed attempts stay failed and `FAILED` receipts stay
the same. -/
def FailuresFinal (ws : List World) : Prop := ws.Pairwise fun v u => FailureKept u.state v.state

/-- In every run of a process from a reachable world, failures are final exactly when no step
cancels an attempt that has failed and is not committed. -/
theorem failure_final_iff {h : List (World × Event)} {w : World}
    (hrun : (process persistedFabric.Reachable).Run h w) :
  FailuresFinal (System.visited h w) ↔ ∀ p ∈ h, ¬p.2.Relabels p.1.state
  := by
  refine System.Run.pairwise_iff (R := fun u v : World => FailureKept u.state v.state)
    (C := fun u e => ¬e.Relabels u.state) (fun _ _ _ => FailureKept.trans) ?_ ?_ hrun
  · rintro u e v hu ⟨hrecover, hallowed, rfl⟩
    have hreachable := reachable_of_process (fun _ hw => hw) hu
    rw [World.next_state]
    constructor
    · intro hkept hrelabels
      exact not_failureKept_of_relabels hrelabels hkept
    · intro hnot
      exact (hallowed.effect.move hrecover).failureKept (settled_of_reachable hreachable)
        (wellFormed_of_reachable hreachable) hnot
  · rintro d u e v _ ⟨⟩

namespace Fixture

/-- The world in which the transfer has failed, on a backend that corrupts its payload. -/
def failed : World :=
  planned.next (.beginTransfer 8 owner (some ({ corrupt := true } : SyntheticBackend).toBackend))

/-- The world in which the failure is reported in a receipt. -/
def reported : World := failed.next (.completeTransfer 10 owner)

/-- The run in which the owner then cancels the transfer. -/
def relabelled : List (World × Event) :=
  [(reported, .cancelTransfer 10 owner), (failed, .completeTransfer 10 owner)]

theorem run_relabelled :
  (process persistedFabric.Reachable).Run relabelled (reported.next (.cancelTransfer 10 owner))
  := by
  have hfailed : persistedFabric.Reachable failed := reachable_next (reachable_planned _) trivial
  exact run_call (run_call (.start hfailed) rfl) rfl

end Fixture

theorem failure_final_fixture :
  FailuresFinal (System.visited Fixture.relabelled
    (Fixture.reported.next (.cancelTransfer 10 Fixture.owner))) ↔
  ∀ p ∈ Fixture.relabelled, ¬p.2.Relabels p.1.state
  := failure_final_iff Fixture.run_relabelled

/-- The owner cancels a transfer that has failed, and replaces its `FAILED` receipt. -/
theorem failed_transfer_relabelled :
  (process persistedFabric.Reachable).Run Fixture.relabelled
    (Fixture.reported.next (.cancelTransfer 10 Fixture.owner)) ∧
  ¬FailuresFinal (System.visited Fixture.relabelled
    (Fixture.reported.next (.cancelTransfer 10 Fixture.owner)))
  := by
  refine ⟨Fixture.run_relabelled, fun hfinal => ?_⟩
  have hkept := (List.pairwise_cons.mp hfinal).1 Fixture.reported List.mem_cons_self
  have hreceipt : ∃ r, Fixture.reported.state.receipts.lookup 10 = some r ∧ r.state = .failed ∧
      (Fixture.reported.next (.cancelTransfer 10 Fixture.owner)).state.receipts.lookup 10
        ≠ some r := by
    decide +kernel
  obtain ⟨r, hr, hfailed, hreplaced⟩ := hreceipt
  exact hreplaced (hkept.receipts 10 r hr hfailed)

end GpuDirectFabric
