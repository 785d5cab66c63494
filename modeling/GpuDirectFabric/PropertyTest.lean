import GpuDirectFabric.Library.Draws
import GpuDirectFabric.Listings
import GpuDirectFabric.RegisteredPaths
import GpuDirectFabric.Registering
import GpuDirectFabric.Seeding

/-!
# The property test

The main function of `property_test.cpp`: trials that seed a new coordinator from the synthetic
backend, make random calls on it, and check the answers and the records after each of them.  No
check ever fails, whatever the numbers drawn, the number of the trials and their length.
-/

namespace GpuDirectFabric

open Coordinator PathPlanner Draws

namespace PropertyTest

/-! ### Random numbers -/

/-- The generator `xorshift64*`. -/
def xorshift : StateM UInt64 UInt64 := do
  let x ← get
  let x := x ^^^ (x >>> 12)
  let x := x ^^^ (x <<< 25)
  let x := x ^^^ (x >>> 27)
  set x
  return x * 0x2545F4914F6CDD1D

/-- Where the generator starts, at the first seed. -/
def firstSeed (baseSeed : UInt64) : UInt64 :=
  if baseSeed != 0 then baseSeed else 0x9E3779B97F4A7C15

section

variable {G : Type} (rng : StateM G UInt64)

def pick (n : ℕ) : StateM G ℕ := do
  return (← rng).toNat % n

/-- One of a list of ids that is not empty. -/
def pickFrom (ids : List ℕ) : StateM G ℕ := do
  return ids.getD (← pick rng ids.length) 0

end

/-! ### Trials -/

/-- The variables of a trial. -/
structure Trial where
  c : State
  synth : SyntheticBackend
  seed : SyntheticSeedResult
  auth : Authority
  buffers : List BufferId
  failures : ℕ

namespace Trial

def endpoints (t : Trial) : List EndpointId := [t.seed.nic, t.seed.storage, t.seed.peer]

/-- The conditions have been checked. -/
def check (conds : List Bool) (t : Trial) : Trial :=
  { t with failures := t.failures + conds.count false }

/-- What `std::adjacent_find` finds. -/
def adjacentFind : List ℕ → Option ℕ
  | a :: b :: l => if a = b then some a else adjacentFind (b :: l)
  | _ => none

/-- The conditions of `check_invariants`. -/
def invariants (c : State) : List Bool :=
  (registrations c).flatMap (fun r => [(getBuffer r.buffer c).isOk, 1 ≤ r.generation]) ++
    (plans c).flatMap (fun p => [(getBuffer p.source c).isOk, 1 ≤ p.sourceGeneration]) ++
    [(adjacentFind (((Coordinator.buffers c).map BufferRecord.id).insertionSort (· ≤ ·))).isNone]

/-- A new coordinator is seeded. -/
def start : Trial :=
  let synth : SyntheticBackend := {}
  let seeding := seedSynthetic synth (Coordinator 1)
  { c := seeding.2
    synth := synth
    seed := seeding.1
    auth := { epoch := seeding.2.epoch }
    buffers := []
    failures := 0 }

/-! ### The calls, with what is drawn for them -/

/-- The trial after a call, and after what it does with the result unless the call fails. -/
def after {α : Type} (call : Result α × State) (next : α → Trial → Trial) (t : Trial) : Trial :=
  let t := { t with c := call.2 }
  match call.1 with
  | .error _ => t
  | .ok a => next a t

def createBuffer (size : ℕ) (t : Trial) : Trial :=
  let p : CreateBufferParams :=
    { domain := .cudaDevice
      size := size
      alignment := 64
      device := t.seed.device
      support := .synthetic
      provenance := .syntheticFixture
      authority := t.auth }
  t.after (Coordinator.createBuffer p t.c) fun b t => { t with buffers := t.buffers ++ [b.id] }

/-- The backend answers all registrations, so it has been asked when one is made that is no
duplicate. -/
def registerBuffer (buffer : BufferId) (endpoint : EndpointId) (t : Trial) : Trial :=
  let p : RegisterParams :=
    { buffer := buffer
      endpoint := endpoint
      provider := t.seed.rdma
      authority := t.auth
      support := .synthetic
      provenance := .syntheticFixture }
  t.after (Coordinator.registerBuffer p (some t.synth.toBackend) t.c) fun r t =>
  let nextRegId := if r.duplicated then t.synth.nextRegId else t.synth.nextRegId + 1
  check [r.authority.epoch = t.c.epoch] { t with synth := { t.synth with nextRegId := nextRegId } }

def addProvider (available : Bool) (t : Trial) : Trial :=
  { t with c := (Coordinator.addProvider
      { name := "rdma", available := available, support := .synthetic } t.c).2 }

def transfer (source : BufferId) (destination : EndpointId) (t : Trial) : Trial :=
  let p : PlanRequestParams :=
    { policy := .preferDirect, source := source, destination := destination, size := 4096 }
  t.after (planTransfer p t.c) fun plan t =>
  t.after (beginTransfer plan.id t.auth (some t.synth.toBackend) t.c) fun att t =>
  { t with c := (completeTransfer att.id t.auth t.c).2 }

/-- The workers of the test are never written down, so each boots for the first time. -/
def bootAndDie (worker : WorkerId) (t : Trial) : Trial :=
  { t with c := (markWorkerDead worker (registerWorker worker 1 t.c.epoch t.c).2).2 }

def evaluatePath (source : BufferId) (destination : EndpointId) (policy : PathPolicy) (t : Trial) :
    Trial :=
  let d := Coordinator.evaluatePath
    { policy := policy, source := source, destination := destination, size := 4096 } t.c
  if policy = .directOnly then
    t.check [d.eligibility != .directAllowed || d.support = .real]
  else t

end Trial

section

variable {G : Type} (rng : StateM G UInt64)

/-- One event of a trial. -/
def event (t : Trial) : StateM G Trial := do
  match ← pick rng 12 with
  | 0 => return t.createBuffer (1024 + (← pick rng (8 * 1024 * 1024)))
  | 1 =>
    if t.buffers.isEmpty then return t
    let id ← pickFrom rng t.buffers
    return { t with c := (advanceBufferGeneration id t.auth t.c).2 }
  | 2 =>
    if t.buffers.isEmpty then return t
    let buffer ← pickFrom rng t.buffers
    let endpoint ← pickFrom rng t.endpoints
    return t.registerBuffer buffer endpoint
  | 3 =>
    if (registrations t.c).isEmpty then return t
    let id ← pickFrom rng ((registrations t.c).map Registration.id)
    return { t with c := (deregisterBuffer id t.auth t.c).2 }
  | 4 =>
    let id ← pickFrom rng t.endpoints
    return { t with c := (advanceEndpointGeneration id t.auth t.c).2 }
  | 5 =>
    let x ← rng
    return t.addProvider (x &&& 1 == 0)
  | 6 =>
    if t.buffers.isEmpty then return t
    let source ← pickFrom rng t.buffers
    let destination ← pickFrom rng t.endpoints
    return t.transfer source destination
  | 7 => return t.bootAndDie (100 + (← pick rng 3))
  | 8 =>
    if (attempts t.c).isEmpty then return t
    let id ← pickFrom rng ((attempts t.c).map TransferAttempt.id)
    return { t with c := (cancelTransfer id t.auth t.c).2 }
  | 9 =>
    if t.buffers.isEmpty then return t
    let source ← pickFrom rng t.buffers
    let destination ← pickFrom rng t.endpoints
    let policy := if (← pick rng 4) = 0 then .directOnly else .preferDirect
    return t.evaluatePath source destination policy
  | 10 =>
    -- the file is written, and removed unread
    return { t with c := (advanceEpoch t.c).2 }
  | 11 =>
    if t.buffers.isEmpty then return t
    let id ← pickFrom rng t.buffers
    return { t with c := (retireBuffer id t.auth t.c).2 }
  | _ => return t

/-- The events of a trial, up to the first failure. -/
def trial : ℕ → Trial → StateM G Trial
  | 0, t => return t
  | events + 1, t => do
    let t ← event rng t
    let t := t.check (Trial.invariants t.c)
    if t.failures != 0 then return t else trial events t

/-- The exit code after a number of trials. -/
def trials (events : ℕ) : ℕ → StateM G ℕ
  | 0 => return 0
  | seeds + 1 => do
    let t ← trial rng events Trial.start
    if t.failures != 0 then return 1 else trials events seeds

end

/-- The exit code of the test.  The generator goes on from one seed to the next. -/
def main (events : ℕ) (baseSeed : UInt64) (seeds : ℕ) : ℕ :=
  (trials xorshift events seeds (firstSeed baseSeed)).1

/-! ### The checks hold -/

namespace Trial

/-- The coordinator is in a state it can reach, and no check has failed. -/
def Sound (t : Trial) : Prop :=
  (∃ w, persistedFabric.Reachable w ∧ w.state = t.c) ∧ t.failures = 0

theorem Sound.call {t : Trial} (h : t.Sound) (e : Event) (he : e.isCall = true) :
  Sound { t with c := apply e t.c }
  := by
  obtain ⟨⟨w, hw, hstate⟩, hfailures⟩ := h
  use ⟨w.next e, reachable_next hw (Event.allowed_of_isCall he), ?_⟩, hfailures
  rw [World.next_state, hstate]

theorem Sound.plan {t : Trial} (h : t.Sound) (p : PlanRequestParams) :
  Sound { t with c := (planTransfer p t.c).2 }
  := by
  obtain ⟨⟨w, hw, hstate⟩, hfailures⟩ := h
  use ⟨w.plan p, reachable_plan hw p, ?_⟩, hfailures
  rw [World.plan_state, hstate]

theorem Sound.check {t : Trial} {conds : List Bool} (h : t.Sound) (hconds : false ∉ conds) :
  (t.check conds).Sound
  := by
  use h.1
  rw [Trial.check, List.count_eq_zero_of_not_mem hconds]
  apply h.2

theorem sound_start :
  start.Sound
  := by
  have hseed := seedSynthetic_state {} { state := Coordinator 1 }
  use ⟨_, reachable_replay (reachable_new _ 1) rfl, hseed.symm⟩
  rfl

/-- Among distinct numbers, no two neighbours are equal. -/
theorem adjacentFind_eq_none {l : List ℕ} (h : l.Nodup) :
  adjacentFind l = none
  := by
  induction l with
  | nil => rfl
  | cons a l ih =>
      cases l with
      | nil => rfl
      | cons b l =>
          have hne : a ≠ b := (List.nodup_cons.mp h).1 ∘ by
            rintro rfl
            apply List.mem_cons_self
          rw [adjacentFind, if_neg hne]
          apply ih (List.nodup_cons.mp h).2

theorem getBuffer_isOk {c : State} {id : BufferId} (h : Has c.buffers id) :
  (getBuffer id c).isOk = true
  := by
  obtain ⟨b, hb⟩ := h
  rw [getBuffer, hb]
  rfl

/-- The conditions of `check_invariants` hold. -/
theorem Sound.invariants {t : Trial} (h : t.Sound) :
  false ∉ invariants t.c
  := by
  obtain ⟨⟨w, hw, hstate⟩, -⟩ := h
  rw [← hstate]
  obtain ⟨hwf, hresolve⟩ := resolves_of_reachable hw
  have hlistings := listings_of_named hwf (directoryNamed_of_reachable hw) hresolve
  rw [Trial.invariants]
  simp only [List.mem_append, List.mem_flatMap, List.mem_cons, List.not_mem_nil, or_false]
  rintro ((⟨r, hr, hcond⟩ | ⟨p, hp, hcond⟩) | hcond)
  · obtain ⟨k, hk⟩ := (hlistings.registrations.mem r).mp hr
    have hresolves := hresolve.registrations k r hk
    rw [getBuffer_isOk hresolves.buffer.has, decide_eq_true hresolves.generation] at hcond
    simp at hcond
  · obtain ⟨k, hk⟩ := (hlistings.plans.mem p).mp hp
    have hresolves := hresolve.plans k p hk
    rw [getBuffer_isOk hresolves.source.has, decide_eq_true hresolves.source.1] at hcond
    simp at hcond
  · have hids : ((Coordinator.buffers w.state).map BufferRecord.id).Nodup :=
      List.pairwise_map.mpr (hlistings.buffers.increasing.imp fun hlt => hlt.ne)
    rw [adjacentFind_eq_none ((List.perm_insertionSort _ _).nodup_iff.mpr hids)] at hcond
    cases hcond

/-! ### The calls keep them -/

theorem Sound.after {α : Type} {call : Result α × State} {next : α → Trial → Trial} {t : Trial}
    (h : Sound { t with c := call.2 })
    (hnext : ∀ a, call.1 = .ok a → (next a { t with c := call.2 }).Sound) :
  (t.after call next).Sound
  := by
  rw [Trial.after]
  obtain ⟨e | a, c⟩ := call
  · apply h
  · apply hnext a rfl

theorem Sound.createBuffer {t : Trial} (h : t.Sound) (size : ℕ) :
  (t.createBuffer size).Sound
  := by
  have hcall (p : CreateBufferParams) := h.call (.createBuffer p) rfl
  apply Sound.after (hcall _)
  intro b _
  apply hcall

/-- A registration that is returned is for the epoch of the coordinator. -/
theorem epoch_of_registered {p : RegisterParams} {backend : Option Backend} {s : State}
    {r : Registration} (h : (Coordinator.registerBuffer p backend s).1 = .ok r) :
  r.authority.epoch = (Coordinator.registerBuffer p backend s).2.epoch
  := by
  obtain ⟨b, e, hallowed, -, hsuccess⟩ := registerBuffer_ok h
  generalize Coordinator.registerBuffer p backend s = call at h hsuccess
  cases hsuccess with
  | duplicate hlatest hanswers =>
      obtain rfl := Except.ok.inj h
      rw [← hallowed.epoch, ← hanswers.authority]
      rfl
  | accepted hidle hretired hanswer =>
      obtain rfl := Except.ok.inj h
      obtain rfl | ⟨_, _, _, rfl⟩ := hretired
      · apply hallowed.epoch
      · apply hallowed.epoch

theorem Sound.registerBuffer {t : Trial} (h : t.Sound) (buffer : BufferId)
    (endpoint : EndpointId) :
  (t.registerBuffer buffer endpoint).Sound
  := by
  have hcall (p : RegisterParams) := h.call (.registerBuffer p (some t.synth.toBackend)) rfl
  apply Sound.after (hcall _)
  intro r hr
  apply Sound.check
  · apply hcall
  · simp [epoch_of_registered hr]

theorem Sound.transfer {t : Trial} (h : t.Sound) (source : BufferId) (destination : EndpointId) :
  (t.transfer source destination).Sound
  := by
  unfold Trial.transfer
  apply Sound.after (h.plan _)
  intro plan _
  have hbegin (p : PlanRequestParams) :=
    (h.plan p).call (.beginTransfer plan.id t.auth (some t.synth.toBackend)) rfl
  apply Sound.after (hbegin _)
  intro att _
  apply (hbegin _).call (.completeTransfer att.id t.auth) rfl

theorem Sound.bootAndDie {t : Trial} (h : t.Sound) (worker : WorkerId) :
  (t.bootAndDie worker).Sound
  := (h.call (.registerWorker worker 1 t.c.epoch) rfl).call (.markWorkerDead worker) rfl

/-- Only a real registration makes a path direct without degrading it. -/
theorem real_of_directAllowed {p : PlanRequestParams} {s : State}
    (h : (Coordinator.evaluatePath p s).eligibility = .directAllowed) :
  (Coordinator.evaluatePath p s).support = .real
  := by
  have hdirect : (Coordinator.evaluatePath p s).eligibility.isDirect = true := by
    rw [h]
    rfl
  rw [Coordinator.evaluatePath, evaluate_isDirect] at hdirect
  obtain ⟨r, -, hsupport, heligibility⟩ := evaluate_of_requirements hdirect
  rw [Coordinator.evaluatePath] at h ⊢
  rw [hsupport]
  rw [heligibility] at h
  split at h
  next hreal => apply hreal
  next => cases h

theorem Sound.evaluatePath {t : Trial} (h : t.Sound) (source : BufferId) (destination : EndpointId)
    (policy : PathPolicy) :
  (t.evaluatePath source destination policy).Sound
  := by
  rw [Trial.evaluatePath]
  split
  · apply h.check
    simpa using real_of_directAllowed
  · apply h

end Trial

section

variable {G : Type} (rng : StateM G UInt64) {t : Trial}

/-- Every event keeps a trial sound, whatever is drawn for it. -/
theorem event_sound (h : t.Sound) :
  Always Trial.Sound (event rng t)
  := by
  apply Always.draw
  intro op
  split
  · refine .draw fun k => .pure ?_
    apply h.createBuffer
  · split
    · exact .pure h
    · refine .draw fun id => .pure ?_
      apply h.call (.advanceBufferGeneration id t.auth) rfl
  · split
    · exact .pure h
    · refine .draw fun buffer => .draw fun endpoint => .pure ?_
      apply h.registerBuffer
  · split
    · exact .pure h
    · refine .draw fun id => .pure ?_
      apply h.call (.deregisterBuffer id t.auth) rfl
  · refine .draw fun id => .pure ?_
    apply h.call (.advanceEndpointGeneration id t.auth) rfl
  · refine .draw fun x => .pure ?_
    apply h.call (.addProvider _) rfl
  · split
    · exact .pure h
    · refine .draw fun source => .draw fun destination => .pure ?_
      apply h.transfer
  · refine .draw fun k => .pure ?_
    apply h.bootAndDie
  · split
    · exact .pure h
    · refine .draw fun id => .pure ?_
      apply h.call (.cancelTransfer id t.auth) rfl
  · split
    · exact .pure h
    · refine .draw fun source => .draw fun destination => .draw fun k => .pure ?_
      apply h.evaluatePath
  · refine .pure ?_
    apply h.call .advanceEpoch rfl
  · split
    · exact .pure h
    · refine .draw fun id => .pure ?_
      apply h.call (.retireBuffer id t.auth) rfl
  · exact .pure h

/-- A trial stays sound, and is not left early. -/
theorem trial_sound (events : ℕ) (h : t.Sound) :
  Always Trial.Sound (trial rng events t)
  := by
  induction events generalizing t with
  | zero => exact .pure h
  | succ events ih =>
      rw [trial]
      refine (event_sound rng h).bind fun t' ht' => ?_
      have hchecked := ht'.check ht'.invariants
      dsimp only
      split
      · exact .pure hchecked
      · apply ih hchecked

theorem trials_pass (events seeds : ℕ) :
  Always (· = 0) (trials rng events seeds)
  := by
  induction seeds with
  | zero => exact .pure rfl
  | succ seeds ih =>
      rw [trials]
      refine (trial_sound rng events Trial.sound_start).bind fun t ht => ?_
      rw [ht.2]
      apply ih

end

/-- No check of the property test ever fails: whatever the seed, and however many trials of however
many events it makes, it ends with the exit code zero.  So it would with any source of numbers in
place of its generator. -/
theorem property_test_passes (events seeds : ℕ) :
  (∀ baseSeed, main events baseSeed seeds = 0) ∧
    ∀ (G : Type) (rng : StateM G UInt64), Always (· = 0) (trials rng events seeds)
  := by
  constructor
  · intro baseSeed
    apply trials_pass xorshift events seeds (firstSeed baseSeed)
  · intro G rng
    apply trials_pass rng

end PropertyTest

end GpuDirectFabric
