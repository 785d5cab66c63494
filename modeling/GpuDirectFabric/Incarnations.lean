import GpuDirectFabric.Owners

/-!
# Incarnations

An incarnation of a worker is known by its boot id.  The coordinator keeps, for each worker, the
incarnation that is live and the highest boot id it has accepted, which outlives the incarnation.
It takes the highest boot id `0` for that of a worker it has never seen.
-/

namespace GpuDirectFabric

open Coordinator

/-- The incarnation of the worker with that boot id is live. -/
def State.LiveIncarnation (s : State) (worker : WorkerId) (boot : WorkerBootId) : Prop :=
  ∃ w, s.workers.lookup worker = some (w, boot)

/-- The incarnation has been accepted before, and is live no more: a higher boot id has been
accepted, or it is the highest and the worker is not live. -/
def State.DeadIncarnation (s : State) (worker : WorkerId) (boot : WorkerBootId) : Prop :=
  ∃ m, s.workerMaxBoot.lookup worker = some m ∧
    (boot < m ∨ boot = m ∧ s.workers.lookup worker = none)

/-- The boot id of a live worker is the highest one accepted. -/
def BootsRecorded (s : State) : Prop :=
  ∀ worker boot, s.LiveIncarnation worker boot → s.workerMaxBoot.lookup worker = some boot

/-- A worker's authority is live when it is of the current epoch and names the live
incarnation. -/
theorem workerLive_iff {s : State} {a : Authority} (howned : a.workerOwned = true) :
  s.workerLiveLocked a = true ↔ a.epoch = s.epoch ∧ s.LiveIncarnation a.worker a.boot
  := by
  constructor
  · intro h
    refine ⟨?_, lookup_of_workerLive h howned⟩
    rw [State.workerLiveLocked] at h
    split at h
    next => cases h
    next hepoch => simpa using hepoch
  · rintro ⟨hepoch, w, hw⟩
    simp [State.workerLiveLocked, hepoch, howned, hw]

theorem State.DeadIncarnation.not_live {s : State} (h : BootsRecorded s) {worker : WorkerId}
    {boot : WorkerBootId} (hdead : s.DeadIncarnation worker boot) :
  ¬s.LiveIncarnation worker boot
  := by
  intro hlive
  obtain ⟨m, hm, hlt | ⟨rfl, hnone⟩⟩ := hdead
  · rw [h worker boot hlive, Option.some.injEq] at hm
    exact absurd hlt hm.not_lt
  · obtain ⟨w, hw⟩ := hlive
    rw [hnone] at hw
    cases hw

/-! ### Registration of workers -/

/-- `register_worker` accepts the incarnation. -/
structure Admits (s : State) (worker : WorkerId) (boot : WorkerBootId) (epoch : CoordinatorEpoch) :
    Prop where
  epoch : epoch = s.epoch
  valid : valid worker = true
  current : (s.workerMaxBoot.lookup worker).getD 0 ≤ boot
  fresh : (s.workerMaxBoot.lookup worker).getD 0 ≠ 0 → s.workers.lookup worker = none →
    (s.workerMaxBoot.lookup worker).getD 0 < boot

/-- The tables with a new incarnation of the worker. -/
def State.admitted (s : State) (worker w : WorkerId) (boot : WorkerBootId) : State :=
  { s with
    workers := s.workers.insert worker (w, boot)
    workerMaxBoot := s.workerMaxBoot.insert worker boot }

/-- The ways a call of `register_worker` can end. -/
inductive RegisterWorkerOutcome (worker : WorkerId) (boot : WorkerBootId)
    (epoch : CoordinatorEpoch) (s : State) : Result Unit × State → Prop
  | refused {e : Error} (hrefused : ¬Admits s worker boot epoch) :
      RegisterWorkerOutcome worker boot epoch s (.error e, s)
  | duplicate (hadmits : Admits s worker boot epoch) (hlive : s.LiveIncarnation worker boot) :
      RegisterWorkerOutcome worker boot epoch s (.ok (), s)
  | admitted {w : WorkerId} (hadmits : Admits s worker boot epoch) :
      RegisterWorkerOutcome worker boot epoch s (.ok (), s.admitted worker w boot)

theorem registerWorker_outcome (worker : WorkerId) (boot : WorkerBootId)
    (epoch : CoordinatorEpoch) (s : State) :
  RegisterWorkerOutcome worker boot epoch s (registerWorker worker boot epoch s)
  := by
  rw [registerWorker]
  split
  next hepoch => exact .refused fun h => by simp [h.epoch] at hepoch
  next hepoch =>
  have hepoch : epoch = s.epoch := by simpa using hepoch
  split
  next hvalid => exact .refused fun h => by simp [h.valid] at hvalid
  next hvalid =>
  have hvalid : valid worker = true := by simpa using hvalid
  dsimp only
  split
  next hstale => exact .refused fun h => absurd hstale (not_lt.mpr h.current)
  next hcurrent =>
  have hcurrent := not_lt.mp hcurrent
  split
  next hseen =>
    have hseen : (s.workerMaxBoot.lookup worker).getD 0 ≠ 0 := by simpa using hseen
    cases hlive : s.workers.lookup worker with
    | some live =>
        have hadmits : Admits s worker boot epoch :=
          ⟨hepoch, hvalid, hcurrent, fun _ hnone => by rw [hlive] at hnone; cases hnone⟩
        dsimp only
        split
        next hsame => exact .duplicate hadmits ⟨live.1, by rw [hlive, ← hsame]⟩
        next => exact .admitted hadmits
    | none =>
        dsimp only
        split
        next hle => exact .refused fun h => absurd (h.fresh hseen hlive) (not_lt.mpr hle)
        next hlt => exact .admitted ⟨hepoch, hvalid, hcurrent, fun _ _ => not_le.mp hlt⟩
  next hseen =>
    exact .admitted ⟨hepoch, hvalid, hcurrent, fun h => absurd (by simpa using h) hseen⟩

/-- A call of `register_worker` succeeds exactly when the incarnation is admitted. -/
theorem registerWorker_ok_iff {worker : WorkerId} {boot : WorkerBootId}
    {epoch : CoordinatorEpoch} {s : State} :
  (registerWorker worker boot epoch s).1 = .ok () ↔ Admits s worker boot epoch
  := by
  have houtcome := registerWorker_outcome worker boot epoch s
  generalize registerWorker worker boot epoch s = call at houtcome
  cases houtcome with
  | refused hrefused => exact iff_of_false (by rintro ⟨⟩) hrefused
  | duplicate hadmits => exact iff_of_true rfl hadmits
  | admitted hadmits => exact iff_of_true rfl hadmits

/-- An incarnation that is admitted is live after the call. -/
theorem live_of_admits {worker : WorkerId} {boot : WorkerBootId} {epoch : CoordinatorEpoch}
    {s : State} (h : Admits s worker boot epoch) :
  (registerWorker worker boot epoch s).2.LiveIncarnation worker boot
  := by
  have houtcome := registerWorker_outcome worker boot epoch s
  generalize registerWorker worker boot epoch s = call at houtcome
  cases houtcome with
  | refused hrefused => exact absurd h hrefused
  | duplicate _ hlive => exact hlive
  | @admitted w => exact ⟨w, AList.lookup_insert _⟩

/-! ### Steps -/

/-- Workers cease to be live at most, and their highest boot ids stay. -/
structure Ceases (s s' : State) : Prop where
  workers : ∀ worker, s'.workers.lookup worker = s.workers.lookup worker ∨
    s'.workers.lookup worker = none
  maxBoot : ∀ worker, s'.workerMaxBoot.lookup worker = s.workerMaxBoot.lookup worker

theorem Ceases.refl (s : State) :
  Ceases s s
  := ⟨fun _ => .inl rfl, fun _ => rfl⟩

/-- Only `register_worker` makes workers live, and accepts boot ids. -/
theorem Effect.ceases {e : Event} {s s' : State} (he : Effect e s s')
    (hrecover : ∀ file, e ≠ .recover file)
    (hregister : ∀ worker boot epoch, e ≠ .registerWorker worker boot epoch) :
  Ceases s s'
  := by
  cases he with
  | registerWorker => exact absurd rfl (hregister _ _ _)
  | @markWorkerDead _ worker =>
      refine ⟨fun worker' => ?_, fun _ => rfl⟩
      change (s.workers.erase worker).lookup worker' = _ ∨
        (s.workers.erase worker).lookup worker' = _
      rw [Table.lookup_erase_eq]
      split
      · exact .inr rfl
      · exact .inl rfl
  | advanceEpoch => exact ⟨fun _ => .inr rfl, fun _ => rfl⟩
  | registerBuffer haccepted hretired =>
      obtain ⟨_, rfl⟩ := hretired.frame
      exact ⟨fun _ => .inl rfl, fun _ => rfl⟩
  | rehash hs => exact ⟨fun worker => .inl (hs.workers.lookup worker), hs.workerMaxBoot.lookup⟩
  | recover => exact absurd rfl (hrecover _)
  | _ => exact ⟨fun _ => .inl rfl, fun _ => rfl⟩

/-- A step of a process admits an incarnation of a worker, or lets workers cease to be live. -/
theorem admits_or_ceases {setting : Setting} {w : World} {e : Event}
    (h : e.Allowed setting w) (hrecover : ∀ file, e ≠ .recover file) :
  (∃ worker v boot epoch, e = .registerWorker worker boot epoch ∧
      Admits w.state worker boot epoch ∧ apply e w.state = w.state.admitted worker v boot) ∨
    Ceases w.state (apply e w.state) ∧
      ∀ worker boot epoch, e = .registerWorker worker boot epoch →
        Admits w.state worker boot epoch → w.state.LiveIncarnation worker boot
  := by
  by_cases hregister : ∃ worker boot epoch, e = .registerWorker worker boot epoch
  · obtain ⟨worker, boot, epoch, rfl⟩ := hregister
    rw [apply]
    have houtcome := registerWorker_outcome worker boot epoch w.state
    generalize registerWorker worker boot epoch w.state = call at houtcome
    cases houtcome with
    | refused hrefused =>
        refine .inr ⟨.refl _, ?_⟩
        rintro _ _ _ ⟨⟩ hadmits
        exact absurd hadmits hrefused
    | duplicate hadmits hlive =>
        refine .inr ⟨.refl _, ?_⟩
        rintro _ _ _ ⟨⟩ -
        exact hlive
    | admitted hadmits => exact .inl ⟨worker, _, boot, epoch, rfl, hadmits, rfl⟩
  · simp only [not_exists] at hregister
    refine .inr ⟨h.effect.ceases hrecover hregister, ?_⟩
    rintro worker boot epoch rfl
    exact absurd rfl (hregister worker boot epoch)

/-- The event registers a dead worker again whose highest boot id is `0`, with that boot id. -/
def Event.Resurrects (s : State) : Event → Prop
  | .registerWorker worker boot epoch => epoch = s.epoch ∧ valid worker = true ∧ boot = 0 ∧
    s.workerMaxBoot.lookup worker = some 0 ∧ s.workers.lookup worker = none
  | _ => False

theorem admits_of_resurrects {worker : WorkerId} {boot : WorkerBootId} {epoch : CoordinatorEpoch}
    {s : State} (h : (Event.registerWorker worker boot epoch).Resurrects s) :
  Admits s worker boot epoch
  := by
  obtain ⟨hepoch, hvalid, rfl, hmax, -⟩ := h
  refine ⟨hepoch, hvalid, ?_, ?_⟩
  · rw [hmax]
    exact le_rfl
  · intro hpos
    rw [hmax] at hpos
    exact absurd rfl hpos

/-- From `s` to `s'` a live incarnation stays live or dies, and a dead one stays dead. -/
def DeadStayDead (s s' : State) : Prop :=
  ∀ worker boot,
    (s.LiveIncarnation worker boot →
      s'.LiveIncarnation worker boot ∨ s'.DeadIncarnation worker boot)
    ∧ (s.DeadIncarnation worker boot → s'.DeadIncarnation worker boot)

theorem DeadStayDead.trans {s₁ s₂ s₃ : State} (h₁ : DeadStayDead s₁ s₂) (h₂ : DeadStayDead s₂ s₃) :
  DeadStayDead s₁ s₃
  := by
  intro worker boot
  constructor
  · intro hlive
    obtain hlive | hdead := (h₁ worker boot).1 hlive
    · exact (h₂ worker boot).1 hlive
    · exact .inr ((h₂ worker boot).2 hdead)
  · intro hdead
    exact (h₂ worker boot).2 ((h₁ worker boot).2 hdead)

namespace BootsRecorded

variable {s s' : State}

theorem ceases (h : BootsRecorded s) (hs : Ceases s s') :
  BootsRecorded s'
  := by
  rintro worker boot ⟨w, hw⟩
  rw [hs.maxBoot]
  obtain hsame | hnone := hs.workers worker
  · rw [hsame] at hw
    exact h worker boot ⟨w, hw⟩
  · rw [hnone] at hw
    cases hw

theorem admitted {worker w : WorkerId} {boot : WorkerBootId} (h : BootsRecorded s) :
  BootsRecorded (s.admitted worker w boot)
  := by
  rintro worker' boot' ⟨v, hv⟩
  rw [State.admitted] at hv ⊢
  obtain ⟨rfl, heq⟩ | ⟨hne, hold⟩ := Table.lookup_insert_some hv
  · obtain ⟨-, rfl⟩ := Prod.mk.inj heq
    exact AList.lookup_insert _
  · exact (AList.lookup_insert_ne hne).trans (h worker' boot' ⟨v, hold⟩)

theorem deadStayDead_ceases (h : BootsRecorded s) (hs : Ceases s s') :
  DeadStayDead s s'
  := by
  intro worker boot
  constructor
  · rintro ⟨w, hw⟩
    obtain hsame | hnone := hs.workers worker
    · exact .inl ⟨w, hsame.trans hw⟩
    · refine .inr ⟨boot, ?_, .inr ⟨rfl, hnone⟩⟩
      rw [hs.maxBoot]
      exact h worker boot ⟨w, hw⟩
  · rintro ⟨m, hm, hdead⟩
    refine ⟨m, (hs.maxBoot worker).trans hm, hdead.imp_right ?_⟩
    rintro ⟨rfl, hnone⟩
    refine ⟨rfl, ?_⟩
    obtain hsame | hnone' := hs.workers worker
    · exact hsame.trans hnone
    · exact hnone'

/-- Admitting an incarnation keeps the dead dead unless it resurrects one. -/
theorem deadStayDead_admit {worker w : WorkerId} {boot : WorkerBootId} {epoch : CoordinatorEpoch}
    (h : BootsRecorded s) (hadmits : Admits s worker boot epoch)
    (hnew : ¬(Event.registerWorker worker boot epoch).Resurrects s) :
  DeadStayDead s (s.admitted worker w boot)
  := by
  intro worker' boot'
  by_cases hworker : worker' = worker
  · subst hworker
    have hmax : (s.admitted worker' w boot).workerMaxBoot.lookup worker' = some boot :=
      AList.lookup_insert _
    constructor
    · intro hlive
      have hle := hadmits.current
      rw [h worker' boot' hlive, Option.getD_some] at hle
      obtain rfl | hlt := eq_or_lt_of_le hle
      · exact .inl ⟨w, AList.lookup_insert _⟩
      · exact .inr ⟨boot, hmax, .inl hlt⟩
    · rintro ⟨m, hm, hdead⟩
      have hle := hadmits.current
      have hfresh := hadmits.fresh
      rw [hm, Option.getD_some] at hle hfresh
      refine ⟨boot, hmax, .inl ?_⟩
      obtain hlt | ⟨rfl, hnone⟩ := hdead
      · exact lt_of_lt_of_le hlt hle
      · by_contra hnot
        obtain rfl : boot' = boot := le_antisymm hle (not_lt.mp hnot)
        have hzero : boot' = 0 := by
          by_contra hpos
          exact hnot (hfresh hpos hnone)
        exact hnew ⟨hadmits.epoch, hadmits.valid, hzero, hzero ▸ hm, hnone⟩
  · have hworkers : (s.admitted worker w boot).workers.lookup worker' = s.workers.lookup worker' :=
      AList.lookup_insert_ne hworker
    have hmax : (s.admitted worker w boot).workerMaxBoot.lookup worker'
        = s.workerMaxBoot.lookup worker' := AList.lookup_insert_ne hworker
    rw [State.LiveIncarnation, State.LiveIncarnation, State.DeadIncarnation, State.DeadIncarnation,
      hworkers, hmax]
    exact ⟨.inl, fun h => h⟩

end BootsRecorded

/-- A step of a process keeps the dead dead exactly when it resurrects none. -/
theorem deadStayDead_iff {setting : Setting} {w : World} {e : Event} (h : BootsRecorded w.state)
    (hallowed : e.Allowed setting w) (hrecover : ∀ file, e ≠ .recover file) :
  DeadStayDead w.state (w.next e).state ↔ ¬e.Resurrects w.state
  := by
  rw [World.next_state]
  obtain ⟨worker, v, boot, epoch, rfl, hadmits, hstate⟩ | ⟨hceases, hadmitted⟩ :=
    admits_or_ceases hallowed hrecover
  · rw [hstate]
    constructor
    · rintro hdead ⟨-, -, rfl, hmax, hnone⟩
      have hlive : (w.state.admitted worker v 0).LiveIncarnation worker 0 :=
        ⟨v, AList.lookup_insert _⟩
      exact ((hdead worker 0).2 ⟨0, hmax, .inr ⟨rfl, hnone⟩⟩).not_live h.admitted hlive
    · exact h.deadStayDead_admit hadmits
  · refine iff_of_true (h.deadStayDead_ceases hceases) ?_
    cases e with
    | registerWorker worker boot epoch =>
        intro hresurrects
        obtain ⟨w, hw⟩ := hadmitted worker boot epoch rfl (admits_of_resurrects hresurrects)
        rw [hresurrects.2.2.2.2] at hw
        cases hw
    | _ => exact id

/-! ### Runs -/

/-- The step of a run is a call of `register_worker` that accepts the incarnation. -/
def Accepts (p : World × Event) (worker : WorkerId) (boot : WorkerBootId) : Prop :=
  ∃ epoch, p.2 = .registerWorker worker boot epoch ∧
    (registerWorker worker boot epoch p.1.state).1 = .ok ()

/-- In the history, latest first, whenever an incarnation of a worker that is not live is
accepted, its boot id is above all boot ids of the worker accepted before. -/
def FreshBoots (h : List (World × Event)) : Prop :=
  h.Pairwise fun p q => ∀ worker boot boot', Accepts p worker boot →
    p.1.state.workers.lookup worker = none → Accepts q worker boot' → boot' < boot

theorem bootsRecorded_of_process {w : World} (h : (process World.New).Reachable w) :
  BootsRecorded w.state
  := by
  apply h.invariant (P := fun w => BootsRecorded w.state)
  · rintro w ⟨epoch, rfl⟩ worker boot ⟨v, ⟨⟩⟩
  · rintro w e w' hw ⟨hrecover, hallowed, rfl⟩
    rw [World.next_state]
    obtain ⟨worker, v, boot, epoch, -, -, hstate⟩ | ⟨hceases, -⟩ :=
      admits_or_ceases hallowed hrecover
    · rw [hstate]
      exact hw.admitted
    · exact hw.ceases hceases
  · rintro d w e w' _ _ ⟨⟩

/-- The highest boot id of a worker is one that was accepted and live, and bounds all that were
accepted. -/
structure MaxBoot (h : List (World × Event)) (w : World) : Prop where
  accepted : ∀ worker m, w.state.workerMaxBoot.lookup worker = some m → ∃ q ∈ h, Accepts q worker m
  live : ∀ worker m, w.state.workerMaxBoot.lookup worker = some m →
    ∃ v ∈ System.visited h w, v.state.LiveIncarnation worker m
  bounds : ∀ q ∈ h, ∀ worker boot, Accepts q worker boot →
    ∃ m, w.state.workerMaxBoot.lookup worker = some m ∧ boot ≤ m

namespace MaxBoot

variable {h : List (World × Event)} {w : World} {e : Event}

/-- An incarnation is admitted. -/
theorem admitted {worker v : WorkerId} {boot : WorkerBootId} {epoch : CoordinatorEpoch}
    (hmax : MaxBoot h w) (he : e = .registerWorker worker boot epoch)
    (hadmits : Admits w.state worker boot epoch)
    (hstate : (w.next e).state = w.state.admitted worker v boot) :
  MaxBoot ((w, e) :: h) (w.next e)
  where
  accepted := by
    intro worker' m hm
    rw [hstate] at hm
    obtain ⟨rfl, rfl⟩ | ⟨-, hold⟩ := Table.lookup_insert_some hm
    · exact ⟨(w, e), List.mem_cons_self, epoch, he, registerWorker_ok_iff.mpr hadmits⟩
    · obtain ⟨q, hq, haccepts⟩ := hmax.accepted worker' m hold
      exact ⟨q, List.mem_cons_of_mem _ hq, haccepts⟩
  live := by
    intro worker' m hm
    rw [hstate] at hm
    obtain ⟨rfl, rfl⟩ | ⟨-, hold⟩ := Table.lookup_insert_some hm
    · refine ⟨w.next e, List.mem_cons_self, v, ?_⟩
      rw [hstate]
      exact AList.lookup_insert _
    · obtain ⟨u, hu, hlive⟩ := hmax.live worker' m hold
      exact ⟨u, List.mem_cons_of_mem _ hu, hlive⟩
  bounds := by
    intro q hq worker' boot' haccepts
    rw [hstate]
    have hnew : (w.state.admitted worker v boot).workerMaxBoot.lookup worker = some boot :=
      AList.lookup_insert _
    obtain rfl | hq := List.mem_cons.mp hq
    · obtain ⟨epoch', he', -⟩ := haccepts
      obtain ⟨rfl, rfl, -⟩ := Event.registerWorker.inj (he.symm.trans he')
      exact ⟨boot, hnew, le_rfl⟩
    · obtain ⟨m, hm, hle⟩ := hmax.bounds q hq worker' boot' haccepts
      by_cases hworker : worker' = worker
      · subst hworker
        have hcurrent := hadmits.current
        rw [hm, Option.getD_some] at hcurrent
        exact ⟨boot, hnew, hle.trans hcurrent⟩
      · exact ⟨m, (AList.lookup_insert_ne hworker).trans hm, hle⟩

/-- No incarnation is admitted. -/
theorem ceases (hmax : MaxBoot h w) (hw : BootsRecorded w.state)
    (hceases : Ceases w.state (w.next e).state)
    (hadmitted : ∀ worker boot epoch, e = .registerWorker worker boot epoch →
      Admits w.state worker boot epoch → w.state.LiveIncarnation worker boot) :
  MaxBoot ((w, e) :: h) (w.next e)
  where
  accepted := by
    intro worker m hm
    rw [hceases.maxBoot] at hm
    obtain ⟨q, hq, haccepts⟩ := hmax.accepted worker m hm
    exact ⟨q, List.mem_cons_of_mem _ hq, haccepts⟩
  live := by
    intro worker m hm
    rw [hceases.maxBoot] at hm
    obtain ⟨u, hu, hlive⟩ := hmax.live worker m hm
    exact ⟨u, List.mem_cons_of_mem _ hu, hlive⟩
  bounds := by
    intro q hq worker boot haccepts
    rw [hceases.maxBoot]
    obtain rfl | hq := List.mem_cons.mp hq
    · obtain ⟨epoch, he, hok⟩ := haccepts
      have hlive := hadmitted worker boot epoch he (registerWorker_ok_iff.mp hok)
      exact ⟨boot, hw worker boot hlive, le_rfl⟩
    · exact hmax.bounds q hq worker boot haccepts

end MaxBoot

theorem maxBoot_of_run {h : List (World × Event)} {w : World}
    (hrun : (process World.New).Run h w) :
  MaxBoot h w
  := by
  induction hrun with
  | start hw =>
      obtain ⟨epoch, rfl⟩ := hw
      constructor
      · rintro worker m ⟨⟩
      · rintro worker m ⟨⟩
      · rintro q ⟨⟩
  | step hrun hs ih =>
      obtain ⟨hrecover, hallowed, rfl⟩ := hs
      obtain ⟨worker, v, boot, epoch, he, hadmits, hstate⟩ | ⟨hceases, hadmitted⟩ :=
        admits_or_ceases hallowed hrecover
      · exact ih.admitted he hadmits hstate
      · exact ih.ceases (bootsRecorded_of_process ⟨_, hrun⟩) hceases hadmitted
  | handover _ _ hs => cases hs

/-- A step that resurrects makes an incarnation live again that was live and had ceased to be. -/
theorem not_neverAgain_of_resurrects {h : List (World × Event)} {w : World}
    (hrun : (process World.New).Run h w) {p : World × Event} (hp : p ∈ h)
    (hresurrects : p.2.Resurrects p.1.state) :
  ∃ worker boot,
    ¬System.NeverAgain (fun v : World => v.state.LiveIncarnation worker boot) (System.visited h w)
  := by
  induction hrun with
  | start => cases hp
  | @step h w w' e hrun hs ih =>
      obtain rfl | hp := List.mem_cons.mp hp
      · obtain ⟨hrecover, hallowed, rfl⟩ := hs
        cases e with
        | registerWorker worker boot epoch =>
            have hadmits := admits_of_resurrects hresurrects
            obtain ⟨-, -, rfl, hmax, hnone⟩ := hresurrects
            refine ⟨worker, 0, fun hnever => ?_⟩
            have hdead : ¬w.state.LiveIncarnation worker 0 := by
              rintro ⟨v, hv⟩
              rw [hnone] at hv
              cases hv
            obtain ⟨u, hu, hlive⟩ := (maxBoot_of_run hrun).live worker 0 hmax
            obtain rfl | hu := List.mem_cons.mp hu
            · exact hdead hlive
            · refine hnever u w (w.next (.registerWorker worker 0 epoch)) ?_ hlive hdead
                (live_of_admits hadmits)
              exact ((List.singleton_sublist.mpr hu).cons_cons w).cons_cons _
        | _ => cases hresurrects
      · obtain ⟨worker, boot, hagain⟩ := ih hp
        refine ⟨worker, boot, fun hnever => hagain ?_⟩
        intro u v x hsublist
        exact hnever u v x (hsublist.trans (List.sublist_cons_self _ _))
  | handover _ _ hs => cases hs

/-- Workers that are not live are accepted only with fresh boot ids exactly when no step
resurrects one. -/
theorem freshBoots_iff {h : List (World × Event)} {w : World}
    (hrun : (process World.New).Run h w) :
  FreshBoots h ↔ ∀ p ∈ h, ¬p.2.Resurrects p.1.state
  := by
  induction hrun with
  | start => exact iff_of_true .nil (by rintro p ⟨⟩)
  | @step h w w' e hrun hs ih =>
      rw [FreshBoots, List.pairwise_cons, List.forall_mem_cons, ← ih]
      refine and_congr ?_ Iff.rfl
      have hmax := maxBoot_of_run hrun
      constructor
      · intro hfresh hresurrects
        cases e with
        | registerWorker worker boot epoch =>
            have hadmits := admits_of_resurrects hresurrects
            obtain ⟨-, -, rfl, hzero, hnone⟩ := hresurrects
            obtain ⟨q, hq, haccepts⟩ := hmax.accepted worker 0 hzero
            have hlt := hfresh q hq worker 0 0 ⟨epoch, rfl, registerWorker_ok_iff.mpr hadmits⟩ hnone
              haccepts
            exact absurd hlt (lt_irrefl 0)
        | _ => cases hresurrects
      · rintro hnew q hq worker boot boot' ⟨epoch, rfl, hok⟩ hnone haccepts
        have hadmits := registerWorker_ok_iff.mp hok
        obtain ⟨m, hm, hle⟩ := hmax.bounds q hq worker boot' haccepts
        have hfresh := hadmits.fresh
        have hcurrent := hadmits.current
        rw [hm, Option.getD_some] at hfresh hcurrent
        by_contra hnot
        obtain rfl : boot = m := le_antisymm ((not_lt.mp hnot).trans hle) hcurrent
        have hzero : boot = 0 := by
          by_contra hpos
          exact absurd (hfresh hpos hnone) (lt_irrefl boot)
        exact hnew ⟨hadmits.epoch, hadmits.valid, hzero, hzero ▸ hm, hnone⟩
  | handover _ _ hs => cases hs

/-- In every run of one process, dead incarnations stay dead exactly when no step resurrects one,
and so exactly when workers that are not live are accepted only with fresh boot ids. -/
theorem dead_stay_dead_iff {h : List (World × Event)} {w : World}
    (hrun : (process World.New).Run h w) :
  ((∀ worker boot, System.NeverAgain (fun v : World => v.state.LiveIncarnation worker boot)
      (System.visited h w)) ↔ ∀ p ∈ h, ¬p.2.Resurrects p.1.state) ∧
  (FreshBoots h ↔ ∀ p ∈ h, ¬p.2.Resurrects p.1.state)
  := by
  constructor
  · constructor
    · intro hnever p hp hresurrects
      obtain ⟨worker, boot, hagain⟩ := not_neverAgain_of_resurrects hrun hp hresurrects
      exact hagain (hnever worker boot)
    · intro hnone worker boot
      have hpairwise := (System.Run.pairwise_iff (R := fun u v => DeadStayDead u.state v.state)
        (C := fun u e => ¬e.Resurrects u.state) (fun _ _ _ => DeadStayDead.trans) (by
          rintro u e v hu ⟨hrecover, hallowed, rfl⟩
          exact deadStayDead_iff (bootsRecorded_of_process hu) hallowed hrecover)
        (by rintro d u e v _ ⟨⟩) hrun).mpr hnone
      apply System.neverAgain_of_pairwise
        (D := fun v : World => v.state.DeadIncarnation worker boot)
      · intro v hv hdead
        exact hdead.not_live (bootsRecorded_of_process (hrun.reachable_of_visited hv))
      · exact hpairwise.imp fun h => h worker boot
  · exact freshBoots_iff hrun

namespace Fixture

/-- The world in which a worker has registered with the boot id `0`. -/
def booted : World := ({ state := Coordinator 1 } : World).next (.registerWorker 1 0 1)

/-- The world in which it has died. -/
def died : World := booted.next (.markWorkerDead 1)

/-- The run in which it then registers with the boot id `0` again. -/
def reborn : List (World × Event) :=
  [(died, .registerWorker 1 0 1), (booted, .markWorkerDead 1),
    ({ state := Coordinator 1 }, .registerWorker 1 0 1)]

theorem run_reborn :
  (process World.New).Run reborn (died.next (.registerWorker 1 0 1))
  := by
  have hnew : (process World.New).Run [] { state := Coordinator 1 } := .start ⟨1, rfl⟩
  exact run_call (run_call (run_call hnew rfl) rfl) rfl

end Fixture

theorem dead_stay_dead_fixture :
  ((∀ worker boot, System.NeverAgain (fun v : World => v.state.LiveIncarnation worker boot)
      (System.visited Fixture.reborn (Fixture.died.next (.registerWorker 1 0 1)))) ↔
    ∀ p ∈ Fixture.reborn, ¬p.2.Resurrects p.1.state) ∧
  (FreshBoots Fixture.reborn ↔ ∀ p ∈ Fixture.reborn, ¬p.2.Resurrects p.1.state)
  := dead_stay_dead_iff Fixture.run_reborn

/-- The incarnation with the boot id `0` dies, and is live again. -/
theorem dead_incarnation_resurrected :
  (process World.New).Run Fixture.reborn (Fixture.died.next (.registerWorker 1 0 1)) ∧
  (∃ worker boot, ¬System.NeverAgain (fun v : World => v.state.LiveIncarnation worker boot)
    (System.visited Fixture.reborn (Fixture.died.next (.registerWorker 1 0 1)))) ∧
  ¬FreshBoots Fixture.reborn
  := by
  refine ⟨Fixture.run_reborn, ⟨1, 0, ?_⟩, ?_⟩
  · intro hnever
    refine hnever Fixture.booted Fixture.died (Fixture.died.next (.registerWorker 1 0 1))
      (List.sublist_append_left _ [({ state := Coordinator 1 } : World)]) ⟨1, rfl⟩ ?_ ⟨1, rfl⟩
    rintro ⟨w, ⟨⟩⟩
  · intro hfresh
    have hlt := (List.pairwise_cons.mp hfresh).1 ({ state := Coordinator 1 }, .registerWorker 1 0 1)
      (by simp) 1 0 0 ⟨1, rfl, rfl⟩ rfl ⟨1, rfl, rfl⟩
    exact absurd hlt (lt_irrefl 0)

end GpuDirectFabric
