import GpuDirectFabric.Frames
import GpuDirectFabric.Recovery

/-!
# Owners

The registrations a worker owns are to be in force only while the incarnation that made them is
live.  The death of a worker and an epoch change take them out of force, and so does a
recovery; a live worker that registers again with another boot id does not.
-/

namespace GpuDirectFabric

open Coordinator Persistence

/-- The live-worker table maps the owner of every `REGISTERED` registration of a worker to the
incarnation that made it. -/
def OwnersLive (s : State) : Prop :=
  ∀ k r, s.registrations.lookup k = some r → r.state = .registered →
    r.authority.workerOwned = true →
    ∃ w, s.workers.lookup r.authority.worker = some (w, r.authority.boot)

/-- The event is a call of `register_worker` that moves a live worker with a `REGISTERED`
registration on to another incarnation. -/
def Event.Advances (s : State) : Event → Prop
  | .registerWorker worker boot epoch =>
    epoch = s.epoch ∧ (s.workerMaxBoot.lookup worker).getD 0 ≤ boot ∧
    (∃ live, s.workers.lookup worker = some live ∧ live.2 ≠ boot) ∧
    ∃ k r, s.registrations.lookup k = some r ∧ r.state = .registered ∧
      r.authority.workerOwned = true ∧ r.authority.worker = worker
  | _ => False

/-- A live authority of a worker names the incarnation in the table. -/
theorem lookup_of_workerLive {s : State} {a : Authority} (h : s.workerLiveLocked a = true)
    (howned : a.workerOwned = true) :
  ∃ w, s.workers.lookup a.worker = some (w, a.boot)
  := by
  rw [State.workerLiveLocked] at h
  split at h
  next => cases h
  next =>
    rw [howned] at h
    cases hlookup : s.workers.lookup a.worker with
    | none =>
        rw [hlookup] at h
        cases h
    | some w =>
        rw [hlookup] at h
        have hboot : w.2 = a.boot := by simpa using h
        exact ⟨w.1, by rw [← hboot]⟩

/-- A worker that is live at another incarnation is moved on. -/
theorem registerWorker_advances {s : State} {worker : WorkerId} {boot : WorkerBootId}
    {epoch : CoordinatorEpoch} {live : WorkerId × WorkerBootId} (hepoch : epoch = s.epoch)
    (hvalid : valid worker = true) (hboot : (s.workerMaxBoot.lookup worker).getD 0 ≤ boot)
    (hlive : s.workers.lookup worker = some live) (hne : live.2 ≠ boot) :
  ∃ w, (registerWorker worker boot epoch s).2 = { s with
    workers := s.workers.insert worker (w, boot)
    workerMaxBoot := s.workerMaxBoot.insert worker boot }
  := by
  rw [registerWorker, if_neg (by simp [hepoch]), if_neg (by simp [hvalid])]
  dsimp only
  rw [if_neg (not_lt.mpr hboot), hlive]
  dsimp only
  split
  next => exact ⟨_, rfl⟩
  next => exact ⟨_, rfl⟩

namespace OwnersLive

variable {s s' : State}

theorem of_unowned (h : Unowned s) :
  OwnersLive s
  := by
  intro k r hr hstate
  exact absurd hstate (h.registrations k r hr)

/-- An event that does not advance an owner keeps the owners live. -/
theorem effect {e : Event} (h : OwnersLive s) (he : Effect e s s')
    (hrecover : ∀ file, e ≠ .recover file) (hadvances : ¬e.Advances s) :
  OwnersLive s'
  := by
  intro k r hr hstate howned
  obtain hold | ⟨p, backend, rfl, hnew⟩ := he.registered hrecover hr hstate
  · obtain ⟨w, hw⟩ := h k r hold hstate howned
    cases he with
    | @registerWorker _ worker v boot epoch hepoch hvalid hboot hname =>
        by_cases hworker : r.authority.worker = worker
        · have hsame : r.authority.boot = boot := by
            by_contra hne
            rw [hworker] at hw
            exact hadvances ⟨hepoch, hboot, ⟨_, hw, hne⟩, k, r, hold, hstate, howned, hworker⟩
          rw [hworker, hsame]
          exact ⟨v, AList.lookup_insert _⟩
        · exact ⟨w, (AList.lookup_insert_ne hworker).trans hw⟩
    | @markWorkerDead _ worker =>
        have hother := (lookup_revalidateIf hr hstate).2
        have hworker : r.authority.worker ≠ worker := by
          rintro rfl
          simp [howned] at hother
        exact ⟨w, (AList.lookup_erase_ne hworker).trans hw⟩
    | advanceEpoch =>
        have hother := (lookup_revalidateIf hr hstate).2
        simp [hstate] at hother
    | registerBuffer haccepted hretired =>
        obtain ⟨_, rfl⟩ := hretired.frame
        exact ⟨w, hw⟩
    | rehash hs => exact ⟨w, (hs.workers.lookup _).trans hw⟩
    | recover => exact absurd rfl (hrecover _)
    | _ => exact ⟨w, hw⟩
  · rw [hnew.authority] at howned ⊢
    obtain ⟨w, hw⟩ := lookup_of_workerLive (hnew.live howned) howned
    cases he with
    | refused => exact ⟨w, hw⟩
    | retireDeregistering => exact ⟨w, hw⟩
    | registerBuffer haccepted hretired =>
        obtain ⟨_, rfl⟩ := hretired.frame
        exact ⟨w, hw⟩

/-- An event that advances an owner leaves its registration with an incarnation that is not
live. -/
theorem not_of_advances {e : Event} (h : OwnersLive s) (hadvances : e.Advances s) :
  ¬OwnersLive (apply e s)
  := by
  cases e with
  | registerWorker worker boot epoch =>
      obtain ⟨hepoch, hboot, ⟨live, hlive, hne⟩, k, r, hr, hstate, howned, hworker⟩ := hadvances
      have hvalid : valid worker = true := by rw [← hworker]; exact howned
      obtain ⟨w, heq⟩ := registerWorker_advances hepoch hvalid hboot hlive hne
      intro h'
      rw [apply, heq] at h'
      obtain ⟨v, hv⟩ := h' k r hr hstate howned
      obtain ⟨v', hv'⟩ := h k r hr hstate howned
      rw [hworker] at hv hv'
      have hnew := (AList.lookup_insert _).symm.trans hv
      have hold := hlive.symm.trans hv'
      obtain ⟨-, hboot'⟩ := Prod.mk.inj (Option.some.inj hnew)
      apply hne
      rw [Option.some.inj hold, hboot']
  | _ => exact hadvances.elim

/-- Where the owners are live, an event keeps them so exactly when it does not advance one. -/
theorem next_iff {setting : Setting} {w : World} {e : Event} (h : OwnersLive w.state)
    (hallowed : e.Allowed setting w) :
  OwnersLive (w.next e).state ↔ ¬e.Advances w.state
  := by
  rw [World.next_state]
  constructor
  · intro h' hadvances
    exact h.not_of_advances hadvances h'
  · intro hadvances
    obtain hsame | hunowned | ⟨hnot, heffect⟩ := hallowed.outcome
    · rw [hsame]
      exact h
    · exact of_unowned hunowned
    · exact h.effect heffect hnot hadvances

end OwnersLive

namespace Fixture

/-- The registration of the buffer. -/
def registration : Registration := (registered.state.registrations.lookup 7).getD {}

/-- The world in which the owner has registered again, with a fresh boot id. -/
def advanced : World := registered.next (.registerWorker 1 2 1)

theorem reachable_advanced (setting : Setting) :
  (fabric setting World.New).Reachable advanced
  := reachable_next (reachable_registered setting) trivial

end Fixture

/-- In a run of coordinators the owners are live throughout, exactly when no step of it advances a
live worker that owns a `REGISTERED` registration. -/
theorem owners_live_iff {w : World} {h : List (World × Event)} (hrun : openFabric.Run h w) :
  (∀ v ∈ System.visited h w, OwnersLive v.state) ↔ ∀ p ∈ h, ¬p.2.Advances p.1.state
  := by
  refine hrun.invariant_iff (P := fun w => OwnersLive w.state)
    (C := fun w e => ¬e.Advances w.state) ?_ ?_ ?_
  · rintro _ ⟨epoch, rfl⟩ k r ⟨⟩
  · rintro w e w' - hw ⟨hallowed, rfl⟩
    exact hw.next_iff hallowed
  · rintro d w e w' - - hw ⟨-, hmay, rfl, rfl⟩
    have hallowed : Event.Allowed ⟨true, true⟩ w (.recover (persistToFile d.state)) := ⟨rfl, hmay⟩
    exact hw.next_iff hallowed

theorem owners_live_iff_fixture :
  ∃ h, openFabric.Run h Fixture.advanced ∧
    ((∀ v ∈ System.visited h Fixture.advanced, OwnersLive v.state) ↔
      ∀ p ∈ h, ¬p.2.Advances p.1.state)
  := by
  obtain ⟨h, hrun⟩ := Fixture.reachable_advanced ⟨true, true⟩
  exact ⟨h, hrun, owners_live_iff hrun⟩

/-- The owner registers again with a fresh boot id, and its registration stays in force. -/
theorem owners_not_live :
  openFabric.Reachable Fixture.advanced ∧ ¬OwnersLive Fixture.advanced.state
  := by
  use Fixture.reachable_advanced ⟨true, true⟩
  intro h
  obtain ⟨w, hw⟩ := h 7 Fixture.registration (by decide) (by decide) (by decide)
  have hlive : Fixture.advanced.state.workers.lookup 1 = some (1, 2) := by decide
  have hboot := hlive.symm.trans hw
  cases hboot

end GpuDirectFabric
