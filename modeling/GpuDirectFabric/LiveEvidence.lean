import GpuDirectFabric.Approval
import GpuDirectFabric.DeadOwners
import GpuDirectFabric.Incarnations

/-!
# Live evidence

An outcome that allows a transfer relies on records that workers may have contributed.  The planner
asks for the owner of the registration to be live, and for the staging capability to be of the
current epoch.  It asks nothing of the owners of the endpoint, the device and the direct capability,
and these records stay when a worker dies.
-/

namespace GpuDirectFabric

open Coordinator Persistence PathPlanner Search

/-! ### What an outcome relies on -/

/-- The capability lets the planner stage through host memory. -/
def HostStaging (ev : PathEvidence) (c : CapabilityObservation) : Prop :=
  c.capability = "host_staging" ∧ c.value = "true" ∧ c.support ≠ .unsupported ∧
    c.authority.epoch = ev.epoch

/-- The capability is one the direct path requires. -/
def DirectCapability (ev : PathEvidence) (c : CapabilityObservation) : Prop :=
  c.provider = providerFor ev.destination.endpointClass ∧
    c.capability = capFor ev.destination.endpointClass

/-- The registration is one of the buffer and the endpoint. -/
def PairRegistration (ev : PathEvidence) (r : Registration) : Prop :=
  r.buffer = ev.source.id ∧ r.endpoint = ev.destination.id

/-- Where the outcome is direct, the owners of the endpoint, the device, the capability and the
registration are live; where it is the fallback, those of the endpoint and of the staging
capability. -/
structure LiveEvidence (p : PlanRequestParams) (s : State) : Prop where
  direct : (evaluatePath p s).eligibility = .directAllowed ∨
      (evaluatePath p s).eligibility = .directAllowedDegraded →
    s.OwnerLive (buildEvidenceLocked p s).destination.authority ∧
      s.OwnerLive (buildEvidenceLocked p s).device.authority ∧
      (∀ c, First (DirectCapability (buildEvidenceLocked p s))
        (buildEvidenceLocked p s).capabilities c → s.OwnerLive c.authority) ∧
      ∀ r, Search.Newest (PairRegistration (buildEvidenceLocked p s)) Registration.generation
        (buildEvidenceLocked p s).registrations r → s.OwnerLive r.authority
  staged : (evaluatePath p s).eligibility = .fallbackRequired →
    s.OwnerLive (buildEvidenceLocked p s).destination.authority ∧
      ∀ c, First (HostStaging (buildEvidenceLocked p s))
        (buildEvidenceLocked p s).capabilities c → s.OwnerLive c.authority

/-- Where the direct path meets its conditions, the owners of the endpoint, the device and the
capability are live; where it does not and staging is asked for and open, the owner of the endpoint
is live, and so is the incarnation that the staging capability names. -/
structure CurrentOwners (p : PlanRequestParams) (s : State) : Prop where
  direct : DirectConditions (pathRequest p) (buildEvidenceLocked p s) →
    s.OwnerLive (buildEvidenceLocked p s).destination.authority ∧
      s.OwnerLive (buildEvidenceLocked p s).device.authority ∧
      ∀ c, First (DirectCapability (buildEvidenceLocked p s))
        (buildEvidenceLocked p s).capabilities c → s.OwnerLive c.authority
  staged : p.policy ≠ .directOnly →
    ¬DirectConditions (pathRequest p) (buildEvidenceLocked p s) →
    StagingOpen (buildEvidenceLocked p s) →
    s.OwnerLive (buildEvidenceLocked p s).destination.authority ∧
      ∀ c, First (HostStaging (buildEvidenceLocked p s))
        (buildEvidenceLocked p s).capabilities c → c.authority.workerOwned = true →
        s.LiveIncarnation c.authority.worker c.authority.boot

/-- The planner has seen to the rest: the owner of the registration of a direct path, and the epoch
of a staging capability. -/
theorem liveEvidence_iff {s : State} (hworkers : s.workers.All fun k v => v.1 = k)
    (p : PlanRequestParams) :
  LiveEvidence p s ↔ CurrentOwners p s
  := by
  obtain ⟨-, -, hfallback⟩ :=
    evaluate_eligibility_iff (pathRequest p) (buildEvidenceLocked p s)
  have hdirect : (evaluatePath p s).eligibility = .directAllowed ∨
      (evaluatePath p s).eligibility = .directAllowedDegraded ↔
        DirectConditions (pathRequest p) (buildEvidenceLocked p s) := by
    rw [← isDirect_iff, ← directRequirements_iff]
    exact evaluate_isDirect _ _
  constructor
  · intro h
    constructor
    · intro hconditions
      obtain ⟨hdestination, hdevice, hcapability, -⟩ := h.direct (hdirect.mpr hconditions)
      exact ⟨hdestination, hdevice, hcapability⟩
    · intro hpolicy hconditions hopen
      obtain ⟨hdestination, hstaging⟩ :=
        h.staged (hfallback.mpr ⟨hpolicy, hconditions, hopen⟩)
      use hdestination
      intro c hc howned
      exact ((workerLive_iff howned).mp (hstaging c hc howned)).2
  · intro h
    constructor
    · intro heligible
      have hconditions := hdirect.mp heligible
      obtain ⟨hdestination, hdevice, hcapability⟩ := h.direct hconditions
      refine ⟨hdestination, hdevice, hcapability, ?_⟩
      intro r hr _
      obtain ⟨r', hr', -, -, -, hepoch, hlive⟩ := hconditions.registration
      have hsame := (findRegistration_eq_some_iff.mpr hr).symm.trans
        (findRegistration_eq_some_iff.mpr hr')
      obtain rfl := Option.some.inj hsame
      rw [← authorityLive_eq (p := p) hworkers]
      exact authorityLive_iff.mpr ⟨hepoch, hlive⟩
    · intro heligible
      obtain ⟨hpolicy, hconditions, hopen⟩ := hfallback.mp heligible
      obtain ⟨hdestination, hstaging⟩ := h.staged hpolicy hconditions hopen
      use hdestination
      intro c hc howned
      obtain ⟨-, -, -, hepoch⟩ := hc.1
      exact (workerLive_iff howned).mpr ⟨hepoch, hstaging c hc howned⟩

/-! ### Owners along a run -/

/-- The authority owns an endpoint, a device or a capability. -/
def State.Contributes (s : State) (a : Authority) : Prop :=
  (∃ k e, s.endpoints.lookup k = some e ∧ e.authority = a) ∨
    (∃ k d, s.devices.lookup k = some d ∧ d.authority = a) ∨
    ∃ k c, s.capabilities.lookup k = some c ∧ c.authority = a

/-- The owners of the endpoints, devices and capabilities are live. -/
def ContributorsLive (s : State) : Prop :=
  ∀ a, s.Contributes a → s.OwnerLive a

/-- The event ends the incarnation that the authority names, or its epoch. -/
def Event.Ends (s : State) (a : Authority) : Event → Prop
  | .registerWorker worker boot epoch =>
    Admits s worker boot epoch ∧ worker = a.worker ∧ boot ≠ a.boot
  | .markWorkerDead worker => worker = a.worker
  | .advanceEpoch => True
  | _ => False

/-- The event ends the incarnation of a worker that owns an endpoint, a device or a capability, or
its epoch; or it recovers such a record of a worker. -/
def Event.Orphans (s : State) (e : Event) : Prop :=
  (∃ a, s.Contributes a ∧ a.workerOwned = true ∧ e.Ends s a) ∨
    ∃ file a, e = .recover file ∧ (recoverFromFile file s).2 ≠ s ∧
      (recoverFromFile file s).2.Contributes a ∧ a.workerOwned = true

/-- The event is a call that adds a record with the authority. -/
def Event.Declares (a : Authority) : Event → Prop
  | .addEndpoint p => p.authority = a
  | .addDevice p => p.authority = a
  | .publishCapability p => p.authority = a
  | _ => False

/-- A call that adds a record for a worker is refused unless the worker's authority is live. -/
theorem live_of_declares {e : Event} {s : State} {a : Authority} (h : e.Declares a) :
  apply e s = s ∨ s.OwnerLive a
  := by
  have hcheck : ¬(a.workerOwned && !s.workerLiveLocked a) = true → s.OwnerLive a := by
    intro hlive howned
    simpa [howned] using hlive
  cases e with
  | addEndpoint p =>
      obtain rfl : p.authority = a := h
      rw [apply, addEndpoint]
      split
      next => exact .inl rfl
      next =>
        split
        next => exact .inl rfl
        next hlive => exact .inr (hcheck hlive)
  | addDevice p =>
      obtain rfl : p.authority = a := h
      rw [apply, addDevice]
      split
      next => exact .inl rfl
      next hlive => exact .inr (hcheck hlive)
  | publishCapability p =>
      obtain rfl : p.authority = a := h
      rw [apply, publishCapability]
      split
      next => exact .inl rfl
      next hlive => exact .inr (hcheck hlive)
  | _ => exact h.elim

namespace Effect

variable {e : Event} {s s' : State} {a : Authority}

/-- An authority of a worker stays live until an event ends it. -/
theorem keeps_live (he : Effect e s s') (hrecover : ∀ file, e ≠ .recover file)
    (hends : ¬e.Ends s a) (h : s.OwnerLive a) :
  s'.OwnerLive a
  := by
  intro howned
  rw [workerLive_iff howned]
  obtain ⟨hepoch, w, hw⟩ := (workerLive_iff howned).mp (h howned)
  cases he with
  | @registerWorker _ worker v boot epoch hcall hvalid hboot hname =>
      by_cases hworker : a.worker = worker
      · have hsame : boot = a.boot := by
          by_contra hne
          apply hends
          refine ⟨⟨hcall, hvalid, hboot, ?_⟩, hworker.symm, hne⟩
          intro _ hnone
          rw [hworker, hnone] at hw
          cases hw
        refine ⟨hepoch, v, ?_⟩
        rw [hworker, ← hsame]
        exact AList.lookup_insert _
      · exact ⟨hepoch, w, (AList.lookup_insert_ne hworker).trans hw⟩
  | @markWorkerDead _ worker =>
      have hworker : a.worker ≠ worker := fun heq => hends heq.symm
      exact ⟨hepoch, w, (AList.lookup_erase_ne hworker).trans hw⟩
  | advanceEpoch => exact absurd trivial hends
  | registerBuffer haccepted hretired =>
      obtain ⟨_, rfl⟩ := hretired.frame
      exact ⟨hepoch, w, hw⟩
  | rehash hs => exact ⟨hepoch.trans hs.epoch.symm, w, (hs.workers.lookup _).trans hw⟩
  | recover => exact absurd rfl (hrecover _)
  | _ => exact ⟨hepoch, w, hw⟩

/-- The endpoints, devices and capabilities keep their owners, but for the record a call adds. -/
theorem contributes (he : Effect e s s') (hrecover : ∀ file, e ≠ .recover file)
    (h : s'.Contributes a) :
  s.Contributes a ∨ e.Declares a
  := by
  cases he with
  | addEndpoint =>
      obtain ⟨k, r, hr, rfl⟩ | hother := h
      · obtain ⟨-, rfl⟩ | ⟨-, hold⟩ := Table.lookup_insert_some hr
        · exact .inr rfl
        · exact .inl (.inl ⟨k, r, hold, rfl⟩)
      · exact .inl (.inr hother)
  | addDevice =>
      obtain hendpoint | ⟨k, d, hd, rfl⟩ | hcapability := h
      · exact .inl (.inl hendpoint)
      · obtain ⟨-, rfl⟩ | ⟨-, hold⟩ := Table.lookup_insert_some hd
        · exact .inr rfl
        · exact .inl (.inr (.inl ⟨k, d, hold, rfl⟩))
      · exact .inl (.inr (.inr hcapability))
  | publishCapability =>
      obtain hendpoint | hdevice | ⟨k, c, hc, rfl⟩ := h
      · exact .inl (.inl hendpoint)
      · exact .inl (.inr (.inl hdevice))
      · obtain ⟨-, rfl⟩ | ⟨-, hold⟩ := Table.lookup_insert_some hc
        · exact .inr rfl
        · exact .inl (.inr (.inr ⟨k, c, hold, rfl⟩))
  | @advanceEndpointGeneration _ id _ r hr
  | @setEndpointHealth _ id _ _ r hr =>
      left
      obtain ⟨k, r', hr', rfl⟩ | hother := h
      · obtain ⟨-, rfl⟩ | ⟨-, hold⟩ := Table.lookup_insert_some hr'
        · exact .inl ⟨id, r, hr, rfl⟩
        · exact .inl ⟨k, r', hold, rfl⟩
      · exact .inr hother
  | revokeCapability =>
      left
      obtain hendpoint | hdevice | ⟨k, c, hc, rfl⟩ := h
      · exact .inl hendpoint
      · exact .inr (.inl hdevice)
      · rw [Table.lookup_erase_eq] at hc
        split at hc
        · cases hc
        · exact .inr (.inr ⟨k, c, hc, rfl⟩)
  | registerBuffer haccepted hretired =>
      obtain ⟨_, rfl⟩ := hretired.frame
      exact .inl h
  | rehash hs =>
      left
      obtain ⟨k, r, hr, hauthority⟩ | ⟨k, d, hd, hauthority⟩ | ⟨k, c, hc, hauthority⟩ := h
      · exact .inl ⟨k, r, (hs.endpoints.lookup k).symm.trans hr, hauthority⟩
      · exact .inr (.inl ⟨k, d, (hs.devices.lookup k).symm.trans hd, hauthority⟩)
      · exact .inr (.inr ⟨k, c, (hs.capabilities.lookup k).symm.trans hc, hauthority⟩)
  | recover => exact absurd rfl (hrecover _)
  | _ => exact .inl h

end Effect

/-- An authority of a worker that an event ends is not live afterwards. -/
theorem not_live_of_ends {e : Event} {s : State} {a : Authority} (howned : a.workerOwned = true)
    (hlive : s.workerLiveLocked a = true) (hends : e.Ends s a) :
  ¬(apply e s).workerLiveLocked a = true
  := by
  rw [workerLive_iff howned]
  rintro ⟨hepoch, v, hv⟩
  obtain ⟨hold, w, hw⟩ := (workerLive_iff howned).mp hlive
  cases e with
  | registerWorker worker boot epoch =>
      obtain ⟨hadmits, rfl, hboot⟩ := hends
      obtain ⟨v', hv'⟩ := live_of_admits hadmits
      obtain ⟨-, hsame⟩ := Prod.mk.inj (Option.some.inj (hv'.symm.trans hv))
      exact hboot hsame
  | markWorkerDead worker =>
      obtain rfl : worker = a.worker := hends
      rw [apply, Coordinator.markWorkerDead, AList.lookup_erase] at hv
      cases hv
  | advanceEpoch => cases hv
  | _ => exact hends.elim

/-- The owner of an endpoint, a device or a capability still owns it after an event that ends
it. -/
theorem contributes_of_ends {e : Event} {s : State} {a : Authority} (h : s.Contributes a)
    (hends : e.Ends s a) :
  (apply e s).Contributes a
  := by
  cases e with
  | registerWorker worker boot epoch =>
      have houtcome := registerWorker_outcome worker boot epoch s
      rw [apply]
      generalize registerWorker worker boot epoch s = call at houtcome
      cases houtcome with
      | refused => exact h
      | duplicate => exact h
      | admitted => exact h
  | markWorkerDead => exact h
  | advanceEpoch => exact h
  | _ => exact hends.elim

namespace ContributorsLive

variable {s : State}

/-- Where the contributors are live, an event keeps them so exactly when it orphans no record. -/
theorem next_iff {setting : Setting} {w : World} {e : Event} (h : ContributorsLive w.state)
    (hallowed : e.Allowed setting w) :
  ContributorsLive (w.next e).state ↔ ¬e.Orphans w.state
  := by
  rw [World.next_state]
  constructor
  · rintro h' (⟨a, ha, howned, hends⟩ | ⟨file, a, rfl, hchanged, ha, howned⟩)
    · exact not_live_of_ends howned (h a ha howned) hends
        (h' a (contributes_of_ends ha hends) howned)
    · obtain ⟨error, heq⟩ | hunowned := recoverFromFile_unowned file w.state
      · rw [heq] at hchanged
        exact hchanged rfl
      · obtain ⟨v, hv⟩ := lookup_of_workerLive (h' a ha howned) howned
        rw [apply, hunowned.workers] at hv
        cases hv
  · intro horphans a ha
    by_cases hrecover : ∃ file, e = .recover file
    · obtain ⟨file, rfl⟩ := hrecover
      rw [apply] at ha ⊢
      by_cases hchanged : (recoverFromFile file w.state).2 = w.state
      · rw [hchanged] at ha ⊢
        exact h a ha
      · intro howned
        exact absurd (.inr ⟨file, a, rfl, hchanged, ha, howned⟩) horphans
    · simp only [not_exists] at hrecover
      obtain hold | hdeclares := hallowed.effect.contributes hrecover ha
      · intro howned
        apply hallowed.effect.keeps_live hrecover _ (h a hold) howned
        exact fun hends => horphans (.inl ⟨a, hold, howned, hends⟩)
      · obtain hsame | hlive := live_of_declares hdeclares
        · rw [hsame] at ha ⊢
          exact h a ha
        · apply hallowed.effect.keeps_live hrecover _ hlive
          cases e with
          | addEndpoint => rintro ⟨⟩
          | addDevice => rintro ⟨⟩
          | publishCapability => rintro ⟨⟩
          | _ => exact hdeclares.elim

/-- Where the contributors are live, so are the owners an outcome relies on. -/
theorem currentOwners (h : ContributorsLive s) (p : PlanRequestParams) :
  CurrentOwners p s
  := by
  have hdestination : s.OwnerLive (buildEvidenceLocked p s).destination.authority := by
    cases he : s.endpoints.lookup p.destination with
    | none =>
        rw [buildEvidenceLocked, he]
        rintro ⟨⟩
    | some e =>
        rw [evidence_destination he]
        exact h _ (.inl ⟨_, e, he, rfl⟩)
  have hcapability : ∀ c ∈ (buildEvidenceLocked p s).capabilities, s.OwnerLive c.authority := by
    intro c hc
    obtain ⟨k, hk⟩ := Table.mem_values.mp hc
    exact h _ (.inr (.inr ⟨k, c, hk, rfl⟩))
  constructor
  · intro
    refine ⟨hdestination, ?_, fun c hc => hcapability c hc.mem⟩
    rw [buildEvidenceLocked]
    dsimp only
    split
    next =>
      cases hd : s.devices.lookup ((s.buffers.lookup p.source).getD {}).device with
      | none => rintro ⟨⟩
      | some d => exact h _ (.inr (.inl ⟨_, d, hd, rfl⟩))
    next => rintro ⟨⟩
  · intro _ _ _
    refine ⟨hdestination, fun c hc howned => ?_⟩
    exact lookup_of_workerLive (hcapability c hc.mem howned) howned

end ContributorsLive

/-- The table of workers is kept by worker. -/
theorem workers_of_reachable {w : World} (h : openFabric.Reachable w) :
  w.state.workers.All fun k v => v.1 = k
  := by
  have hnext : ∀ {w : World} {e : Event}, (w.state.workers.All fun k v => v.1 = k) →
      e.Allowed ⟨true, true⟩ w → (w.next e).state.workers.All fun k v => v.1 = k := by
    intro w e hw hallowed
    rw [World.next_state]
    obtain hsame | hunowned | ⟨hrecover, heffect⟩ := hallowed.outcome
    · rw [hsame]
      exact hw
    · rw [hunowned.workers]
      exact .empty
    · generalize apply e w.state = s' at heffect
      cases heffect with
      | registerWorker _ _ _ hname =>
          obtain rfl | ⟨live, hlive⟩ := hname
          · exact hw.insert rfl
          · exact hw.modify hlive fun hold => hold
      | markWorkerDead => exact hw.erase
      | advanceEpoch => exact .empty
      | registerBuffer haccepted hretired =>
          obtain ⟨_, rfl⟩ := hretired.frame
          exact hw
      | rehash hs => exact hs.workers.all hw
      | recover => exact absurd rfl (hrecover _)
      | _ => exact hw
  apply h.invariant (P := fun w => w.state.workers.All fun k v => v.1 = k)
  · rintro _ ⟨epoch, rfl⟩
    exact .empty
  · rintro w e w' hw ⟨hallowed, rfl⟩
    exact hnext hw hallowed
  · rintro d w e w' - hw ⟨-, hmay, rfl, rfl⟩
    have hallowed : Event.Allowed ⟨true, true⟩ w (.recover (persistToFile d.state)) := ⟨rfl, hmay⟩
    exact hnext hw hallowed

/-- The contributors are live throughout a run exactly when no step of it orphans a record. -/
theorem contributors_live_iff {w : World} {h : List (World × Event)} (hrun : openFabric.Run h w) :
  (∀ v ∈ System.visited h w, ContributorsLive v.state) ↔ ∀ q ∈ h, ¬q.2.Orphans q.1.state
  := by
  refine hrun.invariant_iff (P := fun w => ContributorsLive w.state)
    (C := fun w e => ¬e.Orphans w.state) ?_ ?_ ?_
  · rintro _ ⟨epoch, rfl⟩ a (⟨k, e, ⟨⟩, -⟩ | ⟨k, d, ⟨⟩, -⟩ | ⟨k, c, ⟨⟩, -⟩)
  · rintro w e w' - hw ⟨hallowed, rfl⟩
    exact hw.next_iff hallowed
  · rintro d w e w' - - hw ⟨-, hmay, rfl, rfl⟩
    have hallowed : Event.Allowed ⟨true, true⟩ w (.recover (persistToFile d.state)) := ⟨rfl, hmay⟩
    exact hw.next_iff hallowed

/-- In every state of a run, an outcome relies on live evidence exactly when the owners are current
of those records whose owners the planner does not look at; and they are for every request,
throughout a run in which no step orphans a record. -/
theorem live_evidence_iff {w : World} {h : List (World × Event)} (hrun : openFabric.Run h w) :
  (∀ v ∈ System.visited h w, ∀ p, LiveEvidence p v.state ↔ CurrentOwners p v.state) ∧
    ((∀ q ∈ h, ¬q.2.Orphans q.1.state) →
      ∀ v ∈ System.visited h w, ∀ p, LiveEvidence p v.state)
  := by
  have hiff : ∀ v ∈ System.visited h w, ∀ p, LiveEvidence p v.state ↔ CurrentOwners p v.state := by
    intro v hv p
    exact liveEvidence_iff (workers_of_reachable (hrun.reachable_of_visited hv)) p
  use hiff
  intro horphans v hv p
  have hlive := (contributors_live_iff hrun).mpr horphans v hv
  exact (hiff v hv p).mpr (hlive.currentOwners p)

namespace Fixture

/-- The calls of the fixture, with the endpoint added by a worker and everything else by the
coordinator. -/
def contributedCalls : List Event :=
  [.addProvider { name := "rdma", available := true, support := .real },
    .addDevice { name := "gpu0" },
    .registerWorker 1 1 1,
    .addEndpoint { endpointClass := .nic, healthy := true, support := .real, authority := owner },
    .publishCapability
      { provider := "rdma"
        capability := "direct_nic"
        value := "true"
        support := .real
        authority := { epoch := 1 } },
    .createBuffer { domain := .cudaDevice, size := 4096, device := 3 },
    .registerBuffer
      { buffer := 6, endpoint := 4, authority := { epoch := 1 }, support := .real } none]

/-- The world in which a worker has contributed the endpoint. -/
def contributed : World := ({ state := Coordinator 1 } : World).replay contributedCalls

/-- The worker has died. -/
def contributorDead : World := contributed.next (.markWorkerDead 1)

theorem reachable_contributed (setting : Setting) :
  (fabric setting World.New).Reachable contributed
  := reachable_replay (reachable_new setting 1) rfl

theorem reachable_contributorDead (setting : Setting) :
  (fabric setting World.New).Reachable contributorDead
  := reachable_next (reachable_contributed setting) trivial

end Fixture

theorem live_evidence_iff_fixture :
  LiveEvidence Fixture.request Fixture.contributed.state ↔
    CurrentOwners Fixture.request Fixture.contributed.state
  := by
  obtain ⟨h, hrun⟩ := Fixture.reachable_contributed ⟨true, true⟩
  exact (live_evidence_iff hrun).1 _ List.mem_cons_self Fixture.request

/-- A direct path is allowed to the endpoint of a worker that has died. -/
theorem not_live_evidence :
  openFabric.Reachable Fixture.contributorDead ∧
    (evaluatePath Fixture.request Fixture.contributorDead.state).eligibility = .directAllowed ∧
    ¬LiveEvidence Fixture.request Fixture.contributorDead.state
  := by
  have hdirect : (evaluatePath Fixture.request Fixture.contributorDead.state).eligibility
      = .directAllowed := by
    decide +kernel
  use Fixture.reachable_contributorDead _, hdirect
  intro hlive
  obtain ⟨hdestination, -⟩ := hlive.direct (.inl hdirect)
  apply absurd (hdestination (by decide +kernel))
  decide +kernel

end GpuDirectFabric
