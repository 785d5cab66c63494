import GpuDirectFabric.Incarnations
import GpuDirectFabric.LiveEvidence
import GpuDirectFabric.Registering
import GpuDirectFabric.RoundTrip
import GpuDirectFabric.Snapshots

/-!
# Two ways to restart

A coordinator comes to the next epoch in process, or by persisting its state, recovering the file
into a fresh coordinator and changing the epoch there.  The file carries neither the highest boot
ids of the workers nor the owners of buffers and endpoints.
-/

namespace GpuDirectFabric

open Coordinator Persistence

/-! ### The epochs of owners -/

/-- When the authority is a worker's, its epoch has come. -/
def State.Dated (s : State) (a : Authority) : Prop := a.workerOwned = true → a.epoch ≤ s.epoch

/-- The epochs of the owners of records have come. -/
structure OwnersDated (s : State) : Prop where
  contributors : ∀ a, s.Contributes a → s.Dated a
  buffers : s.buffers.All fun _ b => s.Dated b.authority
  registrations : s.registrations.All fun _ r => s.Dated r.authority

theorem State.OwnerLive.dated {s : State} {a : Authority} (h : s.OwnerLive a) :
  s.Dated a
  := fun howned => ((workerLive_iff howned).mp (h howned)).1.le

/-- No effect but a recovery takes the epoch back. -/
theorem Effect.epoch_le {e : Event} {s s' : State} (he : Effect e s s')
    (hrecover : ∀ file, e ≠ .recover file) :
  s.epoch ≤ s'.epoch
  := by
  cases he with
  | advanceEpoch => exact Nat.le_succ _
  | registerBuffer haccepted hretired =>
      obtain ⟨_, rfl⟩ := hretired.frame
      exact le_rfl
  | rehash hs => exact hs.epoch.ge
  | recover => exact absurd rfl (hrecover _)
  | _ => exact le_rfl

namespace OwnersDated

variable {s s' : State}

/-- The epochs of the owners of buffers have come after every effect but a recovery. -/
theorem effect_buffers {e : Event} (h : OwnersDated s) (he : Effect e s s')
    (hrecover : ∀ file, e ≠ .recover file) :
  s'.buffers.All fun _ b => s.Dated b.authority
  := by
  cases he with
  | createBuffer hlive => exact h.buffers.insert (State.OwnerLive.dated hlive)
  | advanceBufferGeneration hb => exact h.buffers.modify hb fun hdated => hdated
  | retireBuffer hb => exact h.buffers.modify hb fun hdated => hdated
  | registerBuffer haccepted hretired =>
      obtain ⟨_, rfl⟩ := hretired.frame
      exact h.buffers.modify haccepted.buffer fun hdated => hdated
  | deregisterCached hreg hb => exact h.buffers.modify hb fun hdated => hdated
  | @planFallback _ p _ src _ hfallback havailable hsrc =>
      exact h.buffers.insert (h.buffers p.source src hsrc)
  | rehash hs => exact hs.buffers.all h.buffers
  | recover => exact absurd rfl (hrecover _)
  | _ => exact h.buffers

theorem effect {e : Event} (h : OwnersDated s) (he : Effect e s (apply e s))
    (hrecover : ∀ file, e ≠ .recover file) :
  OwnersDated (apply e s)
  where
  contributors := by
    intro a ha howned
    apply le_trans _ (he.epoch_le hrecover)
    obtain hold | hdeclares := he.contributes hrecover ha
    · exact h.contributors a hold howned
    · obtain hsame | hlive := live_of_declares (s := s) hdeclares
      · rw [hsame] at ha
        exact h.contributors a ha howned
      · exact hlive.dated howned
  buffers := (h.effect_buffers he hrecover).mono fun _ _ hb howned =>
    (hb howned).trans (he.epoch_le hrecover)
  registrations := by
    intro k r hr howned
    apply le_trans _ (he.epoch_le hrecover)
    obtain ⟨r', hr', hcontinues⟩ | ⟨p, backend, -, hregistered, -⟩ := he.registration hrecover hr
    · rw [hcontinues.authority] at howned ⊢
      exact h.registrations k r' hr' howned
    · rw [hregistered.authority, hregistered.epoch]

theorem recovered {d : State} (h : OwnersDated d) (hs : RecoveredFrom d s) :
  OwnersDated s
  where
  contributors := by
    rintro a (⟨k, e, he, rfl⟩ | ⟨k, x, hx, rfl⟩ | ⟨k, c, hc, rfl⟩) howned
    · obtain ⟨e, -, -, rfl⟩ := hs.endpoints k e he
      cases howned
    · obtain ⟨x, -, -, rfl⟩ := hs.devices k x hx
      cases howned
    · obtain ⟨c, hmem, -, rfl⟩ := hs.capabilities k c hc
      obtain ⟨k, hk⟩ := Table.mem_values.mp hmem
      rw [hs.epoch]
      exact h.contributors _ (.inr (.inr ⟨k, c, hk, rfl⟩)) howned
  buffers := by
    intro k b hb howned
    obtain ⟨b, -, -, rfl⟩ := hs.buffers k b hb
    cases howned
  registrations := by
    intro k r hr howned
    obtain ⟨r, hmem, -, rfl⟩ := hs.registrations k r hr
    obtain ⟨k, hk⟩ := Table.mem_values.mp hmem
    rw [hs.epoch]
    exact h.registrations k r hk howned

end OwnersDated

theorem ownersDated_of_reachable {w : World} (h : persistedFabric.Reachable w) :
  OwnersDated w.state
  := by
  refine (persistedFabric_invariant ?_ ?_ ?_ h).2
  · intro epoch
    refine ⟨?_, .empty, .empty⟩
    rintro a (⟨k, e, ⟨⟩, -⟩ | ⟨k, d, ⟨⟩, -⟩ | ⟨k, c, ⟨⟩, -⟩)
  · intro e s _ hs he hrecover
    exact hs.effect he hrecover
  · intro d s hd hs
    exact hd.recovered hs

/-! ### After the epoch change -/

/-- The state is one that an epoch change leaves, up to the workers that have registered since: no
registration is in force or in progress, no plan is authoritative, and the workers that own
records do so under an epoch that has passed. -/
structure Renewed (s : State) : Prop where
  wellFormed : WellFormed s
  boots : BootsRecorded s
  registrations : s.registrations.All fun _ r => r.state ≠ .registered ∧ r.state ≠ .registering
  plans : s.plans.All fun _ p => p.authoritative = false
  bufferOwners : s.buffers.All fun _ b =>
    b.authority.workerOwned = true → b.authority.epoch ≠ s.epoch
  endpointOwners : s.endpoints.All fun _ e =>
    e.authority.workerOwned = true → e.authority.epoch ≠ s.epoch
  registrationOwners : s.registrations.All fun _ r =>
    r.authority.workerOwned = true → r.authority.epoch ≠ s.epoch

namespace Renewed

variable {s : State}

theorem advanceEpoch (hwf : WellFormed s) (h : OwnersDated s) :
  Renewed (Coordinator.advanceEpoch s).2
  where
  wellFormed := hwf.effect .advanceEpoch (by rintro file ⟨⟩)
  boots := by rintro worker boot ⟨w, ⟨⟩⟩
  registrations := by
    refine Table.All.mapVals (P := fun _ _ => True) (fun _ _ _ => trivial) fun k r _ => ?_
    rw [State.revalidateIf]
    split
    next => simp
    next hnot => simpa using hnot
  plans := (advanceEpoch_unowned s).plans
  bufferOwners k b hb howned := ((h.buffers k b hb howned).trans_lt (Nat.lt_succ_self _)).ne
  endpointOwners k e he howned :=
    ((h.contributors _ (.inl ⟨k, e, he, rfl⟩) howned).trans_lt (Nat.lt_succ_self _)).ne
  registrationOwners := by
    refine h.registrations.mapVals ?_
    intro k r hr
    rw [(Registration.Continues.revalidateIf _ r).authority]
    exact fun howned => ((hr howned).trans_lt (Nat.lt_succ_self _)).ne

theorem not_live {a : Authority} (h : a.epoch ≠ s.epoch) :
  s.workerLiveLocked a = false
  := by
  rw [State.workerLiveLocked, if_pos (by simpa using h)]

/-- No pair has a registration that stands in the way of another one. -/
theorem pairIdle (h : Renewed s) (p : RegisterParams) :
  PairIdle p s
  := by
  intro latest hlatest
  obtain ⟨k, hk⟩ := Table.mem_values.mp (PathPlanner.latest_mem hlatest).1
  exact h.registrations k latest hk

theorem registerWorker (h : Renewed s) (worker : WorkerId) (boot : WorkerBootId)
    (epoch : CoordinatorEpoch) :
  Renewed (Coordinator.registerWorker worker boot epoch s).2
  := by
  have hwf := h.wellFormed.effect (registerWorker_effect worker boot epoch s) (by rintro file ⟨⟩)
  have houtcome := registerWorker_outcome worker boot epoch s
  generalize Coordinator.registerWorker worker boot epoch s = call at hwf houtcome
  cases houtcome with
  | refused => exact h
  | duplicate => exact h
  | admitted => exact { h with wellFormed := hwf, boots := h.boots.admitted }

/-- After a worker has registered, it is live and its boot id is the highest. -/
theorem lookup_registerWorker {worker : WorkerId} {boot : WorkerBootId} {epoch : CoordinatorEpoch}
    (h : Renewed s) (hadmits : Admits s worker boot epoch) (k : WorkerId) :
  (Coordinator.registerWorker worker boot epoch s).2.workers.lookup k
      = (if k = worker then some (worker, boot) else s.workers.lookup k) ∧
    (Coordinator.registerWorker worker boot epoch s).2.workerMaxBoot.lookup k
      = if k = worker then some boot else s.workerMaxBoot.lookup k
  := by
  have hafter := h.registerWorker worker boot epoch
  obtain ⟨w, hw⟩ := live_of_admits hadmits
  by_cases hk : k = worker
  · subst hk
    obtain rfl : w = k := hafter.wellFormed.workers _ _ hw
    rw [if_pos rfl, if_pos rfl]
    exact ⟨hw, hafter.boots _ _ ⟨w, hw⟩⟩
  · rw [if_neg hk, if_neg hk]
    have houtcome := registerWorker_outcome worker boot epoch s
    generalize Coordinator.registerWorker worker boot epoch s = call at houtcome
    cases houtcome with
    | refused hrefused => exact absurd hadmits hrefused
    | duplicate => exact ⟨rfl, rfl⟩
    | admitted => exact ⟨AList.lookup_insert_ne hk, AList.lookup_insert_ne hk⟩

end Renewed

/-- A call of `register_worker` touches two tables. -/
theorem registerWorker_frame (worker : WorkerId) (boot : WorkerBootId) (epoch : CoordinatorEpoch)
    (s : State) :
  ∃ workers workerMaxBoot, (registerWorker worker boot epoch s).2
    = { s with workers := workers, workerMaxBoot := workerMaxBoot }
  := by
  have houtcome := registerWorker_outcome worker boot epoch s
  generalize registerWorker worker boot epoch s = call at houtcome
  cases houtcome with
  | refused => exact ⟨_, _, rfl⟩
  | duplicate => exact ⟨_, _, rfl⟩
  | admitted => exact ⟨_, _, rfl⟩

/-- The state `u` is what stands in the place of `t` where the coordinator has gone by way of a
file. -/
structure ByFile (t u : State) : Prop where
  renewed : Renewed t
  renewedToo : Renewed u
  epoch : u.epoch = t.epoch
  workers : ∀ k, u.workers.lookup k = t.workers.lookup k
  boots : ∀ k, (u.workerMaxBoot.lookup k).getD 0
    = if (t.workers.lookup k).isSome then (t.workerMaxBoot.lookup k).getD 0 else 0
  buffers : ∀ k, u.buffers.lookup k = (t.buffers.lookup k).map recoveredBuffer
  endpoints : ∀ k, u.endpoints.lookup k = (t.endpoints.lookup k).map recoveredEndpoint
  capabilities : ∀ k c, t.capabilities.lookup k = some c → ∃ k', u.capabilities.lookup k' = some c
  capabilitiesUnique : u.CapabilitiesUnique
  registrations : u.registrations.size = t.registrations.size
  attempts : u.attempts = ∅
  maxRegistrations : u.maxRegistrations = ({} : State).maxRegistrations

/-- The state has the registries of `d` and the default limit, and plans recovered from those of
`d`. -/
structure Reloaded (d s : State) : Prop where
  survive : Survive d { s with plans := ∅ }
  plans : s.plans.All (FromRecord TransferPlan.id recoveredPlan d.plans.values)
  maxRegistrations : s.maxRegistrations = ({} : State).maxRegistrations

theorem Reloaded.recoveredFrom {d s : State} (h : Reloaded d s) :
  RecoveredFrom d s
  where
  epoch := h.survive.epoch
  nextId := h.survive.nextId
  freshness := h.survive.freshness
  buffers k b := (h.survive.buffers k b).mp
  devices k x := (h.survive.devices k x).mp
  endpoints k e := (h.survive.endpoints k e).mp
  nics k n := (h.survive.nics k n).mp
  storage k e := (h.survive.storage k e).mp
  providers k p := (h.survive.providers k p).mp
  capabilities k c := (h.survive.capabilities k c).mp
  registrations k r := (h.survive.registrations k r).mp
  plans := h.plans
  attempts := h.survive.attempts
  receipts := h.survive.receipts
  verifications := h.survive.verifications
  workers := h.survive.workers
  workerMaxBoot := h.survive.workerMaxBoot

/-- A recovery that succeeds restores the registries, whatever becomes of the plans. -/
theorem reloaded_of_recovered {d r : State} (hwf : WellFormed d) (hfits : d.Fits) {out : State}
    (hrecover : recoverFromFile (persistToFile d) out = (.ok (), r)) :
  Reloaded d r
  := by
  obtain ⟨-, heq⟩ | ⟨-, e, s, heq⟩ := recoverFromFile_persistToFile hfits out
  · have hkeeps : recoverPlans.KeepsAt (Reloaded d)
        (putSection planFormat TransferPlan.id d.plans) := by
      refine recoverPlans_keepsAt hfits.plans.1 hfits.plans.2 ?_ ?_
      · intro s hs
        exact ⟨hs.survive, .empty, hs.maxRegistrations⟩
      · intro p hp s hs
        exact ⟨hs.survive, hs.plans.insert ⟨p, hp, rfl, rfl⟩, hs.maxRegistrations⟩
    have hreloaded := hkeeps
      (restoreRegistries d { epoch := d.epoch, nextId := d.nextId, freshness := d.freshness })
      ⟨survive_restoreRegistries hwf, .empty, rfl⟩
    rw [heq] at hrecover
    generalize recoverPlans _ _ = result at hrecover hreloaded
    obtain ⟨-, rfl⟩ := Prod.mk.inj hrecover
    exact hreloaded
  · rw [heq] at hrecover
    cases hrecover

/-- The states right after the epoch change. -/
theorem byFile_of_recovered {w : World} (h : persistedFabric.Reachable w) (hfits : w.state.Fits)
    {out r : State} (hrecover : recoverFromFile (persistToFile w.state) out = (.ok (), r)) :
  ByFile (advanceEpoch w.state).2 (advanceEpoch r).2
  := by
  have hwf := wellFormed_of_reachable h
  have hdated := ownersDated_of_reachable h
  have hreloaded := reloaded_of_recovered hwf hfits hrecover
  have hsurvive := hreloaded.survive
  have hfrom := hreloaded.recoveredFrom
  have hunique : r.CapabilitiesUnique := (capabilitiesUnique_of_reachable h).recovered hfrom
  exact
    { renewed := .advanceEpoch hwf hdated
      renewedToo := .advanceEpoch (hwf.recovered hfrom) (hdated.recovered hfrom)
      epoch := congrArg (· + 1) hfrom.epoch
      workers := fun _ => rfl
      boots := by
        intro k
        have hboots : (Coordinator.advanceEpoch r).2.workerMaxBoot = ∅ := hfrom.workerMaxBoot
        rw [hboots]
        rfl
      buffers := hsurvive.buffers.lookup_eq (hwf.buffers.mono fun _ _ hb => hb.1)
      endpoints := hsurvive.endpoints.lookup_eq (hwf.endpoints.mono fun _ _ he => he.1)
      capabilities := by
        intro k c hc
        use c.id
        exact (hsurvive.capabilities c.id c).mpr ⟨c, Table.mem_values.mpr ⟨k, hc⟩, rfl, rfl⟩
      capabilitiesUnique := hunique
      registrations := by
        have hlookup := hsurvive.registrations.lookup_eq
          (hwf.registrations.mono fun _ _ hr => hr.1)
        apply Table.size_congr
        intro k
        have hmap : ∀ s : State, ((Coordinator.advanceEpoch s).2.registrations.lookup k).isSome
            = (s.registrations.lookup k).isSome := by
          intro s
          exact (congrArg Option.isSome (Table.lookup_mapVals _ _ _)).trans Option.isSome_map
        rw [hmap, hmap]
        exact (congrArg Option.isSome (hlookup k)).trans Option.isSome_map
      attempts := hfrom.attempts
      maxRegistrations := hreloaded.maxRegistrations }

/-! ### Workers that register since -/

/-- The state after workers have registered under its epoch, one after another. -/
def State.join (ws : List (WorkerId × WorkerBootId)) (s : State) : State :=
  ws.foldl (fun s w => (registerWorker w.1 w.2 s.epoch s).2) s

/-- Where workers have registered, nothing but the workers and their boot ids differs. -/
theorem State.join_frame (ws : List (WorkerId × WorkerBootId)) (s : State) :
  ∃ workers workerMaxBoot, s.join ws
    = { s with workers := workers, workerMaxBoot := workerMaxBoot }
  := by
  induction ws generalizing s with
  | nil => exact ⟨s.workers, s.workerMaxBoot, rfl⟩
  | cons w ws ih =>
      obtain ⟨_, _, hfirst⟩ := registerWorker_frame w.1 w.2 s.epoch s
      obtain ⟨workers, workerMaxBoot, hrest⟩ := ih (registerWorker w.1 w.2 s.epoch s).2
      use workers, workerMaxBoot
      rw [hfirst] at hrest
      rw [State.join, List.foldl_cons, hfirst]
      apply hrest

/-- Each of the workers is admitted. -/
def State.AdmitsAll : List (WorkerId × WorkerBootId) → State → Prop
  | [], _ => True
  | (worker, boot) :: ws, s =>
    Admits s worker boot s.epoch ∧ AdmitsAll ws (registerWorker worker boot s.epoch s).2

namespace ByFile

variable {t u : State}

/-- The same authorities are live. -/
theorem live (h : ByFile t u) (a : Authority) :
  u.workerLiveLocked a = t.workerLiveLocked a
  := by
  rw [State.workerLiveLocked, State.workerLiveLocked, h.epoch, h.workers]

/-- A worker that is not live is a new one to the coordinator that has gone by way of a file. -/
theorem admits_iff {worker : WorkerId} {boot : WorkerBootId} {epoch : CoordinatorEpoch}
    (h : ByFile t u) :
  Admits u worker boot epoch ↔ epoch = t.epoch ∧ valid worker = true ∧
    ((t.workers.lookup worker).isSome = true → (t.workerMaxBoot.lookup worker).getD 0 ≤ boot)
  := by
  have hboots := h.boots worker
  constructor
  · rintro ⟨hepoch, hvalid, hcurrent, -⟩
    refine ⟨hepoch.trans h.epoch, hvalid, fun hlive => ?_⟩
    rwa [hboots, if_pos hlive] at hcurrent
  · rintro ⟨hepoch, hvalid, hcurrent⟩
    refine ⟨hepoch.trans h.epoch.symm, hvalid, ?_, fun hseen hnone => ?_⟩
    · rw [hboots]
      split
      next hlive => exact hcurrent hlive
      next => exact Nat.zero_le _
    · rw [h.workers] at hnone
      rw [hboots, hnone] at hseen
      exact absurd rfl hseen

theorem admits {worker : WorkerId} {boot : WorkerBootId} {epoch : CoordinatorEpoch}
    (h : ByFile t u) (hadmits : Admits t worker boot epoch) :
  Admits u worker boot epoch
  := h.admits_iff.mpr ⟨hadmits.epoch, hadmits.valid, fun _ => hadmits.current⟩

theorem registerWorker {worker : WorkerId} {boot : WorkerBootId} {epoch : CoordinatorEpoch}
    (h : ByFile t u) (hadmits : Admits t worker boot epoch) :
  ByFile (Coordinator.registerWorker worker boot epoch t).2
    (Coordinator.registerWorker worker boot epoch u).2
  := by
  have hrenewed := h.renewed.registerWorker worker boot epoch
  have hrenewedToo := h.renewedToo.registerWorker worker boot epoch
  have hlookup := h.renewed.lookup_registerWorker hadmits
  have hlookupToo := h.renewedToo.lookup_registerWorker (h.admits hadmits)
  obtain ⟨_, _, ht⟩ := registerWorker_frame worker boot epoch t
  obtain ⟨_, _, hu⟩ := registerWorker_frame worker boot epoch u
  rw [ht] at hrenewed hlookup ⊢
  rw [hu] at hrenewedToo hlookupToo ⊢
  refine { h with renewed := hrenewed, renewedToo := hrenewedToo, workers := ?_, boots := ?_ }
  · intro k
    rw [(hlookup k).1, (hlookupToo k).1, h.workers]
  · intro k
    rw [(hlookup k).1, (hlookup k).2, (hlookupToo k).2]
    split
    next => rfl
    next => exact h.boots k

theorem join {ws : List (WorkerId × WorkerBootId)} (h : ByFile t u) (hws : t.AdmitsAll ws) :
  ByFile (t.join ws) (u.join ws)
  := by
  induction ws generalizing t u with
  | nil => exact h
  | cons w ws ih =>
      obtain ⟨worker, boot⟩ := w
      obtain ⟨hadmits, hrest⟩ := hws
      have hjoin := ih (h.registerWorker hadmits) hrest
      have hepoch := h.epoch
      rw [State.join, State.join, List.foldl_cons, List.foldl_cons, hepoch]
      exact hjoin

end ByFile

end GpuDirectFabric
