import GpuDirectFabric.Library.Directory
import GpuDirectFabric.FreshIds
import GpuDirectFabric.Snapshots

/-!
# The directory

A provider is known by its name, and a capability by its own name and that of its provider.  The
coordinator keeps both in hash maps under ids it draws, and scans these for a name.  What they are
for is a *directory*: one map from names to providers, and one from names to the observations of
capabilities.  In every reachable state the tables stand for a directory.  An operation writes it at
one name or leaves it alone, and the planner reads nothing else of the tables.
-/

namespace GpuDirectFabric

open Coordinator Persistence PathPlanner

/-- What a capability is known by. -/
def CapabilityObservation.key (c : CapabilityObservation) : Str × Str := (c.provider, c.capability)

/-- What is known of providers and capabilities, by their names. -/
@[ext]
structure Directory where
  providers : Str → Option ProviderInfo
  capabilities : Str × Str → Option CapabilityObservation

/-- The directory the tables of a state stand for. -/
def State.directory (s : State) : Directory where
  providers := s.providers.view ProviderInfo.name
  capabilities := s.capabilities.view CapabilityObservation.key

namespace Directory

/-- Write what is said of a provider; one that is known keeps its id. -/
def addProvider (p : ProviderAddParams) (id : ProviderId) (d : Directory) : Directory :=
  if p.name.isEmpty then d
  else
    { d with
      providers := Function.update d.providers p.name (some
        (match d.providers p.name with
        | some v => { v with
            available := p.available, support := p.support, provenance := p.provenance }
        | none => newProvider p id)) }

/-- Write an observation, if the worker that made it is live. -/
def publish (p : CapabilityPublishParams) (id : CapabilityObservationId) (freshness : ℕ)
    (live : Authority → Bool) (d : Directory) : Directory :=
  if p.authority.workerOwned && !live p.authority then d
  else
    { d with
      capabilities := Function.update d.capabilities (p.provider, p.capability)
        (some (newCapability p id freshness)) }

/-- Erase an observation, if the worker that made it is the caller and live. -/
def revoke (provider capability : Str) (caller : Authority) (live : Authority → Bool)
    (d : Directory) : Directory :=
  match d.capabilities (provider, capability) with
  | none => d
  | some c =>
    if c.authority.workerOwned && (caller != c.authority || !live c.authority) then d
    else
      { d with capabilities := Function.update d.capabilities (provider, capability) none }

/-- The directory after an event, where `live` are the live authorities, and ids and stamps are
drawn from `nextId` and `freshness`. -/
def next (live : Authority → Bool) (nextId freshness : ℕ) : Event → Directory → Directory
  | .addProvider p, d => d.addProvider p (nextId + 1)
  | .publishCapability p, d => d.publish p (nextId + 1) (freshness + 1) live
  | .revokeCapability provider capability caller, d => d.revoke provider capability caller live
  | _, d => d

end Directory

/-! ### Names -/

/-- Providers have distinct names, and so have capabilities. -/
structure DirectoryNamed (s : State) : Prop where
  providers : s.providers.Named ProviderInfo.name
  capabilities : s.capabilities.Named CapabilityObservation.key

theorem capabilitiesNamed_of_unique {s : State} (h : s.CapabilitiesUnique) :
  s.capabilities.Named CapabilityObservation.key
  := by
  intro k k' c c' hc hc' hkey
  obtain ⟨hprovider, hcapability⟩ := Prod.mk.inj hkey
  apply h k k' c c' hc hc' hprovider hcapability

/-- What `add_provider` makes of a state: nothing without a name, and else an update of the provider
with the name, or a new one. -/
inductive AddProviderOutcome (p : ProviderAddParams) (s : State) : State → Prop
  | unnamed (hempty : p.name.isEmpty = true) : AddProviderOutcome p s s
  | known {k : ProviderId} {v : ProviderInfo} (hempty : p.name.isEmpty = false)
      (hv : s.providers.lookup k = some v) (hname : v.name = p.name) :
      AddProviderOutcome p s
        { s with
          providers := s.providers.insert k
            { v with
              available := p.available, support := p.support, provenance := p.provenance } }
  | added (hempty : p.name.isEmpty = false)
      (hnone : ∀ k v, s.providers.lookup k = some v → v.name ≠ p.name) :
      AddProviderOutcome p s
        { s.nextIdLocked with
          providers := s.providers.insert (s.nextId + 1) (newProvider p (s.nextId + 1)) }

theorem addProvider_outcome (p : ProviderAddParams) (s : State) :
  AddProviderOutcome p s (addProvider p s).2
  := by
  rw [addProvider]
  split
  next hempty => apply AddProviderOutcome.unnamed hempty
  next hempty =>
  have hempty : p.name.isEmpty = false := by simpa using hempty
  split
  next k v hfind =>
    apply AddProviderOutcome.known hempty (lookup_of_findEntry hfind)
    simpa using holds_of_findEntry hfind
  next hfind =>
    apply AddProviderOutcome.added hempty
    intro k v hv
    simpa using not_of_findEntry hfind hv

/-- Only adding a provider and recovering touch the providers. -/
theorem Effect.keeps_providers {e : Event} {s s' : State} (he : Effect e s s')
    (hrecover : ∀ file, e ≠ .recover file) (hadd : ∀ p, e ≠ .addProvider p) (k : ProviderId) :
  s'.providers.lookup k = s.providers.lookup k
  := by
  cases he with
  | updateProvider | addProvider => exact absurd rfl (hadd _)
  | registerBuffer haccepted hretired =>
      obtain ⟨_, rfl⟩ := hretired.frame
      rfl
  | rehash hs => exact hs.providers.lookup k
  | recover => exact absurd rfl (hrecover _)
  | _ => rfl

/-- The names of providers stay distinct. -/
theorem AddProviderOutcome.named {p : ProviderAddParams} {s s' : State}
    (h : s.providers.Named ProviderInfo.name) (houtcome : AddProviderOutcome p s s') :
  s'.providers.Named ProviderInfo.name
  := by
  cases houtcome with
  | unnamed => apply h
  | @known k v _ hv hname =>
      apply h.insert
      intro k' v' hv' heq
      apply h k' k v' v hv' hv heq
  | added _ hnone =>
      apply h.insert
      intro k v hv heq
      apply absurd heq (hnone k v hv)

theorem providersNamed_recovered {d s : State} (h : d.providers.Named ProviderInfo.name)
    (hs : RecoveredFrom d s) :
  s.providers.Named ProviderInfo.name
  := by
  intro k k' v v' hv hv' hname
  obtain ⟨w, hmem, rfl, rfl⟩ := hs.providers k v hv
  obtain ⟨w', hmem', rfl, rfl⟩ := hs.providers k' v' hv'
  rw [h.eq hmem hmem' hname]

/-- In every reachable state providers and capabilities have distinct names. -/
theorem directoryNamed_of_reachable {w : World} (h : persistedFabric.Reachable w) :
  DirectoryNamed w.state
  where
  providers := by
    apply (persistedFabric_invariant (P := fun s => s.providers.Named ProviderInfo.name)
      _ _ _ h).2
    · intro epoch
      apply Table.Named.empty
    · intro e s _ hs he hrecover
      by_cases hadd : ∃ p, e = .addProvider p
      · obtain ⟨p, rfl⟩ := hadd
        apply (addProvider_outcome p s).named hs
      · intro k k' v v'
        have hnot : ∀ p, e ≠ .addProvider p := fun p hp => hadd ⟨p, hp⟩
        rw [he.keeps_providers hrecover hnot, he.keeps_providers hrecover hnot]
        apply hs k k' v v'
    · intro d s hd hs
      apply providersNamed_recovered hd hs
  capabilities := capabilitiesNamed_of_unique (capabilitiesUnique_of_reachable h)

/-! ### Operations -/

theorem addProvider_directory (p : ProviderAddParams) {s : State} (h : DirectoryNamed s)
    (hfresh : s.providers.lookup (s.nextId + 1) = none) :
  (addProvider p s).2.directory = s.directory.addProvider p (s.nextId + 1)
  := by
  rw [Directory.addProvider]
  have houtcome := addProvider_outcome p s
  generalize (addProvider p s).2 = s' at houtcome ⊢
  cases houtcome with
  | unnamed hempty => rw [if_pos hempty]
  | @known k v hempty hv hname =>
      have hview : s.directory.providers p.name = some v :=
        (Table.view_eq_some h.providers).mpr ⟨⟨k, hv⟩, hname⟩
      rw [if_neg (by simp [hempty]), hview]
      ext1
      · rw [State.directory, State.directory]
        dsimp only
        rw [Table.view_insert h.providers, hname]
        · intro k' v' hv' heq
          apply h.providers k' k v' v hv' hv heq
        · intro v' hv'
          rw [Option.some.inj (hv'.symm.trans hv)]
      · rfl
  | added hempty hnone =>
      have hview : s.directory.providers p.name = none := Table.view_eq_none.mpr hnone
      rw [if_neg (by simp [hempty]), hview]
      ext1
      · rw [State.directory, State.directory]
        dsimp only
        rw [Table.view_insert h.providers, newProvider]
        · intro k v hv heq
          apply absurd heq (hnone k v hv)
        · intro v hv
          rw [hfresh] at hv
          cases hv
      · rfl

theorem publishCapability_directory (p : CapabilityPublishParams) {s : State}
    (h : DirectoryNamed s) (hfresh : s.capabilities.lookup (s.nextId + 1) = none) :
  (publishCapability p s).2.directory =
    s.directory.publish p (s.nextId + 1) (s.freshness + 1) s.workerLiveLocked
  := by
  rw [publishCapability, Directory.publish]
  split
  next => rfl
  next =>
  dsimp only
  split
  next k c hfind =>
    have hc := lookup_of_findEntry hfind
    have hkey : c.key = (p.provider, p.capability) := by
      have hpair := holds_of_findEntry hfind
      rw [Bool.and_eq_true, decide_eq_true_eq, decide_eq_true_eq] at hpair
      rw [CapabilityObservation.key, hpair.1, hpair.2]
    ext1
    · rfl
    · rw [State.directory, State.directory]
      apply Table.view_insert h.capabilities
      · intro k' c' hc' heq
        apply h.capabilities k' k c' c hc' hc (heq.trans hkey.symm)
      · intro c' hc'
        rw [Option.some.inj (hc'.symm.trans hc), hkey]
        rfl
  next hfind =>
    ext1
    · rfl
    · rw [State.directory, State.directory]
      apply Table.view_insert h.capabilities
      · intro k c hc heq
        obtain ⟨hprovider, hcapability⟩ := Prod.mk.inj heq
        apply absurd _ (not_of_findEntry hfind hc)
        rw [Bool.and_eq_true, decide_eq_true_eq, decide_eq_true_eq]
        use hprovider, hcapability
      · intro c hc
        apply absurd (hc.symm.trans hfresh)
        apply Option.some_ne_none

theorem revokeCapability_directory (provider capability : Str) (caller : Authority) {s : State}
    (h : DirectoryNamed s) :
  (revokeCapability provider capability caller s).2.directory =
    s.directory.revoke provider capability caller s.workerLiveLocked
  := by
  rw [revokeCapability, Directory.revoke]
  split
  next hfind =>
    have hview : s.directory.capabilities (provider, capability) = none := by
      apply Table.view_eq_none.mpr
      rintro k c hc heq
      obtain ⟨hprovider, hcapability⟩ := Prod.mk.inj heq
      apply absurd _ (not_of_findEntry hfind hc)
      rw [Bool.and_eq_true, decide_eq_true_eq, decide_eq_true_eq]
      use hprovider, hcapability
    rw [hview]
  next k c hfind =>
    have hc := lookup_of_findEntry hfind
    have hkey : c.key = (provider, capability) := by
      have hpair := holds_of_findEntry hfind
      rw [Bool.and_eq_true, decide_eq_true_eq, decide_eq_true_eq] at hpair
      rw [CapabilityObservation.key, hpair.1, hpair.2]
    have hview : s.directory.capabilities (provider, capability) = some c :=
      (Table.view_eq_some h.capabilities).mpr ⟨⟨k, hc⟩, hkey⟩
    rw [hview]
    dsimp only
    split
    next => rfl
    next =>
      ext1
      · rfl
      · rw [State.directory, State.directory, ← hkey]
        apply Table.view_erase h.capabilities hc

/-- Each step of a reachable coordinator is the step of its directory. -/
theorem directory_apply {w : World} (h : persistedFabric.Reachable w) {e : Event}
    (hallowed : e.Allowed ⟨false, true⟩ w) (hrecover : ∀ file, e ≠ .recover file) :
  (apply e w.state).directory =
    w.state.directory.next w.state.workerLiveLocked w.state.nextId w.state.freshness e
  := by
  have hnamed := directoryNamed_of_reachable h
  have hdrawn := keysDrawn_of_reachable h
  have hfresh : ∀ {V : Type} {t : Table V}, (t.All fun k _ => k ≤ w.state.nextId) →
      t.lookup (w.state.nextId + 1) = none := by
    intro V t ht
    apply Option.eq_none_iff_forall_ne_some.mpr
    intro v hv
    apply absurd (ht _ v hv)
    omega
  by_cases hadd : ∃ p, e = .addProvider p
  · obtain ⟨p, rfl⟩ := hadd
    apply addProvider_directory p hnamed (hfresh hdrawn.providers)
  by_cases hpublish : ∃ p, e = .publishCapability p
  · obtain ⟨p, rfl⟩ := hpublish
    apply publishCapability_directory p hnamed (hfresh hdrawn.capabilities)
  by_cases hrevoke : ∃ provider capability a, e = .revokeCapability provider capability a
  · obtain ⟨provider, capability, a, rfl⟩ := hrevoke
    apply revokeCapability_directory provider capability a hnamed
  have hsame : w.state.directory.next w.state.workerLiveLocked w.state.nextId w.state.freshness e =
      w.state.directory := by
    cases e with
    | addProvider p => exact absurd ⟨p, rfl⟩ hadd
    | publishCapability p => exact absurd ⟨p, rfl⟩ hpublish
    | revokeCapability provider capability a => exact absurd ⟨provider, capability, a, rfl⟩ hrevoke
    | _ => rfl
  have hnamed' := directoryNamed_of_reachable (reachable_next h hallowed)
  rw [hsame]
  ext1
  · apply Table.view_congr hnamed.providers hnamed'.providers
    intro k
    apply hallowed.effect.keeps_providers hrecover fun p hp => hadd ⟨p, hp⟩
  · apply Table.view_congr hnamed.capabilities hnamed'.capabilities
    intro k
    apply hallowed.effect.keeps_capabilities hrecover fun p hp => hpublish ⟨p, hp⟩
    rintro provider capability a rfl
    apply hrevoke ⟨provider, capability, a, rfl⟩

/-! ### The planner -/

/-- What the planner finds in a snapshot of the state is what the directory says. -/
structure PlannerReads (s : State) : Prop where
  provider : ∀ p name, providerAvailable (buildEvidenceLocked p s) name = true ↔
    ∃ v, s.directory.providers name = some v ∧ v.available = true ∧ v.support ≠ .unsupported
  capability : ∀ p provider capability,
    capabilityFor (buildEvidenceLocked p s) provider capability =
      s.directory.capabilities (provider, capability)
  staging : ∀ p, hostStagingAvailable (buildEvidenceLocked p s) = true ↔
    ∃ provider c, s.directory.capabilities (provider, "host_staging") = some c ∧
      c.value = "true" ∧ c.support ≠ .unsupported ∧ c.authority.epoch = s.epoch

theorem plannerReads_of_named {s : State} (h : DirectoryNamed s) :
  PlannerReads s
  where
  provider := by
    intro p name
    rw [providerAvailable_iff]
    simp only [State.directory, Table.view_eq_some h.providers, ← Table.mem_values]
    constructor
    · rintro ⟨v, hmem, rfl, havailable, hsupport⟩
      use v, ⟨hmem, rfl⟩, havailable
    · rintro ⟨v, ⟨hmem, rfl⟩, havailable, hsupport⟩
      use v, hmem, rfl, havailable
  capability := by
    intro p provider capability
    change List.find? _ _ = List.find? _ _
    congr 1
    funext c
    simp only [CapabilityObservation.key, Prod.mk.injEq, Bool.decide_and]
  staging := by
    intro p
    rw [hostStagingAvailable, List.any_eq_true]
    simp only [State.directory, Table.view_eq_some h.capabilities, ← Table.mem_values,
      Bool.and_eq_true, decide_eq_true_eq, bne_iff_ne]
    constructor
    · rintro ⟨c, hmem, ⟨⟨hname, hvalue⟩, hsupport⟩, hepoch⟩
      use c.provider, c, ⟨hmem, by rw [CapabilityObservation.key, hname]⟩, hvalue, hsupport
      apply hepoch
    · rintro ⟨provider, c, ⟨hmem, hkey⟩, hvalue, hsupport, hepoch⟩
      use c, hmem, ⟨⟨(Prod.mk.inj hkey).2, hvalue⟩, hsupport⟩
      apply hepoch

/-! ### Runs -/

/-- The directory after the steps of a history, latest first. -/
def Directory.replay (d : Directory) (h : List (World × Event)) : Directory :=
  h.foldr (fun t d => d.next t.1.state.workerLiveLocked t.1.state.nextId t.1.state.freshness t.2) d

/-- The tables of providers and capabilities refine the directory: after any run of a coordinator,
from any state it may start from, they stand for the directory that has made the steps of the run,
and what the planner finds in them is what that directory says, with the epoch for host staging. -/
theorem directory_refined {u w : World} (hu : persistedFabric.Reachable u)
    {h : List (World × Event)} (hrun : (process (· = u)).Run h w) :
  w.state.directory = u.state.directory.replay h ∧ PlannerReads w.state
  := by
  have hw := reachable_of_process_from hu ⟨h, hrun⟩
  refine ⟨?_, plannerReads_of_named (directoryNamed_of_reachable hw)⟩
  clear hw
  induction hrun with
  | start hw =>
      obtain rfl := hw
      rfl
  | step hrun hs ih =>
      obtain ⟨hrecover, hallowed, rfl⟩ := hs
      rw [World.next_state, directory_apply (reachable_of_process_from hu ⟨_, hrun⟩) hallowed
        hrecover, ih]
      rfl
  | handover _ _ hs => cases hs

namespace Fixture

/-- The capability is observed to be absent, and then revoked. -/
def withdrawing : List Event :=
  [.publishCapability
      { provider := "rdma"
        capability := "direct_nic"
        value := "false"
        authority := { epoch := 1 } },
    .revokeCapability "rdma" "direct_nic" {}]

/-- The history of these calls, latest first. -/
def withdrawnHistory : List (World × Event) :=
  [(registered.next withdrawing[0], withdrawing[1]), (registered, withdrawing[0])]

theorem run_withdrawing :
  (process (· = registered)).Run withdrawnHistory (registered.replay withdrawing)
  := run_call (run_call (.start rfl) rfl) rfl

end Fixture

theorem directory_refined_fixture :
  (Fixture.registered.replay Fixture.withdrawing).state.directory =
      Fixture.registered.state.directory.replay Fixture.withdrawnHistory ∧
    PlannerReads (Fixture.registered.replay Fixture.withdrawing).state
  := directory_refined (Fixture.reachable_registered _) Fixture.run_withdrawing

end GpuDirectFabric
