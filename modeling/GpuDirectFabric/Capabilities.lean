import GpuDirectFabric.FreshIds
import GpuDirectFabric.Snapshots

/-!
# The owner of a capability

An observation of a capability has the authority of its publisher for an owner, and only that owner
revokes it while it is live.  Publishing asks nothing of the owner of the observation that is
replaced: any caller that is live takes the capability over, and may revoke it from then on.
-/

namespace GpuDirectFabric

open Coordinator Persistence

/-! ### The observation of a capability -/

/-- The observation of a capability of a provider, which is the one replaced and revoked. -/
def State.observation (s : State) (provider capability : Str) : Option CapabilityObservation :=
  (findEntry (fun c : CapabilityObservation =>
    c.provider = provider && c.capability = capability) s.capabilities).map Prod.snd

theorem stored_of_observation {s : State} {provider capability : Str} {c : CapabilityObservation}
    (h : s.observation provider capability = some c) :
  ∃ k, s.capabilities.lookup k = some c ∧ c.provider = provider ∧ c.capability = capability
  := by
  obtain ⟨⟨k, c'⟩, hfind, rfl⟩ := Option.map_eq_some_iff.mp h
  refine ⟨k, lookup_of_findEntry hfind, ?_⟩
  simpa using holds_of_findEntry hfind

theorem State.CapabilitiesUnique.observation {s : State} (h : s.CapabilitiesUnique) {k : ℕ}
    {c : CapabilityObservation} (hc : s.capabilities.lookup k = some c) :
  s.observation c.provider c.capability = some c
  := by
  rw [State.observation]
  cases hfind : findEntry (fun v : CapabilityObservation =>
      v.provider = c.provider && v.capability = c.capability) s.capabilities with
  | none => simpa using not_of_findEntry hfind hc
  | some found =>
      obtain ⟨k', c'⟩ := found
      have hc' : s.capabilities.lookup k' = some c' := lookup_of_findEntry hfind
      obtain ⟨hprovider, hcapability⟩ :
          c'.provider = c.provider ∧ c'.capability = c.capability := by
        simpa using holds_of_findEntry hfind
      obtain rfl := h k' k c' c hc' hc hprovider hcapability
      rw [Option.map_some, Option.some.inj (hc.symm.trans hc')]

/-- An observation that changes is not stored any more where it was. -/
theorem State.CapabilitiesUnique.displaced {s s' : State} (h : s'.CapabilitiesUnique)
    {provider capability : Str} {c : CapabilityObservation}
    (hc : s.observation provider capability = some c)
    (hchanged : s'.observation provider capability ≠ some c) :
  ∃ k, s.capabilities.lookup k = some c ∧ c.provider = provider ∧ c.capability = capability ∧
    s'.capabilities.lookup k ≠ some c
  := by
  obtain ⟨k, hk, rfl, rfl⟩ := stored_of_observation hc
  exact ⟨k, hk, rfl, rfl, fun hkept => hchanged (h.observation hkept)⟩

/-! ### Taking a capability over -/

/-- The owner of the observation is a live worker. -/
def State.WorkerHeld (s : State) (c : CapabilityObservation) : Prop :=
  c.authority.workerOwned = true ∧ s.workerLiveLocked c.authority = true

/-- The event changes or removes the observation of a live worker only when it presents the
authority of that worker. -/
def Event.RespectsHolders (e : Event) (s : State) : Prop :=
  ∀ provider capability c, s.observation provider capability = some c → s.WorkerHeld c →
    (apply e s).observation provider capability ≠ some c → e.authority = some c.authority

/-- The event publishes a capability of which there is an observation of a live worker, under
another authority, which passes the check of its own. -/
def Event.TakesOver : Event → State → Prop
  | .publishCapability p, s => s.Trusts p.authority ∧
      ∃ c, s.observation p.provider p.capability = some c ∧ s.WorkerHeld c ∧
        p.authority ≠ c.authority
  | _, _ => False

/-- What is published replaces the observation of the capability. -/
theorem observation_publishCapability {s : State} {p : CapabilityPublishParams}
    (htrusts : s.Trusts p.authority) (hunique : (publishCapability p s).2.CapabilitiesUnique) :
  (publishCapability p s).2.observation p.provider p.capability
    = some (newCapability p (s.nextId + 1) (s.freshness + 1))
  := by
  obtain hsame | ⟨k, hstate, -⟩ := publishCapability_capabilities p s
  · have hfreshness : (publishCapability p s).2.freshness = s.freshness + 1 := by
      rw [publishCapability, if_neg (trusts_iff.mp htrusts)]
      dsimp only [State.nextIdLocked, State.nextFreshnessLocked]
      split
      · rfl
      · rfl
    exact absurd hsame (ne_of_freshness hfreshness)
  · have hstored : (publishCapability p s).2.capabilities.lookup k
        = some (newCapability p (s.nextId + 1) (s.freshness + 1)) := by
      rw [hstate, Table.lookup_insert_eq, if_pos rfl]
    exact hunique.observation hstored

/-- What a publication displaces is the observation of its capability. -/
theorem publishCapability_displaces {s : State} {p : CapabilityPublishParams} (hdrawn : KeysDrawn s)
    {k : ℕ} {c : CapabilityObservation} (hc : s.capabilities.lookup k = some c)
    (hgone : (publishCapability p s).2.capabilities.lookup k ≠ some c) :
  s.Trusts p.authority ∧ c.provider = p.provider ∧ c.capability = p.capability
  := by
  have hguarded := publishCapability_guarded p s
  obtain hsame | ⟨k', hstate, hk'⟩ := publishCapability_capabilities p s
  · rw [hsame] at hgone
    exact absurd hc hgone
  · rw [hstate, Table.lookup_insert_eq] at hgone
    split at hgone
    next hk =>
      obtain rfl := hk
      constructor
      · by_contra hnot
        have hsame := hguarded.refused_state hnot
        rw [hsame] at hstate
        exact absurd hstate (ne_of_freshness rfl).symm
      · obtain ⟨c', hc', hpair⟩ | ⟨rfl, -⟩ := hk'
        · obtain rfl := Option.some.inj (hc.symm.trans hc')
          exact hpair
        · exact absurd (hdrawn.capabilities _ c hc) (Nat.not_succ_le_self _)
    next => exact absurd hc hgone

/-- What a revocation displaces authorizes its caller. -/
theorem revokeCapability_displaces {s : State} {provider capability : Str} {caller : Authority}
    {k : ℕ} {c : CapabilityObservation} (hc : s.capabilities.lookup k = some c)
    (hgone : (revokeCapability provider capability caller s).2.capabilities.lookup k ≠ some c) :
  s.Authorizes caller c.authority
  := by
  rw [revokeCapability] at hgone
  cases hfind : findEntry (fun c : CapabilityObservation =>
      c.provider = provider && c.capability = capability) s.capabilities with
  | none =>
      rw [hfind] at hgone
      exact absurd hc hgone
  | some found =>
      obtain ⟨k', c'⟩ := found
      rw [hfind] at hgone
      dsimp only at hgone
      split at hgone
      next => exact absurd hc hgone
      next hcheck =>
        rw [Table.lookup_erase_eq] at hgone
        split at hgone
        next hk =>
          obtain rfl := hk
          obtain rfl := Option.some.inj (hc.symm.trans (lookup_of_findEntry hfind))
          exact not_not.mp fun hnot => hcheck (owner_check.mpr hnot)
        next => exact absurd hc hgone

/-- A step that takes nothing over respects the holders of all capabilities. -/
theorem respects_of_not_takesOver {w : World} {e : Event} (hw : persistedFabric.Reachable w)
    (he : e.Allowed ⟨false, true⟩ w) (hnot : ¬e.TakesOver w.state) :
  e.RespectsHolders w.state
  := by
  have hnext := capabilitiesUnique_of_reachable (reachable_next hw he)
  intro provider capability c hc hheld hchanged
  obtain ⟨k, hk, rfl, rfl, hgone⟩ := hnext.displaced hc hchanged
  by_cases hpublish : ∃ p, e = .publishCapability p
  · obtain ⟨p, rfl⟩ := hpublish
    obtain ⟨htrusts, hprovider, hcapability⟩ :=
      publishCapability_displaces (keysDrawn_of_reachable hw) hk hgone
    by_contra hforeign
    rw [hprovider, hcapability] at hc
    exact hnot ⟨htrusts, c, hc, hheld, fun heq => hforeign (congrArg some heq)⟩
  · by_cases hrevoke : ∃ provider capability a, e = .revokeCapability provider capability a
    · obtain ⟨provider, capability, a, rfl⟩ := hrevoke
      exact congrArg some (revokeCapability_displaces hk hgone hheld.1).1
    · apply absurd _ hgone
      rw [← hk]
      apply he.effect.keeps_capabilities
      · rintro file rfl
        exact Bool.false_ne_true he.1
      · exact fun p hp => hpublish ⟨p, hp⟩
      · exact fun provider capability a ha => hrevoke ⟨provider, capability, a, ha⟩

/-- A publication that takes a capability over changes the observation of its holder. -/
theorem not_respects_of_takesOver {w : World} {e : Event} (hw : persistedFabric.Reachable w)
    (he : e.Allowed ⟨false, true⟩ w) (htakes : e.TakesOver w.state) :
  ¬e.RespectsHolders w.state
  := by
  have hnext := capabilitiesUnique_of_reachable (reachable_next hw he)
  intro hrespects
  cases e with
  | publishCapability p =>
      obtain ⟨htrusts, c, hc, hheld, hforeign⟩ := htakes
      apply hforeign
      have hpresents := hrespects p.provider p.capability c hc hheld
      rw [apply, observation_publishCapability htrusts hnext] at hpresents
      apply Option.some.inj (hpresents _)
      intro heq
      apply hforeign
      rw [← Option.some.inj heq]
      rfl
  | _ => exact htakes

/-- In every reachable world, an operation that may happen respects the holders of all capabilities
exactly when it does not take one over. -/
theorem respects_holders_iff {w : World} {e : Event} (hw : persistedFabric.Reachable w)
    (he : e.Allowed ⟨false, true⟩ w) :
  e.RespectsHolders w.state ↔ ¬e.TakesOver w.state
  := by
  constructor
  · intro hrespects htakes
    exact not_respects_of_takesOver hw he htakes hrespects
  · exact respects_of_not_takesOver hw he

/-- While its owner is live, and presents no authority itself, an observation stays through every
run without takeovers. -/
theorem observation_of_run {u v : World} {h : List (World × Event)}
    (hu : persistedFabric.Reachable u) (hrun : (process (· = u)).Run h v)
    {provider capability : Str} {c : CapabilityObservation}
    (hc : u.state.observation provider capability = some c)
    (hsteps : ∀ p ∈ h, p.1.state.WorkerHeld c ∧ p.2.authority ≠ some c.authority ∧
      ¬p.2.TakesOver p.1.state) :
  v.state.observation provider capability = some c
  := by
  induction hrun with
  | start hw =>
      rw [hw]
      exact hc
  | step hrun hs ih =>
      obtain ⟨-, hallowed, rfl⟩ := hs
      obtain ⟨⟨hheld, hother, hnot⟩, hsteps⟩ := List.forall_mem_cons.mp hsteps
      have hw := reachable_of_process_from hu ⟨_, hrun⟩
      by_contra hchanged
      exact hother (respects_of_not_takesOver hw hallowed hnot _ _ _ (ih hsteps) hheld hchanged)
  | handover _ _ hs => exact hs.elim

namespace Fixture

/-- Another live worker. -/
def rival : Authority := { worker := 2, boot := 1, epoch := 1 }

/-- What a worker publishes of the direct path to a NIC. -/
def directNic (value : Str) (authority : Authority) : CapabilityPublishParams :=
  { provider := "rdma"
    capability := "direct_nic"
    value := value
    support := .synthetic
    authority := authority }

/-- The world in which the first of two live workers has published a capability. -/
def observed : World := ({ state := Coordinator 1 } : World).replay
  [.registerWorker 1 1 1, .registerWorker 2 1 1, .publishCapability (directNic "true" owner)]

theorem reachable_observed :
  persistedFabric.Reachable observed
  := reachable_replay (reachable_new ⟨false, true⟩ 1) rfl

/-- The observation of the first worker. -/
def held : CapabilityObservation := newCapability (directNic "true" owner) 2 2

theorem observation_observed :
  observed.state.observation "rdma" "direct_nic" = some held ∧ observed.state.WorkerHeld held
  := by
  refine ⟨?_, ?_, ?_⟩
  · decide +kernel
  · decide +kernel
  · decide +kernel

/-- The publication of the other worker. -/
def takeover : Event := .publishCapability (directNic "false" rival)

end Fixture

theorem respects_holders_fixture :
  (Event.publishCapability (Fixture.directNic "false" Fixture.owner)).RespectsHolders
    Fixture.observed.state
  := by
  apply (respects_holders_iff Fixture.reachable_observed (e := .publishCapability _) trivial).mpr
  rintro ⟨-, c, hc, -, hforeign⟩
  obtain rfl := Option.some.inj (Fixture.observation_observed.1.symm.trans hc)
  exact hforeign rfl

/-- A live worker replaces the observation of another one, which cannot revoke it any more. -/
theorem capability_taken_over :
  persistedFabric.Reachable Fixture.observed ∧
  Fixture.observed.state.observation "rdma" "direct_nic" = some Fixture.held ∧
  Fixture.observed.state.WorkerHeld Fixture.held ∧
  (apply Fixture.takeover Fixture.observed.state).observation "rdma" "direct_nic"
    ≠ some Fixture.held ∧
  Fixture.takeover.authority ≠ some Fixture.held.authority ∧
  (revokeCapability "rdma" "direct_nic" Fixture.owner
    (apply Fixture.takeover Fixture.observed.state)).1
    = err .staleBoot "capability revoke not authorized"
  := by
  obtain ⟨hobserved, hheld⟩ := Fixture.observation_observed
  refine ⟨Fixture.reachable_observed, hobserved, hheld, ?_, ?_, ?_⟩
  · decide +kernel
  · decide +kernel
  · decide +kernel

end GpuDirectFabric
