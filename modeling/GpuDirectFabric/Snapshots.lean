import GpuDirectFabric.DirectPath
import GpuDirectFabric.LatestRegistrations

/-!
# Snapshots

A snapshot lists the entries of hash maps in the order in which these happen to be traversed.
In every state of coordinators that recover only what coordinators persisted, what the planner
looks for in a snapshot is unambiguous: the registrations of a pair have distinct generations, and
no capability of a provider is observed twice.  So the decision does not depend on the order.
-/

namespace GpuDirectFabric

open Coordinator Persistence PathPlanner

/-! ### One observation for each capability -/

/-- No two entries are observations of one capability of one provider. -/
def State.CapabilitiesUnique (s : State) : Prop :=
  ∀ k k' c c', s.capabilities.lookup k = some c → s.capabilities.lookup k' = some c' →
    c.provider = c'.provider → c.capability = c'.capability → k = k'

/-- What `findEntry` finds satisfies the predicate. -/
theorem holds_of_findEntry {V : Type} {p : V → Bool} {t : Table V} {k : ℕ} {v : V}
    (h : findEntry p t = some (k, v)) :
  p v = true
  := by
  obtain ⟨⟨k', v'⟩, hfind, heq⟩ := Option.map_eq_some_iff.mp h
  obtain ⟨rfl, rfl⟩ := Prod.mk.inj heq
  exact List.find?_some (p := fun kv : (_ : ℕ) × V => p kv.2) hfind

/-- When `findEntry` finds nothing, no entry satisfies the predicate. -/
theorem not_of_findEntry {V : Type} {p : V → Bool} {t : Table V} (h : findEntry p t = none)
    {k : ℕ} {v : V} (hv : t.lookup k = some v) :
  ¬p v = true
  := by
  have hnone := List.find?_eq_none.mp (Option.map_eq_none_iff.mp h)
  exact hnone ⟨k, v⟩ (AList.mem_lookup_iff.mp hv)

/-- Publishing a capability replaces the observation of it there is, or adds the first one. -/
theorem publishCapability_capabilities (p : CapabilityPublishParams) (s : State) :
  (publishCapability p s).2 = s ∨
    ∃ k, (publishCapability p s).2 = { s.nextIdLocked.nextFreshnessLocked with
        capabilities := s.capabilities.insert k
          (newCapability p (s.nextId + 1) (s.freshness + 1)) } ∧
      ((∃ c, s.capabilities.lookup k = some c ∧ c.provider = p.provider ∧
          c.capability = p.capability) ∨
        k = s.nextId + 1 ∧ ∀ k' c, s.capabilities.lookup k' = some c →
          ¬(c.provider = p.provider ∧ c.capability = p.capability))
  := by
  rw [publishCapability]
  split
  next => exact .inl rfl
  next =>
    right
    dsimp only
    split
    next k c hfind =>
      refine ⟨k, rfl, .inl ⟨c, lookup_of_findEntry hfind, ?_⟩⟩
      simpa using holds_of_findEntry hfind
    next hfind =>
      refine ⟨_, rfl, .inr ⟨rfl, ?_⟩⟩
      intro k' c hc
      simpa using not_of_findEntry hfind hc

/-- Only publishing, revoking and recovering touch the observations. -/
theorem Effect.keeps_capabilities {e : Event} {s s' : State} (he : Effect e s s')
    (hrecover : ∀ file, e ≠ .recover file) (hpublish : ∀ p, e ≠ .publishCapability p)
    (hrevoke : ∀ provider capability a, e ≠ .revokeCapability provider capability a) (k : ℕ) :
  s'.capabilities.lookup k = s.capabilities.lookup k
  := by
  cases he with
  | publishCapability => exact absurd rfl (hpublish _)
  | revokeCapability => exact absurd rfl (hrevoke _ _ _)
  | registerBuffer haccepted hretired =>
      obtain ⟨_, rfl⟩ := hretired.frame
      rfl
  | rehash hs => exact hs.capabilities.lookup k
  | recover => exact absurd rfl (hrecover _)
  | _ => rfl

/-- No event but the publishing of a capability brings a new observation. -/
theorem Effect.capability {e : Event} {s s' : State} (he : Effect e s s')
    (hrecover : ∀ file, e ≠ .recover file) (hpublish : ∀ p, e ≠ .publishCapability p) {k : ℕ}
    {c : CapabilityObservation} (hc : s'.capabilities.lookup k = some c) :
  s.capabilities.lookup k = some c
  := by
  by_cases hrevoke : ∃ provider capability a, e = .revokeCapability provider capability a
  · obtain ⟨provider, capability, a, rfl⟩ := hrevoke
    cases he with
    | refused => exact hc
    | revokeCapability =>
        rw [Table.lookup_erase_eq] at hc
        split at hc
        · cases hc
        · exact hc
  · rw [he.keeps_capabilities hrecover hpublish] at hc
    · exact hc
    · rintro provider capability a rfl
      exact hrevoke ⟨provider, capability, a, rfl⟩

namespace State.CapabilitiesUnique

variable {s s' : State}

theorem mono (h : s.CapabilitiesUnique)
    (hsub : ∀ k c, s'.capabilities.lookup k = some c → s.capabilities.lookup k = some c) :
  s'.CapabilitiesUnique
  := fun k k' c c' hc hc' => h k k' c c' (hsub k c hc) (hsub k' c' hc')

theorem publish (h : s.CapabilitiesUnique) (p : CapabilityPublishParams) :
  (publishCapability p s).2.CapabilitiesUnique
  := by
  obtain hsame | ⟨k, hstate, hk⟩ := publishCapability_capabilities p s
  · rw [hsame]
    exact h
  · have hother : ∀ k' c, s.capabilities.lookup k' = some c → c.provider = p.provider →
        c.capability = p.capability → k' = k := by
      intro k' c hc hprovider hcapability
      obtain ⟨c', hc', hprovider', hcapability'⟩ | ⟨-, hnone⟩ := hk
      · exact h k' k c c' hc hc' (hprovider.trans hprovider'.symm)
          (hcapability.trans hcapability'.symm)
      · exact absurd ⟨hprovider, hcapability⟩ (hnone k' c hc)
    rw [hstate]
    intro k₁ k₂ c₁ c₂ hc₁ hc₂ hprovider hcapability
    obtain ⟨rfl, rfl⟩ | ⟨-, hold₁⟩ := Table.lookup_insert_some hc₁
    · obtain ⟨rfl, rfl⟩ | ⟨-, hold₂⟩ := Table.lookup_insert_some hc₂
      · rfl
      · exact (hother k₂ c₂ hold₂ hprovider.symm hcapability.symm).symm
    · obtain ⟨rfl, rfl⟩ | ⟨-, hold₂⟩ := Table.lookup_insert_some hc₂
      · exact hother k₁ c₁ hold₁ hprovider hcapability
      · exact h k₁ k₂ c₁ c₂ hold₁ hold₂ hprovider hcapability

/-- What is recovered are the observations persisted, each under its id. -/
theorem recovered {d : State} (h : d.CapabilitiesUnique) (hs : RecoveredFrom d s) :
  s.CapabilitiesUnique
  := by
  intro k k' c c' hc hc' hprovider hcapability
  obtain ⟨_, hmem, rfl, rfl⟩ := hs.capabilities k c hc
  obtain ⟨_, hmem', rfl, rfl⟩ := hs.capabilities k' c' hc'
  obtain ⟨k, hk⟩ := Table.mem_values.mp hmem
  obtain ⟨k', hk'⟩ := Table.mem_values.mp hmem'
  obtain rfl := h k k' c c' hk hk' hprovider hcapability
  rw [Option.some.inj (hk.symm.trans hk')]

end State.CapabilitiesUnique

/-- Coordinators that recover only what coordinators persisted observe no capability twice. -/
theorem capabilitiesUnique_of_reachable {w : World} (h : persistedFabric.Reachable w) :
  w.state.CapabilitiesUnique
  := by
  refine (persistedFabric_invariant (P := State.CapabilitiesUnique) ?_ ?_ ?_ h).2
  · rintro epoch k k' c c' ⟨⟩
  · intro e s _ hs he hrecover
    by_cases hpublish : ∃ p, e = .publishCapability p
    · obtain ⟨p, rfl⟩ := hpublish
      exact hs.publish p
    · apply hs.mono
      intro k c
      exact he.capability hrecover fun p hp => hpublish ⟨p, hp⟩
  · intro d s hd hs
    exact hd.recovered hs

/-! ### What the planner asks of the evidence -/

/-- The two pieces of evidence are about the same records, and answer the questions of the planner
alike. -/
structure SameAnswers (ev ev' : PathEvidence) : Prop where
  source : ev'.source = ev.source
  destination : ev'.destination = ev.destination
  device : ev'.device = ev.device
  endpoint : ∀ id, latestEndpoint ev' id = latestEndpoint ev id
  latestDevice : ∀ id, latestDevice ev' id = latestDevice ev id
  registration : ∀ buffer endpoint,
    findRegistration ev' buffer endpoint = findRegistration ev buffer endpoint
  staging : hostStagingAvailable ev' = hostStagingAvailable ev
  provider : ∀ provider, providerAvailable ev' provider = providerAvailable ev provider
  capability : ∀ provider capability,
    capabilityFor ev' provider capability = capabilityFor ev provider capability
  live : ∀ a, authorityLive a ev' = authorityLive a ev

/-- The decision depends on the evidence through these questions only. -/
theorem SameAnswers.evaluate_eq {ev ev' : PathEvidence} (h : SameAnswers ev ev')
    (req : PathRequest) :
  evaluate req ev' = evaluate req ev
  := by
  have hsource : checkSource ev' = checkSource ev := by
    funext e
    simp only [checkSource, h.source]
  have hsize : checkSize req ev' = checkSize req ev := by
    funext e
    simp only [checkSize, h.source]
  have hdestination : checkDestination ev' = checkDestination ev := by
    funext e
    simp only [checkDestination, h.destination]
  have hsupported : checkDestinationSupported ev' = checkDestinationSupported ev := by
    funext e
    simp only [checkDestinationSupported, h.destination]
  have hhealthy : checkDestinationHealthy ev' = checkDestinationHealthy ev := by
    funext e
    simp only [checkDestinationHealthy, h.destination]
  have hgeneration : checkDestinationGeneration ev' = checkDestinationGeneration ev := by
    funext e
    simp only [checkDestinationGeneration, h.destination, h.endpoint]
  have hdomain : checkSourceDomain ev' = checkSourceDomain ev := by
    funext e
    simp only [checkSourceDomain, h.source]
  have hdevice : checkDevice ev' = checkDevice ev := by
    funext e
    simp only [checkDevice, h.device, h.latestDevice]
  have hprovider : checkProvider ev' = checkProvider ev := by
    funext e
    simp only [checkProvider, h.destination, h.provider]
  have hcapability : checkCapability ev' = checkCapability ev := by
    funext e
    simp only [checkCapability, h.destination, h.capability]
  have hregistration : checkRegistration ev' = checkRegistration ev := by
    funext e
    simp only [checkRegistration, h.source, h.destination, h.registration, h.live]
  have halignment : checkAlignment req ev' = checkAlignment req ev := by
    funext e
    simp only [checkAlignment, h.source]
  have hclass : classifyDirect req ev' = classifyDirect req ev := by
    simp only [classifyDirect, h.destination]
  have hdirect : checkDirect req ev' = checkDirect req ev := by
    simp only [checkDirect, hsource, hsize, hdestination, hsupported, hhealthy, hgeneration,
      hdomain, hdevice, hprovider, hcapability, hregistration, halignment, hclass, h.source,
      h.destination]
  have hfallback : ∀ d, addFallbackCandidates d req ev' = addFallbackCandidates d req ev := by
    intro d
    simp only [addFallbackCandidates, fallbackClass, h.destination]
  have houtcome : ∀ e, outcome req ev' e = outcome req ev e := by
    intro e
    simp only [outcome, hfallback, h.destination, h.staging]
  rw [evaluate, evaluate, hdirect, houtcome]

/-! ### Orders -/

/-- The two pieces of evidence differ only in the order of their lists. -/
structure Reordered (ev ev' : PathEvidence) : Prop where
  source : ev'.source = ev.source
  destination : ev'.destination = ev.destination
  device : ev'.device = ev.device
  epoch : ev'.epoch = ev.epoch
  registrations : ev.registrations.Perm ev'.registrations
  capabilities : ev.capabilities.Perm ev'.capabilities
  devices : ev.devices.Perm ev'.devices
  endpoints : ev.endpoints.Perm ev'.endpoints
  providers : ev.providers.Perm ev'.providers
  liveWorkers : ev.liveWorkers.Perm ev'.liveWorkers

/-- What the searches look for determines what they find. -/
structure Unambiguous (ev : PathEvidence) : Prop where
  registrations : ∀ r ∈ ev.registrations, ∀ r' ∈ ev.registrations, r.buffer = r'.buffer →
    r.endpoint = r'.endpoint → r.generation = r'.generation → r = r'
  capabilities : ∀ c ∈ ev.capabilities, ∀ c' ∈ ev.capabilities, c.provider = c'.provider →
    c.capability = c'.capability → c = c'
  devices : ∀ d ∈ ev.devices, ∀ d' ∈ ev.devices, d.id = d'.id → d = d'
  endpoints : ∀ e ∈ ev.endpoints, ∀ e' ∈ ev.endpoints, e.id = e'.id → e = e'

/-- Where the key determines the value, the latest value is the same in any order. -/
theorem latest_perm {α : Type} {p : α → Bool} {key : α → ℕ} {xs ys : List α}
    (hperm : xs.Perm ys)
    (hunique : ∀ x ∈ xs, ∀ y ∈ xs, p x = true → p y = true → key x = key y → x = y) :
  latest p key ys = latest p key xs
  := by
  apply Option.ext
  intro x
  rw [latest_eq_some_iff, latest_eq_some_iff]
  constructor
  · intro h
    apply h.perm hperm.symm
    intro y hy hp heq
    exact hunique y (hperm.mem_iff.mpr hy) x (hperm.mem_iff.mpr h.mem) hp h.1 heq
  · intro h
    apply h.perm hperm
    intro y hy hp heq
    exact hunique y hy x h.mem hp h.1 heq

/-- Where the property determines the value, the first value is the same in any order. -/
theorem find?_perm {α : Type} {p : α → Bool} {xs ys : List α} (hperm : xs.Perm ys)
    (hunique : ∀ x ∈ xs, ∀ y ∈ xs, p x = true → p y = true → x = y) :
  ys.find? p = xs.find? p
  := by
  apply Option.ext
  intro x
  rw [← Search.first_iff_find?, ← Search.first_iff_find?]
  constructor
  · intro h
    apply h.perm hperm.symm
    intro y hy hp
    exact hunique y (hperm.mem_iff.mpr hy) x (hperm.mem_iff.mpr h.mem) hp h.1
  · intro h
    apply h.perm hperm
    intro y hy hp
    exact hunique y hy x h.mem hp h.1

theorem Unambiguous.sameAnswers {ev ev' : PathEvidence} (h : Unambiguous ev)
    (hr : Reordered ev ev') :
  SameAnswers ev ev'
  where
  source := hr.source
  destination := hr.destination
  device := hr.device
  endpoint := by
    intro id
    apply latest_perm hr.endpoints
    intro e he e' he' hid hid' _
    simp only [decide_eq_true_eq] at hid hid'
    exact h.endpoints e he e' he' (hid.trans hid'.symm)
  latestDevice := by
    intro id
    apply latest_perm hr.devices
    intro d hd d' hd' hid hid' _
    simp only [decide_eq_true_eq] at hid hid'
    exact h.devices d hd d' hd' (hid.trans hid'.symm)
  registration := by
    intro buffer endpoint
    apply latest_perm hr.registrations
    intro r hmem r' hmem' hpair hpair' heq
    simp only [Bool.and_eq_true, decide_eq_true_eq] at hpair hpair'
    exact h.registrations r hmem r' hmem' (hpair.1.trans hpair'.1.symm)
      (hpair.2.trans hpair'.2.symm) heq
  staging := by
    rw [hostStagingAvailable, hostStagingAvailable, hr.epoch]
    exact hr.capabilities.symm.any_eq
  provider := by
    intro provider
    exact hr.providers.symm.any_eq
  capability := by
    intro provider capability
    apply find?_perm hr.capabilities
    intro c hmem c' hmem' hpair hpair'
    simp only [Bool.and_eq_true, decide_eq_true_eq] at hpair hpair'
    exact h.capabilities c hmem c' hmem' (hpair.1.trans hpair'.1.symm)
      (hpair.2.trans hpair'.2.symm)
  live := by
    intro a
    rw [authorityLive, authorityLive, hr.epoch, hr.liveWorkers.symm.any_eq]

/-- Values of a table that are stored under keys they determine are determined by them. -/
theorem eq_of_mem_values {V : Type} {t : Table V} {v v' : V} (hv : v ∈ t.values)
    (hv' : v' ∈ t.values)
    (h : ∀ k k', t.lookup k = some v → t.lookup k' = some v' → k = k') :
  v = v'
  := by
  obtain ⟨k, hk⟩ := Table.mem_values.mp hv
  obtain ⟨k', hk'⟩ := Table.mem_values.mp hv'
  obtain rfl := h k k' hk hk'
  exact Option.some.inj (hk.symm.trans hk')

/-- The snapshots of reachable states are unambiguous. -/
theorem unambiguous_of_reachable {w : World} (h : persistedFabric.Reachable w)
    (p : PlanRequestParams) :
  Unambiguous (buildEvidenceLocked p w.state)
  where
  registrations := by
    intro r hr r' hr' hbuffer hendpoint hgeneration
    apply eq_of_mem_values hr hr'
    intro k k' hk hk'
    exact (latestCurrent_of_reachable h).distinct r.buffer r.endpoint k k' r r' ⟨hk, rfl, rfl⟩
      ⟨hk', hbuffer.symm, hendpoint.symm⟩ hgeneration
  capabilities := by
    intro c hc c' hc' hprovider hcapability
    apply eq_of_mem_values hc hc'
    intro k k' hk hk'
    exact capabilitiesUnique_of_reachable h k k' c c' hk hk' hprovider hcapability
  devices := by
    intro d hd d' hd' hid
    apply eq_of_mem_values hd hd'
    intro k k' hk hk'
    have hdevices := (wellFormed_of_reachable h).devices
    rw [← hdevices k d hk, hid, hdevices k' d' hk']
  endpoints := by
    intro e he e' he' hid
    apply eq_of_mem_values he he'
    intro k k' hk hk'
    have hwf := wellFormed_of_reachable h
    rw [← hwf.endpoint_id hk, hid, hwf.endpoint_id hk']

/-- In every reachable state, snapshots that differ only in the order of their lists give one
decision. -/
theorem decision_order_independent {w : World} (h : persistedFabric.Reachable w)
    (p : PlanRequestParams) {ev ev' : PathEvidence}
    (hev : Reordered (buildEvidenceLocked p w.state) ev)
    (hev' : Reordered (buildEvidenceLocked p w.state) ev') :
  evaluate (pathRequest p) ev = evaluate (pathRequest p) ev'
  := by
  have hunambiguous := unambiguous_of_reachable h p
  rw [(hunambiguous.sameAnswers hev).evaluate_eq, (hunambiguous.sameAnswers hev').evaluate_eq]

/-- Rearranging the tables of a state reorders its snapshots. -/
theorem reordered_of_rearranged {s s' : State} (h : s.Rearranged s') (p : PlanRequestParams) :
  Reordered (buildEvidenceLocked p s) (buildEvidenceLocked p s')
  where
  source := by rw [buildEvidenceLocked, buildEvidenceLocked, h.buffers.lookup]
  destination := by rw [buildEvidenceLocked, buildEvidenceLocked, h.endpoints.lookup]
  device := by
    rw [buildEvidenceLocked, buildEvidenceLocked]
    dsimp only
    rw [h.buffers.lookup, h.devices.lookup]
  epoch := h.epoch
  registrations := List.Perm.map _ h.registrations
  capabilities := List.Perm.map _ h.capabilities
  devices := List.Perm.map _ h.devices
  endpoints := List.Perm.map _ h.endpoints
  providers := List.Perm.map _ h.providers
  liveWorkers := List.Perm.map _ h.workers

/-- A rehash of the tables of a reachable state changes no decision. -/
theorem evaluatePath_rearranged {w : World} (h : persistedFabric.Reachable w)
    (p : PlanRequestParams) {s : State} (hs : w.state.Rearranged s) :
  evaluatePath p s = evaluatePath p w.state
  := ((unambiguous_of_reachable h p).sameAnswers (reordered_of_rearranged hs p)).evaluate_eq _

namespace Fixture

/-- The evidence of the registered world with all its lists reversed. -/
def reversedEvidence : PathEvidence :=
  let ev := buildEvidenceLocked request registered.state
  { ev with
    registrations := ev.registrations.reverse
    capabilities := ev.capabilities.reverse
    devices := ev.devices.reverse
    endpoints := ev.endpoints.reverse
    providers := ev.providers.reverse
    liveWorkers := ev.liveWorkers.reverse }

theorem reordered_reversedEvidence :
  Reordered (buildEvidenceLocked request registered.state) reversedEvidence
  where
  source := rfl
  destination := rfl
  device := rfl
  epoch := rfl
  registrations := (List.reverse_perm _).symm
  capabilities := (List.reverse_perm _).symm
  devices := (List.reverse_perm _).symm
  endpoints := (List.reverse_perm _).symm
  providers := (List.reverse_perm _).symm
  liveWorkers := (List.reverse_perm _).symm

end Fixture

theorem decision_order_independent_fixture :
  evaluate (pathRequest Fixture.request)
      (buildEvidenceLocked Fixture.request Fixture.registered.state)
    = evaluate (pathRequest Fixture.request) Fixture.reversedEvidence
  := decision_order_independent (Fixture.reachable_registered _) Fixture.request
    ⟨rfl, rfl, rfl, rfl, .refl _, .refl _, .refl _, .refl _, .refl _, .refl _⟩
    Fixture.reordered_reversedEvidence

end GpuDirectFabric
