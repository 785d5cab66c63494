import GpuDirectFabric.Directories
import GpuDirectFabric.Progress
import GpuDirectFabric.References

/-!
# Seeding

`seed_synthetic` puts all that the synthetic backend lists into a coordinator: providers, a device,
endpoints and capabilities.  Whatever state the coordinator is in, if it has room then a buffer made
and registered after that has a direct path to each of the endpoints, a degraded one, and a transfer
on it is completed.
-/

namespace GpuDirectFabric

open Coordinator PathPlanner

/-! ### What the synthetic backend lists -/

namespace SyntheticBackend

def capabilities (_b : SyntheticBackend) : List CapabilityObservation :=
  let add (provider capability value : Str) : CapabilityObservation :=
    { provider := provider
      capability := capability
      value := value
      support := .synthetic
      provenance := .syntheticFixture
      freshness := 0 }
  [add "rdma" "direct_nic" "true",
    add "storage" "direct_storage" "true",
    add "cuda" "peer_memory" "true",
    add "synthetic" "host_staging" "true"]

def devices (_b : SyntheticBackend) : List DeviceRecord :=
  [{ id := 1
     generation := 1
     name := "synthetic-gpu-0"
     computeCapability := "synthetic"
     peerMemorySupported := true
     support := .synthetic
     provenance := .syntheticFixture
     freshness := 0 }]

def endpoints (_b : SyntheticBackend) : List EndpointRecord :=
  [{ id := 1
     generation := 1
     endpointClass := .nic
     name := "synthetic-nic-0"
     topologyHint := "synthetic:pci"
     healthy := true
     provider := 1
     support := .synthetic
     provenance := .syntheticFixture },
   { id := 2
     generation := 1
     endpointClass := .storage
     name := "synthetic-storage-0"
     topologyHint := "synthetic:nvme"
     healthy := true
     provider := 2
     support := .synthetic
     provenance := .syntheticFixture },
   { id := 3
     generation := 1
     endpointClass := .peerDevice
     name := "synthetic-peer-gpu-1"
     topologyHint := "synthetic:p2p"
     healthy := true
     provider := 3
     support := .synthetic
     provenance := .syntheticFixture }]

def providers (_b : SyntheticBackend) : List ProviderInfo :=
  let add (id : ProviderId) (name : Str) : ProviderInfo :=
    { id := id
      name := name
      available := true
      support := .synthetic
      provenance := .syntheticFixture }
  [add 1 "rdma", add 2 "storage", add 3 "cuda"]

end SyntheticBackend

/-! ### Putting it into a coordinator -/

structure SyntheticSeedResult where
  device : DeviceId := 0
  nic : EndpointId := 0
  storage : EndpointId := 0
  peer : EndpointId := 0
  rdma : ProviderId := 0
  storageProvider : ProviderId := 0
  cuda : ProviderId := 0

namespace SyntheticSeedResult

/-- The endpoint of a class, if there is one of the class. -/
def endpoint (r : SyntheticSeedResult) : EndpointClass → EndpointId
  | .nic => r.nic
  | .storage => r.storage
  | .peerDevice => r.peer
  | _ => 0

/-- The results with an endpoint of a class. -/
def withEndpoint (c : EndpointClass) (id : EndpointId) (r : SyntheticSeedResult) :
    SyntheticSeedResult :=
  let r := if c = .nic then { r with nic := id } else r
  let r := if c = .storage then { r with storage := id } else r
  if c = .peerDevice then { r with peer := id } else r

end SyntheticSeedResult

/-- The seeds so far, and the coordinator they are in. -/
abbrev Seeding := SyntheticSeedResult × State

def seededProvider (p : ProviderInfo) : ProviderAddParams :=
  { name := p.name
    available := p.available
    support := p.support
    provenance := p.provenance }

def seedProvider (acc : Seeding) (p : ProviderInfo) : Seeding :=
  let call := addProvider (seededProvider p) acc.2
  match call.1 with
  | .error _ => (acc.1, call.2)
  | .ok info =>
    let r := if p.name = "rdma" then { acc.1 with rdma := info.id } else acc.1
    let r := if p.name = "storage" then { r with storageProvider := info.id } else r
    (if p.name = "cuda" then { r with cuda := info.id } else r, call.2)

def seededDevice (d : DeviceRecord) : DeviceAddParams :=
  { name := d.name
    computeCapability := d.computeCapability
    peerMemorySupported := d.peerMemorySupported
    support := d.support
    provenance := d.provenance }

def seedDevice (acc : Seeding) (d : DeviceRecord) : Seeding :=
  let call := addDevice (seededDevice d) acc.2
  match call.1 with
  | .error _ => (acc.1, call.2)
  | .ok device => ({ acc.1 with device := device.id }, call.2)

def seededEndpoint (e : EndpointRecord) : EndpointAddParams :=
  { endpointClass := e.endpointClass
    name := e.name
    topologyHint := e.topologyHint
    healthy := e.healthy
    provider := e.provider
    support := e.support
    provenance := e.provenance }

def seedEndpoint (acc : Seeding) (e : EndpointRecord) : Seeding :=
  let call := addEndpoint (seededEndpoint e) acc.2
  match call.1 with
  | .error _ => (acc.1, call.2)
  | .ok endpoint => (acc.1.withEndpoint e.endpointClass endpoint.id, call.2)

/-- The observation is the coordinator's own, in its epoch. -/
def seededCapability (epoch : CoordinatorEpoch) (c : CapabilityObservation) :
    CapabilityPublishParams :=
  { provider := c.provider
    capability := c.capability
    value := c.value
    support := c.support
    provenance := c.provenance
    authority := { epoch := epoch } }

def seedCapability (epoch : CoordinatorEpoch) (acc : Seeding) (c : CapabilityObservation) :
    Seeding :=
  (acc.1, (publishCapability (seededCapability epoch c) acc.2).2)

def seedSynthetic (backend : SyntheticBackend) (s : State) : Seeding :=
  let epoch := s.epoch
  let acc := backend.providers.foldl seedProvider ({}, s)
  let acc := backend.devices.foldl seedDevice acc
  let acc := backend.endpoints.foldl seedEndpoint acc
  backend.capabilities.foldl (seedCapability epoch) acc

/-- The calls it makes. -/
def seedCalls (backend : SyntheticBackend) (epoch : CoordinatorEpoch) : List Event :=
  backend.providers.map (fun p => .addProvider (seededProvider p)) ++
    backend.devices.map (fun d => .addDevice (seededDevice d)) ++
    backend.endpoints.map (fun e => .addEndpoint (seededEndpoint e)) ++
    backend.capabilities.map fun c => .publishCapability (seededCapability epoch c)

theorem World.replay_state (w : World) (es : List Event) :
  (w.replay es).state = es.foldl (fun s e => apply e s) w.state
  := by
  induction es generalizing w with
  | nil => rfl
  | cons e es ih => exact ih (w.next e)

/-- A fold whose steps each make the call of an element makes the calls of the list. -/
theorem foldl_calls {α : Type} {step : Seeding → α → Seeding} (call : α → Event)
    (hstep : ∀ acc a, (step acc a).2 = apply (call a) acc.2) (as : List α) (acc : Seeding) :
  (as.foldl step acc).2 = (as.map call).foldl (fun s e => apply e s) acc.2
  := by
  induction as generalizing acc with
  | nil => rfl
  | cons a as ih =>
      rw [List.foldl_cons, ih, hstep]
      rfl

theorem seedProvider_state (acc : Seeding) (p : ProviderInfo) :
  (seedProvider acc p).2 = apply (.addProvider (seededProvider p)) acc.2
  := by
  rw [seedProvider]
  split <;> rfl

theorem seedDevice_state (acc : Seeding) (d : DeviceRecord) :
  (seedDevice acc d).2 = apply (.addDevice (seededDevice d)) acc.2
  := by
  rw [seedDevice]
  split <;> rfl

theorem seedEndpoint_state (acc : Seeding) (e : EndpointRecord) :
  (seedEndpoint acc e).2 = apply (.addEndpoint (seededEndpoint e)) acc.2
  := by
  rw [seedEndpoint]
  split <;> rfl

theorem seedCapability_state (epoch : CoordinatorEpoch) (acc : Seeding)
    (c : CapabilityObservation) :
  (seedCapability epoch acc c).2 = apply (.publishCapability (seededCapability epoch c)) acc.2
  := rfl

/-- Seeding is making its calls. -/
theorem seedSynthetic_state (backend : SyntheticBackend) (w : World) :
  (seedSynthetic backend w.state).2
    = (w.replay (seedCalls backend w.state.epoch)).state
  := by
  rw [World.replay_state, seedCalls, List.foldl_append, List.foldl_append, List.foldl_append,
    seedSynthetic, foldl_calls _ (seedCapability_state w.state.epoch),
    foldl_calls _ seedEndpoint_state, foldl_calls _ seedDevice_state,
    foldl_calls _ seedProvider_state]

/-! ### What the calls leave -/

/-- A call that puts something synthetic into the coordinator, in nobody's name. -/
inductive Seeds : Event → Prop
  | provider {p : ProviderAddParams} (havailable : p.available = true)
      (hsupport : p.support = .synthetic) : Seeds (.addProvider p)
  | device {p : DeviceAddParams} : Seeds (.addDevice p)
  | endpoint {p : EndpointAddParams} : Seeds (.addEndpoint p)
  | capability {p : CapabilityPublishParams} (hvalue : p.value = "true")
      (hsupport : p.support = .synthetic) (howner : p.authority.workerOwned = false) :
      Seeds (.publishCapability p)

theorem seeds_seedCalls (backend : SyntheticBackend) (epoch : CoordinatorEpoch) :
  ∀ e ∈ seedCalls backend epoch, Seeds e
  := by
  intro e he
  simp only [seedCalls, List.mem_append, List.mem_map] at he
  obtain ((⟨p, hp, rfl⟩ | ⟨d, -, rfl⟩) | ⟨e, -, rfl⟩) | ⟨c, hc, rfl⟩ := he
  · have hall : ∀ p ∈ backend.providers, p.available = true ∧ p.support = .synthetic := by
      simp [SyntheticBackend.providers]
    exact .provider (hall p hp).1 (hall p hp).2
  · exact .device
  · exact .endpoint
  · have hall : ∀ c ∈ backend.capabilities, c.value = "true" ∧ c.support = .synthetic := by
      simp [SyntheticBackend.capabilities]
    exact .capability (hall c hc).1 (hall c hc).2 rfl

theorem Seeds.isCall {e : Event} (h : Seeds e) :
  e.isCall = true
  := by
  cases h with
  | _ => rfl

/-- The calls leave the registries of buffers and all that is made from them alone. -/
structure SeedFrame (s s' : State) : Prop where
  epoch : s'.epoch = s.epoch
  buffers : s'.buffers = s.buffers
  registrations : s'.registrations = s.registrations
  plans : s'.plans = s.plans
  attempts : s'.attempts = s.attempts
  workers : s'.workers = s.workers
  limits : s'.maxBuffers = s.maxBuffers ∧ s'.maxRegistrations = s.maxRegistrations ∧
    s'.maxEndpoints = s.maxEndpoints ∧ s'.maxPlans = s.maxPlans ∧ s'.maxAttempts = s.maxAttempts

theorem SeedFrame.refl (s : State) :
  SeedFrame s s
  := ⟨rfl, rfl, rfl, rfl, rfl, rfl, rfl, rfl, rfl, rfl, rfl⟩

theorem SeedFrame.trans {s s' s'' : State} (h : SeedFrame s s') (h' : SeedFrame s' s'') :
  SeedFrame s s''
  where
  epoch := h'.epoch.trans h.epoch
  buffers := h'.buffers.trans h.buffers
  registrations := h'.registrations.trans h.registrations
  plans := h'.plans.trans h.plans
  attempts := h'.attempts.trans h.attempts
  workers := h'.workers.trans h.workers
  limits := by
    obtain ⟨hbuffers, hregistrations, hendpoints, hplans, hattempts⟩ := h.limits
    rw [← hbuffers, ← hregistrations, ← hendpoints, ← hplans, ← hattempts]
    exact h'.limits

theorem Seeds.frame {e : Event} {w : World} (h : Seeds e) :
  SeedFrame w.state (w.next e).state
  := by
  have hallowed : e.Allowed ⟨false, true⟩ w := Event.allowed_of_isCall h.isCall
  have he := hallowed.effect
  rw [World.next_state]
  generalize apply e w.state = s' at he
  cases h with
  | _ => cases he <;> exact ⟨rfl, rfl, rfl, rfl, rfl, rfl, rfl, rfl, rfl, rfl, rfl⟩

section

variable {w : World} {es : List Event}

theorem seedFrame_replay (hes : ∀ e ∈ es, Seeds e) :
  SeedFrame w.state (w.replay es).state
  := by
  induction es generalizing w with
  | nil => exact .refl _
  | cons e es ih =>
      rw [List.forall_mem_cons] at hes
      exact hes.1.frame.trans (ih hes.2)

theorem reachable_seeds (h : persistedFabric.Reachable w) (hes : ∀ e ∈ es, Seeds e) :
  persistedFabric.Reachable (w.replay es)
  := by
  apply reachable_replay h
  rw [List.all_eq_true]
  intro e he
  exact (hes e he).isCall

/-- What one of the calls brings about, and all of them keep, holds after them. -/
theorem replay_brings {P : State → Prop} (h : persistedFabric.Reachable w)
    (hes : ∀ e ∈ es, Seeds e)
    (hkeep : ∀ w e, persistedFabric.Reachable w → Seeds e → P w.state → P (w.next e).state)
    (hbring : P w.state ∨
      ∃ e ∈ es, ∀ w, persistedFabric.Reachable w → P (World.next w e).state) :
  P (w.replay es).state
  := by
  induction es generalizing w with
  | nil =>
      obtain hP | ⟨e, he, -⟩ := hbring
      · exact hP
      · cases he
  | cons e es ih =>
      rw [List.forall_mem_cons] at hes
      have hnext : persistedFabric.Reachable (w.next e) :=
        reachable_next h (Event.allowed_of_isCall hes.1.isCall)
      apply ih hnext hes.2
      obtain hP | ⟨e', he', hbrings⟩ := hbring
      · exact .inl (hkeep w e h hes.1 hP)
      · obtain rfl | he' := List.mem_cons.mp he'
        · exact .inl (hbrings w h)
        · exact .inr ⟨e', he', hbrings⟩

end

/-- The provider is available, and synthetic. -/
def Offered (name : Str) (s : State) : Prop :=
  ∃ v, s.directory.providers name = some v ∧ v.available = true ∧ v.support = .synthetic

/-- The capability is observed, and synthetic. -/
def Observed (key : Str × Str) (s : State) : Prop :=
  ∃ c, s.directory.capabilities key = some c ∧ c.value = "true" ∧ c.support = .synthetic

section

variable {w : World} {e : Event}

theorem Seeds.directory (h : persistedFabric.Reachable w) (he : Seeds e) :
  (w.next e).state.directory =
    w.state.directory.next w.state.workerLiveLocked w.state.nextId w.state.freshness e
  := by
  apply directory_apply h (Event.allowed_of_isCall he.isCall)
  rintro file rfl
  cases he

theorem offered_addProvider {p : ProviderAddParams} (h : persistedFabric.Reachable w)
    (he : Seeds (.addProvider p)) (hname : p.name.isEmpty = false) :
  Offered p.name (w.next (.addProvider p)).state
  := by
  rw [Offered, he.directory h, Directory.next, Directory.addProvider, if_neg (by simp [hname])]
  cases he with
  | provider havailable hsupport =>
      dsimp only
      rw [Function.update_self]
      refine ⟨_, rfl, ?_⟩
      split
      · exact ⟨havailable, hsupport⟩
      · exact ⟨havailable, hsupport⟩

theorem Offered.next {name : Str} (ho : Offered name w.state) (h : persistedFabric.Reachable w)
    (he : Seeds e) :
  Offered name (w.next e).state
  := by
  by_cases hadds : ∃ p, e = .addProvider p ∧ p.name = name ∧ p.name.isEmpty = false
  · obtain ⟨p, rfl, rfl, hname⟩ := hadds
    exact offered_addProvider h he hname
  · rw [Offered, he.directory h]
    cases he with
    | @provider p havailable hsupport =>
        rw [Directory.next, Directory.addProvider]
        split
        next => exact ho
        next hname =>
          have hne : name ≠ p.name := by
            rintro rfl
            exact hadds ⟨p, rfl, rfl, by simpa using hname⟩
          dsimp only
          rw [Function.update_of_ne hne]
          exact ho
    | device => exact ho
    | endpoint => exact ho
    | capability =>
        rw [Directory.next, Directory.publish]
        split <;> exact ho

theorem observed_publish {p : CapabilityPublishParams} (h : persistedFabric.Reachable w)
    (he : Seeds (.publishCapability p)) :
  Observed (p.provider, p.capability) (w.next (.publishCapability p)).state
  := by
  rw [Observed, he.directory h, Directory.next, Directory.publish]
  cases he with
  | capability hvalue hsupport howner =>
      rw [if_neg (by simp [howner])]
      dsimp only
      rw [Function.update_self]
      exact ⟨_, rfl, hvalue, hsupport⟩

theorem Observed.next {key : Str × Str} (ho : Observed key w.state)
    (h : persistedFabric.Reachable w) (he : Seeds e) :
  Observed key (w.next e).state
  := by
  by_cases hpublishes : ∃ p, e = .publishCapability p ∧ (p.provider, p.capability) = key
  · obtain ⟨p, rfl, rfl⟩ := hpublishes
    exact observed_publish h he
  · rw [Observed, he.directory h]
    cases he with
    | @provider p =>
        rw [Directory.next, Directory.addProvider]
        split <;> exact ho
    | device => exact ho
    | endpoint => exact ho
    | @capability p =>
        rw [Directory.next, Directory.publish]
        split
        next => exact ho
        next =>
          have hne : key ≠ (p.provider, p.capability) := by
            rintro rfl
            exact hpublishes ⟨p, rfl, rfl⟩
          dsimp only
          rw [Function.update_of_ne hne]
          exact ho

end

/-! ### The seeds -/

/-- A class of endpoints with a direct path. -/
def EndpointClass.HasDirectPath (c : EndpointClass) : Prop :=
  c = .nic ∨ c = .storage ∨ c = .peerDevice

/-- The endpoint under `id` is a healthy synthetic one of the class. -/
def Placed (c : EndpointClass) (id : EndpointId) (s : State) : Prop :=
  id ≠ 0 ∧ ∃ e, s.endpoints.lookup id = some e ∧ e.endpointClass = c ∧ e.healthy = true ∧
    e.support = .synthetic

/-- Where there is room, an endpoint is added under the next id. -/
theorem seedEndpoint_eq {acc : Seeding} (e : EndpointRecord)
    (hroom : acc.2.endpoints.size < acc.2.maxEndpoints) :
  seedEndpoint acc e = (acc.1.withEndpoint e.endpointClass (acc.2.nextId + 1),
    { acc.2.nextIdLocked.nextFreshnessLocked with
      endpoints := acc.2.endpoints.insert (acc.2.nextId + 1)
        (newEndpoint (seededEndpoint e) (acc.2.nextId + 1) (acc.2.freshness + 1)) })
  := by
  rw [seedEndpoint, addEndpoint, if_neg (not_le.mpr hroom)]
  rfl

theorem endpoint_withEndpoint (r : SyntheticSeedResult) (c' : EndpointClass) (id : EndpointId)
    {c : EndpointClass} (hc : c.HasDirectPath) :
  (r.withEndpoint c' id).endpoint c = if c = c' then id else r.endpoint c
  := by
  obtain rfl | rfl | rfl := hc
  · cases c' <;> rfl
  · cases c' <;> rfl
  · cases c' <;> rfl

/-- The endpoint of a class is placed, under an id that is drawn. -/
structure SeededEndpoint (c : EndpointClass) (acc : Seeding) : Prop where
  placed : Placed c (acc.1.endpoint c) acc.2
  drawn : acc.1.endpoint c ≤ acc.2.nextId

/-- While there is room, the endpoints of a class that are seeded are placed. -/
theorem seedEndpoints_placed {c : EndpointClass} (hc : c.HasDirectPath) {es : List EndpointRecord}
    {acc : Seeding} (hes : ∀ e ∈ es, e.healthy = true ∧ e.support = .synthetic)
    (hroom : acc.2.endpoints.size + es.length ≤ acc.2.maxEndpoints)
    (hseeded : SeededEndpoint c acc ∨ ∃ e ∈ es, e.endpointClass = c) :
  SeededEndpoint c (es.foldl seedEndpoint acc)
  := by
  induction es generalizing acc with
  | nil =>
      obtain hseeded | ⟨e, he, -⟩ := hseeded
      · exact hseeded
      · cases he
  | cons e es ih =>
      rw [List.length_cons] at hroom
      rw [List.forall_mem_cons] at hes
      rw [List.foldl_cons, seedEndpoint_eq e (by omega)]
      apply ih hes.2
      · change _ ≤ acc.2.maxEndpoints
        dsimp only
        rw [Table.size_insert]
        split
        · omega
        · omega
      · by_cases hclass : c = e.endpointClass
        · left
          have hid := endpoint_withEndpoint acc.1 e.endpointClass (acc.2.nextId + 1) hc
          rw [if_pos hclass] at hid
          constructor
          · rw [hid]
            exact ⟨Nat.succ_ne_zero _, _, AList.lookup_insert _, hclass.symm, hes.1.1, hes.1.2⟩
          · rw [hid]
            exact le_rfl
        · obtain ⟨⟨hne, old, hold, hrest⟩, hdrawn⟩ | ⟨e', he', rfl⟩ := hseeded
          · left
            have hid := endpoint_withEndpoint acc.1 e.endpointClass (acc.2.nextId + 1) hc
            rw [if_neg hclass] at hid
            constructor
            · rw [hid]
              refine ⟨hne, old, ?_, hrest⟩
              rw [AList.lookup_insert_ne (Nat.lt_succ_of_le hdrawn).ne, hold]
            · rw [hid]
              exact Nat.le_succ_of_le hdrawn
          · right
            obtain rfl | he' := List.mem_cons.mp he'
            · exact absurd rfl hclass
            · exact ⟨e', he', rfl⟩

/-- Adding endpoints is the only call that touches them. -/
theorem Seeds.endpoints {e : Event} (h : Seeds e) (hne : ∀ p, e ≠ .addEndpoint p) (s : State) :
  (apply e s).endpoints = s.endpoints
  := by
  have hallowed : e.Allowed ⟨false, true⟩ { state := s } := Event.allowed_of_isCall h.isCall
  have he := hallowed.effect
  dsimp only at he
  generalize apply e s = s' at he
  cases h with
  | endpoint => exact absurd rfl (hne _)
  | _ => cases he <;> rfl

/-- Adding devices is the only call that touches them. -/
theorem Seeds.devices {e : Event} (h : Seeds e) (hne : ∀ p, e ≠ .addDevice p) (s : State) :
  (apply e s).devices = s.devices
  := by
  have hallowed : e.Allowed ⟨false, true⟩ { state := s } := Event.allowed_of_isCall h.isCall
  have he := hallowed.effect
  dsimp only at he
  generalize apply e s = s' at he
  cases h with
  | device => exact absurd rfl (hne _)
  | _ => cases he <;> rfl

/-- What no call of a list changes is the same after them. -/
theorem foldl_keeps {α : Type} {f : State → α} {es : List Event} {s : State}
    (h : ∀ e ∈ es, ∀ s, f (apply e s) = f s) :
  f (es.foldl (fun s e => apply e s) s) = f s
  := by
  induction es generalizing s with
  | nil => rfl
  | cons e es ih =>
      rw [List.forall_mem_cons] at h
      exact (ih h.2).trans (h.1 s)

section

variable {w : World}

/-- The seeded providers are offered. -/
theorem offered_seeded (hw : persistedFabric.Reachable w) (backend : SyntheticBackend)
    {c : EndpointClass} (hc : c.HasDirectPath) :
  Offered (providerFor c) (seedSynthetic backend w.state).2
  := by
  have hes := seeds_seedCalls backend w.state.epoch
  have hlisted : ∃ p ∈ backend.providers, p.name = providerFor c ∧ p.name.isEmpty = false := by
    obtain rfl | rfl | rfl := hc
    · exact ⟨_, List.mem_of_getElem? (i := 0) rfl, rfl, rfl⟩
    · exact ⟨_, List.mem_of_getElem? (i := 1) rfl, rfl, rfl⟩
    · exact ⟨_, List.mem_of_getElem? (i := 2) rfl, rfl, rfl⟩
  obtain ⟨p, hp, hname, hnonempty⟩ := hlisted
  have hmem : .addProvider (seededProvider p) ∈ seedCalls backend w.state.epoch := by
    simp only [seedCalls, List.mem_append, List.mem_map]
    exact .inl (.inl (.inl ⟨p, hp, rfl⟩))
  rw [seedSynthetic_state, ← hname]
  apply replay_brings hw hes
  · intro w e hw he ho
    exact ho.next hw he
  · right
    refine ⟨_, hmem, ?_⟩
    intro w hw
    exact offered_addProvider hw (hes _ hmem) hnonempty

/-- The seeded capabilities are observed. -/
theorem observed_seeded (hw : persistedFabric.Reachable w) (backend : SyntheticBackend)
    {c : EndpointClass} (hc : c.HasDirectPath) :
  Observed (providerFor c, capFor c) (seedSynthetic backend w.state).2
  := by
  have hes := seeds_seedCalls backend w.state.epoch
  have hlisted : ∃ o ∈ backend.capabilities, (o.provider, o.capability)
      = (providerFor c, capFor c) := by
    obtain rfl | rfl | rfl := hc
    · exact ⟨_, List.mem_of_getElem? (i := 0) rfl, rfl⟩
    · exact ⟨_, List.mem_of_getElem? (i := 1) rfl, rfl⟩
    · exact ⟨_, List.mem_of_getElem? (i := 2) rfl, rfl⟩
  obtain ⟨o, ho, hkey⟩ := hlisted
  have hmem : .publishCapability (seededCapability w.state.epoch o)
      ∈ seedCalls backend w.state.epoch := by
    simp only [seedCalls, List.mem_append, List.mem_map]
    exact .inr ⟨o, ho, rfl⟩
  rw [seedSynthetic_state, ← hkey]
  apply replay_brings hw hes
  · intro w e hw he ho
    exact ho.next hw he
  · right
    refine ⟨_, hmem, ?_⟩
    intro w hw
    exact observed_publish hw (hes _ hmem)

end

/-- What seeding has put into the coordinator, which was in the state `s`. -/
structure Seeded (seeding : Seeding) (s : State) : Prop where
  frame : SeedFrame s seeding.2
  device : seeding.1.device ≠ 0 ∧ ∃ d, seeding.2.devices.lookup seeding.1.device = some d
  endpoint : ∀ c : EndpointClass, c.HasDirectPath → Placed c (seeding.1.endpoint c) seeding.2
  provider : ∀ c : EndpointClass, c.HasDirectPath → Offered (providerFor c) seeding.2
  capability : ∀ c : EndpointClass, c.HasDirectPath →
    Observed (providerFor c, capFor c) seeding.2

theorem device_seedEndpoints (es : List EndpointRecord) (acc : Seeding) :
  (es.foldl seedEndpoint acc).1.device = acc.1.device
  := by
  induction es generalizing acc with
  | nil => rfl
  | cons e es ih =>
      rw [List.foldl_cons, ih, seedEndpoint]
      split
      · rfl
      · rw [SyntheticSeedResult.withEndpoint]
        dsimp only
        split <;> split <;> split <;> rfl

theorem result_seedCapabilities (epoch : CoordinatorEpoch) (cs : List CapabilityObservation)
    (acc : Seeding) :
  (cs.foldl (seedCapability epoch) acc).1 = acc.1
  := by
  induction cs generalizing acc with
  | nil => rfl
  | cons c cs ih => exact ih _

section

variable {α : Type} {call : α → Event} {step : Seeding → α → Seeding} {as : List α}

/-- Seeding anything but endpoints leaves the endpoints and their limit alone. -/
theorem endpoints_of_calls (hstep : ∀ acc a, (step acc a).2 = apply (call a) acc.2)
    (hseeds : ∀ a ∈ as, Seeds (call a)) (hne : ∀ a p, call a ≠ .addEndpoint p) (acc : Seeding) :
  (as.foldl step acc).2.endpoints = acc.2.endpoints ∧
    (as.foldl step acc).2.maxEndpoints = acc.2.maxEndpoints
  := by
  have hes : ∀ e ∈ as.map call, Seeds e ∧ ∀ p, e ≠ .addEndpoint p := by
    intro e he
    obtain ⟨a, ha, rfl⟩ := List.mem_map.mp he
    exact ⟨hseeds a ha, hne a⟩
  rw [foldl_calls call hstep]
  constructor
  · apply foldl_keeps (f := State.endpoints)
    intro e he
    exact (hes e he).1.endpoints (hes e he).2
  · apply foldl_keeps (f := State.maxEndpoints)
    intro e he s
    exact ((hes e he).1.frame (w := { state := s })).limits.2.2.1

/-- Seeding anything but devices leaves the devices alone. -/
theorem devices_of_calls (hstep : ∀ acc a, (step acc a).2 = apply (call a) acc.2)
    (hseeds : ∀ a ∈ as, Seeds (call a)) (hne : ∀ a p, call a ≠ .addDevice p) (acc : Seeding) :
  (as.foldl step acc).2.devices = acc.2.devices
  := by
  rw [foldl_calls call hstep]
  apply foldl_keeps (f := State.devices)
  intro e he
  obtain ⟨a, ha, rfl⟩ := List.mem_map.mp he
  exact (hseeds a ha).devices (hne a)

end

/-- Where there is room for three endpoints, seeding puts all of it into a reachable state. -/
theorem seeded_of_room {w : World} (hw : persistedFabric.Reachable w) (backend : SyntheticBackend)
    (hroom : w.state.endpoints.size + 3 ≤ w.state.maxEndpoints) :
  Seeded (seedSynthetic backend w.state) w.state
  := by
  have hes := seeds_seedCalls backend w.state.epoch
  have hframe : SeedFrame w.state (seedSynthetic backend w.state).2 := by
    rw [seedSynthetic_state]
    exact seedFrame_replay hes
  have hproviders : ∀ p ∈ backend.providers, Seeds (.addProvider (seededProvider p)) := by
    intro p hp
    apply hes
    simp only [seedCalls, List.mem_append, List.mem_map]
    exact .inl (.inl (.inl ⟨p, hp, rfl⟩))
  have hcapabilities : ∀ c ∈ backend.capabilities,
      Seeds (.publishCapability (seededCapability w.state.epoch c)) := by
    intro c hc
    apply hes
    simp only [seedCalls, List.mem_append, List.mem_map]
    exact .inr ⟨c, hc, rfl⟩
  -- the device is added after the providers, and the endpoints after the device
  obtain ⟨acc₁, hacc₁⟩ : ∃ acc, acc = backend.providers.foldl seedProvider ({}, w.state) :=
    ⟨_, rfl⟩
  obtain ⟨acc₂, hacc₂⟩ : ∃ acc, acc = backend.devices.foldl seedDevice acc₁ := ⟨_, rfl⟩
  obtain ⟨acc₃, hacc₃⟩ : ∃ acc, acc = backend.endpoints.foldl seedEndpoint acc₂ := ⟨_, rfl⟩
  have hlast : seedSynthetic backend w.state
      = backend.capabilities.foldl (seedCapability w.state.epoch) acc₃ := by
    rw [hacc₃, hacc₂, hacc₁]
    rfl
  have hroom₂ : acc₂.2.endpoints.size + 3 ≤ acc₂.2.maxEndpoints := by
    obtain ⟨hendpoints, hmax⟩ := endpoints_of_calls seedProvider_state hproviders
      (fun _ _ h => by cases h) ({}, w.state)
    rw [← hacc₁] at hendpoints hmax
    have hsame : acc₂.2.endpoints = acc₁.2.endpoints ∧
        acc₂.2.maxEndpoints = acc₁.2.maxEndpoints := by
      rw [hacc₂]
      exact ⟨rfl, rfl⟩
    rw [hsame.1, hsame.2, hendpoints, hmax]
    exact hroom
  have hseeded : ∀ c : EndpointClass, c.HasDirectPath → SeededEndpoint c acc₃ := by
    intro c hc
    rw [hacc₃]
    apply seedEndpoints_placed hc
    · simp [SyntheticBackend.endpoints]
    · exact hroom₂
    · right
      obtain rfl | rfl | rfl := hc
      · exact ⟨_, List.mem_of_getElem? (i := 0) rfl, rfl⟩
      · exact ⟨_, List.mem_of_getElem? (i := 1) rfl, rfl⟩
      · exact ⟨_, List.mem_of_getElem? (i := 2) rfl, rfl⟩
  have hdevice : acc₂.1.device ≠ 0 ∧ ∃ d, acc₂.2.devices.lookup acc₂.1.device = some d := by
    rw [hacc₂]
    exact ⟨Nat.succ_ne_zero _, _, AList.lookup_insert _⟩
  have hdevices : acc₃.2.devices = acc₂.2.devices ∧ acc₃.1.device = acc₂.1.device := by
    rw [hacc₃]
    refine ⟨?_, device_seedEndpoints _ _⟩
    apply devices_of_calls seedEndpoint_state
    · intro e _
      exact .endpoint
    · intro _ _ h
      cases h
  constructor
  · exact hframe
  · rw [hlast, result_seedCapabilities, devices_of_calls (seedCapability_state _) hcapabilities
      (fun _ _ h => by cases h), hdevices.1, hdevices.2]
    exact hdevice
  · intro c hc
    obtain ⟨hne, e, he, hrest⟩ := (hseeded c hc).placed
    obtain ⟨hendpoints, -⟩ := endpoints_of_calls (seedCapability_state _) hcapabilities
      (fun _ _ h => by cases h) acc₃
    rw [hlast, result_seedCapabilities]
    refine ⟨hne, e, ?_, hrest⟩
    rw [hendpoints, he]
  · intro c hc
    exact offered_seeded hw backend hc
  · intro c hc
    exact observed_seeded hw backend hc

end GpuDirectFabric
