import GpuDirectFabric.Directories
import GpuDirectFabric.Queries
import GpuDirectFabric.References
import Mathlib.Data.List.Lex
import Mathlib.Data.Prod.Lex

/-!
# Listings

The coordinator shows its tables as lists of copies, sorted by the ids of the records, and the
capabilities sorted by the names of the provider and the capability.  In every reachable state a
listing holds each stored record once, in strictly increasing order, so it is determined by what is
stored and does not show the order in which a hash map is traversed.
-/

namespace GpuDirectFabric

open Persistence

namespace Coordinator

/-- `buffers`, by id. -/
def buffers (s : State) : List BufferRecord := sortedById BufferRecord.id s.buffers

/-- `get_buffer`. -/
def getBuffer (id : BufferId) (s : State) : Result BufferRecord :=
  match s.buffers.lookup id with
  | none => err .notFound "buffer not found"
  | some b => .ok b

def devices (s : State) : List DeviceRecord := sortedById DeviceRecord.id s.devices

def endpoints (s : State) : List EndpointRecord := sortedById EndpointRecord.id s.endpoints

def nics (s : State) : List NicRecord := sortedById NicRecord.id s.nics

def storageEndpoints (s : State) : List StorageEndpointRecord :=
  sortedById StorageEndpointRecord.id s.storage

def providers (s : State) : List ProviderInfo := sortedById ProviderInfo.id s.providers

/-- Strings are compared byte by byte, the bytes as unsigned numbers. -/
def strLess (a b : Str) : Bool := a.map UInt8.toNat < b.map UInt8.toNat

/-- The comparison `capabilities` sorts by. -/
def capabilityLess (a b : CapabilityObservation) : Bool :=
  if a.provider != b.provider then strLess a.provider b.provider
  else strLess a.capability b.capability

/-- `capabilities`, by provider and capability. -/
def capabilities (s : State) : List CapabilityObservation :=
  s.capabilities.values.insertionSort fun a b => !capabilityLess b a

def plans (s : State) : List TransferPlan := sortedById TransferPlan.id s.plans

def attempts (s : State) : List TransferAttempt := sortedById TransferAttempt.id s.attempts

def receipts (s : State) : List TransferReceipt :=
  sortedById TransferReceipt.attemptId s.receipts

/-- `latest_receipt`. -/
def latestReceipt (attempt : TransferAttemptId) (s : State) : Result TransferReceipt :=
  match s.receipts.lookup attempt with
  | none => err .notFound "no receipt for attempt"
  | some r => .ok r

end Coordinator

/-! ### The order of capabilities -/

/-- The place of a capability in the listing. -/
def CapabilityObservation.place (c : CapabilityObservation) : List ℕ ×ₗ List ℕ :=
  toLex (c.provider.map UInt8.toNat, c.capability.map UInt8.toNat)

/-- Strings with the same numbers are the same. -/
theorem toNat_map_injective :
  Function.Injective fun a : Str => a.map UInt8.toNat
  := List.map_injective_iff.mpr fun _ _ => UInt8.toNat_inj.mp

/-- The comparison is that of the places of observations. -/
theorem capabilityLess_iff (a b : CapabilityObservation) :
  Coordinator.capabilityLess a b = true ↔ a.place < b.place
  := by
  rw [Coordinator.capabilityLess, CapabilityObservation.place, CapabilityObservation.place,
    Prod.Lex.toLex_lt_toLex]
  by_cases hprovider : a.provider = b.provider
  · simp [hprovider, Coordinator.strLess]
  · have hne : a.provider.map UInt8.toNat ≠ b.provider.map UInt8.toNat :=
      fun heq => hprovider (toNat_map_injective heq)
    simp [hprovider, hne, Coordinator.strLess]

/-- The listing of capabilities is in the order of their places. -/
theorem capabilities_eq_listing (s : State) :
  Coordinator.capabilities s = s.capabilities.listing CapabilityObservation.place
  := by
  rw [Coordinator.capabilities, Table.listing]
  congr 1
  funext a b
  rw [Bool.not_eq_true', ← Bool.not_eq_true, capabilityLess_iff, not_lt]

/-- The place of an observation is that of its provider and capability. -/
theorem place_injective {a b : CapabilityObservation} (h : a.place = b.place) :
  a.key = b.key
  := by
  obtain ⟨hprovider, hcapability⟩ := Prod.mk.inj (toLex_inj.mp h)
  rw [CapabilityObservation.key, CapabilityObservation.key, toNat_map_injective hprovider,
    toNat_map_injective hcapability]

/-! ### Reachable states -/

/-- The listings of a state hold what is stored, in order. -/
structure ListingsCanonical (s : State) : Prop where
  buffers : s.buffers.Lists BufferRecord.id (Coordinator.buffers s)
  devices : s.devices.Lists DeviceRecord.id (Coordinator.devices s)
  endpoints : s.endpoints.Lists EndpointRecord.id (Coordinator.endpoints s)
  nics : s.nics.Lists NicRecord.id (Coordinator.nics s)
  storageEndpoints : s.storage.Lists StorageEndpointRecord.id (Coordinator.storageEndpoints s)
  providers : s.providers.Lists ProviderInfo.id (Coordinator.providers s)
  capabilities : s.capabilities.Lists CapabilityObservation.place (Coordinator.capabilities s)
  registrations : s.registrations.Lists Registration.id (Coordinator.registrations s)
  plans : s.plans.Lists TransferPlan.id (Coordinator.plans s)
  attempts : s.attempts.Lists TransferAttempt.id (Coordinator.attempts s)
  receipts : s.receipts.Lists TransferReceipt.attemptId (Coordinator.receipts s)

/-- What a listing shows under an id is what is found by that id. -/
structure FoundById (s : State) : Prop where
  getBuffer : ∀ id b, Coordinator.getBuffer id s = .ok b ↔ b ∈ Coordinator.buffers s ∧ b.id = id
  latestReceipt : ∀ id r,
    Coordinator.latestReceipt id s = .ok r ↔ r ∈ Coordinator.receipts s ∧ r.attemptId = id

/-- Each listing holds the values of its table, in order. -/
theorem listings_of_named {s : State} (hwf : WellFormed s) (hnamed : DirectoryNamed s)
    (hreferences : ReferencesResolve s) :
  ListingsCanonical s
  where
  buffers := (Table.All.named (hwf.buffers.mono fun _ _ hb => hb.1)).lists_listing
  devices := (Table.All.named hwf.devices).lists_listing
  endpoints := (Table.All.named (hwf.endpoints.mono fun _ _ he => he.1)).lists_listing
  nics := (Table.All.named hwf.nics).lists_listing
  storageEndpoints := (Table.All.named hwf.storage).lists_listing
  providers := (Table.All.named hwf.providers).lists_listing
  capabilities := by
    rw [capabilities_eq_listing]
    apply Table.Named.lists_listing
    intro k k' c c' hc hc' hplace
    apply hnamed.capabilities k k' c c' hc hc' (place_injective hplace)
  registrations := (Table.All.named (hwf.registrations.mono fun _ _ hr => hr.1)).lists_listing
  plans := (Table.All.named (hwf.plans.mono fun _ _ hp => hp.1)).lists_listing
  attempts := (Table.All.named (hwf.attempts.mono fun _ _ ha => ha.1)).lists_listing
  receipts := (Table.All.named (hreferences.receipts.mono fun _ _ hr => hr.1)).lists_listing

/-- A record stored under its id is found by it exactly when the listing shows it. -/
theorem lookup_iff_listed {V : Type} {id : V → ℕ} {t : Table V} {l : List V}
    (hkey : t.All fun k v => id v = k) (hl : t.Lists id l) (k : ℕ) (v : V) :
  t.lookup k = some v ↔ v ∈ l ∧ id v = k
  := by
  rw [hl.mem]
  constructor
  · intro hv
    use ⟨k, hv⟩, hkey k v hv
  · rintro ⟨⟨k', hv⟩, rfl⟩
    rw [hkey k' v hv, hv]

/-- A record is found under an id exactly when a listing shows it. -/
theorem foundById_of_listings {s : State} (hwf : WellFormed s) (hreferences : ReferencesResolve s)
    (hlistings : ListingsCanonical s) :
  FoundById s
  where
  getBuffer := by
    intro id b
    rw [← lookup_iff_listed (hwf.buffers.mono fun _ _ hb => hb.1) hlistings.buffers,
      Coordinator.getBuffer]
    cases hb : s.buffers.lookup id with
    | none =>
        constructor
        · rintro ⟨⟩
        · rintro ⟨⟩
    | some b' =>
        constructor
        · rintro ⟨⟩
          rfl
        · rintro ⟨⟩
          rfl
  latestReceipt := by
    intro id r
    rw [← lookup_iff_listed (hreferences.receipts.mono fun _ _ hr => hr.1) hlistings.receipts,
      Coordinator.latestReceipt]
    cases hr : s.receipts.lookup id with
    | none =>
        constructor
        · rintro ⟨⟩
        · rintro ⟨⟩
    | some r' =>
        constructor
        · rintro ⟨⟩
          rfl
        · rintro ⟨⟩
          rfl

theorem listings_of_reachable {w : World} (h : persistedFabric.Reachable w) :
  ListingsCanonical w.state
  := by
  obtain ⟨hwf, hreferences⟩ := resolves_of_reachable h
  apply listings_of_named hwf (directoryNamed_of_reachable h) hreferences

/-- In every reachable state each listing holds exactly the stored records, each once, strictly
increasing by id, the capabilities by the names of provider and capability; and a record is found by
an id exactly when the listing shows it under that id. -/
theorem listings_canonical {w : World} (h : persistedFabric.Reachable w) :
  ListingsCanonical w.state ∧ FoundById w.state
  := by
  obtain ⟨hwf, hreferences⟩ := resolves_of_reachable h
  have hlistings := listings_of_reachable h
  apply And.intro hlistings (foundById_of_listings hwf hreferences hlistings)

theorem listings_canonical_begun :
  ListingsCanonical Fixture.begun.state ∧ FoundById Fixture.begun.state
  := listings_canonical (Fixture.reachable_begun _)

end GpuDirectFabric
