import GpuDirectFabric.Frames

/-!
# Registration ids

The ids of registrations come from two sources, the backends and the coordinator's own counter,
into one table.  A registration is added without loss exactly when its source has drawn an id
that the table does not hold.
-/

namespace GpuDirectFabric

open Coordinator

/-- The table `t'` holds the registration `r` under a new id, and all registrations of `t`. -/
structure Adds (t t' : Table Registration) (r : Registration) : Prop where
  fresh : t.lookup r.id = none
  added : t'.lookup r.id = some r
  kept : ∀ k, k ≠ r.id → t'.lookup k = t.lookup k

/-- An insertion adds when its key is new. -/
theorem adds_insert_iff {t : Table Registration} {r : Registration} :
  Adds t (t.insert r.id r) r ↔ t.lookup r.id = none
  := by
  constructor
  · intro h
    exact h.fresh
  · intro hfresh
    constructor
    · exact hfresh
    · exact AList.lookup_insert t
    · intro k hk
      exact AList.lookup_insert_ne hk

/-- The id the backend draws for a call of `register_buffer`, or the next one of the
coordinator when it draws none. -/
def drawnId (p : RegisterParams) (backend : Option Backend) (s : State) : RegistrationId :=
  match backendRegister p backend ((s.buffers.lookup p.buffer).getD {})
      ((s.endpoints.lookup p.endpoint).getD {}) with
  | .ok rr => registrationKey rr s
  | .error _ => 0

theorem drawnId_eq {p : RegisterParams} {backend : Option Backend} {buffer : BufferRecord}
    {endpoint : EndpointRecord} {rr : RegisterResult} {s : State}
    (h : Accepted p backend buffer endpoint rr s) :
  drawnId p backend s = registrationKey rr s
  := by
  rw [drawnId, h.buffer, h.endpoint, Option.getD_some, Option.getD_some, h.answer]

/-- In every reachable state a registration that succeeds, and is no duplicate, is added under a
new id with all others left as they are, exactly when the id drawn for it is not in the table. -/
theorem register_adds_iff {w : World} (h : persistedFabric.Reachable w) {p : RegisterParams}
    {backend : Option Backend} {r : Registration}
    (hok : (registerBuffer p backend w.state).1 = .ok r) (hnew : r.duplicated = false) :
  Adds w.state.registrations (registerBuffer p backend w.state).2.registrations r ↔
    w.state.registrations.lookup (drawnId p backend w.state) = none
  := by
  have houtcome := registerBuffer_outcome p backend w.state
  generalize registerBuffer p backend w.state = result at hok houtcome
  cases houtcome with
  | refused => cases hok
  | duplicate =>
      obtain rfl := Except.ok.inj hok
      cases hnew
  | failed => cases hok
  | accepted hretired haccepted =>
      obtain rfl := retires_eq (wellFormed_of_reachable h) hretired
      obtain rfl := Except.ok.inj hok
      rw [drawnId_eq haccepted]
      exact adds_insert_iff

namespace Fixture

/-- The fixture with a second buffer, and the first one registered on a synthetic backend. -/
def shared : World := ({ state := Coordinator 1 } : World).replay (calls.dropLast ++
  [.createBuffer { domain := .cudaDevice, size := 4096, device := 3, authority := owner },
    .registerBuffer { buffer := 6, endpoint := 4, authority := owner }
      (some ({} : SyntheticBackend).toBackend)])

theorem reachable_shared (setting : Setting) :
  (fabric setting World.New).Reachable shared
  := reachable_replay (reachable_new setting 1) rfl

def second : RegisterParams := { buffer := 7, endpoint := 4, authority := owner }

/-- The answer when the second buffer is registered without a backend. -/
def alone : Registration :=
  ((registerBuffer second none shared.state).2.registrations.lookup 8).getD {}

/-- The answer when the second buffer is registered on another synthetic backend. -/
def clash : Registration :=
  ((registerBuffer second (some ({} : SyntheticBackend).toBackend)
    shared.state).2.registrations.lookup 1).getD {}

end Fixture

theorem register_adds_fixture :
  Adds Fixture.shared.state.registrations
      (registerBuffer Fixture.second none Fixture.shared.state).2.registrations Fixture.alone ↔
    Fixture.shared.state.registrations.lookup (drawnId Fixture.second none Fixture.shared.state)
      = none
  := register_adds_iff (Fixture.reachable_shared _) (by decide +kernel) (by decide +kernel)

/-- Two synthetic backends draw the same id, and the second registration replaces the first. -/
theorem register_overwrites :
  persistedFabric.Reachable Fixture.shared ∧
  (registerBuffer Fixture.second (some ({} : SyntheticBackend).toBackend) Fixture.shared.state).1
    = .ok Fixture.clash ∧
  Fixture.clash.duplicated = false ∧
  ¬Adds Fixture.shared.state.registrations
    (registerBuffer Fixture.second (some ({} : SyntheticBackend).toBackend)
      Fixture.shared.state).2.registrations Fixture.clash
  := by
  refine ⟨Fixture.reachable_shared _, by decide +kernel, by decide +kernel, ?_⟩
  intro h
  have hheld : (Fixture.shared.state.registrations.lookup Fixture.clash.id).isSome = true := by
    decide +kernel
  rw [h.fresh] at hheld
  cases hheld

end GpuDirectFabric
