import GpuDirectFabric.Server
import GpuDirectFabric.Incarnations

/-!
# Disconnects

The thread of a connection marks the worker dead when the connection is gone.  It does not say
which incarnation of the worker the connection was opened by, so the disconnect of an incarnation
that has been replaced kills the one that has replaced it.
-/

namespace GpuDirectFabric

open Coordinator CoordinatorServer Persistence

/-- The event is the cleaning up after a connection that was not opened by the live incarnation of
its worker. -/
def ServerEvent.ClosesStale (v : Server) (e : ServerEvent) (c : Connection) : Prop :=
  ∃ i, e = .cleanUp i ∧ v.connections[i]? = some c ∧
    ¬v.world.state.LiveIncarnation c.authority.worker c.authority.boot

/-- The table of live workers is unchanged, and so are the registrations that the live incarnation
of the worker owns. -/
structure LiveSpared (worker : WorkerId) (s s' : State) : Prop where
  workers : ∀ k, s'.workers.lookup k = s.workers.lookup k
  registrations : s.registrations.All fun k r =>
    r.authority.worker = worker → s.LiveIncarnation worker r.authority.boot →
      s'.registrations.lookup k = some r

theorem lookup_workers_markWorkerDead (worker : WorkerId) (s : State) (k : WorkerId) :
  (markWorkerDead worker s).2.workers.lookup k = if k = worker then none else s.workers.lookup k
  := by
  rw [markWorkerDead]
  split
  next hk => rw [hk, AList.lookup_erase]
  next hk => rw [AList.lookup_erase_ne hk]

/-- Marking a worker dead spares what is live exactly when the worker is not. -/
theorem markWorkerDead_spares_iff (worker : WorkerId) (s : State) :
  LiveSpared worker s (markWorkerDead worker s).2 ↔ s.workers.lookup worker = none
  := by
  constructor
  · intro h
    rw [← h.workers worker, lookup_workers_markWorkerDead, if_pos rfl]
  · intro hnone
    constructor
    · intro k
      rw [lookup_workers_markWorkerDead]
      split
      next hk => rw [hk, hnone]
      next => rfl
    · rintro k r _ _ ⟨w, hw⟩
      rw [hnone] at hw
      cases hw

theorem Server.next_cleanUp {v : Server} {i : ℕ} {c : Connection}
    (hc : v.connections[i]? = some c) :
  (v.next (.cleanUp i)).world.state = (markWorkerDead c.authority.worker v.world.state).2
  := by
  rw [Server.next, hc]
  rfl

/-- In every run of a server, the closing of stale connections spares the newer incarnations of
their workers, exactly when these workers are not live at all by then. -/
theorem stale_disconnect_iff {h : List (Server × ServerEvent)} {w : Server}
    (hrun : server.Run h w) :
  (∀ v e v', (v, e, v') ∈ System.steps h w → ∀ c, e.ClosesStale v c →
    LiveSpared c.authority.worker v.world.state v'.world.state) ↔
  ∀ v e v', (v, e, v') ∈ System.steps h w → ∀ c, e.ClosesStale v c →
    v.world.state.workers.lookup c.authority.worker = none
  := by
  have hclose : ∀ v e v', (v, e, v') ∈ System.steps h w → ∀ c, e.ClosesStale v c →
      (LiveSpared c.authority.worker v.world.state v'.world.state ↔
        v.world.state.workers.lookup c.authority.worker = none) := by
    rintro v e v' ht c ⟨i, rfl, hc, -⟩
    obtain ⟨-, ⟨-, rfl⟩ | ⟨d, ⟨⟩⟩⟩ := hrun.of_mem_steps ht
    rw [Server.next_cleanUp hc]
    exact markWorkerDead_spares_iff _ _
  constructor
  · intro hspared v e v' ht c hstale
    exact (hclose v e v' ht c hstale).mp (hspared v e v' ht c hstale)
  · intro hnone v e v' ht c hstale
    exact (hclose v e v' ht c hstale).mpr (hnone v e v' ht c hstale)

namespace Fixture

/-- The server to which the worker has connected again, with a higher boot id. -/
def reconnected : Server := connected.next (.handshake (hello 2))

/-- The server at which the first connection has dropped. -/
def dropped : Server := reconnected.next (.hangUp 0)

/-- The run in which the thread of the first connection then cleans up. -/
def disconnected : List (Server × ServerEvent) :=
  [(dropped, .cleanUp 0), (reconnected, .hangUp 0), (connected, .handshake (hello 2)),
    ({ world := { state := Coordinator 1 } }, .handshake (hello 1))]

theorem run_disconnected :
  server.Run disconnected (dropped.next (.cleanUp 0))
  := by
  have hconnected := Server.run_next (Server.run_new 1) (e := .handshake (hello 1)) trivial
  have hreconnected := Server.run_next hconnected (e := .handshake (hello 2)) trivial
  have hdropped := Server.run_next hreconnected (e := .hangUp 0)
    ⟨{ authority := owner }, by decide +kernel, rfl⟩
  exact Server.run_next hdropped
    ⟨{ authority := owner, phase := .closing }, by decide +kernel, rfl⟩

end Fixture

theorem stale_disconnect_fixture :
  (∀ v e v', (v, e, v') ∈ System.steps Fixture.disconnected (Fixture.dropped.next (.cleanUp 0)) →
    ∀ c, e.ClosesStale v c → LiveSpared c.authority.worker v.world.state v'.world.state) ↔
  ∀ v e v', (v, e, v') ∈ System.steps Fixture.disconnected (Fixture.dropped.next (.cleanUp 0)) →
    ∀ c, e.ClosesStale v c → v.world.state.workers.lookup c.authority.worker = none
  := stale_disconnect_iff Fixture.run_disconnected

/-- The disconnect of the first incarnation kills the second one. -/
theorem stale_disconnect_kills :
  server.Run Fixture.disconnected (Fixture.dropped.next (.cleanUp 0)) ∧
  (ServerEvent.cleanUp 0).ClosesStale Fixture.dropped
    { authority := Fixture.owner, phase := .closing } ∧
  Fixture.dropped.world.state.LiveIncarnation 1 2 ∧
  ¬LiveSpared 1 Fixture.dropped.world.state
    (Fixture.dropped.next (.cleanUp 0)).world.state
  := by
  have hlive : Fixture.dropped.world.state.workers.lookup 1 = some (1, 2) := by decide +kernel
  refine ⟨Fixture.run_disconnected, ⟨0, rfl, by decide +kernel, ?_⟩, ⟨1, hlive⟩, ?_⟩
  · rintro ⟨w, hw⟩
    cases hw.symm.trans hlive
  · intro hspared
    have hdead : (Fixture.dropped.next (.cleanUp 0)).world.state.workers.lookup 1 = none := by
      decide +kernel
    rw [hspared.workers, hlive] at hdead
    cases hdead

end GpuDirectFabric
