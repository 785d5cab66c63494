import GpuDirectFabric.Library.Reads
import GpuDirectFabric.Server
import Mathlib.Data.Multiset.Basic

/-!
# Queries

A connection whose handshake names no worker is served by a thread that answers queries.  It reads
the registrations and then the live workers, each under the lock of the coordinator, and sends both
in one reply.  The lock is free between the two reads, so that a call of another thread may fall
between them.
-/

namespace GpuDirectFabric

open Codec Persistence

namespace Coordinator

/-- The registrations, in the order of their ids. -/
def registrations (s : State) : List Registration := sortedById Registration.id s.registrations

/-- The live workers with their boot ids, in traversal order. -/
def liveWorkers (s : State) : List (WorkerId × WorkerBootId) := s.workers.values

end Coordinator

namespace CoordinatorServer

/-- What a reply says of a registration. -/
def putRegistration (r : Registration) : Bytes :=
  [putU64 r.id, putU64 r.buffer, putU64 r.endpoint, putLE 1 (CEnum.toU32 r.state),
    putLE 1 (if r.authority.workerOwned then 1 else 0)].flatten

/-- The reply of `send_state`, with the registrations and the workers that it has read. -/
def sendState (regs : List Registration) (workers : List (WorkerId × WorkerBootId)) : Frame :=
  { type := .ack
    payload := [putLE 1 0, putU32 regs.length, (regs.map putRegistration).flatten,
      putU32 workers.length, (workers.map fun w => putU64 w.1 ++ putU64 w.2).flatten].flatten }

end CoordinatorServer

open CoordinatorServer Coordinator

/-! ### The threads of queries -/

/-- How far the thread of a query connection is: it waits for a frame, has been asked for the state,
has read the registrations, has the reply to send, or has closed the connection. -/
inductive QueryPhase where
  | receiving
  | asked
  | listed (regs : List Registration)
  | answering (reply : Frame)
  | closed
deriving DecidableEq

/-- A server with the threads of its query connections, the latest one last. -/
structure QueryServer where
  base : Server
  queries : List QueryPhase := []

/-- The state of the coordinator. -/
def QueryServer.state (v : QueryServer) : State := v.base.world.state

/-- What can happen at a server with query connections: anything that happens at the server, a frame
for a query thread, the two reads and the reply of one, and the end of its frames. -/
inductive QueryEvent where
  | server (e : ServerEvent)
  | receive (i : ℕ) (f : Frame)
  | readRegistrations (i : ℕ)
  | readWorkers (i : ℕ)
  | reply (i : ℕ) (sent : Bool)
  | hangUp (i : ℕ)

namespace QueryServer

/-- The thread `i` has come to another phase. -/
def withPhase (v : QueryServer) (i : ℕ) (phase : QueryPhase) : QueryServer :=
  { v with queries := v.queries.set i phase }

/-- The query threads that an event of the server starts. -/
def opens (v : QueryServer) : ServerEvent → List QueryPhase
  | .handshake hf =>
    match (handshake hf v.state).1 with
    | .query => [.receiving]
    | _ => []
  | _ => []

/-- The server after an event.  A frame other than `QUERY_STATE` is refused, and the thread waits
for the next one. -/
def next (v : QueryServer) : QueryEvent → QueryServer
  | .server e => { base := v.base.next e, queries := v.queries ++ v.opens e }
  | .receive i f => v.withPhase i (if f.type = .queryState then .asked else .receiving)
  | .readRegistrations i => v.withPhase i (.listed (registrations v.state))
  | .readWorkers i =>
    match v.queries[i]? with
    | some (.listed regs) => v.withPhase i (.answering (sendState regs (liveWorkers v.state)))
    | _ => v
  | .reply i sent => v.withPhase i (if sent then .receiving else .closed)
  | .hangUp i => v.withPhase i .closed

end QueryServer

namespace QueryEvent

/-- The event may happen. -/
def Enabled (v : QueryServer) : QueryEvent → Prop
  | .server e => e.Enabled v.base
  | .receive i _ => v.queries[i]? = some .receiving
  | .readRegistrations i => v.queries[i]? = some .asked
  | .readWorkers i => ∃ regs, v.queries[i]? = some (.listed regs)
  | .reply i _ => ∃ reply, v.queries[i]? = some (.answering reply)
  | .hangUp i => v.queries[i]? = some .receiving

/-- The event asks the thread `i` for the state. -/
def asks (i : ℕ) : QueryEvent → Bool
  | .receive j f => j = i && f.type = .queryState
  | _ => false

/-- The event is the first read of the thread `i`. -/
def readsRegistrations (i : ℕ) : QueryEvent → Bool
  | .readRegistrations j => j = i
  | _ => false

/-- The event is the second read of the thread `i`. -/
def readsWorkers (i : ℕ) : QueryEvent → Bool
  | .readWorkers j => j = i
  | _ => false

end QueryEvent

/-- The servers of new coordinators, with their query connections. -/
def queryServer : System QueryServer QueryEvent where
  start v := World.New v.base.world ∧ v.base.connections = [] ∧ v.queries = []
  step v e v' := e.Enabled v ∧ v' = v.next e
  handover _ _ _ _ := False

/-! ### Spans of queries -/

/-- The worlds between the two reads of the latest reply of the thread `i`. -/
def readSpan (i : ℕ) (h : List (QueryServer × QueryEvent)) : List QueryServer :=
  System.since (QueryEvent.readsRegistrations i) (System.upTo (QueryEvent.readsWorkers i) h)

/-- What the phase of the thread `i` says of the history `h`: what it has read are parts of worlds
since it was asked. -/
def Tracked (i : ℕ) (h : List (QueryServer × QueryEvent)) : QueryPhase → Prop
  | .listed regs =>
    ∃ v, (System.since (QueryEvent.readsRegistrations i) h).getLast? = some v ∧
      System.since (QueryEvent.readsRegistrations i) h ⊆ System.since (QueryEvent.asks i) h ∧
      regs = registrations v.state
  | .answering reply =>
    ∃ v w ws, readSpan i h = w :: ws ∧ (w :: ws).getLast? = some v ∧
      w :: ws ⊆ System.since (QueryEvent.asks i) h ∧
      reply = sendState (registrations v.state) (liveWorkers w.state)
  | _ => True

/-- The event is none of those that the thread `i` tracks. -/
structure QueryEvent.Spares (i : ℕ) (e : QueryEvent) : Prop where
  asks : e.asks i = false
  readsRegistrations : e.readsRegistrations i = false
  readsWorkers : e.readsWorkers i = false

/-- What an event makes of the phase of the thread `i`. -/
inductive Advances (i : ℕ) (v : QueryServer) : QueryEvent → QueryPhase → Prop
  | spared {e : QueryEvent} {phase : QueryPhase} (hphase : v.queries[i]? = some phase)
      (he : e.Spares i) : Advances i v e phase
  | untracked {e : QueryEvent} {phase : QueryPhase} (h : ∀ h, Tracked i h phase) :
      Advances i v e phase
  | listed : Advances i v (.readRegistrations i) (.listed (registrations v.state))
  | answering {regs : List Registration} (hregs : v.queries[i]? = some (.listed regs)) :
      Advances i v (.readWorkers i) (.answering (sendState regs (liveWorkers v.state)))

/-- The threads other than the one that an event moves stay in their phases. -/
theorem advances_of_withPhase {v : QueryServer} {i j : ℕ} {e : QueryEvent}
    {phase phase' : QueryPhase} (hphase : (v.withPhase j phase').queries[i]? = some phase)
    (hother : j ≠ i → e.Spares i) (hself : j = i → Advances i v e phase') :
  Advances i v e phase
  := by
  by_cases hj : j = i
  · rw [hj, QueryServer.withPhase, List.getElem?_set_self'] at hphase
    obtain ⟨_, -, rfl⟩ := Option.map_eq_some_iff.mp hphase
    exact hself hj
  · rw [QueryServer.withPhase, List.getElem?_set_ne hj] at hphase
    exact .spared hphase (hother hj)

theorem advances_of_next {v : QueryServer} {e : QueryEvent} (he : e.Enabled v) {i : ℕ}
    {phase : QueryPhase} (hphase : (v.next e).queries[i]? = some phase) :
  Advances i v e phase
  := by
  cases e with
  | server e =>
      rw [QueryServer.next, List.getElem?_append] at hphase
      split at hphase
      next => exact .spared hphase ⟨rfl, rfl, rfl⟩
      next =>
        have hopened : phase = .receiving := by
          have hmem := List.mem_of_getElem? hphase
          rw [QueryServer.opens.eq_def] at hmem
          split at hmem
          next =>
            split at hmem
            next => exact List.mem_singleton.mp hmem
            next => cases hmem
          next => cases hmem
        rw [hopened]
        exact .untracked fun _ => trivial
  | receive j f =>
      apply advances_of_withPhase hphase
      · intro hj
        exact ⟨by simp [QueryEvent.asks, hj], rfl, rfl⟩
      · intro
        split
        · exact .untracked fun _ => trivial
        · exact .untracked fun _ => trivial
  | readRegistrations j =>
      apply advances_of_withPhase hphase
      · intro hj
        exact ⟨rfl, by simp [QueryEvent.readsRegistrations, hj], rfl⟩
      · rintro rfl
        exact .listed
  | readWorkers j =>
      obtain ⟨regs, hregs⟩ := he
      rw [QueryServer.next, hregs] at hphase
      apply advances_of_withPhase hphase
      · intro hj
        exact ⟨rfl, rfl, by simp [QueryEvent.readsWorkers, hj]⟩
      · rintro rfl
        exact .answering hregs
  | reply j sent =>
      apply advances_of_withPhase hphase
      · intro
        exact ⟨rfl, rfl, rfl⟩
      · intro
        split
        · exact .untracked fun _ => trivial
        · exact .untracked fun _ => trivial
  | hangUp j =>
      apply advances_of_withPhase hphase
      · intro
        exact ⟨rfl, rfl, rfl⟩
      · intro
        exact .untracked fun _ => trivial

/-- An event that the thread does not track extends the spans of its reads. -/
theorem Tracked.spared {i : ℕ} {h : List (QueryServer × QueryEvent)} {phase : QueryPhase}
    {v : QueryServer} {e : QueryEvent} (ht : Tracked i h phase) (he : e.Spares i) :
  Tracked i ((v, e) :: h) phase
  := by
  cases phase with
  | listed regs =>
      obtain ⟨first, hfirst, hsince, hregs⟩ := ht
      refine ⟨first, ?_, ?_, hregs⟩
      · rw [System.since_of_not he.readsRegistrations, List.getLast?_cons, hfirst]
        rfl
      · rw [System.since_of_not he.readsRegistrations, System.since_of_not he.asks]
        exact List.cons_subset_cons v hsince
  | answering reply =>
      obtain ⟨first, last, ws, hspan, hfirst, hsince, hreply⟩ := ht
      refine ⟨first, last, ws, ?_, hfirst, ?_, hreply⟩
      · rw [readSpan, System.upTo_of_not he.readsWorkers, ← readSpan, hspan]
      · rw [System.since_of_not he.asks]
        exact List.subset_cons_of_subset v hsince
  | _ => trivial

/-- The second read ends the span of the reads. -/
theorem Tracked.answering {i : ℕ} {h : List (QueryServer × QueryEvent)} {regs : List Registration}
    (v : QueryServer) (ht : Tracked i h (.listed regs)) :
  Tracked i ((v, .readWorkers i) :: h) (.answering (sendState regs (liveWorkers v.state)))
  := by
  obtain ⟨first, hfirst, hsince, rfl⟩ := ht
  have hread : (QueryEvent.readWorkers i).readsWorkers i = true := by simp [QueryEvent.readsWorkers]
  refine ⟨first, v, System.since (QueryEvent.readsRegistrations i) h, ?_, ?_, ?_, rfl⟩
  · rw [readSpan, System.upTo_of_event hread, System.since_of_not rfl]
  · rw [List.getLast?_cons, hfirst]
    rfl
  · rw [System.since_of_not rfl]
    exact List.cons_subset_cons v hsince

theorem tracked_of_run {h : List (QueryServer × QueryEvent)} {w : QueryServer}
    (hrun : queryServer.Run h w) {i : ℕ} {phase : QueryPhase}
    (hphase : w.queries[i]? = some phase) :
  Tracked i h phase
  := by
  induction hrun generalizing phase with
  | start hw =>
      rw [hw.2.2] at hphase
      cases hphase
  | step hrun hs ih =>
      obtain ⟨he, rfl⟩ := hs
      cases advances_of_next he hphase with
      | spared hphase hspares => exact (ih hphase).spared hspares
      | untracked htracked => exact htracked _
      | listed =>
          refine ⟨_, ?_, ?_, rfl⟩
          · rw [System.since_of_event (by simp [QueryEvent.readsRegistrations])]
            rfl
          · rw [System.since_of_event (by simp [QueryEvent.readsRegistrations]),
              System.since_of_not rfl]
            exact List.cons_subset_cons _ (List.nil_subset _)
      | answering hregs => exact (ih hregs).answering _
  | handover _ _ hs => exact hs.elim

/-! ### Replies -/

/-- The reply says the registrations and the live workers of the state, the latter in any order. -/
def SaysState (reply : Frame) (s : State) : Prop :=
  ∃ workers, workers.Perm (liveWorkers s) ∧ reply = sendState (registrations s) workers

/-- No step between the two reads of the thread `i` changes the live workers and leaves other
registrations than those that were read. -/
def ReadsApart (i : ℕ) (h : List (QueryServer × QueryEvent)) : Prop :=
  ∀ v, (readSpan i h).getLast? = some v →
    System.Leaves (fun w => registrations w.state)
      (fun w : QueryServer => Multiset.ofList (liveWorkers w.state)) (registrations v.state)
      (readSpan i h)

/-- In every run of a server, a reply says the registrations of a state since the request and the
live workers of one, and both of one state when the reads are apart. -/
theorem query_reply {h : List (QueryServer × QueryEvent)} {w : QueryServer}
    (hrun : queryServer.Run h w) {i : ℕ} {reply : Frame}
    (hreply : w.queries[i]? = some (.answering reply)) :
  (∃ u ∈ System.since (QueryEvent.asks i) h, ∃ v ∈ System.since (QueryEvent.asks i) h,
    reply = sendState (registrations u.state) (liveWorkers v.state)) ∧
  (ReadsApart i h → ∃ v ∈ System.since (QueryEvent.asks i) h, SaysState reply v.state)
  := by
  obtain ⟨first, last, ws, hspan, hfirst, hsince, rfl⟩ := tracked_of_run hrun hreply
  constructor
  · exact ⟨first, hsince (List.mem_of_getLast? hfirst), last, hsince List.mem_cons_self, rfl⟩
  · intro hapart
    rw [ReadsApart, hspan] at hapart
    obtain ⟨v, hv, hregs, hworkers⟩ := (hapart first hfirst).common hfirst
    refine ⟨v, hsince hv, _, (Multiset.coe_eq_coe.mp hworkers).symm, ?_⟩
    rw [hregs]

/-- An event that may happen takes a run on. -/
theorem QueryServer.run_next {h : List (QueryServer × QueryEvent)} {v : QueryServer}
    (hrun : queryServer.Run h v) {e : QueryEvent} (he : e.Enabled v) :
  queryServer.Run ((v, e) :: h) (v.next e)
  := hrun.step ⟨he, rfl⟩

/-- A single worker is said in one way. -/
theorem SaysState.eq {reply : Frame} {s : State} (h : SaysState reply s)
    (hlength : (liveWorkers s).length ≤ 1) :
  reply = sendState (registrations s) (liveWorkers s)
  := by
  obtain ⟨workers, hperm, rfl⟩ := h
  cases hworkers : liveWorkers s with
  | nil => rw [hworkers] at hperm; rw [hperm.eq_nil]
  | cons w ws =>
      rw [hworkers] at hperm hlength
      obtain rfl := List.length_eq_zero_iff.mp (Nat.le_zero.mp (Nat.le_of_succ_le_succ hlength))
      rw [List.perm_singleton.mp hperm]

namespace Fixture

/-- The handshake of a client that asks for the state. -/
def queryHello : Frame :=
  { type := .hello, payload := [putU64 0, putU64 0, putU64 0].flatten }

/-- The server to which a worker has connected, and then that client. -/
def queried : QueryServer :=
  (({ base := { world := { state := Coordinator 1 } } } : QueryServer).next
    (.server (.handshake (hello 1)))).next (.server (.handshake queryHello))

/-- The calls that register a buffer of the worker. -/
def registering : List Event :=
  [.addEndpoint { endpointClass := .nic, healthy := true, support := .real },
    .createBuffer { domain := .cudaDevice, size := 4096, authority := owner },
    .registerBuffer { buffer := 3, endpoint := 2, authority := owner, support := .real } none]

/-- The server after these calls. -/
def holding : QueryServer :=
  registering.foldl (fun v e => v.next (.server (.call e))) queried

/-- The thread has been asked for the state. -/
def askedState : QueryServer := holding.next (.receive 0 { type := .queryState, payload := [] })

/-- The thread has read the registrations. -/
def listed : QueryServer := askedState.next (.readRegistrations 0)

/-- The connection of the worker drops then. -/
def severed : QueryServer := listed.next (.server (.hangUp 0))

/-- The worker is marked dead before the thread reads the live workers. -/
def bereft : QueryServer := severed.next (.server (.cleanUp 0))

/-- The run that leads to the request. -/
theorem run_holding :
  ∃ h, queryServer.Run h holding
  := by
  have hstart : queryServer.Run [] { base := { world := { state := Coordinator 1 } } } :=
    .start ⟨⟨1, rfl⟩, rfl, rfl⟩
  have hconnected := QueryServer.run_next hstart (e := .server (.handshake (hello 1))) trivial
  have hqueried := QueryServer.run_next hconnected (e := .server (.handshake queryHello)) trivial
  have hcalls : ∀ es : List Event, es.all Event.isCall = true → ∀ {h v}, queryServer.Run h v →
      ∃ h', queryServer.Run h' (es.foldl (fun v e => v.next (.server (.call e))) v) := by
    intro es hes
    induction es with
    | nil => exact fun hrun => ⟨_, hrun⟩
    | cons e es ih =>
        intro h v hrun
        rw [List.all_cons, Bool.and_eq_true] at hes
        apply ih hes.2 (QueryServer.run_next hrun (e := .server (.call e)) _)
        refine ⟨?_, Event.allowed_of_isCall hes.1⟩
        rintro file rfl
        cases hes.1
  exact hcalls registering rfl hqueried

/-- The history of the first read after a history `h`. -/
def reading (h : List (QueryServer × QueryEvent)) : List (QueryServer × QueryEvent) :=
  (askedState, .readRegistrations 0) ::
    (holding, .receive 0 { type := .queryState, payload := [] }) :: h

theorem run_listed {h : List (QueryServer × QueryEvent)} (hrun : queryServer.Run h holding) :
  queryServer.Run (reading h) listed
  := by
  have hasked := QueryServer.run_next hrun
    (e := .receive 0 { type := .queryState, payload := [] })
    (by change _ = _; decide +kernel)
  exact QueryServer.run_next hasked (e := .readRegistrations 0) (by change _ = _; decide +kernel)

/-- The history in which the death of the worker falls between the reads. -/
def torn (h : List (QueryServer × QueryEvent)) : List (QueryServer × QueryEvent) :=
  (bereft, .readWorkers 0) :: (severed, .server (.cleanUp 0)) ::
    (listed, .server (.hangUp 0)) :: reading h

theorem run_torn {h : List (QueryServer × QueryEvent)} (hrun : queryServer.Run h holding) :
  queryServer.Run (torn h) (bereft.next (.readWorkers 0))
  := by
  have hsevered := QueryServer.run_next (run_listed hrun) (e := .server (.hangUp 0))
    ⟨{ authority := owner }, by decide +kernel, rfl⟩
  have hbereft := QueryServer.run_next hsevered (e := .server (.cleanUp 0))
    ⟨{ authority := owner, phase := .closing }, by decide +kernel, rfl⟩
  exact QueryServer.run_next hbereft (e := .readWorkers 0)
    ⟨registrations holding.state, by decide +kernel⟩

end Fixture

/-- Nothing falls between the reads of the reply. -/
theorem query_reply_fixture :
  ∃ h, queryServer.Run h (Fixture.listed.next (.readWorkers 0)) ∧
    ∃ v ∈ System.since (QueryEvent.asks 0) h,
      SaysState (sendState (registrations Fixture.holding.state)
        (liveWorkers Fixture.holding.state)) v.state
  := by
  obtain ⟨h, hrun⟩ := Fixture.run_holding
  have hread := QueryServer.run_next (Fixture.run_listed hrun) (e := .readWorkers 0)
    ⟨registrations Fixture.holding.state, by decide +kernel⟩
  refine ⟨_, hread, (query_reply hread (by decide +kernel)).2 ?_⟩
  have hspan : readSpan 0 ((Fixture.listed, .readWorkers 0) :: Fixture.reading h)
      = [Fixture.listed, Fixture.askedState] := rfl
  have hstate : ∀ u ∈ [Fixture.listed, Fixture.askedState], u.state = Fixture.holding.state := by
    intro u hu
    obtain rfl | hu := List.mem_cons.mp hu
    · rfl
    · rw [List.mem_singleton.mp hu]
      rfl
  rw [ReadsApart, hspan]
  intro v _ u u' hstep hchanged
  apply absurd _ hchanged
  dsimp only
  rw [hstate u (hstep.subset (by simp)), hstate u' (hstep.subset (by simp))]

/-- The registration in the reply is in force, and its worker is not in it; no state since the
request is like that. -/
theorem query_reply_torn :
  ∃ h reply, queryServer.Run h (Fixture.bereft.next (.readWorkers 0)) ∧
    (Fixture.bereft.next (.readWorkers 0)).queries[0]? = some (.answering reply) ∧
    ∀ v ∈ System.since (QueryEvent.asks 0) h, ¬SaysState reply v.state
  := by
  obtain ⟨h, hrun⟩ := Fixture.run_holding
  refine ⟨_, sendState (registrations Fixture.holding.state) [], Fixture.run_torn hrun,
    by decide +kernel, ?_⟩
  have hsince : System.since (QueryEvent.asks 0) (Fixture.torn h)
      = [Fixture.bereft, Fixture.severed, Fixture.listed, Fixture.askedState, Fixture.holding] :=
    rfl
  have hother : ∀ v ∈ [Fixture.bereft, Fixture.severed, Fixture.listed, Fixture.askedState,
      Fixture.holding], (liveWorkers v.state).length ≤ 1 ∧
        sendState (registrations Fixture.holding.state) []
          ≠ sendState (registrations v.state) (liveWorkers v.state) := by
    decide +kernel
  rw [hsince]
  intro v hv hstate
  obtain ⟨hlength, hne⟩ := hother v hv
  exact hne (hstate.eq hlength)

end GpuDirectFabric
