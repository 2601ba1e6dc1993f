import PolarProxy.EpochIsolation

/-!
# Coalescing the positions of a worker pass

A worker processes its sessions in passes.  During a pass it remembers, for the
first servers it hears of, the highest position it has reported and when; a
position that is not higher, and comes soon after, is accepted without touching
the shared cells.

The steps here are those of `LsnCaches`, with the answer of the worker's memory
filled in.  The counters and lists are traces: how often a shared cell was cleared
or given a time, what the workers stored, and which positions were accepted.
-/

namespace PolarProxy

open Transition

/-- `PolarDB_PassLsnUpdate` -/
structure PassLsnUpdate where
  server : Nat
  writerScope : WriterScope
  maxLsn : Nat
  lastUpdatedAt : Nat
  deriving DecidableEq

/-- `POLARDB_LSN_PASS_CACHE_CAPACITY` -/
def lsnPassCacheCapacity : Nat :=
  16

/-- `POLARDB_LSN_UPDATE_MAX_DELAY_US` -/
def lsnUpdateMaxDelay : Nat :=
  1000

structure WorkerPass where
  /-- `polardb_worker_pass_active` -/
  active : Bool := false
  /-- `polardb_pass_lsn_updates`, up to the count -/
  updates : List PassLsnUpdate := []
  deriving DecidableEq

namespace PassLsnUpdate

/-- The entry is about a server and scope. -/
def isFor (entry : PassLsnUpdate) (server : Nat) (writerScope : WriterScope) : Bool :=
  decide (entry.server = server) && decide (entry.writerScope.Matches writerScope)

/-- An equal or lower position that comes soon. -/
def hides (entry : PassLsnUpdate) (lsn observedAt : Nat) : Bool :=
  !(decide (entry.maxLsn < lsn)) &&
    !(decide (observedAt < entry.lastUpdatedAt) ||
      decide (lsnUpdateMaxDelay ≤ observedAt - entry.lastUpdatedAt))

def note (entry : PassLsnUpdate) (lsn observedAt : Nat) : PassLsnUpdate :=
  { entry with
    maxLsn := if entry.maxLsn < lsn then lsn else entry.maxLsn
    lastUpdatedAt := observedAt }

end PassLsnUpdate

namespace WorkerPass

/-- The loop over the entries: nothing if no entry is about the server and scope. -/
def trackKnown (server lsn : Nat) (writerScope : WriterScope) (observedAt : Nat) :
    List PassLsnUpdate → Option (Bool × List PassLsnUpdate)
  | [] => none
  | entry :: rest =>
      if !entry.isFor server writerScope then
        (trackKnown server lsn writerScope observedAt rest).map fun (due, updates) =>
          (due, entry :: updates)
      else if entry.hides lsn observedAt then some (false, entry :: rest)
      else some (true, entry.note lsn observedAt :: rest)

/-- `polardb_track_server_lsn_update` -/
def trackServerLsnUpdate (pass : WorkerPass) (server lsn : Nat) (writerScope : WriterScope)
    (observedAt : Nat) : Bool × WorkerPass :=
  if !pass.active || lsn = 0 || !decide writerScope.Valid then (true, pass)
  else
    match trackKnown server lsn writerScope observedAt pass.updates with
    | some (due, updates) => (due, { pass with updates := updates })
    | none =>
        if pass.updates.length = lsnPassCacheCapacity then (true, pass)
        else
          (true, { pass with
            updates := pass.updates ++ [⟨server, writerScope, lsn, observedAt⟩] })

end WorkerPass

/-- A position that a worker stored to a shared cell, and how often that cell had
been cleared, or given a time, by then. -/
structure PassStore where
  worker : Nat
  pass : Nat
  server : Nat
  writerScope : WriterScope
  lsn : Nat
  observedAt : Nat
  clears : Nat
  timeWrites : Nat := 0
  deriving DecidableEq

/-- A call that returned true, with the counts at its return. -/
structure AcceptedLsn where
  worker : Nat
  pass : Nat
  server : Nat
  writerScope : WriterScope
  lsn : Nat
  observedAt : Nat
  serverClears : Nat
  groupClears : Nat
  deriving DecidableEq

structure PassCaches where
  caches : LsnCaches
  passes : Nat → WorkerPass := fun _ => {}
  passCount : Nat → Nat := fun _ => 0
  /-- `now_us` of the call a worker is in -/
  observedAt : Nat → Nat := fun _ => 0
  serverClears : Nat → Nat := fun _ => 0
  timeWrites : Nat → Nat := fun _ => 0
  groupClears : Nat → Nat := fun _ => 0
  serverStores : List PassStore := []
  groupStores : List PassStore := []
  accepted : List AcceptedLsn := []

inductive PassEvent
  /-- Any step but those inside a call. -/
  | caches (e : EpochEvent)
  /-- The next step of a call; the clock is read where the call reads it. -/
  | accept (worker now : Nat)
  | beginWorkerPass (worker : Nat)
  | finishWorkerPass (worker : Nat)

/-- Count one more for a cell. -/
def countAt (counts : Nat → Nat) : Option Nat → Nat → Nat
  | none => counts
  | some i => Function.update counts i (counts i + 1)

namespace PassCaches

/-- A call returns true. -/
def acceptedBy (s : PassCaches) (i : Nat) (c : AcceptCall) (observedAt : Nat) : AcceptedLsn :=
  { worker := i, pass := s.passCount i, server := c.srv, writerScope := c.scope, lsn := c.lsn
    observedAt
    serverClears := s.serverClears c.srv, groupClears := s.groupClears c.writer }

/-- One step of a call of `polardb_accept_rfq_server_lsn`. -/
def acceptStep (s : PassCaches) (i : Nat) (c : AcceptCall) (now : Nat) : Option PassCaches :=
  match c.stage with
  | .scoped =>
      if !decide (c.scope.Matches (s.caches.currentScope c.writer)) then
        (s.caches.acceptStep i c false now).map fun caches => { s with caches := caches }
      else
        let tracked := (s.passes i).trackServerLsnUpdate c.srv c.lsn c.scope now
        (s.caches.acceptStep i c (!tracked.1) now).map fun caches =>
          { s with
            caches := caches
            passes := Function.update s.passes i tracked.2
            observedAt := Function.update s.observedAt i now
            accepted := if tracked.1 then s.accepted else s.acceptedBy i c now :: s.accepted }
  | .validated =>
      (s.caches.acceptStep i c false (s.observedAt i)).map fun caches =>
        { s with
          caches := caches
          timeWrites := countAt s.timeWrites (some c.srv)
          serverStores := {
            worker := i, pass := s.passCount i, server := c.srv, writerScope := c.scope
            lsn := c.lsn, observedAt := s.observedAt i, clears := s.serverClears c.srv
            timeWrites := s.timeWrites c.srv + 1 } :: s.serverStores }
  | .advanced =>
      (s.caches.acceptStep i c false (s.observedAt i)).map fun caches =>
        { s with
          caches := caches
          groupStores := {
            worker := i, pass := s.passCount i, server := c.srv, writerScope := c.scope
            lsn := c.lsn, observedAt := s.observedAt i, clears := s.groupClears c.writer } :: s.groupStores }
  | .recorded =>
      (s.caches.acceptStep i c false (s.observedAt i)).map fun caches =>
        { s with
          caches := caches
          accepted := s.acceptedBy i c (s.observedAt i) :: s.accepted }
  | .tracked | .guarded =>
      (s.caches.acceptStep i c false (s.observedAt i)).map fun caches => { s with caches := caches }

/-- A step other than one inside a call. -/
def otherStep (s : PassCaches) (e : EpochEvent) : Option PassCaches :=
  (s.caches.step e).map fun caches =>
    { s with
      caches := caches
      serverClears := countAt s.serverClears (s.caches.clearsServer e)
      groupClears := countAt s.groupClears (s.caches.clearsGroup e)
      timeWrites := countAt s.timeWrites (s.caches.writesTime e) }

/-- One step.  A worker begins and ends a pass outside of any call. -/
def step (s : PassCaches) : PassEvent → Option PassCaches
  | .caches (.acceptStep _ _ _) => none
  | .caches e => s.otherStep e
  | .accept i now => (s.caches.calls i).bind fun c => s.acceptStep i c now
  | .beginWorkerPass i =>
      if (s.caches.calls i).isSome then none
      else
        some { s with
          passes := Function.update s.passes i { active := true }
          passCount := countAt s.passCount (some i) }
  | .finishWorkerPass i =>
      if (s.caches.calls i).isSome then none
      else
        some { s with
          passes := Function.update s.passes i { s.passes i with active := false } }

end PassCaches

end PolarProxy
