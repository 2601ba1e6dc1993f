import PolarProxy.PoolSystem

/-!
# Waking the worker of a reservation

A thread that reserved a connection for another worker routes a wake to it.  The
wake goes into a queue of the worker, and a byte into its pipe unless a byte is
under way.  A worker that does not take wakes any more, or a pipe that cannot be
written, refuses the wake; its reservation is then cancelled, which may reserve the
connection for the next worker and give a wake for that one.

The queue is written under the mutex of the handler and that of the worker; the
worker clears the flag of the pipe before it takes its own mutex.  So a wake is
queued in two steps, `queueWake` and `writePipe`, and a worker drains in two,
`beginDrain` and `swapWakes`; other threads may step in between as far as the
mutexes let them.
-/

namespace PolarProxy

open Transition

/-- `PolarDB_ReaderPoolReservationWake` -/
structure ReservationWake where
  workerIndex : Nat
  token : Nat
  server : Nat
  deriving DecidableEq

/-- `polardb_reader_pool_reservation` of a worker; the server is set by a wake. -/
structure LocalReservation where
  token : Nat
  hid : Nat
  server : Option Nat
  deriving DecidableEq

/-- Where a worker is: `exiting` once its destructor has looked at the wakes. -/
inductive WorkerLife
  | unattached
  | running
  | detached
  | exiting
  | gone
  deriving DecidableEq

structure ReaderWorker where
  life : WorkerLife := .unattached
  /-- `shutdown` -/
  shutdown : Bool := false
  reservation : Option LocalReservation := none
  /-- `polardb_reader_pool_reservation_wakes` -/
  wakes : List ReservationWake := []
  /-- `polardb_reader_pool_reservation_wake_pending` -/
  wakePending : Bool := false
  /-- The worker has cleared the flag and not yet taken the queue. -/
  draining : Bool := false
  /-- What it took from the queue and has not processed. -/
  drained : List ReservationWake := []
  deriving DecidableEq

/-- The worker is not processing wakes. -/
def ReaderWorker.idle (w : ReaderWorker) : Bool :=
  !w.draining && w.drained.isEmpty

structure ReaderPool where
  core : PoolSystem
  workers : Nat → ReaderWorker := fun _ => {}
  /-- Wakes that a thread is about to queue. -/
  routing : List ReservationWake := []
  /-- The wake that a thread has pushed; it holds both mutexes. -/
  inQueue : Option ReservationWake := none
  /-- Wakes that were refused, before their reservation is cancelled. -/
  refused : List ReservationWake := []
  handlerShutdown : Bool := false
  /-- How many steps routing has taken; not part of the source. -/
  routed : Nat := 0

inductive ReaderOp
  /-- Any operation on a server, by any thread, but those of the holder of a token. -/
  | pool (srv : Nat) (op : PoolOp)
  | attach (worker : Nat)
  | register (worker hid scopeHash : Nat) (matchKey : PoolMatchKey) (requireReplica : Bool)
  /-- `polardb_queue_reader_reservation_wake`, up to the write into the pipe -/
  | queueWake (wake : ReservationWake)
  /-- The write; `written` also when the pipe is full. -/
  | writePipe (written : Bool)
  /-- The other half of a round of `polardb_route_reader_reservation_wake`. -/
  | cancelRefused (wake : ReservationWake) (check : RequestCheck)
  /-- `polardb_process_reader_reservation_wakes`, in three parts -/
  | beginDrain (worker : Nat)
  | swapWakes (worker : Nat)
  | applyWake (worker : Nat) (check : RequestCheck)
  /-- `polardb_cancel_reader_reservation` -/
  | cancelLocal (worker : Nat) (check : RequestCheck)
  /-- `polardb_take_reader_reservation`, for a reservation that is current -/
  | takeLocal (worker : Nat)
  | shutdownWorker (worker : Nat)
  | shutdownHandler
  | detach (worker : Nat)
  /-- The end of the destructor. -/
  | finish (worker : Nat) (check : RequestCheck)

/-- Taking and cancelling are left to the holder of the token. -/
def PoolOp.byAnyThread : PoolOp → Bool
  | .takeReservation _ _ => false
  | .cancelReservation _ _ _ => false
  | _ => true

namespace ReaderPool

def setWorker (s : ReaderPool) (worker : Nat) (w : ReaderWorker) : ReaderPool :=
  { s with workers := Function.update s.workers worker w }

/-- A wake that an operation on a server returned is routed by its thread. -/
def wakesOf (srv : Nat) (wake : Option CapacityRequest) : List ReservationWake :=
  (wake.map fun request => ⟨request.workerIndex, request.token, srv⟩).toList

/-- Store the result of an operation on a server. -/
def applyResult (hostgroup : Nat → Nat) (s : ReaderPool) (srv : Nat) (result : PoolResult) :
    ReaderPool :=
  { s with
    core := s.core.apply srv (hostgroup srv) result
    routing := s.routing ++ wakesOf srv result.wake }

/-- `cancel_reader_pool_reservation`, and routing what it hands on -/
def cancelOnServer (hostgroup : Nat → Nat) (s : ReaderPool) (srv workerIndex token : Nat)
    (check : RequestCheck) : ReaderPool :=
  s.applyResult hostgroup srv ((s.core.servers srv).cancelReservation
    (s.core.requests (hostgroup srv)) workerIndex token check).2

/-- Give up the local reservation: on its server, or as a request that no server
has taken. -/
def cancelHeld (hostgroup : Nat → Nat) (s : ReaderPool) (worker : Nat) (check : RequestCheck) :
    ReaderPool :=
  let w := s.workers worker
  let cleared := s.setWorker worker { w with reservation := none }
  match w.reservation with
  | none => s
  | some r =>
      match r.server with
      | some srv => cleared.cancelOnServer hostgroup srv worker r.token check
      | none =>
          match cancelRequest (s.core.requests r.hid) worker r.token with
          | none => cleared
          | some requests =>
              { cleared with
                core := { s.core with requests := Function.update s.core.requests r.hid requests } }

/-- The handler and the worker still take wakes. -/
def accepts (s : ReaderPool) (worker : Nat) : Bool :=
  !s.handlerShutdown && (s.workers worker).life == .running && !(s.workers worker).shutdown

def step (hostgroup : Nat → Nat) (s : ReaderPool) : ReaderOp → Option ReaderPool
  | .pool srv op =>
      if !op.byAnyThread then none
      else
        ((s.core.servers srv).step (s.core.requests (hostgroup srv)) op).map
          (s.applyResult hostgroup srv)
  | .attach worker =>
      let w := s.workers worker
      if s.handlerShutdown || w.life ≠ .unattached then none
      else some (s.setWorker worker { w with life := .running })
  | .register worker hid scopeHash matchKey requireReplica =>
      let w := s.workers worker
      if w.life ≠ .running || !w.idle || w.reservation.isSome then none
      else
        let token := s.core.nextToken
        (s.core.step hostgroup (.register hid worker scopeHash matchKey requireReplica)).map
          fun core =>
            if hasRequest (core.requests hid) worker token then
              { s with core := core }.setWorker worker
                { w with reservation := some ⟨token, hid, none⟩ }
            else { s with core := core }
  | .queueWake wake =>
      let w := s.workers wake.workerIndex
      if wake ∉ s.routing || s.inQueue.isSome then none
      else
        let s := { s with routing := s.routing.erase wake, routed := s.routed + 1 }
        if !s.accepts wake.workerIndex then some { s with refused := wake :: s.refused }
        else if w.wakePending then
          some (s.setWorker wake.workerIndex { w with wakes := w.wakes ++ [wake] })
        else
          some { s.setWorker wake.workerIndex
            { w with wakes := w.wakes ++ [wake], wakePending := true } with
            inQueue := some wake }
  | .writePipe written =>
      match s.inQueue with
      | none => none
      | some wake =>
          let s := { s with inQueue := none, routed := s.routed + 1 }
          if written then some s
          else
            let w := s.workers wake.workerIndex
            some { s.setWorker wake.workerIndex
              { w with wakes := w.wakes.dropLast, wakePending := false } with
              refused := wake :: s.refused }
  | .cancelRefused wake check =>
      if wake ∉ s.refused then none
      else
        some ({ s with refused := s.refused.erase wake, routed := s.routed + 1 }.cancelOnServer
          hostgroup wake.server wake.workerIndex wake.token check)
  | .beginDrain worker =>
      let w := s.workers worker
      if (w.life ≠ .running && w.life ≠ .detached) || !w.idle then none
      else
        let w := if w.life = .detached then { w with life := .exiting } else w
        some (s.setWorker worker
          (if w.wakePending then { w with wakePending := false, draining := true } else w))
  | .swapWakes worker =>
      let w := s.workers worker
      if !w.draining || (s.inQueue.map ReservationWake.workerIndex) = some worker then none
      else some (s.setWorker worker { w with wakes := [], draining := false, drained := w.wakes })
  | .applyWake worker check =>
      let w := s.workers worker
      match w.drained with
      | [] => none
      | wake :: rest =>
          if w.reservation.map LocalReservation.token = some wake.token then
            some (s.setWorker worker { w with
              drained := rest
              reservation := w.reservation.map fun r => { r with server := some wake.server } })
          else
            some ((s.setWorker worker { w with drained := rest }).cancelOnServer hostgroup
              wake.server worker wake.token check)
  | .cancelLocal worker check =>
      let w := s.workers worker
      if w.life ≠ .running || !w.idle then none else some (s.cancelHeld hostgroup worker check)
  | .takeLocal worker =>
      let w := s.workers worker
      if w.life ≠ .running || !w.idle then none
      else
        match w.reservation with
        | some ⟨token, _, some srv⟩ =>
            let (status, given, pool) := (s.core.servers srv).takeReservation
              (s.core.requests (hostgroup srv)) worker token
            let s := s.applyResult hostgroup srv
              { pool := pool, requests := s.core.requests (hostgroup srv), given := given }
            some (if status = .pending then s
              else s.setWorker worker { w with reservation := none })
        | _ => none
  | .shutdownWorker worker =>
      some (s.setWorker worker { s.workers worker with shutdown := true })
  | .shutdownHandler => some { s with handlerShutdown := true }
  | .detach worker =>
      let w := s.workers worker
      if w.life ≠ .running || !w.idle || s.inQueue.isSome then none
      else some (s.setWorker worker { w with life := .detached })
  | .finish worker check =>
      let w := s.workers worker
      if w.life ≠ .exiting || !w.idle then none
      else
        let s := s.cancelHeld hostgroup worker check
        some (s.setWorker worker { s.workers worker with life := .gone })

end ReaderPool

end PolarProxy
