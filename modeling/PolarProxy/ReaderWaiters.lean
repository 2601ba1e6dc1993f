import PolarProxy.Plan
import PolarProxy.StartupIdentity
import PolarProxy.ServerPool
import PolarProxy.Library.Counts

/-!
# The sessions of a worker that wait for a reader

A session whose readers are busy waits in a scope, the hash of all that decides which
connection can serve it.  The worker counts its waiters, and the waiters of each
scope.  One of its sessions at a time may hold the reservation of the worker, which
is registered under the scope of that session.  Retention keeps a returned connection
on the worker for the waiters of one scope; it is started when a session takes its
reserved connection, or when the worker already owns a matching connection, and is
cleared when its scope runs out of waiters.

`none` is a failed assertion.  What the pool answers is an input of a step: whether a
request was registered, what a take gave, which key matches now.  Times of a wait and
the counters of the worker are left out.
-/

namespace PolarProxy

open StartupClientContext (hashU64 hashI32)

/-! ## Scopes -/

/-- The value of a `PolarDB_WaitType`. -/
def WaitType.toInt : WaitType → Int
  | .none => 0
  | .lsn => 2

/-- Zero means no scope. -/
def scopeHashOf (hash : UInt64) : UInt64 :=
  if hash = 0 then 1 else hash

/-- `polardb_reader_retry_scope_hash`, for a request that excludes no endpoint -/
def retryScopeHash (hostgroupId : Nat) (key : PoolMatchKey) (plan : ReaderPlan)
    (waitSpec : WaitSpec) : UInt64 :=
  let hash := hashU64 1469598103934665603 hostgroupId
  let hash := hashU64 hash key.profileGeneration
  let hash := hashU64 hash key.authHash
  let hash := hashU64 hash key.startupIdentityHash
  let hash := hashU64 hash key.startupOptionsHash
  let hash := hashU64 hash plan.groupLsn
  let hash := hashI32 hash plan.maxLagBytes
  let hash := hashU64 hash (if plan.requireReplica then 1 else 0)
  let hash := hashU64 hash waitSpec.target
  let hash := hashI32 hash waitSpec.type.toInt
  let hash := hashI32 hash (-1)
  let hash := hashU64 hash 0
  scopeHashOf (UInt64.ofNat hash)

/-! ## Waits -/

/-- `PolarDB_ReaderStatus` -/
inductive ReaderStatus
  | acquired
  | readerUnavailable
  | readerBusy
  | readerGroupBusy
  | retryAfterConfigChange
  | rfqUnavailable
  | groupLsnUnknown
  | readerLsnUnknown
  | readerLsnStale
  | readerLagExceeded
  deriving DecidableEq

/-- `PolarDB_PoolCapacityTarget` -/
inductive PoolCapacityTarget
  | reader
  | writer
  deriving DecidableEq

/-- `PolarDB_ReaderOwnership` -/
inductive ReaderOwnership
  | none
  | local
  | active
  | reservation
  deriving DecidableEq

/-- A server and the hostgroup that it belongs to. -/
structure WaitServer where
  id : Nat
  /-- `myhgc` -/
  hid : Option Nat
  deriving DecidableEq

/-- `PolarDB_ReaderCapacityWaitState` -/
structure CapacityWait where
  scopeHash : UInt64 := 0
  target : PoolCapacityTarget := .reader
  reservationPlan : ReaderPlan := {}
  reservationWaitSpec : WaitSpec := {}
  reservationServer : Option WaitServer := none
  /-- Whether `reservation_server_snapshot` is held. -/
  reservationServerSnapshot : Bool := false
  reservationProfileGeneration : Nat := 0
  reservationPoolKey : PoolKey := {}
  lastStatus : ReaderStatus := .readerUnavailable
  active : Bool := false
  resultValid : Bool := false
  deriving DecidableEq

structure WaitSession where
  threadSessionId : Nat
  currentHostgroup : Int
  wait : CapacityWait := {}
  deriving DecidableEq

/-- What an acquisition that found its readers busy returned, with its request. -/
structure BusyResult where
  status : ReaderStatus
  hostgroupId : Nat
  srv : Option WaitServer
  selectedServerSnapshot : Bool
  reservationProfileGeneration : Nat
  reservationPoolKey : PoolKey
  target : PoolCapacityTarget
  plan : ReaderPlan
  waitSpec : WaitSpec
  deriving DecidableEq

/-- `retry_scope_hash` -/
def BusyResult.retryScopeHash (r : BusyResult) : UInt64 :=
  PolarProxy.retryScopeHash r.hostgroupId
    (r.reservationPoolKey.matchKey r.reservationProfileGeneration) r.plan r.waitSpec

/-- The fields of a wait that a busy result sets. -/
def CapacityWait.note (wait : CapacityWait) (r : BusyResult) : CapacityWait :=
  let wait := { wait with
    active := true
    scopeHash := r.retryScopeHash
    target := r.target
    reservationPlan := r.plan
    reservationWaitSpec := r.waitSpec
    lastStatus := r.status
    resultValid := true }
  if r.status == .readerGroupBusy && r.srv.isSome && r.selectedServerSnapshot &&
      r.reservationProfileGeneration != 0 && !r.reservationPoolKey.isEmpty then
    { wait with
      reservationServer := r.srv
      reservationServerSnapshot := true
      reservationProfileGeneration := r.reservationProfileGeneration
      reservationPoolKey := r.reservationPoolKey }
  else wait

/-- `PolarDB_ReaderPoolWorkerReservationState` -/
structure WorkerReservationState where
  token : Nat := 0
  sessionId : Nat := 0
  scopeHash : UInt64 := 0
  hostgroup : Option Nat := none
  server : Option WaitServer := none
  profileGeneration : Nat := 0
  poolKey : PoolKey := {}
  deriving DecidableEq

/-- `PolarDB_ReaderPoolWorkerReservationState::active` -/
def WorkerReservationState.active (r : WorkerReservationState) : Bool :=
  r.token != 0 && r.hostgroup.isSome

/-- `has_connection` -/
def WorkerReservationState.hasConnection (r : WorkerReservationState) : Bool :=
  r.active && r.server.isSome

/-- `PolarDB_ReaderRetentionState` -/
structure ReaderRetention where
  scopeHash : UInt64 := 0
  hostgroup : Option Nat := none
  hostgroupId : Nat := 0
  profileGeneration : Nat := 0
  poolKey : PoolKey := {}
  readerPlan : ReaderPlan := {}
  waitSpec : WaitSpec := {}
  deriving DecidableEq

/-- `PolarDB_ReaderRetentionState::active` -/
def ReaderRetention.active (r : ReaderRetention) : Bool :=
  r.scopeHash != 0 && r.hostgroup.isSome && r.profileGeneration != 0 && !r.poolKey.isEmpty

/-- What a `PgSQL_Thread` keeps of its waiters. -/
structure WaitWorker where
  /-- `mysql_sessions` -/
  sessions : List WaitSession := []
  waiterCount : Nat := 0
  retryAtUs : Nat := 0
  waitScopes : List (UInt64 × Nat) := []
  blockedScopes : List UInt64 := []
  reservation : WorkerReservationState := {}
  retention : ReaderRetention := {}
  deriving DecidableEq

namespace WaitWorker

/-! ## Counting -/

/-- `polardb_reader_wait_scope_active` -/
def waitScopeActive (w : WaitWorker) (scopeHash : UInt64) : Bool :=
  scopeHash != 0 && w.waitScopes.any fun scope => scope.1 == scopeHash && 0 < scope.2

/-- `polardb_reader_add_waiter_to_scope` -/
def addWaiterToScope (w : WaitWorker) (scopeHash : UInt64) : WaitWorker :=
  { w with waitScopes := Counts.add scopeHash w.waitScopes }

/-- `polardb_reader_remove_waiter_from_scope` -/
def removeWaiterFromScope (w : WaitWorker) (scopeHash : UInt64) : Option (Bool × WaitWorker) :=
  (Counts.remove scopeHash w.waitScopes).map fun r => (r.1, { w with waitScopes := r.2 })

/-- `polardb_reader_clear_inactive_retention` -/
def clearInactiveRetention (w : WaitWorker) : WaitWorker :=
  if !w.retention.active || w.waitScopeActive w.retention.scopeHash then w
  else { w with retention := {} }

/-- `polardb_reader_capacity_wait_started`; the retry is due at the given time. -/
def waitStarted (w : WaitWorker) (scopeHash : UInt64) (retryAt : Nat) : WaitWorker :=
  let w := { w with waiterCount := w.waiterCount + 1 }
  let w := w.addWaiterToScope scopeHash
  if w.retryAtUs = 0 then { w with retryAtUs := retryAt } else w

/-- `polardb_reader_capacity_wait_scope_changed` -/
def waitScopeChanged (w : WaitWorker) (oldScope newScope : UInt64) : Option WaitWorker :=
  if oldScope = newScope then some w
  else do
    let (emptied, w) ← w.removeWaiterFromScope oldScope
    let w := if emptied then w.clearInactiveRetention else w
    return w.addWaiterToScope newScope

/-- `polardb_reader_capacity_wait_finished` -/
def waitFinished (w : WaitWorker) (scopeHash : UInt64) : Option WaitWorker :=
  if w.waiterCount = 0 then none
  else do
    let w := { w with waiterCount := w.waiterCount - 1 }
    let (emptied, w) ← w.removeWaiterFromScope scopeHash
    let w := if emptied then w.clearInactiveRetention else w
    if w.waiterCount = 0 then
      return { w with retryAtUs := 0, waitScopes := [], blockedScopes := [] }.clearInactiveRetention
    else return w

/-! ## Waiting -/

/-- `polardb_cancel_reader_reservation`, on the side of the worker -/
def cancelReservation (w : WaitWorker) (sessionId : Nat) : WaitWorker :=
  if !w.reservation.active || (sessionId != 0 && w.reservation.sessionId != sessionId) then w
  else { w with reservation := {} }

def setWait (w : WaitWorker) (i : Nat) (s : WaitSession) (wait : CapacityWait) : WaitWorker :=
  { w with sessions := w.sessions.set i { s with wait := wait } }

/-- `polardb_enter_reader_capacity_wait` -/
def enterWait (w : WaitWorker) (i : Nat) (s : WaitSession) (r : BusyResult) (retryAt : Nat) :
    Option WaitWorker := do
  let w ←
    if !s.wait.active then some (w.waitStarted r.retryScopeHash retryAt)
    else if s.wait.scopeHash ≠ r.retryScopeHash then
      w.waitScopeChanged s.wait.scopeHash r.retryScopeHash
    else some w
  return w.setWait i s (s.wait.note r)

/-- `polardb_leave_reader_capacity_wait` -/
def leaveWait (w : WaitWorker) (i : Nat) (s : WaitSession) (status : ReaderStatus) :
    Option WaitWorker := do
  let w := w.cancelReservation s.threadSessionId
  let w ← if s.wait.active then w.waitFinished s.wait.scopeHash else some w
  return w.setWait i s { lastStatus := status, resultValid := true }

/-- Leaving and `reset`, as in `polardb_clear_staged_wait_state_for_reset` and
`polardb_clear_session_state_for_recycle`. -/
def resetWait (w : WaitWorker) (i : Nat) (s : WaitSession) : Option WaitWorker := do
  let w ← w.leaveWait i s .readerUnavailable
  return w.setWait i s {}

/-- The part of `polardb_clear_request_state_for_query_end` about the wait. -/
def endRequest (w : WaitWorker) (i : Nat) (s : WaitSession) : Option WaitWorker :=
  if s.wait.active then w.resetWait i s
  else if s.wait.resultValid then some (w.setWait i s {})
  else some w

/-! ## Reservation and retention -/

/-- `polardb_reader_start_retention` from a wait that carries an identity, when no
retention is active; `polardb_reader_adopt_retention` -/
def adoptRetention (w : WaitWorker) (s : WaitSession) : WaitWorker :=
  match s.wait.reservationServer with
  | none => w
  | some server =>
      if w.retention.active || !s.wait.active || s.currentHostgroup < 0 || server.hid.isNone ||
          s.wait.reservationProfileGeneration == 0 || s.wait.reservationPoolKey.isEmpty then w
      else
        { w with retention :=
            { scopeHash := s.wait.scopeHash
              hostgroup := server.hid
              hostgroupId := s.currentHostgroup.toNat
              profileGeneration := s.wait.reservationProfileGeneration
              poolKey := s.wait.reservationPoolKey
              readerPlan := s.wait.reservationPlan
              waitSpec := s.wait.reservationWaitSpec } }

/-- `polardb_register_reader_capacity_request`, with what the worker owns, the next
token and whether the hostgroup accepts the request -/
def registerRequest (w : WaitWorker) (i : Nat) (s : WaitSession) (ownership : ReaderOwnership)
    (token : Nat) (registered : Bool) : WaitWorker :=
  match s.wait.reservationServer with
  | none => w
  | some server =>
      if w.reservation.active || !s.wait.active || s.wait.lastStatus != .readerGroupBusy ||
          !s.wait.reservationServerSnapshot || s.wait.reservationProfileGeneration == 0 ||
          s.wait.reservationPoolKey.isEmpty then w
      else
        match ownership with
        | .local => w.adoptRetention s
        | .active => w.adoptRetention s
        | .reservation => w
        | .none =>
            if server.hid.isNone || !registered then w
            else
              { w with reservation :=
                  { token := token
                    sessionId := s.threadSessionId
                    scopeHash := s.wait.scopeHash
                    hostgroup := server.hid
                    profileGeneration := s.wait.reservationProfileGeneration
                    poolKey := s.wait.reservationPoolKey } }.setWait i s
                { s.wait with reservationServerSnapshot := false }

/-- What `polardb_process_reader_capacity_waiters` does with a waiter whose handler has
run: it notes the scope of a busy group and asks for capacity. -/
def retried (w : WaitWorker) (i : Nat) (s : WaitSession) (ownership : ReaderOwnership)
    (token : Nat) (registered : Bool) : WaitWorker :=
  if !s.wait.resultValid || s.wait.lastStatus != .readerGroupBusy then w
  else
    let w :=
      if w.blockedScopes.contains s.wait.scopeHash then w
      else { w with blockedScopes := w.blockedScopes ++ [s.wait.scopeHash] }
    w.registerRequest i s ownership token registered

/-- A wake of `polardb_process_reader_reservation_wakes` sets the server of the
reservation with its token. -/
def applyWake (w : WaitWorker) (token : Nat) (server : WaitServer) : WaitWorker :=
  if w.reservation.active && w.reservation.token == token then
    { w with reservation := { w.reservation with server := some server } }
  else w

/-- The reservation serves what the session asks for now: `current` of
`polardb_take_reader_reservation`, with the key that matches now, if any, and whether
the server can serve the request. -/
def reservationCurrent (w : WaitWorker) (s : WaitSession) (currentKey : Option PoolMatchKey)
    (canServe : Bool) : Bool :=
  match w.reservation.server.bind WaitServer.hid with
  | none => false
  | some hid =>
      s.currentHostgroup == (hid : Int) &&
        currentKey == some (w.reservation.poolKey.matchKey w.reservation.profileGeneration) &&
        canServe

/-- The connection of the reservation goes to the session. -/
def handsOver (w : WaitWorker) (s : WaitSession) (currentKey : Option PoolMatchKey)
    (canServe : Bool) (status : ReaderTakeStatus) : Bool :=
  w.reservation.hasConnection && w.reservation.sessionId == s.threadSessionId &&
    s.wait.active && w.reservationCurrent s currentKey canServe && status == .acquired

/-- `polardb_take_reader_reservation`; the status is what the pool of the server gives. -/
def takeReservation (w : WaitWorker) (s : WaitSession) (currentKey : Option PoolMatchKey)
    (canServe : Bool) (status : ReaderTakeStatus) : WaitWorker :=
  if !w.reservation.hasConnection || w.reservation.sessionId != s.threadSessionId then w
  else if !s.wait.active then w.cancelReservation s.threadSessionId
  else if !w.reservationCurrent s currentKey canServe then w.cancelReservation s.threadSessionId
  else
    match status with
    | .pending => w
    | .retired => { w with reservation := {} }
    | .missing => { w with reservation := {} }
    | .acquired =>
        { w with
          retention :=
            { scopeHash := w.reservation.scopeHash
              hostgroup := w.reservation.hostgroup
              hostgroupId := ((w.reservation.server.bind WaitServer.hid).getD 0)
              profileGeneration := w.reservation.profileGeneration
              poolKey := w.reservation.poolKey
              readerPlan := s.wait.reservationPlan
              waitSpec := s.wait.reservationWaitSpec }
          reservation := {} }

/-- `polardb_reader_matches_retention`: whether a returned connection is kept, with the
result of `polardb_reader_connection_matches_retention_requirements` but for its guard -/
def matchesRetention (w : WaitWorker) (requirements : Bool) : Bool :=
  w.waitScopeActive w.retention.scopeHash && w.retention.active && requirements

end WaitWorker

/-! ## Runs -/

/-- What happens on a worker.  A session is named by its place in the list. -/
inductive WaiterOp
  /-- A session starts on the worker, or comes back to it. -/
  | attach (threadSessionId : Nat) (currentHostgroup : Int)
  | route (i : Nat) (currentHostgroup : Int)
  /-- An acquisition found its readers busy. -/
  | busy (i : Nat) (result : BusyResult) (retryAt : Nat)
  /-- A wait ends: served, timed out, not eligible any more, killed, or with an error. -/
  | leave (i : Nat) (status : ReaderStatus)
  | reset (i : Nat)
  | endRequest (i : Nat)
  /-- `polardb_process_reader_capacity_waiters` starts a pass. -/
  | beginPass
  /-- A waiter is about to be tried again. -/
  | retryAdmitted (i : Nat)
  | retried (i : Nat) (ownership : ReaderOwnership) (token : Nat) (registered : Bool)
  /-- A due pass ends, or `polardb_schedule_reader_capacity_retry`. -/
  | schedule (retryAt : Nat) (endOfPass : Bool)
  | wake (token : Nat) (server : WaitServer)
  | take (i : Nat) (currentKey : Option PoolMatchKey) (canServe : Bool)
      (status : ReaderTakeStatus)
  | cancel (sessionId : Nat)
  /-- A retained connection was offered to another worker. -/
  | offered
  /-- `move_session_to_idle_mysql_sessions` -/
  | moveIdle (i : Nat)
  /-- The session is unregistered and deleted. -/
  | destroy (i : Nat)
  /-- The start of the destructor of the worker. -/
  | shutdown

namespace WaitWorker

/-- Run an operation on a session of the worker; there is none at another place. -/
def withSession (w : WaitWorker) (i : Nat) (f : WaitSession → Option WaitWorker) :
    Option WaitWorker :=
  match w.sessions[i]? with
  | none => some w
  | some s => f s

/-- One operation; `none` is a failed assertion. -/
def step (w : WaitWorker) : WaiterOp → Option WaitWorker
  | .attach id hostgroup => some { w with sessions := w.sessions ++ [⟨id, hostgroup, {}⟩] }
  | .route i hostgroup => w.withSession i fun s =>
      some { w with sessions := w.sessions.set i { s with currentHostgroup := hostgroup } }
  | .busy i result retryAt => w.withSession i fun s => w.enterWait i s result retryAt
  | .leave i status => w.withSession i fun s => w.leaveWait i s status
  | .reset i => w.withSession i fun s => w.resetWait i s
  | .endRequest i => w.withSession i fun s => w.endRequest i s
  | .beginPass => some { w with blockedScopes := [] }
  | .retryAdmitted i => w.withSession i fun s =>
      some (if s.wait.active then w.setWait i s { s.wait with resultValid := false } else w)
  | .retried i ownership token registered => w.withSession i fun s =>
      some (w.retried i s ownership token registered)
  | .schedule retryAt endOfPass =>
      some (if w.waiterCount ≠ 0 ∧ (endOfPass ∨ w.retryAtUs = 0) then
        { w with retryAtUs := retryAt } else w)
  | .wake token server => some (w.applyWake token server)
  | .take i currentKey canServe status => w.withSession i fun s =>
      some (w.takeReservation s currentKey canServe status)
  | .cancel sessionId => some (w.cancelReservation sessionId)
  | .offered => some w.clearInactiveRetention
  | .moveIdle i => w.withSession i fun s =>
      some (if s.wait.active then w else { w with sessions := w.sessions.eraseIdx i })
  | .destroy i => w.withSession i fun s =>
      (w.resetWait i s).map fun w => { w with sessions := w.sessions.eraseIdx i }
  | .shutdown =>
      let w := w.cancelReservation 0
      some (if w.retention.active then { w with retention := {} } else w)

/-- The state after a list of operations on a new worker. -/
def run (ops : List WaiterOp) : Option WaitWorker :=
  ops.foldlM step {}

end WaitWorker

end PolarProxy
