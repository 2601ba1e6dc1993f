import PolarProxy.ConnList
import PolarProxy.WriterEpoch

/-!
# The connection pool of a server

A server keeps its connections in FREE and USED.  A connection that comes back
may be reserved for a worker that registered a request for its key: it then lies
in FREE without a key, and two maps tie it to the token of the request.  When a
reserved connection leaves FREE otherwise than by its token, the token is retired
and a record of that waits for the worker.

The fields after `retired` are not part of the source.  They say where the
connections outside FREE and USED are, and how each token ended.

What the pool reads elsewhere is passed to it: whether the topology still has the
server and which requests its lag allows (`RequestCheck`), and how a session
compares with a connection (`ClientView`).
-/

namespace PolarProxy

/-- `ReaderReservationEndReason` -/
inductive ReservationEndReason
  | none
  | acquired
  | released
  | explicitRemove
  | createEvict
  | idleTrim
  | maxAge
  | serverOffline
  | poolDrop
  | invalidFreeState
  deriving DecidableEq

/-- `polardb_reader_pool_reservation_reason_is_retirement` -/
def ReservationEndReason.isRetirement (reason : ReservationEndReason) : Bool :=
  reason != .none && reason != .acquired && reason != .released

/-- `UINT_MAX`, the index of no worker -/
def noWorker : Nat :=
  2 ^ 32 - 1

/-- `PolarDB_ReaderPoolCapacityRequest`, with the plan and the wait left to
`RequestCheck` -/
structure CapacityRequest where
  workerIndex : Nat
  token : Nat
  scopeHash : Nat
  matchKey : PoolMatchKey
  deriving DecidableEq

/-- `PolarDB_ReaderPoolConnectionReservation` -/
structure ConnectionReservation where
  workerIndex : Nat
  token : Nat
  conn : Nat
  matchKey : PoolMatchKey
  deriving DecidableEq

/-- `PolarDB_ReaderPoolReservationRetired` -/
structure RetiredReservation where
  workerIndex : Nat
  reason : ReservationEndReason
  deriving DecidableEq

/-- `std::map::emplace`: an entry that is there stays. -/
def emplace {α : Type} (m : AList fun _ : Nat => α) (k : Nat) (v : α) : AList fun _ : Nat => α :=
  if k ∈ m then m else m.insert k v

/-- What a server's pool operations keep. -/
structure ServerPool where
  status : ServerStatus := .online
  maxConnections : Int
  free : ConnList := { usedList := false }
  used : ConnList := { usedList := true }
  marks : PoolMarks := fun _ => {}
  /-- `polardb_reader_pool_reservations` -/
  reservations : AList (fun _ : Nat => ConnectionReservation) := ∅
  /-- `polardb_reader_pool_reservation_token_by_connection` -/
  tokenByConnection : AList (fun _ : Nat => Nat) := ∅
  /-- `polardb_reader_pool_reservation_retired` -/
  retired : AList (fun _ : Nat => RetiredReservation) := ∅
  /-- Every connection opened to the server. -/
  created : List Nat := []
  /-- Connections outside the lists that a caller holds. -/
  handed : List Nat := []
  destroyed : List Nat := []
  /-- How each token that left `reservations` ended. -/
  ended : List (Nat × ReservationEndReason) := []
  /-- Tokens whose retired record was read and erased. -/
  consumed : List Nat := []

/-! ## Requests of a hostgroup -/

/-- What `take_matching_reader_pool_capacity_request` asks elsewhere:
`polardb_resolve_reader_server_snapshot` and
`polardb_reader_server_meets_lag_policy`. -/
structure RequestCheck where
  resolved : Bool
  meetsLagPolicy : CapacityRequest → Bool

/-- `take_matching_reader_pool_capacity_request`: the oldest request for a key
that the server may serve leaves the queue. -/
def takeMatchingRequest (requests : List CapacityRequest) (key : PoolMatchKey)
    (excludedWorker : Nat) (check : RequestCheck) :
    Option CapacityRequest × List CapacityRequest :=
  if key.isEmpty || !check.resolved then (none, requests)
  else
    match requests.find? fun r =>
        r.matchKey == key && r.workerIndex != excludedWorker && check.meetsLagPolicy r with
    | none => (none, requests)
    | some request => (some request, requests.erase request)

/-- `register_reader_pool_capacity_request` -/
def registerRequest (requests : List CapacityRequest) (request : CapacityRequest)
    (requireReplica : Bool) : Option (List CapacityRequest) :=
  if request.workerIndex = noWorker || request.token == 0 || request.scopeHash == 0 ||
      request.matchKey.isEmpty || requireReplica then none
  else if requests.any fun r => r.token == request.token || r.workerIndex == request.workerIndex then
    none
  else some (requests ++ [request])

/-- `cancel_reader_pool_capacity_request` -/
def cancelRequest (requests : List CapacityRequest) (workerIndex token : Nat) :
    Option (List CapacityRequest) :=
  match requests.find? fun r => r.workerIndex == workerIndex && r.token == token with
  | none => none
  | some request => some (requests.erase request)

/-- `has_reader_pool_capacity_request` -/
def hasRequest (requests : List CapacityRequest) (workerIndex token : Nat) : Bool :=
  requests.any fun r => r.workerIndex == workerIndex && r.token == token

namespace ServerPool

/-- `polardb_connection_reserved_unlocked` -/
def connectionReserved (p : ServerPool) (conn : Nat) : Bool :=
  (p.tokenByConnection.lookup conn).isSome

def env (p : ServerPool) : ListEnv :=
  { reserved := p.connectionReserved, maxConnections := p.maxConnections }

/-! ## Moving connections -/

/-- `polardb_forget_reserved_connection_unlocked` -/
def forgetReserved (p : ServerPool) (conn : Nat) (reason : ReservationEndReason) : ServerPool :=
  match p.tokenByConnection.lookup conn with
  | none => p
  | some token =>
      { p with
        retired :=
          match p.reservations.lookup token with
          | none => p.retired
          | some r =>
              if reason.isRetirement then emplace p.retired token ⟨r.workerIndex, reason⟩
              else p.retired
        reservations := p.reservations.erase token
        tokenByConnection := p.tokenByConnection.erase conn
        ended := p.ended ++ [(token, reason)] }

/-- `polardb_retire_reservations_unlocked` -/
def retireReservations (p : ServerPool) (reason : ReservationEndReason) : ServerPool :=
  { p with
    retired :=
      if reason.isRetirement then
        p.reservations.entries.foldl
          (fun retired e => emplace retired e.1 ⟨e.2.workerIndex, reason⟩) p.retired
      else p.retired
    reservations := ∅
    tokenByConnection := ∅
    ended := p.ended ++ p.reservations.keys.map fun token => (token, reason) }

/-- `remove_unlocked` on FREE.  The source ends the reservation between taking
the connection out of the index and out of the list, neither of which reads it. -/
def removeFreeAt (p : ServerPool) (index : Nat) (reason : ReservationEndReason) :
    Option Nat × ServerPool :=
  match p.free.conns[index]? with
  | none => (none, p)
  | some conn =>
      let (removed, free, marks) := p.free.removeUnlocked p.marks p.env index
      (removed, { p with free := free, marks := marks }.forgetReserved conn reason)

/-- `remove_unlocked` on USED -/
def removeUsedAt (p : ServerPool) (index : Nat) : Option Nat × ServerPool :=
  let (removed, used, marks) := p.used.removeUnlocked p.marks p.env index
  (removed, { p with used := used, marks := marks })

/-- `add_unlocked` on FREE -/
def addFree (p : ServerPool) (conn : Nat) (key : Option PoolMatchKey) : ServerPool :=
  let (free, marks) := p.free.addUnlocked p.marks p.env conn key
  { p with free := free, marks := marks }

/-- `add_unlocked` on USED -/
def addUsed (p : ServerPool) (conn : Nat) (key : Option PoolMatchKey) : ServerPool :=
  let (used, marks) := p.used.addUnlocked p.marks p.env conn key
  { p with used := used, marks := marks }

/-- `find_idx` on FREE -/
def findFree (p : ServerPool) (conn : Nat) : Option Nat × ServerPool :=
  let (position, marks) := p.free.findIdx p.marks conn
  (position, { p with marks := marks })

/-- `find_idx` on USED -/
def findUsed (p : ServerPool) (conn : Nat) : Option Nat × ServerPool :=
  let (position, marks) := p.used.findIdx p.marks conn
  (position, { p with marks := marks })

/-- A connection leaves the lists for its caller. -/
def handOver (p : ServerPool) (conn : Nat) : ServerPool :=
  { p with handed := conn :: p.handed }

/-- A caller gives a connection up. -/
def takeBack (p : ServerPool) (conn : Nat) : ServerPool :=
  { p with handed := p.handed.erase conn }

/-- `delete` on a connection outside the lists -/
def destroy (p : ServerPool) (conn : Nat) : ServerPool :=
  { p with destroyed := conn :: p.destroyed }

/-- Remove the connection at an index of FREE and delete it. -/
def discardFreeAt (p : ServerPool) (index : Nat) (reason : ReservationEndReason) : ServerPool :=
  match p.removeFreeAt index reason with
  | (none, p) => p
  | (some conn, p) => p.destroy conn

/-- The loop of `detach_all_unlocked`; the caller deletes what it detaches. -/
def detachLoop (reason : ReservationEndReason) : Nat → ServerPool → ServerPool
  | 0, p => p
  | rounds + 1, p =>
      if p.free.conns.isEmpty then p else detachLoop reason rounds (p.discardFreeAt 0 reason)

/-- `detach_all_unlocked` on FREE -/
def detachAll (p : ServerPool) (reason : ReservationEndReason) : ServerPool :=
  let p := p.detachLoop reason p.free.conns.length
  { p with free := p.free.pruneEmptyMatchBuckets }.retireReservations reason

/-! ## Reserving -/

/-- `reserve_reader_pool_connection_unlocked` -/
def reserveConnection (p : ServerPool) (conn : Nat) (request : CapacityRequest) : ServerPool :=
  let p := p.addFree conn none
  { p with
    reservations := emplace p.reservations request.token
      ⟨request.workerIndex, request.token, conn, request.matchKey⟩
    tokenByConnection := emplace p.tokenByConnection conn request.token }

end ServerPool

/-- What an operation returns besides the pool. -/
structure PoolResult where
  pool : ServerPool
  requests : List CapacityRequest
  /-- The connection given to a taker. -/
  given : Option Nat := none
  /-- The request whose worker has to be told of its reservation. -/
  wake : Option CapacityRequest := none

/-- `ReaderTakeStatus` -/
inductive ReaderTakeStatus
  | missing
  | pending
  | retired
  | acquired
  deriving DecidableEq

/-- `ReaderCancelStatus` -/
inductive ReaderCancelStatus
  | missing
  | requestCancelled
  | retiredRecordCleared
  | connectionReturned
  | connectionNotFree
  deriving DecidableEq

namespace ServerPool

/-- `store_matching_free_connection_unlocked` -/
def storeMatchingFree (p : ServerPool) (requests : List CapacityRequest) (conn : Nat)
    (key : PoolMatchKey) (excludedWorker : Nat) (check : RequestCheck) : Option PoolResult :=
  if p.status ≠ .online then none
  else
    match takeMatchingRequest requests key excludedWorker check with
    | (none, requests) => some { pool := p.addFree conn (some key), requests := requests }
    | (some request, requests) =>
        some { pool := p.reserveConnection conn request, requests := requests, wake := some request }

/-- `return_matching_connection`; a connection that cannot be stored stays with
the caller. -/
def returnMatching (p : ServerPool) (requests : List CapacityRequest) (conn : Nat)
    (key : PoolMatchKey) (excludedWorker : Nat) (check : RequestCheck) : PoolResult :=
  let (index, p) := p.findUsed conn
  match index with
  | none => { pool := p, requests := requests }
  | some index =>
      let (_, p) := p.removeUsedAt index
      match p.storeMatchingFree requests conn key excludedWorker check with
      | some result => result
      | none => { pool := p.handOver conn, requests := requests }

/-- `reserve_matching_used_connection` -/
def reserveMatchingUsed (p : ServerPool) (requests : List CapacityRequest) (conn : Nat)
    (key : PoolMatchKey) (returningWorker : Nat) (check : RequestCheck) : PoolResult :=
  if key.isEmpty || returningWorker == noWorker then { pool := p, requests := requests }
  else
    let (index, p) := p.findUsed conn
    match index with
    | none => { pool := p, requests := requests }
    | some index =>
        if p.status ≠ .online then { pool := p, requests := requests }
        else
          match takeMatchingRequest requests key returningWorker check with
          | (none, requests) => { pool := p, requests := requests }
          | (some request, requests) =>
              let (_, p) := p.removeUsedAt index
              { pool := p.reserveConnection conn request
                requests := requests
                wake := some request }

/-- The part of `take_reader_pool_reservation` after the reservation: a request
that still waits, or a retired record, which is read once. -/
def takeRetired (p : ServerPool) (requests : List CapacityRequest) (workerIndex token : Nat) :
    ReaderTakeStatus × ServerPool :=
  if hasRequest requests workerIndex token then (.pending, p)
  else
    match p.retired.lookup token with
    | none => (.missing, p)
    | some record =>
        if record.workerIndex = workerIndex then
          (.retired, { p with
            retired := p.retired.erase token, consumed := token :: p.consumed })
        else (.missing, p)

/-- `take_reader_pool_reservation` -/
def takeReservation (p : ServerPool) (requests : List CapacityRequest) (workerIndex token : Nat) :
    ReaderTakeStatus × Option Nat × ServerPool :=
  let missed (p : ServerPool) : ReaderTakeStatus × Option Nat × ServerPool :=
    let (status, p) := p.takeRetired requests workerIndex token
    (status, none, p)
  match p.reservations.lookup token with
  | none => missed p
  | some r =>
      if r.workerIndex ≠ workerIndex then missed p
      else
        let (index, p) := p.findFree r.conn
        match index with
        | none =>
            missed (p.forgetReserved r.conn
              (if p.status ≠ .online then .serverOffline else .invalidFreeState))
        | some index =>
            if p.status ≠ .online then missed (p.forgetReserved r.conn .serverOffline)
            else
              match p.removeFreeAt index .acquired with
              | (none, p) => (.acquired, none, p)
              | (some conn, p) => (.acquired, some conn, p.addUsed conn (some r.matchKey))

/-- The part of `cancel_reader_pool_reservation` under the lock of the server. -/
def cancelReserved (p : ServerPool) (requests : List CapacityRequest) (workerIndex token : Nat)
    (check : RequestCheck) : ReaderCancelStatus × PoolResult :=
  match p.reservations.lookup token with
  | some r =>
      if r.workerIndex = workerIndex then
        let (index, p) := p.findFree r.conn
        match index with
        | none =>
            (.connectionNotFree,
              { pool := p.forgetReserved r.conn .released, requests := requests })
        | some index =>
            let (conn, p) := p.removeFreeAt index .released
            let conn := conn.getD r.conn
            match p.storeMatchingFree requests conn r.matchKey noWorker check with
            | some result => (.connectionReturned, result)
            | none =>
                (.connectionReturned,
                  { pool := p.addFree conn (some r.matchKey), requests := requests })
      else clearRetired p requests workerIndex token
  | none => clearRetired p requests workerIndex token
where
  /-- Without a reservation of the worker only a retired record can be left. -/
  clearRetired (p : ServerPool) (requests : List CapacityRequest) (workerIndex token : Nat) :
      ReaderCancelStatus × PoolResult :=
    match p.retired.lookup token with
    | none => (.missing, { pool := p, requests := requests })
    | some record =>
        if record.workerIndex = workerIndex then
          (.retiredRecordCleared,
            { pool := { p with
                retired := p.retired.erase token, consumed := token :: p.consumed }
              requests := requests })
        else (.missing, { pool := p, requests := requests })

/-- `cancel_reader_pool_reservation` -/
def cancelReservation (p : ServerPool) (requests : List CapacityRequest)
    (workerIndex token : Nat) (check : RequestCheck) : ReaderCancelStatus × PoolResult :=
  match cancelRequest requests workerIndex token with
  | some requests => (.requestCancelled, { pool := p, requests := requests })
  | none => p.cancelReserved requests workerIndex token check

/-! ## Taking -/

/-- `remove_matching_unlocked` on FREE -/
def removeMatchingFree (p : ServerPool) (key : PoolMatchKey) : Option Nat × ServerPool :=
  let (conn, free, marks) := p.free.removeMatching p.marks p.env key
  (conn, { p with free := free, marks := marks })

/-- `take_matching_connection` -/
def takeMatching (p : ServerPool) (key : PoolMatchKey) : Option Nat × ServerPool :=
  if p.status ≠ .online then (none, p)
  else
    match p.removeMatchingFree key with
    | (none, p) => (none, p)
    | (some conn, p) => (some conn, p.addUsed conn (some key))

/-- `take_free_connection_for_ping`; `idle` says that the connection was last used
long enough ago. -/
def takeForPing (p : ServerPool) (conn : Nat) (idle : Bool) : Option Nat × ServerPool :=
  if p.status ≠ .online then (none, p)
  else
    let (free, marks) := p.free.ensureMatchIndexConsistent p.marks p.env
    let p := { p with free := free, marks := marks }
    let (index, p) := p.findFree conn
    match index with
    | none => (none, p)
    | some index =>
        if !idle || p.connectionReserved conn then (none, p)
        else
          let (key, marks) := p.free.findMatchKey p.marks conn
          match { p with marks := marks }.removeFreeAt index .acquired with
          | (none, p) => (none, p)
          | (some conn, p) => (some conn, p.addUsed conn key)

end ServerPool

end PolarProxy
