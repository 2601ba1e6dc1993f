import PolarProxy.ServerPool

/-!
# Searching and trimming the FREE list

The classic pool looks for a connection by comparing sessions, starting at a
random place and wrapping around.  When nothing fits it may open a connection, and
evict others to stay within the limit.  Maintenance trims FREE.

`ServerPool.step` gathers all operations of a pool.
-/

namespace PolarProxy

/-! ## The classic search -/

/-- How a client session compares with the connections of a server. -/
structure ClientView where
  /-- The startup settings of the connection admit the session. -/
  startupAdmits : Nat → Bool
  /-- `has_same_connection_options` -/
  sameOptions : Nat → Bool
  /-- `requires_RESETTING_CONNECTION` -/
  requiresReset : Nat → Bool
  /-- `number_of_matching_session_variables`: how many match, and how many do not -/
  matchingVariables : Nat → Nat × Nat

/-- The best connection so far.  Quality 0: none; 1: after a reset; 2: after some
`SET` statements; 3: as it is. -/
structure SearchState where
  foundIndex : Nat := 0
  quality : Nat := 0
  matched : Nat := 0
  deriving DecidableEq

/-- `get_random_MyConn_inner_search`, over connections with their indices -/
def innerSearch (view : ClientView) (reserved : Nat → Bool) :
    List (Nat × Nat) → SearchState → SearchState
  | [], best => best
  | (conn, k) :: rest, best =>
      if reserved conn || !view.startupAdmits conn || !view.sameOptions conn then
        innerSearch view reserved rest best
      else
        let best := if best.quality = 0 then { best with quality := 1, foundIndex := k } else best
        if view.requiresReset conn then innerSearch view reserved rest best
        else
          let best := if best.quality = 1 then { best with quality := 2, foundIndex := k } else best
          let (matched, notMatched) := view.matchingVariables conn
          if notMatched = 0 then { foundIndex := k, quality := 3, matched := matched }
          else if best.matched < matched then
            innerSearch view reserved rest { best with matched := matched, foundIndex := k }
          else innerSearch view reserved rest best

/-- What `get_random_MyConn_unlocked` is called with, and what it reads of the
configuration and the clock. -/
structure PoolSearch where
  /-- `none`: the session has no client connection. -/
  client : Option ClientView
  /-- `rand_fast()` -/
  random : Nat
  fastForward : Bool := false
  onlyPooled : Bool := false
  exactOnly : Bool := false
  needsWarming : Bool := false
  /-- `pgsql_connection_creation_throttled_unlocked` -/
  throttled : Bool := false
  /-- The connection it opens, if it opens one. -/
  fresh : Nat := 0

/-- `calculate_eviction_count` -/
def calculateEvictionCount (connsFree connsUsed maxConnections : Nat) : Nat :=
  if connsFree < 1 then 0
  else
    let pctMaxConnections := 3 * maxConnections % 2 ^ 32 / 4
    let total := connsFree + connsUsed
    if pctMaxConnections ≤ total then
      if total - pctMaxConnections = 0 then 1 else total - pctMaxConnections
    else 0

/-- `evaluate_pool_state` for quality 1 without warming: open a connection rather
than reset one. -/
def createsForReset (connsFree connsUsed maxConnections : Nat) : Bool :=
  connsFree < connsUsed && connsFree / 2 + connsUsed / 2 < maxConnections

namespace ServerPool

/-- `static_cast<unsigned int>(max_connections)` -/
def maxConnectionsWord (p : ServerPool) : Nat :=
  (p.maxConnections % 2 ^ 32).toNat

/-- The search from a random place on, and then from the beginning. -/
def searchFree (p : ServerPool) (view : ClientView) (start : Nat) : SearchState :=
  let best := innerSearch view p.connectionReserved (p.free.conns.zipIdx.drop start) {}
  if best.quality = 3 then best
  else innerSearch view p.connectionReserved (p.free.conns.zipIdx.take start) best

/-- The loop of `evict_unreserved_free_for_create`: how many are still to go. -/
def evictLoop : Nat → Nat → Nat → ServerPool → Nat × ServerPool
  | 0, _, remaining, p => (remaining, p)
  | rounds + 1, index, remaining, p =>
      match p.free.conns[index]? with
      | none => (remaining, p)
      | some conn =>
          if remaining = 0 then (remaining, p)
          else if p.connectionReserved conn then evictLoop rounds (index + 1) remaining p
          else evictLoop rounds index (remaining - 1) (p.discardFreeAt index .createEvict)

/-- `evict_unreserved_free_for_create` -/
def evictUnreservedFree (p : ServerPool) (preferred required : Nat) : Bool × ServerPool :=
  if preferred = 0 ∧ required = 0 then (true, p)
  else if preferred < required then (false, p)
  else
    let evictable := p.free.conns.countP fun conn => !p.connectionReserved conn
    if evictable < required then (false, p)
    else
      let (remaining, p) := p.evictLoop p.free.conns.length 0 (min preferred evictable)
      (remaining == 0, p)

/-- `polardb_make_room_for_classic_connection_unlocked` -/
def makeRoomForClassic (p : ServerPool) (preferred : Nat) : Bool × ServerPool :=
  if p.maxConnections ≤ 0 ∨ p.maxConnectionsWord ≤ p.used.conns.length then (false, p)
  else
    let total := p.used.conns.length + p.free.conns.length
    let required := if p.maxConnectionsWord ≤ total then total - p.maxConnectionsWord + 1 else 0
    match p.evictUnreservedFree (max preferred required) required with
    | (false, p) => (false, p)
    | (true, p) =>
        (p.used.conns.length < p.maxConnectionsWord &&
          p.used.conns.length + p.free.conns.length < p.maxConnectionsWord, p)

/-- `pgsql_create_backend_connection_unlocked` -/
def createConnection (p : ServerPool) (conn : Nat) : ServerPool :=
  { p with created := conn :: p.created }

/-- Make room and open a connection. -/
def createForClassic (p : ServerPool) (preferred fresh : Nat) : Option Nat × ServerPool :=
  match p.makeRoomForClassic preferred with
  | (false, p) => (none, p)
  | (true, p) => (some fresh, p.createConnection fresh)

/-- `get_random_MyConn_unlocked` -/
def getRandomMyConn (p : ServerPool) (search : PoolSearch) : Option Nat × ServerPool :=
  let length := p.free.conns.length
  if search.onlyPooled ∧ length = 0 then (none, p)
  else if 0 < length ∧ search.fastForward = false ∧ search.needsWarming = false then
    match search.client with
    | none => p.removeFreeAt (search.random % length) .explicitRemove
    | some view =>
        let best := p.searchFree view (search.random % length)
        if search.exactOnly then
          if best.quality ≠ 3 then (none, p) else p.removeFreeAt best.foundIndex .explicitRemove
        else if best.quality = 0 then
          if search.onlyPooled then (none, p)
          else
            p.createForClassic
              (calculateEvictionCount length p.used.conns.length p.maxConnectionsWord)
              search.fresh
        else if best.quality = 1 then
          if search.onlyPooled = false ∧
              createsForReset length p.used.conns.length p.maxConnectionsWord then
            p.createForClassic 0 search.fresh
          else p.removeFreeAt best.foundIndex .explicitRemove
        else p.removeFreeAt best.foundIndex .explicitRemove
  else if search.onlyPooled ∨ search.throttled then (none, p)
  else p.createForClassic 0 search.fresh

/-- A found connection goes to USED without a key. -/
def takeSearched (p : ServerPool) (search : PoolSearch) : Option Nat × ServerPool :=
  match p.getRandomMyConn search with
  | (none, p) => (none, p)
  | (some conn, p) => (some conn, p.addUsed conn none)

/-- `get_MyConn_from_pool` under the lock of the server.  Its first try wants an
exact match on an online server. -/
def takeClassic (p : ServerPool) (search : PoolSearch) : Option Nat × ServerPool :=
  if search.exactOnly ∧ p.status ≠ .online then (none, p) else p.takeSearched search

/-- `take_existing_connection`, once the lock is taken -/
def takeExisting (p : ServerPool) (key : PoolMatchKey) (allowExactMatch allowReset : Bool)
    (search : PoolSearch) : Option Nat × ServerPool :=
  if p.status ≠ .online then (none, p)
  else
    let exact := if allowExactMatch then p.removeMatchingFree key else (none, p)
    match exact with
    | (some conn, p) => (some conn, p.addUsed conn none)
    | (none, p) =>
        if allowReset then
          p.takeSearched
            { search with fastForward := false, onlyPooled := true, exactOnly := false }
        else (none, p)

/-- The end of `push_MyConn_to_pool`: an idle connection of an online server goes
back to FREE without a key, any other is deleted. -/
def returnClassic (p : ServerPool) (conn : Nat) (reusable : Bool) : ServerPool :=
  let (index, p) := p.findUsed conn
  match index with
  | none => p
  | some index =>
      let (_, p) := p.removeUsedAt index
      if reusable ∧ p.status = .online then p.addFree conn none else p.destroy conn

/-! ## Maintenance -/

/-- The first loop of `polardb_trim_free_connections_to_max_unlocked`: connections
marked in an earlier round go. -/
def trimLoop (maxFree : Nat) : Nat → Nat → ServerPool → ServerPool
  | 0, _, p => p
  | rounds + 1, index, p =>
      match p.free.conns[index]? with
      | none => p
      | some conn =>
          if p.free.conns.length ≤ maxFree then p
          else if (p.marks conn).idleTrimPending then
            trimLoop maxFree rounds index (p.discardFreeAt index .idleTrim)
          else trimLoop maxFree rounds (index + 1) p

/-- The marks of the connections that are to go in the next round. -/
def markExcess (conns : List Nat) (excess : Nat) (marks : PoolMarks) : PoolMarks :=
  match conns, excess with
  | [], _ => marks
  | _, 0 => marks
  | conn :: rest, excess + 1 =>
      if (marks conn).idleTrimPending then markExcess rest (excess + 1) marks
      else
        markExcess rest excess
          (Function.update marks conn { marks conn with idleTrimPending := true })

/-- `polardb_trim_free_connections_to_max_unlocked` -/
def trimFree (p : ServerPool) (maxFree : Nat) : ServerPool :=
  let p := p.trimLoop maxFree p.free.conns.length 0
  if p.free.conns.length ≤ maxFree then
    { p with marks := p.free.conns.foldl PoolMarks.finishIdleTrim p.marks }
  else { p with marks := markExcess p.free.conns (p.free.conns.length - maxFree) p.marks }

/-- Remove from the front while FREE and USED exceed the limit. -/
def shrinkLoop (maxConnections : Nat) : Nat → ServerPool → ServerPool
  | 0, p => p
  | rounds + 1, p =>
      if p.free.conns.isEmpty ∨ p.used.conns.length + p.free.conns.length ≤ maxConnections then p
      else shrinkLoop maxConnections rounds (p.discardFreeAt 0 .idleTrim)

/-- Remove the connections that are too old. -/
def ageLoop (aged : Nat → Bool) : Nat → Nat → ServerPool → ServerPool
  | 0, _, p => p
  | rounds + 1, index, p =>
      match p.free.conns[index]? with
      | none => p
      | some conn =>
          if aged conn then ageLoop aged rounds index (p.discardFreeAt index .maxAge)
          else ageLoop aged rounds (index + 1) p

/-- `drop_all_idle_connections` for one server -/
def dropIdle (p : ServerPool) (maxFree : Nat) (aged : Nat → Bool) : ServerPool :=
  let p := if p.status ≠ .online then p.detachAll .serverOffline else p
  let p := p.shrinkLoop p.maxConnections.toNat p.free.conns.length
  let p := p.trimFree maxFree
  let p := p.ageLoop aged p.free.conns.length 0
  { p with free := p.free.pruneEmptyMatchBuckets }

/-- `set_status` -/
def setStatus (p : ServerPool) (status : ServerStatus) : ServerPool :=
  let p := { p with status := status }
  if status = .offlineHard then p.detachAll .serverOffline else p

/-- `remove_used_connection` -/
def removeUsedConnection (p : ServerPool) (conn : Nat) : ServerPool :=
  let (index, p) := p.findUsed conn
  match index with
  | none => p
  | some index => (p.removeUsedAt index).2.handOver conn

/-- `remove_free_connection` -/
def removeFreeConnection (p : ServerPool) (conn : Nat) : ServerPool :=
  let (index, p) := p.findFree conn
  match index with
  | none => p
  | some index => (p.removeFreeAt index .explicitRemove).2.handOver conn

end ServerPool

/-! ## Operations of a pool -/

inductive PoolOp
  /-- A connection is opened for a caller. -/
  | openConnection (conn : Nat)
  /-- `add_used_matching_connection`, or `ConnectionsUsed->add` without a key -/
  | addUsed (conn : Nat) (key : Option PoolMatchKey)
  | addMatching (conn : Nat) (key : PoolMatchKey) (check : RequestCheck)
  | takeMatching (key : PoolMatchKey)
  | takeExisting (key : PoolMatchKey) (allowExactMatch allowReset : Bool) (search : PoolSearch)
  | takeClassic (search : PoolSearch)
  | takeForPing (conn : Nat) (idle : Bool)
  | returnMatching (conn : Nat) (key : PoolMatchKey) (excludedWorker : Nat) (check : RequestCheck)
  | returnClassic (conn : Nat) (reusable : Bool)
  | reserveMatchingUsed (conn : Nat) (key : PoolMatchKey) (returningWorker : Nat)
      (check : RequestCheck)
  | takeReservation (workerIndex token : Nat)
  | cancelReservation (workerIndex token : Nat) (check : RequestCheck)
  | evict (preferred required : Nat)
  | dropIdle (maxFree : Nat) (aged : Nat → Bool)
  | dropAll
  | setStatus (status : ServerStatus)
  | removeUsed (conn : Nat)
  | removeFree (conn : Nat)
  /-- A caller deletes a connection it holds. -/
  | deleteHanded (conn : Nat)

/-- A session that looks for a connection has a client. -/
def PoolOp.HasClient : PoolOp → Prop
  | .takeExisting _ _ _ search => search.client.isSome
  | .takeClassic search => search.client.isSome
  | _ => True

namespace ServerPool

/-- A search opens no connection that exists. -/
def searchFresh (p : ServerPool) (search : PoolSearch) : Bool :=
  !p.created.contains search.fresh

/-- One operation.  A caller adds and deletes only connections it holds, returns
only connections in USED by the classic path, and a connection is opened once. -/
def step (p : ServerPool) (requests : List CapacityRequest) : PoolOp → Option PoolResult
  | .openConnection conn =>
      if p.created.contains conn then none
      else some { pool := (p.createConnection conn).handOver conn, requests := requests }
  | .addUsed conn key =>
      if !p.handed.contains conn then none
      else if key.isSome ∧ p.status ≠ .online then some { pool := p, requests := requests }
      else some { pool := (p.takeBack conn).addUsed conn key, requests := requests }
  | .addMatching conn key check =>
      if !p.handed.contains conn then none
      else
        some (((p.takeBack conn).storeMatchingFree requests conn key noWorker check).getD
          { pool := p, requests := requests })
  | .takeMatching key =>
      let (given, pool) := p.takeMatching key
      some { pool := pool, requests := requests, given := given }
  | .takeExisting key allowExactMatch allowReset search =>
      if !p.searchFresh search then none
      else
        let (given, pool) := p.takeExisting key allowExactMatch allowReset search
        some { pool := pool, requests := requests, given := given }
  | .takeClassic search =>
      if !p.searchFresh search then none
      else
        let (given, pool) := p.takeClassic search
        some { pool := pool, requests := requests, given := given }
  | .takeForPing conn idle =>
      let (given, pool) := p.takeForPing conn idle
      some { pool := pool, requests := requests, given := given }
  | .returnMatching conn key excludedWorker check =>
      some (p.returnMatching requests conn key excludedWorker check)
  | .returnClassic conn reusable =>
      if !p.used.conns.contains conn then none
      else some { pool := p.returnClassic conn reusable, requests := requests }
  | .reserveMatchingUsed conn key returningWorker check =>
      some (p.reserveMatchingUsed requests conn key returningWorker check)
  | .takeReservation workerIndex token =>
      let (_, given, pool) := p.takeReservation requests workerIndex token
      some { pool := pool, requests := requests, given := given }
  | .cancelReservation workerIndex token check =>
      some (p.cancelReservation requests workerIndex token check).2
  | .evict preferred required =>
      some { pool := (p.evictUnreservedFree preferred required).2, requests := requests }
  | .dropIdle maxFree aged => some { pool := p.dropIdle maxFree aged, requests := requests }
  | .dropAll => some { pool := p.detachAll .poolDrop, requests := requests }
  | .setStatus status => some { pool := p.setStatus status, requests := requests }
  | .removeUsed conn => some { pool := p.removeUsedConnection conn, requests := requests }
  | .removeFree conn => some { pool := p.removeFreeConnection conn, requests := requests }
  | .deleteHanded conn =>
      if !p.handed.contains conn then none
      else some { pool := (p.takeBack conn).destroy conn, requests := requests }

end ServerPool

end PolarProxy
