import PolarProxy.HeldConnections
import PolarProxy.IdentityPool
import PolarProxy.Library.Partition

/-!
# The connection cache of a worker

A worker keeps connections that its sessions gave up in `cached_connections`.  They stay
in USED of their servers.  Those with a pool key are counted in
`polardb_reader_local_connection_count`, step by step; at places the count is compared with
the array and repaired when it is wrong.  At the end of each pass of the worker the cache
is emptied: a connection is kept, reserved for another worker that waits for its key,
returned to FREE, or destroyed.

Other threads work on the pools at the same time, between any two sections under the lock
of a server.  They do not give up connections that they do not hold; `owned` lists those
that this worker and its sessions hold.  A woken worker is told of its reservation by a
later operation, which is counted among those of other threads.

`owned` and `faults` are not part of the source: `faults` records the repairs, failed
assertions and connections missing from USED that a run comes across.
-/

namespace PolarProxy

open SwapRemove Partition

/-- A connection with what the cache reads of it. -/
structure CachedConn where
  srv : Nat
  conn : Nat
  startup : BackendStartup
  /-- `polardb_worker_cache_epoch` -/
  cacheEpoch : Nat := 0
  deriving DecidableEq

namespace CachedConn

def id (c : CachedConn) : Nat × Nat :=
  (c.srv, c.conn)

/-- `!polardb_pool_key.empty()` -/
def keyed (c : CachedConn) : Bool :=
  !c.startup.poolKey.isEmpty

def withStartup (c : CachedConn) (startup : BackendStartup) : CachedConn :=
  { c with startup := startup }

end CachedConn

/-- `polardb_scan_cached_readers` -/
def scanCachedReaders (slots : List (Option CachedConn)) : Nat :=
  slots.countP fun slot => slot.any CachedConn.keyed

/-- An active `polardb_reader_retention` -/
structure RetainedIdentity where
  profileGeneration : Nat
  poolKey : PoolKey
  deriving DecidableEq

/-- `active` -/
def RetainedIdentity.active (r : RetainedIdentity) : Bool :=
  r.profileGeneration != 0 && !r.poolKey.isEmpty

inductive CacheFault
  /-- `polardb_repair_local_reader_count` found a wrong count. -/
  | countRepaired (operation : String)
  | countAssertion
  | usedMissing (srv conn : Nat)
  deriving DecidableEq

/-- How a connection leaves a worker. -/
inductive Fate
  | reserved (workerIndex : Nat)
  | free
  | destroyed
  deriving DecidableEq

/-- A connection that left, with the pools right after that. -/
structure Outcome where
  conn : CachedConn
  fate : Fate
  pools : PoolSystem

/-- `PolarDB_ReaderRemoteReservationResult` -/
inductive RemoteReservation
  | connectionReserved (workerIndex : Nat)
  | noRemoteRequest
  | connectionInvalid
  | notAttempted
  deriving DecidableEq

/-- What a worker reads of a connection and its server when it gives it up, and what other
threads do in the meantime. -/
structure ReturnFacts where
  beforeReservation : List PoolSystemOp := []
  /-- The part of `polardb_reader_connection_matches_requirements` besides the key. -/
  meetsRequirements : Bool := true
  /-- `has_reader_pool_capacity_request_for_another_worker` -/
  requestSeen : Bool := false
  /-- `polardb_reader_wait_scope_active` of the retention -/
  scopeActive : Bool := false
  atReservation : Returning
  atDecision : Returning
  beforeReturn : List PoolSystemOp := []
  atReturn : Returning
  /-- `bounded_local_connection_cache` -/
  bounded : Bool := false
  threadCount : Nat := 1

/-- What a pass over the cache reads. -/
structure PassFacts where
  conn : CachedConn → ReturnFacts
  /-- What other threads do before the group of a server is returned. -/
  beforeGroup : Nat → List PoolSystemOp := fun _ => []
  /-- `polardb_reader_connection_retention` -/
  retentionConfigured : Bool := true

/-- What `get_MyConn_local` compares. -/
structure LocalSearch where
  hid : Nat
  keyedReuse : Bool
  /-- `polardb_classify_pool_conn_for_reuse` gives `EXACT`. -/
  isExact : CachedConn → Bool
  /-- The startup settings, options and session variables match. -/
  fits : CachedConn → Bool

structure WorkerCache where
  pools : PoolSystem
  owned : List (Nat × Nat) := []
  /-- `cached_connections` -/
  cached : List CachedConn := []
  /-- `polardb_reader_local_connection_count` -/
  readerCount : Nat := 0
  /-- `polardb_reader_local_added_this_pass` -/
  addedThisPass : Bool := false
  /-- `polardb_reader_cache_epoch` -/
  cacheEpoch : Nat := 0
  pushLocalCounter : Nat := 0
  retention : Option RetainedIdentity := none
  faults : List CacheFault := []

/-- The operation takes a connection of the list out of USED. -/
def PoolSystemOp.takesFrom (owned : List (Nat × Nat)) : PoolSystemOp → Bool
  | .server srv op =>
      match op.leavesUsed with
      | none => false
      | some conn => owned.contains (srv, conn)
  | _ => false

namespace WorkerCache

variable (hostgroup : Nat → Nat) (worker : Nat)

def init (maxConnections : Nat → Int) : WorkerCache :=
  { pools := .init maxConnections }

/-! ## The pools -/

/-- An operation of another thread. -/
def otherStep (owned : List (Nat × Nat)) (pools : PoolSystem) (op : PoolSystemOp) : PoolSystem :=
  if op.takesFrom owned then pools else (pools.step hostgroup op).getD pools

def runOthers (s : WorkerCache) (ops : List PoolSystemOp) : WorkerCache :=
  { s with pools := ops.foldl (otherStep hostgroup s.owned) s.pools }

/-- An operation of the worker. -/
def serve (s : WorkerCache) (srv : Nat) (op : PoolOp) : PoolResult :=
  ((s.pools.servers srv).step (s.pools.requests (hostgroup srv)) op).getD
    { pool := s.pools.servers srv, requests := s.pools.requests (hostgroup srv) }

def applied (s : WorkerCache) (srv : Nat) (result : PoolResult) : WorkerCache :=
  { s with pools := s.pools.apply srv (hostgroup srv) result }

def inUsed (s : WorkerCache) (c : CachedConn) : Bool :=
  (s.pools.servers c.srv).used.conns.contains c.conn

/-- The worker no longer holds a connection. -/
def leave (s : WorkerCache) (c : CachedConn) (fate : Fate) : Outcome × WorkerCache :=
  (⟨c, fate, s.pools⟩, { s with owned := s.owned.filter (· ≠ c.id) })

/-- A connection that is not in USED is deleted all the same. -/
def leaveMissing (s : WorkerCache) (c : CachedConn) : Outcome × WorkerCache :=
  { s with faults := .usedMissing c.srv c.conn :: s.faults }.leave c .destroyed

/-- A connection is given up with an operation on its server, and deleted if it is not
stored there. -/
def giveBack (s : WorkerCache) (c : CachedConn) (op : PoolOp) : Outcome × WorkerCache :=
  if !s.inUsed c then s.leaveMissing c
  else
    let result := s.serve hostgroup c.srv op
    let s := s.applied hostgroup c.srv result
    match result.wake with
    | some request => s.leave c (.reserved request.workerIndex)
    | none =>
        if (s.pools.servers c.srv).handed.contains c.conn then
          (s.applied hostgroup c.srv (s.serve hostgroup c.srv (.deleteHanded c.conn))).leave c
            .destroyed
        else s.leave c .free

/-- `return_connection_with_match_key` is for this connection. -/
def inExactPool (s : WorkerCache) (c : CachedConn) (hasSnapshot : Bool) : Bool :=
  ((s.pools.servers c.srv).marks c.conn).exactPoolConnection || c.keyed || hasSnapshot

/-- `return_connection_with_match_key` for a connection of the exact-key pool -/
def returnExact (s : WorkerCache) (c : CachedConn) (r : Returning) (checked : Bool) :
    Outcome × WorkerCache :=
  let (returnable, b) := c.startup.returnCheck r checked
  s.giveBack hostgroup c
    (if returnable then .returnMatching c.conn b.matchKey worker r.check else .removeUsed c.conn)

/-- The part of `push_MyConn_to_pool` for the classic pool -/
def pushClassic (s : WorkerCache) (c : CachedConn) (reusable : Bool) : Outcome × WorkerCache :=
  if !s.inUsed c then s.leaveMissing c
  else
    let online := (s.pools.servers c.srv).status = .online
    let s := s.applied hostgroup c.srv (s.serve hostgroup c.srv (.returnClassic c.conn reusable))
    s.leave c (if reusable ∧ online then .free else .destroyed)

/-- `push_MyConn_to_pool` -/
def pushToPool (s : WorkerCache) (c : CachedConn) (r : Returning) : Outcome × WorkerCache :=
  if s.inExactPool c r.hasSnapshot then s.returnExact hostgroup worker c r false
  else s.pushClassic hostgroup c r.reusable

/-! ## The count -/

/-- `polardb_repair_local_reader_count` -/
def repairCount (s : WorkerCache) (operation : String) (observed : Nat) : WorkerCache :=
  if s.readerCount = observed then s
  else { s with readerCount := observed, faults := .countRepaired operation :: s.faults }

def assertCount (s : WorkerCache) (holds : Bool) : WorkerCache :=
  if holds then s else { s with faults := .countAssertion :: s.faults }

/-! ## Retention -/

/-- `polardb_reader_connection_matches_retention_requirements` -/
def matchesRequirements (s : WorkerCache) (c : CachedConn) (f : ReturnFacts) : Bool :=
  match s.retention with
  | none => false
  | some r =>
      r.active && f.meetsRequirements && c.startup.profileGeneration == r.profileGeneration &&
        c.startup.poolKey == r.poolKey

/-- `polardb_reader_clear_inactive_retention` -/
def clearInactiveRetention (s : WorkerCache) (scopeActive : Bool) : WorkerCache :=
  if scopeActive then s else { s with retention := none }

/-- `reserve_matching_used_connection` -/
def reserveUsed (s : WorkerCache) (c : CachedConn) (key : PoolMatchKey) (check : RequestCheck) :
    RemoteReservation × WorkerCache :=
  if key.isEmpty || worker == noWorker || !s.inUsed c ||
      (s.pools.servers c.srv).status != .online then (.connectionInvalid, s)
  else
    let result := s.serve hostgroup c.srv (.reserveMatchingUsed c.conn key worker check)
    let s := s.applied hostgroup c.srv result
    match result.wake with
    | some request => (.connectionReserved request.workerIndex, s)
    | none => (.noRemoteRequest, s)

/-- `reserve_retained_reader_connection`; `expected` is the key of the retention. -/
def reserveRetained (s : WorkerCache) (c : CachedConn) (expected : PoolMatchKey) (r : Returning) :
    RemoteReservation × BackendStartup × WorkerCache :=
  if expected.isEmpty || worker == noWorker || !r.facts.idle || !r.facts.withinLimits then
    (.connectionInvalid, c.startup, s)
  else
    let (status, b) := c.startup.returnDecision r.facts r.profile
    if status ≠ .returnable ∨ b.matchKey ≠ expected then (.connectionInvalid, b, s)
    else
      let (result, s) := s.reserveUsed hostgroup worker c b.matchKey r.check
      (result, b, s)

/-- `polardb_reader_try_reserve_retained_connection` -/
def tryReserveRetained (s : WorkerCache) (c : CachedConn) (f : ReturnFacts) :
    RemoteReservation × CachedConn × WorkerCache :=
  if worker == noWorker || !s.matchesRequirements c f || !f.requestSeen then (.notAttempted, c, s)
  else
    let expected := (s.retention.map fun r => r.poolKey.matchKey r.profileGeneration).getD {}
    let (result, b, s) := (s.runOthers hostgroup f.beforeReservation).reserveRetained hostgroup
      worker c expected f.atReservation
    (result, c.withStartup b, s.clearInactiveRetention f.scopeActive)

/-- `polardb_reader_matches_retention` -/
def matchesRetention (s : WorkerCache) (c : CachedConn) (f : ReturnFacts) : Bool :=
  f.scopeActive && s.matchesRequirements c f

/-- `polardb_reader_local_return_decision` -/
def localDecision (c : CachedConn) (r : Returning) : LocalReturn × CachedConn :=
  let (decision, b) := c.startup.localReturnDecision r.facts r.profile r.served r.wanted
  (decision, c.withStartup b)

/-! ## Pushing -/

structure CacheResult where
  cache : WorkerCache
  taken : Option CachedConn := none
  left : List Outcome := []

/-- A connection left. -/
def gone (result : Outcome × WorkerCache) : CacheResult :=
  { cache := result.2, left := [result.1] }

/-- `polardb_store_reader_connection_locally` -/
def storeReaderLocally (s : WorkerCache) (c : CachedConn) : CacheResult :=
  { cache := { s with
      cached := s.cached ++ [{ c with cacheEpoch := s.cacheEpoch }]
      readerCount := s.readerCount + 1
      addedThisPass := true } }

/-- The last part of `push_MyConn_local`, for connections of the classic pool -/
def pushGeneric (s : WorkerCache) (c : CachedConn) (f : ReturnFacts) : CacheResult :=
  let toPool (s : WorkerCache) : CacheResult :=
    gone ((s.runOthers hostgroup f.beforeReturn).pushToPool hostgroup worker c f.atReturn)
  if (s.pools.servers c.srv).status = .online ∧ f.atReturn.facts.idle then
    if f.bounded then
      let counter := s.pushLocalCounter
      let s := { s with pushLocalCounter := counter + 1 }
      if counter % max f.threadCount 1 ≠ 0 then toPool s
      else { cache := { s with cached := s.cached ++ [c] } }
    else { cache := { s with cached := s.cached ++ [c] } }
  else toPool s

/-- `push_MyConn_local` after the decision to use the shared pool -/
def pushShared (s : WorkerCache) (c : CachedConn) (f : ReturnFacts) (checked : Bool) :
    CacheResult :=
  if s.inExactPool c f.atReturn.hasSnapshot then
    gone ((s.runOthers hostgroup f.beforeReturn).returnExact hostgroup worker c f.atReturn checked)
  else s.pushGeneric hostgroup worker c f

/-- `push_MyConn_local` for a connection that was not reserved -/
def pushUnreserved (s : WorkerCache) (c : CachedConn) (f : ReturnFacts) : CacheResult :=
  let (decision, c) := localDecision c f.atDecision
  match decision with
  | .keepWithWorker => s.storeReaderLocally c
  | .removeConnection =>
      gone ((s.runOthers hostgroup f.beforeReturn).giveBack hostgroup c (.removeUsed c.conn))
  | .useSharedPoolReuseChecked => s.pushShared hostgroup worker c f true
  | .useSharedPool => s.pushShared hostgroup worker c f false

/-- `push_MyConn_local` -/
def pushMyConnLocal (s : WorkerCache) (c : CachedConn) (f : ReturnFacts) : CacheResult :=
  let (result, c, s) := s.tryReserveRetained hostgroup worker c f
  match result with
  | .connectionReserved workerIndex => gone (s.leave c (.reserved workerIndex))
  | .noRemoteRequest => s.storeReaderLocally c
  | _ => s.pushUnreserved hostgroup worker c f

/-! ## Taking -/

/-- `polardb_take_local_reader_connection` -/
def takeLocalReader (s : WorkerCache) (srv profileGeneration : Nat) (key : PoolKey) :
    CacheResult :=
  if key.isEmpty || (s.pools.servers srv).status != .online then { cache := s }
  else
    match s.cached.findIdx? fun c =>
        c.srv == srv && c.startup.profileGeneration == profileGeneration &&
          c.startup.poolKey == key with
    | none => { cache := s }
    | some index =>
        let s := if s.readerCount = 0 then
            s.repairCount "local take" (scanCachedReaders (s.cached.map some))
          else s
        let s := s.assertCount (0 < s.readerCount)
        { cache := { s with
            readerCount := s.readerCount - 1
            cached := swapRemove s.cached index }
          taken := s.cached[index]? }

def LocalSearch.found (search : LocalSearch) (c : CachedConn) : Bool :=
  hostgroup c.srv == search.hid &&
    if c.keyed then search.keyedReuse && search.isExact c else search.fits c

/-- `get_MyConn_local` -/
def getMyConnLocal (s : WorkerCache) (search : LocalSearch) : CacheResult :=
  match s.cached.findIdx? (LocalSearch.found hostgroup search) with
  | none => { cache := s }
  | some index =>
      match s.cached[index]? with
      | none => { cache := s }
      | some c =>
          let s := { s with cached := swapRemove s.cached index }
          if c.keyed then
            let s := if s.readerCount = 0 then
                s.repairCount "writer local take" (scanCachedReaders (s.cached.map some) + 1)
              else s
            let s := s.assertCount (0 < s.readerCount)
            { cache := { s with readerCount := s.readerCount - 1 }, taken := some c }
          else { cache := s, taken := some c }

/-! ## Returning the cache -/

/-- `ReaderReturnGroup::add`, in the group of the server -/
def addToGroup (c : CachedConn) : List (Nat × List CachedConn) → List (Nat × List CachedConn)
  | [] => [(c.srv, [c])]
  | (srv, members) :: groups =>
      if srv = c.srv then (srv, members ++ [c]) :: groups
      else (srv, members) :: addToGroup c groups

/-- The first loop of `return_local_connections_impl` so far; a slot is `none` once its
connection is to leave. -/
structure Pass where
  cache : WorkerCache
  slots : List (Option CachedConn) := []
  groups : List (Nat × List CachedConn) := []
  retainedKept : Bool := false
  left : List Outcome := []

namespace Pass

def keep (pass : Pass) (c : CachedConn) : Pass :=
  { pass with slots := pass.slots ++ [some c] }

def toGroup (pass : Pass) (c : CachedConn) : Pass :=
  { pass with slots := pass.slots ++ [none], groups := addToGroup c pass.groups }

def reserved (pass : Pass) (result : Outcome × WorkerCache) : Pass :=
  { pass with
    cache := result.2
    slots := pass.slots ++ [none]
    left := pass.left ++ [result.1] }

/-- The local decision about a connection, if one is needed. -/
def decision (needed : Bool) (c : CachedConn) (r : Returning) : LocalReturn × CachedConn :=
  if needed then localDecision c r else (.keepWithWorker, c)

/-- A connection that was not reserved: it is kept for the retention, or because it came
in this pass of the worker, or goes to the group of its server. -/
def settle (pass : Pass) (shutdown : Bool) (facts : PassFacts) (result : RemoteReservation)
    (c : CachedConn) : Pass :=
  let f := facts.conn c
  let retentionMatches := !shutdown && !pass.retainedKept && pass.cache.matchesRetention c f
  let needsDecision := retentionMatches || (!shutdown && result == .connectionInvalid)
  let (decision, c) := decision needsDecision c f.atDecision
  if retentionMatches && decision == .keepWithWorker then
    { pass.keep c with retainedKept := true }
  else if !shutdown && decision == .keepWithWorker && facts.retentionConfigured &&
      c.cacheEpoch == pass.cache.cacheEpoch then
    pass.keep c
  else pass.toGroup c

/-- The offer to other workers, which a worker that ends does not make. -/
def offer (shutdown : Bool) (facts : PassFacts) (pass : Pass) (c : CachedConn) :
    RemoteReservation × CachedConn × WorkerCache :=
  if shutdown then (.notAttempted, c, pass.cache)
  else pass.cache.tryReserveRetained hostgroup worker c (facts.conn c)

/-- One round of the loop. -/
def visit (shutdown : Bool) (facts : PassFacts) (pass : Pass) (c : CachedConn) : Pass :=
  if !c.keyed then pass.keep c
  else
    let (result, c, s) := offer hostgroup worker shutdown facts pass c
    let pass := { pass with cache := s }
    match result with
    | .connectionReserved workerIndex => pass.reserved (s.leave c (.reserved workerIndex))
    | .noRemoteRequest => { pass.keep c with retainedKept := true }
    | result => pass.settle shutdown facts result c

end Pass

/-- One connection of `polardb_return_reader_connections`.  One of another server than the
first, which no group has, is detached. -/
def returnMember (server : Nat) (s : WorkerCache) (c : CachedConn) (r : Returning) :
    Outcome × WorkerCache :=
  if c.srv ≠ server then s.giveBack hostgroup c (.removeUsed c.conn)
  else s.returnExact hostgroup worker c r false

def giveUpAll (giveUp : WorkerCache → CachedConn → Outcome × WorkerCache) :
    List CachedConn → WorkerCache → List Outcome × WorkerCache
  | [], s => ([], s)
  | c :: rest, s =>
      let (outcome, s) := giveUp s c
      let (left, s) := giveUpAll giveUp rest s
      (outcome :: left, s)

/-- `polardb_return_reader_connections`, and the deletion of what it detached -/
def returnReaderConnections (facts : PassFacts) (members : List CachedConn) (s : WorkerCache) :
    List Outcome × WorkerCache :=
  match members with
  | [] => ([], s)
  | first :: _ =>
      giveUpAll (fun s c => s.returnMember hostgroup worker first.srv c (facts.conn c).atReturn)
        members (s.runOthers hostgroup (facts.beforeGroup first.srv))

/-- The loop over the groups. -/
def returnGroups (facts : PassFacts) :
    List (Nat × List CachedConn) → WorkerCache → List Outcome × WorkerCache
  | [], s => ([], s)
  | (_, members) :: groups, s =>
      let (left, s) := s.returnReaderConnections hostgroup worker facts members
      let (left', s) := returnGroups facts groups s
      (left ++ left', s)

/-- The group that a worker begins with. -/
def groupStart (worker groupCount : Nat) : Nat :=
  if groupCount ≠ 0 ∧ worker ≠ noWorker then worker % groupCount else 0

/-- `push_MyConn_to_pool_array` -/
def pushToPoolArray (facts : PassFacts) (conns : List CachedConn) (s : WorkerCache) :
    List Outcome × WorkerCache :=
  giveUpAll (fun s c => (s.runOthers hostgroup (facts.conn c).beforeReturn).pushToPool hostgroup
    worker c (facts.conn c).atReturn) conns s

/-- The slot has a connection of the classic pool. -/
def isGeneric (slot : Option CachedConn) : Bool :=
  slot.any fun c => !c.keyed

def countReturned (s : WorkerCache) (slots : List (Option CachedConn)) (returned : Nat) :
    WorkerCache :=
  if s.readerCount < returned then s.repairCount "shared return" (scanCachedReaders slots)
  else { s with readerCount := s.readerCount - returned }

/-- The count after the compaction of the array. -/
def compact (s : WorkerCache) (retained : List CachedConn) : WorkerCache :=
  { s with cached := retained }.repairCount "cache compaction" (retained.countP CachedConn.keyed)

def endPass (s : WorkerCache) (shutdown : Bool) : WorkerCache :=
  { s with
    addedThisPass := false
    cacheEpoch := if shutdown then s.cacheEpoch else s.cacheEpoch + 1 }

/-- `return_local_connections_impl` for a cache with connections -/
def returnCached (s : WorkerCache) (shutdown : Bool) (facts : PassFacts) : CacheResult :=
  let pass := s.cached.foldl (Pass.visit hostgroup worker shutdown facts) { cache := s }
  let groups := pass.groups.rotate (groupStart worker pass.groups.length)
  let (leftGroups, s) := pass.cache.returnGroups hostgroup worker facts groups
  let s := s.countReturned pass.slots
    (pass.left.length + (groups.flatMap Prod.snd).length)
  let (genericCount, slots) := partitionSwaps isGeneric pass.slots
  let (leftGeneric, s) := s.pushToPoolArray hostgroup worker facts
    ((slots.take genericCount).filterMap fun slot => slot)
  let retained := (slots.drop genericCount).filterMap fun slot => slot
  { cache := (s.compact retained).endPass shutdown, left := pass.left ++ leftGroups ++ leftGeneric }

/-- `return_local_connections_impl` -/
def returnLocalConnections (s : WorkerCache) (shutdown : Bool) (facts : PassFacts) :
    CacheResult :=
  if s.cached.isEmpty then
    let s := s.repairCount "empty cache" 0
    { cache := (s.assertCount (s.readerCount = 0)).endPass shutdown }
  else s.returnCached hostgroup worker shutdown facts

/-! ## Steps -/

inductive CacheOp
  | others (ops : List PoolSystemOp)
  /-- A session of the worker gets a connection that is in USED. -/
  | acquire (srv conn : Nat)
  /-- A session gives a connection up without the cache. -/
  | letGo (srv conn : Nat)
  | setRetention (retention : Option RetainedIdentity)
  | push (c : CachedConn) (facts : ReturnFacts)
  | takeReader (srv profileGeneration : Nat) (key : PoolKey)
  | getLocal (search : LocalSearch)
  | returnLocal (shutdown : Bool) (facts : PassFacts)

/-- One operation.  A session pushes a connection that it holds; it does not hold one that
is in the cache. -/
def step (s : WorkerCache) : CacheOp → Option CacheResult
  | .others ops => some { cache := s.runOthers hostgroup ops }
  | .acquire srv conn =>
      if (s.pools.servers srv).used.conns.contains conn then
        some { cache := { s with owned := (srv, conn) :: s.owned } }
      else none
  | .letGo srv conn =>
      if (s.cached.map CachedConn.id).contains (srv, conn) then none
      else some { cache := { s with owned := s.owned.filter (· ≠ (srv, conn)) } }
  | .setRetention retention => some { cache := { s with retention := retention } }
  | .push c facts =>
      if !s.owned.contains c.id || (s.cached.map CachedConn.id).contains c.id then none
      else some (s.pushMyConnLocal hostgroup worker c facts)
  | .takeReader srv profileGeneration key => some (s.takeLocalReader srv profileGeneration key)
  | .getLocal search => some (s.getMyConnLocal hostgroup search)
  | .returnLocal shutdown facts => some (s.returnLocalConnections hostgroup worker shutdown facts)

end WorkerCache

end PolarProxy
