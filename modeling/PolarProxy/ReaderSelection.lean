import PolarProxy.ReaderWaiters
import PolarProxy.SelectionSequence
import PolarProxy.WriterEpoch

/-!
# Selecting a reader

A read that may go to a replica looks at the servers of its hostgroup, keeps the eligible ones
and draws one by weight and load.  A connection is taken from the worker's own cache or
from the pool of that server; none is created here.

What a pool answers depends on everything that runs beside the selection.  `ReaderWorld`
holds the answers over an arbitrary state, and `Selection` keeps with the state every
question that was put to a pool (`Probe`).

**Operations.**  `takeExistingConnection` is the pool of one server and
`readerPoolGetFromServer` the search for a connection that suits the session;
`takeConnFromReaderNodes` tries the selected reader and, where the request allows it, the
others; `getConnFromReaderNodes` draws the reader; `tryAcquireReaderConnection` is the selection.
-/

namespace PolarProxy

namespace Readers

variable {σ : Type}

/-! ## The pool of a server -/

/-- `PgSQL_PoolGetSource` of a connection that exists -/
inductive PoolGetSource
  | none
  | exactMatch
  | reset
  deriving DecidableEq

/-- `PgSQL_PoolGetResult`; connections and servers are numbers. -/
structure PoolGetResult where
  conn : Option Nat := none
  source : PoolGetSource := .none
  poolBusy : Bool := false
  serverSaturated : Bool := false
  deriving DecidableEq

/-- What is read of a pool under its lock. -/
structure PoolCounts where
  online : Bool := true
  used : Nat := 0
  free : Nat := 0
  reservedFree : Nat := 0
  deriving DecidableEq

/-- What a selection asks elsewhere, each time of the state that it finds. -/
structure ReaderWorld (σ : Type) where
  /-- `rand_fast` -/
  rand : σ → Nat × σ
  /-- `polardb_next_reader_selection_sequence` -/
  nextSequence : σ → Nat × σ
  /-- `polardb_reader_selection_used_count` -/
  usedCount : Nat → σ → Nat × σ
  /-- `polardb_take_local_reader_connection` -/
  takeLocal : Nat → σ → Option Nat × σ
  /-- `try_lock` of the pool -/
  tryLock : Nat → σ → Bool × σ
  /-- `take_reusable_connection_unlocked`, with whether a reset is allowed -/
  takeReusable : Nat → Bool → σ → Option (Nat × PoolGetSource) × σ
  counts : Nat → σ → PoolCounts
  /-- `polardb_reader_pool_conn_usable` -/
  usable : Nat → σ → Bool
  /-- Whether a connection that needs a reset suits the session. -/
  acceptable : Nat → σ → Bool
  /-- `remove_used_connection` and the end of the connection -/
  drop : Nat → Nat → σ → σ

/-- `server_saturated` of a pool that gave no connection -/
def PoolCounts.saturated (c : PoolCounts) (selectedMaxConnections : Nat) : Bool :=
  0 < selectedMaxConnections &&
    (decide (selectedMaxConnections ≤ c.used) ||
      ((0 < c.free && c.reservedFree == c.free) &&
        decide (selectedMaxConnections ≤ c.used + c.free)))

/-- `take_existing_connection` -/
def takeExistingConnection (w : ReaderWorld σ) (srv : Nat) (allowReset skipBusyPool : Bool)
    (selectedMaxConnections : Nat) (s : σ) : PoolGetResult × σ :=
  let locked := if skipBusyPool then w.tryLock srv s else (true, s)
  if locked.1 = false then ({ poolBusy := true }, locked.2)
  else if (w.counts srv locked.2).online = false then ({}, locked.2)
  else
    let taken := w.takeReusable srv allowReset locked.2
    match taken.1 with
    | some (conn, source) => ({ conn := some conn, source := source }, taken.2)
    | none =>
        ({ serverSaturated := (w.counts srv taken.2).saturated selectedMaxConnections }, taken.2)

/-- `PolarDB_PoolRequest` -/
structure PoolRequest where
  readyForMatching : Bool := true
  onlyPooled : Bool := false
  deriving DecidableEq

/-- `POLARDB_READER_POOL_SERVER_POP_SCAN_LIMIT` -/
def serverPopScanLimit : Nat :=
  16

/-- The scan of the worker's own cache -/
def takeLocalUsable (w : ReaderWorld σ) (srv : Nat) : Nat → σ → Option Nat × σ
  | 0, s => (none, s)
  | n + 1, s =>
      let taken := w.takeLocal srv s
      match taken.1 with
      | none => (none, taken.2)
      | some conn =>
          if w.usable conn taken.2 then (some conn, taken.2)
          else takeLocalUsable w srv n (w.drop srv conn taken.2)

/-- Whether a connection of the shared pool is kept for the session. -/
def ReaderWorld.suits (w : ReaderWorld σ) (source : PoolGetSource) (conn : Nat) (s : σ) : Bool :=
  if source = .exactMatch then w.usable conn s else w.acceptable conn s

/-- The scan of the shared pool -/
def takeSharedUsable (w : ReaderWorld σ) (srv : Nat) (allowReset skipBusyPool : Bool)
    (selectedMaxConnections : Nat) : Nat → σ → PoolGetResult × σ
  | 0, s => ({}, s)
  | n + 1, s =>
      let got := takeExistingConnection w srv allowReset skipBusyPool selectedMaxConnections s
      match got.1.conn with
      | none =>
          if got.1.poolBusy then ({ poolBusy := true }, got.2)
          else ({ serverSaturated := got.1.serverSaturated }, got.2)
      | some conn =>
          if w.suits got.1.source conn got.2 then got
          else
            takeSharedUsable w srv allowReset skipBusyPool selectedMaxConnections n
              (w.drop srv conn got.2)

/-- `polardb_reader_pool_get_from_server` -/
def readerPoolGetFromServer (w : ReaderWorld σ) (request : PoolRequest) (srv : Nat)
    (selectedMaxConnections : Nat) (skipBusyPool skipLocalReuse : Bool) (s : σ) :
    PoolGetResult × σ :=
  if request.readyForMatching = false then ({}, s)
  else
    let cached := if skipLocalReuse then (none, s) else takeLocalUsable w srv serverPopScanLimit s
    match cached.1 with
    | some conn => ({ conn := some conn, source := .exactMatch }, cached.2)
    | none =>
        takeSharedUsable w srv (!request.onlyPooled) skipBusyPool
          (if request.onlyPooled then 0 else selectedMaxConnections) serverPopScanLimit cached.2

/-! ## Trying readers -/

/-- `PolarDB_ReaderNode` -/
structure ReaderNode where
  srv : Nat
  lsn : Nat := 0
  weight : Nat := 0
  maxConnections : Nat := 0
  activeCount : Nat := 0
  lsnFresh : Bool := false
  targetReached : Bool := false
  deriving DecidableEq

/-- `PolarDB_ReaderResult` -/
structure ReaderResult where
  conn : Option Nat := none
  srv : Option Nat := none
  selectedPoolMissServer : Option Nat := none
  status : ReaderStatus := .readerUnavailable
  waitBypassAllowed : Bool := false
  serverSaturated : Bool := false
  selectedReaderLsn : Nat := 0
  bestConsideredReaderLsn : Nat := 0
  selectedReaderLsnFresh : Bool := false
  bestConsideredReaderLsnFresh : Bool := false
  deriving DecidableEq

def ReaderResult.acquired (r : ReaderResult) : Bool :=
  r.status == .acquired && r.conn.isSome

/-- A question put to the pool of a reader, with its answer. -/
structure Probe where
  node : ReaderNode
  result : PoolGetResult
  deriving DecidableEq

/-- The state of a selection, with the questions it has put. -/
structure Selection (σ : Type) where
  world : σ
  probes : List Probe := []

def Selection.probe (w : ReaderWorld σ) (request : PoolRequest) (node : ReaderNode)
    (skipBusyPool skipLocalReuse : Bool) (s : Selection σ) : PoolGetResult × Selection σ :=
  let r := readerPoolGetFromServer w request node.srv node.maxConnections skipBusyPool
    skipLocalReuse s.world
  (r.1, { world := r.2, probes := s.probes ++ [⟨node, r.1⟩] })

/-- `polardb_reader_acquire_with_alternate`, with the server that served the request -/
def readerAcquireWithAlternate (w : ReaderWorld σ) (request : PoolRequest) (selected : ReaderNode)
    (alternate : Option ReaderNode) (s : Selection σ) : (PoolGetResult × Nat) × Selection σ :=
  match alternate.filter fun node => node.srv ≠ selected.srv with
  | none =>
      let r := s.probe w request selected false false
      ((r.1, selected.srv), r.2)
  | some alternate =>
      let r := s.probe w request selected true false
      if r.1.poolBusy = false then ((r.1, selected.srv), r.2)
      else
        let other := r.2.probe w request alternate true false
        if other.1.conn.isSome then ((other.1, alternate.srv), other.2)
        else
          let r := other.2.probe w request selected false true
          ((r.1, selected.srv), r.2)

/-- What `try_node` notes of an attempt; a reader that is not the selected one is additional. -/
def noteAttempt (request : PoolRequest) (additional : Bool) (node : ReaderNode)
    (acquired : PoolGetResult × Nat) (result : ReaderResult) : Bool × ReaderResult :=
  let result :=
    if request.onlyPooled ∧ additional = false ∧ acquired.1.conn = none ∧
        acquired.1.poolBusy = false then
      { result with selectedPoolMissServer := some node.srv }
    else result
  match acquired.1.conn with
  | none =>
      (false,
        if request.onlyPooled then result
        else { result with serverSaturated := acquired.1.serverSaturated })
  | some conn =>
      (true, { result with conn := some conn, srv := some acquired.2, status := .acquired })

/-- `try_node` -/
def tryNode (w : ReaderWorld σ) (request : PoolRequest) (alternate : Option ReaderNode)
    (additional : Bool) (node : ReaderNode) (result : ReaderResult) (s : Selection σ) :
    Bool × ReaderResult × Selection σ :=
  let acquired := readerAcquireWithAlternate w request node alternate s
  let noted := noteAttempt request additional node acquired.1 result
  (noted.1, noted.2, acquired.2)

/-- The others, for a request that creates no connection -/
def tryPooled (w : ReaderWorld σ) (request : PoolRequest) (alternate : Option ReaderNode) :
    List ReaderNode → ReaderResult → Selection σ → ReaderResult × Selection σ
  | [], result, s => (result, s)
  | node :: rest, result, s =>
      let tried := tryNode w request alternate true node result s
      if tried.1 then tried.2 else tryPooled w request alternate rest tried.2.1 tried.2.2

/-- The others, after the selected reader reported saturation: the first that is not saturated
is kept for the creation of a connection. -/
def confirmGroup (w : ReaderWorld σ) (request : PoolRequest) (alternate : Option ReaderNode) :
    List ReaderNode → ReaderResult → Selection σ → ReaderResult × Selection σ
  | [], result, s => ({ result with status := .readerGroupBusy }, s)
  | node :: rest, result, s =>
      let tried := tryNode w request alternate true node result s
      if tried.1 then tried.2
      else if tried.2.1.serverSaturated = false then
        ({ tried.2.1 with srv := some node.srv }, tried.2.2)
      else confirmGroup w request alternate rest tried.2.1 tried.2.2

/-- `polardb_take_conn_from_reader_nodes`; the others follow the selected reader round. -/
def takeConnFromReaderNodes (w : ReaderWorld σ) (request : PoolRequest) (nodes : List ReaderNode)
    (selectedIdx busyAlternateIdx : Option Nat) (confirmReaderGroupCapacity : Bool)
    (firstAttemptIsAdditional : Bool) (s : Selection σ) : ReaderResult × Selection σ :=
  match selectedIdx with
  | none => ({}, s)
  | some i =>
      match nodes[i]? with
      | none => ({}, s)
      | some selected =>
          let alternate := busyAlternateIdx.bind fun j => nodes[j]?
          let others := nodes.drop (i + 1) ++ nodes.take i
          let tried := tryNode w request alternate firstAttemptIsAdditional selected
            { srv := some selected.srv } s
          if tried.1 then tried.2
          else if request.onlyPooled then
            tryPooled w request alternate others tried.2.1 tried.2.2
          else if confirmReaderGroupCapacity ∧ tried.2.1.serverSaturated then
            confirmGroup w request alternate others tried.2.1 tried.2.2
          else tried.2

/-! ## Drawing a reader -/

/-- A draw of `rand_fast` -/
def Selection.rand (w : ReaderWorld σ) (s : Selection σ) : Nat × Selection σ :=
  let r := w.rand s.world
  (r.1, { s with world := r.2 })

/-- A node with the load of its server -/
def Selection.loaded (w : ReaderWorld σ) (node : ReaderNode) (s : Selection σ) :
    ReaderNode × Selection σ :=
  let r := w.usedCount node.srv s.world
  ({ node with activeCount := r.1 }, { s with world := r.2 })

/-- The index of the first node whose running sum reaches `k`, else the last -/
def pickAt (k : Nat) : List ReaderNode → Nat → Nat → Nat
  | [], _, j => j - 1
  | node :: rest, runningSum, j =>
      if k ≤ runningSum + node.weight then j else pickAt k rest (runningSum + node.weight) (j + 1)

/-- `polardb_reader_pool_pick_weighted_node` -/
def pickWeightedNode (w : ReaderWorld σ) (nodes : List ReaderNode) (weightSum : Nat)
    (s : Selection σ) : Option Nat × Selection σ :=
  if nodes = [] ∨ weightSum = 0 then (none, s)
  else
    let high := s.rand w
    let low := high.2.rand w
    let randomValue := high.1 % 2 ^ 32 * 2 ^ 32 + low.1 % 2 ^ 32
    (some (pickAt (randomValue % weightSum + 1) nodes 0 0), low.2)

/-- `polardb_reader_normalized_load_compare` -/
def normalizedLoadCompare (lhs rhs : ReaderNode) : Ordering :=
  compare (lhs.activeCount * rhs.weight) (rhs.activeCount * lhs.weight)

/-- The less loaded of two candidates; a tie is drawn. -/
def takeSecond (w : ReaderWorld σ) (first second : ReaderNode) (s : Selection σ) :
    Bool × Selection σ :=
  let first := s.loaded w first
  let second := first.2.loaded w second
  match normalizedLoadCompare second.1 first.1 with
  | .lt => (true, second.2)
  | .gt => (false, second.2)
  | .eq =>
      let r := second.2.rand w
      (r.1 % 2 == 0, r.2)

/-- `polardb_get_conn_from_reader_nodes` -/
def getConnFromReaderNodes (w : ReaderWorld σ) (request : PoolRequest) (nodes : List ReaderNode)
    (weightSum : Nat) (pairPreselected confirmReaderGroupCapacity avoidBusyPool : Bool)
    (firstAttemptIsAdditional : Bool) (s : Selection σ) : ReaderResult × Selection σ :=
  if nodes = [] ∨ weightSum = 0 then ({}, s)
  else if nodes.length = 1 then
    takeConnFromReaderNodes w request nodes (some 0) none confirmReaderGroupCapacity
      firstAttemptIsAdditional s
  else
    let comparePreselectedPair := pairPreselected && nodes.length == 2
    let first := if comparePreselectedPair then (some 0, s) else pickWeightedNode w nodes weightSum s
    let firstIdx := first.1.getD 0
    let second :=
      if comparePreselectedPair then (1, first.2)
      else
        let second := pickWeightedNode w nodes weightSum first.2
        if second.1.getD 0 = firstIdx then
          let r := second.2.rand w
          ((firstIdx + 1 + r.1 % 2 ^ 32 % (nodes.length - 1)) % nodes.length, r.2)
        else (second.1.getD 0, second.2)
    let secondIdx := second.1
    match nodes[firstIdx]?, nodes[secondIdx]? with
    | some firstNode, some secondNode =>
        let chosen := takeSecond w firstNode secondNode second.2
        let selectedIdx := if chosen.1 then secondIdx else firstIdx
        let busyAlternateIdx :=
          if avoidBusyPool then some (if selectedIdx = firstIdx then secondIdx else firstIdx)
          else none
        takeConnFromReaderNodes w request nodes (some selectedIdx) busyAlternateIdx
          confirmReaderGroupCapacity firstAttemptIsAdditional chosen.2
    | _, _ => ({}, second.2)

/-! ## Evaluating readers -/

/-- The sample of `polardb_sample_lsn` -/
structure ReaderLsnSample where
  lsn : Nat := 0
  fresh : Bool := false
  deriving DecidableEq

/-- `PolarDB_ServerSnapshotEntry`, with what is read of its server; addresses are compared only. -/
structure ReaderEntry where
  srv : Nat
  weight : Int := 1
  maxConnections : Int := 1
  maxLatencyUs : Nat := 0
  fastStatus : ServerStatus := .online
  currentLatencyUs : Nat := 0
  address : Option String := none
  port : Nat := 0
  sample : ReaderLsnSample := {}
  deriving DecidableEq

/-- The servers of one hostgroup, as they were published.  No server is listed twice, and
a weight is at most that of the configuration table. -/
structure ReaderList where
  servers : List ReaderEntry
  /-- `selection_start` -/
  selectionStart : Bool := true
  distinct : (servers.map ReaderEntry.srv).Nodup
  weights : ∀ entry ∈ servers, entry.weight ≤ 10000000

/-- Thread variables of a selection -/
structure ReaderVars where
  defaultMaxLatencyMs : Nat := 0
  preferLessLoaded : Bool := false
  preferFreshestBelowTarget : Bool := false
  lsnLagRangeBytes : Int := 0
  deriving DecidableEq

structure ReaderRequest where
  plan : ReaderPlan := {}
  waitSpec : WaitSpec := {}
  onlyPooled : Bool := false
  excludeAddress : Option String := none
  excludePort : Int := -1
  confirmReaderGroupCapacity : Bool := false
  deriving DecidableEq

/-- What is known before the servers are looked at. -/
structure ReaderScope where
  isPolardbHostgroup : Bool := true
  /-- `requests_rfq_lsn` of the startup profile -/
  requestsRfqLsn : Bool := true
  readyForMatching : Bool := true
  vars : ReaderVars := {}
  /-- The entry of the hostgroup -/
  readers : Option ReaderList
  /-- The entry of the writer hostgroup -/
  writers : Option (List ReaderEntry) := none

/-- `pgsql_srv_latency_allowed` -/
def latencyAllowed (vars : ReaderVars) (currentLatencyUs configuredMaxLatencyUs : Nat) : Bool :=
  let maxLatencyUs :=
    if configuredMaxLatencyUs = 0 then vars.defaultMaxLatencyMs * 1000 else configuredMaxLatencyUs
  maxLatencyUs == 0 || decide (currentLatencyUs < maxLatencyUs)

/-- `polardb_reader_is_candidate` -/
def isCandidate (vars : ReaderVars) (entry : ReaderEntry) : Bool :=
  entry.fastStatus == .online && decide (0 < entry.weight) &&
    latencyAllowed vars entry.currentLatencyUs entry.maxLatencyUs && decide (0 < entry.maxConnections)

/-- `polardb_reader_endpoint_is_known_replica` -/
def endpointIsKnownReplica (writers : Option (List ReaderEntry)) (server : ReaderEntry) : Bool :=
  match writers, server.address with
  | some writers, some address =>
      let known := writers.filter fun writer =>
        writer.fastStatus != .offlineHard && writer.address.isSome
      !known.isEmpty &&
        known.all fun writer => !(writer.port == server.port && writer.address == some address)
  | _, _ => false

/-- Whether the endpoint of a server is excluded. -/
def ReaderRequest.excludes (req : ReaderRequest) (entry : ReaderEntry) : Bool :=
  match req.excludeAddress, entry.address with
  | some excluded, some address =>
      excluded != "" && decide (0 ≤ req.excludePort) && address == excluded &&
        decide ((entry.port : Int) = req.excludePort)
  | _, _ => false

/-- `lag_cap_enabled` -/
def ReaderRequest.lagCapEnabled (req : ReaderRequest) : Bool :=
  0 < req.plan.maxLagBytes

/-- `polardb_request_can_sample_pair` -/
def ReaderRequest.canSamplePair (req : ReaderRequest) : Bool :=
  !req.lagCapEnabled && !req.onlyPooled && !req.confirmReaderGroupCapacity &&
    (req.excludeAddress.getD "" == "" || decide (req.excludePort < 0))

/-- `polardb_request_can_skip_busy_pool` -/
def ReaderRequest.canSkipBusyPool (req : ReaderRequest) : Bool :=
  !req.waitSpec.hasWait && req.canSamplePair

/-- `within_byte_cap` -/
def withinByteCap (plan : ReaderPlan) (replicaLsn : Nat) : Bool :=
  if plan.maxLagBytes ≤ 0 then true
  else if plan.groupLsn = 0 ∨ replicaLsn = 0 then false
  else if plan.groupLsn ≤ replicaLsn then true
  else decide (((plan.groupLsn - replicaLsn : Nat) : Int) ≤ plan.maxLagBytes)

/-- `polardb_reader_status_priority` -/
def readerStatusPriority : ReaderStatus → Nat
  | .rfqUnavailable => 80
  | .groupLsnUnknown => 70
  | .readerLsnUnknown => 60
  | .readerLsnStale => 50
  | .readerLagExceeded => 40
  | .readerBusy => 30
  | .readerGroupBusy => 30
  | .retryAfterConfigChange => 20
  | .readerUnavailable => 10
  | .acquired => 0

/-- `polardb_reader_status_prefer` -/
def readerStatusPrefer (current next : ReaderStatus) : ReaderStatus :=
  if readerStatusPriority current < readerStatusPriority next then next else current

/-- `lag_allows_reader`: why a reader is refused -/
def lagRefuses (req : ReaderRequest) (sample : ReaderLsnSample) : Option ReaderStatus :=
  if req.lagCapEnabled = false then none
  else if sample.lsn = 0 then some .readerLsnUnknown
  else if sample.fresh = false then some .readerLsnStale
  else if withinByteCap req.plan sample.lsn = false then some .readerLagExceeded
  else none

/-- `evaluate_reader`: the node of an eligible server, and the status of the readers refused -/
def evaluateReader (scope : ReaderScope) (req : ReaderRequest) (filterStatus : ReaderStatus)
    (entry : ReaderEntry) : Option ReaderNode × ReaderStatus :=
  if isCandidate scope.vars entry = false ∨
      (req.plan.requireReplica ∧ endpointIsKnownReplica scope.writers entry = false) ∨
      req.excludes entry then
    (none, filterStatus)
  else
    let sample := if req.waitSpec.hasWait || req.lagCapEnabled then entry.sample else {}
    match lagRefuses req sample with
    | some status => (none, readerStatusPrefer filterStatus status)
    | none =>
        (some
          { srv := entry.srv
            lsn := sample.lsn
            weight := entry.weight.toNat % 2 ^ 32
            maxConnections := entry.maxConnections.toNat % 2 ^ 32
            lsnFresh := sample.fresh
            targetReached :=
              sample.fresh && req.waitSpec.hasWait && decide (req.waitSpec.target ≤ sample.lsn) },
          filterStatus)

/-- The eligible servers of a list in order -/
def evaluateReaders (scope : ReaderScope) (req : ReaderRequest) :
    List ReaderEntry → ReaderStatus → List ReaderNode × ReaderStatus
  | [], filterStatus => ([], filterStatus)
  | entry :: rest, filterStatus =>
      let evaluated := evaluateReader scope req filterStatus entry
      let others := evaluateReaders scope req rest evaluated.2
      (evaluated.1.toList ++ others.1, others.2)

/-! ## Selecting -/

/-- `polardb_reader_lsn_in_best_behind_range` -/
def lsnInBestBehindRange (readerLsn bestLsn : Nat) (rangeBytes : Int) : Bool :=
  if readerLsn = 0 ∨ bestLsn = 0 then false
  else if readerLsn = bestLsn then true
  else if rangeBytes ≤ 0 ∨ bestLsn < readerLsn then false
  else decide (((bestLsn - readerLsn : Nat) : Int) ≤ rangeBytes)

/-- `polardb_reader_pool_refine_two_by_lsn_target`: whether the other reader is taken -/
def refineTwoByLsnTarget (w : ReaderWorld σ) (vars : ReaderVars) (selected other : ReaderNode)
    (hasWaitTarget : Bool) (s : Selection σ) : Bool × Selection σ :=
  if hasWaitTarget = false then (false, s)
  else if other.targetReached ≠ selected.targetReached then (other.targetReached, s)
  else if selected.targetReached ∨ selected.lsnFresh = false ∨ other.lsnFresh = false then (false, s)
  else
    let loadedSelected := if vars.preferLessLoaded then s.loaded w selected else (selected, s)
    let loadedOther :=
      if vars.preferLessLoaded then loadedSelected.2.loaded w other else (other, loadedSelected.2)
    if vars.preferFreshestBelowTarget then
      if other.lsn = selected.lsn then (false, loadedOther.2)
      else
        let bestLsn := max other.lsn selected.lsn
        (lsnInBestBehindRange other.lsn bestLsn vars.lsnLagRangeBytes &&
          !lsnInBestBehindRange selected.lsn bestLsn vars.lsnLagRangeBytes, loadedOther.2)
    else if vars.preferLessLoaded = false ∨ other.lsn ≤ selected.lsn then (false, loadedOther.2)
    else (normalizedLoadCompare loadedOther.1 loadedSelected.1 == .lt, loadedOther.2)

/-- Two readers are refined, and fewer are taken as they are. -/
def refineNodes (w : ReaderWorld σ) (vars : ReaderVars) (hasWaitTarget : Bool) :
    List ReaderNode → Selection σ → Bool × Selection σ
  | [selected, other], s => refineTwoByLsnTarget w vars selected other hasWaitTarget s
  | _, s => (false, s)

/-- What the choice among the eligible readers leaves. -/
structure Chosen (σ : Type) where
  result : ReaderResult
  nodes : List ReaderNode
  filterStatus : ReaderStatus
  selection : Selection σ

def poolRequest (scope : ReaderScope) (req : ReaderRequest) : PoolRequest :=
  { readyForMatching := scope.readyForMatching, onlyPooled := req.onlyPooled }

/-- Whether the node that served the request had reached the target -/
def bypassAllowed (nodes : List ReaderNode) (result : ReaderResult) : Bool :=
  ((nodes.find? fun node => some node.srv == result.srv).map ReaderNode.targetReached).getD false

/-- The choice between exactly two servers -/
def chooseOfTwo (w : ReaderWorld σ) (scope : ReaderScope) (req : ReaderRequest)
    (entry0 entry1 : ReaderEntry) (s : Selection σ) : Chosen σ :=
  let sequence := w.nextSequence s.world
  let s := { s with world := sequence.2 }
  let flip := weightedIndex sequence.1 entry0.weight.toNat entry1.weight.toNat != 0
  let firstEntry := if flip then entry1 else entry0
  let peerEntry := if flip then entry0 else entry1
  let avoidBusyPool := decide (entry0.weight.toNat = entry1.weight.toNat) && req.canSkipBusyPool
  let first := evaluateReader scope req .readerUnavailable firstEntry
  let peerEvaluated :=
    avoidBusyPool || req.confirmReaderGroupCapacity || first.1.isNone ||
      (req.waitSpec.hasWait && !(first.1.map ReaderNode.targetReached).getD false)
  let peer := if peerEvaluated then evaluateReader scope req first.2 peerEntry else (none, first.2)
  let nodes := first.1.toList ++ peer.1.toList
  let refined := refineNodes w scope.vars req.waitSpec.hasWait nodes s
  let selectedIdx : Nat := if refined.1 then 1 else 0
  let taken := takeConnFromReaderNodes w (poolRequest scope req) nodes
    (if nodes = [] then none else some selectedIdx)
    (if avoidBusyPool ∧ nodes.length = 2 then some (1 - selectedIdx) else none)
    req.confirmReaderGroupCapacity false refined.2
  let late :=
    if taken.1.acquired = false ∧ req.onlyPooled ∧ first.1.isSome ∧ peerEvaluated = false then
      let peer := evaluateReader scope req peer.2 peerEntry
      match peer.1 with
      | none => (taken.1, nodes, peer.2, taken.2)
      | some node =>
          let fallback := takeConnFromReaderNodes w (poolRequest scope req) [node] (some 0) none
            false true taken.2
          (if fallback.1.acquired then
              { fallback.1 with selectedPoolMissServer := taken.1.selectedPoolMissServer }
            else taken.1,
            nodes ++ [node], peer.2, fallback.2)
    else (taken.1, nodes, peer.2, taken.2)
  { result :=
      if late.1.acquired then { late.1 with waitBypassAllowed := bypassAllowed late.2.1 late.1 }
      else late.1
    nodes := late.2.1
    filterStatus := late.2.2.1
    selection := late.2.2.2 }

def weightSumOf (nodes : List ReaderNode) : Nat :=
  (nodes.map ReaderNode.weight).sum

/-- Two distinct servers of a list with one positive weight, both evaluated; `none` where the list
must be read. -/
def samplePair (w : ReaderWorld σ) (scope : ReaderScope) (req : ReaderRequest)
    (servers : List ReaderEntry) (s : Selection σ) :
    Option (ReaderNode × ReaderNode) × Selection σ :=
  match servers with
  | [] => (none, s)
  | head :: _ =>
      if req.canSamplePair = false ∨ servers.length ≤ 2 ∨ head.weight ≤ 0 ∨
          servers.any fun entry => entry.weight != head.weight then (none, s)
      else
        let draw0 := s.rand w
        let i := draw0.1 % 2 ^ 32 % servers.length
        let draw1 := draw0.2.rand w
        let j := (i + 1 + draw1.1 % 2 ^ 32 % (servers.length - 1)) % servers.length
        let sampled (k : Nat) := servers[k]?.bind fun entry =>
          (evaluateReader scope req .readerUnavailable entry).1
        match sampled i, sampled j with
        | some first, some second =>
            (if req.waitSpec.hasWait = false ∨ (first.targetReached ∧ second.targetReached) then
                some (first, second)
              else none, draw1.2)
        | _, _ => (none, draw1.2)

/-- The swaps that bring the ready readers to the front: a reader that is behind and in the place
of a ready one moves to the place of that one. -/
def partitionReady : List ReaderNode → List ReaderNode → List ReaderNode →
    List ReaderNode × List ReaderNode
  | ready, behind, [] => (ready, behind)
  | ready, behind, node :: rest =>
      if node.targetReached then partitionReady (ready ++ [node]) (behind.drop 1 ++ behind.take 1) rest
      else partitionReady ready (behind ++ [node]) rest

/-- The preferred attempt, on the readers that reached the target -/
def tryReady (w : ReaderWorld σ) (request : PoolRequest) (req : ReaderRequest)
    (ready : List ReaderNode) (sampledPair : Bool) (s : Selection σ) :
    ReaderResult × Selection σ :=
  let taken := getConnFromReaderNodes w request ready (weightSumOf ready) false
    req.confirmReaderGroupCapacity (sampledPair && ready.length == 2) false s
  (if taken.1.acquired then { taken.1 with waitBypassAllowed := true }
    else
      { status := taken.1.status
        srv := taken.1.srv
        selectedPoolMissServer := taken.1.selectedPoolMissServer
        serverSaturated := taken.1.serverSaturated }, taken.2)

/-- The fallback attempt, whose result replaces that of the preferred one unless both found their
readers saturated -/
def tryFallback (w : ReaderWorld σ) (request : PoolRequest) (req : ReaderRequest)
    (nodes : List ReaderNode) (sampledPair attempted : Bool) (result : ReaderResult)
    (s : Selection σ) : ReaderResult × Selection σ :=
  let fallback := getConnFromReaderNodes w request nodes (weightSumOf nodes) sampledPair
    req.confirmReaderGroupCapacity sampledPair attempted s
  (if fallback.1.acquired then
      { fallback.1 with
        selectedPoolMissServer := fallback.1.selectedPoolMissServer.or result.selectedPoolMissServer
        waitBypassAllowed := false }
    else if fallback.1.srv = none then result
    else if (req.confirmReaderGroupCapacity = false ∨ fallback.1.status ≠ .readerGroupBusy) ∨
        result.status ≠ .readerGroupBusy then
      { result with
        srv := fallback.1.srv
        serverSaturated := fallback.1.serverSaturated
        status := fallback.1.status }
    else result, fallback.2)

/-- The ready readers are preferred, and the readers behind stand in for them. -/
def preferReady (w : ReaderWorld σ) (request : PoolRequest) (req : ReaderRequest)
    (nodes : List ReaderNode) (sampledPair : Bool) (filterStatus : ReaderStatus)
    (s : Selection σ) : ReaderResult × Selection σ :=
  let attempted := req.waitSpec.hasWait && nodes.any ReaderNode.targetReached
  let parts := if attempted then partitionReady [] [] nodes else ([], nodes)
  let preferred :=
    if attempted ∧ weightSumOf parts.1 ≠ 0 then tryReady w request req parts.1 sampledPair s
    else ({ status := filterStatus }, s)
  let preferredCanCreate :=
    req.confirmReaderGroupCapacity && preferred.1.srv.isSome && !preferred.1.serverSaturated &&
      preferred.1.status != .readerGroupBusy
  if preferred.1.acquired ∨ preferredCanCreate then preferred
  else tryFallback w request req parts.2 sampledPair attempted preferred.1 preferred.2

/-- The choice among other numbers of servers; the list is read round from a random server. -/
def chooseOfMany (w : ReaderWorld σ) (scope : ReaderScope) (req : ReaderRequest)
    (servers : List ReaderEntry) (s : Selection σ) : Chosen σ :=
  let sampled := samplePair w scope req servers s
  match sampled.1 with
  | some (first, second) =>
      let taken := preferReady w (poolRequest scope req) req [first, second] true .readerUnavailable
        sampled.2
      { result := taken.1, nodes := [first, second], filterStatus := .readerUnavailable
        selection := taken.2 }
  | none =>
      let start :=
        if 2 < servers.length then
          let r := sampled.2.rand w
          (r.1 % 2 ^ 32 % servers.length, r.2)
        else (0, sampled.2)
      let evaluated := evaluateReaders scope req (servers.drop start.1 ++ servers.take start.1)
        .readerUnavailable
      let taken := preferReady w (poolRequest scope req) req evaluated.1 false evaluated.2 start.2
      { result := taken.1, nodes := evaluated.1, filterStatus := evaluated.2, selection := taken.2 }

/-- `polardb_merge_reader_lsn_observation` -/
def mergeReaderLsnObservation (result : ReaderResult) (node : ReaderNode) : ReaderResult :=
  let result :=
    if some node.srv = result.srv then
      { result with selectedReaderLsn := node.lsn, selectedReaderLsnFresh := node.lsnFresh }
    else result
  if node.lsnFresh ∧
      (result.bestConsideredReaderLsnFresh = false ∨ result.bestConsideredReaderLsn < node.lsn) then
    { result with bestConsideredReaderLsn := node.lsn, bestConsideredReaderLsnFresh := true }
  else result

/-- The status of a selection that acquired nothing -/
def failedStatus (req : ReaderRequest) (result : ReaderResult) (filterStatus : ReaderStatus) :
    ReaderStatus :=
  if result.status = .readerGroupBusy then .readerGroupBusy
  else if result.srv.isSome then
    if req.onlyPooled then .rfqUnavailable
    else if result.serverSaturated then .readerBusy
    else .readerUnavailable
  else filterStatus

def Chosen.finish (req : ReaderRequest) (chosen : Chosen σ) : ReaderResult × Selection σ :=
  let result :=
    if req.waitSpec.hasWait then
      chosen.nodes.foldl mergeReaderLsnObservation
        { chosen.result with
          selectedReaderLsn := 0
          bestConsideredReaderLsn := 0
          selectedReaderLsnFresh := false
          bestConsideredReaderLsnFresh := false }
    else chosen.result
  (if result.acquired then result
    else { result with status := failedStatus req result chosen.filterStatus }, chosen.selection)

/-- Why a selection ends before it looks at the servers -/
def refusedEarly (scope : ReaderScope) (req : ReaderRequest) : Option ReaderStatus :=
  if scope.isPolardbHostgroup = false then some .readerUnavailable
  else if req.waitSpec.hasWait ∧ scope.requestsRfqLsn = false then some .rfqUnavailable
  else if req.lagCapEnabled ∧ req.plan.groupLsn = 0 then some .groupLsnUnknown
  else none

/-- `polardb_try_acquire_reader_connection` -/
def tryAcquireReaderConnection (w : ReaderWorld σ) (scope : ReaderScope) (req : ReaderRequest)
    (s : Selection σ) : ReaderResult × Selection σ :=
  match refusedEarly scope req, scope.readers with
  | some status, _ => ({ status := status }, s)
  | none, none => ({}, s)
  | none, some readers =>
      if readers.servers = [] then ({}, s)
      else
        match readers.servers, readers.selectionStart with
        | [entry0, entry1], true => (chooseOfTwo w scope req entry0 entry1 s).finish req
        | servers, _ => (chooseOfMany w scope req servers s).finish req

end Readers

end PolarProxy
