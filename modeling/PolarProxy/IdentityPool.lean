import PolarProxy.StartupIdentity
import PolarProxy.PoolKeys
import PolarProxy.PoolSystem

/-!
# Pools of connections with startup identities

Sessions take connections from the pools of the servers, from the cache of their
worker, and from reservations of their worker, and open connections themselves.
Each way has its own check of the startup identity.  Connections come back to the
pools, to the cache of a worker, or are reserved for another worker.

Each operation says with which configuration the worker runs it; the configuration
and the profile of a hostgroup may change between any two operations.  A connection
that a check refuses stays in USED until its caller removes and deletes it.

`holder` is not part of the source: it says which session has a connection.
-/

namespace PolarProxy

open SwapRemove

/-- `polardb_reader_pool_reservation` of a worker -/
structure WorkerReservation where
  token : Nat
  session : Nat
  key : PoolMatchKey
  deriving DecidableEq

structure IdentityPool where
  pools : PoolSystem
  /-- By server and connection. -/
  backends : Nat → Nat → BackendStartup := fun _ _ => {}
  sessions : Nat → SessionIdentity
  /-- `cached_connections` of each worker, with their servers -/
  cached : Nat → List (Nat × Nat) := fun _ => []
  awaited : Nat → Option WorkerReservation := fun _ => none
  holder : Nat → Nat → Option Nat := fun _ _ => none

/-- A session that asks for a connection, and what it asks with. -/
structure Taker where
  session : Nat
  config : StartupConfig
  protocol : ProxyProtocol
  requireRfq : Bool := false
  authHash : Nat
  optionsHash : Nat

/-- `PolarDB_ReaderLocalReturn` -/
inductive LocalReturn
  | useSharedPool
  | useSharedPoolReuseChecked
  | keepWithWorker
  | removeConnection
  deriving DecidableEq

/-- `local_return_decision`; `served` says that the hostgroup is a reader or writer
hostgroup of PolarDB, and `wanted` that another worker waits for the key. -/
def BackendStartup.localReturnDecision (b : BackendStartup) (facts : ReuseFacts)
    (profile : Option StartupProfile) (served : Bool) (wanted : PoolMatchKey → Bool) :
    LocalReturn × BackendStartup :=
  if b.poolKey.isEmpty || !served then (.useSharedPool, b)
  else
    match b.returnDecision facts profile with
    | (.returnable, b) =>
        (if wanted b.matchKey then .useSharedPoolReuseChecked else .keepWithWorker, b)
    | (_, b) => (.removeConnection, b)

def PoolSearch.withStartup (search : PoolSearch) (admits : Nat → Bool) : PoolSearch :=
  { search with client := search.client.map fun view => { view with startupAdmits := admits } }

/-- What a worker knows when it gives a connection back. -/
structure Returning where
  facts : ReuseFacts
  /-- The protocol of the hostgroup; `none` when it is no PolarDB hostgroup. -/
  protocol : Option ProxyProtocol
  served : Bool := true
  /-- The connection keeps the snapshot it was selected with. -/
  hasSnapshot : Bool := false
  /-- The classic pool may keep it. -/
  reusable : Bool := true
  /-- The generic cache of the worker takes it. -/
  toCache : Bool := false
  wanted : PoolMatchKey → Bool := fun _ => false
  check : RequestCheck

def Returning.profile (r : Returning) : Option StartupProfile :=
  r.protocol.map .fromProtocol

/-- The first part of `return_connection_with_match_key`; a connection that
`local_return_decision` has checked is not checked again. -/
def BackendStartup.returnCheck (b : BackendStartup) (r : Returning) (checked : Bool) :
    Bool × BackendStartup :=
  if !(r.facts.idle && r.facts.withinLimits) then (false, b)
  else if checked then (!b.matchKey.isEmpty, b)
  else
    let (status, b) := b.returnDecision r.facts r.profile
    (status == .returnable, b)

namespace IdentityPool

variable (addresses : AddressSyntax) (hostgroup : Nat → Nat)

def setBackend (s : IdentityPool) (srv conn : Nat) (b : BackendStartup) : IdentityPool :=
  { s with backends := Function.update s.backends srv (Function.update (s.backends srv) conn b) }

def setHolder (s : IdentityPool) (srv conn : Nat) (session : Option Nat) : IdentityPool :=
  { s with holder := Function.update s.holder srv (Function.update (s.holder srv) conn session) }

/-- An operation on the pool of a server, and the connection it gives. -/
def serve (s : IdentityPool) (srv : Nat) (op : PoolOp) : Option (Option Nat × IdentityPool) :=
  ((s.pools.servers srv).step (s.pools.requests (hostgroup srv)) op).map fun result =>
    (result.given, { s with pools := s.pools.apply srv (hostgroup srv) result })

/-- The request of a session, which remembers its identity. -/
def prepare (s : IdentityPool) (taker : Taker) : PoolRequest × IdentityPool :=
  let (request, sess) := (s.sessions taker.session).preparePoolRequest addresses taker.config
    (.fromProtocol taker.protocol) taker.requireRfq taker.authHash taker.optionsHash
  (request, { s with sessions := Function.update s.sessions taker.session sess })

def classify (s : IdentityPool) (taker : Taker) (facts : ReuseFacts) (request : PoolRequest)
    (srv conn : Nat) : ReuseState × BackendStartup :=
  (s.backends srv conn).classify addresses taker.config (s.sessions taker.session).stream facts
    request

/-- The startup check of a search for a session. -/
def admits (s : IdentityPool) (taker : Taker) (profile : Option ProxyProtocol) (srv conn : Nat) :
    Bool :=
  (s.backends srv conn).startupAdmits addresses taker.config (profile.map .fromProtocol)
    (s.sessions taker.session).stream

/-! ## Opening and starting -/

/-- The settings of a connection that is opened for a session. -/
def openedFor (s : IdentityPool) (taker : Taker) : BackendStartup :=
  ({} : BackendStartup).setStartupSettings (.fromProtocol taker.protocol)
    taker.config.identityMode taker.config.generation
    ((startupClientFromSession addresses taker.config (s.sessions taker.session).stream).getD {})

/-- A connection is opened for a session and goes to USED. -/
def openFor (s : IdentityPool) (taker : Taker) (srv conn : Nat) (key : Option PoolMatchKey)
    (holder : Option Nat) : Option IdentityPool :=
  if (s.pools.servers srv).status ≠ .online then none
  else
    match s.serve hostgroup srv (.openConnection conn) with
    | none => none
    | some (_, s) =>
        match s.serve hostgroup srv (.addUsed conn key) with
        | none => none
        | some (_, s) => some ((s.setBackend srv conn (s.openedFor addresses taker)).setHolder
            srv conn holder)

/-- The last part of `acquire`: a connection is opened on the selected server. -/
def createReader (s : IdentityPool) (taker : Taker) (srv conn : Nat) : Option IdentityPool :=
  let (request, s) := s.prepare addresses taker
  s.openFor addresses hostgroup taker srv conn (some request.matchKey) (some taker.session)

/-- `warm_split_pools`: a connection is opened with the identity of a session
that does not get it. -/
def warmup (s : IdentityPool) (taker : Taker) (srv conn : Nat) : Option IdentityPool :=
  s.openFor addresses hostgroup taker srv conn none none

/-- A warm connection that is connected goes to FREE. -/
def addWarm (s : IdentityPool) (srv conn : Nat) (facts : ReuseFacts) (check : RequestCheck) :
    Option IdentityPool :=
  let b := (s.backends srv conn).ensurePoolKey facts
    (s.backends srv conn).profile.emitsStartupParams
  if !b.isConnected facts then none
  else
    ((s.setBackend srv conn b).serve hostgroup srv (.addMatching conn b.matchKey check)).map
      Prod.snd

/-- `connect_start` of the session that has the connection; one whose settings were
set when it was opened does not need the session. -/
def connect (s : IdentityPool) (session srv conn : Nat) (config : StartupConfig)
    (profile : Option ProxyProtocol) : Option IdentityPool :=
  let b := s.backends srv conn
  if b.started || !(b.settingsSet || s.holder srv conn == some session) then none
  else
    some (s.setBackend srv conn (b.connectStart addresses config (profile.map .fromProtocol)
      (s.sessions session).stream))

/-! ## Taking -/

/-- `get_MyConn_from_pool` -/
def takeClassic (s : IdentityPool) (taker : Taker) (profile : Option ProxyProtocol) (srv : Nat)
    (search : PoolSearch) : Option IdentityPool :=
  if search.client.isNone then none
  else
    match s.serve hostgroup srv
      (.takeClassic (search.withStartup (s.admits addresses taker profile srv))) with
    | none => none
    | some (none, s) => some s
    | some (some conn, s) =>
        let s := if conn = search.fresh then s.setBackend srv conn {} else s
        some (s.setHolder srv conn (some taker.session))

/-- A key that the pool of a server has a connection for. -/
def exactHit (s : IdentityPool) (srv : Nat) (key : PoolMatchKey) : Bool :=
  ((s.pools.servers srv).removeMatchingFree key).1.isSome

/-- The shared part of `polardb_reader_pool_get_from_server`, and, when `strict`, of the
loop in `acquire` that may open a connection. -/
def takeReader (s : IdentityPool) (taker : Taker) (profile : Option ProxyProtocol) (srv : Nat)
    (allowReset strict : Bool) (search : PoolSearch) (facts : Nat → ReuseFacts) :
    Option IdentityPool :=
  let (request, s) := s.prepare addresses taker
  if search.client.isNone || !request.readyForMatching then some s
  else
    let exact := s.exactHit srv request.matchKey
    match s.serve hostgroup srv (.takeExisting request.matchKey true allowReset
      (search.withStartup (s.admits addresses taker profile srv))) with
    | none => none
    | some (none, s) => some s
    | some (some conn, s) =>
        let (state, b) := s.classify addresses taker (facts conn) request srv conn
        let acceptable :=
          if exact || strict then state == .exact
          else !(s.backends srv conn).isConnected (facts conn) || state.isReusable
        let s := s.setBackend srv conn b
        some (if acceptable then s.setHolder srv conn (some taker.session) else s)

/-- `polardb_local_reader_connection_matches` -/
def localReaderMatches (s : IdentityPool) (request : PoolRequest) (srv : Nat)
    (entry : Nat × Nat) : Bool :=
  entry.1 == srv &&
    (s.backends srv entry.2).profileGeneration ==
      request.startupProfile.generation request.identityMode &&
    (s.backends srv entry.2).poolKey == request.key

/-- `polardb_take_local_reader_connection`, and the check of its caller -/
def takeLocalReader (s : IdentityPool) (worker : Nat) (taker : Taker) (srv : Nat)
    (facts : Nat → ReuseFacts) : Option IdentityPool :=
  let (request, s) := s.prepare addresses taker
  if request.key.isEmpty || (s.pools.servers srv).status ≠ .online then some s
  else
    match (s.cached worker).findIdx? (s.localReaderMatches request srv) with
    | none => some s
    | some index =>
        match (s.cached worker)[index]? with
        | none => some s
        | some (_, conn) =>
            let s := { s with
              cached := Function.update s.cached worker (swapRemove (s.cached worker) index) }
            let (state, b) := s.classify addresses taker (facts conn) request srv conn
            let s := s.setBackend srv conn b
            some (if state = .exact then s.setHolder srv conn (some taker.session) else s)

/-- What `get_MyConn_local` takes: a connection with a key if it is an exact match for a
writer request, another if its settings and its session state match. -/
def localMatches (s : IdentityPool) (taker : Taker) (profile : Option ProxyProtocol)
    (request : Option PoolRequest) (hid : Nat) (facts : Nat → Nat → ReuseFacts)
    (entry : Nat × Nat) : Bool :=
  if hostgroup entry.1 ≠ hid then false
  else if !(s.backends entry.1 entry.2).poolKey.isEmpty then
    match request with
    | none => false
    | some request =>
        (s.classify addresses taker (facts entry.1 entry.2) request entry.1 entry.2).1 == .exact
  else
    s.admits addresses taker profile entry.1 entry.2 && (facts entry.1 entry.2).sameOptions &&
      !(facts entry.1 entry.2).requiresReset && (facts entry.1 entry.2).variablesMatch

/-- `get_MyConn_local`; `keyedReuse` says that the request is for the writer of its scope. -/
def takeLocal (s : IdentityPool) (worker : Nat) (taker : Taker) (profile : Option ProxyProtocol)
    (keyedReuse : Bool) (hid : Nat) (facts : Nat → Nat → ReuseFacts) : Option IdentityPool :=
  let (request, s) :=
    if keyedReuse then
      let (request, s) := s.prepare addresses taker
      (some request, s)
    else (none, s)
  match (s.cached worker).findIdx? (s.localMatches addresses hostgroup taker profile request hid
    facts) with
  | none => some s
  | some index =>
      match (s.cached worker)[index]? with
      | none => some s
      | some (srv, conn) =>
          let s := { s with
            cached := Function.update s.cached worker (swapRemove (s.cached worker) index) }
          some (s.setHolder srv conn (some taker.session))

/-- `polardb_cancel_reader_reservation` -/
def cancelAwaited (s : IdentityPool) (worker srv : Nat) (check : RequestCheck) :
    Option IdentityPool :=
  match s.awaited worker with
  | none => none
  | some awaited =>
      (s.serve hostgroup srv (.cancelReservation worker awaited.token check)).map fun (_, s) =>
        { s with awaited := Function.update s.awaited worker none }

/-- `polardb_take_reader_reservation`: the request of the session must still have the key
that was registered. -/
def takeReservation (s : IdentityPool) (worker : Nat) (taker : Taker) (srv : Nat)
    (check : RequestCheck) : Option IdentityPool :=
  match s.awaited worker with
  | none => none
  | some awaited =>
      if awaited.session ≠ taker.session then none
      else
        let (request, s) := s.prepare addresses taker
        if request.matchKey.isEmpty || request.matchKey ≠ awaited.key then
          s.cancelAwaited hostgroup worker srv check
        else
          let status := ((s.pools.servers srv).takeReservation (s.pools.requests (hostgroup srv))
            worker awaited.token).1
          match s.serve hostgroup srv (.takeReservation worker awaited.token) with
          | none => none
          | some (given, s) =>
              let s := if status = .pending then s
                else { s with awaited := Function.update s.awaited worker none }
              match given with
              | none => some s
              | some conn => some (s.setHolder srv conn (some taker.session))

/-- `polardb_register_reader_capacity_request` -/
def register (s : IdentityPool) (worker session hid scopeHash : Nat) (key : PoolMatchKey)
    (requireReplica : Bool) : Option IdentityPool :=
  (s.pools.step hostgroup (.register hid worker scopeHash key requireReplica)).map fun pools =>
    let registered := (registerRequest (s.pools.requests hid)
      ⟨worker, s.pools.nextToken, scopeHash, key⟩ requireReplica).isSome
    { s with
      pools := pools
      awaited :=
        if registered then
          Function.update s.awaited worker (some ⟨s.pools.nextToken, session, key⟩)
        else s.awaited }

/-! ## Returning -/

def inExactPool (s : IdentityPool) (srv conn : Nat) (hasSnapshot : Bool) : Bool :=
  ((s.pools.servers srv).marks conn).exactPoolConnection ||
    !(s.backends srv conn).poolKey.isEmpty || hasSnapshot

/-- `return_connection_with_match_key` for a connection of the exact-key pool -/
def returnExact (s : IdentityPool) (srv conn excludedWorker : Nat) (r : Returning)
    (checked : Bool) : Option IdentityPool :=
  let (returnable, b) := (s.backends srv conn).returnCheck r checked
  let s := (s.setBackend srv conn b).setHolder srv conn none
  let op : PoolOp :=
    if returnable then .returnMatching conn b.matchKey excludedWorker r.check else .removeUsed conn
  (s.serve hostgroup srv op).map Prod.snd

/-- `push_MyConn_to_pool` -/
def returnShared (s : IdentityPool) (srv conn excludedWorker : Nat) (r : Returning) :
    Option IdentityPool :=
  if s.inExactPool srv conn r.hasSnapshot then
    s.returnExact hostgroup srv conn excludedWorker r false
  else
    ((s.setHolder srv conn none).serve hostgroup srv (.returnClassic conn r.reusable)).map Prod.snd

/-- A connection goes to the cache of a worker. -/
def keepLocal (s : IdentityPool) (worker srv conn : Nat) : IdentityPool :=
  ({ s with
    cached := Function.update s.cached worker (s.cached worker ++ [(srv, conn)]) } :
      IdentityPool).setHolder srv conn none

/-- `push_MyConn_local` after the connection was not reserved -/
def returnLocal (s : IdentityPool) (worker srv conn : Nat) (r : Returning) :
    Option IdentityPool :=
  let (decision, b) := (s.backends srv conn).localReturnDecision r.facts r.profile r.served r.wanted
  let s := s.setBackend srv conn b
  match decision with
  | .keepWithWorker => some (s.keepLocal worker srv conn)
  | .removeConnection =>
      ((s.setHolder srv conn none).serve hostgroup srv (.removeUsed conn)).map Prod.snd
  | .useSharedPoolReuseChecked => s.returnExact hostgroup srv conn worker r true
  | .useSharedPool =>
      if s.inExactPool srv conn r.hasSnapshot then
        s.returnExact hostgroup srv conn worker r false
      else if r.facts.online && r.facts.idle && r.toCache then some (s.keepLocal worker srv conn)
      else s.returnShared hostgroup srv conn worker r

/-- `return_local_connections`: a cached connection goes back to its server. -/
def returnCached (s : IdentityPool) (worker index : Nat) (r : Returning) : Option IdentityPool :=
  match (s.cached worker)[index]? with
  | none => none
  | some (srv, conn) =>
      ({ s with cached := Function.update s.cached worker (swapRemove (s.cached worker) index) } :
        IdentityPool).returnShared hostgroup srv conn worker r

/-- `polardb_reader_try_reserve_retained_connection`: the key is that of the retention. -/
def reserveRetained (s : IdentityPool) (worker srv conn : Nat) (retained : PoolMatchKey)
    (r : Returning) : Option IdentityPool :=
  if !r.facts.idle || !r.facts.withinLimits || retained.isEmpty then some s
  else
    let (status, b) := (s.backends srv conn).returnDecision r.facts r.profile
    let s := s.setBackend srv conn b
    if status ≠ .returnable ∨ b.matchKey ≠ retained then some s
    else
      ((s.setHolder srv conn none).serve hostgroup srv
        (.reserveMatchingUsed conn b.matchKey worker r.check)).map Prod.snd

end IdentityPool

/-! ## Operations -/

/-- Operations of the pools that give no session a connection and store none. -/
def PoolOp.isMaintenance : PoolOp → Bool
  | .takeForPing .. | .cancelReservation .. | .evict .. | .dropIdle .. | .dropAll | .setStatus _
  | .removeUsed _ | .removeFree _ | .deleteHanded _ => true
  | _ => false

inductive IdentityOp
  | maintain (srv : Nat) (op : PoolOp)
  | cancelRequest (hid worker token : Nat)
  /-- The session state of a connection changes: `PgSQL_Variables` clears its key. -/
  | clearKey (srv conn : Nat)
  | createReader (taker : Taker) (srv conn : Nat)
  | warmup (taker : Taker) (srv conn : Nat)
  | addWarm (srv conn : Nat) (facts : ReuseFacts) (check : RequestCheck)
  | connect (session srv conn : Nat) (config : StartupConfig) (profile : Option ProxyProtocol)
  | takeClassic (taker : Taker) (profile : Option ProxyProtocol) (srv : Nat) (search : PoolSearch)
  | takeReader (taker : Taker) (profile : Option ProxyProtocol) (srv : Nat)
      (allowReset strict : Bool) (search : PoolSearch) (facts : Nat → ReuseFacts)
  | takeLocalReader (worker : Nat) (taker : Taker) (srv : Nat) (facts : Nat → ReuseFacts)
  | takeLocal (worker : Nat) (taker : Taker) (profile : Option ProxyProtocol) (keyedReuse : Bool)
      (hid : Nat) (facts : Nat → Nat → ReuseFacts)
  | takeReservation (worker : Nat) (taker : Taker) (srv : Nat) (check : RequestCheck)
  | cancelAwaited (worker srv : Nat) (check : RequestCheck)
  | register (worker session hid scopeHash : Nat) (key : PoolMatchKey) (requireReplica : Bool)
  | returnShared (srv conn excludedWorker : Nat) (r : Returning)
  | returnLocal (worker srv conn : Nat) (r : Returning)
  | returnCached (worker index : Nat) (r : Returning)
  | reserveRetained (worker srv conn : Nat) (retained : PoolMatchKey) (r : Returning)

namespace IdentityPool

/-- No connection is open; the sessions come with their streams. -/
def init (maxConnections : Nat → Int) (streams : Nat → ClientStream) : IdentityPool :=
  { pools := .init maxConnections, sessions := fun i => { stream := streams i } }

def step (addresses : AddressSyntax) (hostgroup : Nat → Nat) (s : IdentityPool) :
    IdentityOp → Option IdentityPool
  | .maintain srv op =>
      if !op.isMaintenance then none else (s.serve hostgroup srv op).map Prod.snd
  | .cancelRequest hid worker token =>
      (s.pools.step hostgroup (.cancelRequest hid worker token)).map fun pools =>
        { s with pools := pools }
  | .clearKey srv conn =>
      some (s.setBackend srv conn { s.backends srv conn with poolKey := {} })
  | .createReader taker srv conn => s.createReader addresses hostgroup taker srv conn
  | .warmup taker srv conn => s.warmup addresses hostgroup taker srv conn
  | .addWarm srv conn facts check => s.addWarm hostgroup srv conn facts check
  | .connect session srv conn config profile => s.connect addresses session srv conn config profile
  | .takeClassic taker profile srv search =>
      s.takeClassic addresses hostgroup taker profile srv search
  | .takeReader taker profile srv allowReset strict search facts =>
      s.takeReader addresses hostgroup taker profile srv allowReset strict search facts
  | .takeLocalReader worker taker srv facts => s.takeLocalReader addresses worker taker srv facts
  | .takeLocal worker taker profile keyedReuse hid facts =>
      s.takeLocal addresses hostgroup worker taker profile keyedReuse hid facts
  | .takeReservation worker taker srv check =>
      s.takeReservation addresses hostgroup worker taker srv check
  | .cancelAwaited worker srv check => s.cancelAwaited hostgroup worker srv check
  | .register worker session hid scopeHash key requireReplica =>
      s.register hostgroup worker session hid scopeHash key requireReplica
  | .returnShared srv conn excludedWorker r =>
      s.returnShared hostgroup srv conn excludedWorker r
  | .returnLocal worker srv conn r => s.returnLocal hostgroup worker srv conn r
  | .returnCached worker index r => s.returnCached hostgroup worker index r
  | .reserveRetained worker srv conn retained r =>
      s.reserveRetained hostgroup worker srv conn retained r

end IdentityPool

end PolarProxy
