import PolarProxy.ConnList

/-!
# Startup identities of backend connections

A connection to a PolarDB backend is started with parameters that name the source
of its requests: the client the proxy serves, or the proxy itself.  The parameters
stay with the connection as long as it lives, so a pooled connection may serve a
session only if the session would start it with the same ones.

How this is checked depends on the way a connection is taken: by comparing the
startup settings (`settingsMatch`), by a key that hashes them (`PoolRequest`), or by
both (`classify`).

What the checks read of libc, of the state of the connection and of the session
variables is passed to them (`AddressSyntax`, `ReuseFacts`).
-/

namespace PolarProxy

/-! ## Profiles -/

/-- `PolarDB_ProxyProtocol` -/
inductive ProxyProtocol
  | off
  | legacy
  | v15
  | v15Wait
  deriving DecidableEq

def ProxyProtocol.toNat : ProxyProtocol → Nat
  | .off => 0
  | .legacy => 1
  | .v15 => 2
  | .v15Wait => 3

/-- `PolarDB_ProxyIdentityMode` -/
inductive IdentityMode
  | client
  | proxy
  deriving DecidableEq

def IdentityMode.toNat : IdentityMode → Nat
  | .client => 0
  | .proxy => 1

/-- `PolarDB_StartupProfile` -/
structure StartupProfile where
  protocol : ProxyProtocol := .off
  requestBits : Nat := 0
  deriving DecidableEq

namespace StartupProfile

/-- `REQUEST_RFQ_LSN` -/
def requestRfqLsn : Nat :=
  1 <<< 0

/-- `REQUEST_RFQ_XID` -/
def requestRfqXid : Nat :=
  1 <<< 2

/-- `REQUEST_EXTENDED_WAIT` -/
def requestExtendedWait : Nat :=
  1 <<< 3

/-- `from_protocol` -/
def fromProtocol (protocol : ProxyProtocol) : StartupProfile :=
  let bits :=
    match protocol with
    | .off => 0
    | .legacy | .v15 => requestRfqLsn ||| requestRfqXid
    | .v15Wait => requestRfqLsn ||| requestRfqXid ||| requestExtendedWait
  { protocol := protocol, requestBits := bits }

/-- `emits_startup_params` -/
def emitsStartupParams (profile : StartupProfile) : Bool :=
  profile.protocol != .off && profile.requestBits != 0

/-- `requests_rfq_lsn` -/
def requestsRfqLsn (profile : StartupProfile) : Bool :=
  profile.requestBits &&& requestRfqLsn != 0

/-- `generation`: the profile and the identity mode in one word -/
def generation (profile : StartupProfile) (mode : IdentityMode) : Nat :=
  let identityBits := if profile.emitsStartupParams then mode.toNat &&& 3 else 0
  profile.protocol.toNat <<< 24 ||| identityBits <<< 22 ||| profile.requestBits &&& 0x003fffff

/-- `polardb_startup_profile_matches_request_generation` -/
def matchesRequestGeneration (pooled : StartupProfile) (pooledGeneration : Nat)
    (requested : StartupProfile) (mode : IdentityMode) : Bool :=
  pooledGeneration == requested.generation mode && pooled == requested

/-- The word of a profile that sends startup parameters tells the profile and the
identity mode. -/
theorem generation_inj
    {p q : ProxyProtocol} {m n : IdentityMode}
    (hemits : (fromProtocol p).emitsStartupParams = true)
    (h : (fromProtocol p).generation m = (fromProtocol q).generation n) :
    p = q ∧ m = n := by
  revert hemits h
  cases p <;> cases q <;> cases m <;> cases n <;> decide

end StartupProfile

/-! ## Contexts -/

/-- `PolarDB_StartupIdentitySource` -/
inductive IdentitySource
  | none
  | client
  | listenerProxy
  | configuredFallback
  deriving DecidableEq

def IdentitySource.toNat : IdentitySource → Nat
  | .none => 0
  | .client => 1
  | .listenerProxy => 2
  | .configuredFallback => 3

/-- `PolarDB_StartupIdentity` -/
structure StartupIdentity where
  host : String := ""
  port : Int := 0
  source : IdentitySource := .none
  deriving DecidableEq

/-- `PolarDB_StartupClientContext` -/
structure StartupClientContext where
  identity : StartupIdentity := {}
  frontendSsl : Bool := false
  sslVersion : String := ""
  sslCipher : String := ""
  hasProxySession : Bool := false
  proxySessionId : Nat := 0
  proxyCancelKey : Nat := 0
  deriving DecidableEq

/-- `polardb_identity_host_is_ip` and `polardb_identity_host_is_wildcard`, which ask
`inet_pton` -/
structure AddressSyntax where
  isIp : String → Bool
  isWildcard : String → Bool

/-- `PolarDB_StartupIdentity::valid` -/
def StartupIdentity.valid (addresses : AddressSyntax) (identity : StartupIdentity)
    (rejectWildcard : Bool) : Bool :=
  if identity.host.isEmpty || identity.port ≤ 0 || 65535 < identity.port then false
  else if !addresses.isIp identity.host then false
  else !rejectWildcard || !addresses.isWildcard identity.host

namespace StartupClientContext

/-- `compatible_for_reuse` -/
def compatibleForReuse (a b : StartupClientContext) : Bool :=
  a.identity.source == b.identity.source && a.identity.host == b.identity.host &&
    a.identity.port == b.identity.port && a.frontendSsl == b.frontendSsl &&
    a.sslVersion == b.sslVersion && a.sslCipher == b.sslCipher &&
    a.hasProxySession == b.hasProxySession && a.proxySessionId == b.proxySessionId &&
    a.proxyCancelKey == b.proxyCancelKey

theorem compatibleForReuse_iff
    (a b : StartupClientContext) :
    a.compatibleForReuse b = true ↔ a = b := by
  obtain ⟨⟨host, port, source⟩, ssl, version, cipher, session, id, key⟩ := a
  obtain ⟨⟨host', port', source'⟩, ssl', version', cipher', session', id', key'⟩ := b
  simp only [compatibleForReuse, Bool.and_eq_true, beq_iff_eq, mk.injEq, StartupIdentity.mk.injEq]
  tauto

/-! ## The reuse key -/

/-- `polardb_pool_hash_bytes`: FNV-1a over 64 bits -/
def hashBytes (hash : Nat) (bytes : List Nat) : Nat :=
  bytes.foldl (fun hash byte => (hash ^^^ byte) * 1099511628211 % 2 ^ 64) hash

/-- The bytes of a word in memory, the lowest first. -/
def wordBytes : Nat → Nat → List Nat
  | 0, _ => []
  | width + 1, value => value % 256 :: wordBytes width (value / 256)

/-- `polardb_pool_hash_u64` -/
def hashU64 (hash value : Nat) : Nat :=
  hashBytes hash (wordBytes 8 value)

/-- `polardb_pool_hash_i32` -/
def hashI32 (hash : Nat) (value : Int) : Nat :=
  hashBytes hash (wordBytes 4 (value % 2 ^ 32).toNat)

/-- `polardb_pool_hash_string` -/
def hashString (hash : Nat) (value : String) : Nat :=
  let bytes := value.toList.flatMap fun c => (String.utf8EncodeChar c).map UInt8.toNat
  hashBytes (hashU64 hash bytes.length) bytes

/-- `polardb_startup_client_reuse_key`, which is never 0 -/
def reuseKey (context : StartupClientContext) : Nat :=
  let hash := hashString 1469598103934665603 context.identity.host
  let hash := hashI32 hash context.identity.source.toNat
  let hash := hashI32 hash context.identity.port
  let hash := hashU64 hash context.frontendSsl.toNat
  let hash := hashString hash context.sslVersion
  let hash := hashString hash context.sslCipher
  let hash := hashU64 hash context.hasProxySession.toNat
  let hash := hashU64 hash context.proxySessionId
  let hash := hashU64 hash context.proxyCancelKey
  if hash = 0 then 1 else hash

theorem reuseKey_ne_zero
    (context : StartupClientContext) :
    context.reuseKey ≠ 0 := by
  unfold reuseKey
  dsimp only
  split
  · exact Nat.one_ne_zero
  · assumption

end StartupClientContext

/-! ## Sessions -/

/-- A host and a port of a stream. -/
structure Endpoint where
  host : String := ""
  port : Int := 0
  deriving DecidableEq

structure ClientStream where
  addr : Endpoint := {}
  proxyAddr : Endpoint := {}
  /-- `client_addr` as `inet_ntop` prints it, if it is an IP address -/
  clientAddr : Option Endpoint := none
  deriving DecidableEq

/-- What a worker reads of the configuration when it starts or takes a connection. -/
structure StartupConfig where
  identityMode : IdentityMode
  identityHost : String := ""
  identityPort : Int := 0
  /-- `polardb_startup_config_generation` -/
  generation : Nat := 0
  deriving DecidableEq

def Endpoint.identity (endpoint : Endpoint) (source : IdentitySource) : StartupIdentity :=
  { host := endpoint.host, port := endpoint.port, source := source }

/-- `polardb_startup_identity_from_sockaddr` -/
def identityFromSockaddr (addresses : AddressSyntax) (addr : Option Endpoint) :
    Option StartupIdentity :=
  match addr with
  | none => none
  | some endpoint =>
      let identity := endpoint.identity .client
      if identity.valid addresses false then some identity else none

/-- The address of the client, or of its socket. -/
def ClientStream.clientIdentity (addresses : AddressSyntax) (stream : ClientStream) :
    Option StartupIdentity :=
  let identity := stream.addr.identity .client
  if identity.valid addresses false then some identity
  else identityFromSockaddr addresses stream.clientAddr

/-- `polardb_proxy_identity_from_client_stream` -/
def ClientStream.proxyIdentity (addresses : AddressSyntax) (config : StartupConfig)
    (stream : ClientStream) : Option StartupIdentity :=
  let listener := stream.proxyAddr.identity .listenerProxy
  if listener.valid addresses true then some listener
  else
    let fallback : StartupIdentity :=
      ⟨config.identityHost, config.identityPort, .configuredFallback⟩
    if fallback.valid addresses true then some fallback else none

/-- `polardb_startup_client_from_session` -/
def startupClientFromSession (addresses : AddressSyntax) (config : StartupConfig)
    (stream : ClientStream) : Option StartupClientContext :=
  let identity :=
    match config.identityMode with
    | .client => stream.clientIdentity addresses
    | .proxy => stream.proxyIdentity addresses config
  identity.map fun identity => { identity := identity }

/-- The context of a session when connections are started with the identity of the
client. -/
def ClientStream.clientContext (addresses : AddressSyntax) (stream : ClientStream) :
    Option StartupClientContext :=
  (stream.clientIdentity addresses).map fun identity => { identity := identity }

theorem startupClientFromSession_client
    {addresses : AddressSyntax} {config : StartupConfig}
    (hmode : config.identityMode = .client)
    (stream : ClientStream) :
    startupClientFromSession addresses config stream = stream.clientContext addresses := by
  rw [startupClientFromSession, hmode, ClientStream.clientContext]

/-! ## Connections -/

/-- `PolarDB_PoolKey` -/
structure PoolKey where
  authHash : Nat := 0
  startupIdentityHash : Nat := 0
  startupOptionsHash : Nat := 0
  deriving DecidableEq

def PoolKey.isEmpty (key : PoolKey) : Bool :=
  key == {}

/-- `pgsql_pool_match_key` -/
def PoolKey.matchKey (profileGeneration : Nat) (key : PoolKey) : PoolMatchKey :=
  ⟨profileGeneration, key.authHash, key.startupIdentityHash, key.startupOptionsHash⟩

/-- What a backend connection keeps of its start. -/
structure BackendStartup where
  /-- The connection was started: `connect_start` has run. -/
  started : Bool := false
  settingsSet : Bool := false
  profile : StartupProfile := {}
  identityMode : IdentityMode := .proxy
  profileGeneration : Nat := 0
  configGeneration : Nat := 0
  client : StartupClientContext := {}
  poolKey : PoolKey := {}
  deriving DecidableEq

/-- What the checks read of a connection besides its startup settings. -/
structure ReuseFacts where
  /-- The server is online. -/
  online : Bool := true
  /-- The session has a client with a user. -/
  clientReady : Bool := true
  /-- `async_state_machine == ASYNC_IDLE` -/
  idle : Bool := true
  /-- The socket of a started connection is open. -/
  socketOpen : Bool := true
  /-- `polardb_txn_split_xids_dirty` -/
  xidsDirty : Bool := false
  /-- `largest_query_length` and the number of statements are within their limits. -/
  withinLimits : Bool := true
  /-- `has_same_connection_options` -/
  sameOptions : Bool := true
  /-- `requires_RESETTING_CONNECTION` -/
  requiresReset : Bool := false
  /-- All session variables match. -/
  variablesMatch : Bool := true
  /-- `polardb_pool_auth_reuse_key` of the connection -/
  authHash : Nat := 1
  /-- `polardb_pool_session_options_reuse_key` of the connection -/
  optionsHash : Nat := 1
  deriving DecidableEq

/-- `PolarDB_PoolRequest` -/
structure PoolRequest where
  key : PoolKey
  startupProfile : StartupProfile
  identityMode : IdentityMode
  /-- `expected_profile` is `RFQ`. -/
  expectsRfq : Bool
  deriving DecidableEq

/-- `ready_for_matching` -/
def PoolRequest.readyForMatching (request : PoolRequest) : Bool :=
  !request.key.isEmpty

/-- `polardb_core_pool_match_key_for_request` -/
def PoolRequest.matchKey (request : PoolRequest) : PoolMatchKey :=
  if request.readyForMatching then
    request.key.matchKey (request.startupProfile.generation request.identityMode)
  else {}

/-- `PolarDB_PoolReuseState` -/
inductive ReuseState
  | exact
  | needsReset
  | needsVariableUpdate
  | badContext
  | profileMismatch
  | authMismatch
  | identityMismatch
  | sessionStateMismatch
  deriving DecidableEq

/-- The session may have the connection, perhaps after a reset or some `SET`
statements. -/
def ReuseState.isReusable (state : ReuseState) : Bool :=
  state == .exact || state == .needsReset || state == .needsVariableUpdate

/-- `PolarDB_ReaderConnectionReturnStatus` -/
inductive ReturnStatus
  | notManaged
  | offline
  | clientIdentity
  | unusable
  | emptyKey
  | returnable
  deriving DecidableEq

namespace BackendStartup

/-- `set_polardb_startup_settings` -/
def setStartupSettings (b : BackendStartup) (profile : StartupProfile) (mode : IdentityMode)
    (configGeneration : Nat) (client : StartupClientContext) : BackendStartup :=
  { b with
    settingsSet := true
    profile := profile
    identityMode := mode
    profileGeneration := profile.generation mode
    configGeneration := configGeneration
    client := client }

/-- `polardb_resolve_startup_identity` for a connection that serves a client -/
def resolveStartupIdentity (b : BackendStartup) (addresses : AddressSyntax)
    (config : StartupConfig) (stream : ClientStream) : StartupIdentity :=
  if b.settingsSet then b.client.identity
  else
    match b.identityMode with
    | .client => (stream.clientIdentity addresses).getD {}
    | .proxy => (stream.proxyIdentity addresses config).getD {}

/-- `polardb_append_startup_params`; `none`: the connection is refused. -/
def appendStartupParams (b : BackendStartup) (addresses : AddressSyntax) (config : StartupConfig)
    (profile : StartupProfile) (stream : ClientStream) : Option BackendStartup :=
  let b' := if b.settingsSet then b else { b with client := {}, identityMode := config.identityMode }
  if !profile.emitsStartupParams then
    some (if b.settingsSet then b'
      else b'.setStartupSettings profile b'.identityMode config.generation b'.client)
  else
    let identity := b'.resolveStartupIdentity addresses config stream
    if identity.source = .none then none
    else
      let b' := { b' with client := { b'.client with identity := identity } }
      some (if b.settingsSet then b'
        else b'.setStartupSettings profile b'.identityMode config.generation b'.client)

/-- `connect_start`, for a hostgroup with the given profile, or `none` when it is no
PolarDB hostgroup.  A connection that is refused does not start. -/
def connectStart (b : BackendStartup) (addresses : AddressSyntax) (config : StartupConfig)
    (profile : Option StartupProfile) (stream : ClientStream) : BackendStartup :=
  let built :=
    if b.settingsSet then b
    else
      let profile := profile.getD (.fromProtocol .off)
      { b with
        profile := profile
        identityMode := config.identityMode
        profileGeneration := profile.generation config.identityMode }
  if profile.isSome || b.settingsSet then
    match built.appendStartupParams addresses config built.profile stream with
    | none => built
    | some b' => { b' with started := true }
  else { built with started := true }

/-- `is_connected` -/
def isConnected (b : BackendStartup) (facts : ReuseFacts) : Bool :=
  b.started && facts.socketOpen

/-- `polardb_ensure_pool_key`: a key that is there stays. -/
def ensurePoolKey (b : BackendStartup) (facts : ReuseFacts) (rfq : Bool) : BackendStartup :=
  if !b.poolKey.isEmpty then b
  else
    { b with
      poolKey :=
        { authHash := facts.authHash
          startupIdentityHash := if rfq then b.client.reuseKey else 0
          startupOptionsHash := facts.optionsHash } }

/-- `polardb_core_pool_match_key_for_conn` -/
def matchKey (b : BackendStartup) : PoolMatchKey :=
  b.poolKey.matchKey b.profileGeneration

/-! ## Matching a connection with a session -/

/-- `polardb_connection_startup_settings_match` -/
def settingsMatch (b : BackendStartup) (profile : StartupProfile)
    (client : Option StartupClientContext) (config : StartupConfig) : Bool :=
  if !b.settingsSet ||
      !b.profile.matchesRequestGeneration b.profileGeneration profile config.identityMode then
    false
  else if !profile.emitsStartupParams then true
  else
    b.configGeneration == config.generation &&
      match client with
      | none => false
      | some client => b.client.compatibleForReuse client

/-- The startup check of `get_random_MyConn_inner_search` and of the generic part of
`get_MyConn_local`; `profile` is `none` when the hostgroup is no PolarDB hostgroup. -/
def startupAdmits (b : BackendStartup) (addresses : AddressSyntax) (config : StartupConfig)
    (profile : Option StartupProfile) (stream : ClientStream) : Bool :=
  match profile with
  | some profile =>
      b.settingsMatch profile
        (if profile.emitsStartupParams then startupClientFromSession addresses config stream
          else none) config
  | none => !(b.settingsSet && b.profile.emitsStartupParams)

/-- The comparison of the cached key in `polardb_classify_pool_conn_for_reuse`, which
skips the parts that the request does not have. -/
def cachedKeyMismatch (b : BackendStartup) (request : PoolRequest) : Option ReuseState :=
  if b.poolKey.isEmpty then none
  else if request.key.authHash ≠ 0 ∧ b.poolKey.authHash ≠ request.key.authHash then
    some .authMismatch
  else if request.expectsRfq ∧ request.key.startupIdentityHash ≠ 0 ∧
      b.poolKey.startupIdentityHash ≠ request.key.startupIdentityHash then
    some .identityMismatch
  else if request.key.startupOptionsHash ≠ 0 ∧
      b.poolKey.startupOptionsHash ≠ request.key.startupOptionsHash then
    some .sessionStateMismatch
  else none

/-- The context of the session is the one the connection was started with:
`polardb_startup_client_compatible_for_warmup`. -/
def contextMatches (b : BackendStartup) (addresses : AddressSyntax) (config : StartupConfig)
    (stream : ClientStream) : Bool :=
  match startupClientFromSession addresses config stream with
  | none => false
  | some client => b.client.compatibleForReuse client

/-- The part of `polardb_classify_pool_conn_for_reuse` for a connection whose key is
not that of the request. -/
def classifyFully (b : BackendStartup) (addresses : AddressSyntax) (config : StartupConfig)
    (stream : ClientStream) (facts : ReuseFacts) (request : PoolRequest) :
    ReuseState × BackendStartup :=
  let cachedIdentityMatch :=
    request.expectsRfq && !b.poolKey.isEmpty && request.key.startupIdentityHash != 0 &&
      b.poolKey.startupIdentityHash == request.key.startupIdentityHash
  if !facts.sameOptions then (.authMismatch, b)
  else if request.expectsRfq && !cachedIdentityMatch &&
      !b.contextMatches addresses config stream then
    (.identityMismatch, b)
  else if facts.requiresReset then (.needsReset, b)
  else if !facts.variablesMatch then (.needsVariableUpdate, b)
  else (.exact, b.ensurePoolKey facts request.expectsRfq)

/-- `polardb_classify_pool_conn_for_reuse` -/
def classify (b : BackendStartup) (addresses : AddressSyntax) (config : StartupConfig)
    (stream : ClientStream) (facts : ReuseFacts) (request : PoolRequest) :
    ReuseState × BackendStartup :=
  if !facts.idle || !facts.clientReady || !request.readyForMatching then (.badContext, b)
  else if !facts.online ||
      !b.profile.matchesRequestGeneration b.profileGeneration request.startupProfile
        request.identityMode then
    (.profileMismatch, b)
  else if request.expectsRfq && b.identityMode != request.identityMode then (.identityMismatch, b)
  else if !b.isConnected facts then (.badContext, b)
  else
    match b.cachedKeyMismatch request with
    | some state => (state, b)
    | none =>
        if facts.xidsDirty then (.sessionStateMismatch, b)
        else if !b.poolKey.isEmpty && !request.key.isEmpty && b.poolKey == request.key then
          (if facts.sameOptions then .exact else .authMismatch, b)
        else b.classifyFully addresses config stream facts request

/-! ## Returning a connection -/

/-- `polardb_reader_pool_conn_can_remain_pooled` -/
def canRemainPooled (b : BackendStartup) : Bool :=
  !b.profile.emitsStartupParams || b.identityMode == .proxy

/-- `polardb_pool_return_state`; `profile` is the current one of the hostgroup. -/
def returnState (b : BackendStartup) (facts : ReuseFacts) (profile : StartupProfile) :
    ReuseState :=
  if !facts.idle then .badContext
  else if !b.profile.matchesRequestGeneration b.profileGeneration profile b.identityMode then
    .profileMismatch
  else if !b.isConnected facts then .badContext
  else if facts.xidsDirty || !facts.withinLimits then .sessionStateMismatch
  else .exact

/-- `connection_return_decision`; `profile` is `none` when the hostgroup is no PolarDB
hostgroup. -/
def returnDecision (b : BackendStartup) (facts : ReuseFacts) (profile : Option StartupProfile) :
    ReturnStatus × BackendStartup :=
  match profile with
  | none => (.notManaged, b)
  | some profile =>
      if !facts.online then (.offline, b)
      else if !b.canRemainPooled then (.clientIdentity, b)
      else if b.returnState facts profile ≠ .exact then (.unusable, b)
      else
        let b := b.ensurePoolKey facts b.profile.emitsStartupParams
        (if b.matchKey.isEmpty then .emptyKey else .returnable, b)

end BackendStartup

/-! ## Requests of a session -/

structure SessionIdentity where
  stream : ClientStream := {}
  /-- `reader_pool_startup_identity_hash` -/
  identityHash : Nat := 0
  /-- `reader_pool_startup_identity_mode` -/
  identityMode : Option IdentityMode := none
  deriving DecidableEq

/-- `polardb_prepare_pool_request_for_session`, with the other two hashes of the
session -/
def SessionIdentity.preparePoolRequest (sess : SessionIdentity) (addresses : AddressSyntax)
    (config : StartupConfig) (profile : StartupProfile) (requireRfq : Bool)
    (authHash optionsHash : Nat) : PoolRequest × SessionIdentity :=
  let rfq := requireRfq || profile.emitsStartupParams
  let request (identityHash : Nat) : PoolRequest :=
    { key := ⟨authHash, identityHash, optionsHash⟩
      startupProfile := profile
      identityMode := config.identityMode
      expectsRfq := rfq }
  if !rfq then (request 0, sess)
  else if sess.identityMode = some config.identityMode ∧ sess.identityHash ≠ 0 then
    (request sess.identityHash, sess)
  else
    match (startupClientFromSession addresses config sess.stream).map
      StartupClientContext.reuseKey with
    | none => (request 0, sess)
    | some hash =>
        (request hash,
          { sess with identityHash := hash, identityMode := some config.identityMode })

end PolarProxy
