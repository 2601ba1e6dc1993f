import Mathlib.Data.List.Sort
import PolarProxy.Library.RefCounts

/-!
# The registry of prepared statements

All sessions share one object for a statement, found by the hash of the user, the
database, the query and the types of its parameters.  A session maps the names of its
client to these objects, a backend connection maps the numbers under which it prepared
them.  The registry counts both kinds of references and drops objects without any; the
identifier of a dropped statement goes to a stack and is given out again.

Objects are addresses.  An object is dropped when its shared pointer has no other
owner: besides the registry, owners are the names of the sessions, the numbers of the
connections, a portal whose statement lost its name, and the pointers that a running
operation holds, which are arguments of the operations here.  The time is an input of
every call that reads it, one pair of readings a call.

What a backend has prepared is part of the state of its connection.  PostgreSQL
refuses to prepare a statement under a name in use.
-/

namespace PolarProxy

open RefCounts

/-- What `stmt_compute_hash` hashes. -/
structure StmtKey where
  user : String
  database : String
  query : String
  paramTypes : List Nat
  deriving DecidableEq

/-- `PgSQL_STMT_Global_info`, but for its counts -/
structure StmtInfo where
  statementId : Nat
  key : StmtKey
  hash : UInt64
  deriving DecidableEq

/-- What a call of `ref_count_client___purge_stmts_if_needed` reads from outside: the
time before and after it has the lock, and `max_stmts_cache`. -/
structure PurgeEnv where
  before : Nat
  locked : Nat
  maxStmtsCache : Nat
  deriving DecidableEq

/-- `PgSQL_STMT_Manager` -/
structure StmtManager where
  /-- The objects, by address. -/
  info : Nat → StmtInfo := fun _ => ⟨0, ⟨"", "", "", []⟩, 0⟩
  nextAddress : Nat := 0
  /-- `map_stmt_hash_to_info`, in its order -/
  cached : List Nat := []
  nextStatementId : Nat := 1
  /-- `ref_count_client` of the objects and `num_stmt_with_ref_client_count_zero` -/
  client : Counters Nat := ⟨fun _ => 0, 0⟩
  /-- `ref_count_server` of the objects and `num_stmt_with_ref_server_count_zero` -/
  server : Counters Nat := ⟨fun _ => 0, 0⟩
  freeStmtIds : List Nat := []
  lastPurgeTime : Nat := 0

namespace StmtManager

/-- Enough statements are unused. -/
def purgeWanted (m : StmtManager) (maxStmtsCache : Nat) : Bool :=
  let size := m.cached.length
  !(decide (size ≤ maxStmtsCache) || decide (m.client.zero ≤ (size / 10 : Nat)) ||
    decide (m.server.zero ≤ (size / 10 : Nat)))

/-- Go through the statements and remove those that may go, up to a number: what is
kept, and what is removed. -/
def sweep (mayGo : Nat → Bool) : Nat → List Nat → List Nat × List Nat
  | 0, l => (l, [])
  | _ + 1, [] => ([], [])
  | n + 1, a :: l =>
      if mayGo a then ((sweep mayGo n l).1, a :: (sweep mayGo n l).2)
      else (a :: (sweep mayGo (n + 1) l).1, (sweep mayGo (n + 1) l).2)

/-- Nothing counts the statement, and only the registry holds it. -/
def purgeable (m : StmtManager) (useCount : Nat → Nat) (a : Nat) : Bool :=
  useCount a == 1 && m.client.count a == 0 && m.server.count a == 0

/-- `ref_count_client___purge_stmts_if_needed`, with the use counts of the shared
pointers -/
def purgeStmtsIfNeeded (m : StmtManager) (useCount : Nat → Nat) (env : PurgeEnv) : StmtManager :=
  if env.before ≤ m.lastPurgeTime + 1 then m
  else if !m.purgeWanted env.maxStmtsCache then m
  else if env.locked ≤ m.lastPurgeTime + 1 then m
  else if !m.purgeWanted env.maxStmtsCache then { m with lastPurgeTime := env.locked }
  else
    let remainingRemovals := min m.cached.length m.client.zero.toNat
    let swept := sweep (m.purgeable useCount) remainingRemovals m.cached
    { m with
      lastPurgeTime := env.locked
      cached := swept.1
      client := { m.client with zero := m.client.zero - swept.2.length }
      server := { m.server with zero := m.server.zero - swept.2.length }
      freeStmtIds := (swept.2.map fun a => (m.info a).statementId).reverse ++ m.freeStmtIds }

/-- `find_prepared_statement_by_hash` -/
def findByHash (m : StmtManager) (hash : UInt64) : Option Nat :=
  m.cached.find? fun a => (m.info a).hash == hash

/-- The identifier of the next new statement. -/
def takeStatementId (m : StmtManager) : Nat × StmtManager :=
  match m.freeStmtIds with
  | id :: rest => (id, { m with freeStmtIds := rest })
  | [] => (m.nextStatementId, { m with nextStatementId := m.nextStatementId + 1 })

/-- A new statement with an identifier. -/
def create (m : StmtManager) (id : Nat) (key : StmtKey) (hash : UInt64) : StmtManager :=
  let info := Function.update m.info m.nextAddress ⟨id, key, hash⟩
  { m with
    info := info
    nextAddress := m.nextAddress + 1
    cached := m.cached.orderedInsert (fun a b => (info a).hash ≤ (info b).hash) m.nextAddress
    client := ⟨Function.update m.client.count m.nextAddress 0, m.client.zero + 1⟩
    server := ⟨Function.update m.server.count m.nextAddress 0, m.server.zero + 1⟩ }

/-- `add_prepared_statement`: the object and the registry after it -/
def addPreparedStatement (hash : StmtKey → UInt64) (m : StmtManager) (key : StmtKey) :
    Nat × StmtManager :=
  match m.findByHash (hash key) with
  | some a => (a, { m with server := m.server.adjust a 1 })
  | none =>
      let created := m.takeStatementId.2.create m.takeStatementId.1 key (hash key)
      (m.nextAddress, { created with server := created.server.adjust m.nextAddress 1 })

end StmtManager

/-! ## Sessions and connections -/

/-- `ExtendedBoundPortal` with a Bind message -/
structure BoundPortal where
  statement : Nat
  retainedStatement : Option Nat := none
  deriving DecidableEq

/-- `retain_statement_owner` -/
def BoundPortal.retain (p : BoundPortal) (a : Nat) : BoundPortal :=
  if p.statement == a && p.retainedStatement.isNone then { p with retainedStatement := some a }
  else p

/-- The `PgSQL_STMT_Local` of a client, and the portal of its session. -/
structure ClientStmts where
  /-- `stmt_name_to_global_info`, in its order -/
  names : List (String × Nat) := []
  portal : Option BoundPortal := none
  deriving DecidableEq

namespace ClientStmts

def find (c : ClientStmts) (name : String) : Option (String × Nat) :=
  c.names.find? (·.1 == name)

/-- The statement leaves its name; a portal that is bound to it keeps it. -/
def release (c : ClientStmts) (name : String) (a : Nat) : ClientStmts :=
  { names := c.names.eraseP (·.1 == name)
    portal := c.portal.map (·.retain a) }

def insert (c : ClientStmts) (name : String) (a : Nat) : ClientStmts :=
  { c with names := c.names.orderedInsert (·.1 ≤ ·.1) (name, a) }

/-- The statements that a name or a portal owns. -/
def named (c : ClientStmts) : List Nat :=
  c.names.map (·.2)

def retained (c : ClientStmts) : List Nat :=
  (c.portal.bind (·.retainedStatement)).toList

end ClientStmts

/-- The `PgSQL_STMT_Local` of a backend connection, and what its backend has prepared. -/
structure BackendStmts where
  /-- `backend_stmt_to_global_info` -/
  toGlobal : List (Nat × Nat) := []
  /-- `global_stmt_to_backend_ids` -/
  toBackend : List (Nat × Nat) := []
  freeBackendIds : List Nat := []
  localMaxStmtId : Nat := 0
  /-- The queries that the backend has under `proxysql_ps_` and a number. -/
  prepared : List (Nat × String) := []
  deriving DecidableEq

/-- `std::map::emplace` -/
def mapEmplace {α β : Type} [DecidableEq α] (l : List (α × β)) (key : α) (value : β) :
    List (α × β) :=
  if (l.find? (·.1 == key)).isSome then l else (key, value) :: l

namespace BackendStmts

/-- `generate_new_backend_stmt_id` -/
def generateNewBackendStmtId (b : BackendStmts) : Nat × BackendStmts :=
  match b.freeBackendIds with
  | id :: rest => (id, { b with freeBackendIds := rest })
  | [] => (b.localMaxStmtId + 1, { b with localMaxStmtId := b.localMaxStmtId + 1 })

/-- `backend_insert` -/
def backendInsert (b : BackendStmts) (a statementId backendStmtId : Nat) : BackendStmts :=
  { b with
    toGlobal := mapEmplace b.toGlobal backendStmtId a
    toBackend := mapEmplace b.toBackend statementId backendStmtId }

/-- `find_backend_stmt_id_from_global_id` -/
def findBackendStmtId (b : BackendStmts) (globalId : Nat) : Nat :=
  ((b.toBackend.find? (·.1 == globalId)).map (·.2)).getD 0

/-- The query that the backend has under a number. -/
def preparedQuery (b : BackendStmts) (backendStmtId : Nat) : Option String :=
  (b.prepared.find? (·.1 == backendStmtId)).map (·.2)

/-- The statements that the connection owns. -/
def owned (b : BackendStmts) : List Nat :=
  b.toGlobal.map (·.2)

end BackendStmts

/-- The registry with all sessions and backend connections. -/
structure StmtSystem where
  manager : StmtManager := {}
  sessions : List ClientStmts := []
  backends : List BackendStmts := []

namespace StmtSystem

/-- The statements of all (session, name) entries. -/
def clientEntries (s : StmtSystem) : List Nat :=
  s.sessions.flatMap ClientStmts.named

def portalEntries (s : StmtSystem) : List Nat :=
  s.sessions.flatMap ClientStmts.retained

/-- The statements of all (connection, number) entries. -/
def serverEntries (s : StmtSystem) : List Nat :=
  s.backends.flatMap BackendStmts.owned

/-- `use_count` of the shared pointer in the registry, with the pointers that the
running operation holds -/
def useCount (s : StmtSystem) (held : List Nat) (a : Nat) : Nat :=
  1 + s.clientEntries.count a + s.portalEntries.count a + s.serverEntries.count a + held.count a

/-- `ref_count_client` -/
def refCountClient (s : StmtSystem) (held : List Nat) (a : Nat) (v : Int) (env : PurgeEnv) :
    StmtSystem :=
  let m := { s.manager with client := s.manager.client.adjust a v }
  { s with manager := m.purgeStmtsIfNeeded (s.useCount held) env }

/-- `ref_count_server` -/
def refCountServer (s : StmtSystem) (a : Nat) (v : Int) : StmtSystem :=
  { s with manager := { s.manager with server := s.manager.server.adjust a v } }

def setSession (s : StmtSystem) (i : Nat) (c : ClientStmts) : StmtSystem :=
  { s with sessions := s.sessions.set i c }

/-- `release_client_statement_owner` and the end of the map entry -/
def releaseName (s : StmtSystem) (i : Nat) (c : ClientStmts) (held : List Nat) (name : String)
    (a : Nat) (env : PurgeEnv) : StmtSystem :=
  (s.refCountClient held a (-1) env).setSession i (c.release name a)

/-- `client_insert_at`, for a caller that holds the statement -/
def clientInsert (s : StmtSystem) (i : Nat) (c : ClientStmts) (a : Nat) (name : String)
    (env : Nat → PurgeEnv) : StmtSystem :=
  match c.find name with
  | some (_, old) =>
      if (s.manager.info old).statementId = (s.manager.info a).statementId then s
      else
        ((s.releaseName i c [a] name old (env 0)).refCountClient [a] a 1 (env 1)).setSession i
          ((c.release name old).insert name a)
  | none => (s.setSession i (c.insert name a)).refCountClient [a] a 1 (env 0)

/-- `client_close` -/
def clientClose (s : StmtSystem) (i : Nat) (c : ClientStmts) (name : String) (env : PurgeEnv) :
    StmtSystem :=
  match c.find name with
  | none => s
  | some (_, a) => s.releaseName i c [] name a env

/-- `client_close_all`, on the entries that are left -/
def clientCloseAll (s : StmtSystem) (i : Nat) (portal : Option BoundPortal)
    (env : Nat → PurgeEnv) : List (String × Nat) → StmtSystem
  | [] => s.setSession i ⟨[], portal⟩
  | (_, a) :: rest =>
      let portal := portal.map (·.retain a)
      ((s.refCountClient [] a (-1) (env rest.length)).setSession i ⟨rest, portal⟩).clientCloseAll i
        portal env rest

/-- The Parse handler up to the dispatch to a backend.  A name in use is refused, but
for the empty one; a statement that is cached gets the name at once; else the old
statement of the name is closed. -/
def parse (hash : StmtKey → UInt64) (s : StmtSystem) (i : Nat) (c : ClientStmts) (name : String)
    (key : StmtKey) (env : Nat → PurgeEnv) : StmtSystem :=
  match c.find name with
  | some (_, old) =>
      if name ≠ "" then s
      else if (s.manager.info old).hash = hash key then s
      else
        match s.manager.findByHash (hash key) with
        | some a => s.clientInsert i c a name env
        | none => s.clientClose i c name (env 0)
  | none =>
      match s.manager.findByHash (hash key) with
      | some a => s.clientInsert i c a name env
      | none => s

/-- `handler___rc0_PROCESSING_STMT_PREPARE`: the backend has prepared the query under
the number.  There is no client name when another message caused the prepare. -/
def prepareCompleted (hash : StmtKey → UInt64) (s : StmtSystem) (i j : Nat) (c : ClientStmts)
    (b : BackendStmts) (backendStmtId : Nat) (key : StmtKey) (clientName : Option String)
    (env : Nat → PurgeEnv) : StmtSystem :=
  let added := s.manager.addPreparedStatement hash key
  let b := { b with prepared := (backendStmtId, key.query) :: b.prepared }
  let inserted := b.backendInsert added.1 (added.2.info added.1).statementId backendStmtId
  let s := { s with manager := added.2, backends := s.backends.set j inserted }
  match clientName with
  | none => s
  | some name => s.clientInsert i c added.1 name env

/-- The destructor of the `PgSQL_STMT_Local` of a backend connection. -/
def releaseBackend (s : StmtSystem) (b : BackendStmts) : StmtSystem :=
  b.owned.foldl (fun s a => s.refCountServer a (-1)) s

end StmtSystem

/-! ## Runs -/

/-- What happens to the registry.  A session and a connection are named by their place. -/
inductive StmtOp
  | attachSession
  | attachBackend
  | parse (i : Nat) (name : String) (key : StmtKey) (env : Nat → PurgeEnv)
  | generate (j : Nat)
  | prepareCompleted (i j backendStmtId : Nat) (key : StmtKey) (clientName : Option String)
      (env : Nat → PurgeEnv)
  | bind (i : Nat) (name : String)
  | resetPortal (i : Nat)
  | close (i : Nat) (name : String) (env : PurgeEnv)
  | closeAll (i : Nat) (env : Nat → PurgeEnv)
  | destroySession (i : Nat) (env : Nat → PurgeEnv)
  | resetBackend (j : Nat)
  | destroyBackend (j : Nat)

/-- The statement that an operation may add. -/
def StmtOp.key : StmtOp → Option StmtKey
  | .parse _ _ key _ => some key
  | .prepareCompleted _ _ _ key _ _ => some key
  | _ => none

namespace StmtSystem

/-- One operation; one on a session or connection that is not there does nothing. -/
def step (hash : StmtKey → UInt64) (s : StmtSystem) : StmtOp → StmtSystem
  | .attachSession => { s with sessions := s.sessions ++ [{}] }
  | .attachBackend => { s with backends := s.backends ++ [{}] }
  | .parse i name key env =>
      match s.sessions[i]? with
      | none => s
      | some c => s.parse hash i c name key env
  | .generate j =>
      match s.backends[j]? with
      | none => s
      | some b => { s with backends := s.backends.set j b.generateNewBackendStmtId.2 }
  | .prepareCompleted i j backendStmtId key clientName env =>
      match s.sessions[i]?, s.backends[j]? with
      | some c, some b =>
          -- the backend refuses a name that it has
          if (b.preparedQuery backendStmtId).isSome then s
          else s.prepareCompleted hash i j c b backendStmtId key clientName env
      | _, _ => s
  | .bind i name =>
      match s.sessions[i]? with
      | none => s
      | some c =>
          match c.find name with
          | none => s
          | some (_, a) => s.setSession i { c with portal := some { statement := a } }
  | .resetPortal i =>
      match s.sessions[i]? with
      | none => s
      | some c => s.setSession i { c with portal := none }
  | .close i name env =>
      match s.sessions[i]? with
      | none => s
      | some c => s.clientClose i c name env
  | .closeAll i env =>
      match s.sessions[i]? with
      | none => s
      | some c => s.clientCloseAll i c.portal env c.names
  | .destroySession i env =>
      match s.sessions[i]? with
      | none => s
      | some c =>
          let s := s.clientCloseAll i c.portal env c.names
          { s with sessions := s.sessions.eraseIdx i }
  | .resetBackend j =>
      match s.backends[j]? with
      | none => s
      | some b =>
          let s := s.releaseBackend b
          { s with backends := s.backends.set j {} }
  | .destroyBackend j =>
      match s.backends[j]? with
      | none => s
      | some b =>
          let s := s.releaseBackend b
          { s with backends := s.backends.eraseIdx j }

/-- The state after a list of operations on an empty registry. -/
def run (hash : StmtKey → UInt64) (ops : List StmtOp) : StmtSystem :=
  ops.foldl (step hash) {}

end StmtSystem

end PolarProxy
