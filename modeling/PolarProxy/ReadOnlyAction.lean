import Mathlib.Data.Multiset.Basic
import Mathlib.Tactic.Common
import PolarProxy.WriterEpoch

/-!
# Replication hostgroups and the read-only reports

A row of `pgsql_replication_hostgroups` joins a writer and a reader hostgroup.  For
each server the manager keeps a mapping: the pairs whose writer or reader hostgroup
holds the server, with a pointer to the entry.  A commit of the configuration builds
the mappings from the tables; a read-only report of the monitor moves the server from
reader to writer hostgroups or back and changes the mapping along with the entries.

An entry has the address of its object, which the nodes store.  The entries of all
hostgroups are one list; the order inside a hostgroup matters to no operation here,
since a hostgroup has at most one entry for a server.  A mapping is found by hostname
and port: the text `hostname:::port` that the source looks up determines both.

A checksum is represented by the rows that it is computed from.  The operations return
`none` where an assertion fails or a pointer to a removed entry is followed.
-/

namespace PolarProxy

/-! ## Entries -/

/-- `HostGroup_Server_Mapping::Type` -/
inductive MappingType
  | writer
  | reader
  deriving DecidableEq

/-- `writer_hostgroup` and `reader_hostgroup` of one row. -/
structure HostgroupPair where
  writerHostgroupId : Nat
  readerHostgroupId : Nat
  deriving DecidableEq

/-- `get_hostgroup_id` -/
def HostgroupPair.hostgroupId (pair : HostgroupPair) : MappingType → Nat
  | .writer => pair.writerHostgroupId
  | .reader => pair.readerHostgroupId

structure ServerAddr where
  hostname : String
  port : Nat
  deriving DecidableEq

/-- The settings that a server is created with. -/
structure SrvOpts where
  weight : Nat := 1
  compression : Nat := 0
  maxConnections : Nat := 1000
  maxReplicationLag : Nat := 0
  useSsl : Nat := 0
  maxLatencyUs : Nat := 0
  comment : String := ""
  deriving DecidableEq

/-- `PgSQL_SrvC` -/
structure SrvC where
  /-- The address of the object. -/
  ptr : Nat
  /-- `myhgc->hid` -/
  hid : Nat
  addr : ServerAddr
  status : ServerStatus
  opts : SrvOpts
  connectionsUsed : Nat := 0
  connectionsFree : Nat := 0
  deriving DecidableEq

namespace SrvC

/-- The entry counts for its hostgroup. -/
def live (s : SrvC) : Bool :=
  s.status != .offlineHard

/-- `set_status` -/
def setStatus (s : SrvC) (status : ServerStatus) : SrvC :=
  { s with
    status := status
    connectionsFree := if status = .offlineHard then 0 else s.connectionsFree }

/-- A shunned server that answered the monitor is online again. -/
def recover (s : SrvC) : SrvC :=
  if s.status = .shunned ∨ s.status = .shunnedReplicationLag then s.setStatus .online else s

/-- `pgsql_pool_no_live_connections` -/
def noLiveConnections (s : SrvC) : Bool :=
  s.connectionsUsed == 0 && s.connectionsFree == 0

/-- `remove_HGM` -/
def removeHgm (s : SrvC) : SrvC :=
  { s.setStatus .offlineHard with connectionsFree := 0 }

end SrvC

/-- A row of `pgsql_servers`, without the pointer. -/
structure ServerRow where
  hid : Nat
  addr : ServerAddr
  status : ServerStatus := .online
  weight : Nat := 1
  compression : Nat := 0
  maxConnections : Nat := 1000
  maxReplicationLag : Nat := 0
  useSsl : Nat := 0
  maxLatencyMs : Nat := 0
  comment : String := ""
  deriving DecidableEq

structure HostgroupTable where
  servers : List SrvC := []
  nextPtr : Nat := 0

namespace HostgroupTable

def server? (t : HostgroupTable) (ptr : Nat) : Option SrvC :=
  t.servers.find? (·.ptr == ptr)

/-- Changes the entry at an address. -/
def update (t : HostgroupTable) (ptr : Nat) (f : SrvC → SrvC) : HostgroupTable :=
  { t with servers := t.servers.map fun s => if s.ptr = ptr then f s else s }

/-- `mysrvs->add` of a new object -/
def add (t : HostgroupTable) (hid : Nat) (addr : ServerAddr) (status : ServerStatus)
    (opts : SrvOpts) : HostgroupTable × Nat :=
  ({ servers := t.servers ++ [{ ptr := t.nextPtr, hid, addr, status, opts }]
     nextPtr := t.nextPtr + 1 }, t.nextPtr)

/-- `insert_HGM` -/
def insertHgm (t : HostgroupTable) (hid : Nat) (srv : SrvC) : HostgroupTable × Nat :=
  match t.servers.find? fun s => s.hid == hid && s.addr == srv.addr && !s.live with
  | some old => (t.update old.ptr fun s => { s with opts := srv.opts }.setStatus .online, old.ptr)
  -- a new entry, whether or not the hostgroup holds the server already
  | none => t.add hid srv.addr srv.status
      { srv.opts with maxLatencyUs := srv.opts.maxLatencyUs / 1000 * 1000 }

/-- `purge_pgsql_servers_table` -/
def purge (t : HostgroupTable) : HostgroupTable :=
  { t with servers := t.servers.filter fun s => s.live || !s.noLiveConnections }

/-! ### The runtime table -/

/-- `PGHGM_GEN_CLUSTER_ADMIN_RUNTIME_SERVERS` shows a shunned server as online. -/
def runtimeStatus : ServerStatus → ServerStatus
  | .shunned => .online
  | .shunnedReplicationLag => .online
  | status => status

def runtimeRow (s : SrvC) : ServerRow where
  hid := s.hid
  addr := s.addr
  status := runtimeStatus s.status
  weight := s.opts.weight
  compression := s.opts.compression
  maxConnections := s.opts.maxConnections
  maxReplicationLag := s.opts.maxReplicationLag
  useSsl := s.opts.useSsl
  maxLatencyMs := s.opts.maxLatencyUs / 1000
  comment := s.opts.comment

/-- The rows of the checksum, in no order: the query sorts them by their primary key. -/
def runtimeRows (t : HostgroupTable) : Multiset ServerRow :=
  ((t.servers.filter SrvC.live).map runtimeRow : List ServerRow)

end HostgroupTable

/-! ## Mappings -/

/-- `HostGroup_Server_Mapping::Node` -/
structure MappingNode where
  srv : Nat
  /-- `reader_hostgroup_id` and `writer_hostgroup_id` -/
  pair : HostgroupPair
  deriving DecidableEq

/-- `HostGroup_Server_Mapping` -/
structure ServerMapping where
  nodes : MappingType → List MappingNode := fun _ => []
  readonlyFlag : Nat := 1

namespace ServerMapping

/-- The source nodes with a pair that the destination does not have. -/
def absentNodes (M : ServerMapping) (dest src : MappingType) : List MappingNode :=
  (M.nodes src).filter fun n => !(M.nodes dest).any (·.pair == n.pair)

/-- One pass of the second loop of `copy_if_not_exists`. -/
def copyNode (dest : MappingType) (copied : HostgroupTable × List MappingNode)
    (n : MappingNode) : Option (HostgroupTable × List MappingNode) := do
  let srv ← copied.1.server? n.srv
  let (t, ptr) := (copied.1.update n.srv SrvC.recover).insertHgm (n.pair.hostgroupId dest)
    srv.recover
  some (t, copied.2 ++ [⟨ptr, n.pair⟩])

/-- `copy_if_not_exists` -/
def copyIfNotExists (M : ServerMapping) (t : HostgroupTable) (dest src : MappingType) :
    Option (HostgroupTable × ServerMapping) := do
  let (t, nodes) ← (M.absentNodes dest src).foldlM (copyNode dest) (t, M.nodes dest)
  some (t, { M with nodes := Function.update M.nodes dest nodes })

/-- `remove_HGM` of a node -/
def removeNode (t : HostgroupTable) (n : MappingNode) : Option HostgroupTable := do
  let _ ← t.server? n.srv
  some (t.update n.srv SrvC.removeHgm)

/-- `clear` -/
def clear (M : ServerMapping) (t : HostgroupTable) (type : MappingType) :
    Option (HostgroupTable × ServerMapping) := do
  let t ← (M.nodes type).foldlM removeNode t
  some (t, { M with nodes := Function.update M.nodes type [] })

/-- Some reader node has a writer hostgroup that no writer node has. -/
def missesWriter (M : ServerMapping) : Bool :=
  (M.nodes .reader).any fun r => !(M.nodes .writer).any fun w =>
    r.pair.writerHostgroupId == w.pair.writerHostgroupId

/-- Copies all reader nodes to writer. -/
def promote (M : ServerMapping) (t : HostgroupTable) (writerIsAlsoReader : Bool) :
    Option (HostgroupTable × ServerMapping) := do
  let (t, M) ← M.copyIfNotExists t .writer .reader
  if writerIsAlsoReader then some (t, M) else M.clear t .reader

/-- Copies all writer nodes to reader and clears the writer nodes. -/
def demote (M : ServerMapping) (t : HostgroupTable) : Option (HostgroupTable × ServerMapping) := do
  let (t, M) ← M.copyIfNotExists t .reader .writer
  M.clear t .writer

end ServerMapping

/-! ## The configuration -/

/-- A row of `pgsql_replication_hostgroups`. -/
structure ReplicationRow where
  pair : HostgroupPair
  /-- The other columns, which the checksum covers. -/
  columns : List String := []
  deriving DecidableEq

/-- `pgsql_replication_hostgroups`, with its constraints. -/
structure ReplicationHostgroups where
  rows : List ReplicationRow
  primaryKey : (rows.map (·.pair.writerHostgroupId)).Nodup
  unique : (rows.map (·.pair.readerHostgroupId)).Nodup
  check : ∀ row ∈ rows, row.pair.readerHostgroupId ≠ row.pair.writerHostgroupId

namespace ReplicationHostgroups

def empty : ReplicationHostgroups :=
  ⟨[], .nil, .nil, by simp⟩

def pairs (r : ReplicationHostgroups) : List HostgroupPair :=
  r.rows.map (·.pair)

/-- No hostgroup is the writer of one pair and the reader of another. -/
def Unchained (r : ReplicationHostgroups) : Prop :=
  ∀ p ∈ r.pairs, ∀ q ∈ r.pairs, p.writerHostgroupId ≠ q.readerHostgroupId

end ReplicationHostgroups

/-- `pgsql_servers_incoming`, with its primary key. -/
structure ServersIncoming where
  rows : List ServerRow
  primaryKey : (rows.map fun row => (row.hid, row.addr)).Nodup

namespace HostgroupTable

/-- The entries without an incoming row are taken offline. -/
def removeMissing (t : HostgroupTable) (incoming : List ServerRow) : HostgroupTable :=
  { t with servers := t.servers.map fun s =>
      if incoming.any fun row => row.hid == s.hid && row.addr == s.addr then s else s.removeHgm }

/-- What a commit changes in an entry that has an incoming row. -/
def applyRow (row : ServerRow) (s : SrvC) : SrvC :=
  let opts : SrvOpts :=
    { weight := row.weight
      compression := row.compression
      maxConnections := row.maxConnections
      maxReplicationLag := row.maxReplicationLag
      useSsl := row.useSsl
      maxLatencyUs := if s.opts.maxLatencyUs / 1000 = row.maxLatencyMs then s.opts.maxLatencyUs
        else 1000 * row.maxLatencyMs
      comment := row.comment }
  let s' := if s.status = row.status then s else s.setStatus row.status
  -- the limit was just changed to 0 while the entry is shunned for its lag
  let s' := if s.opts.maxReplicationLag ≠ row.maxReplicationLag ∧ row.maxReplicationLag = 0 ∧
      s'.status = .shunnedReplicationLag then s'.setStatus .online else s'
  { s' with opts := opts }

/-- One row of the second loop of `commit`. -/
def commitRow (t : HostgroupTable) (row : ServerRow) : HostgroupTable :=
  match t.servers.find? fun s => s.hid == row.hid && s.addr == row.addr with
  | some s => t.update s.ptr (applyRow row)
  | none => (t.add row.hid row.addr row.status
      { weight := row.weight
        compression := row.compression
        maxConnections := row.maxConnections
        maxReplicationLag := row.maxReplicationLag
        useSsl := row.useSsl
        maxLatencyUs := row.maxLatencyMs * 1000
        comment := row.comment }).1

def commitServers (t : HostgroupTable) (incoming : ServersIncoming) : HostgroupTable :=
  incoming.rows.foldl commitRow (t.purge.removeMissing incoming.rows)

end HostgroupTable

/-! ## The manager -/

/-- What `PgSQL_HostGroups_Manager` keeps about replication hostgroups. -/
structure HostgroupsManager where
  table : HostgroupTable := {}
  replication : ReplicationHostgroups := .empty
  /-- `hostgroup_server_mapping` -/
  mapping : ServerAddr → Option ServerMapping := fun _ => none
  hgsmServersChecksum : Multiset ServerRow := 0
  hgsmReplicationChecksum : List ReplicationRow := []

/-- `read_only_server_t` -/
structure ReadOnlyReport where
  addr : ServerAddr
  readOnly : Int
  deriving DecidableEq

namespace HostgroupsManager

/-- The rows that the query of `update_hostgroup_manager_mappings` has for a server. -/
def mappingRows (m : HostgroupsManager) (addr : ServerAddr) (type : MappingType) :
    List MappingNode :=
  m.replication.pairs.flatMap fun pair =>
    (m.table.servers.filter fun s => s.hid == pair.hostgroupId type && s.addr == addr && s.live).map
      fun s => ⟨s.ptr, pair⟩

def builtMapping (m : HostgroupsManager) (addr : ServerAddr) : Option ServerMapping :=
  if m.mappingRows addr .writer = [] ∧ m.mappingRows addr .reader = [] then none
  else some { nodes := m.mappingRows addr }

/-- `update_hostgroup_manager_mappings` -/
def updateMappings (m : HostgroupsManager) : HostgroupsManager :=
  if m.hgsmServersChecksum ≠ m.table.runtimeRows ∨
      m.hgsmReplicationChecksum ≠ m.replication.rows then
    { m with
      mapping := m.builtMapping
      hgsmServersChecksum := m.table.runtimeRows
      hgsmReplicationChecksum := m.replication.rows }
  else m

/-- `commit`; the replication hostgroups are replaced when they are incoming. -/
def commit (m : HostgroupsManager) (incoming : ServersIncoming)
    (replication : Option ReplicationHostgroups) : HostgroupsManager :=
  updateMappings { m with
    table := m.table.commitServers incoming
    replication := replication.getD m.replication }

/-- The table and the mapping of a server after an action. -/
def store (m : HostgroupsManager) (addr : ServerAddr) (changed : HostgroupTable × ServerMapping) :
    HostgroupsManager :=
  { m with
    table := changed.1
    mapping := Function.update m.mapping addr (some changed.2) }

/-- The pass of `read_only_action_v2` over one server.  The flag says that the table is to
be regenerated. -/
def reportServer (writerIsAlsoReader : Bool) (state : HostgroupsManager × Bool)
    (report : ReadOnlyReport) : Option (HostgroupsManager × Bool) :=
  let (m, changed) := state
  match m.mapping report.addr with
  | none => some state
  | some M =>
      if report.readOnly = 0 then
        if M.nodes .writer = [] then do
          let moved ← M.promote m.table writerIsAlsoReader
          some (m.store report.addr moved, true)
        else if M.readonlyFlag = 0 then some state
        else if M.missesWriter then do
          let moved ← M.promote m.table writerIsAlsoReader
          some (m.store report.addr moved, true)
        else some (m.store report.addr (m.table, { M with readonlyFlag := 0 }), changed)
      else if report.readOnly = 1 then
        if M.nodes .writer = [] then some state
        else do
          let moved ← M.demote m.table
          some (m.store report.addr moved, true)
      else none

/-- The table is regenerated after a change. -/
def regenerate (m : HostgroupsManager) : HostgroupsManager :=
  { m with table := m.table.purge, hgsmServersChecksum := m.table.purge.runtimeRows }

/-- `read_only_action_v2` -/
def readOnlyActionV2 (m : HostgroupsManager) (reports : List ReadOnlyReport)
    (writerIsAlsoReader : Bool) : Option HostgroupsManager := do
  let (m, changed) ← reports.foldlM (reportServer writerIsAlsoReader) (m, false)
  some (if changed then m.regenerate else m)

/-- A server between two statuses that count is shunned, recovers, or drains. -/
def changeStatus (m : HostgroupsManager) (ptr : Nat) (status : ServerStatus) :
    Option HostgroupsManager := do
  let srv ← m.table.server? ptr
  if srv.live ∧ status ≠ .offlineHard then
    some { m with table := m.table.update ptr (SrvC.setStatus · status) }
  else none

/-- Sessions take and return connections of a server. -/
def useConnections (m : HostgroupsManager) (ptr used free : Nat) : HostgroupsManager :=
  { m with table := m.table.update ptr fun s =>
      { s with connectionsUsed := used, connectionsFree := free } }

end HostgroupsManager

/-- What happens to the manager, under its write lock. -/
inductive MappingOp
  | commit (incoming : ServersIncoming) (replication : Option ReplicationHostgroups)
  | readOnlyAction (reports : List ReadOnlyReport) (writerIsAlsoReader : Bool)
  | changeStatus (ptr : Nat) (status : ServerStatus)
  | useConnections (ptr used free : Nat)
  -- a dump of the servers
  | purge

namespace HostgroupsManager

def step (m : HostgroupsManager) : MappingOp → Option HostgroupsManager
  | .commit incoming replication => some (m.commit incoming replication)
  | .readOnlyAction reports writerIsAlsoReader => m.readOnlyActionV2 reports writerIsAlsoReader
  | .changeStatus ptr status => m.changeStatus ptr status
  | .useConnections ptr used free => some (m.useConnections ptr used free)
  | .purge => some { m with table := m.table.purge }

/-- The manager after a run of operations. -/
def run (ops : List MappingOp) : Option HostgroupsManager :=
  ops.foldlM step {}

end HostgroupsManager

end PolarProxy
