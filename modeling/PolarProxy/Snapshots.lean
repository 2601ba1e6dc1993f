import PolarProxy.Library.Runs
import PolarProxy.Library.Reclaim

/-!
# Server-list snapshots

Worker threads read the servers of every hostgroup from an immutable snapshot,
without a lock.  A snapshot holds raw server pointers, so a server that leaves
its hostgroup is retired, and freed only when no snapshot in use can name it.

A server is known by the number of its allocation, a snapshot by its content,
which its generation makes unique.  All writers work under the fast-topology
write lock; `LockSection` says where the owner of the lock stands, and the
reader threads take, share and drop snapshots between any two of its steps.
Generations are counters that start at zero and do not run out.
-/

namespace PolarProxy

open Transition

structure HostgroupServers where
  hid : Nat
  servers : List Nat
  deriving DecidableEq

/-- `PolarDB_ServerListSnapshot`: every linked server, by hostgroup. -/
structure ServerListSnapshot where
  generation : Nat
  byHostgroup : List HostgroupServers
  deriving DecidableEq

def ServerListSnapshot.servers (v : ServerListSnapshot) : List Nat :=
  v.byHostgroup.flatMap HostgroupServers.servers

/-- `PolarDB_RetiredServer` -/
structure RetiredServer where
  srv : Nat
  generation : Nat
  deriving DecidableEq

/-- The thread-local cache of one thread, the generation it has loaded while it
is inside `get_polardb_server_list_snapshot`, and the copies it was given. -/
structure ReaderThread where
  loadedGeneration : Option Nat := none
  -- `UINT64_MAX`, which no snapshot carries, is `none`
  cachedGeneration : Option Nat := none
  cachedSnapshot : Option ServerListSnapshot := none
  copies : List ServerListSnapshot := []
  deriving DecidableEq

def ReaderThread.references (th : ReaderThread) : List ServerListSnapshot :=
  th.cachedSnapshot.toList ++ th.copies

/-- Where the owner of the fast-topology write lock stands. -/
inductive LockSection
  | free
  -- `purge_pgsql_servers_table`, with `polardb_server_list_changed`
  | purging (changed : Bool)
  -- a server is linked, or its attributes are edited: a publication follows
  | edited
  -- the next snapshot is built and the old one is on the retired list
  | publishing (old : Option ServerListSnapshot) (next : ServerListSnapshot)
  -- the next snapshot is stored, its generation is not
  | stored (old : Option ServerListSnapshot) (next : ServerListSnapshot)
  -- the prune loop at the end of a publication
  | pruning (old : Option ServerListSnapshot) (next : ServerListSnapshot) (cursor : Nat)
  -- the prune loop at the start of a detach
  | detaching (cursor : Nat)
  deriving DecidableEq

/-- The snapshots the owner of the lock holds in local variables. -/
def LockSection.locals : LockSection → List ServerListSnapshot
  | .publishing old next => old.toList ++ [next]
  | .stored old next => old.toList ++ [next, next]
  | .pruning old next _ => old.toList ++ [next, next]
  | _ => []

structure SnapshotStore where
  hostGroups : List HostgroupServers := []
  /-- the allocation number of the next server -/
  nextServer : Nat := 0
  current : Option ServerListSnapshot := none
  generation : Nat := 0
  retiredSnapshots : List ServerListSnapshot := []
  retiredServers : List RetiredServer := []
  lockSection : LockSection := .free
  threads : List ReaderThread := []
  /-- every server handed to a `servers_to_delete` so far -/
  serversToDelete : List Nat := []
  /-- every server retired so far -/
  retireLog : List Nat := []
  deriving DecidableEq

namespace SnapshotStore

def linkedServers (s : SnapshotStore) : List Nat :=
  s.hostGroups.flatMap HostgroupServers.servers

/-- The owners of a snapshot: `use_count()`. -/
def useCount (s : SnapshotStore) (v : ServerListSnapshot) : Nat :=
  s.current.toList.count v + s.retiredSnapshots.count v + s.lockSection.locals.count v +
    (s.threads.flatMap ReaderThread.references).count v

/-! ## Writers -/

/-- `PtrArray::remove_index_fast`: the last element takes the freed place. -/
def removeIndexFast (xs : List Nat) (j : Nat) : List Nat :=
  match xs.getLast? with
  | none => xs
  | some last => (xs.set j last).dropLast

/-- Link a server into a hostgroup, which `MyHGC_lookup` creates when missing. -/
def link (hid srv : Nat) : List HostgroupServers → List HostgroupServers
  | [] => [⟨hid, [srv]⟩]
  | g :: rest =>
      if g.hid = hid then { g with servers := g.servers ++ [srv] } :: rest
      else g :: link hid srv rest

/-- `polardb_retire_server_under_fast_topology_lock` -/
def retireServer (s : SnapshotStore) (srv : Nat) : SnapshotStore :=
  { s with
    retiredServers := s.retiredServers ++ [⟨srv, s.generation⟩]
    retireLog := s.retireLog ++ [srv] }

/-- One removal of the purge loop: server `j` of hostgroup number `i`.  Which
servers are `OFFLINE_HARD` without a live connection is left open. -/
def purgeServer (s : SnapshotStore) (i j : Nat) : Option SnapshotStore := do
  let g ← s.hostGroups[i]?
  let srv ← g.servers[j]?
  let unlinked := { s with
    hostGroups := s.hostGroups.set i { g with servers := removeIndexFast g.servers j } }
  some { unlinked.retireServer srv with lockSection := .purging true }

/-- `PgSQL_HostGroups_Manager::add`: link a newly allocated server. -/
def add (s : SnapshotStore) (hid : Nat) : SnapshotStore :=
  { s with
    hostGroups := link hid s.nextServer s.hostGroups
    nextServer := s.nextServer + 1
    lockSection := .edited }

/-- The first part of a publication: build the next snapshot and move the old
one onto the retired list. -/
def buildSnapshot (s : SnapshotStore) : SnapshotStore :=
  let next : ServerListSnapshot :=
    { generation := s.generation + 1, byHostgroup := s.hostGroups }
  { s with
    retiredSnapshots := s.retiredSnapshots ++ s.current.toList
    lockSection := .publishing s.current next }

/-- One turn of `polardb_prune_retired_server_snapshots_under_fast_topology_lock`:
the snapshot at the cursor is erased when the manager is its only owner. -/
def pruneAt (s : SnapshotStore) (cursor : Nat) (v : ServerListSnapshot)
    (resume : Nat → LockSection) : SnapshotStore :=
  if s.useCount v = 1 then
    { s with
      retiredSnapshots := s.retiredSnapshots.eraseIdx cursor
      lockSection := resume cursor }
  else { s with lockSection := resume (cursor + 1) }

/-- `delete_before_generation` -/
def deleteBeforeGeneration (s : SnapshotStore) : Nat :=
  Reclaim.cutoff (s.retiredSnapshots.map ServerListSnapshot.generation) (s.generation + 1)

/-- The rest of
`polardb_detach_reclaimable_retired_servers_under_fast_topology_lock`, after the
prune loop. -/
def detachReclaimable (s : SnapshotStore) : SnapshotStore :=
  let split := Reclaim.release RetiredServer.generation s.deleteBeforeGeneration s.retiredServers
  { s with
    serversToDelete := s.serversToDelete ++ split.1.map RetiredServer.srv
    retiredServers := split.2
    lockSection := .free }

/-! ## Readers -/

/-- The second half of `get_polardb_server_list_snapshot`, after the generation
was loaded: reload a stale cache, and return a copy of it. -/
def getSnapshot (s : SnapshotStore) (th : ReaderThread) (generation : Nat) : ReaderThread :=
  let refreshed :=
    if th.cachedGeneration = some generation then th
    else
      { th with
        cachedSnapshot := s.current
        cachedGeneration := some ((s.current.map ServerListSnapshot.generation).getD generation) }
  { refreshed with
    loadedGeneration := none
    copies := refreshed.cachedSnapshot.toList ++ refreshed.copies }

end SnapshotStore

/-- The steps of the writers, one at a time by the owner of the lock, and of
the reader threads. -/
inductive SnapshotEvent
  | lockPurge
  | purgeServer (i j : Nat)
  | purgeUnchanged
  | add (hid : Nat)
  | lockRepublish
  | buildSnapshot
  | storeSnapshot
  | storeGeneration
  | pruneRetired
  | endPublish
  | lockDetach
  | pruneDetach
  | detach
  | startThread
  | loadGeneration (i : Nat)
  | getSnapshot (i : Nat)
  | share (i j : Nat) (v : ServerListSnapshot)
  | drop (i j : Nat)
  | exitThread (i : Nat)
  deriving DecidableEq

namespace SnapshotStore

/-- What an event of the owner of the lock does, `none` when it is not enabled. -/
def writerStep (s : SnapshotStore) : LockSection → SnapshotEvent → Option SnapshotStore
  | .free, .lockPurge => some { s with lockSection := .purging false }
  | .purging _, .purgeServer i j => s.purgeServer i j
  | .purging false, .purgeUnchanged => some { s with lockSection := .free }
  | .purging true, .buildSnapshot => some s.buildSnapshot
  | .free, .add hid => some (s.add hid)
  | .free, .lockRepublish => some { s with lockSection := .edited }
  | .edited, .buildSnapshot => some s.buildSnapshot
  | .publishing old next, .storeSnapshot =>
      some { s with current := some next, lockSection := .stored old next }
  | .stored old next, .storeGeneration =>
      some { s with generation := next.generation, lockSection := .pruning old next 0 }
  | .pruning old next cursor, .pruneRetired =>
      s.retiredSnapshots[cursor]?.map fun v => s.pruneAt cursor v (.pruning old next)
  | .pruning _ _ cursor, .endPublish =>
      if s.retiredSnapshots.length ≤ cursor then some { s with lockSection := .free } else none
  | .free, .lockDetach => some { s with lockSection := .detaching 0 }
  | .detaching cursor, .pruneDetach =>
      s.retiredSnapshots[cursor]?.map fun v => s.pruneAt cursor v .detaching
  | .detaching cursor, .detach =>
      if s.retiredSnapshots.length ≤ cursor then some s.detachReclaimable else none
  | _, _ => none

/-- What an event of a reader thread makes of the threads. -/
def readerStep (s : SnapshotStore) : SnapshotEvent → Option (List ReaderThread)
  | .startThread => some (s.threads ++ [{}])
  | .loadGeneration i =>
      s.threads[i]?.map fun th => s.threads.set i { th with loadedGeneration := some s.generation }
  | .getSnapshot i => do
      let th ← s.threads[i]?
      let generation ← th.loadedGeneration
      some (s.threads.set i (s.getSnapshot th generation))
  | .share i j v => do
      let th ← s.threads[i]?
      let th' ← s.threads[j]?
      if v ∈ th.references then
        some (s.threads.set j { th' with copies := v :: th'.copies })
      else none
  | .drop i j =>
      s.threads[i]?.map fun th => s.threads.set i { th with copies := th.copies.eraseIdx j }
  | .exitThread i => s.threads[i]?.map fun _ => s.threads.eraseIdx i
  | _ => none

def step (s : SnapshotStore) (e : SnapshotEvent) : Option SnapshotStore :=
  match s.readerStep e with
  | some threads => some { s with threads := threads }
  | none => s.writerStep s.lockSection e

/-- The store as the constructor leaves it: one publication, no thread yet. -/
def init : SnapshotStore :=
  { current := some { generation := 1, byHostgroup := [] }, generation := 1 }

/-- Runs of the store, from its construction. -/
def Reaches (ls : List SnapshotEvent) (t : SnapshotStore) : Prop :=
  Run (fun s e t => step s e = some t) init ls t

end SnapshotStore

end PolarProxy
