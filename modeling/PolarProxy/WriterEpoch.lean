import PolarProxy.Scope
import PolarProxy.Library.Runs
import PolarProxy.Library.Lines
import Mathlib.Data.Char

/-!
# Writer epochs and LSN caches

The hostgroup manager caches WAL positions per server and per replication
group.  They are meaningful on one timeline only, so a change of the writer set
clears them and starts a new writer epoch.  Worker threads keep storing the
positions of results while this happens.

Every shared cell is read or written by a step of its own: a worker inside
`polardb_accept_rfq_server_lsn`, the thread that holds the manager's write lock
(a reload, a refresh of the epochs, a monitor result), and the readers of the
replica maximum.  What a step leaves behind for the proofs only is marked as a
trace: which requests' positions a cell holds, and which readers a writer had.
-/

namespace PolarProxy

open Transition

/-- `MySerStatus` -/
inductive ServerStatus
  | online
  | shunned
  | offlineSoft
  | offlineHard
  | shunnedReplicationLag
  deriving DecidableEq

/-- Who holds the LSN cache guard of a server. -/
inductive GuardOwner
  | worker (i : Nat)
  | manager
  deriving DecidableEq

/-- What the LSN caches need of a `PgSQL_SrvC`. -/
structure LsnServer where
  address : List Char := []
  port : Nat := 0
  status : ServerStatus := .online
  currentLsn : Nat := 0
  updatedAt : Nat := 0
  cacheGuard : Option GuardOwner := none
  /-- trace: the scopes of the requests whose positions were stored -/
  rfqScopes : List WriterScope := []
  deriving DecidableEq

/-- `polardb_advance_lsn` -/
def LsnServer.advanceLsn (srv : LsnServer) (lsn now : Nat) : LsnServer :=
  if lsn = 0 then srv
  else { srv with currentLsn := max srv.currentLsn lsn, updatedAt := now }

@[simp]
theorem LsnServer.advanceLsn_cacheGuard (srv : LsnServer) (lsn now : Nat) :
    (srv.advanceLsn lsn now).cacheGuard = srv.cacheGuard := by
  unfold advanceLsn
  split <;> rfl

@[simp]
theorem LsnServer.advanceLsn_rfqScopes (srv : LsnServer) (lsn now : Nat) :
    (srv.advanceLsn lsn now).rfqScopes = srv.rfqScopes := by
  unfold advanceLsn
  split <;> rfl

/-- `polardb_reset_server_lsn_cache` -/
def LsnServer.resetLsnCache (srv : LsnServer) : LsnServer :=
  { srv with currentLsn := 0, updatedAt := 0, rfqScopes := [] }

/-- `repl_config` of a writer hostgroup, as far as the epochs need it. -/
structure ReplConfig where
  configured : Bool := false
  readerHostgroup : Nat := 0
  groupLsn : Nat := 0
  maxReplicaReplayLsn : Nat := 0
  writerEpoch : Nat := 0
  writerIdentity : List Char := []
  writerIdentityInitialized : Bool := false
  /-- trace: the scopes of the requests whose positions the group LSN holds -/
  groupScopes : List WriterScope := []
  /-- trace: every reader hostgroup a PolarDB row has given this writer -/
  pastReaders : List Nat := []
  deriving DecidableEq

/-! ## Writer identity -/

def identityLine (srv : LsnServer) : List Char :=
  srv.address ++ '\t' :: Nat.toDigits 10 srv.port

def countedServers (servers : List LsnServer) : List LsnServer :=
  servers.filter fun srv => srv.status ≠ .offlineHard

/-- `polardb_writer_identity_under_hgm_write_lock` -/
def writerIdentity (servers : List LsnServer) : List Char :=
  Lines.sortedLines '\n' ((countedServers servers).map identityLine)

/-! ## State -/

/-- The hostgroups of a topology snapshot, each with the writer of its entry. -/
abbrev TopologyEntries :=
  Nat → Option Nat

/-- Where a call of `polardb_accept_rfq_server_lsn` stands. -/
inductive AcceptStage
  -- the snapshot entry is found, the epoch is not read yet
  | scoped
  -- the first epoch check has passed
  | tracked
  -- the guard is taken, the epoch is not read again yet
  | guarded
  | validated
  -- the server position is stored
  | advanced
  -- the group position is stored too
  | recorded
  deriving DecidableEq

structure AcceptCall where
  srv : Nat
  hostgroup : Nat
  lsn : Nat
  scope : WriterScope
  /-- writer hostgroup of the snapshot entry, whose cells the call uses -/
  writer : Nat
  stage : AcceptStage := .scoped
  deriving DecidableEq

/-- Where a call of `get_polardb_max_replica_replay_lsn` stands. -/
inductive ReadStage
  | started
  | checked
  | loaded (lsn : Nat)
  deriving DecidableEq

structure ReplicaRead where
  scope : WriterScope
  writer : Nat
  stage : ReadStage := .started
  deriving DecidableEq

/-- Where `polardb_refresh_writer_epoch_under_hgm_write_lock` stands, once it
has found a new identity. -/
inductive RefreshStage
  | guarding (pending : List Nat)
  | clearGroup
  | clearReplica
  | clearServers (pending : List Nat)
  | bump
  | release (pending : List Nat)
  deriving DecidableEq

structure Refresh where
  writer : Nat
  identity : List Char
  /-- `cache_servers`, whose guards the refresh takes -/
  cacheServers : List Nat
  /-- the writers still to examine -/
  todo : List Nat

/-- Where the application of one monitor result to one server stands. -/
inductive MonitorStage
  | guarding
  | advancing
  | group
  | replica
  | release
  deriving DecidableEq

structure MonitorUpdate where
  srv : Nat
  writer : Option Nat
  lsn : Nat
  isReader : Bool
  now : Nat

/-- What the holder of the manager's write lock is doing.  A reload carries the
snapshot it will publish after the refresh of the epochs. -/
inductive ManagerTask
  | idle
  | scanning (todo : List Nat) (next : Option TopologyEntries)
  | refreshing (r : Refresh) (stage : RefreshStage) (next : Option TopologyEntries)
  | monitoring (m : MonitorUpdate) (stage : MonitorStage)

def ManagerTask.isIdle : ManagerTask → Bool
  | .idle => true
  | _ => false

structure LsnCaches where
  /-- number of worker threads -/
  workers : Nat
  hostgroup : Nat → List Nat := fun _ => []
  server : Nat → LsnServer := fun _ => {}
  nextServer : Nat := 0
  repl : Nat → ReplConfig := fun _ => {}
  /-- the keys of `polardb_writer_to_reader_` -/
  writers : List Nat := []
  readerToWriter : Nat → Option Nat := fun _ => none
  /-- every topology snapshot published so far: a thread may still use any -/
  published : List TopologyEntries := []
  task : ManagerTask := .idle
  calls : Nat → Option AcceptCall := fun _ => none
  reads : Nat → Option ReplicaRead := fun _ => none
  /-- trace: writer, epoch and position of every store to a replica maximum -/
  replayLog : List (Nat × Nat × Nat) := []
  /-- trace: what the replica maximum was asked for and what was returned -/
  answers : List (WriterScope × Nat) := []

namespace LsnCaches

def setServer (s : LsnCaches) (srv : Nat) (x : LsnServer) : LsnCaches :=
  { s with server := Function.update s.server srv x }

def setRepl (s : LsnCaches) (w : Nat) (c : ReplConfig) : LsnCaches :=
  { s with repl := Function.update s.repl w c }

def setCall (s : LsnCaches) (i : Nat) (c : Option AcceptCall) : LsnCaches :=
  { s with calls := Function.update s.calls i c }

def setGuard (s : LsnCaches) (srv : Nat) (owner : Option GuardOwner) : LsnCaches :=
  s.setServer srv { s.server srv with cacheGuard := owner }

/-- The scope a writer hostgroup has now. -/
def currentScope (s : LsnCaches) (w : Nat) : WriterScope :=
  { hg := w, epoch := (s.repl w).writerEpoch }

/-! ## `polardb_accept_rfq_server_lsn` -/

/-- The checks before the epoch is read; a rejected call leaves no trace.  The
server belongs to the hostgroup it is reported under. -/
def acceptBegin (s : LsnCaches) (i srv hg lsn : Nat) (scope : WriterScope) (k : Nat) :
    Option LsnCaches :=
  match s.calls i, s.published[k]? with
  | none, some entries =>
      if i < s.workers ∧ srv ∈ s.hostgroup hg then
        match entries hg with
        | some writer =>
            if lsn = 0 ∨ ¬ scope.Valid then some s
            else some (s.setCall i (some { srv, hostgroup := hg, lsn, scope, writer }))
        | none => some s
      else none
  | _, _ => none

/-- One step of a call; `coalesced` is the answer of the worker's own tracking
of repeated positions. -/
def acceptStep (s : LsnCaches) (i : Nat) (c : AcceptCall) (coalesced : Bool) (now : Nat) :
    Option LsnCaches :=
  match c.stage with
  | .scoped =>
      if c.scope.Matches (s.currentScope c.writer) ∧ coalesced = false then
        some (s.setCall i (some { c with stage := .tracked }))
      else some (s.setCall i none)
  | .tracked =>
      if (s.server c.srv).cacheGuard = none then
        some ((s.setGuard c.srv (some (.worker i))).setCall i (some { c with stage := .guarded }))
      else none
  | .guarded =>
      if c.scope.Matches (s.currentScope c.writer) then
        some (s.setCall i (some { c with stage := .validated }))
      else some ((s.setGuard c.srv none).setCall i none)
  | .validated =>
      let srv := (s.server c.srv).advanceLsn c.lsn now
      some ((s.setServer c.srv { srv with rfqScopes := c.scope :: srv.rfqScopes }).setCall i
        (some { c with stage := .advanced }))
  | .advanced =>
      let r := s.repl c.writer
      some ((s.setRepl c.writer { r with
          groupLsn := max r.groupLsn c.lsn
          groupScopes := c.scope :: r.groupScopes }).setCall i (some { c with stage := .recorded }))
  | .recorded => some ((s.setGuard c.srv none).setCall i none)

/-! ## `get_polardb_max_replica_replay_lsn` -/

def readBegin (s : LsnCaches) (j : Nat) (scope : WriterScope) (k : Nat) : Option LsnCaches :=
  match s.reads j, s.published[k]? with
  | none, some entries =>
      match if scope.Valid then entries scope.hg.toNat else none with
      | some writer =>
          some { s with reads := Function.update s.reads j (some { scope, writer }) }
      | none => some { s with answers := (scope, 0) :: s.answers }
  | _, _ => none

def readStep (s : LsnCaches) (j : Nat) (r : ReplicaRead) : LsnCaches :=
  let current := (s.repl r.writer).writerEpoch
  let answered (lsn : Nat) : LsnCaches :=
    { s with
      reads := Function.update s.reads j none
      answers := (r.scope, lsn) :: s.answers }
  match r.stage with
  | .started =>
      if current = r.scope.epoch then
        { s with reads := Function.update s.reads j (some { r with stage := .checked }) }
      else answered 0
  | .checked =>
      { s with
        reads := Function.update s.reads j
          (some { r with stage := .loaded (s.repl r.writer).maxReplicaReplayLsn }) }
  | .loaded lsn => answered (if current = r.scope.epoch then lsn else 0)

/-! ## Writer epoch refresh -/

def identityOf (s : LsnCaches) (w : Nat) : List Char :=
  writerIdentity ((s.hostgroup w).map s.server)

/-- The servers a refresh clears: the writer hostgroup's and the reader
hostgroup's. -/
def clearedServers (s : LsnCaches) (w : Nat) : List Nat :=
  let reader := (s.repl w).readerHostgroup
  s.hostgroup w ++ if reader = w then [] else s.hostgroup reader

/-- `add_cache_servers` -/
def addCacheServers (cache servers : List Nat) : List Nat :=
  servers.foldl (fun cache srv => if srv ∈ cache then cache else cache ++ [srv]) cache

/-- The servers whose guards a refresh takes. -/
def cacheServersOf (s : LsnCaches) (w : Nat) : List Nat :=
  let reader := (s.repl w).readerHostgroup
  let cache := addCacheServers [] (s.hostgroup w)
  if reader = w then cache else addCacheServers cache (s.hostgroup reader)

/-- The refresh of a writer goes past the comparison of the identities. -/
def IdentityChanged (s : LsnCaches) (w : Nat) : Prop :=
  (s.repl w).configured = true ∧ (s.repl w).writerIdentityInitialized = true ∧
    s.identityOf w ≠ (s.repl w).writerIdentity

instance (s : LsnCaches) (w : Nat) : Decidable (s.IdentityChanged w) :=
  inferInstanceAs (Decidable (_ ∧ _ ∧ _))

/-- The start of `polardb_refresh_writer_epoch_under_hgm_write_lock`. -/
def scanWriter (s : LsnCaches) (w : Nat) (todo : List Nat) (next : Option TopologyEntries) :
    LsnCaches :=
  if s.IdentityChanged w then
    let cacheServers := s.cacheServersOf w
    { s with
      task := .refreshing { writer := w, identity := s.identityOf w, cacheServers, todo }
        (.guarding cacheServers) next }
  else
    let c := s.repl w
    let c := if c.configured && !c.writerIdentityInitialized then
        { c with writerIdentity := s.identityOf w, writerIdentityInitialized := true }
      else c
    { s.setRepl w c with task := .scanning todo next }

/-- The rest of it, one cell at a time. -/
def refreshStep (s : LsnCaches) (r : Refresh) (next : Option TopologyEntries) :
    RefreshStage → Option LsnCaches
  | .guarding (srv :: pending) =>
      if (s.server srv).cacheGuard = none then
        some { s.setGuard srv (some .manager) with
          task := .refreshing r (.guarding pending) next }
      else none
  | .guarding [] => some { s with task := .refreshing r .clearGroup next }
  | .clearGroup =>
      some { s.setRepl r.writer { s.repl r.writer with
          writerIdentity := r.identity, groupLsn := 0, groupScopes := [] } with
        task := .refreshing r .clearReplica next }
  | .clearReplica =>
      some { s.setRepl r.writer { s.repl r.writer with maxReplicaReplayLsn := 0 } with
        task := .refreshing r (.clearServers (s.clearedServers r.writer)) next }
  | .clearServers (srv :: pending) =>
      some { s.setServer srv (s.server srv).resetLsnCache with
        task := .refreshing r (.clearServers pending) next }
  | .clearServers [] => some { s with task := .refreshing r .bump next }
  | .bump =>
      some { s.setRepl r.writer { s.repl r.writer with
          writerEpoch := (s.repl r.writer).writerEpoch + 1 } with
        task := .refreshing r (.release r.cacheServers.reverse) next }
  | .release (srv :: pending) =>
      some { s.setGuard srv none with task := .refreshing r (.release pending) next }
  | .release [] => some { s with task := .scanning r.todo next }

/-! ## Replication hostgroups reload -/

/-- The columns of `pgsql_replication_hostgroups` the epochs depend on. -/
structure ReplRow where
  writerHostgroup : Nat
  readerHostgroup : Nat
  isPolardb : Bool
  deriving DecidableEq

def applyRow (s : LsnCaches) (row : ReplRow) : LsnCaches :=
  let c := s.repl row.writerHostgroup
  let past := if row.isPolardb then row.readerHostgroup :: c.pastReaders else c.pastReaders
  let s := s.setRepl row.writerHostgroup
    { c with configured := true, readerHostgroup := row.readerHostgroup, pastReaders := past }
  if row.isPolardb then
    { s with
      writers := row.writerHostgroup :: s.writers
      readerToWriter := Function.update s.readerToWriter row.readerHostgroup
        (some row.writerHostgroup) }
  else s

/-- The snapshot entries of the rows: a later row replaces an earlier one. -/
def entriesOf : List ReplRow → TopologyEntries
  | [] => fun _ => none
  | row :: rest => fun hg =>
      match entriesOf rest hg with
      | some w => some w
      | none =>
          if row.isPolardb ∧ (hg = row.readerHostgroup ∨ hg = row.writerHostgroup) then
            some row.writerHostgroup
          else none

/-- `generate_pgsql_replication_hostgroups_table` up to the refresh of the
epochs, for rows that pass the policy checks; rejected rows change nothing. -/
def reload (s : LsnCaches) (rows : List ReplRow) : LsnCaches :=
  rows.foldl applyRow
    { s with
      repl := fun w => { s.repl w with configured := false }
      writers := []
      readerToWriter := fun _ => none }

/-! ## Monitor results -/

/-- The pair whose cells a monitor result for a hostgroup updates. -/
def monitorWriter (s : LsnCaches) (hid : Nat) : Option Nat :=
  match s.readerToWriter hid with
  | some w => some w
  | none => if hid ∈ s.writers then some hid else none

def monitorStep (s : LsnCaches) (m : MonitorUpdate) : MonitorStage → Option LsnCaches
  | .guarding =>
      if (s.server m.srv).cacheGuard = none then
        some { s.setGuard m.srv (some .manager) with task := .monitoring m .advancing }
      else none
  | .advancing =>
      some { s.setServer m.srv ((s.server m.srv).advanceLsn m.lsn m.now) with
        task := .monitoring m .group }
  | .group =>
      match m.writer with
      | some w =>
          some { s.setRepl w { s.repl w with groupLsn := max (s.repl w).groupLsn m.lsn } with
            task := .monitoring m .replica }
      | none => some { s with task := .monitoring m .replica }
  | .replica =>
      match m.writer with
      | some w =>
          if m.isReader then
            some { s.setRepl w { s.repl w with
                maxReplicaReplayLsn := max (s.repl w).maxReplicaReplayLsn m.lsn } with
              replayLog := (w, (s.repl w).writerEpoch, m.lsn) :: s.replayLog
              task := .monitoring m .release }
          else some { s with task := .monitoring m .release }
      | none => some { s with task := .monitoring m .release }
  | .release => some { s.setGuard m.srv none with task := .idle }

/-- The next step of whoever holds the manager's write lock. -/
def managerStep (s : LsnCaches) : Option LsnCaches :=
  match s.task with
  | .idle => none
  | .scanning (w :: todo) next => some (s.scanWriter w todo next)
  | .scanning [] (some entries) =>
      some { s with published := s.published ++ [entries], task := .idle }
  | .scanning [] none => some { s with task := .idle }
  | .refreshing r stage next => s.refreshStep r next stage
  | .monitoring m stage => s.monitorStep m stage

/-! ## Servers -/

def addServer (s : LsnCaches) (hid : Nat) (address : List Char) (port : Nat) : LsnCaches :=
  { s.setServer s.nextServer { address, port } with
    hostgroup := Function.update s.hostgroup hid (s.hostgroup hid ++ [s.nextServer])
    nextServer := s.nextServer + 1 }

/-- Whether a worker is still inside a call for a server. -/
def InUse (s : LsnCaches) (srv : Nat) : Prop :=
  ∃ i < s.workers, ∃ c ∈ s.calls i, c.srv = srv

instance (s : LsnCaches) (srv : Nat) : Decidable (s.InUse srv) :=
  inferInstanceAs (Decidable (∃ i < s.workers, ∃ c ∈ s.calls i, c.srv = srv))

def purgeServer (s : LsnCaches) (hid srv : Nat) : LsnCaches :=
  { s with hostgroup := Function.update s.hostgroup hid ((s.hostgroup hid).filter (· ≠ srv)) }

end LsnCaches

/-- The steps of the workers, of the readers of the replica maximum and of the
holder of the manager's write lock. -/
inductive EpochEvent
  | acceptBegin (i srv hg lsn : Nat) (scope : WriterScope) (k : Nat)
  | acceptStep (i : Nat) (coalesced : Bool) (now : Nat)
  | readBegin (j : Nat) (scope : WriterScope) (k : Nat)
  | readStep (j : Nat)
  | addServer (hid : Nat) (address : List Char) (port : Nat)
  | setStatus (srv : Nat) (status : ServerStatus)
  | purgeServer (hid srv : Nat)
  | reload (rows : List LsnCaches.ReplRow) (order : List Nat)
  | refreshAll (order : List Nat)
  | monitor (hid srv lsn : Nat) (isReader : Bool) (now : Nat)
  | managerStep

namespace LsnCaches

/-- One step, `none` when it is not enabled.  Reloads and refreshes visit the
writers in the order of a hash map, so the order is part of the event.  A server
with a connection in use is not purged. -/
def step (s : LsnCaches) : EpochEvent → Option LsnCaches
  | .acceptBegin i srv hg lsn scope k => s.acceptBegin i srv hg lsn scope k
  | .acceptStep i coalesced now => (s.calls i).bind fun c => s.acceptStep i c coalesced now
  | .readBegin j scope k => s.readBegin j scope k
  | .readStep j => (s.reads j).map fun r => s.readStep j r
  | .addServer hid address port =>
      if s.task.isIdle then some (s.addServer hid address port) else none
  | .setStatus srv status => some (s.setServer srv { s.server srv with status := status })
  | .purgeServer hid srv =>
      if s.task.isIdle ∧ ¬ s.InUse srv then some (s.purgeServer hid srv) else none
  | .reload rows order =>
      let loaded := s.reload rows
      if s.task.isIdle ∧ order ⊆ loaded.writers ∧ loaded.writers ⊆ order then
        some { loaded with task := .scanning order (some (entriesOf rows)) }
      else none
  | .refreshAll order =>
      if s.task.isIdle ∧ order ⊆ s.writers ∧ s.writers ⊆ order then
        some { s with task := .scanning order none }
      else none
  | .monitor hid srv lsn isReader now =>
      if s.task.isIdle ∧ srv ∈ s.hostgroup hid ∧ (s.server srv).status = .online then
        some { s with
          task := .monitoring { srv, writer := s.monitorWriter hid, lsn, isReader, now } .guarding }
      else none
  | .managerStep => s.managerStep

/-- Runs of the caches of a proxy with a number of worker threads. -/
def Reaches (workers : Nat) (ls : List EpochEvent) (t : LsnCaches) : Prop :=
  Run (fun s e t => step s e = some t) { workers } ls t

end LsnCaches

end PolarProxy
