import PolarProxy.StartupIdentity
import PolarProxy.Text
import PolarProxy.WriterEpoch
import Mathlib.Algebra.GroupWithZero.Nat
import Mathlib.Data.List.AList

/-!
# Reload of the replication hostgroups

A commit of the admin tables hands the manager the rows of
`pgsql_replication_hostgroups`.  The rows are checked first; when one of them is
rejected the previous topology is kept.  Otherwise the runtime table is
rewritten, the configuration of every writer hostgroup is replaced, and a new
topology snapshot is published.

The module follows `generate_pgsql_replication_hostgroups_table` as a function on
the manager's state.  The runtime table lives in a database that the model knows
only through its statements.
-/

namespace PolarProxy

namespace Topology

/-! ## Configuration values -/

/-- `strtol` in base ten, for a `long` of 64 bits -/
def strtol (text : List Char) : Int :=
  let text := text.dropWhile isSpace
  let negative := text.head? == some '-'
  let digits := if negative || text.head? == some '+' then text.drop 1 else text
  let n := (digits.takeWhile Char.isDigit).foldl
    (fun (n : Int) c => n * 10 + (c.toNat - 48 : Nat)) 0
  if negative then max (-n) (-2 ^ 63) else min n (2 ^ 63 - 1)

/-- `atoi`: the `int` with the low bits of `strtol` -/
def atoi (text : List Char) : Int :=
  (strtol text).bmod (2 ^ 32)

/-- Conversion of an `int` to `unsigned int` -/
def toUnsigned (n : Int) : Nat :=
  (n % 2 ^ 32).toNat

/-- `polardb_consistency_mode_from_string` -/
def consistencyModeFromString (value : List Char) (defaultValue : Int) : Int :=
  if value = [] || tokenEquals value "default" then defaultValue
  else if tokenEquals value "off" then ConsistencyMode.off.toInt
  else if tokenEquals value "session_lsn" then ConsistencyMode.sessionLsn.toInt
  else if tokenEquals value "global_lsn" then ConsistencyMode.globalLsn.toInt
  else if tokenEquals value "eventual" then ConsistencyMode.eventual.toInt
  else defaultValue

/-- `polardb_hostgroup_consistency_mode_from_string` -/
def hostgroupConsistencyModeFromString (value : List Char) (defaultValue : Int) : Int :=
  if tokenEquals value "primary" then ConsistencyMode.primaryOnly.toInt
  else consistencyModeFromString value defaultValue

/-- `polardb_proxy_protocol_from_string` -/
def proxyProtocolFromString (value : List Char) (defaultValue : Int) : Int :=
  if value = [] || tokenEquals value "default" then defaultValue
  else if tokenEquals value "off" then ProxyProtocol.off.toNat
  else if tokenEquals value "legacy" then ProxyProtocol.legacy.toNat
  else if tokenEquals value "v15" then ProxyProtocol.v15.toNat
  else if tokenEquals value "v15_wait" then ProxyProtocol.v15Wait.toNat
  else defaultValue

/-- `polardb_proxy_protocol_from_int` -/
def proxyProtocolFromInt (protocol : Int) : ProxyProtocol :=
  if protocol = 3 then .v15Wait
  else if protocol = 2 then .v15
  else if protocol = 1 then .legacy
  else .off

/-- `polardb_hostgroup_lsn_source_error` -/
def hostgroupLsnSourceError (mode : ConsistencyMode) (protocol : ProxyProtocol) : Option String :=
  if mode = .sessionLsn ∧ protocol = .off then
    some "session_lsn requires proxy_protocol v15_wait, v15, or legacy"
  else none

/-- What a reload reads of `PolarDB_ParsedGlobalConfigValue` -/
structure GlobalConfig where
  profile : Int
  consistencyMode : Int
  missingLsnAction : Int
  lsnWaitTimeoutAction : Int
  proxyProtocol : ProxyProtocol
  deriving DecidableEq

/-- `PolarDB_Profile::OFF` is the only profile with the value zero. -/
def GlobalConfig.profileOff (config : GlobalConfig) : Bool :=
  config.profile == 0

/-! ## Rows -/

/-- One row of `incoming_replication_hostgroups`, as texts. -/
structure ReplicationRow where
  writerHostgroup : List Char
  readerHostgroup : List Char
  checkType : List Char
  txnSplitEnabled : List Char
  consistencyMode : List Char
  maxLagBytes : List Char
  lsnWaitTimeoutMs : List Char
  proxyProtocol : List Char
  comment : List Char
  deriving DecidableEq

namespace ReplicationRow

/-- `is_polardb_check` -/
def isPolardb (row : ReplicationRow) : Bool :=
  tokenEquals row.checkType "polardb"

/-- Number of the writer hostgroup -/
def writer (row : ReplicationRow) : Nat :=
  toUnsigned (atoi row.writerHostgroup)

/-- Number of the reader hostgroup -/
def reader (row : ReplicationRow) : Nat :=
  toUnsigned (atoi row.readerHostgroup)

/-- A PolarDB row that names a hostgroup -/
def Names (row : ReplicationRow) (hg : Nat) : Prop :=
  row.isPolardb = true ∧ (hg = row.writer ∨ hg = row.reader)

instance (row : ReplicationRow) (hg : Nat) : Decidable (row.Names hg) :=
  inferInstanceAs (Decidable (_ ∧ _))

def effectiveMode (config : GlobalConfig) (row : ReplicationRow) : Int :=
  let configuredMode := hostgroupConsistencyModeFromString row.consistencyMode (-1)
  if 0 ≤ configuredMode then configuredMode else config.consistencyMode

def effectiveProtocol (config : GlobalConfig) (row : ReplicationRow) : Int :=
  let configuredProtocol := proxyProtocolFromString row.proxyProtocol (-1)
  if 0 ≤ configuredProtocol then configuredProtocol else config.proxyProtocol.toNat

/-- The policy error of a row that the checks look at -/
def policyError (config : GlobalConfig) (row : ReplicationRow) : Option String :=
  consistencyPolicyError (consistencyFromInt (row.effectiveMode config))
    (missingLsnActionFromInt config.missingLsnAction)
    (lsnWaitTimeoutActionFromInt config.lsnWaitTimeoutAction)

/-- The LSN source error of a row; there is none while PolarDB handling is off. -/
def lsnSourceError (config : GlobalConfig) (row : ReplicationRow) : Option String :=
  if config.profileOff then none
  else hostgroupLsnSourceError (consistencyFromInt (row.effectiveMode config))
    (proxyProtocolFromInt (row.effectiveProtocol config))

/-- The error that the first loop finds in a row -/
def error (config : GlobalConfig) (row : ReplicationRow) : Option String :=
  if row.isPolardb then
    match row.policyError config with
    | some error => some error
    | none => row.lsnSourceError config
  else none

end ReplicationRow

/-! ## State -/

/-- `repl_config` of a hostgroup, with the values of the cells it shares. -/
structure ReplConfig where
  configured : Bool := false
  readerHostgroup : Nat := 0
  writerHostgroup : Nat := 0
  maxLagBytes : Int := 0
  checkType : List Char := []
  txnSplitEnabled : Bool := false
  consistencyMode : List Char := []
  consistencyModeEnum : Int := -1
  lsnWaitTimeoutMs : Int := 0
  proxyProtocol : List Char := []
  proxyProtocolEnum : Int := -1
  groupLsn : Nat := 0
  maxReplicaReplayLsn : Nat := 0
  writerEpoch : Nat := 0
  writerIdentity : List Char := []
  writerIdentityInitialized : Bool := false
  deriving DecidableEq

/-- What a reload needs of a `PgSQL_HGC`. -/
structure Hostgroup where
  hid : Nat
  servers : List LsnServer := []
  replConfig : ReplConfig := {}
  deriving DecidableEq

/-- `PolarDB_HG_Policy`, with the startup protocol -/
structure HgPolicy extends HgPolicySnapshot where
  proxyProtocol : Int := -1
  deriving DecidableEq

/-- `PolarDB_HG_Config` -/
structure HgConfig where
  isPolardbHostgroup : Bool := false
  writerHostgroup : Int := -1
  readerHostgroup : Int := -1
  policy : HgPolicy := {}
  writerEpoch : Nat := 0
  deriving DecidableEq

/-- `PolarDB_HG_SnapshotEntry`; a shared cell is named by the hostgroup that
keeps it. -/
structure SnapshotEntry where
  config : HgConfig := {}
  groupLsn : Option Nat := none
  maxReplicaReplayLsn : Option Nat := none
  writerEpoch : Option Nat := none
  deriving DecidableEq

/-- `PolarDB_TopologySnapshot` -/
structure TopologySnapshot where
  generation : Nat := 0
  byHostgroup : AList (fun _ : Nat => SnapshotEntry) := ∅

/-- The manager's state that a reload reads and writes; `μ` are the contents of
`mydb`. -/
structure Manager (μ : Type) where
  incoming : Option (List ReplicationRow) := none
  mydb : μ
  hostgroups : List Hostgroup := []
  /-- `polardb_hostgroups_` -/
  polardbHostgroups : List Nat := []
  writerToReader : AList (fun _ : Nat => Nat) := ∅
  readerToWriter : AList (fun _ : Nat => Nat) := ∅
  topologySnapshot : Option TopologySnapshot := none
  topologyGeneration : Nat := 0
  polardbActive : Bool := false
  polardbActivationGeneration : Nat := 0

/-- What a reload uses of the database and of the order of a hash map. -/
structure Environment (μ : Type) where
  /-- `mydb->execute` -/
  execute : List Char → μ → μ
  /-- the order in which `polardb_writer_to_reader_` is visited -/
  visit : List Nat → List Nat

/-! ## Hostgroups -/

/-- `MyHGC_find` -/
def findHostgroup (hid : Nat) (groups : List Hostgroup) : Option Hostgroup :=
  groups.find? fun g => g.hid == hid

/-- `MyHGC_lookup` adds a hostgroup that is not there. -/
def lookupHostgroup (hid : Nat) (groups : List Hostgroup) : List Hostgroup :=
  match findHostgroup hid groups with
  | some _ => groups
  | none => groups ++ [{ hid }]

/-- A write to the hostgroup that `MyHGC_find` returns -/
def updateHostgroup (hid : Nat) (f : Hostgroup → Hostgroup) : List Hostgroup → List Hostgroup
  | [] => []
  | g :: rest => if g.hid = hid then f g :: rest else g :: updateHostgroup hid f rest

/-- `polardb_reset_lsn_cache_for_hostgroup_under_hgm_write_lock` -/
def resetLsnCacheForHostgroup (hid : Nat) : List Hostgroup → List Hostgroup :=
  updateHostgroup hid fun g => { g with servers := g.servers.map LsnServer.resetLsnCache }

/-- `polardb_refresh_writer_epoch_under_hgm_write_lock` -/
def refreshWriterEpoch (groups : List Hostgroup) (hid : Nat) : List Hostgroup :=
  match findHostgroup hid groups with
  | none => groups
  | some g =>
      if !g.replConfig.configured then groups
      else
        let currentIdentity := writerIdentity g.servers
        if !g.replConfig.writerIdentityInitialized then
          updateHostgroup hid (fun g => { g with replConfig := { g.replConfig with
            writerIdentity := currentIdentity
            writerIdentityInitialized := true } }) groups
        else if currentIdentity = g.replConfig.writerIdentity then groups
        else
          let groups := updateHostgroup hid (fun g => { g with replConfig := { g.replConfig with
            writerIdentity := currentIdentity
            groupLsn := 0
            maxReplicaReplayLsn := 0 } }) groups
          let groups := resetLsnCacheForHostgroup hid groups
          let groups :=
            if g.replConfig.readerHostgroup ≠ hid then
              resetLsnCacheForHostgroup g.replConfig.readerHostgroup groups
            else groups
          updateHostgroup hid (fun g => { g with replConfig := { g.replConfig with
            writerEpoch := g.replConfig.writerEpoch + 1 } }) groups

/-! ## The second loop -/

/-- `escape_string_single_quotes` -/
def escapeStringSingleQuotes (text : List Char) : List Char :=
  text.flatMap fun c => if c = singleQuote then [singleQuote, c] else [c]

/-- A text between single quotes -/
def quoted (text : List Char) : List Char :=
  singleQuote :: text ++ [singleQuote]

namespace ReplicationRow

/-- The statement that copies a row into the runtime table -/
def insertStatement (row : ReplicationRow) : List Char :=
  "INSERT INTO pgsql_replication_hostgroups VALUES(".toList ++
    [','].intercalate [row.writerHostgroup, row.readerHostgroup, quoted row.checkType,
      row.txnSplitEnabled, quoted row.consistencyMode, row.maxLagBytes, row.lsnWaitTimeoutMs,
      quoted row.proxyProtocol, quoted (escapeStringSingleQuotes row.comment)] ++ [')']

/-- The writes of a row to the `repl_config` of its writer hostgroup -/
def configure (row : ReplicationRow) (config : ReplConfig) : ReplConfig :=
  { config with
    configured := true
    readerHostgroup := row.reader
    writerHostgroup := row.writer
    checkType := row.checkType
    txnSplitEnabled := atoi row.txnSplitEnabled != 0
    consistencyMode := row.consistencyMode
    consistencyModeEnum := hostgroupConsistencyModeFromString row.consistencyMode (-1)
    maxLagBytes := atoi row.maxLagBytes
    lsnWaitTimeoutMs := atoi row.lsnWaitTimeoutMs
    proxyProtocol := row.proxyProtocol
    proxyProtocolEnum := proxyProtocolFromString row.proxyProtocol (-1) }

/-- `snapshot_entry`: the settings of a row and the cells of its writer
hostgroup -/
def snapshotEntry (row : ReplicationRow) : SnapshotEntry where
  config :=
    { isPolardbHostgroup := true
      writerHostgroup := atoi row.writerHostgroup
      readerHostgroup := atoi row.readerHostgroup
      policy :=
        { txnSplitEnabled := atoi row.txnSplitEnabled != 0
          consistencyMode := hostgroupConsistencyModeFromString row.consistencyMode (-1)
          maxLagBytes := atoi row.maxLagBytes
          lsnWaitTimeoutMs := atoi row.lsnWaitTimeoutMs
          proxyProtocol := proxyProtocolFromString row.proxyProtocol (-1) } }
  groupLsn := some row.writer
  maxReplicaReplayLsn := some row.writer
  writerEpoch := some row.writer

/-- A PolarDB row stores its entry under both hostgroups. -/
def publish (next : AList fun _ : Nat => SnapshotEntry) (row : ReplicationRow) :
    AList fun _ : Nat => SnapshotEntry :=
  if row.isPolardb then
    (next.insert row.writer row.snapshotEntry).insert row.reader row.snapshotEntry
  else next

end ReplicationRow

namespace Manager

variable {μ : Type}

/-- One iteration of the second loop, without the snapshot -/
def applyRow (env : Environment μ) (s : Manager μ) (row : ReplicationRow) : Manager μ :=
  let s :=
    if row.isPolardb then
      { s with
        polardbHostgroups := (s.polardbHostgroups.insert row.writer).insert row.reader
        readerToWriter := s.readerToWriter.insert row.reader row.writer
        writerToReader := s.writerToReader.insert row.writer row.reader }
    else s
  { s with
    hostgroups := updateHostgroup row.writer
      (fun g => { g with replConfig := row.configure g.replConfig })
      (lookupHostgroup row.writer s.hostgroups)
    mydb := env.execute row.insertStatement s.mydb }

/-- What is cleared before the rows are read -/
def clear (env : Environment μ) (s : Manager μ) : Manager μ :=
  { s with
    mydb := env.execute "DELETE FROM pgsql_replication_hostgroups".toList s.mydb
    hostgroups := s.hostgroups.map fun g =>
      { g with replConfig := { g.replConfig with configured := false } }
    polardbHostgroups := []
    writerToReader := ∅
    readerToWriter := ∅ }

/-- `polardb_refresh_all_writer_epochs_under_hgm_write_lock` -/
def refreshAllWriterEpochs (env : Environment μ) (s : Manager μ) : Manager μ :=
  { s with
    hostgroups := (env.visit s.writerToReader.keys).foldl refreshWriterEpoch s.hostgroups }

/-- The publication of a snapshot -/
def publish (next : AList fun _ : Nat => SnapshotEntry) (s : Manager μ) : Manager μ :=
  let generation := s.topologyGeneration + 1
  let nextPolardbActive := !next.keys.isEmpty
  { s with
    topologySnapshot := some { generation, byHostgroup := next }
    topologyGeneration := generation
    polardbActivationGeneration :=
      if nextPolardbActive && !s.polardbActive then s.polardbActivationGeneration + 1
      else s.polardbActivationGeneration
    polardbActive := nextPolardbActive }

/-- `generate_pgsql_replication_hostgroups_table` -/
def generateReplicationHostgroupsTable (env : Environment μ) (config : GlobalConfig)
    (s : Manager μ) : Manager μ :=
  match s.incoming with
  | none => s
  | some rows =>
      match rows.findSome? (ReplicationRow.error config) with
      | some _ => { s with incoming := none }
      | none =>
          let loaded := rows.foldl (applyRow env) (s.clear env)
          let next := rows.foldl ReplicationRow.publish ∅
          { publish next (loaded.refreshAllWriterEpochs env) with incoming := none }

/-- The entry that the current snapshot has for a hostgroup -/
def entry (s : Manager μ) (hg : Nat) : Option SnapshotEntry :=
  s.topologySnapshot.bind fun snapshot => snapshot.byHostgroup.lookup hg

end Manager

end Topology

end PolarProxy
