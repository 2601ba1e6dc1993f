import PolarProxy.WaitInstall
import PolarProxy.ExtendedFrame

/-!
# Failed reads of a replica

A read that was routed to a replica may fail: its connection is lost, its wait times out, or
the server answers with an error.  What happens then is decided in one place for three kinds
of reads, those of a transaction split, those behind a wait, and ordinary ones: the failure is
captured, the policy of the query names an action, and the request is sent again, its error
is forwarded, or the session ends.

The session keeps one backend for a hostgroup, so that a backend and its stream are named by
the hostgroup here.  A packet is a buffer with its address; `CurrentQuery` points into a
buffer, into the copy of the SQL that a wrapper leaves, or into a prepared statement.  The
session also keeps a record of what it did: the buffers it freed, the targets it sent a
request to again, and what the client was told.

What a failure asks elsewhere is passed in (`FailureEnv`): the configuration of a hostgroup,
which is read as the writer is looked for and again as a request is sent, the replacement that
an acquisition finds, and the clock.
-/

namespace PolarProxy

/-- Outcome when the connection to a reader is lost. -/
inductive ReplicaLossAction
  | replicaThenPrimary
  | replicaThenError
  | primary
  | error
  | disconnect
  deriving DecidableEq

/-- Outcome when a reusable reader returns an error. -/
inductive ReplicaErrorAction
  | primary
  | error
  | disconnect
  deriving DecidableEq

def replicaLossActionFromInt (v : Int) : ReplicaLossAction :=
  if v = 0 then .replicaThenPrimary
  else if v = 1 then .replicaThenError
  else if v = 2 then .primary
  else if v = 4 then .disconnect
  else .error

def replicaErrorActionFromInt (v : Int) : ReplicaErrorAction :=
  if v = 0 then .primary else if v = 2 then .disconnect else .error

namespace Failures

open Wrapping

/-! ## Packets -/

/-- A buffer (`PtrSize_t`), and whether it holds a text that the proxy put statements before -/
structure Packet where
  addr : Nat
  bytes : List Char
  wrapped : Bool := false
  deriving DecidableEq

/-- `CurrentQuery.QueryPointer` -/
inductive QueryPointer
  | null
  | packet (addr offset : Nat)
  /-- `polardb_query.original_query` -/
  | originalQuery
  /-- The text of a prepared statement -/
  | statement
  deriving DecidableEq

/-- `polardb_packet_contains_pointer` -/
def Packet.containsPointer (p : Packet) : QueryPointer → Bool
  | .packet addr offset => addr == p.addr && decide (offset < p.bytes.length)
  | _ => false

/-- `pgsql_real_query`: the packet it owns, and the query that is sent -/
structure StreamQuery where
  pkt : Option Packet := none
  query : Option (List Char) := none
  deriving DecidableEq

/-- `take_packet` -/
def StreamQuery.takePacket (p : Packet) : StreamQuery :=
  { pkt := some p, query := some (p.bytes.drop 5) }

/-! ## Backends -/

/-- `async_state_machine`, as far as a failure tells its states apart -/
inductive AsyncState
  | idle
  | queryEnd
  | busy
  deriving DecidableEq

/-- `PGSQL_ERROR_CODES` -/
inductive ErrorCode
  | connectionFailure
  | queryCanceled
  | other (code : Nat)
  deriving DecidableEq

/-- `PGTransactionStatusType` -/
inductive TransactionStatus
  | idle
  | active
  | inTrans
  | inError
  | unknown
  deriving DecidableEq

/-- The server of a connection; `hid` is the hostgroup of its `myhgc`. -/
structure ServerId where
  hid : Option Int := none
  address : Option String := none
  port : Int := 0
  deriving DecidableEq

/-- `PgSQL_Connection` -/
structure Connection where
  connected : Bool := true
  reusable : Bool := true
  asyncState : AsyncState := .idle
  /-- `is_error_present`, with the code and the text of the error -/
  errorPresent : Bool := false
  errorCode : ErrorCode := .other 0
  errorMessage : String := ""
  /-- `PQtransactionStatus` -/
  transactionStatus : TransactionStatus := .idle
  unknownTransactionStatus : Bool := false
  pipelineActive : Bool := false
  multiplexDisabled : Bool := false
  /-- A result is there, and some of it was sent to the client. -/
  transferStarted : Bool := false
  wrapperSetFailed : Bool := false
  consumingWrapperSet : Bool := false
  /-- `is_consistency_wait` of the wrapper state -/
  consistencyWait : Bool := false
  parent : Option ServerId := none
  deriving DecidableEq

namespace Connection

variable (c : Connection)

/-- `is_connection_in_reusable_state` -/
def isInReusableState : Bool :=
  !(c.transactionStatus == .unknown || c.transactionStatus == .active)

/-- `polardb_failed_connection_is_reusable` -/
def failedIsReusable : Bool :=
  c.connected && c.errorPresent && c.isInReusableState

/-- `IsKnownActiveTransaction`; a pipeline leaves it to the session -/
def isKnownActiveTransaction (sessionInTransaction : Bool) : Bool :=
  c.transactionStatus == .inTrans || c.transactionStatus == .inError ||
    (c.pipelineActive && sessionInTransaction)

/-- `IsActiveTransaction` -/
def isActiveTransaction (sessionInTransaction : Bool) : Bool :=
  c.isKnownActiveTransaction sessionInTransaction ||
    (c.errorPresent && c.unknownTransactionStatus)

/-- `polardb_failed_connection_is_poolable` -/
def failedIsPoolable (sessionInTransaction : Bool) : Bool :=
  c.reusable && c.failedIsReusable && !c.isActiveTransaction sessionInTransaction &&
    !c.multiplexDisabled && !c.pipelineActive

/-- `async_free_result` -/
def asyncFreeResult : Connection :=
  { c with
    transferStarted := false
    asyncState := .idle
    unknownTransactionStatus :=
      if c.errorPresent = false then false
      else if c.connected = false then true
      else if c.transactionStatus = .inTrans ∨ c.transactionStatus = .inError ∨
          c.transactionStatus = .active then true
      else c.unknownTransactionStatus }

/-- `polardb_try_normalize_split_cleanup_connection` -/
def normalizeSplitCleanup : Connection :=
  if c.asyncState = .queryEnd then
    { c.asyncFreeResult with
      wrapperSetFailed := false
      consumingWrapperSet := false
      consistencyWait := false }
  else c

end Connection

/-- The retry limits and deadlines of the request on a stream -/
structure RequestLimits where
  queryRetriesOnFailure : Int := 0
  connectRetriesOnFailure : Int := 0
  maxConnectTime : Nat := 0
  waitUntil : Nat := 0
  killedAt : Nat := 0
  killType : Nat := 0
  cancelQuery : Bool := false
  deriving DecidableEq

/-- `PgSQL_Data_Stream` of a backend -/
structure Stream where
  conn : Option Connection := none
  real : StreamQuery := {}
  limits : RequestLimits := {}
  deriving DecidableEq

/-! ## The session -/

/-- `session_status` while a request is processed -/
inductive RequestStatus
  | processingQuery
  | processingStmtPrepare
  | processingStmtDescribe
  | processingStmtExecute
  | other
  deriving DecidableEq

/-- `extended_query_phase` without the bits of the message that is processed -/
inductive ExtendedPhase
  | idle
  | building
  | executingSyncClient
  | executingSyncImplicit
  deriving DecidableEq

/-- `PolarDB_TxnReaderState` -/
structure TxnReaderState where
  backend : Option Int := none
  primaryBackend : Option Int := none
  splitActive : Bool := false
  waitReadActive : Bool := false
  waitTimeoutError : Bool := false
  wrappedQuery : List Char := []
  originalPkt : Option Packet := none
  waitSpec : WaitSpec := {}
  writerScope : WriterScope := {}
  deriving DecidableEq

namespace TxnReaderState

/-- `active` -/
def active (t : TxnReaderState) : Bool :=
  t.splitActive || t.waitReadActive

/-- `clear_request_state` -/
def clearRequestState (t : TxnReaderState) : TxnReaderState :=
  { backend := t.backend }

end TxnReaderState

/-- Where a request was sent again. -/
inductive RetryTarget
  | writer
  | otherReader
  deriving DecidableEq

/-- What the client is told. -/
inductive Reply
  | error (code : ErrorCode) (message : String)
  | readyForQuery (status : Char)
  deriving DecidableEq

/-- The part of a session that a failed read is handled in -/
structure FailureSession where
  streams : Int → Stream := fun _ => {}
  mybe : Int := -1
  currentHostgroup : Int := -1
  previousHostgroup : Int := -1
  status : RequestStatus := .processingQuery
  /-- `is_in_transaction` -/
  inTransaction : Bool := false
  transactionPersistentHostgroup : Int := -1
  currentQuery : QueryPointer := .null
  /-- `CurrentQuery.extended_query_info.stmt_backend_id` -/
  stmtBackendId : Nat := 0
  query : QueryState := {}
  /-- `wait.wrapper_stmts` -/
  wrapperStmts : Nat := 0
  originalQuery : List Char := []
  wrappedQueryBuf : List Char := []
  dispatchWrapperStmts : Nat := 0
  dispatchWrapperKind : WrapperKind := .none
  readerRetryAttempts : Nat := 0
  /-- `polardb_route_state.wait_disabled` -/
  waitDisabled : Bool := false
  txnReader : TxnReaderState := {}
  transactionSplit : TransactionSplitState := {}
  txnReaderFailure : TxnReaderFailureState := {}
  /-- The endpoint of `polardb_txn_reader_failure` -/
  skippedReader : Option (Int × String × Int) := none
  phase : ExtendedPhase := .idle
  frame : ExtendedQueryFrameState := {}
  /-- The next free address -/
  nextAddr : Nat := 0
  /-- The buffers that were freed, and those of them that `CurrentQuery` pointed into then -/
  freed : List Nat := []
  freedInUse : List Nat := []
  /-- The targets of the retries by which `polardb_handle_reader_failure` answered failures of the
  current message, the latest first.  A failure that it passes on may have the message sent again
  too, which is not logged here. -/
  retries : List RetryTarget := []
  /-- The connections that went back to their pool -/
  pooled : List Connection := []
  sent : List Reply := []

/-- What a failure asks elsewhere. -/
structure FailureEnv where
  /-- `get_polardb_hg_config`, as the writer is looked for -/
  hgConfig : Int → HgConfigSnapshot := fun _ => {}
  /-- `get_polardb_hg_config`, as a request is sent again -/
  hgConfigAtRetry : Int → HgConfigSnapshot := fun _ => {}
  /-- `get_writer_hostgroup_for_reader`, negative for none -/
  writerHostgroupForReader : Int → Int := fun _ => -1
  /-- A pooled reader other than the failed one, and whether its wait may be left out -/
  acquired : Option (Connection × Bool) := none
  /-- `l_alloc` succeeds. -/
  allocated : Bool := true
  now : Nat := 0
  /-- `pgsql_thread___connect_timeout_server_max` -/
  connectTimeoutServerMax : Nat := 0

namespace FailureSession

variable (s : FailureSession)

/-- What the functions of `WaitInstall` read and write, for the request on a backend -/
def wrapRequest (hg : Int) : WrapRequest :=
  { query := s.query
    wrapperStmts := s.wrapperStmts
    originalQuery := s.originalQuery
    wrappedQueryBuf := s.wrappedQueryBuf
    dispatchWrapperStmts := s.dispatchWrapperStmts
    dispatchWrapperKind := s.dispatchWrapperKind
    waitDisabled := s.waitDisabled
    real :=
      { pkt := ((s.streams hg).real.pkt.map Packet.bytes).getD []
        query := (s.streams hg).real.query } }

/-- The session after one of those functions, its streams apart -/
def withWrapRequest (r : WrapRequest) : FailureSession :=
  { s with
    query := r.query
    wrapperStmts := r.wrapperStmts
    originalQuery := r.originalQuery
    wrappedQueryBuf := r.wrappedQueryBuf
    dispatchWrapperStmts := r.dispatchWrapperStmts
    dispatchWrapperKind := r.dispatchWrapperKind
    waitDisabled := r.waitDisabled }

/-! ## Streams -/

def setStream (hg : Int) (t : Stream) : FailureSession :=
  { s with streams := Function.update s.streams hg t }

def setReal (hg : Int) (q : StreamQuery) : FailureSession :=
  s.setStream hg { s.streams hg with real := q }

def setConn (hg : Int) (c : Option Connection) : FailureSession :=
  s.setStream hg { s.streams hg with conn := c }

def setLimits (hg : Int) (l : RequestLimits) : FailureSession :=
  s.setStream hg { s.streams hg with limits := l }

/-- `l_free` of a packet -/
def freePacket (p : Packet) : FailureSession :=
  { s with
    freed := p.addr :: s.freed
    freedInUse :=
      if p.containsPointer s.currentQuery then p.addr :: s.freedInUse else s.freedInUse }

/-- `l_free`, where there may be no packet -/
def freePacket? : Option Packet → FailureSession
  | none => s
  | some p => s.freePacket p

/-- `free_pgsql_real_query` -/
def freeRealQuery (hg : Int) : FailureSession :=
  (s.freePacket? (s.streams hg).real.pkt).setReal hg {}

/-- `polardb_return_or_destroy_backend_stream` -/
def returnOrDestroyBackendStream (hg : Int) (returnToPool : Bool) : FailureSession :=
  match (s.streams hg).conn with
  | none => s
  | some c =>
      { s.setConn hg none with pooled := if returnToPool then c :: s.pooled else s.pooled }

/-- `polardb_clear_reader_request` -/
def clearReaderRequest (hg : Int) : FailureSession :=
  let s := (s.setLimits hg { (s.streams hg).limits with maxConnectTime := 0 }).freeRealQuery hg
  s.setConn hg ((s.streams hg).conn.map Connection.asyncFreeResult)

/-- `begin` of `CurrentQuery`, at the text behind the header of a simple query -/
def restartQueryDispatchFromPacket (p : Packet) : FailureSession :=
  { s with currentQuery := .packet p.addr 5 }

/-- `polardb_prepare_extended_retry` -/
def prepareExtendedRetry : FailureSession :=
  { s with stmtBackendId := 0 }

/-- `transfer_extended_frame_backend` -/
def transferExtendedFrameBackend (hg : Int) : FailureSession :=
  if s.frame.active = false then s
  else
    { s with
      frame :=
        { s.frame with
          hostgroup := hg
          backendHostgroup := hg
          backendRoutePending := false
          backendSyncSent := false
          frontendReadySentFlag := false } }

/-- `polardb_prepare_retry_backend` -/
def prepareRetryBackend (env : FailureEnv) (source : Option Int) (target : Int) :
    FailureSession :=
  let queryRetries := (source.map fun hg => (s.streams hg).limits.queryRetriesOnFailure).getD 0
  let connectRetries :=
    (source.map fun hg => (s.streams hg).limits.connectRetriesOnFailure).getD 0
  let s :=
    match source with
    | none => s
    | some hg => if hg = target then s else s.setLimits hg {}
  let ready := (s.streams target).conn.any fun (c : Connection) => c.asyncState == AsyncState.idle
  s.setLimits target
    { queryRetriesOnFailure := queryRetries
      connectRetriesOnFailure := connectRetries
      maxConnectTime :=
        if ready = false ∧ 0 < env.connectTimeoutServerMax then
          env.now + env.connectTimeoutServerMax * 1000
        else 0 }

/-! ## Transaction readers -/

/-- `polardb_reset_txn_reader_request` -/
def resetTxnReaderRequest : FailureSession :=
  let s :=
    match s.txnReader.backend with
    | none => s
    | some hg => if s.txnReader.waitReadActive then s.freeRealQuery hg else s.setReal hg {}
  let s := s.freePacket? s.txnReader.originalPkt
  { s with
    mybe := s.txnReader.primaryBackend.getD s.mybe
    txnReader := s.txnReader.clearRequestState
    query := s.query.resetReaderPlan
    dispatchWrapperStmts := 0
    dispatchWrapperKind := .none }

/-- `polardb_finish_txn_reader_read` -/
def finishTxnReaderRead (splitSuccess splitError : Bool) : FailureSession :=
  if s.txnReader.active = false then s
  else
    let s := s.resetTxnReaderRequest
    if splitSuccess then { s with transactionSplit := s.transactionSplit.completeSplitRead }
    else if splitError then { s with transactionSplit := s.transactionSplit.failSplitRead }
    else s

/-- `polardb_txn_reader.backend`, reset -/
def forgetTxnReader : FailureSession :=
  { s with txnReader := { s.txnReader with backend := none } }

/-- `polardb_release_txn_reader_backend` -/
def releaseTxnReaderBackend (wantReuse : Bool) : FailureSession :=
  match s.txnReader.backend with
  | none => s
  | some hg =>
      let s :=
        if s.txnReader.active ∨ s.txnReader.primaryBackend.isSome then s.resetTxnReaderRequest
        else s
      let s := (s.setLimits hg { (s.streams hg).limits with maxConnectTime := 0 }).setReal hg {}
      let s :=
        match (s.streams hg).conn with
        | none => s
        | some c =>
            let c := if wantReuse then c.normalizeSplitCleanup else c
            (s.setConn hg (some c)).returnOrDestroyBackendStream hg
              (wantReuse && c.reusable && c.asyncState == AsyncState.idle &&
                !c.isActiveTransaction s.inTransaction)
      s.forgetTxnReader

/-- `polardb_release_txn_wait_read` -/
def releaseTxnWaitRead (wantReuse : Bool) : FailureSession :=
  if s.txnReader.waitReadActive = false ∧ s.txnReader.primaryBackend = none then s
  else s.releaseTxnReaderBackend wantReuse

/-- `polardb_begin_txn_reader_read` -/
def beginTxnReaderRead (hg : Int) (writerScope : WriterScope) : FailureSession :=
  { s with
    txnReader :=
      { s.txnReader with
        backend := some hg
        primaryBackend := some s.mybe
        writerScope := writerScope
        waitTimeoutError := false }
    mybe := hg }

/-- `polardb_begin_txn_wait_read` -/
def beginTxnWaitRead (hg : Int) (pkt : Packet) (writerScope : WriterScope) : FailureSession :=
  let s := s.beginTxnReaderRead hg writerScope
  ({ s with txnReader := { s.txnReader with waitReadActive := true } }.freeRealQuery hg).setReal
    hg (.takePacket pkt)

/-- `polardb_begin_txn_split_read`; the stream points into the wrapped text -/
def beginTxnSplitRead (hg : Int) (pkt : Packet) (wrappedQuery : List Char) (waitSpec : WaitSpec)
    (readerPlan : ReaderPlan) (writerScope : WriterScope) (wrapperStmts : Nat) :
    FailureSession :=
  let s := s.beginTxnReaderRead hg writerScope
  let s := (s.freeRealQuery hg).setReal hg
    { query := some (wrappedQuery.take (wrappedQuery.length % 2 ^ 32)) }
  { s with
    txnReader :=
      { s.txnReader with
        wrappedQuery := wrappedQuery
        waitSpec := waitSpec
        originalPkt := some pkt
        splitActive := true }
    query := { s.query with readerPlan := readerPlan }
    transactionSplit := s.transactionSplit.beginSplitRead
    dispatchWrapperStmts := wrapperStmts
    dispatchWrapperKind := .txnSplitWait }

/-! ## Failed readers -/

/-- `polardb_release_reader_stream` -/
def releaseReaderStream (hg : Int) (canReturnToPool : Bool) : FailureSession :=
  (s.clearReaderRequest hg).returnOrDestroyBackendStream hg canReturnToPool

/-- `polardb_release_reader_backend` -/
def releaseReaderBackend (backend : Option Int) (wantReuse : Bool) : FailureSession :=
  match backend with
  | none => s
  | some hg =>
      if s.txnReader.backend = some hg then s.releaseTxnReaderBackend wantReuse
      else
        let s := s.clearReaderRequest hg
        match (s.streams hg).conn with
        | none => s
        | some c =>
            s.returnOrDestroyBackendStream hg (wantReuse && c.failedIsPoolable s.inTransaction)

/-- `polardb_release_unused_reader_backend` -/
def releaseUnusedReaderBackend (hg : Int) : FailureSession :=
  let s := s.clearReaderRequest hg
  match (s.streams hg).conn with
  | none => s
  | some c =>
      s.returnOrDestroyBackendStream hg
        (c.reusable && c.connected && !c.errorPresent && c.asyncState == AsyncState.idle &&
          c.isInReusableState && !c.isActiveTransaction s.inTransaction && !c.multiplexDisabled &&
            !c.pipelineActive)

/-- `polardb_find_open_transaction_backend` -/
def findOpenTransactionBackend (expectedWriterHg : Int) (excludeReader : Option Int) :
    Option Int :=
  if expectedWriterHg < 0 ∨ excludeReader = some expectedWriterHg then none
  else if (s.streams expectedWriterHg).conn.any fun c =>
      c.connected && c.isKnownActiveTransaction s.inTransaction then
    some expectedWriterHg
  else none

/-- `polardb_writer_hostgroup_or_current` -/
def writerHostgroupOrCurrent (env : FailureEnv) : Int :=
  if s.currentHostgroup < 0 then -1
  else if 0 ≤ env.writerHostgroupForReader s.currentHostgroup then
    env.writerHostgroupForReader s.currentHostgroup
  else s.currentHostgroup

end FailureSession

/-- `polardb_writer_scope_is_current` -/
def writerScopeIsCurrent (config : Int → HgConfigSnapshot) (scope : WriterScope) : Bool :=
  decide scope.Valid && (config scope.hg).isPolardbHostgroup &&
    (config scope.hg).writerHostgroup == scope.hg && (config scope.hg).writerEpoch == scope.epoch

/-- `polardb_reader_matches_writer_scope` -/
def readerMatchesWriterScope (config : Int → HgConfigSnapshot) (readerHg : Int)
    (scope : WriterScope) : Bool :=
  decide (0 ≤ readerHg) && decide scope.Valid && (config readerHg).isPolardbHostgroup &&
    (config readerHg).readerHostgroup == readerHg &&
      (config readerHg).writerHostgroup == scope.hg && (config readerHg).writerEpoch == scope.epoch

end Failures

end PolarProxy
