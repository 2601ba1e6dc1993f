import PolarProxy.ReaderFailure

/-!
# Handling a failed read

`handleReaderFailure` is given the outcome of a request, as it was captured from the failed
backend, and answers with one of four actions: the request was sent again (`retry`), its error
was forwarded (`forward`), the session has to end (`terminate`), or the failure is none of the
three kinds that are handled here (`passthrough`).

What is known of the failure is collected in a record, which may also own the packet of the
request while it moves from one place to another.  A `Handling` is a session together with
that record.
-/

namespace PolarProxy

namespace Failures

open Wrapping

/-! ## The failure -/

/-- `PolarDB_RequestOutcome` -/
structure RequestOutcome where
  resultStarted : Bool := false
  reusable : Bool := false
  canReturnToPool : Bool := false
  connected : Bool := false
  timeoutError : Bool := false
  timeoutAlreadyAccounted : Bool := false
  wrapperSetFailure : Bool := false
  wrapperIsConsistencyWait : Bool := false
  backendHg : Int := -1
  backendAddress : String := ""
  backendPort : Int := 0
  backendErrorCode : Option ErrorCode := none
  errorMessage : String := ""
  backend : Option Int := none
  backendMyds : Option Int := none
  deriving DecidableEq

/-- `PolarDB_ReaderRequestKind` -/
inductive RequestKind
  | none
  | ordinary
  | wait
  | split
  deriving DecidableEq

/-- `PolarDB_ReaderFailure` -/
structure ReaderFailure where
  requestKind : RequestKind := .none
  extendedQuery : Bool := false
  waitWasBypassed : Bool := false
  timeout : Bool := false
  reusable : Bool := false
  resultStarted : Bool := false
  connected : Bool := false
  hasBackendError : Bool := false
  timeoutAlreadyAccounted : Bool := false
  wrapperSetFailure : Bool := false
  wrapperIsConsistencyWait : Bool := false
  canReturnToPool : Bool := false
  readerHg : Int := -1
  readerAddress : String := ""
  readerPort : Int := 0
  fallbackWriterHg : Int := -1
  readerBackend : Option Int := none
  failedMyds : Option Int := none
  retryPkt : Option Packet := none
  readerPlan : ReaderPlan := {}
  waitSpec : WaitSpec := {}
  writerScope : WriterScope := {}
  txnXids : String := ""
  retryQuery : List Char := []
  backendErrorCode : ErrorCode := .connectionFailure
  backendErrorMessage : String := ""
  deriving DecidableEq

/-- `PolarDB_ReaderFailureKind` -/
inductive FailureKind
  | connectionLost
  | waitTimeout
  | reusableError
  | queryCanceled
  deriving DecidableEq

/-- `PolarDB_ReaderAction` -/
inductive ReaderAction
  | retry
  | returnError
  | disconnectClient
  deriving DecidableEq

/-- `PolarDB_WriterState` -/
inductive WriterState
  | live
  | notStarted
  | lost
  deriving DecidableEq

/-- `PolarDB_FailureAction` -/
inductive FailureAction
  | passthrough
  | retry
  | forward
  | terminate
  deriving DecidableEq

/-- `PolarDB_ReaderFailureDecision` -/
structure FailureDecision where
  kind : FailureKind := .reusableError
  action : ReaderAction := .returnError
  retryTarget : RetryTarget := .writer
  readerFailureRoute : ReaderFailureRoute := .none
  allowWriterRetry : Bool := true
  deriving DecidableEq

/-- `POLARDB_READER_RETRY_LIMIT` -/
def readerRetryLimit : Nat :=
  1

/-- `polardb_truncate_error_message` -/
def truncateErrorMessage (message : String) : String :=
  String.ofList (message.toList.take 512)

/-- `polardb_capture_request_outcome` -/
def FailureSession.captureRequestOutcome (s : FailureSession) (backend : Option Int) :
    RequestOutcome :=
  match backend with
  | none => {}
  | some hg =>
      match (s.streams hg).conn with
      | none => { backend := some hg, backendHg := hg, backendMyds := some hg }
      | some conn =>
          let timeoutError := s.query.wait.timeoutError
          let wrapperSetFailure := conn.wrapperSetFailed || conn.consumingWrapperSet
          let splitTimeout :=
            wrapperSetFailure && s.txnReader.splitActive && s.txnReader.backend == some hg &&
              s.txnReader.waitTimeoutError
          { backend := some hg
            backendMyds := some hg
            connected := conn.connected
            reusable := conn.failedIsReusable
            canReturnToPool := conn.failedIsPoolable s.inTransaction
            resultStarted := conn.transferStarted
            backendErrorCode := some conn.errorCode
            timeoutError := timeoutError || splitTimeout
            timeoutAlreadyAccounted :=
              (timeoutError && s.query.wait.waitStartedAtUs == 0) || splitTimeout
            wrapperSetFailure := wrapperSetFailure
            wrapperIsConsistencyWait := conn.consistencyWait
            errorMessage := truncateErrorMessage conn.errorMessage
            backendHg := (conn.parent.bind ServerId.hid).getD hg
            backendAddress := (conn.parent.bind ServerId.address).getD ""
            backendPort := (conn.parent.map ServerId.port).getD 0 }

/-- `polardb_failure_from_outcome` -/
def failureFromOutcome (outcome : RequestOutcome) : ReaderFailure :=
  { readerBackend := outcome.backend
    failedMyds := outcome.backendMyds
    connected := outcome.connected
    reusable := outcome.reusable
    canReturnToPool := outcome.canReturnToPool
    resultStarted := outcome.resultStarted
    timeout := outcome.timeoutError
    timeoutAlreadyAccounted := outcome.timeoutAlreadyAccounted
    wrapperSetFailure := outcome.wrapperSetFailure
    wrapperIsConsistencyWait := outcome.wrapperIsConsistencyWait
    readerHg := outcome.backendHg
    readerAddress := outcome.backendAddress
    readerPort := outcome.backendPort
    hasBackendError := outcome.errorMessage != ""
    backendErrorMessage := outcome.errorMessage
    backendErrorCode := outcome.backendErrorCode.getD .connectionFailure }

/-! ## Policy -/

/-- `polardb_reader_failure_kind_for` -/
def readerFailureKindFor (f : ReaderFailure) : FailureKind :=
  if f.timeout then .waitTimeout
  else if f.backendErrorCode = .queryCanceled then .queryCanceled
  else if f.reusable = false then .connectionLost
  else .reusableError

def connectionLostDecision (f : ReaderFailure) (attempts : Nat) : FailureDecision :=
  let action := replicaLossActionFromInt f.readerPlan.replicaLossAction
  let d : FailureDecision :=
    match action with
    | .replicaThenPrimary => { kind := .connectionLost, action := .retry }
    | .primary => { kind := .connectionLost, action := .retry }
    | .replicaThenError =>
        { kind := .connectionLost, action := .retry, allowWriterRetry := false }
    | .error => { kind := .connectionLost, action := .returnError }
    | .disconnect => { kind := .connectionLost, action := .disconnectClient }
  if (action = .replicaThenPrimary ∨ action = .replicaThenError) ∧ f.requestKind ≠ .none ∧
      f.waitWasBypassed = false ∧ attempts < readerRetryLimit then
    { d with retryTarget := .otherReader, readerFailureRoute := .skipReader }
  else if action = .replicaThenError then { d with action := .returnError }
  else d

def waitTimeoutDecision (f : ReaderFailure) : FailureDecision :=
  match lsnWaitTimeoutActionFromInt f.readerPlan.lsnWaitTimeoutAction with
  | .primary => { kind := .waitTimeout, action := .retry }
  | .disconnect => { kind := .waitTimeout, action := .disconnectClient }
  | .warning => { kind := .waitTimeout, action := .returnError }
  | .error => { kind := .waitTimeout, action := .returnError }

/-- The decision after an error on a connection that can be used again -/
def reusableErrorDecision (f : ReaderFailure) : FailureDecision :=
  match replicaErrorActionFromInt f.readerPlan.replicaErrorAction with
  | .primary => { kind := .reusableError, action := .retry }
  | .error => { kind := .reusableError, action := .returnError }
  | .disconnect => { kind := .reusableError, action := .disconnectClient }

/-- The action of a failure, before it is known where a retry may go -/
def readerFailureAction (f : ReaderFailure) (attempts : Nat) : FailureDecision :=
  match readerFailureKindFor f with
  | .connectionLost => connectionLostDecision f attempts
  | .waitTimeout => waitTimeoutDecision f
  | .reusableError => reusableErrorDecision f
  | .queryCanceled => { kind := .queryCanceled, action := .returnError, allowWriterRetry := false }

/-- `polardb_reader_failure_decision` -/
def readerFailureDecision (f : ReaderFailure) (attempts : Nat) : FailureDecision :=
  let d := readerFailureAction f attempts
  -- Reader-only placement turns any defensive writer retry into an error.
  let d :=
    if d.allowWriterRetry = false ∧ d.action = .retry ∧ d.retryTarget = .writer then
      { d with action := .returnError }
    else d
  if d.readerFailureRoute = .none ∧ d.action ≠ .disconnectClient ∧ d.allowWriterRetry = true then
    { d with retryTarget := .writer, readerFailureRoute := .forceWriter }
  else d

/-! ## Telling the client -/

namespace FailureSession

variable (s : FailureSession)

/-- `extended_client_sync_received` -/
def extendedClientSyncReceived : Bool :=
  if s.frame.active then s.frame.clientSyncReceived
  else s.phase == .executingSyncClient || s.phase == .executingSyncImplicit

/-- `note_extended_error_response` -/
def noteExtendedErrorResponse : FailureSession :=
  let frame :=
    if s.frame.active = false ∧ s.phase ≠ .idle ∧ s.extendedClientSyncReceived = false then
      s.frame.begin_ s.previousHostgroup false false false
    else s.frame
  { s with frame := frame.markErrorWaitingForSync }

/-- `reset_extended_query_frame` -/
def resetExtendedQueryFrame : FailureSession :=
  let s := s.noteExtendedErrorResponse
  { s with
    frame := s.frame.clearBackendCandidates
    phase := if s.frame.waitingForClientSyncAfterError then .building else s.phase }

/-- `complete_extended_query_frame` -/
def completeExtendedQueryFrame : FailureSession :=
  { s with phase := .idle, frame := s.frame.complete }

/-- `extended_local_result_sends_ready` of a result that ends its frame -/
def extendedLocalResultSendsReady : Bool × FailureSession :=
  if s.frame.active = false ∧ s.phase ≠ .executingSyncClient ∧
      s.phase ≠ .executingSyncImplicit then (true, s)
  else
    let s := { s with frame := s.frame.markErrorWaitingForSync }
    if s.frame.frontendReadySentFlag then (false, s)
    else if s.extendedClientSyncReceived = false ∨ s.frame.needsBackendSync = true then (false, s)
    else (true, { s with frame := s.frame.markFrontendReadySent })

/-- `phase` or `frame` are those of an extended cycle. -/
def extendedCycle : Bool :=
  s.phase != .idle || s.frame.active

/-- The boundary of an extended cycle that an error ends, and whether it is sent -/
def endExtendedCycle : Bool × FailureSession :=
  if s.extendedCycle = false then (true, s)
  else
    let s :=
      if s.frame.needsBackendSync then { s with frame := s.frame.markBackendSyncSent true } else s
    s.resetExtendedQueryFrame.extendedLocalResultSendsReady

/-- `polardb_forward_reader_error` -/
def forwardReaderError (f : ReaderFailure) (rfq : Char) : FailureSession :=
  let code := if f.hasBackendError then f.backendErrorCode else .connectionFailure
  let message :=
    if f.hasBackendError then f.backendErrorMessage
    else "PolarDB reader replica connection failed"
  let extendedCycle := s.extendedCycle
  let ended := s.endExtendedCycle
  let s := ended.2.noteExtendedErrorResponse
  let s := { s with sent := s.sent ++ [.error code message] }
  if ended.1 then
    let s := { s with sent := s.sent ++ [.readyForQuery rfq] }
    if extendedCycle then s.completeExtendedQueryFrame else s
  else s

/-- `polardb_record_reader_failure` -/
def recordReaderFailure (f : ReaderFailure) : FailureSession :=
  match f.readerBackend with
  | none => s
  | some hg =>
      if f.reusable then s
      else s.setConn hg ((s.streams hg).conn.map fun c => { c with reusable := false })

/-- `polardb_apply_reader_failure_route_state` -/
def applyReaderFailureRouteState (route : ReaderFailureRoute) (writerHg : Int)
    (f : ReaderFailure) : FailureSession :=
  match route with
  | .none => s
  | .forceWriter =>
      { s with
        txnReaderFailure := { route := .forceWriter, writerHg := writerHg }
        skippedReader := none }
  | .skipReader =>
      { s with
        txnReaderFailure := { route := .skipReader }
        skippedReader :=
          if 0 ≤ f.readerHg ∧ f.readerAddress ≠ "" ∧ 0 ≤ f.readerPort then
            some (f.readerHg, f.readerAddress, f.readerPort)
          else none }

/-- `polardb_resolve_writer_state`; the writer hostgroup is `-1` for a writer that is lost -/
def resolveWriterState (env : FailureEnv) (f : ReaderFailure) :
    WriterState × Int × Option Int :=
  if ¬ f.writerScope.Valid then (.lost, -1, none)
  else
    let writerHg := f.writerScope.hg
    let config := env.hgConfig writerHg
    if config.isPolardbHostgroup = false ∨ config.writerHostgroup ≠ writerHg ∨
        config.writerEpoch ≠ f.writerScope.epoch then (.lost, -1, none)
    else
      match s.findOpenTransactionBackend writerHg f.readerBackend with
      | some backend => (.live, writerHg, some backend)
      | none =>
          if s.transactionSplit.xids ≠ "" ∨ s.transactionPersistentHostgroup ≠ -1 then
            (.lost, -1, none)
          else if s.inTransaction then
            if writerHg < 0 ∨ writerHg = f.readerHg then (.lost, -1, none)
            else (.notStarted, writerHg, none)
          else (.lost, -1, none)

end FailureSession

/-- The wait of a read that is started on another reader, unless that reader already reached the
target -/
def FailureSession.restoreReaderWait (s : FailureSession) (f : ReaderFailure)
    (waitBypassAllowed : Bool) (now : Nat) : FailureSession :=
  if f.requestKind = .wait then
    let s := s.withWrapRequest
      ((s.wrapRequest f.readerHg).finishReaderWaitSelection f.waitSpec waitBypassAllowed now
        f.fallbackWriterHg)
    if f.waitSpec.hasWait = true ∧ waitBypassAllowed = false ∧ f.extendedQuery = false ∧
        s.originalQuery = [] then
      { s with originalQuery := f.retryQuery }
    else s
  else s.withWrapRequest (s.wrapRequest f.readerHg).resetWait

/-! ## Packets of a failure -/

/-- A session and the failure that is handled in it -/
structure Handling where
  session : FailureSession
  failure : ReaderFailure

/-- What a handled failure is answered with, and what is left of it -/
structure FailureResult where
  action : FailureAction
  left : Handling

namespace Handling

variable (h : Handling)

/-- `polardb_free_retry_pkt_if_owned` -/
def freeRetryPktIfOwned : Handling :=
  match h.failure.retryPkt with
  | none => h
  | some p =>
      let s :=
        if p.containsPointer h.session.currentQuery then { h.session with currentQuery := .null }
        else h.session
      { session := s.freePacket p, failure := { h.failure with retryPkt := none } }

/-- `take_packet` of a stream, of the packet that the failure owns -/
def giveRetryPkt (hg : Int) : Handling :=
  match h.failure.retryPkt with
  | none => h
  | some p =>
      { session := (h.session.freeRealQuery hg).setReal hg (.takePacket p)
        failure := { h.failure with retryPkt := none } }

/-- `release_packet` of a stream, for a failure that owns none -/
def takeRetryPkt (hg : Int) : Handling :=
  { session := h.session.setReal hg {}
    failure := { h.failure with retryPkt := (h.session.streams hg).real.pkt } }

/-- `polardb_move_retry_packet_to_writer`; `none` when it returns false -/
def moveRetryPacketToWriter (env : FailureEnv) (source : Option Int) (writer writerHg : Int)
    (extendedQuery : Bool) : Option Handling :=
  match h.failure.retryPkt with
  | none => none
  | some p =>
      let s := h.session.prepareRetryBackend env source writer
      let h := { h with
        session := { s with
          currentHostgroup := writerHg
          mybe := writer
          retries := .writer :: s.retries } }
      let h := h.giveRetryPkt writer
      some { h with
        session :=
          if extendedQuery then
            (h.session.transferExtendedFrameBackend writerHg).prepareExtendedRetry
          else h.session.restartQueryDispatchFromPacket p }

/-- `polardb_prepare_reader_retry_packet`; a packet that is built is at a new address -/
def prepareReaderRetryPacket (env : FailureEnv) : Bool × Handling :=
  if h.failure.retryPkt.any fun p => p.bytes ≠ [] then (true, h)
  else if h.failure.requestKind = .wait then
    let bytes := buildSimpleQueryPacket h.failure.retryQuery
    if bytes = [] ∨ env.allocated = false then (false, h)
    else
      (true,
        { session := { h.session with nextAddr := h.session.nextAddr + 1 }
          failure :=
            { h.failure with retryPkt := some { addr := h.session.nextAddr, bytes := bytes } } })
  else
    match h.failure.failedMyds with
    | none => (false, h)
    | some hg =>
        if h.failure.requestKind ≠ .ordinary ∨ (h.session.streams hg).real.pkt = none then
          (false, h)
        else
          let h := h.takeRetryPkt hg
          (h.failure.retryPkt.any fun p => p.bytes ≠ [], h)

/-! ## Reads of a transaction split -/

/-- `polardb_try_redispatch_to_writer` -/
def tryRedispatchToWriter (env : FailureEnv) (writerHg : Int) (writerBackend : Option Int) :
    Bool × Handling :=
  match writerBackend with
  | none => (false, h)
  | some writer =>
      if h.failure.retryPkt = none ∨ h.failure.resultStarted = true then (false, h)
      else
        match (h.session.streams writer).conn with
        | none => (false, h)
        | some conn =>
            if conn.connected = false ∨
                conn.isKnownActiveTransaction h.session.inTransaction = false ∨
                  conn.asyncState ≠ .idle then (false, h)
            else if writerHg ≠ h.failure.writerScope.hg ∨ writer ≠ writerHg ∨
                writerScopeIsCurrent env.hgConfigAtRetry h.failure.writerScope = false then
              (false, h)
            else
              let h : Handling :=
                { session :=
                    h.session.releaseReaderBackend h.failure.readerBackend h.failure.reusable
                  failure := { h.failure with readerBackend := none } }
              match h.moveRetryPacketToWriter env h.failure.failedMyds writer writerHg false with
              | none => (false, h)
              | some h => (true, h)

/-- What another reader is asked for: the packet, and the text around it -/
def splitRetryPayload : Option (Packet × Nat × List Char) :=
  h.failure.retryPkt.bind fun p =>
    if h.failure.resultStarted = true ∨ h.failure.readerHg < 0 ∨ h.failure.readerAddress = "" ∨
        h.failure.readerPort < 0 ∨ h.failure.waitSpec.hasWait = false ∨
          h.failure.txnXids = "" then none
    else
      let built :=
        buildTxnSplitWrappedText p.bytes h.failure.waitSpec h.failure.txnXids.toList false
      if built.1 = 0 then none else some (p, built)

/-- `polardb_try_redispatch_to_other_reader` -/
def tryRedispatchToOtherReader (env : FailureEnv) : Bool × Handling :=
  if h.failure.requestKind ≠ .split then (false, h)
  else
    match h.splitRetryPayload with
    | none => (false, h)
    | some (p, wrapperStmts, wrappedQuery) =>
        let oldReader := h.failure.readerBackend
        let h : Handling :=
          { session := h.session.releaseReaderBackend oldReader h.failure.reusable
            failure := { h.failure with readerBackend := none } }
        let readerHg := h.failure.readerHg
        if (h.session.streams readerHg).conn.isSome then (false, h)
        else
          match env.acquired with
          | none => (false, h)
          | some (conn, _) =>
              let s := h.session.setConn readerHg (some conn)
              if conn.connected = false then
                (false, { h with session := s.returnOrDestroyBackendStream readerHg false })
              else if readerMatchesWriterScope env.hgConfigAtRetry readerHg
                  h.failure.writerScope = false then
                (false, { h with session := s.releaseUnusedReaderBackend readerHg })
              else
                let s := s.prepareRetryBackend env oldReader readerHg
                let s := { s with currentHostgroup := readerHg }
                let s := s.beginTxnSplitRead readerHg p wrappedQuery h.failure.waitSpec
                  h.failure.readerPlan h.failure.writerScope wrapperStmts
                let s := { s with
                  readerRetryAttempts := s.readerRetryAttempts + 1
                  retries := .otherReader :: s.retries }
                (true,
                  { session := s.restartQueryDispatchFromPacket p
                    failure := { h.failure with retryPkt := none } })

/-- `polardb_forward_error_and_keep_writer` -/
def forwardErrorAndKeepWriter : FailureResult :=
  let s := h.session.releaseReaderBackend h.failure.readerBackend h.failure.reusable
  let h := { h with session := s.forwardReaderError h.failure 'T' }
  { action := .forward, left := h.freeRetryPktIfOwned }

/-- `polardb_terminate_session_after_reader_failure` -/
def terminateSessionAfterReaderFailure : FailureResult :=
  let h := { h with session := h.session.releaseReaderBackend h.failure.readerBackend false }
  { action := .terminate, left := h.freeRetryPktIfOwned }

/-- Another reader is tried for a split read, if that is the target. -/
def trySplitOnOtherReader (env : FailureEnv) (d : FailureDecision) : Bool × Handling :=
  if d.retryTarget = .otherReader then h.tryRedispatchToOtherReader env else (false, h)

/-- The retries of a split read: another reader, then the writer -/
def retrySplitRead (env : FailureEnv) (d : FailureDecision)
    (writer : WriterState × Int × Option Int) : Option RetryTarget × Handling :=
  if d.action ≠ .retry ∨ h.failure.resultStarted = true then (none, h)
  else
    let r := h.trySplitOnOtherReader env d
    if r.1 then (some .otherReader, r.2)
    else if d.allowWriterRetry = false ∨ writer.1 ≠ .live then (none, r.2)
    else
      let r := r.2.tryRedispatchToWriter env writer.2.1 writer.2.2
      if r.1 then (some .writer, r.2) else (none, r.2)

/-- The end of `polardb_handle_reader_failure`, for a failed split read -/
def handleSplitFailure (env : FailureEnv) : FailureResult :=
  let writer := h.session.resolveWriterState env h.failure
  let h := { h with
    session := (h.session.recordReaderFailure h.failure).finishTxnReaderRead false true }
  if writer.1 = .lost then h.terminateSessionAfterReaderFailure
  else
    let d := readerFailureDecision h.failure h.session.readerRetryAttempts
    if d.action = .disconnectClient then h.terminateSessionAfterReaderFailure
    else
      match h.retrySplitRead env d writer with
      | (some .otherReader, h) =>
          { action := .retry
            left := { h with
              session := h.session.applyReaderFailureRouteState .skipReader writer.2.1 h.failure } }
      | (some .writer, h) =>
          { action := .retry
            left := { h with
              session :=
                h.session.applyReaderFailureRouteState .forceWriter writer.2.1 h.failure } }
      | (none, h) =>
          let h :=
            if d.allowWriterRetry then
              { h with
                session :=
                  h.session.applyReaderFailureRouteState .forceWriter writer.2.1 h.failure }
            else h
          h.forwardErrorAndKeepWriter

/-! ## Ordinary reads and reads behind a wait -/

/-- `polardb_release_reader_stream` of the failed stream -/
def releaseFailedStream : Handling :=
  { session :=
      match h.failure.failedMyds with
      | none => h.session
      | some hg => h.session.releaseReaderStream hg h.failure.canReturnToPool
    failure := { h.failure with failedMyds := none } }

def startReadOnOtherReader (env : FailureEnv) (failedMyds : Option Int) (p : Packet)
    (waitBypassAllowed : Bool) : Handling :=
  let f := h.failure
  let h := h.giveRetryPkt f.readerHg
  let s := h.session.prepareRetryBackend env failedMyds f.readerHg
  let s := { s with
    currentHostgroup := f.readerHg
    mybe := f.readerHg
    query := { s.query with readerPlan := f.readerPlan } }
  let s := s.restoreReaderWait f waitBypassAllowed env.now
  let s := { s with
    readerRetryAttempts := s.readerRetryAttempts + 1
    retries := .otherReader :: s.retries }
  { h with
    session :=
      if f.extendedQuery then (s.transferExtendedFrameBackend f.readerHg).prepareExtendedRetry
      else s.restartQueryDispatchFromPacket p }

/-- `polardb_try_redispatch_reader_read_to_other_reader` -/
def tryRedispatchReaderReadToOtherReader (env : FailureEnv) : Bool × Handling :=
  let f := h.failure
  if (f.requestKind ≠ .wait ∧ f.requestKind ≠ .ordinary) ∨
      h.session.txnReader.waitReadActive = true ∨ f.waitWasBypassed = true ∨
        f.resultStarted = true ∨ f.readerHg < 0 ∨ f.readerAddress = "" ∨ f.readerPort < 0 ∨
          (f.requestKind = .wait ∧
            ((f.extendedQuery = false ∧ f.retryQuery = []) ∨ f.waitSpec.hasWait = false)) then
    (false, h)
  else
    let prepared := h.prepareReaderRetryPacket env
    if prepared.1 = false then (false, prepared.2)
    else
      let failedMyds := prepared.2.failure.failedMyds
      let h := prepared.2.releaseFailedStream
      let readerHg := h.failure.readerHg
      if (h.session.streams readerHg).conn.isSome then (false, h)
      else
        match env.acquired, h.failure.retryPkt with
        | some (conn, waitBypassAllowed), some p =>
            let h := { h with session := h.session.setConn readerHg (some conn) }
            if conn.connected = false then
              (false, { h with session := h.session.returnOrDestroyBackendStream readerHg false })
            else (true, h.startReadOnOtherReader env failedMyds p waitBypassAllowed)
        | _, _ => (false, h)

/-- What is known of the wait of a request -/
def noteWait (s : FailureSession) (f : ReaderFailure) : ReaderFailure :=
  { f with
    extendedQuery := s.status ≠ .processingQuery
    readerPlan := s.query.readerPlan
    waitSpec :=
      if s.query.wait.spec.hasWait then s.query.wait.spec
      else if s.status ≠ .processingQuery then s.query.readerWaitSpec else {}
    fallbackWriterHg :=
      if 0 ≤ s.query.wait.fallbackWriterHg then s.query.wait.fallbackWriterHg
      else s.query.readerPlan.fallbackWriterHg
    retryQuery := s.originalQuery }

/-- `finalized_simple_wait` -/
def finalizedSimpleWait : Bool :=
  !h.failure.extendedQuery && h.session.query.wait.waitStage == .waiting &&
    h.failure.wrapperIsConsistencyWait && h.session.query.wait.wrapperFinalized &&
      h.failure.retryQuery != []

/-- The stream of a request of the extended protocol that waits and still has its packet -/
def extendedWaitMyds : Option Int :=
  h.failure.failedMyds.filter fun hg =>
    h.failure.extendedQuery && h.failure.waitSpec.hasWait &&
      (h.session.streams hg).real.pkt.isSome

/-- `polardb_capture_wait_read_failure` -/
def captureWaitReadFailure : Handling :=
  let h := { h with failure := noteWait h.session h.failure }
  match h.extendedWaitMyds with
  | some hg => { h with failure := { h.failure with requestKind := .wait } }.takeRetryPkt hg
  | none =>
      if h.finalizedSimpleWait then
        { h with failure := { h.failure with requestKind := .wait } }
      else h

/-- The backend of a transaction wait read, if it is the one that failed -/
def txnWaitReaderFailed : Option Int :=
  if h.session.txnReader.waitReadActive = true ∧
      h.session.txnReader.backend = h.failure.failedMyds then h.session.txnReader.backend
  else none

/-- A transaction wait read that failed before its wrapper was sent, or that has none -/
def captureTxnWaitReadFailure (env : FailureEnv) : Handling :=
  match h.txnWaitReaderFailed with
  | none => h
  | some hg =>
      let f := h.failure
      { h with
        failure := { f with
          requestKind := .wait
          retryQuery :=
            match f.retryQuery, (h.session.streams hg).real.query with
            | [], some (c :: query) =>
                if (c :: query).getLast? = some nul then (c :: query).dropLast else c :: query
            | _, _ => f.retryQuery
          fallbackWriterHg :=
            if 0 ≤ f.fallbackWriterHg then f.fallbackWriterHg
            else if 0 ≤ h.session.txnReaderFailure.writerHg then
              h.session.txnReaderFailure.writerHg
            else h.session.writerHostgroupOrCurrent env } }

/-- `polardb_capture_ordinary_reader_failure` -/
def captureOrdinaryReaderFailure : Handling :=
  let s := h.session
  let plan := s.query.readerPlan
  if s.status ≠ .other ∧ s.txnReader.waitReadActive = false ∧ 0 ≤ plan.fallbackWriterHg ∧
      plan.readTarget = 1 ∧ plan.consistencyMode ≠ .off ∧ 0 ≤ h.failure.readerHg ∧
        h.failure.readerHg ≠ plan.fallbackWriterHg then
    { h with
      failure := { h.failure with
        requestKind := .ordinary
        extendedQuery := s.status ≠ .processingQuery
        waitWasBypassed := s.query.waitBypassTarget ≠ 0
        readerPlan := plan
        fallbackWriterHg := plan.fallbackWriterHg } }
  else h

end Handling

/-! ## The end of a failed read -/

/-- What `polardb_handle_failed_reader_read` keeps of the failed stream -/
structure FailedRead where
  txnWaitRead : Bool
  requestMyds : Option Int

namespace Handling

variable (h : Handling) (r : FailedRead)

/-- `finish_retry_packet` -/
def finishRetryPacket (requestEndFollows : Bool) : Handling :=
  match r.requestMyds, h.failure.retryPkt with
  | some hg, some p =>
      if requestEndFollows = true ∧ p.containsPointer h.session.currentQuery = true then
        h.giveRetryPkt hg
      else h.freeRetryPktIfOwned
  | _, _ => h.freeRetryPktIfOwned

/-- `preserve_ordinary_request_packet` -/
def preserveOrdinaryRequestPacket (hg : Int) : Handling :=
  if h.failure.requestKind ≠ .ordinary ∨ h.failure.retryPkt.isSome = true ∨
      (h.session.streams hg).real.pkt = none then h
  else h.takeRetryPkt hg

/-- `release_failed_reader` -/
def releaseFailedReader (wantReuse : Bool) : Handling :=
  match h.failure.failedMyds with
  | none => h
  | some hg =>
      let h :=
        if r.txnWaitRead then { h with session := h.session.releaseTxnWaitRead wantReuse }
        else
          let h := h.preserveOrdinaryRequestPacket hg
          { h with session := h.session.releaseReaderStream hg wantReuse }
      { h with failure := { h.failure with failedMyds := none } }

/-- `finish_txn_wait_with_error` -/
def finishTxnWaitWithError : FailureResult :=
  let h := (h.releaseFailedReader r false).finishRetryPacket r (!h.failure.resultStarted)
  if h.failure.resultStarted then { action := .terminate, left := h }
  else
    { action := .forward
      left := { h with session := h.session.forwardReaderError h.failure 'T' } }

/-- `finish_ordinary_with_error` -/
def finishOrdinaryWithError : FailureResult :=
  if h.failure.resultStarted then
    { action := .terminate, left := (h.releaseFailedReader r false).finishRetryPacket r false }
  else if h.failure.reusable = true ∧ h.failure.failedMyds.isSome = true then
    { action := .passthrough, left := h.finishRetryPacket r true }
  else
    let h := (h.releaseFailedReader r false).finishRetryPacket r true
    { action := .forward
      left := { h with session := h.session.forwardReaderError h.failure 'I' } }

/-- `finish_with_error` -/
def finishWithError : FailureResult :=
  if r.txnWaitRead then h.finishTxnWaitWithError r else h.finishOrdinaryWithError r

def retryReaderReadOnWriter (env : FailureEnv) : FailureResult :=
  let f := h.failure
  let writerHg := f.fallbackWriterHg
  if f.resultStarted = true ∨ writerHg < 0 ∨ f.failedMyds = some writerHg ∨
      ((h.session.streams writerHg).conn.any fun c => c.asyncState != AsyncState.idle) = true then
    h.finishWithError r
  else
    let prepared := h.prepareReaderRetryPacket env
    if prepared.1 = false then prepared.2.finishWithError r
    else
      let h := prepared.2.releaseFailedReader r f.canReturnToPool
      let h := { h with
        session := h.session.withWrapRequest (h.session.wrapRequest writerHg).clearReaderRoute }
      match h.moveRetryPacketToWriter env r.requestMyds writerHg writerHg f.extendedQuery with
      | none => h.finishWithError r
      | some h => { action := .retry, left := h }

/-- The failed stream is not retried as it is, and the packet of a wait is dropped. -/
def stopFailedStream : FailureSession :=
  match h.failure.failedMyds with
  | none => h.session
  | some hg =>
      let s := h.session.setLimits hg
        { (h.session.streams hg).limits with queryRetriesOnFailure := 0 }
      if h.failure.requestKind = .wait then s.freeRealQuery hg else s

/-- The start of `polardb_handle_failed_reader_read`: no wrapped packet is left on the stream. -/
def unwrapFailedRead : Handling :=
  let s := h.stopFailedStream
  if h.failure.requestKind = .wait then
    { h with
      session :=
        { s.withWrapRequest (s.wrapRequest s.mybe).resetWait.resetDispatchWrapper with
          wrappedQueryBuf := ([] : List Char) } }
  else { h with session := s }

/-- `txn_wait_read` and `request_myds` -/
def failedRead : FailedRead :=
  { txnWaitRead := h.txnWaitReaderFailed.isSome, requestMyds := h.failure.failedMyds }

/-- Another reader is tried for all but a transaction wait read. -/
def tryOtherReader (env : FailureEnv) : Bool × Handling :=
  if r.txnWaitRead then (false, h) else h.tryRedispatchReaderReadToOtherReader env

/-- `polardb_handle_failed_reader_read` -/
def handleFailedReaderRead (env : FailureEnv) (d : FailureDecision) : FailureResult :=
  let h := h.unwrapFailedRead
  let r := h.failedRead
  match d.action with
  | .disconnectClient =>
      { action := .terminate, left := (h.releaseFailedReader r false).freeRetryPktIfOwned }
  | .returnError => h.finishWithError r
  | .retry =>
      if d.retryTarget = .writer then h.retryReaderReadOnWriter r env
      else
        let retried := h.tryOtherReader r env
        if retried.1 then { action := .retry, left := retried.2 }
        else if d.allowWriterRetry = false then retried.2.finishWithError r
        else retried.2.retryReaderReadOnWriter r env

end Handling

/-- `polardb_take_reader_failure` -/
def FailureSession.takeReaderFailure (s : FailureSession) (outcome : RequestOutcome) : Handling :=
  let f := failureFromOutcome outcome
  if s.txnReader.splitActive = true ∧ f.readerBackend = s.txnReader.backend then
    { session := { s with txnReader := { s.txnReader with originalPkt := none } }
      failure := { f with
        requestKind := .split
        retryPkt := s.txnReader.originalPkt
        readerPlan := s.query.readerPlan
        waitSpec := s.txnReader.waitSpec
        writerScope := s.txnReader.writerScope
        txnXids := s.transactionSplit.xids } }
  else { session := s, failure := f }

/-- A failure that is neither of a split read, nor of one behind a wait, nor of an ordinary one -/
def Handling.passFailure (h : Handling) : FailureResult :=
  let s := h.session
  { action := .passthrough
    left :=
      if s.query.wait.waitStage = .waiting ∧
          (h.failure.wrapperSetFailure = true ∨ h.failure.timeout = true ∨
            h.failure.reusable = false) ∧ s.query.wait.waitStartedAtUs ≠ 0 then
        { h with session := s.withWrapRequest (s.wrapRequest s.mybe).resetWait }
      else h }

/-- The failure of a request that is no split read, with all that is known of it -/
def Handling.captureReadFailure (h : Handling) (env : FailureEnv) : Handling :=
  let h := h.captureWaitReadFailure
  let h := if h.failure.requestKind = .wait then h else h.captureTxnWaitReadFailure env
  if h.failure.requestKind = .wait then h else h.captureOrdinaryReaderFailure

/-- `polardb_handle_reader_failure` -/
def handleReaderFailure (env : FailureEnv) (s : FailureSession) (outcome : RequestOutcome) :
    FailureResult :=
  let h := s.takeReaderFailure outcome
  if h.failure.requestKind = .split then h.handleSplitFailure env
  else
    let h := h.captureReadFailure env
    if h.failure.requestKind = .wait ∨ h.failure.requestKind = .ordinary then
      h.handleFailedReaderRead env
        (readerFailureDecision h.failure h.session.readerRetryAttempts)
    else h.passFailure

end Failures

end PolarProxy
