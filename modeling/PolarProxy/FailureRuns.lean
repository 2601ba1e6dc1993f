import PolarProxy.FailureHandling

/-!
# Runs of a request

A request starts with a packet of the client: it is planned and routed, and its packet is put
on a stream, or kept beside a wrapped text.  Until it ends, a connection is found for it, its
wrapper is installed and sent, and it may fail and be sent again, any number of times; in
between the backends change as they like.

The request ends with its result, with an error, or with a failure that is neither answered by
a retry nor passed on to a path that connects again.  A redirect to the writer in the connect
phase, before a connection was chosen, is an event; those of a connection that was chosen and
is dropped while it connects or is reset are left out.  A message of the extended protocol may
be followed by another one of its cycle, which keeps the route.
-/

namespace PolarProxy

namespace Failures

open Wrapping

/-! ## The start of a request -/

/-- A message of the client that a backend executes.  `queryAt` is where the query is in it; a
prepared statement has its own text. -/
structure ClientMessage where
  status : RequestStatus := .processingQuery
  bytes : List Char
  queryAt : Option Nat := some 5

/-- What the start of a request asks elsewhere -/
structure StartEnv where
  plan : PlanEnv := {}
  execute : ExecuteEnv := {}
  /-- The connection of the transaction reader that is found -/
  reader : Connection := {}
  /-- The retry limits that a request starts with -/
  limits : RequestLimits := {}

namespace FailureSession

variable (s : FailureSession)

/-- The session as a message arrives, which is in a buffer at the next address -/
def receive (m : ClientMessage) : Packet × FailureSession :=
  let p : Packet := { addr := s.nextAddr, bytes := m.bytes }
  (p,
    { s with
      status := m.status
      currentQuery := (m.queryAt.map (QueryPointer.packet p.addr)).getD .statement
      nextAddr := s.nextAddr + 1
      readerRetryAttempts := 0
      retries := [] }.withWrapRequest (s.wrapRequest s.mybe).resetForNewQuery)

/-- A message of the extended protocol that follows another one of its cycle -/
def continueCycle (m : ClientMessage) : FailureSession :=
  let kept := s.query.resetBetweenExtendedMessages
  let received := { s with currentQuery := .null }.freeRealQuery s.mybe |>.receive m
  { received.2 with query := kept }.setReal s.mybe (.takePacket received.1)

/-- The transaction reader of a hostgroup; one of another hostgroup is released. -/
def takeTxnReader (hg : Int) (conn : Connection) : FailureSession :=
  let s := if s.txnReader.backend = some hg then s else s.releaseTxnReaderBackend true
  { s with txnReader := { s.txnReader with backend := some hg } }.setConn hg (some conn)

/-- The session once the packet of a routed request was taken over -/
def placeRequest (plan : RoutePlan) (ctx : RouteCtx) (env : StartEnv) (p : Packet)
    (r : ExecuteResult) : FailureSession :=
  let currentHostgroup :=
    if 0 ≤ r.finalTargetHg then r.finalTargetHg else s.currentHostgroup
  if r.packetTaken = false then
    { s with currentHostgroup := currentHostgroup, mybe := currentHostgroup }.setReal
      currentHostgroup (.takePacket p)
  else
    let s := s.takeTxnReader plan.targetHg env.reader
    let s := { s with currentHostgroup := currentHostgroup }
    if plan.txnWaitRead then s.beginTxnWaitRead plan.targetHg p ctx.writerScope
    else
      let built := buildTxnSplitWrappedText p.bytes plan.waitSpec plan.txnXids.toList
        (env.execute.txnReader.getD false)
      s.beginTxnSplitRead plan.targetHg p built.2 plan.waitSpec plan.reader ctx.writerScope built.1

/-- The start of a request; `none` when it is answered with an error -/
def startRequest (ctx : RouteCtx) (m : ClientMessage) (env : StartEnv) : Option FailureSession :=
  let plan := polardbPlan env.plan ctx
  let received := s.receive m
  let s := received.2
  let executed := (s.wrapRequest s.mybe).polardbExecute plan ctx m.bytes env.execute
  if executed.1.returnError then none
  else
    let s := (s.withWrapRequest executed.2).placeRequest plan ctx env received.1 executed.1
    some (s.setLimits s.mybe env.limits)

/-! ## Steps -/

/-- The connections, and what is known of a timeout, as the backends change -/
structure Change where
  conn : Int → Connection → Connection := fun _ c => c
  /-- The wait of the request timed out, or that of a transaction reader. -/
  timeout : Bool := false
  txnTimeout : Bool := false
  waitStartedAtUs : Nat := 0

/-- What happens to a request -/
inductive Event
  /-- A statement is prepared on its backend before it is executed, or was. -/
  | prepare (status : RequestStatus)
  /-- The next message of an extended cycle -/
  | message (m : ClientMessage)
  /-- The backends change. -/
  | change (c : Change)
  /-- A reader is found, and whether its wait may be left out -/
  | select (conn : Connection) (waitBypassAllowed : Bool) (now : Nat)
  /-- A reader is found that cannot enforce the target, and is allowed without it. -/
  | degrade (conn : Connection)
  /-- `polardb_redirect_to_writer`, before the request is sent -/
  | redirect (env : FailureEnv)
  /-- `polardb_install_wait_wrapper` -/
  | install
  /-- `async_query` of an idle connection -/
  | dispatch
  /-- A failure of the active backend -/
  | fail (env : FailureEnv)
  /-- A failure that is passed on, after which another connection is tried -/
  | reconnect (env : FailureEnv) (serverError : Bool)

/-- The session after the backends changed -/
def applyChange (c : Change) : FailureSession :=
  { s with
    streams := fun hg => { s.streams hg with conn := (s.streams hg).conn.map (c.conn hg) }
    query :=
      { s.query with
        wait :=
          { s.query.wait with
            timeoutError :=
              s.query.wait.timeoutError || (c.timeout && s.query.wait.waitStage == .waiting)
            waitStartedAtUs := c.waitStartedAtUs } }
    txnReader :=
      { s.txnReader with waitTimeoutError := s.txnReader.waitTimeoutError || c.txnTimeout } }

/-- A request that is sent to its reader again needs a new selection. -/
def selectable : Bool :=
  !s.txnReader.active && !s.query.wait.wrapperFinalized &&
    (s.status != .processingQuery || (s.streams s.mybe).conn.isNone)

/-- The reader of a request that is not one of a transaction -/
def selectReader (conn : Connection) (waitBypassAllowed : Bool) (now : Nat) : FailureSession :=
  let spec := s.query.readerWaitSpec
  let s := s.setConn s.mybe (some conn)
  let s := s.withWrapRequest
    ((s.wrapRequest s.mybe).finishReaderWaitSelection spec waitBypassAllowed now
      s.query.readerPlan.fallbackWriterHg)
  if s.status = .processingQuery then
    { s with query := { s.query with readerWaitSpec := {} } }
  else s

/-- A reader without the target of the request -/
def degradeReader (conn : Connection) : FailureSession :=
  let s := s.setConn s.mybe (some conn)
  let s := s.withWrapRequest (s.wrapRequest s.mybe).resetWait
  { s with query := { s.query with readerWaitSpec := {} } }

/-- The query of a stream that was not sent yet goes to another one. -/
def moveRealQuery (source target : Int) : FailureSession :=
  if target ≠ source ∧ (s.streams source).real.query.isSome = true then
    ((s.freeRealQuery target).setReal target (s.streams source).real).setReal source {}
  else s

/-- `polardb_redirect_to_writer`; `none` when it returns false -/
def redirectToWriter (env : FailureEnv) (writerHg : Int) : Option FailureSession :=
  if writerHg < 0 then none
  else
    let source := s.mybe
    let s := s.withWrapRequest (s.wrapRequest source).clearReaderRoute
    let s := { s with currentHostgroup := writerHg, mybe := writerHg }
    some ((s.prepareRetryBackend env (some source) writerHg).moveRealQuery source writerHg)

/-- `polardb_install_wait_wrapper`, with the buffers that it exchanges -/
def installWaitWrapper : Option FailureSession :=
  let installed := (s.wrapRequest s.mybe).installWaitWrapper (s.streams s.mybe).conn.isSome
  match installed.1 with
  | .failed => none
  | .continue =>
      if s.query.wait.waitStage ≠ .waiting ∨ s.query.wait.wrapperFinalized = true then some s
      else
        let p : Packet :=
          { addr := s.nextAddr, bytes := installed.2.real.pkt, wrapped := true }
        let s := (s.freeRealQuery s.mybe).setReal s.mybe
          { pkt := some p, query := installed.2.real.query }
        some ({ s with currentQuery := .originalQuery, nextAddr := s.nextAddr + 1 }.withWrapRequest
          installed.2)

/-- `async_query`: the connection takes over what is known of the wrapper. -/
def dispatchQuery : FailureSession :=
  let conn := (s.streams s.mybe).conn.map fun c =>
    { c with
      asyncState := .busy
      consistencyWait := s.dispatchWrapperKind == .consistencyWait
      wrapperSetFailed := false }
  { s.setConn s.mybe conn with dispatchWrapperStmts := 0, dispatchWrapperKind := .none }

def handleFailure (env : FailureEnv) : FailureResult :=
  handleReaderFailure env s (s.captureRequestOutcome (some s.mybe))

/-- `polardb_redirect_wait_retry_to_writer`; `none` when it returns false -/
def redirectWaitRetryToWriter (env : FailureEnv) : Option FailureSession :=
  if s.query.waitBypassTarget = 0 then some s
  else
    match replicaLossActionFromInt s.query.readerPlan.replicaLossAction with
    | .primary => s.redirectToWriter env s.query.readerPlan.fallbackWriterHg
    | .replicaThenPrimary => s.redirectToWriter env s.query.readerPlan.fallbackWriterHg
    | _ => none

/-- `retry_conn`; after an error of a server that goes away it does not matter that rows were
sent. -/
def mayReconnect (serverError : Bool) : Bool :=
  decide (0 < (s.streams s.mybe).limits.queryRetriesOnFailure) &&
    (s.streams s.mybe).conn.any fun c =>
      c.reusable && !c.isActiveTransaction s.inTransaction && !c.multiplexDisabled &&
        !c.pipelineActive && (serverError || !c.transferStarted)

/-- The paths behind a failure that is passed on, as far as they try another connection -/
def reconnect (env : FailureEnv) (serverError : Bool) : Option FailureSession :=
  if s.mayReconnect serverError = false then none
  else
    let limits := (s.streams s.mybe).limits
    let failed := s.setLimits s.mybe
      { limits with queryRetriesOnFailure := limits.queryRetriesOnFailure - 1 }
    (failed.redirectWaitRetryToWriter env).map fun t =>
      { t.returnOrDestroyBackendStream s.mybe false with inTransaction := false }

/-- What is left of a request after an event; `none` when it ends, or the event does not occur -/
def next (s : FailureSession) : Event → Option FailureSession
  | .prepare status =>
      if s.status = .processingQuery ∨ status = .processingQuery ∨ status = .other then none
      else some { s with status := status }
  | .message m =>
      if s.status = .processingQuery ∨ m.status = .processingQuery ∨
          s.txnReader.active = true then none
      else some (s.continueCycle m)
  | .change c => some (s.applyChange c)
  | .select conn waitBypassAllowed now =>
      if s.selectable then some (s.selectReader conn waitBypassAllowed now) else none
  | .degrade conn => if s.selectable then some (s.degradeReader conn) else none
  | .redirect env =>
      if s.selectable then s.redirectToWriter env s.query.readerPlan.fallbackWriterHg else none
  | .install => if s.status = .processingQuery then s.installWaitWrapper else none
  | .dispatch => some s.dispatchQuery
  | .fail env =>
      let r := s.handleFailure env
      if r.action = .retry then some r.left.session else none
  | .reconnect env serverError =>
      let r := s.handleFailure env
      if r.action = .passthrough then r.left.session.reconnect env serverError else none

end FailureSession

end Failures

end PolarProxy
