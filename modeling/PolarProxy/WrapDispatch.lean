import PolarProxy.Plan

/-!
# Wrapped simple queries

A read that waits, or that is split from a transaction, is sent as one text: SET statements,
then the client's query.  A connection that has carried the ids of a transaction gets one more
SET in front of the next query.  The connection counts the results of the SET statements down
and forwards the results behind them.

A batch is a text of SET statements and the client's query, which stays as it is.  The results
that a backend returns are inputs.  Rows that are read one by one or as a run are rows; what the
client sees of a result is one item.

The internal commands of the proxy and the reset of a connection are simple queries as well; they
are sent as they are.
-/

namespace PolarProxy

namespace Wrapping

/-! ## Batches -/

/-- The SET statements in front of a query. -/
inductive SetStmt
  | mode (mode : WaitMode)
  | timeout (ms : Nat)
  | waitLsn (target : Nat)
  | xids (value : String)
  deriving DecidableEq

/-- `polardb_append_sql_literal` -/
def sqlLiteral (value : String) : String :=
  String.ofList (value.toList.flatMap fun c => if c = '\'' then ['\'', '\''] else [c])

/-- The text of a statement, with the blank behind it -/
def SetStmt.text : SetStmt → String
  | .mode .strict => "SET polar_consistency_mode = 'strict'; "
  | .mode .bestEffort => "SET polar_consistency_mode = 'best_effort'; "
  | .timeout ms => "SET polar_proxy_wait_timeout_ms = " ++ toString ms ++ "; "
  | .waitLsn target => "SET polar_xact_split_wait_lsn = '" ++ toString target ++ "'; "
  | .xids value => "SET polar_xact_split_xids = '" ++ sqlLiteral value ++ "'; "

/-- The text that is sent. -/
structure Batch where
  sets : List SetStmt := []
  query : String
  deriving DecidableEq

def Batch.text (b : Batch) : String :=
  String.join (b.sets.map SetStmt.text) ++ b.query

/-- `append_polar_wait_set` -/
def appendPolarWaitSet (type : WaitType) (target : Nat) (out : List SetStmt) :
    Option (List SetStmt) :=
  if type ≠ .lsn ∨ target = 0 then none else some (out ++ [.waitLsn target])

/-- `append_wrapped_wait_query`: the number of statements that were appended, and the
statements -/
def appendWrappedWaitQuery (query : String) (spec : WaitSpec) (out : List SetStmt) :
    Nat × List SetStmt :=
  if query = "" then (0, out)
  else if spec.type = .none then (0, out)
  else if spec.type = .lsn ∧ spec.target = 0 then (0, out)
  else
    let wrapped := out ++ [.mode spec.mode]
    let wrapperStmts := 0 + 1
    let wrapped := wrapped ++ [.timeout spec.timeoutMs]
    let wrapperStmts := wrapperStmts + 1
    match appendPolarWaitSet spec.type spec.target wrapped with
    | none => (0, out)
    | some wrapped => (wrapperStmts + 1, wrapped)

/-- `build_wrapped_wait_query` -/
def buildWrappedWaitQuery (query : String) (spec : WaitSpec) : Nat × List SetStmt :=
  appendWrappedWaitQuery query spec []

/-- `polardb_build_txn_split_wrapped_query` -/
def buildTxnSplitWrappedQuery (query : String) (spec : WaitSpec) (txnXids : String)
    (bypassWait : Bool) : Nat × List SetStmt :=
  if txnXids = "" ∨ spec.hasWait = false then (0, [])
  else
    let out : List SetStmt := [.xids txnXids]
    let wrapperStmts := 1
    if bypassWait then (wrapperStmts, out)
    else
      let appended := appendWrappedWaitQuery query { spec with mode := .strict } out
      if appended.1 = 0 then (0, []) else (wrapperStmts + appended.1, appended.2)

/-- `PolarDB_Query_WrapperKind` -/
inductive WrapperKind
  | none
  | consistencyWait
  | txnSplitWait
  | txnSplitXidsReset
  | extendedWait
  deriving DecidableEq

/-- A query of a client, as the session has routed it. -/
inductive SessionRequest
  | plain (query : String)
  | wait (query : String) (spec : WaitSpec)
  | split (query : String) (spec : WaitSpec) (txnXids : String) (bypassWait : Bool)

/-- What the session hands to the connection: the number of wrapper statements, their kind, and
the text. -/
structure SessionDispatch where
  wrapperStmts : Nat := 0
  kind : WrapperKind := .none
  batch : Batch

/-- The wrapper of a request; `none` when it cannot be built, and nothing is sent. -/
def SessionRequest.dispatch : SessionRequest → Option SessionDispatch
  | .plain query => some { batch := ⟨[], query⟩ }
  | .wait query spec =>
      let built := buildWrappedWaitQuery query spec
      if built.1 = 0 then Option.none
      else some ⟨built.1, .consistencyWait, ⟨built.2, query⟩⟩
  | .split query spec txnXids bypassWait =>
      let built := buildTxnSplitWrappedQuery query spec txnXids bypassWait
      if built.1 = 0 then Option.none
      else some ⟨built.1, .txnSplitWait, ⟨built.2, query⟩⟩

/-! ## The connection -/

/-- `PolarDB_Query_DispatchState` -/
structure DispatchState where
  wrapperStmts : Nat := 0
  kind : WrapperKind := .none
  xidsReset : Bool := false
  deriving DecidableEq

/-- `PolarDB_Query_WrapState` -/
structure WrapState where
  wasWrapped : Bool := false
  stmtFailed : Bool := false
  stmtSucceeded : Bool := false
  stmtTotal : Nat := 0
  stmtPending : Nat := 0
  kind : WrapperKind := .none
  xidsResetPending : Bool := false
  deriving DecidableEq

/-- What fails. -/
inductive Fault
  /-- `assert(stmt_pending > 0)` -/
  | noStmtPending
  /-- the end of the results, without a result and without an error -/
  | noResult
  deriving DecidableEq

namespace WrapState

variable (w : WrapState)

/-- `begin` -/
def start (n : Nat) (kind : WrapperKind) (xidsReset : Bool) : WrapState :=
  { wasWrapped := decide (n > 0)
    stmtTotal := n
    stmtPending := n
    kind := if n > 0 then kind else .none
    xidsResetPending := decide (n > 0) && xidsReset }

def consumingWrapperSet : Bool :=
  decide (w.stmtPending > 0)

def consumingXidsReset : Bool :=
  w.xidsResetPending && decide (w.stmtPending = w.stmtTotal)

/-- `mark_wrapper_set_failed` -/
def markFailed : WrapState :=
  { w with stmtFailed := true, stmtSucceeded := false, stmtPending := 0, xidsResetPending := false }

/-- `consume_successful_wrapper_set` -/
def consumeSuccessful : Except Fault WrapState :=
  if w.stmtPending > 0 then
    .ok { w with
      stmtPending := w.stmtPending - 1
      stmtSucceeded := w.stmtSucceeded || decide (w.stmtPending - 1 = 0) }
  else .error .noStmtPending

end WrapState

/-- `PGSQL_ERROR_SEVERITY` -/
inductive Severity
  | unknown
  | fatal
  | panic
  | error
  | warning
  | notice
  | debug
  | info
  | log
  deriving DecidableEq

structure BackendError where
  severity : Severity
  text : String
  lsnTimeout : Bool := false
  deriving DecidableEq

/-- The part of `PgSQL_Connection` that filters results and keeps split ids apart. -/
structure WrapConn where
  dispatch : DispatchState := {}
  wrap : WrapState := {}
  /-- `polardb_txn_split_xids_dirty` -/
  xidsDirty : Bool := false
  /-- `polardb_txn_split_xids_reset_consumed` -/
  xidsResetConsumed : Bool := false
  reusable : Bool := true
  /-- `error_info`, when an error is present -/
  errorInfo : Option BackendError := none
  deriving DecidableEq

namespace WrapConn

variable (c : WrapConn)

/-- The SET in front of a query on a connection that has carried ids -/
def xidsResetSet : SetStmt := .xids ""

/-- The snapshot of a simple query in `async_query`, with the text that is sent. -/
def snapshot (session : SessionDispatch) : WrapConn × Batch :=
  let dispatch : DispatchState :=
    if session.wrapperStmts > 0 then
      { wrapperStmts := session.wrapperStmts, kind := session.kind }
    else {}
  if c.xidsDirty ∧ dispatch.kind ≠ .txnSplitWait then
    ({ c with
        dispatch :=
          { wrapperStmts := dispatch.wrapperStmts + 1
            xidsReset := true
            kind := if dispatch.kind = .none then .txnSplitXidsReset else dispatch.kind } },
      { session.batch with sets := xidsResetSet :: session.batch.sets })
  else ({ c with dispatch := dispatch }, session.batch)

/-- `query_start` -/
def queryStart : WrapConn :=
  { c with
    errorInfo := none
    wrap :=
      if c.dispatch.wrapperStmts > 0 then
        WrapState.start c.dispatch.wrapperStmts c.dispatch.kind c.dispatch.xidsReset
      else {}
    dispatch := {} }

/-- `async_query` of a simple query: the text is sent at once. -/
def asyncQuery (session : SessionDispatch) : WrapConn × Batch :=
  let taken := c.snapshot session
  (taken.1.queryStart, taken.2)

/-- `async_query` of an extended query -/
def asyncExtendedQuery : WrapConn :=
  { c with
    dispatch := {}
    reusable := c.reusable && !c.xidsDirty }

/-- `async_send_simple_command`, of the commands that configure a connection -/
def asyncSendSimpleCommand (command : String) : WrapConn × Batch :=
  (c.queryStart, ⟨[], command⟩)

/-- `polardb_begin_txn_split_read`, for the connection of the reader -/
def beginTxnSplitRead : WrapConn :=
  { c with xidsDirty := true, xidsResetConsumed := false }

/-- `async_free_result` -/
def asyncFreeResult : WrapConn :=
  let splitDone := c.xidsDirty && c.wrap.kind == .txnSplitWait && c.wrap.stmtSucceeded &&
    c.errorInfo.isNone
  let c := if splitDone then { c with xidsDirty := false } else c
  if c.xidsResetConsumed then
    { c with
      xidsDirty := c.xidsDirty && c.errorInfo.isSome
      xidsResetConsumed := false }
  else c

/-- `polardb_clear_request_state_for_release` -/
def clearRequestState : WrapConn :=
  { c with dispatch := {}, wrap := {} }

/-- `reset`, once the backend has reset its session -/
def reset : WrapConn :=
  { reusable := true, errorInfo := c.errorInfo }

/-- The text of `reset_session_start` -/
def resetSessionText (inTransaction : Bool) : String :=
  if inTransaction then "ROLLBACK" else "DISCARD ALL"

/-- `polardb_handle_wrapper_set_error` -/
def handleWrapperSetError (waitActive : Bool) (e : BackendError) : WrapConn :=
  if !c.wrap.wasWrapped then c
  else
    let txnSplitWait := c.wrap.kind == .txnSplitWait
    let isLsnTimeout := (waitActive || txnSplitWait) && e.lsnTimeout
    let markWrapperFailed := c.wrap.consumingWrapperSet
    if (!waitActive && txnSplitWait && isLsnTimeout) || markWrapperFailed then
      { c with wrap := c.wrap.markFailed }
    else c

end WrapConn

/-! ## Results -/

/-- The results of a simple query. -/
inductive BackendResult
  | commandOk (tag : String)
  | emptyQuery
  | row (data : String)
  | tuplesOk (tag : String)
  | copyOut (data : String)
  | copyIn
  | error (e : BackendError)
  deriving DecidableEq

inductive Forwarded
  | completion (tag : String)
  | emptyQuery
  | row (data : String)
  | copyOut (data : String)
  | error (text : String)
  | ready
  deriving DecidableEq

structure Reading where
  conn : WrapConn
  /-- The current result has its completion, its empty response or its error. -/
  complete : Bool := false
  ended : Bool := false
  out : List Forwarded := []
  deriving DecidableEq

/-- Errors of these severities are copied to the client. -/
def Severity.copied : Severity → Bool
  | .error => true
  | .warning => true
  | .notice => true
  | _ => false

namespace Reading

variable (r : Reading)

/-- `fetch_result_start` and `init_query_result` -/
def restart : Reading :=
  { r with conn := { r.conn with errorInfo := none }, complete := false }

/-- A result while SET statements are pending; `true` when it is swallowed. -/
def consume (waitActive : Bool) (result : BackendResult) : Except Fault (Reading × Bool) :=
  if !r.conn.wrap.consumingWrapperSet then .ok (r, false)
  else
    let swallow : Except Fault (Reading × Bool) := do
      let consumedXidsReset := r.conn.wrap.consumingXidsReset
      let wrap ← r.conn.wrap.consumeSuccessful
      let conn := { r.conn with wrap := wrap }
      let conn :=
        if consumedXidsReset then
          { conn with
            xidsResetConsumed := true
            wrap := { conn.wrap with xidsResetPending := false } }
        else conn
      return ({ r with conn := conn }, true)
    match result with
    | .commandOk _ => swallow
    | .emptyQuery => swallow
    | .error e =>
        let conn :=
          if r.conn.wrap.consumingXidsReset then
            { r.conn with reusable := false, xidsResetConsumed := false }
          else r.conn
        .ok ({ r with conn := conn.handleWrapperSetError waitActive e }, false)
    | _ => .ok (r, false)

/-- A result that is not swallowed. -/
def forward (waitActive : Bool) : BackendResult → Reading
  | .commandOk tag => { r with complete := true, out := r.out ++ [.completion tag] }
  | .emptyQuery => { r with complete := true, out := r.out ++ [.emptyQuery] }
  | .row data => { r with out := r.out ++ [.row data] }
  | .tuplesOk tag => { r with complete := true, out := r.out ++ [.completion tag] }
  | .copyOut data => { r with out := r.out ++ [.copyOut data] }
  | .copyIn =>
      { r with
        conn := { r.conn with errorInfo := some ⟨.error, "Unable to process 'COPY' command", false⟩ }
        ended := true }
  | .error e =>
      if r.conn.errorInfo.any fun info => info.severity = .fatal then r
      else
        let conn := ({ r.conn with errorInfo := some e }).handleWrapperSetError waitActive e
        if e.severity.copied then
          { r with conn := conn, complete := true, out := r.out ++ [.error e.text] }
        else { r with conn := conn }

/-- One result.  When the last one was complete, a further statement of the client has begun;
its first result is looked at again, with nothing pending then. -/
def step (waitActive : Bool) (r : Reading) (result : BackendResult) : Except Fault Reading :=
  if r.ended then .ok r
  else do
    let (r, swallowed) ← r.consume waitActive result
    if swallowed then return r.restart
    else return (if r.complete then r.restart else r).forward waitActive result

/-- The end of the results. -/
def finish : Except Fault Reading :=
  if r.ended then .ok r
  else if r.complete then .ok { r with ended := true, out := r.out ++ [.ready] }
  else
    match r.conn.errorInfo with
    | none => .error .noResult
    | some e => .ok { r with ended := true, out := r.out ++ [.error e.text, .ready] }

/-- All results that arrive. -/
def steps (waitActive : Bool) (results : List BackendResult) (r : Reading) : Except Fault Reading :=
  results.foldlM (step waitActive) r

end Reading

/-! ## Runs -/

/-- What happens on a connection. -/
inductive ConnOp
  | query (request : SessionRequest)
  | extendedQuery
  | simpleCommand (command : String)
  | beginTxnSplitRead
  | results (waitActive : Bool) (results : List BackendResult)
  | freeResult
  | clearRequestState
  | resetSession (inTransaction done : Bool)

/-- A simple query that was sent. -/
structure Sent where
  /-- by `async_query` -/
  byQuery : Bool
  kind : WrapperKind
  xidsDirty : Bool
  batch : Batch
  deriving DecidableEq

namespace WrapConn

/-- One operation, with the simple query that it sends. -/
def connStep (c : WrapConn) : ConnOp → WrapConn × Option Sent
  | .query request =>
      match request.dispatch with
      | none => (c, none)
      | some session =>
          let sent := c.asyncQuery session
          (sent.1, some ⟨true, session.kind, c.xidsDirty, sent.2⟩)
  | .extendedQuery => (c.asyncExtendedQuery, none)
  | .simpleCommand command =>
      let sent := c.asyncSendSimpleCommand command
      (sent.1, some ⟨false, .none, c.xidsDirty, sent.2⟩)
  | .beginTxnSplitRead => (c.beginTxnSplitRead, none)
  | .results waitActive results =>
      match Reading.steps waitActive results { conn := c } with
      | .ok r => (r.conn, none)
      | .error _ => (c, none)
  | .freeResult => (c.asyncFreeResult, none)
  | .clearRequestState => (c.clearRequestState, none)
  | .resetSession inTransaction done =>
      (if done then c.reset else c,
        some ⟨false, .none, c.xidsDirty, ⟨[], resetSessionText inTransaction⟩⟩)

/-- The simple queries that a sequence of operations sends. -/
def sends : WrapConn → List ConnOp → List Sent
  | _, [] => []
  | c, op :: ops => (c.connStep op).2.toList ++ (c.connStep op).1.sends ops

end WrapConn

end Wrapping

end PolarProxy
