import Mathlib.Algebra.GroupWithZero.Nat
import PolarProxy.Session
import PolarProxy.WrapText

/-!
# Installing a wait wrapper

A simple query that waits is rewritten when its connection is idle: the wrapped text
replaces the packet, and the number of wrapper statements is recorded.  A wrapper that
cannot be built fails the request and keeps the session on the writer until a reset.

`WrapRequest` is the part of a session that this reads and writes.  A stream holds the
packet and, apart from it, the query it points to; sizes are 32-bit words.

What the session asks elsewhere is passed in: whether the startup profile asks for
extended waits, and whether a transaction reader was found (`ExecuteEnv`).

**Results.** `installWaitWrapper_pending`, `installWaitWrapper_again`, `polardbExecute_quiet`.
-/

namespace PolarProxy

namespace Wrapping

/-! ## Packets -/

def nul : Char :=
  Char.ofNat 0

/-- `pgsql_real_query` of a stream -/
structure RealQuery where
  pkt : List Char := []
  /-- `QueryPtr` and `QuerySize` -/
  query : Option (List Char) := none
  deriving DecidableEq

/-- `take_packet` -/
def RealQuery.takePacket (pkt : List Char) : RealQuery :=
  { pkt := pkt, query := some (pkt.drop 5) }

/-- `htonl` -/
def bigEndian32 (n : Nat) : List Char :=
  [Char.ofNat (n / 2 ^ 24 % 256), Char.ofNat (n / 2 ^ 16 % 256), Char.ofNat (n / 2 ^ 8 % 256),
    Char.ofNat (n % 256)]

def simpleQueryPacket (query : List Char) : List Char :=
  'Q' :: (bigEndian32 (query.length + 5) ++ (query ++ [nul]))

/-- `replace_simple_query_packet` -/
def replaceSimpleQueryPacket (query : List Char) : RealQuery :=
  let packet := simpleQueryPacket query
  { pkt := packet.take (packet.length % 2 ^ 32)
    query := some ((packet.drop 5).take ((packet.length - 5) % 2 ^ 32)) }

/-- `polardb_build_simple_query_packet`; empty when nothing is built -/
def buildSimpleQueryPacket (sql : List Char) : List Char :=
  if sql = [] ∨ 2 ^ 32 - 1 - 6 < sql.length then [] else simpleQueryPacket sql

/-! ## Requests -/

/-- What a session keeps of the wrapper of a request. -/
structure WrapRequest where
  query : QueryState := {}
  /-- `wait.wrapper_stmts` -/
  wrapperStmts : Nat := 0
  originalQuery : List Char := []
  wrappedQueryBuf : List Char := []
  dispatchWrapperStmts : Nat := 0
  dispatchWrapperKind : WrapperKind := .none
  /-- `polardb_route_state.wait_disabled` -/
  waitDisabled : Bool := false
  /-- The stream that the request is sent on. -/
  real : RealQuery := {}
  deriving DecidableEq

/-- `PolarDB_WrapFinalizeResult` -/
inductive WrapFinalizeResult
  | continue
  | failed
  deriving DecidableEq

namespace WrapRequest

variable (s : WrapRequest)

/-- `polardb_wait_active` -/
def waitActive : Bool :=
  s.query.wait.waitStage == .waiting

/-- `reset_wait` -/
def resetWait : WrapRequest :=
  { s with query := s.query.resetWait, wrapperStmts := 0 }

/-- `begin_wait` -/
def beginWait (spec : WaitSpec) (startedAtUs : Nat) (fallbackWriterHg : Int) : WrapRequest :=
  { s with query := s.query.beginWait spec startedAtUs fallbackWriterHg, wrapperStmts := 0 }

/-- `mark_wait_satisfied` -/
def markWaitSatisfied (target : Nat) : WrapRequest :=
  { s with query := s.query.markWaitSatisfied target, wrapperStmts := 0 }

/-- `clear_reader_route` -/
def clearReaderRoute : WrapRequest :=
  { s with
    query := { s.query.resetReaderPlan.resetWait with waitBypassTarget := 0 }
    wrapperStmts := 0 }

/-- `reset_dispatch_wrapper` -/
def resetDispatchWrapper : WrapRequest :=
  { s with dispatchWrapperStmts := 0, dispatchWrapperKind := .none }

/-- `reset_for_new_query` -/
def resetForNewQuery : WrapRequest :=
  { s.resetDispatchWrapper with
    query := s.query.resetForNewQuery
    wrapperStmts := 0
    originalQuery := []
    wrappedQueryBuf := [] }

/-- `polardb_fail_wrap_and_disable_session_waits` -/
def failWrap : WrapFinalizeResult × WrapRequest :=
  (.failed, { s with waitDisabled := true, wrappedQueryBuf := [] }.resetWait)

/-- The copy of the SQL that a wrapper needs; `QuerySize` counts the terminator. -/
def snapshotOriginalQuery : WrapRequest :=
  match s.originalQuery, s.real.query with
  | [], some (c :: query) =>
      { s with
        originalQuery :=
          if (c :: query).getLast? = some nul then (c :: query).dropLast else c :: query }
  | _, _ => s

/-- `polardb_install_wait_wrapper`; `connected` says that there are a connection and a
stream. -/
def installWaitWrapper (connected : Bool) : WrapFinalizeResult × WrapRequest :=
  if s.waitActive = false then (.continue, s)
  else if s.query.wait.wrapperFinalized then (.continue, s)
  else if connected = false then s.failWrap
  else
    let s := s.snapshotOriginalQuery
    if s.originalQuery = [] then s.failWrap
    else
      let modeSet := waitModeSetStatement s.query.wait.spec.mode
      let built := buildWrappedWaitText (some s.originalQuery) s.query.wait.spec modeSet
      let s := { s with wrappedQueryBuf := built.2 }
      if built.1 = 0 then s.failWrap
      else
        let s := { s with wrapperStmts := built.1 }
        if s.wrappedQueryBuf ≠ [] then
          (.continue,
            { s with
              real := replaceSimpleQueryPacket s.wrappedQueryBuf
              dispatchWrapperStmts := s.wrapperStmts
              dispatchWrapperKind := .consistencyWait
              query := { s.query with wait := { s.query.wait with wrapperFinalized := true } } })
        else s.failWrap

end WrapRequest

/-! ## Applying a route -/

/-- What `polardb_execute` asks elsewhere. -/
structure ExecuteEnv where
  /-- `requests_extended_wait` of the startup profile -/
  extendedWait : Bool := false
  /-- A connected reader for a transaction, and whether its wait may be skipped -/
  txnReader : Option Bool := none
  now : Nat := 0
  deriving DecidableEq

/-- `PolarDB_Query_ExecuteResult`, and whether the packet was taken -/
structure ExecuteResult where
  finalTargetHg : Int
  returnError : Bool := false
  packetTaken : Bool := false
  deriving DecidableEq

namespace WrapRequest

/-- `polardb_prepare_txn_wait_read`; `none` when the read is declined -/
def prepareTxnWaitRead (s : WrapRequest) (plan : RoutePlan) (ctx : RouteCtx) (pkt : List Char)
    (env : ExecuteEnv) : Option WrapRequest :=
  if plan.targetHg < 0 ∨ ctx.inTransaction = false then none
  else if plan.waitSpec.hasWait ∧ extractSimpleQueryBody pkt = none then none
  else
    env.txnReader.map fun (bypassWait : Bool) =>
      let s :=
        if plan.waitSpec.hasWait ∧ s.query.wait.waitStage ≠ .idle then s.resetWait else s
      let s :=
        if plan.waitSpec.hasWait ∧ bypassWait = true then s.markWaitSatisfied plan.waitSpec.target
        else if plan.waitSpec.hasWait then
          { { s with query := { s.query with readerPlan := plan.reader } }.beginWait plan.waitSpec
              env.now plan.reader.fallbackWriterHg with
            originalQuery := (extractSimpleQueryBody pkt).getD [] }
        else s
      { s with real := .takePacket pkt }

/-- `polardb_prepare_txn_split_read`; the stream points into the wrapped text -/
def prepareTxnSplitRead (s : WrapRequest) (plan : RoutePlan) (pkt : List Char)
    (env : ExecuteEnv) : Option WrapRequest :=
  if plan.targetHg < 0 ∨ plan.txnXids = "" ∨ plan.waitSpec.hasWait = false then none
  else
    env.txnReader.bind fun (bypassWait : Bool) =>
      let built := buildTxnSplitWrappedText pkt plan.waitSpec plan.txnXids.toList bypassWait
      if built.1 = 0 then none
      else
        let s :=
          { s with
            query := { s.query with readerPlan := plan.reader }
            real := { query := some (built.2.take (built.2.length % 2 ^ 32)) }
            dispatchWrapperStmts := built.1
            dispatchWrapperKind := .txnSplitWait }
        some (if bypassWait then s.markWaitSatisfied plan.waitSpec.target else s)

def declinedTransactionReader (plan : RoutePlan) (ctx : RouteCtx) : ExecuteResult :=
  if readFallbackActionFromInt plan.reader.readFallbackAction = .error then
    { finalTargetHg := -1, returnError := true }
  else { finalTargetHg := ctx.writerScope.hg }

/-- `polardb_execute` -/
def polardbExecute (s : WrapRequest) (plan : RoutePlan) (ctx : RouteCtx) (pkt : List Char)
    (env : ExecuteEnv) : ExecuteResult × WrapRequest :=
  if ctx.isExtendedProtocol ∧ (plan.txnWaitRead ∨ plan.action = .replicaTxnSplit) then
    ({ finalTargetHg := ctx.writerScope.hg }, s)
  else
    let s := s.resetWait
    let s := { s with query := { s.query with readerWaitSpec := {} } }
    if plan.action = .returnError then ({ finalTargetHg := -1, returnError := true }, s)
    else if plan.txnWaitRead then
      if s.waitDisabled then (declinedTransactionReader plan ctx, s)
      else
        match s.prepareTxnWaitRead plan ctx pkt env with
        | some s => ({ finalTargetHg := plan.targetHg, packetTaken := true }, s)
        | none => (declinedTransactionReader plan ctx, s)
    else
      match plan.action with
      | .passthrough =>
          ({ finalTargetHg := plan.targetHg },
            { s with query := { s.query with readerPlan := plan.reader } })
      | .forcePrimary => ({ finalTargetHg := ctx.writerScope.hg }, s)
      | .replicaTxnSplit =>
          if s.waitDisabled then (declinedTransactionReader plan ctx, s)
          else
            match s.prepareTxnSplitRead plan pkt env with
            | some s => ({ finalTargetHg := plan.targetHg, packetTaken := true }, s)
            | none => (declinedTransactionReader plan ctx, s)
      | _ =>
          if ctx.isExtendedProtocol = false ∧ pkt.length < 6 + 1 then
            ({ finalTargetHg := ctx.writerScope.hg }, s)
          else if ctx.isExtendedProtocol ∧ env.extendedWait = false then
            ({ finalTargetHg := ctx.writerScope.hg }, s)
          else if s.waitDisabled then ({ finalTargetHg := ctx.writerScope.hg }, s)
          else
            ({ finalTargetHg := plan.targetHg },
              { s with
                query := { s.query with readerPlan := plan.reader, readerWaitSpec := plan.waitSpec } })

/-- `polardb_finish_reader_wait_selection` -/
def finishReaderWaitSelection (s : WrapRequest) (spec : WaitSpec) (targetReached : Bool)
    (now : Nat) (fallbackWriterHg : Int) : WrapRequest :=
  if spec.hasWait = false then s.resetWait
  else if targetReached then s.markWaitSatisfied spec.target
  else s.beginWait spec now fallbackWriterHg

/-! ## What an installation does -/

variable {s : WrapRequest}

/-- The request after its wrapper is built and installed. -/
def wrapped (s : WrapRequest) : WrapRequest :=
  let s := s.snapshotOriginalQuery
  let text := setsText (waitSets s.query.wait.spec) ++ s.originalQuery
  { s with
    wrapperStmts := (waitSets s.query.wait.spec).length
    wrappedQueryBuf := text
    real := replaceSimpleQueryPacket text
    dispatchWrapperStmts := (waitSets s.query.wait.spec).length
    dispatchWrapperKind := .consistencyWait
    query := { s.query with wait := { s.query.wait with wrapperFinalized := true } } }

/-- What is left of a request whose wrapper failed. -/
structure Failed (before after : WrapRequest) : Prop where
  packet : after.real = before.real
  wait : after.query.wait = {}
  stmts : after.wrapperStmts = 0
  disabled : after.waitDisabled = true

theorem snapshotOriginalQuery_query :
    s.snapshotOriginalQuery.query = s.query := by
  unfold snapshotOriginalQuery
  split <;> rfl

theorem snapshotOriginalQuery_real :
    s.snapshotOriginalQuery.real = s.real := by
  unfold snapshotOriginalQuery
  split <;> rfl

theorem snapshotOriginalQuery_waitDisabled :
    s.snapshotOriginalQuery.waitDisabled = s.waitDisabled := by
  unfold snapshotOriginalQuery
  split <;> rfl

theorem snapshotOriginalQuery_of_ne
    (h : s.originalQuery ≠ []) :
    s.snapshotOriginalQuery = s := by
  unfold snapshotOriginalQuery
  split
  · rename_i heq _
    exact absurd heq h
  · rfl

theorem wrapped_eq :
    s.wrapped.query.wait.spec = s.query.wait.spec ∧
      s.wrapped.originalQuery = s.snapshotOriginalQuery.originalQuery ∧
      s.wrapped.wrapperStmts = (waitSets s.query.wait.spec).length ∧
      s.wrapped.real = replaceSimpleQueryPacket
        (setsText (waitSets s.query.wait.spec) ++ s.snapshotOriginalQuery.originalQuery) ∧
      s.wrapped.query.readerWaitSpec = s.query.readerWaitSpec ∧
      s.wrapped.waitDisabled = s.waitDisabled := by
  simp only [wrapped, snapshotOriginalQuery_query, snapshotOriginalQuery_waitDisabled, and_self]

theorem installWaitWrapper_skip
    {connected : Bool}
    (h : s.waitActive = false ∨ s.query.wait.wrapperFinalized = true) :
    s.installWaitWrapper connected = (.continue, s) := by
  rw [installWaitWrapper]
  split
  · rfl
  · rename_i hactive
    rw [if_pos (h.resolve_left hactive)]

/-- The outcomes of an installation that has work to do. -/
theorem installWaitWrapper_pending
    {connected : Bool}
    (hactive : s.waitActive = true)
    (hpending : s.query.wait.wrapperFinalized = false) :
    (CanWrap s.snapshotOriginalQuery.originalQuery s.query.wait.spec ∧
        s.installWaitWrapper connected = (.continue, s.wrapped)) ∨
      ((s.installWaitWrapper connected).1 = .failed ∧
        Failed s (s.installWaitWrapper connected).2) := by
  have hwraps := appendWrappedWaitText_wraps (some s.snapshotOriginalQuery.originalQuery)
    s.query.wait.spec []
  rw [Option.getD_some] at hwraps
  rw [installWaitWrapper, if_neg (by rw [hactive]; exact Bool.noConfusion),
    if_neg (by rw [hpending]; exact Bool.noConfusion)]
  by_cases hconnected : connected = false
  · rw [if_pos hconnected]
    exact Or.inr ⟨rfl, rfl, rfl, rfl, rfl⟩
  rw [if_neg hconnected]
  simp only [snapshotOriginalQuery_query, buildWrappedWaitText]
  by_cases hempty : s.snapshotOriginalQuery.originalQuery = []
  · rw [if_pos hempty]
    exact Or.inr ⟨rfl, snapshotOriginalQuery_real, rfl, rfl, rfl⟩
  rw [if_neg hempty]
  by_cases hcan : CanWrap s.snapshotOriginalQuery.originalQuery s.query.wait.spec
  · left
    rw [hwraps.built hcan]
    refine ⟨hcan, ?_⟩
    rw [if_neg (by simp [waitSets]), if_pos (by simp [hempty])]
    simp only [wrapped, snapshotOriginalQuery_query, List.nil_append]
  · rw [hwraps.declined hcan, if_pos rfl]
    exact Or.inr ⟨rfl, snapshotOriginalQuery_real, rfl, rfl, rfl⟩

/-- A second call for a request changes nothing. -/
theorem installWaitWrapper_again
    (connected connected' : Bool) :
    (s.installWaitWrapper connected).2.installWaitWrapper connected' =
      (.continue, (s.installWaitWrapper connected).2) := by
  apply installWaitWrapper_skip
  by_cases hskip : s.waitActive = false ∨ s.query.wait.wrapperFinalized = true
  · rw [installWaitWrapper_skip hskip]
    exact hskip
  · rw [not_or, Bool.not_eq_false, Bool.not_eq_true] at hskip
    rcases installWaitWrapper_pending hskip.1 hskip.2 with
      ⟨_, hinstalled⟩ | ⟨_, hfailed⟩
    · rw [hinstalled]
      exact Or.inr rfl
    · left
      rw [waitActive, hfailed.wait]
      rfl

/-! ## What is left of a wait once a route is applied -/

/-- The actions that read from a replica behind a wait. -/
def Waits (plan : RoutePlan) : Prop :=
  plan.txnWaitRead = true ∨ plan.action = .replicaWithWait ∨ plan.action = .replicaTxnSplit

/-- What the application of a route leaves. -/
structure Executed (s : WrapRequest) (plan : RoutePlan) (ctx : RouteCtx) (pkt : List Char)
    (r : ExecuteResult × WrapRequest) : Prop where
  /-- A wait is active only behind a client packet that is not sent yet. -/
  waits : r.2.waitActive = true →
    s.waitDisabled = false ∧ r.2.query.wait.wrapperFinalized = false ∧
      r.2.query.wait.spec = plan.waitSpec ∧ r.2.real = .takePacket pkt ∧
      extractSimpleQueryBody pkt = some r.2.originalQuery
  original : r.2.originalQuery = s.originalQuery ∨
    extractSimpleQueryBody pkt = some r.2.originalQuery
  planned : r.2.query.readerWaitSpec.hasWait = true →
    s.waitDisabled = false ∧ r.2.query.readerWaitSpec = plan.waitSpec ∧ r.1.packetTaken = false
  disabled : r.2.waitDisabled = s.waitDisabled
  writer : s.waitDisabled = true → Waits plan →
    r.1.finalTargetHg = ctx.writerScope.hg ∨ r.1.returnError = true

theorem Executed.quiet
    {plan : RoutePlan} {ctx : RouteCtx} {pkt : List Char} {r : ExecuteResult × WrapRequest}
    (hwait : r.2.waitActive = false)
    (horiginal : r.2.originalQuery = s.originalQuery)
    (hplanned : r.2.query.readerWaitSpec.hasWait = false)
    (hdisabled : r.2.waitDisabled = s.waitDisabled)
    (hwriter : s.waitDisabled = true → Waits plan →
      r.1.finalTargetHg = ctx.writerScope.hg ∨ r.1.returnError = true) :
    Executed s plan ctx pkt r where
  waits h := absurd h (by simp [hwait])
  original := Or.inl horiginal
  planned h := absurd h (by simp [hplanned])
  disabled := hdisabled
  writer := hwriter

theorem declinedTransactionReader_writer
    (plan : RoutePlan) (ctx : RouteCtx) :
    (declinedTransactionReader plan ctx).finalTargetHg = ctx.writerScope.hg ∨
      (declinedTransactionReader plan ctx).returnError = true := by
  rw [declinedTransactionReader]
  split
  · exact Or.inr rfl
  · exact Or.inl rfl

theorem prepareTxnWaitRead_some
    {t : WrapRequest} {plan : RoutePlan} {ctx : RouteCtx} {pkt : List Char} {env : ExecuteEnv}
    (hidle : s.waitActive = false)
    (hspec : s.query.readerWaitSpec = {})
    (h : s.prepareTxnWaitRead plan ctx pkt env = some t) :
    (t.waitActive = true →
        t.query.wait.wrapperFinalized = false ∧ t.query.wait.spec = plan.waitSpec ∧
          extractSimpleQueryBody pkt = some t.originalQuery) ∧
      t.real = .takePacket pkt ∧
      (t.originalQuery = s.originalQuery ∨ extractSimpleQueryBody pkt = some t.originalQuery) ∧
      t.query.readerWaitSpec = {} ∧ t.waitDisabled = s.waitDisabled := by
  simp only [prepareTxnWaitRead, Option.ite_none_left_eq_some, Option.map_eq_some_iff] at h
  obtain ⟨-, hbody, bypassWait, -, rfl⟩ := h
  have hstage : s.query.wait.waitStage = .idle := by
    cases hstage : s.query.wait.waitStage with
    | idle =>
        rfl
    | waiting =>
        simp [waitActive, hstage] at hidle
  have hstart : (if plan.waitSpec.hasWait = true ∧ s.query.wait.waitStage ≠ .idle then s.resetWait
      else s) = s := if_neg fun h => h.2 hstage
  rw [hstart]
  by_cases hwait : plan.waitSpec.hasWait = true
  · have hsome : extractSimpleQueryBody pkt ≠ none := fun hnone => hbody ⟨hwait, hnone⟩
    obtain ⟨query, hquery⟩ := Option.ne_none_iff_exists'.mp hsome
    cases bypassWait with
    | true =>
        rw [if_pos ⟨hwait, rfl⟩]
        exact ⟨fun h => absurd h Bool.false_ne_true, rfl, Or.inl rfl, hspec, rfl⟩
    | false =>
        rw [if_neg (by simp), if_pos hwait]
        rw [hquery]
        exact ⟨fun _ => ⟨rfl, rfl, rfl⟩, rfl, Or.inr rfl, hspec, rfl⟩
  · rw [if_neg (fun h => hwait h.1), if_neg hwait]
    exact ⟨fun h => absurd (hidle.symm.trans h) Bool.false_ne_true, rfl, Or.inl rfl, hspec, rfl⟩

theorem prepareTxnSplitRead_some
    {t : WrapRequest} {plan : RoutePlan} {pkt : List Char} {env : ExecuteEnv}
    (hwait : s.query.wait = {})
    (h : s.prepareTxnSplitRead plan pkt env = some t) :
    t.query.wait = {} ∧ t.query.readerPlan = plan.reader ∧ t.originalQuery = s.originalQuery ∧
      t.query.readerWaitSpec = s.query.readerWaitSpec ∧ t.waitDisabled = s.waitDisabled := by
  simp only [prepareTxnSplitRead, Option.ite_none_left_eq_some, Option.bind_eq_some_iff,
    Option.some.injEq] at h
  obtain ⟨-, bypassWait, -, -, rfl⟩ := h
  cases bypassWait with
  | true =>
      exact ⟨rfl, rfl, rfl, rfl, rfl⟩
  | false =>
      exact ⟨hwait, rfl, rfl, rfl, rfl⟩

/-- Once a route is applied to a request without a wait, a wait is active only behind the
client packet of a transaction read, and a session that must not wait reads from the writer. -/
theorem polardbExecute_quiet
    (hidle : s.waitActive = false)
    (hspec : s.query.readerWaitSpec.hasWait = false)
    (plan : RoutePlan) (ctx : RouteCtx) (pkt : List Char) (env : ExecuteEnv) :
    Executed s plan ctx pkt (s.polardbExecute plan ctx pkt env) := by
  rw [polardbExecute]
  split
  · exact .quiet hidle rfl hspec rfl fun _ _ => Or.inl rfl
  split
  · exact .quiet rfl rfl rfl rfl fun _ _ => Or.inr rfl
  dsimp only
  split
  · split
    · exact .quiet rfl rfl rfl rfl fun _ _ => declinedTransactionReader_writer plan ctx
    · rename_i henabled
      rw [Bool.not_eq_true] at henabled
      split
      · rename_i t hprepare
        obtain ⟨hwaits, hreal, horiginal, hplanned, hdisabled⟩ :=
          prepareTxnWaitRead_some rfl rfl hprepare
        exact
          { waits := fun hactive =>
              ⟨henabled, (hwaits hactive).1, (hwaits hactive).2.1, hreal, (hwaits hactive).2.2⟩
            original := horiginal
            planned := fun h => by
              rw [hplanned] at h
              exact absurd h Bool.false_ne_true
            disabled := hdisabled
            writer := fun h => absurd (henabled.symm.trans h) Bool.false_ne_true }
      · exact .quiet rfl rfl rfl rfl fun _ _ => declinedTransactionReader_writer plan ctx
  · rename_i hread
    split
    · rename_i haction
      refine .quiet rfl rfl rfl rfl fun _ hwaits => ?_
      rcases hwaits with hwaits | hwaits | hwaits
      · exact absurd hwaits hread
      · exact absurd (haction.symm.trans hwaits) (by decide)
      · exact absurd (haction.symm.trans hwaits) (by decide)
    · exact .quiet rfl rfl rfl rfl fun _ _ => Or.inl rfl
    · split
      · exact .quiet rfl rfl rfl rfl fun _ _ => declinedTransactionReader_writer plan ctx
      · rename_i henabled
        rw [Bool.not_eq_true] at henabled
        split
        · rename_i t hprepare
          obtain ⟨hwait, -, horiginal, hplanned, hdisabled⟩ :=
            prepareTxnSplitRead_some rfl hprepare
          refine .quiet ?_ horiginal ?_ hdisabled
            fun h => absurd (henabled.symm.trans h) Bool.false_ne_true
          · simp only [waitActive, hwait]
            rfl
          · rw [hplanned]
            rfl
        · exact .quiet rfl rfl rfl rfl fun _ _ => declinedTransactionReader_writer plan ctx
    · split
      · exact .quiet rfl rfl rfl rfl fun _ _ => Or.inl rfl
      split
      · exact .quiet rfl rfl rfl rfl fun _ _ => Or.inl rfl
      split
      · exact .quiet rfl rfl rfl rfl fun _ _ => Or.inl rfl
      · rename_i henabled
        rw [Bool.not_eq_true] at henabled
        exact
          { waits := fun h => absurd h Bool.false_ne_true
            original := Or.inl rfl
            planned := fun _ => ⟨henabled, rfl, rfl⟩
            disabled := rfl
            writer := fun h => absurd (henabled.symm.trans h) Bool.false_ne_true }

end WrapRequest

end Wrapping

end PolarProxy
