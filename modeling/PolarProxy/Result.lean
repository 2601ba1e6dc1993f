import PolarProxy.Session

/-!
# The response path

When a query completes, the backend's `ReadyForQuery` (RFQ) says where the
writer's log stands.  The session merges that position into its own state, but
only when the RFQ belongs to the writer scope the request ran under.  An RFQ may
carry a position, a zero position, or none, and the three cases are separate
paths of the source.

**Operations.**  `acceptRfqServerLsn` checks an RFQ against the current writer
scope; `processPositionedRfqLsn`, `processZeroRfqLsn` and `processMissingRfqLsn`
are the three paths, and `processResult` chooses among them.

**Results.** `processPositioned_consistency`, `processZero_consistency`,
`processMissing_consistency`, `processResultWithAttribution_waitView`.
-/

namespace PolarProxy

open Transition

/-- What a backend connection reports with its result.  The hostgroup is `none`
when the server is detached from its hostgroup. -/
structure Backend where
  hostgroup : Option Int := none
  lsn : Nat := 0
  payloadPresent : Bool := false
  txnStatus : Char := 'I'
  txnXids : Option String := none
  txnSplittable : Bool := false
  txnWalPending : Bool := false
  resultHasError : Bool := false
  processingMultiStatement : Bool := false
  wrapperSetSucceeded : Bool := false
  deriving DecidableEq

/-- The hostgroup manager as one result sees it: the worker's cached topology,
the writer scope read when an RFQ is accepted, the scope read again under the
server guard, and whether the shared cache is updated at all. -/
structure HgmView where
  polardbActive : Bool := true
  cachedConfig : Int → HgConfigSnapshot := fun _ => {}
  snapshotScope : Int → Option WriterScope := fun _ => none
  guardedScope : Int → WriterScope := fun _ => {}
  updateCache : Bool := true

inductive RfqLsnPayloadState
  | missing
  | zero
  | positioned
  deriving DecidableEq

def rfqLsnPayloadState (payloadPresent : Bool) (lsn : Nat) : RfqLsnPayloadState :=
  if !payloadPresent then .missing else if lsn = 0 then .zero else .positioned

/-- Accept an RFQ position for the request scope: the scope must be the current
one, also when it is read again under the server guard. -/
def acceptRfqServerLsn
    (hgm : HgmView) (backendHostgroup : Int) (lsn : Nat) (requestScope : WriterScope) : Bool :=
  hgm.polardbActive && lsn != 0 && decide requestScope.Valid &&
    (match hgm.snapshotScope backendHostgroup with
      | none => false
      | some current => decide (requestScope.Matches current)) &&
      (!hgm.updateCache || decide (requestScope.Matches (hgm.guardedScope backendHostgroup)))

/-- Inputs of result processing for one completed query. -/
structure ResultProcessContext where
  backend : Backend
  text : Option (List Char)
  isWrite : Bool
  queryCanPreserveSessionLsn : Bool
  backendHg : Int
  config : HgConfigSnapshot
  lsnConsistencyMode : Bool
  splitObservationEnabled : Bool

/-- Whether the result came from the writer hostgroup. -/
def ResultProcessContext.fromWriter (ctx : ResultProcessContext) : Bool :=
  backendIsWriterHostgroup ctx.config.isPolardbHostgroup ctx.backendHg ctx.config.writerHostgroup

namespace Session

/-- Advance the transaction-split state from an RFQ of the writer. -/
def observeTransactionSplit
    (s : Session) (backend : Backend) (primaryLsn : Nat) (splitEnabled : Bool) : Session :=
  let s' : Session :=
    { s with
      txnHasNoWriteXids :=
        rfqIsPrewriteSplitCandidate backend.txnStatus backend.txnXids backend.txnSplittable
          backend.txnWalPending }
  if !splitEnabled then s'.teardownTransactionReaderState
  else if backend.txnStatus = 'I' then s'.teardownTransactionReaderState
  else
    { s' with
      transactionSplit :=
        s.transactionSplit.observePrimaryRfq
          { status := backend.txnStatus
            xids := backend.txnXids
            splittable := backend.txnSplittable
            walPending := backend.txnWalPending
            primaryLsn := primaryLsn
            splitEnabled := splitEnabled } }

def requestScopeMatchesCurrentWriter (s : Session) (ctx : ResultProcessContext) : Bool :=
  ctx.config.isPolardbHostgroup && decide (0 ≤ ctx.config.writerHostgroup) &&
    decide (s.query.requestWriterScope.Matches ctx.config.writerScope)

def processPositionedRfqLsn (s : Session) (hgm : HgmView) (ctx : ResultProcessContext) :
    Session :=
  let accepted :=
    decide (0 ≤ ctx.backendHg) && ctx.config.isPolardbHostgroup &&
      acceptRfqServerLsn hgm ctx.backendHg ctx.backend.lsn s.query.requestWriterScope
  if !accepted then s
  else
    let s₁ := s.applyRequestScopeToSessionLsn
    if s.query.keepSessionLsn && ctx.fromWriter && ctx.queryCanPreserveSessionLsn then
      s₁.observeTransactionSplit ctx.backend 0 ctx.splitObservationEnabled
    else
      let lsn := ctx.backend.lsn
      let s₂ : Session :=
        { s₁ with
          consistency :=
            { s₁.consistency with
              observedLsn :=
                if s₁.consistency.observedLsn < lsn then lsn else s₁.consistency.observedLsn } }
      let s₃ : Session :=
        if ctx.fromWriter then
          { s₂ with
            consistency := { s₂.consistency with writeUnknown := false, observedUnknown := false }
            routeState := { s₂.routeState with rfqDegradedRouteWarningSent := false }
          }.observeTransactionSplit ctx.backend lsn ctx.splitObservationEnabled
        else s₂
      if ctx.isWrite then
        { s₃ with
          consistency :=
            { s₃.consistency with
              writeLsn :=
                if s₃.consistency.writeLsn < lsn then lsn else s₃.consistency.writeLsn } }
      else s₃

def processZeroRfqLsn (s : Session) (ctx : ResultProcessContext) : Session :=
  if !s.requestScopeMatchesCurrentWriter ctx then s
  else
    let s₁ := s.applyRequestScopeToSessionLsn
    if s.query.keepSessionLsn && ctx.fromWriter then
      s₁.observeTransactionSplit ctx.backend 0 ctx.splitObservationEnabled
    else if ctx.isWrite && !zeroLsnPayloadCanSkipWaitTarget ctx.text then
      if ctx.fromWriter && ctx.lsnConsistencyMode then
        let s₂ := s₁.observeTransactionSplit ctx.backend 0 ctx.splitObservationEnabled
        { s₂ with consistency := { s₂.consistency with writeUnknown := true } }
      else s₁
    else if ctx.fromWriter then
      s₁.observeTransactionSplit ctx.backend 0 ctx.splitObservationEnabled
    else s₁

/-- An RFQ without a position payload. -/
def processMissingRfqLsn (s : Session) (ctx : ResultProcessContext) : Session :=
  if !s.requestScopeMatchesCurrentWriter ctx then s
  else
    let s₁ := s.applyRequestScopeToSessionLsn
    if s.query.keepSessionLsn && ctx.fromWriter then
      s₁.observeTransactionSplit ctx.backend 0 ctx.splitObservationEnabled
    else
      let s₂ :=
        if ctx.fromWriter then
          s₁.observeTransactionSplit ctx.backend 0 ctx.splitObservationEnabled
        else s₁
      if ctx.isWrite && ctx.fromWriter && ctx.lsnConsistencyMode then
        { s₂ with consistency := { s₂.consistency with writeUnknown := true } }
      else if !ctx.isWrite && ctx.config.isPolardbHostgroup && ctx.lsnConsistencyMode then
        { s₂ with consistency := { s₂.consistency with observedUnknown := true } }
      else s₂

/-- The context result processing builds for a completed query. -/
def resultContext
    (s : Session) (hgm : HgmView) (backend : Backend) (text : Option (List Char))
    (isWrite queryCanPreserveSessionLsn : Bool) : ResultProcessContext :=
  { backend := backend
    text := text
    isWrite := isWrite
    queryCanPreserveSessionLsn := queryCanPreserveSessionLsn
    backendHg := backend.hostgroup.getD (-1)
    config :=
      match backend.hostgroup with
      | none => {}
      | some hg => hgm.cachedConfig hg
    lsnConsistencyMode :=
      usesLsnWait (consistencyModeOrOff s.query.effectiveConsistencyMode)
    splitObservationEnabled := s.query.txnSplitEnabled }

/-- Process a completed query with an attribution decided by the caller. -/
def processResultWithAttribution
    (s : Session) (hgm : HgmView) (backend : Option Backend) (text : Option (List Char))
    (isWrite queryCanPreserveSessionLsn : Bool) : Session :=
  match backend with
  | none => s
  | some b =>
      if !s.config.isPolardbEnabled then s
      else if !s.query.profileEnabled then s
      else
        let ctx := s.resultContext hgm b text isWrite queryCanPreserveSessionLsn
        match rfqLsnPayloadState b.payloadPresent b.lsn with
        | .positioned => s.processPositionedRfqLsn hgm ctx
        | .zero => s.processZeroRfqLsn ctx
        | .missing => s.processMissingRfqLsn ctx

/-- Process a completed query. -/
def processResult
    (s : Session) (hgm : HgmView) (backend : Option Backend) (text : Option (List Char))
    (command : QueryCommand) : Session :=
  s.processResultWithAttribution hgm backend text (shouldAdvanceSessionWriteLsn text command)
    (queryCommandCanPreserveSessionLsn command)

end Session

/-! ## What the response path does -/

/-- Merge an accepted position: positions only grow, and a position of the
writer settles what was unknown. -/
def SessionConsistency.merge (c : SessionConsistency) (lsn : Nat) (fromWriter isWrite : Bool) :
    SessionConsistency :=
  { c with
    writeLsn := if isWrite then max c.writeLsn lsn else c.writeLsn
    observedLsn := max c.observedLsn lsn
    writeUnknown := c.writeUnknown && !fromWriter
    observedUnknown := c.observedUnknown && !fromWriter }

namespace Session

variable (s : Session)

@[simp]
theorem observeTransactionSplit_query (b : Backend) (lsn : Nat) (enabled : Bool) :
    (s.observeTransactionSplit b lsn enabled).query = s.query := by
  unfold observeTransactionSplit
  simp only
  split_ifs <;> rfl

@[simp]
theorem observeTransactionSplit_extendedRfq (b : Backend) (lsn : Nat) (enabled : Bool) :
    (s.observeTransactionSplit b lsn enabled).extendedRfq = s.extendedRfq := by
  unfold observeTransactionSplit
  simp only
  split_ifs <;> rfl

@[simp]
theorem observeTransactionSplit_consistency (b : Backend) (lsn : Nat) (enabled : Bool) :
    (s.observeTransactionSplit b lsn enabled).consistency = s.consistency := by
  unfold observeTransactionSplit
  simp only
  split_ifs <;> rfl

/-- An RFQ is accepted for the request. -/
def accepts (hgm : HgmView) (ctx : ResultProcessContext) : Bool :=
  decide (0 ≤ ctx.backendHg) && ctx.config.isPolardbHostgroup &&
    acceptRfqServerLsn hgm ctx.backendHg ctx.backend.lsn s.query.requestWriterScope

theorem processPositioned_consistency (hgm : HgmView) (ctx : ResultProcessContext) :
    (s.processPositionedRfqLsn hgm ctx).consistency =
      if !s.accepts hgm ctx then s.consistency
      else if s.query.keepSessionLsn && ctx.fromWriter && ctx.queryCanPreserveSessionLsn then
        s.consistency.rebound s.query.requestWriterScope
      else
        (s.consistency.rebound s.query.requestWriterScope).merge ctx.backend.lsn ctx.fromWriter
          ctx.isWrite := by
  unfold processPositionedRfqLsn
  simp only
  change (if (!s.accepts hgm ctx) = true then s else _).consistency = _
  by_cases haccept : s.accepts hgm ctx = true
  · by_cases hkeep :
        (s.query.keepSessionLsn && ctx.fromWriter && ctx.queryCanPreserveSessionLsn) = true
    · simp [haccept, hkeep, applyRequestScope_consistency]
    · have hnot : ¬ (!s.accepts hgm ctx) = true := by simpa using haccept
      rw [if_neg hnot, if_neg hkeep, if_neg hnot, if_neg hkeep]
      cases hwriter : ctx.fromWriter <;> cases hwrite : ctx.isWrite <;>
        simp [SessionConsistency.merge, applyRequestScope_consistency, max_def_lt]
  · simp [haccept]

theorem processZero_consistency (ctx : ResultProcessContext) :
    (s.processZeroRfqLsn ctx).consistency =
      if !s.requestScopeMatchesCurrentWriter ctx then s.consistency
      else if !(s.query.keepSessionLsn && ctx.fromWriter) && ctx.isWrite &&
          !zeroLsnPayloadCanSkipWaitTarget ctx.text && ctx.fromWriter && ctx.lsnConsistencyMode then
        { s.consistency.rebound s.query.requestWriterScope with writeUnknown := true }
      else s.consistency.rebound s.query.requestWriterScope := by
  unfold processZeroRfqLsn
  simp only
  split_ifs <;> simp_all [applyRequestScope_consistency]

theorem processMissing_consistency (ctx : ResultProcessContext) :
    (s.processMissingRfqLsn ctx).consistency =
      if !s.requestScopeMatchesCurrentWriter ctx then s.consistency
      else if s.query.keepSessionLsn && ctx.fromWriter then
        s.consistency.rebound s.query.requestWriterScope
      else if ctx.isWrite && ctx.fromWriter && ctx.lsnConsistencyMode then
        { s.consistency.rebound s.query.requestWriterScope with writeUnknown := true }
      else if !ctx.isWrite && ctx.config.isPolardbHostgroup && ctx.lsnConsistencyMode then
        { s.consistency.rebound s.query.requestWriterScope with observedUnknown := true }
      else s.consistency.rebound s.query.requestWriterScope := by
  unfold processMissingRfqLsn
  simp only
  split_ifs <;> simp_all [applyRequestScope_consistency]

/-- Processing a result changes neither the query state nor the deferred record. -/
theorem processResultWithAttribution_waitView
    (hgm : HgmView) (backend : Option Backend) (text : Option (List Char))
    (isWrite canPreserve : Bool) :
    (s.processResultWithAttribution hgm backend text isWrite canPreserve).waitView =
      s.waitView := by
  unfold processResultWithAttribution
  cases backend with
  | none =>
      rfl
  | some b =>
      simp only
      split_ifs
      · rfl
      · rfl
      split
      · unfold processPositionedRfqLsn
        simp only
        split_ifs <;> simp [waitView]
      · unfold processZeroRfqLsn
        simp only
        split_ifs <;> simp [waitView]
      · unfold processMissingRfqLsn
        simp only
        split_ifs <;> simp [waitView]

end Session

end PolarProxy
