import PolarProxy.Plan
import PolarProxy.Text

/-!
# Session state and the request path

Before a query is routed the session records what the decision depends on: the
writer scope the request runs under, the policy in force, and whether the
session crossed a topology activation.  The recorded inputs are then collected
into the context of the planner.

**Operations.**  `rebindSessionLsnScope` binds the session positions to a writer
scope and drops positions of another scope; `activateSessionForRequest` marks
the write position unknown when a session crossed an activation;
`observeRouteInputs` does both for an automatic route and
`captureRequestWriterScope` for a manual one; `polardbCollect` fills the planner
context.

**Results.** `rebind_consistency`, `observe_consistency`, `collect_hgSeparated`.
-/

namespace PolarProxy

/-- Whether a consistency wait is in flight. -/
inductive WaitStage
  | idle
  | waiting
  deriving DecidableEq

structure WaitState where
  spec : WaitSpec := {}
  waitStage : WaitStage := .idle
  waitStartedAtUs : Nat := 0
  wrapperFinalized : Bool := false
  timeoutError : Bool := false
  fallbackWriterHg : Int := -1
  deriving DecidableEq

/-- Routing, wait and response-policy state of one query. -/
structure QueryState where
  requestWriterScope : WriterScope := {}
  readerPlan : ReaderPlan := {}
  readerWaitSpec : WaitSpec := {}
  wait : WaitState := {}
  effectiveConsistencyMode : Int := 0
  profileEnabled : Bool := false
  txnSplitEnabled : Bool := false
  backendIsolationStatusNeeded : Bool := false
  keepSessionLsn : Bool := false
  waitBypassTarget : Nat := 0
  deriving DecidableEq

namespace QueryState

/-- Forget the reader selected for the query. -/
def resetReaderPlan (q : QueryState) : QueryState :=
  { q with readerPlan := {}, readerWaitSpec := {} }

/-- Forget the wait of the query. -/
def resetWait (q : QueryState) : QueryState :=
  { q with wait := {} }

/-- Start a wait for a reader that is behind its target. -/
def beginWait (q : QueryState) (spec : WaitSpec) (startedAtUs : Nat) (fallbackWriterHg : Int) :
    QueryState :=
  { q with
    waitBypassTarget := 0
    wait :=
      { spec := spec
        waitStage := .waiting
        waitStartedAtUs := startedAtUs
        fallbackWriterHg := fallbackWriterHg } }

/-- The selected reader already reached the target. -/
def markWaitSatisfied (q : QueryState) (target : Nat) : QueryState :=
  { q.resetWait with waitBypassTarget := target }

/-- Every field of a query state is per request. -/
def resetForNewQuery (_ : QueryState) : QueryState :=
  {}

/-- Clear one completed extended-protocol step and keep the route and the
response policy selected for the pending `Execute`. -/
def resetBetweenExtendedMessages (q : QueryState) : QueryState :=
  { q.resetForNewQuery with
    requestWriterScope := q.requestWriterScope
    readerPlan := q.readerPlan
    readerWaitSpec := q.readerWaitSpec
    waitBypassTarget := q.waitBypassTarget
    effectiveConsistencyMode := q.effectiveConsistencyMode
    profileEnabled := q.profileEnabled
    txnSplitEnabled := q.txnSplitEnabled
    backendIsolationStatusNeeded := q.backendIsolationStatusNeeded }

end QueryState

/-- Values copied from one backend `ReadyForQuery`. -/
structure RfqEvidence where
  writerScope : WriterScope := {}
  lsn : Nat := 0
  backendHostgroup : Int := -1
  valid : Bool := false
  payloadPresent : Bool := false
  keepSessionLsnCandidate : Bool := false
  deriving DecidableEq

/-- Result attribution retained until the `ReadyForQuery` that positions it. -/
structure ExtendedRfqState where
  writerScope : WriterScope := {}
  rfqEvidence : RfqEvidence := {}
  confirmedReadTarget : Nat := 0
  effectiveConsistencyMode : Int := 0
  pending : Bool := false
  publicationPending : Bool := false
  sawWrite : Bool := false
  canPreserveSessionLsn : Bool := true
  profileEnabled : Bool := false
  scopeConsistent : Bool := true
  deriving DecidableEq

/-- Session configuration.  A generation is `none` while it is not registered. -/
structure SessionConfig where
  isPolardbEnabled : Bool := false
  activationGeneration : Option Nat := none
  sessionConsistencyMode : Int := -1
  txnReaderWaitDefaultReadCommitted : Bool := true
  deriving DecidableEq

/-- Route taken after a transaction reader failed. -/
inductive ReaderFailureRoute
  | none
  | forceWriter
  | skipReader
  deriving DecidableEq

/-- Transaction-scoped state left by a failed transaction reader. -/
structure TxnReaderFailureState where
  route : ReaderFailureRoute := .none
  writerHg : Int := -1
  deriving DecidableEq

/-- The writer hostgroup the rest of the transaction is kept on, or `-1`. -/
def TxnReaderFailureState.forcedWriterHg (f : TxnReaderFailureState) : Int :=
  if f.route = .forceWriter ∧ 0 ≤ f.writerHg then f.writerHg else -1

/-- Transaction properties that make pre-write reader waits unsafe. -/
structure TxnReaderWaitSafetyState where
  nonReadCommitted : Bool := false
  localStateChanged : Bool := false
  deriving DecidableEq

structure SessionRouteState where
  clientRfqLsnRequested : Bool := false
  rfqDegradedRouteWarningSent : Bool := false
  deriving DecidableEq

/-- The session state the consistency code reads and writes. -/
structure Session where
  config : SessionConfig := {}
  consistency : SessionConsistency := {}
  txnHasNoWriteXids : Bool := false
  transactionSplit : TransactionSplitState := {}
  txnReaderActive : Bool := false
  txnReaderFailure : TxnReaderFailureState := {}
  txnWaitSafety : TxnReaderWaitSafetyState := {}
  query : QueryState := {}
  extendedRfq : ExtendedRfqState := {}
  routeState : SessionRouteState := {}
  deriving DecidableEq

/-- Global variables of the worker thread. -/
structure ThreadVars where
  profileOff : Bool := false
  consistencyMode : Int := 1
  readTarget : Int := 1
  actionReadFallback : Int := 0
  actionMissingLsn : Int := 0
  actionLsnTimeout : Int := 1
  actionReplicaLoss : Int := 0
  actionReplicaError : Int := 0
  lsnWaitTimeoutMs : Int := 1000
  deriving DecidableEq

/-- The client request being routed.  The text is the raw query buffer. -/
structure Request where
  text : Option (List Char) := none
  command : QueryCommand := .unknown
  isExtendedProtocol : Bool := false
  inTransaction : Bool := false
  replicaEligible : Int := 1
  forcePrimaryHint : Bool := false
  deriving DecidableEq

def effectiveConsistencyModeForSession
    (vars : ThreadVars) (config : SessionConfig) (policy : HgPolicySnapshot) : Int :=
  if vars.profileOff then 0
  else resolveConsistencyMode config.sessionConsistencyMode policy.consistencyMode
    vars.consistencyMode

namespace Session

def teardownTransactionReaderState (s : Session) : Session :=
  { s with
    txnReaderActive := false
    transactionSplit := {}
    txnReaderFailure := {}
    txnWaitSafety := {} }

/-- Pair the response policy with the request that selected it. -/
def snapshotRequestPolicy (s : Session) (vars : ThreadVars) (hgConfig : HgConfigSnapshot) :
    Session :=
  if !hgConfig.isPolardbHostgroup then s
  else
    let mode := effectiveConsistencyModeForSession vars s.config hgConfig.policy
    let s' : Session :=
      { s with
        query :=
          { s.query with
            profileEnabled := !vars.profileOff
            effectiveConsistencyMode := mode
            txnSplitEnabled :=
              !vars.profileOff && usesLsnWait (consistencyFromInt mode) &&
                hgConfig.policy.txnSplitEnabled } }
    if vars.profileOff &&
        (s.txnHasNoWriteXids || s.transactionSplit.active ||
          s.transactionSplit.hasBackendEvidence || s.txnReaderActive ||
            s.txnReaderFailure.route != .none || s.txnWaitSafety.nonReadCommitted ||
              s.txnWaitSafety.localStateChanged) then
      { s' with txnHasNoWriteXids := false }.teardownTransactionReaderState
    else s'

/-- Bind the session positions to a writer scope, discarding stale positions. -/
def rebindSessionLsnScope (s : Session) (writerScope : WriterScope) : Session :=
  if ¬ writerScope.Valid then s
  else
    let hadLsnState := s.consistency.hasLsnState
    let scopeAttached := decide s.consistency.writerScope.Valid
    let scopeMismatch := scopeAttached && !decide (s.consistency.writerScope.Matches writerScope)
    let unscopedState := !scopeAttached && hadLsnState
    let s' : Session :=
      if scopeMismatch || unscopedState then
        let s₁ : Session :=
          { s with
            txnHasNoWriteXids := false
            consistency :=
              if hadLsnState then s.consistency.resetLsnState else s.consistency
            routeState :=
              if hadLsnState then { s.routeState with rfqDegradedRouteWarningSent := false }
              else s.routeState }
        if s.transactionSplit.active || s.transactionSplit.hasBackendEvidence ||
            s.txnReaderFailure.route != .none then
          s₁.teardownTransactionReaderState
        else s₁
      else s
    { s' with consistency := { s'.consistency with writerScope := writerScope } }

/-- Rebind to the request scope unless the session already has it. -/
def applyRequestScopeToSessionLsn (s : Session) : Session :=
  if ¬ s.query.requestWriterScope.Valid ∨
      s.consistency.writerScope.Matches s.query.requestWriterScope then s
  else s.rebindSessionLsnScope s.query.requestWriterScope

/-- Whether the session lived before the current topology activation. -/
def crossedActivation (s : Session) (workerGeneration : Option Nat) : Bool :=
  match s.config.activationGeneration, workerGeneration with
  | some session, some worker => session != worker
  | _, _ => true

/-- Enable the session for PolarDB; after a crossed activation its write
position is unknown. -/
def activateSessionForRequest (s : Session) (workerGeneration : Option Nat) : Session :=
  if s.config.isPolardbEnabled && !s.crossedActivation workerGeneration then s
  else
    { s with
      config :=
        { s.config with
          isPolardbEnabled := true
          activationGeneration := workerGeneration.orElse fun _ => s.config.activationGeneration }
      consistency :=
        if s.crossedActivation workerGeneration then { s.consistency with writeUnknown := true }
        else s.consistency }

def captureRequestWriterScope
    (s : Session) (vars : ThreadVars) (workerGeneration : Option Nat)
    (scopeHg : Int) (hgConfig : HgConfigSnapshot) : Session :=
  let s₀ : Session := { s with query := { s.query with requestWriterScope := {} } }
  if scopeHg < 0 ∨ ¬ hgConfig.isPolardbHostgroup ∨ hgConfig.writerHostgroup < 0 ∨
      (scopeHg ≠ hgConfig.writerHostgroup ∧ scopeHg ≠ hgConfig.readerHostgroup) then s₀
  else
    let s₁ : Session :=
      { s₀ with query := { s₀.query with requestWriterScope := hgConfig.writerScope } }
    ((s₁.snapshotRequestPolicy vars hgConfig).rebindSessionLsnScope
      hgConfig.writerScope).activateSessionForRequest workerGeneration

end Session

/-- The writer scope of a hostgroup; a hostgroup without a writer is its own. -/
def HgConfigSnapshot.routeScope (hgConfig : HgConfigSnapshot) (currentHg : Int) : WriterScope :=
  { hg := if hgConfig.writerHostgroup < 0 then currentHg else hgConfig.writerHostgroup
    epoch := hgConfig.writerEpoch }

namespace Session

/-- Latch the statement forms that make pre-write reader waits unsafe. -/
def observeTxnWaitSafety (s : Session) (req : Request) (text : List Char) : Session :=
  let normalized := normalizeQueryWords text
  let nonReadCommitted := normalizedMentionsNonReadCommitted normalized
  match req.command with
  | .begin_ =>
      { s with
        txnWaitSafety :=
          { s.txnWaitSafety with
            nonReadCommitted := s.txnWaitSafety.nonReadCommitted || nonReadCommitted } }
  | .set_ =>
      { s with
        config :=
          { s.config with
            txnReaderWaitDefaultReadCommitted :=
              if normalizedSetsSessionIsolationDefault normalized then
                normalizedMentions normalized "readcommitted" && !nonReadCommitted
              else s.config.txnReaderWaitDefaultReadCommitted }
        txnWaitSafety :=
          { nonReadCommitted := s.txnWaitSafety.nonReadCommitted || nonReadCommitted
            localStateChanged :=
              s.txnWaitSafety.localStateChanged ||
                (req.inTransaction && !normalizedSetsProxysqlPolardbVariable normalized) } }
  | _ => s

/-- Bind the session to the writer scope of the request and activate it. -/
def bindRequest
    (s : Session) (vars : ThreadVars) (workerGeneration : Option Nat)
    (writerScope : WriterScope) (hgConfig : HgConfigSnapshot) : Session :=
  let s₁ := s.snapshotRequestPolicy vars hgConfig
  let s₂ : Session :=
    if writerScope.Valid then
      { s₁ with query := { s₁.query with requestWriterScope := writerScope } }
    else s₁
  let s₃ := if s₂.query.requestWriterScope.Valid then s₂.rebindSessionLsnScope writerScope else s₂
  s₃.activateSessionForRequest workerGeneration

/-- Record the durable observations a route decision depends on. -/
def observeRouteInputs
    (s : Session) (vars : ThreadVars) (workerGeneration : Option Nat)
    (currentHg : Int) (hgConfig : HgConfigSnapshot) (req : Request) : Session :=
  if !hgConfig.isPolardbHostgroup then s
  else
    let s₁ := s.bindRequest vars workerGeneration (hgConfig.routeScope currentHg) hgConfig
    let track := s₁.query.txnSplitEnabled && decide (0 ≤ hgConfig.readerHostgroup)
    let s₂ : Session := { s₁ with query := { s₁.query with backendIsolationStatusNeeded := track } }
    match track, req.text with
    | true, some text => s₂.observeTxnWaitSafety req text
    | _, _ => s₂

end Session

/-- Whether a reader is still possible when the query text is classified. -/
def mayUseReader
    (lsnMode : Bool) (vars : ThreadVars) (req : Request) (txnSplitEnabled : Bool) : Bool :=
  lsnMode && decide (req.replicaEligible = 1) && decide (vars.readTarget = 1) &&
    !req.forcePrimaryHint && (!req.inTransaction || txnSplitEnabled)

structure QueryShape where
  isMultiStatement : Bool := false
  isTxnSplitSafeRead : Bool := false
  isTxnSplitLockingRead : Bool := false
  deriving DecidableEq

/-- Classify the query text, if a reader is still possible. -/
def collectShape (mayUse : Bool) (req : Request) (txnSplitEnabled : Bool) : QueryShape :=
  match mayUse, req.text with
  | true, some text =>
      let isTopLevelSelect := decide (req.command = .select)
      let safeSelect := isTxnSplitSafeSelect isTopLevelSelect (cString text)
      if req.inTransaction && txnSplitEnabled then
        { isMultiStatement := queryHasMultipleStatements text
          isTxnSplitSafeRead := safeSelect
          isTxnSplitLockingRead := isTopLevelSelect && !safeSelect }
      else if !req.inTransaction && isTopLevelSelect then
        { isMultiStatement := queryHasMultipleStatements text
          isTxnSplitLockingRead := isLockingSelectQuery (cString text) }
      else { isMultiStatement := queryHasMultipleStatements text }
  | _, _ => {}

/-- Collect every routing input. -/
def polardbCollect
    (s : Session) (vars : ThreadVars) (currentHg : Int)
    (hgConfig : HgConfigSnapshot) (req : Request) : RouteCtx :=
  if !hgConfig.isPolardbHostgroup then {}
  else
    let lsnMode := usesLsnWait (consistencyModeOrOff s.query.effectiveConsistencyMode)
    let shape :=
      collectShape (mayUseReader lsnMode vars req s.query.txnSplitEnabled) req
        s.query.txnSplitEnabled
    { isPolarHg := true
      writerScope := hgConfig.routeScope currentHg
      readerHg := hgConfig.readerHostgroup
      effectiveConsistencyMode := s.query.effectiveConsistencyMode
      readTarget := vars.readTarget
      readFallbackAction := vars.actionReadFallback
      waitTimeoutMs := resolveWaitTimeoutMs hgConfig.policy.lsnWaitTimeoutMs vars.lsnWaitTimeoutMs
      lsnWaitTimeoutAction := vars.actionLsnTimeout
      missingLsnAction := vars.actionMissingLsn
      replicaLossAction := vars.actionReplicaLoss
      replicaErrorAction := vars.actionReplicaError
      maxLagBytes := hgConfig.policy.maxLagBytes
      session := s.consistency
      transactionSplit := s.transactionSplit
      txnSplitEnabled := s.query.txnSplitEnabled
      txnWriterHg := s.txnReaderFailure.forcedWriterHg
      txnForceWriterAfterReaderFailure := decide (0 ≤ s.txnReaderFailure.forcedWriterHg)
      replicaEligible := decide (req.replicaEligible = 1)
      isExtendedProtocol := req.isExtendedProtocol
      inTransaction := req.inTransaction
      forcePrimaryHint := req.forcePrimaryHint
      isMultiStatement := shape.isMultiStatement
      isTxnSplitSafeRead := shape.isTxnSplitSafeRead
      isTxnSplitLockingRead := shape.isTxnSplitLockingRead
      txnReaderWaitIsolationReadCommitted :=
        !s.txnWaitSafety.nonReadCommitted && s.config.txnReaderWaitDefaultReadCommitted
      txnReaderWaitLocalStateClean := !s.txnWaitSafety.localStateChanged }

/-- Observe the request and collect its routing inputs. -/
def observeAndCollect
    (s : Session) (vars : ThreadVars) (workerGeneration : Option Nat)
    (currentHg : Int) (hgConfig : HgConfigSnapshot) (req : Request) : Session × RouteCtx :=
  if !hgConfig.isPolardbHostgroup then (s, {})
  else
    let s₁ : Session :=
      { s with query := { s.query.resetReaderPlan with requestWriterScope := {} } }
    let s₂ := s₁.observeRouteInputs vars workerGeneration currentHg hgConfig req
    if vars.profileOff then (s₂, { isPolarHg := true })
    else (s₂, polardbCollect s₂ vars currentHg hgConfig req)

/-! ## What the request path does to the positions -/

/-- The positions bound to a writer scope: another scope starts from nothing. -/
def SessionConsistency.rebound (c : SessionConsistency) (scope : WriterScope) :
    SessionConsistency :=
  if ¬ scope.Valid ∨ c.writerScope = scope then c else { writerScope := scope }

/-- The positions after an activation: a crossed one leaves the write position
unknown. -/
def SessionConsistency.activated (c : SessionConsistency) (crossed : Bool) : SessionConsistency :=
  if crossed then { c with writeUnknown := true } else c

/-- Positions without stored state are determined by their scope. -/
theorem SessionConsistency.eq_of_not_hasLsnState
    {c : SessionConsistency}
    (h : c.hasLsnState = false)
    (scope : WriterScope) :
    { c with writerScope := scope } = ({ writerScope := scope } : SessionConsistency) := by
  cases c
  simp_all [SessionConsistency.hasLsnState]

namespace Session

variable (s : Session)

theorem rebind_consistency (scope : WriterScope) :
    (s.rebindSessionLsnScope scope).consistency = s.consistency.rebound scope := by
  unfold rebindSessionLsnScope SessionConsistency.rebound
  by_cases hvalid : scope.Valid
  · by_cases hsame : s.consistency.writerScope = scope
    · have hmatch : s.consistency.writerScope.Matches scope :=
        WriterScope.matches_iff.mpr ⟨hsame ▸ hvalid, hsame⟩
      simp [hvalid, hsame, hvalid.matches_self]
      rw [← hsame]
    · have hmismatch : ¬ s.consistency.writerScope.Matches scope := fun h => hsame h.eq
      rw [if_neg (not_not.mpr hvalid), if_neg (by tauto)]
      cases hstate : s.consistency.hasLsnState with
      | true =>
          simp only [hmismatch, decide_false, Bool.not_false, Bool.and_true, if_true]
          split_ifs <;> simp_all [SessionConsistency.resetLsnState, teardownTransactionReaderState]
      | false =>
          simp only [hmismatch, decide_false, Bool.not_false, Bool.and_true, Bool.and_false,
            Bool.or_false, Bool.false_eq_true, if_false]
          split_ifs <;> exact SessionConsistency.eq_of_not_hasLsnState hstate scope
  · rw [if_pos hvalid, if_pos (Or.inl hvalid)]

theorem applyRequestScope_consistency :
    s.applyRequestScopeToSessionLsn.consistency =
      s.consistency.rebound s.query.requestWriterScope := by
  unfold applyRequestScopeToSessionLsn
  split
  · rename_i h
    have hsame : ¬ s.query.requestWriterScope.Valid ∨
        s.consistency.writerScope = s.query.requestWriterScope :=
      h.imp_right WriterScope.Matches.eq
    rw [SessionConsistency.rebound, if_pos hsame]
  · exact s.rebind_consistency _

theorem activate_consistency (workerGeneration : Option Nat) :
    (s.activateSessionForRequest workerGeneration).consistency =
      s.consistency.activated (s.crossedActivation workerGeneration) := by
  unfold activateSessionForRequest SessionConsistency.activated
  split
  · rename_i h
    simp only [Bool.and_eq_true, Bool.not_eq_true'] at h
    simp [h.2]
  · rfl

/-! ## What the request path leaves alone -/

/-- The part of a session that belongs to the wait in flight and to results
whose `ReadyForQuery` has not arrived. -/
def waitView : WaitState × Nat × ExtendedRfqState :=
  (s.query.wait, s.query.waitBypassTarget, s.extendedRfq)

@[simp]
theorem rebind_query (scope : WriterScope) :
    (s.rebindSessionLsnScope scope).query = s.query := by
  unfold rebindSessionLsnScope
  simp only
  split_ifs <;> rfl

@[simp]
theorem rebind_config (scope : WriterScope) :
    (s.rebindSessionLsnScope scope).config = s.config := by
  unfold rebindSessionLsnScope
  simp only
  split_ifs <;> rfl

@[simp]
theorem rebind_waitView (scope : WriterScope) :
    (s.rebindSessionLsnScope scope).waitView = s.waitView := by
  unfold rebindSessionLsnScope
  simp only
  split_ifs <;> rfl

@[simp]
theorem applyRequestScope_query : s.applyRequestScopeToSessionLsn.query = s.query := by
  unfold applyRequestScopeToSessionLsn
  split
  · rfl
  · exact s.rebind_query _

@[simp]
theorem applyRequestScope_waitView : s.applyRequestScopeToSessionLsn.waitView = s.waitView := by
  unfold applyRequestScopeToSessionLsn
  split
  · rfl
  · exact s.rebind_waitView _

@[simp]
theorem applyRequestScope_extendedRfq :
    s.applyRequestScopeToSessionLsn.extendedRfq = s.extendedRfq :=
  congrArg (fun v => v.2.2) s.applyRequestScope_waitView

@[simp]
theorem snapshotRequestPolicy_consistency (vars : ThreadVars) (hgConfig : HgConfigSnapshot) :
    (s.snapshotRequestPolicy vars hgConfig).consistency = s.consistency := by
  unfold snapshotRequestPolicy
  simp only
  split_ifs <;> rfl

@[simp]
theorem snapshotRequestPolicy_config (vars : ThreadVars) (hgConfig : HgConfigSnapshot) :
    (s.snapshotRequestPolicy vars hgConfig).config = s.config := by
  unfold snapshotRequestPolicy
  simp only
  split_ifs <;> rfl

@[simp]
theorem snapshotRequestPolicy_waitView (vars : ThreadVars) (hgConfig : HgConfigSnapshot) :
    (s.snapshotRequestPolicy vars hgConfig).waitView = s.waitView := by
  unfold snapshotRequestPolicy
  simp only
  split_ifs <;> rfl

@[simp]
theorem activate_query (workerGeneration : Option Nat) :
    (s.activateSessionForRequest workerGeneration).query = s.query := by
  unfold activateSessionForRequest
  split <;> rfl

@[simp]
theorem activate_waitView (workerGeneration : Option Nat) :
    (s.activateSessionForRequest workerGeneration).waitView = s.waitView := by
  unfold activateSessionForRequest
  split <;> rfl

@[simp]
theorem observeTxnWaitSafety_consistency (req : Request) (text : List Char) :
    (s.observeTxnWaitSafety req text).consistency = s.consistency := by
  unfold observeTxnWaitSafety
  simp only
  split <;> rfl

@[simp]
theorem observeTxnWaitSafety_query (req : Request) (text : List Char) :
    (s.observeTxnWaitSafety req text).query = s.query := by
  unfold observeTxnWaitSafety
  simp only
  split <;> rfl

@[simp]
theorem observeTxnWaitSafety_waitView (req : Request) (text : List Char) :
    (s.observeTxnWaitSafety req text).waitView = s.waitView := by
  unfold observeTxnWaitSafety
  simp only
  split <;> rfl

theorem crossedActivation_eq
    {s t : Session}
    (h : t.config = s.config)
    (workerGeneration : Option Nat) :
    t.crossedActivation workerGeneration = s.crossedActivation workerGeneration := by
  unfold crossedActivation
  rw [h]

theorem bindRequest_consistency
    (vars : ThreadVars) (workerGeneration : Option Nat) (scope : WriterScope)
    (hgConfig : HgConfigSnapshot) :
    (s.bindRequest vars workerGeneration scope hgConfig).consistency =
      (s.consistency.rebound scope).activated (s.crossedActivation workerGeneration) := by
  unfold bindRequest
  simp only [activate_consistency]
  by_cases hvalid : scope.Valid
  · simp only [hvalid, if_true, rebind_consistency, snapshotRequestPolicy_consistency]
    rw [crossedActivation_eq (s := s) (by simp)]
  · have hsame : s.consistency.rebound scope = s.consistency := by
      rw [SessionConsistency.rebound, if_pos (Or.inl hvalid)]
    rw [if_neg hvalid, hsame]
    split
    · rw [rebind_consistency, snapshotRequestPolicy_consistency, hsame,
        crossedActivation_eq (s := s) (by simp)]
    · rw [snapshotRequestPolicy_consistency, crossedActivation_eq (s := s) (by simp)]

@[simp]
theorem bindRequest_waitView
    (vars : ThreadVars) (workerGeneration : Option Nat) (scope : WriterScope)
    (hgConfig : HgConfigSnapshot) :
    (s.bindRequest vars workerGeneration scope hgConfig).waitView = s.waitView := by
  have hpolicy := s.snapshotRequestPolicy_waitView vars hgConfig
  unfold bindRequest
  simp only [activate_waitView]
  split_ifs
  · exact (rebind_waitView _ scope).trans hpolicy
  · exact (rebind_waitView _ scope).trans hpolicy
  · exact hpolicy

theorem observeRouteInputs_consistency
    {hgConfig : HgConfigSnapshot}
    (hpolar : hgConfig.isPolardbHostgroup = true)
    (vars : ThreadVars) (workerGeneration : Option Nat) (currentHg : Int) (req : Request) :
    (s.observeRouteInputs vars workerGeneration currentHg hgConfig req).consistency =
      (s.consistency.rebound (hgConfig.routeScope currentHg)).activated
        (s.crossedActivation workerGeneration) := by
  have hbind :=
    s.bindRequest_consistency vars workerGeneration (hgConfig.routeScope currentHg) hgConfig
  unfold observeRouteInputs
  simp only [hpolar, Bool.not_true, Bool.false_eq_true, if_false]
  split
  · rw [observeTxnWaitSafety_consistency]
    exact hbind
  · exact hbind

theorem observeRouteInputs_waitView
    (vars : ThreadVars) (workerGeneration : Option Nat) (currentHg : Int)
    (hgConfig : HgConfigSnapshot) (req : Request) :
    (s.observeRouteInputs vars workerGeneration currentHg hgConfig req).waitView =
      s.waitView := by
  have hbind :=
    s.bindRequest_waitView vars workerGeneration (hgConfig.routeScope currentHg) hgConfig
  unfold observeRouteInputs
  simp only
  split
  · rfl
  · split
    · rw [observeTxnWaitSafety_waitView]
      exact hbind
    · exact hbind

/-- Observation touches the positions only by a rebind to the scope of the
route followed by an activation. -/
theorem observe_consistency
    (vars : ThreadVars) (workerGeneration : Option Nat) (currentHg : Int)
    (hgConfig : HgConfigSnapshot) (req : Request) :
    (observeAndCollect s vars workerGeneration currentHg hgConfig req).1.consistency =
      if hgConfig.isPolardbHostgroup then
        (s.consistency.rebound (hgConfig.routeScope currentHg)).activated
          (s.crossedActivation workerGeneration)
      else s.consistency := by
  unfold observeAndCollect
  cases hpolar : hgConfig.isPolardbHostgroup with
  | false =>
      rfl
  | true =>
      have hinputs := observeRouteInputs_consistency
        { s with query := { s.query.resetReaderPlan with requestWriterScope := {} } } hpolar vars
        workerGeneration currentHg req
      simp only [Bool.not_true, Bool.false_eq_true, if_false]
      split <;> exact hinputs

theorem observe_waitView
    (vars : ThreadVars) (workerGeneration : Option Nat) (currentHg : Int)
    (hgConfig : HgConfigSnapshot) (req : Request) :
    (observeAndCollect s vars workerGeneration currentHg hgConfig req).1.waitView =
      s.waitView := by
  have hinputs := observeRouteInputs_waitView
    { s with query := { s.query.resetReaderPlan with requestWriterScope := {} } }
    vars workerGeneration currentHg hgConfig req
  unfold observeAndCollect
  simp only
  split_ifs
  · rfl
  · exact hinputs
  · exact hinputs

theorem observeRouteInputs_effectiveConsistencyMode
    {hgConfig : HgConfigSnapshot}
    (hpolar : hgConfig.isPolardbHostgroup = true)
    (vars : ThreadVars) (workerGeneration : Option Nat) (currentHg : Int) (req : Request) :
    (s.observeRouteInputs vars workerGeneration currentHg hgConfig
        req).query.effectiveConsistencyMode =
      effectiveConsistencyModeForSession vars s.config hgConfig.policy := by
  have hpolicy : (s.snapshotRequestPolicy vars hgConfig).query.effectiveConsistencyMode =
      effectiveConsistencyModeForSession vars s.config hgConfig.policy := by
    unfold snapshotRequestPolicy
    simp only [hpolar, Bool.not_true, Bool.false_eq_true, if_false]
    split <;> rfl
  have hbind : (s.bindRequest vars workerGeneration (hgConfig.routeScope currentHg)
      hgConfig).query.effectiveConsistencyMode =
        effectiveConsistencyModeForSession vars s.config hgConfig.policy := by
    unfold bindRequest
    simp only [activate_query]
    split_ifs <;> simpa using hpolicy
  unfold observeRouteInputs
  simp only [hpolar, Bool.not_true, Bool.false_eq_true, if_false]
  split
  · rw [observeTxnWaitSafety_query]
    exact hbind
  · exact hbind

theorem capture_consistency
    (vars : ThreadVars) (workerGeneration : Option Nat) (scopeHg : Int)
    (hgConfig : HgConfigSnapshot) :
    (s.captureRequestWriterScope vars workerGeneration scopeHg hgConfig).consistency =
        s.consistency ∨
      (s.captureRequestWriterScope vars workerGeneration scopeHg hgConfig).consistency =
        (s.consistency.rebound hgConfig.writerScope).activated
          (s.crossedActivation workerGeneration) := by
  unfold captureRequestWriterScope
  simp only
  split
  · exact Or.inl rfl
  · right
    rw [activate_consistency, rebind_consistency, snapshotRequestPolicy_consistency,
      crossedActivation_eq (s := s) (by simp)]

theorem capture_waitView
    (vars : ThreadVars) (workerGeneration : Option Nat) (scopeHg : Int)
    (hgConfig : HgConfigSnapshot) :
    (s.captureRequestWriterScope vars workerGeneration scopeHg hgConfig).waitView =
      s.waitView := by
  unfold captureRequestWriterScope
  simp only
  split
  · rfl
  · rw [activate_waitView, rebind_waitView, snapshotRequestPolicy_waitView]
    rfl

end Session

/-! ## Hostgroups of a replication pair -/

/-- The writer hostgroups of a request differ from its reader hostgroup.  The
replication hostgroup table rejects a pair that shares one hostgroup, and a
reader failure records the writer of such a pair. -/
structure HgApart (s : Session) (currentHg : Int) (hgConfig : HgConfigSnapshot) : Prop where
  writer : (hgConfig.routeScope currentHg).hg ≠ hgConfig.readerHostgroup
  failureWriter :
    s.txnReaderFailure.route = .forceWriter →
      s.txnReaderFailure.writerHg ≠ hgConfig.readerHostgroup

theorem forcedWriterHg_of_nonneg
    {f : TxnReaderFailureState}
    (h : 0 ≤ f.forcedWriterHg) :
    f.route = .forceWriter ∧ f.forcedWriterHg = f.writerHg := by
  unfold TxnReaderFailureState.forcedWriterHg at h ⊢
  split
  · rename_i hroute
    exact ⟨hroute.1, rfl⟩
  · rename_i hroute
    rw [if_neg hroute] at h
    omega

/-- Hostgroups kept apart by the configuration are apart for the planner. -/
theorem collect_hgSeparated
    {s : Session} {vars : ThreadVars} {currentHg : Int} {hgConfig : HgConfigSnapshot}
    {req : Request}
    (hpolar : hgConfig.isPolardbHostgroup = true)
    (h : HgApart s currentHg hgConfig) :
    (polardbCollect s vars currentHg hgConfig req).HgSeparated := by
  simp only [polardbCollect, hpolar, Bool.not_true, Bool.false_eq_true, if_false]
  refine ⟨h.writer, fun hforced => ?_⟩
  obtain ⟨hroute, heq⟩ := forcedWriterHg_of_nonneg (of_decide_eq_true hforced)
  simp only
  rw [heq]
  exact h.failureWriter hroute

end PolarProxy
