import PolarProxy.Split

/-!
# The route planner

The planner turns the routing inputs collected for one query into a plan: which
hostgroup serves the query, what it waits for, and what happens when the planned
reader cannot serve it.  It is a priority ladder; the first rung that applies
decides.  The model follows the ladder of the source and names its stages:

* `polardbPlan`: eligibility, reader failure, hint, placement, mode;
* `planEventual`: placement without a wait;
* `planTransaction`: reads inside an explicit transaction;
* `planSplitRead`: a read authorized by the transaction-split state;
* `planConsistencyRead`: reads that wait on the session target.

**Results.** `missingLsn_reader`, `planConsistencyRead_reader`, `planSplitRead_reader`,
`plan_reads_your_writes`.
-/

namespace PolarProxy

/-- Wait payload of one routed query. -/
structure WaitSpec where
  type : WaitType := .none
  target : Nat := 0
  timeoutMs : Nat := defaultWaitTimeoutMs
  mode : WaitMode := .bestEffort
  deriving DecidableEq

/-- Whether the payload carries a wait. -/
def WaitSpec.hasWait (w : WaitSpec) : Bool :=
  w.type != .none

/-- Wait payload for an LSN target; a zero target carries no wait. -/
def WaitSpec.fromLsn (lsn timeoutMs : Nat) (mode : WaitMode) : WaitSpec :=
  if 0 < lsn then { type := .lsn, target := lsn, timeoutMs := timeoutMs, mode := mode }
  else { timeoutMs := timeoutMs, mode := mode }

/-- Wait payload of a consistency mode.  The source also returns a route hint,
which the planner does not read. -/
def buildConsistency
    (mode : ConsistencyMode)
    (sessionLsn waitTimeoutMs : Nat)
    (waitMode : WaitMode) :
    WaitSpec :=
  match mode with
  | .sessionLsn => WaitSpec.fromLsn sessionLsn waitTimeoutMs waitMode
  | .globalLsn => WaitSpec.fromLsn sessionLsn waitTimeoutMs waitMode
  | .off => { timeoutMs := waitTimeoutMs, mode := waitMode }
  | .eventual => { timeoutMs := waitTimeoutMs, mode := waitMode }
  | .primaryOnly => { timeoutMs := waitTimeoutMs, mode := waitMode }

/-- Inputs of one routing decision. -/
structure RouteCtx where
  writerScope : WriterScope := {}
  session : SessionConsistency := {}
  transactionSplit : TransactionSplitState := {}
  waitTimeoutMs : Nat := defaultWaitTimeoutMs
  readerHg : Int := -1
  effectiveConsistencyMode : Int := 0
  readTarget : Int := 1
  readFallbackAction : Int := 0
  lsnWaitTimeoutAction : Int := 1
  missingLsnAction : Int := 0
  replicaLossAction : Int := 0
  replicaErrorAction : Int := 0
  maxLagBytes : Int := -1
  isPolarHg : Bool := false
  replicaEligible : Bool := false
  isMultiStatement : Bool := false
  isExtendedProtocol : Bool := false
  inTransaction : Bool := false
  txnSplitEnabled : Bool := false
  isTxnSplitSafeRead : Bool := false
  isTxnSplitLockingRead : Bool := false
  txnReaderWaitIsolationReadCommitted : Bool := true
  txnReaderWaitLocalStateClean : Bool := true
  forcePrimaryHint : Bool := false
  txnForceWriterAfterReaderFailure : Bool := false
  txnWriterHg : Int := -1
  deriving DecidableEq

/-- Inputs for picking a reader connection. -/
structure ReaderPlan where
  groupLsn : Nat := 0
  maxLagBytes : Int := -1
  fallbackWriterHg : Int := -1
  missingLsnAction : Int := 0
  lsnWaitTimeoutAction : Int := 1
  readTarget : Int := 0
  readFallbackAction : Int := 0
  replicaLossAction : Int := 0
  replicaErrorAction : Int := 0
  consistencyMode : ConsistencyMode := .off
  allowReaderWithoutTarget : Bool := true
  requireReplica : Bool := false
  deriving DecidableEq

/-- The route the planner selected. -/
inductive RouteAction
  | passthrough
  | replicaWithWait
  | forcePrimary
  | replicaTxnSplit
  | returnError
  deriving DecidableEq

/-- The routing decision for one query. -/
structure RoutePlan where
  waitSpec : WaitSpec := {}
  reader : ReaderPlan := {}
  txnXids : String := ""
  targetHg : Int := -1
  action : RouteAction := .passthrough
  actionReason : RouteActionReason := .none
  splitReason : RouteActionReason := .none
  degradedRfqRoute : Bool := false
  txnWaitRead : Bool := false
  splitChecked : Bool := false
  deriving DecidableEq

/-- Shared values the planner reads while it decides: the group position for
the wait target and again for the lag cap, the replica replay maximum of a
writer scope, and the global lag cap. -/
structure PlanEnv where
  groupLsn : Nat := 0
  lagCapGroupLsn : Nat := 0
  maxReplicaReplayLsn : WriterScope → Nat := fun _ => 0
  maxReaderLsnGapBytes : Int := 0

/-- A plan that sends the read to the writer hostgroup. -/
def forcePrimary (writerHg : Int) (reason : RouteActionReason) : RoutePlan :=
  { action := .forcePrimary, targetHg := writerHg, actionReason := reason }

def replicaTxnSplit
    (readerHg writerHg : Int)
    (waitSpec : WaitSpec)
    (txnXids : String) :
    RoutePlan :=
  { action := .replicaTxnSplit
    targetHg := readerHg
    waitSpec := waitSpec
    txnXids := txnXids
    reader := { fallbackWriterHg := writerHg, requireReplica := true } }

/-- The plan when no enforceable wait target is available. -/
def missingLsn
    (reason : RouteActionReason)
    (missingLsnAction readFallbackAction writerHg readerHg : Int)
    (allowReaderWithoutTarget : Bool) :
    RoutePlan :=
  let action := missingLsnActionFromInt missingLsnAction
  if action = .error then
    { action := .returnError, actionReason := reason }
  else if action = .warning ∧ allowReaderWithoutTarget = true then
    { action := .passthrough
      actionReason := reason
      targetHg := readerHg
      degradedRfqRoute := true }
  else if action = .primary ∨ readFallbackActionFromInt readFallbackAction = .primary then
    { action := .forcePrimary, actionReason := reason, targetHg := writerHg }
  else { action := .returnError, actionReason := reason }

/-- Why the shape of a query requires the writer. -/
def writerRequiredReason
    (inTransaction isMultiStatement isLockingSelect : Bool) : RouteActionReason :=
  if inTransaction then .inTransaction
  else if isMultiStatement then .multiStatement
  else if isLockingSelect then .splitLockingRead
  else .none

/-- Keep the policy that selected the reader with the plan. -/
def snapshotReaderPolicy (ctx : RouteCtx) (plan : RoutePlan) : RoutePlan :=
  { plan with
    reader :=
      { plan.reader with
        fallbackWriterHg := ctx.writerScope.hg
        missingLsnAction := ctx.missingLsnAction
        lsnWaitTimeoutAction := ctx.lsnWaitTimeoutAction
        readTarget := ctx.readTarget
        readFallbackAction := ctx.readFallbackAction
        replicaLossAction := ctx.replicaLossAction
        replicaErrorAction := ctx.replicaErrorAction } }

/-- The lag cap: hostgroup value when set, else the global value. -/
def RouteCtx.maxLag (ctx : RouteCtx) (env : PlanEnv) : Int :=
  if 0 ≤ ctx.maxLagBytes then ctx.maxLagBytes else env.maxReaderLsnGapBytes

def attachReaderLagCap (env : PlanEnv) (ctx : RouteCtx) (plan : RoutePlan) : RoutePlan :=
  if ctx.maxLag env ≤ 0 then plan
  else { plan with
    reader :=
      { plan.reader with groupLsn := env.lagCapGroupLsn, maxLagBytes := ctx.maxLag env } }

/-- The missing-LSN decision of an LSN read, with the policy it keeps. -/
def planMissingLsn
    (ctx : RouteCtx)
    (reason : RouteActionReason)
    (allowReaderWithoutTarget splitChecked : Bool) :
    RoutePlan :=
  snapshotReaderPolicy ctx
    { missingLsn reason ctx.missingLsnAction ctx.readFallbackAction ctx.writerScope.hg
        ctx.readerHg allowReaderWithoutTarget with splitChecked := splitChecked }

/-- A read without an LSN wait. -/
def planEventual (ctx : RouteCtx) : RoutePlan :=
  if ctx.inTransaction then forcePrimary ctx.writerScope.hg .inTransaction
  else
    let plan := snapshotReaderPolicy ctx {}
    { plan with
      action := .passthrough
      targetHg := ctx.readerHg
      reader := { plan.reader with consistencyMode := .eventual } }

def RouteCtx.splitQuery (ctx : RouteCtx) (env : PlanEnv) : SplitQuery :=
  { txnSplitEnabled := ctx.txnSplitEnabled
    writeLsnUnknown := ctx.session.writeUnknown
    observedLsnUnknown := ctx.session.observedUnknown
    isMultiStatement := ctx.isMultiStatement
    isExtendedProtocol := ctx.isExtendedProtocol
    isTxnSplitSafeRead := ctx.isTxnSplitSafeRead
    isTxnSplitLockingRead := ctx.isTxnSplitLockingRead
    maxReplicaReplayLsn :=
      if !ctx.isExtendedProtocol && ctx.transactionSplit.walPending &&
          ctx.transactionSplit.primaryLsn != 0 then
        env.maxReplicaReplayLsn ctx.writerScope
      else 0 }

/-- Why this query cannot be a split read. -/
def RouteCtx.splitReason (ctx : RouteCtx) (env : PlanEnv) : RouteActionReason :=
  txnSplitRejectionReason (ctx.splitQuery env) ctx.transactionSplit

/-- An in-transaction read before the first write of the transaction. -/
def RouteCtx.isPrewriteRead (ctx : RouteCtx) (env : PlanEnv) : Bool :=
  ctx.splitReason env == .inTransaction && ctx.txnSplitEnabled &&
    ctx.transactionSplit.stage == .txnOnPrimary && ctx.transactionSplit.splittable &&
      ctx.transactionSplit.xids == "" && ctx.isTxnSplitSafeRead

/-- Whether a pre-write read may use a reader: `READ COMMITTED` with no
transaction-local state on the primary. -/
def RouteCtx.prewriteReadAllowed (ctx : RouteCtx) : Bool :=
  ctx.txnReaderWaitIsolationReadCommitted && ctx.txnReaderWaitLocalStateClean

def RouteCtx.waitMode (ctx : RouteCtx) : WaitMode :=
  waitModeForTimeoutAction (lsnWaitTimeoutActionFromInt ctx.lsnWaitTimeoutAction)

/-- The wait target of a split read and whether the group position is missing. -/
def RouteCtx.splitTarget
    (ctx : RouteCtx) (env : PlanEnv) (mode : ConsistencyMode) : Nat × Bool :=
  if mode = .globalLsn then targetWithGlobalLsn ctx.transactionSplit.primaryLsn env.groupLsn
  else (ctx.transactionSplit.primaryLsn, false)

/-- A read authorized by the transaction-split state. -/
def planSplitRead (env : PlanEnv) (ctx : RouteCtx) (mode : ConsistencyMode) : RoutePlan :=
  let target := ctx.splitTarget env mode
  if target.2 then planMissingLsn ctx .groupLsnUnknown false true
  else
    let splitWait : WaitSpec :=
      { type := .lsn, target := target.1, timeoutMs := ctx.waitTimeoutMs, mode := ctx.waitMode }
    let plan :=
      snapshotReaderPolicy ctx
        { replicaTxnSplit ctx.readerHg ctx.writerScope.hg splitWait ctx.transactionSplit.xids with
          splitChecked := true }
    let timeoutAction :=
      transactionSplitTimeoutAction (lsnWaitTimeoutActionFromInt ctx.lsnWaitTimeoutAction)
        (readFallbackActionFromInt ctx.readFallbackAction == .primary)
    attachReaderLagCap env ctx
      { plan with
        reader :=
          { plan.reader with
            consistencyMode := mode
            lsnWaitTimeoutAction := timeoutAction.toInt
            allowReaderWithoutTarget := false } }

/-- Whether a missing target may degrade to a reader without a wait. -/
def RouteCtx.allowsDegradedReader (ctx : RouteCtx) (mode : ConsistencyMode) : Bool :=
  !ctx.isExtendedProtocol && !disallowsDegradedReader mode

/-- The wait target of a consistency read and whether the group position is
missing. -/
def RouteCtx.consistencyTarget
    (ctx : RouteCtx) (env : PlanEnv) (mode : ConsistencyMode) : Nat × Bool :=
  if mode = .globalLsn then ctx.session.targetWithGlobalLsn env.groupLsn
  else (ctx.session.target, false)

/-- A read that waits on the session target.  `plan` carries the fields set so
far and `txnWaitRead` marks a pre-write transaction read. -/
def planConsistencyRead
    (env : PlanEnv)
    (ctx : RouteCtx)
    (mode : ConsistencyMode)
    (plan : RoutePlan)
    (txnWaitRead : Bool) :
    RoutePlan :=
  let requiredReason :=
    writerRequiredReason (ctx.inTransaction && !txnWaitRead) ctx.isMultiStatement
      ctx.isTxnSplitLockingRead
  if requiredReason ≠ .none then forcePrimary ctx.writerScope.hg requiredReason
  else if ctx.session.writeUnknown then
    planMissingLsn ctx .writeLsnUnknown (ctx.allowsDegradedReader mode) txnWaitRead
  else if ctx.session.observedUnknown then
    planMissingLsn ctx .observedLsnUnknown (ctx.allowsDegradedReader mode) txnWaitRead
  else
    let sessionLsn := ctx.consistencyTarget env mode
    if sessionLsn.2 then planMissingLsn ctx .groupLsnUnknown false txnWaitRead
    else
      let waitSpec := buildConsistency mode sessionLsn.1 ctx.waitTimeoutMs ctx.waitMode
      if !waitSpec.hasWait then
        { plan with
          action := .passthrough
          targetHg := ctx.readerHg
          reader := { plan.reader with consistencyMode := mode }
          txnWaitRead := txnWaitRead }
      else
        let capped := attachReaderLagCap env ctx plan
        { capped with
          action := .replicaWithWait
          targetHg := ctx.readerHg
          waitSpec := waitSpec
          txnWaitRead := txnWaitRead
          reader :=
            { capped.reader with
              consistencyMode := mode
              allowReaderWithoutTarget := ctx.allowsDegradedReader mode } }

/-- A read inside an explicit transaction. -/
def planTransaction (env : PlanEnv) (ctx : RouteCtx) (mode : ConsistencyMode) : RoutePlan :=
  if ctx.isPrewriteRead env then
    if ctx.prewriteReadAllowed then
      planConsistencyRead env ctx mode
        { snapshotReaderPolicy ctx {} with
          splitChecked := true, splitReason := .none, targetHg := ctx.readerHg } true
    else { forcePrimary ctx.writerScope.hg .inTransaction with splitChecked := true }
  else if ctx.splitReason env ≠ .none then
    { forcePrimary ctx.writerScope.hg (ctx.splitReason env) with
      splitChecked := true, splitReason := ctx.splitReason env }
  else planSplitRead env ctx mode

/-- A read under one of the LSN modes. -/
def planLsn (env : PlanEnv) (ctx : RouteCtx) (mode : ConsistencyMode) : RoutePlan :=
  if (consistencyPolicyError mode (missingLsnActionFromInt ctx.missingLsnAction)
      (lsnWaitTimeoutActionFromInt ctx.lsnWaitTimeoutAction)).isSome then
    { snapshotReaderPolicy ctx {} with action := .returnError, actionReason := .invalidPolicy }
  else if ctx.inTransaction then planTransaction env ctx mode
  else planConsistencyRead env ctx mode (snapshotReaderPolicy ctx {}) false

/-- No reader hostgroup is configured. -/
def planNoReader (ctx : RouteCtx) : RoutePlan :=
  if readFallbackActionFromInt ctx.readFallbackAction = .error then
    { action := .returnError, actionReason := .readFallbackError }
  else { targetHg := ctx.writerScope.hg }

/-- The mode the planner works with. -/
def RouteCtx.mode (ctx : RouteCtx) : ConsistencyMode :=
  consistencyModeOrOff ctx.effectiveConsistencyMode

/-- The routing decision. -/
def polardbPlan (env : PlanEnv) (ctx : RouteCtx) : RoutePlan :=
  if !ctx.isPolarHg then {}
  else if !ctx.replicaEligible then { targetHg := ctx.writerScope.hg }
  else if ctx.txnForceWriterAfterReaderFailure ∧ 0 ≤ ctx.txnWriterHg then
    forcePrimary ctx.txnWriterHg .readerFailureForceWriter
  else if ctx.forcePrimaryHint then forcePrimary ctx.writerScope.hg .hintPrimary
  else if readTargetFromInt ctx.readTarget = .primary then
    forcePrimary ctx.writerScope.hg .readTargetPrimary
  else if ctx.mode = .primaryOnly then forcePrimary ctx.writerScope.hg .readTargetPrimary
  else if ctx.mode = .off then { reader := { consistencyMode := .off } }
  else if ctx.readerHg < 0 then planNoReader ctx
  else if ctx.mode = .eventual then planEventual ctx
  else planLsn env ctx ctx.mode

/-! ## Plans that go to the reader -/

/-- The plan sends the query to the configured reader hostgroup. -/
def RoutePlan.TargetsReader (plan : RoutePlan) (ctx : RouteCtx) : Prop :=
  0 ≤ ctx.readerHg ∧ plan.targetHg = ctx.readerHg

/-- The writer hostgroups of the inputs differ from the reader hostgroup, as the
replication hostgroup table requires of every pair. -/
structure RouteCtx.HgSeparated (ctx : RouteCtx) : Prop where
  writer : ctx.writerScope.hg ≠ ctx.readerHg
  failureWriter : ctx.txnForceWriterAfterReaderFailure = true → ctx.txnWriterHg ≠ ctx.readerHg

/-- The rungs above the mode decision do not apply to this query. -/
structure RouteCtx.ReachesReader (ctx : RouteCtx) : Prop where
  polar : ctx.isPolarHg = true
  eligible : ctx.replicaEligible = true
  noFailure : ¬ (ctx.txnForceWriterAfterReaderFailure = true ∧ 0 ≤ ctx.txnWriterHg)
  noHint : ctx.forcePrimaryHint = false
  replica : readTargetFromInt ctx.readTarget = .replica
  readerHg : 0 ≤ ctx.readerHg

/-- The transaction is admitted to a temporary reader: the split state
authorizes the read, or the read precedes the first write. -/
def RouteCtx.AdmittedBySplit (ctx : RouteCtx) (env : PlanEnv) : Prop :=
  ctx.splitReason env = .none ∨
    (ctx.isPrewriteRead env = true ∧ ctx.prewriteReadAllowed = true)

/-- What the planner promises about an LSN-mode plan that goes to the reader. -/
structure ReaderPlanSound
    (env : PlanEnv) (ctx : RouteCtx) (mode : ConsistencyMode) (plan : RoutePlan) : Prop where
  known :
    plan.degradedRfqRoute = false →
      ctx.session.writeUnknown = false ∧ ctx.session.observedUnknown = false
  sessionTarget :
    plan.degradedRfqRoute = false → plan.action ≠ .replicaTxnSplit →
      ctx.session.target ≤ plan.waitSpec.target
  splitTarget :
    plan.action = .replicaTxnSplit →
      0 < ctx.transactionSplit.primaryLsn ∧
        ctx.transactionSplit.primaryLsn ≤ plan.waitSpec.target
  groupTarget :
    plan.degradedRfqRoute = false → mode = .globalLsn →
      0 < env.groupLsn ∧ env.groupLsn ≤ plan.waitSpec.target
  noWait :
    plan.degradedRfqRoute = false → plan.waitSpec.hasWait = false →
      ctx.session.target = 0 ∧ mode ≠ .globalLsn
  degraded :
    plan.degradedRfqRoute = true →
      mode = .sessionLsn ∧ ctx.isExtendedProtocol = false ∧
        missingLsnActionFromInt ctx.missingLsnAction = .warning
  shape : ctx.isMultiStatement = false ∧ ctx.isTxnSplitLockingRead = false
  transaction : ctx.inTransaction = true → ctx.AdmittedBySplit env

section Reader

variable {env : PlanEnv} {ctx : RouteCtx} {mode : ConsistencyMode}

theorem not_targetsReader_of_ne
    {plan : RoutePlan}
    (h : plan.targetHg ≠ ctx.readerHg) :
    ¬ plan.TargetsReader ctx :=
  fun hreader => h hreader.2

/-- A plan that keeps the current hostgroup does not go to the reader. -/
theorem not_targetsReader_of_neg
    {plan : RoutePlan}
    (h : plan.targetHg = -1) :
    ¬ plan.TargetsReader ctx := by
  rintro ⟨hpos, heq⟩
  omega

/-- The missing-LSN decision reaches a reader only as a degraded route under
the warning action. -/
theorem missingLsn_reader
    {reason : RouteActionReason} {allow splitChecked : Bool}
    (hsep : ctx.HgSeparated)
    (h : (planMissingLsn ctx reason allow splitChecked).TargetsReader ctx) :
    allow = true ∧ missingLsnActionFromInt ctx.missingLsnAction = .warning ∧
      planMissingLsn ctx reason allow splitChecked =
        snapshotReaderPolicy ctx
          { action := .passthrough
            actionReason := reason
            targetHg := ctx.readerHg
            degradedRfqRoute := true
            splitChecked := splitChecked } := by
  unfold planMissingLsn missingLsn at h ⊢
  simp only at h ⊢
  split at h
  · exact absurd h (not_targetsReader_of_neg rfl)
  · rename_i herror
    rw [if_neg herror]
    split at h
    · rename_i hwarn
      rw [if_pos hwarn]
      exact ⟨hwarn.2, hwarn.1, rfl⟩
    · split at h
      · exact absurd h (not_targetsReader_of_ne hsep.writer)
      · exact absurd h (not_targetsReader_of_neg rfl)

/-- Without permission to degrade, the missing-LSN decision avoids the reader. -/
theorem missingLsn_not_reader
    {reason : RouteActionReason} {splitChecked : Bool}
    (hsep : ctx.HgSeparated) :
    ¬ (planMissingLsn ctx reason false splitChecked).TargetsReader ctx := by
  intro h
  cases (missingLsn_reader hsep h).1

theorem buildConsistency_lsn
    (hmode : usesLsnWait mode = true)
    (lsn timeoutMs : Nat) (waitMode : WaitMode) :
    (buildConsistency mode lsn timeoutMs waitMode).target = lsn ∧
      ((buildConsistency mode lsn timeoutMs waitMode).hasWait = false ↔ lsn = 0) := by
  have hbuild :
      buildConsistency mode lsn timeoutMs waitMode = WaitSpec.fromLsn lsn timeoutMs waitMode := by
    rcases (usesLsnWait_iff mode).mp hmode with rfl | rfl <;> rfl
  rw [hbuild]
  unfold WaitSpec.fromLsn WaitSpec.hasWait
  split
  · exact ⟨rfl, by simp; omega⟩
  · exact ⟨by simp; omega, by simp; omega⟩

/-- The target of a consistency read dominates the session target and, under
`GLOBAL_LSN`, the group position. -/
theorem consistencyTarget_known
    (h : (ctx.consistencyTarget env mode).2 = false) :
    ctx.session.target ≤ (ctx.consistencyTarget env mode).1 ∧
      (mode = .globalLsn →
        0 < env.groupLsn ∧ env.groupLsn ≤ (ctx.consistencyTarget env mode).1) ∧
      (mode ≠ .globalLsn → (ctx.consistencyTarget env mode).1 = ctx.session.target) := by
  unfold RouteCtx.consistencyTarget at h ⊢
  split
  · rename_i hglobal
    rw [if_pos hglobal] at h
    obtain ⟨hpos, hlocal, hgroup⟩ := targetWithGlobalLsn_known h
    exact ⟨hlocal, fun _ => ⟨hpos, hgroup⟩, fun hne => absurd hglobal hne⟩
  · rename_i hglobal
    exact ⟨Nat.le_refl _, fun hg => absurd hg hglobal, fun _ => rfl⟩

/-- The target of a split read dominates the transaction's position and, under
`GLOBAL_LSN`, the group position. -/
theorem splitTarget_known
    (h : (ctx.splitTarget env mode).2 = false) :
    ctx.transactionSplit.primaryLsn ≤ (ctx.splitTarget env mode).1 ∧
      (mode = .globalLsn →
        0 < env.groupLsn ∧ env.groupLsn ≤ (ctx.splitTarget env mode).1) := by
  unfold RouteCtx.splitTarget at h ⊢
  split
  · rename_i hglobal
    rw [if_pos hglobal] at h
    obtain ⟨hpos, hlocal, hgroup⟩ := targetWithGlobalLsn_known h
    exact ⟨hlocal, fun _ => ⟨hpos, hgroup⟩⟩
  · rename_i hglobal
    exact ⟨Nat.le_refl _, fun hg => absurd hg hglobal⟩

theorem attachReaderLagCap_eq (plan : RoutePlan) :
    attachReaderLagCap env ctx plan =
      { plan with reader := (attachReaderLagCap env ctx plan).reader } := by
  unfold attachReaderLagCap
  split <;> rfl

theorem planMissingLsn_sound
    {reason : RouteActionReason} {txnWaitRead : Bool}
    (hmode : usesLsnWait mode = true)
    (hsep : ctx.HgSeparated)
    (hshape : ctx.isMultiStatement = false ∧ ctx.isTxnSplitLockingRead = false)
    (htxn : ctx.inTransaction = true → ctx.AdmittedBySplit env)
    (h : (planMissingLsn ctx reason (ctx.allowsDegradedReader mode) txnWaitRead).TargetsReader
      ctx) :
    ReaderPlanSound env ctx mode
      (planMissingLsn ctx reason (ctx.allowsDegradedReader mode) txnWaitRead) := by
  obtain ⟨hallow, hwarning, heq⟩ := missingLsn_reader hsep h
  simp only [RouteCtx.allowsDegradedReader, disallowsDegradedReader, Bool.and_eq_true,
    Bool.not_eq_true', beq_eq_false_iff_ne] at hallow
  have hsession : mode = .sessionLsn :=
    ((usesLsnWait_iff mode).mp hmode).resolve_right hallow.2
  rw [heq]
  exact ⟨nofun, nofun, nofun, nofun, nofun, fun _ => ⟨hsession, hallow.1, hwarning⟩, hshape, htxn⟩

/-- What a consistency read promises about a plan that goes to the reader. -/
theorem planConsistencyRead_reader
    {plan : RoutePlan} {txnWaitRead : Bool}
    (hmode : usesLsnWait mode = true)
    (hsep : ctx.HgSeparated)
    (hplan : plan.waitSpec = {} ∧ plan.degradedRfqRoute = false)
    (htxn : ctx.inTransaction = true → txnWaitRead = true → ctx.AdmittedBySplit env)
    (h : (planConsistencyRead env ctx mode plan txnWaitRead).TargetsReader ctx) :
    ReaderPlanSound env ctx mode (planConsistencyRead env ctx mode plan txnWaitRead) := by
  unfold planConsistencyRead at h ⊢
  simp only at h ⊢
  by_cases hshape :
      writerRequiredReason (ctx.inTransaction && !txnWaitRead) ctx.isMultiStatement
        ctx.isTxnSplitLockingRead ≠ .none
  · rw [if_pos hshape] at h
    exact absurd h (not_targetsReader_of_ne hsep.writer)
  rw [if_neg hshape] at h ⊢
  have hrequired := not_not.mp hshape
  unfold writerRequiredReason at hrequired
  obtain ⟨hnotxn, hrequired⟩ := pass_reason hrequired (by decide)
  obtain ⟨hmulti, hrequired⟩ := pass_reason hrequired (by decide)
  obtain ⟨hlocking, -⟩ := pass_reason hrequired (by decide)
  have hshape' : ctx.isMultiStatement = false ∧ ctx.isTxnSplitLockingRead = false := by
    simpa using And.intro hmulti hlocking
  have htxn' : ctx.inTransaction = true → ctx.AdmittedBySplit env := by
    intro hin
    refine htxn hin ?_
    simpa [hin] using hnotxn
  by_cases hwrite : ctx.session.writeUnknown = true
  · rw [if_pos hwrite] at h ⊢
    exact planMissingLsn_sound hmode hsep hshape' htxn' h
  rw [if_neg hwrite] at h ⊢
  by_cases hobserved : ctx.session.observedUnknown = true
  · rw [if_pos hobserved] at h ⊢
    exact planMissingLsn_sound hmode hsep hshape' htxn' h
  rw [if_neg hobserved] at h ⊢
  by_cases hgroup : (ctx.consistencyTarget env mode).2 = true
  · rw [if_pos hgroup] at h
    exact absurd h (missingLsn_not_reader hsep)
  rw [if_neg hgroup] at h ⊢
  have hknown : ctx.session.writeUnknown = false ∧ ctx.session.observedUnknown = false := by
    simpa using And.intro hwrite hobserved
  obtain ⟨hsession, hglobal, hlocal⟩ := consistencyTarget_known (by simpa using hgroup)
  obtain ⟨htarget, hnowait⟩ :=
    buildConsistency_lsn hmode (ctx.consistencyTarget env mode).1 ctx.waitTimeoutMs ctx.waitMode
  by_cases hwait :
      (!(buildConsistency mode (ctx.consistencyTarget env mode).1 ctx.waitTimeoutMs
        ctx.waitMode).hasWait) = true
  · rw [if_pos hwait]
    have hzero := hnowait.mp (by simpa using hwait)
    have hnotglobal : mode ≠ .globalLsn := by
      intro hg
      have := hglobal hg
      omega
    refine ⟨fun _ => hknown, fun _ _ => ?_, nofun, fun _ hg => absurd hg hnotglobal,
      fun _ _ => ⟨by omega, hnotglobal⟩, ?_, hshape', htxn'⟩
    · simp only
      omega
    · intro hdegraded
      simp [hplan.2] at hdegraded
  · rw [if_neg hwait, attachReaderLagCap_eq]
    refine ⟨fun _ => hknown, fun _ _ => ?_, nofun, fun _ hg => ?_, fun _ hno => ?_, ?_,
      hshape', htxn'⟩
    · simpa [htarget] using hsession
    · simpa [htarget] using hglobal hg
    · simp [hno] at hwait
    · intro hdegraded
      simp [hplan.2] at hdegraded

/-- What an authorized split read promises about a plan that goes to the reader. -/
theorem planSplitRead_reader
    (hsep : ctx.HgSeparated)
    (hreason : ctx.splitReason env = .none)
    (h : (planSplitRead env ctx mode).TargetsReader ctx) :
    ReaderPlanSound env ctx mode (planSplitRead env ctx mode) := by
  obtain ⟨hsafe, hread⟩ := rejectionReason_none hreason
  unfold planSplitRead at h ⊢
  simp only at h ⊢
  split at h
  · exact absurd h (missingLsn_not_reader hsep)
  rename_i hgroup
  obtain ⟨hprimary, hglobal⟩ := splitTarget_known (by simpa using hgroup)
  rw [if_neg hgroup, attachReaderLagCap_eq]
  exact ⟨fun _ => ⟨hsafe.writeKnown, hsafe.observedKnown⟩, fun _ hne => absurd rfl hne,
    fun _ => ⟨hread.primaryLsn, hprimary⟩, fun _ hg => hglobal hg, nofun, nofun,
    ⟨hsafe.singleStatement, hsafe.notLocking⟩, fun _ => Or.inl hreason⟩

/-- What a read inside a transaction promises about a plan that goes to the
reader. -/
theorem planTransaction_reader
    (hmode : usesLsnWait mode = true)
    (hsep : ctx.HgSeparated)
    (h : (planTransaction env ctx mode).TargetsReader ctx) :
    ReaderPlanSound env ctx mode (planTransaction env ctx mode) := by
  unfold planTransaction at h ⊢
  by_cases hpre : ctx.isPrewriteRead env = true
  · rw [if_pos hpre] at h ⊢
    by_cases hallowed : ctx.prewriteReadAllowed = true
    · rw [if_pos hallowed] at h ⊢
      exact planConsistencyRead_reader hmode hsep ⟨rfl, rfl⟩
        (fun _ _ => Or.inr ⟨hpre, hallowed⟩) h
    · rw [if_neg hallowed] at h
      exact absurd h (not_targetsReader_of_ne hsep.writer)
  · rw [if_neg hpre] at h ⊢
    by_cases hreason : ctx.splitReason env ≠ .none
    · rw [if_pos hreason] at h
      exact absurd h (not_targetsReader_of_ne hsep.writer)
    · rw [if_neg hreason] at h ⊢
      exact planSplitRead_reader hsep (not_not.mp hreason) h

theorem planLsn_reader
    (hmode : usesLsnWait mode = true)
    (hsep : ctx.HgSeparated)
    (h : (planLsn env ctx mode).TargetsReader ctx) :
    ReaderPlanSound env ctx mode (planLsn env ctx mode) := by
  unfold planLsn at h ⊢
  split at h
  · exact absurd h (not_targetsReader_of_neg rfl)
  · rename_i hpolicy
    rw [if_neg hpolicy]
    split at h
    · rename_i hin
      rw [if_pos hin]
      exact planTransaction_reader hmode hsep h
    · rename_i hin
      rw [if_neg hin]
      exact planConsistencyRead_reader hmode hsep ⟨rfl, rfl⟩
        (fun hin' => absurd hin' hin) h

/-- Past the first rungs the mode alone selects the stage. -/
theorem polardbPlan_of_reachesReader
    (h : ctx.ReachesReader) :
    (ctx.mode = .eventual → polardbPlan env ctx = planEventual ctx) ∧
      (usesLsnWait ctx.mode = true → polardbPlan env ctx = planLsn env ctx ctx.mode) := by
  have hreader : ¬ ctx.readerHg < 0 := by
    have := h.readerHg
    omega
  unfold polardbPlan
  simp only [h.polar, h.eligible, h.noFailure, h.noHint, h.replica, hreader, Bool.not_true,
    Bool.false_eq_true, if_false, reduceCtorEq]
  constructor
  · intro hmode
    simp [hmode]
  · intro hmode
    rcases (usesLsnWait_iff _).mp hmode with hmode | hmode <;> simp [hmode]

/-- A plan goes to the reader only past the first rungs, in the eventual mode
or in an LSN mode. -/
theorem polardbPlan_reader
    (hsep : ctx.HgSeparated)
    (h : (polardbPlan env ctx).TargetsReader ctx) :
    ctx.ReachesReader ∧ (ctx.mode = .eventual ∨ usesLsnWait ctx.mode = true) := by
  have hreader : 0 ≤ ctx.readerHg := h.1
  unfold polardbPlan at h
  split at h
  · exact absurd h (not_targetsReader_of_neg rfl)
  rename_i hpolar
  split at h
  · exact absurd h (not_targetsReader_of_ne hsep.writer)
  rename_i heligible
  split at h
  · rename_i hfailure
    exact absurd h (not_targetsReader_of_ne (hsep.failureWriter hfailure.1))
  rename_i hfailure
  split at h
  · exact absurd h (not_targetsReader_of_ne hsep.writer)
  rename_i hhint
  split at h
  · exact absurd h (not_targetsReader_of_ne hsep.writer)
  rename_i htarget
  have hreaches : ctx.ReachesReader := by
    refine ⟨by simpa using hpolar, by simpa using heligible, hfailure, by simpa using hhint,
      ?_, hreader⟩
    cases hrt : readTargetFromInt ctx.readTarget with
    | primary =>
        exact absurd hrt htarget
    | replica =>
        rfl
  refine ⟨hreaches, ?_⟩
  split at h
  · exact absurd h (not_targetsReader_of_ne hsep.writer)
  rename_i hprimary
  split at h
  · exact absurd h (not_targetsReader_of_neg rfl)
  rename_i hoff
  cases hm : ctx.mode with
  | off =>
      exact absurd hm hoff
  | sessionLsn | globalLsn =>
      exact Or.inr rfl
  | eventual =>
      exact Or.inl rfl
  | primaryOnly =>
      exact absurd hm hprimary

end Reader

/-- Read-your-writes soundness of the planner.  In an LSN mode a plan that goes
to the reader without being degraded has no unknown session position; it waits
at least for the session target, except that a transaction-split read waits for
the position of its transaction; under `GLOBAL_LSN` it also waits for the group
position.  It carries no wait only when nothing has to be waited for outside
`GLOBAL_LSN`, and it is degraded only under `SESSION_LSN`, the simple protocol
and the warning action. -/
theorem plan_reads_your_writes
    (env : PlanEnv) (ctx : RouteCtx)
    (hmode : ctx.mode = .sessionLsn ∨ ctx.mode = .globalLsn)
    (hsep : ctx.HgSeparated)
    (hreader : (polardbPlan env ctx).TargetsReader ctx) :
    ((polardbPlan env ctx).degradedRfqRoute = false →
      (ctx.session.writeUnknown = false ∧ ctx.session.observedUnknown = false) ∧
      ((polardbPlan env ctx).action ≠ .replicaTxnSplit →
        ctx.session.target ≤ (polardbPlan env ctx).waitSpec.target) ∧
      ((polardbPlan env ctx).action = .replicaTxnSplit →
        0 < ctx.transactionSplit.primaryLsn ∧
          ctx.transactionSplit.primaryLsn ≤ (polardbPlan env ctx).waitSpec.target) ∧
      (ctx.mode = .globalLsn → env.groupLsn ≤ (polardbPlan env ctx).waitSpec.target) ∧
      ((polardbPlan env ctx).waitSpec.hasWait = false →
        ctx.session.target = 0 ∧ ctx.mode ≠ .globalLsn)) ∧
    ((polardbPlan env ctx).degradedRfqRoute = true →
      ctx.mode = .sessionLsn ∧ ctx.isExtendedProtocol = false ∧
        missingLsnActionFromInt ctx.missingLsnAction = .warning) := by
  have hlsn : usesLsnWait ctx.mode = true := (usesLsnWait_iff _).mpr hmode
  have hreaches := (polardbPlan_reader hsep hreader).1
  have hplan : polardbPlan env ctx = planLsn env ctx ctx.mode :=
    (polardbPlan_of_reachesReader hreaches).2 hlsn
  rw [hplan] at hreader ⊢
  have hsound := planLsn_reader hlsn hsep hreader
  refine ⟨fun hd => ⟨hsound.known hd, hsound.sessionTarget hd, hsound.splitTarget,
    fun hg => (hsound.groupTarget hd hg).2, hsound.noWait hd⟩, hsound.degraded⟩

/-- Inputs of a transaction whose split state authorizes a replica read. -/
def splitReadCtx : RouteCtx :=
  { writerScope := { hg := 0, epoch := 1 }
    session := { observedLsn := 10, writerScope := { hg := 0, epoch := 1 } }
    transactionSplit := TransactionSplitState.observePrimaryRfq {} markedRfq
    readerHg := 1
    effectiveConsistencyMode := 1
    isPolarHg := true
    replicaEligible := true
    inTransaction := true
    txnSplitEnabled := true
    isTxnSplitSafeRead := true }

/-- Inputs of a read outside a transaction after a positioned result. -/
def sessionReadCtx : RouteCtx :=
  { writerScope := { hg := 0, epoch := 1 }
    session := { observedLsn := 10, writerScope := { hg := 0, epoch := 1 } }
    readerHg := 1
    effectiveConsistencyMode := 1
    isPolarHg := true
    replicaEligible := true }

/-- The session read waits for its observed position. -/
theorem plan_reads_your_writes_session :
    (polardbPlan {} sessionReadCtx).degradedRfqRoute = false ∧
      sessionReadCtx.session.target ≤ (polardbPlan {} sessionReadCtx).waitSpec.target := by
  have h := plan_reads_your_writes {} sessionReadCtx (by decide) ⟨by decide, by decide⟩
    ⟨by decide, by decide⟩
  exact ⟨by decide, (h.1 (by decide)).2.1 (by decide)⟩

/-- A split read waits for the position of its transaction, below the session
target. -/
theorem split_read_waits_below_session_target :
    ¬ ∀ (env : PlanEnv) (ctx : RouteCtx),
      (ctx.mode = .sessionLsn ∨ ctx.mode = .globalLsn) →
      ctx.HgSeparated →
      (polardbPlan env ctx).TargetsReader ctx →
      (polardbPlan env ctx).degradedRfqRoute = false →
      ctx.session.target ≤ (polardbPlan env ctx).waitSpec.target := by
  intro hclaim
  have h := hclaim {} splitReadCtx (by decide) ⟨by decide, by decide⟩
    ⟨by decide, by decide⟩ (by decide)
  exact absurd h (by decide)

end PolarProxy
