import PolarProxy.Scope
import PolarProxy.Library.Runs

/-!
# Transaction-split state

Inside a client transaction the proxy may send a read to a replica while the
transaction stays open on the primary.  The evidence that allows this comes in
pieces with the primary's `ReadyForQuery` messages: an XID list, a split marker,
a pending-WAL marker and a WAL position.  This module models the state machine
that collects the evidence and the check that turns it into an authorization.

**Operations.**  `observePrimaryRfq` folds one primary `ReadyForQuery` into the
state; `beginSplitRead`, `completeSplitRead` and `failSplitRead` bracket one read
on a replica; `reset` ends the transaction.

**Results.** `SplitEvidence.step`, `rejectionReason_none`, `splitAuthorization_evidence`.
-/

namespace PolarProxy

open Transition

/-- Why the planner did not take the straightforward replica route. -/
inductive RouteActionReason
  | none
  | extendedProtocol
  | inTransaction
  | multiStatement
  | readTargetPrimary
  | hintPrimary
  | writeLsnUnknown
  | observedLsnUnknown
  | groupLsnUnknown
  | invalidPolicy
  | readerRfqUnavailable
  | readFallbackError
  | readerFailureForceWriter
  | walPending
  | splitBlocked
  | splitNotSelect
  | splitLockingRead
  | splitWriteLsnUnknown
  | splitObservedLsnUnknown
  | noTxnLsn
  | invariantViolation
  | hgSplitDisabled
  deriving DecidableEq

inductive TransactionSplitStage
  | none
  | txnOnPrimary
  | txnSplittable
  | txnSplitReadActive
  deriving DecidableEq

/-- Session-scoped transaction-split state.  The planner reads a snapshot with
the same fields. -/
structure TransactionSplitState where
  stage : TransactionSplitStage := .none
  xids : String := ""
  primaryLsn : Nat := 0
  splittable : Bool := false
  walPending : Bool := false
  failed : Bool := false
  blocked : Bool := false
  wasSplittable : Bool := false
  didSplit : Bool := false
  deriving DecidableEq

/-- One primary `ReadyForQuery` as the split observer receives it.  An absent
XID list is a null pointer in the source. -/
structure PrimaryRfq where
  status : Char
  xids : Option String := none
  splittable : Bool := false
  walPending : Bool := false
  primaryLsn : Nat := 0
  splitEnabled : Bool := true
  deriving DecidableEq

/-- RFQ of an active transaction with no assigned write XID. -/
def rfqIsPrewriteSplitCandidate
    (transactionStatus : Char)
    (transactionXids : Option String)
    (splittable walPending : Bool) : Bool :=
  transactionStatus == 'T' && splittable && !walPending && transactionXids == some ""

namespace TransactionSplitState

/-- Whether a transaction is tracked. -/
def active (t : TransactionSplitState) : Bool :=
  t.stage != .none

/-- Whether any RFQ evidence is stored. -/
def hasBackendEvidence (t : TransactionSplitState) : Bool :=
  t.xids != "" || t.primaryLsn != 0 || t.splittable || t.walPending

def beginSplitRead (t : TransactionSplitState) : TransactionSplitState :=
  { t with stage := .txnSplitReadActive, blocked := false, wasSplittable := true }

def completeSplitRead (t : TransactionSplitState) : TransactionSplitState :=
  { t with stage := .txnSplittable, wasSplittable := true, didSplit := true }

def failSplitRead (t : TransactionSplitState) : TransactionSplitState :=
  { t with stage := .txnOnPrimary, blocked := true }

/-- Drop all transaction-split state. -/
def reset (_ : TransactionSplitState) : TransactionSplitState :=
  {}

/-- The evidence fields after an in-transaction RFQ, before its stage is decided. -/
def recordRfq (t : TransactionSplitState) (r : PrimaryRfq) : TransactionSplitState :=
  { t with
    stage := if t.stage = .none then .txnOnPrimary else t.stage
    primaryLsn := if t.primaryLsn < r.primaryLsn then r.primaryLsn else t.primaryLsn
    xids := r.xids.getD t.xids
    -- A failed transaction cannot authorize reads on another backend.
    splittable := if r.status = 'E' then false else r.splittable
    walPending := r.walPending
    failed := r.status == 'E' }

/-- Fold one primary `ReadyForQuery` into the state. -/
def observePrimaryRfq (t : TransactionSplitState) (r : PrimaryRfq) : TransactionSplitState :=
  if !r.splitEnabled then t.reset
  else if r.status = 'I' then t.reset
  else if r.status ≠ 'T' ∧ r.status ≠ 'E' then t
  else
    let t' := t.recordRfq r
    if t'.blocked ∨ r.status = 'E' then { t' with stage := .txnOnPrimary }
    else if t'.splittable ∧ ¬ t'.walPending ∧ t'.xids ≠ "" then
      { t' with stage := .txnSplittable, wasSplittable := true }
    else if t'.stage = .txnSplittable then { t' with stage := .txnOnPrimary }
    else t'

end TransactionSplitState

/-- Query-shape and session inputs of the split check. -/
structure SplitQuery where
  txnSplitEnabled : Bool := true
  writeLsnUnknown : Bool := false
  observedLsnUnknown : Bool := false
  isMultiStatement : Bool := false
  isExtendedProtocol : Bool := false
  isTxnSplitSafeRead : Bool := true
  isTxnSplitLockingRead : Bool := false
  maxReplicaReplayLsn : Nat := 0
  deriving DecidableEq

/-- A pending-WAL marker is superseded by a replica that replayed the position. -/
def walPendingReplicaConfirmed
    (t : TransactionSplitState)
    (maxReplicaReplayLsn : Nat) : Bool :=
  t.walPending && (t.stage == .txnOnPrimary || t.stage == .txnSplittable) &&
    !t.failed && !t.blocked && t.xids != "" && t.primaryLsn != 0 &&
      decide (t.primaryLsn ≤ maxReplicaReplayLsn)

/-- Why the current transaction cannot be planned as a split read. -/
def txnSplitRejectionReason (q : SplitQuery) (t : TransactionSplitState) : RouteActionReason :=
  let confirmed := walPendingReplicaConfirmed t q.maxReplicaReplayLsn
  if !q.txnSplitEnabled then .hgSplitDisabled
  else if q.isMultiStatement then .multiStatement
  else if q.isExtendedProtocol then .extendedProtocol
  else if q.isTxnSplitLockingRead then .splitLockingRead
  else if !q.isTxnSplitSafeRead then .splitNotSelect
  else if q.writeLsnUnknown then .splitWriteLsnUnknown
  else if q.observedLsnUnknown then .splitObservedLsnUnknown
  else if t.blocked then .splitBlocked
  else if t.failed then .inTransaction
  else if t.walPending && !confirmed then .walPending
  else if t.stage != .txnSplittable && !confirmed then .inTransaction
  else if t.xids = "" then .invariantViolation
  else if t.primaryLsn = 0 then .noTxnLsn
  else .none

/-- An authorized split query has a safe shape and no unknown session position. -/
structure SplitQuery.Safe (q : SplitQuery) : Prop where
  enabled : q.txnSplitEnabled = true
  singleStatement : q.isMultiStatement = false
  simpleProtocol : q.isExtendedProtocol = false
  notLocking : q.isTxnSplitLockingRead = false
  safeRead : q.isTxnSplitSafeRead = true
  writeKnown : q.writeLsnUnknown = false
  observedKnown : q.observedLsnUnknown = false

/-- What an authorization requires of the split state. -/
structure SplitReadable (t : TransactionSplitState) (maxReplicaReplayLsn : Nat) : Prop where
  xids : t.xids ≠ ""
  primaryLsn : 0 < t.primaryLsn
  notFailed : t.failed = false
  notBlocked : t.blocked = false
  position :
    (t.walPending = false ∧ t.stage = .txnSplittable) ∨
      (t.walPending = true ∧ t.primaryLsn ≤ maxReplicaReplayLsn)

/-- The transaction is open on the primary, which reported that it may be split, and
nothing of it was written yet. -/
structure TransactionSplitState.BeforeFirstWrite (t : TransactionSplitState) : Prop where
  stage : t.stage = .txnOnPrimary
  splittable : t.splittable = true
  noXids : t.xids = ""
  notBlocked : t.blocked = false
  wal : t.failed = true ∨ t.walPending = false

/-- One rung of a priority ladder of reasons: a reason of a later rung means that the
condition of this one did not fire and that the rest of the ladder gives the reason. -/
theorem pass_reason
    {c : Prop} [Decidable c]
    {r rest reason : RouteActionReason}
    (h : (if c then r else rest) = reason)
    (hr : r ≠ reason) :
    ¬ c ∧ rest = reason := by
  split at h
  · exact absurd h hr
  · exact ⟨‹¬ c›, h⟩

variable {q : SplitQuery} {t : TransactionSplitState}

/-- A query that passes the rungs about its shape and the positions of the session is safe. -/
theorem safe_of_rejectionReason
    {reason : RouteActionReason}
    (h : txnSplitRejectionReason q t = reason)
    (hlate : reason = .none ∨ reason = .inTransaction) :
    q.Safe := by
  have hne : ∀ r, r ≠ .none → r ≠ .inTransaction → r ≠ reason := by
    rcases hlate with rfl | rfl
    · exact fun _ hnone _ => hnone
    · exact fun _ _ htxn => htxn
  unfold txnSplitRejectionReason at h
  obtain ⟨h1, h⟩ := pass_reason h (hne _ (by decide) (by decide))
  obtain ⟨h2, h⟩ := pass_reason h (hne _ (by decide) (by decide))
  obtain ⟨h3, h⟩ := pass_reason h (hne _ (by decide) (by decide))
  obtain ⟨h4, h⟩ := pass_reason h (hne _ (by decide) (by decide))
  obtain ⟨h5, h⟩ := pass_reason h (hne _ (by decide) (by decide))
  obtain ⟨h6, h⟩ := pass_reason h (hne _ (by decide) (by decide))
  obtain ⟨h7, -⟩ := pass_reason h (hne _ (by decide) (by decide))
  exact ⟨by simpa using h1, by simpa using h2, by simpa using h3, by simpa using h4,
    by simpa using h5, by simpa using h6, by simpa using h7⟩

theorem SplitQuery.Safe.rejectionReason
    (h : q.Safe)
    (t : TransactionSplitState) :
    txnSplitRejectionReason q t =
      if t.blocked then .splitBlocked
      else if t.failed then .inTransaction
      else if t.walPending && !walPendingReplicaConfirmed t q.maxReplicaReplayLsn then .walPending
      else if t.stage != .txnSplittable &&
          !walPendingReplicaConfirmed t q.maxReplicaReplayLsn then .inTransaction
      else if t.xids = "" then .invariantViolation
      else if t.primaryLsn = 0 then .noTxnLsn
      else .none := by
  simp only [txnSplitRejectionReason, h.enabled, h.singleStatement, h.simpleProtocol, h.notLocking,
    h.safeRead, h.writeKnown, h.observedKnown, Bool.not_true, Bool.false_eq_true, if_false]

/-- An authorization is a safe query over a split-readable state. -/
theorem rejectionReason_none
    (h : txnSplitRejectionReason q t = .none) :
    q.Safe ∧ SplitReadable t q.maxReplicaReplayLsn := by
  have hsafe := safe_of_rejectionReason h (Or.inl rfl)
  rw [hsafe.rejectionReason] at h
  obtain ⟨hblocked, h⟩ := pass_reason h (by decide)
  obtain ⟨hfailed, h⟩ := pass_reason h (by decide)
  obtain ⟨hpending, h⟩ := pass_reason h (by decide)
  obtain ⟨hstage, h⟩ := pass_reason h (by decide)
  obtain ⟨hxids, h⟩ := pass_reason h (by decide)
  obtain ⟨hprimary, -⟩ := pass_reason h (by decide)
  refine ⟨hsafe, hxids, Nat.pos_of_ne_zero hprimary, by simpa using hfailed,
    by simpa using hblocked, ?_⟩
  cases hw : t.walPending with
  | false =>
      refine Or.inl ⟨rfl, ?_⟩
      have hconf : walPendingReplicaConfirmed t q.maxReplicaReplayLsn = false := by
        simp [walPendingReplicaConfirmed, hw]
      simpa [hconf] using hstage
  | true =>
      refine Or.inr ⟨rfl, ?_⟩
      have hconf : walPendingReplicaConfirmed t q.maxReplicaReplayLsn = true := by
        simpa [hw] using hpending
      simp only [walPendingReplicaConfirmed, Bool.and_eq_true, decide_eq_true_eq] at hconf
      exact hconf.2

theorem rejectionReason_none_iff :
    txnSplitRejectionReason q t = .none ↔
      q.Safe ∧ SplitReadable t q.maxReplicaReplayLsn ∧
        (t.stage = .txnOnPrimary ∨ t.stage = .txnSplittable) := by
  constructor
  · intro h
    obtain ⟨hsafe, hread⟩ := rejectionReason_none h
    refine ⟨hsafe, hread, ?_⟩
    by_contra hstage
    rw [not_or] at hstage
    have hconfirmed : walPendingReplicaConfirmed t q.maxReplicaReplayLsn = false := by
      simp [walPendingReplicaConfirmed, hstage.1, hstage.2]
    rcases hread.position with ⟨-, hsplittable⟩ | ⟨hwal, -⟩
    · exact hstage.2 hsplittable
    · rw [hsafe.rejectionReason] at h
      simp [hread.notBlocked, hread.notFailed, hwal, hconfirmed] at h
  · rintro ⟨hsafe, hread, hstage⟩
    have hprimary : t.primaryLsn ≠ 0 := Nat.ne_of_gt hread.primaryLsn
    rw [hsafe.rejectionReason]
    rcases hread.position with ⟨hwal, hsplittable⟩ | ⟨hwal, hreplayed⟩
    · simp [hread.notBlocked, hread.notFailed, hread.xids, hprimary, hwal, hsplittable]
    · have hconfirmed : walPendingReplicaConfirmed t q.maxReplicaReplayLsn = true := by
        simp [walPendingReplicaConfirmed, hwal, hstage, hread.notFailed, hread.notBlocked,
          hread.xids, hprimary, hreplayed]
      simp [hread.notBlocked, hread.notFailed, hread.xids, hprimary, hconfirmed]

/-- The queries that are rejected only because nothing was written yet. -/
theorem rejectionReason_inTransaction_iff
    (hstage : t.stage = .txnOnPrimary)
    (hxids : t.xids = "") :
    txnSplitRejectionReason q t = .inTransaction ↔
      q.Safe ∧ t.blocked = false ∧ (t.failed = true ∨ t.walPending = false) := by
  have hconfirmed : walPendingReplicaConfirmed t q.maxReplicaReplayLsn = false := by
    simp [walPendingReplicaConfirmed, hxids]
  constructor
  · intro h
    have hsafe := safe_of_rejectionReason h (Or.inr rfl)
    rw [hsafe.rejectionReason] at h
    obtain ⟨hblocked, h⟩ := pass_reason h (by decide)
    refine ⟨hsafe, by simpa using hblocked, ?_⟩
    by_cases hfailed : t.failed = true
    · exact Or.inl hfailed
    · rw [if_neg hfailed] at h
      obtain ⟨hwal, -⟩ := pass_reason h (by decide)
      right
      simpa [hconfirmed] using hwal
  · rintro ⟨hsafe, hblocked, hwal⟩
    rw [hsafe.rejectionReason]
    rcases hwal with hfailed | hwal
    · simp [hblocked, hfailed]
    · simp [hblocked, hwal, hconfirmed, hstage]

/-! ## Sequences of operations -/

/-- One operation on the transaction-split state. -/
inductive SplitOp
  | observe (r : PrimaryRfq)
  | beginRead
  | completeRead
  | failRead
  | reset
  deriving DecidableEq

/-- The state after one operation. -/
def SplitOp.apply (t : TransactionSplitState) : SplitOp → TransactionSplitState
  | .observe r => t.observePrimaryRfq r
  | .beginRead => t.beginSplitRead
  | .completeRead => t.completeSplitRead
  | .failRead => t.failSplitRead
  | .reset => t.reset

/-- Operations in any order. -/
def SplitStep (t : TransactionSplitState) (op : SplitOp) (t' : TransactionSplitState) : Prop :=
  t' = op.apply t

/-- An RFQ that reports an open transaction while split tracking is enabled. -/
def PrimaryRfq.InTransaction (r : PrimaryRfq) : Prop :=
  r.splitEnabled = true ∧ (r.status = 'T' ∨ r.status = 'E')

instance (r : PrimaryRfq) : Decidable r.InTransaction :=
  inferInstanceAs (Decidable (r.splitEnabled = true ∧ (r.status = 'T' ∨ r.status = 'E')))

/-- An RFQ that ends tracking: split disabled or transaction idle. -/
def PrimaryRfq.EndsTracking (r : PrimaryRfq) : Prop :=
  r.splitEnabled = false ∨ r.status = 'I'

instance (r : PrimaryRfq) : Decidable r.EndsTracking :=
  inferInstanceAs (Decidable (r.splitEnabled = false ∨ r.status = 'I'))

/-- What the operations so far say about the tracked transaction: its latest
in-transaction RFQ, and whether a split read completed since that RFQ. -/
structure SplitHistory where
  latestRfq : Option PrimaryRfq := none
  completedSince : Bool := false
  deriving DecidableEq

/-- Extend the history by one operation. -/
def SplitHistory.note (e : SplitHistory) : SplitOp → SplitHistory
  | .observe r =>
      if r.EndsTracking then {}
      else if r.InTransaction then { latestRfq := some r }
      else e
  | .completeRead => { e with completedSince := true }
  | .reset => {}
  | .beginRead => e
  | .failRead => e

/-- The history of a sequence of operations. -/
def splitHistory (ops : List SplitOp) : SplitHistory :=
  ops.foldl SplitHistory.note {}

@[simp]
theorem splitHistory_snoc (ops : List SplitOp) (op : SplitOp) :
    splitHistory (ops ++ [op]) = (splitHistory ops).note op := by
  simp [splitHistory]

def PrimaryRfq.MarksSplittable (r : PrimaryRfq) : Prop :=
  r.status = 'T' ∧ r.splittable = true ∧ r.walPending = false

/-- How the stored evidence relates to the operations so far. -/
structure SplitEvidence (e : SplitHistory) (t : TransactionSplitState) : Prop where
  /-- Without an in-transaction RFQ there is no XID list. -/
  untracked : e.latestRfq = none → t.xids = "" ∧ t.walPending = false
  /-- The pending-WAL marker is the one of the latest RFQ. -/
  walPending : ∀ r, e.latestRfq = some r → t.walPending = r.walPending
  /-- The failed flag is the status of the latest RFQ. -/
  failed : ∀ r, e.latestRfq = some r → t.failed = (r.status == 'E')
  /-- The latest RFQ belongs to an open transaction. -/
  open_ : ∀ r, e.latestRfq = some r → r.InTransaction
  /-- A splittable stage comes from the latest RFQ or from a completed read. -/
  splittable :
    t.stage = .txnSplittable →
      (∃ r, e.latestRfq = some r ∧ r.MarksSplittable) ∨ e.completedSince = true

theorem SplitEvidence.fresh : SplitEvidence {} {} where
  untracked := fun _ => ⟨rfl, rfl⟩
  walPending := by
    intro r h
    cases h
  failed := by
    intro r h
    cases h
  open_ := by
    intro r h
    cases h
  splittable := by
    intro h
    cases h

variable {r : PrimaryRfq}

/-- An RFQ that is neither in a transaction nor ends one leaves the state alone. -/
theorem observePrimaryRfq_ignored
    (hends : ¬ r.EndsTracking)
    (hin : ¬ r.InTransaction) :
    t.observePrimaryRfq r = t := by
  simp only [PrimaryRfq.EndsTracking, not_or, Bool.not_eq_false] at hends
  simp only [PrimaryRfq.InTransaction, hends.1, true_and, not_or] at hin
  simp [TransactionSplitState.observePrimaryRfq, hends.1, hends.2, hin.1, hin.2]

theorem observePrimaryRfq_ends
    (hends : r.EndsTracking) :
    t.observePrimaryRfq r = {} := by
  rcases hends with h | h
  · simp [TransactionSplitState.observePrimaryRfq, TransactionSplitState.reset, h]
  · simp [TransactionSplitState.observePrimaryRfq, TransactionSplitState.reset, h]

theorem observePrimaryRfq_inTransaction
    (hin : r.InTransaction) :
    (t.observePrimaryRfq r).walPending = r.walPending ∧
      (t.observePrimaryRfq r).failed = (r.status == 'E') ∧
        ((t.observePrimaryRfq r).stage = .txnSplittable → r.MarksSplittable) := by
  obtain ⟨henabled, hstatus⟩ := hin
  have hI : r.status ≠ 'I' := by
    rcases hstatus with h | h <;> rw [h] <;> decide
  have hTE : ¬ (r.status ≠ 'T' ∧ r.status ≠ 'E') := by
    tauto
  simp only [TransactionSplitState.observePrimaryRfq, henabled, Bool.not_true,
    Bool.false_eq_true, if_false, hI, hTE]
  split
  · exact ⟨rfl, rfl, fun h => by cases h⟩
  · rename_i hnotE
    simp only [not_or] at hnotE
    split
    · rename_i hsplit
      refine ⟨rfl, rfl, fun _ => ⟨by tauto, ?_, ?_⟩⟩
      · simpa [TransactionSplitState.recordRfq, hnotE.2] using hsplit.1
      · simpa [TransactionSplitState.recordRfq] using hsplit.2.1
    · split
      · exact ⟨rfl, rfl, fun h => by cases h⟩
      · rename_i hstage
        exact ⟨rfl, rfl, fun h => absurd h hstage⟩

variable {e : SplitHistory}

/-- Every operation keeps the evidence in step with the history. -/
theorem SplitEvidence.step
    (h : SplitEvidence e t)
    (op : SplitOp) :
    SplitEvidence (e.note op) (op.apply t) := by
  cases op with
  | observe r =>
      simp only [SplitHistory.note, SplitOp.apply]
      by_cases hends : r.EndsTracking
      · rw [if_pos hends, observePrimaryRfq_ends hends]
        exact SplitEvidence.fresh
      · rw [if_neg hends]
        by_cases hin : r.InTransaction
        · obtain ⟨hwal, hfailed, hstage⟩ := observePrimaryRfq_inTransaction (t := t) hin
          rw [if_pos hin]
          refine ⟨nofun, ?_, ?_, ?_, fun hs => Or.inl ⟨r, rfl, hstage hs⟩⟩
          · rintro _ ⟨⟩
            exact hwal
          · rintro _ ⟨⟩
            exact hfailed
          · rintro _ ⟨⟩
            exact hin
        · rw [if_neg hin, observePrimaryRfq_ignored hends hin]
          exact h
  | beginRead =>
      exact ⟨h.untracked, h.walPending, h.failed, h.open_, fun hs => by cases hs⟩
  | completeRead =>
      exact ⟨h.untracked, h.walPending, h.failed, h.open_, fun _ => Or.inr rfl⟩
  | failRead =>
      exact ⟨h.untracked, h.walPending, h.failed, h.open_, fun hs => by cases hs⟩
  | reset =>
      exact SplitEvidence.fresh

/-- The evidence follows the history along every sequence of operations. -/
theorem splitEvidence_run
    {ops : List SplitOp}
    (h : Run SplitStep {} ops t) :
    SplitEvidence (splitHistory ops) t := by
  refine h.history_invariant (I := fun ops t => SplitEvidence (splitHistory ops) t)
    SplitEvidence.fresh ?_
  rintro ops t op _ hev rfl
  rw [splitHistory_snoc]
  exact hev.step op

/-! ## Reads issued by the session -/

/-- The split state together with what the session knows about its own read:
whether a split read is in flight, and whether the last one just failed and may
be retried on another reader. -/
structure SplitSession where
  state : TransactionSplitState := {}
  readActive : Bool := false
  retryable : Bool := false
  deriving DecidableEq

/-- The operations a session issues.  A read starts on an authorized state or as
the retry of a read that failed with no RFQ in between; only a read in flight is
completed or failed, and the primary answers nothing while it is in flight. -/
inductive SplitSessionStep : SplitSession → SplitOp → SplitSession → Prop
  | observe {σ : SplitSession} (r : PrimaryRfq) :
      σ.readActive = false →
      SplitSessionStep σ (.observe r) { state := σ.state.observePrimaryRfq r }
  | beginRead {σ : SplitSession} :
      ((∃ q, txnSplitRejectionReason q σ.state = .none) ∨ σ.retryable = true) →
      SplitSessionStep σ .beginRead { state := σ.state.beginSplitRead, readActive := true }
  | completeRead {σ : SplitSession} :
      σ.readActive = true →
      SplitSessionStep σ .completeRead { state := σ.state.completeSplitRead }
  | failRead {σ : SplitSession} :
      σ.readActive = true →
      SplitSessionStep σ .failRead { state := σ.state.failSplitRead, retryable := true }
  | reset {σ : SplitSession} :
      SplitSessionStep σ .reset { state := σ.state.reset }

theorem SplitSessionStep.apply
    {σ σ' : SplitSession} {op : SplitOp}
    (h : SplitSessionStep σ op σ') :
    σ'.state = op.apply σ.state := by
  cases h <;> rfl

/-- The RFQ either marks the transaction splittable or reports pending WAL. -/
def SplitHistory.AllowsRead (e : SplitHistory) : Prop :=
  ∃ r, e.latestRfq = some r ∧ (r.MarksSplittable ∨ r.walPending = true)

/-- An authorized state rests on an RFQ, or on a read completed since then. -/
theorem SplitEvidence.allowsRead
    {n : Nat}
    (h : SplitEvidence e t)
    (hstage : t.stage = .txnSplittable → e.AllowsRead)
    (hread : SplitReadable t n) :
    e.AllowsRead := by
  rcases hread.position with ⟨_, hs⟩ | ⟨hwal, _⟩
  · exact hstage hs
  · cases hr : e.latestRfq with
    | none =>
        have huntracked := (h.untracked hr).2
        rw [hwal] at huntracked
        cases huntracked
    | some r =>
        exact ⟨r, hr, Or.inr ((h.walPending r hr).symm.trans hwal)⟩

/-- Invariant of a session: a splittable stage, a read in flight and a read that
may be retried all rest on the latest RFQ. -/
structure SplitSessionInv (e : SplitHistory) (σ : SplitSession) : Prop where
  evidence : SplitEvidence e σ.state
  splittable : σ.state.stage = .txnSplittable → e.AllowsRead
  readActive : σ.readActive = true → e.AllowsRead
  retryable : σ.retryable = true → e.AllowsRead

/-- Every session operation keeps the session invariant. -/
theorem SplitSessionInv.step
    {σ σ' : SplitSession} {op : SplitOp}
    (h : SplitSessionInv e σ)
    (hstep : SplitSessionStep σ op σ') :
    SplitSessionInv (e.note op) σ' := by
  have hev : SplitEvidence (e.note op) σ'.state := by
    rw [hstep.apply]
    exact h.evidence.step op
  cases hstep with
  | observe r _ =>
      refine ⟨hev, fun hs => ?_, nofun, nofun⟩
      simp only [SplitHistory.note]
      by_cases hends : r.EndsTracking
      · rw [observePrimaryRfq_ends hends] at hs
        cases hs
      · rw [if_neg hends]
        by_cases hin : r.InTransaction
        · rw [if_pos hin]
          exact ⟨r, rfl, Or.inl ((observePrimaryRfq_inTransaction hin).2.2 hs)⟩
        · rw [if_neg hin]
          rw [observePrimaryRfq_ignored hends hin] at hs
          exact h.splittable hs
  | beginRead hguard =>
      refine ⟨hev, nofun, fun _ => ?_, nofun⟩
      rcases hguard with ⟨q, hq⟩ | hretry
      · exact h.evidence.allowsRead h.splittable (rejectionReason_none hq).2
      · exact h.retryable hretry
  | completeRead hactive =>
      exact ⟨hev, fun _ => h.readActive hactive, nofun, nofun⟩
  | failRead hactive =>
      exact ⟨hev, nofun, nofun, fun _ => h.readActive hactive⟩
  | reset =>
      exact ⟨hev, nofun, nofun, nofun⟩

theorem splitSessionInv_run
    {ops : List SplitOp} {σ : SplitSession}
    (h : Run SplitSessionStep {} ops σ) :
    SplitSessionInv (splitHistory ops) σ := by
  refine h.history_invariant (I := fun ops σ => SplitSessionInv (splitHistory ops) σ)
    ⟨SplitEvidence.fresh, nofun, nofun, nofun⟩ ?_
  intro ops σ op σ' hinv hstep
  rw [splitHistory_snoc]
  exact hinv.step hstep

/-- What the latest in-transaction RFQ must say for a read to go to a replica:
it marks the transaction splittable with no pending WAL, or it reports pending
WAL and a replica is confirmed to have replayed the transaction's position. -/
def SplitRead.Justified
    (t : TransactionSplitState)
    (maxReplicaReplayLsn : Nat)
    (r : PrimaryRfq) : Prop :=
  r.MarksSplittable ∨
    (r.status = 'T' ∧ r.walPending = true ∧ t.primaryLsn ≤ maxReplicaReplayLsn)

theorem SplitEvidence.status_eq
    (h : SplitEvidence e t)
    (hr : e.latestRfq = some r)
    (hfailed : t.failed = false) :
    r.status = 'T' := by
  have hE := h.failed r hr
  rw [hfailed] at hE
  rcases (h.open_ r hr).2 with hT | hE'
  · exact hT
  · simp [hE'] at hE

theorem SplitEvidence.justified
    {n : Nat}
    (h : SplitEvidence e t)
    (hallows : e.AllowsRead)
    (hread : SplitReadable t n) :
    ∃ r, e.latestRfq = some r ∧ SplitRead.Justified t n r := by
  obtain ⟨r, hr, hmark | hwal⟩ := hallows
  · exact ⟨r, hr, Or.inl hmark⟩
  · refine ⟨r, hr, Or.inr ⟨h.status_eq hr hread.notFailed, hwal, ?_⟩⟩
    rcases hread.position with ⟨hnot, _⟩ | ⟨_, hle⟩
    · rw [h.walPending r hr, hwal] at hnot
      cases hnot
    · exact hle

/-- An XID list is only ever stored from an in-transaction RFQ. -/
theorem SplitEvidence.exists_latest
    (h : SplitEvidence e t)
    (hxids : t.xids ≠ "") :
    ∃ r, e.latestRfq = some r := by
  cases hr : e.latestRfq with
  | none =>
      exact absurd (h.untracked hr).1 hxids
  | some r =>
      exact ⟨r, rfl⟩

/-- An authorized split read rests on current evidence.  For operations in any
order the latest in-transaction RFQ justifies the read, unless that RFQ reported
no pending WAL and a split read completed since then; for the operations a
session issues it always justifies the read. -/
theorem splitAuthorization_evidence :
    (∀ (ops : List SplitOp) (t : TransactionSplitState) (q : SplitQuery),
      Run SplitStep {} ops t →
      txnSplitRejectionReason q t = .none →
      (t.xids ≠ "" ∧ 0 < t.primaryLsn ∧ t.failed = false ∧ t.blocked = false) ∧
        ∃ r, (splitHistory ops).latestRfq = some r ∧ r.status = 'T' ∧
          (SplitRead.Justified t q.maxReplicaReplayLsn r ∨
            (r.walPending = false ∧ (splitHistory ops).completedSince = true))) ∧
    (∀ (ops : List SplitOp) (σ : SplitSession) (q : SplitQuery),
      Run SplitSessionStep {} ops σ →
      txnSplitRejectionReason q σ.state = .none →
      (σ.state.xids ≠ "" ∧ 0 < σ.state.primaryLsn ∧
        σ.state.failed = false ∧ σ.state.blocked = false) ∧
        ∃ r, (splitHistory ops).latestRfq = some r ∧
          SplitRead.Justified σ.state q.maxReplicaReplayLsn r) := by
  constructor
  · intro ops t q hrun hreason
    have hev := splitEvidence_run hrun
    have hread := (rejectionReason_none hreason).2
    refine ⟨⟨hread.xids, hread.primaryLsn, hread.notFailed, hread.notBlocked⟩, ?_⟩
    obtain ⟨r, hr⟩ := hev.exists_latest hread.xids
    refine ⟨r, hr, hev.status_eq hr hread.notFailed, ?_⟩
    -- The only stage the latest RFQ does not decide is the one a completed read sets.
    by_cases hdone : (splitHistory ops).completedSince = true
    · cases hwal : r.walPending with
      | false =>
          exact Or.inr ⟨rfl, hdone⟩
      | true =>
          obtain ⟨r', hr', hjust⟩ := hev.justified ⟨r, hr, Or.inr hwal⟩ hread
          cases hr.symm.trans hr'
          exact Or.inl hjust
    · have hallows : (splitHistory ops).AllowsRead :=
        hev.allowsRead
          (fun hs => by
            obtain ⟨r', hr', hmark⟩ := (hev.splittable hs).resolve_right hdone
            exact ⟨r', hr', Or.inl hmark⟩)
          hread
      obtain ⟨r', hr', hjust⟩ := hev.justified hallows hread
      cases hr.symm.trans hr'
      exact Or.inl hjust
  · intro ops σ q hrun hreason
    have hinv := splitSessionInv_run hrun
    have hread := (rejectionReason_none hreason).2
    exact ⟨⟨hread.xids, hread.primaryLsn, hread.notFailed, hread.notBlocked⟩,
      hinv.evidence.justified
        (hinv.evidence.allowsRead hinv.splittable hread) hread⟩

/-- RFQ of a transaction with one XID and the split marker. -/
def markedRfq : PrimaryRfq :=
  { status := 'T', xids := some "7", splittable := true, primaryLsn := 5 }

/-- RFQ of a transaction with one XID whose WAL is still pending. -/
def pendingRfq : PrimaryRfq :=
  { status := 'T', xids := some "7", walPending := true, primaryLsn := 5 }

/-- A primary RFQ that marks the transaction splittable authorizes a read. -/
theorem splitAuthorization_evidence_marked :
    ∃ r, (splitHistory [.observe markedRfq]).latestRfq = some r ∧
      SplitRead.Justified (TransactionSplitState.observePrimaryRfq {} markedRfq) 0 r :=
  (splitAuthorization_evidence.2 [.observe markedRfq] _ {}
    (Run.single (SplitSessionStep.observe (σ := {}) markedRfq rfl)) (by decide)).2

/-- A replica-confirmed pending-WAL marker authorizes a read although the RFQ
does not carry the split marker. -/
theorem split_authorized_without_splittable_marker :
    ¬ ∀ (ops : List SplitOp) (t : TransactionSplitState) (q : SplitQuery),
      Run SplitStep {} ops t →
      txnSplitRejectionReason q t = .none →
      ∃ r, (splitHistory ops).latestRfq = some r ∧ r.splittable = true := by
  intro hclaim
  obtain ⟨r, hr, hsplit⟩ :=
    hclaim [.observe pendingRfq] (TransactionSplitState.observePrimaryRfq {} pendingRfq)
      { maxReplicaReplayLsn := 5 } (Run.single rfl) (by decide)
  have hlatest : (splitHistory [.observe pendingRfq]).latestRfq = some pendingRfq := by
    decide
  rw [hlatest] at hr
  cases hr
  cases hsplit

end PolarProxy
