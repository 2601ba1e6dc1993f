import PolarProxy.Positions
import PolarProxy.Plan

/-!
# Wait targets of split reads

A split read inside a transaction waits for the position that the writer reported in the
transaction.  The session target is the greatest position that the session has seen, also before the
transaction and on readers.  Both move with the results of the session: `Positions` says how the
positions move, and here the position of the transaction joins them.

`outside` follows a run: it is the session target while no transaction is tracked, and it is raised
by the positions that results bring in a tracked transaction without being those of its writer.

**Results.** `TrackedStep.inv`, `splitRead_waits_for_transaction`.
-/

namespace PolarProxy

open Transition

namespace Session

/-- The position that a result records, and whether it is the writer's in a transaction -/
def resultReading
    (s : Session) (hgm : HgmView) (conn : Option Backend) (text : Option (List Char))
    (isWrite canPreserve : Bool) : Option (Nat × Bool) :=
  conn.bind fun b =>
    let ctx := s.resultContext hgm b text isWrite canPreserve
    if s.config.isPolardbEnabled && s.query.profileEnabled &&
        rfqLsnPayloadState b.payloadPresent b.lsn == .positioned && s.accepts hgm ctx &&
          !(s.query.keepSessionLsn && ctx.fromWriter && canPreserve) then
      some (b.lsn, ctx.fromWriter && (b.txnStatus == 'T' || b.txnStatus == 'E'))
    else none

end Session

/-- The position that an event records -/
def SessionEvent.reading (s : Session) : SessionEvent → Option (Nat × Bool)
  | .result hgm conn text command =>
      s.resultReading hgm conn text (shouldAdvanceSessionWriteLsn text command)
        (queryCommandCanPreserveSessionLsn command)
  | .processDeferred hgm conn =>
      if s.extendedRfq.pending then
        s.resultReading hgm conn none s.extendedRfq.sawWrite s.extendedRfq.canPreserveSessionLsn
      else none
  | _ => none

/-- The operations on one session, with those on its split read -/
inductive TrackedEvent
  | session (e : SessionEvent)
  | beginSplitRead
  | completeSplitRead
  | failSplitRead
  | teardown

def TrackedEvent.apply (s : Session) : TrackedEvent → Session
  | .session e => (e.apply s).1
  | .beginSplitRead => { s with transactionSplit := s.transactionSplit.beginSplitRead }
  | .completeSplitRead => { s with transactionSplit := s.transactionSplit.completeSplitRead }
  | .failSplitRead => { s with transactionSplit := s.transactionSplit.failSplitRead }
  | .teardown => s.teardownTransactionReaderState

def TrackedEvent.reading (s : Session) : TrackedEvent → Option (Nat × Bool)
  | .session e => e.reading s
  | _ => none

/-- A session, the positions that it has from outside of its tracked transaction, and the positions
that the writer reported in it -/
structure Tracked where
  session : Session
  outside : Nat
  inside : Nat

/-- The position of a reading that is not the writer's in a transaction -/
def outsideReading : Option (Nat × Bool) → Nat
  | some (lsn, false) => lsn
  | _ => 0

/-- The position of a reading that is the writer's in a transaction -/
def insideReading : Option (Nat × Bool) → Nat
  | some (lsn, true) => lsn
  | _ => 0

namespace Tracked

/-- A session before its transactions are followed -/
def start (s : Session) : Tracked :=
  { session := s, outside := s.consistency.target, inside := 0 }

/-- What is outside before an event records anything: a new writer scope starts from nothing, and
without a tracked transaction everything is outside. -/
def outsideBase (σ : Tracked) (t : Session) : Nat :=
  if t.consistency.writerScope ≠ σ.session.consistency.writerScope then 0
  else if σ.session.transactionSplit.active then σ.outside
  else σ.session.consistency.target

/-- What is inside before an event records anything -/
def insideBase (σ : Tracked) (t : Session) : Nat :=
  if t.consistency.writerScope = σ.session.consistency.writerScope ∧
      σ.session.transactionSplit.active = true then σ.inside
  else 0

def next (σ : Tracked) (e : TrackedEvent) : Tracked :=
  let t := e.apply σ.session
  let reading := e.reading σ.session
  { session := t
    outside :=
      if t.transactionSplit.active then max (σ.outsideBase t) (outsideReading reading)
      else t.consistency.target
    inside :=
      if t.transactionSplit.active then max (σ.insideBase t) (insideReading reading) else 0 }

/-- In a tracked transaction the session target lies between what is outside and what the writer
reported. -/
structure Inv (σ : Tracked) : Prop where
  outside_le : σ.session.transactionSplit.active = true → σ.outside ≤ σ.session.consistency.target
  target_le : σ.session.transactionSplit.active = true →
    σ.session.consistency.target ≤ max σ.outside σ.session.transactionSplit.primaryLsn
  inside_le : σ.session.transactionSplit.active = true →
    σ.inside ≤ σ.session.transactionSplit.primaryLsn

end Tracked

def TrackedStep (σ : Tracked) (e : TrackedEvent) (τ : Tracked) : Prop :=
  τ = σ.next e

/-! ## What an event moves -/

/-- How an event that records a reading moves the target and the position of the transaction -/
structure TargetMoved (s t : Session) (reading : Option (Nat × Bool)) : Prop where
  target : t.consistency.target =
    max (if t.consistency.writerScope = s.consistency.writerScope then s.consistency.target else 0)
      ((reading.map Prod.fst).getD 0)
  folded : t.transactionSplit.active = true → insideReading reading ≤ t.transactionSplit.primaryLsn
  kept : t.transactionSplit.active = true →
    t.consistency.writerScope = s.consistency.writerScope → s.transactionSplit.active = true →
      s.transactionSplit.primaryLsn ≤ t.transactionSplit.primaryLsn

theorem outsideReading_le (reading : Option (Nat × Bool)) :
    outsideReading reading ≤ (reading.map Prod.fst).getD 0 := by
  rcases reading with _ | ⟨lsn, _ | _⟩
  · exact Nat.le_refl _
  · exact Nat.le_refl _
  · exact Nat.zero_le _

theorem reading_le_sides (reading : Option (Nat × Bool)) :
    (reading.map Prod.fst).getD 0 ≤ max (outsideReading reading) (insideReading reading) := by
  rcases reading with _ | ⟨lsn, _ | _⟩
  · exact Nat.zero_le _
  · exact le_max_left _ _
  · exact le_max_right _ _

variable {σ : Tracked}

theorem outsideBase_le
    (hinv : σ.Inv)
    (t : Session) :
    σ.outsideBase t ≤
      if t.consistency.writerScope = σ.session.consistency.writerScope then
        σ.session.consistency.target
      else 0 := by
  unfold Tracked.outsideBase
  by_cases hscope : t.consistency.writerScope = σ.session.consistency.writerScope
  · rw [if_neg (not_not_intro hscope), if_pos hscope]
    split
    case isTrue hactive =>
      exact hinv.outside_le hactive
    case isFalse =>
      exact Nat.le_refl _
  · rw [if_pos hscope, if_neg hscope]

variable {reading : Option (Nat × Bool)}

/-- What the session had before an event is outside or belongs to the transaction. -/
theorem TargetMoved.target_le_bases
    {t : Session}
    (h : TargetMoved σ.session t reading)
    (hinv : σ.Inv)
    (hactive : t.transactionSplit.active = true) :
    (if t.consistency.writerScope = σ.session.consistency.writerScope then
        σ.session.consistency.target
      else 0) ≤ max (σ.outsideBase t) t.transactionSplit.primaryLsn := by
  unfold Tracked.outsideBase
  by_cases hscope : t.consistency.writerScope = σ.session.consistency.writerScope
  · rw [if_neg (not_not_intro hscope), if_pos hscope]
    split
    case isTrue hbefore =>
      have hle := hinv.target_le hbefore
      have hkept := h.kept hactive hscope hbefore
      omega
    case isFalse =>
      exact le_max_left _ _
  · rw [if_neg hscope]
    exact Nat.zero_le _

theorem TargetMoved.insideBase_le
    {t : Session}
    (h : TargetMoved σ.session t reading)
    (hinv : σ.Inv)
    (hactive : t.transactionSplit.active = true) :
    σ.insideBase t ≤ t.transactionSplit.primaryLsn := by
  unfold Tracked.insideBase
  split
  case isTrue hsame =>
    exact (hinv.inside_le hsame.2).trans (h.kept hactive hsame.1 hsame.2)
  case isFalse =>
    exact Nat.zero_le _

/-- One step keeps the session target between the two. -/
theorem TargetMoved.inv
    {e : TrackedEvent}
    (h : TargetMoved σ.session (e.apply σ.session) (e.reading σ.session))
    (hinv : σ.Inv) :
    (σ.next e).Inv := by
  have htarget : (σ.next e).session.consistency.target = _ := h.target
  constructor
  · intro hactive
    have hnext : (σ.next e).outside = max (σ.outsideBase (e.apply σ.session))
        (outsideReading (e.reading σ.session)) := if_pos hactive
    have hbase := outsideBase_le hinv (e.apply σ.session)
    have hreading := outsideReading_le (e.reading σ.session)
    omega
  · intro hactive
    have hnext : (σ.next e).outside = max (σ.outsideBase (e.apply σ.session))
        (outsideReading (e.reading σ.session)) := if_pos hactive
    have hprimary : (σ.next e).session.transactionSplit.primaryLsn =
      (e.apply σ.session).transactionSplit.primaryLsn := rfl
    have hfolded := h.folded hactive
    have hread := reading_le_sides (e.reading σ.session)
    have hold := h.target_le_bases hinv hactive
    omega
  · intro hactive
    have hnext : (σ.next e).inside = max (σ.insideBase (e.apply σ.session))
        (insideReading (e.reading σ.session)) := if_pos hactive
    have hfolded := h.folded hactive
    have hbase := h.insideBase_le hinv hactive
    rw [hnext]
    exact max_le hbase hfolded

/-! ## The target after an event -/

namespace SessionConsistency

theorem rebound_target (c : SessionConsistency) (scope : WriterScope) :
    (c.rebound scope).target =
      if (c.rebound scope).writerScope = c.writerScope then c.target else 0 := by
  by_cases hscope : (c.rebound scope).writerScope = c.writerScope
  · rw [if_pos hscope, rebound_of_scope_eq hscope]
  · rw [if_neg hscope, rebound_of_scope_ne hscope]
    rfl

theorem merge_target (c : SessionConsistency) (lsn : Nat) (fromWriter isWrite : Bool) :
    (c.merge lsn fromWriter isWrite).target = max c.target lsn := by
  cases isWrite with
  | true =>
      simp only [merge, target, if_true]
      split_ifs <;> omega
  | false =>
      simp only [merge, target, Bool.false_eq_true, if_false]
      split_ifs <;> omega

end SessionConsistency

variable {e : SessionEvent}

theorem PositionMove.target_of_rfq_none
    {s : Session} {c : SessionConsistency}
    (h : PositionMove s e c)
    (hrfq : e.rfq = none) :
    c.target = if c.writerScope = s.consistency.writerScope then s.consistency.target else 0 := by
  induction h with
  | same =>
      exact (if_pos rfl).symm
  | bind scope _ =>
      exact s.consistency.rebound_target scope
  | bindRequest hgm b hsome _ =>
      rw [hrfq] at hsome
      cases hsome
  | merge hgm b _ _ hsome _ _ =>
      rw [hrfq] at hsome
      cases hsome
  | writeUnknown _ ih =>
      exact ih
  | observedUnknown _ ih =>
      exact ih

/-! ## The position of the transaction after an event -/

namespace Session

/-- The split state of `s` is kept in `t` or dropped. -/
def KeepsSplit (s t : Session) : Prop :=
  t.transactionSplit = s.transactionSplit ∨ t.transactionSplit = {}

theorem KeepsSplit.of_eq
    {s t : Session}
    (h : t.transactionSplit = s.transactionSplit) :
    s.KeepsSplit t :=
  Or.inl h

theorem KeepsSplit.trans
    {s t u : Session}
    (h : s.KeepsSplit t)
    (h' : t.KeepsSplit u) :
    s.KeepsSplit u := by
  rcases h' with hkept | hdropped
  · rcases h with hfirst | hfirst
    · exact Or.inl (hkept.trans hfirst)
    · exact Or.inr (hkept.trans hfirst)
  · exact Or.inr hdropped

variable (s : Session)

theorem snapshotRequestPolicy_keepsSplit (vars : ThreadVars) (hgConfig : HgConfigSnapshot) :
    s.KeepsSplit (s.snapshotRequestPolicy vars hgConfig) := by
  unfold snapshotRequestPolicy
  simp only
  split_ifs
  · exact Or.inl rfl
  · exact Or.inr rfl
  · exact Or.inl rfl

theorem rebind_keepsSplit (scope : WriterScope) :
    s.KeepsSplit (s.rebindSessionLsnScope scope) := by
  unfold rebindSessionLsnScope
  simp only
  split_ifs
  all_goals first | exact Or.inl rfl | exact Or.inr rfl

theorem rebind_split_of_scope_eq
    {scope : WriterScope}
    (h : (s.rebindSessionLsnScope scope).consistency.writerScope = s.consistency.writerScope) :
    (s.rebindSessionLsnScope scope).transactionSplit = s.transactionSplit := by
  by_cases hvalid : scope.Valid
  · rw [rebind_consistency, SessionConsistency.rebound_writerScope hvalid] at h
    have hmatch : s.consistency.writerScope.Matches scope :=
      WriterScope.matches_iff.mpr ⟨h ▸ hvalid, h.symm⟩
    have hscope : s.consistency.writerScope.Valid := h ▸ hvalid
    unfold rebindSessionLsnScope
    simp [hvalid, hscope, hmatch]
  · unfold rebindSessionLsnScope
    rw [if_pos hvalid]

theorem applyRequestScope_split_of_scope_eq
    (h : s.applyRequestScopeToSessionLsn.consistency.writerScope = s.consistency.writerScope) :
    s.applyRequestScopeToSessionLsn.transactionSplit = s.transactionSplit := by
  unfold applyRequestScopeToSessionLsn at h ⊢
  split at h
  case isTrue hsame =>
    rw [if_pos hsame]
  case isFalse hother =>
    rw [if_neg hother]
    exact s.rebind_split_of_scope_eq h

theorem activate_keepsSplit (workerGeneration : Option Nat) :
    s.KeepsSplit (s.activateSessionForRequest workerGeneration) := by
  unfold activateSessionForRequest
  split
  · exact Or.inl rfl
  · exact Or.inl rfl

theorem observeTxnWaitSafety_keepsSplit (req : Request) (text : List Char) :
    s.KeepsSplit (s.observeTxnWaitSafety req text) := by
  unfold observeTxnWaitSafety
  simp only
  split
  · exact Or.inl rfl
  · exact Or.inl rfl
  · exact Or.inl rfl

theorem bindRequest_keepsSplit
    (vars : ThreadVars) (workerGeneration : Option Nat) (scope : WriterScope)
    (hgConfig : HgConfigSnapshot) :
    s.KeepsSplit (s.bindRequest vars workerGeneration scope hgConfig) := by
  have hpolicy := s.snapshotRequestPolicy_keepsSplit vars hgConfig
  unfold bindRequest
  refine KeepsSplit.trans ?_ (activate_keepsSplit _ workerGeneration)
  simp only
  split_ifs
  · exact hpolicy.trans (rebind_keepsSplit { s.snapshotRequestPolicy vars hgConfig with
      query := { (s.snapshotRequestPolicy vars hgConfig).query with requestWriterScope := scope } }
      scope)
  · exact hpolicy.trans (rebind_keepsSplit _ scope)
  · exact hpolicy

theorem observeRouteInputs_keepsSplit
    (vars : ThreadVars) (workerGeneration : Option Nat) (currentHg : Int)
    (hgConfig : HgConfigSnapshot) (req : Request) :
    s.KeepsSplit (s.observeRouteInputs vars workerGeneration currentHg hgConfig req) := by
  have hbind := s.bindRequest_keepsSplit vars workerGeneration (hgConfig.routeScope currentHg)
    hgConfig
  unfold observeRouteInputs
  simp only
  split
  · exact Or.inl rfl
  · split
    · exact hbind.trans (observeTxnWaitSafety_keepsSplit { s.bindRequest vars workerGeneration
        (hgConfig.routeScope currentHg) hgConfig with query := _ } req _)
    · exact hbind

theorem observe_keepsSplit
    (vars : ThreadVars) (workerGeneration : Option Nat) (currentHg : Int)
    (hgConfig : HgConfigSnapshot) (req : Request) :
    s.KeepsSplit (observeAndCollect s vars workerGeneration currentHg hgConfig req).1 := by
  have hinputs := observeRouteInputs_keepsSplit
    { s with query := { s.query.resetReaderPlan with requestWriterScope := {} } }
    vars workerGeneration currentHg hgConfig req
  unfold observeAndCollect
  simp only
  split_ifs
  · exact Or.inl rfl
  · exact hinputs
  · exact hinputs

theorem capture_keepsSplit
    (vars : ThreadVars) (workerGeneration : Option Nat) (scopeHg : Int)
    (hgConfig : HgConfigSnapshot) :
    s.KeepsSplit (s.captureRequestWriterScope vars workerGeneration scopeHg hgConfig) := by
  unfold captureRequestWriterScope
  simp only
  split
  · exact Or.inl rfl
  · refine KeepsSplit.trans (KeepsSplit.trans ?_ (rebind_keepsSplit _ _)) (activate_keepsSplit _ _)
    exact snapshotRequestPolicy_keepsSplit { s with query := _ } vars hgConfig

theorem abandon_keepsSplit : s.KeepsSplit s.abandonDeferredExtendedRfq :=
  Or.inl rfl

theorem failRequest_keepsSplit (failure waiting : Bool) :
    s.KeepsSplit (s.failRequest failure waiting) := by
  unfold failRequest failDeferred
  simp only
  split_ifs
  all_goals exact Or.inl rfl

end Session

theorem SessionEvent.keepsSplit
    {s : Session}
    (hrfq : e.rfq = none) :
    s.KeepsSplit (e.apply s).1 := by
  cases e with
  | observe vars generation currentHg hgConfig req =>
      exact s.observe_keepsSplit vars generation currentHg hgConfig req
  | capture vars generation scopeHg hgConfig =>
      exact s.capture_keepsSplit vars generation scopeHg hgConfig
  | rebind scope =>
      exact s.rebind_keepsSplit scope
  | activate generation =>
      exact s.activate_keepsSplit generation
  | selectReader spec reached now fallback =>
      refine Session.KeepsSplit.of_eq ?_
      simp only [SessionEvent.apply, Session.finishReaderWaitSelection]
      split_ifs <;> rfl
  | finalizeWrapper =>
      exact Or.inl rfl
  | notice active wrapper =>
      refine Session.KeepsSplit.of_eq ?_
      simp only [SessionEvent.apply, Session.handleLsnWaitTimeoutNotice,
        Session.accountWaitTimeout, Session.finishWait_fst]
      split_ifs <;> rfl
  | error wrapped timeout =>
      refine Session.KeepsSplit.of_eq ?_
      simp only [SessionEvent.apply, Session.handleWrapperSetError, Session.accountWaitTimeout,
        Session.finishWait_fst]
      split_ifs <;> rfl
  | finish hgm conn =>
      refine Session.KeepsSplit.of_eq ?_
      simp only [SessionEvent.apply, Session.finishWait_fst]
  | publish p =>
      obtain ⟨keep, hfst⟩ := s.prepareClientReadyLsn_fst p.hgm p.conn p.payloadPresent p.lsn
        p.processingClientQuery p.policy
      refine Session.KeepsSplit.of_eq ?_
      simp only [SessionEvent.apply, hfst]
  | result hgm conn text command =>
      cases conn with
      | none =>
          exact Or.inl rfl
      | some b =>
          cases hrfq
  | deferResult _ _ _ | retainPublication _ =>
      exact Or.inl rfl
  | retainEvidence hgm conn =>
      refine Session.KeepsSplit.of_eq ?_
      simp only [SessionEvent.apply]
      split <;> rfl
  | prepareDeferred =>
      refine Session.KeepsSplit.of_eq ?_
      simp only [SessionEvent.apply, Session.prepareDeferredExtendedRfq]
      split <;> rfl
  | processDeferred hgm conn =>
      cases conn with
      | none =>
          refine Session.KeepsSplit.of_eq ?_
          simp only [SessionEvent.apply, Session.processDeferredExtendedRfq,
            Session.processResultWithAttribution]
          split_ifs <;> rfl
      | some b =>
          cases hrfq
  | completePublication =>
      refine Session.KeepsSplit.of_eq ?_
      simp only [SessionEvent.apply, Session.completeDeferredExtendedRfqPublication]
      split <;> rfl
  | abandon =>
      exact s.abandon_keepsSplit
  | queryEnd hgm conn failure waiting continues =>
      simp only [SessionEvent.apply, Session.clearRequestStateForQueryEnd, Session.finishWait_fst]
      exact s.failRequest_keepsSplit failure waiting
  | reset override frameActive =>
      refine Session.KeepsSplit.of_eq ?_
      simp only [SessionEvent.apply, Session.clearStagedWaitStateForReset]
      split_ifs <;> rfl

theorem SessionEvent.reading_of_rfq_none
    {s : Session}
    (hrfq : e.rfq = none) :
    e.reading s = none := by
  cases e with
  | result hgm conn text command =>
      cases conn with
      | none =>
          rfl
      | some b =>
          cases hrfq
  | processDeferred hgm conn =>
      cases conn with
      | none =>
          exact ite_self none
      | some b =>
          cases hrfq
  | _ =>
      rfl

theorem TargetMoved.of_keepsSplit
    {s t : Session}
    (htarget : t.consistency.target =
      if t.consistency.writerScope = s.consistency.writerScope then s.consistency.target else 0)
    (hsplit : s.KeepsSplit t) :
    TargetMoved s t none := by
  refine ⟨?_, ?_, ?_⟩
  · rw [htarget]
    exact (Nat.max_zero _).symm
  · intro _
    exact Nat.zero_le _
  · intro hactive _ _
    rcases hsplit with hsame | hdropped
    · rw [hsame]
    · rw [hdropped] at hactive
      exact absurd hactive Bool.false_ne_true

/-! ## What an RFQ folds into the transaction -/

/-- While the transaction stays tracked its position covers the earlier one and `lsn`. -/
def TransactionSplitState.Covers (t u : TransactionSplitState) (lsn : Nat) : Prop :=
  u.active = true → t.primaryLsn ≤ u.primaryLsn ∧ lsn ≤ u.primaryLsn

theorem observePrimaryRfq_primaryLsn
    {t : TransactionSplitState} {r : PrimaryRfq}
    (hin : r.InTransaction) :
    (t.observePrimaryRfq r).primaryLsn = max t.primaryLsn r.primaryLsn := by
  obtain ⟨henabled, hstatus⟩ := hin
  have hI : r.status ≠ 'I' := by
    rcases hstatus with h | h <;> rw [h] <;> decide
  have hTE : ¬ (r.status ≠ 'T' ∧ r.status ≠ 'E') := by
    tauto
  have hrecord : (t.recordRfq r).primaryLsn = max t.primaryLsn r.primaryLsn := by
    simp only [TransactionSplitState.recordRfq]
    split_ifs <;> omega
  simp only [TransactionSplitState.observePrimaryRfq, henabled, Bool.not_true,
    Bool.false_eq_true, if_false, hI, hTE]
  split_ifs
  all_goals exact hrecord

theorem observePrimaryRfq_covers
    (t : TransactionSplitState) (r : PrimaryRfq) :
    t.Covers (t.observePrimaryRfq r)
      (if r.status = 'T' ∨ r.status = 'E' then r.primaryLsn else 0) := by
  intro hactive
  by_cases hends : r.EndsTracking
  · rw [observePrimaryRfq_ends hends] at hactive
    exact absurd hactive Bool.false_ne_true
  by_cases hin : r.InTransaction
  · rw [observePrimaryRfq_primaryLsn hin, if_pos hin.2]
    omega
  · have henabled : r.splitEnabled = true := by
      simpa using (not_or.mp hends).1
    rw [observePrimaryRfq_ignored hends hin, if_neg (fun h => hin ⟨henabled, h⟩)]
    omega

namespace Session

theorem observeTransactionSplit_covers
    (s : Session) (b : Backend) (lsn : Nat) (enabled : Bool) :
    s.transactionSplit.Covers (s.observeTransactionSplit b lsn enabled).transactionSplit
      (if b.txnStatus = 'T' ∨ b.txnStatus = 'E' then lsn else 0) := by
  have hfold := observePrimaryRfq_covers s.transactionSplit
    { status := b.txnStatus
      xids := b.txnXids
      splittable := b.txnSplittable
      walPending := b.txnWalPending
      primaryLsn := lsn
      splitEnabled := enabled }
  unfold observeTransactionSplit
  simp only
  split
  · intro hactive
    exact absurd hactive Bool.false_ne_true
  · split
    · intro hactive
      exact absurd hactive Bool.false_ne_true
    · exact hfold

/-- An RFQ without a position leaves the position of the transaction. -/
theorem observeTransactionSplit_covers_zero (s : Session) (b : Backend) (enabled : Bool) :
    s.transactionSplit.Covers (s.observeTransactionSplit b 0 enabled).transactionSplit 0 := by
  have h := s.observeTransactionSplit_covers b 0 enabled
  rw [ite_self] at h
  exact h

theorem TargetMoved.of_requestScope
    {s t : Session}
    (hconsistency : t.consistency.writerScope =
      s.applyRequestScopeToSessionLsn.consistency.writerScope)
    (htarget : t.consistency.target =
      max s.applyRequestScopeToSessionLsn.consistency.target ((reading.map Prod.fst).getD 0))
    (hcovers : s.applyRequestScopeToSessionLsn.transactionSplit.Covers t.transactionSplit
      (insideReading reading)) :
    TargetMoved s t reading := by
  have hbound : s.applyRequestScopeToSessionLsn.consistency.target =
      if s.applyRequestScopeToSessionLsn.consistency.writerScope = s.consistency.writerScope then
        s.consistency.target
      else 0 := by
    rw [applyRequestScope_consistency]
    exact s.consistency.rebound_target _
  refine ⟨?_, ?_, ?_⟩
  · rw [htarget, hbound, hconsistency]
  · intro hactive
    exact (hcovers hactive).2
  · intro hactive hscope _
    rw [← s.applyRequestScope_split_of_scope_eq (hconsistency ▸ hscope)]
    exact (hcovers hactive).1

theorem processZero_moved (s : Session) (ctx : ResultProcessContext) :
    TargetMoved s (s.processZeroRfqLsn ctx) none := by
  have hobserve := s.applyRequestScopeToSessionLsn.observeTransactionSplit_covers_zero ctx.backend
    ctx.splitObservationEnabled
  have hkept : s.applyRequestScopeToSessionLsn.transactionSplit.Covers
      s.applyRequestScopeToSessionLsn.transactionSplit 0 :=
    fun _ => ⟨Nat.le_refl _, Nat.zero_le _⟩
  unfold processZeroRfqLsn
  simp only
  split_ifs
  · exact TargetMoved.of_keepsSplit (if_pos rfl).symm (Or.inl rfl)
  · exact TargetMoved.of_requestScope (by simp) (by simp) hobserve
  · exact TargetMoved.of_requestScope (by simp) (by simp [SessionConsistency.target]) hobserve
  · exact TargetMoved.of_requestScope rfl (Nat.max_zero _).symm hkept
  · exact TargetMoved.of_requestScope (by simp) (by simp) hobserve
  · exact TargetMoved.of_requestScope rfl (Nat.max_zero _).symm hkept

theorem processMissing_moved (s : Session) (ctx : ResultProcessContext) :
    TargetMoved s (s.processMissingRfqLsn ctx) none := by
  have hobserve := s.applyRequestScopeToSessionLsn.observeTransactionSplit_covers_zero ctx.backend
    ctx.splitObservationEnabled
  have hkept : s.applyRequestScopeToSessionLsn.transactionSplit.Covers
      s.applyRequestScopeToSessionLsn.transactionSplit 0 :=
    fun _ => ⟨Nat.le_refl _, Nat.zero_le _⟩
  unfold processMissingRfqLsn
  simp only
  split_ifs
  · exact TargetMoved.of_keepsSplit (if_pos rfl).symm (Or.inl rfl)
  · exact TargetMoved.of_requestScope (by simp) (by simp) hobserve
  · exact TargetMoved.of_requestScope (by simp) (by simp [SessionConsistency.target]) hobserve
  · exact TargetMoved.of_requestScope rfl (Nat.max_zero _).symm hkept
  · exact TargetMoved.of_requestScope (by simp) (by simp [SessionConsistency.target]) hobserve
  · exact TargetMoved.of_requestScope rfl (Nat.max_zero _).symm hkept
  · exact TargetMoved.of_requestScope (by simp) (by simp) hobserve
  · exact TargetMoved.of_requestScope rfl (Nat.max_zero _).symm hkept

/-- The split state after an RFQ depends on the split state before it only. -/
theorem observeTransactionSplit_split_congr
    {s t : Session}
    (h : s.transactionSplit = t.transactionSplit)
    (b : Backend) (lsn : Nat) (enabled : Bool) :
    (s.observeTransactionSplit b lsn enabled).transactionSplit =
      (t.observeTransactionSplit b lsn enabled).transactionSplit := by
  unfold observeTransactionSplit
  simp only [h]
  split
  · rfl
  · split
    · rfl
    · rfl

theorem processPositioned_split
    {s : Session} {hgm : HgmView} {ctx : ResultProcessContext}
    (haccepts : s.accepts hgm ctx = true)
    (hkeep :
      ¬ (s.query.keepSessionLsn && ctx.fromWriter && ctx.queryCanPreserveSessionLsn) = true) :
    (s.processPositionedRfqLsn hgm ctx).transactionSplit =
      if ctx.fromWriter then
        (s.applyRequestScopeToSessionLsn.observeTransactionSplit ctx.backend ctx.backend.lsn
          ctx.splitObservationEnabled).transactionSplit
      else s.applyRequestScopeToSessionLsn.transactionSplit := by
  have hnot : ¬ (!s.accepts hgm ctx) = true := by
    simpa using haccepts
  unfold processPositionedRfqLsn
  simp only
  change (if (!s.accepts hgm ctx) = true then s else _).transactionSplit = _
  rw [if_neg hnot, if_neg hkeep]
  cases ctx.fromWriter with
  | true =>
      cases ctx.isWrite with
      | true =>
          apply observeTransactionSplit_split_congr
          rfl
      | false =>
          apply observeTransactionSplit_split_congr
          rfl
  | false =>
      cases ctx.isWrite with
      | true =>
          rfl
      | false =>
          rfl

theorem processPositioned_split_of_keep
    {s : Session} {hgm : HgmView} {ctx : ResultProcessContext}
    (haccepts : s.accepts hgm ctx = true)
    (hkeep : (s.query.keepSessionLsn && ctx.fromWriter && ctx.queryCanPreserveSessionLsn) = true) :
    (s.processPositionedRfqLsn hgm ctx).transactionSplit =
      (s.applyRequestScopeToSessionLsn.observeTransactionSplit ctx.backend 0
        ctx.splitObservationEnabled).transactionSplit := by
  have hnot : ¬ (!s.accepts hgm ctx) = true := by
    simpa using haccepts
  unfold processPositionedRfqLsn
  simp only
  change (if (!s.accepts hgm ctx) = true then s else _).transactionSplit = _
  rw [if_neg hnot, if_pos hkeep]

/-- What an RFQ with a position records -/
def positionReading (s : Session) (hgm : HgmView) (ctx : ResultProcessContext) :
    Option (Nat × Bool) :=
  if s.accepts hgm ctx &&
      !(s.query.keepSessionLsn && ctx.fromWriter && ctx.queryCanPreserveSessionLsn) then
    some (ctx.backend.lsn,
      ctx.fromWriter && (ctx.backend.txnStatus == 'T' || ctx.backend.txnStatus == 'E'))
  else none

theorem inTransactionStatus_eq (b : Backend) :
    (b.txnStatus == 'T' || b.txnStatus == 'E') = true ↔ b.txnStatus = 'T' ∨ b.txnStatus = 'E' := by
  rw [Bool.or_eq_true, beq_iff_eq, beq_iff_eq]

theorem processPositioned_moved (s : Session) (hgm : HgmView) (ctx : ResultProcessContext) :
    TargetMoved s (s.processPositionedRfqLsn hgm ctx) (s.positionReading hgm ctx) := by
  have hconsistency := s.processPositioned_consistency hgm ctx
  unfold positionReading
  by_cases haccepts : s.accepts hgm ctx = true
  · rw [haccepts, Bool.not_true, if_neg Bool.false_ne_true] at hconsistency
    rw [haccepts, Bool.true_and]
    by_cases hkeep :
        (s.query.keepSessionLsn && ctx.fromWriter && ctx.queryCanPreserveSessionLsn) = true
    · rw [if_pos hkeep, ← applyRequestScope_consistency] at hconsistency
      rw [hkeep, Bool.not_true, if_neg Bool.false_ne_true]
      refine TargetMoved.of_requestScope ?_ ?_ ?_
      · rw [hconsistency]
      · rw [hconsistency]
        exact (Nat.max_zero _).symm
      · rw [processPositioned_split_of_keep haccepts hkeep]
        exact observeTransactionSplit_covers_zero _ _ _
    · rw [if_neg hkeep, ← applyRequestScope_consistency] at hconsistency
      rw [eq_false_of_ne_true hkeep, Bool.not_false, if_pos rfl]
      refine TargetMoved.of_requestScope ?_ ?_ ?_
      · rw [hconsistency]
        rfl
      · rw [hconsistency]
        exact SessionConsistency.merge_target _ _ _ _
      · rw [processPositioned_split haccepts hkeep]
        cases hwriter : ctx.fromWriter with
        | true =>
            have hcovers := s.applyRequestScopeToSessionLsn.observeTransactionSplit_covers
              ctx.backend ctx.backend.lsn ctx.splitObservationEnabled
            rw [if_pos rfl]
            by_cases hin : ctx.backend.txnStatus = 'T' ∨ ctx.backend.txnStatus = 'E'
            · rw [if_pos hin] at hcovers
              rw [(inTransactionStatus_eq ctx.backend).2 hin]
              exact hcovers
            · rw [if_neg hin] at hcovers
              rw [eq_false_of_ne_true (mt (inTransactionStatus_eq ctx.backend).1 hin)]
              exact hcovers
        | false =>
            exact fun _ => ⟨Nat.le_refl _, Nat.zero_le _⟩
  · have hflag := eq_false_of_ne_true haccepts
    have hunchanged : s.processPositionedRfqLsn hgm ctx = s := by
      unfold processPositionedRfqLsn
      exact if_pos (congrArg Bool.not hflag)
    rw [hflag, hunchanged]
    exact TargetMoved.of_keepsSplit (if_pos rfl).symm (Or.inl rfl)

theorem processResult_moved
    (s : Session) (hgm : HgmView) (conn : Option Backend) (text : Option (List Char))
    (isWrite canPreserve : Bool) :
    TargetMoved s (s.processResultWithAttribution hgm conn text isWrite canPreserve)
      (s.resultReading hgm conn text isWrite canPreserve) := by
  have hidle : TargetMoved s s none := TargetMoved.of_keepsSplit (if_pos rfl).symm (Or.inl rfl)
  cases conn with
  | none =>
      exact hidle
  | some b =>
      simp only [processResultWithAttribution, resultReading, Option.bind_some]
      cases henabled : s.config.isPolardbEnabled with
      | false =>
          exact hidle
      | true =>
          cases hprofile : s.query.profileEnabled with
          | false =>
              exact hidle
          | true =>
              cases rfqLsnPayloadState b.payloadPresent b.lsn with
              | positioned =>
                  exact s.processPositioned_moved hgm _
              | zero =>
                  exact s.processZero_moved _
              | missing =>
                  exact s.processMissing_moved _

theorem processDeferred_moved (s : Session) (hgm : HgmView) (conn : Option Backend) :
    TargetMoved s (s.processDeferredExtendedRfq hgm conn)
      (SessionEvent.reading s (.processDeferred hgm conn)) := by
  have hresult := s.processResult_moved hgm conn none s.extendedRfq.sawWrite
    s.extendedRfq.canPreserveSessionLsn
  unfold processDeferredExtendedRfq SessionEvent.reading
  cases hpending : s.extendedRfq.pending with
  | false =>
      exact TargetMoved.of_keepsSplit (if_pos rfl).symm (Or.inl rfl)
  | true =>
      simp only [Bool.not_true, Bool.false_eq_true, if_false, if_true]
      split
      · exact ⟨hresult.target, hresult.folded, hresult.kept⟩
      · exact ⟨hresult.target, hresult.folded, hresult.kept⟩

end Session

/-- Every operation moves the target and the position of the transaction so. -/
theorem SessionEvent.moved (s : Session) (e : SessionEvent) :
    TargetMoved s (e.apply s).1 (e.reading s) := by
  by_cases hrfq : e.rfq = none
  · rw [SessionEvent.reading_of_rfq_none hrfq]
    exact TargetMoved.of_keepsSplit ((e.positionMove s).target_of_rfq_none hrfq)
      (SessionEvent.keepsSplit hrfq)
  · cases e with
    | result hgm conn text command =>
        exact s.processResult_moved hgm conn text _ _
    | processDeferred hgm conn =>
        exact s.processDeferred_moved hgm conn
    | _ =>
        exact absurd rfl hrfq

theorem TrackedEvent.moved (s : Session) (e : TrackedEvent) :
    TargetMoved s (e.apply s) (e.reading s) := by
  cases e with
  | session e =>
      exact e.moved s
  | beginSplitRead | completeSplitRead | failSplitRead =>
      exact ⟨by simp [TrackedEvent.apply, TrackedEvent.reading], fun _ => Nat.zero_le _,
        fun _ _ _ => Nat.le_refl _⟩
  | teardown =>
      exact TargetMoved.of_keepsSplit (if_pos rfl).symm (Or.inr rfl)

/-- One step keeps the session target between the two sides. -/
theorem TrackedStep.inv
    {σ τ : Tracked} {e : TrackedEvent}
    (h : TrackedStep σ e τ)
    (hinv : σ.Inv) :
    τ.Inv := by
  rw [show τ = σ.next e from h]
  exact TargetMoved.inv (e.moved σ.session) hinv

/-- A run that starts without a tracked transaction keeps the session target between the two. -/
theorem tracked_inv
    {s : Session} {es : List TrackedEvent}
    (hidle : s.transactionSplit.active = false)
    (hrun : Run TrackedStep (Tracked.start s) es σ) :
    σ.Inv := by
  have hstart : (Tracked.start s).Inv := by
    constructor
    · intro hactive
      exact absurd (hidle.symm.trans hactive) Bool.false_ne_true
    · intro hactive
      exact absurd (hidle.symm.trans hactive) Bool.false_ne_true
    · intro hactive
      exact absurd (hidle.symm.trans hactive) Bool.false_ne_true
  exact hrun.invariant hstart (fun hinv hstep => TrackedStep.inv hstep hinv)

/-! ## What a split read waits for -/

section Plan

variable {env : PlanEnv} {ctx : RouteCtx}

theorem missingLsn_action_ne
    (reason : RouteActionReason) (missing fallback writerHg readerHg : Int) (allow : Bool) :
    (missingLsn reason missing fallback writerHg readerHg allow).action ≠ .replicaTxnSplit := by
  unfold missingLsn
  simp only
  split_ifs
  all_goals exact nofun

theorem planMissingLsn_action_ne (reason : RouteActionReason) (allow checked : Bool) :
    (planMissingLsn ctx reason allow checked).action ≠ .replicaTxnSplit :=
  missingLsn_action_ne reason _ _ _ _ allow

theorem planConsistencyRead_action_ne
    {plan : RoutePlan}
    (mode : ConsistencyMode) (txnWaitRead : Bool) :
    (planConsistencyRead env ctx mode plan txnWaitRead).action ≠ .replicaTxnSplit := by
  unfold planConsistencyRead
  simp only
  split_ifs
  · exact nofun
  · exact planMissingLsn_action_ne _ _ _
  · exact planMissingLsn_action_ne _ _ _
  · exact planMissingLsn_action_ne _ _ _
  · exact nofun
  · exact nofun

theorem planNoReader_action_ne : (planNoReader ctx).action ≠ .replicaTxnSplit := by
  unfold planNoReader
  split
  · exact nofun
  · exact nofun

theorem planEventual_action_ne : (planEventual ctx).action ≠ .replicaTxnSplit := by
  unfold planEventual
  split
  · exact nofun
  · exact nofun

variable {mode : ConsistencyMode}

theorem planSplitRead_target
    (h : (planSplitRead env ctx mode).action = .replicaTxnSplit) :
    (ctx.splitTarget env mode).2 = false ∧
      (planSplitRead env ctx mode).waitSpec.target = (ctx.splitTarget env mode).1 := by
  unfold planSplitRead at h ⊢
  simp only at h ⊢
  by_cases hgroup : (ctx.splitTarget env mode).2 = true
  · rw [if_pos hgroup] at h
    exact absurd h (planMissingLsn_action_ne _ _ _)
  · rw [if_neg hgroup, attachReaderLagCap_eq]
    exact ⟨eq_false_of_ne_true hgroup, rfl⟩

theorem planTransaction_split
    (h : (planTransaction env ctx mode).action = .replicaTxnSplit) :
    ctx.splitReason env = .none ∧ (ctx.splitTarget env mode).2 = false ∧
      (planTransaction env ctx mode).waitSpec.target = (ctx.splitTarget env mode).1 := by
  unfold planTransaction at h ⊢
  by_cases hpre : ctx.isPrewriteRead env = true
  · rw [if_pos hpre] at h
    split at h
    · exact absurd h (planConsistencyRead_action_ne mode true)
    · cases h
  · rw [if_neg hpre] at h ⊢
    by_cases hreason : ctx.splitReason env ≠ .none
    · rw [if_pos hreason] at h
      cases h
    · rw [if_neg hreason] at h ⊢
      exact ⟨not_not.mp hreason, planSplitRead_target h⟩

theorem planLsn_split
    (h : (planLsn env ctx mode).action = .replicaTxnSplit) :
    ctx.splitReason env = .none ∧ (ctx.splitTarget env mode).2 = false ∧
      (planLsn env ctx mode).waitSpec.target = (ctx.splitTarget env mode).1 := by
  unfold planLsn at h ⊢
  split at h
  case isTrue =>
    cases h
  case isFalse hpolicy =>
    rw [if_neg hpolicy]
    split at h
    case isTrue hin =>
      rw [if_pos hin]
      exact planTransaction_split h
    case isFalse =>
      exact absurd h (planConsistencyRead_action_ne mode false)

theorem polardbPlan_split
    (h : (polardbPlan env ctx).action = .replicaTxnSplit) :
    ctx.splitReason env = .none ∧ (ctx.splitTarget env ctx.mode).2 = false ∧
      (polardbPlan env ctx).waitSpec.target = (ctx.splitTarget env ctx.mode).1 := by
  have hplan : polardbPlan env ctx = planLsn env ctx ctx.mode := by
    unfold polardbPlan at h ⊢
    split_ifs at h ⊢
    · cases h
    · cases h
    · cases h
    · cases h
    · exact absurd h planNoReader_action_ne
    · exact absurd h planEventual_action_ne
    · rfl
  rw [hplan] at h ⊢
  exact planLsn_split h

theorem active_of_splitReason
    (h : ctx.splitReason env = .none) :
    ctx.transactionSplit.active = true := by
  obtain ⟨-, -, hstage⟩ := rejectionReason_none_iff.mp h
  rcases hstage with hstage | hstage
  · simp [TransactionSplitState.active, hstage]
  · simp [TransactionSplitState.active, hstage]

end Plan

/-- A collected context with a tracked transaction holds the session after its observation. -/
theorem observe_ctx_of_active
    {s : Session} {vars : ThreadVars} {workerGeneration : Option Nat} {currentHg : Int}
    {hgConfig : HgConfigSnapshot} {req : Request}
    (h : (observeAndCollect s vars workerGeneration currentHg hgConfig
      req).2.transactionSplit.active = true) :
    (observeAndCollect s vars workerGeneration currentHg hgConfig req).2.session =
        (observeAndCollect s vars workerGeneration currentHg hgConfig req).1.consistency ∧
      (observeAndCollect s vars workerGeneration currentHg hgConfig req).2.transactionSplit =
        (observeAndCollect s vars workerGeneration currentHg hgConfig req).1.transactionSplit := by
  unfold observeAndCollect at h ⊢
  cases hpolar : hgConfig.isPolardbHostgroup with
  | false =>
      rw [hpolar] at h
      exact absurd h Bool.false_ne_true
  | true =>
      cases hoff : vars.profileOff with
      | false =>
          simp only [polardbCollect, hpolar, Bool.not_true, Bool.false_eq_true, if_false]
          exact ⟨trivial, trivial⟩
      | true =>
          rw [hpolar, hoff] at h
          exact absurd h Bool.false_ne_true

/-- In every run, a read that is planned as a transaction-split read waits for every position that
the writer reported in the transaction, and under `GLOBAL_LSN` for the group position.  It waits for
the session target exactly when it waits for what the session has from outside of the transaction. -/
theorem splitRead_waits_for_transaction
    {s : Session} {es : List TrackedEvent} {σ : Tracked}
    (hidle : s.transactionSplit.active = false)
    (hrun : Run TrackedStep (Tracked.start s) es σ)
    (env : PlanEnv) (vars : ThreadVars) (workerGeneration : Option Nat) (currentHg : Int)
    (hgConfig : HgConfigSnapshot) (req : Request)
    (hsplit : (polardbPlan env (observeAndCollect σ.session vars workerGeneration currentHg hgConfig
      req).2).action = .replicaTxnSplit) :
    let ctx := (observeAndCollect σ.session vars workerGeneration currentHg hgConfig req).2
    let τ := σ.next (.session (.observe vars workerGeneration currentHg hgConfig req))
    let target := (polardbPlan env ctx).waitSpec.target
    τ.inside ≤ target ∧ ctx.transactionSplit.primaryLsn ≤ target ∧
      (ctx.mode = .globalLsn → env.groupLsn ≤ target) ∧
        (ctx.session.target ≤ target ↔ τ.outside ≤ target) := by
  intro ctx τ target
  obtain ⟨hreason, hknown, htarget⟩ := polardbPlan_split hsplit
  have hactive := active_of_splitReason hreason
  obtain ⟨hsession, htransaction⟩ := observe_ctx_of_active hactive
  obtain ⟨hprimary, hgroup⟩ := splitTarget_known hknown
  rw [← htarget] at hprimary hgroup
  have hinv : τ.Inv := TrackedStep.inv rfl (tracked_inv hidle hrun)
  have hτ : τ.session.transactionSplit.active = true := by
    rw [htransaction] at hactive
    exact hactive
  have hlast : τ.session.transactionSplit.primaryLsn ≤ target := by
    rw [htransaction] at hprimary
    exact hprimary
  have hposition : ctx.session.target = τ.session.consistency.target :=
    congrArg SessionConsistency.target hsession
  refine ⟨(hinv.inside_le hτ).trans hlast, hprimary, fun hglobal => (hgroup hglobal).2, ?_⟩
  rw [hposition]
  constructor
  · intro hle
    exact (hinv.outside_le hτ).trans hle
  · intro hle
    exact (hinv.target_le hτ).trans (max_le hle hlast)

/-! ## A transaction that reads its replica twice -/

theorem tracked_run (σ : Tracked) (es : List TrackedEvent) :
    Run TrackedStep σ es (es.foldl Tracked.next σ) := by
  induction es generalizing σ with
  | nil =>
      exact Run.nil
  | cons e rest ih =>
      have hfirst : Run TrackedStep σ [e] (σ.next e) := Run.single rfl
      exact hfirst.append (ih (σ.next e))

/-- A replication pair that splits transactions -/
def splitHostgroups : HgConfigSnapshot :=
  { isPolardbHostgroup := true
    writerHostgroup := 0
    readerHostgroup := 1
    writerEpoch := 1
    policy := { txnSplitEnabled := true } }

def splitHgm : HgmView :=
  { cachedConfig := fun _ => splitHostgroups
    snapshotScope := fun _ => some splitHostgroups.writerScope
    guardedScope := fun _ => splitHostgroups.writerScope }

/-- The writer in an open transaction that has written -/
def splitWriter : Backend :=
  { hostgroup := some 0
    lsn := 10
    payloadPresent := true
    txnStatus := 'T'
    txnXids := some "7"
    txnSplittable := true }

def aheadReader : Backend :=
  { hostgroup := some 1, lsn := 12, payloadPresent := true }

def insertText : List Char := "insert into t values (1)".toList

def selectText : List Char := "select 1".toList

def insertRequest : Request :=
  { text := some insertText, inTransaction := true }

def selectRequest : Request :=
  { text := some selectText, command := .select, inTransaction := true }

def writeThenSplitRead : List TrackedEvent :=
  [.session (.observe {} (some 1) 0 splitHostgroups insertRequest),
    .session (.result splitHgm (some splitWriter) (some insertText) .unknown),
    .session (.observe {} (some 1) 0 splitHostgroups selectRequest),
    .beginSplitRead,
    .session (.result splitHgm (some aheadReader) (some selectText) .select),
    .completeSplitRead]

def afterSplitRead : Tracked :=
  writeThenSplitRead.foldl Tracked.next (Tracked.start {})

/-- The next read of the transaction -/
def secondSplitRead : RouteCtx :=
  (observeAndCollect afterSplitRead.session {} (some 1) 0 splitHostgroups selectRequest).2

/-- The second split read waits for the write of the transaction. -/
theorem splitRead_waits_for_write : 10 ≤ (polardbPlan {} secondSplitRead).waitSpec.target := by
  have hsplit : (polardbPlan {} secondSplitRead).action = .replicaTxnSplit := by
    decide
  have hrun := tracked_run (Tracked.start {}) writeThenSplitRead
  exact (splitRead_waits_for_transaction rfl hrun {} {} (some 1) 0 splitHostgroups selectRequest
    hsplit).2.1

/-- The second split read waits below the position that the first one saw. -/
theorem splitRead_waits_below_first_read :
    ¬ ∀ (es : List TrackedEvent) (σ : Tracked),
      Run TrackedStep (Tracked.start {}) es σ →
      ∀ (env : PlanEnv) (vars : ThreadVars) (workerGeneration : Option Nat) (currentHg : Int)
        (hgConfig : HgConfigSnapshot) (req : Request),
        let ctx := (observeAndCollect σ.session vars workerGeneration currentHg hgConfig req).2
        (polardbPlan env ctx).action = .replicaTxnSplit →
          ctx.session.target ≤ (polardbPlan env ctx).waitSpec.target := by
  intro hclaim
  have hrun := tracked_run (Tracked.start {}) writeThenSplitRead
  have hsplit : (polardbPlan {} secondSplitRead).action = .replicaTxnSplit := by
    decide
  have hle : secondSplitRead.session.target ≤ (polardbPlan {} secondSplitRead).waitSpec.target :=
    hclaim writeThenSplitRead afterSplitRead hrun {} {} (some 1) 0 splitHostgroups selectRequest
      hsplit
  exact absurd hle (by decide)

end PolarProxy
