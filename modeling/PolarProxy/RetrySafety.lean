import PolarProxy.SplitRetries

/-!
# Safe retries

`Tracked` says what holds of the course of a request that was planned, and `FailureSafe` what
becomes of a failure where it holds: the actions that are kept with the query permit a retry,
one retry at most goes to another reader and none follows one on the writer, a read of a
transaction split goes to the writer only while that holds the transaction, and the client is
told of an open transaction exactly when there is one.

**Results.** `captureReadFailure_captured`, `handleFailure_safe`.
-/

namespace PolarProxy

namespace Failures

open Wrapping FailureSession

/-! ## What is captured -/

/-- What is captured of a failure that is none of a split read -/
structure Captured (s : FailureSession) (outcome : RequestOutcome) (h : Handling) : Prop where
  session : h.session.withoutBuffers = s.withoutBuffers
  started : h.failure.resultStarted = outcome.resultStarted
  kind : readerFailureKindFor h.failure = readerFailureKindFor (failureFromOutcome outcome)
  failedMyds : h.failure.failedMyds = outcome.backendMyds
  notSplit : h.failure.requestKind ≠ .split
  plan : h.failure.requestKind ≠ .none → h.failure.readerPlan = s.query.readerPlan
  waits : h.failure.waitSpec.hasWait = true →
    s.query.wait.spec.hasWait = true ∨ s.query.readerWaitSpec.hasWait = true
  wait : h.failure.requestKind = .wait → h.txnWaitReaderFailed.isSome = true ∨
    s.query.wait.waitStage = .waiting ∨ h.failure.waitSpec.hasWait = true
  ordinary : h.failure.requestKind = .ordinary →
    s.query.readerPlan.consistencyMode ≠ .off ∧ s.txnReader.waitReadActive = false
  unknown : h.failure.requestKind = .none → h.txnWaitReaderFailed = none

namespace Handling

variable {s : FailureSession} {outcome : RequestOutcome} {h : Handling}

theorem noteWait_waits
    {f : ReaderFailure}
    (hwait : (noteWait s f).waitSpec.hasWait = true) :
    s.query.wait.spec.hasWait = true ∨ s.query.readerWaitSpec.hasWait = true := by
  unfold noteWait at hwait
  simp only at hwait
  split at hwait
  · exact Or.inl hwait
  · split at hwait
    · exact Or.inr hwait
    · exact absurd hwait Bool.false_ne_true

/-- A failure whose kind is still open -/
structure Noted (s : FailureSession) (outcome : RequestOutcome) (h : Handling) : Prop where
  session : h.session.withoutBuffers = s.withoutBuffers
  started : h.failure.resultStarted = outcome.resultStarted
  kind : readerFailureKindFor h.failure = readerFailureKindFor (failureFromOutcome outcome)
  failedMyds : h.failure.failedMyds = outcome.backendMyds
  plan : h.failure.readerPlan = s.query.readerPlan
  waits : h.failure.waitSpec.hasWait = true →
    s.query.wait.spec.hasWait = true ∨ s.query.readerWaitSpec.hasWait = true

theorem captureWaitReadFailure_noted :
    Noted s outcome
        (captureWaitReadFailure { session := s, failure := failureFromOutcome outcome }) ∧
      ((captureWaitReadFailure { session := s, failure := failureFromOutcome outcome }
          ).failure.requestKind = .none ∨
        (captureWaitReadFailure { session := s, failure := failureFromOutcome outcome }
          ).failure.requestKind = .wait ∧
        (s.query.wait.waitStage = .waiting ∨
          (captureWaitReadFailure { session := s, failure := failureFromOutcome outcome }
            ).failure.waitSpec.hasWait = true)) := by
  have hnoted := noteWait_waits (s := s) (f := failureFromOutcome outcome)
  unfold captureWaitReadFailure
  simp only
  split
  · rename_i hg hmyds
    refine ⟨⟨rfl, rfl, rfl, rfl, rfl, hnoted⟩, Or.inr ⟨rfl, Or.inr ?_⟩⟩
    have hextended := (Option.filter_eq_some_iff.mp hmyds).2
    simp only [Bool.and_eq_true] at hextended
    exact hextended.1.2
  · split
    · rename_i hfinalized
      refine ⟨⟨rfl, rfl, rfl, rfl, rfl, hnoted⟩, Or.inr ⟨rfl, Or.inl ?_⟩⟩
      simp only [finalizedSimpleWait, Bool.and_eq_true, beq_iff_eq] at hfinalized
      exact hfinalized.1.1.1.2
    · exact ⟨⟨rfl, rfl, rfl, rfl, rfl, hnoted⟩, Or.inl rfl⟩

theorem captureTxnWaitReadFailure_noted
    (env : FailureEnv)
    (hnoted : Noted s outcome h)
    (hkind : h.failure.requestKind = .none) :
    Noted s outcome (h.captureTxnWaitReadFailure env) ∧
      ((h.captureTxnWaitReadFailure env).failure.requestKind = .none ∧
          (h.captureTxnWaitReadFailure env).txnWaitReaderFailed = none ∨
        (h.captureTxnWaitReadFailure env).failure.requestKind = .wait ∧
          (h.captureTxnWaitReadFailure env).txnWaitReaderFailed.isSome = true) := by
  unfold captureTxnWaitReadFailure
  cases hfailed : h.txnWaitReaderFailed with
  | none =>
      exact ⟨hnoted, Or.inl ⟨hkind, hfailed⟩⟩
  | some hg =>
      refine ⟨⟨hnoted.session, hnoted.started, hnoted.kind, hnoted.failedMyds, hnoted.plan,
        hnoted.waits⟩, Or.inr ⟨rfl, ?_⟩⟩
      exact Option.isSome_iff_exists.mpr ⟨hg, hfailed⟩

theorem Noted.captured
    (hnoted : Noted s outcome h)
    (hwait : h.failure.requestKind = .none ∧ h.txnWaitReaderFailed = none ∨
      h.failure.requestKind = .wait ∧
        (h.txnWaitReaderFailed.isSome = true ∨ s.query.wait.waitStage = .waiting ∨
          h.failure.waitSpec.hasWait = true)) :
    Captured s outcome h where
  session := hnoted.session
  started := hnoted.started
  kind := hnoted.kind
  failedMyds := hnoted.failedMyds
  notSplit := by
    rcases hwait with ⟨hnone, -⟩ | ⟨hwait, -⟩
    · rw [hnone]
      exact RequestKind.noConfusion
    · rw [hwait]
      exact RequestKind.noConfusion
  plan := fun _ => hnoted.plan
  waits := hnoted.waits
  wait := fun hkind => hwait.elim (fun hnone => absurd (hnone.1.symm.trans hkind) (by simp))
    fun h => h.2
  ordinary := fun hkind => hwait.elim (fun hnone => absurd (hnone.1.symm.trans hkind) (by simp))
    fun h => absurd (h.1.symm.trans hkind) (by simp)
  unknown := fun hkind => hwait.elim (fun hnone => hnone.2)
    fun h => absurd (h.1.symm.trans hkind) (by simp)

theorem captureOrdinaryReaderFailure_captured
    (hnoted : Noted s outcome h)
    (hkind : h.failure.requestKind = .none)
    (hfailed : h.txnWaitReaderFailed = none) :
    Captured s outcome h.captureOrdinaryReaderFailure := by
  unfold captureOrdinaryReaderFailure
  simp only
  split
  · rename_i hordinary
    have hcourse := course_eq hnoted.session
    have hquery : h.session.query = s.query := congrArg Course.query hcourse
    have hreader : h.session.txnReader = s.txnReader := congrArg Course.txnReader hcourse
    exact
      { session := hnoted.session
        started := hnoted.started
        kind := hnoted.kind
        failedMyds := hnoted.failedMyds
        notSplit := RequestKind.noConfusion
        plan := fun _ => congrArg QueryState.readerPlan hquery
        waits := hnoted.waits
        wait := fun hwait => absurd hwait RequestKind.noConfusion
        ordinary := fun _ =>
          ⟨hquery ▸ hordinary.2.2.2.2.1, hreader ▸ hordinary.2.1⟩
        unknown := fun hnone => absurd hnone RequestKind.noConfusion }
  · exact hnoted.captured (Or.inl ⟨hkind, hfailed⟩)

theorem captureReadFailure_captured
    (env : FailureEnv) :
    Captured s outcome
      (captureReadFailure { session := s, failure := failureFromOutcome outcome } env) := by
  obtain ⟨hnoted, hkind⟩ := @captureWaitReadFailure_noted s outcome
  unfold captureReadFailure
  simp only
  generalize captureWaitReadFailure { session := s, failure := failureFromOutcome outcome } = h
    at hnoted hkind
  rcases hkind with hnone | ⟨hwait, hwaits⟩
  · have hopen : (if h.failure.requestKind = .wait then h else h.captureTxnWaitReadFailure env) =
        h.captureTxnWaitReadFailure env := if_neg (by simp [hnone])
    rw [hopen]
    obtain ⟨hnoted', hkind'⟩ := captureTxnWaitReadFailure_noted env hnoted hnone
    generalize h.captureTxnWaitReadFailure env = k at hnoted' hkind'
    rcases hkind' with ⟨hnone', hidle⟩ | ⟨hwait', hfailed⟩
    · rw [if_neg (by simp [hnone'])]
      exact captureOrdinaryReaderFailure_captured hnoted' hnone' hidle
    · rw [if_pos hwait']
      exact hnoted'.captured (Or.inr ⟨hwait', Or.inl hfailed⟩)
  · have hknown : (if h.failure.requestKind = .wait then h else h.captureTxnWaitReadFailure env) =
        h := if_pos hwait
    rw [hknown, if_pos hwait]
    exact hnoted.captured (Or.inr ⟨hwait, Or.inr hwaits⟩)

end Handling

/-! ## What holds of a course -/

/-- The query has a target to wait for, or waits for it. -/
def Awaits (q : QueryState) : Prop :=
  q.wait.waitStage = .waiting ∨ q.wait.spec.hasWait = true ∨ q.readerWaitSpec.hasWait = true

/-- The targets that a request is sent to again at most, the latest first -/
def retryOrder : List RetryTarget :=
  [.writer, .otherReader]

/-- What holds of the course of a request that was planned -/
structure Tracked (planned : ReaderPlan) (c : Course) : Prop where
  plan : c.query.readerPlan = planned ∨
    c.query.readerPlan = {} ∧ c.txnReader.splitActive = false ∧ ¬ Awaits c.query
  reader : c.txnReader.active = true → c.inTransaction = true ∧ c.txnReader.backend = some c.mybe
  outside : c.txnReader.active = false →
    Awaits c.query ∨ c.query.readerPlan.consistencyMode ≠ .off → c.inTransaction = false
  split : c.txnReader.splitActive = true → ¬ Awaits c.query
  attempts : c.attempts = c.retries.count .otherReader
  once : c.attempts ≤ 1
  settled : .writer ∈ c.retries →
    c.query.readerPlan = {} ∧ ¬ Awaits c.query ∧ c.txnReader.active = false
  order : c.retries.Sublist retryOrder

section Tracking

variable {planned : ReaderPlan} {c d : Course}

/-- The course differs at most in how far its wait got, and that is not further. -/
structure Kept (c d : Course) : Prop where
  plan : d.query.readerPlan = c.query.readerPlan
  awaits : Awaits d.query → Awaits c.query
  splitActive : d.txnReader.splitActive = c.txnReader.splitActive
  waitReadActive : d.txnReader.waitReadActive = c.txnReader.waitReadActive
  backend : d.txnReader.backend = c.txnReader.backend
  mybe : d.mybe = c.mybe
  inTransaction : d.inTransaction = c.inTransaction
  attempts : d.attempts = c.attempts
  retries : d.retries = c.retries

theorem Kept.refl :
    Kept c c :=
  ⟨rfl, id, rfl, rfl, rfl, rfl, rfl, rfl, rfl⟩

theorem Kept.active
    (h : Kept c d) :
    d.txnReader.active = c.txnReader.active := by
  rw [TxnReaderState.active, TxnReaderState.active, h.splitActive, h.waitReadActive]

theorem Tracked.kept
    (htracked : Tracked planned c)
    (h : Kept c d) :
    Tracked planned d where
  plan := by
    rw [h.plan, h.splitActive]
    exact htracked.plan.imp id fun hplan => ⟨hplan.1, hplan.2.1, fun hd => hplan.2.2 (h.awaits hd)⟩
  reader := by
    rw [h.active, h.inTransaction, h.backend, h.mybe]
    exact htracked.reader
  outside := by
    rw [h.active, h.plan, h.inTransaction]
    exact fun hactive hneeds => htracked.outside hactive (hneeds.imp h.awaits id)
  split := by
    rw [h.splitActive]
    exact fun hsplit hd => htracked.split hsplit (h.awaits hd)
  attempts := by
    rw [h.attempts, h.retries]
    exact htracked.attempts
  once := by
    rw [h.attempts]
    exact htracked.once
  settled := by
    rw [h.retries, h.plan, h.active]
    exact fun hmem => ⟨(htracked.settled hmem).1, fun hd => (htracked.settled hmem).2.1 (h.awaits hd),
      (htracked.settled hmem).2.2⟩
  order := by
    rw [h.retries]
    exact htracked.order

theorem Tracked.order_otherReader
    (htracked : Tracked planned c)
    (hunsettled : .writer ∉ c.retries)
    (hattempts : c.attempts < readerRetryLimit) :
    (.otherReader :: c.retries).Sublist retryOrder := by
  have hnone : c.retries = [] := by
    rw [List.eq_nil_iff_forall_not_mem]
    rintro (_ | _) hmem
    · exact hunsettled hmem
    · have hpos := List.count_pos_iff.mpr hmem
      rw [← htracked.attempts] at hpos
      exact absurd (Nat.lt_of_lt_of_le hattempts hpos) (Nat.lt_irrefl _)
  rw [hnone]
  exact List.sublist_append_right [RetryTarget.writer] [RetryTarget.otherReader]

theorem Tracked.order_writer
    (htracked : Tracked planned c)
    (hunsettled : .writer ∉ c.retries) :
    (.writer :: c.retries).Sublist retryOrder := by
  refine List.Sublist.cons_cons _ ?_
  rcases List.sublist_cons_iff.mp htracked.order with h | ⟨r, hr, -⟩
  · exact h
  · exact absurd (hr ▸ List.mem_cons_self) hunsettled

/-- A course that goes on with another reader, which nothing was sent to before -/
theorem Tracked.toOtherReader
    (htracked : Tracked planned c)
    (hunsettled : .writer ∉ c.retries)
    (hattempts : c.attempts < readerRetryLimit)
    (hplan : d.query.readerPlan = planned)
    (hreader : d.txnReader.active = true →
      d.inTransaction = true ∧ d.txnReader.backend = some d.mybe)
    (houtside : d.txnReader.active = false → d.inTransaction = false)
    (hsplit : d.txnReader.splitActive = true → ¬ Awaits d.query)
    (hd : d.attempts = c.attempts + 1 ∧ d.retries = .otherReader :: c.retries) :
    Tracked planned d where
  plan := Or.inl hplan
  reader := hreader
  outside := fun hidle _ => houtside hidle
  split := hsplit
  attempts := by rw [hd.1, hd.2, List.count_cons_self, htracked.attempts]
  once := hd.1 ▸ hattempts
  settled := fun h => by
    rw [hd.2, List.mem_cons] at h
    exact absurd (h.resolve_left RetryTarget.noConfusion) hunsettled
  order := hd.2 ▸ htracked.order_otherReader hunsettled hattempts

theorem Tracked.cleared
    (htracked : Tracked planned c)
    (hplan : d.query.readerPlan = {})
    (hawaits : ¬ Awaits d.query)
    (hactive : d.txnReader.active = false)
    (hattempts : d.attempts = c.attempts)
    (hretries : d.retries.count .otherReader = c.retries.count .otherReader)
    (horder : d.retries.Sublist retryOrder) :
    Tracked planned d where
  plan := by
    simp only [TxnReaderState.active, Bool.or_eq_false_iff] at hactive
    exact Or.inr ⟨hplan, hactive.1, hawaits⟩
  reader := fun h => absurd (hactive.symm.trans h) Bool.false_ne_true
  outside := fun _ hneeds => hneeds.elim (fun h => absurd h hawaits)
    fun h => absurd (by rw [hplan]) h
  split := fun _ => hawaits
  attempts := by rw [hattempts, hretries, htracked.attempts]
  once := hattempts ▸ htracked.once
  settled := fun _ => ⟨hplan, hawaits, hactive⟩
  order := horder

theorem clearedRoute_awaits
    (q : QueryState) :
    ¬ Awaits (Handling.clearedRoute q) := by
  rintro (h | h | h)
  · exact WaitStage.noConfusion h
  · exact Bool.false_ne_true h
  · exact Bool.false_ne_true h

theorem resetWait_awaits
    {q : QueryState}
    (h : Awaits q.resetWait) :
    Awaits q := by
  rcases h with h | h | h
  · exact WaitStage.noConfusion h
  · exact absurd h Bool.false_ne_true
  · exact Or.inr (Or.inr h)

end Tracking

/-! ## A failure -/

/-- The outcome of the backend in use, as a failure of it is handled -/
def FailureSession.outcome (s : FailureSession) : RequestOutcome :=
  s.captureRequestOutcome (some s.mybe)

def FailureSession.failureKind (s : FailureSession) : FailureKind :=
  readerFailureKindFor (failureFromOutcome s.outcome)

/-- The transaction of the session has no writer any more: its scope is not current, or the
backend that held it is gone. -/
def WriterLost (s : FailureSession) (env : FailureEnv) (scope : WriterScope) : Prop :=
  writerScopeIsCurrent env.hgConfig scope = false ∨
    s.findOpenTransactionBackend scope.hg (some s.mybe) = none ∧
      (s.transactionSplit.xids ≠ "" ∨ s.transactionPersistentHostgroup ≠ -1)

section Failing

variable {planned : ReaderPlan} {s : FailureSession} {env : FailureEnv}

theorem outcome_backend :
    s.outcome.backend = some s.mybe ∧ s.outcome.backendMyds = some s.mybe := by
  unfold FailureSession.outcome captureRequestOutcome
  simp only
  split <;> exact ⟨rfl, rfl⟩

theorem resolveWriterState_lost
    {f : ReaderFailure}
    (hbackend : f.readerBackend = some s.mybe)
    (hlost : WriterLost s env f.writerScope) :
    (s.resolveWriterState env f).1 = .lost := by
  unfold resolveWriterState
  simp only
  split
  · rfl
  rename_i hvalid
  split
  · rfl
  rename_i hconfig
  simp only [not_or, not_not] at hvalid hconfig
  rcases hlost with hscope | ⟨hnone, hevidence⟩
  · simp [writerScopeIsCurrent, hvalid, hconfig.2.1, hconfig.2.2] at hscope
    exact absurd hscope (by simpa using hconfig.1)
  · rw [hbackend, hnone]
    simp only
    rw [if_pos hevidence]

/-- What is known of a retry in a state whose course is tracked -/
structure Retried (s : FailureSession) (result : FailureResult) (target : RetryTarget) :
    Prop where
  retries : result.left.session.retries = target :: s.retries
  notStarted : s.outcome.resultStarted = false
  permits : Permits s.query.readerPlan s.failureKind target
  once : target = .otherReader → s.readerRetryAttempts < readerRetryLimit

/-- What becomes of a failure in a state whose course is tracked -/
structure FailureSafe (planned : ReaderPlan) (s : FailureSession) (env : FailureEnv)
    (result : FailureResult) : Prop where
  retried : result.action = .retry → ∃ target, Retried s result target
  plan : result.action = .retry → s.query.readerPlan = planned ∨
    s.query.readerPlan = {} ∧ s.txnReader.waitReadActive = true
  holds : result.action = .retry → s.txnReader.splitActive = true →
    result.left.session.retries = .writer :: s.retries →
      Handling.HoldsTransaction env s.txnReader.writerScope result.left.session
  lost : s.txnReader.splitActive = true → WriterLost s env s.txnReader.writerScope →
    result.action = .terminate
  answered : result.action = .forward →
    Answered s result.left.session (if s.inTransaction then 'T' else 'I')
  tracked : result.action = .retry → Tracked planned result.left.session.course
  passed : result.action = .passthrough →
    Tracked planned result.left.session.course ∧ result.left.session.txnReader.active = false

namespace FailureSafe

variable {result : FailureResult}

theorem of_retry
    {target : RetryTarget}
    (hretry : result.action = .retry)
    (hretried : Retried s result target)
    (hplan : s.query.readerPlan = planned ∨
      s.query.readerPlan = {} ∧ s.txnReader.waitReadActive = true)
    (hholds : s.txnReader.splitActive = true →
      result.left.session.retries = .writer :: s.retries →
        Handling.HoldsTransaction env s.txnReader.writerScope result.left.session)
    (hnext : Tracked planned result.left.session.course)
    (hlive : s.txnReader.splitActive = true → ¬ WriterLost s env s.txnReader.writerScope) :
    FailureSafe planned s env result where
  retried := fun _ => ⟨target, hretried⟩
  plan := fun _ => hplan
  holds := fun _ => hholds
  lost := fun hsplit hlost => absurd hlost (hlive hsplit)
  answered := fun h => absurd (h.symm.trans hretry) FailureAction.noConfusion
  tracked := fun _ => hnext
  passed := fun h => absurd (h.symm.trans hretry) FailureAction.noConfusion

theorem of_forward
    (hforward : result.action = .forward)
    (hanswered : Answered s result.left.session (if s.inTransaction then 'T' else 'I'))
    (hlive : s.txnReader.splitActive = true → ¬ WriterLost s env s.txnReader.writerScope) :
    FailureSafe planned s env result where
  retried := fun h => absurd (h.symm.trans hforward) FailureAction.noConfusion
  plan := fun h => absurd (h.symm.trans hforward) FailureAction.noConfusion
  holds := fun h => absurd (h.symm.trans hforward) FailureAction.noConfusion
  lost := fun hsplit hlost => absurd hlost (hlive hsplit)
  answered := fun _ => hanswered
  tracked := fun h => absurd (h.symm.trans hforward) FailureAction.noConfusion
  passed := fun h => absurd (h.symm.trans hforward) FailureAction.noConfusion

theorem of_terminate
    (hend : result.action = .terminate) :
    FailureSafe planned s env result where
  retried := fun h => absurd (h.symm.trans hend) FailureAction.noConfusion
  plan := fun h => absurd (h.symm.trans hend) FailureAction.noConfusion
  holds := fun h => absurd (h.symm.trans hend) FailureAction.noConfusion
  lost := fun _ _ => hend
  answered := fun h => absurd (h.symm.trans hend) FailureAction.noConfusion
  tracked := fun h => absurd (h.symm.trans hend) FailureAction.noConfusion
  passed := fun h => absurd (h.symm.trans hend) FailureAction.noConfusion

theorem of_passthrough
    (hpassed : result.action = .passthrough)
    (hnext : Tracked planned result.left.session.course ∧
      result.left.session.txnReader.active = false)
    (hlive : s.txnReader.splitActive = true → ¬ WriterLost s env s.txnReader.writerScope) :
    FailureSafe planned s env result where
  retried := fun h => absurd (h.symm.trans hpassed) FailureAction.noConfusion
  plan := fun h => absurd (h.symm.trans hpassed) FailureAction.noConfusion
  holds := fun h => absurd (h.symm.trans hpassed) FailureAction.noConfusion
  lost := fun hsplit hlost => absurd hlost (hlive hsplit)
  answered := fun h => absurd (h.symm.trans hpassed) FailureAction.noConfusion
  tracked := fun h => absurd (h.symm.trans hpassed) FailureAction.noConfusion
  passed := fun _ => hnext

end FailureSafe

open Handling

/-- What is known of a failed read that is none of a split -/
structure ReadFailed (planned : ReaderPlan) (s : FailureSession) (h : Handling) : Prop where
  txnWait : h.txnWaitReaderFailed.isSome = s.txnReader.active
  inTransaction : s.inTransaction = s.txnReader.active
  plan : s.query.readerPlan = planned ∨
    s.query.readerPlan = {} ∧ s.txnReader.waitReadActive = true
  unsettled : .writer ∉ s.retries

theorem captured_readFailed
    {h : Handling}
    (htracked : Tracked planned s.course)
    (hsplit : s.txnReader.splitActive = false)
    (hcaptured : Captured s s.outcome h)
    (hkind : h.failure.requestKind = .wait ∨ h.failure.requestKind = .ordinary) :
    ReadFailed planned s h := by
  have hreader : h.session.txnReader = s.txnReader :=
    congrArg Course.txnReader (course_eq hcaptured.session)
  have hactive : s.txnReader.active = s.txnReader.waitReadActive := by
    rw [TxnReaderState.active, hsplit, Bool.false_or]
  have htxn : h.txnWaitReaderFailed.isSome = s.txnReader.active := by
    rw [txnWaitReaderFailed, hreader, hcaptured.failedMyds, outcome_backend.2, hactive]
    cases hwait : s.txnReader.waitReadActive with
    | false =>
        rw [if_neg (by simp)]
        rfl
    | true =>
        have hbackend := (htracked.reader (hactive.trans hwait)).2
        rw [if_pos ⟨rfl, hbackend⟩]
        exact Option.isSome_iff_exists.mpr ⟨_, hbackend⟩
  -- A read outside a transaction reader has a target, or was planned for a replica.
  have hneeds : s.txnReader.active = false →
      Awaits s.query ∨ s.query.readerPlan.consistencyMode ≠ .off := by
    intro hidle
    rcases hkind with hwait | hordinary
    · rcases hcaptured.wait hwait with hfailed | hwaiting | hspec
      · exact absurd (hidle.symm.trans (htxn.symm.trans hfailed)) Bool.false_ne_true
      · exact Or.inl (Or.inl hwaiting)
      · exact Or.inl ((hcaptured.waits hspec).elim (fun h => Or.inr (Or.inl h))
          fun h => Or.inr (Or.inr h))
    · exact Or.inr (hcaptured.ordinary hordinary).1
  exact
    { txnWait := htxn
      inTransaction := by
        cases hcase : s.txnReader.active with
        | false =>
            exact htracked.outside hcase (hneeds hcase)
        | true =>
            exact (htracked.reader hcase).1
      plan := by
        rcases htracked.plan with hplan | ⟨hplan, -, hawaits⟩
        · exact Or.inl hplan
        · cases hcase : s.txnReader.active with
          | false =>
              rcases hneeds hcase with h | h
              · exact absurd h hawaits
              · exact absurd (congrArg ReaderPlan.consistencyMode hplan) h
          | true =>
              exact Or.inr ⟨hplan, hactive.symm.trans hcase⟩
      unsettled := fun hmem => by
        obtain ⟨hplan, hawaits, hidle⟩ := htracked.settled hmem
        rcases hneeds hidle with h | h
        · exact hawaits h
        · exact h (congrArg ReaderPlan.consistencyMode hplan) }

theorem unwrapped_kept
    {h u : Handling}
    (hu : Unwrapped h u)
    (hcourse : h.session.course = s.course) :
    Kept s.course u.session.course := by
  have hquery : ∀ q : QueryState, q.readerPlan = s.query.readerPlan →
      (Awaits q → Awaits s.query) → u.session.course = { s.course with query := q } →
      Kept s.course u.session.course := by
    intro q hplan hawaits hq
    rw [hq]
    exact ⟨hplan, hawaits, rfl, rfl, rfl, rfl, rfl, rfl, rfl⟩
  have hsame : h.session.query = s.query := congrArg Course.query hcourse
  have huc := hu.course
  rw [hcourse, hsame] at huc
  split at huc
  · exact hquery s.query.resetWait rfl resetWait_awaits huc
  · exact hquery s.query rfl id huc

theorem handled_safe
    {h : Handling} {result : FailureResult}
    (htracked : Tracked planned s.course)
    (hsplit : s.txnReader.splitActive = false)
    (hcaptured : Captured s s.outcome h)
    (hkind : h.failure.requestKind = .wait ∨ h.failure.requestKind = .ordinary)
    (hhandled : ReadHandled h.unwrapFailedRead
      (readerFailureDecision h.failure s.readerRetryAttempts) result) :
    FailureSafe planned s env result := by
  have hfailed := captured_readFailed htracked hsplit hcaptured hkind
  have hcourse := course_eq hcaptured.session
  have hread := hcaptured.plan (by rcases hkind with hkind | hkind <;> simp [hkind])
  have hfollows := readerFailureDecision_follows h.failure s.readerRetryAttempts
  rw [hread, hcaptured.kind] at hfollows
  have hu := unwrapFailedRead_unwrapped (h := h)
  have htxn := hu.txnWaitReaderFailed.symm ▸ hfailed.txnWait
  generalize h.unwrapFailedRead = u at hu htxn hhandled
  have hkept := unwrapped_kept hu hcourse
  have hutracked := htracked.kept hkept
  have hustarted : u.failure.resultStarted = s.outcome.resultStarted := by
    rw [hu.failure, hcaptured.started]
  have hutxn : u.session.txnReader = s.txnReader :=
    (congrArg Course.txnReader hu.course).trans (congrArg Course.txnReader hcourse)
  have huretries : u.session.retries = s.retries := hkept.retries
  have huattempts : u.session.readerRetryAttempts = s.readerRetryAttempts := hkept.attempts
  have hnosplit : ∀ P : Prop, s.txnReader.splitActive = true → P := fun P h =>
    absurd (hsplit.symm.trans h) Bool.false_ne_true
  cases hhandled with
  | reader hretry haction htarget hsent =>
      obtain ⟨q, readerHg, hq, hafter⟩ := hsent.course
      obtain ⟨hpermits, honce⟩ := hfollows.otherReader haction htarget
      have hidle : s.txnReader.active = false := by
        rw [TxnReaderState.active, hsplit, Bool.false_or, ← hutxn]
        exact hsent.noTxnWait
      have hplanned : s.query.readerPlan = planned := hfailed.plan.resolve_right fun h =>
        absurd (hutxn ▸ hsent.noTxnWait) (by simp [h.2])
      have hretries : result.left.session.retries = .otherReader :: s.retries :=
        (congrArg Course.retries hafter).trans (congrArg _ huretries)
      have hnext : Tracked planned result.left.session.course := by
        refine htracked.toOtherReader hfailed.unsettled honce ?_ ?_ ?_ ?_ ?_ <;> rw [hafter]
        · exact hq.plan.trans ((congrArg ReaderFailure.readerPlan hu.failure).trans
            (hread.trans hplanned))
        · exact fun h => absurd (hidle.symm.trans (hkept.active.symm.trans h)) Bool.false_ne_true
        · exact fun _ => hkept.inTransaction.trans (hfailed.inTransaction.trans hidle)
        · exact fun h => hnosplit _ (hkept.splitActive.symm.trans h)
        · exact ⟨congrArg (· + 1) huattempts, congrArg _ huretries⟩
      exact .of_retry hretry
        { retries := hretries
          notStarted := hustarted.symm.trans hsent.notStarted
          permits := hpermits
          once := fun _ => honce }
        hfailed.plan (hnosplit _) hnext (hnosplit _)
  | writer hretry haction htarget hsent =>
      obtain ⟨writer, hafter⟩ := hsent.course
      have hretries : result.left.session.retries = .writer :: s.retries :=
        (congrArg Course.retries hafter).trans (congrArg _ huretries)
      have hidle : result.left.session.txnReader.active = false := by
        have hreader := congrArg Course.txnReader hafter
        change result.left.session.txnReader = _ at hreader
        rw [hreader]
        cases hcase : u.txnWaitReaderFailed.isSome with
        | false =>
            simp only [Bool.false_eq_true, if_false]
            exact hutxn ▸ (htxn.symm.trans hcase)
        | true =>
            rfl
      have hnext : Tracked planned result.left.session.course := by
        refine htracked.cleared ?_ ?_ hidle ?_ ?_ ?_
        · rw [hafter]
          rfl
        · rw [hafter]
          exact clearedRoute_awaits _
        · rw [hafter]
          exact huattempts
        · change result.left.session.retries.count .otherReader = _
          rw [hretries]
          exact List.count_cons_of_ne RetryTarget.noConfusion
        · change result.left.session.retries.Sublist _
          rw [hretries]
          exact htracked.order_writer hfailed.unsettled
      exact .of_retry hretry
        { retries := hretries
          notStarted := hustarted.symm.trans hsent.notStarted
          permits := hfollows.writer haction htarget
          once := fun h => absurd h RetryTarget.noConfusion }
        hfailed.plan (hnosplit _) hnext (hnosplit _)
  | declined haction hdeclined =>
      exact
        { retried := fun h => absurd h hdeclined.action
          plan := fun h => absurd h hdeclined.action
          holds := fun h => absurd h hdeclined.action
          lost := hnosplit _
          answered := fun h => by
            rw [hfailed.inTransaction, ← htxn]
            exact (hdeclined.forwarded h).2.of_eq (hu.sent.trans (sent_eq hcaptured.session))
              (hu.extendedCycle.trans (extendedCycle_eq hcaptured.session))
          tracked := fun h => absurd h hdeclined.action
          passed := fun h => by
            obtain ⟨hidle, -, hsame⟩ := hdeclined.passed h
            have hreader : result.left.session.txnReader = s.txnReader :=
              (congrArg Course.txnReader (course_eq hsame)).trans hutxn
            rw [course_eq hsame, hreader]
            exact ⟨hutracked, htxn ▸ hidle⟩ }
  | ended hend haction =>
      exact .of_terminate hend

/-- A failed split read, with the failure that was taken from its session -/
structure SplitTaken (env : FailureEnv) (s : FailureSession) (h : Handling) : Prop where
  course : h.session.course =
    { s.course with txnReader := { s.txnReader with originalPkt := none } }
  sent : h.session.sent = s.sent
  extendedCycle : h.session.extendedCycle = s.extendedCycle
  started : h.failure.resultStarted = s.outcome.resultStarted
  kind : readerFailureKindFor h.failure = s.failureKind
  plan : h.failure.readerPlan = s.query.readerPlan
  scope : h.failure.writerScope = s.txnReader.writerScope
  lost : WriterLost s env s.txnReader.writerScope →
    (h.session.resolveWriterState env h.failure).1 = .lost

theorem splitEnded_kept
    {t e : FailureSession}
    (hended : SplitEnded t e)
    (hcourse : t.course = { s.course with txnReader := { s.txnReader with originalPkt := none } }) :
    e.query = s.query.resetReaderPlan ∧ e.inTransaction = s.inTransaction ∧
      e.readerRetryAttempts = s.readerRetryAttempts ∧ e.retries = s.retries := by
  have h := hended.course
  have hquery : t.query = s.query := congrArg Course.query hcourse
  rw [hcourse, hquery] at h
  exact ⟨congrArg Course.query h, congrArg Course.inTransaction h, congrArg Course.attempts h,
    congrArg Course.retries h⟩

theorem split_safe
    {h : Handling} {result : FailureResult}
    (htracked : Tracked planned s.course)
    (hsplit : s.txnReader.splitActive = true)
    (htaken : SplitTaken env s h)
    (hhandled : SplitHandled env h
      (readerFailureDecision h.failure h.session.readerRetryAttempts) result) :
    FailureSafe planned s env result := by
  have hfollows := readerFailureDecision_follows h.failure h.session.readerRetryAttempts
  rw [htaken.plan, htaken.kind] at hfollows
  have hactive : s.txnReader.active = true := by
    rw [TxnReaderState.active, hsplit, Bool.true_or]
  have hin : s.inTransaction = true := (htracked.reader hactive).1
  have hplan : s.query.readerPlan = planned := htracked.plan.resolve_right fun h =>
    absurd (h.2.1.symm.trans hsplit) Bool.false_ne_true
  have hawaits : ¬ Awaits s.query := htracked.split hsplit
  have hunsettled : .writer ∉ s.retries := fun hmem =>
    absurd ((htracked.settled hmem).2.2.symm.trans hactive) Bool.false_ne_true
  have hattempts : h.session.readerRetryAttempts = s.readerRetryAttempts :=
    congrArg Course.attempts htaken.course
  rw [hattempts] at hfollows hhandled
  cases hhandled with
  | reader hretry hlost haction htarget hended hsent hcourse =>
      rename_i e after
      obtain ⟨readerHg, reader, hafter, hbackend, hreads⟩ := hsent.course
      obtain ⟨hpermits, honce⟩ := hfollows.otherReader haction htarget
      obtain ⟨hequery, hein, heattempts, heretries⟩ := splitEnded_kept hended htaken.course
      have hretries : result.left.session.retries = .otherReader :: s.retries :=
        (congrArg Course.retries (hcourse.trans hafter)).trans (congrArg _ heretries)
      have hnext : Tracked planned result.left.session.course := by
        refine htracked.toOtherReader hunsettled honce ?_ ?_ ?_ ?_ ?_ <;> rw [hcourse, hafter]
        · exact htaken.plan.trans hplan
        · exact fun _ => ⟨hein.trans hin, hbackend⟩
        · exact fun h => absurd h (by simp [TxnReaderState.active, hreads])
        · intro _ h
          simp only [hequery] at h
          exact hawaits (h.imp id fun h => h.imp id fun h => absurd h Bool.false_ne_true)
        · exact ⟨congrArg (· + 1) heattempts, congrArg _ heretries⟩
      exact .of_retry hretry
        { retries := hretries
          notStarted := htaken.started.symm.trans hsent.notStarted
          permits := hpermits
          once := fun _ => honce }
        (Or.inl hplan) (fun _ h => absurd (hretries.symm.trans h) (by simp)) hnext
        fun _ h => hlost (htaken.lost h)
  | writer hretry hlost haction hallow hended hsent hcourse hholds =>
      rename_i e after
      obtain ⟨hequery, -, heattempts, heretries⟩ := splitEnded_kept hended htaken.course
      have hafter := hcourse.trans hsent.course
      have hretries : result.left.session.retries = .writer :: s.retries :=
        (congrArg Course.retries hafter).trans (congrArg _ heretries)
      have hnext : Tracked planned result.left.session.course := by
        refine htracked.cleared ?_ ?_ ?_ ?_ ?_ ?_
        · rw [hafter]
          exact congrArg QueryState.readerPlan hequery
        · rw [hafter]
          intro h
          simp only [FailureSession.course, hequery] at h
          exact hawaits (h.imp id fun h => h.imp id fun h => absurd h Bool.false_ne_true)
        · rw [hafter]
          rfl
        · rw [hafter]
          exact heattempts
        · change result.left.session.retries.count .otherReader = _
          rw [hretries]
          exact List.count_cons_of_ne RetryTarget.noConfusion
        · change result.left.session.retries.Sublist _
          rw [hretries]
          exact htracked.order_writer hunsettled
      exact .of_retry hretry
        { retries := hretries
          notStarted := htaken.started.symm.trans hsent.notStarted
          permits := hfollows.writer haction (Or.inr hallow)
          once := fun h => absurd h RetryTarget.noConfusion }
        (Or.inl hplan) (fun _ _ => htaken.scope ▸ hholds) hnext fun _ h => hlost (htaken.lost h)
  | forwarded hforward hlost hanswered =>
      refine .of_forward hforward ?_ fun _ h => hlost (htaken.lost h)
      rw [hin]
      exact hanswered.of_eq htaken.sent htaken.extendedCycle
  | ended hend =>
      exact .of_terminate hend

theorem pass_safe
    {h : Handling}
    (htracked : Tracked planned s.course)
    (hsplit : s.txnReader.splitActive = false)
    (hcaptured : Captured s s.outcome h)
    (hidle : s.txnReader.waitReadActive = false) :
    FailureSafe planned s env h.passFailure := by
  have hcourse := course_eq hcaptured.session
  have hkept : Kept s.course h.passFailure.left.session.course := by
    unfold passFailure
    simp only
    split
    · change Kept s.course { h.session.course with query := h.session.query.resetWait }
      rw [hcourse]
      have hquery : h.session.query = s.query := congrArg Course.query hcourse
      rw [hquery]
      exact ⟨rfl, resetWait_awaits, rfl, rfl, rfl, rfl, rfl, rfl, rfl⟩
    · rw [hcourse]
      exact Kept.refl
  refine .of_passthrough rfl ⟨htracked.kept hkept, ?_⟩ fun hactive _ =>
    absurd (hsplit.symm.trans hactive) Bool.false_ne_true
  have hactive := hkept.active
  change h.passFailure.left.session.txnReader.active = s.txnReader.active at hactive
  rw [hactive, TxnReaderState.active, hsplit, hidle, Bool.or_self]

theorem takeReaderFailure_split
    (env : FailureEnv)
    (hsplit : s.txnReader.splitActive = true)
    (hbackend : s.txnReader.backend = some s.mybe) :
    (s.takeReaderFailure s.outcome).failure.requestKind = .split ∧
      (s.takeReaderFailure s.outcome).session.txnReader.splitActive = true ∧
      (s.takeReaderFailure s.outcome).failure.readerBackend =
        (s.takeReaderFailure s.outcome).session.txnReader.backend ∧
      SplitTaken env s (s.takeReaderFailure s.outcome) := by
  have hreader : (failureFromOutcome s.outcome).readerBackend = some s.mybe := outcome_backend.1
  unfold takeReaderFailure
  simp only
  rw [if_pos ⟨hsplit, hreader.trans hbackend.symm⟩]
  refine ⟨rfl, hsplit, hreader.trans hbackend.symm, ⟨rfl, rfl, rfl, rfl, rfl, rfl, rfl, ?_⟩⟩
  intro hlost
  apply resolveWriterState_lost (s := { s with
    txnReader := { s.txnReader with originalPkt := none } })
  · exact hreader
  · exact hlost

theorem takeReaderFailure_other
    {outcome : RequestOutcome}
    (hsplit : s.txnReader.splitActive = false) :
    s.takeReaderFailure outcome = { session := s, failure := failureFromOutcome outcome } := by
  unfold takeReaderFailure
  simp only
  rw [if_neg fun h => absurd (hsplit.symm.trans h.1) Bool.false_ne_true]

/-- Every failure in a state whose course is tracked -/
theorem handleFailure_safe
    (htracked : Tracked planned s.course)
    (env : FailureEnv) :
    FailureSafe planned s env (s.handleFailure env) := by
  change FailureSafe planned s env (handleReaderFailure env s s.outcome)
  unfold handleReaderFailure
  simp only
  cases hsplit : s.txnReader.splitActive with
  | true =>
      have hactive : s.course.txnReader.active = true := by
        change (s.txnReader.splitActive || s.txnReader.waitReadActive) = true
        rw [hsplit, Bool.true_or]
      obtain ⟨hkind, hactive', hbackend, htaken⟩ :=
        takeReaderFailure_split env hsplit (htracked.reader hactive).2
      rw [if_pos hkind]
      exact split_safe htracked hsplit htaken (handleSplitFailure_handled env hactive' hbackend)
  | false =>
      have hcaptured := @captureReadFailure_captured s s.outcome env
      have hattempts := congrArg Course.attempts (course_eq hcaptured.session)
      rw [takeReaderFailure_other hsplit]
      have hnone : (failureFromOutcome s.outcome).requestKind ≠ .split := RequestKind.noConfusion
      rw [if_neg hnone]
      generalize captureReadFailure { session := s, failure := failureFromOutcome s.outcome } env =
        h at hcaptured hattempts
      change h.session.readerRetryAttempts = s.readerRetryAttempts at hattempts
      rw [hattempts]
      split
      · rename_i hkind
        exact handled_safe htracked hsplit hcaptured hkind (handleFailedReaderRead_handled env _)
      · rename_i hkind
        refine pass_safe htracked hsplit hcaptured ?_
        simp only [not_or] at hkind
        have hunknown : h.failure.requestKind = .none := by
          cases hcase : h.failure.requestKind with
          | none =>
              rfl
          | ordinary =>
              exact absurd hcase hkind.2
          | wait =>
              exact absurd hcase hkind.1
          | split =>
              exact absurd hcase hcaptured.notSplit
        have hidle := hcaptured.unknown hunknown
        have hreader : h.session.txnReader = s.txnReader :=
          congrArg Course.txnReader (course_eq hcaptured.session)
        rw [txnWaitReaderFailed, hreader, hcaptured.failedMyds, outcome_backend.2] at hidle
        cases hwait : s.txnReader.waitReadActive with
        | false =>
            rfl
        | true =>
            have hactive : s.course.txnReader.active = true := by
              change (s.txnReader.splitActive || s.txnReader.waitReadActive) = true
              rw [hwait, Bool.or_true]
            have hbackend : s.txnReader.backend = some s.mybe := (htracked.reader hactive).2
            rw [if_pos ⟨hwait, hbackend⟩, hbackend] at hidle
            exact absurd hidle (Option.some_ne_none _)

end Failing

end Failures

end PolarProxy
