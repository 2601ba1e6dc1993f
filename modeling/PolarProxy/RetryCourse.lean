import PolarProxy.RetryPolicy

/-!
# The course of a failed read

What a run of a request is followed by is the course of its session: the plan and the wait of
the query, the transaction reader, the backend in use, and the retries.  The rest of a session
holds buffers and streams, which the decisions of a failure read but do not carry on.

**Results.** `handleFailedReaderRead_handled`, `forwardReaderError_answered`.
-/

namespace PolarProxy

namespace Failures

open Wrapping

/-- What a run is followed by -/
structure Course where
  query : QueryState
  txnReader : TxnReaderState
  mybe : Int
  inTransaction : Bool
  attempts : Nat
  retries : List RetryTarget

namespace FailureSession

variable {s t : FailureSession}

def course (s : FailureSession) : Course :=
  { query := s.query
    txnReader := s.txnReader
    mybe := s.mybe
    inTransaction := s.inTransaction
    attempts := s.readerRetryAttempts
    retries := s.retries }

theorem course_eq
    (h : t.withoutBuffers = s.withoutBuffers) :
    t.course = s.course := by
  change t.withoutBuffers.course = s.withoutBuffers.course
  rw [h]

theorem sent_eq
    (h : t.withoutBuffers = s.withoutBuffers) :
    t.sent = s.sent := by
  change t.withoutBuffers.sent = s.withoutBuffers.sent
  rw [h]

theorem extendedCycle_eq
    (h : t.withoutBuffers = s.withoutBuffers) :
    t.extendedCycle = s.extendedCycle := by
  change t.withoutBuffers.extendedCycle = s.withoutBuffers.extendedCycle
  rw [h]

/-! ## Telling the client -/

/-- The client is told of an error, and of the state of its transaction unless that is left to
the end of an extended cycle. -/
structure Answered (s t : FailureSession) (status : Char) : Prop where
  sent : ∃ code message replies, t.sent = s.sent ++ .error code message :: replies ∧
    (replies = [] ∨ replies = [.readyForQuery status])
  ready : s.extendedCycle = false → ∃ code message,
    t.sent = s.sent ++ [.error code message, .readyForQuery status]

theorem extendedLocalResultSendsReady_sent :
    s.extendedLocalResultSendsReady.2.sent = s.sent := by
  unfold extendedLocalResultSendsReady
  split
  · rfl
  · simp only
    split
    · rfl
    · split <;> rfl

theorem endExtendedCycle_sent :
    s.endExtendedCycle.2.sent = s.sent := by
  unfold endExtendedCycle
  split
  · rfl
  · simp only
    rw [extendedLocalResultSendsReady_sent]
    split <;> rfl

theorem forwardReaderError_sent
    (f : ReaderFailure) (status : Char) :
    ∃ code message, (s.forwardReaderError f status).sent =
      s.sent ++ .error code message ::
        (if s.endExtendedCycle.1 then [.readyForQuery status] else []) := by
  refine ⟨if f.hasBackendError then f.backendErrorCode else .connectionFailure,
    if f.hasBackendError then f.backendErrorMessage
    else "PolarDB reader replica connection failed", ?_⟩
  have hsent : s.endExtendedCycle.2.noteExtendedErrorResponse.sent = s.sent :=
    endExtendedCycle_sent
  unfold forwardReaderError
  cases hready : s.endExtendedCycle.1 with
  | false =>
      simp only [hready, Bool.false_eq_true, if_false, hsent]
  | true =>
      cases hcycle : s.extendedCycle <;>
        simp [hready, hsent, completeExtendedQueryFrame]

theorem forwardReaderError_answered
    (f : ReaderFailure) (status : Char) :
    Answered s (s.forwardReaderError f status) status := by
  obtain ⟨code, message, hsent⟩ := forwardReaderError_sent f status (s := s)
  constructor
  · refine ⟨code, message, _, hsent, ?_⟩
    split
    · exact Or.inr rfl
    · exact Or.inl rfl
  · intro hcycle
    refine ⟨code, message, ?_⟩
    rw [hsent, endExtendedCycle, if_pos hcycle]
    rfl

/-- An answer is the same after steps that tell the client nothing. -/
theorem Answered.of_eq
    {u : FailureSession} {status : Char}
    (h : Answered t u status)
    (hsent : t.sent = s.sent)
    (hcycle : t.extendedCycle = s.extendedCycle) :
    Answered s u status where
  sent := hsent ▸ h.sent
  ready := fun hs => hsent ▸ h.ready (hcycle.trans hs)

theorem withoutTxnReader_sent :
    s.withoutTxnReader.sent = s.sent ∧
      s.withoutTxnReader.extendedCycle = s.extendedCycle := by
  unfold withoutTxnReader
  split
  · exact ⟨rfl, rfl⟩
  · split <;> exact ⟨rfl, rfl⟩

theorem releaseTxnReaderBackend_told
    (wantReuse : Bool) :
    (s.releaseTxnReaderBackend wantReuse).sent = s.sent ∧
      (s.releaseTxnReaderBackend wantReuse).extendedCycle = s.extendedCycle := by
  have h := releaseTxnReaderBackend_withoutBuffers wantReuse (s := s)
  change (s.releaseTxnReaderBackend wantReuse).withoutBuffers.sent = s.withoutBuffers.sent ∧
    (s.releaseTxnReaderBackend wantReuse).withoutBuffers.extendedCycle =
      s.withoutBuffers.extendedCycle
  rw [h]
  exact withoutTxnReader_sent

end FailureSession

/-! ## Failed reads that are none of a split -/

namespace Handling

open FailureSession

variable {h : Handling} {r : FailedRead}

theorem releaseFailedReader_told
    (wantReuse : Bool) :
    (h.releaseFailedReader r wantReuse).session.sent = h.session.sent ∧
      (h.releaseFailedReader r wantReuse).session.extendedCycle = h.session.extendedCycle := by
  cases hread : r.txnWaitRead with
  | false =>
      have hsame := releaseFailedReader_withoutBuffers (h := h) wantReuse hread
      exact ⟨sent_eq hsame, extendedCycle_eq hsame⟩
  | true =>
      unfold releaseFailedReader
      split
      · exact ⟨rfl, rfl⟩
      · simp only [hread, if_true]
        unfold releaseTxnWaitRead
        split
        · exact ⟨rfl, rfl⟩
        · exact releaseTxnReaderBackend_told wantReuse

theorem releaseFailedReader_failedMyds
    (r : FailedRead) (wantReuse : Bool) :
    (h.releaseFailedReader r wantReuse).failure.failedMyds = none := by
  unfold releaseFailedReader
  split
  · assumption
  · rfl

/-- A failed read that is not sent again. -/
structure Declined (h : Handling) (txnWaitRead : Bool) (result : FailureResult) : Prop where
  action : result.action ≠ .retry
  terminated : result.action = .terminate → h.failure.resultStarted = true
  passed : result.action = .passthrough → txnWaitRead = false ∧ h.failure.failedMyds ≠ none ∧
    result.left.session.withoutBuffers = h.session.withoutBuffers
  forwarded : result.action = .forward → h.failure.resultStarted = false ∧
    Answered h.session result.left.session (if txnWaitRead then 'T' else 'I')

theorem finishTxnWaitWithError_declined :
    Declined h true (h.finishTxnWaitWithError r) := by
  have hfacts : ((h.releaseFailedReader r false).finishRetryPacket r
      (!h.failure.resultStarted)).failure.facts = h.failure.facts := by
    rw [finishRetryPacket_facts, releaseFailedReader_facts]
  have hstarted := congrArg ReaderFailure.resultStarted hfacts
  have htold := releaseFailedReader_told (h := h) (r := r) false
  have hsame := finishRetryPacket_withoutBuffers (h := h.releaseFailedReader r false) r
    (!h.failure.resultStarted)
  unfold finishTxnWaitWithError
  simp only
  split
  · rename_i hresult
    exact
      { action := FailureAction.noConfusion
        terminated := fun _ => hstarted.symm.trans hresult
        passed := fun hpassed => absurd hpassed FailureAction.noConfusion
        forwarded := fun hforward => absurd hforward FailureAction.noConfusion }
  · rename_i hresult
    exact
      { action := FailureAction.noConfusion
        terminated := fun hend => absurd hend FailureAction.noConfusion
        passed := fun hpassed => absurd hpassed FailureAction.noConfusion
        forwarded := fun _ =>
          ⟨hstarted.symm.trans (Bool.eq_false_iff.mpr hresult),
            (forwardReaderError_answered _ _).of_eq ((sent_eq hsame).trans htold.1)
              ((extendedCycle_eq hsame).trans htold.2)⟩ }

theorem finishOrdinaryWithError_declined :
    Declined h false (h.finishOrdinaryWithError r) := by
  have htold := releaseFailedReader_told (h := h) (r := r) false
  have hsame := finishRetryPacket_withoutBuffers (h := h.releaseFailedReader r false) r true
  unfold finishOrdinaryWithError
  split
  · rename_i hresult
    exact
      { action := FailureAction.noConfusion
        terminated := fun _ => hresult
        passed := fun hpassed => absurd hpassed FailureAction.noConfusion
        forwarded := fun hforward => absurd hforward FailureAction.noConfusion }
  split
  · rename_i hreusable
    exact
      { action := FailureAction.noConfusion
        terminated := fun hend => absurd hend FailureAction.noConfusion
        passed := fun _ => ⟨rfl, by simpa [Option.isSome_iff_ne_none] using hreusable.2,
          finishRetryPacket_withoutBuffers r true⟩
        forwarded := fun hforward => absurd hforward FailureAction.noConfusion }
  · rename_i hresult _
    exact
      { action := FailureAction.noConfusion
        terminated := fun hend => absurd hend FailureAction.noConfusion
        passed := fun hpassed => absurd hpassed FailureAction.noConfusion
        forwarded := fun _ =>
          ⟨Bool.eq_false_iff.mpr hresult,
            (forwardReaderError_answered _ _).of_eq ((sent_eq hsame).trans htold.1)
              ((extendedCycle_eq hsame).trans htold.2)⟩ }

theorem finishWithError_declined :
    Declined h r.txnWaitRead (h.finishWithError r) := by
  unfold finishWithError
  cases r.txnWaitRead with
  | false =>
      exact finishOrdinaryWithError_declined
  | true =>
      exact finishTxnWaitWithError_declined

/-- What was done before a failed read is given up does not show. -/
theorem Declined.of_eq
    {k : Handling} {txnWaitRead : Bool} {result : FailureResult}
    (hdeclined : Declined k txnWaitRead result)
    (hfacts : k.failure.facts = h.failure.facts)
    (hsent : k.session.sent = h.session.sent)
    (hcycle : k.session.extendedCycle = h.session.extendedCycle)
    (hpassed : k.failure.failedMyds ≠ none →
      h.failure.failedMyds ≠ none ∧ k.session.withoutBuffers = h.session.withoutBuffers) :
    Declined h txnWaitRead result := by
  have hstarted : k.failure.resultStarted = h.failure.resultStarted := by
    change k.failure.facts.resultStarted = h.failure.facts.resultStarted
    rw [hfacts]
  exact
    { action := hdeclined.action
      terminated := fun hend => hstarted ▸ hdeclined.terminated hend
      passed := fun hpass =>
        have hkept := hpassed (hdeclined.passed hpass).2.1
        ⟨(hdeclined.passed hpass).1, hkept.1, (hdeclined.passed hpass).2.2.trans hkept.2⟩
      forwarded := fun hforward =>
        ⟨hstarted ▸ (hdeclined.forwarded hforward).1,
          (hdeclined.forwarded hforward).2.of_eq hsent hcycle⟩ }

/-! ### Another reader -/

/-- The query of a read that another reader is found for -/
structure Reselected (h : Handling) (q : QueryState) : Prop where
  plan : q.readerPlan = h.failure.readerPlan
  readerWaitSpec : q.readerWaitSpec = h.session.query.readerWaitSpec
  waits : q.wait.waitStage = .waiting ∨ q.wait.spec.hasWait = true →
    h.failure.requestKind = .wait ∧ h.failure.waitSpec.hasWait = true

theorem Reselected.of_eq
    {k : Handling} {q : QueryState}
    (hq : Reselected k q)
    (hsession : k.session.withoutBuffers = h.session.withoutBuffers)
    (hfacts : k.failure.facts = h.failure.facts) :
    Reselected h q := by
  have hfailure : k.failure.facts.readerPlan = h.failure.facts.readerPlan ∧
      k.failure.facts.requestKind = h.failure.facts.requestKind ∧
        k.failure.facts.waitSpec = h.failure.facts.waitSpec := by
    rw [hfacts]
    exact ⟨rfl, rfl, rfl⟩
  have hquery := congrArg Course.query (course_eq hsession)
  exact
    { plan := hq.plan.trans hfailure.1
      readerWaitSpec := hq.readerWaitSpec.trans (congrArg QueryState.readerWaitSpec hquery)
      waits := fun hwaits =>
        ⟨hfailure.2.1 ▸ (hq.waits hwaits).1, hfailure.2.2 ▸ (hq.waits hwaits).2⟩ }

structure SentToReader (h after : Handling) : Prop where
  course : ∃ q readerHg, Reselected h q ∧
    after.session.course =
      { h.session.course with
        query := q
        mybe := readerHg
        attempts := h.session.readerRetryAttempts + 1
        retries := .otherReader :: h.session.retries }
  notStarted : h.failure.resultStarted = false
  noTxnWait : h.session.txnReader.waitReadActive = false

theorem finishReaderWaitSelection_query
    (w : WrapRequest) (spec : WaitSpec) (targetReached : Bool) (now : Nat)
    (fallbackWriterHg : Int) :
    (w.finishReaderWaitSelection spec targetReached now fallbackWriterHg).query.readerPlan =
        w.query.readerPlan ∧
      (w.finishReaderWaitSelection spec targetReached now fallbackWriterHg).query.readerWaitSpec =
        w.query.readerWaitSpec ∧
      ((w.finishReaderWaitSelection spec targetReached now
            fallbackWriterHg).query.wait.waitStage = .waiting ∨
          (w.finishReaderWaitSelection spec targetReached now
            fallbackWriterHg).query.wait.spec.hasWait = true →
        spec.hasWait = true) := by
  unfold WrapRequest.finishReaderWaitSelection
  split
  · exact ⟨rfl, rfl, fun h => h.elim (fun h => absurd h WaitStage.noConfusion)
      fun h => absurd h Bool.false_ne_true⟩
  · rename_i hwait
    split
    · exact ⟨rfl, rfl, fun h => h.elim (fun h => absurd h WaitStage.noConfusion)
        fun h => absurd h Bool.false_ne_true⟩
    · exact ⟨rfl, rfl, fun _ => by simpa using hwait⟩

theorem transferExtendedFrameBackend_course
    {s : FailureSession}
    (hg : Int) :
    (s.transferExtendedFrameBackend hg).course = s.course := by
  unfold transferExtendedFrameBackend
  split <;> rfl

theorem restoreReaderWait_course
    {s : FailureSession} {f : ReaderFailure}
    (waitBypassAllowed : Bool) (now : Nat) :
    ∃ q, (s.restoreReaderWait f waitBypassAllowed now).course = { s.course with query := q } ∧
      q.readerPlan = s.query.readerPlan ∧ q.readerWaitSpec = s.query.readerWaitSpec ∧
        (q.wait.waitStage = .waiting ∨ q.wait.spec.hasWait = true →
          f.requestKind = .wait ∧ f.waitSpec.hasWait = true) := by
  unfold restoreReaderWait
  split
  · rename_i hkind
    obtain ⟨hplan, hspec, hwaits⟩ := finishReaderWaitSelection_query (s.wrapRequest f.readerHg)
      f.waitSpec waitBypassAllowed now f.fallbackWriterHg
    refine ⟨_, ?_, hplan, hspec, fun h => ⟨hkind, hwaits h⟩⟩
    simp only
    split <;> rfl
  · exact ⟨s.query.resetWait, rfl, rfl, rfl, fun h => h.elim
      (fun h => absurd h WaitStage.noConfusion) fun h => absurd h Bool.false_ne_true⟩

/-- Where the protocol goes on from after a retry does not show in the course. -/
theorem retried_course
    {s : FailureSession}
    (extendedQuery : Bool) (hg : Int) (p : Packet) :
    (if extendedQuery then (s.transferExtendedFrameBackend hg).prepareExtendedRetry
      else s.restartQueryDispatchFromPacket p).course = s.course := by
  split
  · exact transferExtendedFrameBackend_course hg
  · rfl

theorem startReadOnOtherReader_course
    (env : FailureEnv) (failedMyds : Option Int) (p : Packet) (waitBypassAllowed : Bool) :
    ∃ q, Reselected h q ∧
      (h.startReadOnOtherReader env failedMyds p waitBypassAllowed).session.course =
        { h.session.course with
          query := q
          mybe := h.failure.readerHg
          attempts := h.session.readerRetryAttempts + 1
          retries := .otherReader :: h.session.retries } := by
  have hmoved := course_eq ((prepareRetryBackend_withoutBuffers env failedMyds h.failure.readerHg
    (s := (h.giveRetryPkt h.failure.readerHg).session)).trans
      (giveRetryPkt_withoutBuffers (h := h) h.failure.readerHg))
  unfold startReadOnOtherReader
  simp only [retried_course]
  generalize (h.giveRetryPkt h.failure.readerHg).session.prepareRetryBackend env failedMyds
    h.failure.readerHg = s at hmoved
  obtain ⟨q, hrestored, hplan, hspec, hwaits⟩ := restoreReaderWait_course (f := h.failure)
    (s := { s with
      currentHostgroup := h.failure.readerHg
      mybe := h.failure.readerHg
      query := { s.query with readerPlan := h.failure.readerPlan } })
    waitBypassAllowed env.now
  refine ⟨q, ⟨hplan, hspec.trans (congrArg (fun c : Course => c.query.readerWaitSpec) hmoved),
    hwaits⟩, ?_⟩
  have hcourse := congrArg
    (fun c : Course => { c with attempts := c.attempts + 1, retries := .otherReader :: c.retries })
    (hrestored.trans (congrArg
      (fun c : Course => { c with query := q, mybe := h.failure.readerHg }) hmoved))
  exact hcourse

theorem releaseFailedStream_withoutBuffers :
    h.releaseFailedStream.session.withoutBuffers = h.session.withoutBuffers := by
  unfold releaseFailedStream
  simp only
  split
  · rfl
  · exact releaseReaderStream_withoutBuffers _ _

/-- Another reader that was asked for in vain leaves nothing behind. -/
structure NotSent (h after : Handling) : Prop where
  session : after.session.withoutBuffers = h.session.withoutBuffers
  facts : after.failure.facts = h.failure.facts
  failedMyds : after.failure.failedMyds ≠ none → h.failure.failedMyds ≠ none

theorem prepareReaderRetryPacket_failedMyds
    (env : FailureEnv) :
    (h.prepareReaderRetryPacket env).2.failure.failedMyds = h.failure.failedMyds := by
  unfold prepareReaderRetryPacket
  split
  · rfl
  split
  · simp only
    split <;> rfl
  split
  · rfl
  · split <;> rfl

theorem tryRedispatchReaderReadToOtherReader_spec
    (env : FailureEnv) :
    ((h.tryRedispatchReaderReadToOtherReader env).1 = true ∧
        SentToReader h (h.tryRedispatchReaderReadToOtherReader env).2) ∨
      ((h.tryRedispatchReaderReadToOtherReader env).1 = false ∧
        NotSent h (h.tryRedispatchReaderReadToOtherReader env).2) := by
  unfold tryRedispatchReaderReadToOtherReader
  simp only
  split
  · exact Or.inr ⟨rfl, rfl, rfl, id⟩
  rename_i hguards
  simp only [not_or] at hguards
  have hprepared := prepareReaderRetryPacket_withoutBuffers env (h := h)
  have hfacts := prepareReaderRetryPacket_facts env (h := h)
  have hmyds := prepareReaderRetryPacket_failedMyds env (h := h)
  generalize h.prepareReaderRetryPacket env = prepared at hprepared hfacts hmyds
  split
  · exact Or.inr ⟨rfl, hprepared, hfacts, hmyds ▸ id⟩
  have hreleased := releaseFailedStream_withoutBuffers (h := prepared.2)
  have hkept : prepared.2.releaseFailedStream.failure.facts = prepared.2.failure.facts := rfl
  have hnone : prepared.2.releaseFailedStream.failure.failedMyds = none := rfl
  generalize prepared.2.failure.failedMyds = failedMyds
  generalize prepared.2.releaseFailedStream = k at hreleased hkept hnone
  split
  · exact Or.inr ⟨rfl, hreleased.trans hprepared, hkept.trans hfacts, absurd hnone⟩
  split
  · rename_i conn waitBypassAllowed p _ _
    split
    · refine Or.inr ⟨rfl, ?_, hkept.trans hfacts, absurd hnone⟩
      rw [returnOrDestroyBackendStream_withoutBuffers, setConn_withoutBuffers]
      exact hreleased.trans hprepared
    · have hsession : (k.session.setConn k.failure.readerHg (some conn)).withoutBuffers =
          h.session.withoutBuffers := hreleased.trans hprepared
      obtain ⟨q, hq, hcourse⟩ := startReadOnOtherReader_course
        (h := { k with session := k.session.setConn k.failure.readerHg (some conn) })
        env failedMyds p waitBypassAllowed
      have hsame := course_eq hsession
      refine Or.inl ⟨rfl, ?_⟩
      exact
        { course := ⟨q, k.failure.readerHg, hq.of_eq hsession (hkept.trans hfacts),
            hcourse.trans (congrArg (fun c : Course => { c with
              query := q
              mybe := k.failure.readerHg
              attempts := c.attempts + 1
              retries := .otherReader :: c.retries }) hsame)⟩
          notStarted := by simpa using hguards.2.2.2.1
          noTxnWait := by simpa using hguards.2.1 }
  · exact Or.inr ⟨rfl, hreleased.trans hprepared, hkept.trans hfacts, absurd hnone⟩

/-! ### The writer -/

theorem txnWaitReaderFailed_isSome
    (htxn : h.txnWaitReaderFailed.isSome = true) :
    ∃ hg, h.session.txnReader.waitReadActive = true ∧ h.session.txnReader.backend = some hg ∧
      h.failure.failedMyds = some hg := by
  unfold txnWaitReaderFailed at htxn
  split at htxn
  · rename_i hfailed
    obtain ⟨hg, hbackend⟩ := Option.isSome_iff_exists.mp htxn
    exact ⟨hg, hfailed.1, hbackend, hfailed.2 ▸ hbackend⟩
  · exact absurd htxn Bool.false_ne_true

/-- The reader of a transaction wait read is given up with all that is known of the read. -/
theorem releaseFailedReader_txnWaitRead
    (wantReuse : Bool)
    (hread : r.txnWaitRead = true)
    (htxn : h.txnWaitReaderFailed.isSome = true) :
    (h.releaseFailedReader r wantReuse).session.withoutBuffers =
      h.session.withoutBuffers.withoutTxnRequest.forgetTxnReader := by
  obtain ⟨hg, hactive, hbackend, hfailed⟩ := txnWaitReaderFailed_isSome htxn
  unfold releaseFailedReader
  simp only [hfailed, hread, if_true]
  unfold releaseTxnWaitRead
  rw [if_neg fun hnone => absurd (hnone.1.symm.trans hactive) Bool.false_ne_true]
  rw [releaseTxnReaderBackend_withoutBuffers, withoutTxnReader]
  have hsame : h.session.withoutBuffers.txnReader = h.session.txnReader := rfl
  rw [hsame, if_neg (hbackend ▸ Option.some_ne_none hg)]
  rw [if_pos (Or.inl (by simp [TxnReaderState.active, hactive]))]

/-- A query whose route is forgotten -/
def clearedRoute (q : QueryState) : QueryState :=
  { q.resetReaderPlan.resetWait with waitBypassTarget := 0 }

structure SentToWriter (h : Handling) (txnWaitRead : Bool) (after : Handling) : Prop where
  course : ∃ writer, after.session.course =
    { h.session.course with
      query := clearedRoute h.session.query
      txnReader := if txnWaitRead then {} else h.session.txnReader
      mybe := writer
      retries := .writer :: h.session.retries }
  notStarted : h.failure.resultStarted = false

theorem moveRetryPacketToWriter_course
    {env : FailureEnv} {source : Option Int} {writer writerHg : Int} {extendedQuery : Bool}
    {k : Handling}
    (hmoved : h.moveRetryPacketToWriter env source writer writerHg extendedQuery = some k) :
    k.session.course =
      { h.session.course with mybe := writer, retries := .writer :: h.session.retries } := by
  unfold moveRetryPacketToWriter at hmoved
  split at hmoved
  · exact absurd hmoved (by simp)
  simp only [Option.some.injEq] at hmoved
  rw [← hmoved]
  simp only [retried_course]
  have hprepared := course_eq
    (prepareRetryBackend_withoutBuffers env source writer (s := h.session))
  refine (course_eq (giveRetryPkt_withoutBuffers _)).trans ?_
  exact congrArg
    (fun c : Course => { c with mybe := writer, retries := .writer :: c.retries }) hprepared

theorem releaseFailedReader_course
    (wantReuse : Bool)
    (hread : r.txnWaitRead = true → h.txnWaitReaderFailed.isSome = true) :
    ∃ writer q, (h.releaseFailedReader r wantReuse).session.course =
        { h.session.course with
          query := q
          txnReader := if r.txnWaitRead then {} else h.session.txnReader
          mybe := writer } ∧
      clearedRoute q = clearedRoute h.session.query := by
  cases hwait : r.txnWaitRead with
  | false =>
      exact ⟨h.session.mybe, h.session.query,
        course_eq (releaseFailedReader_withoutBuffers wantReuse hwait), rfl⟩
  | true =>
      have hreleased := releaseFailedReader_txnWaitRead wantReuse hwait (hread hwait)
      refine ⟨h.session.txnReader.primaryBackend.getD h.session.mybe,
        h.session.query.resetReaderPlan, ?_, rfl⟩
      change (h.releaseFailedReader r wantReuse).session.withoutBuffers.course = _
      rw [hreleased]
      rfl

theorem prepareReaderRetryPacket_txnWaitReaderFailed
    (env : FailureEnv) :
    (h.prepareReaderRetryPacket env).2.txnWaitReaderFailed = h.txnWaitReaderFailed := by
  unfold prepareReaderRetryPacket
  split
  · rfl
  split
  · simp only
    split <;> rfl
  split
  · rfl
  · split <;> rfl

theorem retryReaderReadOnWriter_spec
    (env : FailureEnv)
    (hread : r.txnWaitRead = true → h.txnWaitReaderFailed.isSome = true) :
    ((h.retryReaderReadOnWriter r env).action = .retry ∧
        SentToWriter h r.txnWaitRead (h.retryReaderReadOnWriter r env).left) ∨
      Declined h r.txnWaitRead (h.retryReaderReadOnWriter r env) := by
  unfold retryReaderReadOnWriter
  simp only
  split
  · exact Or.inr finishWithError_declined
  rename_i hguards
  simp only [not_or] at hguards
  have hprepared := prepareReaderRetryPacket_withoutBuffers env (h := h)
  have hfacts := prepareReaderRetryPacket_facts env (h := h)
  have hfailed := prepareReaderRetryPacket_txnWaitReaderFailed env (h := h)
  have hmyds := prepareReaderRetryPacket_failedMyds env (h := h)
  generalize h.prepareReaderRetryPacket env = prepared at hprepared hfacts hfailed hmyds
  split
  · exact Or.inr (finishWithError_declined.of_eq hfacts (sent_eq hprepared)
      (extendedCycle_eq hprepared) fun hne => ⟨hmyds ▸ hne, hprepared⟩)
  obtain ⟨writer, q, hcourse, hq⟩ := releaseFailedReader_course (h := prepared.2) (r := r)
    h.failure.canReturnToPool (hfailed ▸ hread)
  have htold := releaseFailedReader_told (h := prepared.2) (r := r) h.failure.canReturnToPool
  have hkept := releaseFailedReader_facts (h := prepared.2) r h.failure.canReturnToPool
  have hnone := releaseFailedReader_failedMyds (h := prepared.2) r h.failure.canReturnToPool
  generalize prepared.2.releaseFailedReader r h.failure.canReturnToPool = k
    at hcourse htold hkept hnone
  split
  · refine Or.inr (finishWithError_declined.of_eq (hkept.trans hfacts) ?_ ?_ (absurd hnone))
    · exact htold.1.trans (sent_eq hprepared)
    · exact htold.2.trans (extendedCycle_eq hprepared)
  · rename_i moved hmoved
    have hwriter := moveRetryPacketToWriter_course hmoved
    have hstart := congrArg (fun c : Course => { c with
      query := clearedRoute c.query
      mybe := h.failure.fallbackWriterHg
      retries := .writer :: c.retries }) hcourse
    have hbefore := congrArg (fun c : Course => { c with
      query := clearedRoute c.query
      txnReader := if r.txnWaitRead then {} else c.txnReader
      mybe := h.failure.fallbackWriterHg
      retries := .writer :: c.retries }) (course_eq hprepared)
    refine Or.inl ⟨rfl, ⟨h.failure.fallbackWriterHg, ?_⟩, by simpa using hguards.1⟩
    refine hwriter.trans (hstart.trans ?_)
    simp only [hq]
    exact hbefore

theorem SentToWriter.of_eq
    {k after : Handling} {txnWaitRead : Bool}
    (hsent : SentToWriter k txnWaitRead after)
    (hsession : k.session.withoutBuffers = h.session.withoutBuffers)
    (hfacts : k.failure.facts = h.failure.facts) :
    SentToWriter h txnWaitRead after := by
  have hsame := course_eq hsession
  obtain ⟨writer, hcourse⟩ := hsent.course
  constructor
  · refine ⟨writer, hcourse.trans ?_⟩
    exact congrArg (fun c : Course => { c with
      query := clearedRoute c.query
      txnReader := if txnWaitRead then {} else c.txnReader
      mybe := writer
      retries := .writer :: c.retries }) hsame
  · have hstarted : k.failure.facts.resultStarted = h.failure.facts.resultStarted := by
      rw [hfacts]
    exact hstarted.symm.trans hsent.notStarted

/-! ### All of it -/

theorem stopFailedStream_withoutBuffers :
    h.stopFailedStream.withoutBuffers = h.session.withoutBuffers := by
  unfold stopFailedStream
  split
  · rfl
  · simp only
    split
    · rw [freeRealQuery_withoutBuffers, setLimits_withoutBuffers]
    · rfl

/-- A failed read is taken off its stream, and its wait is over. -/
structure Unwrapped (h u : Handling) : Prop where
  failure : u.failure = h.failure
  sent : u.session.sent = h.session.sent
  extendedCycle : u.session.extendedCycle = h.session.extendedCycle
  course : u.session.course =
    { h.session.course with
      query :=
        if h.failure.requestKind = .wait then h.session.query.resetWait else h.session.query }

theorem unwrapFailedRead_unwrapped :
    Unwrapped h h.unwrapFailedRead := by
  have hstopped := stopFailedStream_withoutBuffers (h := h)
  have hsent := sent_eq hstopped
  have hcycle := extendedCycle_eq hstopped
  have hcourse := course_eq hstopped
  unfold unwrapFailedRead
  simp only
  split
  · rename_i hkind
    have hwait := congrArg (fun c : Course => { c with query := c.query.resetWait }) hcourse
    refine ⟨rfl, hsent, hcycle, ?_⟩
    rw [if_pos hkind]
    exact hwait
  · rename_i hkind
    refine ⟨rfl, hsent, hcycle, ?_⟩
    rw [if_neg hkind]
    exact hcourse

theorem Unwrapped.txnWaitReaderFailed
    {u : Handling}
    (hu : Unwrapped h u) :
    u.txnWaitReaderFailed = h.txnWaitReaderFailed := by
  have hreader : u.session.txnReader = h.session.txnReader := congrArg Course.txnReader hu.course
  rw [Handling.txnWaitReaderFailed, Handling.txnWaitReaderFailed, hu.failure, hreader]

/-- What becomes of a failed read -/
inductive ReadHandled (h : Handling) (d : FailureDecision) (result : FailureResult) : Prop
  | reader :
      result.action = .retry → d.action = .retry → d.retryTarget = .otherReader →
      SentToReader h result.left → ReadHandled h d result
  | writer :
      result.action = .retry → d.action = .retry →
      d.retryTarget = .writer ∨ d.allowWriterRetry = true →
      SentToWriter h h.txnWaitReaderFailed.isSome result.left → ReadHandled h d result
  | declined :
      d.action ≠ .disconnectClient →
      Declined h h.txnWaitReaderFailed.isSome result → ReadHandled h d result
  | ended :
      result.action = .terminate → d.action = .disconnectClient → ReadHandled h d result

theorem tryOtherReader_spec
    (env : FailureEnv) :
    ((h.tryOtherReader r env).1 = true ∧ SentToReader h (h.tryOtherReader r env).2) ∨
      ((h.tryOtherReader r env).1 = false ∧ NotSent h (h.tryOtherReader r env).2 ∧
        (r.txnWaitRead = true → (h.tryOtherReader r env).2 = h)) := by
  unfold tryOtherReader
  cases r.txnWaitRead with
  | true =>
      exact Or.inr ⟨rfl, ⟨rfl, rfl, id⟩, fun _ => rfl⟩
  | false =>
      rcases tryRedispatchReaderReadToOtherReader_spec env (h := h) with
        ⟨htrue, hsent⟩ | ⟨hfalse, hnot⟩
      · exact Or.inl ⟨htrue, hsent⟩
      · exact Or.inr ⟨hfalse, hnot, fun hwait => absurd hwait Bool.false_ne_true⟩

theorem handleFailedReaderRead_handled
    (env : FailureEnv) (d : FailureDecision) :
    ReadHandled h.unwrapFailedRead d (h.handleFailedReaderRead env d) := by
  unfold handleFailedReaderRead
  simp only
  generalize h.unwrapFailedRead = u
  have hread : u.failedRead.txnWaitRead = u.txnWaitReaderFailed.isSome := rfl
  generalize u.failedRead = r at hread
  split
  · rename_i haction
    exact .ended rfl haction
  · rename_i haction
    exact .declined (by simp [haction]) (hread ▸ finishWithError_declined)
  rename_i haction
  have hcontinues : d.action ≠ .disconnectClient := by
    rw [haction]
    exact ReaderAction.noConfusion
  split
  · rename_i htarget
    rcases retryReaderReadOnWriter_spec env (h := u) (r := r) (fun hwait => hread ▸ hwait) with
      ⟨hretry, hsent⟩ | hdeclined
    · exact .writer hretry haction (Or.inl htarget) (hread ▸ hsent)
    · exact .declined hcontinues (hread ▸ hdeclined)
  rename_i htarget
  have hother : d.retryTarget = .otherReader := by
    cases hcase : d.retryTarget with
    | writer =>
        exact absurd hcase htarget
    | otherReader =>
        rfl
  have htried := tryOtherReader_spec env (h := u) (r := r)
  generalize u.tryOtherReader r env = retried at htried
  rcases htried with ⟨htrue, hsent⟩ | ⟨hfalse, hnot, hsame⟩
  · rw [if_pos htrue]
    exact .reader rfl haction hother hsent
  rw [if_neg (by rw [hfalse]; exact Bool.false_ne_true)]
  split
  · exact .declined hcontinues (hread ▸ finishWithError_declined.of_eq hnot.facts
      (sent_eq hnot.session) (extendedCycle_eq hnot.session)
      fun hne => ⟨hnot.failedMyds hne, hnot.session⟩)
  · rename_i hallow
    rcases retryReaderReadOnWriter_spec env (h := retried.2) (r := r)
      (fun hwait => by rw [hsame hwait, ← hread]; exact hwait) with ⟨hretry, hsent⟩ | hdeclined
    · exact .writer hretry haction (Or.inr (by simpa using hallow))
        (hread ▸ hsent.of_eq hnot.session hnot.facts)
    · exact .declined hcontinues (hread ▸ hdeclined.of_eq hnot.facts (sent_eq hnot.session)
        (extendedCycle_eq hnot.session) fun hne => ⟨hnot.failedMyds hne, hnot.session⟩)

end Handling

end Failures

end PolarProxy
