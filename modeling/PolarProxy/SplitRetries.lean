import PolarProxy.RetryCourse

/-!
# The course of a failed split read

A read of a transaction split runs on a reader beside the transaction on the writer.  When it
fails, the reader is given up and the read is tried on another reader, or on the backend that
holds the transaction; its error is forwarded, or the session ends because that backend is lost.

**Results.** `handleSplitFailure_handled`.
-/

namespace PolarProxy

namespace Failures

open Wrapping

namespace FailureSession

variable {s : FailureSession}

theorem applyReaderFailureRouteState_course
    (route : ReaderFailureRoute) (writerHg : Int) (f : ReaderFailure) :
    (s.applyReaderFailureRouteState route writerHg f).course = s.course := by
  cases route <;> rfl

/-- A reader that is given up after its read is over leaves no transaction reader. -/
theorem releaseReaderBackend_idle
    (backend : Option Int) (wantReuse : Bool)
    (hidle : s.txnReader = { backend := backend }) :
    (s.releaseReaderBackend backend wantReuse).withoutBuffers =
      { s.withoutBuffers with txnReader := {} } := by
  have hsame : s.withoutBuffers.txnReader = { backend := backend } := hidle
  rw [releaseReaderBackend_withoutBuffers, hidle]
  cases backend with
  | none =>
      rw [if_neg fun h => h.1 rfl, ← hsame]
  | some hg =>
      rw [if_pos ⟨Option.some_ne_none hg, rfl⟩, withoutTxnReader, hsame]
      rw [if_neg (Option.some_ne_none hg), if_neg (by simp [TxnReaderState.active])]
      rw [forgetTxnReader, hsame]

theorem recordReaderFailure_txnReader
    (f : ReaderFailure) :
    (s.recordReaderFailure f).txnReader = s.txnReader :=
  congrArg Course.txnReader (course_eq (recordReaderFailure_withoutBuffers f))

theorem beginTxnSplitRead_course
    (hg : Int) (p : Packet) (wrappedQuery : List Char) (waitSpec : WaitSpec) (plan : ReaderPlan)
    (scope : WriterScope) (wrapperStmts : Nat) :
    (s.beginTxnSplitRead hg p wrappedQuery waitSpec plan scope wrapperStmts).course =
      { s.course with
        query := { s.query with readerPlan := plan }
        txnReader :=
          { s.txnReader with
            backend := some hg
            primaryBackend := some s.mybe
            splitActive := true
            waitTimeoutError := false
            wrappedQuery := wrappedQuery
            originalPkt := some p
            waitSpec := waitSpec
            writerScope := scope }
        mybe := hg } := by
  have hfreed := course_eq (freeRealQuery_withoutBuffers (s := s.beginTxnReaderRead hg scope) hg)
  exact congrArg (fun c : Course =>
    { c with
      query := { c.query with readerPlan := plan }
      txnReader :=
        { c.txnReader with
          splitActive := true
          wrappedQuery := wrappedQuery
          originalPkt := some p
          waitSpec := waitSpec } }) hfreed

/-- A split read that is over, with the failure recorded -/
structure SplitEnded (s t : FailureSession) : Prop where
  course : t.course =
    { s.course with
      query := s.query.resetReaderPlan
      txnReader := { backend := s.txnReader.backend }
      mybe := t.mybe }
  sent : t.sent = s.sent
  extendedCycle : t.extendedCycle = s.extendedCycle

theorem finishTxnReaderRead_splitEnded
    (f : ReaderFailure)
    (hactive : s.txnReader.splitActive = true) :
    SplitEnded s ((s.recordReaderFailure f).finishTxnReaderRead false true) := by
  have hrecorded := recordReaderFailure_withoutBuffers f (s := s)
  have hreader := recordReaderFailure_txnReader f (s := s)
  unfold finishTxnReaderRead
  rw [if_neg (by simp [TxnReaderState.active, hreader, hactive])]
  have hreset := resetTxnReaderRequest_withoutBuffers (s := s.recordReaderFailure f)
  rw [hrecorded] at hreset
  generalize (s.recordReaderFailure f).resetTxnReaderRequest = t at hreset
  have hcourse : t.course = s.withoutTxnRequest.course := by
    change t.withoutBuffers.course = s.withoutBuffers.withoutTxnRequest.course
    rw [hreset]
  have htold : t.sent = s.sent ∧ t.extendedCycle = s.extendedCycle := by
    change t.withoutBuffers.sent = s.withoutBuffers.withoutTxnRequest.sent ∧
      t.withoutBuffers.extendedCycle = s.withoutBuffers.withoutTxnRequest.extendedCycle
    rw [hreset]
    exact ⟨rfl, rfl⟩
  have hmybe := congrArg Course.mybe hcourse
  exact
    { course := hcourse.trans (congrArg
        (fun w => { s.withoutTxnRequest.course with mybe := w }) hmybe.symm)
      sent := htold.1
      extendedCycle := htold.2 }

end FailureSession

namespace Handling

open FailureSession

variable {h : Handling}

/-- The reader of a split read is the only thing that is left of it. -/
def ReaderLeft (h : Handling) : Prop :=
  h.session.txnReader = { backend := h.failure.readerBackend }

structure SplitSentToReader (h after : Handling) : Prop where
  course : ∃ readerHg reader, after.session.course =
      { h.session.course with
        query := { h.session.query with readerPlan := h.failure.readerPlan }
        txnReader := reader
        mybe := readerHg
        attempts := h.session.readerRetryAttempts + 1
        retries := .otherReader :: h.session.retries } ∧
    reader.backend = some readerHg ∧ reader.splitActive = true
  notStarted : h.failure.resultStarted = false

/-- A split read that another reader was asked for in vain -/
structure SplitNotSent (h after : Handling) : Prop where
  course : after.session.course = { h.session.course with txnReader := after.session.txnReader }
  readerLeft : after.ReaderLeft
  readerBackend : after.failure.readerBackend = none ∨
    after.failure.readerBackend = h.failure.readerBackend
  sent : after.session.sent = h.session.sent
  extendedCycle : after.session.extendedCycle = h.session.extendedCycle
  facts : after.failure.facts = h.failure.facts

theorem SplitNotSent.refl
    (hleft : h.ReaderLeft) :
    SplitNotSent h h :=
  ⟨rfl, hleft, Or.inr rfl, rfl, rfl, rfl⟩

theorem SplitNotSent.of_released
    {k : Handling}
    (hsession : k.session.withoutBuffers = { h.session.withoutBuffers with txnReader := {} })
    (hbackend : k.failure.readerBackend = none)
    (hfacts : k.failure.facts = h.failure.facts) :
    SplitNotSent h k := by
  have hreader : k.session.txnReader = {} := by
    change k.session.withoutBuffers.txnReader = _
    rw [hsession]
  have htold : k.session.withoutBuffers.course = { h.session.withoutBuffers.course with
      txnReader := {} } ∧ k.session.withoutBuffers.sent = h.session.sent ∧
        k.session.withoutBuffers.extendedCycle = h.session.extendedCycle := by
    rw [hsession]
    exact ⟨rfl, rfl, rfl⟩
  exact
    { course := by rw [hreader]; exact htold.1
      readerLeft := by rw [ReaderLeft, hreader, hbackend]
      readerBackend := Or.inl hbackend
      sent := htold.2.1
      extendedCycle := htold.2.2
      facts := hfacts }

theorem splitRetryPayload_some
    {payload : Packet × Nat × List Char}
    (hpayload : h.splitRetryPayload = some payload) :
    h.failure.resultStarted = false := by
  obtain ⟨p, -, hpayload⟩ := Option.bind_eq_some_iff.mp hpayload
  rw [Option.ite_none_left_eq_some] at hpayload
  simpa using fun hstarted => hpayload.1 (Or.inl hstarted)

/-- The transaction reader of a split read that was sent again -/
def splitReader (h : Handling) (p : Packet) (wrappedQuery : List Char) (reader : TxnReaderState)
    (primary : Int) : TxnReaderState :=
  { reader with
    backend := some h.failure.readerHg
    primaryBackend := some primary
    splitActive := true
    waitTimeoutError := false
    wrappedQuery := wrappedQuery
    originalPkt := some p
    waitSpec := h.failure.waitSpec
    writerScope := h.failure.writerScope }

theorem tryRedispatchToOtherReader_spec
    (env : FailureEnv)
    (hleft : h.ReaderLeft) :
    ((h.tryRedispatchToOtherReader env).1 = true ∧
        SplitSentToReader h (h.tryRedispatchToOtherReader env).2) ∨
      ((h.tryRedispatchToOtherReader env).1 = false ∧
        SplitNotSent h (h.tryRedispatchToOtherReader env).2) := by
  have hsame := SplitNotSent.refl hleft
  unfold tryRedispatchToOtherReader
  split
  · exact Or.inr ⟨rfl, hsame⟩
  split
  · exact Or.inr ⟨rfl, hsame⟩
  rename_i p wrapperStmts wrappedQuery hpayload
  have hreleased := releaseReaderBackend_idle h.failure.readerBackend h.failure.reusable hleft
  simp only
  generalize h.session.releaseReaderBackend h.failure.readerBackend h.failure.reusable = s
    at hreleased
  split
  · exact Or.inr ⟨rfl, .of_released hreleased rfl rfl⟩
  split
  · exact Or.inr ⟨rfl, .of_released hreleased rfl rfl⟩
  split
  · refine Or.inr ⟨rfl, .of_released ?_ rfl rfl⟩
    simp only [returnOrDestroyBackendStream_withoutBuffers, setConn_withoutBuffers]
    exact hreleased
  split
  · refine Or.inr ⟨rfl, .of_released ?_ rfl rfl⟩
    simp only [releaseUnusedReaderBackend_withoutBuffers, setConn_withoutBuffers]
    exact hreleased
  · rename_i conn waitBypassAllowed _ _ _
    have hprepared := (prepareRetryBackend_withoutBuffers env h.failure.readerBackend
      h.failure.readerHg (s := s.setConn h.failure.readerHg (some conn))).trans hreleased
    generalize (s.setConn h.failure.readerHg (some conn)).prepareRetryBackend env
      h.failure.readerBackend h.failure.readerHg = t at hprepared
    have hcourse : t.course = { h.session.course with txnReader := {} } := by
      change t.withoutBuffers.course = _
      rw [hprepared]
      rfl
    have hbegun := beginTxnSplitRead_course h.failure.readerHg p wrappedQuery h.failure.waitSpec
      h.failure.readerPlan h.failure.writerScope wrapperStmts
      (s := { t with currentHostgroup := h.failure.readerHg })
    have hdone := congrArg (fun c : Course =>
      { c with attempts := c.attempts + 1, retries := .otherReader :: c.retries }) hbegun
    have hstart := congrArg (fun c : Course =>
      { c with
        query := { c.query with readerPlan := h.failure.readerPlan }
        txnReader := splitReader h p wrappedQuery c.txnReader c.mybe
        mybe := h.failure.readerHg
        attempts := c.attempts + 1
        retries := .otherReader :: c.retries }) hcourse
    exact Or.inl ⟨rfl, ⟨h.failure.readerHg, splitReader h p wrappedQuery {} h.session.mybe,
      hdone.trans hstart, rfl, rfl⟩, splitRetryPayload_some hpayload⟩

/-- The backend in use holds the transaction of the session, in the scope of its writer. -/
structure HoldsTransaction (env : FailureEnv) (scope : WriterScope) (s : FailureSession) :
    Prop where
  conn : ∃ c, (s.streams s.mybe).conn = some c ∧ c.connected = true ∧ c.asyncState = .idle ∧
    c.isKnownActiveTransaction s.inTransaction = true
  writer : s.mybe = scope.hg
  current : writerScopeIsCurrent env.hgConfigAtRetry scope = true

structure SplitSentToWriter (env : FailureEnv) (h after : Handling) : Prop where
  course : after.session.course =
    { h.session.course with
      txnReader := {}
      mybe := after.session.mybe
      retries := .writer :: h.session.retries }
  holds : HoldsTransaction env h.failure.writerScope after.session
  notStarted : h.failure.resultStarted = false

theorem giveRetryPkt_conn
    (hg w : Int) :
    ((h.giveRetryPkt hg).session.streams w).conn = (h.session.streams w).conn := by
  unfold giveRetryPkt
  split
  · rfl
  · rw [setReal_conn, freeRealQuery_conn]

theorem moveRetryPacketToWriter_conn
    {env : FailureEnv} {source : Option Int} {writer writerHg : Int} {k : Handling}
    (hmoved : h.moveRetryPacketToWriter env source writer writerHg false = some k)
    (w : Int) :
    (k.session.streams w).conn = (h.session.streams w).conn := by
  unfold moveRetryPacketToWriter at hmoved
  split at hmoved
  · exact absurd hmoved (by simp)
  simp only [Option.some.injEq] at hmoved
  rw [← hmoved]
  exact (giveRetryPkt_conn writer w).trans (prepareRetryBackend_conn env source writer w)

theorem tryRedispatchToWriter_spec
    (env : FailureEnv) (writerHg : Int) (writerBackend : Option Int)
    (hleft : h.ReaderLeft)
    (hother : ∀ w, writerBackend = some w → h.failure.readerBackend ≠ some w) :
    ((h.tryRedispatchToWriter env writerHg writerBackend).1 = true ∧
        SplitSentToWriter env h (h.tryRedispatchToWriter env writerHg writerBackend).2) ∨
      ((h.tryRedispatchToWriter env writerHg writerBackend).1 = false ∧
        SplitNotSent h (h.tryRedispatchToWriter env writerHg writerBackend).2) := by
  have hsame := SplitNotSent.refl hleft
  unfold tryRedispatchToWriter
  split
  · exact Or.inr ⟨rfl, hsame⟩
  rename_i writer
  split
  · exact Or.inr ⟨rfl, hsame⟩
  rename_i hpacket
  split
  · exact Or.inr ⟨rfl, hsame⟩
  rename_i conn hconn
  split
  · exact Or.inr ⟨rfl, hsame⟩
  rename_i hready
  split
  · exact Or.inr ⟨rfl, hsame⟩
  rename_i hscope
  simp only [not_or, not_not] at hpacket hready hscope
  have hreleased := releaseReaderBackend_idle h.failure.readerBackend h.failure.reusable hleft
  have hkept := releaseReaderBackend_conn_of_ne (hother writer rfl) h.failure.reusable
    (s := h.session)
  simp only
  generalize h.session.releaseReaderBackend h.failure.readerBackend h.failure.reusable = s
    at hreleased hkept
  split
  · exact Or.inr ⟨rfl, .of_released hreleased rfl rfl⟩
  · rename_i moved hmoved
    have hmove := moveRetryPacketToWriter_course hmoved
    have hstart : s.course = { h.session.course with txnReader := {} } := by
      change s.withoutBuffers.course = _
      rw [hreleased]
      rfl
    have hcourse := hmove.trans (congrArg (fun c : Course =>
      { c with mybe := writer, retries := .writer :: c.retries }) hstart)
    have hmybe : moved.session.mybe = writer := congrArg Course.mybe hcourse
    have hin : moved.session.inTransaction = h.session.inTransaction :=
      congrArg Course.inTransaction hcourse
    refine Or.inl ⟨rfl, ?_⟩
    exact
      { course := by rw [hmybe]; exact hcourse
        holds :=
          { conn := ⟨conn, by
              rw [hmybe, moveRetryPacketToWriter_conn hmoved writer]
              exact hkept.trans hconn,
              by simpa using hready.1, hready.2.2, by
              rw [hin]
              simpa using hready.2.1⟩
            writer := by rw [hmybe, hscope.2.1, hscope.1]
            current := by simpa using hscope.2.2 }
        notStarted := by simpa using hpacket.2 }

theorem SplitNotSent.trans
    {k after : Handling}
    (hk : SplitNotSent h k)
    (hafter : SplitNotSent k after) :
    SplitNotSent h after where
  course := hafter.course.trans (congrArg (fun c : Course =>
    { c with txnReader := after.session.txnReader }) hk.course)
  readerLeft := hafter.readerLeft
  readerBackend := hafter.readerBackend.elim Or.inl fun h => h ▸ hk.readerBackend
  sent := hafter.sent.trans hk.sent
  extendedCycle := hafter.extendedCycle.trans hk.extendedCycle
  facts := hafter.facts.trans hk.facts

theorem SplitSentToWriter.of_notSent
    {env : FailureEnv} {k after : Handling}
    (hk : SplitNotSent h k)
    (hafter : SplitSentToWriter env k after) :
    SplitSentToWriter env h after := by
  have hfacts : k.failure.facts.writerScope = h.failure.facts.writerScope ∧
      k.failure.facts.resultStarted = h.failure.facts.resultStarted := by
    rw [hk.facts]
    exact ⟨rfl, rfl⟩
  exact
    { course := hafter.course.trans (congrArg (fun c : Course =>
        { c with
          txnReader := {}
          mybe := after.session.mybe
          retries := .writer :: c.retries }) hk.course)
      holds := hfacts.1 ▸ hafter.holds
      notStarted := hfacts.2 ▸ hafter.notStarted }

inductive SplitTried (env : FailureEnv) (h : Handling) (d : FailureDecision) :
    Option RetryTarget × Handling → Prop
  | reader {after : Handling} :
      d.action = .retry → d.retryTarget = .otherReader → SplitSentToReader h after →
      SplitTried env h d (some .otherReader, after)
  | writer {after : Handling} :
      d.action = .retry → d.allowWriterRetry = true → SplitSentToWriter env h after →
      SplitTried env h d (some .writer, after)
  | none {after : Handling} :
      SplitNotSent h after → SplitTried env h d (none, after)

theorem trySplitOnOtherReader_spec
    (env : FailureEnv) (d : FailureDecision)
    (hleft : h.ReaderLeft) :
    ((h.trySplitOnOtherReader env d).1 = true ∧ d.retryTarget = .otherReader ∧
        SplitSentToReader h (h.trySplitOnOtherReader env d).2) ∨
      ((h.trySplitOnOtherReader env d).1 = false ∧
        SplitNotSent h (h.trySplitOnOtherReader env d).2) := by
  unfold trySplitOnOtherReader
  split
  · rename_i htarget
    rcases tryRedispatchToOtherReader_spec env hleft with ⟨htrue, hsent⟩ | ⟨hfalse, hnot⟩
    · exact Or.inl ⟨htrue, htarget, hsent⟩
    · exact Or.inr ⟨hfalse, hnot⟩
  · exact Or.inr ⟨rfl, .refl hleft⟩

theorem retrySplitRead_tried
    (env : FailureEnv) (d : FailureDecision) (writer : WriterState × Int × Option Int)
    (hleft : h.ReaderLeft)
    (hother : ∀ w, writer.2.2 = some w → h.failure.readerBackend ≠ some w) :
    SplitTried env h d (h.retrySplitRead env d writer) := by
  unfold retrySplitRead
  split
  · exact .none (.refl hleft)
  rename_i hguards
  simp only [not_or, not_not] at hguards
  have htried := trySplitOnOtherReader_spec env d hleft
  simp only
  generalize h.trySplitOnOtherReader env d = tried at htried
  rcases htried with ⟨htrue, htarget, hsent⟩ | ⟨hfalse, hnot⟩
  · rw [if_pos htrue]
    exact .reader hguards.1 htarget hsent
  rw [if_neg (by rw [hfalse]; exact Bool.false_ne_true)]
  split
  · exact .none hnot
  rename_i hallow
  simp only [not_or, not_not] at hallow
  have hwriter := tryRedispatchToWriter_spec env writer.2.1 writer.2.2 hnot.readerLeft
    (fun w hw => by
      rcases hnot.readerBackend with hnone | hsame
      · rw [hnone]
        exact (Option.some_ne_none w).symm
      · rw [hsame]
        exact hother w hw)
  generalize tried.2.tryRedispatchToWriter env writer.2.1 writer.2.2 = sent at hwriter
  rcases hwriter with ⟨htrue, hsent⟩ | ⟨hfalse, hnot'⟩
  · rw [if_pos htrue]
    exact .writer hguards.1 (by simpa using hallow.1) (hsent.of_notSent hnot)
  · rw [if_neg (by rw [hfalse]; exact Bool.false_ne_true)]
    exact .none (hnot.trans hnot')

theorem HoldsTransaction.route
    {env : FailureEnv} {scope : WriterScope} {s : FailureSession}
    (hholds : HoldsTransaction env scope s)
    (route : ReaderFailureRoute) (writerHg : Int) (f : ReaderFailure) :
    HoldsTransaction env scope (s.applyReaderFailureRouteState route writerHg f) := by
  cases route <;> exact ⟨hholds.conn, hholds.writer, hholds.current⟩

theorem resolveWriterState_other
    {s : FailureSession} {env : FailureEnv} {f : ReaderFailure} {w : Int}
    (hwriter : (s.resolveWriterState env f).2.2 = some w) :
    f.readerBackend ≠ some w := by
  unfold resolveWriterState at hwriter
  simp only at hwriter
  split at hwriter
  · exact absurd hwriter (by simp)
  split at hwriter
  · exact absurd hwriter (by simp)
  split at hwriter
  · rename_i backend hfound
    unfold findOpenTransactionBackend at hfound
    split at hfound
    · exact absurd hfound (by simp)
    rename_i hguards
    split at hfound
    · intro hsame
      rw [hsame] at hguards
      simp only [Option.some.injEq] at hfound hwriter
      exact hguards (Or.inr (by rw [hfound, hwriter]))
    · exact absurd hfound (by simp)
  · split at hwriter
    · exact absurd hwriter (by simp)
    split at hwriter
    · split at hwriter <;> exact absurd hwriter (by simp)
    · exact absurd hwriter (by simp)

theorem forwardErrorAndKeepWriter_answered
    (hleft : h.ReaderLeft) :
    h.forwardErrorAndKeepWriter.action = .forward ∧
      Answered h.session h.forwardErrorAndKeepWriter.left.session 'T' := by
  have hreleased := releaseReaderBackend_idle h.failure.readerBackend h.failure.reusable hleft
  have hanswered := forwardReaderError_answered h.failure 'T'
    (s := h.session.releaseReaderBackend h.failure.readerBackend h.failure.reusable)
  refine ⟨rfl, ?_⟩
  have htold : (h.session.releaseReaderBackend h.failure.readerBackend
        h.failure.reusable).sent = h.session.sent ∧
      (h.session.releaseReaderBackend h.failure.readerBackend
        h.failure.reusable).extendedCycle = h.session.extendedCycle := by
    change (h.session.releaseReaderBackend _ _).withoutBuffers.sent = _ ∧
      (h.session.releaseReaderBackend _ _).withoutBuffers.extendedCycle = _
    rw [hreleased]
    exact ⟨rfl, rfl⟩
  have hfreed := freeRetryPktIfOwned_withoutBuffers (h := { h with
    session := (h.session.releaseReaderBackend h.failure.readerBackend
      h.failure.reusable).forwardReaderError h.failure 'T' })
  have hsent := sent_eq hfreed
  have hanswer := hanswered.of_eq htold.1 htold.2
  exact
    { sent := by rw [forwardErrorAndKeepWriter, hsent]; exact hanswer.sent
      ready := by rw [forwardErrorAndKeepWriter, hsent]; exact hanswer.ready }

/-- What becomes of a failed split read -/
inductive SplitHandled (env : FailureEnv) (h : Handling) (d : FailureDecision)
    (result : FailureResult) : Prop
  | reader {e : FailureSession} {after : Handling} :
      result.action = .retry →
      (h.session.resolveWriterState env h.failure).1 ≠ .lost →
      d.action = .retry → d.retryTarget = .otherReader →
      SplitEnded h.session e → SplitSentToReader { h with session := e } after →
      result.left.session.course = after.session.course →
      SplitHandled env h d result
  | writer {e : FailureSession} {after : Handling} :
      result.action = .retry →
      (h.session.resolveWriterState env h.failure).1 ≠ .lost →
      d.action = .retry → d.allowWriterRetry = true →
      SplitEnded h.session e → SplitSentToWriter env { h with session := e } after →
      result.left.session.course = after.session.course →
      HoldsTransaction env h.failure.writerScope result.left.session →
      SplitHandled env h d result
  | forwarded :
      result.action = .forward →
      (h.session.resolveWriterState env h.failure).1 ≠ .lost →
      Answered h.session result.left.session 'T' →
      SplitHandled env h d result
  | ended :
      result.action = .terminate → SplitHandled env h d result

theorem handleSplitFailure_handled
    (env : FailureEnv)
    (hactive : h.session.txnReader.splitActive = true)
    (hbackend : h.failure.readerBackend = h.session.txnReader.backend) :
    SplitHandled env h (readerFailureDecision h.failure h.session.readerRetryAttempts)
      (h.handleSplitFailure env) := by
  have hended := finishTxnReaderRead_splitEnded h.failure hactive
  unfold handleSplitFailure
  simp only
  generalize (h.session.recordReaderFailure h.failure).finishTxnReaderRead false true = t
    at hended
  have hattempts : t.readerRetryAttempts = h.session.readerRetryAttempts :=
    congrArg Course.attempts hended.course
  have hreader : t.txnReader = { backend := h.failure.readerBackend } :=
    (congrArg Course.txnReader hended.course).trans (by rw [hbackend])
  split
  · exact .ended rfl
  rename_i hlost
  rw [hattempts]
  split
  · exact .ended rfl
  have htried := retrySplitRead_tried (h := { h with session := t }) env
    (readerFailureDecision h.failure h.session.readerRetryAttempts)
    (h.session.resolveWriterState env h.failure) hreader fun w hw => resolveWriterState_other hw
  generalize ({ h with session := t } : Handling).retrySplitRead env
    (readerFailureDecision h.failure h.session.readerRetryAttempts)
    (h.session.resolveWriterState env h.failure) = tried at htried
  cases htried with
  | reader haction htarget hsent =>
      exact .reader rfl hlost haction htarget hended hsent
        (applyReaderFailureRouteState_course _ _ _)
  | writer haction hallow hsent =>
      rename_i after
      have hholds := hsent.holds.route .forceWriter
        (h.session.resolveWriterState env h.failure).2.1 after.failure
      exact .writer rfl hlost haction hallow hended hsent
        (applyReaderFailureRouteState_course _ _ _) hholds
  | none hnot =>
      rename_i after
      have hforwarded : ∀ k : Handling, k.ReaderLeft → k.session.sent = after.session.sent →
          k.session.extendedCycle = after.session.extendedCycle →
          SplitHandled env h (readerFailureDecision h.failure h.session.readerRetryAttempts)
            k.forwardErrorAndKeepWriter := by
        intro k hleft hsent hcycle
        obtain ⟨haction, hanswered⟩ := forwardErrorAndKeepWriter_answered hleft
        exact .forwarded haction hlost (hanswered.of_eq
          (hsent.trans (hnot.sent.trans hended.sent))
          (hcycle.trans (hnot.extendedCycle.trans hended.extendedCycle)))
      simp only
      split
      · exact hforwarded _ hnot.readerLeft rfl rfl
      · exact hforwarded _ hnot.readerLeft rfl rfl

end Handling

end Failures

end PolarProxy
