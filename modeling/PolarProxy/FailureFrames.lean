import PolarProxy.FailureRuns

/-!
# What failure handling leaves alone

Giving up a reader, moving a packet and telling the client each touch a small part of the
session.  Here is said for each function what it leaves alone, so that a property of the whole
is followed through them without opening them again.

**Results.** `withoutBuffers`, `releaseReaderBackend_streams_of_ne`.
-/

namespace PolarProxy

namespace Failures

/-- A failure without the places it has yet to clear -/
def ReaderFailure.facts (f : ReaderFailure) : ReaderFailure :=
  { f with readerBackend := none, failedMyds := none, retryPkt := none }

namespace FailureSession

variable {s : FailureSession}

/-- A session without its streams, and the buffers they hold -/
def withoutBuffers (s : FailureSession) : FailureSession :=
  { s with
    streams := fun _ => {}
    currentQuery := .null
    nextAddr := 0
    freed := []
    freedInUse := []
    pooled := [] }

/-! ## Streams -/

@[simp]
theorem setReal_withoutBuffers
    (hg : Int) (q : StreamQuery) :
    (s.setReal hg q).withoutBuffers = s.withoutBuffers :=
  rfl

@[simp]
theorem setConn_withoutBuffers
    (hg : Int) (c : Option Connection) :
    (s.setConn hg c).withoutBuffers = s.withoutBuffers :=
  rfl

@[simp]
theorem setLimits_withoutBuffers
    (hg : Int) (l : RequestLimits) :
    (s.setLimits hg l).withoutBuffers = s.withoutBuffers :=
  rfl

@[simp]
theorem freePacket_withoutBuffers
    (p : Packet) :
    (s.freePacket p).withoutBuffers = s.withoutBuffers :=
  rfl

@[simp]
theorem freePacket?_withoutBuffers
    (p : Option Packet) :
    (s.freePacket? p).withoutBuffers = s.withoutBuffers := by
  cases p <;> rfl

@[simp]
theorem freeRealQuery_withoutBuffers
    (hg : Int) :
    (s.freeRealQuery hg).withoutBuffers = s.withoutBuffers := by
  rw [freeRealQuery, setReal_withoutBuffers, freePacket?_withoutBuffers]

@[simp]
theorem returnOrDestroyBackendStream_withoutBuffers
    (hg : Int) (returnToPool : Bool) :
    (s.returnOrDestroyBackendStream hg returnToPool).withoutBuffers = s.withoutBuffers := by
  unfold returnOrDestroyBackendStream
  split <;> rfl

@[simp]
theorem clearReaderRequest_withoutBuffers
    (hg : Int) :
    (s.clearReaderRequest hg).withoutBuffers = s.withoutBuffers := by
  rw [clearReaderRequest, setConn_withoutBuffers, freeRealQuery_withoutBuffers,
    setLimits_withoutBuffers]

@[simp]
theorem releaseReaderStream_withoutBuffers
    (hg : Int) (canReturnToPool : Bool) :
    (s.releaseReaderStream hg canReturnToPool).withoutBuffers = s.withoutBuffers := by
  rw [releaseReaderStream, returnOrDestroyBackendStream_withoutBuffers,
    clearReaderRequest_withoutBuffers]

@[simp]
theorem releaseUnusedReaderBackend_withoutBuffers
    (hg : Int) :
    (s.releaseUnusedReaderBackend hg).withoutBuffers = s.withoutBuffers := by
  unfold releaseUnusedReaderBackend
  simp only
  split
  · exact clearReaderRequest_withoutBuffers hg
  · rw [returnOrDestroyBackendStream_withoutBuffers, clearReaderRequest_withoutBuffers]

@[simp]
theorem prepareRetryBackend_withoutBuffers
    (env : FailureEnv) (source : Option Int) (target : Int) :
    (s.prepareRetryBackend env source target).withoutBuffers = s.withoutBuffers := by
  unfold prepareRetryBackend
  simp only [setLimits_withoutBuffers]
  cases source with
  | none =>
      rfl
  | some hg =>
      simp only
      split
      · rfl
      · exact setLimits_withoutBuffers hg {}

@[simp]
theorem recordReaderFailure_withoutBuffers
    (f : ReaderFailure) :
    (s.recordReaderFailure f).withoutBuffers = s.withoutBuffers := by
  unfold recordReaderFailure
  split
  · rfl
  · split <;> rfl

/-! ## Transaction readers -/

/-- What is left of a session whose transaction read is over, its buffers apart -/
def withoutTxnRequest (s : FailureSession) : FailureSession :=
  { s with
    mybe := s.txnReader.primaryBackend.getD s.mybe
    txnReader := s.txnReader.clearRequestState
    query := s.query.resetReaderPlan
    dispatchWrapperStmts := 0
    dispatchWrapperKind := .none }

/-- The buffers of a transaction read are given up. -/
def dropTxnReaderQuery (s : FailureSession) : FailureSession :=
  let t :=
    match s.txnReader.backend with
    | none => s
    | some hg => if s.txnReader.waitReadActive then s.freeRealQuery hg else s.setReal hg {}
  t.freePacket? t.txnReader.originalPkt

theorem resetTxnReaderRequest_eq :
    s.resetTxnReaderRequest = s.dropTxnReaderQuery.withoutTxnRequest :=
  rfl

@[simp]
theorem dropTxnReaderQuery_withoutBuffers :
    s.dropTxnReaderQuery.withoutBuffers = s.withoutBuffers := by
  unfold dropTxnReaderQuery
  rw [freePacket?_withoutBuffers]
  split
  · rfl
  · split
    · exact freeRealQuery_withoutBuffers _
    · rfl

theorem resetTxnReaderRequest_withoutBuffers :
    s.resetTxnReaderRequest.withoutBuffers = s.withoutBuffers.withoutTxnRequest := by
  rw [resetTxnReaderRequest_eq]
  exact congrArg withoutTxnRequest dropTxnReaderQuery_withoutBuffers

/-- What is left of a session whose transaction reader was given up, its buffers apart -/
def withoutTxnReader (s : FailureSession) : FailureSession :=
  if s.txnReader.backend = none then s
  else if s.txnReader.active ∨ s.txnReader.primaryBackend.isSome then
    s.withoutTxnRequest.forgetTxnReader
  else s.forgetTxnReader

/-- The connection of a transaction reader is given up. -/
def dropTxnReaderConn (s : FailureSession) (hg : Int) (wantReuse : Bool) : FailureSession :=
  let t := (s.setLimits hg { (s.streams hg).limits with maxConnectTime := 0 }).setReal hg {}
  match (t.streams hg).conn with
  | none => t
  | some c =>
      let c := if wantReuse then c.normalizeSplitCleanup else c
      (t.setConn hg (some c)).returnOrDestroyBackendStream hg
        (wantReuse && c.reusable && c.asyncState == AsyncState.idle &&
          !c.isActiveTransaction t.inTransaction)

@[simp]
theorem dropTxnReaderConn_withoutBuffers
    (hg : Int) (wantReuse : Bool) :
    (s.dropTxnReaderConn hg wantReuse).withoutBuffers = s.withoutBuffers := by
  unfold dropTxnReaderConn
  simp only
  split
  · rfl
  · rw [returnOrDestroyBackendStream_withoutBuffers]
    rfl

theorem releaseTxnReaderBackend_eq
    (wantReuse : Bool) :
    s.releaseTxnReaderBackend wantReuse =
      match s.txnReader.backend with
      | none => s
      | some hg =>
          ((if s.txnReader.active ∨ s.txnReader.primaryBackend.isSome then s.resetTxnReaderRequest
            else s).dropTxnReaderConn hg wantReuse).forgetTxnReader :=
  rfl

theorem forgetTxnReader_withoutBuffers :
    s.forgetTxnReader.withoutBuffers = s.withoutBuffers.forgetTxnReader :=
  rfl

theorem releaseTxnReaderBackend_withoutBuffers
    (wantReuse : Bool) :
    (s.releaseTxnReaderBackend wantReuse).withoutBuffers = s.withoutBuffers.withoutTxnReader := by
  have hsame : s.withoutBuffers.txnReader = s.txnReader := rfl
  rw [releaseTxnReaderBackend_eq, withoutTxnReader, hsame]
  cases hbackend : s.txnReader.backend with
  | none =>
      rw [if_pos rfl]
  | some hg =>
      rw [if_neg (Option.some_ne_none hg)]
      simp only [forgetTxnReader_withoutBuffers, dropTxnReaderConn_withoutBuffers]
      split
      · rw [resetTxnReaderRequest_withoutBuffers]
      · rfl

theorem releaseReaderBackend_withoutBuffers
    (backend : Option Int) (wantReuse : Bool) :
    (s.releaseReaderBackend backend wantReuse).withoutBuffers =
      if backend ≠ none ∧ s.txnReader.backend = backend then s.withoutBuffers.withoutTxnReader
      else s.withoutBuffers := by
  cases backend with
  | none =>
      rfl
  | some hg =>
      unfold releaseReaderBackend
      by_cases hreader : s.txnReader.backend = some hg
      · rw [if_pos ⟨Option.some_ne_none hg, hreader⟩]
        simp only
        rw [if_pos hreader, releaseTxnReaderBackend_withoutBuffers]
      · rw [if_neg fun h => hreader h.2]
        simp only
        rw [if_neg hreader]
        split
        · exact clearReaderRequest_withoutBuffers hg
        · rw [returnOrDestroyBackendStream_withoutBuffers, clearReaderRequest_withoutBuffers]

/-! ## Connections -/

@[simp]
theorem setReal_conn
    (hg w : Int) (q : StreamQuery) :
    ((s.setReal hg q).streams w).conn = (s.streams w).conn := by
  by_cases hw : w = hg
  · rw [hw]
    simp [setReal, setStream]
  · simp [setReal, setStream, Function.update_of_ne hw]

@[simp]
theorem setLimits_conn
    (hg w : Int) (l : RequestLimits) :
    ((s.setLimits hg l).streams w).conn = (s.streams w).conn := by
  by_cases hw : w = hg
  · rw [hw]
    simp [setLimits, setStream]
  · simp [setLimits, setStream, Function.update_of_ne hw]

theorem setConn_conn_of_ne
    {hg w : Int}
    (hw : w ≠ hg) (c : Option Connection) :
    ((s.setConn hg c).streams w).conn = (s.streams w).conn := by
  simp [setConn, setStream, Function.update_of_ne hw]

theorem freePacket?_streams
    (p : Option Packet) :
    (s.freePacket? p).streams = s.streams := by
  cases p <;> rfl

@[simp]
theorem freeRealQuery_conn
    (hg w : Int) :
    ((s.freeRealQuery hg).streams w).conn = (s.streams w).conn := by
  rw [freeRealQuery, setReal_conn, freePacket?_streams]

theorem returnOrDestroyBackendStream_conn_of_ne
    {hg w : Int}
    (hw : w ≠ hg) (returnToPool : Bool) :
    ((s.returnOrDestroyBackendStream hg returnToPool).streams w).conn = (s.streams w).conn := by
  unfold returnOrDestroyBackendStream
  split
  · rfl
  · exact setConn_conn_of_ne hw none

theorem clearReaderRequest_conn_of_ne
    {hg w : Int}
    (hw : w ≠ hg) :
    ((s.clearReaderRequest hg).streams w).conn = (s.streams w).conn := by
  rw [clearReaderRequest, setConn_conn_of_ne hw, freeRealQuery_conn, setLimits_conn]

theorem prepareRetryBackend_conn
    (env : FailureEnv) (source : Option Int) (target w : Int) :
    ((s.prepareRetryBackend env source target).streams w).conn = (s.streams w).conn := by
  unfold prepareRetryBackend
  simp only [setLimits_conn]
  split
  · rfl
  · split
    · rfl
    · rw [setLimits_conn]

theorem dropTxnReaderQuery_conn
    (w : Int) :
    (s.dropTxnReaderQuery.streams w).conn = (s.streams w).conn := by
  unfold dropTxnReaderQuery
  rw [freePacket?_streams]
  split
  · rfl
  · split
    · exact freeRealQuery_conn _ w
    · exact setReal_conn _ w {}

theorem resetTxnReaderRequest_conn
    (w : Int) :
    (s.resetTxnReaderRequest.streams w).conn = (s.streams w).conn :=
  dropTxnReaderQuery_conn w

theorem dropTxnReaderConn_conn_of_ne
    {hg w : Int}
    (hw : w ≠ hg) (wantReuse : Bool) :
    ((s.dropTxnReaderConn hg wantReuse).streams w).conn = (s.streams w).conn := by
  unfold dropTxnReaderConn
  simp only
  split
  · rw [setReal_conn, setLimits_conn]
  · rw [returnOrDestroyBackendStream_conn_of_ne hw, setConn_conn_of_ne hw, setReal_conn,
      setLimits_conn]

theorem releaseTxnReaderBackend_conn_of_ne
    {w : Int}
    (hw : s.txnReader.backend ≠ some w) (wantReuse : Bool) :
    ((s.releaseTxnReaderBackend wantReuse).streams w).conn = (s.streams w).conn := by
  rw [releaseTxnReaderBackend_eq]
  split
  · rfl
  · rename_i hg hbackend
    have hne : w ≠ hg := fun heq => hw (heq ▸ hbackend)
    change (((if s.txnReader.active ∨ s.txnReader.primaryBackend.isSome then
      s.resetTxnReaderRequest else s).dropTxnReaderConn hg wantReuse).streams w).conn = _
    rw [dropTxnReaderConn_conn_of_ne hne]
    split
    · exact resetTxnReaderRequest_conn w
    · rfl

theorem releaseReaderBackend_conn_of_ne
    {backend : Option Int} {w : Int}
    (hw : backend ≠ some w) (wantReuse : Bool) :
    ((s.releaseReaderBackend backend wantReuse).streams w).conn = (s.streams w).conn := by
  unfold releaseReaderBackend
  split
  · rfl
  · rename_i hg
    have hne : w ≠ hg := fun heq => hw (congrArg some heq.symm)
    split
    · rename_i hreader
      exact releaseTxnReaderBackend_conn_of_ne (hreader ▸ hw) wantReuse
    · simp only
      split
      · exact clearReaderRequest_conn_of_ne hne
      · rw [returnOrDestroyBackendStream_conn_of_ne hne, clearReaderRequest_conn_of_ne hne]

end FailureSession

namespace Handling

variable {h : Handling}

@[simp]
theorem freeRetryPktIfOwned_withoutBuffers :
    h.freeRetryPktIfOwned.session.withoutBuffers = h.session.withoutBuffers := by
  unfold freeRetryPktIfOwned
  split
  · rfl
  · simp only [FailureSession.freePacket_withoutBuffers]
    split <;> rfl

@[simp]
theorem giveRetryPkt_withoutBuffers
    (hg : Int) :
    (h.giveRetryPkt hg).session.withoutBuffers = h.session.withoutBuffers := by
  unfold giveRetryPkt
  split
  · rfl
  · rw [FailureSession.setReal_withoutBuffers, FailureSession.freeRealQuery_withoutBuffers]

@[simp]
theorem prepareReaderRetryPacket_withoutBuffers
    (env : FailureEnv) :
    (h.prepareReaderRetryPacket env).2.session.withoutBuffers = h.session.withoutBuffers := by
  unfold prepareReaderRetryPacket
  split
  · rfl
  split
  · simp only
    split <;> rfl
  split
  · rfl
  · split <;> rfl

@[simp]
theorem finishRetryPacket_withoutBuffers
    (r : FailedRead) (requestEndFollows : Bool) :
    (h.finishRetryPacket r requestEndFollows).session.withoutBuffers =
      h.session.withoutBuffers := by
  unfold finishRetryPacket
  split
  · split
    · exact giveRetryPkt_withoutBuffers _
    · exact freeRetryPktIfOwned_withoutBuffers
  · exact freeRetryPktIfOwned_withoutBuffers

@[simp]
theorem preserveOrdinaryRequestPacket_withoutBuffers
    (hg : Int) :
    (h.preserveOrdinaryRequestPacket hg).session.withoutBuffers = h.session.withoutBuffers := by
  unfold preserveOrdinaryRequestPacket
  split <;> rfl

/-- A reader that is no transaction reader leaves nothing behind. -/
theorem releaseFailedReader_withoutBuffers
    {r : FailedRead}
    (wantReuse : Bool)
    (hread : r.txnWaitRead = false) :
    (h.releaseFailedReader r wantReuse).session.withoutBuffers = h.session.withoutBuffers := by
  unfold releaseFailedReader
  split
  · rfl
  · simp only [hread, Bool.false_eq_true, if_false]
    rw [FailureSession.releaseReaderStream_withoutBuffers,
      preserveOrdinaryRequestPacket_withoutBuffers]

/-! ## What is known of a failure -/

@[simp]
theorem freeRetryPktIfOwned_facts :
    h.freeRetryPktIfOwned.failure.facts = h.failure.facts := by
  unfold freeRetryPktIfOwned
  split <;> rfl

@[simp]
theorem giveRetryPkt_facts
    (hg : Int) :
    (h.giveRetryPkt hg).failure.facts = h.failure.facts := by
  unfold giveRetryPkt
  split <;> rfl

@[simp]
theorem prepareReaderRetryPacket_facts
    (env : FailureEnv) :
    (h.prepareReaderRetryPacket env).2.failure.facts = h.failure.facts := by
  unfold prepareReaderRetryPacket
  split
  · rfl
  split
  · simp only
    split <;> rfl
  split
  · rfl
  · split <;> rfl

@[simp]
theorem finishRetryPacket_facts
    (r : FailedRead) (requestEndFollows : Bool) :
    (h.finishRetryPacket r requestEndFollows).failure.facts = h.failure.facts := by
  unfold finishRetryPacket
  split
  · split
    · exact giveRetryPkt_facts _
    · exact freeRetryPktIfOwned_facts
  · exact freeRetryPktIfOwned_facts

@[simp]
theorem preserveOrdinaryRequestPacket_facts
    (hg : Int) :
    (h.preserveOrdinaryRequestPacket hg).failure.facts = h.failure.facts := by
  unfold preserveOrdinaryRequestPacket
  split <;> rfl

@[simp]
theorem releaseFailedReader_facts
    (r : FailedRead) (wantReuse : Bool) :
    (h.releaseFailedReader r wantReuse).failure.facts = h.failure.facts := by
  unfold releaseFailedReader
  split
  · rfl
  · rename_i hg _
    simp only
    split
    · rfl
    · exact preserveOrdinaryRequestPacket_facts (h := h) hg

end Handling

end Failures

end PolarProxy
