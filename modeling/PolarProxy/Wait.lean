import PolarProxy.Deferred

/-!
# Waits on a reader

A read whose selected reader is behind its target is sent with a wait in front
of it.  The wait has one timer.  It is consumed by whatever is learnt first: the
timeout warning in mid-result, the strict timeout error, or the end of the
request.  A request ends in `requestEnd`, which attributes the result before it
tears the request down.

**Results.** `finishWait_fst`, `finishWait_stored`, `accountWaitTimeout_counted`.
-/

namespace PolarProxy

namespace Session

def finishReaderWaitSelection
    (s : Session) (spec : WaitSpec) (targetReached : Bool) (now : Nat) (fallbackWriterHg : Int) :
    Session :=
  if !spec.hasWait then { s with query := s.query.resetWait }
  else if targetReached then { s with query := s.query.markWaitSatisfied spec.target }
  else { s with query := s.query.beginWait spec now fallbackWriterHg }

/-- Finish the wait and stop its timer.  The second component is the target
stored as the reader's position, if it was. -/
def finishWait (s : Session) (hgm : HgmView) (conn : Option Backend) : Session × Option Nat :=
  let wait := s.query.wait
  if wait.waitStartedAtUs = 0 then (s, none)
  else
    let updateReaderLsn :=
      s.config.isPolardbEnabled && wait.wrapperFinalized && !wait.timeoutError &&
        wait.spec.type == .lsn && wait.spec.target != 0 && conn.any Backend.wrapperSetSucceeded
    let accepted :=
      (conn.bind Backend.hostgroup).any fun hg =>
        acceptRfqServerLsn hgm hg wait.spec.target s.query.requestWriterScope
    ({ s with query := { s.query with wait := { wait with waitStartedAtUs := 0 } } },
      if updateReaderLsn && accepted then some wait.spec.target else none)

/-- Account one timeout of the wait.  The second component says whether it was
counted. -/
def accountWaitTimeout (s : Session) : Session × Bool :=
  if s.query.wait.waitStage ≠ .waiting then (s, false)
  else if s.query.wait.waitStartedAtUs = 0 then (s, false)
  else ((s.finishWait {} none).1, true)

def handleLsnWaitTimeoutNotice (s : Session) (txnSplitReadActive polarWaitWrapper : Bool) :
    Session × Bool :=
  let waitActive := decide (s.query.wait.waitStage = .waiting) || txnSplitReadActive
  if !waitActive || !polarWaitWrapper then (s, false)
  else if txnSplitReadActive then (s, false)
  else s.accountWaitTimeout

/-- A wrapped query ended in an error. -/
def handleWrapperSetError (s : Session) (wasWrapped isLsnTimeout : Bool) : Session × Bool :=
  if !wasWrapped then (s, false)
  else if s.query.wait.waitStage ≠ .waiting then (s, false)
  else if isLsnTimeout then
    { s with query := { s.query with wait := { s.query.wait with timeoutError := true } }
    }.accountWaitTimeout
  else (s, false)

def failDeferred (s : Session) (waitingForClientSyncAfterError : Bool) : Session :=
  let d := s.extendedRfq
  if d.publicationPending && waitingForClientSyncAfterError then
    { s with
      consistency :=
        if d.pending && d.sawWrite then { s.consistency with writeUnknown := true }
        else s.consistency
      extendedRfq := { d with pending := false, sawWrite := false, canPreserveSessionLsn := true } }
  else if d.pending || d.publicationPending then s.abandonDeferredExtendedRfq
  else s

/-- The session whose wait is finished when its request ends. -/
def failRequest (s : Session) (calledOnFailure waitingForClientSyncAfterError : Bool) : Session :=
  if calledOnFailure then
    { s.failDeferred waitingForClientSyncAfterError with txnHasNoWriteXids := false }
  else s

/-- Tear down the request.  `frameContinues` says that further messages of the
extended frame are queued behind a `Parse` or `Describe`. -/
def clearRequestStateForQueryEnd
    (s : Session) (hgm : HgmView) (conn : Option Backend)
    (calledOnFailure waitingForClientSyncAfterError frameContinues : Bool) :
    Session × Option Nat :=
  let s₁ := s.failRequest calledOnFailure waitingForClientSyncAfterError
  let finished := s₁.finishWait hgm (if calledOnFailure then none else conn)
  let continues := !calledOnFailure && !conn.any Backend.resultHasError && frameContinues
  ({ finished.1 with
      query :=
        if continues then finished.1.query.resetBetweenExtendedMessages
        else finished.1.query.resetForNewQuery },
    finished.2)

/-- Clear staged state on a `RESET`. -/
def clearStagedWaitStateForReset (s : Session) (resetOverride frameActive : Bool) : Session :=
  let s₁ :=
    if !frameActive && (s.extendedRfq.pending || s.extendedRfq.publicationPending) then
      s.abandonDeferredExtendedRfq
    else s
  { s₁ with
    query := s₁.query.resetForNewQuery
    routeState := { s₁.routeState with rfqDegradedRouteWarningSent := false }
    config :=
      if resetOverride then { s₁.config with sessionConsistencyMode := -1 } else s₁.config }

end Session

/-! ## The end of a request -/

/-- What `RequestEnd` finds when it is called. -/
structure RequestEnd where
  hgm : HgmView := {}
  conn : Option Backend := none
  text : Option (List Char) := none
  command : QueryCommand := .unknown
  calledOnFailure : Bool := false
  fastForward : Bool := false
  isSimpleQuery : Bool := true
  isExecute : Bool := false
  backendRfqPending : Bool := false
  frontendReadySent : Bool := false
  waitingForClientSyncAfterError : Bool := false
  frameContinues : Bool := false

/-- The backend connection of a request that did not fail. -/
def RequestEnd.attributed (r : RequestEnd) : Bool :=
  !r.fastForward && !r.calledOnFailure && r.conn.isSome

namespace Session

/-- Retain the result of an `Execute` that did not fail. -/
def deferExecuteResult (s : Session) (r : RequestEnd) : Session :=
  if !r.conn.any Backend.resultHasError && r.isExecute then
    s.deferExtendedRfqResult r.conn r.text r.command
  else s

/-- Attribute a completed extended-protocol message. -/
def attributeExtended (s : Session) (r : RequestEnd) : Session :=
  if r.waitingForClientSyncAfterError then s
  else if s.extendedRfq.pending && !r.backendRfqPending then
    ((s.deferExecuteResult r).prepareDeferredExtendedRfq).processDeferredExtendedRfq r.hgm r.conn
  else if r.backendRfqPending then s.deferExecuteResult r
  else s.processResult r.hgm r.conn r.text r.command

/-- The publication of a frame whose client RFQ was already sent is over. -/
def closePublication (s : Session) (r : RequestEnd) : Session :=
  if r.frontendReadySent && s.extendedRfq.publicationPending && !s.extendedRfq.pending then
    s.completeDeferredExtendedRfqPublication
  else s

def attributeResult (s : Session) (r : RequestEnd) : Session :=
  if !r.attributed || !s.config.isPolardbEnabled then s
  else if r.isSimpleQuery then s.processResult r.hgm r.conn r.text r.command
  else (s.attributeExtended r).closePublication r

/-- End a request.  The second component is the target stored as the reader's
position, if it was. -/
def requestEnd (s : Session) (r : RequestEnd) : Session × Option Nat :=
  (s.attributeResult r).clearRequestStateForQueryEnd r.hgm r.conn r.calledOnFailure
    r.waitingForClientSyncAfterError r.frameContinues

/-! ## The timer -/

variable (s : Session)

/-- Finishing a wait only stops its timer. -/
theorem finishWait_fst (hgm : HgmView) (conn : Option Backend) :
    (s.finishWait hgm conn).1 =
      { s with query := { s.query with wait := { s.query.wait with waitStartedAtUs := 0 } } } := by
  unfold finishWait
  simp only
  split
  · rename_i hzero
    simp [← hzero]
  · rfl

theorem finishWait_stored
    {hgm : HgmView} {conn : Option Backend}
    (h : (s.finishWait hgm conn).2 ≠ none) :
    s.query.wait.waitStartedAtUs ≠ 0 := by
  intro hzero
  simp [finishWait, hzero] at h

theorem accountWaitTimeout_fst :
    s.accountWaitTimeout.1 = s ∨ s.accountWaitTimeout.1 = (s.finishWait {} none).1 := by
  unfold accountWaitTimeout
  split_ifs
  · exact Or.inl rfl
  · exact Or.inl rfl
  · exact Or.inr rfl

/-- A counted timeout had a running timer, and stopped it. -/
theorem accountWaitTimeout_counted
    (h : s.accountWaitTimeout.2 = true) :
    s.query.wait.waitStartedAtUs ≠ 0 ∧ s.accountWaitTimeout.1 = (s.finishWait {} none).1 := by
  unfold accountWaitTimeout at h ⊢
  split_ifs with hstage hzero
  · simp [hstage] at h
  · simp [hstage, hzero] at h
  · exact ⟨hzero, rfl⟩

/-- The target of a wait counts as reached only while its timer runs. -/
theorem completedWaitTarget_eq_zero
    (h : s.query.wait.waitStartedAtUs = 0)
    (conn : Option Backend) :
    s.completedWaitTarget conn = 0 := by
  simp [completedWaitTarget, h]

theorem notice_consistency (active wrapper : Bool) :
    (s.handleLsnWaitTimeoutNotice active wrapper).1.consistency = s.consistency := by
  unfold handleLsnWaitTimeoutNotice accountWaitTimeout
  simp only [finishWait_fst]
  split_ifs <;> rfl

theorem error_consistency (wrapped timeout : Bool) :
    (s.handleWrapperSetError wrapped timeout).1.consistency = s.consistency := by
  unfold handleWrapperSetError accountWaitTimeout
  simp only [finishWait_fst]
  split_ifs <;> rfl

end Session

end PolarProxy
