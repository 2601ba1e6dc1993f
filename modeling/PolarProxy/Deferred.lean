import PolarProxy.Result

/-!
# Deferred results and client publication

In the extended protocol several messages may complete before the one `Sync`
whose `ReadyForQuery` positions them.  The session retains what that RFQ will be
attributed to: the writer scope of the messages, the read target they confirmed
and whether one of them wrote.  The same record carries the response policy to
the RFQ published to the client.

**Operations.**  `deferExtendedRfqResult` retains a result and
`processDeferredExtendedRfq` attributes the RFQ to what was retained;
`prepareClientReadyLsn` computes the position published to the client and
whether the session position is kept.

**Results.** `prepareClientReadyLsn_fst`.
-/

namespace PolarProxy

/-- Which deferred state the client RFQ may inspect. -/
inductive DeferredRfqPolicy
  | none
  | detect
  | prepared
  deriving DecidableEq

/-- The position published to a client and why it was raised. -/
structure ClientRfqDecision where
  includeLsn : Bool := false
  lsn : Nat := 0
  raisedToTarget : Bool := false
  raisedByWriter : Bool := false
  raisedByWait : Bool := false
  deriving DecidableEq

/-- Select the position a client RFQ exposes. -/
def clientRfqDecision
    (clientRequestedLsn backendPayloadPresent : Bool)
    (backendLsn sessionTarget : Nat)
    (sessionLsnIsBaseline responseFromWriter : Bool)
    (confirmedReadTarget completedWaitTarget : Nat) : ClientRfqDecision :=
  if !clientRequestedLsn || !backendPayloadPresent then {}
  else
    let baseline :=
      if sessionLsnIsBaseline && responseFromWriter && decide (0 < sessionTarget) then
        sessionTarget
      else backendLsn
    let writerTarget := if responseFromWriter && decide (0 < sessionTarget) then sessionTarget else 0
    let requiredTarget :=
      if writerTarget < confirmedReadTarget then confirmedReadTarget else writerTarget
    let lsn := if baseline < requiredTarget then requiredTarget else baseline
    { includeLsn := true
      lsn := lsn
      raisedToTarget := decide (backendLsn < lsn)
      raisedByWriter :=
        decide (backendLsn < lsn) && responseFromWriter && decide (sessionTarget = lsn)
      raisedByWait :=
        decide (backendLsn < lsn) && decide (0 < completedWaitTarget) &&
          decide (completedWaitTarget = requiredTarget) }

namespace Session

/-- Copy the values of a backend RFQ. -/
def captureRfqEvidence
    (s : Session) (hgm : HgmView) (conn : Option Backend) (payloadPresent : Bool) (lsn : Nat)
    (processingClientQuery : Bool) : RfqEvidence :=
  match conn with
  | none => {}
  | some b =>
      let config := (b.hostgroup.map hgm.cachedConfig).getD {}
      let txnLsnIsHint :=
        rfqIsPrewriteSplitCandidate b.txnStatus b.txnXids b.txnSplittable b.txnWalPending
      { valid := true
        payloadPresent := payloadPresent
        lsn := if payloadPresent then lsn else 0
        backendHostgroup := b.hostgroup.getD (-1)
        writerScope := if config.isPolardbHostgroup then config.writerScope else {}
        keepSessionLsnCandidate :=
          txnLsnIsHint ||
            (!b.processingMultiStatement && !b.resultHasError &&
              (processingClientQuery || s.extendedRfq.pending) &&
                (s.txnHasNoWriteXids && b.txnStatus == 'I')) }

def completedWaitTarget (s : Session) (conn : Option Backend) : Nat :=
  let wait := s.query.wait
  if wait.wrapperFinalized && !wait.timeoutError && wait.spec.type == .lsn &&
      decide (0 < wait.spec.target) && wait.waitStartedAtUs != 0 &&
        conn.any Backend.wrapperSetSucceeded then
    wait.spec.target
  else 0

/-- The scope a client RFQ is published under. -/
def publicationScope (s : Session) (deferredPublication : Bool) : WriterScope :=
  let scope := s.query.requestWriterScope
  if !deferredPublication then scope
  else if ¬ s.extendedRfq.scopeConsistent ∨ ¬ s.extendedRfq.writerScope.Valid then {}
  else if ¬ scope.Valid then s.extendedRfq.writerScope
  else if ¬ scope.Matches s.extendedRfq.writerScope then {}
  else scope

/-- The RFQ values a client RFQ is computed from. -/
def publicationEvidence
    (s : Session) (hgm : HgmView) (conn : Option Backend) (payloadPresent : Bool) (lsn : Nat)
    (processingClientQuery : Bool) (policy : DeferredRfqPolicy) : Option RfqEvidence :=
  if policy = .prepared ∧ s.extendedRfq.rfqEvidence.valid then some s.extendedRfq.rfqEvidence
  else if conn.isSome then
    some (s.captureRfqEvidence hgm conn payloadPresent lsn processingClientQuery)
  else if policy ≠ .none ∧ s.extendedRfq.rfqEvidence.valid then some s.extendedRfq.rfqEvidence
  else none

/-- Whether the RFQ values belong to the current scope of the publication. -/
def responseScopeMatches (hgm : HgmView) (evidence : Option RfqEvidence) (scope : WriterScope) :
    Bool :=
  match evidence with
  | none => false
  | some e =>
      let config := hgm.cachedConfig e.backendHostgroup
      e.valid && decide (0 ≤ e.backendHostgroup) && config.isPolardbHostgroup &&
        decide (e.writerScope.Matches config.writerScope) &&
          decide (scope.Matches config.writerScope)

/-- Whether the RFQ values belong to that scope and come from its writer. -/
def responseFromWriter (hgm : HgmView) (evidence : Option RfqEvidence) (scope : WriterScope) :
    Bool :=
  responseScopeMatches hgm evidence scope &&
    evidence.any fun e =>
      backendIsWriterHostgroup true e.backendHostgroup
        (hgm.cachedConfig e.backendHostgroup).writerHostgroup

/-- The session target, if it was recorded under the scope. -/
def targetInScope (s : Session) (scope : WriterScope) : Nat :=
  if s.consistency.writerScope.Matches scope then s.consistency.target else 0

def publishedReadTarget
    (s : Session) (conn : Option Backend) (scopeMatches deferredPublication : Bool) : Nat :=
  let confirmed :=
    if scopeMatches then max (s.completedWaitTarget conn) s.query.waitBypassTarget else 0
  if deferredPublication && scopeMatches && s.extendedRfq.scopeConsistent &&
      decide s.extendedRfq.writerScope.Valid then
    max confirmed s.extendedRfq.confirmedReadTarget
  else confirmed

/-- Compute the position of a client RFQ and whether the session position is
kept.  The second component is the published position. -/
def prepareClientReadyLsn
    (s : Session) (hgm : HgmView) (conn : Option Backend) (payloadPresent : Bool) (lsn : Nat)
    (processingClientQuery : Bool) (policy : DeferredRfqPolicy) : Session × Option Nat :=
  let deferredPublication := decide (policy = .detect) && s.extendedRfq.publicationPending
  if !s.query.profileEnabled && !(deferredPublication && s.extendedRfq.profileEnabled) then
    ({ s with query := { s.query with keepSessionLsn := false } }, none)
  else
    let scope := s.publicationScope deferredPublication
    let requested := s.routeState.clientRfqLsnRequested
    let evidence :=
      s.publicationEvidence hgm conn payloadPresent lsn processingClientQuery policy
    let keepCandidate := evidence.any RfqEvidence.keepSessionLsnCandidate
    if !requested && !keepCandidate then (s, none)
    else
      let fromWriter := responseFromWriter hgm evidence scope
      let keep :=
        keepCandidate && fromWriter && decide (s.consistency.writerScope.Matches scope)
      let s' : Session := { s with query := { s.query with keepSessionLsn := keep } }
      if !requested then (s', none)
      else
        let decision :=
          clientRfqDecision requested
            ((evidence.map RfqEvidence.payloadPresent).getD payloadPresent)
            ((evidence.map RfqEvidence.lsn).getD lsn) (s.targetInScope scope) keep fromWriter
            (s.publishedReadTarget conn (responseScopeMatches hgm evidence scope)
              deferredPublication)
            (s.completedWaitTarget conn)
        (s', if decision.includeLsn then some decision.lsn else none)

/-- Retain what the later RFQ is published under. -/
def retainExtendedRfqPublication (s : Session) (conn : Option Backend) : Session :=
  let d := s.extendedRfq
  let confirmed := max s.query.waitBypassTarget (s.completedWaitTarget conn)
  let scope := s.query.requestWriterScope
  let d₁ : ExtendedRfqState :=
    if !d.pending && !d.publicationPending then
      { d with
        writerScope := scope
        effectiveConsistencyMode := s.query.effectiveConsistencyMode
        profileEnabled := s.query.profileEnabled
        scopeConsistent := decide scope.Valid }
    else
      { d with
        profileEnabled := d.profileEnabled || s.query.profileEnabled
        effectiveConsistencyMode :=
          if usesLsnWait (consistencyFromInt s.query.effectiveConsistencyMode) then
            s.query.effectiveConsistencyMode
          else d.effectiveConsistencyMode
        scopeConsistent := d.scopeConsistent && decide (d.writerScope.Matches scope)
        writerScope := if d.writerScope.Matches scope then d.writerScope else {} }
  { s with
    extendedRfq :=
      { d₁ with
        publicationPending := true
        confirmedReadTarget :=
          if d₁.scopeConsistent then max d₁.confirmedReadTarget confirmed else 0 } }

/-- Copy the RFQ of an internal resynchronization. -/
def retainExtendedRfqEvidence
    (s : Session) (hgm : HgmView) (conn : Option Backend) (processingClientQuery : Bool) :
    Session :=
  let evidence :=
    match conn with
    | none => {}
    | some b =>
        s.captureRfqEvidence hgm conn b.payloadPresent (if b.payloadPresent then b.lsn else 0)
          processingClientQuery
  { s with extendedRfq := { s.extendedRfq with rfqEvidence := evidence } }

/-- Retain a successful result until its RFQ arrives. -/
def deferExtendedRfqResult
    (s : Session) (conn : Option Backend) (text : Option (List Char)) (command : QueryCommand) :
    Session :=
  let s₁ := s.retainExtendedRfqPublication conn
  { s₁ with
    extendedRfq :=
      { s₁.extendedRfq with
        pending := true
        sawWrite := s₁.extendedRfq.sawWrite || shouldAdvanceSessionWriteLsn text command
        canPreserveSessionLsn :=
          s₁.extendedRfq.canPreserveSessionLsn && queryCommandCanPreserveSessionLsn command } }

/-- Restore the retained policy for the RFQ that positions it. -/
def prepareDeferredExtendedRfq (s : Session) : Session :=
  let d := s.extendedRfq
  if !d.pending && !d.publicationPending then s
  else
    { s with
      query :=
        { s.query.resetForNewQuery with
          requestWriterScope := if d.scopeConsistent then d.writerScope else {}
          effectiveConsistencyMode := d.effectiveConsistencyMode
          profileEnabled := d.profileEnabled
          waitBypassTarget := d.confirmedReadTarget } }

/-- The client RFQ was published. -/
def completeDeferredExtendedRfqPublication (s : Session) : Session :=
  if !s.extendedRfq.pending then { s with extendedRfq := {} }
  else { s with extendedRfq := { s.extendedRfq with publicationPending := false } }

/-- Attribute the RFQ to the retained results. -/
def processDeferredExtendedRfq (s : Session) (hgm : HgmView) (conn : Option Backend) : Session :=
  if !s.extendedRfq.pending then s
  else
    let d := s.extendedRfq
    let s₁ := s.processResultWithAttribution hgm conn none d.sawWrite d.canPreserveSessionLsn
    let s₂ : Session :=
      if !d.scopeConsistent && d.sawWrite then
        { s₁ with consistency := { s₁.consistency with writeUnknown := true } }
      else s₁
    { s₂ with
      extendedRfq :=
        if !d.publicationPending then {}
        else { d with pending := false, sawWrite := false, canPreserveSessionLsn := true } }

/-- Give up the retained results; a retained write has no position. -/
def abandonDeferredExtendedRfq (s : Session) : Session :=
  { s with
    consistency :=
      if s.extendedRfq.pending && s.extendedRfq.sawWrite then
        { s.consistency with writeUnknown := true }
      else s.consistency
    extendedRfq := {} }

/-- A publication only decides whether the session position is kept. -/
theorem prepareClientReadyLsn_fst
    (s : Session) (hgm : HgmView) (conn : Option Backend) (payloadPresent : Bool) (lsn : Nat)
    (processingClientQuery : Bool) (policy : DeferredRfqPolicy) :
    ∃ keep,
      (s.prepareClientReadyLsn hgm conn payloadPresent lsn processingClientQuery policy).1 =
        { s with query := { s.query with keepSessionLsn := keep } } := by
  unfold prepareClientReadyLsn
  simp only
  split
  · exact ⟨false, rfl⟩
  · split
    · exact ⟨s.query.keepSessionLsn, rfl⟩
    · split
      · exact ⟨_, rfl⟩
      · exact ⟨_, rfl⟩

end Session

end PolarProxy
