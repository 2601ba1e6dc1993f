import PolarProxy.Wait
import PolarProxy.Library.Runs

/-!
# The session as a transition system

The operations of the request path, the wait and the response path are the
steps of one transition system over sessions.  Every order of them is a run; the
order in which the proxy really calls them is one such run.

**Results.** `requestEnd_run`.
-/

namespace PolarProxy

open Transition

/-- Arguments of a client publication. -/
structure Publication where
  hgm : HgmView := {}
  conn : Option Backend := none
  payloadPresent : Bool := false
  lsn : Nat := 0
  processingClientQuery : Bool := true
  policy : DeferredRfqPolicy := .none

inductive SessionEvent
  | observe (vars : ThreadVars) (workerGeneration : Option Nat) (currentHg : Int)
      (hgConfig : HgConfigSnapshot) (req : Request)
  | capture (vars : ThreadVars) (workerGeneration : Option Nat) (scopeHg : Int)
      (hgConfig : HgConfigSnapshot)
  | rebind (scope : WriterScope)
  | activate (workerGeneration : Option Nat)
  | selectReader (spec : WaitSpec) (targetReached : Bool) (now : Nat) (fallbackWriterHg : Int)
  | finalizeWrapper
  | notice (txnSplitReadActive polarWaitWrapper : Bool)
  | error (wasWrapped isLsnTimeout : Bool)
  | finish (hgm : HgmView) (conn : Option Backend)
  | publish (p : Publication)
  | result (hgm : HgmView) (conn : Option Backend) (text : Option (List Char))
      (command : QueryCommand)
  | deferResult (conn : Option Backend) (text : Option (List Char)) (command : QueryCommand)
  | retainPublication (conn : Option Backend)
  | retainEvidence (hgm : HgmView) (conn : Option Backend)
  | prepareDeferred
  | processDeferred (hgm : HgmView) (conn : Option Backend)
  | completePublication
  | abandon
  | queryEnd (hgm : HgmView) (conn : Option Backend)
      (calledOnFailure waitingForClientSyncAfterError frameContinues : Bool)
  | reset (resetOverride frameActive : Bool)

/-- What an event makes visible outside the session: a timeout was counted, a
position was stored for a reader, a position was published to the client. -/
structure SessionEffect where
  counted : Bool := false
  stored : Option Nat := none
  published : Option Nat := none
  deriving DecidableEq

def SessionEvent.apply (s : Session) : SessionEvent → Session × SessionEffect
  | .observe vars generation currentHg hgConfig req =>
      ((observeAndCollect s vars generation currentHg hgConfig req).1, {})
  | .capture vars generation scopeHg hgConfig =>
      (s.captureRequestWriterScope vars generation scopeHg hgConfig, {})
  | .rebind scope => (s.rebindSessionLsnScope scope, {})
  | .activate generation => (s.activateSessionForRequest generation, {})
  | .selectReader spec reached now fallback =>
      (s.finishReaderWaitSelection spec reached now fallback, {})
  | .finalizeWrapper =>
      ({ s with query := { s.query with wait := { s.query.wait with wrapperFinalized := true } } },
        {})
  | .notice active wrapper =>
      ((s.handleLsnWaitTimeoutNotice active wrapper).1,
        { counted := (s.handleLsnWaitTimeoutNotice active wrapper).2 })
  | .error wrapped timeout =>
      ((s.handleWrapperSetError wrapped timeout).1,
        { counted := (s.handleWrapperSetError wrapped timeout).2 })
  | .finish hgm conn => ((s.finishWait hgm conn).1, { stored := (s.finishWait hgm conn).2 })
  | .publish p =>
      ((s.prepareClientReadyLsn p.hgm p.conn p.payloadPresent p.lsn p.processingClientQuery
          p.policy).1,
        { published :=
            (s.prepareClientReadyLsn p.hgm p.conn p.payloadPresent p.lsn p.processingClientQuery
              p.policy).2 })
  | .result hgm conn text command => (s.processResult hgm conn text command, {})
  | .deferResult conn text command => (s.deferExtendedRfqResult conn text command, {})
  | .retainPublication conn => (s.retainExtendedRfqPublication conn, {})
  | .retainEvidence hgm conn =>
      -- an internal resynchronization copies its RFQ only for a retained publication
      (if s.extendedRfq.publicationPending then s.retainExtendedRfqEvidence hgm conn true else s,
        {})
  | .prepareDeferred => (s.prepareDeferredExtendedRfq, {})
  | .processDeferred hgm conn => (s.processDeferredExtendedRfq hgm conn, {})
  | .completePublication => (s.completeDeferredExtendedRfqPublication, {})
  | .abandon => (s.abandonDeferredExtendedRfq, {})
  | .queryEnd hgm conn failure waiting continues =>
      ((s.clearRequestStateForQueryEnd hgm conn failure waiting continues).1,
        { stored := (s.clearRequestStateForQueryEnd hgm conn failure waiting continues).2 })
  | .reset override frameActive => (s.clearStagedWaitStateForReset override frameActive, {})

/-- One step of a session, labelled by the event and its effect. -/
def SessionStep (s : Session) (l : SessionEvent × SessionEffect) (t : Session) : Prop :=
  l.1.apply s = (t, l.2)

theorem SessionStep.of_apply (s : Session) (e : SessionEvent) :
    SessionStep s (e, (e.apply s).2) (e.apply s).1 :=
  rfl

theorem SessionStep.eq
    {s t : Session} {l : SessionEvent × SessionEffect}
    (h : SessionStep s l t) :
    t = (l.1.apply s).1 ∧ l.2 = (l.1.apply s).2 := by
  unfold SessionStep at h
  rw [h]
  exact ⟨rfl, rfl⟩

/-! ## The end of a request as a run -/

namespace Session

variable (s : Session) (r : RequestEnd)

/-- The session is reached by some run of session steps. -/
def Reaches (s t : Session) : Prop :=
  ∃ ls, Run SessionStep s ls t

theorem Reaches.refl : s.Reaches s :=
  ⟨[], Run.nil⟩

theorem Reaches.event (e : SessionEvent) : s.Reaches (e.apply s).1 :=
  ⟨_, Run.single (SessionStep.of_apply s e)⟩

theorem Reaches.trans {s t u : Session} (h : s.Reaches t) (h' : t.Reaches u) : s.Reaches u := by
  obtain ⟨ls, hls⟩ := h
  obtain ⟨ms, hms⟩ := h'
  exact ⟨ls ++ ms, hls.append hms⟩

theorem deferExecuteResult_reaches : s.Reaches (s.deferExecuteResult r) := by
  unfold deferExecuteResult
  split
  · exact Reaches.event s (.deferResult r.conn r.text r.command)
  · exact Reaches.refl s

theorem attributeExtended_reaches : s.Reaches (s.attributeExtended r) := by
  unfold attributeExtended
  split_ifs
  · exact Reaches.refl s
  · exact (s.deferExecuteResult_reaches r).trans
      ((Reaches.event _ .prepareDeferred).trans (Reaches.event _ (.processDeferred r.hgm r.conn)))
  · exact s.deferExecuteResult_reaches r
  · exact Reaches.event s (.result r.hgm r.conn r.text r.command)

theorem closePublication_reaches : s.Reaches (s.closePublication r) := by
  unfold closePublication
  split
  · exact Reaches.event s .completePublication
  · exact Reaches.refl s

/-- The end of a request is a run of session steps. -/
theorem requestEnd_run : s.Reaches (s.requestEnd r).1 := by
  have hattribute : s.Reaches (s.attributeResult r) := by
    unfold attributeResult
    split_ifs
    · exact Reaches.refl s
    · exact Reaches.event s (.result r.hgm r.conn r.text r.command)
    · exact (s.attributeExtended_reaches r).trans (closePublication_reaches _ r)
  exact hattribute.trans
    (Reaches.event _ (.queryEnd r.hgm r.conn r.calledOnFailure r.waitingForClientSyncAfterError
      r.frameContinues))

end Session

end PolarProxy
