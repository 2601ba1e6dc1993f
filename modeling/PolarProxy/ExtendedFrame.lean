import Mathlib.Data.Nat.Notation
import Mathlib.Order.Basic
import Mathlib.Tactic.Common

/-!
# The frame of an extended query

`ExtendedQueryFrameState` accompanies the extended-protocol messages of a client
from the first one after a Sync to the next Sync.  The messages of a batch are
counted when they are queued, and the shape of the batch is kept in flags and
saturating counters; a Flush or a Sync ends the batch, and its messages are
processed in order.

A hostgroup is an `Int`, as in the source: `-1` and `-2` are the two states of a
frame without a backend.  `backend_candidates_remaining` is a `Nat`: each unit of
it is a message that the session holds in its queue.
-/

namespace PolarProxy

/-- `ExtendedFrameMessageKind`, with the statement name that is noted. -/
inductive FrameMessageKind
  | parse (stmtName : String)
  | bind (stmtName : String)
  | describeStatement
  | describePortal
  | execute
  | local_
  deriving DecidableEq

/-- `ExtendedQueryFrameState` -/
structure ExtendedQueryFrameState where
  hostgroup : Int := -1
  backendHostgroup : Int := -1
  writerRequired : Bool := false
  backendRoutePending : Bool := false
  backendSyncSent : Bool := false
  clientSyncReceived : Bool := false
  frontendReadySentFlag : Bool := false
  waitingForClientSyncAfterError : Bool := false
  backendCandidatesRemaining : Nat := 0
  batchLastWasPortalDescribe : Bool := false
  batchParseCount : Nat := 0
  batchExecuteCount : Nat := 0
  batchBackendMetadataCount : Nat := 0
  batchParseStmtName : Option String := none
  batchSawParse : Bool := false
  batchSawBind : Bool := false
  batchStmtNamesMatch : Bool := false
  batchParsePrecedesExecute : Bool := false
  batchRouteShapeComplete : Bool := true
  batchClassificationLatched : Bool := false
  batchClassifyRoute : Bool := false
  deriving DecidableEq

namespace ExtendedQueryFrameState

/-- `INACTIVE_BACKEND` -/
def inactiveBackend : Int :=
  -1

/-- `UNCLAIMED_BACKEND` -/
def unclaimedBackend : Int :=
  -2

/-- `active` -/
def active (s : ExtendedQueryFrameState) : Bool :=
  s.backendHostgroup ≠ inactiveBackend

/-- `begin` -/
def begin_ (s : ExtendedQueryFrameState) (fallbackHostgroup : Int)
    (requireWriter hasClientSync routeBatch : Bool) : ExtendedQueryFrameState :=
  if !s.active then
    { s with
      hostgroup := fallbackHostgroup
      backendHostgroup := unclaimedBackend
      writerRequired := requireWriter
      backendRoutePending := routeBatch
      backendSyncSent := false
      clientSyncReceived := hasClientSync
      frontendReadySentFlag := false
      waitingForClientSyncAfterError := false }
  else
    { s with
      -- A frame that holds a backend keeps what an earlier batch asked for.
      writerRequired :=
        if s.backendHostgroup = unclaimedBackend then requireWriter
        else s.writerRequired || requireWriter
      backendRoutePending := routeBatch
      clientSyncReceived := s.clientSyncReceived || hasClientSync }

/-- `clear_backend_candidates` -/
def clearBackendCandidates (s : ExtendedQueryFrameState) : ExtendedQueryFrameState :=
  { s with backendCandidatesRemaining := 0 }

/-- `latch_batch_classification` -/
def latchBatchClassification (s : ExtendedQueryFrameState) (routeActive : Bool) :
    ExtendedQueryFrameState :=
  if s.batchClassificationLatched then s
  else { s with batchClassificationLatched := true, batchClassifyRoute := routeActive }

/-- `increment_shape_count`, on a `uint8_t` -/
def incrementShapeCount (count : Nat) : Nat :=
  if count ≠ 255 then count + 1 else count

/-- `note_parse` -/
def noteParse (s : ExtendedQueryFrameState) (stmtName : Option String) (classifyRoute : Bool) :
    ExtendedQueryFrameState :=
  let s := { s with
    backendCandidatesRemaining := s.backendCandidatesRemaining + 1
    batchLastWasPortalDescribe := false }
  if !classifyRoute then s
  else
    { s with
      batchRouteShapeComplete := s.batchRouteShapeComplete && !s.batchSawBind
      batchParseCount := incrementShapeCount s.batchParseCount
      batchParseStmtName := stmtName
      batchSawParse := true }

/-- `note_bind` -/
def noteBind (s : ExtendedQueryFrameState) (stmtName : Option String) (classifyRoute : Bool) :
    ExtendedQueryFrameState :=
  let s := { s with batchLastWasPortalDescribe := false }
  if !classifyRoute then s
  else
    { s with
      batchStmtNamesMatch :=
        s.batchSawParse && s.batchParseStmtName.isSome && stmtName.isSome &&
          s.batchParseStmtName == stmtName
      batchSawBind := true }

/-- `note_describe` -/
def noteDescribe (s : ExtendedQueryFrameState) (portal classifyRoute : Bool) :
    ExtendedQueryFrameState :=
  let s := { s with
    backendCandidatesRemaining := s.backendCandidatesRemaining + 1
    batchLastWasPortalDescribe := portal }
  if classifyRoute then
    { s with batchBackendMetadataCount := incrementShapeCount s.batchBackendMetadataCount }
  else s

/-- The Execute that a portal Describe was waiting for. -/
def foldDescribe (s : ExtendedQueryFrameState) (classifyRoute : Bool) : ExtendedQueryFrameState :=
  let s :=
    if s.backendCandidatesRemaining = 0 then
      { s with
        backendCandidatesRemaining := s.backendCandidatesRemaining + 1
        batchRouteShapeComplete := false }
    else s
  if classifyRoute then
    if s.batchBackendMetadataCount ≠ 0 then
      { s with batchBackendMetadataCount := s.batchBackendMetadataCount - 1 }
    else { s with batchRouteShapeComplete := false }
  else s

/-- `note_execute` -/
def noteExecute (s : ExtendedQueryFrameState) (classifyRoute : Bool) : ExtendedQueryFrameState :=
  let s :=
    if s.batchLastWasPortalDescribe then s.foldDescribe classifyRoute
    else { s with backendCandidatesRemaining := s.backendCandidatesRemaining + 1 }
  let s :=
    if classifyRoute then
      { s with
        batchExecuteCount := incrementShapeCount s.batchExecuteCount
        batchParsePrecedesExecute := s.batchSawParse }
    else s
  { s with batchLastWasPortalDescribe := false }

/-- `note_local_message` -/
def noteLocalMessage (s : ExtendedQueryFrameState) : ExtendedQueryFrameState :=
  { s with batchLastWasPortalDescribe := false }

/-- The dispatch of `queue_extended_message`. -/
def noteMessage (s : ExtendedQueryFrameState) (kind : FrameMessageKind) (classifyRoute : Bool) :
    ExtendedQueryFrameState :=
  match kind with
  | .parse stmtName => s.noteParse (some stmtName) classifyRoute
  | .bind stmtName => s.noteBind (some stmtName) classifyRoute
  | .describeStatement => s.noteDescribe false classifyRoute
  | .describePortal => s.noteDescribe true classifyRoute
  | .execute => s.noteExecute classifyRoute
  | .local_ => s.noteLocalMessage

/-- `queue_extended_message` -/
def queueMessage (s : ExtendedQueryFrameState) (polardbIsActive : Bool)
    (kind : FrameMessageKind) : ExtendedQueryFrameState :=
  let s := s.latchBatchClassification polardbIsActive
  s.noteMessage kind s.batchClassifyRoute

/-- `batch_requires_writer` -/
def batchRequiresWriter (s : ExtendedQueryFrameState) (activityChanged : Bool) : Bool :=
  if activityChanged || !s.batchRouteShapeComplete then true
  else
    let oneStatementExecution :=
      s.batchExecuteCount == 1 && s.batchBackendMetadataCount == 0 &&
        decide (s.batchParseCount ≤ 1)
    let oneStatementExecution :=
      if oneStatementExecution && s.batchParseCount == 1 then
        s.batchParsePrecedesExecute && s.batchStmtNamesMatch
      else oneStatementExecution
    !oneStatementExecution

/-- `clear_batch_shape` -/
def clearBatchShape (s : ExtendedQueryFrameState) : ExtendedQueryFrameState :=
  let s :=
    if s.batchClassifyRoute then
      { s with
        batchParseCount := 0
        batchExecuteCount := 0
        batchBackendMetadataCount := 0
        batchParseStmtName := none
        batchSawParse := false
        batchSawBind := false
        batchStmtNamesMatch := false
        batchParsePrecedesExecute := false
        batchRouteShapeComplete := true }
    else s
  { s with
    batchClassificationLatched := false
    batchClassifyRoute := false
    batchLastWasPortalDescribe := false }

/-- `mark_backend_sync_sent` -/
def markBackendSyncSent (s : ExtendedQueryFrameState) (sent : Bool) : ExtendedQueryFrameState :=
  { s with backendSyncSent := sent }

/-- `mark_frontend_ready_sent` -/
def markFrontendReadySent (s : ExtendedQueryFrameState) : ExtendedQueryFrameState :=
  { s with frontendReadySentFlag := true }

/-- `needs_backend_sync` -/
def needsBackendSync (s : ExtendedQueryFrameState) : Bool :=
  decide (0 ≤ s.backendHostgroup) && !s.backendSyncSent

/-- `mark_error_waiting_for_sync` -/
def markErrorWaitingForSync (s : ExtendedQueryFrameState) : ExtendedQueryFrameState :=
  if s.active && !s.clientSyncReceived then { s with waitingForClientSyncAfterError := true }
  else s

/-- `complete` -/
def complete (s : ExtendedQueryFrameState) : ExtendedQueryFrameState :=
  { s with
    hostgroup := -1
    backendHostgroup := inactiveBackend
    writerRequired := false
    backendRoutePending := false
    backendSyncSent := false
    clientSyncReceived := false
    frontendReadySentFlag := false
    waitingForClientSyncAfterError := false
    backendCandidatesRemaining := 0 }.clearBatchShape

end ExtendedQueryFrameState

/-! ## What recording leaves alone -/

namespace ExtendedQueryFrameState

/-- The frame without the count and the shape of the batch. -/
def withoutBatch (s : ExtendedQueryFrameState) : ExtendedQueryFrameState :=
  { s with
    backendCandidatesRemaining := 0
    batchLastWasPortalDescribe := false
    batchParseCount := 0
    batchExecuteCount := 0
    batchBackendMetadataCount := 0
    batchParseStmtName := none
    batchSawParse := false
    batchSawBind := false
    batchStmtNamesMatch := false
    batchParsePrecedesExecute := false
    batchRouteShapeComplete := true }

theorem foldDescribe_withoutBatch
    (s : ExtendedQueryFrameState) (classifyRoute : Bool) :
    (s.foldDescribe classifyRoute).withoutBatch = s.withoutBatch := by
  by_cases hcandidates : s.backendCandidatesRemaining = 0
  · by_cases hmetadata : s.batchBackendMetadataCount = 0
    · cases classifyRoute <;> simp [foldDescribe, withoutBatch, hcandidates, hmetadata]
    · cases classifyRoute <;> simp [foldDescribe, withoutBatch, hcandidates, hmetadata]
  · by_cases hmetadata : s.batchBackendMetadataCount = 0
    · cases classifyRoute <;> simp [foldDescribe, withoutBatch, hcandidates, hmetadata]
    · cases classifyRoute <;> simp [foldDescribe, withoutBatch, hcandidates, hmetadata]

/-- Recording a message changes nothing but the count and the shape. -/
theorem noteMessage_withoutBatch
    (s : ExtendedQueryFrameState) (kind : FrameMessageKind) (classifyRoute : Bool) :
    (s.noteMessage kind classifyRoute).withoutBatch = s.withoutBatch := by
  cases kind with
  | parse _ | bind _ | describeStatement | describePortal =>
      cases classifyRoute <;> rfl
  | execute =>
      cases hlast : s.batchLastWasPortalDescribe with
      | true =>
          rw [← foldDescribe_withoutBatch s classifyRoute]
          cases classifyRoute <;> simp [noteMessage, noteExecute, hlast, withoutBatch]
      | false =>
          cases classifyRoute <;> simp [noteMessage, noteExecute, hlast, withoutBatch]
  | local_ =>
      rfl

end ExtendedQueryFrameState

/-! ## Messages -/

/-- A message of the extended protocol; `Q` is the type of query texts. -/
inductive ExtendedMessage (Q : Type)
  | parse (stmtName : String) (query : Q)
  | bind (portalName stmtName : String)
  /-- The type byte is `'P'` or `'S'`. -/
  | describe (portal : Bool) (name : String)
  | close (portal : Bool) (name : String)
  | execute (portalName : String)
  deriving DecidableEq

def ExtendedMessage.kind {Q : Type} : ExtendedMessage Q → FrameMessageKind
  | .parse stmtName _ => .parse stmtName
  | .bind _ stmtName => .bind stmtName
  | .describe true _ => .describePortal
  | .describe false _ => .describeStatement
  | .close _ _ => .local_
  | .execute _ => .execute

namespace ExtendedMessage

variable {Q : Type}

@[simp]
theorem kind_parse
    (stmtName : String) (query : Q) :
    (parse stmtName query).kind = .parse stmtName :=
  rfl

@[simp]
theorem kind_bind
    (portalName stmtName : String) :
    (bind portalName stmtName : ExtendedMessage Q).kind = .bind stmtName :=
  rfl

@[simp]
theorem kind_execute
    (portalName : String) :
    (execute portalName : ExtendedMessage Q).kind = .execute :=
  rfl

end ExtendedMessage

end PolarProxy
