import PolarProxy.Library.Runs
import PolarProxy.RetrySafety

/-!
# Runs of a request and their retries

A request is followed from its start through any number of events.  What holds of its course
(`Tracked`) holds after the request was planned and is kept by each event, so that it holds in
every state that is reached.  From it follows what a retry is safe by, whatever happened before.

**Results.**
* `startRequest_tracked`, `next_tracked`: the start and each event of a request.
* `reachable_tracked`: every state that is reached.
* `reachable_retry_permitted`, `reachable_retries_ordered`: what is sent again, and how often.
* `reachable_split_writer`: the writer of a transaction split.
* `reachable_forward_answered`: what the client is told.
-/

namespace PolarProxy

namespace Failures

open Wrapping FailureSession Transition

/-! ## Plans of a transaction -/

section Plans

variable {env : PlanEnv} {ctx : RouteCtx} {mode : ConsistencyMode}

/-- Only a read that a transaction reader takes over keeps a mode or a wait in a
transaction. -/
structure KeepsTransaction (ctx : RouteCtx) (plan : RoutePlan) : Prop where
  mode : ctx.inTransaction = true → plan.txnWaitRead = false → plan.action ≠ .replicaTxnSplit →
    plan.reader.consistencyMode = .off ∧ plan.action ≠ .replicaWithWait
  split : plan.action = .replicaTxnSplit → ctx.inTransaction = true

theorem planMissingLsn_keeps
    {reason : RouteActionReason} {allow splitChecked : Bool} :
    KeepsTransaction ctx (planMissingLsn ctx reason allow splitChecked) := by
  unfold planMissingLsn missingLsn snapshotReaderPolicy
  dsimp only
  constructor
  · intro _ _ _
    split
    · exact ⟨rfl, RouteAction.noConfusion⟩
    split
    · exact ⟨rfl, RouteAction.noConfusion⟩
    split <;> exact ⟨rfl, RouteAction.noConfusion⟩
  · intro h
    split at h
    · exact absurd h RouteAction.noConfusion
    split at h
    · exact absurd h RouteAction.noConfusion
    split at h <;> exact absurd h RouteAction.noConfusion

theorem planConsistencyRead_keeps
    {plan : RoutePlan} {txnWaitRead : Bool} :
    KeepsTransaction ctx (planConsistencyRead env ctx mode plan txnWaitRead) := by
  unfold planConsistencyRead
  dsimp only
  split
  · exact ⟨fun _ _ _ => ⟨rfl, RouteAction.noConfusion⟩, fun h => absurd h RouteAction.noConfusion⟩
  rename_i hreason
  -- What is left of a transaction is read by a transaction reader.
  have hread : ctx.inTransaction = true → txnWaitRead = true := by
    intro hin
    by_contra hread
    rw [Bool.not_eq_true] at hread
    simp [writerRequiredReason, hin, hread] at hreason
  split
  · exact planMissingLsn_keeps
  split
  · exact planMissingLsn_keeps
  split
  · exact planMissingLsn_keeps
  split
  · exact ⟨fun hin h _ => absurd ((hread hin).symm.trans h) Bool.noConfusion,
      fun h => absurd h RouteAction.noConfusion⟩
  · exact ⟨fun hin h _ => absurd ((hread hin).symm.trans h) Bool.noConfusion,
      fun h => absurd h RouteAction.noConfusion⟩

theorem planSplitRead_keeps
    (hin : ctx.inTransaction = true) :
    KeepsTransaction ctx (planSplitRead env ctx mode) := by
  unfold planSplitRead
  dsimp only
  split
  · exact planMissingLsn_keeps
  · refine ⟨fun _ _ hsplit => ?_, fun _ => hin⟩
    exfalso
    unfold attachReaderLagCap at hsplit
    split at hsplit <;> exact hsplit rfl

theorem planLsn_keeps :
    KeepsTransaction ctx (planLsn env ctx mode) := by
  unfold planLsn
  split
  · exact ⟨fun _ _ _ => ⟨rfl, RouteAction.noConfusion⟩, fun h => absurd h RouteAction.noConfusion⟩
  split
  · rename_i hin
    unfold planTransaction
    split
    · split
      · exact planConsistencyRead_keeps
      · exact ⟨fun _ _ _ => ⟨rfl, RouteAction.noConfusion⟩,
          fun h => absurd h RouteAction.noConfusion⟩
    split
    · exact ⟨fun _ _ _ => ⟨rfl, RouteAction.noConfusion⟩,
        fun h => absurd h RouteAction.noConfusion⟩
    · exact planSplitRead_keeps hin
  · exact planConsistencyRead_keeps

theorem polardbPlan_keeps
    (env : PlanEnv) (ctx : RouteCtx) :
    KeepsTransaction ctx (polardbPlan env ctx) := by
  have hforced : ∀ hg reason, KeepsTransaction ctx (forcePrimary hg reason) := fun _ _ =>
    ⟨fun _ _ _ => ⟨rfl, RouteAction.noConfusion⟩, fun h => absurd h RouteAction.noConfusion⟩
  have hplain : ∀ plan : RoutePlan, plan.reader.consistencyMode = .off →
      plan.action = .passthrough ∨ plan.action = .returnError → KeepsTransaction ctx plan := by
    intro plan hmode haction
    refine ⟨fun _ _ _ => ⟨hmode, ?_⟩, fun h => ?_⟩
    · rcases haction with haction | haction <;> rw [haction] <;> exact RouteAction.noConfusion
    · rcases haction with haction | haction <;>
        exact absurd (haction.symm.trans h) RouteAction.noConfusion
  unfold polardbPlan
  split
  · exact hplain _ rfl (Or.inl rfl)
  split
  · exact hplain _ rfl (Or.inl rfl)
  split
  · exact hforced _ _
  split
  · exact hforced _ _
  split
  · exact hforced _ _
  split
  · exact hforced _ _
  split
  · exact hplain _ rfl (Or.inl rfl)
  split
  · unfold planNoReader
    split
    · exact hplain _ rfl (Or.inr rfl)
    · exact hplain _ rfl (Or.inl rfl)
  split
  · unfold planEventual
    split
    · exact hforced _ _
    · rename_i hin
      exact ⟨fun h => absurd h hin, fun h => absurd h RouteAction.noConfusion⟩
  · exact planLsn_keeps

end Plans

/-! ## The start of a request -/

/-- The query of a request that was routed -/
inductive Routed (plan : RoutePlan) (ctx : RouteCtx) (taken : Bool) (q : QueryState) : Prop
  /-- No reader was planned, or it is declined. -/
  | plain (htaken : taken = false) (hplan : q.readerPlan = {}) (hawaits : ¬ Awaits q)
  /-- A reader is looked for. -/
  | reader
      (htaken : taken = false)
      (haction : plan.txnWaitRead = false ∧ plan.action ≠ .replicaTxnSplit)
      (hplan : q.readerPlan = plan.reader)
      (hawaits : Awaits q → plan.action = .replicaWithWait)
  /-- A transaction reader takes the read over. -/
  | txnWait
      (htaken : taken = true)
      (hread : plan.txnWaitRead = true)
      (hin : ctx.inTransaction = true)
      (hplan : q.readerPlan = plan.reader ∨ q.readerPlan = {} ∧ ¬ Awaits q)
  | split
      (htaken : taken = true)
      (hread : plan.txnWaitRead = false)
      (haction : plan.action = .replicaTxnSplit)
      (hplan : q.readerPlan = plan.reader)
      (hawaits : ¬ Awaits q)

theorem not_awaits_of_idle
    {q : QueryState}
    (hwait : q.wait = {})
    (hspec : q.readerWaitSpec = {}) :
    ¬ Awaits q := by
  unfold Awaits
  rw [hwait, hspec]
  rintro (h | h | h)
  · exact WaitStage.noConfusion h
  · exact Bool.false_ne_true h
  · exact Bool.false_ne_true h

theorem prepareTxnWaitRead_query
    {w t : WrapRequest} {plan : RoutePlan} {ctx : RouteCtx} {pkt : List Char} {env : ExecuteEnv}
    (hwait : w.query.wait = {})
    (hspec : w.query.readerWaitSpec = {})
    (hplan : w.query.readerPlan = {})
    (h : w.prepareTxnWaitRead plan ctx pkt env = some t) :
    ctx.inTransaction = true ∧
      (t.query.readerPlan = plan.reader ∨ t.query.readerPlan = {} ∧ ¬ Awaits t.query) := by
  simp only [WrapRequest.prepareTxnWaitRead, Option.ite_none_left_eq_some,
    Option.map_eq_some_iff] at h
  obtain ⟨htxn, -, bypassWait, -, rfl⟩ := h
  refine ⟨by simpa using (not_or.mp htxn).2, ?_⟩
  have hstart : (if plan.waitSpec.hasWait = true ∧ w.query.wait.waitStage ≠ .idle then w.resetWait
      else w) = w := if_neg fun h => h.2 (congrArg WaitState.waitStage hwait)
  rw [hstart]
  dsimp only
  split
  · exact Or.inr ⟨hplan, not_awaits_of_idle rfl hspec⟩
  split
  · exact Or.inl rfl
  · exact Or.inr ⟨hplan, not_awaits_of_idle hwait hspec⟩

theorem polardbExecute_routed
    {w : WrapRequest} {plan : RoutePlan} {ctx : RouteCtx} {pkt : List Char} {env : ExecuteEnv}
    (hnew : w.query = {}) :
    Routed plan ctx (w.polardbExecute plan ctx pkt env).1.packetTaken
      (w.polardbExecute plan ctx pkt env).2.query := by
  have hempty : ∀ q : QueryState, q.readerPlan = {} → q.wait = {} → q.readerWaitSpec = {} →
      Routed plan ctx false q := fun q hplan hwait hspec =>
    .plain rfl hplan (not_awaits_of_idle hwait hspec)
  have hdeclined : ∀ q : QueryState, q.readerPlan = {} → q.wait = {} → q.readerWaitSpec = {} →
      Routed plan ctx (WrapRequest.declinedTransactionReader plan ctx).packetTaken q := by
    intro q hplan hwait hspec
    unfold WrapRequest.declinedTransactionReader
    split <;> exact hempty q hplan hwait hspec
  have hplan : w.query.readerPlan = {} := congrArg QueryState.readerPlan hnew
  unfold WrapRequest.polardbExecute
  split
  · exact hempty _ hplan (congrArg QueryState.wait hnew) (congrArg QueryState.readerWaitSpec hnew)
  dsimp only
  split
  · exact hempty _ hplan rfl rfl
  rename_i herror
  split
  · rename_i hread
    split
    · exact hdeclined _ hplan rfl rfl
    split
    · rename_i t hprepare
      obtain ⟨hin, hplan⟩ := prepareTxnWaitRead_query (by rfl) (by rfl) (by exact hplan) hprepare
      exact .txnWait rfl hread hin hplan
    · exact hdeclined _ hplan rfl rfl
  rename_i hread
  rw [Bool.not_eq_true] at hread
  split
  · rename_i haction
    refine .reader rfl ⟨hread, by rw [haction]; exact RouteAction.noConfusion⟩ rfl fun h => ?_
    exact absurd h (not_awaits_of_idle rfl rfl)
  · exact hempty _ hplan rfl rfl
  · rename_i haction
    split
    · exact hdeclined _ hplan rfl rfl
    split
    · rename_i t hprepare
      obtain ⟨hwait, hplan, -, hspec, -⟩ := WrapRequest.prepareTxnSplitRead_some rfl hprepare
      exact .split rfl hread haction hplan (not_awaits_of_idle hwait hspec)
    · exact hdeclined _ hplan rfl rfl
  · rename_i hpass hforced hsplit
    split
    · exact hempty _ hplan rfl rfl
    split
    · exact hempty _ hplan rfl rfl
    split
    · exact hempty _ hplan rfl rfl
    · refine .reader rfl ⟨hread, hsplit⟩ rfl fun _ => ?_
      cases haction : plan.action with
      | passthrough =>
          exact absurd haction hpass
      | replicaWithWait =>
          rfl
      | forcePrimary =>
          exact absurd haction hforced
      | replicaTxnSplit =>
          exact absurd haction hsplit
      | returnError =>
          exact absurd haction herror

/-- A session between two requests -/
structure FailureSession.Ready (s : FailureSession) (ctx : RouteCtx) : Prop where
  txnReader : s.txnReader.active = false
  primaryBackend : s.txnReader.primaryBackend = none
  inTransaction : ctx.inTransaction = s.inTransaction

section Start

variable {s : FailureSession} {ctx : RouteCtx}

/-- A transaction reader is taken without touching the request. -/
theorem takeTxnReader_course
    (hidle : s.txnReader.active = false)
    (hprimary : s.txnReader.primaryBackend = none)
    (hg : Int) (conn : Connection) :
    (s.takeTxnReader hg conn).course =
      { s.course with txnReader := { s.txnReader with backend := some hg } } := by
  unfold takeTxnReader
  dsimp only
  split
  · rfl
  · have hreleased : (s.releaseTxnReaderBackend true).course =
        s.withoutBuffers.withoutTxnReader.course := by
      rw [← releaseTxnReaderBackend_withoutBuffers true]
      rfl
    change { (s.releaseTxnReaderBackend true).course with
        txnReader := { (s.releaseTxnReaderBackend true).course.txnReader with backend := some hg } } =
      _
    rw [hreleased, withoutTxnReader]
    split
    · rfl
    · rw [if_neg]
      · rfl
      · rintro (hactive | hsome)
        · exact Bool.false_ne_true (hidle.symm.trans hactive)
        · exact Option.isSome_iff_ne_none.mp hsome hprimary

theorem beginTxnWaitRead_course
    (hg : Int) (p : Packet) (scope : WriterScope) :
    (s.beginTxnWaitRead hg p scope).course =
      { s.course with
        txnReader :=
          { s.txnReader with
            backend := some hg
            primaryBackend := some s.mybe
            writerScope := scope
            waitTimeoutError := false
            waitReadActive := true }
        mybe := hg } :=
  course_eq (freeRealQuery_withoutBuffers hg)

/-- A message that arrives has not been sent again. -/
structure Fresh (c : Course) : Prop where
  attempts : c.attempts = 0
  retries : c.retries = []

/-- What holds of the course of a message that has not been sent again. -/
theorem Fresh.tracked
    {c : Course} {planned : ReaderPlan}
    (h : Fresh c)
    (hplan : c.query.readerPlan = planned ∨
      c.query.readerPlan = {} ∧ c.txnReader.splitActive = false ∧ ¬ Awaits c.query)
    (hreader : c.txnReader.active = true →
      c.inTransaction = true ∧ c.txnReader.backend = some c.mybe)
    (houtside : c.txnReader.active = false →
      Awaits c.query ∨ c.query.readerPlan.consistencyMode ≠ .off → c.inTransaction = false)
    (hsplit : c.txnReader.splitActive = true → ¬ Awaits c.query) :
    Tracked planned c where
  plan := hplan
  reader := hreader
  outside := houtside
  split := hsplit
  attempts := by rw [h.attempts, h.retries]; rfl
  once := by rw [h.attempts]; exact Nat.zero_le 1
  settled := fun hmem => absurd hmem (by rw [h.retries]; exact List.not_mem_nil)
  order := by rw [h.retries]; exact List.nil_sublist _

theorem placeRequest_tracked
    {w : FailureSession} {plan : RoutePlan} {env : StartEnv} {p : Packet} {r : ExecuteResult}
    (hready : w.Ready ctx)
    (hkeeps : KeepsTransaction ctx plan)
    (hrouted : Routed plan ctx r.packetTaken w.query)
    (hfresh : Fresh w.course) :
    Tracked plan.reader (w.placeRequest plan ctx env p r).course := by
  have hin := hready.inTransaction
  obtain ⟨hsplit, hread⟩ := Bool.or_eq_false_iff.mp hready.txnReader
  have htaken := takeTxnReader_course hready.txnReader hready.primaryBackend plan.targetHg
    env.reader
  generalize htake : w.takeTxnReader plan.targetHg env.reader = t at htaken
  have hquery : t.query = w.query := congrArg Course.query htaken
  have htxn : t.inTransaction = w.inTransaction := congrArg Course.inTransaction htaken
  have hidle : t.txnReader.splitActive = false :=
    (congrArg (fun c => c.txnReader.splitActive) htaken).trans hsplit
  have hnew : Fresh t.course := by
    rw [htaken]
    exact ⟨hfresh.attempts, hfresh.retries⟩
  unfold placeRequest
  dsimp only
  rw [htake]
  cases hrouted with
  | plain hplain hplan hawaits =>
      rw [if_pos hplain]
      refine Fresh.tracked ⟨hfresh.attempts, hfresh.retries⟩ (Or.inr ⟨hplan, hsplit, hawaits⟩)
        (fun h => absurd (hready.txnReader.symm.trans h) Bool.false_ne_true) ?_ (fun _ => hawaits)
      exact fun _ h => h.elim (fun h => absurd h hawaits)
        fun h => absurd (congrArg ReaderPlan.consistencyMode hplan) h
  | reader hplain haction hplan hawaits =>
      rw [if_pos hplain]
      refine Fresh.tracked ⟨hfresh.attempts, hfresh.retries⟩ (Or.inl hplan)
        (fun h => absurd (hready.txnReader.symm.trans h) Bool.false_ne_true) ?_
        (fun h => absurd (hsplit.symm.trans h) Bool.false_ne_true)
      intro _ hneeds
      change w.inTransaction = false
      by_contra hopen
      have hmode := hkeeps.mode (hin.trans (Bool.not_eq_false _ ▸ hopen)) haction.1 haction.2
      rcases hneeds with hwaits | hmode'
      · exact hmode.2 (hawaits hwaits)
      · exact hmode' ((congrArg ReaderPlan.consistencyMode hplan).trans hmode.1)
  | txnWait htakes hread' hopen hplan =>
      rw [if_neg (by simp [htakes]), if_pos hread', beginTxnWaitRead_course]
      refine Fresh.tracked ⟨hnew.attempts, hnew.retries⟩ ?_
        (fun _ => ⟨htxn.trans (hin.symm.trans hopen), rfl⟩)
        (fun h => absurd h (by simp [TxnReaderState.active]))
        (fun h => absurd (hidle.symm.trans h) Bool.false_ne_true)
      change t.query.readerPlan = _ ∨ t.query.readerPlan = {} ∧
        t.txnReader.splitActive = false ∧ ¬ Awaits t.query
      rw [hquery, hidle]
      exact hplan.imp id fun h => ⟨h.1, rfl, h.2⟩
  | split htakes hread' haction hplan hawaits =>
      rw [if_neg (by simp [htakes]), if_neg (by simp [hread']), beginTxnSplitRead_course]
      exact Fresh.tracked ⟨hnew.attempts, hnew.retries⟩ (Or.inl rfl)
        (fun _ => ⟨htxn.trans (hin.symm.trans (hkeeps.split haction)), rfl⟩)
        (fun h => absurd h (by simp [TxnReaderState.active]))
        (fun _ h => hawaits (hquery ▸ h))

theorem receive_course
    (m : ClientMessage) :
    (s.receive m).2.course =
      { s.course with query := {}, attempts := 0, retries := [] } :=
  rfl

/-- A request starts with what holds of its course. -/
theorem startRequest_tracked
    {t : FailureSession} {m : ClientMessage} {env : StartEnv}
    (hready : s.Ready ctx)
    (hstart : s.startRequest ctx m env = some t) :
    Tracked (polardbPlan env.plan ctx).reader t.course := by
  unfold startRequest at hstart
  dsimp only at hstart
  rw [Option.ite_none_left_eq_some, Option.some.injEq] at hstart
  obtain ⟨-, rfl⟩ := hstart
  exact placeRequest_tracked ⟨hready.txnReader, hready.primaryBackend, hready.inTransaction⟩
    (polardbPlan_keeps env.plan ctx) (polardbExecute_routed rfl) ⟨rfl, rfl⟩

end Start

/-! ## An event -/

section Events

variable {planned : ReaderPlan} {s t : FailureSession}

theorem applyChange_kept
    (c : Change) :
    Kept s.course (s.applyChange c).course :=
  ⟨rfl, id, rfl, rfl, rfl, rfl, rfl, rfl, rfl⟩

/-- The next message of a cycle keeps the route, and may be sent again anew. -/
theorem continueCycle_tracked
    (htracked : Tracked planned s.course)
    (m : ClientMessage) :
    Tracked planned (s.continueCycle m).course := by
  have hcourse : (s.continueCycle m).course =
      { s.course with
        query := s.query.resetBetweenExtendedMessages, attempts := 0, retries := [] } := by
    have h : ({ s with currentQuery := .null }.freeRealQuery s.mybe).course = s.course :=
      course_eq (freeRealQuery_withoutBuffers s.mybe)
    change { (({ s with currentQuery := .null }.freeRealQuery s.mybe).receive m).2.course with
      query := s.query.resetBetweenExtendedMessages } = _
    rw [receive_course, h]
  have hawaits : Awaits s.query.resetBetweenExtendedMessages → Awaits s.query := by
    rintro (h | h | h)
    · exact absurd h WaitStage.noConfusion
    · exact absurd h Bool.false_ne_true
    · exact Or.inr (Or.inr h)
  rw [hcourse]
  exact Fresh.tracked ⟨rfl, rfl⟩
    (htracked.plan.imp id fun h => ⟨h.1, h.2.1, fun hd => h.2.2 (hawaits hd)⟩)
    htracked.reader
    (fun hidle hneeds => htracked.outside hidle (hneeds.imp hawaits id))
    (fun h hd => htracked.split h (hawaits hd))

/-- A query whose wait is set anew from the target that it looked for a reader with -/
theorem kept_of_query
    {c : Course} {q : QueryState}
    (hplan : q.readerPlan = c.query.readerPlan)
    (hawaits : Awaits q → Awaits c.query) :
    Kept c { c with query := q } :=
  ⟨hplan, hawaits, rfl, rfl, rfl, rfl, rfl, rfl, rfl⟩

theorem selectReader_kept
    (conn : Connection) (waitBypassAllowed : Bool) (now : Nat) :
    Kept s.course (s.selectReader conn waitBypassAllowed now).course := by
  unfold selectReader
  dsimp only
  generalize hu : s.setConn s.mybe (some conn) = u
  have hcourse : u.course = s.course := hu ▸ rfl
  obtain ⟨hplan, hspec, hwaits⟩ := Handling.finishReaderWaitSelection_query
    (u.wrapRequest u.mybe) s.query.readerWaitSpec waitBypassAllowed now
    u.query.readerPlan.fallbackWriterHg
  generalize (u.wrapRequest u.mybe).finishReaderWaitSelection s.query.readerWaitSpec
    waitBypassAllowed now u.query.readerPlan.fallbackWriterHg = r at hplan hspec hwaits
  have hquery : u.query = s.query := congrArg Course.query hcourse
  change r.query.readerPlan = u.query.readerPlan at hplan
  change r.query.readerWaitSpec = u.query.readerWaitSpec at hspec
  rw [hquery] at hplan hspec
  have hwaits' : r.query.wait.waitStage = .waiting ∨ r.query.wait.spec.hasWait = true →
      Awaits s.query := fun h => Or.inr (Or.inr (hwaits h))
  split
  · change Kept s.course { u.course with query := { r.query with readerWaitSpec := {} } }
    rw [hcourse]
    refine kept_of_query hplan ?_
    rintro (h | h | h)
    · exact hwaits' (Or.inl h)
    · exact hwaits' (Or.inr h)
    · exact absurd h Bool.false_ne_true
  · change Kept s.course { u.course with query := r.query }
    rw [hcourse]
    refine kept_of_query hplan ?_
    rintro (h | h | h)
    · exact hwaits' (Or.inl h)
    · exact hwaits' (Or.inr h)
    · exact Or.inr (Or.inr (hspec ▸ h))

theorem degradeReader_kept
    (conn : Connection) :
    Kept s.course (s.degradeReader conn).course := by
  refine kept_of_query rfl ?_
  rintro (h | h | h)
  · exact absurd h WaitStage.noConfusion
  · exact absurd h Bool.false_ne_true
  · exact absurd h Bool.false_ne_true

theorem moveRealQuery_course
    (source target : Int) :
    (s.moveRealQuery source target).course = s.course := by
  unfold moveRealQuery
  split
  · exact course_eq (freeRealQuery_withoutBuffers target)
  · rfl

/-- A redirection forgets the reader, and with it the wait. -/
theorem redirectToWriter_course
    {env : FailureEnv} {writerHg : Int}
    (h : s.redirectToWriter env writerHg = some t) :
    t.course =
      { s.course with query := Handling.clearedRoute s.query, mybe := writerHg } := by
  unfold redirectToWriter at h
  dsimp only at h
  rw [Option.ite_none_left_eq_some, Option.some.injEq] at h
  obtain ⟨-, rfl⟩ := h
  rw [moveRealQuery_course, course_eq (prepareRetryBackend_withoutBuffers env _ writerHg)]
  rfl

theorem installWaitWrapper_kept
    (h : s.installWaitWrapper = some t) :
    Kept s.course t.course := by
  unfold installWaitWrapper at h
  dsimp only at h
  split at h
  · exact absurd h (Option.some_ne_none t).symm
  split at h
  · obtain rfl := Option.some.inj h
    exact Kept.refl
  rename_i hcontinue hpending
  obtain rfl := Option.some.inj h
  rw [not_or, not_not] at hpending
  have hactive : (s.wrapRequest s.mybe).waitActive = true := by
    rw [WrapRequest.waitActive, beq_iff_eq]
    exact hpending.1
  rcases @WrapRequest.installWaitWrapper_pending _ (s.streams s.mybe).conn.isSome hactive (Bool.not_eq_true _ ▸ hpending.2) with ⟨-, hwrapped⟩ | ⟨hfailed, -⟩
  · rw [hwrapped]
    have hfreed : (s.freeRealQuery s.mybe).course = s.course :=
      course_eq (freeRealQuery_withoutBuffers s.mybe)
    change Kept s.course { (s.freeRealQuery s.mybe).course with
      query := (s.wrapRequest s.mybe).wrapped.query }
    rw [hfreed, WrapRequest.wrapped, WrapRequest.snapshotOriginalQuery_query]
    exact kept_of_query rfl id
  · exact absurd (hcontinue.symm.trans hfailed) (by simp)

theorem redirectToWriter_tracked
    {env : FailureEnv} {writerHg : Int}
    (htracked : Tracked planned s.course)
    (hidle : s.txnReader.active = false)
    (h : s.redirectToWriter env writerHg = some t) :
    Tracked planned t.course ∧ t.txnReader.active = false := by
  have hcourse := redirectToWriter_course h
  have hidle' : t.course.txnReader.active = false := by
    rw [hcourse]
    exact hidle
  refine ⟨htracked.cleared ?_ ?_ hidle' ?_ ?_ ?_, hidle'⟩
  · rw [hcourse]
    rfl
  · rw [hcourse]
    exact clearedRoute_awaits s.query
  · rw [hcourse]
  · rw [hcourse]
  · rw [hcourse]
    exact htracked.order

theorem redirectWaitRetryToWriter_tracked
    {env : FailureEnv}
    (htracked : Tracked planned s.course)
    (hidle : s.txnReader.active = false)
    (h : s.redirectWaitRetryToWriter env = some t) :
    Tracked planned t.course ∧ t.txnReader.active = false := by
  unfold redirectWaitRetryToWriter at h
  split at h
  · obtain rfl := Option.some.inj h
    exact ⟨htracked, hidle⟩
  split at h
  · exact redirectToWriter_tracked htracked hidle h
  · exact redirectToWriter_tracked htracked hidle h
  · exact absurd h (Option.some_ne_none t).symm

/-- Another connection is tried for the same plan, or for the writer. -/
theorem reconnect_tracked
    {env : FailureEnv} {serverError : Bool}
    (htracked : Tracked planned s.course)
    (hidle : s.txnReader.active = false)
    (h : s.reconnect env serverError = some t) :
    Tracked planned t.course := by
  unfold reconnect at h
  split at h
  · exact absurd h (Option.some_ne_none t).symm
  dsimp only at h
  rw [Option.map_eq_some_iff] at h
  obtain ⟨u, hredirect, rfl⟩ := h
  obtain ⟨htracked, hidle⟩ : Tracked planned u.course ∧ u.txnReader.active = false :=
    redirectWaitRetryToWriter_tracked (by exact htracked) (by exact hidle) hredirect
  have hreturned : (u.returnOrDestroyBackendStream s.mybe false).course = u.course :=
    course_eq (returnOrDestroyBackendStream_withoutBuffers s.mybe false)
  change Tracked planned { (u.returnOrDestroyBackendStream s.mybe false).course with
    inTransaction := false }
  rw [hreturned]
  exact
    { plan := htracked.plan
      reader := fun h => absurd (hidle.symm.trans h) Bool.false_ne_true
      outside := fun _ _ => rfl
      split := htracked.split
      attempts := htracked.attempts
      once := htracked.once
      settled := htracked.settled
      order := htracked.order }

/-- Every event keeps what holds of the course. -/
theorem next_tracked
    {e : Event}
    (htracked : Tracked planned s.course)
    (hnext : s.next e = some t) :
    Tracked planned t.course := by
  unfold next at hnext
  cases e with
  | prepare status =>
      simp only [Option.ite_none_left_eq_some, Option.some.injEq] at hnext
      obtain ⟨-, rfl⟩ := hnext
      exact htracked
  | message m =>
      simp only [Option.ite_none_left_eq_some, Option.some.injEq] at hnext
      obtain ⟨-, rfl⟩ := hnext
      exact continueCycle_tracked htracked m
  | change c =>
      obtain rfl := Option.some.inj hnext
      exact htracked.kept (applyChange_kept c)
  | select conn waitBypassAllowed now =>
      simp only [Option.ite_none_right_eq_some, Option.some.injEq] at hnext
      obtain ⟨-, rfl⟩ := hnext
      exact htracked.kept (selectReader_kept conn waitBypassAllowed now)
  | degrade conn =>
      simp only [Option.ite_none_right_eq_some, Option.some.injEq] at hnext
      obtain ⟨-, rfl⟩ := hnext
      exact htracked.kept (degradeReader_kept conn)
  | redirect env =>
      simp only [Option.ite_none_right_eq_some] at hnext
      obtain ⟨hselectable, hnext⟩ := hnext
      simp only [selectable, Bool.and_eq_true, Bool.not_eq_true'] at hselectable
      exact (redirectToWriter_tracked htracked hselectable.1.1 hnext).1
  | install =>
      simp only [Option.ite_none_right_eq_some] at hnext
      exact htracked.kept (installWaitWrapper_kept hnext.2)
  | dispatch =>
      obtain rfl := Option.some.inj hnext
      exact htracked
  | fail env =>
      simp only [Option.ite_none_right_eq_some, Option.some.injEq] at hnext
      obtain ⟨hretry, rfl⟩ := hnext
      exact (handleFailure_safe htracked env).tracked hretry
  | reconnect env serverError =>
      simp only [Option.ite_none_right_eq_some] at hnext
      obtain ⟨hpassed, hnext⟩ := hnext
      obtain ⟨hpassed, hidle⟩ := (handleFailure_safe htracked env).passed hpassed
      exact reconnect_tracked hpassed hidle hnext

end Events

/-! ## Runs -/

/-- The session is reached by a request: it is started, and then any events occur. -/
def Reachable (ctx : RouteCtx) (env : StartEnv) (s : FailureSession) : Prop :=
  ∃ (before started : FailureSession) (m : ClientMessage) (events : List Event),
    before.Ready ctx ∧ before.startRequest ctx m env = some started ∧
      Run (fun s e t => s.next e = some t) started events s

section Runs

variable {ctx : RouteCtx} {start : StartEnv} {s t : FailureSession}

theorem reachable_tracked
    (hreached : Reachable ctx start s) :
    Tracked (polardbPlan start.plan ctx).reader s.course := by
  obtain ⟨before, started, m, events, hready, hstart, hrun⟩ := hreached
  exact hrun.invariant (startRequest_tracked hready hstart) next_tracked

theorem Reachable.next
    {e : Event}
    (hreached : Reachable ctx start s)
    (hnext : s.next e = some t) :
    Reachable ctx start t := by
  obtain ⟨before, started, m, events, hready, hstart, hrun⟩ := hreached
  exact ⟨before, started, m, events ++ [e], hready, hstart, hrun.snoc hnext⟩

theorem Reachable.foldlM
    {es : List Event}
    (hreached : Reachable ctx start s)
    (hnext : es.foldlM FailureSession.next s = some t) :
    Reachable ctx start t := by
  obtain ⟨before, started, m, events, hready, hstart, hrun⟩ := hreached
  exact ⟨before, started, m, _, hready, hstart, hrun.append (Run.of_foldlM _ hnext)⟩

/-! ### Reads that lose their readers -/

def firstReader : Connection :=
  { parent := some { hid := some 1, address := some "reader-1", port := 5432 } }

/-- A hostgroup pair in its first epoch, and another reader -/
def pairEnv : FailureEnv :=
  { hgConfig := fun _ =>
      { isPolardbHostgroup := true, writerHostgroup := 0, readerHostgroup := 1, writerEpoch := 1 }
    hgConfigAtRetry := fun _ =>
      { isPolardbHostgroup := true, writerHostgroup := 0, readerHostgroup := 1, writerEpoch := 1 }
    acquired := some
      ({ parent := some { hid := some 1, address := some "reader-2", port := 5432 } }, false) }

def losesReaders : Event :=
  .change
    { conn := fun hg c => if hg = 1 then { c with connected := false, asyncState := .busy } else c }

def selectOne : ClientMessage :=
  { bytes := simpleQueryPacket "SELECT 1".toList }

/-- A read behind a wait, whose reader is lost -/
def lostRead? (ctx : RouteCtx) : Option FailureSession :=
  (({} : FailureSession).startRequest ctx selectOne {}).bind fun s =>
    [.select firstReader false 1, .install, .dispatch, losesReaders].foldlM next s

def lostRead : FailureSession :=
  (lostRead? sessionReadCtx).get (by decide)

theorem lostRead?_reachable
    {ctx : RouteCtx}
    (hin : ctx.inTransaction = false)
    (h : lostRead? ctx = some s) :
    Reachable ctx {} s := by
  obtain ⟨t, hstart, hrun⟩ := Option.bind_eq_some_iff.mp h
  exact ⟨_, t, _, _, ⟨rfl, rfl, hin⟩, hstart, Run.of_foldlM _ hrun⟩

theorem lostRead_reachable :
    Reachable sessionReadCtx {} lostRead :=
  lostRead?_reachable rfl (Option.some_get _).symm

/-- The read after another reader was lost as well -/
def retriedTwice? : Option FailureSession :=
  [.fail pairEnv, .install, .dispatch, losesReaders, .fail pairEnv].foldlM next lostRead

def retriedTwice : FailureSession :=
  retriedTwice?.get (by decide)

theorem retriedTwice_reachable :
    Reachable sessionReadCtx {} retriedTwice :=
  lostRead_reachable.foldlM (Option.some_get (show retriedTwice?.isSome = true by decide)).symm

def openSession : FailureSession :=
  { streams := fun hg =>
      if hg = 0 then { conn := some { transactionStatus := .inTrans } } else {}
    mybe := 0
    currentHostgroup := 0
    inTransaction := true }

def lostSplitRead? : Option FailureSession :=
  (openSession.startRequest splitReadCtx selectOne
    { execute := { txnReader := some false }, reader := firstReader }).bind fun s =>
      [.dispatch, losesReaders].foldlM next s

def lostSplitRead : FailureSession :=
  lostSplitRead?.get (by decide)

theorem lostSplitRead_reachable :
    Reachable splitReadCtx { execute := { txnReader := some false }, reader := firstReader }
      lostSplitRead := by
  obtain ⟨t, hstart, hrun⟩ := Option.bind_eq_some_iff.mp
    (Option.some_get (show lostSplitRead?.isSome = true by decide)).symm
  exact ⟨_, t, _, _, ⟨rfl, rfl, rfl⟩, hstart, Run.of_foldlM _ hrun⟩

/-! ### Retries -/

/-- Nothing that was answered in part or cancelled is sent again, and a retry goes where the
policy that is kept with the query lets a failure of that kind go.  That policy is the planned
one, except that a read of a transaction reader has none when its reader was taken without a
wait. -/
theorem reachable_retry_permitted
    (hreached : Reachable ctx start s)
    (env : FailureEnv)
    (hretry : (s.handleFailure env).action = .retry) :
    ∃ target, (s.handleFailure env).left.session.retries = target :: s.retries ∧
      s.outcome.resultStarted = false ∧ s.failureKind ≠ .queryCanceled ∧
      Permits s.query.readerPlan s.failureKind target ∧
      (s.query.readerPlan = (polardbPlan start.plan ctx).reader ∨
        s.query.readerPlan = {} ∧ s.txnReader.waitReadActive = true) := by
  have hsafe := handleFailure_safe (reachable_tracked hreached) env
  obtain ⟨target, hretried⟩ := hsafe.retried hretry
  exact ⟨target, hretried.retries, hretried.notStarted, hretried.permits.not_canceled,
    hretried.permits, hsafe.plan hretry⟩

/-- A session read that loses its reader goes to another one. -/
theorem reachable_retry_permitted_lostRead :
    ∃ target, (lostRead.handleFailure pairEnv).left.session.retries = target :: lostRead.retries ∧
      lostRead.outcome.resultStarted = false ∧ lostRead.failureKind ≠ .queryCanceled ∧
      Permits lostRead.query.readerPlan lostRead.failureKind target ∧
      (lostRead.query.readerPlan = (polardbPlan {} sessionReadCtx).reader ∨
        lostRead.query.readerPlan = {} ∧ lostRead.txnReader.waitReadActive = true) :=
  reachable_retry_permitted lostRead_reachable pairEnv (by decide)

/-- The failures of a message are answered by a retry at most twice: on another reader, then on
the writer, and after the writer no more.  The count of attempts is the number of other
readers. -/
theorem reachable_retries_ordered
    (hreached : Reachable ctx start s) :
    s.retries.Sublist [.writer, .otherReader] ∧
      s.readerRetryAttempts = s.retries.count .otherReader ∧
      (.writer ∈ s.retries → ∀ env, (s.handleFailure env).action ≠ .retry) := by
  have htracked := reachable_tracked hreached
  refine ⟨htracked.order, htracked.attempts, fun hwriter env hretry => ?_⟩
  have hnext : s.next (.fail env) = some (s.handleFailure env).left.session := if_pos hretry
  have horder := (reachable_tracked (hreached.next hnext)).order
  obtain ⟨target, hretried⟩ := (handleFailure_safe htracked env).retried hretry
  change (s.handleFailure env).left.session.retries.Sublist retryOrder at horder
  rw [hretried.retries] at horder
  -- The writer is the last target, so that nothing can be before it.
  have hlater : s.retries.Sublist [RetryTarget.otherReader] := horder.tail
  exact absurd (hlater.subset hwriter) (by simp)

/-- A session read that loses two readers in a row -/
theorem reachable_retries_ordered_retriedTwice :
    retriedTwice.retries = [.writer, .otherReader] ∧
      retriedTwice.retries.Sublist [.writer, .otherReader] ∧
      retriedTwice.readerRetryAttempts = retriedTwice.retries.count .otherReader ∧
      (.writer ∈ retriedTwice.retries →
        ∀ env, (retriedTwice.handleFailure env).action ≠ .retry) :=
  ⟨by decide, reachable_retries_ordered retriedTwice_reachable⟩

/-- A read of a transaction split is sent to the writer only while that holds the transaction
in the scope that was captured with the read, and a lost writer ends the session. -/
theorem reachable_split_writer
    (hreached : Reachable ctx start s)
    (env : FailureEnv)
    (hsplit : s.txnReader.splitActive = true) :
    (WriterLost s env s.txnReader.writerScope → (s.handleFailure env).action = .terminate) ∧
      ((s.handleFailure env).action = .retry →
        (s.handleFailure env).left.session.retries = .writer :: s.retries →
          Handling.HoldsTransaction env s.txnReader.writerScope
            (s.handleFailure env).left.session) := by
  have hsafe := handleFailure_safe (reachable_tracked hreached) env
  exact ⟨hsafe.lost hsplit, fun hretry => hsafe.holds hretry hsplit⟩

/-- The split read of a session whose writer is still there -/
theorem reachable_split_writer_lostSplitRead :
    (lostSplitRead.handleFailure { pairEnv with acquired := none }).action = .retry ∧
      Handling.HoldsTransaction { pairEnv with acquired := none } lostSplitRead.txnReader.writerScope
        (lostSplitRead.handleFailure { pairEnv with acquired := none }).left.session :=
  ⟨by decide, (reachable_split_writer lostSplitRead_reachable { pairEnv with acquired := none }
    (by decide)).2 (by decide) (by decide)⟩

/-- An error that is forwarded is followed by the state of the transaction that the session is
in, unless the end of the extended cycle is still to come. -/
theorem reachable_forward_answered
    (hreached : Reachable ctx start s)
    (env : FailureEnv)
    (hforward : (s.handleFailure env).action = .forward) :
    Answered s (s.handleFailure env).left.session (if s.inTransaction then 'T' else 'I') :=
  (handleFailure_safe (reachable_tracked hreached) env).answered hforward

/-- A policy that forwards the loss of a reader -/
def forwardedRead : FailureSession :=
  (lostRead? { sessionReadCtx with replicaLossAction := 3 }).get (by decide)

theorem reachable_forward_answered_forwardedRead :
    Answered forwardedRead (forwardedRead.handleFailure pairEnv).left.session 'I' :=
  reachable_forward_answered (lostRead?_reachable rfl (Option.some_get _).symm) pairEnv (by decide)

end Runs

end Failures

end PolarProxy
