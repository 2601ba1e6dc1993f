import PolarProxy.Shapes

/-!
# The query cache gate

The cache is asked before a query is observed, collected and planned.  The gate
decides from the raw session state whether the planner could still place the
read on the primary or make it wait; a cached result must not stand in for such a
read.

**Operations.**  `queryCacheIsDisabled` is the gate; `RoutePlan.Obligated` says
that a plan carries a consistency obligation.

**Results.** `polardbPlan_obligated_iff`, `query_cache_agrees_iff`.
-/

namespace PolarProxy

/-- What the gate reads about the current rule and the worker.  A rule may name
a destination; a sticky transaction keeps the current hostgroup. -/
structure CacheQuery where
  hasRule : Bool := true
  polardbActive : Bool := true
  currentHg : Int := -1
  destinationHg : Int := -1
  transactionPersistentHg : Int := -1
  hgConfig : Int → Option HgConfigSnapshot := fun _ => none

def CacheQuery.routeHg (q : CacheQuery) : Int :=
  if 0 ≤ q.destinationHg ∧ q.transactionPersistentHg = -1 then q.destinationHg else q.currentHg

def sessionMode (s : Session) (vars : ThreadVars) (hgConfig : HgConfigSnapshot) :
    ConsistencyMode :=
  consistencyFromInt
    (resolveConsistencyMode s.config.sessionConsistencyMode hgConfig.policy.consistencyMode
      vars.consistencyMode)

/-- Whether an automatic read of this session may still need the planner. -/
def mayNeedPlanner (s : Session) (vars : ThreadVars) (hgConfig : HgConfigSnapshot) : Bool :=
  if readTargetFromInt vars.readTarget = .primary ∨ sessionMode s vars hgConfig = .primaryOnly then
    true
  else
    match sessionMode s vars hgConfig with
    | .off => false
    | .eventual => false
    | .globalLsn => true
    | .primaryOnly => true
    | .sessionLsn =>
        decide (0 < s.consistency.target) || s.consistency.writeUnknown ||
          s.consistency.observedUnknown

/-- Whether the query cache must be bypassed for the current rule. -/
def queryCacheIsDisabled (s : Session) (vars : ThreadVars) (q : CacheQuery) (req : Request) :
    Bool :=
  if vars.profileOff then false
  else if s.routeState.clientRfqLsnRequested then true
  else if !q.hasRule || decide (req.replicaEligible ≠ 1) || !q.polardbActive then false
  else if q.routeHg < 0 then false
  else
    match q.hgConfig q.routeHg with
    | none => false
    | some hgConfig => mayNeedPlanner s vars hgConfig

def missingLsnReasons : List RouteActionReason :=
  [.writeLsnUnknown, .observedLsnUnknown, .groupLsnUnknown]

/-- The plan waits, splits a transaction, decides a missing position or forces
the primary. -/
def RoutePlan.Obligated (plan : RoutePlan) : Prop :=
  plan.action = .replicaWithWait ∨ plan.action = .replicaTxnSplit ∨
    plan.action = .forcePrimary ∨ plan.actionReason ∈ missingLsnReasons

instance (plan : RoutePlan) : Decidable plan.Obligated :=
  inferInstanceAs (Decidable (_ ∨ _))

/-! ## Obligations of the planner -/

section Planner

variable {env : PlanEnv} {ctx : RouteCtx}

theorem forcePrimary_obligated (hg : Int) (reason : RouteActionReason) :
    (forcePrimary hg reason).Obligated :=
  Or.inr (Or.inr (Or.inl rfl))

theorem planMissingLsn_obligated
    {reason : RouteActionReason}
    (h : reason ∈ missingLsnReasons)
    (allow checked : Bool) :
    (planMissingLsn ctx reason allow checked).Obligated := by
  refine Or.inr (Or.inr (Or.inr ?_))
  have hreason : (planMissingLsn ctx reason allow checked).actionReason = reason := by
    unfold planMissingLsn snapshotReaderPolicy missingLsn
    simp only
    split_ifs <;> rfl
  rw [hreason]
  exact h

theorem planSplitRead_obligated (mode : ConsistencyMode) :
    (planSplitRead env ctx mode).Obligated := by
  unfold planSplitRead
  simp only
  split
  · exact planMissingLsn_obligated (by decide) _ _
  · refine Or.inr (Or.inl ?_)
    unfold attachReaderLagCap
    split <;> rfl

/-- A session read without a target and without an observed gap is obliged by
its shape or by an unknown write position only. -/
theorem planConsistencyRead_obligated_iff
    {plan : RoutePlan} {txnWaitRead : Bool}
    (htarget : ctx.session.target = 0)
    (hobserved : ctx.session.observedUnknown = false)
    (hplan : plan.actionReason = .none) :
    ¬ (planConsistencyRead env ctx .sessionLsn plan txnWaitRead).Obligated ↔
      (ctx.inTransaction && !txnWaitRead) = false ∧ ctx.isMultiStatement = false ∧
        ctx.isTxnSplitLockingRead = false ∧ ctx.session.writeUnknown = false := by
  have hshape := writerRequiredReason_eq_none_iff (ctx.inTransaction && !txnWaitRead)
    ctx.isMultiStatement ctx.isTxnSplitLockingRead
  unfold planConsistencyRead
  simp only
  by_cases hrequired : writerRequiredReason (ctx.inTransaction && !txnWaitRead)
      ctx.isMultiStatement ctx.isTxnSplitLockingRead = .none
  · obtain ⟨htxn, hmulti, hlocking⟩ := hshape.mp hrequired
    rw [if_neg (not_not.mpr hrequired)]
    cases hunknown : ctx.session.writeUnknown with
    | true =>
        rw [if_pos rfl]
        exact iff_of_false (not_not.mpr (planMissingLsn_obligated (by decide) _ _)) (by simp)
    | false =>
        have hwait : (buildConsistency .sessionLsn ctx.session.target ctx.waitTimeoutMs
            ctx.waitMode).hasWait = false := by
          rw [htarget]
          rfl
        simp only [hobserved, Bool.false_eq_true, if_false, RouteCtx.consistencyTarget, hwait,
          Bool.not_false, if_true, reduceCtorEq]
        simp [RoutePlan.Obligated, missingLsnReasons, hplan, htxn, hmulti, hlocking]
  · rw [if_pos hrequired]
    refine iff_of_false (not_not.mpr (forcePrimary_obligated _ _)) ?_
    rintro ⟨htxn, hmulti, hlocking, -⟩
    exact hrequired (hshape.mpr ⟨htxn, hmulti, hlocking⟩)

theorem planTransaction_obligated_iff
    (htarget : ctx.session.target = 0)
    (hobserved : ctx.session.observedUnknown = false) :
    ¬ (planTransaction env ctx .sessionLsn).Obligated ↔
      (ctx.isPrewriteRead env = true ∧ ctx.prewriteReadAllowed = true) ∧
        ctx.isMultiStatement = false ∧ ctx.isTxnSplitLockingRead = false ∧
          ctx.session.writeUnknown = false := by
  unfold planTransaction
  by_cases hprewrite : ctx.isPrewriteRead env = true
  · rw [if_pos hprewrite]
    by_cases hallowed : ctx.prewriteReadAllowed = true
    · rw [if_pos hallowed, planConsistencyRead_obligated_iff htarget hobserved rfl]
      simp [hprewrite, hallowed]
    · rw [if_neg hallowed]
      refine iff_of_false (not_not.mpr (Or.inr (Or.inr (Or.inl rfl)))) ?_
      rintro ⟨⟨-, h⟩, -⟩
      exact hallowed h
  · rw [if_neg hprewrite]
    refine iff_of_false (not_not.mpr ?_) (fun h => hprewrite h.1.1)
    split
    · exact Or.inr (Or.inr (Or.inl rfl))
    · exact planSplitRead_obligated _

/-- Routing inputs that lead to no obligation, for a session without a target:
no reader failure and no hint, and a mode and shape that need no planner. -/
structure RouteCtx.Quiet (ctx : RouteCtx) (env : PlanEnv) : Prop where
  noFailure : ¬ (ctx.txnForceWriterAfterReaderFailure = true ∧ 0 ≤ ctx.txnWriterHg)
  noHint : ctx.forcePrimaryHint = false
  placement :
    ctx.mode = .off ∨ ctx.readerHg < 0 ∨ (ctx.mode = .eventual ∧ ctx.inTransaction = false) ∨
      (ctx.mode = .sessionLsn ∧ ctx.session.writeUnknown = false ∧
        ctx.isMultiStatement = false ∧ ctx.isTxnSplitLockingRead = false ∧
          (ctx.inTransaction = true →
            ctx.isPrewriteRead env = true ∧ ctx.prewriteReadAllowed = true))

theorem planLsn_obligated_iff
    (htarget : ctx.session.target = 0)
    (hobserved : ctx.session.observedUnknown = false) :
    ¬ (planLsn env ctx .sessionLsn).Obligated ↔
      ctx.session.writeUnknown = false ∧ ctx.isMultiStatement = false ∧
        ctx.isTxnSplitLockingRead = false ∧
          (ctx.inTransaction = true →
            ctx.isPrewriteRead env = true ∧ ctx.prewriteReadAllowed = true) := by
  unfold planLsn
  rw [policyError_eq_none (by decide), if_neg (by simp)]
  cases htxn : ctx.inTransaction with
  | true =>
      rw [if_pos rfl, planTransaction_obligated_iff htarget hobserved]
      tauto
  | false =>
      rw [if_neg (by simp), planConsistencyRead_obligated_iff htarget hobserved rfl]
      simp only [htxn, Bool.false_and]
      tauto

theorem planEventual_obligated_iff :
    ¬ (planEventual ctx).Obligated ↔ ctx.inTransaction = false := by
  unfold planEventual
  cases htxn : ctx.inTransaction with
  | true =>
      rw [if_pos rfl]
      exact iff_of_false (not_not.mpr (forcePrimary_obligated _ _)) (by simp)
  | false =>
      rw [if_neg (by simp)]
      exact iff_of_true (by simp [RoutePlan.Obligated, missingLsnReasons, snapshotReaderPolicy]) rfl

/-- Which routing inputs lead to an obligation when a reader is the target, the
mode is no placement on the primary and the session has nothing to wait for. -/
theorem polardbPlan_obligated_iff
    (hpolar : ctx.isPolarHg = true)
    (heligible : ctx.replicaEligible = true)
    (hreplica : readTargetFromInt ctx.readTarget = .replica)
    (hmode : ctx.mode = .off ∨ ctx.mode = .eventual ∨
      (ctx.mode = .sessionLsn ∧ ctx.session.target = 0 ∧ ctx.session.observedUnknown = false)) :
    ¬ (polardbPlan env ctx).Obligated ↔ ctx.Quiet env := by
  have hprimary : readTargetFromInt ctx.readTarget ≠ .primary := by
    rw [hreplica]
    decide
  have hplaced : ctx.mode ≠ .primaryOnly := by
    rcases hmode with h | h | ⟨h, -⟩ <;> rw [h] <;> decide
  unfold polardbPlan
  rw [hpolar, heligible, if_neg (by decide), if_neg (by decide)]
  by_cases hfailure : ctx.txnForceWriterAfterReaderFailure = true ∧ 0 ≤ ctx.txnWriterHg
  · rw [if_pos hfailure]
    exact iff_of_false (not_not.mpr (forcePrimary_obligated _ _)) (fun h => h.noFailure hfailure)
  rw [if_neg hfailure]
  by_cases hhint : ctx.forcePrimaryHint = true
  · rw [if_pos hhint]
    refine iff_of_false (not_not.mpr (forcePrimary_obligated _ _)) (fun h => ?_)
    rw [h.noHint] at hhint
    cases hhint
  rw [if_neg hhint, if_neg hprimary, if_neg hplaced]
  have hhint' := eq_false_of_ne_true hhint
  by_cases hoff : ctx.mode = .off
  · rw [if_pos hoff]
    exact iff_of_true (by simp [RoutePlan.Obligated, missingLsnReasons])
      ⟨hfailure, hhint', Or.inl hoff⟩
  rw [if_neg hoff]
  by_cases hreader : ctx.readerHg < 0
  · rw [if_pos hreader]
    refine iff_of_true ?_ ⟨hfailure, hhint', Or.inr (Or.inl hreader)⟩
    unfold planNoReader
    split <;> simp [RoutePlan.Obligated, missingLsnReasons]
  rw [if_neg hreader]
  rcases hmode with h | heventual | ⟨hsession, htarget, hobserved⟩
  · exact absurd h hoff
  · rw [if_pos heventual, planEventual_obligated_iff]
    constructor
    · intro htxn
      exact ⟨hfailure, hhint', Or.inr (Or.inr (Or.inl ⟨heventual, htxn⟩))⟩
    · rintro ⟨-, -, h | h | ⟨-, htxn⟩ | ⟨h, -⟩⟩
      · exact absurd h hoff
      · exact absurd h hreader
      · exact htxn
      · rw [heventual] at h
        cases h
  · rw [hsession, if_neg (by decide), planLsn_obligated_iff htarget hobserved]
    constructor
    · intro hquiet
      exact ⟨hfailure, hhint', Or.inr (Or.inr (Or.inr ⟨hsession, hquiet⟩))⟩
    · rintro ⟨-, -, h | h | ⟨h, -⟩ | ⟨-, hquiet⟩⟩
      · exact absurd h hoff
      · exact absurd h hreader
      · rw [hsession] at h
        cases h
      · exact hquiet

end Planner

/-! ## What a rebind leaves of a transaction -/

/-- Binding the session to a scope drops what it has: the scope is another one, or there are
positions without a scope. -/
def SessionConsistency.LeftBy (c : SessionConsistency) (scope : WriterScope) : Prop :=
  scope.Valid ∧
    if c.writerScope.Valid then ¬ c.writerScope.Matches scope else c.hasLsnState = true

namespace Session

variable {s : Session} {vars : ThreadVars} {workerGeneration : Option Nat} {scope : WriterScope}
variable {currentHg : Int} {hgConfig : HgConfigSnapshot} {req : Request}

/-- What the session knows of its transaction -/
def txnView (s : Session) :
    TransactionSplitState × TxnReaderFailureState × TxnReaderWaitSafetyState × Bool :=
  (s.transactionSplit, s.txnReaderFailure, s.txnWaitSafety,
    s.config.txnReaderWaitDefaultReadCommitted)

/-- Nothing is known of a transaction. -/
def TxnForgotten (s : Session) : Prop :=
  s.transactionSplit.stage = .none ∧ s.txnReaderFailure.route = .none

theorem rebind_txnView
    (h : ¬ s.consistency.LeftBy scope) :
    (s.rebindSessionLsnScope scope).txnView = s.txnView := by
  unfold rebindSessionLsnScope
  by_cases hvalid : scope.Valid
  · have hkept : ¬ if s.consistency.writerScope.Valid then ¬ s.consistency.writerScope.Matches scope
        else s.consistency.hasLsnState = true := fun hleft => h ⟨hvalid, hleft⟩
    rw [if_neg (not_not.mpr hvalid)]
    by_cases hattached : s.consistency.writerScope.Valid
    · rw [if_pos hattached, not_not] at hkept
      simp [hattached, hkept, txnView]
    · rw [if_neg hattached, Bool.not_eq_true] at hkept
      simp [hattached, hkept, txnView]
  · rw [if_pos hvalid]

theorem rebind_txnForgotten
    (h : s.consistency.LeftBy scope) :
    (s.rebindSessionLsnScope scope).TxnForgotten := by
  obtain ⟨hvalid, hleft⟩ := h
  have hdropped : ((decide s.consistency.writerScope.Valid &&
        !decide (s.consistency.writerScope.Matches scope)) ||
      (!decide s.consistency.writerScope.Valid && s.consistency.hasLsnState)) = true := by
    by_cases hattached : s.consistency.writerScope.Valid
    · rw [if_pos hattached] at hleft
      simp [hattached, hleft]
    · rw [if_neg hattached] at hleft
      simp [hattached, hleft]
  unfold rebindSessionLsnScope
  simp only [hvalid, not_true_eq_false, if_false, hdropped, if_true]
  split
  · exact ⟨rfl, rfl⟩
  · rename_i hkept
    simp only [Bool.or_eq_true, not_or, TransactionSplitState.active, bne_iff_ne, ne_eq,
      not_not] at hkept
    exact ⟨hkept.1.1, hkept.2⟩

theorem snapshotRequestPolicy_query_only
    (hprofile : vars.profileOff = false) :
    ∃ q, s.snapshotRequestPolicy vars hgConfig = { s with query := q } := by
  unfold snapshotRequestPolicy
  simp only [hprofile, Bool.false_and, Bool.false_eq_true, if_false]
  split
  · exact ⟨s.query, rfl⟩
  · exact ⟨_, rfl⟩

theorem activate_txnView (s : Session) (workerGeneration : Option Nat) :
    (s.activateSessionForRequest workerGeneration).txnView = s.txnView := by
  unfold activateSessionForRequest
  split <;> rfl

/-- Binding a request leaves what is known of the transaction, or forgets it with the scope. -/
theorem bindRequest_txnView
    (hprofile : vars.profileOff = false) :
    (¬ s.consistency.LeftBy scope →
      (s.bindRequest vars workerGeneration scope hgConfig).txnView = s.txnView) ∧
    (s.consistency.LeftBy scope →
      (s.bindRequest vars workerGeneration scope hgConfig).TxnForgotten) := by
  obtain ⟨q, hq⟩ : ∃ q, s.snapshotRequestPolicy vars hgConfig = { s with query := q } :=
    snapshotRequestPolicy_query_only hprofile
  have hforgotten : ∀ t : Session, t.TxnForgotten →
      (t.activateSessionForRequest workerGeneration).TxnForgotten := by
    intro t ht
    have hview := t.activate_txnView workerGeneration
    simp only [txnView, Prod.mk.injEq] at hview
    rw [TxnForgotten, hview.1, hview.2.1]
    exact ht
  unfold bindRequest
  simp only [hq]
  by_cases hvalid : scope.Valid
  · simp only [hvalid, if_true]
    constructor
    · intro hstays
      rw [activate_txnView]
      exact rebind_txnView hstays
    · intro hleft
      exact hforgotten _ (rebind_txnForgotten hleft)
  · simp only [hvalid, if_false]
    refine ⟨fun hstays => ?_, fun hleft => absurd hleft.1 hvalid⟩
    rw [activate_txnView]
    split
    · exact rebind_txnView hstays
    · rfl

theorem txnWaitSafe_congr
    {t : Session}
    (h : t.txnView = s.txnView) :
    t.TxnWaitSafe ↔ s.TxnWaitSafe := by
  simp only [txnView, Prod.mk.injEq] at h
  obtain ⟨-, -, hsafety, hdefault⟩ := h
  constructor
  · rintro ⟨hread, hcommitted, hclean⟩
    exact ⟨hsafety ▸ hread, hdefault ▸ hcommitted, hsafety ▸ hclean⟩
  · rintro ⟨hread, hcommitted, hclean⟩
    exact ⟨hsafety ▸ hread, hdefault ▸ hcommitted, hsafety ▸ hclean⟩

/-- A `SELECT` shows nothing that makes a wait unsafe. -/
theorem observeTxnWaitSafety_select
    (hselect : req.command = .select) (s : Session) (text : List Char) :
    s.observeTxnWaitSafety req text = s := by
  simp [observeTxnWaitSafety, hselect]

theorem observeRouteInputs_txnView
    (hpolar : hgConfig.isPolardbHostgroup = true)
    (hprofile : vars.profileOff = false) :
    let t := s.observeRouteInputs vars workerGeneration currentHg hgConfig req
    (¬ s.consistency.LeftBy (hgConfig.routeScope currentHg) →
      t.transactionSplit = s.transactionSplit ∧ t.txnReaderFailure = s.txnReaderFailure ∧
        (req.command = .select → t.txnView = s.txnView)) ∧
    (s.consistency.LeftBy (hgConfig.routeScope currentHg) → t.TxnForgotten) := by
  obtain ⟨hstays, hleft⟩ := @bindRequest_txnView s vars workerGeneration
    (hgConfig.routeScope currentHg) hgConfig hprofile
  have hsafety : ∀ (t : Session) (text : List Char),
      (t.observeTxnWaitSafety req text).transactionSplit = t.transactionSplit ∧
        (t.observeTxnWaitSafety req text).txnReaderFailure = t.txnReaderFailure := by
    intro t text
    unfold observeTxnWaitSafety
    simp only
    split <;> exact ⟨rfl, rfl⟩
  simp only [observeRouteInputs, hpolar, Bool.not_true, Bool.false_eq_true, if_false]
  constructor
  · intro h
    have hview := hstays h
    have hparts := hview
    simp only [txnView, Prod.mk.injEq] at hparts
    split
    · refine ⟨(hsafety _ _).1.trans hparts.1, (hsafety _ _).2.trans hparts.2.1, fun hselect => ?_⟩
      rw [observeTxnWaitSafety_select hselect]
      exact hview
    · exact ⟨hparts.1, hparts.2.1, fun _ => hview⟩
  · intro h
    split
    · rw [TxnForgotten, (hsafety _ _).1, (hsafety _ _).2]
      exact hleft h
    · exact hleft h

theorem observeRouteInputs_txnSplitEnabled
    (hpolar : hgConfig.isPolardbHostgroup = true)
    (hprofile : vars.profileOff = false) :
    (s.observeRouteInputs vars workerGeneration currentHg hgConfig req).query.txnSplitEnabled =
      (usesLsnWait (sessionMode s vars hgConfig) && hgConfig.policy.txnSplitEnabled) := by
  have hpolicy : (s.snapshotRequestPolicy vars hgConfig).query.txnSplitEnabled =
      (usesLsnWait (sessionMode s vars hgConfig) && hgConfig.policy.txnSplitEnabled) := by
    simp [snapshotRequestPolicy, hpolar, hprofile, sessionMode,
      effectiveConsistencyModeForSession]
  have hbind : (s.bindRequest vars workerGeneration (hgConfig.routeScope currentHg)
      hgConfig).query.txnSplitEnabled =
        (usesLsnWait (sessionMode s vars hgConfig) && hgConfig.policy.txnSplitEnabled) := by
    unfold bindRequest
    simp only [activate_query]
    split_ifs <;> simpa using hpolicy
  unfold observeRouteInputs
  simp only [hpolar, Bool.not_true, Bool.false_eq_true, if_false]
  split
  · rw [observeTxnWaitSafety_query]
    exact hbind
  · exact hbind

end Session

/-! ## The gate and the planner -/

section Gate

variable (s : Session) (vars : ThreadVars) (workerGeneration : Option Nat)
variable (currentHg : Int) (hgConfig : HgConfigSnapshot) (req : Request)

/-- The routing inputs collected after the request was observed. -/
def collectedCtx : RouteCtx :=
  (observeAndCollect s vars workerGeneration currentHg hgConfig req).2

/-- A read before the first write of a transaction in the scope of the request, which nothing
keeps from a reader -/
structure PrewriteStatement : Prop where
  enabled : hgConfig.policy.txnSplitEnabled = true
  read : req.IsSplitRead
  stays : ¬ s.consistency.LeftBy (hgConfig.routeScope currentHg)
  state : s.transactionSplit.BeforeFirstWrite
  safe : s.TxnWaitSafe

/-- The planner has no reason the gate does not look at: no reader failure in the scope of the
request, no hint, no transaction outside of a pre-write read, no text that needs the writer, and
no crossed activation. -/
structure CacheSafe : Prop where
  noFailure :
    s.consistency.LeftBy (hgConfig.routeScope currentHg) ∨ s.txnReaderFailure.forcedWriterHg < 0
  noHint : req.forcePrimaryHint = false
  placement :
    sessionMode s vars hgConfig = .off ∨ hgConfig.readerHostgroup < 0 ∨
      (sessionMode s vars hgConfig = .eventual ∧ req.inTransaction = false) ∨
        (sessionMode s vars hgConfig = .sessionLsn ∧
          s.crossedActivation workerGeneration = false ∧ req.PassesScans ∧
            (req.inTransaction = true → PrewriteStatement s currentHg hgConfig req))

end Gate

/-- The session the routing inputs are collected from. -/
def observedSession
    (s : Session) (vars : ThreadVars) (workerGeneration : Option Nat)
    (currentHg : Int) (hgConfig : HgConfigSnapshot) (req : Request) : Session :=
  { s with query := { s.query.resetReaderPlan with requestWriterScope := {} }
  }.observeRouteInputs vars workerGeneration currentHg hgConfig req

section Collected

variable {s : Session} {vars : ThreadVars} {workerGeneration : Option Nat}
variable {currentHg : Int} {hgConfig : HgConfigSnapshot} {req : Request}

theorem observedSession_mode
    (hpolar : hgConfig.isPolardbHostgroup = true)
    (hprofile : vars.profileOff = false) :
    consistencyFromInt (observedSession s vars workerGeneration currentHg hgConfig
      req).query.effectiveConsistencyMode = sessionMode s vars hgConfig := by
  rw [observedSession, Session.observeRouteInputs_effectiveConsistencyMode _ hpolar]
  simp [effectiveConsistencyModeForSession, hprofile, sessionMode]

theorem observedSession_txnSplitEnabled
    (hpolar : hgConfig.isPolardbHostgroup = true)
    (hprofile : vars.profileOff = false) :
    (observedSession s vars workerGeneration currentHg hgConfig req).query.txnSplitEnabled =
      (usesLsnWait (sessionMode s vars hgConfig) && hgConfig.policy.txnSplitEnabled) :=
  Session.observeRouteInputs_txnSplitEnabled hpolar hprofile

/-- What is known of the transaction when the routing inputs are collected -/
theorem observedSession_txn
    (hpolar : hgConfig.isPolardbHostgroup = true)
    (hprofile : vars.profileOff = false) :
    let t := observedSession s vars workerGeneration currentHg hgConfig req
    (¬ s.consistency.LeftBy (hgConfig.routeScope currentHg) →
      t.transactionSplit = s.transactionSplit ∧ t.txnReaderFailure = s.txnReaderFailure ∧
        (req.command = .select → t.txnView = s.txnView)) ∧
    (s.consistency.LeftBy (hgConfig.routeScope currentHg) → t.TxnForgotten) :=
  @Session.observeRouteInputs_txnView
    { s with query := { s.query.resetReaderPlan with requestWriterScope := {} } } vars
    workerGeneration currentHg hgConfig req hpolar hprofile

theorem collectedCtx_eq
    (hpolar : hgConfig.isPolardbHostgroup = true)
    (hprofile : vars.profileOff = false) :
    collectedCtx s vars workerGeneration currentHg hgConfig req =
      polardbCollect (observedSession s vars workerGeneration currentHg hgConfig req) vars
        currentHg hgConfig req := by
  simp [collectedCtx, observeAndCollect, observedSession, hpolar, hprofile]

theorem collectedCtx_mode
    (hpolar : hgConfig.isPolardbHostgroup = true)
    (hprofile : vars.profileOff = false) :
    (collectedCtx s vars workerGeneration currentHg hgConfig req).mode =
      sessionMode s vars hgConfig := by
  rw [collectedCtx_eq hpolar hprofile, collect_mode hpolar, observedSession_mode hpolar hprofile]

theorem collectedCtx_session
    (hpolar : hgConfig.isPolardbHostgroup = true)
    (hprofile : vars.profileOff = false) :
    (collectedCtx s vars workerGeneration currentHg hgConfig req).session =
      (s.consistency.rebound (hgConfig.routeScope currentHg)).activated
        (s.crossedActivation workerGeneration) := by
  have hobserved := Session.observeRouteInputs_consistency
    { s with query := { s.query.resetReaderPlan with requestWriterScope := {} } } hpolar vars
    workerGeneration currentHg req
  rw [collectedCtx_eq hpolar hprofile]
  simp only [polardbCollect, hpolar, Bool.not_true, Bool.false_eq_true, if_false]
  exact hobserved

/-- What an open gate says about the mode and the positions. -/
theorem mayNeedPlanner_eq_false
    (h : mayNeedPlanner s vars hgConfig = false) :
    readTargetFromInt vars.readTarget = .replica ∧
      (sessionMode s vars hgConfig = .off ∨ sessionMode s vars hgConfig = .eventual ∨
        (sessionMode s vars hgConfig = .sessionLsn ∧ s.consistency.target = 0 ∧
          s.consistency.writeUnknown = false ∧ s.consistency.observedUnknown = false)) := by
  have hreplica : readTargetFromInt vars.readTarget = .replica := by
    cases htarget : readTargetFromInt vars.readTarget with
    | primary =>
        simp [mayNeedPlanner, htarget] at h
    | replica =>
        rfl
  refine ⟨hreplica, ?_⟩
  cases hmode : sessionMode s vars hgConfig with
  | off =>
      exact Or.inl rfl
  | eventual =>
      exact Or.inr (Or.inl rfl)
  | globalLsn | primaryOnly =>
      simp [mayNeedPlanner, hmode] at h
  | sessionLsn =>
      simp [mayNeedPlanner, hmode, hreplica] at h
      exact Or.inr (Or.inr ⟨rfl, h.1.1, h.1.2, h.2⟩)

theorem rebound_of
    {P : SessionConsistency → Prop} {c : SessionConsistency} {scope : WriterScope}
    (h : P c)
    (hnew : P { writerScope := scope }) :
    P (c.rebound scope) := by
  unfold SessionConsistency.rebound
  split
  · exact h
  · exact hnew

/-- What the planner sees of a session that an open gate let through. -/
theorem collectedCtx_observed
    (hpolar : hgConfig.isPolardbHostgroup = true)
    (hprofile : vars.profileOff = false)
    (h : sessionMode s vars hgConfig = .off ∨ sessionMode s vars hgConfig = .eventual ∨
      (sessionMode s vars hgConfig = .sessionLsn ∧ s.consistency.target = 0 ∧
        s.consistency.writeUnknown = false ∧ s.consistency.observedUnknown = false)) :
    let ctx := collectedCtx s vars workerGeneration currentHg hgConfig req
    ctx.mode = .off ∨ ctx.mode = .eventual ∨
      (ctx.mode = .sessionLsn ∧ ctx.session.target = 0 ∧
        ctx.session.observedUnknown = false) := by
  intro ctx
  have hmode : ctx.mode = sessionMode s vars hgConfig := collectedCtx_mode hpolar hprofile
  have hsession : ctx.session =
      (s.consistency.rebound (hgConfig.routeScope currentHg)).activated
        (s.crossedActivation workerGeneration) := collectedCtx_session hpolar hprofile
  rw [hmode, hsession]
  refine h.imp_right (Or.imp_right ?_)
  rintro ⟨hlsn, htarget, -, hobserved⟩
  have hrebound : (s.consistency.rebound (hgConfig.routeScope currentHg)).target = 0 ∧
      (s.consistency.rebound (hgConfig.routeScope currentHg)).observedUnknown = false :=
    rebound_of (P := fun c => c.target = 0 ∧ c.observedUnknown = false) ⟨htarget, hobserved⟩
      ⟨rfl, rfl⟩
  refine ⟨hlsn, ?_⟩
  cases s.crossedActivation workerGeneration with
  | true =>
      exact hrebound
  | false =>
      exact hrebound

/-- A session read without an obligation, in terms of the session before the observation -/
theorem collectedCtx_sessionRead_iff
    (env : PlanEnv)
    (hpolar : hgConfig.isPolardbHostgroup = true)
    (hprofile : vars.profileOff = false)
    (heligible : req.replicaEligible = 1)
    (hreplica : vars.readTarget = 1)
    (hhint : req.forcePrimaryHint = false)
    (hmode : sessionMode s vars hgConfig = .sessionLsn)
    (hwrite :
      (collectedCtx s vars workerGeneration currentHg hgConfig req).session.writeUnknown = false)
    (hobserved :
      (collectedCtx s vars workerGeneration currentHg hgConfig
        req).session.observedUnknown = false) :
    ((collectedCtx s vars workerGeneration currentHg hgConfig req).isMultiStatement = false ∧
        (collectedCtx s vars workerGeneration currentHg hgConfig
            req).isTxnSplitLockingRead = false ∧
          (req.inTransaction = true →
            (collectedCtx s vars workerGeneration currentHg hgConfig
                req).isPrewriteRead env = true ∧
              (collectedCtx s vars workerGeneration currentHg hgConfig
                req).prewriteReadAllowed = true)) ↔
      req.PassesScans ∧ (req.inTransaction = true → PrewriteStatement s currentHg hgConfig req) := by
  rw [collectedCtx_eq hpolar hprofile] at hwrite hobserved ⊢
  obtain ⟨hstays, hleft⟩ := @observedSession_txn s vars workerGeneration currentHg hgConfig req
    hpolar hprofile
  have henabled := @observedSession_txnSplitEnabled s vars workerGeneration currentHg hgConfig req
    hpolar hprofile
  have hlsn := @observedSession_mode s vars workerGeneration currentHg hgConfig req hpolar hprofile
  rw [hmode] at hlsn henabled
  generalize observedSession s vars workerGeneration currentHg hgConfig req = t at *
  have hpositions : t.consistency.writeUnknown = false ∧ t.consistency.observedUnknown = false := by
    simpa [polardbCollect, hpolar] using And.intro hwrite hobserved
  cases hin : req.inTransaction with
  | false =>
      have hmay : mayUseReader true vars req t.query.txnSplitEnabled = true := by
        simp [mayUseReader, heligible, hreplica, hhint, hin]
      have hwait : usesLsnWait .sessionLsn = true := rfl
      simp only [polardbCollect, hpolar, consistencyModeOrOff_eq, hlsn, hwait, hmay,
        Bool.not_true, Bool.false_eq_true, if_false, false_imp_iff, and_true]
      exact collectShape_passes_iff fun h => absurd h (by simp [hin])
  | true =>
      have hsafe := collect_splitSafe_iff env currentHg hpolar heligible
        hreplica hhint (by rw [hlsn]; rfl) hin
      simp only [true_imp_iff, isPrewriteRead_iff, collect_prewriteReadAllowed_iff hpolar,
        collect_transactionSplit hpolar]
      constructor
      · rintro ⟨-, -, ⟨hquery, hstate⟩, hclean⟩
        obtain ⟨hsplit, hread, -⟩ := hsafe.mp hquery
        have hsame : ¬ s.consistency.LeftBy (hgConfig.routeScope currentHg) := by
          intro h
          have hnone := (hleft h).1
          rw [hstate.stage] at hnone
          cases hnone
        obtain ⟨hstateSame, -, hview⟩ := hstays hsame
        refine ⟨hread.scans, ⟨?_, hread, hsame, hstateSame ▸ hstate,
          (Session.txnWaitSafe_congr (hview hread.select)).mp hclean⟩⟩
        rw [henabled] at hsplit
        exact hsplit
      · rintro ⟨-, hprewrite⟩
        obtain ⟨hstateSame, -, hview⟩ := hstays hprewrite.stays
        have hquery := hsafe.mpr ⟨henabled.trans hprewrite.enabled, hprewrite.read, hpositions⟩
        exact ⟨hquery.singleStatement, hquery.notLocking,
          ⟨hquery, hstateSame.symm ▸ hprewrite.state⟩,
          (Session.txnWaitSafe_congr (hview hprewrite.read.select)).mpr hprewrite.safe⟩

/-- A session without unknown positions has one for the planner exactly where it crossed an
activation. -/
theorem collectedCtx_positions
    (hpolar : hgConfig.isPolardbHostgroup = true)
    (hprofile : vars.profileOff = false)
    (hwrite : s.consistency.writeUnknown = false)
    (hobserved : s.consistency.observedUnknown = false) :
    (collectedCtx s vars workerGeneration currentHg hgConfig req).session.writeUnknown =
        s.crossedActivation workerGeneration ∧
      (collectedCtx s vars workerGeneration currentHg hgConfig
        req).session.observedUnknown = false := by
  have hrebound : (s.consistency.rebound (hgConfig.routeScope currentHg)).writeUnknown = false ∧
      (s.consistency.rebound (hgConfig.routeScope currentHg)).observedUnknown = false :=
    rebound_of (P := fun c => c.writeUnknown = false ∧ c.observedUnknown = false)
      ⟨hwrite, hobserved⟩ ⟨rfl, rfl⟩
  rw [collectedCtx_session hpolar hprofile]
  cases s.crossedActivation workerGeneration with
  | true =>
      exact ⟨rfl, hrebound.2⟩
  | false =>
      exact hrebound

theorem collectedCtx_forced_iff
    (hpolar : hgConfig.isPolardbHostgroup = true)
    (hprofile : vars.profileOff = false) :
    ¬ ((collectedCtx s vars workerGeneration currentHg hgConfig
          req).txnForceWriterAfterReaderFailure = true ∧
        0 ≤ (collectedCtx s vars workerGeneration currentHg hgConfig req).txnWriterHg) ↔
      s.consistency.LeftBy (hgConfig.routeScope currentHg) ∨
        s.txnReaderFailure.forcedWriterHg < 0 := by
  obtain ⟨hstays, hleft⟩ := @observedSession_txn s vars workerGeneration currentHg hgConfig req
    hpolar hprofile
  rw [collectedCtx_eq hpolar hprofile]
  simp only [polardbCollect, hpolar, Bool.not_true, Bool.false_eq_true, if_false,
    decide_eq_true_eq, and_self, Int.not_le]
  by_cases hscope : s.consistency.LeftBy (hgConfig.routeScope currentHg)
  · refine iff_of_true ?_ (Or.inl hscope)
    simp [TxnReaderFailureState.forcedWriterHg, (hleft hscope).2]
  · rw [(hstays hscope).2.1]
    simp [hscope]

/-- Routing inputs without an obligation, in terms of the session before the
observation. -/
theorem collectedCtx_quiet_iff
    (env : PlanEnv)
    (hpolar : hgConfig.isPolardbHostgroup = true)
    (hprofile : vars.profileOff = false)
    (heligible : req.replicaEligible = 1)
    (hreplica : vars.readTarget = 1)
    (hknown : sessionMode s vars hgConfig = .sessionLsn →
      s.consistency.writeUnknown = false ∧ s.consistency.observedUnknown = false) :
    (collectedCtx s vars workerGeneration currentHg hgConfig req).Quiet env ↔
      CacheSafe s vars workerGeneration currentHg hgConfig req := by
  have hmode : (collectedCtx s vars workerGeneration currentHg hgConfig req).mode =
      sessionMode s vars hgConfig := collectedCtx_mode hpolar hprofile
  have hpositions := fun hsession => @collectedCtx_positions s vars workerGeneration currentHg
    hgConfig req hpolar hprofile (hknown hsession).1 (hknown hsession).2
  have hhint : (collectedCtx s vars workerGeneration currentHg hgConfig req).forcePrimaryHint =
      req.forcePrimaryHint := by
    simp [collectedCtx_eq hpolar hprofile, polardbCollect, hpolar]
  have hreader : (collectedCtx s vars workerGeneration currentHg hgConfig req).readerHg =
      hgConfig.readerHostgroup := by
    simp [collectedCtx_eq hpolar hprofile, polardbCollect, hpolar]
  have htxn : (collectedCtx s vars workerGeneration currentHg hgConfig req).inTransaction =
      req.inTransaction := by
    simp [collectedCtx_eq hpolar hprofile, polardbCollect, hpolar]
  constructor
  · rintro ⟨hf, hh, hp⟩
    rw [hhint] at hh
    rw [hmode, hreader, htxn] at hp
    refine ⟨(collectedCtx_forced_iff hpolar hprofile).mp hf, hh, hp.imp_right (Or.imp_right (Or.imp_right ?_))⟩
    rintro ⟨hsession, hwrite, hshape⟩
    obtain ⟨hcrossed, hobserved⟩ := hpositions hsession
    exact ⟨hsession, hcrossed ▸ hwrite, (collectedCtx_sessionRead_iff env hpolar hprofile
      heligible hreplica hh hsession hwrite hobserved).mp hshape⟩
  · rintro ⟨hf, hh, hp⟩
    refine ⟨(collectedCtx_forced_iff hpolar hprofile).mpr hf, hhint.trans hh, ?_⟩
    rw [hmode, hreader, htxn]
    refine hp.imp_right (Or.imp_right (Or.imp_right ?_))
    rintro ⟨hsession, hcrossed, hshape⟩
    obtain ⟨hwrite, hobserved⟩ := hpositions hsession
    have hwrite := hwrite.trans hcrossed
    exact ⟨hsession, hwrite, (collectedCtx_sessionRead_iff env hpolar hprofile heligible hreplica
      hh hsession hwrite hobserved).mpr hshape⟩

end Collected

/-- When the cache is left enabled for an automatic read on an active PolarDB
hostgroup, the plan carries no consistency obligation exactly when the profile is
off or the planner has no reason the gate does not look at. -/
theorem query_cache_agrees_iff
    (env : PlanEnv) (s : Session) (vars : ThreadVars) (workerGeneration : Option Nat)
    (q : CacheQuery) (hgConfig : HgConfigSnapshot) (req : Request)
    (hgate : queryCacheIsDisabled s vars q req = false)
    (hrule : q.hasRule = true)
    (hactive : q.polardbActive = true)
    (heligible : req.replicaEligible = 1)
    (hroute : 0 ≤ q.routeHg)
    (hconfig : q.hgConfig q.routeHg = some hgConfig)
    (hpolar : hgConfig.isPolardbHostgroup = true) :
    ¬ (polardbPlan env
        (collectedCtx s vars workerGeneration q.routeHg hgConfig req)).Obligated ↔
      vars.profileOff = true ∨ CacheSafe s vars workerGeneration q.routeHg hgConfig req := by
  cases hprofile : vars.profileOff with
  | true =>
      refine iff_of_true ?_ (Or.inl rfl)
      have hctx : collectedCtx s vars workerGeneration q.routeHg hgConfig req =
          { isPolarHg := true } := by
        simp [collectedCtx, observeAndCollect, hpolar, hprofile]
      rw [hctx]
      simp [polardbPlan, RoutePlan.Obligated, missingLsnReasons]
  | false =>
      have hneeded : mayNeedPlanner s vars hgConfig = false := by
        have hnot : ¬ q.routeHg < 0 := by omega
        simp only [queryCacheIsDisabled, hprofile, hrule, hactive, heligible, hconfig, hnot] at hgate
        simp only [Bool.false_eq_true, if_false, Bool.not_true, Bool.or_self, decide_not,
          decide_true] at hgate
        split at hgate
        · cases hgate
        · exact hgate
      obtain ⟨hreplica, hcases⟩ := mayNeedPlanner_eq_false hneeded
      have hctx : collectedCtx s vars workerGeneration q.routeHg hgConfig req =
          polardbCollect (observedSession s vars workerGeneration q.routeHg hgConfig req) vars
            q.routeHg hgConfig req := collectedCtx_eq hpolar hprofile
      have hfields : (collectedCtx s vars workerGeneration q.routeHg hgConfig req).isPolarHg =
            true ∧
          (collectedCtx s vars workerGeneration q.routeHg hgConfig req).replicaEligible = true ∧
            readTargetFromInt
              (collectedCtx s vars workerGeneration q.routeHg hgConfig req).readTarget =
                .replica := by
        rw [hctx]
        simp only [polardbCollect, hpolar, Bool.not_true, Bool.false_eq_true, if_false]
        exact ⟨trivial, by simp [heligible], hreplica⟩
      obtain ⟨hpolarHg, hreplicaEligible, htarget⟩ := hfields
      rw [polardbPlan_obligated_iff hpolarHg hreplicaEligible htarget
        (collectedCtx_observed hpolar hprofile hcases),
        collectedCtx_quiet_iff env hpolar hprofile heligible
          (readTargetFromInt_replica.mp hreplica) ?_]
      · simp
      · intro hsession
        rcases hcases with h | h | ⟨-, -, hunknown⟩
        · rw [hsession] at h
          cases h
        · rw [hsession] at h
          cases h
        · exact hunknown

def splitPair : HgConfigSnapshot :=
  { pairConfig with policy := { pairConfig.policy with txnSplitEnabled := true } }

def automaticRead : CacheQuery :=
  { currentHg := 0, hgConfig := fun _ => some splitPair }

/-- A session of the first activation, with nothing to wait for, in a transaction that has not
written yet -/
def unpositionedSession : Session :=
  { config := { isPolardbEnabled := true, activationGeneration := some 1 }
    consistency := { writerScope := { hg := 0, epoch := 1 } }
    transactionSplit := { stage := .txnOnPrimary, splittable := true } }

/-- A read inside of a transaction -/
def prewriteRead : Request :=
  { text := some "SELECT 1".toList, command := .select, inTransaction := true }

/-- Within its activation the session may read from the cache. -/
theorem query_cache_agrees_iff_prewrite :
    queryCacheIsDisabled unpositionedSession {} automaticRead prewriteRead = false ∧
      ¬ (polardbPlan {}
        (collectedCtx unpositionedSession {} (some 1) 0 splitPair prewriteRead)).Obligated := by
  have hscans : prewriteRead.PassesScans := by
    constructor
    · rintro _ ⟨⟩
      decide
    · rintro _ ⟨⟩ -
      decide
  refine ⟨by decide, ?_⟩
  refine (query_cache_agrees_iff {} unpositionedSession {} (some 1) automaticRead splitPair
    prewriteRead (by decide) rfl rfl rfl (by decide) rfl rfl).mpr (Or.inr ⟨Or.inr (by decide), rfl, ?_⟩)
  refine Or.inr (Or.inr (Or.inr ⟨by decide, by decide, hscans, fun _ => ?_⟩))
  exact
    { enabled := rfl
      read := ⟨rfl, rfl, rfl, hscans⟩
      stays := fun h => absurd h.2 (by decide)
      state := ⟨rfl, rfl, rfl, rfl, Or.inr rfl⟩
      safe := ⟨rfl, rfl, rfl⟩ }

/-- After a later activation the same read is a missing-LSN decision, and the
cache is still enabled. -/
theorem crossed_activation_reads_cache :
    queryCacheIsDisabled unpositionedSession {} automaticRead {} = false ∧
      (polardbPlan {}
        (collectedCtx unpositionedSession {} (some 2) 0 splitPair {})).Obligated :=
  ⟨by decide, by decide⟩

end PolarProxy
