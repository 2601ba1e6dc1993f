import PolarProxy.Library.SqlLexer
import PolarProxy.Session

/-!
# Query shapes and the reader

Three kinds of statement must stay on the writer: a simple query with more than
one statement, a `SELECT` that locks rows, and a statement inside a transaction
that transaction split does not admit.  The collector classifies the text and
the planner acts on the classification.  The collector classifies only when one
of the LSN modes is in force, so the eventual mode plans a reader for texts of
any shape; and what it does not see in a text is a locking clause that
PostgreSQL sees.

**Results.** `planLsn_targetsReader_iff`, `plansReader_iff`, `unsafe_shape_avoids_reader_iff`.
-/

namespace PolarProxy

/-! ## Plans for the reader -/

section Plans

variable {env : PlanEnv} {ctx : RouteCtx} {mode : ConsistencyMode}

/-- What is known of the positions lets a read go to the reader: an unknown position of the
session is allowed by the policy, an unknown position of the group is not. -/
def RouteCtx.PositionsServed (ctx : RouteCtx) (env : PlanEnv) (mode : ConsistencyMode) : Prop :=
  if ctx.session.writeUnknown = true ∨ ctx.session.observedUnknown = true then
    mode = .sessionLsn ∧ ctx.isExtendedProtocol = false ∧
      missingLsnActionFromInt ctx.missingLsnAction = .warning
  else mode = .globalLsn → 0 < env.groupLsn

/-- A shape requires the writer exactly when one of its reasons applies. -/
theorem writerRequiredReason_eq_none_iff (inTransaction multi locking : Bool) :
    writerRequiredReason inTransaction multi locking = .none ↔
      inTransaction = false ∧ multi = false ∧ locking = false := by
  cases inTransaction <;> cases multi <;> cases locking <;> decide

theorem planMissingLsn_targetsReader_iff
    {reason : RouteActionReason} {allow splitChecked : Bool}
    (hsep : ctx.HgSeparated)
    (hreader : 0 ≤ ctx.readerHg) :
    (planMissingLsn ctx reason allow splitChecked).TargetsReader ctx ↔
      allow = true ∧ missingLsnActionFromInt ctx.missingLsnAction = .warning := by
  constructor
  · intro h
    obtain ⟨hallow, hwarning, -⟩ := missingLsn_reader hsep h
    exact ⟨hallow, hwarning⟩
  · rintro ⟨hallow, hwarning⟩
    refine ⟨hreader, ?_⟩
    simp [planMissingLsn, missingLsn, snapshotReaderPolicy, hallow, hwarning]

/-- A missing position is allowed under `SESSION_LSN`, in the simple protocol. -/
theorem planMissingLsn_allowed_iff
    {reason : RouteActionReason} {splitChecked : Bool}
    (hmode : usesLsnWait mode = true)
    (hsep : ctx.HgSeparated)
    (hreader : 0 ≤ ctx.readerHg) :
    (planMissingLsn ctx reason (ctx.allowsDegradedReader mode) splitChecked).TargetsReader ctx ↔
      mode = .sessionLsn ∧ ctx.isExtendedProtocol = false ∧
        missingLsnActionFromInt ctx.missingLsnAction = .warning := by
  rw [planMissingLsn_targetsReader_iff hsep hreader]
  rcases (usesLsnWait_iff mode).mp hmode with rfl | rfl
  · simp [RouteCtx.allowsDegradedReader, disallowsDegradedReader]
  · simp [RouteCtx.allowsDegradedReader, disallowsDegradedReader]

theorem targetWithGlobalLsn_known_iff {localTargetLsn groupLsn : Nat} :
    (targetWithGlobalLsn localTargetLsn groupLsn).2 = false ↔ 0 < groupLsn := by
  unfold targetWithGlobalLsn
  by_cases hzero : groupLsn = 0
  · simp [hzero]
  · simp [hzero, Nat.pos_of_ne_zero hzero]

/-- The group position is missing exactly under `GLOBAL_LSN` without one. -/
theorem consistencyTarget_known_iff :
    (ctx.consistencyTarget env mode).2 = false ↔ (mode = .globalLsn → 0 < env.groupLsn) := by
  unfold RouteCtx.consistencyTarget
  by_cases hglobal : mode = .globalLsn
  · rw [if_pos hglobal]
    simpa [hglobal, SessionConsistency.targetWithGlobalLsn] using targetWithGlobalLsn_known_iff
  · simp [hglobal]

theorem splitTarget_known_iff :
    (ctx.splitTarget env mode).2 = false ↔ (mode = .globalLsn → 0 < env.groupLsn) := by
  unfold RouteCtx.splitTarget
  by_cases hglobal : mode = .globalLsn
  · rw [if_pos hglobal]
    simpa [hglobal] using targetWithGlobalLsn_known_iff
  · simp [hglobal]

theorem planConsistencyRead_targetsReader_iff
    {plan : RoutePlan} {txnWaitRead : Bool}
    (hmode : usesLsnWait mode = true)
    (hsep : ctx.HgSeparated)
    (hreader : 0 ≤ ctx.readerHg)
    (htxn : (ctx.inTransaction && !txnWaitRead) = false) :
    (planConsistencyRead env ctx mode plan txnWaitRead).TargetsReader ctx ↔
      ctx.isMultiStatement = false ∧ ctx.isTxnSplitLockingRead = false ∧
        ctx.PositionsServed env mode := by
  unfold planConsistencyRead
  simp only
  by_cases hshape : ctx.isMultiStatement = false ∧ ctx.isTxnSplitLockingRead = false
  · rw [if_neg (not_not.mpr ((writerRequiredReason_eq_none_iff _ _ _).mpr ⟨htxn, hshape⟩))]
    simp only [hshape, true_and]
    unfold RouteCtx.PositionsServed
    by_cases hwrite : ctx.session.writeUnknown = true
    · rw [if_pos hwrite, if_pos (Or.inl hwrite), planMissingLsn_allowed_iff hmode hsep hreader]
    rw [if_neg hwrite]
    by_cases hobserved : ctx.session.observedUnknown = true
    · rw [if_pos hobserved, if_pos (Or.inr hobserved),
        planMissingLsn_allowed_iff hmode hsep hreader]
    rw [if_neg hobserved, if_neg (not_or.mpr ⟨hwrite, hobserved⟩), ← consistencyTarget_known_iff]
    cases hgroup : (ctx.consistencyTarget env mode).2 with
    | true =>
        rw [if_pos rfl]
        exact iff_of_false (missingLsn_not_reader hsep) Bool.true_eq_false.mp
    | false =>
        rw [if_neg Bool.false_ne_true]
        refine iff_of_true ⟨hreader, ?_⟩ rfl
        split <;> rfl
  · rw [if_pos fun h => hshape ((writerRequiredReason_eq_none_iff _ _ _).mp h).2]
    exact iff_of_false (not_targetsReader_of_ne hsep.writer) fun h => hshape ⟨h.1, h.2.1⟩

theorem planSplitRead_targetsReader_iff
    (hsep : ctx.HgSeparated)
    (hreader : 0 ≤ ctx.readerHg) :
    (planSplitRead env ctx mode).TargetsReader ctx ↔ (mode = .globalLsn → 0 < env.groupLsn) := by
  rw [← splitTarget_known_iff]
  unfold planSplitRead
  simp only
  cases hgroup : (ctx.splitTarget env mode).2 with
  | true =>
      rw [if_pos rfl]
      exact iff_of_false (missingLsn_not_reader hsep) Bool.true_eq_false.mp
  | false =>
      rw [if_neg Bool.false_ne_true, attachReaderLagCap_eq]
      exact iff_of_true ⟨hreader, rfl⟩ rfl

theorem isPrewriteRead_iff :
    ctx.isPrewriteRead env = true ↔
      (ctx.splitQuery env).Safe ∧ ctx.transactionSplit.BeforeFirstWrite := by
  simp only [RouteCtx.isPrewriteRead, RouteCtx.splitReason, Bool.and_eq_true, beq_iff_eq]
  constructor
  · rintro ⟨⟨⟨⟨⟨hreason, henabled⟩, hstage⟩, hsplittable⟩, hxids⟩, hsafe⟩
    obtain ⟨hquery, hblocked, hwal⟩ := (rejectionReason_inTransaction_iff hstage hxids).mp hreason
    exact ⟨hquery, hstage, hsplittable, hxids, hblocked, hwal⟩
  · rintro ⟨hquery, hstate⟩
    exact ⟨⟨⟨⟨⟨(rejectionReason_inTransaction_iff hstate.stage hstate.noXids).mpr
      ⟨hquery, hstate.notBlocked, hstate.wal⟩, hquery.enabled⟩, hstate.stage⟩, hstate.splittable⟩,
      hstate.noXids⟩, hquery.safeRead⟩

theorem positionsServed_of_safe
    (h : (ctx.splitQuery env).Safe) :
    ctx.PositionsServed env mode ↔ (mode = .globalLsn → 0 < env.groupLsn) := by
  have hwrite : ¬ ctx.session.writeUnknown = true := Bool.eq_false_iff.mp h.writeKnown
  have hobserved : ¬ ctx.session.observedUnknown = true := Bool.eq_false_iff.mp h.observedKnown
  rw [RouteCtx.PositionsServed, if_neg (not_or.mpr ⟨hwrite, hobserved⟩)]

theorem planTransaction_targetsReader_iff
    (hmode : usesLsnWait mode = true)
    (hsep : ctx.HgSeparated)
    (hreader : 0 ≤ ctx.readerHg) :
    (planTransaction env ctx mode).TargetsReader ctx ↔
      ctx.AdmittedBySplit env ∧ ctx.PositionsServed env mode := by
  unfold planTransaction RouteCtx.AdmittedBySplit
  by_cases hpre : ctx.isPrewriteRead env = true
  · obtain ⟨hquery, hstate⟩ := isPrewriteRead_iff.mp hpre
    have hreason : ctx.splitReason env ≠ .none := by
      intro h
      exact (rejectionReason_none_iff.mp h).2.1.xids hstate.noXids
    rw [if_pos hpre]
    by_cases hallowed : ctx.prewriteReadAllowed = true
    · rw [if_pos hallowed, planConsistencyRead_targetsReader_iff hmode hsep hreader (by simp)]
      constructor
      · rintro ⟨-, -, hpositions⟩
        exact ⟨Or.inr ⟨hpre, hallowed⟩, hpositions⟩
      · rintro ⟨-, hpositions⟩
        exact ⟨hquery.singleStatement, hquery.notLocking, hpositions⟩
    · rw [if_neg hallowed]
      refine iff_of_false (not_targetsReader_of_ne hsep.writer) ?_
      rintro ⟨hnone | ⟨-, h⟩, -⟩
      · exact hreason hnone
      · exact hallowed h
  · rw [if_neg hpre]
    by_cases hreason : ctx.splitReason env = .none
    · have hquery : (ctx.splitQuery env).Safe := (rejectionReason_none_iff.mp hreason).1
      rw [if_neg (not_not.mpr hreason), planSplitRead_targetsReader_iff hsep hreader,
        positionsServed_of_safe hquery]
      simp [hreason]
    · rw [if_pos hreason]
      refine iff_of_false (not_targetsReader_of_ne hsep.writer) ?_
      rintro ⟨hnone | ⟨h, -⟩, -⟩
      · exact hreason hnone
      · exact hpre h

/-- Which reads the LSN modes plan for the reader. -/
theorem planLsn_targetsReader_iff
    (hmode : usesLsnWait mode = true)
    (hsep : ctx.HgSeparated)
    (hreader : 0 ≤ ctx.readerHg) :
    (planLsn env ctx mode).TargetsReader ctx ↔
      consistencyPolicyError mode (missingLsnActionFromInt ctx.missingLsnAction)
          (lsnWaitTimeoutActionFromInt ctx.lsnWaitTimeoutAction) = none ∧
        ctx.PositionsServed env mode ∧
          if ctx.inTransaction = true then ctx.AdmittedBySplit env
          else ctx.isMultiStatement = false ∧ ctx.isTxnSplitLockingRead = false := by
  unfold planLsn
  cases hpolicy : consistencyPolicyError mode (missingLsnActionFromInt ctx.missingLsnAction)
      (lsnWaitTimeoutActionFromInt ctx.lsnWaitTimeoutAction) with
  | some error =>
      rw [if_pos (by rfl)]
      exact iff_of_false (not_targetsReader_of_neg rfl) (by simp)
  | none =>
      rw [if_neg (by simp)]
      by_cases hin : ctx.inTransaction = true
      · rw [if_pos hin, if_pos hin, planTransaction_targetsReader_iff hmode hsep hreader]
        simp [and_comm]
      · rw [if_neg hin, if_neg hin,
          planConsistencyRead_targetsReader_iff hmode hsep hreader (by simpa using hin)]
        tauto

end Plans

/-! ## Texts -/

def LockingWords.HoldsLockingForm (tokens : List SqlLexer.Token) : Prop :=
  ∃ earlier words later form, tokens = earlier ++ (words.map SqlLexer.Token.word ++ later) ∧
    form ∈ lockingForms ∧ spells words form = true

namespace Request

variable (req : Request)

/-- The text is a `SELECT` with a row-locking clause, as PostgreSQL reads it. -/
def IsLockingSelect : Prop :=
  ∃ text tokens word, req.text = some text ∧ SqlLexer.lex (cString text) = some tokens ∧
    tokens.head? = some (.word word) ∧ tokenEquals word "select" = true ∧
      LockingWords.HoldsLockingForm tokens

/-- The scans of the text find nothing that needs the writer.  They look for a locking clause
only in what is known as a `SELECT`. -/
structure PassesScans : Prop where
  single : ∀ text, req.text = some text → queryHasMultipleStatements text = false
  unlocked : ∀ text, req.text = some text → req.command = .select →
    selectHasLockingForClause (cString text) = false

/-- A query that a transaction may send to a reader, as far as its text and protocol go -/
structure IsSplitRead : Prop where
  simple : req.isExtendedProtocol = false
  select : req.command = .select
  text : req.text.isSome = true
  scans : req.PassesScans

end Request

/-- The transaction is `READ COMMITTED`, and no state of it is local to the primary. -/
structure Session.TxnWaitSafe (s : Session) : Prop where
  readCommitted : s.txnWaitSafety.nonReadCommitted = false
  default : s.config.txnReaderWaitDefaultReadCommitted = true
  clean : s.txnWaitSafety.localStateChanged = false

section Collect

variable {env : PlanEnv} {s : Session} {vars : ThreadVars} {currentHg : Int}
variable {hgConfig : HgConfigSnapshot} {req : Request}

/-- A statement inside of a transaction that transaction split admits: before the first write, or
after a write whose position and XIDs the primary reported. -/
structure AdmittedStatement
    (env : PlanEnv) (s : Session) (currentHg : Int) (hgConfig : HgConfigSnapshot)
    (req : Request) : Prop where
  enabled : s.query.txnSplitEnabled = true
  read : req.IsSplitRead
  writeKnown : s.consistency.writeUnknown = false
  observedKnown : s.consistency.observedUnknown = false
  state : (s.transactionSplit.BeforeFirstWrite ∧ s.TxnWaitSafe) ∨
    SplitReadable s.transactionSplit (env.maxReplicaReplayLsn (hgConfig.routeScope currentHg)) ∧
      (s.transactionSplit.stage = .txnOnPrimary ∨ s.transactionSplit.stage = .txnSplittable)

/-- A query shape that must not be served by a reader. -/
inductive UnsafeShape
    (env : PlanEnv) (s : Session) (currentHg : Int) (hgConfig : HgConfigSnapshot)
    (req : Request) : Prop
  | severalStatements {text : List Char} :
      req.isExtendedProtocol = false →
      req.text = some text →
      HoldsSeveralStatements text →
      UnsafeShape env s currentHg hgConfig req
  | lockingSelect :
      req.IsLockingSelect →
      UnsafeShape env s currentHg hgConfig req
  | transaction :
      req.inTransaction = true →
      ¬ AdmittedStatement env s currentHg hgConfig req →
      UnsafeShape env s currentHg hgConfig req

/-- The plan built from the collected inputs goes to the reader. -/
def PlansReader
    (env : PlanEnv) (s : Session) (vars : ThreadVars) (currentHg : Int)
    (hgConfig : HgConfigSnapshot) (req : Request) : Prop :=
  (polardbPlan env (polardbCollect s vars currentHg hgConfig req)).TargetsReader
    (polardbCollect s vars currentHg hgConfig req)

/-- An automatic read of a PolarDB pair, with no reason above the mode decision to use the
writer -/
structure ReaderEligible
    (s : Session) (vars : ThreadVars) (hgConfig : HgConfigSnapshot) (req : Request) : Prop where
  polar : hgConfig.isPolardbHostgroup = true
  eligible : req.replicaEligible = 1
  noFailure : s.txnReaderFailure.forcedWriterHg < 0
  noHint : req.forcePrimaryHint = false
  replica : vars.readTarget = 1
  readerHg : 0 ≤ hgConfig.readerHostgroup

/-- Automatic eventual reads outside a transaction -/
structure EventualReaderRoute
    (s : Session) (vars : ThreadVars) (hgConfig : HgConfigSnapshot) (req : Request) : Prop
    extends ReaderEligible s vars hgConfig req where
  eventual : consistencyFromInt s.query.effectiveConsistencyMode = .eventual
  noTransaction : req.inTransaction = false

/-- Reads under an LSN mode that the policy, the positions and the scans of the text let go to
the reader, and transaction split inside of a transaction -/
structure LsnReaderRoute
    (env : PlanEnv) (s : Session) (vars : ThreadVars) (currentHg : Int)
    (hgConfig : HgConfigSnapshot) (req : Request) : Prop
    extends ReaderEligible s vars hgConfig req where
  mode : usesLsnWait (consistencyFromInt s.query.effectiveConsistencyMode) = true
  policy : consistencyPolicyError (consistencyFromInt s.query.effectiveConsistencyMode)
    (missingLsnActionFromInt vars.actionMissingLsn)
    (lsnWaitTimeoutActionFromInt vars.actionLsnTimeout) = none
  positions :
    if s.consistency.writeUnknown = true ∨ s.consistency.observedUnknown = true then
      consistencyFromInt s.query.effectiveConsistencyMode = .sessionLsn ∧
        req.isExtendedProtocol = false ∧ missingLsnActionFromInt vars.actionMissingLsn = .warning
    else consistencyFromInt s.query.effectiveConsistencyMode = .globalLsn → 0 < env.groupLsn
  scans : req.PassesScans
  admitted : req.inTransaction = true → AdmittedStatement env s currentHg hgConfig req

theorem readTargetFromInt_replica {v : Int} :
    readTargetFromInt v = .replica ↔ v = 1 := by
  unfold readTargetFromInt
  split <;> simp_all

theorem plansReader_polar
    (h : PlansReader env s vars currentHg hgConfig req) :
    hgConfig.isPolardbHostgroup = true := by
  by_contra hpolar
  have hcollect : polardbCollect s vars currentHg hgConfig req = {} := by
    simp [polardbCollect, hpolar]
  unfold PlansReader at h
  rw [hcollect] at h
  exact absurd h.1 (by decide)

/-- The rungs above the mode decision, in terms of the collected inputs -/
theorem readerEligible_iff
    (currentHg : Int)
    (hpolar : hgConfig.isPolardbHostgroup = true) :
    ReaderEligible s vars hgConfig req ↔
      (polardbCollect s vars currentHg hgConfig req).ReachesReader := by
  simp only [polardbCollect, hpolar, Bool.not_true, Bool.false_eq_true, if_false]
  constructor
  · intro h
    have hnot : ¬ 0 ≤ s.txnReaderFailure.forcedWriterHg := Int.not_le.mpr h.noFailure
    exact ⟨rfl, by simp [h.eligible], fun hforced => hnot hforced.2, h.noHint,
      readTargetFromInt_replica.mpr h.replica, h.readerHg⟩
  · intro h
    refine ⟨hpolar, by simpa using h.eligible, ?_, h.noHint,
      readTargetFromInt_replica.mp h.replica, h.readerHg⟩
    by_contra hforced
    exact h.noFailure (by simpa using hforced)

theorem collect_mode
    (hpolar : hgConfig.isPolardbHostgroup = true) :
    (polardbCollect s vars currentHg hgConfig req).mode =
      consistencyFromInt s.query.effectiveConsistencyMode := by
  simp only [RouteCtx.mode, polardbCollect, hpolar, Bool.not_true, Bool.false_eq_true, if_false,
    consistencyModeOrOff_eq]

theorem collectShape_passes_iff
    {txnSplitEnabled : Bool}
    (htxn : req.inTransaction = true → txnSplitEnabled = true) :
    ((collectShape true req txnSplitEnabled).isMultiStatement = false ∧
        (collectShape true req txnSplitEnabled).isTxnSplitLockingRead = false) ↔
      req.PassesScans := by
  cases htext : req.text with
  | none =>
      simp only [collectShape, htext]
      exact iff_of_true ⟨trivial, trivial⟩ ⟨by simp [htext], by simp [htext]⟩
  | some text =>
      have hscans : req.PassesScans ↔ queryHasMultipleStatements text = false ∧
          (req.command = .select → selectHasLockingForClause (cString text) = false) := by
        constructor
        · intro h
          exact ⟨h.single text htext, h.unlocked text htext⟩
        · rintro ⟨hsingle, hunlocked⟩
          constructor
          · intro text' h
            rw [htext] at h
            cases h
            exact hsingle
          · intro text' h
            rw [htext] at h
            cases h
            exact hunlocked
      rw [hscans]
      simp only [collectShape, htext]
      cases hin : req.inTransaction with
      | true =>
          simp only [htxn hin, isTxnSplitSafeSelect, Bool.and_self, if_true]
          cases selectHasLockingForClause (cString text) <;> simp
      | false =>
          by_cases hselect : req.command = .select
          · simp [hselect, isLockingSelectQuery]
          · simp [hselect]

theorem collectShape_safe_iff
    (hin : req.inTransaction = true) :
    (collectShape true req true).isTxnSplitSafeRead = true ↔
      req.command = .select ∧ req.text.isSome = true ∧
        ∀ text, req.text = some text → selectHasLockingForClause (cString text) = false := by
  cases htext : req.text with
  | none => simp [collectShape, htext]
  | some text => simp [collectShape, htext, hin, isTxnSplitSafeSelect]

/-- A safe query inside of a transaction is one that its text, its protocol and the positions of
the session let through. -/
theorem collect_splitSafe_iff
    (env : PlanEnv) (currentHg : Int)
    (hpolar : hgConfig.isPolardbHostgroup = true)
    (heligible : req.replicaEligible = 1)
    (hreplica : vars.readTarget = 1)
    (hhint : req.forcePrimaryHint = false)
    (hmode : usesLsnWait (consistencyFromInt s.query.effectiveConsistencyMode) = true)
    (hin : req.inTransaction = true) :
    ((polardbCollect s vars currentHg hgConfig req).splitQuery env).Safe ↔
      s.query.txnSplitEnabled = true ∧ req.IsSplitRead ∧
        s.consistency.writeUnknown = false ∧ s.consistency.observedUnknown = false := by
  have hmay : mayUseReader true vars req s.query.txnSplitEnabled = s.query.txnSplitEnabled := by
    simp [mayUseReader, heligible, hreplica, hhint, hin]
  simp only [polardbCollect, hpolar, consistencyModeOrOff_eq, hmode, hmay, Bool.not_true,
    Bool.false_eq_true, if_false]
  constructor
  · intro h
    have henabled : s.query.txnSplitEnabled = true := h.enabled
    have hmulti := h.singleStatement
    have hlocking := h.notLocking
    have hread := h.safeRead
    simp only [RouteCtx.splitQuery, henabled] at hmulti hlocking hread
    obtain ⟨hselect, htext, -⟩ := (collectShape_safe_iff hin).mp hread
    exact ⟨henabled, ⟨h.simpleProtocol, hselect, htext,
      (collectShape_passes_iff fun _ => rfl).mp ⟨hmulti, hlocking⟩⟩, h.writeKnown, h.observedKnown⟩
  · rintro ⟨henabled, hread, hwrite, hobserved⟩
    have hpasses := (collectShape_passes_iff fun _ => rfl).mpr hread.scans
    have hsafeRead := (collectShape_safe_iff hin).mpr ⟨hread.select, hread.text,
      fun text h => hread.scans.unlocked text h hread.select⟩
    simp only [henabled]
    exact ⟨rfl, hpasses.1, hread.simple, hpasses.2, hsafeRead, hwrite, hobserved⟩

theorem collect_prewriteReadAllowed_iff
    (hpolar : hgConfig.isPolardbHostgroup = true) :
    (polardbCollect s vars currentHg hgConfig req).prewriteReadAllowed = true ↔
      s.TxnWaitSafe := by
  simp only [polardbCollect, hpolar, RouteCtx.prewriteReadAllowed, Bool.not_true,
    Bool.false_eq_true, if_false, Bool.and_eq_true, Bool.not_eq_true']
  constructor
  · rintro ⟨⟨hread, hdefault⟩, hclean⟩
    exact ⟨hread, hdefault, hclean⟩
  · rintro ⟨hread, hdefault, hclean⟩
    exact ⟨⟨hread, hdefault⟩, hclean⟩

theorem collect_transactionSplit
    (hpolar : hgConfig.isPolardbHostgroup = true) :
    (polardbCollect s vars currentHg hgConfig req).transactionSplit = s.transactionSplit := by
  simp [polardbCollect, hpolar]

/-- The replayed position counts only while WAL is pending. -/
theorem splitReadable_congr
    {t : TransactionSplitState} {m n : Nat}
    (h : t.walPending = true → t.primaryLsn ≠ 0 → m = n) :
    SplitReadable t m ↔ SplitReadable t n := by
  have hone : ∀ {m n : Nat}, (t.walPending = true → t.primaryLsn ≠ 0 → m = n) →
      SplitReadable t m → SplitReadable t n := by
    intro m n hmn hread
    refine ⟨hread.xids, hread.primaryLsn, hread.notFailed, hread.notBlocked,
      hread.position.imp_right ?_⟩
    rintro ⟨hwal, hle⟩
    exact ⟨hwal, (hmn hwal (Nat.ne_of_gt hread.primaryLsn)) ▸ hle⟩
  exact ⟨hone h, hone fun hwal hprimary => (h hwal hprimary).symm⟩

theorem admittedStatement_iff
    (heligible : ReaderEligible s vars hgConfig req)
    (hmode : usesLsnWait (consistencyFromInt s.query.effectiveConsistencyMode) = true)
    (hin : req.inTransaction = true) :
    (polardbCollect s vars currentHg hgConfig req).AdmittedBySplit env ↔
      AdmittedStatement env s currentHg hgConfig req := by
  have hsafe := collect_splitSafe_iff env currentHg heligible.polar
    heligible.eligible heligible.replica heligible.noHint hmode hin
  have hreplayed :
      ((polardbCollect s vars currentHg hgConfig req).splitQuery env).Safe →
        (SplitReadable s.transactionSplit
            ((polardbCollect s vars currentHg hgConfig req).splitQuery env).maxReplicaReplayLsn ↔
          SplitReadable s.transactionSplit
            (env.maxReplicaReplayLsn (hgConfig.routeScope currentHg))) := by
    intro h
    have hsimple := (hsafe.mp h).2.1.simple
    refine splitReadable_congr fun hwal hprimary => ?_
    simp [polardbCollect, heligible.polar, RouteCtx.splitQuery, hsimple, hwal, hprimary]
  unfold RouteCtx.AdmittedBySplit
  rw [isPrewriteRead_iff, RouteCtx.splitReason, rejectionReason_none_iff,
    collect_transactionSplit heligible.polar, collect_prewriteReadAllowed_iff heligible.polar]
  constructor
  · rintro (⟨h, hread, hstage⟩ | ⟨⟨h, hstate⟩, hclean⟩)
    · obtain ⟨henabled, hselect, hwrite, hobserved⟩ := hsafe.mp h
      exact ⟨henabled, hselect, hwrite, hobserved, Or.inr ⟨(hreplayed h).mp hread, hstage⟩⟩
    · obtain ⟨henabled, hselect, hwrite, hobserved⟩ := hsafe.mp h
      exact ⟨henabled, hselect, hwrite, hobserved, Or.inl ⟨hstate, hclean⟩⟩
  · rintro ⟨henabled, hselect, hwrite, hobserved, hstate⟩
    have h := hsafe.mpr ⟨henabled, hselect, hwrite, hobserved⟩
    rcases hstate with ⟨hstate, hclean⟩ | ⟨hread, hstage⟩
    · exact Or.inr ⟨⟨h, hstate⟩, hclean⟩
    · exact Or.inl ⟨h, (hreplayed h).mpr hread, hstage⟩

theorem lsnReaderRoute_iff
    (heligible : ReaderEligible s vars hgConfig req)
    (hapart : HgApart s currentHg hgConfig)
    (hmode : usesLsnWait (consistencyFromInt s.query.effectiveConsistencyMode) = true) :
    PlansReader env s vars currentHg hgConfig req ↔
      LsnReaderRoute env s vars currentHg hgConfig req := by
  have hpolar := heligible.polar
  have hctxMode : (polardbCollect s vars currentHg hgConfig req).mode =
      consistencyFromInt s.query.effectiveConsistencyMode := collect_mode hpolar
  have hreaches := (readerEligible_iff currentHg hpolar).mp heligible
  have hlsn : usesLsnWait (polardbCollect s vars currentHg hgConfig req).mode = true := by
    rw [hctxMode, hmode]
  have hpositions : (polardbCollect s vars currentHg hgConfig req).PositionsServed env
        (polardbCollect s vars currentHg hgConfig req).mode ↔
      if s.consistency.writeUnknown = true ∨ s.consistency.observedUnknown = true then
        consistencyFromInt s.query.effectiveConsistencyMode = .sessionLsn ∧
          req.isExtendedProtocol = false ∧ missingLsnActionFromInt vars.actionMissingLsn = .warning
      else consistencyFromInt s.query.effectiveConsistencyMode = .globalLsn → 0 < env.groupLsn := by
    rw [hctxMode, RouteCtx.PositionsServed]
    simp only [polardbCollect, hpolar, Bool.not_true, Bool.false_eq_true, if_false]
  have hadmitted : req.inTransaction = true →
      ((polardbCollect s vars currentHg hgConfig req).AdmittedBySplit env ↔
        AdmittedStatement env s currentHg hgConfig req) := admittedStatement_iff heligible hmode
  have hscans : req.inTransaction = false →
      ((polardbCollect s vars currentHg hgConfig req).isMultiStatement = false ∧
          (polardbCollect s vars currentHg hgConfig req).isTxnSplitLockingRead = false ↔
        req.PassesScans) := by
    intro hin
    have hmay : mayUseReader true vars req s.query.txnSplitEnabled = true := by
      simp [mayUseReader, heligible.eligible, heligible.replica, heligible.noHint, hin]
    simp only [polardbCollect, hpolar, consistencyModeOrOff_eq, hmode, hmay, Bool.not_true,
      Bool.false_eq_true, if_false]
    exact collectShape_passes_iff fun h => by simp [hin] at h
  have hpolicy : (polardbCollect s vars currentHg hgConfig req).missingLsnAction =
        vars.actionMissingLsn ∧
      (polardbCollect s vars currentHg hgConfig req).lsnWaitTimeoutAction =
        vars.actionLsnTimeout ∧
      (polardbCollect s vars currentHg hgConfig req).inTransaction = req.inTransaction := by
    simp [polardbCollect, hpolar]
  unfold PlansReader
  rw [(polardbPlan_of_reachesReader hreaches).2 hlsn,
    planLsn_targetsReader_iff hlsn (collect_hgSeparated hpolar hapart) hreaches.readerHg,
    hpositions, hpolicy.1, hpolicy.2.1, hpolicy.2.2, hctxMode]
  cases hin : req.inTransaction with
  | true =>
      rw [if_pos rfl, hadmitted hin]
      constructor
      · rintro ⟨hpolicy, hpositions, hadmitted⟩
        exact ⟨heligible, hmode, hpolicy, hpositions, hadmitted.read.scans, fun _ => hadmitted⟩
      · intro h
        exact ⟨h.policy, h.positions, h.admitted hin⟩
  | false =>
      rw [if_neg Bool.false_ne_true, hscans hin]
      constructor
      · rintro ⟨hpolicy, hpositions, hscans⟩
        exact ⟨heligible, hmode, hpolicy, hpositions, hscans, fun h => by simp [hin] at h⟩
      · intro h
        exact ⟨h.policy, h.positions, h.scans⟩

theorem eventualReaderRoute_iff
    (heligible : ReaderEligible s vars hgConfig req)
    (hapart : HgApart s currentHg hgConfig)
    (hmode : consistencyFromInt s.query.effectiveConsistencyMode = .eventual) :
    PlansReader env s vars currentHg hgConfig req ↔ EventualReaderRoute s vars hgConfig req := by
  have hpolar := heligible.polar
  have hreaches := (readerEligible_iff currentHg hpolar).mp heligible
  have hin : (polardbCollect s vars currentHg hgConfig req).inTransaction = req.inTransaction := by
    simp [polardbCollect, hpolar]
  unfold PlansReader
  rw [(polardbPlan_of_reachesReader hreaches).1 ((collect_mode hpolar).trans hmode), planEventual,
    hin]
  cases htxn : req.inTransaction with
  | true =>
      rw [if_pos rfl]
      refine iff_of_false (not_targetsReader_of_ne (collect_hgSeparated hpolar hapart).writer) ?_
      intro h
      rw [h.noTransaction] at htxn
      cases htxn
  | false =>
      rw [if_neg Bool.false_ne_true]
      exact iff_of_true ⟨hreaches.readerHg, rfl⟩ ⟨heligible, hmode, htxn⟩

/-- The requests that are planned for the reader -/
theorem plansReader_iff
    (hapart : HgApart s currentHg hgConfig) :
    PlansReader env s vars currentHg hgConfig req ↔
      EventualReaderRoute s vars hgConfig req ∨
        LsnReaderRoute env s vars currentHg hgConfig req := by
  constructor
  · intro h
    have hpolar := plansReader_polar h
    obtain ⟨hreaches, hmode⟩ := polardbPlan_reader (collect_hgSeparated hpolar hapart) h
    have heligible := (readerEligible_iff _ hpolar).mpr hreaches
    rw [collect_mode hpolar] at hmode
    rcases hmode with hmode | hmode
    · exact Or.inl ((eventualReaderRoute_iff heligible hapart hmode).mp h)
    · exact Or.inr ((lsnReaderRoute_iff heligible hapart hmode).mp h)
  · rintro (h | h)
    · exact (eventualReaderRoute_iff h.toReaderEligible hapart h.eventual).mpr h
    · exact (lsnReaderRoute_iff h.toReaderEligible hapart h.mode).mpr h

end Collect

/-- A PolarDB pair with writer hostgroup 0 and reader hostgroup 1. -/
def pairConfig : HgConfigSnapshot :=
  { isPolardbHostgroup := true, writerHostgroup := 0, readerHostgroup := 1, writerEpoch := 1 }

def twoStatements : Request :=
  { text := some "SELECT 1; SELECT 2".toList, command := .select }

theorem twoStatements_holdsSeveral : HoldsSeveralStatements "SELECT 1; SELECT 2".toList :=
  ⟨"SELECT 1".toList, [' '], 'S', "ELECT 2".toList, by decide, by decide, by decide, by decide⟩

/-- A `SELECT` that locks its row behind a comment in a comment -/
def hiddenClause : Request :=
  { text := some "SELECT 1 /* /* */ ' */ FROM t FOR UPDATE".toList, command := .select }

theorem hiddenClause_isLockingSelect : hiddenClause.IsLockingSelect :=
  ⟨_, [.word "SELECT".toList, .other, .word "FROM".toList, .word "t".toList, .word "FOR".toList,
    .word "UPDATE".toList], "SELECT".toList, rfl, by decide +kernel, rfl, by decide,
    [.word "SELECT".toList, .other, .word "FROM".toList, .word "t".toList],
    ["FOR".toList, "UPDATE".toList], [], ["for", "update"], rfl, by decide, by decide +kernel⟩

end PolarProxy
