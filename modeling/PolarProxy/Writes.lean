import PolarProxy.Aggregate

/-!
# No lost write

A write is not lost when the session afterwards knows its position, or knows
that it does not.  A simple result is attributed at once; an extended one is
deferred, and its RFQ is attributed to all results before the `Sync`.

The positioned path keeps the session position only for commands that may keep
it.  The zero and the missing path do not ask which command completed, so a write
whose RFQ asks to keep the session position leaves no trace there.

**Results.** `writer_result_consistency`, `no_lost_write`.
-/

namespace PolarProxy

open Transition Message

/-- A statement that is neither a read nor one of the commands for session
state and transaction control. -/
def WriteClass (text : Option (List Char)) (command : QueryCommand) : Prop :=
  shouldAdvanceSessionWriteLsn text command = true ∧
    zeroLsnPayloadCanSkipWaitTarget text = false ∧
      queryCommandCanPreserveSessionLsn command = false

/-- The RFQ carries a positive position. -/
def Backend.Positioned (b : Backend) : Prop :=
  b.payloadPresent = true ∧ 0 < b.lsn

instance (b : Backend) : Decidable b.Positioned :=
  inferInstanceAs (Decidable (_ ∧ _))

/-- The backend is the writer of the scope, and the scope is current. -/
def OnCurrentWriter (hgm : HgmView) (b : Backend) (scope : WriterScope) : Prop :=
  ∃ hg, 0 ≤ hg ∧ b.hostgroup = some hg ∧ hgm.polardbActive = true ∧
    (hgm.cachedConfig hg).isPolardbHostgroup = true ∧
      (hgm.cachedConfig hg).writerHostgroup = hg ∧ (hgm.cachedConfig hg).writerScope = scope ∧
        hgm.snapshotScope hg = some scope ∧ hgm.guardedScope hg = scope

/-- The session is served by PolarDB in a mode that waits on positions. -/
def Session.InLsnMode (s : Session) : Prop :=
  s.config.isPolardbEnabled = true ∧ s.query.profileEnabled = true ∧
    usesLsnWait (consistencyModeOrOff s.query.effectiveConsistencyMode) = true

/-- The write is not lost: its position is recorded, or known to be missing. -/
def Recorded (b : Backend) (c : SessionConsistency) : Prop :=
  (b.Positioned → b.lsn ≤ c.writeLsn) ∧ (¬ b.Positioned → c.writeUnknown = true)

/-! ## A result of the current writer -/

section Writer

variable {s : Session} {hgm : HgmView} {b : Backend}
variable {text : Option (List Char)} {isWrite canPreserve : Bool}

theorem OnCurrentWriter.valid
    {scope : WriterScope}
    (h : OnCurrentWriter hgm b scope) :
    scope.Valid := by
  obtain ⟨hg, hnonneg, -, -, -, hwriter, hscope, -⟩ := h
  rw [← hscope]
  change 0 ≤ (hgm.cachedConfig hg).writerHostgroup
  rw [hwriter]
  exact hnonneg

theorem OnCurrentWriter.fromWriter
    {scope : WriterScope}
    (h : OnCurrentWriter hgm b scope) :
    (s.resultContext hgm b text isWrite canPreserve).fromWriter = true := by
  obtain ⟨hg, hnonneg, hhg, -, hpolar, hwriter, -⟩ := h
  simp [ResultProcessContext.fromWriter, backendIsWriterHostgroup, Session.resultContext, hhg,
    hpolar, hwriter, hnonneg]

theorem OnCurrentWriter.matches
    (h : OnCurrentWriter hgm b s.query.requestWriterScope) :
    s.requestScopeMatchesCurrentWriter (s.resultContext hgm b text isWrite canPreserve) = true := by
  have hvalid := h.valid
  obtain ⟨hg, hnonneg, hhg, -, hpolar, hwriter, hscope, -⟩ := h
  simp [Session.requestScopeMatchesCurrentWriter, Session.resultContext, hhg, hpolar, hwriter,
    hscope, hnonneg, hvalid.matches_self]

theorem OnCurrentWriter.accepts
    (h : OnCurrentWriter hgm b s.query.requestWriterScope)
    (hlsn : b.lsn ≠ 0) :
    s.accepts hgm (s.resultContext hgm b text isWrite canPreserve) = true := by
  have hvalid := h.valid
  obtain ⟨hg, hnonneg, hhg, hactive, hpolar, -, -, hsnapshot, hguarded⟩ := h
  simp [Session.accepts, acceptRfqServerLsn, Session.resultContext, hhg, hpolar, hnonneg, hactive,
    hsnapshot, hguarded, hlsn, hvalid, hvalid.matches_self]

theorem rfqLsnPayloadState_of_positioned (h : b.Positioned) :
    rfqLsnPayloadState b.payloadPresent b.lsn = .positioned := by
  have hlsn : b.lsn ≠ 0 := Nat.pos_iff_ne_zero.mp h.2
  simp [rfqLsnPayloadState, h.1, hlsn]

theorem rfqLsnPayloadState_of_not_positioned (h : ¬ b.Positioned) :
    rfqLsnPayloadState b.payloadPresent b.lsn = .zero ∨
      rfqLsnPayloadState b.payloadPresent b.lsn = .missing := by
  unfold rfqLsnPayloadState
  split_ifs with hpayload hzero
  · exact Or.inr rfl
  · exact Or.inl rfl
  · exact absurd ⟨by simpa using hpayload, Nat.pos_of_ne_zero hzero⟩ h

/-- What a write on the current writer does to the positions. -/
theorem writer_result_consistency
    (hmode : s.InLsnMode)
    (hwriter : OnCurrentWriter hgm b s.query.requestWriterScope)
    (hskip : zeroLsnPayloadCanSkipWaitTarget text = false) :
    (s.processResultWithAttribution hgm (some b) text true canPreserve).consistency =
      if b.Positioned then
        if s.query.keepSessionLsn && canPreserve then
          s.consistency.rebound s.query.requestWriterScope
        else (s.consistency.rebound s.query.requestWriterScope).merge b.lsn true true
      else if s.query.keepSessionLsn then s.consistency.rebound s.query.requestWriterScope
      else { s.consistency.rebound s.query.requestWriterScope with writeUnknown := true } := by
  obtain ⟨henabled, hprofile, huses⟩ := hmode
  have hlsnMode : (s.resultContext hgm b text true canPreserve).lsnConsistencyMode = true := huses
  have hfrom : (s.resultContext hgm b text true canPreserve).fromWriter = true := hwriter.fromWriter
  have hmatches : s.requestScopeMatchesCurrentWriter
      (s.resultContext hgm b text true canPreserve) = true := hwriter.matches
  unfold Session.processResultWithAttribution
  simp only [henabled, hprofile, Bool.not_true, Bool.false_eq_true, if_false]
  by_cases hpositioned : b.Positioned
  · have haccepts : s.accepts hgm (s.resultContext hgm b text true canPreserve) = true :=
      hwriter.accepts (Nat.pos_iff_ne_zero.mp hpositioned.2)
    rw [if_pos hpositioned, rfqLsnPayloadState_of_positioned hpositioned]
    simp only
    rw [Session.processPositioned_consistency, haccepts, hfrom]
    simp only [Session.resultContext, Bool.not_true, Bool.false_eq_true, if_false, Bool.and_true]
  · rw [if_neg hpositioned]
    rcases rfqLsnPayloadState_of_not_positioned hpositioned with hstate | hstate
    · rw [hstate]
      simp only
      rw [Session.processZero_consistency, hmatches, hfrom, hlsnMode]
      cases hkeep : s.query.keepSessionLsn <;> simp [Session.resultContext, hskip]
    · rw [hstate]
      simp only
      rw [Session.processMissing_consistency, hmatches, hfrom, hlsnMode]
      cases hkeep : s.query.keepSessionLsn <;> simp [Session.resultContext]

theorem recorded_merge
    {c : SessionConsistency}
    (h : b.Positioned) :
    Recorded b (c.merge b.lsn true true) := by
  refine ⟨fun _ => ?_, fun hnot => absurd h hnot⟩
  exact Nat.le_max_right _ _

theorem recorded_of_not_keep
    (hmode : s.InLsnMode)
    (hwriter : OnCurrentWriter hgm b s.query.requestWriterScope)
    (hskip : zeroLsnPayloadCanSkipWaitTarget text = false)
    (hkeep : s.query.keepSessionLsn = false) :
    Recorded b
      (s.processResultWithAttribution hgm (some b) text true canPreserve).consistency := by
  rw [writer_result_consistency hmode hwriter hskip, hkeep]
  by_cases hpositioned : b.Positioned
  · rw [if_pos hpositioned]
    exact recorded_merge hpositioned
  · rw [if_neg hpositioned]
    exact ⟨fun h => absurd h hpositioned, fun _ => rfl⟩

/-- A write position unknown under a valid scope survives the rebind to that
scope, and no other unknown position does. -/
theorem rebound_writeUnknown_iff
    {c : SessionConsistency} {scope : WriterScope}
    (h : scope.Valid) :
    (c.rebound scope).writeUnknown = true ↔ c.writeUnknown = true ∧ c.writerScope = scope := by
  unfold SessionConsistency.rebound
  split
  · rename_i hsame
    rcases hsame with hinvalid | heq
    · exact absurd h hinvalid
    · simp [heq]
  · rename_i hother
    have hne : c.writerScope ≠ scope := fun heq => hother (Or.inr heq)
    simp [hne]

theorem recorded_iff
    {command : QueryCommand}
    (hclass : WriteClass text command)
    (hmode : s.InLsnMode)
    (hwriter : OnCurrentWriter hgm b s.query.requestWriterScope) :
    Recorded b (s.processResult hgm (some b) text command).consistency ↔
      s.query.keepSessionLsn = false ∨ b.Positioned ∨
        (s.consistency.writeUnknown = true ∧
          s.consistency.writerScope = s.query.requestWriterScope) := by
  obtain ⟨hwrite, hskip, hpreserve⟩ := hclass
  unfold Session.processResult
  rw [hwrite, hpreserve]
  cases hkeep : s.query.keepSessionLsn with
  | false =>
      exact iff_of_true (recorded_of_not_keep hmode hwriter hskip hkeep) (Or.inl rfl)
  | true =>
      rw [writer_result_consistency hmode hwriter hskip, hkeep]
      by_cases hpositioned : b.Positioned
      · rw [if_pos hpositioned]
        exact iff_of_true (recorded_merge hpositioned) (Or.inr (Or.inl hpositioned))
      · rw [if_neg hpositioned, ← rebound_writeUnknown_iff hwriter.valid]
        simp [Recorded, hpositioned]

end Writer

/-! ## Deferred writes -/

theorem prepareDeferred_query
    {s : Session}
    (hpending : s.extendedRfq.pending = true) :
    s.prepareDeferredExtendedRfq.query =
      { requestWriterScope := if s.extendedRfq.scopeConsistent then s.extendedRfq.writerScope else {}
        effectiveConsistencyMode := s.extendedRfq.effectiveConsistencyMode
        profileEnabled := s.extendedRfq.profileEnabled
        waitBypassTarget := s.extendedRfq.confirmedReadTarget } := by
  unfold Session.prepareDeferredExtendedRfq
  simp only
  rw [if_neg (by simp [hpending])]
  rfl

/-- The RFQ of a `Sync` whose messages ran under one scope records a deferred
write of that scope. -/
theorem recorded_deferred
    {L : SyncLedger} {m : Message} {hgm : HgmView} {b : Backend}
    (h : L.Spec)
    (hm : m ∈ L.deferred)
    (hwrite : m.isWrite = true)
    (hmode : m.inLsnMode = true)
    (henabled : L.session.config.isPolardbEnabled = true)
    (hone : OneScope L.published)
    (hwriter : OnCurrentWriter hgm b m.writerScope) :
    Recorded b
      ((L.after .prepareDeferred).after
        (.processDeferred hgm (some b))).session.consistency := by
  have hany : L.deferred.any Message.isWrite = true := List.any_eq_true.mpr ⟨m, hm, hwrite⟩
  obtain ⟨hpending, hsaw⟩ := h.pending_of_write hany
  have hcons : L.session.extendedRfq.scopeConsistent = true := h.scopeConsistent_iff.mpr hone
  have hpublished := h.subset m hm
  have hscope : m.writerScope = L.session.extendedRfq.writerScope :=
    (h.consistent hcons (List.ne_nil_of_mem hpublished)).2 m hpublished
  obtain ⟨hprofile, huses⟩ := h.lsnMode m hpublished hmode
  have hquery := prepareDeferred_query hpending
  have hrecord : L.session.prepareDeferredExtendedRfq.extendedRfq = L.session.extendedRfq :=
    Session.prepareDeferred_extendedRfq
  have hwriter' : OnCurrentWriter hgm b
      L.session.prepareDeferredExtendedRfq.query.requestWriterScope := by
    rw [hquery]
    simp only [hcons, if_true]
    rw [← hscope]
    exact hwriter
  have hlsn : L.session.prepareDeferredExtendedRfq.InLsnMode := by
    refine ⟨Session.prepareDeferred_config.symm ▸ henabled, ?_, ?_⟩
    · rw [hquery]
      exact hprofile
    · rw [hquery, consistencyModeOrOff_eq]
      exact huses
  have hkeep : L.session.prepareDeferredExtendedRfq.query.keepSessionLsn = false := by rw [hquery]
  have hattributed : Recorded b
      (L.session.prepareDeferredExtendedRfq.processResultWithAttribution hgm (some b) none true
        L.session.extendedRfq.canPreserveSessionLsn).consistency :=
    recorded_of_not_keep hlsn hwriter' rfl hkeep
  have hprocess := Session.processDeferred_consistent (hrecord ▸ hpending) (hrecord ▸ hcons) hgm
    (some b)
  rw [hrecord, hsaw] at hprocess
  rw [← hprocess] at hattributed
  exact hattributed

/-- In every run: a simple write of the current writer is recorded exactly when
its result does not meet the keep flag, carries a position or finds the position
already unknown; a deferred write is recorded by the RFQ of its `Sync`, or known to
be unknown when the `Sync` spans several scopes; and a deferred write that is given
up is known to be unknown. -/
theorem no_lost_write
    {s : Session} {ls : List SessionEvent} {L : SyncLedger}
    (hfresh : s.extendedRfq = {})
    (hrun : Run LedgerStep { session := s } ls L) :
    (∀ hgm b text command,
      WriteClass text command → L.session.InLsnMode →
        OnCurrentWriter hgm b L.session.query.requestWriterScope →
          (Recorded b (L.after (.result hgm (some b) text command)).session.consistency ↔
            L.session.query.keepSessionLsn = false ∨ b.Positioned ∨
              (L.session.consistency.writeUnknown = true ∧
                L.session.consistency.writerScope = L.session.query.requestWriterScope))) ∧
      (∀ m ∈ L.deferred, m.isWrite = true →
        (∀ hgm b, m.inLsnMode = true → L.session.config.isPolardbEnabled = true →
          OnCurrentWriter hgm b m.writerScope →
            (OneScope L.published →
              Recorded b
                ((L.after .prepareDeferred).after
                  (.processDeferred hgm (some b))).session.consistency) ∧
              (¬ OneScope L.published →
                ((L.after .prepareDeferred).after
                  (.processDeferred hgm (some b))).session.consistency.writeUnknown = true)) ∧
          (∀ e, (∀ hgm conn, e ≠ .processDeferred hgm conn) →
            m ∈ (L.after e).deferred ∨
              (L.after e).session.consistency.writeUnknown = true)) := by
  have hspec := recordSpec_run hfresh hrun
  refine ⟨fun hgm b text command hclass hmode hwriter => recorded_iff hclass hmode hwriter,
    fun m hm hwrite => ⟨fun hgm b hmode henabled hwriter => ⟨fun hone => ?_, fun hmixed => ?_⟩,
      fun e hother => deferred_write_kept hspec hm hwrite hother⟩⟩
  · exact recorded_deferred hspec hm hwrite hmode henabled hone hwriter
  · have hany : L.deferred.any Message.isWrite = true := List.any_eq_true.mpr ⟨m, hm, hwrite⟩
    obtain ⟨hpending, hsaw⟩ := hspec.pending_of_write hany
    have hrecord : L.session.prepareDeferredExtendedRfq.extendedRfq = L.session.extendedRfq :=
      Session.prepareDeferred_extendedRfq
    have hcons : L.session.extendedRfq.scopeConsistent = false :=
      eq_false_of_ne_true fun h => hmixed (hspec.scopeConsistent_iff.mp h)
    exact Session.processDeferred_mixed (hrecord ▸ hpending) (hrecord ▸ hsaw) (hrecord ▸ hcons)
      hgm (some b)

theorem no_lost_write_flushed :
    Recorded positionedWriter
      ((flushedUpdate.after .prepareDeferred).after
        (.processDeferred (writerAtEpoch 1) (some positionedWriter))).session.consistency := by
  have hrun : Run LedgerStep { session := executingSession }
      [.deferResult (some positionedWriter) none (.other 2)] flushedUpdate := Run.single rfl
  obtain ⟨-, hdeferred⟩ := no_lost_write rfl hrun
  have hwriter : OnCurrentWriter (writerAtEpoch 1) positionedWriter { hg := 0, epoch := 1 } :=
    ⟨0, by decide, rfl, rfl, rfl, rfl, rfl, rfl, rfl⟩
  obtain ⟨hsync, -⟩ := hdeferred _ (List.mem_singleton_self _) rfl
  refine (hsync (writerAtEpoch 1) positionedWriter rfl rfl hwriter).1 ⟨{ hg := 0, epoch := 1 }, ?_⟩
  exact ⟨by decide, fun m hm => by rw [List.mem_singleton.mp hm]; rfl⟩

/-- The writer reports an open transaction without a transaction identifier and
a zero position. -/
def unwrittenTransaction : Backend :=
  { hostgroup := some 0
    payloadPresent := true
    txnStatus := 'T'
    txnXids := some ""
    txnSplittable := true }

/-- The session after its client RFQ was prepared, with the keep flag set. -/
def keptSession : SyncLedger :=
  SyncLedger.after
    { session :=
        { executingSession with consistency := { writerScope := { hg := 0, epoch := 1 } } } }
    (.publish
      { hgm := writerAtEpoch 1, conn := some unwrittenTransaction, payloadPresent := true })

/-- An `UPDATE` whose RFQ carries a zero position leaves neither a position nor
the unknown flag. -/
theorem zero_position_update_lost :
    Run LedgerStep
        { session :=
            { executingSession with consistency := { writerScope := { hg := 0, epoch := 1 } } } }
        [.publish
          { hgm := writerAtEpoch 1, conn := some unwrittenTransaction, payloadPresent := true }]
        keptSession ∧
      WriteClass (some "UPDATE t SET a = 1".toList) (.other 2) ∧
      keptSession.session.InLsnMode ∧
      OnCurrentWriter (writerAtEpoch 1) unwrittenTransaction
        keptSession.session.query.requestWriterScope ∧
      ¬ Recorded unwrittenTransaction
        (keptSession.after
          (.result (writerAtEpoch 1) (some unwrittenTransaction)
            (some "UPDATE t SET a = 1".toList) (.other 2))).session.consistency := by
  refine ⟨Run.single rfl, ⟨by decide, by decide, by decide⟩, ⟨by decide, by decide, by decide⟩,
    ⟨0, by decide, rfl, rfl, rfl, rfl, rfl, rfl, rfl⟩, ?_⟩
  rintro ⟨-, hunknown⟩
  exact absurd (hunknown (by decide)) (by decide)

end PolarProxy
