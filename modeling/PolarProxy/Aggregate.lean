import PolarProxy.Ledger
import PolarProxy.Positions

/-!
# Aggregation behind one `ReadyForQuery`

What the deferred record says about the messages it stands for, in every order
of deferral, preparation, attribution, publication and abandonment.

**Results.** `RecordSpec.scopeConsistent_iff`, `deferred_record_aggregates`.
-/

namespace PolarProxy

open Transition Message

/-- The record knows whether its messages ran under one valid scope. -/
theorem RecordSpec.scopeConsistent_iff
    {d : ExtendedRfqState} {published deferred : List Message}
    (h : RecordSpec d published deferred) :
    d.scopeConsistent = true ↔ OneScope published := by
  constructor
  · intro hcons
    by_cases hne : published = []
    · exact ⟨{ hg := 0 }, by decide, by simp [hne]⟩
    · obtain ⟨hvalid, hall⟩ := h.consistent hcons hne
      exact ⟨d.writerScope, hvalid, hall⟩
  · intro hone
    by_contra hnot
    exact h.mixed (eq_false_of_ne_true hnot) hone

namespace Session

variable {s : Session}

@[simp]
theorem prepareDeferred_extendedRfq : s.prepareDeferredExtendedRfq.extendedRfq = s.extendedRfq := by
  unfold prepareDeferredExtendedRfq
  simp only
  split <;> rfl

@[simp]
theorem prepareDeferred_consistency : s.prepareDeferredExtendedRfq.consistency = s.consistency := by
  unfold prepareDeferredExtendedRfq
  simp only
  split <;> rfl

theorem prepareDeferred_config : s.prepareDeferredExtendedRfq.config = s.config := by
  unfold prepareDeferredExtendedRfq
  simp only
  split <;> rfl

/-- A write among messages of several scopes has no position. -/
theorem processDeferred_mixed
    (hpending : s.extendedRfq.pending = true)
    (hwrite : s.extendedRfq.sawWrite = true)
    (hmixed : s.extendedRfq.scopeConsistent = false)
    (hgm : HgmView)
    (conn : Option Backend) :
    (s.processDeferredExtendedRfq hgm conn).consistency.writeUnknown = true := by
  simp [processDeferredExtendedRfq, hpending, hwrite, hmixed]

theorem processDeferred_consistent
    (hpending : s.extendedRfq.pending = true)
    (hcons : s.extendedRfq.scopeConsistent = true)
    (hgm : HgmView)
    (conn : Option Backend) :
    (s.processDeferredExtendedRfq hgm conn).consistency =
      (s.processResultWithAttribution hgm conn none s.extendedRfq.sawWrite
        s.extendedRfq.canPreserveSessionLsn).consistency := by
  simp [processDeferredExtendedRfq, hpending, hcons]

end Session

theorem SyncLedger.Spec.pending_of_write
    {L : SyncLedger}
    (h : L.Spec)
    (hwrite : L.deferred.any Message.isWrite = true) :
    L.session.extendedRfq.pending = true ∧ L.session.extendedRfq.sawWrite = true := by
  refine ⟨?_, h.sawWrite.trans hwrite⟩
  by_contra hnot
  rw [h.attributed (eq_false_of_ne_true hnot)] at hwrite
  cases hwrite

/-- In every run: the confirmed target is the largest of the messages' when
they ran under one valid scope and zero otherwise; the write flag is the
disjunction over the results that wait for their RFQ; a record with both flags
clear is empty; a deferred write leaves the write position unknown when the
scopes differ or it is given up, and is skipped with its RFQ when its one scope is
no longer current. -/
theorem deferred_record_aggregates
    {s : Session} {ls : List SessionEvent} {L : SyncLedger}
    (hfresh : s.extendedRfq = {})
    (hrun : Run LedgerStep { session := s } ls L) :
    (¬ OneScope L.published → L.session.extendedRfq.confirmedReadTarget = 0) ∧
      (OneScope L.published →
        L.session.extendedRfq.confirmedReadTarget = maxTarget L.published) ∧
      L.session.extendedRfq.sawWrite = L.deferred.any Message.isWrite ∧
      (L.session.extendedRfq.pending = false → L.session.extendedRfq.publicationPending = false →
        L.session.extendedRfq = {}) ∧
      (L.deferred.any Message.isWrite = true →
        (L.after .abandon).session.consistency.writeUnknown = true ∧
        (¬ OneScope L.published → ∀ hgm conn,
          (L.after (.processDeferred hgm conn)).session.consistency.writeUnknown = true) ∧
        (OneScope L.published → ∀ hgm b,
          ¬ (L.after .prepareDeferred).session.EvidenceCurrent hgm b →
            ((L.after .prepareDeferred).after
              (.processDeferred hgm (some b))).session.consistency = L.session.consistency)) := by
  have hspec := recordSpec_run hfresh hrun
  have hiff := hspec.scopeConsistent_iff
  refine ⟨fun hmixed => ?_, fun hone => ?_, hspec.sawWrite,
    fun hp hq => (hspec.closed hp hq).1, fun hwrite => ?_⟩
  · rw [hspec.confirmed, if_neg (fun h => hmixed (hiff.mp h))]
  · rw [hspec.confirmed, if_pos (hiff.mpr hone)]
  · obtain ⟨hpending, hsaw⟩ := hspec.pending_of_write hwrite
    refine ⟨Session.abandon_writeUnknown hpending hsaw, fun hmixed hgm conn => ?_,
      fun hone hgm b hforeign => ?_⟩
    · exact Session.processDeferred_mixed hpending hsaw
        (eq_false_of_ne_true fun h => hmixed (hiff.mp h)) hgm conn
    · have hcons : L.session.prepareDeferredExtendedRfq.extendedRfq.scopeConsistent = true := by
        rw [Session.prepareDeferred_extendedRfq]
        exact hiff.mpr hone
      have hpending' : L.session.prepareDeferredExtendedRfq.extendedRfq.pending = true := by
        rw [Session.prepareDeferred_extendedRfq]
        exact hpending
      calc ((L.after .prepareDeferred).after (.processDeferred hgm (some b))).session.consistency
          = (L.session.prepareDeferredExtendedRfq.processResultWithAttribution hgm (some b) none
              L.session.prepareDeferredExtendedRfq.extendedRfq.sawWrite
              L.session.prepareDeferredExtendedRfq.extendedRfq.canPreserveSessionLsn).consistency :=
            Session.processDeferred_consistent hpending' hcons hgm (some b)
        _ = L.session.prepareDeferredExtendedRfq.consistency :=
            Session.processResult_consistency_of_foreign hforeign
        _ = L.session.consistency := Session.prepareDeferred_consistency

/-- A pair of hostgroups 0 and 1 whose writer is at the given epoch. -/
def writerAtEpoch (epoch : Nat) : HgmView :=
  { cachedConfig := fun _ =>
      { isPolardbHostgroup := true, writerHostgroup := 0, readerHostgroup := 1, writerEpoch := epoch }
    snapshotScope := fun _ => some { hg := 0, epoch := epoch }
    guardedScope := fun _ => { hg := 0, epoch := epoch } }

/-- A session that executes a statement under the first epoch. -/
def executingSession : Session :=
  { config := { isPolardbEnabled := true }
    query :=
      { requestWriterScope := { hg := 0, epoch := 1 }
        effectiveConsistencyMode := 1
        profileEnabled := true } }

def positionedWriter : Backend :=
  { hostgroup := some 0, lsn := 90, payloadPresent := true }

/-- An `UPDATE` was flushed and waits for its RFQ. -/
def flushedUpdate : SyncLedger :=
  SyncLedger.after { session := executingSession } (.deferResult (some positionedWriter) none (.other 2))

/-- The ledger after some events -/
def SyncLedger.afterAll (events : List SessionEvent) : SyncLedger :=
  events.foldl SyncLedger.after { session := executingSession }

theorem SyncLedger.run_afterAll (events : List SessionEvent) :
    Run LedgerStep { session := executingSession } events (afterAll events) := by
  induction events using List.reverseRecOn with
  | nil =>
      exact .nil
  | append_singleton events e ih =>
      rw [afterAll, List.foldl_append]
      exact ih.snoc rfl

/-- A message whose reader has reached its target, and the end of it in a frame that goes on -/
def readAndDefer (target : Nat) (text : Option (List Char)) (command : QueryCommand) :
    List SessionEvent :=
  [.selectReader { type := .lsn, target := target } true 0 0,
    .deferResult (some positionedWriter) text command, .queryEnd {} none false false true]

/-- An `UPDATE` and a read with a smaller target -/
def twoTargets : SyncLedger :=
  SyncLedger.afterAll (readAndDefer 70 none (.other 2) ++ readAndDefer 40 (some ['S']) .select)

/-- The same, with the second epoch before the read -/
def twoScopes : SyncLedger :=
  SyncLedger.afterAll (readAndDefer 70 none (.other 2) ++
    .capture {} none 0 ((writerAtEpoch 2).cachedConfig 0) :: readAndDefer 40 (some ['S']) .select)

theorem deferred_record_aggregates_twoMessages :
    twoTargets.published.map Message.confirmedTarget = [70, 40] ∧
      twoTargets.session.extendedRfq.confirmedReadTarget = 70 ∧
      twoTargets.session.extendedRfq.sawWrite = true ∧
      (twoTargets.after .abandon).session.consistency.writeUnknown = true ∧
      twoScopes.published.map (fun m => m.writerScope.epoch) = [1, 2] ∧
      twoScopes.session.extendedRfq.confirmedReadTarget = 0 ∧
      ∀ hgm conn, (twoScopes.after (.processDeferred hgm conn)).session.consistency.writeUnknown =
        true := by
  obtain ⟨-, hmax, hsaw, -, hwrite⟩ := deferred_record_aggregates rfl
    (SyncLedger.run_afterAll (readAndDefer 70 none (.other 2) ++ readAndDefer 40 (some ['S']) .select))
  obtain ⟨hzero, -, -, -, hmixed⟩ := deferred_record_aggregates rfl
    (SyncLedger.run_afterAll (readAndDefer 70 none (.other 2) ++
      .capture {} none 0 ((writerAtEpoch 2).cachedConfig 0) :: readAndDefer 40 (some ['S']) .select))
  have hone : OneScope twoTargets.published := ⟨{ hg := 0, epoch := 1 }, by decide, by decide⟩
  have htwo : ¬ OneScope twoScopes.published := by
    rintro ⟨scope, -, hall⟩
    have hfirst : scope = { hg := 0, epoch := 1 } := (hall (twoScopes.published.head (by decide))
      (List.head_mem _)).symm.trans (by decide)
    have hlast : scope = { hg := 0, epoch := 2 } := (hall (twoScopes.published.getLast (by decide))
      (List.getLast_mem _)).symm.trans (by decide)
    rw [hfirst] at hlast
    revert hlast
    decide
  exact ⟨by decide, (hmax hone).trans (by decide), hsaw.trans (by decide), (hwrite (by decide)).1,
    by decide, hzero htwo, (hmixed (by decide)).2.1 htwo⟩

/-- The scope of a flushed `UPDATE` is replaced before its RFQ is attributed,
and the write position is not marked unknown. -/
theorem stale_deferred_write_not_marked :
    Run LedgerStep { session := executingSession }
        [.deferResult (some positionedWriter) none (.other 2)] flushedUpdate ∧
      flushedUpdate.deferred.any Message.isWrite = true ∧
      ¬ (flushedUpdate.after .prepareDeferred).session.EvidenceCurrent (writerAtEpoch 2)
        positionedWriter ∧
      ((flushedUpdate.after .prepareDeferred).after
        (.processDeferred (writerAtEpoch 2)
          (some positionedWriter))).session.consistency.writeUnknown = false := by
  refine ⟨Run.single rfl, by decide, ?_, by decide⟩
  rintro ⟨hg, hhg, -, hscope⟩
  cases hhg
  revert hscope
  decide

end PolarProxy
