import PolarProxy.Events

/-!
# Session positions per writer scope

Many operations touch the positions of a session: an observation rebinds them,
an activation marks them unknown, a result merges into them, a deferred result
is merged or given up later.  `PositionMove` lists everything one operation can
do to them; every invariant of the positions is then a short induction.

**Results.** `SessionEvent.positionMove`, `session_lsn_monotone_per_scope`.
-/

namespace PolarProxy

open Transition

/-- The RFQ an operation merges into the positions. -/
def SessionEvent.rfq : SessionEvent → Option (HgmView × Backend)
  | .result hgm (some b) _ _ => some (hgm, b)
  | .processDeferred hgm (some b) => some (hgm, b)
  | _ => none

namespace Session

/-- The scope an RFQ is tagged with, the one of its request, is a scope the
hostgroup manager reports for the group of the backend. -/
def EvidenceCurrent (s : Session) (hgm : HgmView) (b : Backend) : Prop :=
  ∃ hg, b.hostgroup = some hg ∧ s.query.requestWriterScope.Valid ∧
    (hgm.snapshotScope hg = some s.query.requestWriterScope ∨
      (hgm.cachedConfig hg).writerScope = s.query.requestWriterScope)

/-- The position of an RFQ is accepted for its request. -/
def AcceptsLsn (s : Session) (hgm : HgmView) (b : Backend) : Prop :=
  ∃ hg, b.hostgroup = some hg ∧ b.payloadPresent = true ∧ 0 < b.lsn ∧
    acceptRfqServerLsn hgm hg b.lsn s.query.requestWriterScope = true

/-- An accepted position carries the scope read from the hostgroup manager. -/
theorem acceptRfqServerLsn_scope
    {hgm : HgmView} {hg : Int} {lsn : Nat} {scope : WriterScope}
    (h : acceptRfqServerLsn hgm hg lsn scope = true) :
    scope.Valid ∧ hgm.snapshotScope hg = some scope := by
  unfold acceptRfqServerLsn at h
  simp only [Bool.and_eq_true, decide_eq_true_eq] at h
  obtain ⟨⟨⟨-, hvalid⟩, hsnapshot⟩, -⟩ := h
  refine ⟨hvalid, ?_⟩
  cases hscope : hgm.snapshotScope hg with
  | none =>
      simp [hscope] at hsnapshot
  | some current =>
      rw [hscope] at hsnapshot
      rw [(of_decide_eq_true hsnapshot).eq]

theorem AcceptsLsn.evidenceCurrent
    {s : Session} {hgm : HgmView} {b : Backend}
    (h : s.AcceptsLsn hgm b) :
    s.EvidenceCurrent hgm b := by
  obtain ⟨hg, hhg, -, -, haccept⟩ := h
  obtain ⟨hvalid, hscope⟩ := acceptRfqServerLsn_scope haccept
  exact ⟨hg, hhg, hvalid, Or.inl hscope⟩

end Session

/-- Everything one operation can do to the positions of a session. -/
inductive PositionMove (s : Session) (e : SessionEvent) : SessionConsistency → Prop
  | same : PositionMove s e s.consistency
  | bind (scope : WriterScope) :
      e.rfq = none →
      PositionMove s e (s.consistency.rebound scope)
  | bindRequest (hgm : HgmView) (b : Backend) :
      e.rfq = some (hgm, b) →
      s.EvidenceCurrent hgm b →
      PositionMove s e (s.consistency.rebound s.query.requestWriterScope)
  | merge (hgm : HgmView) (b : Backend) (fromWriter isWrite : Bool) :
      e.rfq = some (hgm, b) →
      s.AcceptsLsn hgm b →
      (fromWriter = true → ∀ hg, b.hostgroup = some hg → (hgm.cachedConfig hg).writerHostgroup = hg) →
      PositionMove s e
        ((s.consistency.rebound s.query.requestWriterScope).merge b.lsn fromWriter isWrite)
  | writeUnknown {c : SessionConsistency} :
      PositionMove s e c →
      PositionMove s e { c with writeUnknown := true }
  | observedUnknown {c : SessionConsistency} :
      PositionMove s e c →
      PositionMove s e { c with observedUnknown := true }

/-! ## Every operation is a move -/

namespace PositionMove

variable {s : Session} {e : SessionEvent}

theorem of_eq
    {c : SessionConsistency}
    (h : c = s.consistency) :
    PositionMove s e c :=
  h ▸ same

theorem activated
    {c : SessionConsistency}
    (h : PositionMove s e c)
    (crossed : Bool) :
    PositionMove s e (c.activated crossed) := by
  cases crossed with
  | true =>
      exact writeUnknown h
  | false =>
      exact h

end PositionMove

namespace Session

variable {s : Session} {hgm : HgmView} {b : Backend}
variable {text : Option (List Char)} {isWrite canPreserve : Bool}

/-- A request scope that passed the check of a zero or missing position. -/
theorem evidenceCurrent_of_matches
    (h : s.requestScopeMatchesCurrentWriter
      (s.resultContext hgm b text isWrite canPreserve) = true) :
    s.EvidenceCurrent hgm b := by
  unfold requestScopeMatchesCurrentWriter resultContext at h
  simp only [Bool.and_eq_true, decide_eq_true_eq] at h
  obtain ⟨-, hmatch⟩ := h
  cases hhg : b.hostgroup with
  | none =>
      rw [hhg] at hmatch
      exact absurd hmatch.2.1 (show ¬ ({} : HgConfigSnapshot).writerScope.Valid by decide)
  | some hg =>
      rw [hhg] at hmatch
      exact ⟨hg, hhg, hmatch.valid, Or.inr hmatch.eq.symm⟩

theorem acceptsLsn_of_accepts
    (hpayload : b.payloadPresent = true)
    (hlsn : b.lsn ≠ 0)
    (h : s.accepts hgm (s.resultContext hgm b text isWrite canPreserve) = true) :
    s.AcceptsLsn hgm b := by
  unfold accepts resultContext at h
  simp only [Bool.and_eq_true, decide_eq_true_eq] at h
  obtain ⟨⟨-, hpolar⟩, haccept⟩ := h
  cases hhg : b.hostgroup with
  | none =>
      rw [hhg] at hpolar
      simp at hpolar
  | some hg =>
      rw [hhg] at haccept
      exact ⟨hg, hhg, hpayload, Nat.pos_of_ne_zero hlsn, haccept⟩

theorem writerHostgroup_of_fromWriter
    (h : (s.resultContext hgm b text isWrite canPreserve).fromWriter = true)
    {hg : Int}
    (hhg : b.hostgroup = some hg) :
    (hgm.cachedConfig hg).writerHostgroup = hg := by
  unfold ResultProcessContext.fromWriter backendIsWriterHostgroup resultContext at h
  simp only [hhg, Option.getD_some, Bool.and_eq_true, decide_eq_true_eq] at h
  exact h.2.symm

theorem positioned_of_payloadState
    {payloadPresent : Bool} {lsn : Nat}
    (h : rfqLsnPayloadState payloadPresent lsn = .positioned) :
    payloadPresent = true ∧ lsn ≠ 0 := by
  unfold rfqLsnPayloadState at h
  split_ifs at h with hpayload hzero
  exact ⟨by simpa using hpayload, hzero⟩

theorem processResult_positionMove
    {e : SessionEvent} {conn : Option Backend}
    (hrfq : ∀ b, conn = some b → e.rfq = some (hgm, b)) :
    PositionMove s e
      (s.processResultWithAttribution hgm conn text isWrite canPreserve).consistency := by
  unfold processResultWithAttribution
  cases conn with
  | none =>
      exact PositionMove.same
  | some b =>
      have hevent := hrfq b rfl
      simp only
      split_ifs
      · exact PositionMove.same
      · exact PositionMove.same
      cases hstate : rfqLsnPayloadState b.payloadPresent b.lsn with
      | positioned =>
          have hposition := positioned_of_payloadState hstate
          simp only
          rw [processPositioned_consistency]
          split_ifs with haccept hkeep
          · exact PositionMove.same
          · have haccepts := acceptsLsn_of_accepts hposition.1 hposition.2 (by simpa using haccept)
            exact PositionMove.bindRequest hgm b hevent haccepts.evidenceCurrent
          · have haccepts := acceptsLsn_of_accepts hposition.1 hposition.2 (by simpa using haccept)
            exact PositionMove.merge hgm b _ _ hevent haccepts
              (fun hwriter hg hhg => writerHostgroup_of_fromWriter hwriter hhg)
      | zero =>
          simp only
          rw [processZero_consistency]
          split_ifs with hmatch
          · exact PositionMove.same
          · exact (PositionMove.bindRequest hgm b hevent
              (evidenceCurrent_of_matches (by simpa using hmatch))).writeUnknown
          · exact PositionMove.bindRequest hgm b hevent
              (evidenceCurrent_of_matches (by simpa using hmatch))
      | missing =>
          simp only
          rw [processMissing_consistency]
          split_ifs with hmatch
          · exact PositionMove.same
          all_goals
            have hbind := PositionMove.bindRequest hgm b hevent
              (evidenceCurrent_of_matches (by simpa using hmatch))
          · exact hbind
          · exact hbind.writeUnknown
          · exact hbind.observedUnknown
          · exact hbind

/-- A result whose scope is not current leaves the session's positions alone. -/
theorem processResult_consistency_of_foreign
    (h : ¬ s.EvidenceCurrent hgm b) :
    (s.processResultWithAttribution hgm (some b) text isWrite canPreserve).consistency =
      s.consistency := by
  have hmatch : s.requestScopeMatchesCurrentWriter
      (s.resultContext hgm b text isWrite canPreserve) = false :=
    eq_false_of_ne_true fun hm => h (evidenceCurrent_of_matches hm)
  unfold processResultWithAttribution
  simp only
  split_ifs
  · rfl
  · rfl
  cases hstate : rfqLsnPayloadState b.payloadPresent b.lsn with
  | positioned =>
      have hposition := positioned_of_payloadState hstate
      have haccept : s.accepts hgm (s.resultContext hgm b text isWrite canPreserve) = false :=
        eq_false_of_ne_true fun ha =>
          h (acceptsLsn_of_accepts hposition.1 hposition.2 ha).evidenceCurrent
      simp only
      rw [processPositioned_consistency, haccept]
      rfl
  | zero =>
      simp only
      rw [processZero_consistency, hmatch]
      rfl
  | missing =>
      simp only
      rw [processMissing_consistency, hmatch]
      rfl

theorem abandon_positionMove {e : SessionEvent} :
    PositionMove s e s.abandonDeferredExtendedRfq.consistency := by
  unfold abandonDeferredExtendedRfq
  simp only
  split
  · exact PositionMove.same.writeUnknown
  · exact PositionMove.same

theorem failRequest_positionMove {e : SessionEvent} (failure waiting : Bool) :
    PositionMove s e (s.failRequest failure waiting).consistency := by
  unfold failRequest failDeferred
  simp only
  split_ifs
  · exact PositionMove.same.writeUnknown
  · exact PositionMove.same
  · exact abandon_positionMove
  · exact PositionMove.same
  · exact PositionMove.same

theorem processDeferred_positionMove {conn : Option Backend} :
    PositionMove s (.processDeferred hgm conn)
      (s.processDeferredExtendedRfq hgm conn).consistency := by
  have hresult : PositionMove s (.processDeferred hgm conn)
      (s.processResultWithAttribution hgm conn none s.extendedRfq.sawWrite
        s.extendedRfq.canPreserveSessionLsn).consistency := by
    refine processResult_positionMove (fun b hb => ?_)
    rw [hb]
    rfl
  unfold processDeferredExtendedRfq
  simp only
  split_ifs
  · exact PositionMove.same
  · exact hresult.writeUnknown
  · exact hresult.writeUnknown
  · exact hresult
  · exact hresult

end Session

/-- Every operation is a move of the positions. -/
theorem SessionEvent.positionMove (s : Session) (e : SessionEvent) :
    PositionMove s e (e.apply s).1.consistency := by
  cases e with
  | observe vars generation currentHg hgConfig req =>
      simp only [SessionEvent.apply, Session.observe_consistency]
      split
      · exact (PositionMove.bind _ rfl).activated _
      · exact PositionMove.same
  | capture vars generation scopeHg hgConfig =>
      rcases s.capture_consistency vars generation scopeHg hgConfig with hsame | hbound
      · exact PositionMove.of_eq hsame
      · simp only [SessionEvent.apply, hbound]
        exact (PositionMove.bind _ rfl).activated _
  | rebind scope =>
      simp only [SessionEvent.apply, Session.rebind_consistency]
      exact PositionMove.bind scope rfl
  | activate generation =>
      simp only [SessionEvent.apply, Session.activate_consistency]
      exact PositionMove.same.activated _
  | selectReader spec reached now fallback =>
      refine PositionMove.of_eq ?_
      simp only [SessionEvent.apply, Session.finishReaderWaitSelection]
      split_ifs <;> rfl
  | finalizeWrapper =>
      exact PositionMove.same
  | notice active wrapper =>
      exact PositionMove.of_eq (s.notice_consistency active wrapper)
  | error wrapped timeout =>
      exact PositionMove.of_eq (s.error_consistency wrapped timeout)
  | finish hgm conn =>
      refine PositionMove.of_eq ?_
      simp only [SessionEvent.apply, Session.finishWait_fst]
  | publish p =>
      obtain ⟨keep, hfst⟩ := s.prepareClientReadyLsn_fst p.hgm p.conn p.payloadPresent p.lsn
        p.processingClientQuery p.policy
      refine PositionMove.of_eq ?_
      simp only [SessionEvent.apply, hfst]
  | result hgm conn text command =>
      refine Session.processResult_positionMove (fun b hb => ?_)
      rw [hb]
      rfl
  | deferResult _ _ _ | retainPublication _ =>
      exact PositionMove.same
  | retainEvidence hgm conn =>
      refine PositionMove.of_eq ?_
      simp only [SessionEvent.apply]
      split <;> rfl
  | prepareDeferred =>
      refine PositionMove.of_eq ?_
      simp only [SessionEvent.apply, Session.prepareDeferredExtendedRfq]
      split <;> rfl
  | processDeferred hgm conn =>
      exact Session.processDeferred_positionMove
  | completePublication =>
      refine PositionMove.of_eq ?_
      simp only [SessionEvent.apply, Session.completeDeferredExtendedRfqPublication]
      split <;> rfl
  | abandon =>
      exact Session.abandon_positionMove
  | queryEnd hgm conn failure waiting continues =>
      simp only [SessionEvent.apply, Session.clearRequestStateForQueryEnd, Session.finishWait_fst]
      exact Session.failRequest_positionMove failure waiting
  | reset override frameActive =>
      simp only [SessionEvent.apply, Session.clearStagedWaitStateForReset]
      split
      · exact Session.abandon_positionMove
      · exact PositionMove.same

/-! ## What the moves keep -/

namespace SessionConsistency

theorem rebound_of_scope_eq
    {c : SessionConsistency} {scope : WriterScope}
    (h : (c.rebound scope).writerScope = c.writerScope) :
    c.rebound scope = c := by
  unfold rebound at h ⊢
  split
  · rfl
  · rename_i hother
    rw [if_neg hother] at h
    exact absurd (Or.inr h.symm) hother

theorem rebound_of_scope_ne
    {c : SessionConsistency} {scope : WriterScope}
    (h : (c.rebound scope).writerScope ≠ c.writerScope) :
    c.rebound scope = { writerScope := scope } := by
  unfold rebound at h ⊢
  split
  · rename_i hsame
    rw [if_pos hsame] at h
    exact absurd rfl h
  · rfl

theorem rebound_writerScope
    {c : SessionConsistency} {scope : WriterScope}
    (h : scope.Valid) :
    (c.rebound scope).writerScope = scope := by
  unfold rebound
  split
  · rename_i hsame
    rcases hsame with hinvalid | heq
    · exact absurd h hinvalid
    · exact heq
  · rfl

/-- An unknown flag of the first positions is clear in the second. -/
def Settles (c c' : SessionConsistency) : Prop :=
  (c.writeUnknown = true ∧ c'.writeUnknown = false) ∨
    (c.observedUnknown = true ∧ c'.observedUnknown = false)

theorem not_settles_self {c : SessionConsistency} : ¬ c.Settles c := by
  simp [Settles]

end SessionConsistency

/-- A positive position of the writer is accepted under the session's scope. -/
def SessionEvent.WriterPosition (e : SessionEvent) (s : Session) : Prop :=
  ∃ hgm b hg, e.rfq = some (hgm, b) ∧ s.AcceptsLsn hgm b ∧ b.hostgroup = some hg ∧
    (hgm.cachedConfig hg).writerHostgroup = hg ∧
      s.query.requestWriterScope = s.consistency.writerScope

namespace PositionMove

open SessionConsistency

variable {s : Session} {e : SessionEvent} {c : SessionConsistency}

theorem merge_writerScope
    {hgm : HgmView} {b : Backend} {fromWriter isWrite : Bool}
    (haccepts : s.AcceptsLsn hgm b) :
    ((s.consistency.rebound s.query.requestWriterScope).merge b.lsn fromWriter
      isWrite).writerScope = s.query.requestWriterScope := by
  obtain ⟨hg, -, hvalid, -⟩ := haccepts.evidenceCurrent
  exact rebound_writerScope hvalid

theorem mono
    (h : PositionMove s e c)
    (hscope : c.writerScope = s.consistency.writerScope) :
    s.consistency.writeLsn ≤ c.writeLsn ∧ s.consistency.observedLsn ≤ c.observedLsn := by
  induction h with
  | same =>
      exact ⟨le_rfl, le_rfl⟩
  | bind _ _ | bindRequest _ _ _ _ =>
      rw [rebound_of_scope_eq hscope]
      exact ⟨le_rfl, le_rfl⟩
  | merge hgm b fromWriter isWrite _ _ _ =>
      rw [rebound_of_scope_eq hscope]
      refine ⟨?_, Nat.le_max_left _ _⟩
      cases isWrite with
      | true =>
          exact Nat.le_max_left _ _
      | false =>
          exact le_rfl
  | writeUnknown _ ih =>
      exact ih hscope
  | observedUnknown _ ih =>
      exact ih hscope

theorem cleared
    (h : PositionMove s e c)
    (hscope : c.writerScope ≠ s.consistency.writerScope) :
    (c.writeLsn = 0 ∧ c.observedLsn = 0) ∨
      ∃ hgm b, e.rfq = some (hgm, b) ∧ s.AcceptsLsn hgm b ∧
        c.writerScope = s.query.requestWriterScope ∧
          (c.writeLsn = 0 ∨ c.writeLsn = b.lsn) ∧ c.observedLsn = b.lsn := by
  induction h with
  | same =>
      exact absurd rfl hscope
  | bind _ _ | bindRequest _ _ _ _ =>
      rw [rebound_of_scope_ne hscope]
      exact Or.inl ⟨rfl, rfl⟩
  | merge hgm b fromWriter isWrite hrfq haccepts _ =>
      refine Or.inr ⟨hgm, b, hrfq, haccepts, merge_writerScope haccepts, ?_⟩
      rw [rebound_of_scope_ne hscope]
      cases isWrite <;> simp [SessionConsistency.merge]
  | writeUnknown _ ih =>
      exact ih hscope
  | observedUnknown _ ih =>
      exact ih hscope

theorem foreign
    {hgm : HgmView} {b : Backend}
    (h : PositionMove s e c)
    (hrfq : e.rfq = some (hgm, b))
    (hforeign : ¬ s.EvidenceCurrent hgm b) :
    c.writeLsn = s.consistency.writeLsn ∧ c.observedLsn = s.consistency.observedLsn ∧
      c.writerScope = s.consistency.writerScope := by
  induction h with
  | same =>
      exact ⟨rfl, rfl, rfl⟩
  | bind scope hnone =>
      rw [hrfq] at hnone
      cases hnone
  | bindRequest hgm' b' hrfq' hcurrent =>
      rw [hrfq] at hrfq'
      cases hrfq'
      exact absurd hcurrent hforeign
  | merge hgm' b' _ _ hrfq' haccepts _ =>
      rw [hrfq] at hrfq'
      cases hrfq'
      exact absurd haccepts.evidenceCurrent hforeign
  | writeUnknown _ ih =>
      exact ih
  | observedUnknown _ ih =>
      exact ih

theorem other_scope
    {hgm : HgmView} {b : Backend}
    (h : PositionMove s e c)
    (hrfq : e.rfq = some (hgm, b))
    (hother : s.query.requestWriterScope ≠ s.consistency.writerScope)
    (hscope : c.writerScope = s.consistency.writerScope) :
    c.writeLsn = s.consistency.writeLsn ∧ c.observedLsn = s.consistency.observedLsn := by
  induction h with
  | same =>
      exact ⟨rfl, rfl⟩
  | bind scope hnone =>
      rw [hrfq] at hnone
      cases hnone
  | bindRequest hgm' b' _ _ =>
      rw [rebound_of_scope_eq hscope]
      exact ⟨rfl, rfl⟩
  | merge hgm' b' _ _ _ haccepts _ =>
      rw [merge_writerScope haccepts] at hscope
      exact absurd hscope hother
  | writeUnknown _ ih =>
      exact ih hscope
  | observedUnknown _ ih =>
      exact ih hscope

theorem settled
    (h : PositionMove s e c)
    (hflag : s.consistency.Settles c) :
    c.writerScope ≠ s.consistency.writerScope ∨ e.WriterPosition s := by
  by_contra hnot
  push Not at hnot
  obtain ⟨hscope, hposition⟩ := hnot
  induction h with
  | same =>
      exact not_settles_self hflag
  | bind _ _ | bindRequest _ _ _ _ =>
      rw [rebound_of_scope_eq hscope] at hflag
      exact not_settles_self hflag
  | merge hgm b fromWriter isWrite hrfq haccepts hwriter =>
      have hrequest : s.query.requestWriterScope = s.consistency.writerScope := by
        rw [← merge_writerScope haccepts]
        exact hscope
      cases fromWriter with
      | true =>
          obtain ⟨hg, hhg, -⟩ := haccepts.evidenceCurrent
          exact hposition ⟨hgm, b, hg, hrfq, haccepts, hhg, hwriter rfl hg hhg, hrequest⟩
      | false =>
          rw [rebound_of_scope_eq hscope] at hflag
          simp [SessionConsistency.merge, SessionConsistency.Settles] at hflag
  | writeUnknown _ ih =>
      rcases hflag with ⟨-, hclear⟩ | hobserved
      · cases hclear
      · exact ih (Or.inr hobserved) hscope
  | observedUnknown _ ih =>
      rcases hflag with hwrite | ⟨-, hclear⟩
      · exact ih (Or.inl hwrite) hscope
      · cases hclear

end PositionMove

/-- A step that leaves the session in its writer scope. -/
def SameScopeStep (s : Session) (l : SessionEvent × SessionEffect) (t : Session) : Prop :=
  SessionStep s l t ∧ t.consistency.writerScope = s.consistency.writerScope

theorem SessionStep.positionMove
    {s t : Session} {l : SessionEvent × SessionEffect}
    (h : SessionStep s l t) :
    PositionMove s l.1 t.consistency := by
  rw [h.eq.1]
  exact l.1.positionMove s

/-- Over every sequence of operations: positions never decrease while the
scope is unchanged; another scope starts from nothing but the position that
brought it; evidence of a scope that is not current, or not the session's,
changes no position; and an unknown flag is cleared by another scope or by a
positive position of the writer of the current one. -/
theorem session_lsn_monotone_per_scope
    {s t u : Session} {ls : List (SessionEvent × SessionEffect)}
    {l : SessionEvent × SessionEffect}
    (hkept : Run SameScopeStep s ls t)
    (hstep : SessionStep t l u) :
    (s.consistency.writeLsn ≤ t.consistency.writeLsn ∧
        s.consistency.observedLsn ≤ t.consistency.observedLsn) ∧
      (u.consistency.writerScope ≠ t.consistency.writerScope →
        (u.consistency.writeLsn = 0 ∧ u.consistency.observedLsn = 0) ∨
          ∃ hgm b, l.1.rfq = some (hgm, b) ∧ t.AcceptsLsn hgm b ∧
            u.consistency.writerScope = t.query.requestWriterScope ∧
              (u.consistency.writeLsn = 0 ∨ u.consistency.writeLsn = b.lsn) ∧
                u.consistency.observedLsn = b.lsn) ∧
      (∀ hgm b, l.1.rfq = some (hgm, b) →
        ¬ t.EvidenceCurrent hgm b ∨
            (t.query.requestWriterScope ≠ t.consistency.writerScope ∧
              u.consistency.writerScope = t.consistency.writerScope) →
          u.consistency.writeLsn = t.consistency.writeLsn ∧
            u.consistency.observedLsn = t.consistency.observedLsn) ∧
      (t.consistency.Settles u.consistency →
        u.consistency.writerScope ≠ t.consistency.writerScope ∨ l.1.WriterPosition t) := by
  have hmove := hstep.positionMove
  refine ⟨⟨?_, ?_⟩, hmove.cleared, fun hgm b hrfq hcase => ?_, hmove.settled⟩
  · exact hkept.le_of_step_le fun h => (h.1.positionMove.mono h.2).1
  · exact hkept.le_of_step_le fun h => (h.1.positionMove.mono h.2).2
  · rcases hcase with hforeign | ⟨hother, hscope⟩
    · obtain ⟨hwrite, hobserved, -⟩ := hmove.foreign hrfq hforeign
      exact ⟨hwrite, hobserved⟩
    · exact hmove.other_scope hrfq hother hscope

def firstEpochSession : Session :=
  { consistency := { writeLsn := 5, observedLsn := 7, writerScope := { hg := 0, epoch := 1 } } }

theorem session_lsn_monotone_per_scope_failover :
    let activated := (SessionEvent.apply firstEpochSession (.activate none)).1
    let failedOver := (SessionEvent.apply activated (.rebind { hg := 0, epoch := 2 })).1
    5 ≤ activated.consistency.writeLsn ∧ failedOver.consistency.writeLsn = 0 ∧
      failedOver.consistency.observedLsn = 0 := by
  intro activated failedOver
  have hkept : Run SameScopeStep firstEpochSession [(.activate none, {})] activated :=
    Run.single ⟨rfl, by decide⟩
  have hstep : SessionStep activated (.rebind { hg := 0, epoch := 2 }, {}) failedOver := rfl
  obtain ⟨⟨hwrite, -⟩, hcleared, -⟩ := session_lsn_monotone_per_scope hkept hstep
  rcases hcleared (by decide) with hzero | ⟨_, _, hrfq, -⟩
  · exact ⟨hwrite, hzero⟩
  · cases hrfq

end PolarProxy
