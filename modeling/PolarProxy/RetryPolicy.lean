import PolarProxy.FailureFrames

/-!
# The policy of a failure

`Permits` says which target the configured actions allow after which kind of failure, and
`Disconnects` when they ask for the session to end.  The decision that is taken keeps to them:
the target it names is permitted, and the writer, which a retry falls back to where the decision
allows it, is permitted then.

**Results.** `readerFailureDecision_follows`.
-/

namespace PolarProxy

namespace Failures

/-- The configured actions allow that a request is sent to the target after a failure. -/
def Permits (plan : ReaderPlan) : FailureKind → RetryTarget → Prop
  | .connectionLost, .otherReader =>
      replicaLossActionFromInt plan.replicaLossAction = .replicaThenPrimary ∨
        replicaLossActionFromInt plan.replicaLossAction = .replicaThenError
  | .connectionLost, .writer =>
      replicaLossActionFromInt plan.replicaLossAction = .replicaThenPrimary ∨
        replicaLossActionFromInt plan.replicaLossAction = .primary
  | .waitTimeout, .writer => lsnWaitTimeoutActionFromInt plan.lsnWaitTimeoutAction = .primary
  | .reusableError, .writer => replicaErrorActionFromInt plan.replicaErrorAction = .primary
  | _, _ => False

/-- The configured actions ask for the session to end after a failure. -/
def Disconnects (plan : ReaderPlan) : FailureKind → Prop
  | .connectionLost => replicaLossActionFromInt plan.replicaLossAction = .disconnect
  | .waitTimeout => lsnWaitTimeoutActionFromInt plan.lsnWaitTimeoutAction = .disconnect
  | .reusableError => replicaErrorActionFromInt plan.replicaErrorAction = .disconnect
  | .queryCanceled => False

/-- What a decision keeps to -/
structure FailureDecision.Follows (d : FailureDecision) (plan : ReaderPlan) (kind : FailureKind)
    (attempts : Nat) : Prop where
  otherReader : d.action = .retry → d.retryTarget = .otherReader →
    Permits plan kind .otherReader ∧ attempts < readerRetryLimit
  writer : d.action = .retry → d.retryTarget = .writer ∨ d.allowWriterRetry = true →
    Permits plan kind .writer
  disconnects : d.action = .disconnectClient ↔ Disconnects plan kind

section Decisions

variable (f : ReaderFailure) (attempts : Nat)

/-- Another reader is decided for only after a lost connection, and only once. -/
theorem readerFailureAction_otherReader
    (h : (readerFailureAction f attempts).retryTarget = .otherReader) :
    Permits f.readerPlan (readerFailureKindFor f) .otherReader ∧ attempts < readerRetryLimit ∧
      (readerFailureAction f attempts).readerFailureRoute = .skipReader := by
  unfold readerFailureAction at h ⊢
  cases hkind : readerFailureKindFor f with
  | connectionLost =>
      simp only [hkind, connectionLostDecision] at h ⊢
      split at h
      · rename_i hother
        exact ⟨hother.1, hother.2.2.2, by rw [if_pos hother]⟩
      · exfalso
        split at h <;>
          cases haction : replicaLossActionFromInt f.readerPlan.replicaLossAction <;>
            simp [haction] at h
  | waitTimeout =>
      simp only [hkind, waitTimeoutDecision] at h
      split at h <;> exact absurd h RetryTarget.noConfusion
  | reusableError =>
      simp only [hkind, reusableErrorDecision] at h
      split at h <;> exact absurd h RetryTarget.noConfusion
  | queryCanceled =>
      simp only [hkind] at h
      exact absurd h RetryTarget.noConfusion

theorem readerFailureAction_writer
    (haction : (readerFailureAction f attempts).action = .retry)
    (hallow : (readerFailureAction f attempts).allowWriterRetry = true) :
    Permits f.readerPlan (readerFailureKindFor f) .writer := by
  unfold readerFailureAction at haction hallow
  cases hkind : readerFailureKindFor f with
  | connectionLost =>
      simp only [hkind, connectionLostDecision] at haction hallow
      cases hloss : replicaLossActionFromInt f.readerPlan.replicaLossAction with
      | replicaThenPrimary =>
          exact Or.inl hloss
      | replicaThenError =>
          simp only [hloss] at hallow
          split at hallow <;> exact absurd hallow Bool.false_ne_true
      | primary =>
          exact Or.inr hloss
      | error =>
          simp [hloss] at haction
      | disconnect =>
          simp [hloss] at haction
  | waitTimeout =>
      simp only [hkind, waitTimeoutDecision] at haction
      split at haction
      · assumption
      all_goals exact absurd haction ReaderAction.noConfusion
  | reusableError =>
      simp only [hkind, reusableErrorDecision] at haction
      split at haction
      · assumption
      all_goals exact absurd haction ReaderAction.noConfusion
  | queryCanceled =>
      simp only [hkind] at haction
      exact absurd haction ReaderAction.noConfusion

theorem readerFailureAction_disconnects :
    (readerFailureAction f attempts).action = .disconnectClient ↔
      Disconnects f.readerPlan (readerFailureKindFor f) := by
  unfold readerFailureAction
  cases hkind : readerFailureKindFor f with
  | connectionLost =>
      simp only [connectionLostDecision, Disconnects]
      cases hloss : replicaLossActionFromInt f.readerPlan.replicaLossAction <;>
        simp only [reduceCtorEq, or_false, or_true, false_and, true_and, if_false,
          iff_false] <;>
        split <;> simp
  | waitTimeout =>
      simp only [waitTimeoutDecision, Disconnects]
      split <;> simp_all
  | reusableError =>
      simp only [reusableErrorDecision, Disconnects]
      split <;> simp_all
  | queryCanceled =>
      simp [Disconnects]

/-- A decision keeps to the configured actions. -/
theorem readerFailureDecision_follows :
    (readerFailureDecision f attempts).Follows f.readerPlan (readerFailureKindFor f) attempts := by
  have hother := readerFailureAction_otherReader f attempts
  have hwriter := readerFailureAction_writer f attempts
  have hdisconnects := readerFailureAction_disconnects f attempts
  unfold readerFailureDecision
  generalize readerFailureAction f attempts = d at hother hwriter hdisconnects
  simp only
  by_cases hno : d.allowWriterRetry = false ∧ d.action = .retry ∧ d.retryTarget = .writer
  · rw [if_pos hno, if_neg (by simp [hno.1])]
    exact
      { otherReader := fun h => absurd h ReaderAction.noConfusion
        writer := fun h => absurd h ReaderAction.noConfusion
        disconnects := by
          rw [← hdisconnects, hno.2.1]
          simp }
  rw [if_neg hno]
  -- What is left of the decision may still be sent to the writer.
  have hallow : d.action = .retry → d.retryTarget = .writer → d.allowWriterRetry = true := by
    intro haction htarget
    by_contra hallow
    exact hno ⟨Bool.eq_false_iff.mpr hallow, haction, htarget⟩
  split
  · rename_i hroute
    exact
      { otherReader := fun _ h => absurd h RetryTarget.noConfusion
        writer := fun haction _ => hwriter haction hroute.2.2
        disconnects := hdisconnects }
  · exact
      { otherReader := fun _ htarget => ⟨(hother htarget).1, (hother htarget).2.1⟩
        writer := fun haction h => hwriter haction (h.elim (hallow haction) id)
        disconnects := hdisconnects }

theorem Permits.not_canceled
    {plan : ReaderPlan} {kind : FailureKind} {target : RetryTarget}
    (h : Permits plan kind target) :
    kind ≠ .queryCanceled := by
  rintro rfl
  exact h

end Decisions

end Failures

end PolarProxy
