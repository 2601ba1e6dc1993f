import PolarProxy.Events

/-!
# Timed-out waits

A wait confirms its target in three places: the reader's cached position, the
client RFQ, and the record of a deferred publication.  All three ask whether the
timer of the wait still runs, and accounting a timeout stops the timer.  What a
wait may have confirmed so far is the larger of the bypass target of the query
and the confirmed target of the deferred record.

**Results.** `prepareClientReadyLsn_le`, `ReadStep.spec`, `timed_out_wait_never_counts`.
-/

namespace PolarProxy

open Transition

namespace Session

/-- The timer of the wait in flight. -/
def timer (s : Session) : Nat :=
  s.query.wait.waitStartedAtUs

/-- The largest target the session holds as confirmed. -/
def confirmedTarget (s : Session) : Nat :=
  max s.query.waitBypassTarget s.extendedRfq.confirmedReadTarget

def startWait (s : Session) (spec : WaitSpec) (now : Nat) (fallbackWriterHg : Int) : Session :=
  { s with query := s.query.beginWait spec now fallbackWriterHg }

/-- The position a client RFQ exposes when no target was confirmed: the one of
the RFQ, or the session's own when the writer answers. -/
def unraisedLsn (s : Session) (p : Publication) : Nat :=
  let evidence :=
    s.publicationEvidence p.hgm p.conn p.payloadPresent p.lsn p.processingClientQuery p.policy
  let scope :=
    s.publicationScope (decide (p.policy = .detect) && s.extendedRfq.publicationPending)
  max ((evidence.map RfqEvidence.lsn).getD p.lsn)
    (if responseFromWriter p.hgm evidence scope then s.targetInScope scope else 0)

end Session

theorem clientRfqDecision_le
    {requested payloadPresent keep fromWriter : Bool}
    {backendLsn sessionTarget confirmed completed : Nat} :
    (clientRfqDecision requested payloadPresent backendLsn sessionTarget keep fromWriter confirmed
        completed).lsn ≤
      max (max backendLsn (if fromWriter then sessionTarget else 0)) confirmed := by
  unfold clientRfqDecision
  split
  · exact Nat.zero_le _
  · cases fromWriter with
    | false =>
        simp only [Bool.and_false, Bool.false_and, Bool.false_eq_true, if_false]
        split_ifs <;> omega
    | true =>
        simp only [Bool.and_true, Bool.true_and, if_true]
        split_ifs <;> omega

namespace Session

/-- The confirmed target is bounded through its two parts. -/
theorem confirmedTarget_le
    {s t : Session}
    (hbypass : t.query.waitBypassTarget ≤ s.query.waitBypassTarget)
    (hdeferred : t.extendedRfq.confirmedReadTarget ≤ s.extendedRfq.confirmedReadTarget) :
    t.confirmedTarget ≤ s.confirmedTarget := by
  unfold confirmedTarget
  omega

variable (s : Session)

theorem publishedReadTarget_le
    (conn : Option Backend) (scopeMatches deferredPublication : Bool) :
    s.publishedReadTarget conn scopeMatches deferredPublication ≤
      max (s.completedWaitTarget conn) s.confirmedTarget := by
  unfold publishedReadTarget confirmedTarget
  simp only
  split_ifs <;> omega

/-- What a client RFQ is bounded by. -/
theorem prepareClientReadyLsn_le
    {p : Publication} {v : Nat}
    (h : (s.prepareClientReadyLsn p.hgm p.conn p.payloadPresent p.lsn p.processingClientQuery
      p.policy).2 = some v) :
    v ≤ max (s.unraisedLsn p) (max (s.completedWaitTarget p.conn) s.confirmedTarget) := by
  unfold prepareClientReadyLsn at h
  simp only at h
  split at h
  · cases h
  split at h
  · cases h
  split at h
  · cases h
  split at h
  · simp only [Option.some.injEq] at h
    rw [← h]
    refine clientRfqDecision_le.trans (max_le ?_ ?_)
    · exact le_max_left _ _
    · exact (s.publishedReadTarget_le p.conn _ _).trans (le_max_right _ _)
  · cases h

/-! ## Retaining a result -/

/-- Retaining a result confirms at most what was confirmed and the target of a
wait whose timer runs. -/
theorem retainPublication_confirmedTarget (conn : Option Backend) :
    (s.retainExtendedRfqPublication conn).confirmedTarget ≤
      max s.confirmedTarget (s.completedWaitTarget conn) := by
  unfold retainExtendedRfqPublication confirmedTarget
  simp only
  split_ifs <;> simp only at * <;> omega

theorem retainPublication_timer (conn : Option Backend) :
    (s.retainExtendedRfqPublication conn).timer = s.timer :=
  rfl

theorem retainPublication_confirmedTarget_le
    (h : s.timer = 0)
    (conn : Option Backend) :
    (s.retainExtendedRfqPublication conn).confirmedTarget ≤ s.confirmedTarget := by
  have hretain := s.retainPublication_confirmedTarget conn
  rw [s.completedWaitTarget_eq_zero h conn] at hretain
  omega

end Session

/-! ## One wait-wrapped read -/

/-- Events that neither start another wait nor retain the result of a request.
A result is retained only where its request ends. -/
def SessionEvent.KeepsRead : SessionEvent → Prop
  | .selectReader .. => False
  | .deferResult .. => False
  | .retainPublication _ => False
  | _ => True

/-- What can happen to one wait-wrapped read.  A request may end in an error
response, whose publication is retained before the request is torn down. -/
inductive ReadEvent
  | step (e : SessionEvent)
  | requestEnd (errorResponse : Bool) (r : RequestEnd)

def ReadEvent.apply (s : Session) : ReadEvent → Session × SessionEffect
  | .step e => e.apply s
  | .requestEnd errorResponse r =>
      let s₁ := if errorResponse then s.retainExtendedRfqPublication r.conn else s
      ((s₁.requestEnd r).1, { stored := (s₁.requestEnd r).2 })

def ReadStep (s : Session) (l : ReadEvent × SessionEffect) (t : Session) : Prop :=
  (∀ e, l.1 = .step e → e.KeepsRead) ∧ l.1.apply s = (t, l.2)

/-- What an event may do to the timer and to the confirmed target. -/
structure ReadSpec (s : Session) (eff : SessionEffect) (t : Session) : Prop where
  timer : t.timer = s.timer ∨ t.timer = 0
  confirmed :
    s.timer = 0 ∨ t.timer ≠ 0 ∨ eff.counted = true → t.confirmedTarget ≤ s.confirmedTarget
  counted : eff.counted = true → s.timer ≠ 0 ∧ t.timer = 0
  stored : eff.stored ≠ none → s.timer ≠ 0

namespace ReadSpec

/-- Events that leave the wait and the deferred record alone. -/
theorem of_waitView
    {s t : Session} {eff : SessionEffect}
    (h : t.waitView = s.waitView)
    (hcounted : eff.counted = false)
    (hstored : eff.stored = none) :
    ReadSpec s eff t := by
  have hwait : t.query.wait = s.query.wait := congrArg (fun v => v.1) h
  have hbypass : t.query.waitBypassTarget = s.query.waitBypassTarget :=
    congrArg (fun v => v.2.1) h
  have hdeferred : t.extendedRfq = s.extendedRfq := congrArg (fun v => v.2.2) h
  refine ⟨Or.inl ?_, fun _ => ?_, ?_, ?_⟩
  · rw [Session.timer, Session.timer, hwait]
  · rw [Session.confirmedTarget, Session.confirmedTarget, hbypass, hdeferred]
  · simp [hcounted]
  · simp [hstored]

theorem of_le
    {s t : Session} {eff : SessionEffect}
    (htimer : t.timer = s.timer ∨ t.timer = 0)
    (hconfirmed : t.confirmedTarget ≤ s.confirmedTarget)
    (hcounted : eff.counted = false)
    (hstored : eff.stored = none) :
    ReadSpec s eff t :=
  ⟨htimer, fun _ => hconfirmed, by simp [hcounted], by simp [hstored]⟩

theorem of_finish
    {s t : Session} {eff : SessionEffect}
    (ht : t.waitView = ({ s.query.wait with waitStartedAtUs := 0 }, s.waitView.2))
    (hcounted : eff.counted = true → s.timer ≠ 0)
    (hstored : eff.stored ≠ none → s.timer ≠ 0) :
    ReadSpec s eff t := by
  have hwait : t.query.wait = { s.query.wait with waitStartedAtUs := 0 } :=
    congrArg (fun v => v.1) ht
  have hbypass : t.query.waitBypassTarget = s.query.waitBypassTarget :=
    congrArg (fun v => v.2.1) ht
  have hdeferred : t.extendedRfq = s.extendedRfq := congrArg (fun v => v.2.2) ht
  have htimer : t.timer = 0 := by rw [Session.timer, hwait]
  refine ⟨Or.inr htimer, fun _ => ?_, fun h => ⟨hcounted h, htimer⟩, hstored⟩
  rw [Session.confirmedTarget, Session.confirmedTarget, hbypass, hdeferred]

end ReadSpec

namespace Session

variable (s : Session)

theorem finishWait_readSpec (hgm : HgmView) (conn : Option Backend) :
    ReadSpec s { stored := (s.finishWait hgm conn).2 } (s.finishWait hgm conn).1 := by
  refine ReadSpec.of_finish ?_ (by simp) (fun h => s.finishWait_stored h)
  rw [finishWait_fst]
  rfl

theorem accountWaitTimeout_readSpec :
    ReadSpec s { counted := s.accountWaitTimeout.2 } s.accountWaitTimeout.1 := by
  cases hcounted : s.accountWaitTimeout.2 with
  | true =>
      obtain ⟨htimer, hfst⟩ := s.accountWaitTimeout_counted hcounted
      refine ReadSpec.of_finish ?_ (fun _ => htimer) (by simp)
      rw [hfst, finishWait_fst]
      rfl
  | false =>
      rcases s.accountWaitTimeout_fst with hfst | hfst
      · rw [hfst]
        exact ReadSpec.of_waitView rfl rfl rfl
      · rw [hfst]
        refine ReadSpec.of_finish ?_ (by simp) (by simp)
        rw [finishWait_fst]
        rfl

theorem notice_readSpec (active wrapper : Bool) :
    ReadSpec s { counted := (s.handleLsnWaitTimeoutNotice active wrapper).2 }
      (s.handleLsnWaitTimeoutNotice active wrapper).1 := by
  unfold handleLsnWaitTimeoutNotice
  simp only
  split_ifs
  · exact ReadSpec.of_waitView rfl rfl rfl
  · exact ReadSpec.of_waitView rfl rfl rfl
  · exact s.accountWaitTimeout_readSpec

theorem error_readSpec (wrapped timeout : Bool) :
    ReadSpec s { counted := (s.handleWrapperSetError wrapped timeout).2 }
      (s.handleWrapperSetError wrapped timeout).1 := by
  unfold handleWrapperSetError
  split_ifs
  · exact ReadSpec.of_waitView rfl rfl rfl
  · exact ReadSpec.of_waitView rfl rfl rfl
  · -- setting the error flag moves neither the timer nor a confirmed target
    have hspec := accountWaitTimeout_readSpec
      { s with query := { s.query with wait := { s.query.wait with timeoutError := true } } }
    exact ⟨hspec.timer, hspec.confirmed, hspec.counted, hspec.stored⟩
  · exact ReadSpec.of_waitView rfl rfl rfl

theorem prepareDeferred_readSpec :
    ReadSpec s {} s.prepareDeferredExtendedRfq := by
  unfold prepareDeferredExtendedRfq
  simp only
  split
  · exact ReadSpec.of_waitView rfl rfl rfl
  · refine ReadSpec.of_le (Or.inr rfl) ?_ rfl rfl
    unfold confirmedTarget
    simp only
    omega

theorem completePublication_readSpec :
    ReadSpec s {} s.completeDeferredExtendedRfqPublication := by
  unfold completeDeferredExtendedRfqPublication
  split
  · exact ReadSpec.of_le (Or.inl rfl) (confirmedTarget_le le_rfl (Nat.zero_le _)) rfl rfl
  · exact ReadSpec.of_le (Or.inl rfl) le_rfl rfl rfl

theorem abandon_confirmedTarget :
    s.abandonDeferredExtendedRfq.confirmedTarget ≤ s.confirmedTarget :=
  confirmedTarget_le le_rfl (Nat.zero_le _)

theorem failDeferred_timer (waiting : Bool) : (s.failDeferred waiting).timer = s.timer := by
  unfold failDeferred
  simp only
  split_ifs <;> rfl

theorem failDeferred_confirmedTarget (waiting : Bool) :
    (s.failDeferred waiting).confirmedTarget ≤ s.confirmedTarget := by
  unfold failDeferred
  simp only
  split_ifs
  · exact le_rfl
  · exact le_rfl
  · exact s.abandon_confirmedTarget
  · exact le_rfl

theorem processDeferred_readSpec (hgm : HgmView) (conn : Option Backend) :
    ReadSpec s {} (s.processDeferredExtendedRfq hgm conn) := by
  have hview := s.processResultWithAttribution_waitView hgm conn none s.extendedRfq.sawWrite
    s.extendedRfq.canPreserveSessionLsn
  have hwait := congrArg (fun v => v.1.waitStartedAtUs) hview
  have hbypass := congrArg (fun v => v.2.1) hview
  simp only [waitView] at hwait hbypass
  unfold processDeferredExtendedRfq
  simp only
  split_ifs
  · exact ReadSpec.of_waitView rfl rfl rfl
  all_goals
    refine ReadSpec.of_le (Or.inl hwait) ?_ rfl rfl
    simp only [confirmedTarget, hbypass]
    omega

theorem queryEnd_timer
    (hgm : HgmView) (conn : Option Backend) (failure waiting continues : Bool) :
    (s.clearRequestStateForQueryEnd hgm conn failure waiting continues).1.timer = 0 := by
  unfold clearRequestStateForQueryEnd
  simp only
  split_ifs <;> rfl

theorem failRequest_timer (failure waiting : Bool) :
    (s.failRequest failure waiting).timer = s.timer := by
  cases failure with
  | true =>
      exact s.failDeferred_timer waiting
  | false =>
      rfl

theorem failRequest_confirmedTarget (failure waiting : Bool) :
    (s.failRequest failure waiting).confirmedTarget ≤ s.confirmedTarget := by
  cases failure with
  | true =>
      exact s.failDeferred_confirmedTarget waiting
  | false =>
      exact le_rfl

theorem queryEnd_readSpec
    (hgm : HgmView) (conn : Option Backend) (failure waiting continues : Bool) :
    ReadSpec s { stored := (s.clearRequestStateForQueryEnd hgm conn failure waiting continues).2 }
      (s.clearRequestStateForQueryEnd hgm conn failure waiting continues).1 := by
  refine ⟨Or.inr (s.queryEnd_timer ..), fun _ => ?_, by simp, fun h => ?_⟩
  · refine le_trans ?_ (s.failRequest_confirmedTarget failure waiting)
    unfold clearRequestStateForQueryEnd
    simp only [finishWait_fst]
    split_ifs
    · exact le_refl (s.failRequest failure waiting).confirmedTarget
    · exact confirmedTarget_le (Nat.zero_le _) le_rfl
  · rw [← s.failRequest_timer failure waiting]
    exact finishWait_stored _ h

theorem reset_readSpec (override frameActive : Bool) :
    ReadSpec s {} (s.clearStagedWaitStateForReset override frameActive) := by
  refine ReadSpec.of_le (Or.inr rfl) ?_ rfl rfl
  unfold clearStagedWaitStateForReset
  simp only
  split_ifs <;> exact confirmedTarget_le (Nat.zero_le _) (by simp [abandonDeferredExtendedRfq])

end Session

/-- What one event does to the timer and the confirmed target. -/
theorem SessionEvent.readSpec
    {e : SessionEvent}
    (hkeeps : e.KeepsRead)
    (s : Session) :
    ReadSpec s (e.apply s).2 (e.apply s).1 := by
  cases e with
  | observe vars generation currentHg hgConfig req =>
      exact ReadSpec.of_waitView (s.observe_waitView vars generation currentHg hgConfig req) rfl rfl
  | capture vars generation scopeHg hgConfig =>
      exact ReadSpec.of_waitView (s.capture_waitView vars generation scopeHg hgConfig) rfl rfl
  | rebind scope =>
      exact ReadSpec.of_waitView (s.rebind_waitView scope) rfl rfl
  | activate generation =>
      exact ReadSpec.of_waitView (s.activate_waitView generation) rfl rfl
  | selectReader spec reached now fallback =>
      exact hkeeps.elim
  | finalizeWrapper =>
      exact ReadSpec.of_le (Or.inl rfl) le_rfl rfl rfl
  | notice active wrapper =>
      exact s.notice_readSpec active wrapper
  | error wrapped timeout =>
      exact s.error_readSpec wrapped timeout
  | finish hgm conn =>
      exact s.finishWait_readSpec hgm conn
  | publish p =>
      obtain ⟨keep, hfst⟩ := s.prepareClientReadyLsn_fst p.hgm p.conn p.payloadPresent p.lsn
        p.processingClientQuery p.policy
      refine ReadSpec.of_waitView ?_ rfl rfl
      simp only [SessionEvent.apply, hfst]
      rfl
  | result hgm conn text command =>
      exact ReadSpec.of_waitView (s.processResultWithAttribution_waitView hgm conn text _ _) rfl rfl
  | deferResult _ _ _ | retainPublication _ =>
      exact hkeeps.elim
  | retainEvidence hgm conn =>
      simp only [SessionEvent.apply]
      split
      · exact ReadSpec.of_le (Or.inl rfl) le_rfl rfl rfl
      · exact ReadSpec.of_waitView rfl rfl rfl
  | prepareDeferred =>
      exact s.prepareDeferred_readSpec
  | processDeferred hgm conn =>
      exact s.processDeferred_readSpec hgm conn
  | completePublication =>
      exact s.completePublication_readSpec
  | abandon =>
      exact ReadSpec.of_le (Or.inl rfl) s.abandon_confirmedTarget rfl rfl
  | queryEnd hgm conn failure waiting continues =>
      exact s.queryEnd_readSpec hgm conn failure waiting continues
  | reset override frameActive =>
      exact s.reset_readSpec override frameActive

/-! ## The end of a request -/

/-- Attribution may confirm the target of a running wait, and nothing else. -/
structure Settles (s t : Session) : Prop where
  timer : t.timer = s.timer ∨ t.timer = 0
  confirmed : s.timer = 0 → t.confirmedTarget ≤ s.confirmedTarget

namespace Settles

theorem refl (s : Session) : Settles s s :=
  ⟨Or.inl rfl, fun _ => le_rfl⟩

theorem trans
    {s t u : Session}
    (h : Settles s t)
    (h' : Settles t u) :
    Settles s u := by
  refine ⟨?_, fun hzero => ?_⟩
  · rcases h'.timer with htimer | htimer
    · rw [htimer]
      exact h.timer
    · exact Or.inr htimer
  · have ht : t.timer = 0 := by
      rcases h.timer with htimer | htimer
      · rw [htimer, hzero]
      · exact htimer
    exact (h'.confirmed ht).trans (h.confirmed hzero)

theorem of_readSpec
    {s t : Session} {eff : SessionEffect}
    (h : ReadSpec s eff t) :
    Settles s t :=
  ⟨h.timer, fun hzero => h.confirmed (Or.inl hzero)⟩

theorem retain (s : Session) (conn : Option Backend) :
    Settles s (s.retainExtendedRfqPublication conn) :=
  ⟨Or.inl (s.retainPublication_timer conn),
    fun hzero => s.retainPublication_confirmedTarget_le hzero conn⟩

theorem deferExecuteResult (s : Session) (r : RequestEnd) :
    Settles s (s.deferExecuteResult r) := by
  unfold Session.deferExecuteResult
  split
  · have hretain := retain s r.conn
    exact ⟨hretain.timer, hretain.confirmed⟩
  · exact refl s

theorem result (s : Session) (r : RequestEnd) :
    Settles s (s.processResult r.hgm r.conn r.text r.command) :=
  of_readSpec
    (SessionEvent.readSpec (e := .result r.hgm r.conn r.text r.command) True.intro s)

theorem attributeExtended (s : Session) (r : RequestEnd) :
    Settles s (s.attributeExtended r) := by
  unfold Session.attributeExtended
  split_ifs
  · exact refl s
  · exact (deferExecuteResult s r).trans
      ((of_readSpec (Session.prepareDeferred_readSpec _)).trans
        (of_readSpec (Session.processDeferred_readSpec _ r.hgm r.conn)))
  · exact deferExecuteResult s r
  · exact result s r

theorem attributeResult (s : Session) (r : RequestEnd) :
    Settles s (s.attributeResult r) := by
  unfold Session.attributeResult
  split_ifs
  · exact refl s
  · exact result s r
  · refine (attributeExtended s r).trans ?_
    unfold Session.closePublication
    split
    · exact of_readSpec (Session.completePublication_readSpec _)
    · exact refl _

end Settles

theorem ReadSpec.of_settles
    {s t u : Session} {eff : SessionEffect}
    (h : Settles s t)
    (h' : ReadSpec t eff u)
    (htimer : u.timer = 0)
    (hcounted : eff.counted = false) :
    ReadSpec s eff u := by
  have hstopped : s.timer = 0 → t.timer = 0 := by
    intro hzero
    rcases h.timer with heq | heq
    · rw [heq, hzero]
    · exact heq
  refine ⟨Or.inr htimer, fun hcase => ?_, by simp [hcounted], fun hstored hzero => ?_⟩
  · have hzero : s.timer = 0 := by
      rcases hcase with hzero | hne | hcount
      · exact hzero
      · exact absurd htimer hne
      · simp [hcounted] at hcount
    exact (h'.confirmed (Or.inl (hstopped hzero))).trans (h.confirmed hzero)
  · exact h'.stored hstored (hstopped hzero)

theorem requestEnd_readSpec (s : Session) (r : RequestEnd) :
    ReadSpec s { stored := (s.requestEnd r).2 } (s.requestEnd r).1 :=
  ReadSpec.of_settles (Settles.attributeResult s r) (Session.queryEnd_readSpec ..)
    (Session.queryEnd_timer ..) rfl

/-- What one step of a read does to the timer and the confirmed target. -/
theorem ReadStep.spec
    {s t : Session} {l : ReadEvent × SessionEffect}
    (h : ReadStep s l t) :
    ReadSpec s l.2 t := by
  obtain ⟨event, eff⟩ := l
  obtain ⟨hkeeps, happly⟩ := h
  cases event with
  | step e =>
      have hspec := SessionEvent.readSpec (hkeeps e rfl) s
      simp only [ReadEvent.apply] at happly
      rw [happly] at hspec
      exact hspec
  | requestEnd errorResponse r =>
      simp only [ReadEvent.apply, Prod.mk.injEq] at happly
      obtain ⟨rfl, rfl⟩ := happly
      cases errorResponse with
      | true =>
          exact ReadSpec.of_settles (Settles.retain s r.conn) (requestEnd_readSpec _ r)
            (Session.queryEnd_timer ..) rfl
      | false =>
          exact requestEnd_readSpec s r

/-- A position is published by a publication only, within its bound. -/
theorem ReadStep.published_le
    {s t : Session} {l : ReadEvent × SessionEffect} {v : Nat}
    (h : ReadStep s l t)
    (htimer : s.timer = 0)
    (hv : l.2.published = some v) :
    ∃ p, l.1 = .step (.publish p) ∧ v ≤ max (s.unraisedLsn p) s.confirmedTarget := by
  obtain ⟨event, eff⟩ := l
  obtain ⟨-, happly⟩ := h
  cases event with
  | step e =>
      cases e with
      | publish p =>
          simp only [ReadEvent.apply, SessionEvent.apply, Prod.mk.injEq] at happly
          obtain ⟨-, rfl⟩ := happly
          have hle := s.prepareClientReadyLsn_le hv
          rw [s.completedWaitTarget_eq_zero htimer] at hle
          exact ⟨p, rfl, by omega⟩
      | _ =>
          simp only [ReadEvent.apply, SessionEvent.apply, Prod.mk.injEq] at happly
          obtain ⟨-, rfl⟩ := happly
          simp at hv
  | requestEnd errorResponse r =>
      simp only [ReadEvent.apply, Prod.mk.injEq] at happly
      obtain ⟨-, rfl⟩ := happly
      simp at hv

/-! ## Every order of events -/

/-- An accounted wait has a stopped timer, and neither a running nor an
accounted wait has confirmed anything. -/
structure WaitInv (base : Nat) (accounted : Bool) (s : Session) : Prop where
  timer : accounted = true → s.timer = 0
  confirmed : accounted = true ∨ s.timer ≠ 0 → s.confirmedTarget ≤ base

theorem WaitInv.step
    {base : Nat} {accounted : Bool} {s t : Session} {eff : SessionEffect}
    (h : WaitInv base accounted s)
    (hspec : ReadSpec s eff t) :
    WaitInv base (accounted || eff.counted) t := by
  refine ⟨fun hacc => ?_, fun hcase => ?_⟩
  · rcases Bool.or_eq_true_iff.mp hacc with hold | hnew
    · rcases hspec.timer with heq | heq
      · rw [heq, h.timer hold]
      · exact heq
    · exact (hspec.counted hnew).2
  · rcases hcase with hacc | hrunning
    · rcases Bool.or_eq_true_iff.mp hacc with hold | hnew
      · exact (hspec.confirmed (Or.inl (h.timer hold))).trans (h.confirmed (Or.inl hold))
      · exact (hspec.confirmed (Or.inr (Or.inr hnew))).trans
          (h.confirmed (Or.inr (hspec.counted hnew).1))
    · have hbefore : s.timer ≠ 0 := by
        rcases hspec.timer with heq | heq
        · rwa [← heq]
        · exact absurd heq hrunning
      exact (hspec.confirmed (Or.inr (Or.inl hrunning))).trans (h.confirmed (Or.inr hbefore))

/-- Whether one of the events was counted as a timeout. -/
def accounted (ls : List (ReadEvent × SessionEffect)) : Bool :=
  ls.any fun l => l.2.counted

/-- How many of the events were counted as a timeout. -/
def timeouts (ls : List (ReadEvent × SessionEffect)) : Nat :=
  ls.countP fun l => l.2.counted

/-- The invariant of a run, with the number of timeouts it counted. -/
theorem waitInv_run
    {s t : Session} {spec : WaitSpec} {now : Nat} {fallbackWriterHg : Int}
    {ls : List (ReadEvent × SessionEffect)}
    (hrun : Run ReadStep (s.startWait spec now fallbackWriterHg) ls t) :
    WaitInv s.extendedRfq.confirmedReadTarget (accounted ls) t ∧
      timeouts ls = (accounted ls).toNat := by
  refine Run.history_invariant
    (I := fun ls t => WaitInv s.extendedRfq.confirmedReadTarget (accounted ls) t ∧
      timeouts ls = (accounted ls).toNat) hrun ⟨⟨by simp [accounted], fun _ => ?_⟩, rfl⟩ ?_
  · simp [Session.confirmedTarget, Session.startWait, QueryState.beginWait]
  · rintro ls t l u ⟨hinv, hcount⟩ hstep
    have hspec := hstep.spec
    have haccounted : accounted (ls ++ [l]) = (accounted ls || l.2.counted) := by
      simp [accounted]
    refine ⟨haccounted ▸ hinv.step hspec, ?_⟩
    have hlast : timeouts (ls ++ [l]) = timeouts ls + l.2.counted.toNat := by
      cases hl : l.2.counted <;> simp [timeouts, List.countP_append, hl]
    rw [hlast, hcount, haccounted]
    cases hacc : accounted ls with
    | false =>
        simp
    | true =>
        cases hl : l.2.counted with
        | false =>
            rfl
        | true =>
            exact absurd (hinv.timer hacc) (hspec.counted hl).1

/-- Once a wait is accounted as timed out, in any order of events, no reader
position is stored for it and no published position exceeds what would be
published without it; and it is counted at most once. -/
theorem timed_out_wait_never_counts
    {s t : Session} {spec : WaitSpec} {now : Nat} {fallbackWriterHg : Int}
    {ls : List (ReadEvent × SessionEffect)}
    (hrun : Run ReadStep (s.startWait spec now fallbackWriterHg) ls t) :
    timeouts ls ≤ 1 ∧
      (accounted ls = true →
        ∀ l u, ReadStep t l u →
          l.2.counted = false ∧ l.2.stored = none ∧
            ∀ v, l.2.published = some v →
              ∃ p, l.1 = .step (.publish p) ∧
                v ≤ max (t.unraisedLsn p) s.extendedRfq.confirmedReadTarget) := by
  obtain ⟨hinv, hcount⟩ := waitInv_run hrun
  refine ⟨hcount ▸ Bool.toNat_le _, fun hacc l u hstep => ?_⟩
  have hspec := hstep.spec
  have htimer := hinv.timer hacc
  refine ⟨?_, ?_, fun v hv => ?_⟩
  · by_contra hcounted
    exact (hspec.counted (eq_true_of_ne_false hcounted)).1 htimer
  · by_contra hstored
    exact hspec.stored hstored htimer
  · obtain ⟨p, hp, hle⟩ := hstep.published_le htimer hv
    exact ⟨p, hp, hle.trans (by have := hinv.confirmed (Or.inl hacc); omega)⟩

/-- A read that waits for position 100 on behalf of an LSN-aware client. -/
def waitingRead : Session :=
  { config := { isPolardbEnabled := true }
    query := { requestWriterScope := { hg := 0, epoch := 1 }, profileEnabled := true }
    routeState := { clientRfqLsnRequested := true } }

/-- Its session after the warning that the wait timed out. -/
def timedOutRead : Session :=
  ((waitingRead.startWait { type := .lsn, target := 100 } 7 0).handleLsnWaitTimeoutNotice false
    true).1

theorem timed_out_wait_never_counts_notice :
    timeouts [(.step (.notice false true), { counted := true })] ≤ 1 ∧
      ∀ l u, ReadStep timedOutRead l u →
        l.2.counted = false ∧ l.2.stored = none ∧
          ∀ v, l.2.published = some v →
            ∃ p, l.1 = .step (.publish p) ∧ v ≤ max (timedOutRead.unraisedLsn p) 0 := by
  have hstep : ReadStep (waitingRead.startWait { type := .lsn, target := 100 } 7 0)
      (.step (.notice false true), { counted := true }) timedOutRead := by
    refine ⟨?_, by decide⟩
    intro e he
    cases he
    exact True.intro
  obtain ⟨hcount, hafter⟩ := timed_out_wait_never_counts (Run.single hstep)
  exact ⟨hcount, hafter rfl⟩

end PolarProxy
