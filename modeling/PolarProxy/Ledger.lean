import PolarProxy.Events

/-!
# The messages behind one `ReadyForQuery`

The deferred record keeps one value for many messages.  A ledger keeps the
messages themselves: those whose publication is open, and among them the results
whose `ReadyForQuery` has not arrived.  `RecordSpec` says what the record holds
about them, and it holds in every run.

**Results.** `RecordSpec.retain`, `RecordSpec.defer`, `recordSpec_run`.
-/

namespace PolarProxy

open Transition

/-- What the record may retain of one message. -/
structure Message where
  writerScope : WriterScope
  confirmedTarget : Nat
  isWrite : Bool
  profileEnabled : Bool
  effectiveConsistencyMode : Int
  deriving DecidableEq

namespace Message

/-- The message the session is processing. -/
def ofSession (s : Session) (conn : Option Backend) (isWrite : Bool) : Message :=
  { writerScope := s.query.requestWriterScope
    confirmedTarget := max s.query.waitBypassTarget (s.completedWaitTarget conn)
    isWrite := isWrite
    profileEnabled := s.query.profileEnabled
    effectiveConsistencyMode := s.query.effectiveConsistencyMode }

/-- The message ran in a mode that waits on positions. -/
def inLsnMode (m : Message) : Bool :=
  m.profileEnabled && usesLsnWait (consistencyFromInt m.effectiveConsistencyMode)

/-- The largest target the messages confirmed. -/
def maxTarget (ms : List Message) : Nat :=
  (ms.map confirmedTarget).foldr max 0

/-- The messages ran under one valid writer scope. -/
def OneScope (ms : List Message) : Prop :=
  ∃ scope : WriterScope, scope.Valid ∧ ∀ m ∈ ms, m.writerScope = scope

theorem maxTarget_append (ms : List Message) (m : Message) :
    maxTarget (ms ++ [m]) = max (maxTarget ms) m.confirmedTarget := by
  induction ms with
  | nil =>
      simp [maxTarget]
  | cons head tail ih =>
      simp only [maxTarget, List.cons_append, List.map_cons, List.foldr_cons] at ih ⊢
      rw [ih]
      omega

theorem OneScope.of_append
    {ms : List Message} {m : Message}
    (h : OneScope (ms ++ [m])) :
    OneScope ms := by
  obtain ⟨scope, hvalid, hall⟩ := h
  exact ⟨scope, hvalid, fun m hm => hall m (List.mem_append_left _ hm)⟩

end Message

open Message

/-- A session with the messages its deferred record stands for. -/
structure SyncLedger where
  session : Session
  published : List Message := []
  deferred : List Message := []
  deriving DecidableEq

namespace SyncLedger

/-- The messages an event adds. -/
def record (L : SyncLedger) : SessionEvent → SyncLedger
  | .deferResult conn text command =>
      let m := Message.ofSession L.session conn (shouldAdvanceSessionWriteLsn text command)
      { L with published := L.published ++ [m], deferred := L.deferred ++ [m] }
  | .retainPublication conn =>
      { L with published := L.published ++ [Message.ofSession L.session conn false] }
  | _ => L

/-- The ledger after an event.  Results leave it when the pending flag is clear,
all messages when both flags are. -/
def after (L : SyncLedger) (e : SessionEvent) : SyncLedger :=
  let t := (e.apply L.session).1
  { session := t
    published :=
      if t.extendedRfq.pending || t.extendedRfq.publicationPending then (L.record e).published
      else []
    deferred := if t.extendedRfq.pending then (L.record e).deferred else [] }

end SyncLedger

def LedgerStep (L : SyncLedger) (e : SessionEvent) (L' : SyncLedger) : Prop :=
  L' = L.after e

/-- What a deferred record holds about its messages. -/
structure RecordSpec (d : ExtendedRfqState) (published deferred : List Message) : Prop where
  closed :
    d.pending = false → d.publicationPending = false → d = {} ∧ published = [] ∧ deferred = []
  opened : d.pending = true ∨ d.publicationPending = true → published ≠ []
  attributed : d.pending = false → deferred = []
  subset : ∀ m ∈ deferred, m ∈ published
  consistent :
    d.scopeConsistent = true → published ≠ [] →
      d.writerScope.Valid ∧ ∀ m ∈ published, m.writerScope = d.writerScope
  mixed : d.scopeConsistent = false → ¬ OneScope published
  confirmed :
    d.confirmedReadTarget = if d.scopeConsistent then maxTarget published else 0
  sawWrite : d.sawWrite = deferred.any Message.isWrite
  lsnMode :
    ∀ m ∈ published, m.inLsnMode = true →
      d.profileEnabled = true ∧
        usesLsnWait (consistencyFromInt d.effectiveConsistencyMode) = true

namespace RecordSpec

theorem fresh : RecordSpec {} [] [] := by
  constructor <;> simp [maxTarget]

variable {d : ExtendedRfqState} {published deferred : List Message}

theorem open_retain
    {s : Session} {conn : Option Backend} {isWrite : Bool}
    (h : RecordSpec s.extendedRfq published deferred)
    (hpending : s.extendedRfq.pending = false)
    (hpublication : s.extendedRfq.publicationPending = false) :
    RecordSpec (s.retainExtendedRfqPublication conn).extendedRfq
      (published ++ [Message.ofSession s conn isWrite]) deferred := by
  obtain ⟨hd, rfl, rfl⟩ := h.closed hpending hpublication
  unfold Session.retainExtendedRfqPublication
  rw [hd]
  simp only [Bool.not_false, Bool.and_self, if_true, List.nil_append]
  refine ⟨by simp, by simp, by simp, by simp, ?_, ?_, ?_, rfl, ?_⟩
  · intro hvalid _
    exact ⟨of_decide_eq_true hvalid, by simp [Message.ofSession]⟩
  · rintro hinvalid ⟨scope, hvalid, hall⟩
    have hscope : s.query.requestWriterScope = scope := hall _ (List.mem_singleton_self _)
    exact (of_decide_eq_false hinvalid) (hscope ▸ hvalid)
  · simp [maxTarget, Message.ofSession]
  · intro m hm hmode
    rw [List.mem_singleton.mp hm] at hmode
    simpa [Message.inLsnMode, Message.ofSession] using hmode

theorem merge_lsnMode
    {s : Session}
    (h : RecordSpec s.extendedRfq published deferred)
    (conn : Option Backend)
    (isWrite : Bool) :
    ∀ m ∈ published ++ [Message.ofSession s conn isWrite], m.inLsnMode = true →
      (s.extendedRfq.profileEnabled || s.query.profileEnabled) = true ∧
        usesLsnWait (consistencyFromInt
          (if usesLsnWait (consistencyFromInt s.query.effectiveConsistencyMode) = true then
            s.query.effectiveConsistencyMode
          else s.extendedRfq.effectiveConsistencyMode)) = true := by
  intro m hm hmode
  rcases List.mem_append.mp hm with hold | hnew
  · obtain ⟨hprofile, huses⟩ := h.lsnMode m hold hmode
    refine ⟨by simp [hprofile], ?_⟩
    split <;> assumption
  · rw [List.mem_singleton.mp hnew] at hmode
    simp only [Message.inLsnMode, Message.ofSession, Bool.and_eq_true] at hmode
    exact ⟨by simp [hmode.1], by rw [if_pos hmode.2]; exact hmode.2⟩

theorem merge_retain
    {s : Session} {conn : Option Backend} {isWrite : Bool}
    (h : RecordSpec s.extendedRfq published deferred)
    (hopen : s.extendedRfq.pending = true ∨ s.extendedRfq.publicationPending = true) :
    RecordSpec (s.retainExtendedRfqPublication conn).extendedRfq
      (published ++ [Message.ofSession s conn isWrite]) deferred := by
  have hne := h.opened hopen
  have hnot : ¬ (!s.extendedRfq.pending && !s.extendedRfq.publicationPending) = true := by
    simp only [Bool.and_eq_true, Bool.not_eq_true']
    rintro ⟨hp, hq⟩
    rcases hopen with hp' | hq'
    · simp [hp] at hp'
    · simp [hq] at hq'
  have hsubset : ∀ m ∈ deferred, m ∈ published ++ [Message.ofSession s conn isWrite] :=
    fun m hm => List.mem_append_left _ (h.subset m hm)
  unfold Session.retainExtendedRfqPublication
  simp only [hnot]
  by_cases hmatch : s.extendedRfq.writerScope.Matches s.query.requestWriterScope
  · simp only [hmatch, decide_true, Bool.and_true, if_true]
    refine ⟨by simp, by simp, h.attributed, hsubset, ?_, ?_, ?_, h.sawWrite, ?_⟩
    · intro hcons _
      obtain ⟨hvalid, hall⟩ := h.consistent hcons hne
      refine ⟨hvalid, fun m hm => ?_⟩
      rcases List.mem_append.mp hm with hold | hnew
      · exact hall m hold
      · rw [List.mem_singleton.mp hnew]
        exact hmatch.eq.symm
    · intro hcons hone
      exact h.mixed hcons hone.of_append
    · rw [h.confirmed, maxTarget_append]
      cases s.extendedRfq.scopeConsistent <;> simp [Message.ofSession]
    · exact h.merge_lsnMode conn isWrite
  · simp only [hmatch, decide_false, Bool.and_false, if_false]
    refine ⟨by simp, by simp, h.attributed, hsubset, by simp, ?_, by simp, h.sawWrite, ?_⟩
    · rintro - ⟨scope, hvalid, hall⟩
      cases hcons : s.extendedRfq.scopeConsistent with
      | false =>
          exact h.mixed hcons ⟨scope, hvalid, fun m hm => hall m (List.mem_append_left _ hm)⟩
      | true =>
          -- the record had one scope, and the new message has another
          obtain ⟨m, hm⟩ := List.exists_mem_of_ne_nil published hne
          have hold : s.extendedRfq.writerScope = scope := by
            rw [← (h.consistent hcons hne).2 m hm]
            exact hall m (List.mem_append_left _ hm)
          have hnew : s.query.requestWriterScope = scope :=
            hall _ (List.mem_append_right _ (List.mem_singleton_self _))
          rw [hold, hnew] at hmatch
          exact hmatch hvalid.matches_self
    · exact h.merge_lsnMode conn isWrite

/-- One more message is retained. -/
theorem retain
    {s : Session}
    (h : RecordSpec s.extendedRfq published deferred)
    (conn : Option Backend)
    (isWrite : Bool) :
    RecordSpec (s.retainExtendedRfqPublication conn).extendedRfq
      (published ++ [Message.ofSession s conn isWrite]) deferred := by
  by_cases hopen : s.extendedRfq.pending = true ∨ s.extendedRfq.publicationPending = true
  · exact h.merge_retain hopen
  · push Not at hopen
    exact h.open_retain (eq_false_of_ne_true hopen.1) (eq_false_of_ne_true hopen.2)

/-- One more result is deferred. -/
theorem defer
    {s : Session}
    (h : RecordSpec s.extendedRfq published deferred)
    (conn : Option Backend)
    (text : Option (List Char))
    (command : QueryCommand) :
    let m := Message.ofSession s conn (shouldAdvanceSessionWriteLsn text command)
    RecordSpec (s.deferExtendedRfqResult conn text command).extendedRfq
      (published ++ [m]) (deferred ++ [m]) := by
  intro m
  have hretain := h.retain conn (shouldAdvanceSessionWriteLsn text command)
  refine ⟨by simp [Session.deferExtendedRfqResult], by simp,
    by simp [Session.deferExtendedRfqResult], fun x hx => ?_, hretain.consistent, hretain.mixed,
    hretain.confirmed, ?_, hretain.lsnMode⟩
  · rcases List.mem_append.mp hx with hold | hnew
    · exact hretain.subset x hold
    · exact List.mem_append_right _ hnew
  · simp only [Session.deferExtendedRfqResult, List.any_append, List.any_cons, List.any_nil,
      Bool.or_false]
    rw [hretain.sawWrite]
    rfl

/-- The results received their RFQ, and the publication stays open. -/
theorem drop_results
    (h : RecordSpec d published deferred)
    (hpublication : d.publicationPending = true) :
    RecordSpec { d with pending := false, sawWrite := false, canPreserveSessionLsn := true }
      published [] :=
  ⟨by simp [hpublication], fun _ => h.opened (Or.inr hpublication), fun _ => rfl, by simp,
    h.consistent, h.mixed, h.confirmed, rfl, h.lsnMode⟩

/-- The publication is over, and results still wait for their RFQ. -/
theorem close_publication
    (h : RecordSpec d published deferred)
    (hpending : d.pending = true) :
    RecordSpec { d with publicationPending := false } published deferred :=
  ⟨by simp [hpending], fun _ => h.opened (Or.inl hpending), by simp [hpending], h.subset,
    h.consistent, h.mixed, h.confirmed, h.sawWrite, h.lsnMode⟩

theorem retain_evidence
    (h : RecordSpec d published deferred)
    (hpublication : d.publicationPending = true)
    (evidence : RfqEvidence) :
    RecordSpec { d with rfqEvidence := evidence } published deferred :=
  ⟨by simp [hpublication], h.opened, h.attributed, h.subset, h.consistent, h.mixed, h.confirmed,
    h.sawWrite, h.lsnMode⟩

end RecordSpec

/-! ## What one event does to the record -/

/-- A retained write is attributed by this event, or the session learns that
its position is unknown. -/
def SessionEvent.SettlesWrite (e : SessionEvent) (s : Session) : Prop :=
  s.extendedRfq.pending = true → s.extendedRfq.sawWrite = true →
    (∃ hgm conn, e = .processDeferred hgm conn) ∨ (e.apply s).1.consistency.writeUnknown = true

/-- Everything an event can do to the deferred record. -/
inductive RecordMove (s : Session) (e : SessionEvent) : Prop
  | same :
      (∀ L : SyncLedger, L.record e = L) →
      (e.apply s).1.extendedRfq = s.extendedRfq →
      RecordMove s e
  | defer (conn : Option Backend) (text : Option (List Char)) (command : QueryCommand) :
      e = .deferResult conn text command →
      RecordMove s e
  | retain (conn : Option Backend) :
      e = .retainPublication conn →
      RecordMove s e
  | evidence (rfq : RfqEvidence) :
      (∀ L : SyncLedger, L.record e = L) →
      s.extendedRfq.publicationPending = true →
      (e.apply s).1.extendedRfq = { s.extendedRfq with rfqEvidence := rfq } →
      RecordMove s e
  | closePublication :
      (∀ L : SyncLedger, L.record e = L) →
      s.extendedRfq.pending = true →
      (e.apply s).1.extendedRfq = { s.extendedRfq with publicationPending := false } →
      RecordMove s e
  | dropResults :
      (∀ L : SyncLedger, L.record e = L) →
      s.extendedRfq.publicationPending = true →
      (e.apply s).1.extendedRfq =
        { s.extendedRfq with pending := false, sawWrite := false, canPreserveSessionLsn := true } →
      e.SettlesWrite s →
      RecordMove s e
  | reset :
      (e.apply s).1.extendedRfq = {} →
      e.SettlesWrite s →
      RecordMove s e

namespace Session

variable (s : Session)

theorem retainPublication_pending (conn : Option Backend) :
    (s.retainExtendedRfqPublication conn).extendedRfq.pending = s.extendedRfq.pending := by
  unfold retainExtendedRfqPublication
  simp only
  split <;> rfl

theorem notice_extendedRfq (active wrapper : Bool) :
    (s.handleLsnWaitTimeoutNotice active wrapper).1.extendedRfq = s.extendedRfq := by
  unfold handleLsnWaitTimeoutNotice accountWaitTimeout
  simp only [finishWait_fst]
  split_ifs <;> rfl

theorem error_extendedRfq (wrapped timeout : Bool) :
    (s.handleWrapperSetError wrapped timeout).1.extendedRfq = s.extendedRfq := by
  unfold handleWrapperSetError accountWaitTimeout
  simp only [finishWait_fst]
  split_ifs <;> rfl

theorem processDeferred_extendedRfq (hgm : HgmView) (conn : Option Backend) :
    (s.processDeferredExtendedRfq hgm conn).extendedRfq =
      if !s.extendedRfq.pending then s.extendedRfq
      else if !s.extendedRfq.publicationPending then {}
      else
        { s.extendedRfq with
          pending := false, sawWrite := false, canPreserveSessionLsn := true } := by
  unfold processDeferredExtendedRfq
  simp only
  split <;> rfl

/-- Giving up a retained write marks the write position unknown. -/
theorem abandon_writeUnknown
    {s : Session}
    (hpending : s.extendedRfq.pending = true)
    (hwrite : s.extendedRfq.sawWrite = true) :
    s.abandonDeferredExtendedRfq.consistency.writeUnknown = true := by
  simp [abandonDeferredExtendedRfq, hpending, hwrite]

theorem failDeferred_writeUnknown
    {s : Session}
    (hpending : s.extendedRfq.pending = true)
    (hwrite : s.extendedRfq.sawWrite = true)
    (waiting : Bool) :
    (s.failDeferred waiting).consistency.writeUnknown = true := by
  unfold failDeferred
  simp only [hpending, hwrite, Bool.and_self, if_true, Bool.true_or]
  split
  · rfl
  · exact abandon_writeUnknown hpending hwrite

/-- The record after a failed request: dropped results, a reset or no change. -/
theorem failDeferred_extendedRfq (waiting : Bool) :
    (s.extendedRfq.publicationPending = true ∧
        (s.failDeferred waiting).extendedRfq =
          { s.extendedRfq with
            pending := false, sawWrite := false, canPreserveSessionLsn := true }) ∨
      (s.failDeferred waiting).extendedRfq = {} ∨
        (s.failDeferred waiting).extendedRfq = s.extendedRfq := by
  unfold failDeferred
  simp only
  split
  · rename_i hpublication
    simp only [Bool.and_eq_true] at hpublication
    exact Or.inl ⟨hpublication.1, rfl⟩
  · split
    · exact Or.inr (Or.inl rfl)
    · exact Or.inr (Or.inr rfl)

theorem processDeferred_recordMove (hgm : HgmView) (conn : Option Backend) :
    RecordMove s (.processDeferred hgm conn) := by
  have hrecord := s.processDeferred_extendedRfq hgm conn
  have hsettles : SessionEvent.SettlesWrite (.processDeferred hgm conn) s :=
    fun _ _ => Or.inl ⟨hgm, conn, rfl⟩
  cases hpending : s.extendedRfq.pending with
  | false =>
      rw [if_pos (by simp [hpending])] at hrecord
      exact .same (fun _ => rfl) hrecord
  | true =>
      rw [if_neg (by simp [hpending])] at hrecord
      cases hpublication : s.extendedRfq.publicationPending with
      | false =>
          rw [if_pos (by simp [hpublication])] at hrecord
          exact .reset hrecord hsettles
      | true =>
          rw [if_neg (by simp [hpublication])] at hrecord
          exact .dropResults (fun _ => rfl) hpublication hrecord hsettles

theorem queryEnd_recordMove
    (hgm : HgmView) (conn : Option Backend) (failure waiting continues : Bool) :
    RecordMove s (.queryEnd hgm conn failure waiting continues) := by
  have hend : (SessionEvent.apply s
      (.queryEnd hgm conn failure waiting continues)).1.extendedRfq =
        (s.failRequest failure waiting).extendedRfq := by
    simp only [SessionEvent.apply, clearRequestStateForQueryEnd, finishWait_fst]
  have hmark : (SessionEvent.apply s
      (.queryEnd hgm conn failure waiting continues)).1.consistency =
        (s.failRequest failure waiting).consistency := by
    simp only [SessionEvent.apply, clearRequestStateForQueryEnd, finishWait_fst]
  cases failure with
  | false =>
      exact .same (fun _ => rfl) hend
  | true =>
      have hsettles : SessionEvent.SettlesWrite (.queryEnd hgm conn true waiting continues) s := by
        intro hpending hwrite
        rw [hmark]
        exact Or.inr (failDeferred_writeUnknown hpending hwrite waiting)
      rcases s.failDeferred_extendedRfq waiting with ⟨hpublication, hdrop⟩ | hfresh | hsame
      · exact .dropResults (fun _ => rfl) hpublication (hend.trans hdrop) hsettles
      · exact .reset (hend.trans hfresh) hsettles
      · exact .same (fun _ => rfl) (hend.trans hsame)

theorem reset_recordMove (override frameActive : Bool) :
    RecordMove s (.reset override frameActive) := by
  by_cases horphan :
      (!frameActive && (s.extendedRfq.pending || s.extendedRfq.publicationPending)) = true
  · refine .reset ?_ fun hpending hwrite => Or.inr ?_
    · simp only [SessionEvent.apply, clearStagedWaitStateForReset, horphan, if_true]
      rfl
    · simp only [SessionEvent.apply, clearStagedWaitStateForReset, horphan, if_true]
      exact abandon_writeUnknown hpending hwrite
  · refine .same (fun _ => rfl) ?_
    simp only [SessionEvent.apply, clearStagedWaitStateForReset, horphan]
    rfl

theorem completePublication_recordMove : RecordMove s .completePublication := by
  cases hpending : s.extendedRfq.pending with
  | false =>
      refine .reset ?_ fun h => ?_
      · simp [SessionEvent.apply, completeDeferredExtendedRfqPublication, hpending]
      · rw [hpending] at h
        cases h
  | true =>
      refine .closePublication (fun _ => rfl) hpending ?_
      simp only [SessionEvent.apply, completeDeferredExtendedRfqPublication]
      rw [if_neg (by simp [hpending])]

end Session

theorem SessionEvent.recordMove (s : Session) (e : SessionEvent) : RecordMove s e := by
  cases e with
  | observe vars generation currentHg hgConfig req =>
      exact .same (fun _ => rfl)
        (congrArg (fun v => v.2.2) (s.observe_waitView vars generation currentHg hgConfig req))
  | capture vars generation scopeHg hgConfig =>
      exact .same (fun _ => rfl)
        (congrArg (fun v => v.2.2) (s.capture_waitView vars generation scopeHg hgConfig))
  | rebind scope =>
      exact .same (fun _ => rfl) (congrArg (fun v => v.2.2) (s.rebind_waitView scope))
  | activate generation =>
      exact .same (fun _ => rfl) (congrArg (fun v => v.2.2) (s.activate_waitView generation))
  | selectReader spec reached now fallback =>
      refine .same (fun _ => rfl) ?_
      simp only [SessionEvent.apply, Session.finishReaderWaitSelection]
      split_ifs <;> rfl
  | finalizeWrapper =>
      exact .same (fun _ => rfl) rfl
  | notice active wrapper =>
      exact .same (fun _ => rfl) (s.notice_extendedRfq active wrapper)
  | error wrapped timeout =>
      exact .same (fun _ => rfl) (s.error_extendedRfq wrapped timeout)
  | finish hgm conn =>
      refine .same (fun _ => rfl) ?_
      simp only [SessionEvent.apply, Session.finishWait_fst]
  | publish p =>
      obtain ⟨keep, hfst⟩ := s.prepareClientReadyLsn_fst p.hgm p.conn p.payloadPresent
        p.lsn p.processingClientQuery p.policy
      refine .same (fun _ => rfl) ?_
      simp only [SessionEvent.apply, hfst]
  | result hgm conn text command =>
      exact .same (fun _ => rfl)
        (congrArg (fun v => v.2.2) (s.processResultWithAttribution_waitView hgm conn text _ _))
  | deferResult conn text command =>
      exact .defer conn text command rfl
  | retainPublication conn =>
      exact .retain conn rfl
  | retainEvidence hgm conn =>
      cases hpublication : s.extendedRfq.publicationPending with
      | true =>
          refine .evidence (s.retainExtendedRfqEvidence hgm conn true).extendedRfq.rfqEvidence
            (fun _ => rfl) hpublication ?_
          simp only [SessionEvent.apply]
          rw [if_pos hpublication]
          rfl
      | false =>
          refine .same (fun _ => rfl) ?_
          simp [SessionEvent.apply, hpublication]
  | prepareDeferred =>
      refine .same (fun _ => rfl) ?_
      simp only [SessionEvent.apply, Session.prepareDeferredExtendedRfq]
      split <;> rfl
  | processDeferred hgm conn =>
      exact s.processDeferred_recordMove hgm conn
  | completePublication =>
      exact s.completePublication_recordMove
  | abandon =>
      exact .reset rfl fun hpending hwrite =>
        Or.inr (Session.abandon_writeUnknown hpending hwrite)
  | queryEnd hgm conn failure waiting continues =>
      exact s.queryEnd_recordMove hgm conn failure waiting continues
  | reset override frameActive =>
      exact s.reset_recordMove override frameActive

/-! ## The ledger of a run -/

namespace SyncLedger

variable {L : SyncLedger} {e : SessionEvent}

/-- The record of a session meets its ledger. -/
def Spec (L : SyncLedger) : Prop :=
  RecordSpec L.session.extendedRfq L.published L.deferred

/-- The ledger keeps exactly the messages an open record stands for. -/
theorem after_spec
    {published deferred : List Message}
    (h : RecordSpec (e.apply L.session).1.extendedRfq published deferred)
    (hpublished :
      (e.apply L.session).1.extendedRfq.pending = true ∨
          (e.apply L.session).1.extendedRfq.publicationPending = true →
        (L.record e).published = published)
    (hdeferred :
      (e.apply L.session).1.extendedRfq.pending = true → (L.record e).deferred = deferred) :
    (L.after e).Spec := by
  have hp : (L.after e).published = published := by
    simp only [after, Bool.or_eq_true]
    split
    · rename_i hopen
      exact hpublished hopen
    · rename_i hclosed
      push Not at hclosed
      exact (h.closed (eq_false_of_ne_true hclosed.1) (eq_false_of_ne_true hclosed.2)).2.1.symm
  have hq : (L.after e).deferred = deferred := by
    simp only [after]
    split
    · rename_i hpending
      exact hdeferred hpending
    · rename_i hnot
      exact (h.attributed (eq_false_of_ne_true hnot)).symm
  unfold Spec
  rw [hp, hq]
  exact h

theorem after_spec_of_record
    {d : ExtendedRfqState}
    (hrecord : L.record e = L)
    (hd : (e.apply L.session).1.extendedRfq = d)
    (h : RecordSpec d L.published L.deferred) :
    (L.after e).Spec :=
  after_spec (hd ▸ h) (fun _ => by rw [hrecord]) (fun _ => by rw [hrecord])

/-- The ledger is kept by every step. -/
theorem Spec.step
    (h : L.Spec)
    (e : SessionEvent) :
    (L.after e).Spec := by
  cases e.recordMove L.session with
  | same hrecord hsame =>
      exact after_spec_of_record (hrecord L) hsame h
  | defer conn text command he =>
      subst he
      exact after_spec (RecordSpec.defer h conn text command) (fun _ => rfl) (fun _ => rfl)
  | retain conn he =>
      subst he
      exact after_spec (RecordSpec.retain h conn false) (fun _ => rfl) (fun _ => rfl)
  | evidence rfq hrecord hpublication hd =>
      exact after_spec_of_record (hrecord L) hd (RecordSpec.retain_evidence h hpublication rfq)
  | closePublication hrecord hpending hd =>
      exact after_spec_of_record (hrecord L) hd (RecordSpec.close_publication h hpending)
  | dropResults hrecord hpublication hd _ =>
      have hspec := RecordSpec.drop_results h hpublication
      rw [← hd] at hspec
      refine after_spec hspec (fun _ => by rw [hrecord]) (fun hpending => ?_)
      rw [hd] at hpending
      cases hpending
  | reset hd _ =>
      have hspec := RecordSpec.fresh
      rw [← hd] at hspec
      refine after_spec hspec ?_ ?_ <;> rw [hd] <;> simp

end SyncLedger

/-- The record of every session that started with an empty one meets its
ledger. -/
theorem recordSpec_run
    {s : Session} {ls : List SessionEvent} {L : SyncLedger}
    (hfresh : s.extendedRfq = {})
    (hrun : Run LedgerStep { session := s } ls L) :
    L.Spec := by
  have hinit : SyncLedger.Spec { session := s } := by
    unfold SyncLedger.Spec
    rw [hfresh]
    exact RecordSpec.fresh
  refine Run.invariant hrun hinit ?_
  intro L e L' hspec hstep
  rw [hstep]
  exact hspec.step e

/-- A deferred write stays in the ledger until an RFQ is attributed to it, or
the session learns that its position is unknown. -/
theorem deferred_write_kept
    {L : SyncLedger} {e : SessionEvent} {m : Message}
    (h : L.Spec)
    (hm : m ∈ L.deferred)
    (hwrite : m.isWrite = true)
    (hother : ∀ hgm conn, e ≠ .processDeferred hgm conn) :
    m ∈ (L.after e).deferred ∨ (L.after e).session.consistency.writeUnknown = true := by
  have hpending : L.session.extendedRfq.pending = true := by
    by_contra hnot
    rw [h.attributed (eq_false_of_ne_true hnot)] at hm
    cases hm
  have hsaw : L.session.extendedRfq.sawWrite = true := by
    rw [h.sawWrite]
    exact List.any_eq_true.mpr ⟨m, hm, hwrite⟩
  have hsettled : e.SettlesWrite L.session →
      (L.after e).session.consistency.writeUnknown = true := by
    intro hsettles
    rcases hsettles hpending hsaw with ⟨hgm, conn, he⟩ | hunknown
    · exact absurd he (hother hgm conn)
    · exact hunknown
  have hkept : (e.apply L.session).1.extendedRfq.pending = true → m ∈ (L.record e).deferred →
      m ∈ (L.after e).deferred := by
    intro hp hin
    simp only [SyncLedger.after]
    rw [if_pos hp]
    exact hin
  cases e.recordMove L.session with
  | same hrecord hsame =>
      exact Or.inl (hkept (by rw [hsame, hpending]) (by rw [hrecord]; exact hm))
  | defer conn text command he =>
      subst he
      exact Or.inl (hkept rfl (List.mem_append_left _ hm))
  | retain conn he =>
      subst he
      exact Or.inl (hkept (L.session.retainPublication_pending conn ▸ hpending) hm)
  | evidence rfq hrecord _ hd =>
      exact Or.inl (hkept (by rw [hd]; exact hpending) (by rw [hrecord]; exact hm))
  | closePublication hrecord _ hd =>
      exact Or.inl (hkept (by rw [hd]; exact hpending) (by rw [hrecord]; exact hm))
  | dropResults _ _ _ hsettles =>
      exact Or.inr (hsettled hsettles)
  | reset _ hsettles =>
      exact Or.inr (hsettled hsettles)

end PolarProxy
