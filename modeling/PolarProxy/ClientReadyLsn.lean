import PolarProxy.SplitTargets
import Mathlib.Order.MinMax

/-!
# The position in a client `ReadyForQuery`

A client that asked for positions reads one in its `ReadyForQuery` and may carry it to another
connection.  An overstated position makes a later read wait for too much, an understated one lets it
see too little.  `prepareClientReadyLsn` starts from the position of the backend, or from the session
target when the writer answered inside a transaction that has written nothing, and raises it to what
is known to be reached.

**Results.** `clientRfqDecision_origin`, `clientRfqDecision_ge`, `clientReadyLsn_sound`.
-/

namespace PolarProxy

/-! ## The decision -/

section Decision

variable {requested payloadPresent baseline fromWriter : Bool}
variable {backendLsn sessionTarget confirmed completed : Nat}

theorem clientRfqDecision_include
    (h : (clientRfqDecision requested payloadPresent backendLsn sessionTarget baseline fromWriter
      confirmed completed).includeLsn = true) :
    requested = true ∧ payloadPresent = true := by
  unfold clientRfqDecision at h
  split at h
  case isTrue =>
    cases h
  case isFalse hboth =>
    simpa using hboth

/-- The position that a decision starts from -/
def rfqBaseline
    (backendLsn sessionTarget : Nat) (sessionLsnIsBaseline responseFromWriter : Bool) : Nat :=
  if sessionLsnIsBaseline && responseFromWriter && decide (0 < sessionTarget) then sessionTarget
  else backendLsn

/-- The position that a response of the writer has to cover -/
def rfqWriterTarget (sessionTarget : Nat) (responseFromWriter : Bool) : Nat :=
  if responseFromWriter then sessionTarget else 0

/-- A decided position is the greatest of its start and of the targets. -/
theorem clientRfqDecision_lsn
    (h : (clientRfqDecision requested payloadPresent backendLsn sessionTarget baseline fromWriter
      confirmed completed).includeLsn = true) :
    (clientRfqDecision requested payloadPresent backendLsn sessionTarget baseline fromWriter
        confirmed completed).lsn =
      max (rfqBaseline backendLsn sessionTarget baseline fromWriter)
        (max (rfqWriterTarget sessionTarget fromWriter) confirmed) := by
  obtain ⟨hrequested, hpayload⟩ := clientRfqDecision_include h
  have hwriter : (if (fromWriter && decide (0 < sessionTarget)) = true then sessionTarget else 0) =
      rfqWriterTarget sessionTarget fromWriter := by
    unfold rfqWriterTarget
    cases fromWriter with
    | true =>
        rcases Nat.eq_zero_or_pos sessionTarget with hzero | hpos
        · simp [hzero]
        · simp [hpos]
    | false =>
        rfl
  subst hrequested hpayload
  simp only [clientRfqDecision, Bool.not_true, Bool.or_false, Bool.false_eq_true, if_false, hwriter]
  change (if rfqBaseline _ _ _ _ < _ then _ else rfqBaseline _ _ _ _) = _
  split_ifs <;> omega

end Decision

/-! ## What a publication is computed from -/

namespace Publication

variable (p : Publication) (s : Session)

/-- The publication belongs to retained results -/
def deferred : Bool :=
  decide (p.policy = .detect) && s.extendedRfq.publicationPending

def scope : WriterScope :=
  s.publicationScope (p.deferred s)

def evidence : Option RfqEvidence :=
  s.publicationEvidence p.hgm p.conn p.payloadPresent p.lsn p.processingClientQuery p.policy

/-- Whether the backend sent a position in the RFQ that is published -/
def backendPayload : Bool :=
  ((p.evidence s).map RfqEvidence.payloadPresent).getD p.payloadPresent

/-- The position that the backend sent in the RFQ that is published -/
def backendLsn : Nat :=
  ((p.evidence s).map RfqEvidence.lsn).getD p.lsn

def scopeMatches : Bool :=
  Session.responseScopeMatches p.hgm (p.evidence s) (p.scope s)

def fromWriter : Bool :=
  Session.responseFromWriter p.hgm (p.evidence s) (p.scope s)

def confirmedTarget : Nat :=
  s.publishedReadTarget p.conn (p.scopeMatches s) (p.deferred s)

/-- The session position is kept: the writer answered in, or at the end of, a transaction without a
write. -/
def keepsSessionLsn : Bool :=
  (p.evidence s).any RfqEvidence.keepSessionLsnCandidate && p.fromWriter s &&
    decide (s.consistency.writerScope.Matches (p.scope s))

/-- The session target stands for the position of the backend. -/
def SessionBaseline : Prop :=
  p.keepsSessionLsn s = true ∧ 0 < s.targetInScope (p.scope s)

/-- The position appended to the client RFQ -/
def published : Option Nat :=
  (s.prepareClientReadyLsn p.hgm p.conn p.payloadPresent p.lsn p.processingClientQuery p.policy).2

/-- The decision that a published position comes from -/
def decision : ClientRfqDecision :=
  clientRfqDecision s.routeState.clientRfqLsnRequested (p.backendPayload s) (p.backendLsn s)
    (s.targetInScope (p.scope s)) (p.keepsSessionLsn s) (p.fromWriter s) (p.confirmedTarget s)
    (s.completedWaitTarget p.conn)

variable {p s}

theorem decision_of_published
    {lsn : Nat}
    (h : p.published s = some lsn) :
    (p.decision s).includeLsn = true ∧ lsn = (p.decision s).lsn := by
  unfold published Session.prepareClientReadyLsn at h
  simp only at h
  split at h
  · cases h
  · split at h
    · cases h
    · split at h
      · cases h
      · change (if (p.decision s).includeLsn = true then some (p.decision s).lsn else none) = _ at h
        split at h
        · rename_i hinclude
          cases h
          exact ⟨hinclude, rfl⟩
        · cases h

/-- A response of the scope comes from a group whose current scope is the one of the publication. -/
theorem scope_of_scopeMatches
    (h : p.scopeMatches s = true) :
    ∃ e, p.evidence s = some e ∧ e.writerScope = p.scope s ∧ (p.scope s).Valid ∧
      (p.hgm.cachedConfig e.backendHostgroup).writerScope = p.scope s := by
  unfold scopeMatches Session.responseScopeMatches at h
  cases hevidence : p.evidence s with
  | none =>
      rw [hevidence] at h
      cases h
  | some e =>
      rw [hevidence] at h
      simp only [Bool.and_eq_true, decide_eq_true_eq] at h
      obtain ⟨⟨-, hresponse⟩, hpublication⟩ := h
      exact ⟨e, rfl, hresponse.eq.trans hpublication.eq.symm, hpublication.valid,
        hpublication.eq.symm⟩

/-- A target that the backend is known to have reached, and the scope that it was confirmed under:
the reader was waited for, it was chosen because it was there already, or an earlier message of the
frame confirmed it. -/
inductive Confirmed (p : Publication) (s : Session) : Nat → WriterScope → Prop
  | waited : Confirmed p s (s.completedWaitTarget p.conn) s.query.requestWriterScope
  | bypassed : Confirmed p s s.query.waitBypassTarget s.query.requestWriterScope
  | retained :
      p.deferred s = true →
      s.extendedRfq.scopeConsistent = true →
      Confirmed p s s.extendedRfq.confirmedReadTarget s.extendedRfq.writerScope

theorem requestScope_of_valid
    (h : (p.scope s).Valid) :
    s.query.requestWriterScope = p.scope s ∨ ¬ s.query.requestWriterScope.Valid := by
  unfold scope Session.publicationScope at h ⊢
  simp only at h ⊢
  split_ifs at h ⊢
  · exact Or.inl rfl
  · exact absurd h (by decide)
  · exact Or.inl rfl
  · exact absurd h (by decide)
  · exact Or.inr ‹_›

/-- The publication of retained results is under the scope that they were retained under. -/
theorem retainedScope_of_valid
    (h : (p.scope s).Valid)
    (hdeferred : p.deferred s = true) :
    s.extendedRfq.writerScope = p.scope s := by
  unfold scope Session.publicationScope at h ⊢
  rw [hdeferred] at h ⊢
  simp only [Bool.not_true, Bool.false_eq_true, if_false] at h ⊢
  split_ifs at h ⊢
  · exact absurd h (by decide)
  · rename_i _ _ hmatches
    exact hmatches.eq.symm
  · exact absurd h (by decide)
  · rfl

/-- A confirmed target counts for a response of the scope that it was confirmed under. -/
theorem confirmedTarget_origin
    (hpos : 0 < p.confirmedTarget s) :
    p.scopeMatches s = true ∧
      ∃ scope, Confirmed p s (p.confirmedTarget s) scope ∧
        (scope = p.scope s ∨ ¬ scope.Valid) := by
  have hmatches : p.scopeMatches s = true := by
    by_contra hother
    unfold confirmedTarget Session.publishedReadTarget at hpos
    simp [eq_false_of_ne_true hother] at hpos
  obtain ⟨-, -, -, hvalid, -⟩ := scope_of_scopeMatches hmatches
  have hrequest := requestScope_of_valid hvalid
  have hcurrent : ∃ scope, Confirmed p s
      (max (s.completedWaitTarget p.conn) s.query.waitBypassTarget) scope ∧
        (scope = p.scope s ∨ ¬ scope.Valid) := by
    rcases max_choice (s.completedWaitTarget p.conn) s.query.waitBypassTarget with hmax | hmax
    · rw [hmax]
      exact ⟨_, Confirmed.waited, hrequest⟩
    · rw [hmax]
      exact ⟨_, Confirmed.bypassed, hrequest⟩
  refine ⟨hmatches, ?_⟩
  unfold confirmedTarget Session.publishedReadTarget
  simp only [hmatches, if_true]
  split
  case isFalse =>
    exact hcurrent
  case isTrue hretained =>
    simp only [Bool.and_eq_true] at hretained
    obtain ⟨⟨⟨hdeferred, -⟩, hconsistent⟩, -⟩ := hretained
    rcases max_choice (max (s.completedWaitTarget p.conn) s.query.waitBypassTarget)
      s.extendedRfq.confirmedReadTarget with hmax | hmax
    · rw [hmax]
      exact hcurrent
    · rw [hmax]
      exact ⟨_, Confirmed.retained hdeferred hconsistent,
        Or.inl (retainedScope_of_valid hvalid hdeferred)⟩

theorem completedWaitTarget_le_confirmed
    (h : p.scopeMatches s = true) :
    s.completedWaitTarget p.conn ≤ p.confirmedTarget s := by
  unfold confirmedTarget Session.publishedReadTarget
  simp only [h, if_true]
  split
  · omega
  · omega

theorem confirmedTarget_eq_zero
    (hwait : s.completedWaitTarget p.conn = 0)
    (hbypass : s.query.waitBypassTarget = 0)
    (hretained : p.deferred s = true → s.extendedRfq.confirmedReadTarget = 0) :
    p.confirmedTarget s = 0 := by
  unfold confirmedTarget Session.publishedReadTarget
  rw [hwait, hbypass]
  simp only [max_self, ite_self]
  split
  case isTrue hdeferred =>
    simp only [Bool.and_eq_true] at hdeferred
    rw [hretained hdeferred.1.1.1, max_self]
  case isFalse =>
    rfl

/-- The session target counts under the scope of the session only. -/
theorem targetInScope_pos
    (hpos : 0 < s.targetInScope (p.scope s)) :
    s.consistency.writerScope = p.scope s ∧ s.targetInScope (p.scope s) = s.consistency.target := by
  unfold Session.targetInScope at hpos ⊢
  split at hpos
  case isTrue hmatches =>
    exact ⟨hmatches.eq, if_pos hmatches⟩
  case isFalse =>
    exact absurd hpos (Nat.lt_irrefl 0)

end Publication

/-! ## What is published -/

/-- A published position is one that the client may rely on. -/
structure ClientReadyLsnSound (p : Publication) (s : Session) (lsn : Nat) : Prop where
  requested : s.routeState.clientRfqLsnRequested = true
  /-- The backend sent a position. -/
  payload : p.backendPayload s = true
  /-- It is the position of the backend, the session target of a response of the writer, or a
  confirmed target of the same scope. -/
  origin :
    lsn = p.backendLsn s ∨
      (p.fromWriter s = true ∧ s.consistency.writerScope = p.scope s ∧
        lsn = s.consistency.target) ∨
      (p.scopeMatches s = true ∧
        ∃ scope, p.Confirmed s lsn scope ∧ (scope = p.scope s ∨ ¬ scope.Valid))
  /-- It covers the position of the backend, unless the session target stands for that. -/
  covers : ¬ p.SessionBaseline s → p.backendLsn s ≤ lsn
  /-- The session target stands for the position of a writer only. -/
  baseline : p.SessionBaseline s →
    p.fromWriter s = true ∧ lsn = max s.consistency.target (p.confirmedTarget s)
  /-- A response of the writer covers the session target. -/
  writer : p.fromWriter s = true → s.targetInScope (p.scope s) ≤ lsn
  /-- A completed wait is covered. -/
  waited : p.scopeMatches s = true → s.completedWaitTarget p.conn ≤ lsn
  /-- The position of a reader that nothing was confirmed of is published as it is. -/
  reader : p.fromWriter s = false → s.completedWaitTarget p.conn = 0 →
    s.query.waitBypassTarget = 0 → (p.deferred s = true → s.extendedRfq.confirmedReadTarget = 0) →
    lsn = p.backendLsn s

namespace Publication

variable {p : Publication} {s : Session}

theorem fromWriter_of_keepsSessionLsn
    (h : p.keepsSessionLsn s = true) :
    p.fromWriter s = true := by
  unfold keepsSessionLsn at h
  simp only [Bool.and_eq_true] at h
  exact h.1.2

theorem rfqBaseline_of_not
    (h : ¬ p.SessionBaseline s) :
    rfqBaseline (p.backendLsn s) (s.targetInScope (p.scope s)) (p.keepsSessionLsn s)
      (p.fromWriter s) = p.backendLsn s := by
  unfold rfqBaseline
  split
  case isTrue hbaseline =>
    simp only [Bool.and_eq_true, decide_eq_true_eq] at hbaseline
    exact absurd ⟨hbaseline.1.1, hbaseline.2⟩ h
  case isFalse =>
    rfl

theorem rfqBaseline_of_baseline
    (h : p.SessionBaseline s) :
    rfqBaseline (p.backendLsn s) (s.targetInScope (p.scope s)) (p.keepsSessionLsn s)
      (p.fromWriter s) = s.targetInScope (p.scope s) := by
  unfold rfqBaseline
  rw [h.1, fromWriter_of_keepsSessionLsn h.1, decide_eq_true h.2]
  rfl

theorem published_lsn
    {lsn : Nat}
    (h : p.published s = some lsn) :
    lsn = max
      (rfqBaseline (p.backendLsn s) (s.targetInScope (p.scope s)) (p.keepsSessionLsn s)
        (p.fromWriter s))
      (max (rfqWriterTarget (s.targetInScope (p.scope s)) (p.fromWriter s))
        (p.confirmedTarget s)) := by
  obtain ⟨hinclude, hlsn⟩ := decision_of_published h
  rw [hlsn]
  exact clientRfqDecision_lsn hinclude

theorem published_origin
    {lsn : Nat}
    (h : p.published s = some lsn) :
    lsn = p.backendLsn s ∨
      (p.fromWriter s = true ∧ s.consistency.writerScope = p.scope s ∧
        lsn = s.consistency.target) ∨
      (p.scopeMatches s = true ∧
        ∃ scope, p.Confirmed s lsn scope ∧ (scope = p.scope s ∨ ¬ scope.Valid)) := by
  have hlsn := published_lsn h
  by_cases hbackend : lsn = p.backendLsn s
  · exact Or.inl hbackend
  by_cases hconfirmed : lsn = p.confirmedTarget s ∧ 0 < p.confirmedTarget s
  · obtain ⟨hmatches, hsource⟩ := confirmedTarget_origin hconfirmed.2
    rw [hconfirmed.1]
    exact Or.inr (Or.inr ⟨hmatches, hsource⟩)
  have htarget : lsn = s.targetInScope (p.scope s) ∧ p.fromWriter s = true ∧
      0 < s.targetInScope (p.scope s) := by
    by_cases hbaseline : p.SessionBaseline s
    · have hwriter := fromWriter_of_keepsSessionLsn hbaseline.1
      have hpos := hbaseline.2
      rw [rfqBaseline_of_baseline hbaseline, rfqWriterTarget, hwriter, if_pos rfl] at hlsn
      exact ⟨by omega, hwriter, hpos⟩
    · rw [rfqBaseline_of_not hbaseline] at hlsn
      cases hwriter : p.fromWriter s with
      | true =>
          rw [rfqWriterTarget, hwriter, if_pos rfl] at hlsn
          exact ⟨by omega, rfl, by omega⟩
      | false =>
          rw [rfqWriterTarget, hwriter, if_neg Bool.false_ne_true] at hlsn
          omega
  obtain ⟨heq, hwriter, hpos⟩ := htarget
  obtain ⟨hscope, hsession⟩ := targetInScope_pos hpos
  exact Or.inr (Or.inl ⟨hwriter, hscope, heq.trans hsession⟩)

end Publication

/-- Whatever the state of the session and the RFQ of the backend are, a published position is
sound. -/
theorem clientReadyLsn_sound
    (p : Publication) (s : Session) (lsn : Nat)
    (h : p.published s = some lsn) :
    ClientReadyLsnSound p s lsn := by
  obtain ⟨hinclude, -⟩ := Publication.decision_of_published h
  obtain ⟨hrequested, hpayload⟩ := clientRfqDecision_include hinclude
  have hlsn := Publication.published_lsn h
  refine ⟨hrequested, hpayload, Publication.published_origin h, ?_, ?_, ?_, ?_, ?_⟩
  · intro hbaseline
    rw [Publication.rfqBaseline_of_not hbaseline] at hlsn
    omega
  · intro hbaseline
    have hwriter := Publication.fromWriter_of_keepsSessionLsn hbaseline.1
    obtain ⟨-, hsession⟩ := Publication.targetInScope_pos hbaseline.2
    rw [Publication.rfqBaseline_of_baseline hbaseline, rfqWriterTarget, hwriter, if_pos rfl] at hlsn
    rw [← hsession]
    exact ⟨hwriter, by omega⟩
  · intro hwriter
    rw [rfqWriterTarget, hwriter, if_pos rfl] at hlsn
    omega
  · intro hmatches
    have hle := Publication.completedWaitTarget_le_confirmed hmatches
    omega
  · intro hreader hwait hbypass hretained
    have hzero := Publication.confirmedTarget_eq_zero hwait hbypass hretained
    have hbaseline : ¬ p.SessionBaseline s := by
      intro hkept
      rw [Publication.fromWriter_of_keepsSessionLsn hkept.1] at hreader
      cases hreader
    rw [Publication.rfqBaseline_of_not hbaseline, rfqWriterTarget, hreader, hzero,
      if_neg Bool.false_ne_true] at hlsn
    omega

/-! ## A read at the start of a transaction -/

/-- A writer that answers outside of a transaction -/
def autocommitWriter : Backend :=
  { hostgroup := some 0, lsn := 5, payloadPresent := true }

/-- A writer in a transaction that has written nothing -/
def unwrittenWriter : Backend :=
  { hostgroup := some 0
    lsn := 10
    payloadPresent := true
    txnStatus := 'T'
    txnXids := some ""
    txnSplittable := true }

/-- A client that asked for positions wrote, and reads in a new transaction. -/
def writeThenRead : List SessionEvent :=
  [.observe {} (some 1) 0 splitHostgroups insertRequest,
    .result splitHgm (some autocommitWriter) (some insertText) .unknown,
    .observe {} (some 1) 0 splitHostgroups selectRequest]

def readingSession : Session :=
  writeThenRead.foldl (fun s e => (e.apply s).1) { routeState := { clientRfqLsnRequested := true } }

def readingPublication : Publication :=
  { hgm := splitHgm, conn := some unwrittenWriter, payloadPresent := true, lsn := 10 }

/-- The client reads the position of its write. -/
theorem clientReadyLsn_covers_write :
    readingPublication.published readingSession = some 5 ∧
      readingSession.targetInScope (readingPublication.scope readingSession) ≤ 5 := by
  have hpublished : readingPublication.published readingSession = some 5 := by
    decide
  have hwriter : readingPublication.fromWriter readingSession = true := by
    decide
  exact ⟨hpublished,
    (clientReadyLsn_sound readingPublication readingSession 5 hpublished).writer hwriter⟩

/-- The position of the write is below the one that the writer sent. -/
theorem clientReadyLsn_below_writer :
    ¬ ∀ (p : Publication) (s : Session) (lsn : Nat),
      p.published s = some lsn →
      p.fromWriter s = true →
      p.backendLsn s ≤ lsn := by
  intro hclaim
  have hle : readingPublication.backendLsn readingSession ≤ 5 :=
    hclaim readingPublication readingSession 5 (by decide) (by decide)
  exact absurd hle (by decide)

end PolarProxy
