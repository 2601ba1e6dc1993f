import PolarProxy.ExtendedFrame
import Mathlib.Data.List.Basic
import Mathlib.Data.List.Count
import Mathlib.Data.List.Induction
import Mathlib.Logic.Function.Basic
import Mathlib.Order.MinMax

/-!
# Which batches may run on a reader

The shape of a batch is recorded message by message, in flags and in counters that
stop at 255.  `Noted` says what each of them means for the list of messages, and
from it follows when `batch_requires_writer` lets a batch go to a reader.

A Bind captures the statement that its name denotes at that moment, and an Execute
runs what the last Bind captured.  `executed` runs a batch in this way.

**Results.** `Noted.noteBatch`, `batchRequiresWriter_eq_false_iff`, `ShapeClear.next_batch`.
-/

namespace PolarProxy

namespace FrameMessageKind

def isParse : FrameMessageKind → Bool
  | .parse _ => true
  | _ => false

def isBind : FrameMessageKind → Bool
  | .bind _ => true
  | _ => false

def isDescribe : FrameMessageKind → Bool
  | .describeStatement => true
  | .describePortal => true
  | _ => false

def isExecute : FrameMessageKind → Bool
  | .execute => true
  | _ => false

theorem isExecute_iff
    {k : FrameMessageKind} :
    k.isExecute = true ↔ k = .execute := by
  cases k <;> simp [isExecute]

end FrameMessageKind

open FrameMessageKind

/-! ## Shapes of batches -/

/-- Every Describe is a portal Describe with an Execute right after it. -/
def DescribesFolded (ks : List FrameMessageKind) : Prop :=
  ∀ pre k post, ks = pre ++ k :: post → k.isDescribe = true →
    k = .describePortal ∧ post.head? = some .execute

def ParsesBeforeBinds (ks : List FrameMessageKind) : Prop :=
  ks.Pairwise fun k k' => ¬ (k.isBind = true ∧ k'.isParse = true)

def LastBindMatches (ks : List FrameMessageKind) : Prop :=
  ∃ a b c name, ks = a ++ .parse name :: (b ++ .bind name :: c) ∧
    b.any isParse = false ∧ c.any isBind = false

def ParseBeforeLastExecute (ks : List FrameMessageKind) : Prop :=
  ∃ a c, ks = a ++ .execute :: c ∧ a.any isParse = true ∧ c.any isExecute = false

/-- A Parse before all Binds, the last Bind before the Execute names its statement. -/
def ParseBindExecute (ks : List FrameMessageKind) : Prop :=
  ∃ a b c d name, ks = a ++ .parse name :: (b ++ .bind name :: (c ++ .execute :: d)) ∧
    a.any isBind = false ∧ c.any isBind = false

/-- A Parse before all Binds and before the Execute, the last Bind of the batch names its
statement. -/
def ParsedLastBound (ks : List FrameMessageKind) : Prop :=
  ∃ a b c name, ks = a ++ .parse name :: (b ++ .bind name :: c) ∧
    a.any isBind = false ∧ a.any isExecute = false ∧ c.any isBind = false

def BindsBeforeExecute (ks : List FrameMessageKind) : Prop :=
  ks.Pairwise fun k k' => ¬ (k.isExecute = true ∧ k'.isBind = true)

theorem BindsBeforeExecute.after
    {ks post : List FrameMessageKind}
    (h : BindsBeforeExecute ks)
    (pre : List FrameMessageKind)
    (hsplit : ks = pre ++ .execute :: post) :
    post.any isBind = false := by
  rw [BindsBeforeExecute, hsplit, List.pairwise_append, List.pairwise_cons] at h
  rw [List.any_eq_false]
  intro k hk hbind
  exact h.2.1.1 k hk ⟨rfl, hbind⟩

def lastParseName (ks : List FrameMessageKind) : Option String :=
  (ks.filterMap fun
    | .parse name => some name
    | _ => none).getLast?

/-- Where the last element of a list stands in a split of it. -/
theorem snoc_eq_append_cons
    {α : Type} {ks a b : List α} {k x : α}
    (h : ks ++ [k] = a ++ x :: b) :
    (a = ks ∧ x = k ∧ b = []) ∨ ∃ b', b = b' ++ [k] ∧ ks = a ++ x :: b' := by
  rcases List.eq_nil_or_concat b with rfl | ⟨b', k', rfl⟩
  · obtain ⟨hinit, hlast⟩ := List.append_inj' h rfl
    simp only [List.cons.injEq, and_true] at hlast
    exact Or.inl ⟨hinit.symm, hlast.symm, rfl⟩
  · rw [List.concat_eq_append] at h ⊢
    rw [← List.cons_append, ← List.append_assoc] at h
    obtain ⟨hinit, hlast⟩ := List.append_inj' h rfl
    simp only [List.cons.injEq, and_true] at hlast
    exact Or.inr ⟨b', by rw [hlast], hinit⟩

variable {name : String}

theorem lastParseName_eq_some_iff
    {ks : List FrameMessageKind} :
    lastParseName ks = some name ↔ ∃ a b, ks = a ++ .parse name :: b ∧ b.any isParse = false := by
  induction ks using List.reverseRecOn with
  | nil =>
      simp [lastParseName]
  | append_singleton ks k ih =>
      have hother (hk : k.isParse = false) :
          (∃ a b, ks ++ [k] = a ++ .parse name :: b ∧ b.any isParse = false) ↔
            ∃ a b, ks = a ++ .parse name :: b ∧ b.any isParse = false := by
        constructor
        · rintro ⟨a, b, heq, hb⟩
          obtain ⟨-, rfl, -⟩ | ⟨b', rfl, hks⟩ := snoc_eq_append_cons heq
          · simp [isParse] at hk
          · rw [List.any_append, Bool.or_eq_false_iff] at hb
            exact ⟨a, b', hks, hb.1⟩
        · rintro ⟨a, b, rfl, hb⟩
          exact ⟨a, b ++ [k], by simp, by simp [hb, hk]⟩
      cases k with
      | parse name' =>
          constructor
          · intro h
            have hname : name' = name := by
              simpa [lastParseName] using h
            subst hname
            exact ⟨ks, [], rfl, rfl⟩
          · rintro ⟨a, b, heq, hb⟩
            obtain ⟨-, hname, -⟩ | ⟨b', rfl, -⟩ := snoc_eq_append_cons heq
            · simp only [FrameMessageKind.parse.injEq] at hname
              simp [lastParseName, hname]
            · simp [isParse] at hb
      | _ =>
          rw [hother rfl, ← ih]
          simp [lastParseName]

/-! ## The recorded shape -/

namespace ExtendedQueryFrameState

/-- Nothing of a batch is recorded yet. -/
structure ShapeClear (s : ExtendedQueryFrameState) : Prop where
  last : s.batchLastWasPortalDescribe = false
  parses : s.batchParseCount = 0
  executes : s.batchExecuteCount = 0
  metadata : s.batchBackendMetadataCount = 0
  parseName : s.batchParseStmtName = none
  sawParse : s.batchSawParse = false
  sawBind : s.batchSawBind = false
  namesMatch : s.batchStmtNamesMatch = false
  precedes : s.batchParsePrecedesExecute = false
  complete : s.batchRouteShapeComplete = true

/-- Nothing is recorded, and the classification of the batch is not latched either. -/
structure BatchClear (s : ExtendedQueryFrameState) : Prop extends s.ShapeClear where
  latched : s.batchClassificationLatched = false
  classify : s.batchClassifyRoute = false

/-- The messages of a batch, recorded with route classification on. -/
def noteBatch (s : ExtendedQueryFrameState) (ks : List FrameMessageKind) :
    ExtendedQueryFrameState :=
  ks.foldl (fun s k => s.noteMessage k true) s

/-- A batch for which routes are not classified leaves the shape as it was. -/
structure Unclassified (s : ExtendedQueryFrameState) : Prop where
  clear : { s with batchLastWasPortalDescribe := false }.ShapeClear
  counted : s.batchLastWasPortalDescribe = true → s.backendCandidatesRemaining ≠ 0

theorem ShapeClear.unclassified
    {s : ExtendedQueryFrameState}
    (h : s.ShapeClear) :
    s.Unclassified where
  clear := ⟨rfl, h.parses, h.executes, h.metadata, h.parseName, h.sawParse, h.sawBind,
    h.namesMatch, h.precedes, h.complete⟩
  counted hlast := by
    simp [h.last] at hlast

theorem Unclassified.noteMessage
    {s : ExtendedQueryFrameState} {k : FrameMessageKind}
    (h : s.Unclassified) :
    (s.noteMessage k false).Unclassified := by
  have hclear := h.clear
  cases k with
  | execute =>
      cases hlast : s.batchLastWasPortalDescribe with
      | true =>
          have hcandidates := h.counted hlast
          refine ⟨?_, ?_⟩
          · simpa [ExtendedQueryFrameState.noteMessage, noteExecute, foldDescribe, hlast,
              hcandidates] using ⟨rfl, hclear.parses, hclear.executes, hclear.metadata,
                hclear.parseName, hclear.sawParse, hclear.sawBind, hclear.namesMatch,
                hclear.precedes, hclear.complete⟩
          · simp [ExtendedQueryFrameState.noteMessage, noteExecute]
      | false =>
          refine ⟨?_, ?_⟩
          · simpa [ExtendedQueryFrameState.noteMessage, noteExecute, hlast] using
              ⟨rfl, hclear.parses, hclear.executes, hclear.metadata, hclear.parseName,
                hclear.sawParse, hclear.sawBind, hclear.namesMatch, hclear.precedes,
                hclear.complete⟩
          · simp [ExtendedQueryFrameState.noteMessage, noteExecute]
  | describePortal =>
      refine ⟨⟨rfl, hclear.parses, hclear.executes, hclear.metadata, hclear.parseName,
        hclear.sawParse, hclear.sawBind, hclear.namesMatch, hclear.precedes, hclear.complete⟩, ?_⟩
      simp [ExtendedQueryFrameState.noteMessage, noteDescribe]
  | _ =>
      refine ⟨⟨rfl, hclear.parses, hclear.executes, hclear.metadata, hclear.parseName,
        hclear.sawParse, hclear.sawBind, hclear.namesMatch, hclear.precedes, hclear.complete⟩, ?_⟩
      simp [ExtendedQueryFrameState.noteMessage, noteParse, noteBind, noteDescribe,
        noteLocalMessage]

theorem latch_unclassified
    {s : ExtendedQueryFrameState} {routeActive : Bool}
    (h : s.Unclassified) :
    (s.latchBatchClassification routeActive).Unclassified := by
  unfold latchBatchClassification
  split
  · exact h
  · exact ⟨⟨rfl, h.clear.parses, h.clear.executes, h.clear.metadata, h.clear.parseName,
      h.clear.sawParse, h.clear.sawBind, h.clear.namesMatch, h.clear.precedes, h.clear.complete⟩,
      h.counted⟩

/-- Queueing the messages of a batch, each under the activity at that time, and
clearing the shape leaves no field of the batch set. -/
theorem ShapeClear.next_batch
    {s : ExtendedQueryFrameState}
    (h : s.ShapeClear)
    (ms : List (Bool × FrameMessageKind)) :
    (ms.foldl (fun s m => s.queueMessage m.1 m.2) s).clearBatchShape.BatchClear := by
  have hqueue : ∀ s : ExtendedQueryFrameState,
      (s.batchClassificationLatched = true ∧ s.batchClassifyRoute = true) ∨ s.Unclassified →
      (ms.foldl (fun s m => s.queueMessage m.1 m.2) s).batchClassifyRoute = true ∨
        (ms.foldl (fun s m => s.queueMessage m.1 m.2) s).Unclassified := by
    induction ms with
    | nil =>
        exact fun s hs => hs.imp_left And.right
    | cons m ms ih =>
        intro s hs
        refine ih _ ?_
        have hkeep := noteMessage_withoutBatch (s.latchBatchClassification m.1) m.2
          (s.latchBatchClassification m.1).batchClassifyRoute
        have hlatch : (s.queueMessage m.1 m.2).batchClassificationLatched =
            (s.latchBatchClassification m.1).batchClassificationLatched := by
          have := congrArg batchClassificationLatched hkeep
          exact this
        have hroute : (s.queueMessage m.1 m.2).batchClassifyRoute =
            (s.latchBatchClassification m.1).batchClassifyRoute := by
          have := congrArg batchClassifyRoute hkeep
          exact this
        have hset : (s.latchBatchClassification m.1).batchClassificationLatched = true := by
          unfold latchBatchClassification
          split <;> simp [*]
        cases hclass : (s.latchBatchClassification m.1).batchClassifyRoute with
        | true =>
            exact Or.inl ⟨hlatch.trans hset, hroute.trans hclass⟩
        | false =>
            right
            simp only [queueMessage, hclass]
            refine Unclassified.noteMessage ?_
            rcases hs with ⟨hl, hr⟩ | hs
            · rw [latchBatchClassification, if_pos hl, hr] at hclass
              cases hclass
            · exact latch_unclassified hs
  rcases hqueue s (Or.inr h.unclassified) with hroute | hclear
  · simp only [clearBatchShape, hroute, ↓reduceIte]
    exact ⟨⟨rfl, rfl, rfl, rfl, rfl, rfl, rfl, rfl, rfl, rfl⟩, rfl, rfl⟩
  · have hc := hclear.clear
    unfold clearBatchShape
    split
    · exact ⟨⟨rfl, rfl, rfl, rfl, rfl, rfl, rfl, rfl, rfl, rfl⟩, rfl, rfl⟩
    · exact ⟨⟨rfl, hc.parses, hc.executes, hc.metadata, hc.parseName, hc.sawParse, hc.sawBind,
        hc.namesMatch, hc.precedes, hc.complete⟩, rfl, rfl⟩

theorem ShapeClear.next_batch_mixed :
    ([(true, .parse "a"), (false, .bind "a"), (true, .describePortal), (false, .execute)].foldl
      (fun s m => s.queueMessage m.1 m.2) ({} : ExtendedQueryFrameState)).clearBatchShape.BatchClear :=
  ShapeClear.next_batch ⟨rfl, rfl, rfl, rfl, rfl, rfl, rfl, rfl, rfl, rfl⟩ _

/-- What the flags and counters say about the messages recorded so far. -/
structure Noted (ks : List FrameMessageKind) (s : ExtendedQueryFrameState) : Prop where
  last : s.batchLastWasPortalDescribe = true → ks.getLast? = some .describePortal ∧
    s.backendCandidatesRemaining ≠ 0 ∧ s.batchBackendMetadataCount ≠ 0
  parses : s.batchParseCount = min (ks.countP isParse) 255
  executes : s.batchExecuteCount = min (ks.countP isExecute) 255
  parseName : s.batchParseStmtName = lastParseName ks
  sawParse : s.batchSawParse = ks.any isParse
  sawBind : s.batchSawBind = ks.any isBind
  namesMatch : s.batchStmtNamesMatch = true ↔ LastBindMatches ks
  precedes : s.batchParsePrecedesExecute = true ↔ ParseBeforeLastExecute ks
  complete : s.batchRouteShapeComplete = true ↔ ParsesBeforeBinds ks

theorem incrementShapeCount_min
    (n : Nat) :
    incrementShapeCount (min n 255) = min (n + 1) 255 := by
  unfold incrementShapeCount
  split <;> omega

end ExtendedQueryFrameState

variable {k : FrameMessageKind}

theorem lastBindMatches_append
    {ks : List FrameMessageKind}
    (hk : k.isBind = false) :
    LastBindMatches (ks ++ [k]) ↔ LastBindMatches ks := by
  constructor
  · rintro ⟨a, b, c, name, heq, hb, hc⟩
    rw [← List.cons_append, ← List.append_assoc] at heq
    obtain ⟨-, rfl, -⟩ | ⟨c', rfl, rfl⟩ := snoc_eq_append_cons heq
    · simp [isBind] at hk
    · rw [List.any_append, Bool.or_eq_false_iff] at hc
      exact ⟨a, b, c', name, by simp, hb, hc.1⟩
  · rintro ⟨a, b, c, name, rfl, hb, hc⟩
    exact ⟨a, b, c ++ [k], name, by simp, hb, by simp [hc, hk]⟩

theorem lastBindMatches_bind
    {ks : List FrameMessageKind} :
    LastBindMatches (ks ++ [.bind name]) ↔ lastParseName ks = some name := by
  rw [lastParseName_eq_some_iff]
  constructor
  · rintro ⟨a, b, c, name', heq, hb, hc⟩
    rw [← List.cons_append, ← List.append_assoc] at heq
    obtain ⟨rfl, hname, -⟩ | ⟨c', rfl, -⟩ := snoc_eq_append_cons heq
    · simp only [FrameMessageKind.bind.injEq] at hname
      subst hname
      exact ⟨a, b, rfl, hb⟩
    · simp [isBind] at hc
  · rintro ⟨a, b, rfl, hb⟩
    exact ⟨a, b, [], name, by simp, hb, rfl⟩

theorem parseBeforeLastExecute_append
    {ks : List FrameMessageKind}
    (hk : k.isExecute = false) :
    ParseBeforeLastExecute (ks ++ [k]) ↔ ParseBeforeLastExecute ks := by
  constructor
  · rintro ⟨a, c, heq, ha, hc⟩
    obtain ⟨-, rfl, -⟩ | ⟨c', rfl, rfl⟩ := snoc_eq_append_cons heq
    · simp [isExecute] at hk
    · rw [List.any_append, Bool.or_eq_false_iff] at hc
      exact ⟨a, c', rfl, ha, hc.1⟩
  · rintro ⟨a, c, rfl, ha, hc⟩
    exact ⟨a, c ++ [k], by simp, ha, by simp [hc, hk]⟩

theorem parseBeforeLastExecute_execute
    {ks : List FrameMessageKind} :
    ParseBeforeLastExecute (ks ++ [.execute]) ↔ ks.any isParse = true := by
  constructor
  · rintro ⟨a, c, heq, ha, hc⟩
    obtain ⟨rfl, -, -⟩ | ⟨c', rfl, -⟩ := snoc_eq_append_cons heq
    · exact ha
    · simp [isExecute] at hc
  · intro h
    exact ⟨ks, [], rfl, h, rfl⟩

theorem parsesBeforeBinds_append
    {ks : List FrameMessageKind} :
    ParsesBeforeBinds (ks ++ [k]) ↔
      ParsesBeforeBinds ks ∧ (k.isParse = true → ks.any isBind = false) := by
  simp only [ParsesBeforeBinds, List.pairwise_append, List.pairwise_singleton, true_and,
    List.mem_singleton, forall_eq, List.any_eq_false]
  refine and_congr_right fun _ => ?_
  constructor
  · intro h hk x hx hbind
    exact h x hx ⟨hbind, hk⟩
  · rintro h x hx ⟨hbind, hk⟩
    exact h hk x hx hbind

namespace ExtendedQueryFrameState

variable {s : ExtendedQueryFrameState} {ks : List FrameMessageKind}

theorem ShapeClear.noted
    (h : s.ShapeClear) :
    Noted [] s where
  last hlast := by
    simp [h.last] at hlast
  parses := h.parses
  executes := h.executes
  parseName := h.parseName
  sawParse := h.sawParse
  sawBind := h.sawBind
  namesMatch := by
    simp [h.namesMatch, LastBindMatches]
  precedes := by
    simp [h.precedes, ParseBeforeLastExecute]
  complete := by
    simp [h.complete, ParsesBeforeBinds]

theorem noteExecute_eq
    (h : s.batchLastWasPortalDescribe = true →
      s.backendCandidatesRemaining ≠ 0 ∧ s.batchBackendMetadataCount ≠ 0) :
    s.noteExecute true =
      { s with
        backendCandidatesRemaining :=
          if s.batchLastWasPortalDescribe then s.backendCandidatesRemaining
          else s.backendCandidatesRemaining + 1
        batchBackendMetadataCount :=
          if s.batchLastWasPortalDescribe then s.batchBackendMetadataCount - 1
          else s.batchBackendMetadataCount
        batchExecuteCount := incrementShapeCount s.batchExecuteCount
        batchParsePrecedesExecute := s.batchSawParse
        batchLastWasPortalDescribe := false } := by
  cases hlast : s.batchLastWasPortalDescribe with
  | true =>
      obtain ⟨hcandidates, hmetadata⟩ := h hlast
      simp [noteExecute, foldDescribe, hlast, hcandidates, hmetadata]
  | false =>
      simp [noteExecute, hlast]

theorem Noted.other
    {s' : ExtendedQueryFrameState}
    (h : Noted ks s)
    (hk : k.isParse = false ∧ k.isBind = false ∧ k.isExecute = false)
    (hlast : s'.batchLastWasPortalDescribe = true → k = .describePortal ∧
      s'.backendCandidatesRemaining ≠ 0 ∧ s'.batchBackendMetadataCount ≠ 0)
    (hsame : s' = { s with
      backendCandidatesRemaining := s'.backendCandidatesRemaining
      batchLastWasPortalDescribe := s'.batchLastWasPortalDescribe
      batchBackendMetadataCount := s'.batchBackendMetadataCount }) :
    Noted (ks ++ [k]) s' := by
  obtain ⟨hparse, hbind, hexecute⟩ := hk
  have hname : lastParseName (ks ++ [k]) = lastParseName ks := by
    cases k with
    | parse name =>
        cases hparse
    | _ =>
        simp [lastParseName]
  rw [hsame]
  exact
    { last := fun hset => by
        obtain ⟨rfl, hcounts⟩ := hlast hset
        exact ⟨by simp, hcounts⟩
      parses := by simp [h.parses, hparse]
      executes := by simp [h.executes, hexecute]
      parseName := by rw [hname, ← h.parseName]
      sawParse := by simp [h.sawParse, hparse]
      sawBind := by simp [h.sawBind, hbind]
      namesMatch := by rw [lastBindMatches_append hbind, ← h.namesMatch]
      precedes := by rw [parseBeforeLastExecute_append hexecute, ← h.precedes]
      complete := by simp [parsesBeforeBinds_append, ← h.complete, hparse] }

theorem Noted.note
    (h : Noted ks s) :
    Noted (ks ++ [k]) (s.noteMessage k true) := by
  cases k with
  | parse name =>
      exact
        { last := by simp [noteMessage, noteParse]
          parses := by
            simp [noteMessage, noteParse, h.parses, incrementShapeCount_min, isParse]
          executes := by simp [noteMessage, noteParse, h.executes, isExecute]
          parseName := by simp [noteMessage, noteParse, lastParseName]
          sawParse := by simp [noteMessage, noteParse, isParse]
          sawBind := by simp [noteMessage, noteParse, isBind, h.sawBind]
          namesMatch := by
            rw [lastBindMatches_append rfl, ← h.namesMatch]
            rfl
          precedes := by
            rw [parseBeforeLastExecute_append rfl, ← h.precedes]
            rfl
          complete := by
            rw [parsesBeforeBinds_append, ← h.complete, ← h.sawBind]
            simp [noteMessage, noteParse, isParse] }
  | bind name =>
      have hsaw : lastParseName ks = some name → s.batchSawParse = true := by
        intro hlast
        obtain ⟨a, b, rfl, -⟩ := lastParseName_eq_some_iff.mp hlast
        simp [h.sawParse, isParse]
      exact
        { last := by simp [noteMessage, noteBind]
          parses := by simp [noteMessage, noteBind, h.parses, isParse]
          executes := by simp [noteMessage, noteBind, h.executes, isExecute]
          parseName := by simp [noteMessage, noteBind, h.parseName, lastParseName]
          sawParse := by simp [noteMessage, noteBind, isParse, h.sawParse]
          sawBind := by simp [noteMessage, noteBind, isBind]
          namesMatch := by
            rw [lastBindMatches_bind]
            simp only [noteMessage, noteBind, h.parseName, Bool.not_true, Bool.false_eq_true,
              ↓reduceIte, Option.isSome_some, Bool.and_true, Bool.and_eq_true, beq_iff_eq]
            constructor
            · exact fun hmatch => hmatch.2
            · intro hlast
              exact ⟨⟨hsaw hlast, by simp [hlast]⟩, hlast⟩
          precedes := by
            rw [parseBeforeLastExecute_append rfl, ← h.precedes]
            rfl
          complete := by
            rw [parsesBeforeBinds_append, ← h.complete]
            simp [noteMessage, noteBind, isParse] }
  | describeStatement =>
      refine h.other ⟨rfl, rfl, rfl⟩ ?_ rfl
      simp [noteMessage, noteDescribe]
  | describePortal =>
      refine h.other ⟨rfl, rfl, rfl⟩ (fun _ => ⟨rfl, ?_⟩) rfl
      simp only [noteMessage, noteDescribe, ↓reduceIte, incrementShapeCount]
      refine ⟨by simp, ?_⟩
      split <;> omega
  | execute =>
      rw [noteMessage, noteExecute_eq fun hlast => (h.last hlast).2]
      exact
        { last := by simp
          parses := by simp [h.parses, isParse]
          executes := by simp [h.executes, incrementShapeCount_min, isExecute]
          parseName := by simp [h.parseName, lastParseName]
          sawParse := by simp [h.sawParse, isParse]
          sawBind := by simp [h.sawBind, isBind]
          namesMatch := by rw [lastBindMatches_append rfl, ← h.namesMatch]
          precedes := by rw [parseBeforeLastExecute_execute, ← h.sawParse]
          complete := by simp [parsesBeforeBinds_append, ← h.complete, isParse] }
  | local_ =>
      refine h.other ⟨rfl, rfl, rfl⟩ ?_ rfl
      simp [noteMessage, noteLocalMessage]

theorem noteBatch_append
    (ks' : List FrameMessageKind) :
    s.noteBatch (ks ++ ks') = (s.noteBatch ks).noteBatch ks' := by
  simp [ExtendedQueryFrameState.noteBatch]

/-- The recorded shape of a batch. -/
theorem ShapeClear.noteBatch
    (h : s.ShapeClear) :
    Noted ks (s.noteBatch ks) := by
  induction ks using List.reverseRecOn with
  | nil =>
      exact h.noted
  | append_singleton ks k ih =>
      rw [noteBatch_append]
      exact ih.note

theorem noteBatch_metadata
    (hno : ks.any isExecute = false)
    (hle : s.batchBackendMetadataCount ≤ 255) :
    (s.noteBatch ks).batchBackendMetadataCount =
      min (s.batchBackendMetadataCount + ks.countP isDescribe) 255 := by
  induction ks generalizing s with
  | nil =>
      simp only [ExtendedQueryFrameState.noteBatch, List.foldl_nil, List.countP_nil]
      omega
  | cons k ks ih =>
      rw [List.any_cons, Bool.or_eq_false_iff] at hno
      rw [show s.noteBatch (k :: ks) = (s.noteMessage k true).noteBatch ks from rfl,
        List.countP_cons]
      have hincr : incrementShapeCount s.batchBackendMetadataCount =
          min (s.batchBackendMetadataCount + 1) 255 := by
        unfold incrementShapeCount
        split <;> omega
      cases k with
      | execute =>
          simp [isExecute] at hno
      | describeStatement =>
          have hmetadata : (s.noteMessage .describeStatement true).batchBackendMetadataCount =
              min (s.batchBackendMetadataCount + 1) 255 := hincr
          rw [ih hno.2 (by omega), hmetadata]
          simp only [isDescribe, ↓reduceIte]
          omega
      | describePortal =>
          have hmetadata : (s.noteMessage .describePortal true).batchBackendMetadataCount =
              min (s.batchBackendMetadataCount + 1) 255 := hincr
          rw [ih hno.2 (by omega), hmetadata]
          simp only [isDescribe, ↓reduceIte]
          omega
      | _ =>
          exact ih hno.2 hle

theorem noteMessage_last
    (s : ExtendedQueryFrameState) (k : FrameMessageKind) :
    (s.noteMessage k true).batchLastWasPortalDescribe = decide (k = .describePortal) := by
  cases k <;> simp [noteMessage, noteParse, noteBind, noteDescribe, noteExecute, noteLocalMessage]

end ExtendedQueryFrameState

theorem describesFolded_split
    {pre post : List FrameMessageKind}
    (hpre : pre.any isExecute = false)
    (hpost : post.any isExecute = false) :
    DescribesFolded (pre ++ .execute :: post) ↔ post.countP isDescribe = 0 ∧
      (pre.countP isDescribe = 0 ∨
        ∃ pre', pre = pre' ++ [.describePortal] ∧ pre'.countP isDescribe = 0) := by
  have hnone {l a b : List FrameMessageKind} {k : FrameMessageKind}
      (hl : l.any isExecute = false) (heq : l = a ++ k :: b) : b.head? ≠ some .execute := by
    intro hhead
    obtain ⟨c, rfl⟩ := List.head?_eq_some_iff.mp hhead
    simp [heq, isExecute] at hl
  constructor
  · intro h
    constructor
    · rw [List.countP_eq_zero]
      intro k hk hdescribe
      obtain ⟨a, b, rfl⟩ := List.append_of_mem hk
      exact hnone hpost rfl (h (pre ++ .execute :: a) k b (by simp) hdescribe).2
    · by_cases hzero : pre.countP isDescribe = 0
      · exact Or.inl hzero
      · right
        obtain ⟨k, hk, hdescribe⟩ := List.countP_pos_iff.mp (Nat.pos_of_ne_zero hzero)
        obtain ⟨a, b, rfl⟩ := List.append_of_mem hk
        obtain ⟨rfl, hhead⟩ := h a k (b ++ .execute :: post) (by simp) hdescribe
        cases b with
        | cons k' b =>
            exact absurd hhead (hnone (b := k' :: b) hpre rfl)
        | nil =>
            refine ⟨a, rfl, ?_⟩
            rw [List.countP_eq_zero]
            intro k hk hdescribe
            obtain ⟨a', b, rfl⟩ := List.append_of_mem hk
            have hhead := (h a' k (b ++ [.describePortal] ++ .execute :: post) (by simp)
              hdescribe).2
            have hne : (b ++ [FrameMessageKind.describePortal]).head? ≠ some .execute :=
              hnone (a := a') (k := k) hpre (by simp)
            cases b with
            | nil =>
                simp at hhead
            | cons k' b =>
                exact absurd hhead hne
  · rintro ⟨hdescribes, hlast⟩ a k b heq hdescribe
    rw [List.countP_eq_zero] at hdescribes
    rcases hlast with hzero | ⟨pre', rfl, hzero⟩
    · rw [List.countP_eq_zero] at hzero
      have hk : k ∈ pre ++ .execute :: post := by
        rw [heq]
        simp
      rcases List.mem_append.mp hk with hk | hk
      · exact absurd hdescribe (hzero k hk)
      · rcases List.mem_cons.mp hk with rfl | hk
        · cases hdescribe
        · exact absurd hdescribe (hdescribes k hk)
    · rw [List.countP_eq_zero] at hzero
      rw [List.append_assoc, List.singleton_append] at heq
      rcases List.append_eq_append_iff.mp heq with ⟨c, rfl, hc⟩ | ⟨c, rfl, hc⟩
      · cases c with
        | nil =>
            simp only [List.nil_append, List.cons.injEq] at hc
            exact ⟨hc.1.symm, by rw [← hc.2]; rfl⟩
        | cons k' c =>
            simp only [List.cons_append, List.cons.injEq] at hc
            have hk : k ∈ .execute :: post := by
              rw [hc.2]
              simp
            rcases List.mem_cons.mp hk with rfl | hk
            · cases hdescribe
            · exact absurd hdescribe (hdescribes k hk)
      · cases c with
        | nil =>
            simp only [List.nil_append, List.cons.injEq] at hc
            exact ⟨hc.1, by rw [hc.2]; rfl⟩
        | cons k' c =>
            simp only [List.cons_append, List.cons.injEq] at hc
            exact absurd hdescribe (hzero k (by simp [hc.1]))

theorem exists_split_of_one_execute
    {ks : List FrameMessageKind}
    (h : ks.countP isExecute = 1) :
    ∃ pre post, ks = pre ++ .execute :: post ∧ pre.any isExecute = false ∧
      post.any isExecute = false := by
  obtain ⟨k, hk, hexecute⟩ := List.countP_pos_iff.mp (by omega : 0 < ks.countP isExecute)
  obtain rfl := isExecute_iff.mp hexecute
  obtain ⟨pre, post, rfl⟩ := List.append_of_mem hk
  have hzero : pre.countP isExecute = 0 ∧ post.countP isExecute = 0 := by
    simp only [List.countP_append, List.countP_cons, isExecute, ↓reduceIte] at h
    omega
  refine ⟨pre, post, rfl, ?_, ?_⟩
  · simpa [List.any_eq_false, List.countP_eq_zero] using hzero.1
  · simpa [List.any_eq_false, List.countP_eq_zero] using hzero.2

/-- With one Parse and one Execute the recorded flags say that the Parse comes first and
that the last Bind of the batch names it. -/
theorem parsedLastBound_iff
    {ks : List FrameMessageKind}
    (hparse : ks.countP isParse = 1)
    (hexecute : ks.countP isExecute = 1) :
    (ParsesBeforeBinds ks ∧ ParseBeforeLastExecute ks ∧ LastBindMatches ks) ↔
      ParsedLastBound ks := by
  constructor
  · rintro ⟨hfirst, ⟨pre, post, hsplit, hpre, -⟩, a, b, c, name, rfl, -, hc⟩
    refine ⟨a, b, c, name, rfl, ?_, ?_, hc⟩
    · rw [List.any_eq_false]
      intro k hk hbind
      exact (List.pairwise_append.mp hfirst).2.2 k hk (.parse name) (by simp) ⟨hbind, rfl⟩
    · rcases List.append_eq_append_iff.mp hsplit with ⟨l, rfl, hl⟩ | ⟨l, rfl, -⟩
      · -- the Execute stands behind `a`, and it is the only one
        have hrest : 0 < (FrameMessageKind.parse name :: (b ++ .bind name :: c)).countP isExecute := by
          rw [hl, List.countP_pos_iff]
          exact ⟨.execute, by simp, rfl⟩
        rw [List.countP_append] at hexecute
        have hzero : a.countP isExecute = 0 := by omega
        simpa [List.any_eq_false, List.countP_eq_zero] using hzero
      · have hparsed : 0 < pre.countP isParse := by
          rw [List.countP_pos_iff]
          exact List.any_eq_true.mp hpre
        simp only [List.countP_append, List.countP_cons, isParse, ↓reduceIte] at hparse
        omega
  · rintro ⟨a, b, c, name, rfl, ha, hexecutes, hc⟩
    simp only [List.countP_append, List.countP_cons, isParse, isExecute, ↓reduceIte,
      Bool.false_eq_true] at hparse hexecute
    have hno {l : List FrameMessageKind} (hl : l.countP isParse = 0) : ∀ k ∈ l, ¬ k.isParse = true :=
      List.countP_eq_zero.mp hl
    have hrest : ∀ k ∈ b ++ .bind name :: c, ¬ k.isParse = true := by
      refine hno ?_
      simp only [List.countP_append, List.countP_cons, isParse, Bool.false_eq_true, ↓reduceIte]
      omega
    refine ⟨?_, ?_, a, b, c, name, rfl, ?_, hc⟩
    · refine List.pairwise_append.mpr ⟨?_, List.pairwise_cons.mpr ⟨?_, ?_⟩, ?_⟩
      · refine List.pairwise_of_forall_mem_list fun k hk k' hk' hboth => ?_
        exact hno (by omega) k' hk' hboth.2
      · exact fun k hk hboth => hrest k hk hboth.2
      · refine List.pairwise_of_forall_mem_list fun k hk k' hk' hboth => ?_
        exact hrest k' hk' hboth.2
      · intro k hk k' _ hboth
        exact List.any_eq_false.mp ha k hk hboth.1
    · have hbehind : (b ++ FrameMessageKind.bind name :: c).countP isExecute = 1 := by
        have hzero : a.countP isExecute = 0 := by
          simpa [List.any_eq_false, List.countP_eq_zero] using hexecutes
        simp only [List.countP_append, List.countP_cons, isExecute, Bool.false_eq_true, ↓reduceIte]
        omega
      obtain ⟨pre, post, hsplit, -, hpost⟩ := exists_split_of_one_execute hbehind
      refine ⟨a ++ .parse name :: pre, post, ?_, by simp [isParse], hpost⟩
      rw [hsplit]
      simp
    · have hzero : b.countP isParse = 0 := by omega
      simpa [List.any_eq_false, List.countP_eq_zero] using hzero

/-- Where no Bind follows the Execute, it is the Execute that follows the last Bind. -/
theorem ParsedLastBound.parseBindExecute
    {ks : List FrameMessageKind}
    (h : ParsedLastBound ks)
    (hexecute : ks.countP isExecute = 1)
    (hbinds : BindsBeforeExecute ks) :
    ParseBindExecute ks := by
  obtain ⟨a, b, c, name, rfl, ha, hexecutes, hc⟩ := h
  obtain ⟨pre, post, hsplit, -, -⟩ := exists_split_of_one_execute hexecute
  have hmem : FrameMessageKind.execute ∈ a ++ .parse name :: (b ++ .bind name :: c) := by
    rw [hsplit]
    simp
  simp only [List.mem_append, List.mem_cons, reduceCtorEq, false_or] at hmem
  rcases hmem with hmem | hmem | hmem
  · exact absurd rfl (List.any_eq_false.mp hexecutes _ hmem)
  · obtain ⟨b₁, b₂, rfl⟩ := List.append_of_mem hmem
    have hafter : (b₂ ++ .bind name :: c).any isBind = false :=
      hbinds.after (a ++ .parse name :: b₁) (by simp)
    simp [isBind] at hafter
  · obtain ⟨c₁, c₂, rfl⟩ := List.append_of_mem hmem
    rw [List.any_append, Bool.or_eq_false_iff] at hc
    exact ⟨a, b, c₁, c₂, name, rfl, ha, hc.1⟩

namespace ExtendedQueryFrameState

variable {s : ExtendedQueryFrameState} {ks : List FrameMessageKind}

theorem ShapeClear.metadata_eq_zero_iff
    (h : s.ShapeClear)
    (hexecute : ks.countP isExecute = 1) :
    (s.noteBatch ks).batchBackendMetadataCount = 0 ↔ DescribesFolded ks := by
  obtain ⟨pre, post, rfl, hpre, hpost⟩ := exists_split_of_one_execute hexecute
  rw [describesFolded_split hpre hpost, noteBatch_append]
  have hnoted : Noted pre (s.noteBatch pre) := h.noteBatch
  have hbefore := noteBatch_metadata (s := s) hpre (by simp [h.metadata])
  rw [h.metadata, Nat.zero_add] at hbefore
  rw [show (s.noteBatch pre).noteBatch (.execute :: post) =
    ((s.noteBatch pre).noteExecute true).noteBatch post from rfl,
    noteExecute_eq fun hlast => (hnoted.last hlast).2,
    noteBatch_metadata hpost (by simp only; split <;> omega)]
  simp only
  rcases List.eq_nil_or_concat pre with rfl | ⟨pre', k, rfl⟩
  · have hlast : (s.noteBatch []).batchLastWasPortalDescribe = false := h.last
    simp only [hlast, Bool.false_eq_true, ↓reduceIte, hbefore, List.countP_nil, true_or, and_true]
    omega
  · rw [List.concat_eq_append] at *
    have hlast : (s.noteBatch (pre' ++ [k])).batchLastWasPortalDescribe =
        decide (k = .describePortal) := by
      rw [noteBatch_append]
      exact noteMessage_last _ _
    rw [hlast, hbefore]
    by_cases hk : k = .describePortal
    · subst hk
      simp only [decide_true, ↓reduceIte, List.countP_append, List.countP_singleton, isDescribe,
        List.append_cancel_right_eq, exists_eq_left']
      omega
    · have hnot : ¬ ∃ pre'', pre' ++ [k] = pre'' ++ [.describePortal] ∧
          pre''.countP isDescribe = 0 := by
        rintro ⟨pre'', heq, -⟩
        have := (List.append_inj' heq rfl).2
        simp only [List.cons.injEq, and_true] at this
        exact hk this
      simp only [hk, decide_false, Bool.false_eq_true, ↓reduceIte, hnot, or_false]
      omega

theorem batchRequiresWriter_eq_false
    {s : ExtendedQueryFrameState} :
    s.batchRequiresWriter false = false ↔ s.batchRouteShapeComplete = true ∧
      s.batchExecuteCount = 1 ∧ s.batchBackendMetadataCount = 0 ∧
      (s.batchParseCount = 0 ∨ s.batchParseCount = 1 ∧ s.batchParsePrecedesExecute = true ∧
        s.batchStmtNamesMatch = true) := by
  unfold batchRequiresWriter
  cases s.batchRouteShapeComplete with
  | false =>
      simp
  | true =>
      by_cases hexecute : s.batchExecuteCount = 1
      · by_cases hmetadata : s.batchBackendMetadataCount = 0
        · obtain hparse | hparse | hparse : s.batchParseCount = 0 ∨ s.batchParseCount = 1 ∨
              1 < s.batchParseCount := by omega
          · simp [hexecute, hmetadata, hparse]
          · simp [hexecute, hmetadata, hparse]
          · have h0 : s.batchParseCount ≠ 0 := by omega
            have h1 : s.batchParseCount ≠ 1 := by omega
            simp [hexecute, hmetadata, h0, h1, hparse]
        · simp [hexecute, hmetadata]
      · simp [hexecute]

theorem ShapeClear.requiresWriter_iff
    (h : s.ShapeClear) :
    (s.noteBatch ks).batchRequiresWriter false = false ↔
      ks.countP isExecute = 1 ∧ DescribesFolded ks ∧
        (ks.countP isParse = 0 ∨ ks.countP isParse = 1 ∧ ParsedLastBound ks) := by
  have hnoted : Noted ks (s.noteBatch ks) := h.noteBatch
  rw [batchRequiresWriter_eq_false, hnoted.executes, hnoted.parses, hnoted.complete,
    hnoted.precedes, hnoted.namesMatch]
  have hone (n : Nat) : min n 255 = 1 ↔ n = 1 := by omega
  have hzero (n : Nat) : min n 255 = 0 ↔ n = 0 := by omega
  rw [hone, hone, hzero]
  constructor
  · rintro ⟨hfirst, hexecute, hmetadata, hparse⟩
    refine ⟨hexecute, (h.metadata_eq_zero_iff hexecute).mp hmetadata, ?_⟩
    refine hparse.imp_right fun hparse => ⟨hparse.1, ?_⟩
    exact (parsedLastBound_iff hparse.1 hexecute).mp ⟨hfirst, hparse.2⟩
  · rintro ⟨hexecute, hfolded, hparse⟩
    have hmetadata := (h.metadata_eq_zero_iff hexecute).mpr hfolded
    rcases hparse with hparse | ⟨hparse, hshape⟩
    · refine ⟨?_, hexecute, hmetadata, Or.inl hparse⟩
      refine List.pairwise_of_forall_mem_list fun k hk k' hk' hboth => ?_
      exact List.countP_eq_zero.mp hparse k' hk' hboth.2
    · obtain ⟨hfirst, hrest⟩ := (parsedLastBound_iff hparse hexecute).mpr hshape
      exact ⟨hfirst, hexecute, hmetadata, Or.inr ⟨hparse, hrest⟩⟩

end ExtendedQueryFrameState

/-! ## The statement that an Execute runs -/

/-- The prepared statements of a client and the statement of the unnamed portal. -/
structure PortalState (Q : Type) where
  stmts : String → Option Q
  portal : Option Q

namespace PortalState

variable {Q : Type}

/-- A message that is processed without an error, with the statement that an Execute
runs.  Only the unnamed statement may be replaced, only the unnamed portal is
supported, and it is gone after the Execute. -/
def process (p : PortalState Q) : ExtendedMessage Q → Option (PortalState Q × Option Q)
  | .parse stmtName query =>
      if stmtName ≠ "" ∧ (p.stmts stmtName).isSome then none
      else some ({ p with stmts := Function.update p.stmts stmtName (some query) }, none)
  | .bind portalName stmtName =>
      if portalName ≠ "" then none
      else (p.stmts stmtName).map fun query => ({ p with portal := some query }, none)
  | .describe true name => if name ≠ "" ∨ p.portal.isNone then none else some (p, none)
  | .describe false name => if (p.stmts name).isNone then none else some (p, none)
  | .close true name => if name ≠ "" then none else some ({ p with portal := none }, none)
  | .close false name => some ({ p with stmts := Function.update p.stmts name none }, none)
  | .execute portalName =>
      if portalName ≠ "" then none
      else p.portal.map fun query => ({ p with portal := none }, some query)

/-- The statements that the Executes of a batch run, up to the first error. -/
def executed (p : PortalState Q) : List (ExtendedMessage Q) → List Q
  | [] => []
  | m :: ms =>
      match p.process m with
      | none => []
      | some (p', query) => query.toList ++ executed p' ms

variable {ms : List (ExtendedMessage Q)}

theorem executed_append
    {I : PortalState Q → Prop}
    (rest : List (ExtendedMessage Q))
    (hstep : ∀ p m p' query, I p → m ∈ ms → p.process m = some (p', query) →
      query = none ∧ I p')
    {p : PortalState Q}
    (h : I p) :
    p.executed (ms ++ rest) = [] ∨ ∃ p', I p' ∧ p.executed (ms ++ rest) = p'.executed rest := by
  induction ms generalizing p with
  | nil =>
      exact Or.inr ⟨p, h, rfl⟩
  | cons m ms ih =>
      rw [List.cons_append, executed]
      split
      · exact Or.inl rfl
      · rename_i p' query hprocess
        obtain ⟨rfl, hp'⟩ := hstep p m p' query h List.mem_cons_self hprocess
        exact ih (fun p m p' query hp hm => hstep p m p' query hp (List.mem_cons_of_mem _ hm)) hp'

variable {p p' : PortalState Q} {m : ExtendedMessage Q} {query : Option Q}

theorem process_query_eq_none
    (hm : m.kind.isExecute = false)
    (h : p.process m = some (p', query)) :
    query = none := by
  cases m with
  | parse stmtName q =>
      simp only [process] at h
      split at h <;> simp at h
      exact h.2.symm
  | bind portalName stmtName =>
      simp only [process] at h
      split at h <;> simp at h
      obtain ⟨q', -, -, rfl⟩ := h
      rfl
  | describe portal name =>
      cases portal <;> simp only [process] at h <;> split at h <;> simp at h <;> exact h.2.symm
  | close portal name =>
      cases portal with
      | true =>
          simp only [process] at h
          split at h <;> simp at h
          exact h.2.symm
      | false =>
          simp only [process, Option.some.injEq, Prod.mk.injEq] at h
          exact h.2.symm
  | execute portalName =>
      simp [ExtendedMessage.kind, isExecute] at hm

theorem process_stmts
    {q : Q}
    (hm : m.kind.isParse = false)
    (hname : p.stmts name = none ∨ p.stmts name = some q)
    (h : p.process m = some (p', query)) :
    p'.stmts name = none ∨ p'.stmts name = some q := by
  cases m with
  | parse stmtName q =>
      simp [ExtendedMessage.kind, isParse] at hm
  | bind portalName stmtName =>
      simp only [process] at h
      split at h <;> simp at h
      obtain ⟨q', -, rfl, -⟩ := h
      exact hname
  | describe portal name' =>
      cases portal <;> simp only [process] at h <;> split at h <;> simp at h <;>
        exact h.1 ▸ hname
  | close portal name' =>
      cases portal with
      | true =>
          simp only [process] at h
          split at h <;> simp at h
          exact h.1 ▸ hname
      | false =>
          simp only [process, Option.some.injEq, Prod.mk.injEq] at h
          rw [← h.1]
          by_cases heq : name = name'
          · subst heq
            simp
          · simpa [Function.update_of_ne heq] using hname
  | execute portalName =>
      simp only [process] at h
      split at h <;> simp at h
      obtain ⟨q', -, rfl, -⟩ := h
      exact hname

theorem process_portal
    {q : Q}
    (hm : m.kind.isBind = false)
    (hportal : p.portal = none ∨ p.portal = some q)
    (h : p.process m = some (p', query)) :
    p'.portal = none ∨ p'.portal = some q := by
  cases m with
  | parse stmtName q =>
      simp only [process] at h
      split at h <;> simp at h
      exact h.1 ▸ hportal
  | bind portalName stmtName =>
      simp [ExtendedMessage.kind, isBind] at hm
  | describe portal name =>
      cases portal <;> simp only [process] at h <;> split at h <;> simp at h <;>
        exact h.1 ▸ hportal
  | close portal name =>
      cases portal with
      | true =>
          simp only [process] at h
          split at h <;> simp at h
          exact Or.inl (h.1 ▸ rfl)
      | false =>
          simp only [process, Option.some.injEq, Prod.mk.injEq] at h
          exact h.1 ▸ hportal
  | execute portalName =>
      simp only [process] at h
      split at h <;> simp at h
      obtain ⟨q', -, rfl, -⟩ := h
      exact Or.inl rfl

theorem executed_eq_nil
    {p : PortalState Q}
    (hms : ∀ m ∈ ms, m.kind.isExecute = false) :
    p.executed ms = [] := by
  have h := executed_append (I := fun _ => True) []
    (fun p m p' query _ hm hprocess => ⟨process_query_eq_none (hms m hm) hprocess, trivial⟩)
    (p := p) trivial
  rw [List.append_nil] at h
  rcases h with h | ⟨p', -, h⟩
  · exact h
  · rw [h]
    rfl

theorem executed_parse_bind_execute
    {a b c d : List (ExtendedMessage Q)} {name portalName portalName' : String} {q : Q}
    (ha : ∀ m ∈ a, m.kind.isExecute = false)
    (hb : ∀ m ∈ b, m.kind.isExecute = false ∧ m.kind.isParse = false)
    (hc : ∀ m ∈ c, m.kind.isExecute = false ∧ m.kind.isBind = false)
    (hd : ∀ m ∈ d, m.kind.isExecute = false)
    (p : PortalState Q) :
    ∀ query ∈ p.executed (a ++ .parse name q :: (b ++ .bind portalName name ::
      (c ++ .execute portalName' :: d))), query = q := by
  obtain hnil | ⟨p₁, -, heq⟩ := executed_append (I := fun _ => True)
    (.parse name q :: (b ++ .bind portalName name :: (c ++ .execute portalName' :: d)))
    (fun p m p' query _ hm hprocess => ⟨process_query_eq_none (ha m hm) hprocess, trivial⟩)
    (p := p) trivial
  · simp [hnil]
  rw [heq, executed]
  split
  · simp
  rename_i p₂ query hparse
  obtain rfl := process_query_eq_none rfl hparse
  have hname : p₂.stmts name = none ∨ p₂.stmts name = some q := by
    simp only [process] at hparse
    split at hparse <;> simp at hparse
    rw [← hparse]
    simp
  obtain hnil | ⟨p₃, hname, heq⟩ := executed_append
    (I := fun p => p.stmts name = none ∨ p.stmts name = some q)
    (.bind portalName name :: (c ++ .execute portalName' :: d))
    (fun p m p' query hp hm hprocess =>
      ⟨process_query_eq_none (hb m hm).1 hprocess, process_stmts (hb m hm).2 hp hprocess⟩)
    (p := p₂) hname
  · simp [hnil]
  rw [heq, executed]
  split
  · simp
  rename_i p₄ query hbind
  obtain rfl := process_query_eq_none rfl hbind
  have hportal : p₄.portal = none ∨ p₄.portal = some q := by
    simp only [process] at hbind
    split at hbind <;> simp at hbind
    obtain ⟨q', hq', rfl⟩ := hbind
    rcases hname with hname | hname
    · rw [hname] at hq'
      cases hq'
    · rw [hname] at hq'
      exact Or.inr hq'.symm
  obtain hnil | ⟨p₅, hportal, heq⟩ := executed_append
    (I := fun p => p.portal = none ∨ p.portal = some q)
    (.execute portalName' :: d)
    (fun p m p' query hp hm hprocess =>
      ⟨process_query_eq_none (hc m hm).1 hprocess, process_portal (hc m hm).2 hp hprocess⟩)
    (p := p₄) hportal
  · simp [hnil]
  rw [heq, executed]
  split
  · simp
  rename_i p₆ query hexecute
  rw [executed_eq_nil hd]
  simp only [process] at hexecute
  split at hexecute <;> simp at hexecute
  obtain ⟨q', hq', -, rfl⟩ := hexecute
  rcases hportal with hportal | hportal
  · rw [hportal] at hq'
    cases hq'
  · rw [hportal] at hq'
    simp [← Option.some.inj hq']

theorem executed_of_parseBindExecute
    {q : Q}
    (hexecute : (ms.map (·.kind)).countP isExecute = 1)
    (hparse : (ms.map (·.kind)).countP isParse = 1)
    (hshape : ParseBindExecute (ms.map (·.kind)))
    (hq : .parse name q ∈ ms)
    (p : PortalState Q) :
    ∀ query ∈ p.executed ms, query = q := by
  obtain ⟨a, b, c, d, name', hsplit, -, hc⟩ := hshape
  obtain ⟨a, ms₁, rfl, rfl, h₁⟩ := List.map_eq_append_iff.mp hsplit
  obtain ⟨m₁, ms₂, rfl, hm₁, h₂⟩ := List.map_eq_cons_iff.mp h₁
  obtain ⟨b, ms₃, rfl, rfl, h₃⟩ := List.map_eq_append_iff.mp h₂
  obtain ⟨m₂, ms₄, rfl, hm₂, h₄⟩ := List.map_eq_cons_iff.mp h₃
  obtain ⟨c, ms₅, rfl, rfl, h₅⟩ := List.map_eq_append_iff.mp h₄
  obtain ⟨m₃, d, rfl, hm₃, rfl⟩ := List.map_eq_cons_iff.mp h₅
  have hkinds {l : List (ExtendedMessage Q)} {f : FrameMessageKind → Bool}
      (hl : (l.map (·.kind)).countP f = 0) : ∀ m ∈ l, f m.kind = false := by
    intro m hm
    have := List.countP_eq_zero.mp hl m.kind (List.mem_map_of_mem hm)
    simpa using this
  cases m₁ with
  | parse name₁ q₁ =>
      cases m₂ with
      | bind portalName stmtName =>
          cases m₃ with
          | execute portalName' =>
              simp only [ExtendedMessage.kind_parse, ExtendedMessage.kind_bind,
                FrameMessageKind.parse.injEq, FrameMessageKind.bind.injEq] at hm₁ hm₂
              subst hm₁ hm₂
              simp only [List.map_append, List.map_cons, List.countP_append, List.countP_cons,
                ExtendedMessage.kind_parse, ExtendedMessage.kind_bind,
                ExtendedMessage.kind_execute, isParse, isExecute, ↓reduceIte, Bool.false_eq_true]
                at hparse hexecute
              have hsame : q₁ = q := by
                have hrest {l : List (ExtendedMessage Q)}
                    (hl : (l.map (·.kind)).countP isParse = 0) : .parse name q ∉ l := by
                  intro hmem
                  have := hkinds hl _ hmem
                  simp [ExtendedMessage.kind, isParse] at this
                have ha := hrest (l := a) (by omega)
                have hb := hrest (l := b) (by omega)
                have hc' := hrest (l := c) (by omega)
                have hd := hrest (l := d) (by omega)
                simp only [List.mem_append, List.mem_cons, ha, hb, hc', hd, reduceCtorEq,
                  false_or, or_false, ExtendedMessage.parse.injEq] at hq
                exact hq.2.symm
              subst hsame
              refine executed_parse_bind_execute (hkinds (by omega)) (fun m hm => ⟨?_, ?_⟩)
                (fun m hm => ⟨?_, ?_⟩) (hkinds (by omega)) p
              · exact hkinds (l := b) (by omega) m hm
              · exact hkinds (l := b) (by omega) m hm
              · exact hkinds (l := c) (by omega) m hm
              · have := List.any_eq_false.mp hc m.kind (List.mem_map_of_mem hm)
                simpa using this
          | describe portal name => cases portal <;> cases hm₃
          | _ => cases hm₃
      | describe portal name => cases portal <;> cases hm₂
      | _ => cases hm₂
  | describe portal name => cases portal <;> cases hm₁
  | _ => cases hm₁

end PortalState

/-- The batches that may run on a reader.  Where no Bind follows the Execute, it runs
nothing but the parsed statement. -/
theorem batchRequiresWriter_eq_false_iff
    {Q : Type} {s : ExtendedQueryFrameState}
    (hclear : s.ShapeClear)
    (ms : List (ExtendedMessage Q)) :
    ((s.noteBatch (ms.map (·.kind))).batchRequiresWriter false = false ↔
      (ms.map (·.kind)).countP isExecute = 1 ∧ DescribesFolded (ms.map (·.kind)) ∧
        ((ms.map (·.kind)).countP isParse = 0 ∨
          (ms.map (·.kind)).countP isParse = 1 ∧ ParsedLastBound (ms.map (·.kind)))) ∧
    (BindsBeforeExecute (ms.map (·.kind)) →
      (s.noteBatch (ms.map (·.kind))).batchRequiresWriter false = false →
        ∀ (name : String) (q : Q), .parse name q ∈ ms →
          ∀ p : PortalState Q, ∀ query ∈ p.executed ms, query = q) := by
  have hiff := @ExtendedQueryFrameState.ShapeClear.requiresWriter_iff s (ms.map (·.kind)) hclear
  refine ⟨hiff, fun hbinds hreader name q hq p => ?_⟩
  obtain ⟨hexecute, -, hparse⟩ := hiff.mp hreader
  rcases hparse with hparse | ⟨hparse, hshape⟩
  · have := List.countP_eq_zero.mp hparse _ (List.mem_map_of_mem hq)
    exact absurd rfl this
  · exact PortalState.executed_of_parseBindExecute hexecute hparse
      (hshape.parseBindExecute hexecute hbinds) hq p

/-- Parse, Bind, portal Describe and Execute of one statement. -/
def oneStatement : List (ExtendedMessage Nat) :=
  [.parse "s" 1, .bind "" "s", .describe true "", .execute ""]

theorem batchRequiresWriter_oneStatement :
    (({} : ExtendedQueryFrameState).noteBatch
        (oneStatement.map (·.kind))).batchRequiresWriter false = false ∧
      DescribesFolded (oneStatement.map (·.kind)) ∧
      PortalState.executed ⟨fun _ => none, none⟩ oneStatement = [1] ∧
      ∀ p : PortalState Nat, ∀ query ∈ p.executed oneStatement, query = 1 := by
  have hbinds : BindsBeforeExecute (oneStatement.map (·.kind)) := by
    simp [BindsBeforeExecute, oneStatement, ExtendedMessage.kind, isExecute, isBind]
  obtain ⟨hiff, hruns⟩ := batchRequiresWriter_eq_false_iff (s := {})
    ⟨rfl, rfl, rfl, rfl, rfl, rfl, rfl, rfl, rfl, rfl⟩ oneStatement
  have hreader : (({} : ExtendedQueryFrameState).noteBatch
      (oneStatement.map (·.kind))).batchRequiresWriter false = false := by
    decide
  refine ⟨hreader, (hiff.mp hreader).2.1, ?_, hruns hbinds hreader "s" 1 (by simp [oneStatement])⟩
  simp [oneStatement, PortalState.executed, PortalState.process]

/-- One Parse that precedes a Bind of its name that precedes the Execute, with other
Binds anywhere. -/
def BoundSomewhere (ks : List FrameMessageKind) : Prop :=
  ks.countP isExecute = 1 ∧ DescribesFolded ks ∧
    (ks.countP isParse = 0 ∨ ks.countP isParse = 1 ∧
      ∃ name, List.Sublist [.parse name, .bind name, .execute] ks)

/-- A Bind of the parsed statement after the Execute of another one lets the batch go
to a reader.  A Bind before the Parse, or a second Bind before the Execute, sends a
batch to the writer although the parsed statement is bound before the Execute. -/
theorem batchRequiresWriter_other_binds :
    (¬ BoundSomewhere [.parse "s", .bind "w", .execute, .bind "s"] ∧
      (({} : ExtendedQueryFrameState).noteBatch
        [.parse "s", .bind "w", .execute, .bind "s"]).batchRequiresWriter false = false ∧
      PortalState.executed ⟨fun name => if name = "w" then some 2 else none, none⟩
        [.parse "s" 1, .bind "" "w", .execute "", .bind "" "s"] = [2]) ∧
    (BoundSomewhere [.bind "t", .parse "s", .bind "s", .execute] ∧
      (({} : ExtendedQueryFrameState).noteBatch
        [.bind "t", .parse "s", .bind "s", .execute]).batchRequiresWriter false = true) ∧
    (BoundSomewhere [.parse "s", .bind "s", .bind "t", .execute] ∧
      (({} : ExtendedQueryFrameState).noteBatch
        [.parse "s", .bind "s", .bind "t", .execute]).batchRequiresWriter false = true) := by
  have hfolded {ks : List FrameMessageKind} (hks : ks.any isDescribe = false) :
      DescribesFolded ks := by
    rintro pre k post rfl hk
    simp [hk] at hks
  refine ⟨⟨?_, by decide, ?_⟩, ⟨⟨by decide, hfolded (by decide), Or.inr ⟨by decide, "s", ?_⟩⟩,
    by decide⟩, ⟨by decide, hfolded (by decide), Or.inr ⟨by decide, "s", ?_⟩⟩, by decide⟩
  · rintro ⟨-, -, hparse | ⟨-, name, hsub⟩⟩
    · exact absurd hparse (by decide)
    · have hname : name = "s" := by
        have hmem := hsub.subset (List.mem_cons_self ..)
        simpa using hmem
      subst hname
      exact absurd hsub (by decide)
  · simp [PortalState.executed, PortalState.process]
  · decide
  · decide

end PolarProxy
