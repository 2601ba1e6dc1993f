import Mathlib.Data.List.Induction
import PolarProxy.ReaderWaiters

/-!
# The waiters of a worker are accounted for

The scopes of the waiting sessions form a multiset.  The scope counts of the worker
represent it and the waiter count is its size, so that no assertion fails.  Retention
of a scope outlives the waiters of the scope in one case only: a session takes its
reserved connection after every session has left the scope under which the request
was registered.

**Results.** `Counted`, `Counted.waitStarted`, `Counted.waitScopeChanged`, `Counted.waitFinished`,
`Accounted.step`, `reader_waiters_accounted`.
-/

namespace PolarProxy

open Counts

/-! ## The multiset of scopes -/

def WaitSession.waitScope (s : WaitSession) : Option UInt64 :=
  if s.wait.active then some s.wait.scopeHash else none

@[simp]
theorem WaitSession.waitScope_of_active
    {s : WaitSession}
    (h : s.wait.active = true) :
    s.waitScope = some s.wait.scopeHash := by
  simp [WaitSession.waitScope, h]

@[simp]
theorem WaitSession.waitScope_of_idle
    {s : WaitSession}
    (h : s.wait.active = false) :
    s.waitScope = none := by
  simp [WaitSession.waitScope, h]

/-- The scopes of the sessions that wait. -/
def waitingOf (l : List WaitSession) : Multiset UInt64 :=
  (l.filterMap WaitSession.waitScope : List UInt64)

section WaitingOf

variable {l l' : List WaitSession} {s : WaitSession} {i : Nat}

theorem waitingOf_perm (h : l.Perm l') : waitingOf l = waitingOf l' :=
  Multiset.coe_eq_coe.mpr (h.filterMap _)

theorem waitingOf_cons_some
    {a : UInt64}
    (h : s.waitScope = some a) :
    waitingOf (s :: l) = a ::ₘ waitingOf l := by
  rw [waitingOf, List.filterMap_cons_some h]
  rfl

theorem waitingOf_cons_none
    (h : s.waitScope = none) :
    waitingOf (s :: l) = waitingOf l := by
  rw [waitingOf, List.filterMap_cons_none h]
  rfl

theorem card_waitingOf (l : List WaitSession) :
    (waitingOf l).card = l.countP (·.wait.active) := by
  induction l with
  | nil =>
      rfl
  | cons s l ih =>
      cases hs : s.wait.active with
      | true =>
          rw [waitingOf_cons_some (WaitSession.waitScope_of_active hs), Multiset.card_cons, ih,
            List.countP_cons_of_pos (by simpa using hs)]
      | false =>
          rw [waitingOf_cons_none (WaitSession.waitScope_of_idle hs), ih,
            List.countP_cons_of_neg (by simp [hs])]

theorem waitingOf_split
    (h : l[i]? = some s) :
    waitingOf l = waitingOf (s :: l.eraseIdx i) := by
  obtain ⟨hi, rfl⟩ := List.getElem?_eq_some_iff.mp h
  exact waitingOf_perm (List.getElem_cons_eraseIdx_perm hi).symm

theorem waitingOf_set
    (h : l[i]? = some s)
    (s' : WaitSession) :
    waitingOf (l.set i s') = waitingOf (s' :: l.eraseIdx i) := by
  obtain ⟨hi, _⟩ := List.getElem?_eq_some_iff.mp h
  exact waitingOf_perm (List.set_perm_cons_eraseIdx hi s')

end WaitingOf

/-! ## Counting -/

namespace WaitWorker

variable {w : WaitWorker} {m : Multiset UInt64} {scope : UInt64}

/-- The counts of the worker are those of the multiset. -/
structure Counted (w : WaitWorker) (m : Multiset UInt64) : Prop where
  scopes : Represents w.waitScopes m
  waiterCount : w.waiterCount = m.card

/-- Retention is for a scope of the multiset. -/
def RetainsIn (w : WaitWorker) (m : Multiset UInt64) : Prop :=
  w.retention.active = true → w.retention.scopeHash ∈ m

/-- What an operation on the counts changes. -/
structure Recounts (w : WaitWorker) (m : Multiset UInt64) (w' : WaitWorker)
    (m' : Multiset UInt64) : Prop where
  counted : Counted w' m'
  retains : w.RetainsIn m → w'.RetainsIn m'
  sessions : w'.sessions = w.sessions
  reservation : w'.reservation = w.reservation

theorem waitScopeActive_iff
    (h : Represents w.waitScopes m) :
    w.waitScopeActive scope = true ↔ scope ≠ 0 ∧ scope ∈ m := by
  rw [← h.mem_iff]
  simp only [waitScopeActive, Bool.and_eq_true, bne_iff_ne, List.any_eq_true, beq_iff_eq,
    decide_eq_true_eq, Prod.exists]
  constructor
  · rintro ⟨hne, a, n, hmem, rfl, hpos⟩
    exact ⟨hne, n, hmem, hpos⟩
  · rintro ⟨hne, n, hmem, hpos⟩
    exact ⟨hne, scope, n, hmem, rfl, hpos⟩

@[simp]
theorem clearInactiveRetention_sessions (w : WaitWorker) :
    w.clearInactiveRetention.sessions = w.sessions := by
  simp only [clearInactiveRetention]
  split <;> rfl

@[simp]
theorem clearInactiveRetention_reservation (w : WaitWorker) :
    w.clearInactiveRetention.reservation = w.reservation := by
  simp only [clearInactiveRetention]
  split <;> rfl

@[simp]
theorem clearInactiveRetention_waitScopes (w : WaitWorker) :
    w.clearInactiveRetention.waitScopes = w.waitScopes := by
  simp only [clearInactiveRetention]
  split <;> rfl

@[simp]
theorem clearInactiveRetention_waiterCount (w : WaitWorker) :
    w.clearInactiveRetention.waiterCount = w.waiterCount := by
  simp only [clearInactiveRetention]
  split <;> rfl

theorem not_active_default : ({} : ReaderRetention).active = false :=
  rfl

theorem retainsIn_clearInactiveRetention
    (h : Represents w.waitScopes m) :
    w.clearInactiveRetention.RetainsIn m := by
  intro hactive
  simp only [clearInactiveRetention] at hactive ⊢
  split at hactive
  next hkeep =>
      rw [if_pos hkeep]
      rw [hactive] at hkeep
      exact ((waitScopeActive_iff h).mp (by simpa using hkeep)).2
  next =>
      exact absurd hactive (by simp [not_active_default])

/-- Retention whose scope is not the one that lost a waiter stays in place. -/
theorem retainsIn_after_removal
    {emptied : Bool}
    (h : Represents w.waitScopes (m.erase scope))
    (hemptied : emptied = decide (scope ∉ m.erase scope))
    (hretains : w.RetainsIn m) :
    (if emptied then w.clearInactiveRetention else w).RetainsIn (m.erase scope) := by
  cases emptied with
  | true =>
      exact retainsIn_clearInactiveRetention h
  | false =>
      intro hactive
      have hscope : scope ∈ m.erase scope := by simpa using hemptied.symm
      by_cases hsame : w.retention.scopeHash = scope
      · simpa [hsame] using hscope
      · simpa using (Multiset.mem_erase_of_ne hsame).mpr (hretains hactive)

theorem waitStarted_eq
    (w : WaitWorker)
    (scope : UInt64) (retryAt : Nat) :
    w.waitStarted scope retryAt =
      { w with
        waiterCount := w.waiterCount + 1
        waitScopes := add scope w.waitScopes
        retryAtUs := if w.retryAtUs = 0 then retryAt else w.retryAtUs } := by
  by_cases h : w.retryAtUs = 0 <;>
    simp [WaitWorker.waitStarted, addWaiterToScope, h]

theorem Counted.waitStarted
    (h : w.Counted m)
    (scope : UInt64) (retryAt : Nat) :
    w.Recounts m (w.waitStarted scope retryAt) (scope ::ₘ m) := by
  rw [waitStarted_eq]
  refine ⟨⟨h.scopes.add scope, ?_⟩, ?_, rfl, rfl⟩
  · rw [Multiset.card_cons, ← h.waiterCount]
  · intro hretains hactive
    exact Multiset.mem_cons_of_mem (hretains hactive)

theorem Counted.waitScopeChanged
    {oldScope : UInt64}
    (h : w.Counted m)
    (hold : oldScope ∈ m)
    (newScope : UInt64) :
    ∃ w',
      w.waitScopeChanged oldScope newScope = some w' ∧
      w.Recounts m w' (newScope ::ₘ m.erase oldScope) := by
  by_cases heq : oldScope = newScope
  · subst heq
    refine ⟨w, by simp [WaitWorker.waitScopeChanged], ?_⟩
    rw [Multiset.cons_erase hold]
    exact ⟨h, id, rfl, rfl⟩
  · obtain ⟨l, hl, hrep⟩ := h.scopes.remove hold
    let removed : WaitWorker := { w with waitScopes := l }
    let emptied := decide (oldScope ∉ m.erase oldScope)
    let cleared := if emptied then removed.clearInactiveRetention else removed
    refine ⟨cleared.addWaiterToScope newScope, ?_, ⟨?_, ?_⟩, ?_, ?_, ?_⟩
    · simp [WaitWorker.waitScopeChanged, if_neg heq, removeWaiterFromScope, hl, cleared, emptied,
        removed]
    · have hscopes : cleared.waitScopes = l := by
        simp [cleared, removed, apply_ite WaitWorker.waitScopes]
      simpa only [addWaiterToScope, hscopes] using hrep.add newScope
    · rw [Multiset.card_cons, Multiset.card_erase_add_one hold, ← h.waiterCount]
      simp [addWaiterToScope, cleared, removed, apply_ite WaitWorker.waiterCount]
    · intro hretains hactive
      exact Multiset.mem_cons_of_mem (retainsIn_after_removal hrep rfl hretains hactive)
    · simp [addWaiterToScope, cleared, removed, apply_ite WaitWorker.sessions]
    · simp [addWaiterToScope, cleared, removed, apply_ite WaitWorker.reservation]

/-- The end of a wait in a scope with a waiter does not abort. -/
theorem Counted.waitFinished
    (h : w.Counted m)
    (hscope : scope ∈ m) :
    ∃ w', w.waitFinished scope = some w' ∧ w.Recounts m w' (m.erase scope) := by
  obtain ⟨l, hl, hrep⟩ := h.scopes.remove hscope
  have hpos : w.waiterCount ≠ 0 := by
    rw [h.waiterCount]
    exact (Multiset.card_pos_iff_exists_mem.mpr ⟨scope, hscope⟩).ne'
  have hcard : (m.erase scope).card = w.waiterCount - 1 := by
    rw [Multiset.card_erase_of_mem hscope, h.waiterCount, Nat.pred_eq_sub_one]
  let removed : WaitWorker := { w with waiterCount := w.waiterCount - 1, waitScopes := l }
  let emptied := decide (scope ∉ m.erase scope)
  let cleared := if emptied then removed.clearInactiveRetention else removed
  have hscopes : cleared.waitScopes = l := by
    simp [cleared, removed, apply_ite WaitWorker.waitScopes]
  have hcount : cleared.waiterCount = w.waiterCount - 1 := by
    simp [cleared, removed, apply_ite WaitWorker.waiterCount]
  have hretains : w.RetainsIn m → cleared.RetainsIn (m.erase scope) :=
    fun hr => retainsIn_after_removal hrep rfl hr
  have hsessions : cleared.sessions = w.sessions := by
    simp [cleared, removed, apply_ite WaitWorker.sessions]
  have hreservation : cleared.reservation = w.reservation := by
    simp [cleared, removed, apply_ite WaitWorker.reservation]
  by_cases hlast : w.waiterCount - 1 = 0
  · let drained : WaitWorker :=
      { cleared with retryAtUs := 0, waitScopes := [], blockedScopes := [] }
    have hempty : m.erase scope = 0 := by
      rw [← Multiset.card_eq_zero, hcard, hlast]
    have hdrained : Represents drained.waitScopes (m.erase scope) := by
      rw [hempty]
      exact .nil
    refine ⟨drained.clearInactiveRetention, ?_, ⟨?_, ?_⟩, ?_, ?_, ?_⟩
    · simp [WaitWorker.waitFinished, hpos, removeWaiterFromScope, hl, drained, cleared, emptied,
        removed, apply_ite WaitWorker.waiterCount, hlast]
    · simpa using hdrained
    · rw [clearInactiveRetention_waiterCount, hcard]
      exact hcount
    · exact fun _ => retainsIn_clearInactiveRetention hdrained
    · rw [clearInactiveRetention_sessions]
      exact hsessions
    · rw [clearInactiveRetention_reservation]
      exact hreservation
  · refine ⟨cleared, ?_, ⟨hscopes ▸ hrep, hcount.trans hcard.symm⟩, hretains, hsessions,
      hreservation⟩
    simp [WaitWorker.waitFinished, hpos, removeWaiterFromScope, hl, cleared, emptied, removed,
      apply_ite WaitWorker.waiterCount, hlast]

/-! ## Steps -/

/-- The scopes of the waiting sessions of the worker. -/
def waiting (w : WaitWorker) : Multiset UInt64 :=
  waitingOf w.sessions

/-- The counts are those of the waiting sessions, and a reservation has the identity
of a wait. -/
structure Accounted (w : WaitWorker) : Prop where
  counted : w.Counted w.waiting
  zero_notMem : 0 ∉ w.waiting
  reservation : w.reservation.active = true →
    w.reservation.scopeHash ≠ 0 ∧ w.reservation.profileGeneration ≠ 0 ∧
      w.reservation.poolKey.isEmpty = false

/-- Retention is for a scope that a session waits in. -/
def RetentionLive (w : WaitWorker) : Prop :=
  w.RetainsIn w.waiting

/-- A step that keeps the accounts and lets no retention outlive its waiters. -/
structure Keeps (w w' : WaitWorker) : Prop where
  accounted : w'.Accounted
  retentionLive : w.RetentionLive → w'.RetentionLive

section Steps

variable {w' : WaitWorker} {i : Nat} {s : WaitSession}

theorem Accounted.keeps_self (h : w.Accounted) : w.Keeps w :=
  ⟨h, id⟩

theorem Keeps.trans
    {w'' : WaitWorker}
    (h : w.Keeps w')
    (h' : w'.Keeps w'') :
    w.Keeps w'' :=
  ⟨h'.accounted, h'.retentionLive ∘ h.retentionLive⟩

/-- The counts have followed the session whose wait is now set. -/
theorem Accounted.keeps_of_recounts
    {v : WaitWorker} {s' : WaitSession}
    (h : w.Accounted)
    (hs : w.sessions[i]? = some s)
    (hv : w.Recounts w.waiting v (waitingOf (s' :: w.sessions.eraseIdx i)))
    (hzero : 0 ∉ waitingOf (s' :: w.sessions.eraseIdx i)) :
    w.Keeps { v with sessions := v.sessions.set i s' } := by
  have hwaiting : waiting { v with sessions := v.sessions.set i s' } =
      waitingOf (s' :: w.sessions.eraseIdx i) := by
    simp only [waiting, hv.sessions]
    exact waitingOf_set hs s'
  refine ⟨⟨?_, ?_, ?_⟩, ?_⟩
  · rw [hwaiting]
    exact ⟨hv.counted.scopes, hv.counted.waiterCount⟩
  · rw [hwaiting]
    exact hzero
  · simpa only [hv.reservation] using h.reservation
  · intro hlive
    simp only [RetentionLive, hwaiting]
    exact hv.retains hlive

theorem Accounted.keeps_set
    {s' : WaitSession}
    (h : w.Accounted)
    (hs : w.sessions[i]? = some s)
    (hscope : s'.waitScope = s.waitScope) :
    w.Keeps { w with sessions := w.sessions.set i s' } := by
  have hsame : waitingOf (s' :: w.sessions.eraseIdx i) = w.waiting := by
    rw [waiting, waitingOf_split hs]
    cases hw : s.waitScope with
    | none =>
        rw [waitingOf_cons_none hw, waitingOf_cons_none (hscope.trans hw)]
    | some a =>
        rw [waitingOf_cons_some hw, waitingOf_cons_some (hscope.trans hw)]
  refine h.keeps_of_recounts hs ?_ (hsame ▸ h.zero_notMem)
  rw [hsame]
  exact ⟨h.counted, id, rfl, rfl⟩

theorem waiting_of_active
    (hs : w.sessions[i]? = some s)
    (hactive : s.wait.active = true) :
    w.waiting = s.wait.scopeHash ::ₘ waitingOf (w.sessions.eraseIdx i) := by
  rw [waiting, waitingOf_split hs, waitingOf_cons_some (WaitSession.waitScope_of_active hactive)]

theorem waiting_of_idle
    (hs : w.sessions[i]? = some s)
    (hidle : s.wait.active = false) :
    w.waiting = waitingOf (w.sessions.eraseIdx i) := by
  rw [waiting, waitingOf_split hs, waitingOf_cons_none (WaitSession.waitScope_of_idle hidle)]

theorem Accounted.zero_notMem_others
    (h : w.Accounted)
    (hs : w.sessions[i]? = some s) :
    0 ∉ waitingOf (w.sessions.eraseIdx i) := by
  intro hzero
  refine h.zero_notMem ?_
  cases hactive : s.wait.active with
  | true =>
      rw [waiting_of_active hs hactive]
      exact Multiset.mem_cons_of_mem hzero
  | false =>
      rwa [waiting_of_idle hs hactive]

theorem scopeHashOf_ne_zero (hash : UInt64) : scopeHashOf hash ≠ 0 := by
  unfold scopeHashOf
  split
  next => decide
  next h => exact h

theorem retryScopeHash_ne_zero (r : BusyResult) : r.retryScopeHash ≠ 0 :=
  scopeHashOf_ne_zero _

@[simp]
theorem note_active (wait : CapacityWait) (r : BusyResult) : (wait.note r).active = true := by
  simp only [CapacityWait.note]
  split <;> rfl

@[simp]
theorem note_scopeHash (wait : CapacityWait) (r : BusyResult) :
    (wait.note r).scopeHash = r.retryScopeHash := by
  simp only [CapacityWait.note]
  split <;> rfl

theorem Accounted.enterWait
    (h : w.Accounted)
    (hs : w.sessions[i]? = some s)
    (r : BusyResult) (retryAt : Nat) :
    ∃ w', w.enterWait i s r retryAt = some w' ∧ w.Keeps w' := by
  have hnew : waitingOf ({ s with wait := s.wait.note r } :: w.sessions.eraseIdx i) =
      r.retryScopeHash ::ₘ waitingOf (w.sessions.eraseIdx i) :=
    waitingOf_cons_some (by simp [WaitSession.waitScope])
  have hzero : 0 ∉ r.retryScopeHash ::ₘ waitingOf (w.sessions.eraseIdx i) := by
    rw [Multiset.mem_cons, not_or]
    exact ⟨(retryScopeHash_ne_zero r).symm, h.zero_notMem_others hs⟩
  rw [← hnew] at hzero
  cases hactive : s.wait.active with
  | false =>
      refine ⟨(w.waitStarted r.retryScopeHash retryAt).setWait i s (s.wait.note r),
        by simp [WaitWorker.enterWait, hactive], ?_⟩
      refine h.keeps_of_recounts hs ?_ hzero
      rw [hnew, ← waiting_of_idle hs hactive]
      exact h.counted.waitStarted r.retryScopeHash retryAt
  | true =>
      by_cases hscope : s.wait.scopeHash = r.retryScopeHash
      · refine ⟨w.setWait i s (s.wait.note r), by simp [WaitWorker.enterWait, hactive, hscope], ?_⟩
        exact h.keeps_set hs (by simp [WaitSession.waitScope, hactive, hscope])
      · have hmem : s.wait.scopeHash ∈ w.waiting := by
          rw [waiting_of_active hs hactive]
          exact Multiset.mem_cons_self _ _
        obtain ⟨v, hv, hrecounts⟩ := h.counted.waitScopeChanged hmem r.retryScopeHash
        refine ⟨v.setWait i s (s.wait.note r),
          by simp [WaitWorker.enterWait, hactive, hv, hscope], ?_⟩
        refine h.keeps_of_recounts hs ?_ hzero
        rw [hnew]
        rwa [waiting_of_active hs hactive, Multiset.erase_cons_head,
          ← waiting_of_active hs hactive] at hrecounts

theorem Accounted.keeps_reservation
    (h : w.Accounted)
    (reservation : WorkerReservationState)
    (hid : reservation.active = true →
      reservation.scopeHash ≠ 0 ∧ reservation.profileGeneration ≠ 0 ∧
        reservation.poolKey.isEmpty = false) :
    w.Keeps { w with reservation := reservation } :=
  ⟨⟨⟨h.counted.scopes, h.counted.waiterCount⟩, h.zero_notMem, hid⟩, id⟩

theorem Accounted.cancelReservation
    (h : w.Accounted)
    (sessionId : Nat) :
    w.Keeps (w.cancelReservation sessionId) := by
  simp only [WaitWorker.cancelReservation]
  split
  next =>
      exact h.keeps_self
  next =>
      exact h.keeps_reservation {} (by simp [WorkerReservationState.active])

@[simp]
theorem cancelReservation_sessions (w : WaitWorker) (sessionId : Nat) :
    (w.cancelReservation sessionId).sessions = w.sessions := by
  simp only [WaitWorker.cancelReservation]
  split <;> rfl

theorem Accounted.leaveWait
    (h : w.Accounted)
    (hs : w.sessions[i]? = some s)
    (status : ReaderStatus) :
    ∃ w',
      w.leaveWait i s status = some w' ∧
      w.Keeps w' ∧
      w'.sessions = w.sessions.set i { s with wait := { lastStatus := status, resultValid := true } } := by
  have hcancel := h.cancelReservation s.threadSessionId
  have hs' : (w.cancelReservation s.threadSessionId).sessions[i]? = some s := by simpa using hs
  cases hactive : s.wait.active with
  | false =>
      refine ⟨_, by simp only [WaitWorker.leaveWait, hactive]; rfl, ?_, by simp [setWait]⟩
      exact hcancel.trans (hcancel.accounted.keeps_set hs' (by simp [WaitSession.waitScope, hactive]))
  | true =>
      have hwaiting := waiting_of_active hs' hactive
      have hmem : s.wait.scopeHash ∈ (w.cancelReservation s.threadSessionId).waiting := by
        rw [hwaiting]
        exact Multiset.mem_cons_self _ _
      obtain ⟨v, hv, hrecounts⟩ := hcancel.accounted.counted.waitFinished hmem
      refine ⟨_, by simp only [WaitWorker.leaveWait, hactive, hv]; rfl, ?_,
        by simp [setWait, hrecounts.sessions]⟩
      have hidle : waitingOf ({ s with wait := { lastStatus := status, resultValid := true } } ::
          (w.cancelReservation s.threadSessionId).sessions.eraseIdx i) =
          waitingOf ((w.cancelReservation s.threadSessionId).sessions.eraseIdx i) :=
        waitingOf_cons_none (by simp [WaitSession.waitScope])
      refine hcancel.trans (hcancel.accounted.keeps_of_recounts hs' ?_ ?_)
      · rw [hidle]
        rwa [hwaiting, Multiset.erase_cons_head, ← hwaiting] at hrecounts
      · rw [hidle]
        exact hcancel.accounted.zero_notMem_others hs'

theorem getElem?_of_eq_set
    {l l' : List WaitSession} {s' : WaitSession}
    (hs : l[i]? = some s)
    (h : l' = l.set i s') :
    l'[i]? = some s' := by
  obtain ⟨hi, _⟩ := List.getElem?_eq_some_iff.mp hs
  simp [h, hi]

theorem Accounted.resetWait
    (h : w.Accounted)
    (hs : w.sessions[i]? = some s) :
    ∃ w',
      w.resetWait i s = some w' ∧
      w.Keeps w' ∧
      w'.sessions = w.sessions.set i { s with wait := {} } := by
  obtain ⟨v, hv, hkeeps, hsessions⟩ := h.leaveWait hs .readerUnavailable
  have hs' := getElem?_of_eq_set hs hsessions
  refine ⟨_, by simp only [WaitWorker.resetWait, hv]; rfl, ?_, by simp [setWait, hsessions]⟩
  exact hkeeps.trans (hkeeps.accounted.keeps_set hs' (by simp [WaitSession.waitScope]))

theorem Accounted.endRequest
    (h : w.Accounted)
    (hs : w.sessions[i]? = some s) :
    ∃ w', w.endRequest i s = some w' ∧ w.Keeps w' := by
  cases hactive : s.wait.active with
  | true =>
      obtain ⟨w', hw', hkeeps, _⟩ := h.resetWait hs
      exact ⟨w', by simp only [WaitWorker.endRequest, hactive, hw']; rfl, hkeeps⟩
  | false =>
      cases hvalid : s.wait.resultValid with
      | true =>
          refine ⟨_, by simp only [WaitWorker.endRequest, hactive, hvalid]; rfl, ?_⟩
          exact h.keeps_set hs (by simp [WaitSession.waitScope, hactive])
      | false =>
          exact ⟨w, by simp only [WaitWorker.endRequest, hactive, hvalid]; rfl, h.keeps_self⟩

theorem Accounted.eraseIdx
    (h : w.Accounted)
    (hs : w.sessions[i]? = some s)
    (hidle : s.wait.active = false) :
    w.Keeps { w with sessions := w.sessions.eraseIdx i } := by
  have hwaiting : waiting { w with sessions := w.sessions.eraseIdx i } = w.waiting :=
    (waiting_of_idle hs hidle).symm
  refine ⟨⟨?_, ?_, h.reservation⟩, ?_⟩
  · rw [hwaiting]
    exact ⟨h.counted.scopes, h.counted.waiterCount⟩
  · rw [hwaiting]
    exact h.zero_notMem
  · intro hlive
    simp only [RetentionLive, hwaiting]
    exact hlive

theorem Accounted.destroy
    (h : w.Accounted)
    (hs : w.sessions[i]? = some s) :
    ∃ w',
      (w.resetWait i s).map (fun v => { v with sessions := v.sessions.eraseIdx i }) = some w' ∧
      w.Keeps w' := by
  obtain ⟨v, hv, hkeeps, hsessions⟩ := h.resetWait hs
  have hs' := getElem?_of_eq_set hs hsessions
  exact ⟨_, by rw [hv]; rfl, hkeeps.trans (hkeeps.accounted.eraseIdx hs' rfl)⟩

theorem Accounted.of_same
    (h : w.Accounted)
    (hsessions : w'.sessions = w.sessions)
    (hscopes : w'.waitScopes = w.waitScopes)
    (hcount : w'.waiterCount = w.waiterCount)
    (hreservation : w'.reservation = w.reservation) :
    w'.Accounted := by
  have hwaiting : w'.waiting = w.waiting := by rw [waiting, hsessions, waiting]
  refine ⟨⟨?_, ?_⟩, ?_, ?_⟩
  · rw [hscopes, hwaiting]
    exact h.counted.scopes
  · rw [hcount, hwaiting]
    exact h.counted.waiterCount
  · rw [hwaiting]
    exact h.zero_notMem
  · rw [hreservation]
    exact h.reservation

theorem Accounted.adoptRetention
    (h : w.Accounted)
    (hs : w.sessions[i]? = some s) :
    w.Keeps (w.adoptRetention s) := by
  simp only [WaitWorker.adoptRetention]
  split
  next =>
      exact h.keeps_self
  next =>
      split
      next =>
          exact h.keeps_self
      next hguard =>
          refine ⟨h.of_same rfl rfl rfl rfl, ?_⟩
          intro _ _
          have hactive : s.wait.active = true := by
            simp only [Bool.or_eq_true, not_or] at hguard
            simpa using hguard.1.1.1.1.2
          change s.wait.scopeHash ∈ w.waiting
          rw [waiting_of_active hs hactive]
          exact Multiset.mem_cons_self _ _

theorem Accounted.scopeHash_ne_zero
    (h : w.Accounted)
    (hs : w.sessions[i]? = some s)
    (hactive : s.wait.active = true) :
    s.wait.scopeHash ≠ 0 := by
  intro hzero
  refine h.zero_notMem ?_
  rw [waiting_of_active hs hactive, ← hzero]
  exact Multiset.mem_cons_self _ _

theorem Accounted.registerRequest
    (h : w.Accounted)
    (hs : w.sessions[i]? = some s)
    (ownership : ReaderOwnership) (token : Nat) (registered : Bool) :
    w.Keeps (w.registerRequest i s ownership token registered) := by
  simp only [WaitWorker.registerRequest]
  split
  next =>
      exact h.keeps_self
  next server _ =>
      split
      next =>
          exact h.keeps_self
      next hguard =>
          simp only [Bool.or_eq_true, not_or] at hguard
          cases ownership with
          | «local» =>
              exact h.adoptRetention hs
          | active =>
              exact h.adoptRetention hs
          | reservation =>
              exact h.keeps_self
          | none =>
              dsimp only
              split
              next =>
                  exact h.keeps_self
              next =>
                  have hactive : s.wait.active = true := by simpa using hguard.1.1.1.1.2
                  have hreserved := h.keeps_reservation
                    { token := token
                      sessionId := s.threadSessionId
                      scopeHash := s.wait.scopeHash
                      hostgroup := server.hid
                      profileGeneration := s.wait.reservationProfileGeneration
                      poolKey := s.wait.reservationPoolKey }
                    fun _ => ⟨h.scopeHash_ne_zero hs hactive, by simpa using hguard.1.2,
                      by simpa using hguard.2⟩
                  exact hreserved.trans (hreserved.accounted.keeps_set hs rfl)

theorem Accounted.retried
    (h : w.Accounted)
    (hs : w.sessions[i]? = some s)
    (ownership : ReaderOwnership) (token : Nat) (registered : Bool) :
    w.Keeps (w.retried i s ownership token registered) := by
  simp only [WaitWorker.retried]
  split
  next =>
      exact h.keeps_self
  next =>
      split
      next =>
          exact h.registerRequest hs ownership token registered
      next =>
          have hblocked : w.Keeps { w with
              blockedScopes := w.blockedScopes ++ [s.wait.scopeHash] } :=
            ⟨h.of_same rfl rfl rfl rfl, id⟩
          exact hblocked.trans (hblocked.accounted.registerRequest hs ownership token registered)

theorem Accounted.applyWake
    (h : w.Accounted)
    (token : Nat) (server : WaitServer) :
    w.Keeps (w.applyWake token server) := by
  simp only [WaitWorker.applyWake]
  split
  next hactive =>
      exact h.keeps_reservation _ fun _ => h.reservation (Bool.and_eq_true_iff.mp hactive).1
  next =>
      exact h.keeps_self

theorem Accounted.clearInactiveRetention
    (h : w.Accounted) :
    w.Keeps w.clearInactiveRetention := by
  refine ⟨h.of_same (by simp) (by simp) (by simp) (by simp), fun _ => ?_⟩
  have hlive := retainsIn_clearInactiveRetention h.counted.scopes
  simpa only [RetentionLive, waiting, clearInactiveRetention_sessions] using hlive

theorem takeReservation_of_not_handsOver
    {currentKey : Option PoolMatchKey} {canServe : Bool} {status : ReaderTakeStatus}
    (h : w.Accounted)
    (htake : w.handsOver s currentKey canServe status = false) :
    w.Keeps (w.takeReservation s currentKey canServe status) := by
  have hcleared : w.Keeps { w with reservation := {} } :=
    h.keeps_reservation {} (by simp [WorkerReservationState.active])
  simp only [WaitWorker.takeReservation]
  split
  next =>
      exact h.keeps_self
  next hheld =>
      split
      next =>
          exact h.cancelReservation s.threadSessionId
      next hactive =>
          split
          next =>
              exact h.cancelReservation s.threadSessionId
          next hcurrent =>
              cases status with
              | pending =>
                  exact h.keeps_self
              | retired | missing =>
                  exact hcleared
              | acquired =>
                  simp_all [handsOver]

/-- A session that takes its connection starts retention of the scope of the
reservation. -/
theorem Accounted.takeReservation_of_handsOver
    {currentKey : Option PoolMatchKey} {canServe : Bool} {status : ReaderTakeStatus}
    (h : w.Accounted)
    (htake : w.handsOver s currentKey canServe status = true) :
    (w.takeReservation s currentKey canServe status).Accounted ∧
      ((w.takeReservation s currentKey canServe status).RetentionLive ↔
        w.reservation.scopeHash ∈ w.waiting) := by
  simp only [handsOver, WorkerReservationState.hasConnection, Bool.and_eq_true, beq_iff_eq] at htake
  obtain ⟨⟨⟨⟨⟨hactive, hserver⟩, hsession⟩, hwaits⟩, hcurrent⟩, rfl⟩ := htake
  obtain ⟨hscope, hgeneration, hkey⟩ := h.reservation hactive
  have hhostgroup : w.reservation.hostgroup.isSome = true := (Bool.and_eq_true_iff.mp hactive).2
  have hcleared : Accounted { w with reservation := {} } :=
    (h.keeps_reservation {} (by simp [WorkerReservationState.active])).accounted
  simp only [WaitWorker.takeReservation, WorkerReservationState.hasConnection, hactive, hserver, hsession,
    hwaits, hcurrent, Bool.and_self, Bool.not_true, bne_self_eq_false, Bool.or_self,
    Bool.false_eq_true, if_false]
  refine ⟨hcleared.of_same rfl rfl rfl rfl, ?_⟩
  simp [RetentionLive, RetainsIn, ReaderRetention.active, waiting, hscope, hgeneration, hkey,
    hhostgroup]

end Steps

/-! ## Runs -/

/-- A reserved connection is taken while a session waits in the scope under which it was
asked for. -/
def TakesLive (w : WaitWorker) : WaiterOp → Prop
  | .take i currentKey canServe status =>
      ∀ s, w.sessions[i]? = some s → w.handsOver s currentKey canServe status = true →
        w.reservation.scopeHash ∈ w.waiting
  | _ => True

/-- What a step does: it does not abort, and retention outlives its waiters after a
reserved connection was taken under a scope without waiters, and then only. -/
structure StepSpec (w : WaitWorker) (op : WaiterOp) (w' : WaitWorker) : Prop where
  accounted : w'.Accounted
  retentionLive : w.RetentionLive → w.TakesLive op → w'.RetentionLive
  takesLive : w'.RetentionLive → w.TakesLive op

theorem Keeps.stepSpec
    {w' : WaitWorker} {op : WaiterOp}
    (h : w.Keeps w')
    (hop : w.TakesLive op) :
    w.StepSpec op w' :=
  ⟨h.accounted, fun hlive _ => h.retentionLive hlive, fun _ => hop⟩

theorem Accounted.withSession
    {i : Nat} {f : WaitSession → Option WaitWorker} {op : WaiterOp}
    (h : w.Accounted)
    (hop : w.TakesLive op)
    (hf : ∀ s, w.sessions[i]? = some s → ∃ w', f s = some w' ∧ w.Keeps w') :
    ∃ w', w.withSession i f = some w' ∧ w.StepSpec op w' := by
  simp only [WaitWorker.withSession]
  cases hs : w.sessions[i]? with
  | none =>
      exact ⟨w, rfl, h.keeps_self.stepSpec hop⟩
  | some s =>
      obtain ⟨w', hw', hkeeps⟩ := hf s hs
      exact ⟨w', hw', hkeeps.stepSpec hop⟩

theorem Accounted.attach
    (h : w.Accounted)
    (id : Nat) (hostgroup : Int) :
    w.Keeps { w with sessions := w.sessions ++ [⟨id, hostgroup, {}⟩] } := by
  have hwaiting : waiting { w with sessions := w.sessions ++ [⟨id, hostgroup, {}⟩] } =
      w.waiting := by
    simp only [waiting]
    rw [waitingOf_perm List.perm_append_comm]
    exact waitingOf_cons_none rfl
  refine ⟨⟨?_, ?_, h.reservation⟩, ?_⟩
  · rw [hwaiting]
    exact ⟨h.counted.scopes, h.counted.waiterCount⟩
  · rw [hwaiting]
    exact h.zero_notMem
  · intro hlive
    simp only [RetentionLive, hwaiting]
    exact hlive

theorem Accounted.take
    {i : Nat} {currentKey : Option PoolMatchKey} {canServe : Bool} {status : ReaderTakeStatus}
    (h : w.Accounted) :
    ∃ w',
      w.step (.take i currentKey canServe status) = some w' ∧
      w.StepSpec (.take i currentKey canServe status) w' := by
  simp only [WaitWorker.step, WaitWorker.withSession]
  cases hs : w.sessions[i]? with
  | none =>
      exact ⟨w, rfl, h.keeps_self.stepSpec (by simp [TakesLive, hs])⟩
  | some s =>
      refine ⟨_, rfl, ?_⟩
      cases htake : w.handsOver s currentKey canServe status with
      | false =>
          refine (takeReservation_of_not_handsOver h htake).stepSpec ?_
          simp [TakesLive, hs, htake]
      | true =>
          obtain ⟨haccounted, hlive⟩ := h.takeReservation_of_handsOver htake
          have htakes : w.TakesLive (.take i currentKey canServe status) ↔
              w.reservation.scopeHash ∈ w.waiting := by
            simp [TakesLive, hs, htake]
          exact ⟨haccounted, fun _ hop => hlive.mpr (htakes.mp hop),
            fun hafter => htakes.mpr (hlive.mp hafter)⟩

/-- Every operation keeps the accounts, and none aborts. -/
theorem Accounted.step
    (h : w.Accounted)
    (op : WaiterOp) :
    ∃ w', w.step op = some w' ∧ w.StepSpec op w' := by
  cases op with
  | attach id hostgroup =>
      exact ⟨_, rfl, (h.attach id hostgroup).stepSpec trivial⟩
  | route i hostgroup =>
      exact h.withSession trivial fun s hs => ⟨_, rfl, h.keeps_set hs rfl⟩
  | busy i result retryAt =>
      exact h.withSession trivial fun s hs => h.enterWait hs result retryAt
  | leave i status =>
      refine h.withSession trivial fun s hs => ?_
      obtain ⟨w', hw', hkeeps, _⟩ := h.leaveWait hs status
      exact ⟨w', hw', hkeeps⟩
  | reset i =>
      refine h.withSession trivial fun s hs => ?_
      obtain ⟨w', hw', hkeeps, _⟩ := h.resetWait hs
      exact ⟨w', hw', hkeeps⟩
  | endRequest i =>
      exact h.withSession trivial fun s hs => h.endRequest hs
  | beginPass =>
      exact ⟨_, rfl, Keeps.stepSpec ⟨h.of_same rfl rfl rfl rfl, id⟩ trivial⟩
  | retryAdmitted i =>
      refine h.withSession trivial fun s hs => ⟨_, rfl, ?_⟩
      split
      next =>
          exact h.keeps_set hs rfl
      next =>
          exact h.keeps_self
  | retried i ownership token registered =>
      exact h.withSession trivial fun s hs =>
        ⟨_, rfl, h.retried hs ownership token registered⟩
  | schedule retryAt endOfPass =>
      refine ⟨_, rfl, Keeps.stepSpec ?_ trivial⟩
      split
      next =>
          exact ⟨h.of_same rfl rfl rfl rfl, id⟩
      next =>
          exact h.keeps_self
  | wake token server =>
      exact ⟨_, rfl, (h.applyWake token server).stepSpec trivial⟩
  | take i currentKey canServe status =>
      exact h.take
  | cancel sessionId =>
      exact ⟨_, rfl, (h.cancelReservation sessionId).stepSpec trivial⟩
  | offered =>
      exact ⟨_, rfl, h.clearInactiveRetention.stepSpec trivial⟩
  | moveIdle i =>
      refine h.withSession trivial fun s hs => ⟨_, rfl, ?_⟩
      split
      next =>
          exact h.keeps_self
      next hidle =>
          exact h.eraseIdx hs (by simpa using hidle)
  | destroy i =>
      exact h.withSession trivial fun s hs => h.destroy hs
  | shutdown =>
      have hcancel := h.cancelReservation 0
      refine ⟨_, rfl, (hcancel.trans ?_).stepSpec trivial⟩
      split
      next =>
          refine ⟨hcancel.accounted.of_same rfl rfl rfl rfl, fun _ hactive => ?_⟩
          exact absurd hactive (by simp [not_active_default])
      next =>
          exact hcancel.accounted.keeps_self

theorem accounted_init : Accounted {} :=
  ⟨⟨.nil, rfl⟩, Multiset.notMem_zero 0, by simp [WorkerReservationState.active]⟩

theorem run_append (ops : List WaiterOp) (op : WaiterOp) :
    run (ops ++ [op]) = (run ops).bind (·.step op) := by
  simp [run, List.foldlM_append]

theorem accounted_run (ops : List WaiterOp) : ∃ w, run ops = some w ∧ w.Accounted := by
  induction ops using List.reverseRecOn with
  | nil =>
      exact ⟨{}, rfl, accounted_init⟩
  | append_singleton ops op ih =>
      obtain ⟨w, hw, haccounted⟩ := ih
      obtain ⟨w', hw', hspec⟩ := haccounted.step op
      exact ⟨w', by rw [run_append, hw]; exact hw', hspec.accounted⟩

/-- Along a run retention is live as long as reserved connections are taken under
scopes with waiters. -/
theorem retentionLive_run
    (ops : List WaiterOp)
    (h : ∀ before op w, before ++ [op] <+: ops → run before = some w → w.TakesLive op)
    (w : WaitWorker)
    (hw : run ops = some w) :
    w.RetentionLive := by
  induction ops using List.reverseRecOn generalizing w with
  | nil =>
      obtain rfl : {} = w := by simpa [run] using hw
      exact fun hactive => absurd hactive (by simp [not_active_default])
  | append_singleton ops op ih =>
      obtain ⟨v, hv, haccounted⟩ := accounted_run ops
      obtain ⟨v', hv', hspec⟩ := haccounted.step op
      obtain rfl : v' = w := by
        rw [run_append, hv] at hw
        exact Option.some.inj (hv'.symm.trans hw)
      refine hspec.retentionLive ?_ (h ops op v List.prefix_rfl hv)
      exact ih (fun before op w hbefore =>
        h before op w (hbefore.trans (List.prefix_append ops [_]))) v hv

/-- In every run no assertion fails, the waiter count is the sum of the scope counts and
the number of waiting sessions, and a connection is kept for a scope only while a session
waits in it.  Retention is always of a scope with waiters exactly when every reserved
connection is taken while a session waits in the scope it was asked for. -/
theorem reader_waiters_accounted (ops : List WaiterOp) :
    (∃ w, run ops = some w ∧
      w.waiterCount = (w.waitScopes.map (·.2)).sum ∧
      w.waiterCount = w.sessions.countP (·.wait.active) ∧
      ∀ requirements, w.matchesRetention requirements = true →
        w.retention.scopeHash ∈ w.waiting) ∧
    ((∀ before w, before <+: ops → run before = some w → w.RetentionLive) ↔
      ∀ before op w, before ++ [op] <+: ops → run before = some w → w.TakesLive op) := by
  constructor
  · obtain ⟨w, hw, haccounted⟩ := accounted_run ops
    refine ⟨w, hw, ?_, ?_, ?_⟩
    · rw [haccounted.counted.waiterCount, haccounted.counted.scopes.sum_eq]
    · rw [haccounted.counted.waiterCount, waiting, card_waitingOf]
    · intro requirements hmatches
      simp only [matchesRetention, Bool.and_eq_true] at hmatches
      exact ((waitScopeActive_iff haccounted.counted.scopes).mp hmatches.1.1).2
  · constructor
    · intro hlive before op w hbefore hw
      obtain ⟨v, hv, haccounted⟩ := accounted_run before
      obtain rfl : v = w := Option.some.inj (hv.symm.trans hw)
      obtain ⟨v', hv', hspec⟩ := haccounted.step op
      exact hspec.takesLive (hlive (before ++ [op]) v' hbefore (by rw [run_append, hv]; exact hv'))
    · intro htakes before w hbefore hw
      exact retentionLive_run before
        (fun b op w hb => htakes b op w (hb.trans hbefore)) w hw

/-- The generation of a protocol with the identity of the clients. -/
def generationOf (protocol : ProxyProtocol) : Nat :=
  (StartupProfile.fromProtocol protocol).generation .client

/-- A busy result of hostgroup 20 under a protocol. -/
def busyUnder (protocol : ProxyProtocol) (status : ReaderStatus) : BusyResult where
  status := status
  hostgroupId := 20
  srv := some ⟨1, some 20⟩
  selectedServerSnapshot := true
  reservationProfileGeneration := generationOf protocol
  reservationPoolKey := ⟨11, 12, 13⟩
  target := .reader
  plan := { fallbackWriterHg := 10, readTarget := 1 }
  waitSpec := {}

/-- Two sessions wait; the first registers a request.  The protocol is changed, both are
tried again, and the protocol is changed back.  A connection is then reserved for the
request, and the first session takes it. -/
def protocolChangedTwice : List WaiterOp :=
  [.attach 1 20, .attach 2 20,
    .busy 0 (busyUnder .v15 .readerBusy) 5000,
    .busy 1 (busyUnder .v15 .readerBusy) 5000,
    .beginPass,
    .retryAdmitted 0, .busy 0 (busyUnder .v15 .readerGroupBusy) 5000, .retried 0 .none 7 true,
    .schedule 10000 true,
    .beginPass,
    .retryAdmitted 0, .busy 0 (busyUnder .legacy .readerBusy) 10000, .retried 0 .none 8 true,
    .retryAdmitted 1, .busy 1 (busyUnder .legacy .readerBusy) 10000, .retried 1 .none 9 true,
    .schedule 15000 true,
    .wake 7 ⟨1, some 20⟩,
    .beginPass,
    .retryAdmitted 0,
    .take 0 (some ((⟨11, 12, 13⟩ : PoolKey).matchKey (generationOf .v15))) true .acquired,
    .leave 0 .acquired]

/-- Retention may be of a scope that no session waits in. -/
theorem retention_without_waiters :
    ¬ ∀ ops w, run ops = some w → w.retention.active = true →
        0 < w.sessions.countP fun s => s.wait.active && s.wait.scopeHash == w.retention.scopeHash := by
  intro h
  have hrun : (run protocolChangedTwice).map (fun w => (w.retention.active,
      w.sessions.countP fun s => s.wait.active && s.wait.scopeHash == w.retention.scopeHash)) =
      some (true, 0) := by
    decide +kernel
  obtain ⟨w, hw, heq⟩ := Option.map_eq_some_iff.mp hrun
  obtain ⟨hactive, hcount⟩ := Prod.mk.inj heq
  exact absurd (h protocolChangedTwice w hw hactive) (by omega)

end WaitWorker

end PolarProxy
