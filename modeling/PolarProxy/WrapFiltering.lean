import PolarProxy.WrapDispatch

/-!
# The client sees its own results

What an unwrapped query shows is a fold over its results.  A wrapped query shows the same of the
results that follow its SET statements, or of the results from the first SET that fails on.  The
number of results that are swallowed is the number of SET statements in the text.

**Results.**
* `dispatch_sets`, `asyncQuery_begun`: the statements are counted as they are sent.
* `steps_swallow`, `steps_failed`, `steps_shown`: results of SET statements, a failed one, and
  the results behind them.
* `sends_reset`: every query on a connection with foreign ids.
* `wrapped_query_filtering`: all of it.
-/

namespace PolarProxy

namespace Wrapping

/-! ## An unwrapped query -/

/-- What the client of a query sees, with the state of its last result. -/
structure Shown where
  errorInfo : Option BackendError := none
  complete : Bool := false
  ended : Bool := false
  out : List Forwarded := []
  deriving DecidableEq

namespace Shown

/-- The first result of a further statement -/
def next (s : Shown) : Shown :=
  if s.complete then { s with errorInfo := none, complete := false } else s

/-- A result of the statement -/
def add (s : Shown) : BackendResult → Shown
  | .commandOk tag => { s with complete := true, out := s.out ++ [.completion tag] }
  | .emptyQuery => { s with complete := true, out := s.out ++ [.emptyQuery] }
  | .row data => { s with out := s.out ++ [.row data] }
  | .tuplesOk tag => { s with complete := true, out := s.out ++ [.completion tag] }
  | .copyOut data => { s with out := s.out ++ [.copyOut data] }
  | .copyIn =>
      { s with
        errorInfo := some ⟨.error, "Unable to process 'COPY' command", false⟩
        ended := true }
  | .error e =>
      if s.errorInfo.any fun info => info.severity = .fatal then s
      else if e.severity.copied then
        { s with errorInfo := some e, complete := true, out := s.out ++ [.error e.text] }
      else { s with errorInfo := some e }

/-- One result of a query that was not wrapped. -/
def step (s : Shown) (result : BackendResult) : Shown :=
  if s.ended then s else s.next.add result

/-- What a result is for the client. -/
def item : BackendResult → Forwarded
  | .commandOk tag => .completion tag
  | .emptyQuery => .emptyQuery
  | .row data => .row data
  | .tuplesOk tag => .completion tag
  | .copyOut data => .copyOut data
  | .copyIn => .error "Unable to process 'COPY' command"
  | .error e => .error e.text

/-- Results that are forwarded when they arrive. -/
def immediate : BackendResult → Bool
  | .copyIn => false
  | .error e => e.severity.copied
  | _ => true

/-- No error that hides the next one. -/
def Clear (s : Shown) : Prop :=
  s.ended = false ∧ (s.errorInfo.any fun info => info.severity = .fatal) = false

theorem step_item
    {s : Shown} {result : BackendResult}
    (h : s.Clear)
    (hresult : immediate result = true) :
    (s.step result).Clear ∧ (s.step result).out = s.out ++ [item result] := by
  obtain ⟨hended, herror⟩ := h
  have hnext : s.next.ended = false ∧
      (s.next.errorInfo.any fun info => info.severity = .fatal) = false ∧ s.next.out = s.out := by
    unfold next
    split
    · exact ⟨hended, rfl, rfl⟩
    · exact ⟨hended, herror, rfl⟩
  obtain ⟨hended', herror', hout⟩ := hnext
  have hstep : s.step result = s.next.add result := by
    rw [step, if_neg (by rw [hended]; exact Bool.false_ne_true)]
  rw [hstep, ← hout]
  cases result with
  | commandOk _ | emptyQuery | row _ | tuplesOk _ | copyOut _ =>
      exact ⟨⟨hended', herror'⟩, rfl⟩
  | copyIn =>
      cases hresult
  | error e =>
      have hcopied : e.severity.copied = true := hresult
      have hseverity : ¬ e.severity = .fatal := by
        intro hfatal
        rw [hfatal] at hcopied
        cases hcopied
      rw [add, if_neg (by rw [herror']; exact Bool.false_ne_true), if_pos hcopied]
      exact ⟨⟨hended', decide_eq_false hseverity⟩, rfl⟩

theorem foldl_step_out
    {results : List BackendResult}
    (hresults : ∀ result ∈ results, immediate result = true)
    {s : Shown}
    (h : s.Clear) :
    (results.foldl step s).out = s.out ++ results.map item := by
  induction results generalizing s with
  | nil =>
      exact (List.append_nil _).symm
  | cons result results ih =>
      obtain ⟨hclear, hout⟩ := step_item h (hresults result List.mem_cons_self)
      rw [List.foldl_cons, ih (fun r hr => hresults r (List.mem_cons_of_mem _ hr)) hclear, hout,
        List.append_assoc]
      rfl

end Shown

/-! ## Counting the statements -/

theorem appendWrappedWaitQuery_count (query : String) (spec : WaitSpec) (out : List SetStmt) :
    (appendWrappedWaitQuery query spec out).1 = 0 ∨
      (appendWrappedWaitQuery query spec out).2.length =
        out.length + (appendWrappedWaitQuery query spec out).1 := by
  unfold appendWrappedWaitQuery
  split
  · exact Or.inl rfl
  · split
    · exact Or.inl rfl
    · split
      · exact Or.inl rfl
      · dsimp only
        cases hwait : appendPolarWaitSet spec.type spec.target
            (out ++ [.mode spec.mode] ++ [.timeout spec.timeoutMs]) with
        | none =>
            exact Or.inl rfl
        | some wrapped =>
            refine Or.inr ?_
            unfold appendPolarWaitSet at hwait
            split at hwait
            · cases hwait
            · obtain rfl := Option.some.inj hwait
              simp

variable {request : SessionRequest} {session : SessionDispatch}

/-- The session hands over as many statements as it counts. -/
theorem dispatch_sets
    (h : request.dispatch = some session) :
    session.batch.sets.length = session.wrapperStmts := by
  cases request with
  | plain query =>
      obtain rfl := Option.some.inj h
      rfl
  | wait query spec =>
      simp only [SessionRequest.dispatch] at h
      split at h
      · cases h
      · obtain rfl := Option.some.inj h
        rename_i hbuilt
        have hcount := (appendWrappedWaitQuery_count query spec []).resolve_left hbuilt
        exact hcount.trans (Nat.zero_add _)
  | split query spec txnXids bypassWait =>
      simp only [SessionRequest.dispatch] at h
      split at h
      · cases h
      · obtain rfl := Option.some.inj h
        rename_i hbuilt
        unfold buildTxnSplitWrappedQuery at hbuilt ⊢
        dsimp only at hbuilt ⊢
        split at hbuilt
        · exact absurd rfl hbuilt
        · rename_i hxids
          rw [if_neg hxids]
          split at hbuilt
          · rename_i hbypass
            rw [if_pos hbypass]
            rfl
          · rename_i hbypass
            rw [if_neg hbypass]
            split at hbuilt
            · exact absurd rfl hbuilt
            · rename_i hcount
              rw [if_neg hcount]
              exact (appendWrappedWaitQuery_count query _ _).resolve_left hcount

/-- A SET that clears foreign ids goes in front. -/
def needsReset (c : WrapConn) (session : SessionDispatch) : Bool :=
  c.xidsDirty && session.kind != .txnSplitWait

theorem dispatch_kind
    (h : request.dispatch = some session)
    (hzero : session.wrapperStmts = 0) :
    session.kind = .none := by
  cases request with
  | plain query =>
      obtain rfl := Option.some.inj h
      rfl
  | wait _ _ | split _ _ _ _ =>
      simp only [SessionRequest.dispatch] at h
      split at h
      · cases h
      · obtain rfl := Option.some.inj h
        rename_i hbuilt
        exact absurd hzero hbuilt

/-- What a connection is when a query was sent: as many results are pending as there are SET
statements in its text. -/
structure Begun (c : WrapConn) (session : SessionDispatch) (sent : WrapConn × Batch) : Prop where
  sets : sent.2.sets =
    (if needsReset c session then [WrapConn.xidsResetSet] else []) ++ session.batch.sets
  query : sent.2.query = session.batch.query
  pending : sent.1.wrap.stmtPending = sent.2.sets.length
  total : sent.1.wrap.stmtTotal = sent.2.sets.length
  wrapped : 0 < sent.2.sets.length → sent.1.wrap.wasWrapped = true
  reset : sent.1.wrap.xidsResetPending = needsReset c session
  error : sent.1.errorInfo = none
  reusable : sent.1.reusable = c.reusable

theorem asyncQuery_begun
    (c : WrapConn)
    (h : request.dispatch = some session) :
    Begun c session (c.asyncQuery session) := by
  have hlen := dispatch_sets h
  have hkind : (if session.wrapperStmts > 0 then
      ({ wrapperStmts := session.wrapperStmts, kind := session.kind } : DispatchState) else {}) =
        { wrapperStmts := session.wrapperStmts, kind := session.kind } := by
    split
    case isTrue =>
      rfl
    case isFalse hzero =>
      have hstmts : session.wrapperStmts = 0 := by omega
      rw [hstmts, dispatch_kind h hstmts]
  unfold WrapConn.asyncQuery WrapConn.snapshot
  dsimp only
  rw [hkind]
  dsimp only
  by_cases hreset : c.xidsDirty = true ∧ session.kind ≠ .txnSplitWait
  · have hneeds : needsReset c session = true := by
      rw [needsReset, hreset.1, Bool.true_and]
      exact bne_iff_ne.mpr hreset.2
    rw [if_pos hreset]
    refine ⟨?_, rfl, ?_, ?_, ?_, ?_, rfl, rfl⟩
    · rw [hneeds]
      rfl
    · simp [WrapConn.queryStart, WrapState.start, hlen]
    · simp [WrapConn.queryStart, WrapState.start, hlen]
    · simp [WrapConn.queryStart, WrapState.start]
    · simp [WrapConn.queryStart, WrapState.start, hneeds]
  · have hneeds : needsReset c session = false := by
      rw [needsReset]
      cases hdirty : c.xidsDirty with
      | false =>
          rfl
      | true =>
          have hsplit : session.kind = .txnSplitWait := by
            by_contra hne
            exact hreset ⟨hdirty, hne⟩
          rw [hsplit]
          rfl
    rw [if_neg hreset]
    by_cases hpos : session.wrapperStmts > 0
    · refine ⟨?_, rfl, ?_, ?_, ?_, ?_, rfl, rfl⟩
      · rw [hneeds]
        rfl
      · simp [WrapConn.queryStart, WrapState.start, hpos, hlen]
      · simp [WrapConn.queryStart, WrapState.start, hpos, hlen]
      · simp [WrapConn.queryStart, WrapState.start, hpos]
      · simp [WrapConn.queryStart, WrapState.start, hpos, hneeds]
    · have hzero : session.wrapperStmts = 0 := by omega
      refine ⟨?_, rfl, ?_, ?_, ?_, ?_, rfl, rfl⟩
      · rw [hneeds]
        rfl
      · simp [WrapConn.queryStart, hzero, hlen]
      · simp [WrapConn.queryStart, hzero, hlen]
      · simp [hlen, hzero]
      · simp [WrapConn.queryStart, hzero, hneeds]

/-! ## One result -/

/-- The result of a SET statement that has succeeded -/
def BackendResult.successful : BackendResult → Bool
  | .commandOk _ => true
  | .emptyQuery => true
  | _ => false

namespace Reading

variable {r : Reading} {n : Nat} (waitActive : Bool)

def shown (r : Reading) : Shown :=
  ⟨r.conn.errorInfo, r.complete, r.ended, r.out⟩

/-- The results of `n` SET statements are still to come. -/
structure Waiting (r : Reading) (n : Nat) : Prop where
  wrapped : 0 < n → r.conn.wrap.wasWrapped = true
  pending : r.conn.wrap.stmtPending = n
  shown : r.shown.errorInfo = none ∧ r.shown.complete = false ∧ r.shown.ended = false

theorem handleWrapperSetError_frame
    (c : WrapConn) (waitActive : Bool) (e : BackendError) :
    (c.handleWrapperSetError waitActive e).errorInfo = c.errorInfo ∧
      (c.handleWrapperSetError waitActive e).reusable = c.reusable ∧
      (c.wrap.stmtPending = 0 ∨ c.wrap.wasWrapped = true →
        (c.handleWrapperSetError waitActive e).wrap.stmtPending = 0) := by
  unfold WrapConn.handleWrapperSetError
  split
  case isTrue hwas =>
    refine ⟨rfl, rfl, ?_⟩
    rintro (hzero | hwrapped)
    · exact hzero
    · rw [hwrapped] at hwas
      cases hwas
  case isFalse =>
    dsimp only
    split
    case isTrue =>
      exact ⟨rfl, rfl, fun _ => rfl⟩
    case isFalse hmark =>
      refine ⟨rfl, rfl, fun _ => ?_⟩
      rw [Bool.or_eq_true, not_or] at hmark
      have hnot := hmark.2
      rw [WrapState.consumingWrapperSet, decide_eq_true_iff] at hnot
      omega

theorem forward_shown
    (r : Reading) (waitActive : Bool) (result : BackendResult) :
    (r.forward waitActive result).shown = r.shown.add result ∧
      (r.forward waitActive result).conn.reusable = r.conn.reusable ∧
      (r.conn.wrap.stmtPending = 0 →
        (r.forward waitActive result).conn.wrap.stmtPending = 0) := by
  cases result with
  | commandOk _ | emptyQuery | row _ | tuplesOk _ | copyOut _ | copyIn =>
      exact ⟨rfl, rfl, fun h => h⟩
  | error e =>
      obtain ⟨herror, hreusable, hpending⟩ :=
        handleWrapperSetError_frame { r.conn with errorInfo := some e } waitActive e
      rw [forward, Shown.add]
      change (if (r.conn.errorInfo.any fun info => info.severity = .fatal) = true then r
        else _).shown = (if (r.conn.errorInfo.any fun info => info.severity = .fatal) = true then r.shown
          else _) ∧ _
      split
      · exact ⟨rfl, rfl, fun h => h⟩
      · dsimp only
        split
        · refine ⟨?_, hreusable, fun h => hpending (Or.inl h)⟩
          rw [shown, herror]
          rfl
        · refine ⟨?_, hreusable, fun h => hpending (Or.inl h)⟩
          rw [shown, herror]
          rfl

theorem next_shown
    (r : Reading) :
    (if r.complete then r.restart else r).shown = r.shown.next ∧
      (if r.complete then r.restart else r).conn.reusable = r.conn.reusable ∧
      (if r.complete then r.restart else r).conn.wrap = r.conn.wrap := by
  unfold Shown.next
  change (if r.complete then r.restart else r).shown =
    (if r.complete = true then { r.shown with errorInfo := none, complete := false } else r.shown) ∧ _
  split
  · exact ⟨rfl, rfl, rfl⟩
  · exact ⟨rfl, rfl, rfl⟩

theorem step_shown
    (hpending : r.conn.wrap.stmtPending = 0)
    (result : BackendResult) :
    ∃ r', step waitActive r result = .ok r' ∧ r'.shown = r.shown.step result ∧
      r'.conn.wrap.stmtPending = 0 ∧ r'.conn.reusable = r.conn.reusable := by
  by_cases hended : r.ended = true
  · refine ⟨r, ?_, ?_, hpending, rfl⟩
    · rw [step, if_pos hended]
    · rw [Shown.step, if_pos (show r.shown.ended = true from hended)]
  · have hconsume : r.consume waitActive result = .ok (r, false) := by
      rw [consume, WrapState.consumingWrapperSet, hpending]
      rfl
    obtain ⟨hnext, hreusable, hwrap⟩ := next_shown r
    obtain ⟨hshown, hreusable', hpending'⟩ :=
      forward_shown (if r.complete then r.restart else r) waitActive result
    refine ⟨(if r.complete then r.restart else r).forward waitActive result, ?_, ?_, ?_,
      hreusable'.trans hreusable⟩
    · rw [step, if_neg hended, hconsume]
      rfl
    · rw [hshown, hnext, Shown.step, if_neg (show ¬ r.shown.ended = true from hended)]
    · exact hpending' (by rw [hwrap]; exact hpending)

theorem step_swallow
    {result : BackendResult}
    (h : r.Waiting (n + 1))
    (hresult : result.successful = true) :
    ∃ r', step waitActive r result = .ok r' ∧ r'.Waiting n ∧ r'.out = r.out ∧
      r'.conn.reusable = r.conn.reusable ∧ r'.conn.wrap.stmtTotal = r.conn.wrap.stmtTotal := by
  have hended : r.ended = false := h.shown.2.2
  have hpos : r.conn.wrap.stmtPending > 0 := by
    rw [h.pending]
    exact Nat.succ_pos n
  have hconsume : ∃ conn : WrapConn, r.consume waitActive result = .ok ({ r with conn := conn }, true) ∧
      conn.wrap.stmtPending = n ∧ conn.wrap.wasWrapped = r.conn.wrap.wasWrapped ∧
        conn.wrap.stmtTotal = r.conn.wrap.stmtTotal ∧ conn.reusable = r.conn.reusable := by
    unfold consume
    rw [WrapState.consumingWrapperSet, decide_eq_true hpos, WrapState.consumeSuccessful, if_pos hpos]
    cases result with
    | commandOk _ | emptyQuery =>
        refine ⟨_, rfl, ?_⟩
        split
        · exact ⟨by simp [h.pending], rfl, rfl, rfl⟩
        · exact ⟨by simp [h.pending], rfl, rfl, rfl⟩
    | row _ | tuplesOk _ | copyOut _ | copyIn | error _ =>
        cases hresult
  obtain ⟨conn, hconn, hpending, hwas, htotal, hreusable⟩ := hconsume
  refine ⟨({ r with conn := conn } : Reading).restart, ?_, ⟨?_, hpending, rfl, rfl, hended⟩, rfl,
    hreusable, htotal⟩
  · rw [step, if_neg (by rw [hended]; exact Bool.false_ne_true), hconn]
    rfl
  · intro _
    change conn.wrap.wasWrapped = true
    rw [hwas]
    exact h.wrapped (Nat.succ_pos n)

theorem step_failed
    (h : r.Waiting (n + 1))
    (e : BackendError) :
    ∃ r', step waitActive r (.error e) = .ok r' ∧ r'.shown = r.shown.step (.error e) ∧
      r'.conn.wrap.stmtPending = 0 ∧
      (r.conn.wrap.consumingXidsReset = true → r'.conn.reusable = false) := by
  obtain ⟨herror, hcomplete, hended⟩ := h.shown
  have hno : ¬ r.ended = true := by
    change r.ended = false at hended
    rw [hended]
    exact Bool.false_ne_true
  have hpos : r.conn.wrap.stmtPending > 0 := by
    rw [h.pending]
    exact Nat.succ_pos n
  let conn : WrapConn :=
    if r.conn.wrap.consumingXidsReset then
      { r.conn with reusable := false, xidsResetConsumed := false }
    else r.conn
  have hconsume : r.consume waitActive (.error e) =
      .ok ({ r with conn := conn.handleWrapperSetError waitActive e }, false) := by
    rw [consume, WrapState.consumingWrapperSet, decide_eq_true hpos]
    rfl
  have hconn : conn.errorInfo = none ∧ conn.wrap = r.conn.wrap ∧
      (r.conn.wrap.consumingXidsReset = true → conn.reusable = false) := by
    change (if r.conn.wrap.consumingXidsReset = true then
      ({ r.conn with reusable := false, xidsResetConsumed := false } : WrapConn) else r.conn).errorInfo =
        none ∧ (if r.conn.wrap.consumingXidsReset = true then
      ({ r.conn with reusable := false, xidsResetConsumed := false } : WrapConn) else r.conn).wrap = _ ∧
        (_ → (if r.conn.wrap.consumingXidsReset = true then
      ({ r.conn with reusable := false, xidsResetConsumed := false } : WrapConn) else r.conn).reusable = _)
    split
    case isTrue =>
      exact ⟨herror, rfl, fun _ => rfl⟩
    case isFalse hreset =>
      exact ⟨herror, rfl, fun heq => absurd heq hreset⟩
  obtain ⟨herror', hreusable', hpending'⟩ := handleWrapperSetError_frame conn waitActive e
  let failed : Reading := { r with conn := conn.handleWrapperSetError waitActive e }
  have hpending : failed.conn.wrap.stmtPending = 0 := by
    refine hpending' (Or.inr ?_)
    rw [hconn.2.1]
    exact h.wrapped (Nat.succ_pos n)
  have hfailed : failed.shown = r.shown := by
    change (⟨(conn.handleWrapperSetError waitActive e).errorInfo, r.complete, r.ended, r.out⟩ : Shown) =
      ⟨r.conn.errorInfo, r.complete, r.ended, r.out⟩
    rw [herror', hconn.1]
    exact congrArg (fun info => (⟨info, r.complete, r.ended, r.out⟩ : Shown)) herror.symm
  -- nothing is pending behind the error, so it is treated as a result of the client
  obtain ⟨r', hstep, hshown, hzero, hreusable⟩ := step_shown waitActive hpending (.error e)
  refine ⟨r', ?_, ?_, hzero, ?_⟩
  · rw [← hstep, step, step, if_neg hno, if_neg (show ¬ failed.ended = true from hno), hconsume]
    have hagain : failed.consume waitActive (.error e) = .ok (failed, false) := by
      rw [consume, WrapState.consumingWrapperSet, hpending]
      rfl
    rw [hagain]
  · rw [hshown, hfailed]
  · intro hreset
    rw [hreusable]
    change (conn.handleWrapperSetError waitActive e).reusable = false
    rw [hreusable']
    exact hconn.2.2 hreset

/-- Every result can be read: the assertion of the countdown holds. -/
theorem step_ok
    (r : Reading) (waitActive : Bool) (result : BackendResult) :
    ∃ r', step waitActive r result = .ok r' := by
  have hconsume : ∃ consumed, r.consume waitActive result = .ok consumed := by
    unfold consume
    split
    · exact ⟨_, rfl⟩
    · rename_i hconsuming
      have hpos : r.conn.wrap.stmtPending > 0 := by
        refine Nat.pos_of_ne_zero ?_
        simpa [WrapState.consumingWrapperSet] using hconsuming
      rw [WrapState.consumeSuccessful, if_pos hpos]
      cases result <;> exact ⟨_, rfl⟩
  obtain ⟨⟨r', swallowed⟩, hconsume⟩ := hconsume
  rw [step, hconsume]
  split
  · exact ⟨_, rfl⟩
  · cases swallowed with
    | true =>
        exact ⟨_, rfl⟩
    | false =>
        exact ⟨_, rfl⟩

/-! ## Runs of results -/

theorem steps_ok
    (waitActive : Bool) (results : List BackendResult) (r : Reading) :
    ∃ r', steps waitActive results r = .ok r' := by
  induction results generalizing r with
  | nil =>
      exact ⟨r, rfl⟩
  | cons result results ih =>
      obtain ⟨r₁, hstep⟩ := step_ok r waitActive result
      obtain ⟨r', hsteps⟩ := ih r₁
      refine ⟨r', ?_⟩
      rw [steps, List.foldlM_cons, hstep]
      exact hsteps

/-- Results behind the SET statements. -/
theorem steps_shown
    (hpending : r.conn.wrap.stmtPending = 0)
    (results : List BackendResult) :
    ∃ r', steps waitActive results r = .ok r' ∧ r'.shown = results.foldl Shown.step r.shown ∧
      r'.conn.wrap.stmtPending = 0 ∧ r'.conn.reusable = r.conn.reusable := by
  induction results generalizing r with
  | nil =>
      exact ⟨r, rfl, rfl, hpending, rfl⟩
  | cons result results ih =>
      obtain ⟨r₁, hstep, hshown, hzero, hreusable⟩ := step_shown waitActive hpending result
      obtain ⟨r', hsteps, hshown', hzero', hreusable'⟩ := ih hzero
      refine ⟨r', ?_, ?_, hzero', hreusable'.trans hreusable⟩
      · rw [steps, List.foldlM_cons, hstep]
        exact hsteps
      · rw [hshown', hshown, List.foldl_cons]

/-- The results of SET statements that have succeeded. -/
theorem steps_swallow
    {sets : List BackendResult}
    (h : r.Waiting (sets.length + n))
    (hsets : ∀ result ∈ sets, result.successful = true) :
    ∃ r', steps waitActive sets r = .ok r' ∧ r'.Waiting n ∧ r'.out = r.out ∧
      r'.conn.reusable = r.conn.reusable := by
  induction sets generalizing r with
  | nil =>
      rw [List.length_nil, Nat.zero_add] at h
      exact ⟨r, rfl, h, rfl, rfl⟩
  | cons result sets ih =>
      rw [List.length_cons, Nat.add_right_comm] at h
      obtain ⟨r₁, hstep, hwaiting, hout, hreusable, -⟩ :=
        step_swallow waitActive h (hsets result List.mem_cons_self)
      obtain ⟨r', hsteps, hwaiting', hout', hreusable'⟩ :=
        ih hwaiting (fun x hx => hsets x (List.mem_cons_of_mem _ hx))
      refine ⟨r', ?_, hwaiting', hout'.trans hout, hreusable'.trans hreusable⟩
      rw [steps, List.foldlM_cons, hstep]
      exact hsteps

theorem steps_append
    (waitActive : Bool) (results results' : List BackendResult) (r : Reading) :
    steps waitActive (results ++ results') r =
      steps waitActive results r >>= steps waitActive results' := by
  rw [steps, List.foldlM_append]
  rfl

end Reading

/-! ## Queries on a connection with foreign ids -/

namespace WrapConn

theorem connStep_sent
    {c : WrapConn} {op : ConnOp} {sent : Sent}
    (h : (c.connStep op).2 = some sent)
    (hquery : sent.byQuery = true) :
    ∃ request session, SessionRequest.dispatch request = some session ∧ sent.kind = session.kind ∧
      sent.xidsDirty = c.xidsDirty ∧ sent.batch = (c.asyncQuery session).2 := by
  cases op with
  | query request =>
      simp only [connStep] at h
      cases hdispatch : request.dispatch with
      | none =>
          rw [hdispatch] at h
          cases h
      | some session =>
          rw [hdispatch] at h
          obtain rfl := Option.some.inj h
          exact ⟨request, session, hdispatch, rfl, rfl, rfl⟩
  | extendedQuery =>
      cases h
  | simpleCommand command =>
      obtain rfl := Option.some.inj h
      cases hquery
  | beginTxnSplitRead =>
      cases h
  | results waitActive results =>
      simp only [connStep] at h
      split at h
      · cases h
      · cases h
  | freeResult | clearRequestState =>
      cases h
  | resetSession inTransaction done =>
      obtain rfl := Option.some.inj h
      cases hquery

/-- In every run a query other than a split read begins with the reset, while foreign ids may
be there. -/
theorem sends_reset
    (ops : List ConnOp) (c : WrapConn)
    (sent : Sent)
    (hsent : sent ∈ c.sends ops)
    (hquery : sent.byQuery = true)
    (hdirty : sent.xidsDirty = true)
    (hkind : sent.kind ≠ .txnSplitWait) :
    sent.batch.sets.head? = some xidsResetSet := by
  induction ops generalizing c with
  | nil =>
      cases hsent
  | cons op ops ih =>
      rw [sends, List.mem_append] at hsent
      rcases hsent with hsent | hsent
      · obtain ⟨request, session, hdispatch, hkind', hdirty', hbatch⟩ :=
          connStep_sent (Option.mem_toList.mp hsent) hquery
        have hneeds : needsReset c session = true := by
          rw [needsReset, ← hdirty', hdirty, Bool.true_and]
          exact bne_iff_ne.mpr (hkind' ▸ hkind)
        rw [hbatch, (asyncQuery_begun c hdispatch).sets, hneeds]
        rfl
      · exact ih _ hsent

end WrapConn

/-- A command that configures a connection goes out as it is, also while foreign ids may be
there. -/
theorem simpleCommand_not_reset :
    ¬ ∀ (c : WrapConn) (ops : List ConnOp), ∀ sent ∈ c.sends ops,
        sent.xidsDirty = true → sent.kind ≠ .txnSplitWait →
          sent.batch.sets.head? = some WrapConn.xidsResetSet := by
  intro h
  have hsends : WrapConn.sends {} [.beginTxnSplitRead, .simpleCommand "SET TimeZone TO 'UTC'"] =
      [⟨false, .none, true, ⟨[], "SET TimeZone TO 'UTC'"⟩⟩] := rfl
  have hreset := h {} [.beginTxnSplitRead, .simpleCommand "SET TimeZone TO 'UTC'"]
  rw [hsends] at hreset
  have hhead := hreset _ List.mem_cons_self rfl nofun
  cases hhead

open Reading in
/-- As many results are swallowed as SET statements were sent, and none after one of them has
failed; what follows is forwarded as the results of an unwrapped query are.  A failed reset leaves
the connection not reusable, and so does an extended query while foreign ids may be there; every
other query of a client begins with the reset then. -/
theorem wrapped_query_filtering :
    (∀ (c : WrapConn) (request : SessionRequest) (session : SessionDispatch),
      request.dispatch = some session →
        ∀ sent, sent = c.asyncQuery session →
          ∀ n, n = session.wrapperStmts + (if needsReset c session then 1 else 0) →
            sent.2.sets.length = n ∧ sent.2.query = session.batch.query ∧
              sent.1.wrap.stmtPending = n ∧
              ∀ waitActive,
                (∀ results, ∃ r, steps waitActive results { conn := sent.1 } = .ok r) ∧
                (∀ sets rest, sets.length = n → (∀ result ∈ sets, result.successful = true) →
                  ∃ r, steps waitActive (sets ++ rest) { conn := sent.1 } = .ok r ∧
                    r.shown = rest.foldl Shown.step {}) ∧
                (∀ sets e rest, sets.length < n → (∀ result ∈ sets, result.successful = true) →
                  ∃ r, steps waitActive (sets ++ .error e :: rest) { conn := sent.1 } = .ok r ∧
                    r.shown = (.error e :: rest).foldl Shown.step {} ∧
                    r.conn.wrap.stmtPending = 0 ∧
                    (rest = [] → ∃ r', r.finish = .ok r' ∧ r'.out = [.error e.text, .ready]) ∧
                    (needsReset c session = true → sets = [] → r.conn.reusable = false))) ∧
      (∀ results : List BackendResult, (∀ result ∈ results, Shown.immediate result = true) →
        (results.foldl Shown.step {}).out = results.map Shown.item) ∧
      (∀ c : WrapConn, c.xidsDirty = true → c.asyncExtendedQuery.reusable = false) ∧
      ∀ (c : WrapConn) (ops : List ConnOp), ∀ sent ∈ c.sends ops,
        sent.byQuery = true → sent.xidsDirty = true → sent.kind ≠ .txnSplitWait →
          sent.batch.sets.head? = some WrapConn.xidsResetSet := by
  refine ⟨?_, ?_, ?_, ?_⟩
  · intro c request session hdispatch sent hsent n hn
    have hbegun := asyncQuery_begun c hdispatch
    rw [← hsent] at hbegun
    have hlen : sent.2.sets.length = n := by
      rw [hbegun.sets, List.length_append, dispatch_sets hdispatch, hn, Nat.add_comm]
      cases needsReset c session with
      | true =>
          rfl
      | false =>
          rfl
    have hpending : sent.1.wrap.stmtPending = n := hbegun.pending.trans hlen
    refine ⟨hlen, hbegun.query, hpending, fun waitActive => ⟨?_, ?_, ?_⟩⟩
    · intro results
      exact steps_ok waitActive results _
    · intro sets rest hcount hsets
      have hwaiting : Waiting { conn := sent.1 } (sets.length + 0) :=
        ⟨fun hpos => hbegun.wrapped (by omega), by dsimp only; omega, hbegun.error, rfl, rfl⟩
      obtain ⟨r₁, hsteps, hwaiting', hout, -⟩ := steps_swallow waitActive hwaiting hsets
      obtain ⟨r, hrest, hshown, -, -⟩ :=
        steps_shown waitActive hwaiting'.pending rest
      obtain ⟨herror, hcomplete, hended⟩ := hwaiting'.shown
      have hstart : r₁.shown = {} := by
        change (⟨r₁.shown.errorInfo, r₁.shown.complete, r₁.shown.ended, r₁.out⟩ : Shown) = {}
        rw [herror, hcomplete, hended, hout]
      refine ⟨r, ?_, by rw [hshown, hstart]⟩
      rw [steps_append, hsteps]
      exact hrest
    · intro sets e rest hcount hsets
      obtain ⟨more, hmore⟩ : ∃ more, n = sets.length + (more + 1) :=
        ⟨n - sets.length - 1, by omega⟩
      have hwaiting : Waiting { conn := sent.1 } (sets.length + (more + 1)) :=
        ⟨fun hpos => hbegun.wrapped (by omega), by dsimp only; omega, hbegun.error, rfl, rfl⟩
      obtain ⟨r₁, hsteps, hwaiting', hout, -⟩ := steps_swallow waitActive hwaiting hsets
      obtain ⟨r₂, hstep, hshown, hzero, hreset⟩ := step_failed waitActive hwaiting' e
      obtain ⟨r, hrest, hshown', hzero', hreusable⟩ :=
        steps_shown waitActive hzero rest
      obtain ⟨herror, hcomplete, hended⟩ := hwaiting'.shown
      have hstart : r₁.shown = {} := by
        change (⟨r₁.shown.errorInfo, r₁.shown.complete, r₁.shown.ended, r₁.out⟩ : Shown) = {}
        rw [herror, hcomplete, hended, hout]
      have hfinal : r.shown = (.error e :: rest).foldl Shown.step {} := by
        rw [hshown', hshown, hstart, List.foldl_cons]
      refine ⟨r, ?_, hfinal, hzero', ?_, ?_⟩
      · rw [steps_append, hsteps]
        change steps waitActive (.error e :: rest) r₁ = _
        rw [steps, List.foldlM_cons, hstep]
        exact hrest
      · rintro rfl
        have hone : r.shown = Shown.add {} (.error e) := hfinal
        cases hcopied : e.severity.copied with
        | true =>
            have hview : r.shown = ⟨some e, true, false, [.error e.text]⟩ := by
              rw [hone, Shown.add, if_neg (by exact Bool.false_ne_true), if_pos hcopied]
              rfl
            have hended' : r.ended = false := congrArg Shown.ended hview
            have hcomplete' : r.complete = true := congrArg Shown.complete hview
            have hout' : r.out = [.error e.text] := congrArg Shown.out hview
            refine ⟨{ r with ended := true, out := r.out ++ [.ready] }, ?_, ?_⟩
            · rw [finish, if_neg (by rw [hended']; exact Bool.false_ne_true), if_pos hcomplete']
            · dsimp only
              rw [hout']
              rfl
        | false =>
            have hview : r.shown = ⟨some e, false, false, []⟩ := by
              rw [hone, Shown.add, if_neg (by exact Bool.false_ne_true),
                if_neg (by rw [hcopied]; exact Bool.false_ne_true)]
            have hended' : r.ended = false := congrArg Shown.ended hview
            have hcomplete' : r.complete = false := congrArg Shown.complete hview
            have herror' : r.conn.errorInfo = some e := congrArg Shown.errorInfo hview
            have hout' : r.out = [] := congrArg Shown.out hview
            refine ⟨{ r with ended := true, out := r.out ++ [.error e.text, .ready] }, ?_, ?_⟩
            · rw [finish, if_neg (by rw [hended']; exact Bool.false_ne_true),
                if_neg (by rw [hcomplete']; exact Bool.false_ne_true), herror']
            · dsimp only
              rw [hout']
              rfl
      · rintro hneeds rfl
        obtain rfl : r₁ = { conn := sent.1 } := (Except.ok.inj hsteps).symm
        rw [hreusable]
        refine hreset ?_
        rw [WrapState.consumingXidsReset, hbegun.reset, hneeds, hbegun.pending, hbegun.total]
        exact decide_eq_true rfl
  · intro results hresults
    exact Shown.foldl_step_out hresults ⟨rfl, rfl⟩
  · intro c hdirty
    rw [WrapConn.asyncExtendedQuery, hdirty]
    exact Bool.and_false _
  · intro c ops sent hsent hquery hdirty hkind
    exact WrapConn.sends_reset ops c sent hsent hquery hdirty hkind

end Wrapping

end PolarProxy
