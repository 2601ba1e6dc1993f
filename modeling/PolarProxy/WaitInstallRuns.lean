import Mathlib.Data.Nat.Digits.Defs
import PolarProxy.Library.Runs
import PolarProxy.WaitInstall

/-!
# Requests that wait

A session takes its requests one after another.  A request is routed, a reader is
selected, the wrapper is installed when the connection is idle, and the packet of the
stream is sent.  A wrapped read that fails is sent again, to another reader or to the
writer, as the client wrote it; a read that could not be wrapped ends the request.

`WrapSession` keeps, with the request, the client packet and everything that was sent.

**Results.** `Valid.step`, `installWaitWrapper_allOrNothing`.
-/

namespace PolarProxy

namespace Wrapping

open Transition SqlLiterals

/-! ## The wrapped packet -/

theorem replaceSimpleQueryPacket_eq
    {query : List Char}
    (h : query.length + 6 < 2 ^ 32) :
    replaceSimpleQueryPacket query = .takePacket (simpleQueryPacket query) := by
  have hlength : (simpleQueryPacket query).length = query.length + 6 := by
    simp [simpleQueryPacket, bigEndian32]
  have hdrop : ((simpleQueryPacket query).drop 5).length = query.length + 1 := by
    rw [List.length_drop, hlength]
    omega
  rw [replaceSimpleQueryPacket, RealQuery.takePacket, hlength, Nat.mod_eq_of_lt h,
    Nat.mod_eq_of_lt (by omega), List.take_of_length_le (by omega),
    List.take_of_length_le (by omega)]

/-- The fields of a wait fit their types. -/
def InRange (spec : WaitSpec) : Prop :=
  spec.target < 2 ^ 64 ∧ spec.timeoutMs < 2 ^ 32

theorem length_setsText_waitSets
    {spec : WaitSpec}
    (hrange : InRange spec)
    (htype : spec.type = .lsn)
    (htarget : spec.target ≠ 0) :
    (setsText (waitSets spec)).length ≤ 2 ^ 10 := by
  have hmode : (writeSet (SetStmt.mode spec.mode).command).length ≤ 50 := by
    rw [← waitModeSetStatement_eq]
    cases spec.mode <;> decide
  have htimeout : (writeSet (SetStmt.timeout spec.timeoutMs).command).length ≤ 50 := by
    have hdigits := Nat.toDigits_length 10 spec.timeoutMs 10 (by decide)
      (Nat.lt_trans hrange.2 (by decide))
    have hname : "SET polar_proxy_wait_timeout_ms = ".toList.length = 34 := by decide
    have hend : "; ".toList.length = 2 := by decide
    have heq := appendPolarTimeoutSet_eq spec.timeoutMs []
    rw [List.nil_append] at heq
    rw [← heq, appendPolarTimeoutSet, List.length_append, List.length_append, List.length_append,
      List.length_nil]
    omega
  have hwait : (writeSet (SetStmt.waitLsn spec.target).command).length ≤ 60 := by
    have hdigits := Nat.toDigits_length 10 spec.target 20 (by decide)
      (Nat.lt_trans hrange.1 (by decide))
    have hname : "SET polar_xact_split_wait_lsn = '".toList.length = 33 := by decide
    have hend : "'; ".toList.length = 3 := by decide
    have heq := appendPolarWaitText_eq htype htarget []
    rw [appendPolarWaitText, if_neg (by simp [htype, htarget]), Option.some.injEq,
      List.nil_append, List.nil_append] at heq
    rw [← heq, List.length_append, List.length_append]
    omega
  simp only [setsText, waitSets, List.flatMap_cons, List.flatMap_nil, List.length_append,
    List.length_nil]
  omega

/-! ## Sessions -/

structure WaitSent where
  waiting : Bool
  spec : WaitSpec
  originalQuery : List Char
  /-- `wait.wrapper_stmts` -/
  wrapperStmts : Nat
  dispatchWrapperStmts : Nat
  dispatchWrapperKind : WrapperKind
  real : RealQuery
  client : Option (List Char)
  deriving DecidableEq

/-- A session, with the packet of the request it serves and what it has sent. -/
structure WrapSession where
  request : WrapRequest := {}
  client : Option (List Char) := none
  /-- The packet was sent and its result is not complete. -/
  inFlight : Bool := false
  sent : List WaitSent := []
  deriving DecidableEq

/-- Where a wrapped read that failed is sent again. -/
inductive WaitRetry
  | reader (targetReached : Bool) (now : Nat) (fallbackWriterHg : Int)
  | writer
  deriving DecidableEq

/-- What happens to the request of a session. -/
inductive WaitOp
  /-- `polardb_route_query` -/
  | execute (plan : RoutePlan) (ctx : RouteCtx) (pkt : List Char) (env : ExecuteEnv)
  /-- A reader was acquired. -/
  | select (targetReached : Bool) (now : Nat) (fallbackWriterHg : Int)
  /-- A reader is taken although it cannot show its position. -/
  | selectWithoutWait
  /-- `polardb_redirect_to_writer` -/
  | redirectToWriter
  /-- `ASYNC_IDLE` -/
  | dispatch (connected : Bool)
  /-- The clock of the wait -/
  | timer (startedAtUs : Nat) (timeoutError : Bool)
  /-- `polardb_handle_failed_reader_read` of a wrapped read -/
  | waitReadFailed (retry : WaitRetry)
  /-- A failure of a read that does not wait, which may be sent again -/
  | readFailed
  | requestEnd
  /-- `RESET` of the session -/
  | reset
  deriving DecidableEq

/-- `max_allowed_packet` is at most 1 GB. -/
def maxAllowedPacket : Nat :=
  2 ^ 30

namespace WrapSession

variable (s : WrapSession)

/-- `RequestEnd` -/
def requestEnd : WrapSession :=
  { s with
    request := { s.request.resetForNewQuery with real := {} }
    client := none
    inFlight := false }

/-- `polardb_route_query` of a simple query, and the packet handed to the stream -/
def execute (plan : RoutePlan) (ctx : RouteCtx) (pkt : List Char) (env : ExecuteEnv) :
    WrapSession :=
  let r := s.request.clearReaderRoute.polardbExecute plan ctx pkt env
  if r.1.returnError then s.requestEnd
  else
    { s with
      client := some pkt
      request := if r.1.packetTaken then r.2 else { r.2 with real := .takePacket pkt } }

/-- `polardb_finish_reader_wait_selection` of the wait that was planned -/
def select (targetReached : Bool) (now : Nat) (fallbackWriterHg : Int) : WrapSession :=
  let request := s.request.finishReaderWaitSelection s.request.query.readerWaitSpec targetReached
    now fallbackWriterHg
  { s with request := { request with query := { request.query with readerWaitSpec := {} } } }

/-- The wrapper is installed and the packet is sent; the connection takes the wrapper over. -/
def dispatch (connected : Bool) : WrapSession :=
  let r := s.request.installWaitWrapper connected
  match r.1 with
  | .failed => s.requestEnd
  | .continue =>
      { s with
        request := r.2.resetDispatchWrapper
        inFlight := true
        sent := s.sent ++
          [{ waiting := r.2.waitActive
             spec := r.2.query.wait.spec
             originalQuery := r.2.originalQuery
             wrapperStmts := r.2.wrapperStmts
             dispatchWrapperStmts := r.2.dispatchWrapperStmts
             dispatchWrapperKind := r.2.dispatchWrapperKind
             real := r.2.real
             client := s.client }] }

/-- The wrapped packet is freed before a retry; `none` when no packet can be built. -/
def waitReadFailed (retry : WaitRetry) : Option WrapSession :=
  let spec := s.request.query.wait.spec
  let pkt := buildSimpleQueryPacket s.request.originalQuery
  let request :=
    { s.request.resetWait.resetDispatchWrapper with wrappedQueryBuf := [], real := {} }
  if pkt = [] then none
  else
    match retry with
    | .reader targetReached now fallbackWriterHg =>
        if spec.hasWait = false then none
        else
          some { s with
            inFlight := false
            request := { request with real := .takePacket pkt }.finishReaderWaitSelection spec
              targetReached now fallbackWriterHg }
    | .writer =>
        some { s with
          inFlight := false
          request := { request.clearReaderRoute with real := .takePacket pkt } }

/-- One operation; `none` where the session does not perform it. -/
def step : WaitOp → Option WrapSession
  | .execute plan ctx pkt env =>
      if s.inFlight = false ∧ ctx.isExtendedProtocol = false ∧ pkt.length ≤ maxAllowedPacket ∧
          plan.waitSpec.target < 2 ^ 64 ∧ plan.waitSpec.timeoutMs < 2 ^ 32 ∧
          (s.client = none ∨ s.client = some pkt) then
        some (s.execute plan ctx pkt env)
      else none
  | .select targetReached now fallbackWriterHg =>
      if s.inFlight then none else some (s.select targetReached now fallbackWriterHg)
  | .selectWithoutWait =>
      if s.inFlight then none
      else
        some { s with
          request := { s.request.resetWait with
            query := { s.request.resetWait.query with readerWaitSpec := {} } } }
  | .redirectToWriter =>
      if s.inFlight then none else some { s with request := s.request.clearReaderRoute }
  | .dispatch connected => if s.inFlight then none else some (s.dispatch connected)
  | .timer startedAtUs timeoutError =>
      some { s with
        request := { s.request with
          query := { s.request.query with
            wait := { s.request.query.wait with
              waitStartedAtUs := startedAtUs, timeoutError := timeoutError } } } }
  | .waitReadFailed retry =>
      if s.inFlight = true ∧ s.request.waitActive = true ∧
          s.request.query.wait.wrapperFinalized = true ∧ s.request.originalQuery ≠ [] then
        s.waitReadFailed retry
      else none
  | .readFailed =>
      if s.inFlight then some { s with inFlight := false, request := s.request.resetWait } else none
  | .requestEnd => some s.requestEnd
  | .reset => some { s.requestEnd with request := { s.requestEnd.request with waitDisabled := false } }

end WrapSession

/-! ## What every operation keeps -/

/-- The text of a packet, as it is saved when the packet is routed or when it is wrapped. -/
def ClientText (pkt text : List Char) : Prop :=
  extractSimpleQueryBody pkt = some text ∨
    text = if (pkt.drop 5).getLast? = some nul then (pkt.drop 5).dropLast else pkt.drop 5

/-- The packet is the wrapped text of the client, and the count is that of its statements. -/
structure Wrapped (client : Option (List Char)) (spec : WaitSpec) (originalQuery : List Char)
    (wrapperStmts : Nat) (real : RealQuery) : Prop where
  text : ∃ pkt, client = some pkt ∧ ClientText pkt originalQuery
  packet : real = .takePacket (simpleQueryPacket (setsText (waitSets spec) ++ originalQuery))
  count : wrapperStmts = (waitSets spec).length
  read : readSets wrapperStmts (setsText (waitSets spec) ++ originalQuery) =
    some (waitSets spec, originalQuery)

/-- What was sent while a wait was active is wrapped, and its count went with it. -/
structure WaitSent.Valid (e : WaitSent) : Prop where
  wrapped : Wrapped e.client e.spec e.originalQuery e.wrapperStmts e.real
  count : e.dispatchWrapperStmts = e.wrapperStmts
  kind : e.dispatchWrapperKind = .consistencyWait

/-- The packet of the stream is the packet of the client. -/
def WrapSession.Original (s : WrapSession) : Prop :=
  ∃ pkt, s.client = some pkt ∧ s.request.real = .takePacket pkt

structure WrapSession.Valid (s : WrapSession) : Prop where
  short : ∀ pkt, s.client = some pkt → pkt.length ≤ maxAllowedPacket
  text : s.request.originalQuery ≠ [] →
    ∃ pkt, s.client = some pkt ∧ ClientText pkt s.request.originalQuery
  planned : s.request.query.readerWaitSpec.hasWait = true →
    InRange s.request.query.readerWaitSpec ∧ s.request.waitDisabled = false ∧
      (s.request.originalQuery = [] → s.Original)
  waiting : s.request.waitActive = true →
    InRange s.request.query.wait.spec ∧ s.request.waitDisabled = false
  pending : s.request.waitActive = true → s.request.query.wait.wrapperFinalized = false →
    s.request.originalQuery = [] → s.Original
  installed : s.request.waitActive = true → s.request.query.wait.wrapperFinalized = true →
    s.inFlight = true ∧
      Wrapped s.client s.request.query.wait.spec s.request.originalQuery s.request.wrapperStmts
        s.request.real

theorem ClientText.length_le
    {pkt text : List Char}
    (h : ClientText pkt text) :
    text.length ≤ pkt.length := by
  rcases h with h | rfl
  · simp only [extractSimpleQueryBody, Option.ite_none_left_eq_some, Option.some.injEq] at h
    obtain ⟨-, rfl⟩ := h
    rw [List.length_take]
    omega
  · split
    · rw [List.length_dropLast, List.length_drop]
      omega
    · rw [List.length_drop]
      omega

namespace WrapSession

variable {s : WrapSession}

theorem Valid.snapshot
    (h : s.Valid)
    (hactive : s.request.waitActive = true)
    (hpending : s.request.query.wait.wrapperFinalized = false)
    (hne : s.request.snapshotOriginalQuery.originalQuery ≠ []) :
    ∃ pkt, s.client = some pkt ∧
      ClientText pkt s.request.snapshotOriginalQuery.originalQuery := by
  by_cases horiginal : s.request.originalQuery = []
  · obtain ⟨pkt, hclient, hreal⟩ := h.pending hactive hpending horiginal
    refine ⟨pkt, hclient, ?_⟩
    rw [WrapRequest.snapshotOriginalQuery, horiginal, hreal] at hne ⊢
    cases hquery : pkt.drop 5 with
    | nil =>
        simp only [RealQuery.takePacket, hquery] at hne
        exact absurd horiginal hne
    | cons c query =>
        simp only [RealQuery.takePacket, hquery]
        right
        rw [hquery]
  · rw [WrapRequest.snapshotOriginalQuery_of_ne horiginal]
    exact h.text horiginal

/-- An installation that goes on with its wait has replaced the packet. -/
theorem Valid.wrapped
    (h : s.Valid)
    (hactive : s.request.waitActive = true)
    (hpending : s.request.query.wait.wrapperFinalized = false)
    (hcan : CanWrap s.request.snapshotOriginalQuery.originalQuery s.request.query.wait.spec) :
    Wrapped s.client s.request.wrapped.query.wait.spec s.request.wrapped.originalQuery
      s.request.wrapped.wrapperStmts s.request.wrapped.real := by
  obtain ⟨pkt, hclient, htext⟩ := h.snapshot hactive hpending hcan.1
  obtain ⟨hspec, horiginal, hstmts, hreal, -⟩ := WrapRequest.wrapped_eq (s := s.request)
  have hshort : (setsText (waitSets s.request.query.wait.spec) ++
      s.request.snapshotOriginalQuery.originalQuery).length + 6 < 2 ^ 32 := by
    have hsets := length_setsText_waitSets (h.waiting hactive).1 hcan.2.1 hcan.2.2
    have hquery := htext.length_le
    have hpkt := h.short pkt hclient
    rw [maxAllowedPacket] at hpkt
    rw [List.length_append]
    omega
  rw [hspec, horiginal, hstmts, hreal, replaceSimpleQueryPacket_eq hshort]
  exact ⟨⟨pkt, hclient, htext⟩, rfl, rfl, readSets_sets _ _⟩

/-- The outcomes of an installation, for a request as a run leaves it. -/
theorem Valid.install
    (h : s.Valid)
    (connected : Bool) :
    ((s.request.installWaitWrapper connected).1 = .continue →
        (s.request.installWaitWrapper connected).2.waitActive = true →
        Wrapped s.client (s.request.installWaitWrapper connected).2.query.wait.spec
            (s.request.installWaitWrapper connected).2.originalQuery
            (s.request.installWaitWrapper connected).2.wrapperStmts
            (s.request.installWaitWrapper connected).2.real ∧
          (s.request.query.wait.wrapperFinalized = false →
            (s.request.installWaitWrapper connected).2.dispatchWrapperStmts =
                (s.request.installWaitWrapper connected).2.wrapperStmts ∧
              (s.request.installWaitWrapper connected).2.dispatchWrapperKind =
                .consistencyWait)) ∧
      ((s.request.installWaitWrapper connected).1 = .failed →
        WrapRequest.Failed s.request (s.request.installWaitWrapper connected).2) := by
  by_cases hskip : s.request.waitActive = false ∨ s.request.query.wait.wrapperFinalized = true
  · rw [WrapRequest.installWaitWrapper_skip hskip]
    refine ⟨fun _ hactive => ?_, fun hfailed => by cases hfailed⟩
    have hfinalized := hskip.resolve_left (by rw [hactive]; exact Bool.noConfusion)
    refine ⟨(h.installed hactive hfinalized).2, fun hpending => ?_⟩
    exact absurd (hpending.symm.trans hfinalized) Bool.false_ne_true
  · rw [not_or, Bool.not_eq_false, Bool.not_eq_true] at hskip
    rcases WrapRequest.installWaitWrapper_pending hskip.1 hskip.2 with
      ⟨hcan, hinstalled⟩ | ⟨hfailed, hstate⟩
    · rw [hinstalled]
      refine ⟨fun _ _ => ⟨h.wrapped hskip.1 hskip.2 hcan, fun _ => ⟨rfl, rfl⟩⟩, fun hfailed => ?_⟩
      cases hfailed
    · refine ⟨fun hcontinue => ?_, fun _ => hstate⟩
      rw [hfailed] at hcontinue
      cases hcontinue

/-! ## One operation -/

theorem Valid.requestEnd :
    s.requestEnd.Valid where
  short pkt h := by cases h
  text h := absurd rfl h
  planned h := absurd h Bool.false_ne_true
  waiting h := absurd h Bool.false_ne_true
  pending h := absurd h Bool.false_ne_true
  installed h := absurd h Bool.false_ne_true

/-- A request without a wait and without a planned one. -/
theorem Valid.quiet
    {t : WrapSession}
    (h : s.Valid)
    (hclient : t.client = s.client)
    (horiginal : t.request.originalQuery = s.request.originalQuery)
    (hplanned : t.request.query.readerWaitSpec.hasWait = false)
    (hactive : t.request.waitActive = false) :
    t.Valid where
  short pkt hpkt := h.short pkt (hclient.symm.trans hpkt)
  text hne := by
    rw [horiginal, hclient]
    exact h.text (horiginal ▸ hne)
  planned hwait := absurd (hplanned.symm.trans hwait) Bool.false_ne_true
  waiting hwait := absurd (hactive.symm.trans hwait) Bool.false_ne_true
  pending hwait := absurd (hactive.symm.trans hwait) Bool.false_ne_true
  installed hwait := absurd (hactive.symm.trans hwait) Bool.false_ne_true

theorem Valid.execute
    {plan : RoutePlan} {ctx : RouteCtx} {pkt : List Char}
    (h : s.Valid)
    (hshort : pkt.length ≤ maxAllowedPacket)
    (hrange : InRange plan.waitSpec)
    (hclient : s.client = none ∨ s.client = some pkt)
    (env : ExecuteEnv) :
    (s.execute plan ctx pkt env).Valid := by
  have hexecuted := WrapRequest.polardbExecute_quiet (s := s.request.clearReaderRoute) rfl rfl plan
    ctx pkt env
  rw [WrapSession.execute]
  split
  · exact Valid.requestEnd
  · have htext : ∀ text, text = s.request.originalQuery ∨ extractSimpleQueryBody pkt = some text →
        text ≠ [] → ClientText pkt text := by
      rintro text (rfl | htext) hne
      · obtain ⟨pkt', hpkt', htext⟩ := h.text hne
        rcases hclient with hnone | hsome
        · rw [hnone] at hpkt'
          cases hpkt'
        · rw [hsome, Option.some.injEq] at hpkt'
          rw [hpkt']
          exact htext
      · exact Or.inl htext
    generalize s.request.clearReaderRoute.polardbExecute plan ctx pkt env = r at hexecuted
    have hdisabled := hexecuted.disabled
    cases htaken : r.1.packetTaken with
    | true =>
        simp only [if_true]
        exact
          { short := fun pkt' hpkt => by
              cases hpkt
              exact hshort
            text := fun hne => ⟨pkt, rfl, htext _ hexecuted.original hne⟩
            planned := fun hwait => by
              have hplanned := (hexecuted.planned hwait).2.2
              rw [htaken] at hplanned
              cases hplanned
            waiting := fun hwait => by
              obtain ⟨henabled, -, hspec, -⟩ := hexecuted.waits hwait
              exact ⟨hspec ▸ hrange, hdisabled.trans henabled⟩
            pending := fun hwait _ _ => ⟨pkt, rfl, (hexecuted.waits hwait).2.2.2.1⟩
            installed := fun hwait hfinalized => by
              have hpending := (hexecuted.waits hwait).2.1
              exact absurd (hpending.symm.trans hfinalized) Bool.false_ne_true }
    | false =>
        simp only [Bool.false_eq_true, if_false]
        exact
          { short := fun pkt' hpkt => by
              cases hpkt
              exact hshort
            text := fun hne => ⟨pkt, rfl, htext _ hexecuted.original hne⟩
            planned := fun hwait => by
              obtain ⟨henabled, hspec, -⟩ := hexecuted.planned hwait
              exact ⟨hspec ▸ hrange, hdisabled.trans henabled, fun _ => ⟨pkt, rfl, rfl⟩⟩
            waiting := fun hwait => by
              obtain ⟨henabled, -, hspec, -⟩ := hexecuted.waits hwait
              exact ⟨hspec ▸ hrange, hdisabled.trans henabled⟩
            pending := fun _ _ _ => ⟨pkt, rfl, rfl⟩
            installed := fun hwait hfinalized => by
              have hpending := (hexecuted.waits hwait).2.1
              exact absurd (hpending.symm.trans hfinalized) Bool.false_ne_true }

/-- A selection activates the wait that was planned, over the packet of the client. -/
theorem Valid.select
    (h : s.Valid)
    (targetReached : Bool) (now : Nat) (fallbackWriterHg : Int) :
    (s.select targetReached now fallbackWriterHg).Valid := by
  rw [WrapSession.select, WrapRequest.finishReaderWaitSelection]
  split
  · exact h.quiet rfl rfl rfl rfl
  · rename_i hwait
    rw [Bool.not_eq_false] at hwait
    obtain ⟨hrange, henabled, horiginal⟩ := h.planned hwait
    split
    · exact h.quiet rfl rfl rfl rfl
    · exact
        { short := h.short
          text := h.text
          planned := fun hplanned => absurd hplanned Bool.false_ne_true
          waiting := fun _ => ⟨hrange, henabled⟩
          pending := fun _ _ => horiginal
          installed := fun _ hfinalized => absurd hfinalized Bool.false_ne_true }

/-- A dispatch that goes on sends the wrapped packet when a wait is active. -/
theorem Valid.dispatch
    (h : s.Valid)
    (hidle : s.inFlight = false)
    (connected : Bool) :
    (s.dispatch connected).Valid ∧
      ∀ e ∈ (s.dispatch connected).sent, e ∈ s.sent ∨ (e.waiting = true → e.Valid) := by
  obtain ⟨hcontinue, -⟩ := h.install connected
  by_cases hskip : s.request.waitActive = false
  · rw [WrapSession.dispatch, WrapRequest.installWaitWrapper_skip (Or.inl hskip)]
    refine ⟨?_, ?_⟩
    · exact
        { short := h.short
          text := h.text
          planned := h.planned
          waiting := fun hwait => absurd (hskip.symm.trans hwait) Bool.false_ne_true
          pending := fun hwait => absurd (hskip.symm.trans hwait) Bool.false_ne_true
          installed := fun hwait => absurd (hskip.symm.trans hwait) Bool.false_ne_true }
    · intro e he
      rcases List.mem_append.mp he with he | he
      · exact Or.inl he
      · rw [List.mem_singleton] at he
        right
        rintro hwait
        rw [he] at hwait
        exact absurd (hskip.symm.trans hwait) Bool.false_ne_true
  · rw [Bool.not_eq_false] at hskip
    have hpending : s.request.query.wait.wrapperFinalized = false := by
      by_contra hfinalized
      rw [Bool.not_eq_false] at hfinalized
      exact absurd (hidle.symm.trans (h.installed hskip hfinalized).1) Bool.false_ne_true
    rcases WrapRequest.installWaitWrapper_pending hskip hpending with
      ⟨hcan, hinstalled⟩ | ⟨hfailed, -⟩
    · rw [hinstalled] at hcontinue
      obtain ⟨hspec, horiginal, -, -, hplanned, hdisabled⟩ := WrapRequest.wrapped_eq (s := s.request)
      have hwrapped := h.wrapped hskip hpending hcan
      rw [WrapSession.dispatch, hinstalled]
      refine ⟨?_, ?_⟩
      · exact
          { short := h.short
            text := fun _ => hwrapped.text
            planned := fun hwait => by
              obtain ⟨hrange, henabled, -⟩ := h.planned (hplanned ▸ hwait)
              exact ⟨hplanned ▸ hrange, hdisabled.trans henabled,
                fun hempty => absurd (horiginal.symm.trans hempty) hcan.1⟩
            waiting := fun _ =>
              ⟨hspec ▸ (h.waiting hskip).1, hdisabled.trans (h.waiting hskip).2⟩
            pending := fun _ hunfinalized => by cases hunfinalized
            installed := fun _ _ => ⟨rfl, hwrapped⟩ }
      · intro e he
        rcases List.mem_append.mp he with he | he
        · exact Or.inl he
        · rw [List.mem_singleton] at he
          subst he
          right
          intro _
          exact ⟨hwrapped, rfl, rfl⟩
    · rw [WrapSession.dispatch, hfailed]
      exact ⟨Valid.requestEnd, fun e he => Or.inl he⟩

theorem Valid.waitReadFailed
    {t : WrapSession} {retry : WaitRetry}
    (h : s.Valid)
    (hactive : s.request.waitActive = true)
    (horiginal : s.request.originalQuery ≠ [])
    (hstep : s.waitReadFailed retry = some t) :
    t.Valid ∧ t.sent = s.sent := by
  obtain ⟨hrange, henabled⟩ := h.waiting hactive
  simp only [WrapSession.waitReadFailed, Option.ite_none_left_eq_some] at hstep
  obtain ⟨-, hstep⟩ := hstep
  cases retry with
  | reader targetReached now fallbackWriterHg =>
      simp only [Option.ite_none_left_eq_some, Option.some.injEq] at hstep
      obtain ⟨hwait, rfl⟩ := hstep
      refine ⟨?_, rfl⟩
      rw [WrapRequest.finishReaderWaitSelection, if_neg hwait]
      have hplanned : s.request.query.readerWaitSpec.hasWait = true →
          InRange s.request.query.readerWaitSpec ∧ s.request.waitDisabled = false :=
        fun hplanned => ⟨(h.planned hplanned).1, henabled⟩
      cases targetReached with
      | true =>
          exact
            { short := h.short
              text := h.text
              planned := fun hwait => ⟨(hplanned hwait).1, henabled, fun he => absurd he horiginal⟩
              waiting := fun hwait => absurd hwait Bool.false_ne_true
              pending := fun hwait => absurd hwait Bool.false_ne_true
              installed := fun hwait => absurd hwait Bool.false_ne_true }
      | false =>
          exact
            { short := h.short
              text := h.text
              planned := fun hwait => ⟨(hplanned hwait).1, henabled, fun he => absurd he horiginal⟩
              waiting := fun _ => ⟨hrange, henabled⟩
              pending := fun _ _ he => absurd he horiginal
              installed := fun _ hfinalized => absurd hfinalized Bool.false_ne_true }
  | writer =>
      simp only [Option.some.injEq] at hstep
      subst hstep
      exact ⟨h.quiet rfl rfl rfl rfl, rfl⟩

/-- What was planned stays planned where the wait is dropped. -/
theorem Valid.readFailed
    (h : s.Valid) :
    Valid { s with inFlight := false, request := s.request.resetWait } where
  short := h.short
  text := h.text
  planned := h.planned
  waiting hwait := absurd hwait Bool.false_ne_true
  pending hwait := absurd hwait Bool.false_ne_true
  installed hwait := absurd hwait Bool.false_ne_true

/-- A session is valid, and what it has sent while waiting is wrapped. -/
def Sound (s : WrapSession) : Prop :=
  s.Valid ∧ ∀ e ∈ s.sent, e.waiting = true → e.Valid

theorem Valid.step
    {t : WrapSession} {op : WaitOp}
    (h : s.Sound)
    (hstep : s.step op = some t) :
    t.Sound := by
  obtain ⟨hvalid, hsent⟩ := h
  cases op with
  | execute plan ctx pkt env =>
      simp only [WrapSession.step, Option.ite_none_right_eq_some, Option.some.injEq] at hstep
      obtain ⟨⟨-, -, hshort, htarget, htimeout, hclient⟩, rfl⟩ := hstep
      refine ⟨hvalid.execute hshort ⟨htarget, htimeout⟩ hclient env, ?_⟩
      rw [WrapSession.execute]
      split <;> exact hsent
  | select targetReached now fallbackWriterHg =>
      simp only [WrapSession.step, Option.ite_none_left_eq_some, Option.some.injEq] at hstep
      obtain ⟨-, rfl⟩ := hstep
      exact ⟨hvalid.select targetReached now fallbackWriterHg, hsent⟩
  | selectWithoutWait | redirectToWriter =>
      simp only [WrapSession.step, Option.ite_none_left_eq_some, Option.some.injEq] at hstep
      obtain ⟨-, rfl⟩ := hstep
      exact ⟨hvalid.quiet rfl rfl rfl rfl, hsent⟩
  | dispatch connected =>
      simp only [WrapSession.step, Option.ite_none_left_eq_some, Option.some.injEq,
        Bool.not_eq_true] at hstep
      obtain ⟨hidle, rfl⟩ := hstep
      obtain ⟨hnext, hnew⟩ := hvalid.dispatch hidle connected
      refine ⟨hnext, fun e he hwaiting => ?_⟩
      rcases hnew e he with hold | hwrapped
      · exact hsent e hold hwaiting
      · exact hwrapped hwaiting
  | timer startedAtUs timeoutError =>
      simp only [WrapSession.step, Option.some.injEq] at hstep
      subst hstep
      exact ⟨⟨hvalid.short, hvalid.text, hvalid.planned, hvalid.waiting, hvalid.pending,
        hvalid.installed⟩, hsent⟩
  | waitReadFailed retry =>
      simp only [WrapSession.step, Option.ite_none_right_eq_some] at hstep
      obtain ⟨⟨-, hactive, -, horiginal⟩, hstep⟩ := hstep
      obtain ⟨hnext, hsame⟩ := hvalid.waitReadFailed hactive horiginal hstep
      exact ⟨hnext, hsame ▸ hsent⟩
  | readFailed =>
      simp only [WrapSession.step, Option.ite_none_right_eq_some, Option.some.injEq] at hstep
      obtain ⟨-, rfl⟩ := hstep
      exact ⟨hvalid.readFailed, hsent⟩
  | requestEnd =>
      simp only [WrapSession.step, Option.some.injEq] at hstep
      subst hstep
      exact ⟨Valid.requestEnd, hsent⟩
  | reset =>
      simp only [WrapSession.step, Option.some.injEq] at hstep
      subst hstep
      exact ⟨(Valid.requestEnd (s := s)).quiet rfl rfl rfl rfl, hsent⟩

theorem run_sound
    {ops : List WaitOp} {t : WrapSession}
    (h : Run (fun s op t => s.step op = some t) {} ops t) :
    t.Sound := by
  refine h.invariant ?_ Valid.step
  refine ⟨?_, fun e he => absurd he List.not_mem_nil⟩
  exact
    { short := fun _ hpkt => by cases hpkt
      text := fun hne => absurd rfl hne
      planned := fun hwait => absurd hwait Bool.false_ne_true
      waiting := fun hwait => absurd hwait Bool.false_ne_true
      pending := fun hwait => absurd hwait Bool.false_ne_true
      installed := fun hwait => absurd hwait Bool.false_ne_true }

end WrapSession

/-- In every run, an installation that goes on with a wait has replaced the packet by the
wrapped text of the client and recorded the number of its statements; one that fails leaves
the packet, resets the wait and disables waiting; and a second call changes nothing.  A
later route leaves a wait active only behind a packet that is not sent yet, and whatever was
sent while a wait was active is wrapped. -/
theorem installWaitWrapper_allOrNothing
    {ops : List WaitOp} {s : WrapSession}
    (h : Run (fun s op t => s.step op = some t) {} ops s) :
    (∀ connected,
        ((s.request.installWaitWrapper connected).1 = .continue →
          (s.request.installWaitWrapper connected).2.waitActive = true →
          Wrapped s.client (s.request.installWaitWrapper connected).2.query.wait.spec
              (s.request.installWaitWrapper connected).2.originalQuery
              (s.request.installWaitWrapper connected).2.wrapperStmts
              (s.request.installWaitWrapper connected).2.real ∧
            (s.request.query.wait.wrapperFinalized = false →
              (s.request.installWaitWrapper connected).2.dispatchWrapperStmts =
                  (s.request.installWaitWrapper connected).2.wrapperStmts ∧
                (s.request.installWaitWrapper connected).2.dispatchWrapperKind =
                  .consistencyWait)) ∧
        ((s.request.installWaitWrapper connected).1 = .failed →
          WrapRequest.Failed s.request (s.request.installWaitWrapper connected).2) ∧
        ∀ connected', (s.request.installWaitWrapper connected).2.installWaitWrapper connected' =
          (.continue, (s.request.installWaitWrapper connected).2)) ∧
      (∀ plan ctx pkt env,
        WrapRequest.Executed s.request.clearReaderRoute plan ctx pkt
          (s.request.clearReaderRoute.polardbExecute plan ctx pkt env)) ∧
      (s.request.waitDisabled = true → s.request.waitActive = false) ∧
      ∀ e ∈ s.sent, e.waiting = true → e.Valid := by
  obtain ⟨hvalid, hsent⟩ := WrapSession.run_sound h
  refine ⟨fun connected => ?_, ?_, ?_, hsent⟩
  · obtain ⟨hcontinue, hfailed⟩ := hvalid.install connected
    exact ⟨hcontinue, hfailed, WrapRequest.installWaitWrapper_again connected⟩
  · exact WrapRequest.polardbExecute_quiet rfl rfl
  · intro hdisabled
    by_contra hactive
    rw [Bool.not_eq_false] at hactive
    exact absurd ((hvalid.waiting hactive).2.symm.trans hdisabled) Bool.false_ne_true

/-- A read behind its session that is wrapped, fails, and waits again on another reader. -/
def waitTwice : List WaitOp :=
  [ .execute
      { action := .replicaWithWait
        waitSpec := { type := .lsn, target := 7 } }
      {} (simpleQueryPacket "SELECT 1".toList) {},
    .select false 1 0, .dispatch true, .waitReadFailed (.reader false 2 0), .dispatch true ]

theorem installWaitWrapper_allOrNothing_waitTwice :
    ∃ s : WrapSession, Run (fun s op t => s.step op = some t) {} waitTwice s ∧
      s.sent.map (fun e => (e.waiting, e.dispatchWrapperStmts)) = [(true, 3), (true, 3)] ∧
      ∀ e ∈ s.sent, e.waiting = true → e.Valid := by
  obtain ⟨s, hrun, hsent⟩ := Run.exists_of_foldlM_map (s := ({} : WrapSession))
    (f := fun s op => s.step op)
    (g := fun s => s.sent.map fun e => (e.waiting, e.dispatchWrapperStmts))
    (x := [(true, 3), (true, 3)]) waitTwice (by decide +kernel)
  exact ⟨s, hrun, hsent, (installWaitWrapper_allOrNothing hrun).2.2.2⟩

end Wrapping

end PolarProxy
