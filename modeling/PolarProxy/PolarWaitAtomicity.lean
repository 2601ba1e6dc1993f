import Mathlib.Data.List.Induction
import Mathlib.Tactic.Ring
import PolarProxy.PolarWaitStaging

/-!
# Atomicity of a wait and its operation

A sender either leaves the connection as it was, or has a complete unit in the buffer when
it calls the flush: one `W` message and the messages of its operation.

**Results.** `traceOutputPolarWait_waitMessage`, `sendUnit_ensures`, `sendPolarWait_atomic`.
-/

namespace PolarProxy

namespace PolarWait

open Attempts ExtendedMessage

variable {ρ : Type}

/-! ## The `W` message -/

theorem ntoh_append (xs ys : List UInt8) :
    ntoh (xs ++ ys) = ntoh xs * 2 ^ (8 * ys.length) + ntoh ys := by
  induction ys using List.reverseRecOn with
  | nil =>
      simp [ntoh]
  | append_singleton ys b ih =>
      have hsnoc : ∀ l : List UInt8, ntoh (l ++ [b]) = ntoh l * 2 ^ 8 + b.toNat := by
        intro l
        rw [ntoh, ntoh, List.foldl_append, List.foldl_cons, List.foldl_nil]
      rw [← List.append_assoc, hsnoc, ih, hsnoc, List.length_append, List.length_singleton]
      rw [Nat.mul_add, Nat.pow_add]
      ring

theorem ntoh_four (b₀ b₁ b₂ b₃ : UInt8) :
    ntoh [b₀, b₁, b₂, b₃] =
      b₀.toNat * 2 ^ 24 + b₁.toNat * 2 ^ 16 + b₂.toNat * 2 ^ 8 + b₃.toNat := by
  simp only [ntoh, List.foldl_cons, List.foldl_nil]
  omega

theorem ntoh_be32
    {n : Nat}
    (h : n < 2 ^ 32) :
    ntoh (be32 n) = n :=
  (ntoh_four _ _ _ _).trans (be32_eq_iff.mpr ⟨h, rfl⟩)

/-- The fields of the `W` message -/
theorem traceOutputPolarWait_waitMessage (wait : WaitSpec) :
    traceOutputPolarWait (waitMessage wait) = some
      { version := 1
        mode := (toByte wait.consistencyMode).toNat
        flags := 0
        timeoutMs := wait.timeoutMs.toNat
        targetLsn := wait.targetLsn.toNat } := by
  have htimeout : ntoh (be32 wait.timeoutMs.toNat) = wait.timeoutMs.toNat :=
    ntoh_be32 wait.timeoutMs.toNat_lt
  have htarget : ntoh (be32 (wait.targetLsn >>> 32).toNat ++ be32 wait.targetLsn.toNat) =
      wait.targetLsn.toNat := by
    have hhigh : (wait.targetLsn >>> 32).toNat = wait.targetLsn.toNat / 2 ^ 32 := by
      rw [UInt64.toNat_shiftRight, Nat.shiftRight_eq_div_pow]
      rfl
    have hlt := wait.targetLsn.toNat_lt
    rw [ntoh_append, length_be32, ← be32_mod wait.targetLsn.toNat, hhigh]
    rw [ntoh_be32 (by omega), ntoh_be32 (by omega)]
    omega
  have hfields : be32 20 = [0, 0, 0, 20] ∧ be16 0 = [0, 0] ∧ toByte waitProtocolVersion = 1 := by
    decide
  generalize hw : be32 wait.timeoutMs.toNat = timeout at htimeout
  generalize ht : be32 (wait.targetLsn >>> 32).toNat ++ be32 wait.targetLsn.toNat = target
    at htarget
  have hmessage : waitMessage wait =
      'W'.toUInt8 :: 0 :: 0 :: 0 :: 20 :: 1 :: toByte wait.consistencyMode :: 0 :: 0 ::
        (timeout ++ target) := by
    have hlength : be32 (([1, toByte wait.consistencyMode] ++ ([0, 0] : List UInt8) ++
        be32 wait.timeoutMs.toNat ++ be32 (wait.targetLsn >>> 32).toNat ++
        be32 wait.targetLsn.toNat).length + 4) = [0, 0, 0, 20] :=
      hfields.1
    rw [waitMessage, frame, hfields.2.1, hfields.2.2, hlength, ← hw, ← ht]
    simp
  have hlen : timeout.length = 4 := by
    rw [← hw, length_be32]
  have hlen' : target.length = 8 := by
    rw [← ht, List.length_append, length_be32, length_be32]
  have htimeoutAt : (timeout ++ target).take 4 = timeout := List.take_left' hlen
  have htargetAt : ((timeout ++ target).drop 4).take 8 = target := by
    rw [List.drop_left' hlen, ← hlen', List.take_length]
  have hlengthWord : ntoh [0, 0, 0, 20] + 1 = 5 + 16 := by
    decide
  rw [traceOutputPolarWait, hmessage]
  simp only [List.drop_succ_cons, List.drop_zero, List.take_succ_cons, List.take_zero]
  rw [if_neg (not_not_intro hlengthWord), htimeoutAt, htargetAt, htimeout, htarget]
  simp [ntoh]

/-! ## Units -/

/-- A connection whose buffer and queue are as they were -/
structure Unchanged (conn c : PGconn ρ) : Prop where
  outCount : c.outCount = conn.outCount
  outMsgStart : c.outMsgStart = conn.outMsgStart
  outMsgEnd : c.outMsgEnd = conn.outMsgEnd
  staged : c.staged = conn.staged
  sent : c.sent = conn.sent
  cmdQueue : c.cmdQueue = conn.cmdQueue
  pipelineStatus : c.pipelineStatus = conn.pipelineStatus

/-- A connection with all messages of a unit in its buffer, before the flush -/
structure Complete (conn : PGconn ρ) (messages : List (List UInt8)) (c : PGconn ρ) : Prop where
  staged : c.staged = conn.staged ++ messages.flatten
  fits : c.outCount < 2 ^ 31
  sent : c.sent = conn.sent
  cmdQueue : c.cmdQueue = conn.cmdQueue

/-- The flush was called on the complete unit.  Where it succeeds, everything is sent or staged
and the queue has one more entry; where it fails the operation has failed. -/
def Flushed (lib : LibPq ρ) (conn : PGconn ρ) (messages : List (List UInt8))
    (queryclass : QueryClass) (r : Bool × PGconn ρ) : Prop :=
  ∃ c, Complete conn messages c ∧
    (((lib.pipelineFlush c).1 = true ∧ r.1 = true ∧
        r.2.sent ++ r.2.staged = conn.sent ++ conn.staged ++ messages.flatten ∧
        ∃ entry : CmdQueueEntry, entry.queryclass = queryclass ∧
          r.2.cmdQueue = conn.cmdQueue ++ [entry]) ∨
      ((lib.pipelineFlush c).1 = false ∧ r.1 = false ∧ r.2.cmdQueue = conn.cmdQueue))

theorem Unchanged.of_sameOutput
    {conn c c' : PGconn ρ}
    (h : Unchanged conn c)
    (hsame : SameOutput c c') :
    Unchanged conn c' := by
  obtain ⟨other, rfl⟩ := hsame
  exact ⟨h.outCount, h.outMsgStart, h.outMsgEnd, h.staged, h.sent, h.cmdQueue, h.pipelineStatus⟩

theorem Unchanged.trans
    {conn c c' : PGconn ρ}
    (h : Unchanged conn c)
    (h' : Unchanged c c') :
    Unchanged conn c' :=
  ⟨h'.outCount.trans h.outCount, h'.outMsgStart.trans h.outMsgStart,
    h'.outMsgEnd.trans h.outMsgEnd, h'.staged.trans h.staged, h'.sent.trans h.sent,
    h'.cmdQueue.trans h.cmdQueue, h'.pipelineStatus.trans h.pipelineStatus⟩

theorem Unchanged.refl (conn : PGconn ρ) : Unchanged conn conn :=
  ⟨rfl, rfl, rfl, rfl, rfl, rfl, rfl⟩

variable {conn c : PGconn ρ}

/-- The checkpoint undoes what was built on a connection. -/
theorem Kept.restore
    (h : Kept conn c) :
    Unchanged conn (restoreOutputBufferCheckpoint (saveOutputBufferCheckpoint conn) c) where
  outCount := rfl
  outMsgStart := rfl
  outMsgEnd := rfl
  staged := PGconn.upTo_congr h.outBuffer
  sent := h.sent
  cmdQueue := h.cmdQueue
  pipelineStatus := h.pipelineStatus

variable {lib : LibPq ρ}

theorem Complete.flushed
    {messages : List (List UInt8)}
    (h : Complete conn messages c)
    (laws : lib.Documented)
    (entry : CmdQueueEntry) :
    Flushed lib conn messages entry.queryclass (lib.publishUnit entry c) := by
  refine ⟨c, h, ?_⟩
  rw [LibPq.publishUnit]
  obtain ⟨hqueue, n, hsent, hrest⟩ := laws.pipelineFlush c
  cases hflush : lib.pipelineFlush c with
  | mk done c' =>
      rw [hflush] at hqueue hsent hrest
      cases done with
      | false =>
          obtain ⟨other, hrecycled⟩ := laws.recycleCmdQueueEntry entry c'
          refine Or.inr ⟨rfl, rfl, ?_⟩
          dsimp only
          rw [hrecycled]
          exact hqueue.trans h.cmdQueue
      | true =>
          obtain ⟨other, happended⟩ := laws.appendCmdQueueEntry entry c'
          refine Or.inl ⟨rfl, rfl, ?_, entry, rfl, ?_⟩
          · have hstaged := hrest rfl
            dsimp only at hsent hstaged ⊢
            rw [happended]
            show c'.sent ++ c'.staged = _
            rw [hsent, hstaged, List.append_assoc, List.take_append_drop, h.staged, h.sent]
            rw [List.append_assoc]
          · dsimp only at hqueue ⊢
            rw [happended, hqueue, h.cmdQueue]

/-- The checkpoint covers every part of a unit. -/
theorem sendUnit_ensures
    {build : Put ρ Unit} {messages : List (List UInt8)} {φ : Prop}
    (laws : lib.Documented)
    (hne : messages.flatten ≠ [])
    (conn : PGconn ρ)
    (hbuild : ∀ c₀ : PGconn ρ, c₀.pipelineStatus = conn.pipelineStatus →
      Ensures (Staged c₀ []) build (fun _ c => φ ∧ Staged c₀ messages.flatten c) (Kept c₀))
    (queryclass : QueryClass) (query : Option Text) :
    ((lib.sendUnit build queryclass query conn).1 = false ∧
        Unchanged conn (lib.sendUnit build queryclass query conn).2) ∨
      φ ∧ Flushed lib conn messages queryclass (lib.sendUnit build queryclass query conn) := by
  rw [LibPq.sendUnit]
  have halloc := laws.allocCmdQueueEntry conn
  cases hentry : lib.allocCmdQueueEntry conn with
  | mk entry start =>
      rw [hentry] at halloc
      have hstart : Unchanged conn start := (Unchanged.refl conn).of_sameOutput halloc
      cases entry with
      | none =>
          exact Or.inl ⟨rfl, hstart⟩
      | some entry =>
          dsimp only
          have hinit : Staged start [] start :=
            { kept := ⟨le_refl _, fun _ _ => rfl, rfl, rfl, rfl⟩
              staged := (List.append_nil _).symm
              fits := fun h => absurd rfl h }
          have hrun := hbuild start hstart.pipelineStatus start hinit
          cases hbuilt : build start with
          | mk value c =>
              rw [hbuilt] at hrun
              cases value with
              | none =>
                  have hkept : Kept start c := hrun
                  have hundone := hstart.trans hkept.restore
                  exact Or.inl ⟨rfl, hundone.of_sameOutput (laws.recycleCmdQueueEntry entry _)⟩
              | some _ =>
                  obtain ⟨hφ, hstaged⟩ : φ ∧ Staged start messages.flatten c := hrun
                  have hcomplete : Complete conn messages c :=
                    { staged := by rw [hstaged.staged, hstart.staged]
                      fits := hstaged.fits hne
                      sent := hstaged.kept.sent.trans hstart.sent
                      cmdQueue := hstaged.kept.cmdQueue.trans hstart.cmdQueue }
                  refine Or.inr ⟨hφ, ?_⟩
                  cases query with
                  | none =>
                      exact hcomplete.flushed laws { entry with queryclass }
                  | some query =>
                      exact hcomplete.flushed laws
                        { entry with queryclass, query := lib.strdup query c }

/-! ## Entry points -/

/-- A wait that `pqPutPolarWait` accepts -/
def WaitSpec.Valid (wait : WaitSpec) : Prop :=
  wait.targetLsn ≠ 0 ∧
    (wait.consistencyMode = consistencyBestEffort ∨ wait.consistencyMode = consistencyStrict)

variable {wait : WaitSpec}

theorem unit_ensures
    {rest : Put ρ Unit} {operation : List (List UInt8)} {c₀ : PGconn ρ}
    (laws : lib.Documented)
    (hrest : ∀ out, Ensures (Staged c₀ out) rest
      (fun _ => Staged c₀ (out ++ operation.flatten)) (Kept c₀)) :
    Ensures (Staged c₀ []) (do lib.putPolarWait wait; rest)
      (fun _ c => wait.Valid ∧ Staged c₀ (waitMessage wait :: operation).flatten c) (Kept c₀) := by
  by_cases hvalid : wait.Valid
  · refine (putPolarWait_ensures laws wait).seq ?_
    refine (hrest _).imp (fun _ hc => hc) ?_
    intro _ c hc
    exact ⟨hvalid, hc⟩
  · have hfail : ∃ message, lib.putPolarWait wait = lib.fail message := by
      rw [LibPq.putPolarWait]
      by_cases hzero : wait.targetLsn = 0
      · exact ⟨_, if_pos hzero⟩
      · have hmode : wait.consistencyMode ≠ consistencyBestEffort ∧
            wait.consistencyMode ≠ consistencyStrict := by
          rw [← not_or]
          intro hmode
          exact hvalid ⟨hzero, hmode⟩
        rw [if_neg hzero, if_pos hmode]
        exact ⟨_, rfl⟩
    obtain ⟨message, hfail⟩ := hfail
    rw [hfail]
    have hrefused : Ensures (Staged c₀ []) (lib.fail message) (fun _ _ => False) (Kept c₀) :=
      Kept.fail_ensures laws (fun _ hc => hc.kept) message
    exact hrefused.seq fun _ h => h.elim

/-- The messages of `PQsendPreparePolarWait` -/
def prepareUnit (status : PipelineStatus) (stmtName query : Text) (nParams : Int)
    (paramTypes : Option (Nat → UInt32)) : List (List UInt8) :=
  [parseMessage stmtName query nParams paramTypes, syncMessage status]

/-- The messages of the query senders; a command is parsed first. -/
def queryUnit (status : PipelineStatus) (command : Option Text) (stmtName : Text)
    (paramTypes : Option (Nat → UInt32)) (args : BindArguments) : List (List UInt8) :=
  (command.map fun command => parseMessage stmtName command args.nParams paramTypes).toList ++
    [bindMessage stmtName args, describePortalMessage, executeMessage, syncMessage status]

/-- What an entry point leaves: a connection that is unchanged, or a valid wait with its
operation. -/
def AllOrNothing (lib : LibPq ρ) (conn : PGconn ρ) (wait : WaitSpec)
    (operation : List (List UInt8)) (queryclass : QueryClass) (r : Bool × PGconn ρ) : Prop :=
  (r.1 = false ∧ Unchanged conn r.2) ∨
    wait.Valid ∧ Flushed lib conn (waitMessage wait :: operation) queryclass r

theorem sendParseUnit_allOrNothing
    {nParams : Int}
    (laws : lib.Documented)
    (hnParams : nParams ≤ queryParamMaxLimit)
    (stmtName query : Text) (paramTypes : Option (Nat → UInt32)) (wait : WaitSpec)
    (conn : PGconn ρ) :
    AllOrNothing lib conn wait (prepareUnit conn.pipelineStatus stmtName query nParams paramTypes)
      .prepare (lib.sendParseUnit stmtName query nParams paramTypes wait conn) := by
  refine sendUnit_ensures laws (by simp [waitMessage, frame]) conn ?_ .prepare (some query)
  intro c₀ hstatus
  refine unit_ensures laws fun out => ?_
  refine (putParse_ensures laws hnParams stmtName query paramTypes).seq ?_
  refine (putSync_ensures laws).imp (fun _ hc => hc) ?_
  intro _ c hc
  rw [hstatus] at hc
  simpa [prepareUnit] using hc

theorem sendQueryGutsPolarWait_allOrNothing
    {args : BindArguments}
    (laws : lib.Documented)
    (hnonneg : 0 ≤ args.nParams)
    (hnParams : args.nParams ≤ queryParamMaxLimit)
    (command : Option Text) (stmtName : Text) (paramTypes : Option (Nat → UInt32))
    (wait : WaitSpec) (conn : PGconn ρ) :
    AllOrNothing lib conn wait (queryUnit conn.pipelineStatus command stmtName paramTypes args)
      .extended (lib.sendQueryGutsPolarWait command stmtName paramTypes args wait conn) := by
  refine sendUnit_ensures laws (by simp [waitMessage, frame]) conn ?_ .extended command
  intro c₀ hstatus
  refine unit_ensures laws fun out => ?_
  refine (putCommand_ensures laws hnParams command stmtName paramTypes).seq ?_
  refine (putBind_ensures laws stmtName args hnonneg hnParams).seq ?_
  refine (putDescribePortal_ensures laws).seq ?_
  refine (putExecute_ensures laws).seq ?_
  refine (putSync_ensures laws).imp (fun _ hc => hc) ?_
  intro _ c hc
  rw [hstatus] at hc
  simpa [queryUnit] using hc

theorem AllOrNothing.of_unchanged
    {operation : List (List UInt8)}
    {queryclass : QueryClass} {r : Bool × PGconn ρ}
    (h : AllOrNothing lib c wait operation queryclass r)
    (hsame : Unchanged conn c) :
    AllOrNothing lib conn wait operation queryclass r := by
  rcases h with ⟨hfalse, hr⟩ | ⟨hvalid, c', hcomplete, hflushed⟩
  · exact Or.inl ⟨hfalse, hsame.trans hr⟩
  · refine Or.inr ⟨hvalid, c', ?_, ?_⟩
    · exact
        { staged := by rw [hcomplete.staged, hsame.staged]
          fits := hcomplete.fits
          sent := hcomplete.sent.trans hsame.sent
          cmdQueue := hcomplete.cmdQueue.trans hsame.cmdQueue }
    · rw [hsame.sent, hsame.staged, hsame.cmdQueue] at hflushed
      exact hflushed

/-- The result of a sender that has left the connection as it was -/
def Refused (conn : PGconn ρ) (r : Bool × PGconn ρ) : Prop :=
  r.1 = false ∧ Unchanged conn r.2

/-- A sender refuses or has a result with a property. -/
def Outcome (conn : PGconn ρ) (Q : Bool × PGconn ρ → Prop) (r : Bool × PGconn ρ) : Prop :=
  Refused conn r ∨ Q r

variable {Q : Bool × PGconn ρ → Prop}

/-- An entry point refuses, or does what the send behind its first check does. -/
theorem started_cases
    {send : PGconn ρ → Bool × PGconn ρ} {conn : PGconn ρ}
    (laws : lib.Documented)
    (hsend : ∀ c, Unchanged conn c → Outcome conn Q (send c)) :
    Outcome conn Q (lib.started send conn) := by
  have hstart := laws.sendQueryStart conn
  rw [LibPq.started]
  cases hrun : lib.sendQueryStart conn with
  | mk started c =>
      rw [hrun] at hstart
      have hunchanged : Unchanged conn c := (Unchanged.refl conn).of_sameOutput hstart
      cases started with
      | false =>
          exact Or.inl ⟨rfl, hunchanged⟩
      | true =>
          exact hsend c hunchanged

theorem checkText_cases
    {text : Option Text} {send : Text → PGconn ρ → Bool × PGconn ρ}
    (laws : lib.Documented)
    (hsame : Unchanged conn c)
    (message : String)
    (hsend : ∀ t, text = some t → Outcome conn Q (send t c)) :
    Outcome conn Q (lib.checkText text message send c) := by
  cases text with
  | none =>
      exact Or.inl ⟨rfl, hsame.of_sameOutput (laws.appendConnError message c)⟩
  | some t =>
      exact hsend t rfl

theorem checkParams_cases
    {nParams : Int} {send : PGconn ρ → Bool × PGconn ρ}
    (laws : lib.Documented)
    (hsame : Unchanged conn c)
    (hsend : 0 ≤ nParams → nParams ≤ queryParamMaxLimit → Outcome conn Q (send c)) :
    Outcome conn Q (lib.checkParams nParams send c) := by
  rw [LibPq.checkParams]
  split
  · exact Or.inl ⟨rfl, hsame.of_sameOutput (laws.appendConnError _ c)⟩
  · rename_i hbounds
    rw [not_or, Int.not_lt, Int.not_lt] at hbounds
    exact hsend hbounds.1 hbounds.2

/-- A valid wait is what the `W` message says. -/
theorem WaitSpec.Valid.traced
    (h : wait.Valid) :
    traceOutputPolarWait (waitMessage wait) = some
      { version := 1
        mode := wait.consistencyMode.toNat
        flags := 0
        timeoutMs := wait.timeoutMs.toNat
        targetLsn := wait.targetLsn.toNat } := by
  have hmode : (toByte wait.consistencyMode).toNat = wait.consistencyMode.toNat := by
    rcases h.2 with hmode | hmode
    · rw [hmode]
      decide
    · rw [hmode]
      decide
  rw [traceOutputPolarWait_waitMessage, hmode]

/-- A unit of a valid wait is in the buffer when the flush is called. -/
structure Published (lib : LibPq ρ) (conn : PGconn ρ) (wait : WaitSpec)
    (operation : List (List UInt8)) (queryclass : QueryClass) (r : Bool × PGconn ρ) : Prop where
  traced : traceOutputPolarWait (waitMessage wait) = some
    { version := 1
      mode := wait.consistencyMode.toNat
      flags := 0
      timeoutMs := wait.timeoutMs.toNat
      targetLsn := wait.targetLsn.toNat }
  flushed : Flushed lib conn (waitMessage wait :: operation) queryclass r

/-- Every entry point leaves the connection as it was, or publishes one `W` message with the
given wait, the messages of its operation and one queue entry. -/
theorem sendPolarWait_atomic
    (laws : lib.Documented)
    (conn : PGconn ρ) (wait : WaitSpec) :
    (∀ stmtName query nParams paramTypes,
      let r := lib.sendPreparePolarWait stmtName query nParams paramTypes wait conn
      Refused conn r ∨ ∃ stmt text, stmtName = some stmt ∧ query = some text ∧
        Published lib conn wait (prepareUnit conn.pipelineStatus stmt text nParams paramTypes)
          .prepare r) ∧
    (∀ command paramTypes args,
      let r := lib.sendQueryParamsPolarWait command paramTypes args wait conn
      Refused conn r ∨ ∃ text, command = some text ∧
        Published lib conn wait
          (queryUnit conn.pipelineStatus (some text) emptyText paramTypes args) .extended r) ∧
    (∀ stmtName args,
      let r := lib.sendQueryPreparedPolarWait stmtName args wait conn
      Refused conn r ∨ ∃ stmt, stmtName = some stmt ∧
        Published lib conn wait (queryUnit conn.pipelineStatus none stmt none args)
          .extended r) := by
  refine ⟨?_, ?_, ?_⟩
  · intro stmtName query nParams paramTypes
    have houtcome : Outcome conn (fun r => ∃ stmt text, stmtName = some stmt ∧ query = some text ∧
        Published lib conn wait (prepareUnit conn.pipelineStatus stmt text nParams paramTypes)
          .prepare r) (lib.sendPreparePolarWait stmtName query nParams paramTypes wait conn) := by
      refine started_cases laws fun c hc => ?_
      refine checkText_cases laws hc _ fun stmt hstmt => ?_
      refine checkText_cases laws hc _ fun text htext => ?_
      refine checkParams_cases laws hc fun _ hle => ?_
      have hsent := (sendParseUnit_allOrNothing laws hle stmt text paramTypes wait c).of_unchanged hc
      rw [hc.pipelineStatus] at hsent
      rcases hsent with hrefused | ⟨hvalid, hflushed⟩
      · exact Or.inl hrefused
      · exact Or.inr ⟨stmt, text, hstmt, htext, hvalid.traced, hflushed⟩
    exact houtcome
  · intro command paramTypes args
    have houtcome : Outcome conn (fun r => ∃ text, command = some text ∧
      Published lib conn wait
        (queryUnit conn.pipelineStatus (some text) emptyText paramTypes args) .extended r)
        (lib.sendQueryParamsPolarWait command paramTypes args wait conn) := by
      refine started_cases laws fun c hc => ?_
      refine checkText_cases laws hc _ fun text htext => ?_
      refine checkParams_cases laws hc fun hnonneg hle => ?_
      have hsent := (sendQueryGutsPolarWait_allOrNothing laws hnonneg hle (some text) emptyText
        paramTypes wait c).of_unchanged hc
      rw [hc.pipelineStatus] at hsent
      rcases hsent with hrefused | ⟨hvalid, hflushed⟩
      · exact Or.inl hrefused
      · exact Or.inr ⟨text, htext, hvalid.traced, hflushed⟩
    exact houtcome
  · intro stmtName args
    have houtcome : Outcome conn (fun r => ∃ stmt, stmtName = some stmt ∧
      Published lib conn wait (queryUnit conn.pipelineStatus none stmt none args)
        .extended r) (lib.sendQueryPreparedPolarWait stmtName args wait conn) := by
      refine started_cases laws fun c hc => ?_
      refine checkText_cases laws hc _ fun stmt hstmt => ?_
      refine checkParams_cases laws hc fun hnonneg hle => ?_
      have hsent := (sendQueryGutsPolarWait_allOrNothing laws hnonneg hle none stmt none wait
        c).of_unchanged hc
      rw [hc.pipelineStatus] at hsent
      rcases hsent with hrefused | ⟨hvalid, hflushed⟩
      · exact Or.inl hrefused
      · exact Or.inr ⟨stmt, hstmt, hvalid.traced, hflushed⟩
    exact houtcome

/-! ## A libpq with a buffer of fixed size -/

/-- Bytes behind the message that is being built, as long as there is room -/
def appendWithin (room : Nat) (bytes : List UInt8) : Put Unit Unit := fun c =>
  if c.outMsgEnd + bytes.length < room then
    (some (), { c with
      outBuffer := overwrite c.outMsgEnd bytes c.outBuffer
      outMsgEnd := c.outMsgEnd + bytes.length })
  else (none, c)

/-- The word of two or of four bytes of an `int` -/
def word (n : Int) (bytes : Nat) : List UInt8 :=
  if bytes = 2 then be16 (n % 2 ^ 16).toNat else be32 (n % 2 ^ 32).toNat

/-- A libpq whose socket takes everything at once -/
def memoryLib (room : Nat) : LibPq Unit where
  sendQueryStart c := (true, c)
  allocCmdQueueEntry c := (some {}, c)
  recycleCmdQueueEntry _ c := c
  appendCmdQueueEntry entry c := { c with cmdQueue := c.cmdQueue ++ [entry] }
  putMsgStart type c :=
    if c.outCount + 5 < room then
      (some (), { c with
        outBuffer := overwrite c.outCount [type.toUInt8] c.outBuffer
        outMsgStart := c.outCount + 1
        outMsgEnd := c.outCount + 5 })
    else (none, c)
  putc b := appendWithin room [b]
  puts text := appendWithin room text.encode
  putInt n bytes := appendWithin room (word n bytes)
  putnchar bytes n := appendWithin room (bytes.take n)
  pipelineFlush c := (true, { c with sent := c.sent ++ c.staged, outCount := 0 })
  appendConnError _ c := c
  strdup text _ := some text

theorem Keeps.of_overwrite
    {c : PGconn Unit} {start outMsgEnd : Nat}
    (h : c.outCount ≤ start)
    (bytes : List UInt8) (outMsgStart : Int) :
    Keeps c { c with outBuffer := overwrite start bytes c.outBuffer, outMsgStart, outMsgEnd } where
  outCount := rfl
  outBuffer _ hi := overwrite_of_lt (Nat.lt_of_lt_of_le hi h)
  sent := rfl
  cmdQueue := rfl
  pipelineStatus := rfl

theorem Keeps.refl (c : PGconn ρ) : Keeps c c :=
  ⟨rfl, fun _ _ => rfl, rfl, rfl, rfl⟩

theorem appendWithin_appends
    {room : Nat}
    (hroom : room ≤ 2 ^ 31)
    (bytes : List UInt8) :
    Appends (appendWithin room bytes) bytes := by
  intro c hc
  rw [appendWithin]
  split
  · rename_i hfits
    refine ⟨Keeps.of_overwrite hc bytes c.outMsgStart, fun _ => ⟨rfl, rfl, ?_, ?_⟩⟩
    · exact Nat.lt_of_lt_of_le hfits hroom
    · have hcontent : ∀ c' : PGconn Unit,
          c'.outBuffer = overwrite c.outMsgEnd bytes c.outBuffer →
            c'.upTo (c.outMsgEnd + bytes.length) = c.upTo c.outMsgEnd ++ bytes := by
        intro c' hbuffer
        have hsame : c'.upTo c.outMsgEnd = c.upTo c.outMsgEnd :=
          PGconn.upTo_congr fun i hi => by rw [hbuffer, overwrite_of_lt hi]
        rw [PGconn.upTo_add, hsame, hbuffer]
        congr 1
        have hnew := @overwrite_add c.outMsgEnd c.outBuffer
          ((List.range bytes.length).map fun i => c.outBuffer (c.outMsgEnd + i)) bytes []
          bytes.length (by simp) (by simp)
        rw [hnew, List.append_nil]
      exact hcontent _ rfl
  · exact ⟨Keeps.refl c, fun h => absurd rfl h⟩

theorem memoryLib_documented
    {room : Nat}
    (hroom : room ≤ 2 ^ 31) :
    (memoryLib room).Documented where
  sendQueryStart c := ⟨c.other, rfl⟩
  allocCmdQueueEntry c := ⟨c.other, rfl⟩
  recycleCmdQueueEntry _ c := ⟨c.other, rfl⟩
  appendConnError _ c := ⟨c.other, rfl⟩
  appendCmdQueueEntry _ c := ⟨c.other, rfl⟩
  putMsgStart type c := by
    by_cases hfits : c.outCount + 5 < room
    · have hrun : (memoryLib room).putMsgStart type c = (some (), { c with
          outBuffer := overwrite c.outCount [type.toUInt8] c.outBuffer
          outMsgStart := c.outCount + 1
          outMsgEnd := c.outCount + 5 }) :=
        if_pos hfits
      rw [hrun]
      refine ⟨Keeps.of_overwrite (le_refl _) _ _, fun _ => ⟨rfl, rfl, ?_, ?_⟩⟩
      · exact Nat.lt_of_lt_of_le hfits hroom
      · show overwrite c.outCount [type.toUInt8] c.outBuffer c.outCount = type.toUInt8
        rw [overwrite, if_pos (le_refl _), Nat.sub_self]
        rfl
    · have hrun : (memoryLib room).putMsgStart type c = (none, c) := if_neg hfits
      rw [hrun]
      exact ⟨Keeps.refl c, fun h => absurd rfl h⟩
  putc b := appendWithin_appends hroom [b]
  puts text := appendWithin_appends hroom text.encode
  putInt16 n := by
    have hword : word n 2 = be16 (n % 2 ^ 16).toNat := if_pos rfl
    rw [← hword]
    exact appendWithin_appends hroom (word n 2)
  putInt32 n := by
    have hword : word n 4 = be32 (n % 2 ^ 32).toNat := if_neg (by decide)
    rw [← hword]
    exact appendWithin_appends hroom (word n 4)
  putnchar bytes n _ := appendWithin_appends hroom (bytes.take n)
  pipelineFlush c := by
    refine ⟨rfl, c.staged.length, ?_, fun _ => ?_⟩
    · rw [List.take_length]
      rfl
    · rw [List.drop_length]
      rfl

/-- A connection with so many bytes of complete messages -/
def connAt (outBuffer : Nat → UInt8) (outCount : Nat) (outMsgStart : Int) (outMsgEnd : Nat) :
    PGconn Unit where
  outBuffer := outBuffer
  outCount := outCount
  outMsgStart := outMsgStart
  outMsgEnd := outMsgEnd
  pipelineStatus := .off
  cmdQueue := []
  sent := []
  other := ()

/-- A connection whose buffer is empty -/
def emptyConn : PGconn Unit :=
  connAt (fun _ => 0) 0 0 0

section Room

variable {room : Nat}

/-- Bytes that are added to a message, where there is room -/
def Adds (room : Nat) (put : Put Unit Unit) (k : Nat) : Prop :=
  ∀ buffer n start stop, stop + k < room → ∃ buffer',
    put (connAt buffer n start stop) = (some ⟨⟩, connAt buffer' n start (stop + k))

/-- The rest of a message -/
def Closes (room : Nat) (put : Put Unit Unit) (k : Nat) : Prop :=
  ∀ buffer n start stop, stop + k < room → ∃ buffer' start' stop',
    put (connAt buffer n start stop) = (some ⟨⟩, connAt buffer' (stop + k) start' stop')

/-- Messages that are built, with the number of bytes before and after them -/
def Advances (put : Put Unit Unit) (n m : Nat) : Prop :=
  ∀ buffer start stop, ∃ buffer' start' stop',
    put (connAt buffer n start stop) = (some ⟨⟩, connAt buffer' m start' stop')

variable {first rest : Put Unit Unit}

theorem bind_run
    {c c' : PGconn Unit}
    (h : first c = (some ⟨⟩, c')) :
    (first >>= fun _ => rest) c = rest c' := by
  change Attempt.bind first (fun _ => rest) c = _
  rw [Attempt.bind, h]

theorem adds_bytes (bytes : List UInt8) : Adds room (appendWithin room bytes) bytes.length :=
  fun _ _ _ _ hroom => ⟨_, if_pos hroom⟩

theorem adds_nothing (room : Nat) : Adds room (pure ⟨⟩) 0 :=
  fun buffer _ _ _ _ => ⟨buffer, rfl⟩

theorem Adds.seq
    {k k' : Nat}
    (h : Adds room first k)
    (h' : Adds room rest k') :
    Adds room (first >>= fun _ => rest) (k + k') := by
  intro buffer n start stop hroom
  obtain ⟨buffer', hfirst⟩ := h buffer n start stop (by omega)
  rw [bind_run hfirst, ← Nat.add_assoc]
  exact h' buffer' n start (stop + k) (by omega)

theorem Adds.closes
    {k k' : Nat}
    (h : Adds room first k)
    (h' : Closes room rest k') :
    Closes room (first >>= fun _ => rest) (k + k') := by
  intro buffer n start stop hroom
  obtain ⟨buffer', hfirst⟩ := h buffer n start stop (by omega)
  rw [bind_run hfirst, ← Nat.add_assoc]
  exact h' buffer' n start (stop + k) (by omega)

theorem closes_end : Closes room putMsgEndNoFlush 0 :=
  fun _ _ _ _ _ => ⟨_, _, _, rfl⟩

theorem Closes.message
    {rest : Put Unit Unit} {n k : Nat}
    (h : Closes room rest k)
    (type : Char)
    (hroom : n + 5 + k < room) :
    Advances ((memoryLib room).putMsgStart type >>= fun _ => rest) n (n + 5 + k) := by
  intro buffer start stop
  have hstart : (memoryLib room).putMsgStart type (connAt buffer n start stop) =
      (some ⟨⟩, connAt (overwrite n [type.toUInt8] buffer) n (n + 1) (n + 5)) :=
    if_pos (show n + 5 < room by omega)
  rw [bind_run hstart]
  exact h _ _ _ _ hroom

theorem Advances.seq
    {n m k : Nat}
    (h : Advances first n m)
    (h' : Advances rest m k) :
    Advances (first >>= fun _ => rest) n k := by
  intro buffer start stop
  obtain ⟨buffer', start', stop', hfirst⟩ := h buffer start stop
  rw [bind_run hfirst]
  exact h' buffer' start' stop'

theorem Advances.sends
    {n : Nat} {build : Put Unit Unit}
    (h : Advances build 0 n)
    (queryclass : QueryClass) (query : Option Text) :
    ∃ conn, (memoryLib room).sendUnit build queryclass query emptyConn = (true, conn) ∧
      conn.sent.length = n := by
  obtain ⟨buffer, start, stop, hbuild⟩ := h (fun _ => 0) 0 0
  obtain ⟨entry, hsend⟩ : ∃ entry, (memoryLib room).sendUnit build queryclass query emptyConn =
      (memoryLib room).publishUnit entry (connAt buffer n start stop) := by
    unfold LibPq.sendUnit
    cases query with
    | none =>
        refine ⟨{ queryclass := queryclass }, ?_⟩
        simp only [memoryLib, emptyConn, hbuild]
    | some text =>
        refine ⟨{ queryclass := queryclass, query := some text }, ?_⟩
        simp only [memoryLib, emptyConn, hbuild]
  refine ⟨_, hsend, ?_⟩
  change ([] ++ (connAt buffer n start stop).staged).length = n
  exact PGconn.length_upTo _ n

end Room

/-- The statement `s1` -/
def statementName : Text :=
  ⟨[0x73, 0x31], by decide⟩

/-- The query `SELECT $1, $2` -/
def selectText : Text :=
  ⟨[0x53, 0x45, 0x4c, 0x45, 0x43, 0x54, 0x20, 0x24, 0x31, 0x2c, 0x20, 0x24, 0x32], by decide⟩

/-- The text `42` and a null -/
def twoValues : BindArguments where
  nParams := 2
  paramValues := some fun i => if i = 0 then some [0x34, 0x32] else none
  paramLengths := some fun _ => 2
  paramFormats := none
  resultFormat := 0
  readable := by
    intro values hvalues i _ value hvalue n hn
    obtain rfl := Option.some.inj hvalues
    obtain rfl : (2 : Int) = n := Option.some.inj hn
    dsimp only at hvalue
    split at hvalue
    · obtain rfl := Option.some.inj hvalue
      decide
    · cases hvalue

/-- A wait for a position of two words -/
def strictWait : WaitSpec where
  targetLsn := 0x1600000028
  timeoutMs := 1000
  consistencyMode := 1

theorem advances_polarWait : Advances ((memoryLib 1024).putPolarWait strictWait) 0 21 :=
  ((adds_bytes _).closes ((adds_bytes _).closes ((adds_bytes _).closes ((adds_bytes _).closes
    ((adds_bytes _).closes ((adds_bytes _).closes closes_end)))))).message 'W' (by decide)

theorem advances_sync
    {n m : Nat}
    (hm : n + 5 = m)
    (hroom : m < 1024) :
    Advances (memoryLib 1024).putSync n m := by
  subst hm
  exact closes_end.message 'S' hroom

theorem checkParams_eq
    {nParams : Int}
    (hparams : 0 ≤ nParams ∧ nParams ≤ queryParamMaxLimit)
    (lib : LibPq Unit) (send : PGconn Unit → Bool × PGconn Unit) :
    lib.checkParams nParams send = send := by
  funext conn
  exact if_neg (by omega)

theorem adds_statementName : Adds 1024 ((memoryLib 1024).puts statementName) 3 :=
  adds_bytes _

theorem adds_selectText : Adds 1024 ((memoryLib 1024).puts selectText) 14 :=
  adds_bytes _

theorem adds_emptyText : Adds 1024 ((memoryLib 1024).puts emptyText) 1 :=
  adds_bytes _

theorem sendPreparePolarWait_eq (room : Nat) (paramTypes : Option (Nat → UInt32)) :
    (memoryLib room).sendPreparePolarWait (some statementName) (some selectText) 2 paramTypes
        strictWait emptyConn =
      (memoryLib room).sendParseUnit statementName selectText 2 paramTypes strictWait emptyConn := by
  change (memoryLib room).checkParams 2 ((memoryLib room).sendParseUnit statementName selectText 2
    paramTypes strictWait) emptyConn = _
  rw [checkParams_eq ⟨by decide, by decide⟩]

theorem sendQueryPreparedPolarWait_eq (room : Nat) :
    (memoryLib room).sendQueryPreparedPolarWait (some statementName) twoValues strictWait emptyConn =
      (memoryLib room).sendQueryGutsPolarWait none statementName none twoValues strictWait
        emptyConn := by
  change (memoryLib room).checkParams 2 ((memoryLib room).sendQueryGutsPolarWait none statementName
    none twoValues strictWait) emptyConn = _
  rw [checkParams_eq ⟨by decide, by decide⟩]

theorem parse_sent :
    ∃ conn, (memoryLib 1024).sendParseUnit statementName selectText 2 (some fun _ => 25) strictWait
      emptyConn = (true, conn) ∧ conn.sent.length = 58 := by
  have htwo : ∀ n, Adds 1024 ((memoryLib 1024).putInt n 2) 2 := fun _ => adds_bytes _
  have hfour : ∀ n, Adds 1024 ((memoryLib 1024).putInt n 4) 4 := fun _ => adds_bytes _
  have htypes : ∀ types, Adds 1024 ((memoryLib 1024).putArray 2 (some types) 4) 10 := fun _ =>
    (htwo 2).seq ((hfour _).seq ((hfour _).seq (adds_nothing 1024)))
  have hbody := adds_statementName.closes (adds_selectText.closes
    ((htypes fun _ => toInt32 (25 : UInt32).toNat).closes closes_end))
  have hparse : Advances ((memoryLib 1024).putParse statementName selectText 2 (some fun _ => 25))
      21 53 := @Closes.message 1024 _ 21 27 hbody 'P' (by decide)
  unfold LibPq.sendParseUnit
  have hunit := advances_polarWait.seq (hparse.seq (@advances_sync 53 58 rfl (by decide)))
  exact @Advances.sends 1024 _ _ hunit .prepare (some selectText)

theorem bind_sent :
    ∃ conn, (memoryLib 1024).sendQueryGutsPolarWait none statementName none twoValues strictWait
      emptyConn = (true, conn) ∧ conn.sent.length = 70 := by
  have htwo : ∀ n, Adds 1024 ((memoryLib 1024).putInt n 2) 2 := fun _ => adds_bytes _
  have hfour : ∀ n, Adds 1024 ((memoryLib 1024).putInt n 4) 4 := fun _ => adds_bytes _
  have hcommand : Advances ((memoryLib 1024).putCommand none statementName 2 none) 21 21 :=
    fun _ _ _ => ⟨_, _, _, rfl⟩
  have hfirst : (memoryLib 1024).putValue twoValues 0 =
      ((memoryLib 1024).putInt 2 4 >>= fun _ => (memoryLib 1024).putnchar [0x34, 0x32] 2) := by
    simp [LibPq.putValue, twoValues, valueLength]
  have hvalues : Adds 1024 ((List.range 2).forM ((memoryLib 1024).putValue twoValues)) 10 := by
    change Adds 1024 ((memoryLib 1024).putValue twoValues 0 >>= fun _ => _) 10
    rw [hfirst]
    exact ((hfour 2).seq (adds_bytes [0x34, 0x32])).seq ((hfour (-1)).seq (adds_nothing 1024))
  have hbody := adds_emptyText.closes (adds_statementName.closes ((htwo 0).closes
    ((htwo 2).closes (hvalues.closes ((htwo 1).closes ((htwo 0).closes closes_end))))))
  have hbind : Advances ((memoryLib 1024).putBind statementName twoValues) 21 48 :=
    @Closes.message 1024 _ 21 22 hbody 'B' (by decide)
  have hdescribe : Advances (memoryLib 1024).putDescribePortal 48 55 :=
    @Closes.message 1024 _ 48 2 ((adds_bytes ['P'.toUInt8]).closes
      (adds_emptyText.closes closes_end)) 'D' (by decide)
  have hexecute : Advances (memoryLib 1024).putExecute 55 65 :=
    @Closes.message 1024 _ 55 5 (adds_emptyText.closes ((hfour 0).closes closes_end)) 'E'
      (by decide)
  unfold LibPq.sendQueryGutsPolarWait
  have hunit := advances_polarWait.seq (hcommand.seq (hbind.seq (hdescribe.seq (hexecute.seq
    (@advances_sync 65 70 rfl (by decide))))))
  exact @Advances.sends 1024 _ _ hunit .extended none

/-- A Parse of a named statement, and a Bind and an Execute of it, behind a wait are sent; they are
refused when there is room for the `W` message only. -/
theorem sendPolarWait_atomic_statement :
    let parse := fun room => (memoryLib room).sendPreparePolarWait (some statementName)
      (some selectText) 2 (some fun _ => 25) strictWait emptyConn
    let bind := fun room => (memoryLib room).sendQueryPreparedPolarWait (some statementName) twoValues
      strictWait emptyConn
    ((parse 1024).1 = true ∧ (parse 1024).2.sent.length = 58) ∧
      ((bind 1024).1 = true ∧ (bind 1024).2.sent.length = 70) ∧
      ((parse 24).1 = false ∧ (bind 24).1 = false) ∧
      (∀ room ≤ 2 ^ 31, Refused emptyConn (parse room) ∨ ∃ stmt text, some statementName = some stmt ∧
        some selectText = some text ∧ Published (memoryLib room) emptyConn strictWait
          (prepareUnit .off stmt text 2 (some fun _ => 25)) .prepare (parse room)) ∧
      ∀ room ≤ 2 ^ 31, Refused emptyConn (bind room) ∨ ∃ stmt, some statementName = some stmt ∧
        Published (memoryLib room) emptyConn strictWait (queryUnit .off none stmt none twoValues)
          .extended (bind room) := by
  intro parse bind
  refine ⟨?_, ?_, ⟨rfl, rfl⟩, ?_, ?_⟩
  · obtain ⟨conn, hsend, hlength⟩ := parse_sent
    have hparse : parse 1024 = (true, conn) := (sendPreparePolarWait_eq 1024 _).trans hsend
    rw [hparse]
    exact ⟨rfl, hlength⟩
  · obtain ⟨conn, hsend, hlength⟩ := bind_sent
    have hbind : bind 1024 = (true, conn) := (sendQueryPreparedPolarWait_eq 1024).trans hsend
    rw [hbind]
    exact ⟨rfl, hlength⟩
  · intro room hroom
    exact (sendPolarWait_atomic (memoryLib_documented hroom) emptyConn strictWait).1 _ _ _ _
  · intro room hroom
    exact (sendPolarWait_atomic (memoryLib_documented hroom) emptyConn strictWait).2.2 _ _

end PolarWait

end PolarProxy
