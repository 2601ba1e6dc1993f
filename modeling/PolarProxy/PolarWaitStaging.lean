import PolarProxy.PolarWait

/-!
# Staging of messages

What the senders rely on in libpq, and what every part of a unit does to the output buffer.
While a unit is built, the messages that were complete before stay where they are; a
message that is being built lies behind them, and its end makes it complete.

**Rules.**
* `putMsgStart_ensures`, `put_ensures`, `putMsgEndNoFlush_ensures`: a message is started,
  grows and is completed.
* `putPolarWait_ensures`, `putParse_ensures`, `putBind_ensures`, `putDescribePortal_ensures`,
  `putExecute_ensures`, `putSync_ensures`: each message of a unit.
-/

namespace PolarProxy

namespace PolarWait

open Attempts ExtendedMessage

variable {ρ : Type}

/-! ## Documented behaviour of libpq -/

/-- Only fields that the senders do not name are changed. -/
def SameOutput (c c' : PGconn ρ) : Prop :=
  ∃ other, c' = { c with other }

/-- The complete messages, what left the buffer and the queue are kept. -/
structure Keeps (c c' : PGconn ρ) : Prop where
  outCount : c'.outCount = c.outCount
  outBuffer : ∀ i < c.outCount, c'.outBuffer i = c.outBuffer i
  sent : c'.sent = c.sent
  cmdQueue : c'.cmdQueue = c.cmdQueue
  pipelineStatus : c'.pipelineStatus = c.pipelineStatus

/-- Bytes are added to the message that is being built, or there is no room for them. -/
def Appends (put : Put ρ Unit) (bytes : List UInt8) : Prop :=
  ∀ c, c.outCount ≤ c.outMsgEnd → Keeps c (put c).2 ∧
    ((put c).1 ≠ none →
      (put c).2.outMsgStart = c.outMsgStart ∧
        (put c).2.outMsgEnd = c.outMsgEnd + bytes.length ∧
          (put c).2.outMsgEnd < 2 ^ 31 ∧
            (put c).2.upTo (put c).2.outMsgEnd = c.upTo c.outMsgEnd ++ bytes)

/-- The documented behaviour of the functions of libpq. -/
structure LibPq.Documented (lib : LibPq ρ) : Prop where
  sendQueryStart : ∀ c, SameOutput c (lib.sendQueryStart c).2
  allocCmdQueueEntry : ∀ c, SameOutput c (lib.allocCmdQueueEntry c).2
  recycleCmdQueueEntry : ∀ entry c, SameOutput c (lib.recycleCmdQueueEntry entry c)
  appendConnError : ∀ message c, SameOutput c (lib.appendConnError message c)
  appendCmdQueueEntry : ∀ entry c, ∃ other,
    lib.appendCmdQueueEntry entry c = { c with cmdQueue := c.cmdQueue ++ [entry], other }
  putMsgStart : ∀ type c, Keeps c (lib.putMsgStart type c).2 ∧
    ((lib.putMsgStart type c).1 ≠ none →
      (lib.putMsgStart type c).2.outMsgStart = c.outCount + 1 ∧
        (lib.putMsgStart type c).2.outMsgEnd = c.outCount + 5 ∧
          (lib.putMsgStart type c).2.outMsgEnd < 2 ^ 31 ∧
            (lib.putMsgStart type c).2.outBuffer c.outCount = type.toUInt8)
  putc : ∀ b, Appends (lib.putc b) [b]
  puts : ∀ text, Appends (lib.puts text) text.encode
  putInt16 : ∀ n : Int, Appends (lib.putInt n 2) (be16 (n % 2 ^ 16).toNat)
  putInt32 : ∀ n : Int, Appends (lib.putInt n 4) (be32 (n % 2 ^ 32).toNat)
  putnchar : ∀ bytes n, n ≤ bytes.length → Appends (lib.putnchar bytes n) (bytes.take n)
  /-- A flush takes bytes from the front of the buffer, which are sent, or discarded when the connection
  is lost. -/
  pipelineFlush : ∀ c, (lib.pipelineFlush c).2.cmdQueue = c.cmdQueue ∧
    ∃ n, (lib.pipelineFlush c).2.sent = c.sent ++ c.staged.take n ∧
      ((lib.pipelineFlush c).1 = true → (lib.pipelineFlush c).2.staged = c.staged.drop n)

/-! ## Contents of the buffer -/

namespace PGconn

theorem length_upTo (c : PGconn ρ) (n : Nat) : (c.upTo n).length = n := by
  rw [upTo, List.length_map, List.length_range]

theorem upTo_congr
    {c c' : PGconn ρ} {n : Nat}
    (h : ∀ i < n, c'.outBuffer i = c.outBuffer i) :
    c'.upTo n = c.upTo n := by
  rw [upTo, upTo]
  apply List.map_congr_left
  intro i hi
  exact h i (List.mem_range.mp hi)

theorem upTo_add (c : PGconn ρ) (n m : Nat) :
    c.upTo (n + m) = c.upTo n ++ (List.range m).map fun i => c.outBuffer (n + i) := by
  rw [upTo, upTo, List.range_add, List.map_append, List.map_map]
  congr 1

end PGconn

theorem overwrite_of_lt
    {start : Nat} {bytes : List UInt8} {buffer : Nat → UInt8} {i : Nat}
    (h : i < start) :
    overwrite start bytes buffer i = buffer i := by
  rw [overwrite, if_neg (by omega)]

theorem overwrite_add
    {start : Nat} {buffer : Nat → UInt8} {old new body : List UInt8} {n : Nat}
    (hlen : old.length = new.length)
    (h : (List.range n).map (fun i => buffer (start + i)) = old ++ body) :
    (List.range n).map (fun i => overwrite start new buffer (start + i)) = new ++ body := by
  have hn : n = old.length + body.length := by
    have hlengths := congrArg List.length h
    rwa [List.length_map, List.length_range, List.length_append] at hlengths
  apply List.ext_getElem?
  intro i
  have hcell := congrArg (fun l => l[i]?) h
  simp only [List.getElem?_map] at hcell ⊢
  by_cases hi : i < n
  · rw [List.getElem?_range hi, Option.map_some] at hcell ⊢
    rw [overwrite, if_pos (Nat.le_add_right start i), Nat.add_sub_cancel_left]
    by_cases hnew : i < new.length
    · rw [List.getElem?_append_left hnew, List.getElem?_eq_getElem hnew, Option.getD_some]
    · rw [List.getElem?_eq_none (by omega), Option.getD_none, hcell]
      rw [List.getElem?_append_right (by omega), List.getElem?_append_right (by omega), hlen]
  · rw [List.getElem?_eq_none (by rw [List.length_range]; omega)]
    rw [List.getElem?_eq_none (by rw [List.length_append]; omega), Option.map_none]

/-! ## States of a unit -/

/-- What is kept of a connection while a unit is built -/
structure Kept (c₀ c : PGconn ρ) : Prop where
  outCount : c₀.outCount ≤ c.outCount
  outBuffer : ∀ i < c₀.outCount, c.outBuffer i = c₀.outBuffer i
  sent : c.sent = c₀.sent
  cmdQueue : c.cmdQueue = c₀.cmdQueue
  pipelineStatus : c.pipelineStatus = c₀.pipelineStatus

/-- Messages are complete behind the old ones. -/
structure Staged (c₀ : PGconn ρ) (out : List UInt8) (c : PGconn ρ) : Prop where
  kept : Kept c₀ c
  staged : c.staged = c₀.staged ++ out
  fits : out ≠ [] → c.outCount < 2 ^ 31

/-- A message is being built behind the complete ones. -/
structure Building (c₀ : PGconn ρ) (out : List UInt8) (type : Char) (body : List UInt8)
    (c : PGconn ρ) : Prop where
  kept : Kept c₀ c
  staged : c.staged = c₀.staged ++ out
  msgStart : c.outMsgStart = c.outCount + 1
  msgEnd : c.outMsgEnd = c.outCount + 5 + body.length
  fits : c.outMsgEnd < 2 ^ 31
  message : ∃ len : List UInt8, len.length = 4 ∧
    c.upTo c.outMsgEnd = c.staged ++ type.toUInt8 :: (len ++ body)

theorem Kept.trans
    {c₀ c c' : PGconn ρ}
    (h : Kept c₀ c)
    (hkeeps : Keeps c c') :
    Kept c₀ c' where
  outCount := by
    rw [hkeeps.outCount]
    exact h.outCount
  outBuffer i hi := by
    rw [hkeeps.outBuffer i (Nat.lt_of_lt_of_le hi h.outCount)]
    exact h.outBuffer i hi
  sent := hkeeps.sent.trans h.sent
  cmdQueue := hkeeps.cmdQueue.trans h.cmdQueue
  pipelineStatus := hkeeps.pipelineStatus.trans h.pipelineStatus

theorem Keeps.staged
    {c c' : PGconn ρ}
    (h : Keeps c c') :
    c'.staged = c.staged := by
  rw [PGconn.staged, PGconn.staged, h.outCount]
  exact PGconn.upTo_congr h.outBuffer

theorem Kept.of_sameOutput
    {c₀ c c' : PGconn ρ}
    (h : Kept c₀ c)
    (hsame : SameOutput c c') :
    Kept c₀ c' := by
  obtain ⟨other, rfl⟩ := hsame
  exact ⟨h.outCount, h.outBuffer, h.sent, h.cmdQueue, h.pipelineStatus⟩

variable {lib : LibPq ρ} {c₀ : PGconn ρ} {out body : List UInt8} {type : Char}

theorem putMsgStart_ensures
    (laws : lib.Documented)
    (type : Char) :
    Ensures (Staged c₀ out) (lib.putMsgStart type)
      (fun _ => Building c₀ out type []) (Kept c₀) := by
  intro c hc
  obtain ⟨hkeeps, hstarted⟩ := laws.putMsgStart type c
  cases hrun : lib.putMsgStart type c with
  | mk value c' =>
      rw [hrun] at hkeeps hstarted
      dsimp only at hkeeps hstarted
      cases value with
      | none =>
          exact hc.kept.trans hkeeps
      | some _ =>
          obtain ⟨hstart, hend, hfits, htype⟩ := hstarted (Option.some_ne_none _)
          have hcount : c'.outCount = c.outCount := hkeeps.outCount
          refine ⟨hc.kept.trans hkeeps, hkeeps.staged.trans hc.staged, ?_, ?_, hfits, ?_⟩
          · rw [hstart, hcount]
          · rw [hend, hcount, List.length_nil]
          · refine ⟨(List.range 4).map fun i => c'.outBuffer (c'.outCount + 1 + i), by simp, ?_⟩
            have hsplit : c'.outMsgEnd = c'.outCount + 1 + 4 := by omega
            rw [hsplit, PGconn.upTo_add, PGconn.upTo_add, PGconn.staged, List.append_nil]
            rw [← hcount] at htype
            simp [List.range_succ, htype]

theorem put_ensures
    {put : Put ρ Unit} {bytes : List UInt8}
    (happends : Appends put bytes) :
    Ensures (Building c₀ out type body) put
      (fun _ => Building c₀ out type (body ++ bytes)) (Kept c₀) := by
  intro c hc
  have hle : c.outCount ≤ c.outMsgEnd := by
    rw [hc.msgEnd]
    omega
  obtain ⟨hkeeps, hdone⟩ := happends c hle
  cases hrun : put c with
  | mk value c' =>
      rw [hrun] at hkeeps hdone
      dsimp only at hkeeps hdone
      cases value with
      | none =>
          exact hc.kept.trans hkeeps
      | some _ =>
          obtain ⟨hstart, hend, hfits, hbytes⟩ := hdone (Option.some_ne_none _)
          have hcount : c'.outCount = c.outCount := hkeeps.outCount
          obtain ⟨len, hlen, hmessage⟩ := hc.message
          refine ⟨hc.kept.trans hkeeps, hkeeps.staged.trans hc.staged, ?_, ?_, hfits, len, hlen, ?_⟩
          · rw [hstart, hcount]
            exact hc.msgStart
          · rw [hend, hcount, hc.msgEnd, List.length_append]
            omega
          · have hstaged : c'.staged = c.staged := hkeeps.staged
            rw [hbytes, hmessage, hstaged]
            simp

/-- The end of a message fills in its length and makes it complete. -/
theorem putMsgEndNoFlush_ensures :
    Ensures (Building c₀ out type body) putMsgEndNoFlush
      (fun _ => Staged c₀ (out ++ frame type body)) (Kept c₀) := by
  apply Ensures.modify
  intro c hc
  have hstart : c.outMsgStart.toNat = c.outCount + 1 := by
    rw [hc.msgStart]
    omega
  have hnonneg : 0 ≤ c.outMsgStart := by
    rw [hc.msgStart]
    omega
  have hword : lengthWord c = be32 (body.length + 4) := by
    have hlength : (((c.outMsgEnd : Int) - c.outMsgStart) % 2 ^ 32).toNat = body.length + 4 := by
      have hfits := hc.fits
      rw [hc.msgStart, hc.msgEnd] at *
      omega
    rw [lengthWord, hlength]
  rw [if_pos hnonneg, hstart, hword]
  obtain ⟨len, hlen, hmessage⟩ := hc.message
  have hbelow : ∀ i < c.outCount,
      overwrite (c.outCount + 1) (be32 (body.length + 4)) c.outBuffer i = c.outBuffer i :=
    fun i hi => overwrite_of_lt (by omega)
  have hle : c.outCount ≤ c.outMsgEnd := by
    rw [hc.msgEnd]
    omega
  constructor
  · exact
      { outCount := hc.kept.outCount.trans hle
        outBuffer := fun i hi =>
          (hbelow i (Nat.lt_of_lt_of_le hi hc.kept.outCount)).trans (hc.kept.outBuffer i hi)
        sent := hc.kept.sent
        cmdQueue := hc.kept.cmdQueue
        pipelineStatus := hc.kept.pipelineStatus }
  · -- the type byte stays in front of the word
    have hsplit : c.outMsgEnd = c.outCount + 1 + (4 + body.length) := by
      rw [hc.msgEnd]
      omega
    rw [hsplit, PGconn.upTo_add] at hmessage
    have hfirst : c.upTo (c.outCount + 1) = c.staged ++ [type.toUInt8] := by
      have htake := congrArg (List.take (c.outCount + 1)) hmessage
      rw [List.take_left' (PGconn.length_upTo c _)] at htake
      have hlength : c.staged.length = c.outCount := PGconn.length_upTo c _
      rw [htake, ← hlength, List.take_length_add_append]
      rfl
    have hrest : (List.range (4 + body.length)).map (fun i => c.outBuffer (c.outCount + 1 + i)) =
        len ++ body := by
      rw [hfirst, List.append_assoc, List.singleton_append] at hmessage
      exact (List.cons.inj (List.append_cancel_left hmessage)).2
    have hnew := overwrite_add (hlen.trans (length_be32 (body.length + 4)).symm) hrest
    have hcontent : ∀ c' : PGconn ρ,
        c'.outBuffer = overwrite (c.outCount + 1) (be32 (body.length + 4)) c.outBuffer →
          c'.upTo c.outMsgEnd = c₀.staged ++ (out ++ frame type body) := by
      intro c' hbuffer
      have hsame : c'.upTo (c.outCount + 1) = c.upTo (c.outCount + 1) :=
        PGconn.upTo_congr fun i hi => by rw [hbuffer, overwrite_of_lt hi]
      rw [hsplit, PGconn.upTo_add, hsame, hbuffer, hnew, hfirst, hc.staged, frame]
      simp
    exact hcontent _ rfl
  · intro _
    exact hc.fits

/-! ## Messages -/

theorem be32_mod (n : Nat) : be32 (n % 2 ^ 32) = be32 n := by
  simp only [be32, List.cons.injEq, and_true, ← UInt8.toNat_inj, UInt8.toNat_ofNat']
  omega

/-- The signed helper writes the word of the unsigned number. -/
theorem be32_toInt32 (n : Nat) : be32 (toInt32 n % 2 ^ 32).toNat = be32 n := by
  have hmod : toInt32 n % 2 ^ 32 = (n : Int) % 2 ^ 32 := Int.bmod_emod
  have hcast : ((n : Int) % 2 ^ 32).toNat = n % 2 ^ 32 := by omega
  rw [hmod, hcast, be32_mod]

/-- The `W` message of a wait -/
def waitMessage (wait : WaitSpec) : List UInt8 :=
  frame 'W' ([toByte waitProtocolVersion, toByte wait.consistencyMode] ++ be16 0 ++
    be32 wait.timeoutMs.toNat ++ be32 (wait.targetLsn >>> 32).toNat ++ be32 wait.targetLsn.toNat)

def arrayBytes (nParams : Int) (array : Option (Nat → List UInt8)) : List UInt8 :=
  match array with
  | some bytes =>
      if 0 < nParams then be16 nParams.toNat ++ (List.range nParams.toNat).flatMap bytes
      else be16 0
  | none => be16 0

def parseMessage (stmtName query : Text) (nParams : Int) (paramTypes : Option (Nat → UInt32)) :
    List UInt8 :=
  frame 'P' (stmtName.encode ++ query.encode ++
    arrayBytes nParams (paramTypes.map fun types i => be32 (types i).toNat))

/-- A parameter value with its length; a value without one is NULL. -/
def valueBytes (args : BindArguments) (i : Nat) : List UInt8 :=
  match args.paramValues.bind fun values => values i with
  | some value =>
      match valueLength args.paramLengths args.paramFormats i value with
      | some n => be32 n.toNat ++ value.take n.toNat
      | none => []
  | none => be32 pgsqlParamNull

def bindMessage (stmtName : Text) (args : BindArguments) : List UInt8 :=
  frame 'B' (emptyText.encode ++ stmtName.encode ++
    arrayBytes args.nParams (args.paramFormats.map fun formats i =>
      be16 (formats i % 2 ^ 16).toNat) ++
    be16 args.nParams.toNat ++ (List.range args.nParams.toNat).flatMap (valueBytes args) ++
    be16 1 ++ be16 (args.resultFormat % 2 ^ 16).toNat)

def describePortalMessage : List UInt8 :=
  frame 'D' ('P'.toUInt8 :: emptyText.encode)

def executeMessage : List UInt8 :=
  frame 'E' (emptyText.encode ++ be32 0)

def syncMessage (status : PipelineStatus) : List UInt8 :=
  if status = .off then frame 'S' [] else []

theorem Kept.fail_ensures
    {P : PGconn ρ → Prop} {Q : Unit → PGconn ρ → Prop}
    (laws : lib.Documented)
    (hP : ∀ c, P c → Kept c₀ c)
    (message : String) :
    Ensures P (lib.fail message) Q (Kept c₀) :=
  Ensures.giveUp fun c hc => (hP c hc).of_sameOutput (laws.appendConnError message c)

theorem putPolarWait_ensures
    (laws : lib.Documented)
    (wait : WaitSpec) :
    Ensures (Staged c₀ out) (lib.putPolarWait wait)
      (fun _ => Staged c₀ (out ++ waitMessage wait)) (Kept c₀) := by
  rw [LibPq.putPolarWait]
  split
  · exact Kept.fail_ensures laws (fun _ hc => hc.kept) _
  split
  · exact Kept.fail_ensures laws (fun _ hc => hc.kept) _
  refine (putMsgStart_ensures laws 'W').seq ?_
  refine (put_ensures (laws.putc _)).seq ?_
  refine (put_ensures (laws.putc _)).seq ?_
  refine (put_ensures (laws.putInt16 _)).seq ?_
  refine (put_ensures (laws.putInt32 _)).seq ?_
  refine (put_ensures (laws.putInt32 _)).seq ?_
  refine (put_ensures (laws.putInt32 _)).seq ?_
  refine putMsgEndNoFlush_ensures.imp (fun _ hc => hc) ?_
  intro _ c hc
  rw [be32_toInt32, be32_toInt32, be32_toInt32] at hc
  simpa [waitMessage, waitProtocolFlags] using hc

theorem putArray_ensures
    {nParams : Int} {bytes : Nat} {array : Option (Nat → Int)} {encode : Int → List UInt8}
    (laws : lib.Documented)
    (hnParams : nParams ≤ queryParamMaxLimit)
    (hputInt : ∀ n, Appends (lib.putInt n bytes) (encode n)) :
    Ensures (Building c₀ out type body) (lib.putArray nParams array bytes)
      (fun _ => Building c₀ out type
        (body ++ arrayBytes nParams (array.map fun values i => encode (values i)))) (Kept c₀) := by
  cases array with
  | none =>
      exact put_ensures (laws.putInt16 0)
  | some values =>
      rw [LibPq.putArray, Option.map_some, arrayBytes]
      split
      · rename_i hpos
        refine (put_ensures (laws.putInt16 nParams)).seq ?_
        have hcount : (nParams % 2 ^ 16).toNat = nParams.toNat := by
          rw [queryParamMaxLimit] at hnParams
          omega
        rw [hcount, ← List.append_assoc]
        have hvalues : ∀ done i, i ∈ List.range nParams.toNat →
            Ensures (Building c₀ out type (body ++ be16 nParams.toNat ++
                done.flatMap fun i => encode (values i)))
              (lib.putInt (values i) bytes)
              (fun _ => Building c₀ out type (body ++ be16 nParams.toNat ++
                (done ++ [i]).flatMap fun i => encode (values i))) (Kept c₀) := by
          intro done i _
          refine (put_ensures (hputInt (values i))).imp (fun _ hc => hc) ?_
          intro _ c hc
          simpa using hc
        have hloop := Ensures.forM (List.range nParams.toNat) hvalues []
        simpa using hloop
      · exact put_ensures (laws.putInt16 0)

theorem putParse_ensures
    {nParams : Int}
    (laws : lib.Documented)
    (hnParams : nParams ≤ queryParamMaxLimit)
    (stmtName query : Text) (paramTypes : Option (Nat → UInt32)) :
    Ensures (Staged c₀ out) (lib.putParse stmtName query nParams paramTypes)
      (fun _ => Staged c₀ (out ++ parseMessage stmtName query nParams paramTypes)) (Kept c₀) := by
  refine (putMsgStart_ensures laws 'P').seq ?_
  refine (put_ensures (laws.puts stmtName)).seq ?_
  refine (put_ensures (laws.puts query)).seq ?_
  refine (putArray_ensures laws hnParams laws.putInt32).seq ?_
  refine putMsgEndNoFlush_ensures.imp (fun _ hc => hc) ?_
  intro _ c hc
  have harray : (paramTypes.map fun types i => toInt32 (types i).toNat).map
      (fun values i => be32 (values i % 2 ^ 32).toNat) =
      paramTypes.map fun types i => be32 (types i).toNat := by
    cases paramTypes with
    | none =>
        rfl
    | some types =>
        exact congrArg some (funext fun i => be32_toInt32 (types i).toNat)
  rw [harray] at hc
  exact hc

theorem putCommand_ensures
    {nParams : Int}
    (laws : lib.Documented)
    (hnParams : nParams ≤ queryParamMaxLimit)
    (command : Option Text) (stmtName : Text) (paramTypes : Option (Nat → UInt32)) :
    Ensures (Staged c₀ out) (lib.putCommand command stmtName nParams paramTypes)
      (fun _ => Staged c₀ (out ++ (command.map fun command =>
        parseMessage stmtName command nParams paramTypes).toList.flatten)) (Kept c₀) := by
  cases command with
  | none =>
      apply Ensures.pure
      intro c hc
      simpa using hc
  | some command =>
      refine (putParse_ensures laws hnParams stmtName command paramTypes).imp (fun _ hc => hc) ?_
      intro _ c hc
      simpa using hc

/-- A value that is not NULL is as long as its length says. -/
theorem putValue_ensures
    (laws : lib.Documented)
    (args : BindArguments) {i : Nat}
    (hi : i < args.nParams.toNat) :
    Ensures (Building c₀ out type body) (lib.putValue args i)
      (fun _ => Building c₀ out type (body ++ valueBytes args i)) (Kept c₀) := by
  rw [LibPq.putValue, valueBytes]
  cases hvalue : args.paramValues.bind fun values => values i with
  | none =>
      exact put_ensures (laws.putInt32 (-1))
  | some value =>
      obtain ⟨values, hvalues, hi'⟩ := Option.bind_eq_some_iff.mp hvalue
      dsimp only
      cases hlength : valueLength args.paramLengths args.paramFormats i value with
      | none =>
          exact Kept.fail_ensures laws (fun _ hc => hc.kept) _
      | some n =>
          obtain ⟨hnonneg, hint, hle⟩ := args.readable values hvalues i hi value hi' n hlength
          have hword : (n % 2 ^ 32).toNat = n.toNat := by omega
          have hsize : (n % 2 ^ 64).toNat = n.toNat := by omega
          dsimp only
          rw [hsize]
          refine (put_ensures (laws.putInt32 n)).seq ?_
          refine (put_ensures (laws.putnchar value n.toNat (by omega))).imp (fun _ hc => hc) ?_
          intro _ c hc
          rw [hword, List.append_assoc] at hc
          exact hc

theorem putBind_ensures
    (laws : lib.Documented)
    (stmtName : Text) (args : BindArguments)
    (hnonneg : 0 ≤ args.nParams)
    (hnParams : args.nParams ≤ queryParamMaxLimit) :
    Ensures (Staged c₀ out) (lib.putBind stmtName args)
      (fun _ => Staged c₀ (out ++ bindMessage stmtName args)) (Kept c₀) := by
  refine (putMsgStart_ensures laws 'B').seq ?_
  refine (put_ensures (laws.puts emptyText)).seq ?_
  refine (put_ensures (laws.puts stmtName)).seq ?_
  refine (putArray_ensures laws hnParams laws.putInt16).seq ?_
  refine (put_ensures (laws.putInt16 args.nParams)).seq ?_
  have hcount : (args.nParams % 2 ^ 16).toNat = args.nParams.toNat := by
    rw [queryParamMaxLimit] at hnParams
    omega
  rw [hcount]
  generalize hbody : [] ++ emptyText.encode ++ stmtName.encode ++ _ ++ _ = before
  have hvalues : ∀ done i, i ∈ List.range args.nParams.toNat →
      Ensures (Building c₀ out 'B' (before ++ done.flatMap (valueBytes args)))
        (lib.putValue args i)
        (fun _ => Building c₀ out 'B' (before ++ (done ++ [i]).flatMap (valueBytes args)))
        (Kept c₀) := by
    intro done i hi
    refine (putValue_ensures laws args (List.mem_range.mp hi)).imp (fun _ hc => hc) ?_
    intro _ c hc
    simpa using hc
  have hloop := Ensures.forM (List.range args.nParams.toNat) hvalues []
  rw [List.flatMap_nil, List.append_nil, List.nil_append] at hloop
  refine hloop.seq ?_
  refine (put_ensures (laws.putInt16 1)).seq ?_
  refine (put_ensures (laws.putInt16 args.resultFormat)).seq ?_
  refine putMsgEndNoFlush_ensures.imp (fun _ hc => hc) ?_
  intro _ c hc
  subst hbody
  simpa [bindMessage] using hc

theorem putDescribePortal_ensures (laws : lib.Documented) :
    Ensures (Staged c₀ out) lib.putDescribePortal
      (fun _ => Staged c₀ (out ++ describePortalMessage)) (Kept c₀) := by
  refine (putMsgStart_ensures laws 'D').seq ?_
  refine (put_ensures (laws.putc _)).seq ?_
  refine (put_ensures (laws.puts emptyText)).seq ?_
  exact putMsgEndNoFlush_ensures

theorem putExecute_ensures (laws : lib.Documented) :
    Ensures (Staged c₀ out) lib.putExecute
      (fun _ => Staged c₀ (out ++ executeMessage)) (Kept c₀) := by
  refine (putMsgStart_ensures laws 'E').seq ?_
  refine (put_ensures (laws.puts emptyText)).seq ?_
  refine (put_ensures (laws.putInt32 0)).seq ?_
  exact putMsgEndNoFlush_ensures

theorem putSync_ensures (laws : lib.Documented) :
    Ensures (Staged c₀ out) lib.putSync
      (fun _ => Staged c₀ (out ++ syncMessage c₀.pipelineStatus)) (Kept c₀) := by
  have hread : Ensures (Staged c₀ out) (Attempt.read PGconn.pipelineStatus)
      (fun status c => status = c₀.pipelineStatus ∧ Staged c₀ out c) (Kept c₀) :=
    fun c hc => ⟨hc.kept.pipelineStatus, hc⟩
  refine hread.bind fun status => ?_
  rw [syncMessage]
  by_cases hoff : status = .off
  · rw [if_pos hoff]
    have hstart : Ensures (fun c => status = c₀.pipelineStatus ∧ Staged c₀ out c)
        (lib.putMsgStart 'S')
        (fun _ c => status = c₀.pipelineStatus ∧ Building c₀ out 'S' [] c) (Kept c₀) := by
      intro c hc
      have hrun := putMsgStart_ensures laws 'S' c hc.2
      cases hdone : lib.putMsgStart 'S' c with
      | mk value c' =>
          rw [hdone] at hrun
          cases value with
          | none =>
              exact hrun
          | some _ =>
              exact ⟨hc.1, hrun⟩
    refine hstart.seq ?_
    intro c hc
    rw [if_pos (hc.1.symm.trans hoff)]
    exact putMsgEndNoFlush_ensures c hc.2
  · rw [if_neg hoff]
    apply Ensures.pure
    rintro c ⟨hstatus, hc⟩
    rw [if_neg (fun h => hoff (hstatus.trans h)), List.append_nil]
    exact hc

end PolarWait

end PolarProxy
