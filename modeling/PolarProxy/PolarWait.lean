import PolarProxy.Library.Attempts
import PolarProxy.MessageEncoding
import Mathlib.Algebra.GroupWithZero.Nat
import Mathlib.Algebra.Ring.Int.Defs

/-!
# Sending an operation behind a wait

A `W` message asks the backend to wait for a WAL position before it runs the operation
that follows.  The senders here put the `W` message and the messages of the operation into
the output buffer as one unit: nothing is flushed until the unit is complete, and when a
part cannot be built the positions of the buffer go back to where they were.

`PGconn` is the part of a connection that the senders read and write; `ρ` holds everything
else of it.  The functions of libpq that the senders call are in `LibPq`.  Positions in the
buffer past its end are never read, so its content is a function.
-/

namespace PolarProxy

namespace PolarWait

open Attempts ExtendedMessage

/-! ## Connection -/

/-- `PGpipelineStatus` -/
inductive PipelineStatus
  | off
  | on
  | aborted
  deriving DecidableEq

/-- `PGQueryClass` -/
inductive QueryClass
  | simple
  | extended
  | prepare
  | describe
  | sync
  | close
  deriving DecidableEq

/-- `PGcmdQueueEntry` -/
structure CmdQueueEntry where
  queryclass : QueryClass := .simple
  query : Option Text := none
  deriving DecidableEq

structure PGconn (ρ : Type) where
  outBuffer : Nat → UInt8
  outCount : Nat
  outMsgStart : Int
  outMsgEnd : Nat
  pipelineStatus : PipelineStatus
  cmdQueue : List CmdQueueEntry
  /-- trace: the bytes that left the front of the buffer, sent or discarded -/
  sent : List UInt8
  other : ρ

variable {ρ : Type}

/-- The content of the buffer before a position -/
def PGconn.upTo (conn : PGconn ρ) (n : Nat) : List UInt8 :=
  (List.range n).map conn.outBuffer

/-- The complete messages of the buffer -/
def PGconn.staged (conn : PGconn ρ) : List UInt8 :=
  conn.upTo conn.outCount

/-- A function of libpq that fails with `EOF` -/
abbrev Put (ρ : Type) : Type → Type :=
  Attempt (PGconn ρ)

/-- What the senders call of libpq. -/
structure LibPq (ρ : Type) where
  sendQueryStart : PGconn ρ → Bool × PGconn ρ
  allocCmdQueueEntry : PGconn ρ → Option CmdQueueEntry × PGconn ρ
  recycleCmdQueueEntry : CmdQueueEntry → PGconn ρ → PGconn ρ
  appendCmdQueueEntry : CmdQueueEntry → PGconn ρ → PGconn ρ
  putMsgStart : Char → Put ρ Unit
  putc : UInt8 → Put ρ Unit
  puts : Text → Put ρ Unit
  putInt : Int → Nat → Put ρ Unit
  putnchar : List UInt8 → Nat → Put ρ Unit
  pipelineFlush : PGconn ρ → Bool × PGconn ρ
  appendConnError : String → PGconn ρ → PGconn ρ
  /-- `strdup`, which may find no memory -/
  strdup : Text → PGconn ρ → Option Text

/-! ## Arguments -/

/-- The text without characters -/
def emptyText : Text where
  bytes := []
  noNul := List.not_mem_nil

/-- `PQ_QUERY_PARAM_MAX_LIMIT` -/
def queryParamMaxLimit : Int :=
  65535

/-- `pgPolarWaitSpec` -/
structure WaitSpec where
  targetLsn : UInt64
  timeoutMs : UInt32
  consistencyMode : Int
  deriving DecidableEq

/-- `PQ_POLAR_CONSISTENCY_BEST_EFFORT` -/
def consistencyBestEffort : Int :=
  0

/-- `PQ_POLAR_CONSISTENCY_STRICT` -/
def consistencyStrict : Int :=
  1

/-- `POLAR_WAIT_PROTOCOL_VERSION` -/
def waitProtocolVersion : Int :=
  1

/-- `POLAR_WAIT_PROTOCOL_FLAGS` -/
def waitProtocolFlags : Int :=
  0

/-- Conversion to `int` -/
def toInt32 (n : Nat) : Int :=
  (n : Int).bmod (2 ^ 32)

/-- The length of a parameter value: binary values need one, texts may have one.  `value` is what
can be read at the value's address. -/
def valueLength (paramLengths paramFormats : Option (Nat → Int)) (i : Nat) (value : List UInt8) :
    Option Int :=
  if (paramFormats.map fun formats => formats i).getD 0 ≠ 0 then
    paramLengths.map fun lengths => lengths i
  else
    match paramLengths.map fun lengths => lengths i with
    | some n => if 0 ≤ n then some n else some (toInt32 (value.takeWhile (· ≠ 0)).length)
    | none => some (toInt32 (value.takeWhile (· ≠ 0)).length)

/-- The arguments of a Bind message; a caller gives lengths, of type `int`, of values that it
can read. -/
structure BindArguments where
  nParams : Int
  paramValues : Option (Nat → Option (List UInt8))
  paramLengths : Option (Nat → Int)
  paramFormats : Option (Nat → Int)
  resultFormat : Int
  readable : ∀ values ∈ paramValues, ∀ i < nParams.toNat, ∀ value ∈ values i,
    ∀ n ∈ valueLength paramLengths paramFormats i value, 0 ≤ n ∧ n < 2 ^ 31 ∧ n ≤ value.length

/-! ## The output buffer -/

/-- `pgOutputBufferCheckpoint` -/
structure OutputBufferCheckpoint where
  outCount : Nat
  outMsgStart : Int
  outMsgEnd : Nat
  deriving DecidableEq

/-- `pqSaveOutputBufferCheckpoint` -/
def saveOutputBufferCheckpoint (conn : PGconn ρ) : OutputBufferCheckpoint where
  outCount := conn.outCount
  outMsgStart := conn.outMsgStart
  outMsgEnd := conn.outMsgEnd

/-- `pqRestoreOutputBufferCheckpoint` -/
def restoreOutputBufferCheckpoint (checkpoint : OutputBufferCheckpoint) (conn : PGconn ρ) :
    PGconn ρ :=
  { conn with
    outCount := checkpoint.outCount
    outMsgStart := checkpoint.outMsgStart
    outMsgEnd := checkpoint.outMsgEnd }

/-- Conversion of an `int` to `char` -/
def toByte (n : Int) : UInt8 :=
  UInt8.ofNat (n % 2 ^ 8).toNat

/-- The length word of the message that is being built -/
def lengthWord (conn : PGconn ρ) : List UInt8 :=
  be32 (((conn.outMsgEnd : Int) - conn.outMsgStart) % 2 ^ 32).toNat

/-- `memcpy` to a position of the buffer -/
def overwrite (start : Nat) (bytes : List UInt8) (buffer : Nat → UInt8) : Nat → UInt8 := fun i =>
  if start ≤ i then bytes[i - start]?.getD (buffer i) else buffer i

/-- `pqPutMsgEndNoFlush` -/
def putMsgEndNoFlush : Put ρ Unit :=
  Attempt.modify fun conn =>
    { conn with
      outBuffer :=
        if 0 ≤ conn.outMsgStart then
          overwrite conn.outMsgStart.toNat (lengthWord conn) conn.outBuffer
        else conn.outBuffer
      outCount := conn.outMsgEnd }

namespace LibPq

variable (lib : LibPq ρ)

/-- An error message before the attempt gives up -/
def fail (message : String) : Put ρ Unit :=
  Attempt.giveUp (lib.appendConnError message)

/-- `pqPutPolarWait` -/
def putPolarWait (wait : WaitSpec) : Put ρ Unit :=
  if wait.targetLsn = 0 then
    lib.fail "PolarDB proxy wait target LSN must be nonzero"
  else if wait.consistencyMode ≠ consistencyBestEffort ∧
      wait.consistencyMode ≠ consistencyStrict then
    lib.fail ("invalid PolarDB proxy wait consistency mode: " ++ toString wait.consistencyMode)
  else do
    lib.putMsgStart 'W'
    lib.putc (toByte waitProtocolVersion)
    lib.putc (toByte wait.consistencyMode)
    lib.putInt waitProtocolFlags 2
    lib.putInt (toInt32 wait.timeoutMs.toNat) 4
    lib.putInt (toInt32 (wait.targetLsn >>> 32).toNat) 4
    lib.putInt (toInt32 wait.targetLsn.toNat) 4
    putMsgEndNoFlush

/-! ## Messages -/

/-- An array that is counted, or none -/
def putArray (nParams : Int) (array : Option (Nat → Int)) (bytes : Nat) : Put ρ Unit :=
  match array with
  | some values =>
      if 0 < nParams then do
        lib.putInt nParams 2
        (List.range nParams.toNat).forM fun i => lib.putInt (values i) bytes
      else lib.putInt 0 2
  | none => lib.putInt 0 2

def putParse (stmtName query : Text) (nParams : Int) (paramTypes : Option (Nat → UInt32)) :
    Put ρ Unit := do
  lib.putMsgStart 'P'
  lib.puts stmtName
  lib.puts query
  lib.putArray nParams (paramTypes.map fun types i => toInt32 (types i).toNat) 4
  putMsgEndNoFlush

/-- The Parse message of a command, if there is one -/
def putCommand (command : Option Text) (stmtName : Text) (nParams : Int)
    (paramTypes : Option (Nat → UInt32)) : Put ρ Unit :=
  match command with
  | some command => lib.putParse stmtName command nParams paramTypes
  | none => pure ⟨⟩

def putValue (args : BindArguments) (i : Nat) : Put ρ Unit :=
  match args.paramValues.bind fun values => values i with
  | some value =>
      match valueLength args.paramLengths args.paramFormats i value with
      | some nbytes => do
          lib.putInt nbytes 4
          lib.putnchar value (nbytes % 2 ^ 64).toNat
      | none => lib.fail "length must be given for binary parameter"
  | none => lib.putInt (-1) 4

def putBind (stmtName : Text) (args : BindArguments) : Put ρ Unit := do
  lib.putMsgStart 'B'
  lib.puts emptyText
  lib.puts stmtName
  lib.putArray args.nParams args.paramFormats 2
  lib.putInt args.nParams 2
  (List.range args.nParams.toNat).forM (lib.putValue args)
  lib.putInt 1 2
  lib.putInt args.resultFormat 2
  putMsgEndNoFlush

def putDescribePortal : Put ρ Unit := do
  lib.putMsgStart 'D'
  lib.putc 'P'.toUInt8
  lib.puts emptyText
  putMsgEndNoFlush

def putExecute : Put ρ Unit := do
  lib.putMsgStart 'E'
  lib.puts emptyText
  lib.putInt 0 4
  putMsgEndNoFlush

/-- The Sync message, outside of pipeline mode -/
def putSync : Put ρ Unit := do
  let pipelineStatus ← Attempt.read PGconn.pipelineStatus
  if pipelineStatus = .off then do
    lib.putMsgStart 'S'
    putMsgEndNoFlush
  else pure ⟨⟩

/-! ## Senders -/

/-- The end of a sender: the first point that may publish what is staged. -/
def publishUnit (entry : CmdQueueEntry) (conn : PGconn ρ) : Bool × PGconn ρ :=
  match lib.pipelineFlush conn with
  | (false, conn) => (false, lib.recycleCmdQueueEntry entry conn)
  | (true, conn) => (true, lib.appendCmdQueueEntry entry conn)

/-- What the two senders share: the entry, the checkpoint, the messages and the flush. -/
def sendUnit (build : Put ρ Unit) (queryclass : QueryClass) (query : Option Text) (conn : PGconn ρ) :
    Bool × PGconn ρ :=
  match lib.allocCmdQueueEntry conn with
  | (none, conn) => (false, conn)
  | (some entry, conn) =>
      let checkpoint := saveOutputBufferCheckpoint conn
      match build conn with
      | (none, conn) =>
          (false, lib.recycleCmdQueueEntry entry (restoreOutputBufferCheckpoint checkpoint conn))
      | (some _, conn) =>
          let entry := { entry with queryclass }
          let entry := match query with
            | some query => { entry with query := lib.strdup query conn }
            | none => entry
          lib.publishUnit entry conn

/-- `PQsendPreparePolarWaitGuts` from the allocation on -/
def sendParseUnit (stmtName query : Text) (nParams : Int) (paramTypes : Option (Nat → UInt32))
    (wait : WaitSpec) : PGconn ρ → Bool × PGconn ρ :=
  lib.sendUnit (do
    lib.putPolarWait wait
    lib.putParse stmtName query nParams paramTypes
    lib.putSync) .prepare (some query)

/-- `PQsendQueryGutsPolarWait` -/
def sendQueryGutsPolarWait (command : Option Text) (stmtName : Text)
    (paramTypes : Option (Nat → UInt32)) (args : BindArguments) (wait : WaitSpec) :
    PGconn ρ → Bool × PGconn ρ :=
  lib.sendUnit (do
    lib.putPolarWait wait
    lib.putCommand command stmtName args.nParams paramTypes
    lib.putBind stmtName args
    lib.putDescribePortal
    lib.putExecute
    lib.putSync) .extended command

/-- A refusal before anything is built -/
def refuse (message : String) (conn : PGconn ρ) : Bool × PGconn ρ :=
  (false, lib.appendConnError message conn)

/-- The checks that the entry points make of a number of parameters -/
def checkParams (nParams : Int) (send : PGconn ρ → Bool × PGconn ρ) (conn : PGconn ρ) :
    Bool × PGconn ρ :=
  if nParams < 0 ∨ queryParamMaxLimit < nParams then
    lib.refuse ("number of parameters must be between 0 and " ++ toString queryParamMaxLimit) conn
  else send conn

def checkText (text : Option Text) (message : String)
    (send : Text → PGconn ρ → Bool × PGconn ρ) (conn : PGconn ρ) : Bool × PGconn ρ :=
  match text with
  | some text => send text conn
  | none => lib.refuse message conn

/-- `PQsendQueryStart` and what follows it -/
def started (send : PGconn ρ → Bool × PGconn ρ) (conn : PGconn ρ) : Bool × PGconn ρ :=
  match lib.sendQueryStart conn with
  | (false, conn) => (false, conn)
  | (true, conn) => send conn

/-- `PQsendPreparePolarWait` -/
def sendPreparePolarWait (stmtName query : Option Text) (nParams : Int)
    (paramTypes : Option (Nat → UInt32)) (wait : WaitSpec) : PGconn ρ → Bool × PGconn ρ :=
  lib.started (lib.checkText stmtName "statement name is a null pointer" fun stmtName =>
    lib.checkText query "command string is a null pointer" fun query =>
      lib.checkParams nParams (lib.sendParseUnit stmtName query nParams paramTypes wait))

/-- `PQsendQueryParamsPolarWait` -/
def sendQueryParamsPolarWait (command : Option Text) (paramTypes : Option (Nat → UInt32))
    (args : BindArguments) (wait : WaitSpec) : PGconn ρ → Bool × PGconn ρ :=
  lib.started (lib.checkText command "command string is a null pointer" fun command =>
    lib.checkParams args.nParams
      (lib.sendQueryGutsPolarWait (some command) emptyText paramTypes args wait))

/-- `PQsendQueryPreparedPolarWait` -/
def sendQueryPreparedPolarWait (stmtName : Option Text) (args : BindArguments)
    (wait : WaitSpec) : PGconn ρ → Bool × PGconn ρ :=
  lib.started (lib.checkText stmtName "statement name is a null pointer" fun stmtName =>
    lib.checkParams args.nParams
      (lib.sendQueryGutsPolarWait none stmtName none args wait))

end LibPq

/-! ## Trace of a `W` message -/

/-- The number in a field of network byte order -/
def ntoh (bytes : List UInt8) : Nat :=
  bytes.foldl (fun n b => n * 2 ^ 8 + b.toNat) 0

/-- What `pqTraceOutputPolarWait` prints of a `W` message -/
structure TracedWait where
  version : Nat
  mode : Nat
  flags : Nat
  timeoutMs : Nat
  targetLsn : Nat
  deriving DecidableEq

/-- `pqTraceOutputPolarWait`, called behind the length word of a message -/
def traceOutputPolarWait (message : List UInt8) : Option TracedWait :=
  let field (start size : Nat) : Nat := ntoh ((message.drop start).take size)
  if field 1 4 + 1 ≠ 5 + 16 then none
  else some
    { version := field 5 1
      mode := field 6 1
      flags := field 7 2
      timeoutMs := field 9 4
      targetLsn := field 13 8 }

end PolarWait

end PolarProxy
