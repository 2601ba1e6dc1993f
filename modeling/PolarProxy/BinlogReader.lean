import PolarProxy.GtidSet

/-!
# The binlog reader connection

A server sends the transaction ids it has executed over a socket, one message a line.
`readall` appends what a read returns to a buffer that grows, `dump` handles every complete
line of the buffer and moves the rest to its front, and the callback of the socket closes the
connection when a line was rejected.

The buffer has the bytes up to `len`; the bytes behind them are not read.  Lines are copied to
scratch arrays of fixed size: a write outside of one of them, and a read of bytes that were
not written, are faults.
-/

namespace PolarProxy

namespace BinlogReader

/-- What the language leaves undefined. -/
inductive Fault where
  /-- a write outside of `rec_msg` -/
  | recMsg
  /-- a write outside of `uuid_server` -/
  | uuidServer
  /-- a read of bytes of `rec_msg` that were not written -/
  | unwritten
  deriving DecidableEq

/-- The size of `rec_msg` -/
def recMsgSize : Nat := 80

/-- The size of `uuid_server` -/
def uuidServerSize : Nat := 64

/-- What the lines change. -/
structure Progress where
  gtidExecuted : GtidSet := {}
  uuidServer : List Char := []
  eventsRead : Nat := 0
  active : Bool := true

/-- `GTID_Server_Data`, with the data up to `len` -/
structure GtidServerData where
  data : List Char := []
  size : Nat := 1024
  pos : Nat := 0
  progress : Progress := {}

/-! ## Lines -/

/-- The tokens of `strtok_r` with one separator -/
def strtok (sep : Char) (s : List Char) : List (List Char) :=
  (s.splitOn sep).filter (· ≠ [])

/-- `atoll` -/
def atoll (s : List Char) : TrxId :=
  let s := s.dropWhile isSpace
  let negative := s.head? = some '-'
  let digits := if s.head? = some '-' ∨ s.head? = some '+' then s.drop 1 else s
  let value : Int := TrxIdInterval.digitsValue (digits.takeWhile Char.isDigit)
  let signed : Int := if negative then -value else value
  ⟨max minTrxId (min signed maxTrxId), le_max_left _ _,
    max_le (by decide) (min_le_right _ _)⟩

namespace Progress

variable (s : Progress)

/-- A uuid is copied to `uuid_server`, with its NUL. -/
def setUuid (uuid : List Char) : Except Fault Progress :=
  if uuid.length < uuidServerSize then .ok { s with uuidServer := uuid } else .error .uuidServer

/-- `gtid_executed.add`, with the uuid that is remembered -/
def addGtid (arg : GtidArg) : Bool × Progress :=
  let added := s.gtidExecuted.add s.uuidServer arg
  (added.1, { s with gtidExecuted := added.2 })

/-- `events_read++` -/
def countEvent : Progress :=
  { s with eventsRead := s.eventsRead + 1 }

/-- An invalid message. -/
def deactivate : Progress :=
  { s with active := false }

/-- The loop over the parts of one element of a bootstrap message: uuids and intervals in
turn.  The results tell whether the set was updated, and whether the element is valid. -/
def readPairs (updated : Bool) : List (List Char) → Progress → Except Fault (Progress × Bool × Bool)
  | [], s => .ok (s, updated, true)
  | [uuid], s => do
      let s ← s.setUuid (uuid.filter (· ≠ '-'))
      return (s, updated, false)
  | uuid :: trxid :: rest, s => do
      let s ← s.setUuid (uuid.filter (· ≠ '-'))
      match TrxIdInterval.parse trxid with
      | none => return (s, updated, false)
      | some iv =>
          let (added, s) := s.addGtid (.interval iv)
          readPairs (added || updated) rest s

/-- The loop over the elements of a bootstrap message. -/
def readElements (updated : Bool) : List (List Char) → Progress → Except Fault (Progress × Bool × Bool)
  | [], s => .ok (s, updated, true)
  | token :: rest, s => do
      let subtokens := strtok ':' token
      let (s, updated, valid) ← readPairs updated subtokens s
      if valid && !subtokens.isEmpty then readElements updated rest s
      else return (s, updated, false)

/-- A bootstrap message; `true` when the next line may be read. -/
def readBootstrap (line : List Char) : Except Fault (Progress × Bool) := do
  let (s, updated, valid) ← readElements false (strtok ',' (cString (line.drop 3))) s
  if valid then return (if updated then s.countEvent else s, true)
  else return (s.deactivate, false)

/-- The part of a text before a colon, and the part after it. -/
def splitColon (s : List Char) : Option (List Char × List Char) :=
  match s.dropWhile (· ≠ ':') with
  | [] => none
  | _ :: rest => some (s.takeWhile (· ≠ ':'), rest)

/-- The text at `rec_msg + 3` -/
def payload (line : List Char) : Except Fault (List Char) :=
  if line.length < 3 then .error .unwritten else .ok ((cString line).drop 3)

/-- A line that is not a bootstrap message. -/
def readRecord (line : List Char) : Except Fault (Progress × Bool) := do
  if line.length ≥ recMsgSize then throw .recMsg
  let recMsg := cString line
  if recMsg.head? ≠ some 'I' then return (s, true)
  match recMsg[1]? with
  | some '1' =>
      match splitColon (← payload line) with
      | none => return (s.deactivate, false)
      | some (uuid, rest) =>
          let s ← s.setUuid uuid
          return ((s.addGtid (.id (atoll rest))).2.countEvent, true)
  | some '2' =>
      let rest ← payload line
      return ((s.addGtid (.id (atoll rest))).2.countEvent, true)
  | some '3' =>
      match splitColon (← payload line) with
      | none => return (s.deactivate, false)
      | some (uuid, rest) =>
          let s ← s.setUuid uuid
          match TrxIdInterval.parse rest with
          | none => return (s.deactivate, false)
          | some iv => return ((s.addGtid (.interval iv)).2.countEvent, true)
  | some '4' =>
      match TrxIdInterval.parse (← payload line) with
      | none => return (s.deactivate, false)
      | some iv => return ((s.addGtid (.interval iv)).2.countEvent, true)
  | _ => return (s.deactivate, false)

/-- One line; `true` when the next one may be read. -/
def handleLine (line : List Char) : Except Fault (Progress × Bool) :=
  if line.take 3 = ['S', 'T', '='] then s.readBootstrap line else s.readRecord line

end Progress

/-! ## The buffer -/

/-- What `read` returns. -/
inductive ReadResult where
  | bytes (n : Nat)
  | again
  | eof
  | failed
  deriving DecidableEq

namespace GtidServerData

variable (sd : GtidServerData)

/-- `read_next_gtid` -/
def readNextGtid : Except Fault (GtidServerData × Bool) :=
  if sd.data.length = 0 then .ok (sd, false)
  else
    let unread := sd.data.drop sd.pos
    if '\n' ∈ unread then do
      let line := unread.takeWhile (· ≠ '\n')
      let (progress, more) ← sd.progress.handleLine line
      return ({ sd with pos := sd.pos + (line.length + 1), progress := progress }, more)
    else .ok (sd, false)

/-- `read_all_gtids`, with a bound on its rounds -/
def readAllGtids : Nat → GtidServerData → Except Fault GtidServerData
  | 0, sd => .ok sd
  | rounds + 1, sd => do
      let (sd, more) ← sd.readNextGtid
      if more then readAllGtids rounds sd else return sd

/-- `dump`; every round of its loop takes a byte of the buffer at least. -/
def dump : Except Fault GtidServerData :=
  if sd.data.length = 0 then .ok sd
  else do
    let sd ← readAllGtids (sd.data.length + 1) sd
    if sd.pos ≥ sd.data.length / 2 then return { sd with data := sd.data.drop sd.pos, pos := 0 }
    else return sd

/-- The buffer is expanded when it is full. -/
def expand : GtidServerData :=
  if sd.size = sd.data.length then { sd with size := sd.data.length * 2 } else sd

/-- `readall`, on the bytes that wait at the socket: the bytes that wait afterwards, and the
result.  A read returns as many bytes as fit at most. -/
def readall (socket : List Char) : ReadResult → GtidServerData × List Char × Bool
  | .bytes n =>
      let sd := sd.expand
      let room := sd.size - sd.data.length
      ({ sd with data := sd.data ++ socket.take (min n room) }, socket.drop (min n room), true)
  | .again => (sd.expand, socket, true)
  | .eof => (sd.expand, socket, false)
  | .failed => (sd.expand, socket, false)

/-- `reader_cb`, which is not called again once the connection is closed -/
def readerCb (conn : GtidServerData × List Char) (result : ReadResult) :
    Except Fault (GtidServerData × List Char) :=
  if conn.1.progress.active then
    match conn.1.readall conn.2 result with
    | (sd, socket, true) => do
        let sd ← sd.dump
        return (sd, socket)
    | (sd, socket, false) => .ok ({ sd with progress := sd.progress.deactivate }, socket)
  else .ok conn

def readStream (stream : List Char) (results : List ReadResult) :
    Except Fault (GtidServerData × List Char) :=
  results.foldlM readerCb ({}, stream)

end GtidServerData

end BinlogReader

end PolarProxy
