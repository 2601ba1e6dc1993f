import PolarProxy.RowRuns

/-!
# The poll table of a worker thread

A table keeps for every connection its descriptor, its data stream and two timestamps in four
arrays of one size, of which the first `len` cells are used.  A stream keeps its index in the
table, and the table that it is in.  An entry is removed by moving the last one to its place, and
the arrays grow and shrink to powers of two.

Reads and writes outside of the arrays are faults.  The cells that `realloc` adds have any content.

**Results.** `add`, `updateFdAtIndex`, `removeIndexFast`, `removeDataStream`, `step`.
-/

namespace PolarProxy

namespace PollTable

open Loops RowRun

/-- An access outside of an array -/
inductive Fault
  | outsideArray
  deriving DecidableEq

/-- A computation whose accesses are checked -/
abbrev Checked (α : Type) :=
  Except (Stop Fault) α

/-- `struct pollfd`; the events are of type `short`. -/
structure PollFd where
  fd : Int
  events : BitVec 16
  revents : BitVec 16
  deriving DecidableEq

/-- The cells of the four arrays at an index -/
structure Entry (S : Type) where
  pollFd : PollFd
  myds : Option S
  lastRecv : Nat
  lastSent : Nat
  deriving DecidableEq

structure Poll (S : Type) where
  len : Nat
  size : Nat
  fds : List PollFd
  myds : List (Option S)
  lastRecv : List Nat
  lastSent : List Nat
  deriving DecidableEq

/-- What a stream keeps of the table that it is in -/
structure DataStream (P : Type) where
  pollFdsIdx : Int
  mypolls : Option P
  deriving DecidableEq

/-- A table and the streams of the process -/
structure State (S P : Type) where
  poll : Poll S
  stream : S → DataStream P

def minPollLen : Nat := 8

def minPollDeleteRatio : Nat := 8

variable {S P : Type} [DecidableEq S]

/-! ## Arrays -/

def readAt {α : Type} (xs : List α) (i : Nat) : Checked α :=
  match xs[i]? with
  | some a => .ok a
  | none => .error (.fault .outsideArray)

def writeAt {α : Type} (xs : List α) (i : Nat) (a : α) : Checked (List α) :=
  if i < xs.length then .ok (xs.set i a) else .error (.fault .outsideArray)

def realloc {α : Type} (xs : List α) (newSize : Nat) (fresh : Nat → α) : List α :=
  xs.take newSize ++ (List.range (newSize - xs.length)).map fresh

/-- A round of `l_near_pow_2` -/
def nearPow2Step (n i : Nat) : Checked (Nat × Bool) :=
  if i < n then .ok (i * 2 % 2 ^ 32, true) else .ok (i, false)

/-- `l_near_pow_2` -/
def lNearPow2 (fuel n : Nat) : Checked Nat := do
  let i ← loop (nearPow2Step n) fuel 1
  return if i ≠ 0 then i else n

namespace Poll

/-- The arrays of a new table are not initialized. -/
def new (fresh : Nat → Entry S) : Poll S where
  len := 0
  size := minPollLen
  fds := (List.range minPollLen).map fun i => (fresh i).pollFd
  myds := (List.range minPollLen).map fun i => (fresh i).myds
  lastRecv := (List.range minPollLen).map fun i => (fresh i).lastRecv
  lastSent := (List.range minPollLen).map fun i => (fresh i).lastSent

def resize (p : Poll S) (newSize : Nat) (fresh : Nat → Entry S) : Poll S where
  len := p.len
  size := newSize
  fds := realloc p.fds newSize fun i => (fresh i).pollFd
  myds := realloc p.myds newSize fun i => (fresh i).myds
  lastRecv := realloc p.lastRecv newSize fun i => (fresh i).lastRecv
  lastSent := realloc p.lastSent newSize fun i => (fresh i).lastSent

def shrink (fuel : Nat) (fresh : Nat → Entry S) (p : Poll S) : Checked (Poll S) := do
  let newSize ← lNearPow2 fuel ((p.len + 1) % 2 ^ 32)
  return p.resize newSize fresh

def expand (fuel : Nat) (fresh : Nat → Entry S) (more : Nat) (p : Poll S) : Checked (Poll S) :=
  if (p.len + more) % 2 ^ 32 > p.size then do
    let newSize ← lNearPow2 fuel ((p.len + more) % 2 ^ 32)
    return p.resize newSize fresh
  else return p

/-- Room for one more entry -/
def makeRoom (fuel : Nat) (fresh : Nat → Entry S) (p : Poll S) : Checked (Poll S) :=
  if p.len = p.size then p.expand fuel fresh 1 else return p

/-- The cells of the four arrays at an index are written. -/
def write (p : Poll S) (i : Nat) (e : Entry S) : Checked (Poll S) := do
  let myds ← writeAt p.myds i e.myds
  let fds ← writeAt p.fds i e.pollFd
  let lastRecv ← writeAt p.lastRecv i e.lastRecv
  let lastSent ← writeAt p.lastSent i e.lastSent
  return { p with
    fds := fds
    myds := myds
    lastRecv := lastRecv
    lastSent := lastSent }

/-- The cells of the four arrays at an index are read. -/
def read (p : Poll S) (i : Nat) : Checked (Entry S) := do
  let myds ← readAt p.myds i
  let pollFd ← readAt p.fds i
  let lastRecv ← readAt p.lastRecv i
  let lastSent ← readAt p.lastSent i
  return ⟨pollFd, myds, lastRecv, lastSent⟩

/-- The table without its last entry -/
def dropLast (fuel : Nat) (fresh : Nat → Entry S) (p : Poll S) : Checked (Poll S) :=
  let p : Poll S := { p with len := p.len - 1 }
  if p.len > minPollLen ∧ p.size > p.len * minPollDeleteRatio % 2 ^ 32 then p.shrink fuel fresh
  else return p

/-- The index -1 of the callers, or one behind the entries -/
def isOutside (p : Poll S) (i : Nat) : Bool :=
  i = 2 ^ 32 - 1 ∨ i ≥ p.len

/-- The rounds of `find_data_stream` that are left, from an index on -/
def findFrom (p : Poll S) (s : S) : Nat → Nat → Checked Int
  | 0, _ => .ok (-1)
  | rounds + 1, i => do
      if (← readAt p.myds i) = some s then return wrapInt i
      else p.findFrom s rounds (i + 1)

/-- `find_data_stream` -/
def findDataStream (p : Poll S) (s : S) : Checked Int :=
  p.findFrom s p.len 0

end Poll

/-! ## Operations -/

namespace State

def setStream (st : State S P) (s : Option S) (ds : DataStream P → DataStream P) : State S P :=
  match s with
  | some s => { st with stream := Function.update st.stream s (ds (st.stream s)) }
  | none => st

/-- `add` -/
def add (this : P) (fuel : Nat) (fresh : Nat → Entry S) (events : BitVec 32) (fd : Int)
    (myds : Option S) (now sentTime : Nat) (st : State S P) : Checked (State S P) := do
  let p ← st.poll.makeRoom fuel fresh
  let p' ← p.write p.len ⟨⟨fd, events.setWidth 16, 0⟩, myds, now, sentTime⟩
  let st := st.setStream myds fun _ => ⟨wrapInt p.len, some this⟩
  return { st with poll := { p' with len := (p.len + 1) % 2 ^ 32 } }

/-- `update_fd_at_index` -/
def updateFdAtIndex (idx : Nat) (fd : Int) (st : State S P) : Checked (State S P) :=
  if st.poll.isOutside idx then return st
  else do
    let pollFd ← readAt st.poll.fds idx
    let fds ← writeAt st.poll.fds idx { pollFd with fd := fd }
    return { st with poll := { st.poll with fds := fds } }

/-- The last entry takes the place of another one. -/
def moveLast (i : Nat) (st : State S P) : Checked (State S P) :=
  if i ≠ st.poll.len - 1 then do
    let last ← st.poll.read (st.poll.len - 1)
    let p ← st.poll.write i last
    let st : State S P := { st with poll := p }
    return st.setStream last.myds fun ds => { ds with pollFdsIdx := wrapInt i }
  else return st

/-- `remove_index_fast` -/
def removeIndexFast (fuel : Nat) (fresh : Nat → Entry S) (i : Nat) (st : State S P) :
    Checked (State S P) :=
  if st.poll.isOutside i then return st
  else do
    let removed ← readAt st.poll.myds i
    let st ← (st.setStream removed fun _ => ⟨-1, none⟩).moveLast i
    let p ← st.poll.dropLast fuel fresh
    return { st with poll := p }

/-- The index that a stream keeps, where it is the index of the stream -/
def cachedIndex (s : S) (st : State S P) : Checked Int :=
  let cached := (st.stream s).pollFdsIdx
  if cached ≥ 0 ∧ cached.toNat < st.poll.len then do
    if (← readAt st.poll.myds cached.toNat) = some s then return cached else return -1
  else return -1

/-- The index of a stream, by the one that it keeps or by a search -/
def indexOf (s : S) (st : State S P) : Checked Int := do
  let cached ← st.cachedIndex s
  if cached < 0 then st.poll.findDataStream s else return cached

/-- `remove_data_stream` -/
def removeDataStream (fuel : Nat) (fresh : Nat → Entry S) (myds : Option S) (st : State S P) :
    Checked (State S P) :=
  match myds with
  | none => return st
  | some s => do
      let idx ← st.indexOf s
      if idx ≥ 0 then st.removeIndexFast fuel fresh idx.toNat
      else return st.setStream (some s) fun _ => ⟨-1, none⟩

end State

/-- The operations.  Before `remove_data_stream` other code may have written the fields of the
stream. -/
inductive Op (S P : Type)
  | add (events : BitVec 32) (fd : Int) (myds : Option S) (now sentTime : Nat)
  | updateFdAtIndex (idx : Nat) (fd : Int)
  | removeIndexFast (i : Nat)
  | removeDataStream (myds : Option S) (stale : DataStream P → DataStream P)

/-- An operation on the table -/
def step (this : P) (fuel : Nat) (fresh : Nat → Entry S) (st : State S P) :
    Op S P → Checked (State S P)
  | .add events fd myds now sentTime => st.add this fuel fresh events fd myds now sentTime
  | .updateFdAtIndex idx fd => st.updateFdAtIndex idx fd
  | .removeIndexFast i => st.removeIndexFast fuel fresh i
  | .removeDataStream myds stale => (st.setStream myds stale).removeDataStream fuel fresh myds

end PollTable

end PolarProxy
