import Mathlib.Algebra.GroupWithZero.Nat
import Mathlib.Data.List.TakeWhile
import Mathlib.Tactic.Common

/-!
# Extended query messages

The parsers of Parse, Describe, Close, Bind and Execute messages and the readers of their
fields.  A packet is a list of bytes, and a pointer into it is an offset; a read outside of
the packet is a failure of its own.

The size of a packet is of type `unsigned int`.  Sums with a `size_t` do not wrap; the sum of
the 32-bit offset and the 32-bit length of a parameter value does.
-/

namespace PolarProxy

namespace ExtendedMessage

/-- Why a parser or a reader stops. -/
inductive Failure where
  | outside
  | malformed
  deriving DecidableEq

/-- `PGSQL_PARAM_NULL` -/
def pgsqlParamNull : Nat := 0xFFFFFFFF

/-- `INT32_MAX` -/
def int32Max : Nat := 2 ^ 31 - 1

/-- Sums of type `uint32_t` -/
def wrap32 (n : Nat) : Nat :=
  n % 2 ^ 32

/-! ## Reads -/

section Reads

variable (p : List UInt8)

def byteAt (i : Nat) : Except Failure UInt8 :=
  match p[i]? with
  | some b => .ok b
  | none => .error .outside

/-- `get_uint16be` -/
def getUint16be (i : Nat) : Except Failure Nat := do
  let b₀ ← byteAt p i
  let b₁ ← byteAt p (i + 1)
  return b₀.toNat * 2 ^ 8 + b₁.toNat

/-- `get_uint32be` -/
def getUint32be (i : Nat) : Except Failure Nat := do
  let b₀ ← byteAt p i
  let b₁ ← byteAt p (i + 1)
  let b₂ ← byteAt p (i + 2)
  let b₃ ← byteAt p (i + 3)
  return b₀.toNat * 2 ^ 24 + b₁.toNat * 2 ^ 16 + b₂.toNat * 2 ^ 8 + b₃.toNat

/-- `strnlen`, which reads up to a NUL or `max` bytes -/
def strnlen (i max : Nat) : Except Failure Nat :=
  let bytes := (p.drop i).take max
  let len := (bytes.takeWhile fun b => b ≠ 0).length
  if len < bytes.length ∨ bytes.length = max then .ok len else .error .outside

/-- `return false` unless a condition holds. -/
def check (c : Prop) [Decidable c] : Except Failure Unit :=
  if c then .ok () else .error .malformed

/-! ## Parts of messages -/

/-- The type byte and the length of a message; the offset of what follows. -/
def readHeader (type : UInt8) : Except Failure Nat := do
  check (p.length ≠ 0)
  check (¬ p.length < 5)
  let packetType ← byteAt p 0
  check (packetType = type)
  let payloadLen ← getUint32be p 1
  check (payloadLen = p.length - 1)
  return 5

/-- A string that a NUL ends; the offset of what follows. -/
def readText (offset : Nat) : Except Failure Nat := do
  check (¬ offset ≥ p.length)
  let len ← strnlen p offset (p.length - offset)
  check (¬ offset + len ≥ p.length)
  return offset + len + 1

/-- A counted array of fields: their number, and their place unless there are none. -/
structure Fields where
  count : Nat
  start : Option Nat
  deriving DecidableEq

/-- A counted array of fields of one size, and the offset of what follows. -/
def readFields (size offset : Nat) : Except Failure (Fields × Nat) := do
  check (¬ offset + 2 > p.length)
  let count ← getUint16be p offset
  if count > 0 then
    check (¬ offset + 2 + count * size > p.length)
    return (⟨count, some (offset + 2)⟩, offset + 2 + count * size)
  else
    return (⟨count, none⟩, offset + 2)

/-- The loop over the parameter values of a Bind message. -/
def skipValues : Nat → Nat → Except Failure Nat
  | 0, offset => return offset
  | n + 1, offset => do
      check (¬ offset + 4 > p.length)
      let len ← getUint32be p offset
      if len ≠ pgsqlParamNull then
        check (¬ wrap32 (offset + 4 + len) > p.length)
        skipValues n (wrap32 (offset + 4 + len))
      else
        skipValues n (offset + 4)

/-- The counted parameter values of a Bind message, and the offset of what follows. -/
def readValues (offset : Nat) : Except Failure (Fields × Nat) := do
  check (¬ offset + 2 > p.length)
  let count ← getUint16be p offset
  if count > 0 then
    let next ← skipValues p count (offset + 2)
    return (⟨count, some (offset + 2)⟩, next)
  else
    return (⟨count, none⟩, offset + 2)

/-- The type of what a Describe or Close message names, and the offset of what follows. -/
def readStmtType (offset : Nat) : Except Failure (UInt8 × Nat) := do
  check (¬ offset ≥ p.length)
  let stmtType ← byteAt p offset
  check (stmtType = 'S'.toUInt8 ∨ stmtType = 'P'.toUInt8)
  return (stmtType, offset + 1)

end Reads

/-! ## Messages -/

/-- `PgSQL_Parse_Data` -/
structure ParseData where
  stmtName : Nat
  queryString : Nat
  paramTypes : Fields
  deriving DecidableEq

/-- `PgSQL_Describe_Data` and `PgSQL_Close_Data` -/
structure TargetData where
  stmtType : UInt8
  stmtName : Nat
  deriving DecidableEq

/-- `PgSQL_Bind_Data` -/
structure BindData where
  portalName : Nat
  stmtName : Nat
  paramFormats : Fields
  paramValues : Fields
  resultFormats : Fields
  deriving DecidableEq

/-- `PgSQL_Execute_Data` -/
structure ExecuteData where
  portalName : Nat
  maxRows : Nat
  deriving DecidableEq

section Messages

variable (p : List UInt8)

/-- `PgSQL_Parse_Message::parse` -/
def parseParse : Except Failure ParseData := do
  let stmtName ← readHeader p 'P'.toUInt8
  let queryString ← readText p stmtName
  let offset ← readText p queryString
  let (paramTypes, offset) ← readFields p 4 offset
  check (offset = p.length)
  return { stmtName, queryString, paramTypes }

/-- `parse` of Describe and Close messages, by their type. -/
def parseTarget (type : UInt8) : Except Failure TargetData := do
  let offset ← readHeader p type
  let (stmtType, stmtName) ← readStmtType p offset
  let offset ← readText p stmtName
  check (offset = p.length)
  return { stmtType, stmtName }

/-- `PgSQL_Describe_Message::parse` -/
def parseDescribe : Except Failure TargetData :=
  parseTarget p 'D'.toUInt8

/-- `PgSQL_Close_Message::parse` -/
def parseClose : Except Failure TargetData :=
  parseTarget p 'C'.toUInt8

/-- `PgSQL_Bind_Message::parse` -/
def parseBind : Except Failure BindData := do
  let portalName ← readHeader p 'B'.toUInt8
  let stmtName ← readText p portalName
  let offset ← readText p stmtName
  let (paramFormats, offset) ← readFields p 2 offset
  let (paramValues, offset) ← readValues p offset
  let (resultFormats, offset) ← readFields p 2 offset
  check (offset = p.length)
  return { portalName, stmtName, paramFormats, paramValues, resultFormats }

/-- `PgSQL_Execute_Message::parse` -/
def parseExecute : Except Failure ExecuteData := do
  let portalName ← readHeader p 'E'.toUInt8
  let offset ← readText p portalName
  check (¬ offset + 4 > p.length)
  let maxRows ← getUint32be p offset
  check (offset + 4 = p.length)
  return { portalName, maxRows }

end Messages

/-- What a call of `parse` leaves: its result, the message, and the packet of the caller. -/
structure Received (D : Type) where
  result : Bool
  message : Option (D × List UInt8)
  caller : List UInt8

/-- A call of `parse`: the message takes the packet over when it has been parsed. -/
def receive {D : Type} (parse : List UInt8 → Except Failure D) (pkt : List UInt8) : Received D :=
  match parse pkt with
  | .ok data => { result := true, message := some (data, pkt), caller := [] }
  | .error _ => { result := false, message := none, caller := pkt }

/-! ## Readers of fields -/

/-- `PgSQL_Field_Reader` -/
structure FieldReader where
  current : Option Nat
  remaining : Nat
  deriving DecidableEq

def Fields.reader (f : Fields) : FieldReader :=
  ⟨f.start, f.count⟩

/-- `value` of `PgSQL_Param_Value` -/
inductive ValuePtr where
  | null
  | emptyString
  | at (offset : Nat)
  deriving DecidableEq

/-- `PgSQL_Param_Value` -/
structure ParamValue where
  len : Int
  value : ValuePtr
  deriving DecidableEq

/-- A read through a pointer. -/
def readCurrent {α : Type} (read : Nat → Except Failure α) (current : Option Nat) :
    Except Failure (Nat × α) :=
  match current with
  | none => .error .outside
  | some offset => do
      let a ← read offset
      return (offset, a)

/-- `next` for fields that are numbers; `none` is the result `false`. -/
def nextUint (read : Nat → Except Failure Nat) (size : Nat) (r : FieldReader) :
    Except Failure (Option (Nat × FieldReader)) := do
  if r.remaining = 0 then return none
  let (offset, n) ← readCurrent read r.current
  return some (n, ⟨some (offset + size), r.remaining - 1⟩)

/-- `next` for parameter values -/
def nextValue (p : List UInt8) (r : FieldReader) :
    Except Failure (Option (ParamValue × FieldReader)) := do
  if r.remaining = 0 then return none
  let (offset, len) ← readCurrent (getUint32be p) r.current
  if len ≠ pgsqlParamNull ∧ len > int32Max then return none
  else if len = pgsqlParamNull then
    return some (⟨-1, .null⟩, ⟨some (offset + 4), r.remaining - 1⟩)
  else if len = 0 then
    return some (⟨0, .emptyString⟩, ⟨some (offset + 4), r.remaining - 1⟩)
  else
    return some (⟨len, .at (offset + 4)⟩, ⟨some (offset + 4 + len), r.remaining - 1⟩)

/-- The fields that a reader gives in `n` calls of `next`, if each succeeds. -/
def readAll {α : Type} (next : FieldReader → Except Failure (Option (α × FieldReader))) :
    Nat → FieldReader → Except Failure (Option (List α))
  | 0, _ => return some []
  | n + 1, r => do
      match ← next r with
      | none => return none
      | some (a, r') =>
          let rest ← readAll next n r'
          return rest.map (a :: ·)

end ExtendedMessage

end PolarProxy
