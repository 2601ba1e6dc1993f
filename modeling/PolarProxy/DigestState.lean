import Mathlib.Tactic.Common
import PolarProxy.Text
import PolarProxy.Library.Loops
import PolarProxy.Library.Memory

/-!
# What the query digest works on

The digest of a query is computed in a buffer of `d_max_len` characters and a terminator.  The
query is read character by character; it may be read up to its terminator.  Two more buffers hold
comments: `cur_cmd_cmnt`, which collects a comment that is kept, and the buffer of the first
comment of the query, which is allocated when that comment begins.

A pointer into one of these texts is the distance from its start, and NULL is `none`.  Every
access is checked: what leaves its text is a fault, and the computation stops there.

**Definitions.**
* `readQuery`: the query may be read up to its terminator.
* `DigestSt.writeRes`, `DigestSt.readRes`: the result, up to its terminator.
-/

namespace PolarProxy

namespace Tokenizer

open Loops Memory

/-- An access that leaves its text, or a failed assertion -/
inductive Fault
  | queryRead
  | resultRead
  | resultWrite
  | curCmdCmntWrite
  | firstCommentWrite
  | firstCommentAssertion
  deriving DecidableEq

/-- A computation whose accesses are checked -/
abbrev Checked (α : Type) :=
  Except (Stop Fault) α

/-- `&&`: the right side is evaluated behind a left side that is true. -/
def both (a b : Checked Bool) : Checked Bool := do
  if ← a then b else return false

/-! ## Characters -/

/-- The character that ends a text. -/
def nul : Char :=
  '\x00'

/-- A letter, a digit or an underscore: a character of a dollar quote's tag -/
def isTagChar (c : Char) : Bool :=
  ('a' ≤ c && c ≤ 'z') || ('A' ≤ c && c ≤ 'Z') || ('0' ≤ c && c ≤ '9') || c == '_'

/-- A character of a name -/
def isNormalChar (c : Char) : Bool :=
  isTagChar c || c == '$'

/-- Any other character -/
def isTokenChar (c : Char) : Bool :=
  !isNormalChar c

def isSpaceChar (c : Char) : Bool :=
  c == ' ' || c == '\t' || c == '\n' || c == '\r'

def isDigitChar (c : Char) : Bool :=
  '0' ≤ c && c ≤ '9'

def isHexChar (c : Char) : Bool :=
  isDigitChar c || ('a' ≤ c && c ≤ 'f') || ('A' ≤ c && c ≤ 'F')

def isArithmeticOp (op : Char) : Bool :=
  op == '+' || op == '-' || op == '*' || op == '/' || op == '%'

/-! ## The query -/

/-- The character at a position of the query: its terminator behind the last one. -/
def char (q : List Char) (pos : Nat) : Char :=
  q.getD pos nul

def readQuery (q : List Char) (pos : Nat) : Checked Char :=
  if pos ≤ q.length then .ok (char q pos) else .error (.fault .queryRead)

/-- The character at a position is `c`. -/
def isAt (q : List Char) (pos : Nat) (c : Char) : Checked Bool := do
  return (← readQuery q pos) == c

/-- The character at a position is `c` in lower case. -/
def isLowerAt (q : List Char) (pos : Nat) (c : Char) : Checked Bool := do
  return (← readQuery q pos).toLower == c

/-- The characters from a position on are `word` in lower case. -/
def isWordAt (q : List Char) : Nat → List Char → Checked Bool
  | _, [] => .ok true
  | pos, c :: word => both (isLowerAt q pos c) (isWordAt q (pos + 1) word)

/-- The character at a position, or NUL behind the query. -/
def peek (q : List Char) (pos : Nat) : Checked Char :=
  if pos < q.length then readQuery q pos else .ok nul

/-- `memcmp` of two stretches of the query. -/
def sameBytes (q : List Char) (i j n : Nat) : Checked Bool :=
  if i + n ≤ q.length ∧ j + n ≤ q.length then .ok ((q.drop i).take n == (q.drop j).take n)
  else .error (.fault .queryRead)

/-- The first position from `pos` on whose character is not an `f`, among the next `rem`. -/
def skipWhile (q : List Char) (f : Char → Bool) : Nat → Nat → Checked Nat
  | 0, pos => .ok pos
  | rem + 1, pos => do
      if f (← readQuery q pos) then skipWhile q f rem (pos + 1) else return pos

/-! ## The state -/

structure Options where
  lowercase : Bool := false
  replaceNull : Bool := false
  replaceNumber : Bool := false
  keepComment : Bool := false
  groupingLimit : Nat := 3
  groupsGroupingLimit : Nat := 10
  maxQueryLength : Nat := 65000
  deriving DecidableEq

/-- `FIRST_COMMENT_MAX_LENGTH` -/
def firstCommentMaxLength : Nat :=
  1024

/-- What the first stage is parsing -/
inductive ParseSt
  | noMarkFound
  | cmntType1
  | cmntType2
  | literalString
  | literalNumber
  | replaceNull
  | dollarQuoteString
  | pgTypecast
  | literalPrefixType
  | replaceBoolean
  | arrayLiteral
  | quotedIdentifier
  deriving DecidableEq

/-- A comment between `/*` and `*/` -/
structure CmntType1St where
  curCmdCmntLen : Nat := 0
  fstCmntEnd : Bool := false
  fstCmntLen : Nat := 0
  nestLevel : Nat := 0
  deriving DecidableEq

structure LiteralStringSt where
  delimNum : Bool := false
  delimChar : Char := nul
  qStartPos : Option Nat := none
  isUnicode : Bool := false
  deriving DecidableEq

structure QuotedIdentifierSt where
  delimNum : Bool := false
  delimChar : Char := nul
  qStartPos : Option Nat := none
  deriving DecidableEq

/-- A number -/
structure LiteralDigitSt where
  firstDigit : Bool := true
  startPos : Option Nat := none
  deriving DecidableEq

structure DollarQuoteStringSt where
  tagStart : Option Nat := none
  tagLen : Nat := 0
  deriving DecidableEq

structure StageSt where
  preItPos : Option Nat := none
  cOffset : Int := 0
  deriving DecidableEq

/-- The state of all stages.  `st` is the state of the first stage also while its loop runs, which
keeps it in a variable of its own. -/
structure DigestSt (dMaxLen : Nat) where
  glCOffset : Int := 0
  qCurPos : Nat := 0
  res : Block Char (dMaxLen + 1)
  resItInitPos : Nat := 0
  resCurPos : Nat := 0
  resPrePos : Nat := 0
  st : ParseSt := .noMarkFound
  prevChar : Char := nul
  keepPrevChar : Bool := false
  copyNext : Bool := false
  cmntType1St : CmntType1St := {}
  literalStrSt : LiteralStringSt := {}
  literalDigSt : LiteralDigitSt := {}
  dollarQuoteStrSt : DollarQuoteStringSt := {}
  pgTcStarted : Bool := false
  bracketDepth : Nat := 0
  quotedIdenSt : QuotedIdentifierSt := {}
  preItPos : Nat := 0
  newEndPos : Option Nat := none
  stage2 : StageSt := {}
  stage3 : StageSt := {}
  stage4 : StageSt := {}
  curCmdCmnt : Block Char firstCommentMaxLength
  fstCmnt : Option (Block Char firstCommentMaxLength) := none
  deriving DecidableEq

namespace DigestSt

variable {dMaxLen : Nat}

def readRes (s : DigestSt dMaxLen) (pos : Int) : Checked Char :=
  match s.res.read pos with
  | some c => .ok c
  | none => .error (.fault .resultRead)

def writeRes (s : DigestSt dMaxLen) (pos : Nat) (c : Char) : Checked (DigestSt dMaxLen) :=
  match s.res.write pos c with
  | some res => .ok { s with res := res }
  | none => .error (.fault .resultWrite)

/-- `*res_cur_pos++ = c` -/
def emit (s : DigestSt dMaxLen) (c : Char) : Checked (DigestSt dMaxLen) := do
  let s ← s.writeRes s.resCurPos c
  return { s with resCurPos := s.resCurPos + 1 }

/-- The replacement mark, in the place of what was copied since the mark was found. -/
def emitMark (s : DigestSt dMaxLen) : Checked (DigestSt dMaxLen) :=
  emit { s with resCurPos := s.resPrePos } '?'

/-- A number of characters of the query are behind. -/
def advance (s : DigestSt dMaxLen) (n : Nat) : DigestSt dMaxLen :=
  { s with qCurPos := s.qCurPos + n }

/-- `inc_proc_pos` -/
def incProcPos (s : DigestSt dMaxLen) (q : List Char) : Checked (DigestSt dMaxLen) := do
  if s.keepPrevChar = false then
    let c ← readQuery q s.qCurPos
    return { s with prevChar := c }.advance 1
  else
    return { s with keepPrevChar := false }.advance 1

/-- `copy_next_char` -/
def copyNextChar (s : DigestSt dMaxLen) (q : List Char) (opts : Options) :
    Checked (DigestSt dMaxLen) := do
  let c ← readQuery q s.qCurPos
  let s ← s.emit (if isSpaceChar c then ' ' else if opts.lowercase then c.toLower else c)
  s.incProcPos q

end DigestSt

end Tokenizer

end PolarProxy
