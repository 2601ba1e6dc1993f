import PolarProxy.DigestState

/-!
# The first stage of the query digest

The first stage copies the query to the result and replaces its values by marks.  Its loop is in a
parsing state.  In the neutral state the next character decides which state is entered, without
being consumed; every other state has a function that consumes characters and says which state
comes next.

**Results.** `getNextSt`, `processCmntType1`, `processQuotedIdentifier`, `stage1Step`.
-/

namespace PolarProxy

namespace Tokenizer

open Loops Memory

variable (q : List Char) (opts : Options) {dMaxLen : Nat}

/-! ## Selecting a state -/

/-- A comment begins with its initial mark and one more character. -/
def startsCmntType1 (pos : Nat) : Checked Bool :=
  both (return pos + 2 < q.length) (both (isAt q pos '/') (isAt q (pos + 1) '*'))

def startsCmntType2 (pos : Nat) : Checked Bool :=
  both (isAt q pos '-') (both (return pos + 1 < q.length) (isAt q (pos + 1) '-'))

/-- Behind the dollar sign at `pos` there is a tag with another dollar sign. -/
def startsDollarQuoteString (pos : Nat) : Checked Bool := do
  let p ← skipWhile q isTagChar (q.length - (pos + 1)) (pos + 1)
  both (return p < q.length) (isAt q p '$')

/-- Behind `ARRAY` and spaces there is a bracket. -/
def startsArrayLiteral (pos : Nat) : Checked Bool :=
  both (return pos + 6 ≤ q.length) (both (isWordAt q pos ['a', 'r', 'r', 'a', 'y']) (do
    let p ← skipWhile q isSpaceChar (q.length - (pos + 5)) (pos + 5)
    both (return p < q.length) (isAt q p '[')))

/-- The characters before the string at `pos`: none if no string with a prefix begins there. -/
def literalPrefixLen (pos : Nat) : Checked Nat := do
  if ← both (return pos + 3 ≤ q.length)
      (both (isLowerAt q pos 'u') (both (isAt q (pos + 1) '&') (isAt q (pos + 2) '\''))) then
    return 2
  else if ← both (return pos + 2 ≤ q.length) (isAt q (pos + 1) '\'') then
    let c ← readQuery q pos
    return if c.toLower == 'e' || c.toLower == 'b' || c.toLower == 'x' then 1 else 0
  else return 0

/-- `get_next_st` -/
def getNextSt (pos : Nat) (prevChar : Char) : Checked ParseSt := do
  let c ← readQuery q pos
  if ← startsCmntType1 q pos then
    return .cmntType1
  else if ← startsCmntType2 q pos then
    return if prevChar != '-' || pos == 0 then .cmntType2 else .noMarkFound
  else if c == '$' then
    return if ← startsDollarQuoteString q pos then .dollarQuoteString else .noMarkFound
  else if isTokenChar prevChar && c == '\'' then
    return .literalString
  else if isTokenChar prevChar && c == '"' then
    return .quotedIdentifier
  else if isTokenChar prevChar && isDigitChar c then
    return .literalNumber
  else if isTokenChar prevChar && (c == 'n' || c == 'N') && opts.replaceNull then
    return .replaceNull
  else if ← both (return prevChar != '"' && pos + 1 < q.length && c == ':')
      (isAt q (pos + 1) ':') then
    let t ← readQuery q (pos + 2)
    return if isNormalChar t || t == '"' then .pgTypecast else .noMarkFound
  else if isTokenChar prevChar && c.toLower == 'a' then
    return if ← startsArrayLiteral q pos then .arrayLiteral else .noMarkFound
  else if isTokenChar prevChar && (c.toLower == 't' || c.toLower == 'f') then
    return .replaceBoolean
  else if isTokenChar prevChar then
    return if (← literalPrefixLen q pos) = 0 then .noMarkFound else .literalPrefixType
  else return .noMarkFound

/-! ## Comments -/

namespace DigestSt

/-- Writes the buffer of a comment that is kept, at its end. -/
def keepCmntChar (s : DigestSt dMaxLen) (c : Char) : Checked (DigestSt dMaxLen) :=
  match s.curCmdCmnt.write s.cmntType1St.curCmdCmntLen c with
  | some block =>
      .ok { s with
        curCmdCmnt := block
        cmntType1St := { s.cmntType1St with
          curCmdCmntLen := s.cmntType1St.curCmdCmntLen + 1 } }
  | none => .error (.fault .curCmdCmntWrite)

def endKeptCmnt (s : DigestSt dMaxLen) : Checked (DigestSt dMaxLen) :=
  match s.curCmdCmnt.write s.cmntType1St.curCmdCmntLen nul with
  | some block => .ok { s with curCmdCmnt := block }
  | none => .error (.fault .curCmdCmntWrite)

/-- Writes the buffer of the first comment at a position. -/
def writeFstCmnt (s : DigestSt dMaxLen) (pos : Nat) (c : Char) : Checked (DigestSt dMaxLen) :=
  match s.fstCmnt with
  | none => .error (.fault .firstCommentWrite)
  | some block =>
      match block.write pos c with
      | some block => .ok { s with fstCmnt := some block }
      | none => .error (.fault .firstCommentWrite)

/-- `assert(*fst_cmnt)` -/
def assertFstCmnt (s : DigestSt dMaxLen) : Checked Unit :=
  if s.fstCmnt.isSome then .ok () else .error (.fault .firstCommentAssertion)

/-- Writes the first comment, at its end. -/
def fstCmntChar (s : DigestSt dMaxLen) (c : Char) : Checked (DigestSt dMaxLen) := do
  let s ← s.writeFstCmnt s.cmntType1St.fstCmntLen c
  return { s with
    cmntType1St := { s.cmntType1St with fstCmntLen := s.cmntType1St.fstCmntLen + 1 } }

/-- Allocates the first comment, with a terminator at its end. -/
def allocFstCmnt (s : DigestSt dMaxLen) : Checked (DigestSt dMaxLen) :=
  if s.fstCmnt.isNone then
    writeFstCmnt { s with fstCmnt := some (Block.ofFn (fun _ => nul) firstCommentMaxLength) }
      (firstCommentMaxLength - 1) nul
  else .ok s

/-- Ends the first comment, if it was tracked. -/
def endFstCmnt (s : DigestSt dMaxLen) : Checked (DigestSt dMaxLen) := do
  if s.cmntType1St.fstCmntEnd = false ∧ s.fstCmnt.isSome then
    let s ← s.writeFstCmnt s.cmntType1St.fstCmntLen nul
    return { s with cmntType1St := { s.cmntType1St with fstCmntEnd := true } }
  else return s

/-- The end of the query in a comment: the nesting is forgotten. -/
def endCmntAtQueryEnd (s : DigestSt dMaxLen) : Checked (ParseSt × DigestSt dMaxLen) := do
  let s ← s.endFstCmnt
  let s ← (if opts.keepComment then s.endKeptCmnt else pure s)
  return (.noMarkFound, { s with cmntType1St := { s.cmntType1St with nestLevel := 0 } })

/-- The initial mark of a comment, or of a comment in it -/
def openCmntType1 (s : DigestSt dMaxLen) : Checked (DigestSt dMaxLen) := do
  let s :=
    if s.cmntType1St.nestLevel = 0 then
      { s with cmntType1St := { s.cmntType1St with curCmdCmntLen := 0 } }
    else s
  let s := { s with
    cmntType1St := { s.cmntType1St with nestLevel := s.cmntType1St.nestLevel + 1 } }
  let c ← readQuery q s.qCurPos
  let d ← readQuery q (s.qCurPos + 1)
  let s ← (if opts.keepComment then do (← s.keepCmntChar c).keepCmntChar d else pure s)
  let s ←
    (if s.cmntType1St.fstCmntEnd = false ∧ s.cmntType1St.nestLevel > 1 ∧
        s.cmntType1St.fstCmntLen < firstCommentMaxLength - 2 then do
      s.assertFstCmnt
      (← s.fstCmntChar c).fstCmntChar d
    else pure s)
  return s.advance 2

/-- A character of a comment -/
def copyCmntChar (s : DigestSt dMaxLen) : Checked (DigestSt dMaxLen) := do
  let c ← readQuery q s.qCurPos
  let s ←
    (if opts.keepComment ∧ s.cmntType1St.curCmdCmntLen < firstCommentMaxLength - 1 then
      s.keepCmntChar c
    else pure s)
  if s.cmntType1St.fstCmntEnd = false ∧
      s.cmntType1St.fstCmntLen < firstCommentMaxLength - 1 then do
    (← s.allocFstCmnt).fstCmntChar (if isSpaceChar c then ' ' else c)
  else return s

/-- `memcpy` to the result, at its current position. -/
def emitAll (s : DigestSt dMaxLen) : List Char → Checked (DigestSt dMaxLen)
  | [] => .ok s
  | c :: cs => do (← s.emit c).emitAll cs

/-- A comment that is kept goes to the result, as far as there is room, and a space behind it. -/
def emitKeptCmnt (s : DigestSt dMaxLen) : Checked (DigestSt dMaxLen) := do
  let s ← s.endKeptCmnt
  let copyLength := min s.cmntType1St.curCmdCmntLen (dMaxLen - s.resCurPos)
  let s ← s.emitAll (s.curCmdCmnt.cells.take copyLength)
  let last ← s.readRes (s.resCurPos - 1)
  let s ← (if last ≠ ' ' ∧ s.resCurPos ≠ dMaxLen then s.emit ' ' else pure s)
  return { s with cmntType1St := { s.cmntType1St with curCmdCmntLen := 0 } }

/-- The final mark of a comment that is in no other comment. -/
def closeCmntType1 (s : DigestSt dMaxLen) : Checked (DigestSt dMaxLen) := do
  let s ← (if opts.keepComment then s.emitKeptCmnt else pure s)
  let spaceless ← both (return s.resCurPos ≠ 0 ∧ s.resCurPos ≠ dMaxLen) (do
    return (← s.readRes (s.resCurPos - 1)) != ' ')
  let s ← (if spaceless then s.emit ' ' else pure s)
  let s := { s with prevChar := ' ' }
  let s :=
    if s.cmntType1St.fstCmntEnd = false ∧ s.fstCmnt.isSome ∧ s.cmntType1St.fstCmntLen ≥ 2 then
      { s with cmntType1St := { s.cmntType1St with fstCmntLen := s.cmntType1St.fstCmntLen - 2 } }
    else s
  return (← s.endFstCmnt).advance 1

/-- What follows the initial mark, if there was one. -/
def continueCmntType1 (s : DigestSt dMaxLen) : Checked (ParseSt × DigestSt dMaxLen) := do
  let s ← s.copyCmntChar q opts
  let closes ← both (return s.prevChar == '*') (isAt q s.qCurPos '/')
  let s :=
    if closes ∧ s.cmntType1St.nestLevel > 0 then
      { s with cmntType1St := { s.cmntType1St with nestLevel := s.cmntType1St.nestLevel - 1 } }
    else s
  let outer := closes && s.cmntType1St.nestLevel == 0
  let s ← (if outer then s.closeCmntType1 opts else pure s)
  if s.qCurPos + 1 ≥ q.length then
    s.endCmntAtQueryEnd opts
  else return (if outer then .noMarkFound else .cmntType1, s)

/-- `process_cmnt_type_1` -/
def processCmntType1 (s : DigestSt dMaxLen) : Checked (ParseSt × DigestSt dMaxLen) := do
  if ← both (return s.qCurPos + 2 ≤ q.length)
      (both (isAt q s.qCurPos '/') (isAt q (s.qCurPos + 1) '*')) then
    let s ← s.openCmntType1 q opts
    if s.qCurPos + 1 ≥ q.length then
      s.endCmntAtQueryEnd opts
    else s.continueCmntType1 q opts
  else s.continueCmntType1 q opts

/-- `process_cmnt_type_2` -/
def processCmntType2 (s : DigestSt dMaxLen) : Checked (ParseSt × DigestSt dMaxLen) := do
  let begins ← both (return s.qCurPos + 3 ≤ q.length)
    (both (isAt q s.qCurPos '-') (isAt q (s.qCurPos + 1) '-'))
  let s := if begins then s.advance 2 else s
  let c ← readQuery q s.qCurPos
  if c = '\n' ∨ c = '\r' ∨ s.qCurPos + 1 ≥ q.length then
    return (.noMarkFound, { s with prevChar := ' ' }.advance 1)
  else return (.cmntType2, s)

end DigestSt

/-! ## Strings -/

/-- The position behind the quote that ends the escape character of `UESCAPE`. -/
def uescapeEnd : Nat → Nat → Checked Nat
  | 0, pos => .ok pos
  | 1, pos => do
      let _ ← readQuery q pos
      return pos + 1
  | rem + 2, pos => do
      let c ← readQuery q pos
      if c = '\\' then uescapeEnd rem (pos + 2)
      else if c = '\'' then return pos + 1
      else uescapeEnd (rem + 1) (pos + 1)

namespace DigestSt

/-- `try_consume_uescape` -/
def tryConsumeUescape (s : DigestSt dMaxLen) : Checked (DigestSt dMaxLen) := do
  let p ← skipWhile q isSpaceChar (q.length - s.qCurPos) s.qCurPos
  if ← both (return p + 7 ≤ q.length) (isWordAt q p ['u', 'e', 's', 'c', 'a', 'p', 'e']) then
    let p ← skipWhile q isSpaceChar (q.length - (p + 7)) (p + 7)
    let p := if ← both (return p < q.length) (isLowerAt q p 'e') then p + 1 else p
    if ← both (return p < q.length) (isAt q p '\'') then
      return { s with qCurPos := ← uescapeEnd q (q.length - (p + 1)) (p + 1) }
    else return s
  else return s

/-- The character is taken for one of the string: an escaped one, or a doubled delimiter. -/
def stringCharIgnored (s : DigestSt dMaxLen) (c : Char) : Bool :=
  s.literalStrSt.qStartPos.all (fun start => start + 1 < s.qCurPos) &&
    ((s.prevChar == '\\' && c == '\\') ||
      (s.prevChar == '\\' && c == s.literalStrSt.delimChar) ||
      (s.prevChar == s.literalStrSt.delimChar && c == s.literalStrSt.delimChar))

/-- `process_literal_string` -/
def processLiteralString (s : DigestSt dMaxLen) : Checked (ParseSt × DigestSt dMaxLen) := do
  let c ← readQuery q s.qCurPos
  let isUnicode := s.literalStrSt.isUnicode
  if s.literalStrSt.delimNum = false then
    return (.literalString, { s with
      literalStrSt := { s.literalStrSt with
        qStartPos := some s.qCurPos
        delimChar := c
        delimNum := true } })
  else if s.stringCharIgnored c then
    return (.literalString, { s with keepPrevChar := true, prevChar := 'X' })
  else if ← both (return c == s.literalStrSt.delimChar) (do
      if q.length = s.qCurPos + 1 then return true
      else return (← readQuery q (s.qCurPos + 1)) != s.literalStrSt.delimChar) then
    let s ← s.emitMark
    let s := { s with prevChar := '?' }
    if q.length = s.qCurPos + 1 then
      return (.literalString, { s with copyNext := false })
    else
      let s := { s with
        literalStrSt := { s.literalStrSt with delimChar := nul, delimNum := false, qStartPos := none }
        prevChar := nul }.advance 1
      if isUnicode then
        let s ← s.tryConsumeUescape q
        return (.noMarkFound, { s with literalStrSt := { s.literalStrSt with isUnicode := false } })
      else return (.noMarkFound, s)
  else return (.literalString, s)

/-- `process_literal_prefix_type` -/
def processLiteralPrefixType (s : DigestSt dMaxLen) :
    Checked (ParseSt × DigestSt dMaxLen) := do
  match ← literalPrefixLen q s.qCurPos with
  | 0 => return (.noMarkFound, s)
  | 1 => (s.advance 1).processLiteralString q
  | n =>
      processLiteralString q
        ({ s with literalStrSt := { s.literalStrSt with isUnicode := true } }.advance n)

/-- The first phase: the opening delimiter, if it is one. -/
def openDollarQuote (s : DigestSt dMaxLen) : Checked (Bool × DigestSt dMaxLen) := do
  if q.length - s.qCurPos < 2 then
    return (false, s)
  let p ← skipWhile q isTagChar (q.length - (s.qCurPos + 1)) (s.qCurPos + 1)
  if ← both (return p < q.length) (isAt q p '$') then
    let tagLen := p - (s.qCurPos + 1)
    let s := { s with dollarQuoteStrSt := { tagStart := some (s.qCurPos + 1), tagLen := tagLen } }
    if s.qCurPos + tagLen + 2 > q.length then
      return (false, s)
    else return (true, s.advance (tagLen + 2))
  else return (false, s)

/-- The second phase: the closing delimiter, if this is one. -/
def closeDollarQuote (s : DigestSt dMaxLen) : Checked (ParseSt × DigestSt dMaxLen) := do
  let tagLen := s.dollarQuoteStrSt.tagLen
  if q.length - s.qCurPos ≥ tagLen + 2 then
    if ← both (isAt q s.qCurPos '$')
        (both (sameBytes q (s.qCurPos + 1) (s.dollarQuoteStrSt.tagStart.getD 0) tagLen)
          (isAt q (s.qCurPos + 1 + tagLen) '$')) then
      let s ← s.emitMark
      return (.noMarkFound, { s with dollarQuoteStrSt := {} }.advance (tagLen + 2))
    else return (.dollarQuoteString, s)
  else return (.noMarkFound, s)

/-- `process_dollar_quote_string` -/
def processDollarQuoteString (s : DigestSt dMaxLen) :
    Checked (ParseSt × DigestSt dMaxLen) := do
  if s.dollarQuoteStrSt.tagStart = none then
    let r ← s.openDollarQuote q
    if r.1 then r.2.closeDollarQuote q else return (.noMarkFound, r.2)
  else s.closeDollarQuote q

/-- `process_quoted_identifier` -/
def processQuotedIdentifier (s : DigestSt dMaxLen) :
    Checked (ParseSt × DigestSt dMaxLen) := do
  let c ← readQuery q s.qCurPos
  if s.quotedIdenSt.delimNum = false then
    return (.quotedIdentifier, { s with
      quotedIdenSt := { qStartPos := some s.qCurPos, delimChar := c, delimNum := true } })
  else if c = '"' then
    return (.noMarkFound, { s with quotedIdenSt := {} })
  else return (.quotedIdentifier, s)

/-! ## Numbers -/

/-- The loop of `is_digit_string_2`, from `pos` to `last`: `i` characters are behind. -/
def digitsUpTo (s : DigestSt dMaxLen) (last : Nat) : Nat → Nat → Bool → Nat → Checked Bool
  | 0, _, _, _ => .error (.fault .resultRead)
  | rem + 1, pos, isHex, i => do
      if pos = last then
        return true
      let c ← s.readRes pos
      let before ← (if pos > 0 then s.readRes (pos - 1) else pure nul)
      let isFloat := c == '.' || c.toLower == 'e' ||
        (pos > 0 && before.toLower == 'e' && (c == '+' || c == '-'))
      if pos > 0 ∧ i = 1 ∧ before = '0' ∧ (c = 'x' ∨ c = 'X') then
        s.digitsUpTo last rem (pos + 1) true (i + 1)
      else if !isHex && !isDigitChar c && !isFloat then
        return false
      else if isHex && !isHexChar c then
        return false
      else s.digitsUpTo last rem (pos + 1) isHex (i + 1)

/-- `is_digit_string_2` -/
def isDigitString2 (s : DigestSt dMaxLen) (first last : Nat) : Checked Bool := do
  if first = last then
    return isDigitChar (← s.readRes first)
  else s.digitsUpTo last (dMaxLen + 2 - first) first false 0

/-- The first digit of a number -/
def startLiteralDigit (s : DigestSt dMaxLen) (c : Char) : Checked (DigestSt dMaxLen) := do
  if s.literalDigSt.firstDigit ∧ isTokenChar s.prevChar ∧ isDigitChar c then
    let s ← s.writeRes s.resCurPos c
    return { s with literalDigSt := { startPos := some s.resPrePos, firstDigit := false } }
  else return s

/-- `process_literal_digit` -/
def processLiteralDigit (s : DigestSt dMaxLen) : Checked (ParseSt × DigestSt dMaxLen) := do
  let c ← readQuery q s.qCurPos
  let s ← s.startLiteralDigit c
  let isFloatChar := c == '.' || (s.prevChar.toLower == 'e' && (c == '-' || c == '+'))
  if (isTokenChar c ∧ !isFloatChar) ∨ q.length = s.qCurPos + 1 then
    let start := s.literalDigSt.startPos.getD 0
    if ← s.isDigitString2 start s.resCurPos then
      let s ← emit { s with resCurPos := start } '?'
      let s := { s with prevChar := '?' }
      if !isTokenChar c ∧ q.length = s.qCurPos + 1 then
        return (.literalNumber, { s with copyNext := false })
      else
        return (.noMarkFound, { s with literalDigSt := { startPos := none, firstDigit := false } })
    else
      return (.noMarkFound, { s with literalDigSt := { startPos := none, firstDigit := false } })
  else return (.literalNumber, s)

/-! ## Words -/

def replaceWord (s : DigestSt dMaxLen) (found : Bool) (n : Nat) :
    Checked (ParseSt × DigestSt dMaxLen) := do
  if found then
    let s ← s.emitMark
    return (.noMarkFound, { s with prevChar := '?' }.advance n)
  else return (.noMarkFound, ← s.copyNextChar q opts)

/-- The word at the current position, in lower case, with no character of a name behind it -/
def isWholeWord (s : DigestSt dMaxLen) (word : List Char) : Checked Bool :=
  both (return s.qCurPos + word.length ≤ q.length) (both (isWordAt q s.qCurPos word) (do
    if q.length = s.qCurPos + word.length then return true
    else return isTokenChar (← readQuery q (s.qCurPos + word.length))))

/-- `process_replace_null` -/
def processReplaceNull (s : DigestSt dMaxLen) : Checked (ParseSt × DigestSt dMaxLen) := do
  s.replaceWord q opts (← s.isWholeWord q ['n', 'u', 'l', 'l']) 4

/-- `process_replace_boolean` -/
def processReplaceBoolean (s : DigestSt dMaxLen) : Checked (ParseSt × DigestSt dMaxLen) := do
  if ← both (isLowerAt q s.qCurPos 't') (return s.qCurPos + 4 ≤ q.length) then
    s.replaceWord q opts (← s.isWholeWord q ['t', 'r', 'u', 'e']) 4
  else if ← both (isLowerAt q s.qCurPos 'f') (return s.qCurPos + 5 ≤ q.length) then
    s.replaceWord q opts (← s.isWholeWord q ['f', 'a', 'l', 's', 'e']) 5
  else s.replaceWord q opts false 0

end DigestSt

/-! ## Casts -/

/-- The position of the quote that ends a quoted text, or the end of the query. -/
def quoteEnd (quote : Char) : Nat → Nat → Checked Nat
  | 0, pos => .ok pos
  | 1, pos => do
      if ← isAt q pos quote then return pos else return pos + 1
  | rem + 2, pos => do
      let c ← readQuery q pos
      if c = quote then return pos
      else if ← both (return c == '\\') (isAt q (pos + 1) quote) then quoteEnd quote rem (pos + 2)
      else quoteEnd quote (rem + 1) (pos + 1)

/-- The position behind the text that the quote at `pos` begins. -/
def skipQuoted (quote : Char) (pos : Nat) : Checked Nat := do
  let p ← quoteEnd q quote (q.length - (pos + 1)) (pos + 1)
  return if ← both (return p < q.length) (isAt q p quote) then p + 1 else p

/-- A round of the loop over type modifiers: the depth of the parentheses, and the position -/
def modifierStep (r : Nat × Nat) : Checked ((Nat × Nat) × Bool) := do
  let (depth, pos) := r
  if pos < q.length ∧ depth > 0 then
    let c ← readQuery q pos
    if c = '(' then return ((depth + 1, pos + 1), true)
    else if c = ')' then return ((depth - 1, pos + 1), true)
    else if c = '\'' ∨ c = '"' then return ((depth, ← skipQuoted q c pos), true)
    else return ((depth, pos + 1), true)
  else return (r, false)

/-- A round of the loop over array brackets, and the spaces behind them -/
def bracketStep (pos : Nat) : Checked (Nat × Bool) := do
  if ← both (both (return pos < q.length) (isAt q pos '['))
      (both (return pos + 1 < q.length) (isAt q (pos + 1) ']')) then
    return (← skipWhile q isSpaceChar (q.length - (pos + 2)) (pos + 2), true)
  else return (pos, false)

/-- The position behind the name of the type at `pos` -/
def typeNameEnd (pos : Nat) : Checked Nat := do
  let quoted ← isAt q pos '"'
  let p ← (if quoted then skipQuoted q '"' pos else pure pos)
  skipWhile q isTagChar (q.length - p) p

/-- The position behind spaces, if a modifier or a bracket follows them -/
def typeSpacesEnd (pos : Nat) : Checked Nat := do
  if isSpaceChar (← peek q pos) then
    let p ← skipWhile q isSpaceChar (q.length - pos) pos
    let c ← peek q p
    return if c = '(' ∨ c = '[' then p else pos
  else return pos

/-- The position behind the modifiers of a type -/
def modifiersEnd (pos : Nat) : Checked Nat := do
  if (← peek q pos) = '(' then
    return (← loop (modifierStep q) (q.length + 1) (1, pos + 1)).2
  else return pos

namespace DigestSt

/-- The beginning of a cast, with the spaces behind it -/
def startPgTypecast (s : DigestSt dMaxLen) : Checked (DigestSt dMaxLen) := do
  if s.pgTcStarted = false then
    let p ← skipWhile q isSpaceChar (q.length - (s.qCurPos + 2)) (s.qCurPos + 2)
    return { s with pgTcStarted := true, qCurPos := p }
  else return s

/-- `process_pg_typecast` -/
def processPgTypecast (s : DigestSt dMaxLen) : Checked (ParseSt × DigestSt dMaxLen) := do
  let s ← s.startPgTypecast q
  if s.qCurPos ≥ q.length then
    return (.noMarkFound, s)
  let p ← typeNameEnd q s.qCurPos
  let p ← typeSpacesEnd q p
  let p ← modifiersEnd q p
  let p ← loop (bracketStep q) (q.length + 1) p
  return (.noMarkFound, { s with qCurPos := p, pgTcStarted := false })

end DigestSt

/-! ## Arrays -/

/-- The position behind the quote that ends a quoted text in an array, or the end of the query. -/
def arrayQuoteEnd (quote : Char) : Nat → Nat → Checked Nat
  | 0, pos => .ok pos
  | 1, pos => do
      let _ ← readQuery q pos
      return pos + 1
  | rem + 2, pos => do
      let c ← readQuery q pos
      if c = '\\' then arrayQuoteEnd quote rem (pos + 2)
      else if ← both (return quote == '\'' && c == '\'') (isAt q (pos + 1) '\'') then
        arrayQuoteEnd quote rem (pos + 2)
      else if c = quote then return pos + 1
      else arrayQuoteEnd quote (rem + 1) (pos + 1)

/-- The position behind the closing delimiter of a dollar quote in an array, or the end of the
query -/
def arrayDollarEnd (tagStart tagLen : Nat) : Nat → Nat → Checked Nat
  | 0, pos => .ok pos
  | rem + 1, pos => do
      if ← both (isAt q pos '$') (both (return pos + tagLen + 1 < q.length)
          (both (sameBytes q (pos + 1) tagStart tagLen) (isAt q (pos + tagLen + 1) '$'))) then
        return pos + tagLen + 2
      else arrayDollarEnd tagStart tagLen rem (pos + 1)

/-- The position behind the quoted or dollar-quoted text at a position of an array, if there is
one -/
def arraySkipQuotes (pos : Nat) : Checked Nat := do
  let c ← readQuery q pos
  if c = '\'' ∨ c = '"' then
    arrayQuoteEnd q c (q.length - (pos + 1)) (pos + 1)
  else if c = '$' then
    let p ← skipWhile q isTagChar (q.length - (pos + 1)) (pos + 1)
    if ← both (return p < q.length) (isAt q p '$') then
      arrayDollarEnd q (pos + 1) (p - (pos + 1)) (q.length - (p + 1)) (p + 1)
    else return pos
  else return pos

namespace DigestSt

/-- The beginning of an array: the position behind its bracket -/
def openArrayLiteral (s : DigestSt dMaxLen) : Checked (Bool × DigestSt dMaxLen) := do
  if s.qCurPos + 5 > q.length then
    return (false, s)
  let p ← skipWhile q isSpaceChar (q.length - (s.qCurPos + 5)) (s.qCurPos + 5)
  if ← both (return p < q.length) (isAt q p '[') then
    return (true, { s with bracketDepth := 1, qCurPos := p + 1 })
  else return (false, s)

/-- A character of an array, or a quoted text and the character behind it -/
def continueArrayLiteral (s : DigestSt dMaxLen) : Checked (ParseSt × DigestSt dMaxLen) := do
  if s.qCurPos ≥ q.length then
    return (.noMarkFound, s)
  let s := { s with qCurPos := ← arraySkipQuotes q s.qCurPos }
  if s.qCurPos ≥ q.length then
    return (.noMarkFound, s)
  let c ← readQuery q s.qCurPos
  if c = '[' then
    return (.arrayLiteral, { s with bracketDepth := s.bracketDepth + 1 })
  else if c = ']' then
    let s := { s with bracketDepth := s.bracketDepth - 1 }
    if s.bracketDepth = 0 then
      let s ← s.emitMark
      return (.noMarkFound, { s with prevChar := '?' }.advance 1)
    else return (.arrayLiteral, s)
  else return (.arrayLiteral, s)

/-- `process_array_literal` -/
def processArrayLiteral (s : DigestSt dMaxLen) : Checked (ParseSt × DigestSt dMaxLen) := do
  if s.bracketDepth = 0 then
    let r ← s.openArrayLiteral q
    if r.1 then r.2.continueArrayLiteral q else return (.noMarkFound, r.2)
  else s.continueArrayLiteral q

/-! ## The loop -/

/-- A round in the neutral state: another state is selected, or a character is consumed. -/
def neutralStep (s : DigestSt dMaxLen) : Checked (DigestSt dMaxLen) := do
  let s := { s with resPrePos := s.resCurPos }
  let st ← getNextSt q opts s.qCurPos s.prevChar
  if st ≠ .noMarkFound then
    return { s with st := st }
  let c ← readQuery q s.qCurPos
  if s.resCurPos = 0 ∧ isSpaceChar c then
    return s.advance 1
  else if isSpaceChar s.prevChar ∧ isSpaceChar c then
    let last ← s.readRes (s.resCurPos - 1)
    let s := if !isSpaceChar last then { s with resCurPos := s.resCurPos + 1 } else s
    let s ← writeRes { s with prevChar := ' ' } s.resCurPos ' '
    return s.advance 1
  else s.copyNextChar q opts

/-- The function of a state, with the default for copying that the loop gives it -/
def process (s : DigestSt dMaxLen) : Checked (ParseSt × DigestSt dMaxLen) :=
  match s.st with
  | .noMarkFound => .ok (.noMarkFound, s)
  | .cmntType1 => processCmntType1 q opts { s with copyNext := false }
  | .cmntType2 => processCmntType2 q { s with copyNext := false }
  | .literalString => processLiteralString q { s with copyNext := false }
  | .literalNumber => processLiteralDigit q { s with copyNext := true }
  | .replaceNull => processReplaceNull q opts s
  | .dollarQuoteString => processDollarQuoteString q { s with copyNext := false }
  | .pgTypecast => processPgTypecast q { s with copyNext := false }
  | .literalPrefixType => processLiteralPrefixType q { s with copyNext := false }
  | .replaceBoolean => processReplaceBoolean q opts s
  | .arrayLiteral => processArrayLiteral q { s with copyNext := false }
  | .quotedIdentifier => processQuotedIdentifier q { s with copyNext := true }

/-- A round in another state -/
def markStep (s : DigestSt dMaxLen) : Checked (DigestSt dMaxLen) := do
  let (next, t) ← s.process q opts
  let t := { t with st := next }
  if next = .noMarkFound then
    let t := if s.st = .literalNumber then
        { t with literalDigSt := { t.literalDigSt with firstDigit := true } }
      else t
    return { t with copyNext := true }
  else if t.copyNext then t.copyNextChar q opts
  else t.incProcPos q

/-- A round of the loop of `stage_1_parsing`. -/
def stage1Step (s : DigestSt dMaxLen) : Checked (DigestSt dMaxLen × Bool) := do
  if s.resCurPos < dMaxLen ∧ s.qCurPos < q.length then
    let s ← (if s.st = .noMarkFound then s.neutralStep q opts else s.markStep q opts)
    return (s, true)
  else return (s, false)

/-- What `stage_1_parsing` does before its loop -/
def beginStage1 (s : DigestSt dMaxLen) : Checked (DigestSt dMaxLen) := do
  let s :=
    match s.newEndPos with
    | some pos => { s with resCurPos := pos, resPrePos := pos }
    | none => s
  if s.resItInitPos ≠ 0 then
    return { s with prevChar := ← s.readRes (s.resPrePos - 1) }
  else return s

/-- What `stage_1_parsing` does behind its loop -/
def endStage1 (s : DigestSt dMaxLen) : Checked (DigestSt dMaxLen) := do
  let s ← s.writeRes s.resCurPos nul
  return { s with
    preItPos := s.resCurPos
    newEndPos := if s.st = .literalNumber then some s.resCurPos else none }

end DigestSt

end Tokenizer

end PolarProxy
