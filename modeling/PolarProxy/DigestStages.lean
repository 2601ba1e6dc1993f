import PolarProxy.DigestParsing

/-!
# The compression stages of the query digest

The result of the first stage is compressed in place by three more stages.  Each reads at
`res_cur_pos` and writes at `res_pre_pos`, from a position that the last iteration left to the end
of the digest.  A number that the first stage has not finished is not part of it: its digits are
moved behind the compressed text.

The first stage stops when the result is full.  If the compression made room, all stages are
repeated from there.

**Results.** `stage2Parsing`, `stage3Parsing`, `stage4Parsing`, `finalStage`, `queryDigest`,
`Reached`.
-/

namespace PolarProxy

namespace Tokenizer

open Loops Memory

variable (q : List Char) (opts : Options) {dMaxLen : Nat}

namespace DigestSt

/-! ## Iterations of a stage -/

/-- The start of the number that the first stage has not finished -/
def unfinishedStart (s : DigestSt dMaxLen) : Option Nat :=
  if s.st = .literalNumber then s.literalDigSt.startPos else none

/-- `get_stage_digest_end` -/
def stageDigestEnd (s : DigestSt dMaxLen) : Int :=
  match s.unfinishedStart with
  | some start => (start : Int) - 1
  | none => (s.resCurPos : Int) - 1

/-- `set_stage_next_start_pos` -/
def setStageNextStartPos (s : DigestSt dMaxLen) (digestEnd : Int) (next : Option Int) :
    DigestSt dMaxLen :=
  match next with
  | some pos =>
      if s.resItInitPos ≠ 0 ∧ 0 ≤ pos ∧ pos < digestEnd then
        { s with resCurPos := pos.toNat, resPrePos := pos.toNat }
      else { s with resCurPos := 0, resPrePos := 0 }
  | none => { s with resCurPos := 0, resPrePos := 0 }

/-- `*res_pre_pos++ = *res_cur_pos++` -/
def keep (s : DigestSt dMaxLen) : Checked (DigestSt dMaxLen) := do
  let c ← s.readRes s.resCurPos
  let s ← s.writeRes s.resPrePos c
  return { s with resPrePos := s.resPrePos + 1, resCurPos := s.resCurPos + 1 }

/-- `*res_pre_pos++ = c` -/
def put (s : DigestSt dMaxLen) (c : Char) : Checked (DigestSt dMaxLen) := do
  let s ← s.writeRes s.resPrePos c
  return { s with resPrePos := s.resPrePos + 1 }

/-- `res_cur_pos++` -/
def drop (s : DigestSt dMaxLen) : DigestSt dMaxLen :=
  { s with resCurPos := s.resCurPos + 1 }

/-- Puts the characters of a text. -/
def putAll (s : DigestSt dMaxLen) : List Char → Checked (DigestSt dMaxLen)
  | [] => .ok s
  | c :: cs => do (← s.put c).putAll cs

/-- Moves `rem` digits of an unfinished number, from `pos` on. -/
def moveDigits (s : DigestSt dMaxLen) : Nat → Nat → Checked (DigestSt dMaxLen)
  | 0, _ => .ok s
  | rem + 1, pos => do
      let c ← s.readRes pos
      (← s.put c).drop.moveDigits rem (pos + 1)

/-- `end_compression_stage_it`, with the position that it leaves for the next iteration -/
def endCompressionStageIt (s : DigestSt dMaxLen) (digestEnd : Int) :
    Checked (Nat × DigestSt dMaxLen) := do
  match s.literalDigSt.startPos, s.newEndPos with
  | some start, some newEnd =>
      if digestEnd = (start : Int) - 1 then
        let pos := s.resPrePos
        let s := { s with literalDigSt := { s.literalDigSt with startPos := some pos } }
        let s ← s.moveDigits (newEnd - start) start
        let s ← s.writeRes s.resPrePos nul
        return (pos, { s with newEndPos := some s.resPrePos })
      else return (s.resPrePos, ← s.writeRes s.resPrePos nul)
  | _, _ => return (s.resPrePos, ← s.writeRes s.resPrePos nul)

/-- The end of a stage: what it leaves for its next iteration -/
def endStage (s : DigestSt dMaxLen) (digestEnd : Int) : Checked (StageSt × DigestSt dMaxLen) := do
  let cOffset := max (digestEnd - s.resPrePos + 1) 0
  let (pos, s) ← s.endCompressionStageIt digestEnd
  return (⟨some pos, cOffset⟩, { s with resCurPos := s.resPrePos })

/-! ## The second stage -/

def stage2Space (s : DigestSt dMaxLen) : Checked (DigestSt dMaxLen) := do
  let cur := s.resCurPos
  let lc ← (if cur > 0 then s.readRes (cur - 1) else pure '0')
  let rc ← s.readRes (cur + 1)
  if lc = '(' ∨ rc = ')' then
    return s.drop
  else if (isArithmeticOp lc ∧ rc = '?') ∨ lc = ',' ∨ rc = ',' then
    let llc ← (if cur > 1 then s.readRes (cur - 2) else pure '0')
    if opts.keepComment ∧ llc = '*' ∧ lc = '/' then s.keep else return s.drop
  else if isArithmeticOp rc ∧ lc = '?' ∧ isTokenChar lc then
    return s.drop
  else s.keep

/-- A plus or a minus of the result -/
def stage2Sign (s : DigestSt dMaxLen) : Checked (DigestSt dMaxLen) := do
  let cur := s.resCurPos
  let llc ← (if cur > 1 then s.readRes (cur - 2) else pure '0')
  let lc ← (if cur > 0 then s.readRes (cur - 1) else pure '0')
  let rc ← s.readRes (cur + 1)
  if lc = ' ' then
    if isNormalChar llc then
      return s.drop
    else if isTokenChar llc ∧ llc ≠ '?' ∧ llc ≠ ')' ∧ (rc = '?' ∨ rc = ' ') then
      return s.drop
    else s.keep
  else if isTokenChar lc ∧ lc ≠ '?' ∧ lc ≠ ')' ∧ (rc = '?' ∨ rc = ' ') then
    return s.drop
  else s.keep

def stage2Digit (s : DigestSt dMaxLen) : Checked (DigestSt dMaxLen) := do
  let marks ← both (return s.resPrePos > 0) (do
    return (← s.readRes (s.resPrePos - 1)) != '?')
  let s ← (if marks then s.put '?' else pure s)
  return s.drop

/-- A round of the loop of the second stage -/
def stage2Step (digestEnd : Int) (s : DigestSt dMaxLen) : Checked (DigestSt dMaxLen × Bool) := do
  if s.resCurPos ≤ digestEnd then
    let c ← s.readRes s.resCurPos
    if c = ' ' then
      return (← s.stage2Space opts, true)
    else if c = '+' ∨ c = '-' then
      return (← s.stage2Sign, true)
    else if opts.replaceNumber ∧ isDigitChar c then
      return (← s.stage2Digit, true)
    else return (← s.keep, true)
  else return (s, false)

/-- `stage_2_parsing` -/
def stage2Parsing (s : DigestSt dMaxLen) : Checked (DigestSt dMaxLen) := do
  let digestEnd := s.stageDigestEnd
  let next := s.stage2.preItPos.map fun pos =>
    (pos : Int) - (s.glCOffset - s.stage2.cOffset) - (5 + 1)
  let s := s.setStageNextStartPos digestEnd next
  let s ← loop (stage2Step opts digestEnd) (dMaxLen + 3) s
  let (stage, s) ← s.endStage digestEnd
  return { s with stage2 := stage }

/-! ## The third stage -/

/-- The characters before a position of the result are `word`, read from its end. -/
def isBefore (s : DigestSt dMaxLen) : Int → List Char → Checked Bool
  | _, [] => .ok true
  | pos, c :: word => both (do return (← s.readRes (pos - 1)) == c) (s.isBefore (pos - 1) word)

/-- The characters from a position of the result on are `word`. -/
def isFrom (s : DigestSt dMaxLen) : Int → List Char → Checked Bool
  | _, [] => .ok true
  | pos, c :: word => both (do return (← s.readRes pos) == c) (s.isFrom (pos + 1) word)

/-- A round of the loop over marks behind `...`: the position, and whether `?)` was found -/
def expansionStep (s : DigestSt dMaxLen) (digestEnd : Int) (r : Nat × Bool) :
    Checked ((Nat × Bool) × Bool) := do
  let pos := r.1
  if pos < digestEnd then
    if ← s.isFrom pos ['?', ','] then
      return ((pos + 2, false), true)
    else if ← s.isFrom pos ['?', ')'] then
      return ((pos + 1, true), false)
    else return (r, false)
  else return (r, false)

/-- Marks behind `...` are left out: the state, and whether the stage goes on. -/
def collapseExpansion (s : DigestSt dMaxLen) (digestEnd : Int) :
    Checked (DigestSt dMaxLen × Bool) := do
  let c ← s.readRes s.resCurPos
  let first := if c = ',' then s.resCurPos + 1 else s.resCurPos
  let (pos, isLast) ← loop (s.expansionStep digestEnd) (dMaxLen + 3) (first, false)
  let t := if pos > s.resCurPos + 1 ∨ isLast then { s with resCurPos := pos } else s
  if s.literalDigSt.startPos.isSome ∧ pos ≥ digestEnd then
    return (t, !isDigitChar (← s.readRes pos))
  else return (t, true)

/-- A round of the loop over a group: the position, the number of `?,`, and how it ended -/
def groupStep (s : DigestSt dMaxLen) (digestEnd : Int) (r : Nat × Nat × Nat) :
    Checked ((Nat × Nat × Nat) × Bool) := do
  let (pos, len, broken) := r
  if pos < digestEnd ∧ broken = 0 then
    if ← s.isFrom pos ['?', ','] then
      return ((pos + 2, len + 1, broken), true)
    else if (← s.readRes (pos + 1)) = ')' then
      return ((pos, len, 2), true)
    else return ((pos, len, 1), true)
  else return (r, false)

/-- What is left of a group of `len` marks: those up to the limit, and `...` for the others -/
def groupText (limit len : Nat) : List Char :=
  (List.range len).flatMap fun i =>
    if i < limit then ['?', ','] else if i = limit then ['.', '.', '.'] else []

def collapseGroup (s : DigestSt dMaxLen) (digestEnd : Int) : Checked (DigestSt dMaxLen) := do
  let (pos, len, broken) ← loop (s.groupStep digestEnd) (dMaxLen + 3) (s.resCurPos, 0, 0)
  let fullLen := if broken = 2 then len * 2 + 1 else len * 2
  if fullLen ≥ opts.groupingLimit * 2 + 3 then
    let s ← s.putAll (groupText opts.groupingLimit len)
    return { s with resCurPos := if broken = 2 then pos + 1 else pos - 1 }
  else
    let s ← s.putAll ((List.replicate len ['?', ',']).flatten)
    return { s with resCurPos := pos }

/-- A round of the loop of the third stage; the flag says that the text may be a group. -/
def stage3Step (digestEnd : Int) (r : DigestSt dMaxLen × Bool) :
    Checked ((DigestSt dMaxLen × Bool) × Bool) := do
  let (s, groupCandidate) := r
  if s.resCurPos ≤ digestEnd then
    let expansion ← both (return groupCandidate && s.resPrePos > 4)
      (s.isBefore s.resPrePos ['.', '.', '.', ','])
    let (s, goesOn) ←
      (if expansion ∧ digestEnd - s.resCurPos ≥ 1 then s.collapseExpansion digestEnd
      else pure (s, true))
    if !goesOn then
      return ((s, groupCandidate), false)
    let cur := s.resCurPos
    let fits := (cur : Int) < digestEnd - opts.groupingLimit * 2
    let group ← both (return groupCandidate && fits) (do
      let isMinPattern ← both (s.isFrom cur ['?', ',', '?']) (do
        let c ← s.readRes (cur + 3)
        return c == ',' || c == ')')
      let before ← s.readRes (cur - 1)
      return !isArithmeticOp before && isMinPattern)
    let s ← (if group then s.collapseGroup opts digestEnd else s.keep)
    let c ← s.readRes cur
    let groupCandidate := if c = '(' then true else if c = ')' then false else groupCandidate
    return ((s, groupCandidate), true)
  else return (r, false)

/-- `stage_3_parsing` -/
def stage3Parsing (s : DigestSt dMaxLen) : Checked (DigestSt dMaxLen) := do
  if opts.groupingLimit = 0 then
    return s
  let digestEnd := s.stageDigestEnd
  let minGroupSize : Int := opts.groupingLimit * 2 + 7
  let next := s.stage3.preItPos.map fun pos =>
    (pos : Int) - (s.glCOffset - s.stage3.cOffset) - (minGroupSize + 1)
  let s := s.setStageNextStartPos digestEnd next
  let (s, _) ← loop (stage3Step opts digestEnd) (dMaxLen + 3) (s, false)
  let (stage, s) ← s.endStage digestEnd
  return { s with stage3 := stage }

/-! ## The fourth stage -/

/-- A group as the third stage leaves it: `(?,?,...)` -/
def groupPattern (limit : Nat) : List Char :=
  '(' :: ((List.replicate limit ['?', ',']).flatten ++ ['.', '.', '.', ')'])

/-- `is_group_pattern` -/
def isGroupPattern (s : DigestSt dMaxLen) (pos : Int) : Checked Bool :=
  s.isFrom pos (groupPattern opts.groupingLimit)

/-- The length of a group with a comma behind it -/
def groupPatternSize : Nat :=
  1 + opts.groupingLimit * 2 + 3 + 1 + 1

/-- A round of the loop over groups behind `...` -/
def expansionGroupStep (s : DigestSt dMaxLen) (digestEnd : Int) (pos : Nat) :
    Checked (Nat × Bool) := do
  let size := groupPatternSize opts
  if pos + (size - 2 : Nat) ≤ digestEnd then
    if ← s.isGroupPattern opts pos then
      return (if pos + (size - 1 : Nat) = digestEnd then pos + (size - 1) else pos + size, true)
    else return (pos, false)
  else return (pos, false)

/-- A round of the loop over groups: the position, and the number of groups -/
def groupsStep (s : DigestSt dMaxLen) (digestEnd : Int) (r : Nat × Nat) :
    Checked ((Nat × Nat) × Bool) := do
  let (pos, found) := r
  let size := groupPatternSize opts
  if pos + (size - 2 : Nat) ≤ digestEnd then
    if ← s.isGroupPattern opts pos then
      let pos := pos + (size - 1)
      let c ← s.readRes pos
      return ((if c = ',' then pos + 1 else pos, found + 1), true)
    else return (r, false)
  else return (r, false)

/-- `memmove` of `rem` characters from `pos` to `res_pre_pos` -/
def moveGroups (s : DigestSt dMaxLen) (pos n : Nat) : Checked (DigestSt dMaxLen) := do
  let text ← (List.range n).mapM fun i => s.readRes (pos + i : Nat)
  s.putAll text

/-- What follows `...` in the fourth stage -/
inductive Expansion
  | skipped
  | atEnd
  | other
  deriving DecidableEq

/-- Groups behind `...` are left out. -/
def collapseExpansionGroups (s : DigestSt dMaxLen) (digestEnd : Int) :
    Checked (Expansion × DigestSt dMaxLen) := do
  let c ← s.readRes s.resCurPos
  let first := if c = ',' ∨ c = ' ' then s.resCurPos + 1 else s.resCurPos
  let pos ← loop (s.expansionGroupStep opts digestEnd) (dMaxLen + 3) first
  if pos > s.resCurPos + 1 then
    return (.skipped, { s with resCurPos := pos - 1 })
  else return (if pos ≥ digestEnd then .atEnd else .other, s)

/-- The groups from the current position on: where they end, and how many they are -/
def groupsFrom (s : DigestSt dMaxLen) (digestEnd : Int) : Checked (Nat × Nat) :=
  loop (s.groupsStep opts digestEnd) (dMaxLen + 3) (s.resCurPos, 0)

/-- Groups above the limit are left out. -/
def collapseGroups (s : DigestSt dMaxLen) (digestEnd : Int) : Checked (DigestSt dMaxLen) := do
  let size := groupPatternSize opts
  let (pos, found) ← s.groupsFrom opts digestEnd
  if found > opts.groupsGroupingLimit then
    let s ← s.moveGroups s.resCurPos (size * opts.groupsGroupingLimit)
    let s ← s.putAll ['.', '.', '.']
    return { s with resCurPos := pos }
  else return s

/-- Groups may begin at the current position. -/
def groupsFit (s : DigestSt dMaxLen) (digestEnd : Int) : Checked Bool :=
  both
    (return (s.resCurPos : Int) ≤
      digestEnd - (groupPatternSize opts * (opts.groupsGroupingLimit + 1) : Nat) + 2)
    (s.isFrom s.resCurPos ['(', '?', ','])

/-- `...` stands behind a group, before the position that is written next. -/
def expansionBefore (s : DigestSt dMaxLen) : Checked Bool :=
  both (return s.resPrePos > 5) (s.isBefore s.resPrePos ['.', '.', '.', ',', ')'])

/-- The part of a round behind the test for `...` -/
def stage4Rest (digestEnd : Int) (s : DigestSt dMaxLen) :
    Checked (DigestSt dMaxLen × Bool) := do
  let fit ← s.groupsFit opts digestEnd
  let s ← (if fit then s.collapseGroups opts digestEnd else pure s)
  if s.resCurPos > digestEnd then
    return (s, false)
  else return (← s.keep, true)

/-- Groups behind `...` are left out, where there is one before the position that is written. -/
def skipGroups (digestEnd : Int) (s : DigestSt dMaxLen) :
    Checked (Expansion × DigestSt dMaxLen) := do
  if ← s.expansionBefore then s.collapseExpansionGroups opts digestEnd else return (.other, s)

/-- A round of the loop of the fourth stage -/
def stage4Step (digestEnd : Int) (s : DigestSt dMaxLen) : Checked (DigestSt dMaxLen × Bool) := do
  if s.resCurPos ≤ digestEnd then
    let (next, s) ← s.skipGroups opts digestEnd
    match next with
    | .skipped => return (s, true)
    | .atEnd => return (s, false)
    | .other => s.stage4Rest opts digestEnd
  else return (s, false)

/-- Where the fourth stage begins -/
def stage4Start (s : DigestSt dMaxLen) : DigestSt dMaxLen :=
  s.setStageNextStartPos s.stageDigestEnd (s.stage4.preItPos.map fun pos =>
    (pos : Int) - (groupPatternSize opts * (opts.groupsGroupingLimit + 2) : Nat))

/-- `stage_4_parsing` -/
def stage4Parsing (s : DigestSt dMaxLen) : Checked (DigestSt dMaxLen) := do
  if opts.groupsGroupingLimit = 0 ∨ opts.groupingLimit = 0 then
    return s
  let digestEnd := s.stageDigestEnd
  let s ← loop (stage4Step opts digestEnd) (dMaxLen + 3) (s.stage4Start opts)
  let (stage, s) ← s.endStage digestEnd
  return { s with stage4 := stage }

/-! ## The whole digest -/

/-- The loop of `final_stage` that leaves spaces and semicolons out, from the end -/
def trimEnd (s : DigestSt dMaxLen) : Nat → Int → Checked Int
  | 0, pos => .ok pos
  | rem + 1, pos => do
      if ← both (return pos > 0) (do
          let c ← s.readRes pos
          return c == ' ' || c == ';') then
        s.trimEnd rem (pos - 1)
      else return pos

/-- A number that did not fit is replaced. -/
def trimDigits (s : DigestSt dMaxLen) : Checked (DigestSt dMaxLen) := do
  match s.literalDigSt.startPos with
  | some start =>
      if ← both (return dMaxLen ≤ s.resCurPos ∧ s.st = .literalNumber) (do
          return isDigitChar (← s.readRes start)) then
        let s ← s.writeRes start '?'
        let s := { s with literalDigSt := { s.literalDigSt with startPos := some (start + 1) } }
        s.writeRes (start + 1) nul
      else return s
  | none => return s

/-- `final_stage` -/
def finalStage (s : DigestSt dMaxLen) : Checked (DigestSt dMaxLen) := do
  let s ← s.trimDigits
  let pos ← s.trimEnd s.resCurPos (s.resCurPos - 1)
  let s ← s.writeRes (pos + 1).toNat nul
  return { s with resCurPos := (pos + 1).toNat }

/-- The stages behind the loop of the first one, and whether all are repeated -/
def compress (s : DigestSt dMaxLen) : Checked (DigestSt dMaxLen × Bool) := do
  let s ← s.endStage1
  let s ← s.stage2Parsing opts
  let s ← s.stage3Parsing opts
  let s ← s.stage4Parsing opts
  let s := { s with glCOffset := (s.preItPos : Int) - s.resCurPos }
  if s.qCurPos ≥ q.length ∨ dMaxLen ≤ s.resCurPos ∨ s.glCOffset = 0 then
    return (s, false)
  else
    return ({ s with resItInitPos := s.resCurPos, resPrePos := s.resCurPos }, true)

/-- One iteration of all stages -/
def digestStep (fuel : Nat) (s : DigestSt dMaxLen) : Checked (DigestSt dMaxLen × Bool) := do
  let s ← s.beginStage1
  let s ← loop (stage1Step q opts) fuel s
  s.compress q opts

/-- The state in which a digest begins, with what the buffers hold -/
def init (dMaxLen : Nat) (buf cmnt : Nat → Char) : DigestSt dMaxLen where
  res := Block.ofFn buf (dMaxLen + 1)
  curCmdCmnt := Block.ofFn cmnt firstCommentMaxLength

end DigestSt

/-- `get_digest_max_len` -/
def digestMaxLen : Nat :=
  min q.length opts.maxQueryLength

/-- `pgsql_query_digest_and_first_comment`, in a buffer and with a comment buffer that hold
something -/
def queryDigest (buf cmnt : Nat → Char) (fuel : Nat) :
    Checked (DigestSt (digestMaxLen q opts)) := do
  let s ← loop (DigestSt.digestStep q opts fuel) fuel (DigestSt.init _ buf cmnt)
  s.finalStage

namespace DigestSt

def firstComment (s : DigestSt dMaxLen) : Option (List Char) :=
  s.fstCmnt.map fun block => cString block.cells

/-- The states at the head of the loop of the first stage, in all iterations -/
inductive Reached (s₀ : DigestSt dMaxLen) : DigestSt dMaxLen → Prop
  | start {s : DigestSt dMaxLen} :
      s₀.beginStage1 = .ok s →
      Reached s₀ s
  | round {s t : DigestSt dMaxLen} :
      Reached s₀ s →
      s.stage1Step q opts = .ok (t, true) →
      Reached s₀ t
  | iteration {s t u v : DigestSt dMaxLen} :
      Reached s₀ s →
      s.stage1Step q opts = .ok (t, false) →
      t.compress q opts = .ok (u, true) →
      u.beginStage1 = .ok v →
      Reached s₀ v

end DigestSt

end Tokenizer

end PolarProxy
