import PolarProxy.DigestComments
import PolarProxy.DigestFrames

/-!
# The first comment of a query

A comment between `/*` and `*/` may hold others, and ends with the final mark that closes its own
initial one.  The first stage finds that final mark by a depth of nesting, which it changes at
marks, and it reads a mark at each round, whatever the round before took for one.

The text of the comment goes to the buffer of the first comment as it is read, its final mark
included.  The last two characters of the buffer are dropped when the comment ends.

**Results.**
* `commentBody`: the text of a comment.
* `DigestSt.inComment_closes`: the rounds from within a comment to its end.
* `DigestSt.AtFirstComment.closes`: the same from its initial mark on.
* `firstComment_of_arrives`: the first comment of a query.
* `firstComment_of_adjacentMarks`: a comment whose final mark is taken for an initial one.
-/

namespace PolarProxy

namespace Tokenizer

open Loops Memory

variable {q : List Char} {opts : Options} {dMaxLen : Nat}

/-! ## The text of a comment -/

/-- The text from a position in a comment to the final mark that ends it, where `depth` comments
in it have begun and not ended -/
def commentBody : List Char → Nat → Option (List Char)
  | [], _ => none
  | [_], _ => none
  | c :: d :: cs, depth =>
      if c = '*' ∧ d = '/' then
        if depth = 0 then some []
        else (commentBody cs (depth - 1)).map fun body => c :: d :: body
      else if c = '/' ∧ d = '*' then
        (commentBody cs (depth + 1)).map fun body => c :: d :: body
      else (commentBody (d :: cs) depth).map fun body => c :: body

/-- A character of the first comment -/
def commentChar (c : Char) : Char :=
  if isSpaceChar c then ' ' else c

def commentText (body : List Char) : List Char :=
  (body.map commentChar).take (firstCommentMaxLength - 1)

variable {depth : Nat}

theorem commentBody_append
    {cs body : List Char}
    (h : commentBody cs depth = some body) :
    ∃ rest, cs = body ++ '*' :: '/' :: rest := by
  induction cs, depth using commentBody.induct generalizing body with
  | case1 =>
      cases h
  | case2 =>
      cases h
  | case3 c d cs hends =>
      rw [commentBody, if_pos hends, if_pos rfl] at h
      obtain rfl := Option.some.inj h
      obtain ⟨rfl, rfl⟩ := hends
      exact ⟨cs, rfl⟩
  | case4 c d cs depth hends hnested ih =>
      rw [commentBody, if_pos hends, if_neg hnested] at h
      obtain ⟨body, hbody, rfl⟩ := Option.map_eq_some_iff.mp h
      obtain ⟨rest, rfl⟩ := ih hbody
      exact ⟨rest, rfl⟩
  | case5 c d cs depth hends hbegins ih =>
      rw [commentBody, if_neg hends, if_pos hbegins] at h
      obtain ⟨body, hbody, rfl⟩ := Option.map_eq_some_iff.mp h
      obtain ⟨rest, rfl⟩ := ih hbody
      exact ⟨rest, rfl⟩
  | case6 c d cs depth hends hbegins ih =>
      rw [commentBody, if_neg hends, if_neg hbegins] at h
      obtain ⟨body, hbody, rfl⟩ := Option.map_eq_some_iff.mp h
      obtain ⟨rest, heq⟩ := ih hbody
      exact ⟨rest, by rw [heq]; rfl⟩

/-! ## The buffer of the first comment -/

/-- The buffer holds the text of a comment that has not ended. -/
structure Tracks (c : CmntType1St) (fstCmnt : Option (Block Char firstCommentMaxLength))
    (text : List Char) : Prop where
  len : c.fstCmntLen = text.length
  isOpen : c.fstCmntEnd = false
  cells : ∀ block, fstCmnt = some block → block.cells.take text.length = text
  none : fstCmnt = none → text = []

/-- The buffer holds a text, and the comment has ended. -/
def HoldsFirstComment (s : DigestSt dMaxLen) (text : List Char) : Prop :=
  ∃ block, s.fstCmnt = some block ∧ block.cells.take text.length = text ∧
    block.cells[text.length]? = some nul

namespace DigestSt

variable {s : DigestSt dMaxLen} {text : List Char}

theorem keepCmntChar_frame (c : Char) :
    Meets Any (s.keepCmntChar c) (fun t => ∃ block, t = { s with
      curCmdCmnt := block
      cmntType1St := { s.cmntType1St with
        curCmdCmntLen := s.cmntType1St.curCmdCmntLen + 1 } }) :=
  (keepCmntChar_meets (Or.inl trivial : True ∨ _) c).mono (fun _ _ => trivial) fun _ ht => ht

theorem endKeptCmnt_frame :
    Meets Any s.endKeptCmnt (fun t => ∃ block, t = { s with curCmdCmnt := block }) :=
  (endKeptCmnt_meets (Or.inl trivial : True ∨ _)).mono (fun _ _ => trivial) fun _ ht => ht

theorem fstCmntChar_tracks
    (h : Tracks s.cmntType1St s.fstCmnt text)
    (c : Char) :
    Meets Any (s.fstCmntChar c) (fun t => ∃ f, t = { s with
      fstCmnt := some f
      cmntType1St := { s.cmntType1St with fstCmntLen := s.cmntType1St.fstCmntLen + 1 } } ∧
        Tracks t.cmntType1St t.fstCmnt (text ++ [c])) := by
  unfold fstCmntChar writeFstCmnt
  split
  case h_1 =>
    exact Meets.error trivial
  case h_2 block hblock =>
    split
    case h_2 =>
      exact Meets.error trivial
    case h_1 f hwrite =>
      refine Meets.ok ⟨f, rfl, ?_, h.isOpen, ?_, nofun⟩
      · rw [List.length_append]
        exact congrArg (· + 1) h.len
      · intro _ heq
        obtain rfl := Option.some.inj heq
        rw [h.len] at hwrite
        rw [List.length_append, List.length_singleton, Block.take_succ_write hwrite, h.cells block hblock]

theorem allocFstCmnt_tracks (h : Tracks s.cmntType1St s.fstCmnt text) :
    Meets Any s.allocFstCmnt (fun t => ∃ f, t = { s with fstCmnt := f } ∧
      Tracks t.cmntType1St t.fstCmnt text) := by
  unfold allocFstCmnt
  split
  case isTrue hnone =>
    obtain rfl := h.none (Option.isNone_iff_eq_none.mp hnone)
    obtain ⟨block, hwrite⟩ := writeFstCmnt_ok (s := { s with
      fstCmnt := some (Block.ofFn (fun _ => nul) firstCommentMaxLength) }) nofun
      (show firstCommentMaxLength - 1 < firstCommentMaxLength by decide) nul
    rw [hwrite]
    exact Meets.ok ⟨some block, rfl, h.len, h.isOpen, fun _ _ => rfl, nofun⟩
  case isFalse =>
    exact Meets.ok ⟨s.fstCmnt, rfl, h⟩

theorem copyCmntChar_tracks
    (h : Tracks s.cmntType1St s.fstCmnt text)
    (hlen : text.length < firstCommentMaxLength - 1)
    (hpos : s.qCurPos ≤ q.length) :
    Meets Any (s.copyCmntChar q opts) (fun t => ∃ c f block,
      t = { s with cmntType1St := c, fstCmnt := f, curCmdCmnt := block } ∧
        Tracks c f (text ++ [commentChar (char q s.qCurPos)]) ∧
          c.nestLevel = s.cmntType1St.nestLevel ∧
            c.curCmdCmntLen ≤ s.cmntType1St.curCmdCmntLen + 1) := by
  rw [copyCmntChar, readQuery_ok hpos]
  refine Meets.ok_bind (Meets.bind (R := fun t => ∃ n block, t = { s with
    cmntType1St := { s.cmntType1St with curCmdCmntLen := n }
    curCmdCmnt := block } ∧ n ≤ s.cmntType1St.curCmdCmntLen + 1) ?_ ?_)
  · refine Meets.ite (fun _ => ?_) fun _ => Meets.ok ⟨_, _, rfl, Nat.le_succ _⟩
    refine (keepCmntChar_frame _).imp ?_
    rintro _ ⟨block, rfl⟩
    exact ⟨_, _, rfl, Nat.le_refl _⟩
  · rintro _ ⟨n, block, rfl, hn⟩
    have htracks : Tracks { s.cmntType1St with curCmdCmntLen := n } s.fstCmnt text :=
      { h with }
    refine Meets.ite (fun _ => ?_) fun hno => ?_
    · refine (allocFstCmnt_tracks (s := { s with
        cmntType1St := { s.cmntType1St with curCmdCmntLen := n }
        curCmdCmnt := block }) htracks).bind ?_
      rintro _ ⟨f, rfl, hf⟩
      refine (fstCmntChar_tracks hf (commentChar (char q s.qCurPos))).imp ?_
      rintro _ ⟨f', rfl, hf'⟩
      exact ⟨_, _, _, rfl, hf', rfl, hn⟩
    · refine absurd ⟨h.isOpen, ?_⟩ hno
      rw [h.len]
      exact hlen

/-- The initial mark of a comment is not part of its text, but those of the comments in it are. -/
def openText (nestLevel : Nat) (text : List Char) : List Char :=
  if nestLevel = 0 then text else text ++ ['/', '*']

theorem openCmntType1_tracks
    (h : Tracks s.cmntType1St s.fstCmnt text)
    (hpos : s.qCurPos + 2 ≤ q.length)
    (hslash : char q s.qCurPos = '/')
    (hstar : char q (s.qCurPos + 1) = '*')
    (hlen : text.length < firstCommentMaxLength - 2)
    (hkept : 0 < s.cmntType1St.nestLevel → s.cmntType1St.curCmdCmntLen ≤ text.length + 2) :
    Meets Any (s.openCmntType1 q opts) (fun t => ∃ c f block, t = { s with
      cmntType1St := c
      fstCmnt := f
      curCmdCmnt := block
      qCurPos := s.qCurPos + 2 } ∧ c.nestLevel = s.cmntType1St.nestLevel + 1 ∧
        Tracks c f (openText s.cmntType1St.nestLevel text) ∧
          c.curCmdCmntLen ≤ (openText s.cmntType1St.nestLevel text).length + 2) := by
  -- the state with the length that the kept comment has before the mark
  obtain ⟨n, hn, hnle⟩ : ∃ n, (if s.cmntType1St.nestLevel = 0 then
        { s with cmntType1St := { s.cmntType1St with curCmdCmntLen := 0 } } else s) =
        { s with cmntType1St := { s.cmntType1St with curCmdCmntLen := n } } ∧
      n + 2 ≤ (openText s.cmntType1St.nestLevel text).length + 2 := by
    unfold openText
    by_cases hzero : s.cmntType1St.nestLevel = 0
    · rw [if_pos hzero, if_pos hzero]
      exact ⟨0, rfl, by omega⟩
    · rw [if_neg hzero, if_neg hzero]
      have hle := hkept (Nat.pos_of_ne_zero hzero)
      refine ⟨s.cmntType1St.curCmdCmntLen, rfl, ?_⟩
      rw [List.length_append]
      change _ ≤ text.length + 2 + 2
      omega
  unfold openCmntType1
  rw [hn]
  dsimp only
  rw [readQuery_ok (Nat.le_of_add_right_le hpos), readQuery_ok (Nat.le_of_succ_le hpos), hslash, hstar]
  refine Meets.ok_bind (Meets.ok_bind (Meets.bind (R := fun t => ∃ m block, t = { s with
    cmntType1St := { s.cmntType1St with
      nestLevel := s.cmntType1St.nestLevel + 1, curCmdCmntLen := m }
    curCmdCmnt := block } ∧ m ≤ n + 2) ?_ ?_))
  · refine Meets.ite (fun _ => ?_) fun _ => Meets.ok ⟨_, _, rfl, Nat.le_add_right _ _⟩
    refine (keepCmntChar_frame _).bind ?_
    rintro _ ⟨block, rfl⟩
    refine (keepCmntChar_frame _).imp ?_
    rintro _ ⟨block', rfl⟩
    exact ⟨_, _, rfl, Nat.le_refl _⟩
  · rintro _ ⟨m, block, rfl, hm⟩
    have htracks : Tracks { s.cmntType1St with
        nestLevel := s.cmntType1St.nestLevel + 1, curCmdCmntLen := m } s.fstCmnt text :=
      { h with }
    refine Meets.bind (R := fun t => ∃ c f, t = { s with
      cmntType1St := c
      fstCmnt := f
      curCmdCmnt := block } ∧ c.nestLevel = s.cmntType1St.nestLevel + 1 ∧
        c.curCmdCmntLen = m ∧ Tracks c f (openText s.cmntType1St.nestLevel text)) ?_ ?_
    · unfold openText
      refine Meets.ite (fun hnested => any_bind fun _ => ?_) fun hfirst => Meets.ok ?_
      · rw [if_neg (Nat.ne_zero_of_lt (Nat.lt_of_succ_lt_succ hnested.2.1))]
        refine (fstCmntChar_tracks (s := { s with
          cmntType1St := { s.cmntType1St with
            nestLevel := s.cmntType1St.nestLevel + 1, curCmdCmntLen := m }
          curCmdCmnt := block }) htracks '/').bind ?_
        rintro _ ⟨f, rfl, hf⟩
        refine (fstCmntChar_tracks hf '*').imp ?_
        rintro _ ⟨f', rfl, hf'⟩
        rw [List.append_assoc] at hf'
        exact ⟨_, _, rfl, rfl, rfl, hf'⟩
      · rw [if_pos ?_]
        · exact ⟨_, _, rfl, rfl, rfl, htracks⟩
        · refine Nat.eq_zero_of_not_pos fun hnest => hfirst ⟨h.isOpen, Nat.succ_lt_succ hnest, ?_⟩
          rw [h.len]
          exact hlen
    · rintro _ ⟨c, f, rfl, hnest, rfl, htracks'⟩
      exact Meets.ok ⟨_, _, _, rfl, hnest, htracks', Nat.le_trans hm hnle⟩

/-! ## The end of the comment -/

theorem emit_frame (c : Char) :
    Meets Any (s.emit c) (fun t => ∃ res cur, t = { s with res := res, resCurPos := cur }) := by
  refine Meets.bind (R := fun t => ∃ res, t = { s with res := res }) ?_ ?_
  · unfold writeRes
    split
    · exact Meets.ok ⟨_, rfl⟩
    · exact Meets.error trivial
  · rintro _ ⟨res, rfl⟩
    exact Meets.ok ⟨_, _, rfl⟩

theorem emitAll_frame (cs : List Char) :
    Meets Any (s.emitAll cs) (fun t => ∃ res cur, t = { s with res := res, resCurPos := cur }) := by
  induction cs generalizing s with
  | nil =>
      exact Meets.ok ⟨_, _, rfl⟩
  | cons c cs ih =>
      refine (emit_frame c).bind ?_
      rintro _ ⟨res, cur, rfl⟩
      refine ih.imp ?_
      rintro _ ⟨res', cur', rfl⟩
      exact ⟨_, _, rfl⟩

/-- What a comment that is kept leaves alone when it goes to the result -/
theorem emitKeptCmnt_frame :
    Meets Any s.emitKeptCmnt (fun t => ∃ res cur n block, t = { s with
      res := res
      resCurPos := cur
      cmntType1St := { s.cmntType1St with curCmdCmntLen := n }
      curCmdCmnt := block }) := by
  refine endKeptCmnt_frame.bind ?_
  rintro _ ⟨block, rfl⟩
  refine (emitAll_frame _).bind ?_
  rintro _ ⟨res, cur, rfl⟩
  refine any_bind fun last => Meets.bind (R := fun t => ∃ res cur, t = { s with
    res := res, resCurPos := cur, curCmdCmnt := block }) ?_ ?_
  · exact Meets.ite (fun _ => emit_frame ' ') fun _ => Meets.ok ⟨_, _, rfl⟩
  · rintro _ ⟨res', cur', rfl⟩
    exact Meets.ok ⟨_, _, _, _, rfl⟩

variable {body : List Char}

theorem closeCmntType1_holds
    (h : Tracks s.cmntType1St s.fstCmnt (body ++ ['*', '/'])) :
    Meets Any (s.closeCmntType1 opts) (fun t => HoldsFirstComment t body ∧
      t.cmntType1St.fstCmntEnd = true) := by
  refine Meets.bind (R := fun t => ∃ res cur n block, t = { s with
    res := res
    resCurPos := cur
    cmntType1St := { s.cmntType1St with curCmdCmntLen := n }
    curCmdCmnt := block }) ?_ ?_
  · exact Meets.ite (fun _ => emitKeptCmnt_frame) fun _ => Meets.ok ⟨_, _, _, _, rfl⟩
  rintro _ ⟨res, cur, n, block, rfl⟩
  refine any_bind fun spaceless => Meets.bind (R := fun t => ∃ res cur, t = { s with
    res := res
    resCurPos := cur
    cmntType1St := { s.cmntType1St with curCmdCmntLen := n }
    curCmdCmnt := block }) ?_ ?_
  · exact Meets.ite (fun _ => emit_frame ' ') fun _ => Meets.ok ⟨_, _, rfl⟩
  rintro _ ⟨res', cur', rfl⟩
  have hlen : s.cmntType1St.fstCmntLen = body.length + 2 :=
    h.len.trans List.length_append
  have hsome : s.fstCmnt ≠ none := by
    intro hnone
    have hnil := congrArg List.length (h.none hnone)
    rw [List.length_append] at hnil
    exact absurd hnil (Nat.succ_ne_zero _)
  obtain ⟨f, hf⟩ := Option.ne_none_iff_exists'.mp hsome
  dsimp only
  rw [if_pos ⟨h.isOpen, Option.isSome_iff_ne_none.mpr hsome, by rw [hlen]; exact Nat.le_add_left _ _⟩,
    hlen, Nat.add_sub_cancel]
  unfold endFstCmnt
  rw [if_pos ⟨h.isOpen, Option.isSome_iff_ne_none.mpr hsome⟩]
  unfold writeFstCmnt
  dsimp only
  rw [hf]
  dsimp only
  split
  case h_2 =>
    exact Meets.error trivial
  case h_1 f' hwrite =>
    refine Meets.ok ⟨⟨f', rfl, ?_, ?_⟩, rfl⟩
    · rw [Block.take_write hwrite (Nat.le_refl _)]
      have hcells := congrArg (List.take body.length) (h.cells f hf)
      rw [List.take_take, List.take_left, List.length_append, Nat.min_eq_left (Nat.le_add_right _ _)]
        at hcells
      exact hcells
    · rw [← Block.read_natCast]
      exact Block.read_write_eq hwrite

/-! ## A round in a comment -/

theorem closes_ok (hpos : s.qCurPos ≤ q.length) :
    both (.ok (s.prevChar == '*')) (isAt q s.qCurPos '/') =
      .ok (decide (s.prevChar = '*' ∧ char q s.qCurPos = '/')) := by
  rw [both_ok_left rfl, isAt_ok hpos]
  by_cases hstar : s.prevChar = '*'
  · rw [if_pos (beq_iff_eq.mpr hstar), Bool.decide_and, decide_eq_true hstar]
    rfl
  · rw [if_neg (fun h => hstar (eq_of_beq h)), Bool.decide_and, decide_eq_false hstar]
    rfl

theorem continueCmntType1_inner
    (h : Tracks s.cmntType1St s.fstCmnt text)
    (hlen : text.length < firstCommentMaxLength - 1)
    (hpos : s.qCurPos + 1 < q.length)
    (hinner : s.prevChar = '*' → char q s.qCurPos = '/' → 1 < s.cmntType1St.nestLevel)
    (hnest : 0 < s.cmntType1St.nestLevel) :
    Meets Any (s.continueCmntType1 q opts) (fun r => r.1 = .cmntType1 ∧ ∃ c f block,
      r.2 = { s with cmntType1St := c, fstCmnt := f, curCmdCmnt := block } ∧
        Tracks c f (text ++ [commentChar (char q s.qCurPos)]) ∧
        c.nestLevel = (if s.prevChar = '*' ∧ char q s.qCurPos = '/' then
          s.cmntType1St.nestLevel - 1 else s.cmntType1St.nestLevel) ∧
        c.curCmdCmntLen ≤ s.cmntType1St.curCmdCmntLen + 1) := by
  refine (copyCmntChar_tracks h hlen (by omega)).bind ?_
  rintro _ ⟨c, f, block, rfl, htracks, hnest', hkept⟩
  change Meets _ (both (.ok (s.prevChar == '*')) (isAt q s.qCurPos '/') >>= _) _
  rw [closes_ok (by omega)]
  refine Meets.ok_bind ?_
  by_cases hmark : s.prevChar = '*' ∧ char q s.qCurPos = '/'
  · have hmore := hinner hmark.1 hmark.2
    rw [decide_eq_true hmark, if_pos hmark]
    have hnested : true = true ∧ c.nestLevel > 0 := ⟨rfl, by rw [hnest']; exact hnest⟩
    have houter : (c.nestLevel - 1 == 0) = false := by
      rw [hnest']
      exact beq_false_of_ne (by omega)
    dsimp only
    rw [if_pos hnested, houter]
    refine Meets.ok_bind (Meets.ite (fun hend => ?_) fun _ => Meets.ok ?_)
    · exact absurd hpos (Nat.not_lt_of_le hend)
    · exact ⟨rfl, _, _, _, rfl, { htracks with }, by rw [hnest'], hkept⟩
  · rw [decide_eq_false hmark, if_neg hmark]
    refine Meets.ok_bind (Meets.ite (fun hend => ?_) fun _ => Meets.ok ?_)
    · exact absurd hpos (Nat.not_lt_of_le hend)
    · exact ⟨rfl, _, _, _, rfl, htracks, hnest', hkept⟩

theorem endCmntAtQueryEnd_st :
    Meets Any (s.endCmntAtQueryEnd opts) (fun r => r.1 = .noMarkFound) :=
  any_bind fun _ => any_bind fun _ => Meets.ok rfl

theorem continueCmntType1_outer
    (h : Tracks s.cmntType1St s.fstCmnt (body ++ ['*']))
    (hlen : body.length + 1 < firstCommentMaxLength - 1)
    (hpos : s.qCurPos ≤ q.length)
    (hstar : s.prevChar = '*')
    (hslash : char q s.qCurPos = '/')
    (hnest : s.cmntType1St.nestLevel = 1) :
    Meets Any (s.continueCmntType1 q opts) (fun r => r.1 = .noMarkFound ∧
      HoldsFirstComment r.2 body ∧ r.2.cmntType1St.fstCmntEnd = true) := by
  refine (copyCmntChar_tracks h (by rw [List.length_append]; exact hlen) hpos).bind ?_
  rintro _ ⟨c, f, block, rfl, htracks, hnest', -⟩
  rw [hslash, List.append_assoc] at htracks
  change Meets _ (both (.ok (s.prevChar == '*')) (isAt q s.qCurPos '/') >>= _) _
  rw [closes_ok hpos, decide_eq_true ⟨hstar, hslash⟩]
  refine Meets.ok_bind ?_
  have hnested : true = true ∧ c.nestLevel > 0 :=
    ⟨rfl, by rw [hnest', hnest]; exact Nat.zero_lt_one⟩
  have houter : (c.nestLevel - 1 == 0) = true := by
    rw [hnest', hnest]
    rfl
  dsimp only
  rw [if_pos hnested, houter]
  have hclosed : Meets Any (closeCmntType1 opts { s with
      cmntType1St := { c with nestLevel := c.nestLevel - 1 }, fstCmnt := f, curCmdCmnt := block })
      (fun t => HoldsFirstComment t body ∧ t.cmntType1St.fstCmntEnd = true) :=
    closeCmntType1_holds { htracks with }
  refine Meets.bind hclosed fun t ht => Meets.ite (fun _ => ?_) fun _ => Meets.ok ⟨rfl, ht⟩
  refine (endCmntAtQueryEnd_retains.and endCmntAtQueryEnd_st).imp fun r hr => ⟨hr.2, ?_⟩
  obtain ⟨hfst, hend⟩ := hr.1.fst ht.2
  refine ⟨?_, hend⟩
  rw [HoldsFirstComment, hfst]
  exact ht.1

/-- What the function of the state leaves where the comment goes on -/
structure Reads (text : List Char) (depth pos : Nat) (r : ParseSt × DigestSt dMaxLen) : Prop where
  st : r.1 = .cmntType1
  tracks : Tracks r.2.cmntType1St r.2.fstCmnt text
  nest : r.2.cmntType1St.nestLevel = depth + 1
  kept : r.2.cmntType1St.curCmdCmntLen ≤ text.length + 2
  pos : r.2.qCurPos = pos

theorem begins_ok (pos : Nat) :
    both (.ok (decide (pos + 2 ≤ q.length))) (both (isAt q pos '/') (isAt q (pos + 1) '*')) =
      .ok (decide (pos + 2 ≤ q.length ∧ char q pos = '/' ∧ char q (pos + 1) = '*')) := by
  rw [both_ok_left rfl]
  by_cases hlen : pos + 2 ≤ q.length
  · rw [if_pos (decide_eq_true hlen), both_ok_left (isAt_ok (by omega) '/'), isAt_ok (by omega)]
    by_cases hslash : char q pos = '/'
    · rw [if_pos (beq_iff_eq.mpr hslash), Bool.decide_and, Bool.decide_and, decide_eq_true hlen,
        decide_eq_true hslash]
      rfl
    · rw [if_neg (fun h => hslash (eq_of_beq h)), Bool.decide_and, Bool.decide_and,
        decide_eq_false hslash, Bool.false_and, Bool.and_false]
  · rw [if_neg (fun h => hlen (of_decide_eq_true h)), Bool.decide_and, decide_eq_false hlen,
      Bool.false_and]

theorem processCmntType1_of_not_begins
    (hno : ¬ (char q s.qCurPos = '/' ∧ char q (s.qCurPos + 1) = '*')) :
    s.processCmntType1 q opts = s.continueCmntType1 q opts := by
  change (both (.ok (decide (s.qCurPos + 2 ≤ q.length)))
    (both (isAt q s.qCurPos '/') (isAt q (s.qCurPos + 1) '*')) >>= _) = _
  rw [begins_ok, decide_eq_false fun h => hno h.2]
  rfl

theorem processCmntType1_char
    (h : Tracks s.cmntType1St s.fstCmnt text)
    (hlen : text.length < firstCommentMaxLength - 1)
    (hpos : s.qCurPos + 1 < q.length)
    (hnest : s.cmntType1St.nestLevel = depth + 1)
    (hkept : s.cmntType1St.curCmdCmntLen ≤ text.length + 2)
    (hno : ¬ (char q s.qCurPos = '/' ∧ char q (s.qCurPos + 1) = '*'))
    (hinner : s.prevChar = '*' → char q s.qCurPos = '/' → 0 < depth) :
    Meets Any (s.processCmntType1 q opts) (Reads (text ++ [commentChar (char q s.qCurPos)])
      (if s.prevChar = '*' ∧ char q s.qCurPos = '/' then depth - 1 else depth) s.qCurPos) := by
  rw [processCmntType1_of_not_begins hno]
  refine (continueCmntType1_inner h hlen hpos (fun hstar hslash => ?_) (by omega)).imp ?_
  · rw [hnest]
    exact Nat.succ_lt_succ (hinner hstar hslash)
  · rintro ⟨st, t⟩ ⟨hst, c, f, block, rfl, htracks, hnest', hkept'⟩
    refine ⟨hst, htracks, ?_, ?_, rfl⟩
    · dsimp only
      rw [hnest', hnest]
      split
      case isTrue hmark =>
        have hpos' := hinner hmark.1 hmark.2
        omega
      case isFalse =>
        rfl
    · rw [List.length_append]
      exact Nat.le_trans hkept' (by rw [List.length_singleton]; omega)

theorem processCmntType1_open
    (h : Tracks s.cmntType1St s.fstCmnt text)
    (hlen : text.length < firstCommentMaxLength - 3)
    (hpos : s.qCurPos + 3 < q.length)
    (hkept : 0 < s.cmntType1St.nestLevel → s.cmntType1St.curCmdCmntLen ≤ text.length + 2)
    (hslash : char q s.qCurPos = '/')
    (hstar : char q (s.qCurPos + 1) = '*')
    (hstale : s.prevChar = '*' → char q (s.qCurPos + 2) ≠ '/') :
    Meets Any (s.processCmntType1 q opts) (Reads
      (openText s.cmntType1St.nestLevel text ++ [commentChar (char q (s.qCurPos + 2))])
      s.cmntType1St.nestLevel (s.qCurPos + 2)) := by
  change Meets _ (both (.ok (decide (s.qCurPos + 2 ≤ q.length)))
    (both (isAt q s.qCurPos '/') (isAt q (s.qCurPos + 1) '*')) >>= _) _
  rw [begins_ok, decide_eq_true ⟨by omega, hslash, hstar⟩]
  refine Meets.ok_bind (Meets.bind (openCmntType1_tracks h (by omega) hslash hstar (by omega) hkept) ?_)
  rintro _ ⟨c, f, block, rfl, hnest, htracks, hkept'⟩
  refine Meets.ite (fun hend => ?_) fun _ => ?_
  · exact absurd hpos (Nat.not_lt_of_le hend)
  have hopen : (openText s.cmntType1St.nestLevel text).length ≤ text.length + 2 := by
    unfold openText
    split
    · exact Nat.le_add_right _ _
    · exact Nat.le_of_eq List.length_append
  refine (continueCmntType1_inner (s := { s with
    cmntType1St := c
    fstCmnt := f
    curCmdCmnt := block
    qCurPos := s.qCurPos + 2 }) htracks (by omega) hpos
    (fun hprev hclose => absurd hclose (hstale hprev)) ?_).imp ?_
  · dsimp only
    omega
  · rintro ⟨st, t⟩ ⟨hst, c', f', block', rfl, htracks', hnest', hkept''⟩
    refine ⟨hst, htracks', ?_, ?_, rfl⟩
    · dsimp only at hnest' ⊢
      rw [hnest', if_neg fun hmark => hstale hmark.1 hmark.2, hnest]
    · rw [List.length_append]
      dsimp only at hkept'' ⊢
      exact Nat.le_trans hkept'' (by rw [List.length_singleton]; omega)

/-! ## Rounds of the loop in a comment -/

/-- The state of comments is current, and can read on without a fault. -/
structure CanRead (q : List Char) (opts : Options) (s : DigestSt dMaxLen) : Prop where
  st : s.st = .cmntType1
  room : s.resCurPos < dMaxLen
  pos : s.qCurPos < q.length
  keep : s.keepPrevChar = false
  inv : CmntInv False opts s.cmntType1St s.fstCmnt
  allocated : s.fstCmnt = none → s.cmntType1St.nestLevel = 0
  fits : ¬ NestsFull q opts s
  begins : 0 < s.cmntType1St.nestLevel ∨
    s.qCurPos + 2 < q.length ∧ char q s.qCurPos = '/' ∧ char q (s.qCurPos + 1) = '*'

theorem CanRead.process
    {R : ParseSt × DigestSt dMaxLen → Prop}
    (h : CanRead q opts s)
    (hR : Meets Any (processCmntType1 q opts { s with copyNext := false }) R) :
    ∃ r, processCmntType1 q opts { s with copyNext := false } = .ok r ∧
      CmntStep False q opts { s with copyNext := false } r ∧ R r := by
  have hmeets := (processCmntType1_meets (s := { s with copyNext := false }) h.inv h.allocated h.st
    (Or.inr h.fits) h.room h.pos h.begins).and hR
  obtain ⟨r, hr, hstep, hRr⟩ := (hmeets.mono (fun _ he => he.1) fun _ hr => hr).exists_ok
  exact ⟨r, hr, hstep.1, hRr⟩

/-- The loop is in a comment whose text so far is in the buffer. -/
structure InComment (opts : Options) (text : List Char) (depth : Nat) (s : DigestSt dMaxLen) :
    Prop where
  st : s.st = .cmntType1
  room : s.resCurPos < dMaxLen
  keep : s.keepPrevChar = false
  nest : s.cmntType1St.nestLevel = depth + 1
  tracks : Tracks s.cmntType1St s.fstCmnt text
  kept : s.cmntType1St.curCmdCmntLen ≤ text.length + 2
  inv : CmntInv False opts s.cmntType1St s.fstCmnt
  allocated : s.fstCmnt ≠ none

theorem InComment.canRead
    (h : InComment opts text depth s)
    (hpos : s.qCurPos < q.length)
    (hfits : char q s.qCurPos = '/' → char q (s.qCurPos + 1) = '*' →
      text.length + 4 < firstCommentMaxLength) :
    CanRead q opts s := by
  refine ⟨h.st, h.room, hpos, h.keep, h.inv, fun hnone => absurd hnone h.allocated, ?_,
    Or.inl (by rw [h.nest]; exact Nat.succ_pos _)⟩
  rintro ⟨-, -, -, hslash, hstar, hfull⟩
  have hlt := hfits hslash hstar
  have hkept := h.kept
  omega

theorem stage1Step_of_reads
    {depth pos : Nat}
    (h : CanRead q opts s)
    (hreads : Meets Any (processCmntType1 q opts { s with copyNext := false })
      (Reads text depth pos)) :
    ∃ t, s.stage1Step q opts = .ok (t, true) ∧ InComment opts text depth t ∧
      t.qCurPos = pos + 1 ∧ t.prevChar = char q pos := by
  obtain ⟨⟨st, t⟩, hprocess, hstep, hst, htracks, hnest, hkept, hpos⟩ := h.process hreads
  have hmark : s.st ≠ .noMarkFound := by
    rw [h.st]
    exact ParseSt.noConfusion
  have hnext : st ≠ .noMarkFound := by
    intro heq
    exact ParseSt.noConfusion (hst.symm.trans heq)
  obtain ⟨-, -, hsome, hlt, hcur⟩ := hstep.goesOn hnext
  obtain ⟨res, cur, prev, c, f, block, pos', rfl⟩ := hstep.frame
  dsimp only at hst htracks hnest hkept hpos hsome hlt hcur
  subst hst hpos hcur
  refine ⟨{ s with
    res := res
    st := .cmntType1
    prevChar := char q pos'
    copyNext := false
    cmntType1St := c
    fstCmnt := f
    curCmdCmnt := block
    qCurPos := pos' + 1 }, ?_, ⟨rfl, h.room, h.keep, hnest, htracks, hkept, hstep.inv, hsome⟩,
    rfl, rfl⟩
  rw [stage1Step, if_pos ⟨h.room, h.pos⟩, if_neg hmark, markStep, process_of_cmntType1 h.st, hprocess]
  change (incProcPos _ _ >>= _) = _
  rw [incProcPos, if_pos h.keep, readQuery_ok (Nat.le_of_lt hlt)]
  rfl

theorem stage1Step_of_ends
    (h : CanRead q opts s)
    (hends : Meets Any (processCmntType1 q opts { s with copyNext := false }) (fun r =>
      r.1 = .noMarkFound ∧ HoldsFirstComment r.2 body ∧ r.2.cmntType1St.fstCmntEnd = true)) :
    ∃ t, s.stage1Step q opts = .ok (t, true) ∧ HoldsFirstComment t body ∧
      t.cmntType1St.fstCmntEnd = true := by
  obtain ⟨⟨st, t⟩, hprocess, -, hst, hholds, hend⟩ := h.process hends
  have hmark : s.st ≠ .noMarkFound := by
    rw [h.st]
    exact ParseSt.noConfusion
  have hnumber : s.st ≠ .literalNumber := by
    rw [h.st]
    exact ParseSt.noConfusion
  dsimp only at hst hholds hend
  subst hst
  refine ⟨{ t with st := .noMarkFound, copyNext := true }, ?_, hholds, hend⟩
  rw [stage1Step, if_pos ⟨h.room, h.pos⟩, if_neg hmark, markStep, process_of_cmntType1 h.st, hprocess,
    ok_bind]
  dsimp only
  rw [if_pos rfl, if_neg hnumber]
  rfl

/-! ## A whole comment -/

variable {cs : List Char}

theorem char_of_drop
    {pos : Nat} {c : Char}
    (h : q.drop pos = c :: cs) :
    pos < q.length ∧ char q pos = c ∧ q.drop (pos + 1) = cs := by
  have hlen : pos < q.length := by
    have hdrop := congrArg List.length h
    rw [List.length_drop, List.length_cons] at hdrop
    omega
  rw [List.drop_eq_getElem_cons hlen] at h
  injection h with hc hcs
  refine ⟨hlen, ?_, hcs⟩
  rw [char, List.getD_eq_getElem?_getD, List.getElem?_eq_getElem hlen]
  exact hc

/-- Rounds of the loop end the comment, with a text in the buffer. -/
def Closes (q : List Char) (opts : Options) (text : List Char) (s : DigestSt dMaxLen) : Prop :=
  ∃ t, Rounds (stage1Step q opts) s t ∧ HoldsFirstComment t text ∧
    t.cmntType1St.fstCmntEnd = true

theorem Closes.of_rounds
    {t : DigestSt dMaxLen}
    (hrounds : Rounds (stage1Step q opts) s t)
    (h : Closes q opts text t) :
    Closes q opts text s := by
  obtain ⟨u, hrounds', hu⟩ := h
  exact ⟨u, hrounds.trans hrounds', hu⟩

theorem InComment.round_char
    {c d : Char}
    (h : InComment opts text depth s)
    (hdrop : q.drop s.qCurPos = c :: d :: cs)
    (hlen : text.length < firstCommentMaxLength - 1)
    (hbegins : ¬ (c = '/' ∧ d = '*'))
    (hinner : s.prevChar = '*' → c = '/' → 0 < depth) :
    ∃ t, s.stage1Step q opts = .ok (t, true) ∧ q.drop t.qCurPos = d :: cs ∧ t.prevChar = c ∧
      InComment opts (text ++ [commentChar c])
        (if s.prevChar = '*' ∧ c = '/' then depth - 1 else depth) t := by
  obtain ⟨hpos, rfl, hdrop'⟩ := char_of_drop hdrop
  obtain ⟨hpos', rfl, -⟩ := char_of_drop hdrop'
  obtain ⟨t, hstep, ht, hcur, hprev⟩ := stage1Step_of_reads
    (h.canRead hpos fun hslash hstar => absurd ⟨hslash, hstar⟩ hbegins)
    (processCmntType1_char (s := { s with copyNext := false }) h.tracks hlen hpos' h.nest h.kept
      hbegins hinner)
  refine ⟨t, hstep, ?_, hprev, ht⟩
  rw [hcur]
  exact hdrop'

theorem InComment.round_open
    {c : Char}
    (h : InComment opts text depth s)
    (hdrop : q.drop s.qCurPos = '/' :: '*' :: c :: cs)
    (hmore : cs ≠ [])
    (hlen : text.length < firstCommentMaxLength - 4)
    (hprev : s.prevChar ≠ '*') :
    ∃ t, s.stage1Step q opts = .ok (t, true) ∧ q.drop t.qCurPos = cs ∧ t.prevChar = c ∧
      InComment opts (text ++ ['/', '*'] ++ [commentChar c]) (depth + 1) t := by
  obtain ⟨hpos, hslash, hdrop₁⟩ := char_of_drop hdrop
  obtain ⟨-, hstar, hdrop₂⟩ := char_of_drop hdrop₁
  obtain ⟨-, rfl, hdrop₃⟩ := char_of_drop hdrop₂
  have hpos' : s.qCurPos + 3 < q.length := by
    obtain ⟨d, cs', rfl⟩ := List.exists_cons_of_ne_nil hmore
    exact (char_of_drop hdrop₃).1
  have hreads : Meets Any (processCmntType1 q opts { s with copyNext := false }) _ :=
    processCmntType1_open h.tracks (Nat.lt_of_lt_of_le hlen (by omega)) hpos' (fun _ => h.kept)
      hslash hstar (fun hstale => absurd hstale hprev)
  have hopen : openText s.cmntType1St.nestLevel text = text ++ ['/', '*'] := by
    rw [openText, h.nest, if_neg (Nat.succ_ne_zero _)]
  dsimp only at hreads
  rw [hopen, h.nest] at hreads
  obtain ⟨t, hstep, ht, hcur, hprev'⟩ := stage1Step_of_reads
    (h.canRead hpos fun _ _ => by omega) hreads
  refine ⟨t, hstep, ?_, hprev', ht⟩
  rw [hcur]
  exact hdrop₃

theorem InComment.round_end
    (h : InComment opts (text ++ ['*']) 0 s)
    (hdrop : q.drop s.qCurPos = '/' :: cs)
    (hbegins : cs.head? ≠ some '*')
    (hlen : text.length + 1 < firstCommentMaxLength - 1)
    (hprev : s.prevChar = '*') :
    Closes q opts text s := by
  obtain ⟨hpos, hslash, hdrop'⟩ := char_of_drop hdrop
  have hno : ¬ (char q s.qCurPos = '/' ∧ char q (s.qCurPos + 1) = '*') := by
    rintro ⟨-, hstar⟩
    cases cs with
    | nil =>
        rw [char, List.getD_eq_getElem?_getD,
          List.getElem?_eq_none (List.drop_eq_nil_iff.mp hdrop')] at hstar
        exact absurd hstar (by decide)
    | cons d cs =>
        rw [(char_of_drop hdrop').2.1] at hstar
        exact hbegins (congrArg some hstar)
  have hends : Meets Any (continueCmntType1 q opts { s with copyNext := false }) _ :=
    continueCmntType1_outer h.tracks hlen (Nat.le_of_lt hpos) hprev hslash h.nest
  rw [← processCmntType1_of_not_begins (s := { s with copyNext := false }) hno] at hends
  obtain ⟨t, hstep, ht⟩ := stage1Step_of_ends
    (h.canRead hpos fun hslash hstar => absurd ⟨hslash, hstar⟩ hno) hends
  exact ⟨t, Rounds.refl.round hstep, ht⟩

/-- What is right behind the position that the loop has reached: either the loop has read nothing
of the text from there on, or it has read the first character of it, for one that is no mark. -/
def At (q : List Char) (opts : Options) (text : List Char) (depth : Nat) (cs : List Char)
    (s : DigestSt dMaxLen) : Prop :=
  (InComment opts text depth s ∧ q.drop s.qCurPos = cs ∧ (s.prevChar = '*' → cs.head? ≠ some '/')) ∨
  ∃ c cs', cs = c :: cs' ∧ InComment opts (text ++ [commentChar c]) depth s ∧
    q.drop s.qCurPos = cs' ∧ s.prevChar = c ∧ (c = '/' → cs'.head? ≠ some '*')

/-- The character at the position is read, if it begins no mark. -/
theorem At.read
    {c d : Char}
    (h : At q opts text depth (c :: d :: cs) s)
    (hbegins : ¬ (c = '/' ∧ d = '*'))
    (hlen : text.length < firstCommentMaxLength - 1) :
    ∃ t, Rounds (stage1Step q opts) s t ∧ InComment opts (text ++ [commentChar c]) depth t ∧
      q.drop t.qCurPos = d :: cs ∧ t.prevChar = c := by
  rcases h with ⟨hin, hdrop, hprev⟩ | ⟨c', cs', heq, hin, hdrop, hprev, -⟩
  · have hno : s.prevChar = '*' → c ≠ '/' := fun hstar hslash => hprev hstar (congrArg some hslash)
    obtain ⟨t, hstep, hdrop', hprev', ht⟩ := hin.round_char hdrop hlen hbegins
      (fun hstar hslash => absurd hslash (hno hstar))
    rw [if_neg fun hmark => hno hmark.1 hmark.2] at ht
    exact ⟨t, Rounds.refl.round hstep, ht, hdrop', hprev'⟩
  · injection heq with hc hcs
    subst hc hcs
    exact ⟨s, .refl, hin, hdrop, hprev⟩

/-- A final mark and an initial one that share their slash -/
def sharedMarks : List Char :=
  ['*', '/', '*']

/-- A text without shared marks, behind its first character -/
theorem not_sharedMarks_of_cons
    {c : Char} {n : Nat}
    (h : ¬ sharedMarks <:+: (c :: cs).take (n + 1)) :
    ¬ sharedMarks <:+: cs.take n :=
  fun hinfix => h (List.infix_cons hinfix)

theorem head?_ne_of_not_sharedMarks
    {n : Nat}
    (h : ¬ sharedMarks <:+: ('*' :: '/' :: cs).take (n + 3)) :
    cs.head? ≠ some '*' := by
  intro hhead
  obtain ⟨cs', rfl⟩ := List.head?_eq_some_iff.mp hhead
  exact h ⟨[], cs'.take n, rfl⟩

/-- The rounds from within a comment to its end. -/
theorem inComment_closes
    (text : List Char) (s : DigestSt dMaxLen)
    (hbody : commentBody cs depth = some body)
    (hmarks : ¬ sharedMarks <:+: cs.take (body.length + 3))
    (hlen : text.length + body.length + 2 < firstCommentMaxLength)
    (h : At q opts text depth cs s) :
    Closes q opts (text ++ body.map commentChar) s := by
  induction cs, depth using commentBody.induct generalizing body text s with
  | case1 =>
      cases hbody
  | case2 =>
      cases hbody
  | case3 c d cs hends =>
      rw [commentBody, if_pos hends, if_pos rfl] at hbody
      obtain rfl := Option.some.inj hbody
      obtain ⟨rfl, rfl⟩ := hends
      rw [List.map_nil, List.append_nil]
      rw [List.length_nil] at hlen
      obtain ⟨t, hrounds, ht, hdrop, hprev⟩ := h.read (by decide) (by omega)
      exact (ht.round_end hdrop (head?_ne_of_not_sharedMarks hmarks) (by omega) hprev).of_rounds
        hrounds
  | case4 c d cs depth hends hnested ih =>
      rw [commentBody, if_pos hends, if_neg hnested] at hbody
      obtain ⟨body, hrest, rfl⟩ := Option.map_eq_some_iff.mp hbody
      obtain ⟨rfl, rfl⟩ := hends
      rw [List.length_cons, List.length_cons] at hlen
      obtain ⟨t, hrounds, ht, hdrop, hprev⟩ := h.read (by decide) (by omega)
      have hnext : cs.head? ≠ some '*' := head?_ne_of_not_sharedMarks hmarks
      -- the other character of the final mark
      obtain ⟨e, cs', rfl⟩ : ∃ e cs', cs = e :: cs' := by
        cases cs with
        | nil => cases hrest
        | cons e cs' => exact ⟨e, cs', rfl⟩
      obtain ⟨u, hstep, hdrop', hprev', hu⟩ := ht.round_char hdrop
        (by rw [List.length_append, List.length_singleton]; omega)
        (fun hmark => hnext (congrArg some hmark.2)) (fun _ _ => Nat.pos_of_ne_zero hnested)
      rw [if_pos ⟨hprev, rfl⟩, List.append_assoc] at hu
      have hclosed := ih (text ++ ['*', '/']) u hrest
        (not_sharedMarks_of_cons (not_sharedMarks_of_cons hmarks))
        (by rw [List.length_append]; change text.length + 2 + _ + _ < _; omega)
        (Or.inl ⟨hu, hdrop', fun hstar => absurd (hprev'.symm.trans hstar) (by decide)⟩)
      rw [List.append_assoc] at hclosed
      exact hclosed.of_rounds (hrounds.round hstep)
  | case5 c d cs depth hends hbegins ih =>
      rw [commentBody, if_neg hends, if_pos hbegins] at hbody
      obtain ⟨body, hrest, rfl⟩ := Option.map_eq_some_iff.mp hbody
      obtain ⟨rfl, rfl⟩ := hbegins
      rw [List.length_cons, List.length_cons] at hlen
      rcases h with ⟨hin, hdrop, hprev⟩ | ⟨c, cs', heq, -, -, -, hno⟩
      · obtain ⟨e, f, cs', rfl⟩ : ∃ e f cs', cs = e :: f :: cs' := by
          cases cs with
          | nil => cases hrest
          | cons e cs =>
            cases cs with
            | nil => cases hrest
            | cons f cs' => exact ⟨e, f, cs', rfl⟩
        have hmarks' := not_sharedMarks_of_cons hmarks
        obtain ⟨t, hstep, hdrop', hprev', ht⟩ := hin.round_open hdrop nofun (by omega)
          (fun hstar => hprev hstar rfl)
        have hclosed := ih (text ++ ['/', '*']) t hrest (not_sharedMarks_of_cons hmarks')
          (by rw [List.length_append]; change text.length + 2 + _ + _ < _; omega)
          (Or.inr ⟨e, f :: cs', rfl, ht, hdrop', hprev', ?_⟩)
        · rw [List.append_assoc] at hclosed
          exact hclosed.of_rounds (Rounds.refl.round hstep)
        · rintro rfl hstar
          obtain rfl := Option.some.inj hstar
          exact hmarks' ⟨[], cs'.take (body.length + 1), rfl⟩
      · injection heq with hc hcs
        subst hc hcs
        exact absurd rfl (hno rfl)
  | case6 c d cs depth hends hbegins ih =>
      rw [commentBody, if_neg hends, if_neg hbegins] at hbody
      obtain ⟨body, hrest, rfl⟩ := Option.map_eq_some_iff.mp hbody
      rw [List.length_cons] at hlen
      obtain ⟨t, hrounds, ht, hdrop, hprev⟩ := h.read hbegins (by omega)
      have hclosed := ih (text ++ [commentChar c]) t hrest (not_sharedMarks_of_cons hmarks)
        (by rw [List.length_append, List.length_singleton]; omega)
        (Or.inl ⟨ht, hdrop, fun hstar hslash => hends ⟨hprev.symm.trans hstar,
          Option.some.inj hslash⟩⟩)
      rw [List.append_assoc] at hclosed
      exact hclosed.of_rounds hrounds

/-! ## The first comment -/

/-- The loop is at the initial mark of a comment, in its neutral state and with room in the result,
and has read no comment. -/
structure AtFirstComment (q : List Char) (s : DigestSt dMaxLen) : Prop where
  st : s.st = .noMarkFound
  room : s.resCurPos < dMaxLen
  slash : char q s.qCurPos = '/'
  star : char q (s.qCurPos + 1) = '*'
  fstCmnt : s.fstCmnt = none
  cmntType1St : s.cmntType1St = {}

theorem startsCmntType1_ok
    {pos : Nat}
    (hpos : pos + 2 < q.length)
    (hslash : char q pos = '/')
    (hstar : char q (pos + 1) = '*') :
    startsCmntType1 q pos = .ok true := by
  change both (.ok (decide (pos + 2 < q.length))) (both (isAt q pos '/') (isAt q (pos + 1) '*')) = _
  rw [both_ok_left rfl, if_pos (decide_eq_true hpos), both_ok_left (isAt_ok (by omega) '/'), hslash,
    if_pos (beq_self_eq_true '/'), isAt_ok (by omega) '*', hstar]
  rfl

theorem AtFirstComment.selects
    (h : AtFirstComment q s)
    (hpos : s.qCurPos + 2 < q.length) :
    s.stage1Step q opts = .ok ({ s with resPrePos := s.resCurPos, st := .cmntType1 }, true) := by
  have hnext : getNextSt q opts s.qCurPos s.prevChar = .ok .cmntType1 := by
    rw [getNextSt, readQuery_ok (by omega), startsCmntType1_ok hpos h.slash h.star]
    rfl
  rw [stage1Step, if_pos ⟨h.room, by omega⟩, if_pos h.st, neutralStep]
  dsimp only
  rw [hnext]
  rfl

/-- From its initial mark on, the comment is read to its end. -/
theorem AtFirstComment.closes
    (h : AtFirstComment q s)
    (hkeep : s.keepPrevChar = false)
    (hbody : commentBody (q.drop (s.qCurPos + 2)) 0 = some body)
    (hmarks : ¬ sharedMarks <:+: (q.drop s.qCurPos).take (body.length + 5))
    (hstale : s.prevChar = '*' → char q (s.qCurPos + 2) ≠ '/')
    (hlen : body.length + 2 < firstCommentMaxLength) :
    Closes q opts (body.map commentChar) s := by
  obtain ⟨rest, hrest⟩ := commentBody_append hbody
  have hlength := congrArg List.length hrest
  rw [List.length_drop, List.length_append, List.length_cons, List.length_cons] at hlength
  obtain ⟨c, cs, hdrop⟩ : ∃ c cs, q.drop (s.qCurPos + 2) = c :: cs := by
    cases hcs : q.drop (s.qCurPos + 2) with
    | nil =>
        rw [hcs] at hbody
        cases hbody
    | cons c cs =>
        exact ⟨c, cs, rfl⟩
  obtain ⟨-, hc, hcs⟩ := char_of_drop hdrop
  -- the text of the comment has no shared marks, its initial mark included
  have hmarks' : ¬ sharedMarks <:+: ('*' :: c :: cs).take (body.length + 4) := by
    have hall : q.drop s.qCurPos = '/' :: '*' :: c :: cs := by
      rw [List.drop_eq_getElem_cons (by omega), List.drop_eq_getElem_cons (by omega), hdrop]
      have hslash := h.slash
      have hstar := h.star
      rw [char, List.getD_eq_getElem?_getD, List.getElem?_eq_getElem (by omega)] at hslash hstar
      exact congrArg₂ _ hslash (congrArg₂ _ hstar rfl)
    rw [hall] at hmarks
    exact not_sharedMarks_of_cons hmarks
  have htracks : Tracks s.cmntType1St s.fstCmnt [] := by
    rw [h.cmntType1St]
    exact ⟨rfl, rfl, fun _ _ => rfl, fun _ => rfl⟩
  have hreads : Meets Any (processCmntType1 q opts { s with
      resPrePos := s.resCurPos, st := .cmntType1, copyNext := false }) _ :=
    processCmntType1_open htracks (by decide) (by dsimp only; omega)
      (fun hpos => absurd hpos (by rw [h.cmntType1St]; exact Nat.lt_irrefl 0)) h.slash h.star hstale
  have hcan : CanRead q opts { s with resPrePos := s.resCurPos, st := .cmntType1 } := by
    refine ⟨rfl, h.room, by dsimp only; omega, hkeep, ?_, fun _ => ?_, ?_,
      Or.inr ⟨by dsimp only; omega, h.slash, h.star⟩⟩
    · dsimp only
      rw [h.cmntType1St, h.fstCmnt]
      exact cmntInv_init opts
    · dsimp only
      rw [h.cmntType1St]
    · rintro ⟨-, -, hnest, -⟩
      dsimp only at hnest
      rw [h.cmntType1St] at hnest
      exact absurd hnest (Nat.lt_irrefl 0)
  have hopen : openText s.cmntType1St.nestLevel [] = [] := by
    rw [h.cmntType1St]
    rfl
  have hnest : s.cmntType1St.nestLevel = 0 := by
    rw [h.cmntType1St]
  dsimp only at hreads
  rw [hopen, hnest, hc] at hreads
  obtain ⟨t, hstep, ht, hcur, hprev⟩ := stage1Step_of_reads hcan hreads
  refine (inComment_closes [] t (hdrop ▸ hbody) (not_sharedMarks_of_cons hmarks')
    (by rw [List.length_nil]; omega) (Or.inr ⟨c, cs, rfl, ht, ?_, hprev.trans hc, ?_⟩)).of_rounds
    ((Rounds.refl.round (h.selects (by omega))).round hstep)
  · rw [hcur]
    exact hcs
  · rintro rfl hstar
    obtain ⟨cs', rfl⟩ := List.head?_eq_some_iff.mp hstar
    exact hmarks' ⟨[], cs'.take (body.length + 1), rfl⟩

end DigestSt

open DigestSt

theorem commentText_of_short
    {body : List Char}
    (hlen : body.length + 2 < firstCommentMaxLength) :
    commentText body = body.map commentChar :=
  List.take_of_length_le (by rw [List.length_map]; omega)

theorem holds_of_closes
    {buf cmnt : Nat → Char} {s : DigestSt (digestMaxLen q opts)} {text : List Char}
    (hreached : Reached q opts (init (digestMaxLen q opts) buf cmnt) s)
    (h : Closes q opts text s) :
    (∃ t, Reached q opts (init (digestMaxLen q opts) buf cmnt) t ∧ HoldsFirstComment t text) ∧
    ∀ fuel r, queryDigest q opts buf cmnt fuel = .ok r → HoldsFirstComment r text := by
  obtain ⟨t, hrounds, ht, hend⟩ := h
  have hreached' := hreached.of_rounds hrounds
  refine ⟨⟨t, hreached', ht⟩, fun fuel r hr => ?_⟩
  obtain ⟨hfst, -⟩ := (hreached'.queryDigest_retains hr).fst hend
  rw [HoldsFirstComment, hfst]
  exact ht

/-- The first comment that is returned is the text of the first comment of the query, where no final
mark in it shares its slash with an initial one, and its text is three characters shorter than the
buffer. -/
theorem firstComment_of_arrives
    {buf cmnt : Nat → Char} {s : DigestSt (digestMaxLen q opts)} {body : List Char}
    (hreached : Reached q opts (init (digestMaxLen q opts) buf cmnt) s)
    (harrives : AtFirstComment q s)
    (hbody : commentBody (q.drop (s.qCurPos + 2)) 0 = some body)
    (hmarks : ¬ sharedMarks <:+: (q.drop s.qCurPos).take (body.length + 5))
    (hstale : s.prevChar = '*' → char q (s.qCurPos + 2) ≠ '/')
    (hlen : body.length + 2 < firstCommentMaxLength) :
    (∃ t, Reached q opts (init (digestMaxLen q opts) buf cmnt) t ∧
      HoldsFirstComment t (commentText body)) ∧
    ∀ fuel r, queryDigest q opts buf cmnt fuel = .ok r → HoldsFirstComment r (commentText body) := by
  have hcloses : Closes q opts (body.map commentChar) s :=
    harrives.closes (hreached.keepPrevChar_eq rfl) hbody hmarks hstale hlen
  rw [commentText_of_short hlen]
  exact holds_of_closes hreached hcloses

/-- A comment with a tab and another comment in it -/
theorem firstComment_of_arrives_nested :
    ∃ t, Reached ['/', '*', 'a', '\t', '/', '*', 'b', '*', '/', ' ', '*', '/', '1'] {}
        (init 13 (fun _ => nul) (fun _ => nul)) t ∧
      HoldsFirstComment t ['a', ' ', '/', '*', 'b', '*', '/', ' '] := by
  have hreached : Reached ['/', '*', 'a', '\t', '/', '*', 'b', '*', '/', ' ', '*', '/', '1'] {}
      (init 13 (fun _ => nul) (fun _ => nul)) (init 13 (fun _ => nul) (fun _ => nul)) :=
    reached_init
  have hbody : commentBody ['a', '\t', '/', '*', 'b', '*', '/', ' ', '*', '/', '1'] 0 =
      some ['a', '\t', '/', '*', 'b', '*', '/', ' '] := by
    decide
  exact (firstComment_of_arrives hreached ⟨rfl, by decide, rfl, rfl, rfl, rfl⟩ hbody (by decide)
    (fun hprev => absurd hprev (by decide)) (by decide)).1

/-- The comment `/*c*/` of `SELECT /*c*/* FROM t`: its final mark is taken for an initial one, and the
rest of the query for its text. -/
theorem firstComment_of_adjacentMarks :
    commentBody ['c', '*', '/', '*', ' ', 'F', 'R', 'O', 'M', ' ', 't'] 0 = some ['c'] ∧
    (queryDigest ['S', 'E', 'L', 'E', 'C', 'T', ' ', '/', '*',
      'c', '*', '/', '*', ' ', 'F', 'R', 'O', 'M', ' ', 't'] {} (fun _ => nul) (fun _ => nul) 40).map
        DigestSt.firstComment =
      .ok (some ['c', '*', '/', '*', ' ', 'F', 'R', 'O', 'M', ' ', 't']) ∧
    commentText ['c'] ≠ ['c', '*', '/', '*', ' ', 'F', 'R', 'O', 'M', ' ', 't'] := by
  refine ⟨by decide, by decide +kernel, by decide⟩

end Tokenizer

end PolarProxy
