import PolarProxy.DigestSelection

/-!
# Comments of the query digest

A comment is read to its final mark or to the end of the query.  Its characters go to two buffers.
The buffer of the first comment is allocated before it is written, and is written below its end.
The buffer of a comment that is kept is written below its end as long as no initial mark of a
nested comment is read when it is almost full.

**Results.** `CmntInv`, `DigestSt.processCmntType1_meets`, `DigestSt.processCmntType2_meets`.
-/

namespace PolarProxy

namespace Tokenizer

open Loops Memory

variable {q : List Char} {opts : Options} {dMaxLen : Nat} {free : Prop}

/-- The faults that are allowed: all of them, or none -/
def Allowed (free : Prop) (e : Stop Fault) : Prop :=
  free ∧ e ≠ .outOfFuel

/-- What holds of the comment that is read, and of the buffer of the first one.  Where faults are
allowed, the buffer of a comment that is kept may be full. -/
structure CmntInv (free : Prop) (opts : Options) (c : CmntType1St)
    (fstCmnt : Option (Block Char firstCommentMaxLength)) : Prop where
  len : c.fstCmntLen < firstCommentMaxLength
  none : fstCmnt = none → c.fstCmntLen = 0 ∧ c.fstCmntEnd = false
  kept : free ∨ c.curCmdCmntLen < firstCommentMaxLength
  marked : opts.keepComment = true → 0 < c.nestLevel → 0 < c.curCmdCmntLen

theorem cmntInv_init (opts : Options) : CmntInv free opts {} none :=
  ⟨by decide, fun _ => ⟨rfl, rfl⟩, Or.inr (by decide), fun _ h => absurd h (Nat.lt_irrefl 0)⟩

/-- The initial mark of a nested comment is read, and the buffer of the comment that is kept has no
room for it and a terminator. -/
def NestsFull (q : List Char) (opts : Options) (s : DigestSt dMaxLen) : Prop :=
  s.st = .cmntType1 ∧ opts.keepComment = true ∧ 0 < s.cmntType1St.nestLevel ∧
    char q s.qCurPos = '/' ∧ char q (s.qCurPos + 1) = '*' ∧
      firstCommentMaxLength ≤ s.cmntType1St.curCmdCmntLen + 2

namespace DigestSt

variable {s : DigestSt dMaxLen}

/-! ## The buffers -/

theorem keepCmntChar_meets
    (h : free ∨ s.cmntType1St.curCmdCmntLen < firstCommentMaxLength)
    (c : Char) :
    Meets (Allowed free) (s.keepCmntChar c) (fun t => ∃ block, t = { s with
      curCmdCmnt := block
      cmntType1St := { s.cmntType1St with
        curCmdCmntLen := s.cmntType1St.curCmdCmntLen + 1 } }) := by
  unfold keepCmntChar
  split
  case h_1 block _ =>
    exact Meets.ok ⟨block, rfl⟩
  case h_2 hnone =>
    rcases h with h | h
    · exact Meets.error ⟨h, nofun⟩
    · obtain ⟨block, hblock⟩ := s.curCmdCmnt.exists_write h c
      rw [hblock] at hnone
      cases hnone

theorem endKeptCmnt_meets
    (h : free ∨ s.cmntType1St.curCmdCmntLen < firstCommentMaxLength) :
    Meets (Allowed free) s.endKeptCmnt (fun t => ∃ block, t = { s with curCmdCmnt := block }) := by
  unfold endKeptCmnt
  split
  case h_1 block _ =>
    exact Meets.ok ⟨block, rfl⟩
  case h_2 hnone =>
    rcases h with h | h
    · exact Meets.error ⟨h, nofun⟩
    · obtain ⟨block, hblock⟩ := s.curCmdCmnt.exists_write h nul
      rw [hblock] at hnone
      cases hnone

theorem writeFstCmnt_ok
    {pos : Nat}
    (hsome : s.fstCmnt ≠ none)
    (hpos : pos < firstCommentMaxLength)
    (c : Char) :
    ∃ block, s.writeFstCmnt pos c = .ok { s with fstCmnt := some block } := by
  obtain ⟨block, hblock⟩ := Option.ne_none_iff_exists'.mp hsome
  obtain ⟨block', hwrite⟩ := block.exists_write hpos c
  refine ⟨block', ?_⟩
  rw [writeFstCmnt, hblock]
  dsimp only
  rw [hwrite]

theorem fstCmntChar_ok
    (hsome : s.fstCmnt ≠ none)
    (hlen : s.cmntType1St.fstCmntLen < firstCommentMaxLength)
    (c : Char) :
    ∃ block, s.fstCmntChar c = .ok { s with
      fstCmnt := some block
      cmntType1St := { s.cmntType1St with fstCmntLen := s.cmntType1St.fstCmntLen + 1 } } := by
  obtain ⟨block, hwrite⟩ := writeFstCmnt_ok hsome hlen c
  refine ⟨block, ?_⟩
  rw [fstCmntChar, hwrite]
  rfl

theorem allocFstCmnt_ok (s : DigestSt dMaxLen) :
    ∃ block, s.allocFstCmnt = .ok { s with fstCmnt := some block } := by
  unfold allocFstCmnt
  split
  · exact writeFstCmnt_ok (s := { s with fstCmnt := some _ }) nofun (by decide) nul
  case isFalse hsome =>
    rw [Option.isNone_iff_eq_none] at hsome
    obtain ⟨block, hblock⟩ := Option.ne_none_iff_exists'.mp hsome
    exact ⟨block, by rw [← hblock]⟩

theorem endFstCmnt_ok (h : CmntInv free opts s.cmntType1St s.fstCmnt) :
    ∃ c f, s.endFstCmnt = .ok { s with cmntType1St := c, fstCmnt := f } ∧ CmntInv free opts c f ∧
      c.nestLevel = s.cmntType1St.nestLevel ∧ (f = none → s.fstCmnt = none) ∧
        c.curCmdCmntLen = s.cmntType1St.curCmdCmntLen := by
  unfold endFstCmnt
  split
  case isTrue htracked =>
    have hsome : s.fstCmnt ≠ none := Option.isSome_iff_ne_none.mp htracked.2
    obtain ⟨block, hwrite⟩ := writeFstCmnt_ok hsome h.len nul
    rw [hwrite]
    exact ⟨_, _, rfl, ⟨h.len, nofun, h.kept, h.marked⟩, rfl, nofun, rfl⟩
  case isFalse =>
    exact ⟨_, _, rfl, h, rfl, id, rfl⟩

theorem endCmntAtQueryEnd_meets (h : CmntInv free opts s.cmntType1St s.fstCmnt) :
    Meets (Allowed free) (s.endCmntAtQueryEnd opts) (fun r => r.1 = .noMarkFound ∧ ∃ c f block,
      r.2 = { s with cmntType1St := c, fstCmnt := f, curCmdCmnt := block } ∧
        CmntInv free opts c f ∧ c.nestLevel = 0) := by
  obtain ⟨c, f, hend, hinv, -, -, -⟩ := endFstCmnt_ok h
  rw [endCmntAtQueryEnd, hend]
  refine Meets.ok_bind ?_
  refine Meets.bind (R := fun t => ∃ block, t = { s with
    cmntType1St := c, fstCmnt := f, curCmdCmnt := block }) ?_ ?_
  · refine Meets.ite (fun _ => ?_) (fun _ => Meets.ok ⟨_, rfl⟩)
    exact endKeptCmnt_meets (s := { s with cmntType1St := c, fstCmnt := f }) hinv.kept
  · rintro _ ⟨block, rfl⟩
    exact Meets.ok ⟨rfl, _, _, _, rfl, ⟨hinv.len, hinv.none, hinv.kept, fun _ hpos => absurd hpos (Nat.lt_irrefl _)⟩, rfl⟩

/-! ## The marks -/

theorem openCmntType1_meets
    (h : CmntInv free opts s.cmntType1St s.fstCmnt)
    (hnest : s.fstCmnt = none → s.cmntType1St.nestLevel = 0)
    (hpos : s.qCurPos + 2 ≤ q.length)
    (hroom : free ∨ (opts.keepComment = true → 0 < s.cmntType1St.nestLevel →
      s.cmntType1St.curCmdCmntLen + 2 < firstCommentMaxLength)) :
    Meets (Allowed free) (s.openCmntType1 q opts) (fun t => ∃ c f block,
      t = { s with
        cmntType1St := c
        fstCmnt := f
        curCmdCmnt := block
        qCurPos := s.qCurPos + 2 } ∧ CmntInv free opts c f ∧ 0 < c.nestLevel) := by
  -- the length that the kept comment has before its mark
  obtain ⟨c₀, hc₀, hlen₀, hend₀, hnest₀, hkept₀⟩ : ∃ c₀ : CmntType1St,
      (if s.cmntType1St.nestLevel = 0 then
        { s with cmntType1St := { s.cmntType1St with curCmdCmntLen := 0 } } else s) =
        { s with cmntType1St := c₀ } ∧ c₀.fstCmntLen = s.cmntType1St.fstCmntLen ∧
      c₀.fstCmntEnd = s.cmntType1St.fstCmntEnd ∧ c₀.nestLevel = s.cmntType1St.nestLevel ∧
      (free ∨ c₀.curCmdCmntLen < firstCommentMaxLength) ∧
        (free ∨ (opts.keepComment = true → c₀.curCmdCmntLen + 2 < firstCommentMaxLength)) := by
    by_cases hzero : s.cmntType1St.nestLevel = 0
    · exact ⟨_, if_pos hzero, rfl, rfl, rfl, Or.inr (Nat.zero_lt_succ 1023),
        Or.inr fun _ => Nat.lt_of_sub_pos (Nat.zero_lt_succ 1021)⟩
    · refine ⟨_, if_neg hzero, rfl, rfl, rfl, h.kept, hroom.imp_right fun hr hkeep => ?_⟩
      exact hr hkeep (Nat.pos_of_ne_zero hzero)
  unfold openCmntType1
  rw [hc₀]
  dsimp only
  rw [readQuery_ok (Nat.le_of_add_right_le hpos), readQuery_ok (Nat.le_of_succ_le hpos)]
  obtain ⟨hkept₀, hroom₀⟩ := hkept₀
  refine Meets.ok_bind (Meets.ok_bind ?_)
  -- the two characters of a comment that is kept
  refine Meets.bind (R := fun t => ∃ n block, t = { s with
    cmntType1St := { c₀ with nestLevel := c₀.nestLevel + 1, curCmdCmntLen := n }
    curCmdCmnt := block } ∧ (free ∨ n < firstCommentMaxLength) ∧
      (opts.keepComment = true → 0 < n)) ?_ ?_
  · refine Meets.ite (fun hkeep => ?_) (fun hno => Meets.ok ⟨_, _, rfl, hkept₀, fun h => absurd h hno⟩)
    have hroom₁ : free ∨ c₀.curCmdCmntLen + 2 < firstCommentMaxLength :=
      hroom₀.imp_right fun hr => hr hkeep
    refine (keepCmntChar_meets (s := { s with
      cmntType1St := { c₀ with nestLevel := c₀.nestLevel + 1 } }) hkept₀ _).bind ?_
    rintro _ ⟨block, rfl⟩
    refine (keepCmntChar_meets (hroom₁.imp_right fun hr => ?_) _).imp ?_
    · exact Nat.lt_of_succ_lt hr
    · rintro _ ⟨block', rfl⟩
      exact ⟨_, _, rfl, hroom₁, fun _ => Nat.succ_pos _⟩
  · rintro _ ⟨n, block, rfl, hn, hmarked⟩
    -- the same of the first comment
    refine Meets.bind (R := fun t => ∃ f k, t = { s with
      cmntType1St := { c₀ with nestLevel := c₀.nestLevel + 1, curCmdCmntLen := n, fstCmntLen := k }
      fstCmnt := f
      curCmdCmnt := block } ∧ k < firstCommentMaxLength ∧
        (f = none → s.fstCmnt = none ∧ k = c₀.fstCmntLen)) ?_ ?_
    · refine Meets.ite (fun hnested => ?_) (fun _ => Meets.ok ⟨_, _, rfl, ?_, fun hnone => ⟨hnone, rfl⟩⟩)
      · obtain ⟨-, hmore, hk⟩ := hnested
        dsimp only at hmore hk
        have hsome : s.fstCmnt ≠ none := by
          intro hnone
          have hzero := hnest hnone
          omega
        rw [assertFstCmnt, if_pos (Option.isSome_iff_ne_none.mpr hsome)]
        obtain ⟨block₁, h₁⟩ := fstCmntChar_ok (s := { s with
          cmntType1St := { c₀ with nestLevel := c₀.nestLevel + 1, curCmdCmntLen := n }
          curCmdCmnt := block }) hsome (Nat.lt_of_lt_of_le hk (Nat.sub_le _ _)) (char q s.qCurPos)
        change Meets _ (fstCmntChar _ _ >>= fun t => fstCmntChar t _) _
        rw [h₁]
        obtain ⟨block₂, h₂⟩ := fstCmntChar_ok (s := { s with
          cmntType1St := { c₀ with
            nestLevel := c₀.nestLevel + 1
            curCmdCmntLen := n
            fstCmntLen := c₀.fstCmntLen + 1 }
          fstCmnt := some block₁
          curCmdCmnt := block }) nofun (by
            change c₀.fstCmntLen + 1 < firstCommentMaxLength
            omega) (char q (s.qCurPos + 1))
        change Meets _ (fstCmntChar _ _) _
        rw [h₂]
        refine Meets.ok ⟨_, _, rfl, ?_, nofun⟩
        change c₀.fstCmntLen + 1 + 1 < firstCommentMaxLength
        omega
      · exact hlen₀ ▸ h.len
    · rintro _ ⟨f, k, rfl, hk, hnone⟩
      refine Meets.ok ⟨_, _, _, rfl, ⟨hk, ?_, hn, fun hkeep _ => hmarked hkeep⟩, Nat.succ_pos _⟩
      intro hf
      obtain ⟨hs, rfl⟩ := hnone hf
      exact ⟨hlen₀.trans (h.none hs).1, hend₀.trans (h.none hs).2⟩

/-- Behind a character of a comment its first buffer is there. -/
theorem copyCmntChar_meets
    (h : CmntInv free opts s.cmntType1St s.fstCmnt)
    (hpos : s.qCurPos ≤ q.length) :
    Meets (Allowed free) (s.copyCmntChar q opts) (fun t => ∃ c f block,
      t = { s with cmntType1St := c, fstCmnt := some f, curCmdCmnt := block } ∧
        CmntInv free opts c (some f) ∧ c.nestLevel = s.cmntType1St.nestLevel) := by
  rw [copyCmntChar, readQuery_ok hpos]
  refine Meets.ok_bind ?_
  refine Meets.bind (R := fun t => ∃ n block, t = { s with
    cmntType1St := { s.cmntType1St with curCmdCmntLen := n }
    curCmdCmnt := block } ∧ (free ∨ n < firstCommentMaxLength) ∧
      s.cmntType1St.curCmdCmntLen ≤ n) ?_ ?_
  · refine Meets.ite (fun hkeep => ?_) (fun _ => Meets.ok ⟨_, _, rfl, h.kept, Nat.le_refl _⟩)
    have hlt : s.cmntType1St.curCmdCmntLen + 1 < firstCommentMaxLength := by
      have := hkeep.2
      omega
    refine (keepCmntChar_meets (Or.inr (Nat.lt_of_succ_lt hlt)) _).imp ?_
    rintro _ ⟨block, rfl⟩
    exact ⟨_, _, rfl, Or.inr hlt, Nat.le_succ _⟩
  · rintro _ ⟨n, block, rfl, hn, hle⟩
    have hmarked : opts.keepComment = true → 0 < s.cmntType1St.nestLevel → 0 < n :=
      fun hkeep hnest => Nat.lt_of_lt_of_le (h.marked hkeep hnest) hle
    refine Meets.ite (fun htracked => ?_) (fun huntracked => Meets.ok ?_)
    · have hk : s.cmntType1St.fstCmntLen + 1 < firstCommentMaxLength := by
        have := htracked.2
        dsimp only at this
        omega
      obtain ⟨f, halloc⟩ := allocFstCmnt_ok { s with
        cmntType1St := { s.cmntType1St with curCmdCmntLen := n }
        curCmdCmnt := block }
      rw [halloc]
      obtain ⟨f', hchar⟩ := fstCmntChar_ok (s := { s with
        cmntType1St := { s.cmntType1St with curCmdCmntLen := n }
        curCmdCmnt := block
        fstCmnt := some f }) nofun h.len (if isSpaceChar (char q s.qCurPos) then ' ' else
          char q s.qCurPos)
      change Meets _ (fstCmntChar _ _) _
      rw [hchar]
      exact Meets.ok ⟨_, _, _, rfl, ⟨hk, nofun, hn, hmarked⟩, rfl⟩
    · have hsome : s.fstCmnt ≠ none := by
        intro hnone
        obtain ⟨hzero, hend⟩ := h.none hnone
        refine huntracked ⟨hend, ?_⟩
        dsimp only
        rw [hzero]
        decide
      obtain ⟨f, hf⟩ := Option.ne_none_iff_exists'.mp hsome
      refine ⟨{ s.cmntType1St with curCmdCmntLen := n }, f, block, ?_,
        ⟨h.len, nofun, hn, hmarked⟩, rfl⟩
      rw [← hf]

theorem emitAll_ok
    (cs : List Char)
    (h : s.resCurPos + cs.length ≤ dMaxLen + 1) :
    ∃ res, s.emitAll cs = .ok { s with res := res, resCurPos := s.resCurPos + cs.length } := by
  induction cs generalizing s with
  | nil =>
      exact ⟨s.res, rfl⟩
  | cons c cs ih =>
      rw [List.length_cons] at h
      obtain ⟨res, hemit⟩ := emit_ok (s := s) (by omega) c
      obtain ⟨res', hall⟩ := ih (s := { s with res := res, resCurPos := s.resCurPos + 1 }) (by
        change s.resCurPos + 1 + cs.length ≤ _
        omega)
      refine ⟨res', ?_⟩
      rw [emitAll, hemit]
      change emitAll _ _ = _
      rw [hall, List.length_cons, Nat.add_assoc, Nat.add_comm 1]

theorem emitKeptCmnt_meets
    (hkept : free ∨ s.cmntType1St.curCmdCmntLen < firstCommentMaxLength)
    (hmarked : 0 < s.cmntType1St.curCmdCmntLen)
    (hcur : s.resCurPos < dMaxLen) :
    Meets (Allowed free) s.emitKeptCmnt (fun t => ∃ res cur block, t = { s with
      res := res
      resCurPos := cur
      cmntType1St := { s.cmntType1St with curCmdCmntLen := 0 }
      curCmdCmnt := block } ∧ s.resCurPos ≤ cur ∧ cur ≤ dMaxLen) := by
  refine (endKeptCmnt_meets hkept).bind ?_
  rintro _ ⟨block, rfl⟩
  dsimp only
  generalize htext : block.cells.take (min s.cmntType1St.curCmdCmntLen (dMaxLen - s.resCurPos)) = text
  have hlen : text.length = min (min s.cmntType1St.curCmdCmntLen (dMaxLen - s.resCurPos))
      firstCommentMaxLength := by
    rw [← htext, List.length_take, block.length_cells]
  have hpos : 0 < firstCommentMaxLength := Nat.zero_lt_succ _
  obtain ⟨res, hall⟩ := emitAll_ok (s := { s with curCmdCmnt := block }) text (by
    change s.resCurPos + text.length ≤ _
    omega)
  rw [hall]
  refine Meets.ok_bind ?_
  obtain ⟨last, hlast⟩ := readRes_ok { s with
    curCmdCmnt := block
    res := res
    resCurPos := s.resCurPos + text.length } (((s.resCurPos + text.length : Nat) : Int) - 1)
    (by omega) (by omega)
  dsimp only
  rw [hlast]
  refine Meets.ok_bind (Meets.bind (R := fun t => ∃ res cur, t = { s with
    curCmdCmnt := block, res := res, resCurPos := cur } ∧ s.resCurPos ≤ cur ∧ cur ≤ dMaxLen) ?_ ?_)
  · refine Meets.ite (fun hspace => ?_) (fun _ => Meets.ok ⟨_, _, rfl, by omega, by omega⟩)
    obtain ⟨res', hemit⟩ := emit_ok (s := { s with
      curCmdCmnt := block
      res := res
      resCurPos := s.resCurPos + text.length }) (by
        change s.resCurPos + text.length ≤ _
        omega) ' '
    rw [hemit]
    have hne : s.resCurPos + text.length ≠ dMaxLen := hspace.2
    refine Meets.ok ⟨_, _, rfl, ?_, ?_⟩
    · dsimp only
      omega
    · dsimp only
      omega
  · rintro _ ⟨res', cur, rfl, hle, hge⟩
    exact Meets.ok ⟨_, _, _, rfl, hle, hge⟩

theorem closeCmntType1_meets
    (h : CmntInv free opts s.cmntType1St s.fstCmnt)
    (hmarked : opts.keepComment = true → 0 < s.cmntType1St.curCmdCmntLen)
    (hnest : s.cmntType1St.nestLevel = 0)
    (hcur : s.resCurPos < dMaxLen) :
    Meets (Allowed free) (s.closeCmntType1 opts) (fun t => ∃ res cur c f block, t = { s with
      res := res
      resCurPos := cur
      prevChar := ' '
      cmntType1St := c
      fstCmnt := f
      curCmdCmnt := block
      qCurPos := s.qCurPos + 1 } ∧ s.resCurPos ≤ cur ∧ cur ≤ dMaxLen ∧
        CmntInv free opts c f ∧ c.nestLevel = 0) := by
  refine Meets.bind (R := fun t => ∃ res cur n block, t = { s with
    res := res
    resCurPos := cur
    cmntType1St := { s.cmntType1St with curCmdCmntLen := n }
    curCmdCmnt := block } ∧ s.resCurPos ≤ cur ∧ cur ≤ dMaxLen ∧
      (free ∨ n < firstCommentMaxLength)) ?_ ?_
  · refine Meets.ite (fun hkeep => ?_) (fun _ => Meets.ok ⟨_, _, _, _, rfl, Nat.le_refl _, by omega, h.kept⟩)
    refine (emitKeptCmnt_meets h.kept (hmarked hkeep) hcur).imp ?_
    rintro _ ⟨res, cur, block, rfl, hle, hge⟩
    exact ⟨_, _, _, _, rfl, hle, hge, Or.inr (Nat.zero_lt_succ _)⟩
  · rintro _ ⟨res, cur, n, block, rfl, hle, hge, hn⟩
    refine Meets.bind (R := fun spaceless => spaceless = true → cur ≠ 0 ∧ cur ≠ dMaxLen) ?_ ?_
    · refine both_left test_meets fun hne => ?_
      have hpos : 0 < cur := Nat.pos_of_ne_zero hne.1
      obtain ⟨last, hlast⟩ := readRes_ok { s with
        res := res
        resCurPos := cur
        cmntType1St := { s.cmntType1St with curCmdCmntLen := n }
        curCmdCmnt := block } ((cur : Int) - 1) (by omega) (by omega)
      dsimp only
      rw [hlast]
      exact Meets.ok trivial
    · intro spaceless hspaceless
      refine Meets.bind (R := fun t => ∃ res cur, t = { s with
        res := res
        resCurPos := cur
        cmntType1St := { s.cmntType1St with curCmdCmntLen := n }
        curCmdCmnt := block } ∧ s.resCurPos ≤ cur ∧ cur ≤ dMaxLen) ?_ ?_
      · refine Meets.ite (fun htrue => ?_) (fun _ => Meets.ok ⟨_, _, rfl, hle, hge⟩)
        obtain ⟨res', hemit⟩ := emit_ok (s := { s with
          res := res
          resCurPos := cur
          cmntType1St := { s.cmntType1St with curCmdCmntLen := n }
          curCmdCmnt := block }) hge ' '
        rw [hemit]
        have hne := (hspaceless htrue).2
        exact Meets.ok ⟨_, _, rfl, Nat.le_succ_of_le hle, by dsimp only; omega⟩
      · rintro _ ⟨res', cur', rfl, hle', hge'⟩
        dsimp only
        -- the length of the first comment, without its final mark
        obtain ⟨k, hk, hinv⟩ : ∃ k, (if s.cmntType1St.fstCmntEnd = false ∧
            s.fstCmnt.isSome = true ∧ s.cmntType1St.fstCmntLen ≥ 2 then
              { s with
                res := res'
                resCurPos := cur'
                prevChar := ' '
                cmntType1St := { s.cmntType1St with
                  curCmdCmntLen := n
                  fstCmntLen := s.cmntType1St.fstCmntLen - 2 }
                curCmdCmnt := block }
            else { s with
              res := res'
              resCurPos := cur'
              prevChar := ' '
              cmntType1St := { s.cmntType1St with curCmdCmntLen := n }
              curCmdCmnt := block }) = { s with
                res := res'
                resCurPos := cur'
                prevChar := ' '
                cmntType1St := { s.cmntType1St with curCmdCmntLen := n, fstCmntLen := k }
                curCmdCmnt := block } ∧
            CmntInv free opts { s.cmntType1St with curCmdCmntLen := n, fstCmntLen := k }
              s.fstCmnt := by
          split
          case isTrue htracked =>
            refine ⟨_, rfl, Nat.lt_of_le_of_lt (Nat.sub_le _ _) h.len, ?_, hn, ?_⟩
            · intro hnone
              rw [hnone] at htracked
              exact absurd htracked.2.1 Bool.false_ne_true
            · exact fun _ hpos => absurd hpos (Nat.not_lt_of_ge (Nat.le_of_eq hnest))
          case isFalse =>
            exact ⟨_, rfl, h.len, h.none, hn,
              fun _ hpos => absurd hpos (Nat.not_lt_of_ge (Nat.le_of_eq hnest))⟩
        rw [hk]
        obtain ⟨c, f, hend, hinv', hnest', -, -⟩ := endFstCmnt_ok (s := { s with
          res := res'
          resCurPos := cur'
          prevChar := ' '
          cmntType1St := { s.cmntType1St with curCmdCmntLen := n, fstCmntLen := k }
          curCmdCmnt := block }) hinv
        rw [hend]
        exact Meets.ok ⟨_, _, _, _, _, rfl, hle', hge', hinv', hnest'.trans hnest⟩

/-! ## A round in a comment -/

/-- How a comment proceeds: what it leaves alone, and where it goes on or ends. -/
structure CmntStep (free : Prop) (q : List Char) (opts : Options) (s : DigestSt dMaxLen)
    (r : ParseSt × DigestSt dMaxLen) : Prop where
  frame : ∃ res cur prev c f block pos, r.2 = { s with
    res := res
    resCurPos := cur
    prevChar := prev
    cmntType1St := c
    fstCmnt := f
    curCmdCmnt := block
    qCurPos := pos }
  inv : CmntInv free opts r.2.cmntType1St r.2.fstCmnt
  cur : s.resCurPos ≤ r.2.resCurPos ∧ r.2.resCurPos ≤ dMaxLen
  pos : s.qCurPos ≤ r.2.qCurPos ∧ r.2.qCurPos ≤ q.length
  ends : r.1 = .noMarkFound → r.2.cmntType1St.nestLevel = 0 ∧
    (s.qCurPos < r.2.qCurPos ∨ r.2.resCurPos = s.resCurPos ∧ s.qCurPos + 1 = q.length)
  goesOn : r.1 ≠ .noMarkFound → r.1 = .cmntType1 ∧ 0 < r.2.cmntType1St.nestLevel ∧
    r.2.fstCmnt ≠ none ∧ r.2.qCurPos < q.length ∧ r.2.resCurPos = s.resCurPos

theorem continueCmntType1_meets
    (h : CmntInv free opts s.cmntType1St s.fstCmnt)
    (hnest : 0 < s.cmntType1St.nestLevel)
    (hcur : s.resCurPos < dMaxLen)
    (hpos : s.qCurPos < q.length) :
    Meets (Allowed free) (s.continueCmntType1 q opts) (CmntStep free q opts s) := by
  refine (copyCmntChar_meets h (Nat.le_of_lt hpos)).bind ?_
  rintro _ ⟨c, f, block, rfl, hinv, hnest'⟩
  refine Meets.bind (R := fun _ => True) ?_ fun closes _ => ?_
  · exact (both_left (A := True) (Meets.ok fun _ => trivial)
      fun _ => (isAt_meets (Nat.le_of_lt hpos) '/').any).any
  -- the nesting behind the character
  obtain ⟨m, hm, hminv, hmpos⟩ : ∃ m, (if closes = true ∧ c.nestLevel > 0 then
        { s with
          cmntType1St := { c with nestLevel := c.nestLevel - 1 }
          fstCmnt := some f
          curCmdCmnt := block }
      else { s with cmntType1St := c, fstCmnt := some f, curCmdCmnt := block }) = { s with
        cmntType1St := { c with nestLevel := m }
        fstCmnt := some f
        curCmdCmnt := block } ∧ CmntInv free opts { c with nestLevel := m } (some f) ∧
      (closes = false → 0 < m) := by
    have hcpos : 0 < c.nestLevel := hnest' ▸ hnest
    split
    case isTrue htrue =>
      refine ⟨_, rfl, ⟨hinv.len, nofun, hinv.kept, fun hkeep _ => hinv.marked hkeep hcpos⟩, ?_⟩
      exact fun hfalse => absurd htrue.1 (hfalse ▸ Bool.false_ne_true)
    case isFalse =>
      exact ⟨_, rfl, hinv, fun _ => hcpos⟩
  dsimp only
  rw [hm]
  dsimp only
  have hmarked : opts.keepComment = true → 0 < c.curCmdCmntLen :=
    fun hkeep => hinv.marked hkeep (hnest' ▸ hnest)
  -- the final mark of a comment in no other one
  refine Meets.bind (R := fun t => ∃ res cur prev c f block pos, t = { s with
    res := res
    resCurPos := cur
    prevChar := prev
    cmntType1St := c
    fstCmnt := f
    curCmdCmnt := block
    qCurPos := pos } ∧ CmntInv free opts c f ∧ s.resCurPos ≤ cur ∧ cur ≤ dMaxLen ∧
      ((closes && m == 0) = true → c.nestLevel = 0 ∧ pos = s.qCurPos + 1) ∧
      (¬ (closes && m == 0) = true → 0 < c.nestLevel ∧ f ≠ none ∧ pos = s.qCurPos ∧
        cur = s.resCurPos)) ?_ ?_
  · refine Meets.ite (fun houter => ?_) (fun hinner => Meets.ok ?_)
    · have hzero : m = 0 := eq_of_beq ((Bool.and_eq_true _ _).mp houter).2
      refine (closeCmntType1_meets (s := { s with
        cmntType1St := { c with nestLevel := m }
        fstCmnt := some f
        curCmdCmnt := block }) hminv hmarked hzero hcur).imp ?_
      rintro _ ⟨res, cur, c', f', block', rfl, hle, hge, hinv', hzero'⟩
      exact ⟨_, _, _, _, _, _, _, rfl, hinv', hle, hge, fun _ => ⟨hzero', rfl⟩,
        fun hno => absurd houter hno⟩
    · refine ⟨_, _, _, _, _, _, _, rfl, hminv, Nat.le_refl _, Nat.le_of_lt hcur,
        fun houter => absurd houter hinner, fun _ => ⟨?_, nofun, rfl, rfl⟩⟩
      by_cases hzero : m = 0
      · refine hmpos ?_
        cases closes with
        | true =>
            rw [hzero] at hinner
            exact absurd rfl hinner
        | false =>
            rfl
      · exact Nat.pos_of_ne_zero hzero
  · rintro _ ⟨res, cur, prev, c', f', block', pos, rfl, hinv', hle, hge, houter, hinner⟩
    have hposle : pos = s.qCurPos + 1 ∨ pos = s.qCurPos ∧ cur = s.resCurPos := by
      by_cases htrue : (closes && m == 0) = true
      · exact Or.inl (houter htrue).2
      · exact Or.inr (hinner htrue).2.2
    refine Meets.ite (fun hend => ?_) (fun hmore => Meets.ok ?_)
    · refine (endCmntAtQueryEnd_meets (s := { s with
        res := res
        resCurPos := cur
        prevChar := prev
        cmntType1St := c'
        fstCmnt := f'
        curCmdCmnt := block'
        qCurPos := pos }) hinv').imp ?_
      rintro ⟨st, t⟩ ⟨hst, c'', f'', block'', rfl, hinv'', hzero⟩
      dsimp only at hend
      refine ⟨⟨_, _, _, _, _, _, _, rfl⟩, hinv'', ⟨hle, hge⟩,
        ⟨by dsimp only; omega, by dsimp only; omega⟩, fun _ => ⟨hzero, ?_⟩,
        fun hno => absurd hst hno⟩
      dsimp only
      omega
    · dsimp only at hmore
      refine ⟨⟨_, _, _, _, _, _, _, rfl⟩, hinv', ⟨hle, hge⟩,
        ⟨by dsimp only; omega, by dsimp only; omega⟩, ?_, ?_⟩
      · intro hst
        dsimp only at hst ⊢
        split at hst
        case isTrue htrue =>
          obtain ⟨hzero, hpos'⟩ := houter htrue
          exact ⟨hzero, Or.inl (by omega)⟩
        case isFalse =>
          cases hst
      · intro hst
        dsimp only at hst ⊢
        split at hst
        case isTrue =>
          exact absurd rfl hst
        case isFalse hfalse =>
          obtain ⟨hpos', hsome, hsame, hcur'⟩ := hinner hfalse
          exact ⟨if_neg hfalse, hpos', hsome, by omega, hcur'⟩

/-- `process_cmnt_type_1`, in a comment or at its initial mark -/
theorem processCmntType1_meets
    (h : CmntInv free opts s.cmntType1St s.fstCmnt)
    (hsome : s.fstCmnt = none → s.cmntType1St.nestLevel = 0)
    (hst : s.st = .cmntType1)
    (hfull : free ∨ ¬ NestsFull q opts s)
    (hcur : s.resCurPos < dMaxLen)
    (hpos : s.qCurPos < q.length)
    (hbegins : 0 < s.cmntType1St.nestLevel ∨
      s.qCurPos + 2 < q.length ∧ char q s.qCurPos = '/' ∧ char q (s.qCurPos + 1) = '*') :
    Meets (Allowed free) (s.processCmntType1 q opts) (fun r => CmntStep free q opts s r ∧
      (r.1 = .noMarkFound → s.qCurPos < r.2.qCurPos ∨ 0 < s.cmntType1St.nestLevel ∧
        r.2.resCurPos = s.resCurPos ∧ s.qCurPos + 1 = q.length)) := by
  have hmarkTest : Meets (Allowed free) (both (.ok (decide (s.qCurPos + 2 ≤ q.length)))
      (both (isAt q s.qCurPos '/') (isAt q (s.qCurPos + 1) '*'))) (fun x =>
        (x = true ↔ s.qCurPos + 2 ≤ q.length ∧ char q s.qCurPos = '/' ∧
          char q (s.qCurPos + 1) = '*')) := by
    by_cases hlen : s.qCurPos + 2 ≤ q.length
    · rw [decide_eq_true hlen, both_ok_left rfl, if_pos rfl,
        both_ok_left (isAt_ok (by omega) '/'), isAt_ok (by omega) '*']
      split
      case isTrue hslash =>
        exact Meets.ok ⟨fun hstar => ⟨hlen, eq_of_beq hslash, eq_of_beq hstar⟩,
          fun hall => beq_iff_eq.mpr hall.2.2⟩
      case isFalse hslash =>
        exact Meets.ok ⟨nofun, fun hall => absurd (beq_iff_eq.mpr hall.2.1) hslash⟩
    · rw [decide_eq_false hlen]
      exact Meets.ok ⟨nofun, fun hall => absurd hall.1 hlen⟩
  refine hmarkTest.bind fun x hx => Meets.ite (fun htrue => ?_) (fun hfalse => ?_)
  · obtain ⟨hlen, hslash, hstar⟩ := hx.mp htrue
    refine (openCmntType1_meets h hsome hlen ?_).bind ?_
    · refine hfull.imp_right fun hno hkeep hnest => Nat.lt_of_not_le fun hle => hno ?_
      exact ⟨hst, hkeep, hnest, hslash, hstar, hle⟩
    · rintro _ ⟨c, f, block, rfl, hinv, hnest⟩
      refine Meets.ite (fun hend => ?_) (fun hmore => ?_)
      · refine (endCmntAtQueryEnd_meets (s := { s with
          cmntType1St := c
          fstCmnt := f
          curCmdCmnt := block
          qCurPos := s.qCurPos + 2 }) hinv).imp ?_
        rintro ⟨st, t⟩ ⟨hst', c', f', block', rfl, hinv', hzero⟩
        have hlt : s.qCurPos < s.qCurPos + 2 := by omega
        exact ⟨⟨⟨_, _, _, _, _, _, _, rfl⟩, hinv', ⟨Nat.le_refl _, Nat.le_of_lt hcur⟩,
          ⟨Nat.le_add_right _ _, hlen⟩, fun _ => ⟨hzero, Or.inl hlt⟩, fun hno => absurd hst' hno⟩,
          fun _ => Or.inl hlt⟩
      · dsimp only at hmore
        refine (continueCmntType1_meets (s := { s with
          cmntType1St := c
          fstCmnt := f
          curCmdCmnt := block
          qCurPos := s.qCurPos + 2 }) hinv hnest hcur (by dsimp only; omega)).imp ?_
        rintro ⟨st, t⟩ ⟨⟨res, cur, prev, c', f', block', pos, rfl⟩, hinv', hcur', hpos', hends, hgoes⟩
        have hlt : s.qCurPos < pos := by
          have := hpos'.1
          dsimp only at this
          omega
        exact ⟨⟨⟨_, _, _, _, _, _, _, rfl⟩, hinv', hcur', ⟨Nat.le_of_lt hlt, hpos'.2⟩,
          fun hst' => ⟨(hends hst').1, Or.inl hlt⟩, hgoes⟩, fun _ => Or.inl hlt⟩
  · have hnest : 0 < s.cmntType1St.nestLevel := by
      rcases hbegins with hnest | ⟨hlen, hchars⟩
      · exact hnest
      · exact absurd (hx.mpr ⟨by omega, hchars⟩) hfalse
    refine (continueCmntType1_meets h hnest hcur hpos).imp fun r hr => ⟨hr, fun hst' => ?_⟩
    exact (hr.ends hst').2.imp_right fun hlast => ⟨hnest, hlast⟩

/-- `process_cmnt_type_2` -/
theorem processCmntType2_meets (hpos : s.qCurPos < q.length) :
    Meets (Allowed free) (s.processCmntType2 q) (fun r => ∃ prev pos,
      r.2 = { s with prevChar := prev, qCurPos := pos } ∧ s.qCurPos ≤ pos ∧ pos ≤ q.length ∧
        (r.1 = .noMarkFound → s.qCurPos < pos) ∧
        (r.1 ≠ .noMarkFound → r.1 = .cmntType2 ∧ pos < q.length)) := by
  refine Meets.bind (R := fun x => x = true → s.qCurPos + 3 ≤ q.length) ?_ ?_
  · refine both_left test_meets fun hlen => ?_
    exact (both_left (isAt_meets (by omega) '-') fun _ => (isAt_meets (by omega) '-').any).any
  · intro begins hbegins
    obtain ⟨pos, hpos', hle, hlt⟩ : ∃ pos, (if begins = true then s.advance 2 else s) =
        { s with qCurPos := pos } ∧ s.qCurPos ≤ pos ∧ pos < q.length := by
      split
      case isTrue htrue =>
        exact ⟨_, rfl, Nat.le_add_right _ _, hbegins htrue⟩
      case isFalse =>
        exact ⟨_, rfl, Nat.le_refl _, hpos⟩
    rw [hpos']
    dsimp only
    rw [readQuery_ok (Nat.le_of_lt hlt)]
    refine Meets.ok_bind (Meets.ite (fun _ => Meets.ok ?_) (fun _ => Meets.ok ?_))
    · exact ⟨_, _, rfl, Nat.le_succ_of_le hle, hlt, fun _ => Nat.lt_succ_of_le hle,
        fun hno => absurd rfl hno⟩
    · exact ⟨_, _, rfl, hle, Nat.le_of_lt hlt, nofun, fun _ => ⟨rfl, hlt⟩⟩

end DigestSt

end Tokenizer

end PolarProxy
