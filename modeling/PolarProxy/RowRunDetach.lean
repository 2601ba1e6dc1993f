import PolarProxy.RowRuns

/-!
# Row runs and lengths near `INT_MAX`

The loop over frames stands behind whole frames.  At a position the test for a frame finds the
frame that is there, unless the sum of the position and a length passes `INT_MAX`: the sum wraps,
the test takes the wrapped length for the length of a frame in the buffer, and the loop goes on
before the buffer.

**Results.**
* `PGconn.psDataRowFrameLenAt_frame`, `PGconn.psDataRowFrameLenAt_none`: the test at a position,
  where no sum wraps.
* `PGconn.peekStep_ok`, `PGconn.loop_overruns`: a round of the loop.
* `PGconn.psPeekRowRun_meets`, `PGconn.psDetachRowRun_meets`: the run of frames, and how it leaves.
* `rowRun_iff`: when the functions return a run of frames.
-/

namespace PolarProxy

namespace RowRun

open Loops Memory Slices ExtendedMessage

variable {inBufSize : Nat} {conn : PGconn inBufSize} {budget : Nat}

/-! ## Frames -/

def IsDataRow (row : List UInt8) : Prop :=
  ∃ body, row = frame 'D' body ∧ body.length + 4 < 2 ^ 31

/-- A whole frame stands at a position, among the bytes that are not read yet. -/
structure FrameAt (conn : PGconn inBufSize) (pos : Nat) (row : List UInt8) : Prop where
  isDataRow : IsDataRow row
  stands : At conn.inBuffer.cells pos row
  le_end : pos + row.length ≤ conn.inEnd

/-- The positions that the loop over frames looks at, with the number of frames behind -/
inductive Scanned (conn : PGconn inBufSize) (budget : Nat) : Nat → Nat → Prop
  | start :
      conn.busy = true →
      conn.tuplesOk = true →
      Scanned conn budget conn.inStart 0
  | next {pos frames : Nat} {row : List UInt8} :
      Scanned conn budget pos frames →
      FrameAt conn pos row →
      (budget = 0 ∨ frames = 0 ∨ pos + row.length - conn.inStart ≤ budget) →
      Scanned conn budget (pos + row.length) (frames + 1)

/-- The sum of a position and the length of a frame there wraps, and the loop does not end there
for the budget.  A frame in the last bytes below `INT_MAX` has its length behind the end. -/
def Overruns (conn : PGconn inBufSize) (budget pos frames : Nat) : Prop :=
  pos < conn.inEnd ∧ (pos + 5 ≤ conn.inEnd ∨ 2 ^ 31 ≤ pos + 5) ∧
    conn.inBuffer.cells[pos]? = some 'D'.toUInt8 ∧
      (inBufSize ≤ pos + 4 ∨ ∃ n, conn.lengthWord (pos + 1) = .ok n ∧ 4 ≤ n ∧ n < 2 ^ 31 ∧
        2 ^ 31 ≤ pos + n + 1 ∧ (budget = 0 ∨ frames = 0 ∨
          sizeT (wrapInt (wrapInt (pos + n + 1) - conn.inStart)) ≤ budget))

namespace PGconn

/-! ## Bytes -/

theorem byteAt_ok
    {pos : Nat} {b : UInt8}
    (h : conn.inBuffer.cells[pos]? = some b) :
    conn.byteAt pos = .ok b := by
  rw [byteAt, Block.read_natCast, h]

theorem byteAt_outside
    {pos : Int}
    (h : pos < 0 ∨ inBufSize ≤ pos) :
    conn.byteAt pos = .error (.fault .outsideBuffer) := by
  rw [byteAt]
  cases hread : conn.inBuffer.read pos with
  | none =>
      rfl
  | some b =>
      have := Block.lt_of_read hread
      omega

theorem exists_cell
    (conn : PGconn inBufSize) (pos : Nat)
    (h : pos < inBufSize) :
    ∃ b, conn.inBuffer.cells[pos]? = some b := by
  have hlt : pos < conn.inBuffer.cells.length := by
    rw [conn.inBuffer.length_cells]
    exact h
  exact ⟨_, List.getElem?_eq_getElem hlt⟩

theorem lengthWord_ok
    (conn : PGconn inBufSize) (pos : Nat)
    (h : pos + 4 ≤ inBufSize) :
    ∃ n, conn.lengthWord pos = .ok n ∧ n < 2 ^ 32 ∧ At conn.inBuffer.cells pos (be32 n) := by
  obtain ⟨b₀, h₀⟩ := conn.exists_cell pos (by omega)
  obtain ⟨b₁, h₁⟩ := conn.exists_cell (pos + 1) (by omega)
  obtain ⟨b₂, h₂⟩ := conn.exists_cell (pos + 2) (by omega)
  obtain ⟨b₃, h₃⟩ := conn.exists_cell (pos + 3) (by omega)
  obtain ⟨hlt, hword⟩ := be32_eq_iff.mp
    (rfl : b₀.toNat * 2 ^ 24 + b₁.toNat * 2 ^ 16 + b₂.toNat * 2 ^ 8 + b₃.toNat = _)
  refine ⟨_, ?_, hlt, ?_⟩
  · rw [lengthWord, byteAt_ok h₀, ok_bind]
    change (conn.byteAt ((pos + 1 : Nat) : Int) >>= _) = _
    rw [byteAt_ok h₁, ok_bind]
    change (conn.byteAt ((pos + 2 : Nat) : Int) >>= _) = _
    rw [byteAt_ok h₂, ok_bind]
    change (conn.byteAt ((pos + 3 : Nat) : Int) >>= _) = _
    rw [byteAt_ok h₃]
    rfl
  · rw [← hword]
    refine at_cons.mpr ⟨h₀, at_cons.mpr ⟨h₁, at_cons.mpr ⟨h₂, at_cons.mpr ⟨h₃, at_nil.mpr ?_⟩⟩⟩⟩
    rw [conn.inBuffer.length_cells]
    omega

theorem lengthWord_outside
    (conn : PGconn inBufSize) (pos : Nat)
    (h : inBufSize < pos + 4) :
    conn.lengthWord pos = .error (.fault .outsideBuffer) := by
  have hbyte : ∀ i : Nat, conn.byteAt i = .error (.fault .outsideBuffer) ∨
      i < inBufSize ∧ ∃ b, conn.byteAt i = .ok b := by
    intro i
    rcases Nat.lt_or_ge i inBufSize with hlt | hge
    · obtain ⟨b, hb⟩ := conn.exists_cell i hlt
      exact Or.inr ⟨hlt, b, byteAt_ok hb⟩
    · exact Or.inl (byteAt_outside (by omega))
  rw [lengthWord]
  rcases hbyte pos with herr | ⟨-, b₀, h₀⟩
  · rw [herr]
    rfl
  rcases hbyte (pos + 1) with herr | ⟨-, b₁, h₁⟩
  · rw [h₀]
    change (conn.byteAt ((pos + 1 : Nat) : Int) >>= _) = _
    rw [herr]
    rfl
  rcases hbyte (pos + 2) with herr | ⟨-, b₂, h₂⟩
  · rw [h₀]
    change (conn.byteAt ((pos + 1 : Nat) : Int) >>= _) = _
    rw [h₁]
    change (conn.byteAt ((pos + 2 : Nat) : Int) >>= _) = _
    rw [herr]
    rfl
  rcases hbyte (pos + 3) with herr | ⟨hlt, -⟩
  · rw [h₀]
    change (conn.byteAt ((pos + 1 : Nat) : Int) >>= _) = _
    rw [h₁]
    change (conn.byteAt ((pos + 2 : Nat) : Int) >>= _) = _
    rw [h₂]
    change (conn.byteAt ((pos + 3 : Nat) : Int) >>= _) = _
    rw [herr]
    rfl
  · omega

/-! ## The test for a frame -/

variable {row : List UInt8}

theorem frameAt_reads
    {pos : Nat}
    (h : FrameAt conn pos row) :
    conn.inBuffer.cells[pos]? = some 'D'.toUInt8 ∧ ∃ n, conn.lengthWord (pos + 1) = .ok n ∧
      4 ≤ n ∧ n < 2 ^ 31 ∧ row.length = n + 1 := by
  obtain ⟨⟨body, rfl, hbody⟩, hat, hend⟩ := h
  obtain ⟨htype, hrest⟩ := at_cons.mp hat
  obtain ⟨hlen, -⟩ := at_append.mp hrest
  have hsize := hlen.le
  rw [conn.inBuffer.length_cells, length_be32] at hsize
  obtain ⟨n, hword, hlt, hn⟩ := conn.lengthWord_ok (pos + 1) hsize
  obtain rfl : n = body.length + 4 := be32_inj hlt (by omega) (hn.eq hlen rfl)
  refine ⟨htype, _, hword, Nat.le_add_left _ _, hbody, ?_⟩
  rw [frame, List.length_append, List.length_cons, length_be32]
  omega

theorem exists_frameAt
    {pos n : Nat}
    (htype : conn.inBuffer.cells[pos]? = some 'D'.toUInt8)
    (hword : conn.lengthWord (pos + 1) = .ok n)
    (hn : 4 ≤ n)
    (hlt : n < 2 ^ 31)
    (hend : pos + n + 1 ≤ conn.inEnd) :
    ∃ row, FrameAt conn pos row := by
  have hsize := conn.end_le_size
  obtain ⟨m, hword', -, hm⟩ := conn.lengthWord_ok (pos + 1) (by omega)
  obtain rfl : n = m := Except.ok.inj (hword.symm.trans hword')
  obtain ⟨body, hlen, hbody⟩ := exists_at (p := conn.inBuffer.cells) (o := pos + 5) (n := n - 4) (by
    rw [conn.inBuffer.length_cells]
    omega)
  obtain rfl : n = body.length + 4 := by omega
  refine ⟨frame 'D' body, ⟨body, rfl, hlt⟩, ?_, ?_⟩
  · exact at_cons.mpr ⟨htype, at_append.mpr ⟨hm, hbody⟩⟩
  · rw [frame, List.length_append, List.length_cons, length_be32]
    omega

/-- The test looks at a header that ends in the buffer, and at one whose end wraps. -/
theorem header_le_end
    {pos : Nat}
    (hpos : pos < conn.inEnd)
    (hheader : pos + 5 ≤ conn.inEnd ∨ 2 ^ 31 ≤ pos + 5) :
    ¬ wrapInt ((pos : Int) + 5) > conn.inEnd := by
  have hsize := conn.end_le_size
  have hlimit := conn.size_lt
  rcases Nat.lt_or_ge (pos + 5) (2 ^ 31) with hsmall | hlarge
  · rw [wrapInt_of_lt (by omega) (by omega)]
    omega
  · rw [wrapInt_of_le (by omega) (by omega)]
    omega

theorem psDataRowFrameLenAt_of_reads
    {pos n : Nat}
    (hpos : pos < conn.inEnd)
    (hheader : pos + 5 ≤ conn.inEnd ∨ 2 ^ 31 ≤ pos + 5)
    (htype : conn.inBuffer.cells[pos]? = some 'D'.toUInt8)
    (hword : conn.lengthWord (pos + 1) = .ok n)
    (hn : 4 ≤ n)
    (hlt : n < 2 ^ 31) :
    conn.psDataRowFrameLenAt pos =
      if wrapInt (pos + n + 1) > conn.inEnd then
        .ok (if wrapInt (pos + n + 1) ≤ inBufSize then .eof else .one)
      else .ok (.zero (wrapInt (n + 1))) := by
  have hsize := conn.end_le_size
  have hlimit := conn.size_lt
  have hnot := header_le_end hpos hheader
  have hsigned : wrapInt (n : Int) = n := wrapInt_of_lt (by omega) (by omega)
  rw [psDataRowFrameLenAt, if_neg hnot, byteAt_ok htype, ok_bind, if_neg (fun h => h rfl), hword,
    ok_bind]
  dsimp only
  rw [hsigned, if_neg (by omega), wrapInt_add_wrapInt, ← Int.add_assoc]
  rfl

/-- The test finds a frame that is there. -/
theorem psDataRowFrameLenAt_frame
    {pos : Nat}
    (h : FrameAt conn pos row) :
    conn.psDataRowFrameLenAt pos = .ok (.zero row.length) := by
  obtain ⟨htype, n, hword, hn, hlt, hlen⟩ := frameAt_reads h
  have hend := h.le_end
  have hsize := conn.end_le_size
  have hlimit := conn.size_lt
  rw [psDataRowFrameLenAt_of_reads (by omega) (Or.inl (by omega)) htype hword hn hlt,
    wrapInt_of_lt (by omega) (by omega), if_neg (by omega), wrapInt_of_lt (by omega) (by omega),
    hlen]
  rfl

/-- The test finds no frame where none is, unless a sum wraps. -/
theorem psDataRowFrameLenAt_none
    {pos : Nat}
    (hpos : pos < conn.inEnd)
    (hnone : ∀ row, ¬ FrameAt conn pos row)
    (hfits : (pos + 5 ≤ conn.inEnd ∨ 2 ^ 31 ≤ pos + 5) →
      conn.inBuffer.cells[pos]? = some 'D'.toUInt8 → pos + 4 < inBufSize ∧
        ∀ n, conn.lengthWord (pos + 1) = .ok n → 4 ≤ n → n < 2 ^ 31 → pos + n + 1 < 2 ^ 31) :
    conn.psDataRowFrameLenAt pos = .ok .eof ∨ conn.psDataRowFrameLenAt pos = .ok .one := by
  have hsize := conn.end_le_size
  have hlimit := conn.size_lt
  by_cases hheader : pos + 5 ≤ conn.inEnd ∨ 2 ^ 31 ≤ pos + 5
  · obtain ⟨b, hb⟩ := conn.exists_cell pos (by omega)
    have hnot := header_le_end hpos hheader
    by_cases htype : b = 'D'.toUInt8
    · rw [htype] at hb
      obtain ⟨hword', hwraps⟩ := hfits hheader hb
      obtain ⟨n, hword, hn⟩ : ∃ n, conn.lengthWord ((pos : Int) + 1) = .ok n ∧ n < 2 ^ 32 := by
        obtain ⟨n, hword, hn, -⟩ := conn.lengthWord_ok (pos + 1) (by omega)
        exact ⟨n, hword, hn⟩
      by_cases hlen : 4 ≤ n ∧ n < 2 ^ 31
      · have hlt := hwraps n hword hlen.1 hlen.2
        rw [psDataRowFrameLenAt_of_reads hpos hheader hb hword hlen.1 hlen.2,
          wrapInt_of_lt (by omega) (by omega)]
        have hbehind : (pos : Int) + n + 1 > conn.inEnd := by
          refine Int.not_le.mp fun hle => ?_
          obtain ⟨row, hrow⟩ := exists_frameAt hb hword hlen.1 hlen.2 (by omega)
          exact hnone row hrow
        rw [if_pos hbehind]
        split
        · exact Or.inl rfl
        · exact Or.inr rfl
      · refine Or.inr ?_
        have hshort : wrapInt (n : Int) < 4 := by
          rcases Nat.lt_or_ge n (2 ^ 31) with hsmall | hlarge
          · rw [wrapInt_of_lt (by omega) (by omega)]
            omega
          · rw [wrapInt_of_le (by omega) (by omega)]
            omega
        rw [psDataRowFrameLenAt, if_neg hnot, byteAt_ok hb, ok_bind, if_neg (fun h => h rfl), hword,
          ok_bind, if_pos hshort]
        rfl
    · refine Or.inr ?_
      rw [psDataRowFrameLenAt, if_neg hnot, byteAt_ok hb, ok_bind, if_pos htype]
      rfl
  · refine Or.inl ?_
    rw [psDataRowFrameLenAt, if_pos]
    · rfl
    · rw [wrapInt_of_lt (by omega) (by omega)]
      omega

/-! ## The loop over frames -/

theorem sizeT_of_nonneg
    {n : Int}
    (hnonneg : 0 ≤ n)
    (hlt : n < 2 ^ 31) :
    sizeT n = n.toNat := by
  rw [sizeT, Int.emod_eq_of_lt hnonneg (by omega)]

variable {pos frames : Nat}

theorem peekStep_of_zero
    {frameLen : Int}
    (hpos : pos < conn.inEnd)
    (htest : conn.psDataRowFrameLenAt pos = .ok (.zero frameLen)) :
    conn.peekStep budget (pos, frames) =
      if budget > 0 ∧ frames > 0 ∧
          sizeT (wrapInt (wrapInt (pos + frameLen) - conn.inStart)) > budget then
        .ok ((pos, frames), false)
      else .ok ((wrapInt (pos + frameLen), frames + 1), true) := by
  rw [peekStep]
  dsimp only
  rw [if_pos (by omega), htest]
  rfl

/-- Where there is a frame the loop takes it, or it ends for the budget. -/
theorem peekStep_frame
    (hstart : conn.inStart ≤ pos)
    (h : FrameAt conn pos row) :
    conn.peekStep budget (pos, frames) =
      if 0 < budget ∧ 0 < frames ∧ budget < pos + row.length - conn.inStart then
        .ok ((pos, frames), false)
      else .ok ((((pos + row.length : Nat) : Int), frames + 1), true) := by
  have hend := h.le_end
  have hsize := conn.end_le_size
  have hlimit := conn.size_lt
  have hpos : pos < conn.inEnd := by
    obtain ⟨-, n, -, -, -, hlen⟩ := frameAt_reads h
    omega
  have hnext : wrapInt ((pos : Int) + row.length) = ((pos + row.length : Nat) : Int) :=
    wrapInt_of_lt (by omega) (by omega)
  have hlen : sizeT (wrapInt (((pos + row.length : Nat) : Int) - conn.inStart)) =
      pos + row.length - conn.inStart := by
    rw [wrapInt_of_lt (by omega) (by omega), sizeT_of_nonneg (by omega) (by omega)]
    omega
  rw [peekStep_of_zero hpos (psDataRowFrameLenAt_frame h), hnext, hlen]

theorem psDataRowFrameLenAt_wraps
    {pos n : Nat}
    (hpos : pos < conn.inEnd)
    (hheader : pos + 5 ≤ conn.inEnd ∨ 2 ^ 31 ≤ pos + 5)
    (htype : conn.inBuffer.cells[pos]? = some 'D'.toUInt8)
    (hword : conn.lengthWord (pos + 1) = .ok n)
    (hn : 4 ≤ n)
    (hlt : n < 2 ^ 31)
    (hwraps : 2 ^ 31 ≤ pos + n + 1) :
    conn.psDataRowFrameLenAt pos = .ok (.zero (wrapInt (n + 1))) := by
  have hsize := conn.end_le_size
  have hlimit := conn.size_lt
  rw [psDataRowFrameLenAt_of_reads hpos hheader htype hword hn hlt,
    wrapInt_of_le (by omega) (by omega), if_neg (by omega)]

/-- The loop goes on behind a frame, or ends where none follows that fits the budget. -/
theorem peekStep_ok
    (hstart : conn.inStart ≤ pos)
    (hend : pos ≤ conn.inEnd)
    (hfits : ¬ Overruns conn budget pos frames) :
    (∃ row, FrameAt conn pos row ∧
        (budget = 0 ∨ frames = 0 ∨ pos + row.length - conn.inStart ≤ budget) ∧
        conn.peekStep budget (pos, frames) =
          .ok ((((pos + row.length : Nat) : Int), frames + 1), true)) ∨
      (conn.peekStep budget (pos, frames) = .ok ((pos, frames), false) ∧
        ∀ row, FrameAt conn pos row →
          0 < budget ∧ 0 < frames ∧ budget < pos + row.length - conn.inStart) := by
  by_cases hframe : ∃ row, FrameAt conn pos row
  · obtain ⟨row, hrow⟩ := hframe
    by_cases hbudget : 0 < budget ∧ 0 < frames ∧ budget < pos + row.length - conn.inStart
    · refine Or.inr ⟨by rw [peekStep_frame hstart hrow, if_pos hbudget], fun row' hrow' => ?_⟩
      obtain ⟨-, n, hword, -, -, hlen⟩ := frameAt_reads hrow
      obtain ⟨-, m, hword', -, -, hlen'⟩ := frameAt_reads hrow'
      obtain rfl : n = m := Except.ok.inj (hword.symm.trans hword')
      rw [hlen', ← hlen]
      exact hbudget
    · refine Or.inl ⟨row, hrow, by omega, ?_⟩
      rw [peekStep_frame hstart hrow, if_neg hbudget]
  · refine Or.inr ⟨?_, fun row hrow => absurd ⟨row, hrow⟩ hframe⟩
    rcases Nat.lt_or_ge pos conn.inEnd with hpos | hge
    · by_cases hwraps : (pos + 5 ≤ conn.inEnd ∨ 2 ^ 31 ≤ pos + 5) ∧
          conn.inBuffer.cells[pos]? = some 'D'.toUInt8 ∧
            ∃ n, conn.lengthWord (pos + 1) = .ok n ∧ 4 ≤ n ∧ n < 2 ^ 31 ∧ 2 ^ 31 ≤ pos + n + 1
      · obtain ⟨hheader, htype, n, hword, hn, hlt, hpast⟩ := hwraps
        rw [peekStep_of_zero hpos
            (psDataRowFrameLenAt_wraps hpos hheader htype hword hn hlt hpast),
          wrapInt_add_wrapInt, ← Int.add_assoc, if_pos]
        refine ⟨Nat.pos_of_ne_zero fun hzero => ?_, Nat.pos_of_ne_zero fun hzero => ?_,
          Nat.lt_of_not_le fun hle => ?_⟩
        · exact hfits ⟨hpos, hheader, htype, Or.inr ⟨n, hword, hn, hlt, hpast, Or.inl hzero⟩⟩
        · exact hfits ⟨hpos, hheader, htype,
            Or.inr ⟨n, hword, hn, hlt, hpast, Or.inr (Or.inl hzero)⟩⟩
        · exact hfits ⟨hpos, hheader, htype,
            Or.inr ⟨n, hword, hn, hlt, hpast, Or.inr (Or.inr hle)⟩⟩
      · have htest := psDataRowFrameLenAt_none hpos (fun row hrow => hframe ⟨row, hrow⟩)
          fun hheader htype => ⟨Nat.lt_of_not_le fun hle => hfits ⟨hpos, hheader, htype, Or.inl hle⟩,
            fun n hword hn hlt => Nat.lt_of_not_le fun hpast =>
              hwraps ⟨hheader, htype, n, hword, hn, hlt, hpast⟩⟩
        rw [peekStep]
        dsimp only
        rw [if_pos (by omega)]
        rcases htest with htest | htest
        · rw [htest]
          rfl
        · rw [htest]
          rfl
    · rw [peekStep]
      dsimp only
      rw [if_neg (by omega)]
      rfl

/-- Where a sum wraps, or the length is outside of the buffer, the loop has no value. -/
theorem loop_overruns
    (h : Overruns conn budget pos frames)
    (fuel : Nat) (r : Int × Nat) :
    loop (conn.peekStep budget) fuel (pos, frames) ≠ .ok r := by
  obtain ⟨hpos, hheader, htype, hread⟩ := h
  have hsize := conn.end_le_size
  have hlimit := conn.size_lt
  cases fuel with
  | zero =>
      intro heq
      cases heq
  | succ fuel =>
      rcases hread with houtside | ⟨n, hword, hn, hlt, hpast, hbudget⟩
      · have htest : conn.psDataRowFrameLenAt pos = .error (.fault .outsideBuffer) := by
          rw [psDataRowFrameLenAt, if_neg (header_le_end hpos hheader), byteAt_ok htype, ok_bind,
            if_neg (fun h => h rfl)]
          change (conn.lengthWord ((pos + 1 : Nat) : Int) >>= _) = _
          rw [conn.lengthWord_outside (pos + 1) (by omega)]
          rfl
        rw [loop, peekStep]
        dsimp only
        rw [if_pos (by omega), htest]
        intro heq
        cases heq
      · have hback : wrapInt ((pos : Int) + n + 1) = pos + n + 1 - 2 ^ 32 :=
          wrapInt_of_le (by omega) (by omega)
        rw [loop, peekStep_of_zero hpos
            (psDataRowFrameLenAt_wraps hpos hheader htype hword hn hlt hpast),
          wrapInt_add_wrapInt, ← Int.add_assoc, if_neg (by omega), ok_bind, if_pos rfl]
        -- the next round reads before the buffer
        cases fuel with
        | zero =>
            intro heq
            cases heq
        | succ fuel =>
            rw [hback, loop, peekStep]
            dsimp only
            rw [if_pos (by omega), psDataRowFrameLenAt, if_neg, byteAt_outside (Or.inl (by omega))]
            · intro heq
              cases heq
            · rw [wrapInt_of_lt (by omega) (by omega)]
              omega

end PGconn

/-! ## Runs of rows -/

/-- Whole rows at the start of a text, as many as the budget allows and one at least -/
structure IsRun (unread : List UInt8) (budget : Nat) (rows : List (List UInt8)) : Prop where
  isDataRow : ∀ row ∈ rows, IsDataRow row
  ne_nil : rows ≠ []
  isPrefix : rows.flatten <+: unread
  fits : budget = 0 ∨ rows.length = 1 ∨ rows.flatten.length ≤ budget
  maximal : ∀ row, IsDataRow row → rows.flatten ++ row <+: unread →
    0 < budget ∧ budget < (rows.flatten ++ row).length

/-- The run is exposed, or there is no whole row to expose. -/
def Peeked (conn : PGconn inBufSize) (budget : Nat) : Rc View → Prop
  | .zero view => conn.busy = true ∧ conn.tuplesOk = true ∧ ∃ rows,
      IsRun conn.unread budget rows ∧ view = ⟨conn.inStart, rows.flatten.length, rows.length⟩
  | _ => conn.busy = true → conn.tuplesOk = true → ∀ row, IsDataRow row → ¬ row <+: conn.unread

/-- The run that is exposed leaves with the buffer, and the rest stays; or nothing changes. -/
def Detaches (conn : PGconn inBufSize) (budget : Nat) (fresh : Option (Block UInt8 inBufSize)) :
    Rc (Detached inBufSize) × PGconn inBufSize → Prop
  | (.zero detached, conn') => conn.psPeekRowRun budget = .ok (.zero detached.view) ∧
      detached.ownedBuf = conn.inBuffer ∧
        (conn.inBuffer.cells.drop detached.view.data).take detached.view.len ++ conn'.unread =
          conn.unread
  | (_, conn') => conn' = conn ∧
      (fresh = none ∨ ∀ view, conn.psPeekRowRun budget ≠ .ok (.zero view))

theorem frameAt_iff {pos : Nat} {row : List UInt8} (hpos : pos ≤ conn.inEnd) :
    FrameAt conn pos row ↔
      IsDataRow row ∧ row <+: (conn.inBuffer.cells.take conn.inEnd).drop pos := by
  have hsize : conn.inEnd ≤ conn.inBuffer.cells.length := by
    rw [conn.inBuffer.length_cells]
    exact conn.end_le_size
  have hat := (at_take row pos hsize).symm.trans at_iff
  rw [List.length_take_of_le hsize] at hat
  constructor
  · rintro ⟨hrow, hstands, hend⟩
    exact ⟨hrow, (hat.mp ⟨hstands, hend⟩).2⟩
  · rintro ⟨hrow, hlead⟩
    obtain ⟨hstands, hend⟩ := hat.mpr ⟨hpos, hlead⟩
    exact ⟨hrow, hstands, hend⟩

variable {pos frames : Nat}

/-- Behind the positions that the loop looks at there are whole rows. -/
theorem Scanned.rows
    (h : Scanned conn budget pos frames) :
    ∃ rows : List (List UInt8), rows.length = frames ∧ (∀ row ∈ rows, IsDataRow row) ∧
      rows.flatten <+: conn.unread ∧ pos = conn.inStart + rows.flatten.length ∧
        pos ≤ conn.inEnd ∧ (budget = 0 ∨ frames ≤ 1 ∨ rows.flatten.length ≤ budget) := by
  induction h with
  | start =>
      exact ⟨[], rfl, nofun, List.nil_prefix, rfl, conn.start_le_end, Or.inr (Or.inl (Nat.zero_le _))⟩
  | @next pos frames row _ hrow hbudget ih =>
      obtain ⟨rows, hlen, hrows, hlead, hpos, hend, -⟩ := ih
      obtain ⟨hdata, hnext⟩ := (frameAt_iff hend).mp hrow
      have hflat : (rows ++ [row]).flatten = rows.flatten ++ row := by
        rw [List.flatten_append, List.flatten_singleton]
      refine ⟨rows ++ [row], by rw [List.length_append, hlen, List.length_singleton], ?_, ?_, ?_,
        hrow.le_end, ?_⟩
      · intro r hr
        rcases List.mem_append.mp hr with hr | hr
        · exact hrows r hr
        · rw [List.mem_singleton.mp hr]
          exact hdata
      · obtain ⟨rest, hrest⟩ := hlead
        rw [hflat, ← hrest]
        refine (List.prefix_append_right_inj _).mpr ?_
        rw [PGconn.unread] at hrest
        rw [hpos, ← List.drop_drop, ← hrest, List.drop_left] at hnext
        exact hnext
      · rw [hflat, List.length_append, hpos, Nat.add_assoc]
      · rw [hflat, List.length_append]
        rcases hbudget with hzero | hfirst | hle
        · exact Or.inl hzero
        · exact Or.inr (Or.inl (by omega))
        · exact Or.inr (Or.inr (by omega))

/-- The rounds of the loop lead to the positions that it looks at. -/
theorem Scanned.rounds
    (h : Scanned conn budget pos frames) :
    Rounds (conn.peekStep budget) ((conn.inStart : Int), 0) ((pos : Int), frames) := by
  induction h with
  | start =>
      exact Rounds.refl
  | @next pos frames row h hrow hbudget ih =>
      obtain ⟨rows, -, -, -, hpos, -, -⟩ := h.rows
      refine ih.round ?_
      rw [PGconn.peekStep_frame (by omega) hrow, if_neg (by omega)]

theorem Scanned.starts
    (h : Scanned conn budget pos frames) :
    conn.busy = true ∧ conn.tuplesOk = true := by
  induction h with
  | start hbusy hok =>
      exact ⟨hbusy, hok⟩
  | next _ _ _ ih =>
      exact ih

/-- No sum wraps at the positions that the loop looks at. -/
def Fits (conn : PGconn inBufSize) (budget : Nat) : Prop :=
  ∀ pos frames, Scanned conn budget pos frames → ¬ Overruns conn budget pos frames

namespace PGconn

theorem peekLoop_meets
    (hfits : Fits conn budget)
    (hbusy : conn.busy = true)
    (hok : conn.tuplesOk = true) :
    Meets (fun _ => False) (loop (conn.peekStep budget) (conn.inEnd + 2) ((conn.inStart : Int), 0))
      (fun r => ∃ pos : Nat, r.1 = pos ∧ Scanned conn budget pos r.2 ∧ ∀ row,
        FrameAt conn pos row → 0 < budget ∧ 0 < r.2 ∧ budget < pos + row.length - conn.inStart) := by
  refine Meets.loop_measure
    (I := fun r : Int × Nat => ∃ pos : Nat, r.1 = pos ∧ Scanned conn budget pos r.2)
    (fun r => conn.inEnd - r.1.toNat) ?_ _ _ ⟨_, rfl, Scanned.start hbusy hok⟩ ?_
  · rintro ⟨-, frames⟩ ⟨pos, rfl, hscanned⟩
    obtain ⟨rows, -, -, -, hpos, hend, -⟩ := hscanned.rows
    rcases peekStep_ok (by omega) hend (hfits pos frames hscanned) with
      ⟨row, hrow, hbudget, hstep⟩ | ⟨hstep, hlast⟩
    · obtain ⟨-, n, -, hn, -, hlen⟩ := frameAt_reads hrow
      have hle := hrow.le_end
      rw [hstep]
      refine Meets.ok ?_
      rw [if_pos rfl]
      refine ⟨⟨_, rfl, hscanned.next hrow hbudget⟩, ?_⟩
      dsimp only
      omega
    · rw [hstep]
      refine Meets.ok ?_
      rw [if_neg Bool.false_ne_true]
      exact ⟨pos, rfl, hscanned, hlast⟩
  · dsimp only
    omega

theorem noFrame_ok
    (hnone : ∀ row, ¬ FrameAt conn conn.inStart row)
    (hfits : ¬ Overruns conn budget conn.inStart 0) :
    conn.noFrame = .ok .eof ∨ conn.noFrame = .ok .one := by
  have hsize := conn.end_le_size
  rcases Nat.lt_or_ge conn.inStart conn.inEnd with hpos | hge
  · obtain ⟨b, hb⟩ := conn.exists_cell conn.inStart (by omega)
    have htest := psDataRowFrameLenAt_none hpos hnone fun hheader htype =>
      ⟨Nat.lt_of_not_le fun hle => hfits ⟨hpos, hheader, htype, Or.inl hle⟩,
        fun n hword hn hlt => Nat.lt_of_not_le fun hpast =>
          hfits ⟨hpos, hheader, htype, Or.inr ⟨n, hword, hn, hlt, hpast, Or.inr (Or.inl rfl)⟩⟩⟩
    rw [noFrame, if_pos hpos, byteAt_ok hb, ok_bind]
    by_cases htype : b = 'D'.toUInt8
    · rw [if_pos htype]
      rcases htest with htest | htest
      · rw [htest]
        exact Or.inl rfl
      · rw [htest]
        exact Or.inr rfl
    · rw [if_neg htype]
      exact Or.inr rfl
  · rw [noFrame, if_neg (by omega)]
    exact Or.inr rfl

theorem psPeekRowRun_meets (hfits : Fits conn budget) :
    Meets (fun _ => False) (conn.psPeekRowRun budget) (Peeked conn budget) := by
  have hlimit := conn.size_lt
  have hsize := conn.end_le_size
  rw [psPeekRowRun]
  cases hbusy : conn.busy with
  | false =>
      exact Meets.ok fun h => absurd (h.symm.trans hbusy) (by decide)
  | true =>
    cases hok : conn.tuplesOk with
    | false =>
        exact Meets.ok fun _ h => absurd (h.symm.trans hok) (by decide)
    | true =>
        refine (peekLoop_meets hfits hbusy hok).bind ?_
        rintro ⟨-, frames⟩ ⟨pos, rfl, hscanned, hlast⟩
        obtain ⟨rows, rfl, hrows, hlead, rfl, hend, hbudget⟩ := hscanned.rows
        dsimp only at hlast ⊢
        refine Meets.ite (fun hzero => ?_) (fun hzero => ?_)
        · obtain rfl := List.length_eq_zero_iff.mp hzero
          have hnone : ∀ row, ¬ FrameAt conn conn.inStart row := fun row hrow =>
            absurd (hlast row hrow).2.1 (Nat.lt_irrefl 0)
          have hpeeked : ∀ row, IsDataRow row → ¬ row <+: conn.unread := fun row hdata hpre =>
            hnone row ((frameAt_iff conn.start_le_end).mpr ⟨hdata, hpre⟩)
          rcases noFrame_ok hnone (hfits _ _ hscanned) with heq | heq
          · rw [heq]
            exact Meets.ok fun _ _ => hpeeked
          · rw [heq]
            exact Meets.ok fun _ _ => hpeeked
        · refine Meets.ok ⟨hbusy, hok, rows, ⟨hrows, ?_, hlead, by omega, ?_⟩, ?_⟩
          · rintro rfl
            exact hzero rfl
          · intro row hdata hpre
            obtain ⟨rest, hrest⟩ := hlead
            have hframe : FrameAt conn (conn.inStart + rows.flatten.length) row := by
              refine (frameAt_iff hend).mpr ⟨hdata, ?_⟩
              rw [← hrest] at hpre
              rw [unread] at hrest
              rw [← List.drop_drop, ← hrest, List.drop_left]
              exact (List.prefix_append_right_inj _).mp hpre
            have hpast := hlast row hframe
            rw [List.length_append]
            omega
          · rw [wrapInt_of_lt (by omega) (by omega), sizeT_of_nonneg (by omega) (by omega)]
            congr 1
            omega

theorem replaceBuffer_ok
    (conn : PGconn inBufSize) (fresh : Block UInt8 inBufSize) (text : List UInt8)
    (hlen : text.length ≤ inBufSize) :
    ∃ conn', conn.replaceBuffer fresh text = .ok conn' ∧ conn'.unread = text := by
  obtain ⟨block, hcopy, htext⟩ := fresh.exists_copy hlen
  rw [replaceBuffer, dif_pos hlen, hcopy]
  exact ⟨_, rfl, htext⟩

/-- A run of frames lies among the bytes that are not read yet. -/
theorem view_of_peeked
    {view : View}
    (h : Peeked conn budget (.zero view)) :
    view.data = conn.inStart ∧ conn.inStart + view.len ≤ conn.inEnd := by
  have hsize := conn.end_le_size
  have hstart := conn.start_le_end
  obtain ⟨-, -, rows, hrun, rfl⟩ := h
  have hle := hrun.isPrefix.length_le
  rw [unread, List.length_drop, List.length_take, conn.inBuffer.length_cells] at hle
  refine ⟨rfl, ?_⟩
  dsimp only
  omega

theorem readRest_ok
    {pos : Nat}
    (hpos : pos ≤ conn.inEnd) :
    (if wrapInt ((conn.inEnd : Int) - pos) > 0 then
        conn.readBytes pos (wrapInt ((conn.inEnd : Int) - pos)).toNat
      else pure []) = .ok ((conn.inBuffer.cells.drop pos).take (conn.inEnd - pos)) := by
  have hlimit := conn.size_lt
  have hsize := conn.end_le_size
  have hlen : wrapInt ((conn.inEnd : Int) - pos) = ((conn.inEnd - pos : Nat) : Int) := by
    rw [wrapInt_of_lt (by omega) (by omega)]
    omega
  rw [hlen, Int.toNat_natCast]
  split
  case isTrue =>
    rw [readBytes, if_pos (by omega), Int.toNat_natCast]
  case isFalse hzero =>
    rw [show conn.inEnd - pos = 0 by omega, List.take_zero]
    rfl

theorem unread_split
    {n : Nat}
    (h : conn.inStart + n ≤ conn.inEnd) :
    (conn.inBuffer.cells.drop conn.inStart).take n ++
        (conn.inBuffer.cells.drop (conn.inStart + n)).take (conn.inEnd - (conn.inStart + n)) =
      conn.unread := by
  have hlen : conn.inEnd - conn.inStart = n + (conn.inEnd - (conn.inStart + n)) := by
    omega
  rw [unread, List.drop_take, hlen, List.take_add, List.drop_drop]

theorem psDetachRowRun_meets
    (fresh : Option (Block UInt8 inBufSize))
    (hfits : Fits conn budget) :
    Meets (fun _ => False) (conn.psDetachRowRun fresh budget) (Detaches conn budget fresh) := by
  have hlimit := conn.size_lt
  have hsize := conn.end_le_size
  refine (psPeekRowRun_meets hfits).value.bind fun r hr => ?_
  have hpeek := hr.2
  cases r with
  | zero view =>
      have hdata := (view_of_peeked hr.1).1
      have hend := (view_of_peeked hr.1).2
      have hrunEnd : wrapInt ((conn.inStart : Int) + wrapInt view.len) =
          ((conn.inStart + view.len : Nat) : Int) := by
        rw [wrapInt_add_wrapInt, wrapInt_of_lt (by omega) (by omega)]
        rfl
      have htail : ¬ wrapInt ((conn.inEnd : Int) - ((conn.inStart + view.len : Nat) : Int)) < 0 := by
        rw [wrapInt_of_lt (by omega) (by omega)]
        omega
      dsimp only
      rw [hrunEnd, if_neg htail]
      cases fresh with
      | none =>
          exact Meets.ok ⟨rfl, Or.inl rfl⟩
      | some block =>
          dsimp only
          rw [readRest_ok hend, ok_bind]
          obtain ⟨conn', hreplace, hunread⟩ := conn.replaceBuffer_ok block
              ((conn.inBuffer.cells.drop (conn.inStart + view.len)).take
                (conn.inEnd - (conn.inStart + view.len))) (by
            rw [List.length_take]
            omega)
          rw [hreplace]
          refine Meets.ok ⟨hpeek, rfl, ?_⟩
          rw [hdata, hunread]
          exact unread_split hend
  | eof | one =>
      refine Meets.ok ⟨rfl, Or.inr fun view h => ?_⟩
      cases hpeek.symm.trans h

/-- A run of frames has no value if the loop looks at a position where a sum wraps. -/
theorem not_overruns_of_ok
    {r : Rc View}
    (h : conn.psPeekRowRun budget = .ok r) :
    Fits conn budget := by
  intro pos frames hscanned hover
  obtain ⟨hbusy, hok⟩ := hscanned.starts
  rw [psPeekRowRun, hbusy, hok] at h
  cases hloop : loop (conn.peekStep budget) (conn.inEnd + 2) ((conn.inStart : Int), 0) with
  | ok r =>
      exact loop_ne_ok_of_rounds hscanned.rounds (loop_overruns hover) _ _ hloop
  | error e =>
      rw [hloop] at h
      cases h

end PGconn

/-- The functions return the run of rows at the start, and leave the rest, exactly if the loop
looks at no position where the sum with a length wraps. -/
theorem rowRun_iff
    (conn : PGconn inBufSize) (budget : Nat) (fresh : Option (Block UInt8 inBufSize)) :
    ((∃ r, conn.psPeekRowRun budget = .ok r ∧ Peeked conn budget r) ∧
        ∃ r, conn.psDetachRowRun fresh budget = .ok r ∧ Detaches conn budget fresh r) ↔
      ∀ pos frames, Scanned conn budget pos frames → ¬ Overruns conn budget pos frames := by
  constructor
  · rintro ⟨⟨r, hpeek, -⟩, -⟩
    exact PGconn.not_overruns_of_ok hpeek
  · intro hfits
    exact ⟨(PGconn.psPeekRowRun_meets hfits).exists_ok,
      (PGconn.psDetachRowRun_meets fresh hfits).exists_ok⟩

/-- A frame with the length `INT_MAX` -/
def longestFrame : PGconn 5 where
  inBuffer := ⟨['D'.toUInt8, 127, 255, 255, 255], rfl⟩
  inStart := 0
  inCursor := 0
  inEnd := 5
  busy := true
  tuplesOk := true
  start_le_end := by decide
  end_le_size := by decide
  size_lt := by decide

/-- The loop reads before the buffer. -/
theorem psPeekRowRun_longestFrame :
    longestFrame.psPeekRowRun 0 = .error (.fault .outsideBuffer) ∧
      ¬ ∃ r, longestFrame.psPeekRowRun 0 = .ok r ∧ Peeked longestFrame 0 r := by
  have hfault : longestFrame.psPeekRowRun 0 = .error (.fault .outsideBuffer) := by
    rfl
  refine ⟨hfault, ?_⟩
  rintro ⟨r, hr, -⟩
  cases hfault.symm.trans hr

end RowRun

end PolarProxy
