import PolarProxy.DigestFrames
import PolarProxy.DigestIterations

/-!
# Termination and bounds of the query digest

Every round of the first stage consumes a character, selects a state, or hands the control back
where it is.  The last of these is followed by no selection of the same state, except where a dollar
sign stands in the neutral state and the tag of an earlier dollar quote is still open and does not
fit any more: there the state is selected and left for ever.

Where no such state is reached the digest ends.  It stays in its buffers where no initial mark of a
nested comment is read with the buffer of kept comments full, and no groups are replaced by more text
than they take.

**Results.**
* `DigestSt.Stuck`: where the first stage goes on for ever.
* `queryDigest_ends_iff`: the digest ends if and only if no such state is reached.
* `queryDigest_inBounds`: no access of the digest leaves its text.
* `conditions_of_runBounded`: a check of both conditions along a run.
-/

namespace PolarProxy

namespace Tokenizer

open Loops Memory

variable {q : List Char} {opts : Options} {dMaxLen : Nat} {free : Prop}

namespace DigestSt

variable {s t : DigestSt dMaxLen}

/-! ## Rounds of the first stage -/

/-- The neutral state selects a dollar quote, whose function hands the control back where it is. -/
structure Stuck (q : List Char) (opts : Options) (s : DigestSt dMaxLen) : Prop where
  st : s.st = .noMarkFound
  room : s.resCurPos < dMaxLen
  pos : s.qCurPos < q.length
  selects : getNextSt q opts s.qCurPos s.prevChar = .ok .dollarQuoteString
  long : TagTooLong q s

theorem incProcPos_moves :
    Meets Any (s.incProcPos q) (fun t => t.qCurPos = s.qCurPos + 1) := by
  unfold incProcPos
  split
  · exact any_bind fun _ => Meets.ok rfl
  · exact Meets.ok rfl

theorem writeRes_stays (pos : Nat) (c : Char) :
    Meets Any (s.writeRes pos c) (fun t => t.qCurPos = s.qCurPos) := by
  unfold writeRes
  split
  · exact Meets.ok rfl
  · exact Meets.error trivial

theorem copyNextChar_moves :
    Meets Any (s.copyNextChar q opts) (fun t => t.qCurPos = s.qCurPos + 1) := by
  refine any_bind fun c => Meets.bind (R := fun t => t.qCurPos = s.qCurPos) ?_ fun t ht => ?_
  · exact (writeRes_stays _ _).bind fun t ht => Meets.ok ht
  · exact incProcPos_moves.imp fun u hu => hu.trans (congrArg (· + 1) ht)

/-- In the neutral state a round consumes a character or selects a state. -/
theorem neutralStep_selects :
    Meets Any (s.neutralStep q opts) (fun t => t.qCurPos = s.qCurPos + 1 ∨ ∃ st,
      t = { s with resPrePos := s.resCurPos, st := st } ∧
        getNextSt q opts s.qCurPos s.prevChar = .ok st) := by
  refine (any_meets _).value.bind fun st hst => ?_
  refine Meets.ite (fun _ => Meets.ok (Or.inr ⟨st, rfl, hst.2⟩)) fun _ => any_bind fun c => ?_
  refine Meets.ite (fun _ => Meets.ok (Or.inl rfl)) fun _ => ?_
  refine Meets.ite (fun _ => any_bind fun last => ?_) fun _ => ?_
  · split
    · exact (writeRes_stays _ ' ').bind fun t ht => Meets.ok (Or.inl (congrArg (· + 1) ht))
    · exact (writeRes_stays _ ' ').bind fun t ht => Meets.ok (Or.inl (congrArg (· + 1) ht))
  · exact copyNextChar_moves.imp fun t ht => Or.inl ht

theorem stage1Step_selects :
    Meets Any (s.stage1Step q opts) (fun r => r.2 = true → s.resCurPos < dMaxLen ∧
      (s.st = .noMarkFound → r.1.qCurPos = s.qCurPos + 1 ∨ ∃ st,
        r.1 = { s with resPrePos := s.resCurPos, st := st } ∧
          getNextSt q opts s.qCurPos s.prevChar = .ok st)) := by
  refine Meets.ite (fun hmore => ?_) fun _ => Meets.ok nofun
  refine Meets.bind (R := fun t => s.st = .noMarkFound → t.qCurPos = s.qCurPos + 1 ∨ ∃ st,
    t = { s with resPrePos := s.resCurPos, st := st } ∧
      getNextSt q opts s.qCurPos s.prevChar = .ok st) ?_ fun t ht => Meets.ok fun _ => ⟨hmore.1, ht⟩
  refine Meets.ite (fun _ => neutralStep_selects.imp fun t ht _ => ht) fun hmark => ?_
  exact (any_meets _).imp fun t _ hst => absurd hst hmark

instance : Decidable (TagTooLong q s) :=
  inferInstanceAs (Decidable (_ ∧ _))

/-- Rounds that may pass before a character is consumed -/
def rank (q : List Char) (s : DigestSt dMaxLen) : Nat :=
  match s.st with
  | .noMarkFound => 1
  | .cmntType1 => if 0 < s.cmntType1St.nestLevel then 2 else 0
  | .literalNumber => if s.literalDigSt.firstDigit = false then 2 else 0
  | .dollarQuoteString => if TagTooLong q s then 2 else 0
  | .quotedIdentifier => if s.quotedIdenSt.delimNum = true then 2 else 0
  | _ => 0

theorem rank_le (q : List Char) (s : DigestSt dMaxLen) : rank q s ≤ 2 := by
  unfold rank
  split
  case h_1 =>
    decide
  case h_6 =>
    decide
  all_goals
    split
    · exact Nat.le_refl 2
    · exact Nat.zero_le 2

theorem rank_of_noMarkFound (hst : s.st = .noMarkFound) : rank q s = 1 := by
  rw [rank, hst]

theorem rank_of_lingers (h : Lingers q s) : rank q s = 2 := by
  unfold Lingers at h
  unfold rank
  cases hst : s.st
  all_goals rw [hst] at h
  case cmntType1 =>
    exact if_pos h
  case literalNumber =>
    exact if_pos h
  case dollarQuoteString =>
    exact if_pos h
  case quotedIdentifier =>
    exact if_pos h
  all_goals exact h.elim

theorem rank_of_not_lingers
    (hst : s.st ≠ .noMarkFound)
    (h : ¬ Lingers q s) :
    rank q s = 0 := by
  unfold Lingers at h
  unfold rank
  cases hcase : s.st
  all_goals rw [hcase] at h
  case noMarkFound =>
    exact absurd hcase hst
  case cmntType1 =>
    exact if_neg h
  case literalNumber =>
    exact if_neg h
  case dollarQuoteString =>
    exact if_neg h
  case quotedIdentifier =>
    exact if_neg h

/-- How far the first stage is from its end -/
def distance (q : List Char) (s : DigestSt dMaxLen) : Nat :=
  3 * (q.length - s.qCurPos) + rank q s

theorem distance_congr
    (hpos : t.qCurPos = s.qCurPos)
    (hst : t.st = s.st)
    (hlingers : Lingers q t ↔ Lingers q s) :
    distance q t = distance q s := by
  have hrank : rank q t = rank q s := by
    by_cases hneutral : s.st = .noMarkFound
    · rw [rank_of_noMarkFound hneutral, rank_of_noMarkFound (hst.trans hneutral)]
    · by_cases hlinger : Lingers q s
      · rw [rank_of_lingers hlinger, rank_of_lingers (hlingers.mpr hlinger)]
      · rw [rank_of_not_lingers hneutral hlinger,
          rank_of_not_lingers (fun heq => hneutral (hst.symm.trans heq)) fun h =>
            hlinger (hlingers.mp h)]
  rw [distance, distance, hpos, hrank]

/-- A state that was just selected does not hand the control back, unless the loop is stuck. -/
theorem not_lingers_of_selects
    {st : ParseSt}
    (h : LoopInv free q opts s)
    (hneutral : s.st = .noMarkFound)
    (hroom : s.resCurPos < dMaxLen)
    (hpos : s.qCurPos < q.length)
    (hstuck : ¬ Stuck q opts s)
    (hselects : getNextSt q opts s.qCurPos s.prevChar = .ok st) :
    ¬ Lingers q { s with resPrePos := s.resCurPos, st := st } := by
  intro hlingers
  have hidle : ∀ st, st ≠ .noMarkFound → IdleAt s st :=
    fun st hne => h.idle hpos st fun heq => hne (heq.symm.trans hneutral)
  unfold Lingers at hlingers
  dsimp only at hlingers
  cases st
  case cmntType1 =>
    have hzero : s.cmntType1St.nestLevel = 0 := hidle .cmntType1 ParseSt.noConfusion
    exact absurd hlingers (Nat.not_lt_of_ge (Nat.le_of_eq hzero))
  case literalNumber =>
    have hnumber : s.st ≠ .literalNumber := by
      rw [hneutral]
      exact ParseSt.noConfusion
    exact Bool.noConfusion ((h.digits_of_ne hnumber).1.symm.trans hlingers)
  case dollarQuoteString =>
    exact hstuck ⟨hneutral, hroom, hpos, hselects, hlingers⟩
  case quotedIdentifier =>
    have hfalse : s.quotedIdenSt.delimNum = false := hidle .quotedIdentifier ParseSt.noConfusion
    exact Bool.noConfusion (hfalse.symm.trans hlingers)
  all_goals exact hlingers

theorem stage1Step_lowers
    (h : LoopInv free q opts s)
    (hfull : free ∨ ¬ NestsFull q opts s)
    (hstuck : ¬ Stuck q opts s) :
    Meets (Allowed free) (s.stage1Step q opts) (fun r =>
      if r.2 then LoopInv free q opts r.1 ∧ distance q r.1 < distance q s
      else r.1 = s ∧ (s.qCurPos < q.length → dMaxLen ≤ s.resCurPos)) := by
  refine ((stage1Step_meets h hfull).and stage1Step_selects).imp ?_
  rintro ⟨t, again⟩ ⟨hround, hselects⟩
  cases again with
  | false =>
      exact hround
  | true =>
      obtain ⟨⟨hinv, hmoves⟩, hpos⟩ := hround
      obtain ⟨hroom, hneutral⟩ := hselects rfl
      refine ⟨hinv, ?_⟩
      have hle := hinv.pos
      have hrank := rank_le q t
      unfold distance
      dsimp only at hmoves hneutral hle hrank ⊢
      rcases hmoves with hlt | ⟨hsame, -, ⟨hst, hmark⟩ | ⟨hlingers, hst⟩⟩
      · omega
      · rcases hneutral hst with hmoved | ⟨st, rfl, hselected⟩
        · omega
        · have hno := not_lingers_of_selects h hst hroom hpos hstuck hselected
          rw [rank_of_noMarkFound hst, rank_of_not_lingers hmark hno]
          dsimp only
          omega
      · rw [rank_of_lingers hlingers, rank_of_noMarkFound hst, hsame]
        omega

/-! ## Iterations -/

/-- An iteration begins with the invariant of the loop of the first stage, and with room. -/
def Begins (free : Prop) (q : List Char) (opts : Options) (s₀ u : DigestSt dMaxLen) : Prop :=
  Meets (Allowed free) u.beginStage1 (fun v => Reached q opts s₀ v ∧ LoopInv free q opts v ∧
    distance q v = distance q u ∧ (0 < dMaxLen → v.resCurPos < dMaxLen))

theorem loopInv_init (buf cmnt : Nat → Char) :
    LoopInv free q opts (init dMaxLen buf cmnt) where
  pos := Nat.zero_le _
  cur := Nat.zero_le _
  pre := id
  number := fun _ => rfl
  digits := Or.inl ⟨rfl, rfl⟩
  tag := nofun
  cmnt := cmntInv_init opts
  allocated := fun _ => rfl
  idle := by
    intro _ st _
    cases st
    all_goals trivial
  cast := fun _ => rfl
  enters := fun _ hno => absurd rfl hno

theorem begins_init (buf cmnt : Nat → Char) :
    Begins free q opts (init dMaxLen buf cmnt) (init dMaxLen buf cmnt) :=
  ⟨reached_init, loopInv_init buf cmnt, rfl, id⟩

theorem Compressed.distance_eq
    {r : DigestSt dMaxLen × Bool}
    (h : Compressed q s r) :
    distance q r.1 = distance q s := by
  obtain ⟨u, again⟩ := r
  obtain ⟨⟨gl, res, init, cur, pre, d, preIt, newEnd, stage2, stage3, stage4, rfl⟩, -, hfirst, -, -⟩ := h
  refine distance_congr rfl rfl ?_
  unfold Lingers
  dsimp only at hfirst ⊢
  rw [hfirst]
  exact Iff.rfl

/-- Behind the loop of the first stage the digest is at its end, or another iteration begins. -/
theorem compress_begins
    {s₀ : DigestSt dMaxLen}
    (hreached : Reached q opts s₀ s)
    (h : LoopInv free q opts s)
    (hstep : s.stage1Step q opts = .ok (s, false))
    (hdone : s.qCurPos < q.length → dMaxLen ≤ s.resCurPos)
    (hroom : free ∨ ∀ digestEnd t, AtStage4 opts s digestEnd t → ¬ Overtakes opts digestEnd t) :
    Meets (Allowed free) (s.compress q opts) (fun r =>
      if r.2 then Begins free q opts s₀ r.1 ∧ distance q r.1 = distance q s ∧
        s.qCurPos < q.length ∧ 0 < dMaxLen
      else StageInv r.1) := by
  refine (compress_meets h hroom).value.imp ?_
  rintro ⟨u, again⟩ ⟨hcompressed, hvalue⟩
  cases again with
  | false =>
      exact hcompressed.inv
  | true =>
      obtain ⟨hmore, hlt, -, -⟩ := hcompressed.again rfl
      refine ⟨?_, hcompressed.distance_eq, hmore, Nat.zero_lt_of_lt hlt⟩
      refine (beginStage1_meets h hdone hcompressed rfl).value.imp fun v hv => ?_
      refine ⟨.iteration hreached hstep hvalue hv.2, hv.1.inv, ?_, fun _ => hv.1.room⟩
      rw [hcompressed.distance_eq]
      exact distance_congr hv.1.pos hv.1.st hv.1.lingers

/-! ## Termination -/

theorem stage1_ends
    {s₀ v : DigestSt dMaxLen}
    (hv : Reached q opts s₀ v ∧ LoopInv True q opts v)
    (hstuck : ∀ s, Reached q opts s₀ s → ¬ Stuck q opts s) :
    Ends (fun s => (Reached q opts s₀ s ∧ LoopInv True q opts s) ∧
        s.stage1Step q opts = .ok (s, false) ∧ (s.qCurPos < q.length → dMaxLen ≤ s.resCurPos) ∧
          (s = v ∨ distance q s < distance q v))
      (fun fuel => loop (stage1Step q opts) fuel v) := by
  have hstep : ∀ s, (Reached q opts s₀ s ∧ LoopInv True q opts s) ∧
      (s = v ∨ distance q s < distance q v) →
      Ends (fun r => if r.2 then ((Reached q opts s₀ r.1 ∧ LoopInv True q opts r.1) ∧
            (r.1 = v ∨ distance q r.1 < distance q v)) ∧ distance q r.1 < distance q s
          else (Reached q opts s₀ r.1 ∧ LoopInv True q opts r.1) ∧
            r.1.stage1Step q opts = .ok (r.1, false) ∧
              (r.1.qCurPos < q.length → dMaxLen ≤ r.1.resCurPos) ∧
                (r.1 = v ∨ distance q r.1 < distance q v))
        (fun _ => s.stage1Step q opts) := by
    rintro s ⟨⟨hreached, hinv⟩, hnear⟩
    refine Ends.const ((stage1Step_lowers hinv (Or.inl trivial) (hstuck s hreached)).value.mono
      (fun _ he => he.2) ?_)
    rintro ⟨t, again⟩ ⟨hround, hvalue⟩
    cases again with
    | false =>
        obtain ⟨rfl, hdone⟩ := hround
        exact ⟨⟨hreached, hinv⟩, hvalue, hdone, hnear⟩
    | true =>
        refine ⟨⟨⟨hreached.round hvalue, hround.1⟩, Or.inr ?_⟩, hround.2⟩
        rcases hnear with rfl | hlt
        · exact hround.2
        · exact Nat.lt_trans hround.2 hlt
  exact Ends.loop (distance q) hstep v ⟨hv, Or.inl rfl⟩

theorem digestStep_ends
    {s₀ u : DigestSt dMaxLen}
    (hu : Begins True q opts s₀ u)
    (hstuck : ∀ s, Reached q opts s₀ s → ¬ Stuck q opts s) :
    Ends (fun r => if r.2 then Begins True q opts s₀ r.1 ∧ distance q r.1 < distance q u
        else StageInv r.1)
      (fun fuel => u.digestStep q opts fuel) := by
  refine Ends.bind (Ends.const (hu.mono (fun _ he => he.2) fun _ hv => hv)) ?_
  rintro v ⟨hreached, hinv, hsame, hroom⟩
  refine Ends.bind (stage1_ends ⟨hreached, hinv⟩ hstuck) ?_
  rintro s ⟨⟨hreached', hinv'⟩, hstep, hdone, hnear⟩
  refine Ends.const ((compress_begins hreached' hinv' hstep hdone (Or.inl trivial)).mono
    (fun _ he => he.2) ?_)
  rintro ⟨t, again⟩ ht
  cases again with
  | false =>
      exact ht
  | true =>
      obtain ⟨hbegins, heq, hmore, hpos⟩ := ht
      refine ⟨hbegins, ?_⟩
      rcases hnear with rfl | hlt
      · exact absurd (hroom hpos) (Nat.not_lt_of_le (hdone hmore))
      · exact Nat.lt_of_le_of_lt (Nat.le_of_eq heq) (Nat.lt_of_lt_of_eq hlt hsame)

/-! ## Where the first stage is stuck -/

/-- The state of dollar quotes was selected where the loop is stuck. -/
structure StuckInside (q : List Char) (opts : Options) (s : DigestSt dMaxLen) : Prop where
  st : s.st = .dollarQuoteString
  room : s.resCurPos < dMaxLen
  pos : s.qCurPos < q.length
  selects : getNextSt q opts s.qCurPos s.prevChar = .ok .dollarQuoteString
  long : TagTooLong q s

theorem Stuck.enters (h : Stuck q opts s) :
    ∃ t, s.stage1Step q opts = .ok (t, true) ∧ StuckInside q opts t := by
  refine ⟨{ s with resPrePos := s.resCurPos, st := .dollarQuoteString }, ?_,
    rfl, h.room, h.pos, h.selects, h.long⟩
  rw [stage1Step, if_pos ⟨h.room, h.pos⟩, if_pos h.st, neutralStep]
  dsimp only
  rw [h.selects]
  rfl

theorem StuckInside.leaves (h : StuckInside q opts s) :
    ∃ t, s.stage1Step q opts = .ok (t, true) ∧ Stuck q opts t := by
  obtain ⟨hopen, hshort⟩ := h.long
  have hmark : s.st ≠ .noMarkFound := by
    rw [h.st]
    exact ParseSt.noConfusion
  have hnumber : s.st ≠ .literalNumber := by
    rw [h.st]
    exact ParseSt.noConfusion
  have hprocess : s.process q opts = .ok (.noMarkFound, { s with copyNext := false }) := by
    unfold process
    rw [h.st]
    dsimp only
    rw [processDollarQuoteString, if_neg hopen, closeDollarQuote]
    exact if_neg (Nat.not_le_of_lt hshort)
  refine ⟨{ s with st := .noMarkFound, copyNext := true }, ?_,
    rfl, h.room, h.pos, h.selects, h.long⟩
  rw [stage1Step, if_pos ⟨h.room, h.pos⟩, if_neg hmark, markStep, hprocess, ok_bind]
  dsimp only
  rw [if_pos rfl, if_neg hnumber]
  rfl

/-- A digest that reaches such a state never ends. -/
theorem queryDigest_of_stuck
    {buf cmnt : Nat → Char} {s : DigestSt (digestMaxLen q opts)}
    (hreached : Reached q opts (init (digestMaxLen q opts) buf cmnt) s)
    (hstuck : Stuck q opts s)
    (fuel : Nat) :
    queryDigest q opts buf cmnt fuel = .error .outOfFuel := by
  have hloop : ∀ rounds, loop (stage1Step q opts) rounds s = .error .outOfFuel := by
    intro rounds
    refine loop_outOfFuel (I := fun t => Stuck q opts t ∨ StuckInside q opts t) ?_ rounds s
      (Or.inl hstuck)
    rintro t (ht | ht)
    · obtain ⟨u, hstep, hu⟩ := ht.enters
      exact ⟨u, hstep, Or.inr hu⟩
    · obtain ⟨u, hstep, hu⟩ := ht.leaves
      exact ⟨u, hstep, Or.inl hu⟩
  have hall : loop (digestStep q opts fuel) fuel (init (digestMaxLen q opts) buf cmnt) =
      .error .outOfFuel := by
    by_contra hfuel
    obtain ⟨rounds, iterations, hresume⟩ := hreached.resumes rfl hfuel
    refine hfuel (hresume.symm.trans ?_)
    rw [resume, hloop]
    rfl
  rw [queryDigest, hall]
  rfl

end DigestSt

open DigestSt

theorem queryDigest_ends
    {buf cmnt : Nat → Char}
    (hstuck : ∀ s, Reached q opts (init (digestMaxLen q opts) buf cmnt) s → ¬ Stuck q opts s) :
    Ends (fun _ => True) (fun fuel => queryDigest q opts buf cmnt fuel) := by
  have hloop : Ends StageInv (fun fuel =>
      loop (digestStep q opts fuel) fuel (init (digestMaxLen q opts) buf cmnt)) :=
    Ends.loop (distance q) (fun u hu => digestStep_ends hu hstuck) _ (begins_init buf cmnt)
  refine Ends.bind hloop fun s hs => Ends.const ?_
  have hfinal : Meets (Allowed True) s.finalStage (fun _ => True) := finalStage_meets hs
  exact hfinal.mono (fun _ he => he.2) fun _ _ => trivial

/-- The digest ends, with a value or a fault, if and only if its first stage never stands at a dollar
sign in the neutral state while the tag of an earlier dollar quote is open that does not fit any
more. -/
theorem queryDigest_ends_iff (buf cmnt : Nat → Char) :
    Ends (fun _ => True) (fun fuel => queryDigest q opts buf cmnt fuel) ↔
      ∀ s, Reached q opts (init (digestMaxLen q opts) buf cmnt) s → ¬ Stuck q opts s := by
  constructor
  · intro hends s hreached hstuck
    obtain ⟨fuel, hfuel⟩ := hends.exists_ne
    exact hfuel (queryDigest_of_stuck hreached hstuck fuel)
  · exact queryDigest_ends

/-- The query `$abc$ $$`: the dollar quote ends with the query before its closing delimiter, and its tag
stays open. -/
theorem queryDigest_of_openTag :
    ¬ Ends (fun _ => True) (fun fuel =>
      queryDigest ['$', 'a', 'b', 'c', '$', ' ', '$', '$'] {} (fun _ => nul) (fun _ => nul) fuel) := by
  have hselected : Reached ['$', 'a', 'b', 'c', '$', ' ', '$', '$'] {}
      (init 8 (fun _ => nul) (fun _ => nul))
      { init 8 (fun _ => nul) (fun _ => nul) with st := .dollarQuoteString } :=
    reached_init.round rfl
  have hleft : Reached ['$', 'a', 'b', 'c', '$', ' ', '$', '$'] {}
      (init 8 (fun _ => nul) (fun _ => nul))
      { init 8 (fun _ => nul) (fun _ => nul) with
        copyNext := true
        qCurPos := 5
        dollarQuoteStrSt := { tagStart := some 1, tagLen := 3 } } :=
    hselected.round rfl
  have hspace : Reached ['$', 'a', 'b', 'c', '$', ' ', '$', '$'] {}
      (init 8 (fun _ => nul) (fun _ => nul))
      { init 8 (fun _ => nul) (fun _ => nul) with
        copyNext := true
        qCurPos := 6
        dollarQuoteStrSt := { tagStart := some 1, tagLen := 3 } } :=
    hleft.round rfl
  intro hends
  obtain ⟨fuel, hfuel⟩ := hends.exists_ne
  exact hfuel (queryDigest_of_stuck hspace
    ⟨rfl, by decide, by decide, rfl, Option.some_ne_none 1, by decide⟩ fuel)

/-! ## Bounds -/

/-- The only error of a computation is that its fuel is used up. -/
def OutOfFuel (e : Stop Fault) : Prop :=
  e = .outOfFuel

theorem Meets.of_allowed
    {α : Type} {m : Checked α} {R : α → Prop}
    (h : Meets (Allowed False) m R) :
    Meets OutOfFuel m R :=
  h.mono (fun _ he => he.1.elim) fun _ ha => ha

/-- No access of the digest leaves its text, where no initial mark of a nested comment is read with the
buffer of kept comments full, and no groups are replaced by more text than they take. -/
theorem queryDigest_inBounds
    {buf cmnt : Nat → Char}
    (hcmnt : ∀ s, Reached q opts (init (digestMaxLen q opts) buf cmnt) s → ¬ NestsFull q opts s)
    (hgroups : ∀ s digestEnd t, Reached q opts (init (digestMaxLen q opts) buf cmnt) s →
      s.stage1Step q opts = .ok (s, false) → AtStage4 opts s digestEnd t →
        ¬ Overtakes opts digestEnd t)
    (fuel : Nat) (f : Fault) :
    queryDigest q opts buf cmnt fuel ≠ .error (.fault f) := by
  have hmeets : Meets OutOfFuel (queryDigest q opts buf cmnt fuel) (fun _ => True) := by
    refine Meets.bind (R := StageInv) ?_ fun s hs => Meets.of_allowed (finalStage_meets hs)
    refine Meets.loop (I := Begins False q opts (init (digestMaxLen q opts) buf cmnt))
      (show OutOfFuel .outOfFuel from rfl) (fun u hu => ?_) fuel _ (begins_init buf cmnt)
    refine (Meets.of_allowed hu).bind ?_
    rintro v ⟨hreached, hinv, -, -⟩
    refine Meets.bind (R := fun s => (Reached q opts (init (digestMaxLen q opts) buf cmnt) s ∧
      LoopInv False q opts s) ∧ s.stage1Step q opts = .ok (s, false) ∧
        (s.qCurPos < q.length → digestMaxLen q opts ≤ s.resCurPos)) ?_ ?_
    · refine Meets.loop (I := fun s => Reached q opts (init (digestMaxLen q opts) buf cmnt) s ∧
        LoopInv False q opts s) (show OutOfFuel .outOfFuel from rfl) ?_ fuel v ⟨hreached, hinv⟩
      rintro s ⟨hreached, hinv⟩
      refine (Meets.of_allowed (stage1Step_meets hinv (Or.inr (hcmnt s hreached)))).value.imp ?_
      rintro ⟨t, again⟩ ⟨hround, hvalue⟩
      cases again with
      | false =>
          obtain ⟨rfl, hdone⟩ := hround
          exact ⟨⟨hreached, hinv⟩, hvalue, hdone⟩
      | true =>
          exact ⟨hreached.round hvalue, hround.1.inv⟩
    · rintro s ⟨⟨hreached, hinv⟩, hstep, hdone⟩
      refine (Meets.of_allowed (compress_begins hreached hinv hstep hdone
        (Or.inr fun digestEnd t => hgroups s digestEnd t hreached hstep))).imp ?_
      rintro ⟨t, again⟩ ht
      cases again with
      | false =>
          exact ht
      | true =>
          exact ht.1
  intro hfault
  have herror : Stop.fault f = .outOfFuel := hmeets.of_error hfault
  cases herror

/-! ## Checking a run -/

instance
    {m : Checked (Nat × Nat)} {R : Nat → Nat → Prop} [∀ pos found, Decidable (R pos found)] :
    Decidable (∃ pos found, m = .ok (pos, found) ∧ R pos found) :=
  match m with
  | .ok (pos, found) =>
      decidable_of_iff (R pos found) (by simp)
  | .error e =>
      isFalse (by simp)

instance (digestEnd : Int) (s : DigestSt dMaxLen) : Decidable (Overtakes opts digestEnd s) :=
  inferInstanceAs (Decidable (_ ∧ _))

instance (s : DigestSt dMaxLen) : Decidable (NestsFull q opts s) :=
  inferInstanceAs (Decidable (_ ∧ _))

/-- No groups are overtaken from a head of the loop of the fourth stage on. -/
def groupsBounded (opts : Options) (digestEnd : Int) : Nat → DigestSt dMaxLen → Bool
  | 0, _ => false
  | fuel + 1, t => !decide (Overtakes opts digestEnd t) &&
      match t.stage4Step opts digestEnd with
      | .ok (u, true) => groupsBounded opts digestEnd fuel u
      | _ => true

/-- The conditions hold from a head of the loop of the first stage on. -/
def runBounded (q : List Char) (opts : Options) : Nat → DigestSt dMaxLen → Bool
  | 0, _ => false
  | fuel + 1, s => !decide (NestsFull q opts s) &&
      match s.stage1Step q opts with
      | .ok (t, true) => runBounded q opts fuel t
      | .ok (t, false) =>
          (match t.beforeStage4 opts with
          | .ok u => groupsBounded opts u.stageDigestEnd (dMaxLen + 3) (u.stage4Start opts)
          | .error _ => true) &&
            match t.compress q opts with
            | .ok (u, true) =>
                match u.beginStage1 with
                | .ok v => runBounded q opts fuel v
                | .error _ => true
            | _ => true
      | .error _ => true

theorem not_overtakes_of_groupsBounded
    {digestEnd : Int} {s t : DigestSt dMaxLen} {fuel : Nat}
    (h : groupsBounded opts digestEnd fuel s = true)
    (hrounds : Rounds (stage4Step opts digestEnd) s t) :
    ¬ Overtakes opts digestEnd t := by
  have hleft : ∃ fuel, groupsBounded opts digestEnd (fuel + 1) t = true := by
    induction hrounds with
    | refl =>
        cases fuel with
        | zero =>
            cases h
        | succ fuel =>
            exact ⟨fuel, h⟩
    | round _ hstep ih =>
        obtain ⟨fuel, hfuel⟩ := ih
        rw [groupsBounded, hstep] at hfuel
        cases fuel with
        | zero =>
            exact absurd (Bool.and_eq_true_iff.mp hfuel).2 Bool.false_ne_true
        | succ fuel =>
            exact ⟨fuel, (Bool.and_eq_true_iff.mp hfuel).2⟩
  obtain ⟨fuel, hfuel⟩ := hleft
  rw [groupsBounded, Bool.and_eq_true, Bool.not_eq_true', decide_eq_false_iff_not] at hfuel
  exact hfuel.1

theorem runBounded_of_reached
    {s₀ s₁ s : DigestSt dMaxLen} {fuel : Nat}
    (hbegin : s₀.beginStage1 = .ok s₁)
    (h : runBounded q opts fuel s₁ = true)
    (hreached : Reached q opts s₀ s) :
    ∃ fuel, runBounded q opts (fuel + 1) s = true := by
  have hsucc : ∀ {s : DigestSt dMaxLen} {fuel : Nat}, runBounded q opts fuel s = true →
      ∃ fuel, runBounded q opts (fuel + 1) s = true := by
    intro s fuel hs
    cases fuel with
    | zero =>
        cases hs
    | succ fuel =>
        exact ⟨fuel, hs⟩
  induction hreached with
  | start hstart =>
      obtain rfl := Except.ok.inj (hbegin.symm.trans hstart)
      exact hsucc h
  | round _ hstep ih =>
      obtain ⟨fuel, hfuel⟩ := ih
      rw [runBounded, hstep] at hfuel
      exact hsucc (Bool.and_eq_true_iff.mp hfuel).2
  | iteration _ hstep hcompress hnext ih =>
      obtain ⟨fuel, hfuel⟩ := ih
      rw [runBounded, hstep] at hfuel
      have hrest := (Bool.and_eq_true_iff.mp (Bool.and_eq_true_iff.mp hfuel).2).2
      rw [hcompress] at hrest
      dsimp only at hrest
      rw [hnext] at hrest
      exact hsucc hrest

/-- The check finds both conditions. -/
theorem conditions_of_runBounded
    {s₀ s₁ s : DigestSt dMaxLen} {fuel : Nat}
    (hbegin : s₀.beginStage1 = .ok s₁)
    (h : runBounded q opts fuel s₁ = true)
    (hreached : Reached q opts s₀ s) :
    ¬ NestsFull q opts s ∧ ∀ digestEnd t, s.stage1Step q opts = .ok (s, false) →
      AtStage4 opts s digestEnd t → ¬ Overtakes opts digestEnd t := by
  obtain ⟨fuel, hfuel⟩ := runBounded_of_reached hbegin h hreached
  rw [runBounded, Bool.and_eq_true, Bool.not_eq_true', decide_eq_false_iff_not] at hfuel
  refine ⟨hfuel.1, ?_⟩
  rintro digestEnd t hstep ⟨u, hbefore, rfl, hrounds⟩
  have hstage := hfuel.2
  rw [hstep] at hstage
  have hgroups := (Bool.and_eq_true_iff.mp hstage).1
  rw [hbefore] at hgroups
  exact not_overtakes_of_groupsBounded hgroups hrounds

/-- A nested comment that is kept, and eleven groups with commas between -/
def commentedGroups : List Char :=
  "/*a/*b*/c*/ ".toList ++
    (List.replicate 11 ['(', '1', ',', '1', ',', '1', ',', '1', ',', '1', ')', ',']).flatten

/-- A nested comment that is kept, and more groups than are left, with commas between -/
theorem queryDigest_inBounds_commentedGroups :
    queryDigest commentedGroups { keepComment := true } (fun _ => nul) (fun _ => nul) 400 ≠
      .error (.fault .resultWrite) := by
  have hbegin : (init (digestMaxLen commentedGroups { keepComment := true })
      (fun _ => nul) (fun _ => nul)).beginStage1 = .ok (init _ (fun _ => nul) (fun _ => nul)) := rfl
  have hchecked : runBounded commentedGroups { keepComment := true } 400
      (init (digestMaxLen commentedGroups { keepComment := true }) (fun _ => nul) (fun _ => nul)) =
        true := by
    decide +kernel
  exact queryDigest_inBounds
    (fun s hreached => (conditions_of_runBounded hbegin hchecked hreached).1)
    (fun s digestEnd t hreached => (conditions_of_runBounded hbegin hchecked hreached).2 digestEnd t)
    400 _

/-- Eleven groups that no commas separate, and the default options: the text that replaces ten of them
is longer than all of them, and the result is written behind its end. -/
theorem queryDigest_overruns :
    (queryDigest ((List.replicate 11 ['(', '1', ',', '1', ',', '1', ',', '1', ',', '1', ')']).flatten ++
      List.replicate 10 'a') {} (fun _ => nul) (fun _ => nul) 400).map (fun _ => ()) =
        .error (.fault .resultWrite) := by
  decide +kernel

end Tokenizer

end PolarProxy
