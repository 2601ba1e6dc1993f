import PolarProxy.DigestCompression

/-!
# Iterations of the query digest

A compression stage ends with the text that it compressed and, behind it, the digits of a number that
the first stage has not finished.  The next iteration goes on there: what the first stage has parsed
is as it was, and there is room in the result.

**Results.**
* `StageInv`: what holds between the stages.
* `DigestSt.compress_meets`: the stages behind the loop of the first one.
* `DigestSt.beginStage1_meets`: the begin of the next iteration.
* `DigestSt.finalStage_meets`: the end of the digest.
-/

namespace PolarProxy

namespace Tokenizer

open Loops Memory

variable {q : List Char} {opts : Options} {dMaxLen : Nat} {free : Prop}

namespace DigestSt

variable {s t : DigestSt dMaxLen}

/-! ## A whole stage -/

/-- Where the text ends that the stages compress: before a number that is unfinished -/
def stageStop (s : DigestSt dMaxLen) : Nat :=
  s.unfinishedStart.getD s.resCurPos

theorem stageDigestEnd_eq (s : DigestSt dMaxLen) :
    s.stageDigestEnd = (s.stageStop : Int) - 1 := by
  unfold stageDigestEnd stageStop
  cases s.unfinishedStart with
  | none =>
      rfl
  | some start =>
      rfl

/-- What holds between the stages: a number that is unfinished reaches to the end of the text. -/
structure StageInv (s : DigestSt dMaxLen) : Prop where
  cur : s.resCurPos ≤ dMaxLen
  number : s.st ≠ .literalNumber → s.literalDigSt.startPos = none ∧ s.newEndPos = none
  digits : ∀ start, s.literalDigSt.startPos = some start →
    start < s.resCurPos ∧ s.newEndPos = some s.resCurPos

theorem StageInv.unfinishedStart_eq (h : StageInv s) :
    s.unfinishedStart = s.literalDigSt.startPos := by
  unfold unfinishedStart
  split
  · rfl
  case isFalse hst =>
    exact (h.number hst).1.symm

theorem StageInv.stop_le (h : StageInv s) : s.stageStop ≤ s.resCurPos := by
  unfold stageStop
  rw [h.unfinishedStart_eq]
  cases hstart : s.literalDigSt.startPos with
  | none =>
      exact Nat.le_refl _
  | some start =>
      exact Nat.le_of_lt (h.digits start hstart).1

/-- What a stage leaves alone, and what holds behind it -/
structure Staged (s t : DigestSt dMaxLen) : Prop where
  frame : ∃ res cur pre d newEnd stage2 stage3 stage4, t = { s with
    res := res
    resCurPos := cur
    resPrePos := pre
    literalDigSt := d
    newEndPos := newEnd
    stage2 := stage2
    stage3 := stage3
    stage4 := stage4 }
  inv : StageInv t
  first : t.literalDigSt.firstDigit = s.literalDigSt.firstDigit
  starts : t.literalDigSt.startPos = none ↔ s.literalDigSt.startPos = none

theorem Staged.refl (h : StageInv s) : Staged s s :=
  ⟨⟨_, _, _, _, _, _, _, _, rfl⟩, h, rfl, Iff.rfl⟩

theorem Staged.trans
    {u : DigestSt dMaxLen}
    (h : Staged s t)
    (h' : Staged t u) :
    Staged s u := by
  obtain ⟨⟨res, cur, pre, d, newEnd, stage2, stage3, stage4, rfl⟩, -, hfirst, hstarts⟩ := h
  obtain ⟨⟨res', cur', pre', d', newEnd', stage2', stage3', stage4', rfl⟩, hinv, hfirst', hstarts'⟩ :=
    h'
  exact ⟨⟨_, _, _, _, _, _, _, _, rfl⟩, hinv, hfirst'.trans hfirst, hstarts'.trans hstarts⟩

theorem setStageNextStartPos_places (next : Option Int) :
    Places free s.stageStop s (s.setStageNextStartPos s.stageDigestEnd next) := by
  have hstart : Places free s.stageStop s { s with resCurPos := 0, resPrePos := 0 } :=
    ⟨⟨_, _, _, rfl⟩, Nat.zero_le _, Or.inr ⟨Nat.zero_le _, Nat.zero_le _⟩⟩
  rw [stageDigestEnd_eq]
  unfold setStageNextStartPos
  split
  · split
    case isTrue hpos =>
      exact ⟨⟨_, _, _, rfl⟩, by dsimp only; omega, Or.inr ⟨Nat.le_refl _, by dsimp only; omega⟩⟩
    case isFalse =>
      exact hstart
  · exact hstart

/-- The end of a stage: digits of a number that is unfinished are moved behind the text. -/
theorem endStage_meets
    (h : StageInv s)
    (hplaces : Places free s.stageStop s t) :
    Meets (Allowed free) (t.endStage s.stageDigestEnd) (fun r => Staged s r.2) := by
  obtain ⟨⟨res, cur, pre, rfl⟩, -, hpre⟩ := hplaces
  have hstop := h.stop_le
  have hcur := h.cur
  dsimp only at hpre
  refine Meets.bind (R := fun r : Nat × DigestSt dMaxLen => ∃ res cur pre d newEnd, r.2 = { s with
    res := res
    resCurPos := cur
    resPrePos := pre
    literalDigSt := d
    newEndPos := newEnd } ∧ pre ≤ dMaxLen ∧ d.firstDigit = s.literalDigSt.firstDigit ∧
      (d.startPos = none ∧ newEnd = s.newEndPos ∧ s.literalDigSt.startPos = none ∨
        ∃ start, d.startPos = some start ∧ start < pre ∧ newEnd = some pre ∧
          s.literalDigSt.startPos ≠ none)) ?_ ?_
  · rw [stageDigestEnd_eq]
    unfold endCompressionStageIt
    cases hstart : s.literalDigSt.startPos with
    | none =>
        refine (writeRes_meets (hpre.imp_right fun hbehind => by dsimp only; omega) nul).bind ?_
        rintro _ ⟨⟨res', rfl⟩, hle⟩
        exact Meets.ok ⟨_, _, _, _, _, rfl, hle, rfl, Or.inl ⟨hstart, rfl, rfl⟩⟩
    | some start =>
        obtain ⟨hlt, hend⟩ := h.digits start hstart
        have hstop' : s.stageStop = start := by
          rw [stageStop, h.unfinishedStart_eq, hstart]
          rfl
        rw [hstop'] at hpre ⊢
        rw [hend]
        dsimp only
        rw [if_pos rfl]
        refine (moveDigits_meets (s.resCurPos - start) start (by omega)
          (hpre.imp_right fun hbehind => by dsimp only; omega)).bind ?_
        rintro _ ⟨res', cur', pre', rfl, hpre'⟩
        dsimp only at hpre'
        refine (writeRes_meets (hpre.imp_right fun hbehind => by dsimp only; omega) nul).bind ?_
        rintro _ ⟨⟨res'', rfl⟩, hle⟩
        refine Meets.ok ⟨_, _, _, _, _, rfl, hle, rfl, Or.inr ⟨pre, rfl, ?_, rfl, Option.some_ne_none _⟩⟩
        dsimp only
        omega
  · rintro ⟨pos, u⟩ ⟨res', cur', pre', d, newEnd, rfl, hle, hfirst, hcases⟩
    refine Meets.ok ⟨⟨_, _, _, _, _, _, _, _, rfl⟩, ⟨hle, fun hst => ?_, fun start hstart => ?_⟩,
      hfirst, ?_⟩
    · rcases hcases with ⟨hnone, hsame, -⟩ | ⟨-, -, -, -, hsome⟩
      · exact ⟨hnone, hsame.trans (h.number hst).2⟩
      · exact absurd (h.number hst).1 hsome
    · rcases hcases with ⟨hnone, -, -⟩ | ⟨start', hstart', hlt, hend, -⟩
      · exact absurd (hnone.symm.trans hstart) nofun
      · obtain rfl := Option.some.inj (hstart'.symm.trans hstart)
        exact ⟨hlt, hend⟩
    · rcases hcases with ⟨hnone, -, hnone'⟩ | ⟨start', hstart', -, -, hsome⟩
      · exact ⟨fun _ => hnone', fun _ => hnone⟩
      · exact ⟨fun hnone => absurd (hstart'.symm.trans hnone) nofun, fun hnone => absurd hnone hsome⟩

theorem stage2Parsing_meets (h : StageInv s) :
    Meets (Allowed free) (s.stage2Parsing opts) (Staged s) := by
  have hstop := Nat.le_trans h.stop_le h.cur
  refine Meets.bind (R := Places free s.stageStop s) ?_ fun t ht => ?_
  · refine Meets.loop_measure (I := Places free s.stageStop s)
      (fun t => s.stageStop + 2 - t.resCurPos) (fun t ht => ?_) _ _ (setStageNextStartPos_places _)
      (by omega)
    rw [stageDigestEnd_eq]
    refine (stage2Step_meets hstop ht).imp fun r hr => ?_
    have hcur := ht.cur
    split
    case isTrue hagain =>
      rw [if_pos hagain] at hr
      exact ⟨hr.1, by omega⟩
    case isFalse hdone =>
      rw [if_neg hdone] at hr
      exact hr
  · refine (endStage_meets h ht).bind fun r hr => Meets.ok ?_
    obtain ⟨⟨res, cur, pre, d, newEnd, stage2, stage3, stage4, heq⟩, hinv, hfirst, hstarts⟩ := hr
    rw [heq] at hinv hfirst hstarts ⊢
    exact ⟨⟨_, _, _, _, _, _, _, _, rfl⟩, { hinv with }, hfirst, hstarts⟩

/-- What a stage leaves for its next iteration does not matter. -/
theorem Staged.of_stage
    {stage2 stage3 stage4 : StageSt}
    (h : Staged s t) :
    Staged s { t with stage2 := stage2, stage3 := stage3, stage4 := stage4 } := by
  obtain ⟨⟨res, cur, pre, d, newEnd, stage2', stage3', stage4', rfl⟩, hinv, hfirst, hstarts⟩ := h
  exact ⟨⟨_, _, _, _, _, _, _, _, rfl⟩, { hinv with }, hfirst, hstarts⟩

theorem stage3Parsing_meets (h : StageInv s) :
    Meets (Allowed free) (s.stage3Parsing opts) (Staged s) := by
  have hstop := Nat.le_trans h.stop_le h.cur
  refine Meets.ite (fun _ => Meets.ok (Staged.refl h)) fun hlimit => ?_
  refine Meets.bind (R := fun r => Places free s.stageStop s r.1) ?_ fun r hr => ?_
  · refine Meets.loop_measure
      (I := fun r : DigestSt dMaxLen × Bool =>
        Places free s.stageStop s r.1 ∧ (r.2 = true → 0 < r.1.resCurPos))
      (fun r => s.stageStop + 2 - r.1.resCurPos) (fun r hr => ?_) _ _
      ⟨setStageNextStartPos_places _, nofun⟩ (by dsimp only; omega)
    rw [stageDigestEnd_eq]
    refine (stage3Step_meets hlimit hstop hr.1 hr.2).imp fun t ht => ?_
    have hcur := hr.1.cur
    split
    case isTrue hagain =>
      rw [if_pos hagain] at ht
      exact ⟨ht.1, by omega⟩
    case isFalse hdone =>
      rw [if_neg hdone] at ht
      exact ht
  · exact (endStage_meets h hr).bind fun t ht => Meets.ok ht.of_stage

theorem stage4Parsing_meets
    (h : StageInv s)
    (hroom : free ∨ ∀ t, Rounds (stage4Step opts s.stageDigestEnd) (s.stage4Start opts) t →
      ¬ Overtakes opts s.stageDigestEnd t) :
    Meets (Allowed free) (s.stage4Parsing opts) (Staged s) := by
  have hstop := Nat.le_trans h.stop_le h.cur
  refine Meets.ite (fun _ => Meets.ok (Staged.refl h)) fun _ => ?_
  refine Meets.bind (R := Places free s.stageStop s) ?_ fun t ht => ?_
  · refine Meets.loop_measure
      (I := fun t => Places free s.stageStop s t ∧
        Rounds (stage4Step opts s.stageDigestEnd) (s.stage4Start opts) t)
      (fun t => s.stageStop + 2 - t.resCurPos) (fun t ht => ?_) _ _
      ⟨setStageNextStartPos_places _, .refl⟩ (by omega)
    obtain ⟨hplaces, hrounds⟩ := ht
    have hroom' : free ∨ ¬ Overtakes opts s.stageDigestEnd t := hroom.imp_right fun h => h t hrounds
    rw [stageDigestEnd_eq] at hroom' hrounds ⊢
    refine (stage4Step_meets hstop hplaces hroom').value.imp fun r hr => ?_
    have hcur := hplaces.cur
    obtain ⟨hr, hstep⟩ := hr
    split
    case isTrue hagain =>
      rw [if_pos hagain] at hr
      refine ⟨⟨hr.1, hrounds.round ?_⟩, by omega⟩
      rw [hstep, ← hagain]
    case isFalse hdone =>
      rw [if_neg hdone] at hr
      exact hr
  · exact (endStage_meets h ht).bind fun r hr => Meets.ok hr.of_stage

/-! ## All stages behind the first one -/

theorem endStage1_meets (h : LoopInv free q opts s) :
    Meets (Allowed free) s.endStage1 (fun t => ∃ res newEnd, t = { s with
      res := res, preItPos := s.resCurPos, newEndPos := newEnd } ∧ StageInv t) := by
  refine (writeRes_meets (Or.inr h.cur) nul).bind ?_
  rintro _ ⟨⟨res, rfl⟩, -⟩
  refine Meets.ok ⟨_, _, rfl, h.cur, fun hst => ?_, fun start hstart => ?_⟩
  · dsimp only at hst ⊢
    rw [h.number hst, if_neg hst]
    exact ⟨rfl, rfl⟩
  · dsimp only at hstart ⊢
    have hst : s.st = .literalNumber := by
      by_contra hne
      rw [h.number hne] at hstart
      cases hstart
    rcases h.digits with ⟨-, hnone⟩ | ⟨-, start', hstart', hlt⟩
    · cases hnone.symm.trans hstart
    · obtain rfl := Option.some.inj (hstart'.symm.trans hstart)
      exact ⟨hlt, if_pos hst⟩

/-- The state in which the fourth stage begins -/
def beforeStage4 (opts : Options) (s : DigestSt dMaxLen) : Checked (DigestSt dMaxLen) := do
  let s ← s.endStage1
  let s ← s.stage2Parsing opts
  s.stage3Parsing opts

/-- The states at the head of the loop of the fourth stage, behind a loop of the first one that ends
in `s` -/
def AtStage4 (opts : Options) (s : DigestSt dMaxLen) (digestEnd : Int) (t : DigestSt dMaxLen) :
    Prop :=
  ∃ u, s.beforeStage4 opts = .ok u ∧ digestEnd = u.stageDigestEnd ∧
    Rounds (stage4Step opts digestEnd) (u.stage4Start opts) t

theorem compress_eq (s : DigestSt dMaxLen) :
    s.compress q opts = (do
      let s ← (← s.beforeStage4 opts).stage4Parsing opts
      let s := { s with glCOffset := (s.preItPos : Int) - s.resCurPos }
      if s.qCurPos ≥ q.length ∨ dMaxLen ≤ s.resCurPos ∨ s.glCOffset = 0 then
        return (s, false)
      else
        return ({ s with resItInitPos := s.resCurPos, resPrePos := s.resCurPos }, true)) := by
  unfold compress beforeStage4
  rw [bind_assoc]
  congr 1
  funext t
  rw [bind_assoc]

theorem beforeStage4_meets (h : LoopInv free q opts s) :
    Meets (Allowed free) (s.beforeStage4 opts) (fun u => ∃ res newEnd, Staged { s with
      res := res, preItPos := s.resCurPos, newEndPos := newEnd } u) := by
  refine (endStage1_meets h).bind ?_
  rintro _ ⟨res, newEnd, rfl, hinv⟩
  refine (stage2Parsing_meets hinv).bind fun t ht => ?_
  exact (stage3Parsing_meets ht.inv).imp fun u hu => ⟨res, newEnd, ht.trans hu⟩

/-- What the stages leave of a state in which the loop of the first one ended -/
structure Compressed (q : List Char) (s : DigestSt dMaxLen) (r : DigestSt dMaxLen × Bool) : Prop where
  frame : ∃ gl res init cur pre d preIt newEnd stage2 stage3 stage4, r.1 = { s with
    glCOffset := gl
    res := res
    resItInitPos := init
    resCurPos := cur
    resPrePos := pre
    literalDigSt := d
    preItPos := preIt
    newEndPos := newEnd
    stage2 := stage2
    stage3 := stage3
    stage4 := stage4 }
  inv : StageInv r.1
  first : r.1.literalDigSt.firstDigit = s.literalDigSt.firstDigit
  starts : r.1.literalDigSt.startPos = none ↔ s.literalDigSt.startPos = none
  again : r.2 = true → s.qCurPos < q.length ∧ r.1.resCurPos < dMaxLen ∧
    r.1.resPrePos = r.1.resCurPos ∧ r.1.resItInitPos = r.1.resCurPos

/-- The stages behind the loop of the first one -/
theorem compress_meets
    (h : LoopInv free q opts s)
    (hroom : free ∨ ∀ digestEnd t, AtStage4 opts s digestEnd t → ¬ Overtakes opts digestEnd t) :
    Meets (Allowed free) (s.compress q opts) (Compressed q s) := by
  rw [compress_eq]
  refine (beforeStage4_meets h).value.bind ?_
  rintro u ⟨⟨res, newEnd, hu⟩, hbefore⟩
  refine (stage4Parsing_meets hu.inv (hroom.imp_right fun hno t hrounds => ?_)).bind fun v hv => ?_
  · exact hno _ t ⟨u, hbefore, rfl, hrounds⟩
  obtain ⟨⟨res', cur, pre, d, newEnd', stage2, stage3, stage4, rfl⟩, hinv, hfirst, hstarts⟩ :=
    hu.trans hv
  dsimp only at hfirst hstarts ⊢
  refine Meets.ite (fun _ => Meets.ok ?_) fun hmore => Meets.ok ?_
  · exact ⟨⟨_, _, _, _, _, _, _, _, _, _, _, rfl⟩, { hinv with }, hfirst, hstarts, nofun⟩
  · refine ⟨⟨_, _, _, _, _, _, _, _, _, _, _, rfl⟩, { hinv with }, hfirst, hstarts, fun _ => ?_⟩
    rw [not_or, not_or] at hmore
    exact ⟨Nat.lt_of_not_le hmore.1, Nat.lt_of_not_le hmore.2.1, rfl, rfl⟩

/-- The state in which the next iteration begins: it goes on where the loop of the first stage
ended. -/
structure Resumed (free : Prop) (q : List Char) (opts : Options) (s v : DigestSt dMaxLen) : Prop where
  inv : LoopInv free q opts v
  pos : v.qCurPos = s.qCurPos
  more : s.qCurPos < q.length
  room : v.resCurPos < dMaxLen
  st : v.st = s.st
  lingers : Lingers q v ↔ Lingers q s

/-- The next iteration begins with the invariant of the loop. -/
theorem beginStage1_meets
    {r : DigestSt dMaxLen × Bool}
    (h : LoopInv free q opts s)
    (hdone : s.qCurPos < q.length → dMaxLen ≤ s.resCurPos)
    (hr : Compressed q s r)
    (hagain : r.2 = true) :
    Meets (Allowed free) r.1.beginStage1 (Resumed free q opts s) := by
  obtain ⟨u, again⟩ := r
  obtain ⟨⟨gl, res, init, cur, pre, d, preIt, newEnd, stage2, stage3, stage4, rfl⟩, hinv, hfirst,
    hstarts, hrest⟩ := hr
  obtain ⟨hmore, hroom, hpre, hinit⟩ := hrest hagain
  clear hrest
  dsimp only at hfirst hstarts hroom hpre hinit ⊢
  obtain rfl := hpre.symm
  obtain rfl := hinit.symm
  have hfull := hdone hmore
  have hentered : s.st ≠ .noMarkFound → Entered s := by
    intro hst
    rcases h.enters hmore hst with hentered | ⟨-, hlt, -⟩
    · exact hentered
    · exact absurd hlt (Nat.not_lt_of_le hfull)
  -- a number has begun, if the loop is in one
  have hend : newEnd = none ∨ newEnd = some cur := by
    by_cases hst : s.st = .literalNumber
    · have hbegun := hentered (by rw [hst]; exact ParseSt.noConfusion)
      rw [Entered, hst] at hbegun
      rcases h.digits with ⟨hno, -⟩ | ⟨-, start, hstart, -⟩
      · exact absurd (hno.symm.trans hbegun) Bool.false_ne_true.symm
      · cases hd : d.startPos with
        | none => exact absurd (hstarts.mp hd) (by rw [hstart]; exact Option.some_ne_none _)
        | some start' => exact Or.inr (hinv.digits start' hd).2
    · exact Or.inl (hinv.number hst).2
  have hbegun : Meets (Allowed free) (beginStage1 { s with
      glCOffset := gl
      res := res
      resItInitPos := cur
      resCurPos := cur
      resPrePos := cur
      literalDigSt := d
      preItPos := preIt
      newEndPos := newEnd
      stage2 := stage2
      stage3 := stage3
      stage4 := stage4 }) (fun v => ∃ prev, v = { s with
        glCOffset := gl
        res := res
        resItInitPos := cur
        resCurPos := cur
        resPrePos := cur
        prevChar := prev
        literalDigSt := d
        preItPos := preIt
        newEndPos := newEnd
        stage2 := stage2
        stage3 := stage3
        stage4 := stage4 }) := by
    unfold beginStage1
    rcases hend with rfl | rfl
    · refine Meets.ite (fun hne => ?_) fun _ => Meets.ok ⟨_, rfl⟩
      dsimp only at hne ⊢
      exact (readRes_meets (by omega) (Or.inr (by omega))).bind fun c _ => Meets.ok ⟨c, rfl⟩
    · refine Meets.ite (fun hne => ?_) fun _ => Meets.ok ⟨_, rfl⟩
      dsimp only at hne ⊢
      exact (readRes_meets (by omega) (Or.inr (by omega))).bind fun c _ => Meets.ok ⟨c, rfl⟩
  refine hbegun.imp ?_
  rintro _ ⟨prev, rfl⟩
  refine ⟨?_, rfl, hmore, hroom, rfl, ?_⟩
  · exact { h with
      cur := Nat.le_of_lt hroom
      pre := fun _ => hroom
      number := by
        intro hst
        have hnone := (hinv.number hst).1
        dsimp only at hst hnone ⊢
        rw [h.number hst] at hfirst
        cases d
        exact congrArg₂ LiteralDigitSt.mk hfirst hnone
      digits := by
        dsimp only
        rcases h.digits with ⟨htrue, hnone⟩ | ⟨hfalse, start, hstart, -⟩
        · exact Or.inl ⟨hfirst.trans htrue, hstarts.mpr hnone⟩
        · cases hd : d.startPos with
          | none => exact absurd (hstarts.mp hd) (by rw [hstart]; exact Option.some_ne_none _)
          | some start' =>
            exact Or.inr ⟨hfirst.trans hfalse, start', rfl, (hinv.digits start' hd).1⟩
      idle := by
        intro _ st hne
        have hidle := h.idle hmore st hne
        cases st
        all_goals exact hidle
      cast := fun _ => h.cast hmore
      enters := by
        intro _ hst
        have hbegun := hentered hst
        unfold Entered at hbegun ⊢
        dsimp only
        rw [hfirst]
        exact Or.inl hbegun }
  · unfold Lingers
    dsimp only
    rw [hfirst]
    exact Iff.rfl

/-! ## The final stage -/

theorem trimEnd_meets
    (rem : Nat) (pos : Int)
    (hle : pos ≤ dMaxLen) :
    Meets (Allowed free) (s.trimEnd rem pos) (· ≤ pos) := by
  induction rem generalizing pos with
  | zero =>
      exact Meets.ok (Int.le_refl pos)
  | succ rem ih =>
      refine Meets.bind (R := fun x => x = true → pos > 0) ?_ fun x _ => ?_
      · refine both_left test_meets fun hpos => ?_
        exact (readRes_meets (Int.le_of_lt hpos) (Or.inr hle)).bind fun c _ => Meets.ok trivial
      · refine Meets.ite (fun _ => (ih (pos - 1) (by omega)).imp fun p hp => ?_)
          fun _ => Meets.ok (Int.le_refl pos)
        exact Int.le_trans hp (Int.sub_le_self pos (by decide))

theorem trimDigits_meets (h : StageInv s) :
    Meets (Allowed free) s.trimDigits (fun t => ∃ res d, t = { s with
      res := res, literalDigSt := d }) := by
  unfold trimDigits
  have hcur := h.cur
  cases hstart : s.literalDigSt.startPos with
  | none =>
      exact Meets.ok ⟨_, _, rfl⟩
  | some start =>
      have hlt := (h.digits start hstart).1
      refine Meets.bind (R := fun _ => True) ?_ fun x _ => ?_
      · refine (both_left test_meets fun _ => ?_).any
        exact (readRes_meets (by omega) (Or.inr (by omega))).bind fun c _ => Meets.ok trivial
      · refine Meets.ite (fun _ => ?_) fun _ => Meets.ok ⟨_, _, rfl⟩
        refine (writeRes_meets (Or.inr (by omega)) '?').bind ?_
        rintro _ ⟨⟨res, rfl⟩, -⟩
        refine (writeRes_meets (Or.inr (by omega)) nul).imp ?_
        rintro _ ⟨⟨res', rfl⟩, -⟩
        exact ⟨_, _, rfl⟩

/-- The final stage stays in the result. -/
theorem finalStage_meets (h : StageInv s) :
    Meets (Allowed free) s.finalStage (fun _ => True) := by
  have hcur := h.cur
  refine (trimDigits_meets h).bind ?_
  rintro _ ⟨res, d, rfl⟩
  refine (trimEnd_meets _ _ (by dsimp only; omega)).bind fun pos hpos => ?_
  dsimp only at hpos ⊢
  exact (writeRes_meets (Or.inr (by omega)) nul).bind fun t _ => Meets.ok trivial

end DigestSt

end Tokenizer

end PolarProxy
