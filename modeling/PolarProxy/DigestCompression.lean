import PolarProxy.DigestRounds

/-!
# The bounds of the compression stages

A compression stage writes the digest where it has read it.  The position that is written stays
behind the one that is read, and both stay in the digest: the second and the third stage only make
the text shorter.  The fourth stage does so too, unless a collapse puts more text than the groups
take that it replaces.

**Results.** `Places`, `Overtakes`, `DigestSt.stage2Step_meets`, `DigestSt.stage3Step_meets`,
`DigestSt.stage4Step_meets`.
-/

namespace PolarProxy

namespace Tokenizer

open Loops Memory

variable {q : List Char} {opts : Options} {dMaxLen stop : Nat} {free : Prop}

/-- The invariant of the loop of a stage over the first `stop` characters of the result.  Where
faults are allowed, what is written may get ahead of what is read. -/
structure Places (free : Prop) (stop : Nat) (s t : DigestSt dMaxLen) : Prop where
  frame : ∃ res cur pre, t = { s with res := res, resCurPos := cur, resPrePos := pre }
  cur : t.resCurPos ≤ stop + 1
  pre : free ∨ t.resPrePos ≤ t.resCurPos ∧ t.resPrePos ≤ stop

/-- A character is dropped, or it is kept. -/
def Moved (s t : DigestSt dMaxLen) : Prop :=
  ∃ res pre, t = { s with res := res, resCurPos := s.resCurPos + 1, resPrePos := pre } ∧
    pre ≤ s.resPrePos + 1

theorem Places.moved
    {s t u : DigestSt dMaxLen}
    (h : Places free stop s t)
    (hcur : t.resCurPos < stop)
    (hu : Moved t u) :
    Places free stop s u ∧ t.resCurPos < u.resCurPos := by
  obtain ⟨⟨res, cur, pre, rfl⟩, -, hpre⟩ := h
  obtain ⟨res', pre', rfl, hle⟩ := hu
  dsimp only at hcur hpre hle
  refine ⟨⟨⟨_, _, _, rfl⟩, ?_, hpre.imp_right fun hbehind => ?_⟩, Nat.lt_succ_self _⟩
  · dsimp only
    omega
  · dsimp only
    omega

namespace DigestSt

variable {s t : DigestSt dMaxLen}

/-! ## The result -/

theorem readRes_meets
    {pos : Int}
    (hnonneg : 0 ≤ pos)
    (hle : free ∨ pos ≤ dMaxLen) :
    Meets (Allowed free) (s.readRes pos) (fun _ => True) := by
  rcases hle with hfree | hle
  · unfold readRes
    split
    · exact Meets.ok trivial
    · exact Meets.error ⟨hfree, nofun⟩
  · obtain ⟨c, hc⟩ := s.readRes_ok pos hnonneg hle
    rw [hc]
    exact Meets.ok trivial

theorem writeRes_meets
    {pos : Nat}
    (hle : free ∨ pos ≤ dMaxLen)
    (c : Char) :
    Meets (Allowed free) (s.writeRes pos c) (fun t => (∃ res, t = { s with res := res }) ∧
      pos ≤ dMaxLen) := by
  unfold writeRes
  split
  case h_1 res hres =>
    exact Meets.ok ⟨⟨res, rfl⟩, Nat.le_of_lt_succ (Block.lt_of_write hres)⟩
  case h_2 hnone =>
    rcases hle with hfree | hle
    · exact Meets.error ⟨hfree, nofun⟩
    · obtain ⟨res, hres⟩ := s.res.exists_write (Nat.lt_succ_of_le hle) c
      rw [hres] at hnone
      cases hnone

theorem put_meets
    (hle : free ∨ s.resPrePos ≤ dMaxLen)
    (c : Char) :
    Meets (Allowed free) (s.put c) (fun t => ∃ res, t = { s with
      res := res, resPrePos := s.resPrePos + 1 }) := by
  refine (writeRes_meets hle c).bind ?_
  rintro _ ⟨⟨res, rfl⟩, -⟩
  exact Meets.ok ⟨res, rfl⟩

theorem putAll_meets
    (cs : List Char)
    (hle : free ∨ s.resPrePos + cs.length ≤ dMaxLen + 1) :
    Meets (Allowed free) (s.putAll cs) (fun t => ∃ res, t = { s with
      res := res, resPrePos := s.resPrePos + cs.length }) := by
  induction cs generalizing s with
  | nil =>
      exact Meets.ok ⟨s.res, rfl⟩
  | cons c cs ih =>
      rw [List.length_cons] at hle
      refine (put_meets (hle.imp_right fun hle => by omega) c).bind ?_
      rintro _ ⟨res, rfl⟩
      refine (ih (hle.imp_right fun hle => by dsimp only; omega)).imp ?_
      rintro _ ⟨res', rfl⟩
      refine ⟨res', ?_⟩
      rw [List.length_cons, Nat.add_assoc, Nat.add_comm 1]

theorem moveDigits_meets
    (rem pos : Nat)
    (hread : pos + rem ≤ dMaxLen + 1)
    (hle : free ∨ s.resPrePos + rem ≤ dMaxLen + 1) :
    Meets (Allowed free) (s.moveDigits rem pos) (fun t => ∃ res cur pre, t = { s with
      res := res, resCurPos := cur, resPrePos := pre } ∧ pre = s.resPrePos + rem) := by
  induction rem generalizing s pos with
  | zero =>
      exact Meets.ok ⟨s.res, s.resCurPos, s.resPrePos, rfl, rfl⟩
  | succ rem ih =>
      refine (readRes_meets (by omega) (Or.inr (by omega))).bind fun c _ => ?_
      refine (put_meets (hle.imp_right fun hle => by omega) c).bind ?_
      rintro _ ⟨res, rfl⟩
      refine (ih (pos + 1) (by omega) (hle.imp_right fun hle => ?_)).imp ?_
      · change s.resPrePos + 1 + rem ≤ _
        omega
      · rintro _ ⟨res', cur, pre, rfl, hpre⟩
        refine ⟨res', cur, pre, rfl, ?_⟩
        rw [hpre]
        exact Nat.succ_add_eq_add_succ s.resPrePos rem

/-! ## The second stage -/

theorem drop_moved (s : DigestSt dMaxLen) : Moved s s.drop :=
  ⟨_, _, rfl, Nat.le_succ _⟩

theorem keep_meets
    (hcur : s.resCurPos ≤ dMaxLen)
    (hpre : free ∨ s.resPrePos ≤ dMaxLen) :
    Meets (Allowed free) s.keep (Moved s) := by
  refine (readRes_meets (by omega) (Or.inr (by omega))).bind fun c _ => ?_
  refine (writeRes_meets hpre c).bind ?_
  rintro _ ⟨⟨res, rfl⟩, -⟩
  exact Meets.ok ⟨res, _, rfl, Nat.le_refl _⟩

theorem readBefore_meets
    {n : Nat}
    (hcur : s.resCurPos ≤ dMaxLen)
    (c : Char) :
    Meets (Allowed free) (if s.resCurPos > n then s.readRes ((s.resCurPos : Int) - (n + 1 : Nat))
      else pure c) (fun _ => True) := by
  refine Meets.ite (fun hlt => ?_) fun _ => Meets.ok trivial
  exact readRes_meets (by omega) (Or.inr (by omega))

theorem stage2Space_meets
    (hcur : s.resCurPos < dMaxLen)
    (hpre : free ∨ s.resPrePos ≤ dMaxLen) :
    Meets (Allowed free) (s.stage2Space opts) (Moved s) := by
  have hle := Nat.le_of_lt hcur
  refine (readBefore_meets (n := 0) hle '0').bind fun lc _ => ?_
  refine (readRes_meets (by omega) (Or.inr (by omega))).bind fun rc _ => ?_
  refine Meets.ite (fun _ => Meets.ok s.drop_moved) fun _ => Meets.ite (fun _ => ?_) fun _ => ?_
  · refine (readBefore_meets (n := 1) hle '0').bind fun llc _ => ?_
    exact Meets.ite (fun _ => keep_meets hle hpre) fun _ => Meets.ok s.drop_moved
  · exact Meets.ite (fun _ => Meets.ok s.drop_moved) fun _ => keep_meets hle hpre

theorem stage2Sign_meets
    (hcur : s.resCurPos < dMaxLen)
    (hpre : free ∨ s.resPrePos ≤ dMaxLen) :
    Meets (Allowed free) s.stage2Sign (Moved s) := by
  have hle := Nat.le_of_lt hcur
  refine (readBefore_meets (n := 1) hle '0').bind fun llc _ => ?_
  refine (readBefore_meets (n := 0) hle '0').bind fun lc _ => ?_
  refine (readRes_meets (by omega) (Or.inr (by omega))).bind fun rc _ => ?_
  refine Meets.ite (fun _ => ?_) fun _ => ?_
  · refine Meets.ite (fun _ => Meets.ok s.drop_moved) fun _ => ?_
    exact Meets.ite (fun _ => Meets.ok s.drop_moved) fun _ => keep_meets hle hpre
  · exact Meets.ite (fun _ => Meets.ok s.drop_moved) fun _ => keep_meets hle hpre

theorem stage2Digit_meets (hpre : free ∨ s.resPrePos ≤ dMaxLen) :
    Meets (Allowed free) s.stage2Digit (Moved s) := by
  refine Meets.bind (R := fun _ => True) ?_ fun marks _ => ?_
  · refine (both_left (test_meets (p := s.resPrePos > 0)) fun hpos => ?_).any
    refine (readRes_meets (by omega) (hpre.imp_right fun hle => by omega)).bind fun c _ => ?_
    exact Meets.ok trivial
  · refine Meets.bind (R := fun t => ∃ res pre, t = { s with res := res, resPrePos := pre } ∧
      pre ≤ s.resPrePos + 1) ?_ ?_
    · refine Meets.ite (fun _ => (put_meets hpre '?').imp ?_) fun _ => ?_
      · rintro _ ⟨res, rfl⟩
        exact ⟨_, _, rfl, Nat.le_refl _⟩
      · exact Meets.ok ⟨_, _, rfl, Nat.le_succ _⟩
    · rintro _ ⟨res, pre, rfl, hle⟩
      exact Meets.ok ⟨_, _, rfl, hle⟩

theorem stage2Step_meets
    (hstop : stop ≤ dMaxLen)
    (h : Places free stop s t) :
    Meets (Allowed free) (t.stage2Step opts ((stop : Int) - 1)) (fun r =>
      if r.2 then Places free stop s r.1 ∧ t.resCurPos < r.1.resCurPos
      else Places free stop s r.1) := by
  refine Meets.ite (fun hmore => ?_) fun _ => Meets.ok h
  have hcur : t.resCurPos < stop := by omega
  have hlt : t.resCurPos < dMaxLen := Nat.lt_of_lt_of_le hcur hstop
  have hpre : free ∨ t.resPrePos ≤ dMaxLen :=
    h.pre.imp_right fun hbehind => Nat.le_trans hbehind.2 hstop
  refine (readRes_meets (by omega) (Or.inr (by omega))).bind fun c _ => ?_
  refine Meets.ite (fun _ => ?_) fun _ => Meets.ite (fun _ => ?_) fun _ => ?_
  · exact (stage2Space_meets hlt hpre).bind fun u hu => Meets.ok (h.moved hcur hu)
  · exact (stage2Sign_meets hlt hpre).bind fun u hu => Meets.ok (h.moved hcur hu)
  · refine Meets.ite (fun _ => ?_) fun _ => ?_
    · exact (stage2Digit_meets hpre).bind fun u hu => Meets.ok (h.moved hcur hu)
    · exact (keep_meets (Nat.le_of_lt hlt) hpre).bind fun u hu => Meets.ok (h.moved hcur hu)

/-! ## The third stage -/

theorem isBefore_meets
    (pos : Int) (word : List Char)
    (hlen : word.length ≤ pos)
    (hle : free ∨ pos ≤ dMaxLen + 1) :
    Meets (Allowed free) (s.isBefore pos word) (fun _ => True) := by
  induction word generalizing pos with
  | nil =>
      exact Meets.ok trivial
  | cons c word ih =>
      rw [List.length_cons] at hlen
      refine both_any ?_ (ih (pos - 1) (by omega) (hle.imp_right fun hle => by omega))
      refine (readRes_meets (by omega) (hle.imp_right fun hle => by omega)).bind fun d _ => ?_
      exact Meets.ok trivial

theorem isFrom_meets
    (pos : Int) (word : List Char)
    (hnonneg : 0 ≤ pos)
    (hle : pos + word.length ≤ dMaxLen + 1) :
    Meets (Allowed free) (s.isFrom pos word) (fun _ => True) := by
  induction word generalizing pos with
  | nil =>
      exact Meets.ok trivial
  | cons c word ih =>
      rw [List.length_cons] at hle
      refine both_any ?_ (ih (pos + 1) (by omega) (by omega))
      refine (readRes_meets hnonneg (Or.inr (by omega))).bind fun d _ => ?_
      exact Meets.ok trivial

theorem isFrom_of_append
    {pos : Int} {word rest : List Char}
    (h : s.isFrom pos (word ++ rest) = .ok true) :
    s.isFrom pos word = .ok true := by
  induction word generalizing pos with
  | nil =>
      rfl
  | cons c word ih =>
      rw [List.cons_append, isFrom] at h
      rw [isFrom]
      cases hread : s.readRes pos with
      | error e =>
          rw [hread] at h
          cases h
      | ok d =>
          rw [hread] at h
          cases hsame : d == c with
          | true =>
              change (if (d == c) = true then _ else _) = _ at h
              change (if (d == c) = true then _ else _) = _
              rw [hsame] at h ⊢
              exact ih h
          | false =>
              change (if (d == c) = true then _ else _) = _ at h
              rw [hsame] at h
              cases h

/-- A round over marks behind `...` -/
theorem expansionStep_meets
    {r : Nat × Bool}
    (hstop : stop ≤ dMaxLen)
    (hr : r.1 ≤ stop)
    (hlast : r.2 = false) :
    Meets (Allowed free) (s.expansionStep ((stop : Int) - 1) r) (fun t => t.1.1 ≤ stop ∧
      if t.2 then t.1.2 = false ∧ r.1 < t.1.1
      else r.1 ≤ t.1.1 ∧ (t.1.2 = true → r.1 < t.1.1)) := by
  have hdone : Meets (Allowed free) (.ok (r, false)) (fun t : (Nat × Bool) × Bool =>
      t.1.1 ≤ stop ∧ if t.2 then t.1.2 = false ∧ r.1 < t.1.1
        else r.1 ≤ t.1.1 ∧ (t.1.2 = true → r.1 < t.1.1)) := by
    refine Meets.ok ⟨hr, Nat.le_refl _, fun htrue => ?_⟩
    exact absurd (hlast.symm.trans htrue) nofun
  refine Meets.ite (fun hmore => ?_) fun _ => hdone
  refine (isFrom_meets _ _ (by omega) (by simp; omega)).bind fun x _ => ?_
  refine Meets.ite (fun _ => Meets.ok ?_) fun _ => ?_
  · exact ⟨by dsimp only; omega, rfl, Nat.lt_add_of_pos_right (by decide)⟩
  · refine (isFrom_meets _ _ (by omega) (by simp; omega)).bind fun y _ => ?_
    refine Meets.ite (fun _ => Meets.ok ?_) fun _ => hdone
    exact ⟨by dsimp only; omega, Nat.le_succ _, fun _ => Nat.lt_succ_self _⟩

/-- Marks behind `...` are left out in the digest. -/
theorem collapseExpansion_meets
    (hstop : stop ≤ dMaxLen)
    (hcur : (stop : Int) - 1 - s.resCurPos ≥ 1) :
    Meets (Allowed free) (s.collapseExpansion ((stop : Int) - 1)) (fun r => ∃ cur,
      r.1 = { s with resCurPos := cur } ∧ s.resCurPos ≤ cur ∧ cur ≤ stop) := by
  refine (readRes_meets (by omega) (Or.inr (by omega))).bind fun c _ => ?_
  generalize hfirst : (if c = ',' then s.resCurPos + 1 else s.resCurPos) = first
  have hbounds : s.resCurPos ≤ first ∧ first ≤ stop := by
    rw [← hfirst]
    split
    · omega
    · omega
  refine Meets.bind (R := fun r : Nat × Bool => s.resCurPos ≤ r.1 ∧ r.1 ≤ stop) ?_ ?_
  · refine Meets.loop_measure (I := fun r => (s.resCurPos ≤ r.1 ∧ r.1 ≤ stop) ∧ r.2 = false)
      (fun r => stop - r.1) ?_ _ _ ⟨hbounds, rfl⟩ (by dsimp only; omega)
    rintro r ⟨⟨hle, hge⟩, hlast⟩
    refine (expansionStep_meets hstop hge hlast).imp fun t ht => ?_
    obtain ⟨hbound, ht⟩ := ht
    split
    case isTrue hagain =>
      rw [if_pos hagain] at ht
      exact ⟨⟨⟨by omega, hbound⟩, ht.1⟩, by omega⟩
    case isFalse hdone =>
      rw [if_neg hdone] at ht
      exact ⟨by omega, hbound⟩
  · rintro ⟨pos, isLast⟩ ⟨hle, hge⟩
    dsimp only at hle hge ⊢
    have hplace : ∃ cur, (if pos > s.resCurPos + 1 ∨ isLast = true then
        { s with resCurPos := pos } else s) = { s with resCurPos := cur } ∧
          s.resCurPos ≤ cur ∧ cur ≤ stop := by
      split
      · exact ⟨_, rfl, hle, hge⟩
      · exact ⟨_, rfl, Nat.le_refl _, by omega⟩
    refine Meets.ite (fun _ => ?_) fun _ => Meets.ok hplace
    exact (readRes_meets (by omega) (Or.inr (by omega))).bind fun d _ => Meets.ok hplace

theorem length_groupText (limit len : Nat) :
    (groupText limit len).length = if len ≤ limit then 2 * len else 2 * limit + 3 := by
  induction len with
  | zero =>
      rfl
  | succ len ih =>
      rw [groupText, List.range_succ, List.flatMap_append, List.length_append]
      rw [groupText] at ih
      rw [ih, List.flatMap_singleton]
      rcases Nat.lt_trichotomy len limit with hlt | heq | hgt
      · rw [if_pos (Nat.le_of_lt hlt), if_pos hlt, if_pos (Nat.succ_le_of_lt hlt)]
        rfl
      · rw [if_pos (Nat.le_of_eq heq), if_neg (by omega), if_pos heq, if_neg (by omega), heq]
        rfl
      · rw [if_neg (by omega), if_neg (by omega), if_neg (by omega), if_neg (by omega)]
        rfl

/-- The invariant of the loop over a group that begins at the current position -/
structure GroupInv (stop : Nat) (s : DigestSt dMaxLen) (r : Nat × Nat × Nat) : Prop where
  pos : r.1 = s.resCurPos + 2 * r.2.1
  le : r.1 ≤ stop
  closed : r.2.2 = 2 → r.1 + 1 < stop
  marked : r.2.1 = 0 → r.2.2 = 0

theorem groupStep_meets
    {r : Nat × Nat × Nat}
    (hstop : stop ≤ dMaxLen)
    (hfirst : s.isFrom s.resCurPos ['?', ','] = .ok true)
    (hr : GroupInv stop s r) :
    Meets (Allowed free) (s.groupStep ((stop : Int) - 1) r) (fun t =>
      if t.2 then GroupInv stop s t.1 ∧
        stop - t.1.1 + (2 - t.1.2.2) < stop - r.1 + (2 - r.2.2)
      else t.1 = r ∧ (r.2.2 = 0 → stop ≤ r.1 + 1)) := by
  obtain ⟨pos, len, broken⟩ := r
  obtain ⟨hpos, hle, hclosed, hmarked⟩ := hr
  dsimp only at hpos hle hclosed hmarked
  refine Meets.ite (fun hmore => ?_) fun hdone => Meets.ok ⟨rfl, fun hzero => ?_⟩
  · obtain ⟨hlt, rfl⟩ := hmore
    refine (isFrom_meets _ _ (by omega) (by simp; omega)).value.bind fun x hx => ?_
    refine Meets.ite (fun _ => Meets.ok ?_) fun hno => ?_
    · refine ⟨⟨?_, ?_, nofun, nofun⟩, ?_⟩
      all_goals dsimp only; omega
    · have hlen : len ≠ 0 := by
        rintro rfl
        rw [Nat.mul_zero, Nat.add_zero] at hpos
        rw [hpos, hfirst] at hx
        exact hno (Except.ok.inj hx.2).symm
      refine (readRes_meets (by omega) (Or.inr (by omega))).bind fun c _ => ?_
      refine Meets.ite (fun _ => Meets.ok ?_) fun _ => Meets.ok ?_
      · refine ⟨⟨hpos, hle, fun _ => ?_, fun hzero => absurd hzero hlen⟩, ?_⟩
        all_goals dsimp only; omega
      · refine ⟨⟨hpos, hle, nofun, fun hzero => absurd hzero hlen⟩, ?_⟩
        dsimp only
        omega
  · dsimp only at hzero hdone ⊢
    omega

theorem collapseGroup_meets
    (hstop : stop ≤ dMaxLen)
    (hcur : s.resCurPos + 1 < stop)
    (hpre : free ∨ s.resPrePos ≤ s.resCurPos)
    (hfirst : s.isFrom s.resCurPos ['?', ','] = .ok true) :
    Meets (Allowed free) (s.collapseGroup opts ((stop : Int) - 1)) (fun t => ∃ res cur pre,
      t = { s with res := res, resCurPos := cur, resPrePos := pre } ∧ s.resCurPos < cur ∧
        cur ≤ stop ∧ pre + s.resCurPos ≤ s.resPrePos + cur) := by
  refine Meets.bind (R := fun r => GroupInv stop s r ∧ (r.2.2 = 0 → stop ≤ r.1 + 1)) ?_ ?_
  · refine Meets.loop_measure (I := GroupInv stop s)
      (fun r => stop - r.1 + (2 - r.2.2)) ?_ _ _ ?_ ?_
    · intro r hr
      refine (groupStep_meets hstop hfirst hr).imp fun t ht => ?_
      split
      case isTrue hagain =>
        rw [if_pos hagain] at ht
        exact ht
      case isFalse hdone =>
        rw [if_neg hdone] at ht
        rw [ht.1]
        exact ⟨hr, ht.2⟩
    · exact ⟨rfl, Nat.le_of_lt (Nat.lt_of_succ_lt hcur), nofun, fun _ => rfl⟩
    · dsimp only
      omega
  · rintro ⟨pos, len, broken⟩ ⟨⟨hpos, hle, hclosed, hmarked⟩, hopen⟩
    dsimp only at hpos hle hclosed hmarked hopen ⊢
    have hlen : len ≠ 0 := by
      rintro rfl
      have := hopen (hmarked rfl)
      omega
    generalize hfull : (if broken = 2 then len * 2 + 1 else len * 2) = fullLen
    refine Meets.ite (fun hmore => ?_) fun _ => ?_
    · have hlimit : opts.groupingLimit < len := by
        split at hfull
        · omega
        · omega
      have htext : (groupText opts.groupingLimit len).length = 2 * opts.groupingLimit + 3 := by
        rw [length_groupText, if_neg (Nat.not_le_of_lt hlimit)]
      -- the text takes no more than the marks and the parenthesis behind them
      obtain ⟨cur, hcur', hlt, hge, hfits⟩ : ∃ cur, (if broken = 2 then pos + 1 else pos - 1) = cur ∧
          s.resCurPos < cur ∧ cur ≤ stop ∧ s.resCurPos + (2 * opts.groupingLimit + 3) ≤ cur := by
        split at hfull
        case isTrue hbroken =>
          have := hclosed hbroken
          exact ⟨_, if_pos hbroken, by omega, by omega, by omega⟩
        case isFalse hbroken =>
          exact ⟨_, if_neg hbroken, by omega, by omega, by omega⟩
      refine (putAll_meets _ (hpre.imp_right fun hle' => by rw [htext]; omega)).bind ?_
      rintro _ ⟨res, rfl⟩
      rw [hcur']
      refine Meets.ok ⟨res, cur, _, rfl, hlt, hge, ?_⟩
      dsimp only
      rw [htext]
      omega
    · have htext : ((List.replicate len ['?', ',']).flatten).length = 2 * len := by
        rw [List.length_flatten, List.map_replicate, List.sum_replicate_nat]
        exact Nat.mul_comm _ _
      refine (putAll_meets _ (hpre.imp_right fun hle' => by rw [htext]; omega)).bind ?_
      rintro _ ⟨res, rfl⟩
      refine Meets.ok ⟨res, pos, _, rfl, by omega, hle, ?_⟩
      dsimp only
      rw [htext]
      omega

/-- A round of the third stage -/
theorem stage3Step_meets
    {r : DigestSt dMaxLen × Bool}
    (hlimit : opts.groupingLimit ≠ 0)
    (hstop : stop ≤ dMaxLen)
    (h : Places free stop s r.1)
    (hcandidate : r.2 = true → 0 < r.1.resCurPos) :
    Meets (Allowed free) (stage3Step opts ((stop : Int) - 1) r) (fun t =>
      if t.2 then (Places free stop s t.1.1 ∧ (t.1.2 = true → 0 < t.1.1.resCurPos)) ∧
        r.1.resCurPos < t.1.1.resCurPos
      else Places free stop s t.1.1) := by
  obtain ⟨t, candidate⟩ := r
  dsimp only at h hcandidate
  refine Meets.ite (fun hmore => ?_) fun _ => Meets.ok h
  have hcur : t.resCurPos < stop := by omega
  obtain ⟨⟨res, cur, pre, rfl⟩, -, hpre⟩ := h
  dsimp only at hcandidate hmore hcur hpre ⊢
  refine Meets.bind (R := fun _ => True) ?_ fun expansion _ => ?_
  · refine (both_left (A := 4 < pre) (Meets.ok fun htrue => ?_) fun hlen => ?_).any
    · exact of_decide_eq_true ((Bool.and_eq_true _ _).mp htrue).2
    · exact isBefore_meets _ _ (by simp; omega) (hpre.imp_right fun hle => by omega)
  -- behind `...` the text may go on later
  refine Meets.bind (R := fun r => ∃ cur', r.1 = { s with
    res := res, resCurPos := cur', resPrePos := pre } ∧ cur ≤ cur' ∧ cur' ≤ stop) ?_ ?_
  · refine Meets.ite (fun hexpansion => ?_) fun _ => Meets.ok ⟨cur, rfl, Nat.le_refl _, Nat.le_of_lt hcur⟩
    refine (collapseExpansion_meets hstop hexpansion.2).imp ?_
    rintro r ⟨cur', hr, hle, hge⟩
    exact ⟨cur', hr, hle, hge⟩
  · rintro ⟨u, goesOn⟩ ⟨cur', rfl, hle, hge⟩
    dsimp only
    refine Meets.ite (fun _ => Meets.ok ?_) fun _ => ?_
    · rw [if_neg nofun]
      exact ⟨⟨_, _, _, rfl⟩, by dsimp only; omega, hpre.imp_right fun hle' => by dsimp only; omega⟩
    -- a group is a text of three characters at least
    refine Meets.bind (R := fun group => group = true → cur' + 1 < stop ∧
      isFrom { s with res := res, resCurPos := cur', resPrePos := pre } cur' ['?', ','] = .ok true)
      ?_ ?_
    · refine (both_meets (A := 0 < cur' ∧ (cur' : Int) < (stop : Int) - 1 - opts.groupingLimit * 2)
        (Meets.ok fun htrue => ?_) fun hfits => ?_).imp fun x hx htrue => ⟨?_, (hx htrue).2⟩
      · obtain ⟨hcand, hfits⟩ := (Bool.and_eq_true _ _).mp htrue
        have := hcandidate hcand
        exact ⟨by omega, of_decide_eq_true hfits⟩
      · refine Meets.bind (R := fun x => x = true → isFrom { s with
            res := res, resCurPos := cur', resPrePos := pre } cur' ['?', ','] = .ok true) ?_ ?_
        · refine (isFrom_meets _ _ (by omega) (by simp; omega)).value.bind fun x hx => ?_
          refine Meets.ite (fun htrue => ?_) fun _ => Meets.ok fun h => absurd h Bool.false_ne_true
          refine (readRes_meets (by omega) (Or.inr (by omega))).bind fun c _ => Meets.ok fun _ => ?_
          subst htrue
          exact isFrom_of_append (show isFrom _ _ (['?', ','] ++ ['?']) = .ok true from hx.2)
        · intro x hx
          refine (readRes_meets (by omega) (Or.inr (by omega))).bind fun before _ => ?_
          exact Meets.ok fun htrue => hx ((Bool.and_eq_true _ _).mp htrue).2
      · have := (hx htrue).1.2
        omega
    · intro group hgroup
      refine Meets.bind (R := fun u => ∃ res cur pre', u = { s with
        res := res, resCurPos := cur, resPrePos := pre' } ∧ cur' < cur ∧ cur ≤ stop + 1 ∧
          (free ∨ pre' ≤ cur ∧ pre' ≤ stop)) ?_ ?_
      · refine Meets.ite (fun htrue => ?_) fun _ => ?_
        · obtain ⟨hroom, hfirst⟩ := hgroup htrue
          refine (collapseGroup_meets hstop hroom
            (hpre.imp_right fun hbehind => Nat.le_trans hbehind.1 hle) hfirst).imp ?_
          rintro _ ⟨res', cur'', pre', rfl, hlt, hge', hfits⟩
          dsimp only at hlt hge' hfits
          refine ⟨_, _, _, rfl, hlt, by omega, hpre.imp_right fun hbehind => ?_⟩
          omega
        · refine (keep_meets (by dsimp only; omega)
            (hpre.imp_right fun hbehind => Nat.le_trans hbehind.2 hstop)).imp ?_
          rintro _ ⟨res', pre', rfl, hle'⟩
          dsimp only at hle'
          refine ⟨_, _, _, rfl, Nat.lt_succ_self _, Nat.succ_le_succ hge,
            hpre.imp_right fun hbehind => ?_⟩
          dsimp only
          omega
      · rintro _ ⟨res', cur'', pre', rfl, hlt, hge', hpre'⟩
        refine (readRes_meets (by omega) (Or.inr (by omega))).bind fun c _ => Meets.ok ?_
        rw [if_pos rfl]
        refine ⟨⟨⟨⟨_, _, _, rfl⟩, hge', hpre'⟩, fun _ => ?_⟩, ?_⟩
        · dsimp only
          omega
        · dsimp only
          omega

/-! ## The fourth stage -/

theorem length_groupPattern (limit : Nat) : (groupPattern limit).length = 2 * limit + 5 := by
  rw [groupPattern, List.length_cons, List.length_append, List.length_flatten, List.map_replicate,
    List.sum_replicate_nat]
  change limit * 2 + 4 + 1 = _
  omega

theorem groupPatternSize_eq (opts : Options) :
    groupPatternSize opts = 2 * opts.groupingLimit + 6 := by
  unfold groupPatternSize
  omega

theorem isGroupPattern_meets
    {pos : Nat}
    (hstop : stop ≤ dMaxLen)
    (hle : (pos : Int) + (groupPatternSize opts - 2 : Nat) ≤ (stop : Int) - 1) :
    Meets (Allowed free) (s.isGroupPattern opts pos) (fun _ => True) := by
  rw [groupPatternSize_eq] at hle
  refine isFrom_meets _ _ (Int.natCast_nonneg pos) ?_
  rw [length_groupPattern]
  omega

/-- Groups behind `...` -/
theorem expansionGroups_meets
    {first : Nat}
    (hstop : stop ≤ dMaxLen)
    (hfirst : first ≤ stop + 1) :
    Meets (Allowed free) (loop (s.expansionGroupStep opts ((stop : Int) - 1)) (dMaxLen + 3) first)
      (fun pos => first ≤ pos ∧ pos ≤ stop + 1) := by
  have hsize := groupPatternSize_eq opts
  refine Meets.loop_measure (I := fun pos => first ≤ pos ∧ pos ≤ stop + 1)
    (fun pos => stop + 1 - pos) ?_ _ _ ⟨Nat.le_refl _, hfirst⟩ (by omega)
  rintro pos ⟨hle, hge⟩
  refine Meets.ite (fun hmore => ?_) fun _ => Meets.ok ⟨hle, hge⟩
  refine (isGroupPattern_meets hstop hmore).bind fun x _ => ?_
  refine Meets.ite (fun _ => Meets.ok ?_) fun _ => Meets.ok ⟨hle, hge⟩
  rw [if_pos rfl]
  dsimp only
  split
  · omega
  · omega

/-- Groups behind `...` are left out in the digest. -/
theorem collapseExpansionGroups_meets
    (hstop : stop ≤ dMaxLen)
    (hcur : s.resCurPos < stop) :
    Meets (Allowed free) (s.collapseExpansionGroups opts ((stop : Int) - 1)) (fun r =>
      (r.1 = .skipped ∧ ∃ cur, r.2 = { s with resCurPos := cur } ∧ s.resCurPos < cur ∧ cur ≤ stop) ∨
      r.1 ≠ .skipped ∧ r.2 = s) := by
  refine (readRes_meets (by omega) (Or.inr (by omega))).bind fun c _ => ?_
  generalize hfirst : (if c = ',' ∨ c = ' ' then s.resCurPos + 1 else s.resCurPos) = first
  have hle : first ≤ stop + 1 := by
    rw [← hfirst]
    split
    · omega
    · omega
  refine (expansionGroups_meets hstop hle).bind fun pos hpos => ?_
  refine Meets.ite (fun hmore => Meets.ok (Or.inl ⟨rfl, _, rfl, by omega, by omega⟩))
    fun _ => Meets.ok (Or.inr ⟨?_, rfl⟩)
  dsimp only
  split
  · exact Expansion.noConfusion
  · exact Expansion.noConfusion

theorem skipGroups_meets
    (hstop : stop ≤ dMaxLen)
    (hcur : s.resCurPos < stop)
    (hpre : free ∨ s.resPrePos ≤ stop) :
    Meets (Allowed free) (s.skipGroups opts ((stop : Int) - 1)) (fun r =>
      (r.1 = .skipped ∧ ∃ cur, r.2 = { s with resCurPos := cur } ∧ s.resCurPos < cur ∧ cur ≤ stop) ∨
      r.1 ≠ .skipped ∧ r.2 = s) := by
  refine Meets.bind (R := fun _ => True) ?_ fun before _ => ?_
  · refine (both_left (test_meets (p := s.resPrePos > 5)) fun hlen => ?_).any
    exact isBefore_meets _ _ (by simp; omega) (hpre.imp_right fun hle => by omega)
  · exact Meets.ite (fun _ => collapseExpansionGroups_meets hstop hcur)
      fun _ => Meets.ok (Or.inr ⟨Expansion.noConfusion, rfl⟩)

theorem groupsFrom_meets
    (hstop : stop ≤ dMaxLen)
    (hcur : s.resCurPos ≤ stop) :
    Meets (Allowed free) (s.groupsFrom opts ((stop : Int) - 1)) (fun r =>
      (0 < r.2 → s.resCurPos < r.1) ∧ r.1 ≤ stop + 1) := by
  have hsize := groupPatternSize_eq opts
  refine Meets.loop_measure
    (I := fun r : Nat × Nat => (s.resCurPos ≤ r.1 ∧ (0 < r.2 → s.resCurPos < r.1)) ∧ r.1 ≤ stop + 1)
    (fun r => stop + 1 - r.1) ?_ _ _ ⟨⟨Nat.le_refl _, fun hpos => absurd hpos (Nat.lt_irrefl 0)⟩,
      Nat.le_succ_of_le hcur⟩ (by dsimp only; omega)
  rintro ⟨pos, found⟩ ⟨⟨hle, hfound⟩, hge⟩
  dsimp only at hle hfound hge
  refine Meets.ite (fun hmore => ?_) fun _ => Meets.ok ⟨hfound, hge⟩
  refine (isGroupPattern_meets hstop hmore).bind fun x _ => ?_
  refine Meets.ite (fun _ => ?_) fun _ => Meets.ok ⟨hfound, hge⟩
  refine (readRes_meets (by omega) (Or.inr (by omega))).bind fun c _ => Meets.ok ?_
  rw [if_pos rfl]
  dsimp only
  split
  · exact ⟨⟨⟨by omega, fun _ => by omega⟩, by omega⟩, by omega⟩
  · exact ⟨⟨⟨by omega, fun _ => by omega⟩, by omega⟩, by omega⟩

theorem mapM_meets
    {α β : Type} {f : α → Checked β} (l : List α)
    (h : ∀ a ∈ l, Meets (Allowed free) (f a) (fun _ => True)) :
    Meets (Allowed free) (l.mapM f) (fun r => r.length = l.length) := by
  induction l with
  | nil =>
      exact Meets.ok rfl
  | cons a l ih =>
      rw [List.mapM_cons]
      refine (h a List.mem_cons_self).bind fun b _ => ?_
      refine (ih fun a' ha' => h a' (List.mem_cons_of_mem a ha')).bind fun bs hbs => Meets.ok ?_
      rw [List.length_cons, List.length_cons, hbs]

theorem moveGroups_meets
    {n : Nat}
    (hread : s.resCurPos + n ≤ dMaxLen + 1)
    (hle : free ∨ s.resPrePos + n ≤ dMaxLen + 1) :
    Meets (Allowed free) (s.moveGroups s.resCurPos n) (fun t => ∃ res, t = { s with
      res := res, resPrePos := s.resPrePos + n }) := by
  refine Meets.bind (mapM_meets (List.range n) fun i hi => ?_) fun text htext => ?_
  · rw [List.mem_range] at hi
    exact readRes_meets (by omega) (Or.inr (by omega))
  · rw [List.length_range] at htext
    rw [← htext] at hle ⊢
    exact putAll_meets text hle

/-- More groups stand at the current position than are left, and take less room than what is written
in their place. -/
def Overtakes (opts : Options) (digestEnd : Int) (s : DigestSt dMaxLen) : Prop :=
  s.resCurPos ≤ digestEnd ∧ s.skipGroups opts digestEnd = .ok (.other, s) ∧
    s.groupsFit opts digestEnd = .ok true ∧
    ∃ pos found, s.groupsFrom opts digestEnd = .ok (pos, found) ∧ opts.groupsGroupingLimit < found ∧
      min (pos : Int) (digestEnd + 1) <
        s.resPrePos + (groupPatternSize opts * opts.groupsGroupingLimit + 3 : Nat)

theorem groupsFit_meets (hstop : stop ≤ dMaxLen) :
    Meets (Allowed free) (s.groupsFit opts ((stop : Int) - 1)) (fun x => x = true →
      s.resCurPos + groupPatternSize opts * opts.groupsGroupingLimit ≤ stop) := by
  have hsize := groupPatternSize_eq opts
  have hmul : groupPatternSize opts * (opts.groupsGroupingLimit + 1) =
      groupPatternSize opts * opts.groupsGroupingLimit + groupPatternSize opts := Nat.mul_succ _ _
  refine (both_left test_meets fun hfits => ?_).imp fun x hx htrue => ?_
  · rw [hmul] at hfits
    exact isFrom_meets _ _ (Int.natCast_nonneg _) (by simp; omega)
  · have hfits := hx htrue
    rw [hmul] at hfits
    omega

theorem collapseGroups_meets
    (hstop : stop ≤ dMaxLen)
    (hcur : s.resCurPos < stop)
    (hfits : s.resCurPos + groupPatternSize opts * opts.groupsGroupingLimit ≤ stop)
    (hpre : free ∨ s.resPrePos ≤ s.resCurPos)
    (hroom : free ∨ ∀ pos found, s.groupsFrom opts ((stop : Int) - 1) = .ok (pos, found) →
      opts.groupsGroupingLimit < found →
        s.resPrePos + (groupPatternSize opts * opts.groupsGroupingLimit + 3) ≤ min pos stop) :
    Meets (Allowed free) (s.collapseGroups opts ((stop : Int) - 1)) (fun t => ∃ res cur pre,
      t = { s with res := res, resCurPos := cur, resPrePos := pre } ∧ s.resCurPos ≤ cur ∧
        cur ≤ stop + 1 ∧ (free ∨ pre ≤ cur ∧ pre ≤ stop)) := by
  refine (groupsFrom_meets hstop (Nat.le_of_lt hcur)).value.bind ?_
  rintro ⟨pos, found⟩ ⟨⟨hmoves, hge⟩, hgroups⟩
  dsimp only at hmoves hge
  refine Meets.ite (fun hmore => ?_) fun _ => Meets.ok ?_
  · have hroom' : free ∨ s.resPrePos + (groupPatternSize opts * opts.groupsGroupingLimit + 3) ≤
        min pos stop := hroom.imp_right fun h => h pos found hgroups hmore
    have hpos := hmoves (by omega)
    refine (moveGroups_meets (by omega) (hroom'.imp_right fun h => by omega)).bind ?_
    rintro _ ⟨res, rfl⟩
    refine (putAll_meets _ (hroom'.imp_right fun h => ?_)).bind ?_
    · change s.resPrePos + _ + 3 ≤ _
      omega
    · rintro _ ⟨res', rfl⟩
      refine Meets.ok ⟨_, _, _, rfl, Nat.le_of_lt hpos, hge, hroom'.imp_right fun h => ?_⟩
      change s.resPrePos + _ + 3 ≤ pos ∧ s.resPrePos + _ + 3 ≤ stop
      omega
  · exact ⟨s.res, s.resCurPos, s.resPrePos, rfl, Nat.le_refl _, by omega,
      hpre.imp_right fun h => ⟨h, by omega⟩⟩

/-- A round of the fourth stage -/
theorem stage4Step_meets
    (hstop : stop ≤ dMaxLen)
    (h : Places free stop s t)
    (hroom : free ∨ ¬ Overtakes opts ((stop : Int) - 1) t) :
    Meets (Allowed free) (t.stage4Step opts ((stop : Int) - 1)) (fun r =>
      if r.2 then Places free stop s r.1 ∧ t.resCurPos < r.1.resCurPos
      else Places free stop s r.1) := by
  refine Meets.ite (fun hmore => ?_) fun _ => Meets.ok h
  have hcur : t.resCurPos < stop := by omega
  obtain ⟨⟨res, cur, pre, rfl⟩, -, hpre⟩ := h
  dsimp only at hcur hpre
  refine (skipGroups_meets hstop hcur (hpre.imp_right fun hbehind => hbehind.2)).value.bind ?_
  rintro ⟨next, u⟩ ⟨hskip | ⟨hnext, rfl⟩, hvalue⟩
  · obtain ⟨rfl, cur', rfl, hlt, hge⟩ := hskip
    refine Meets.ok ?_
    rw [if_pos rfl]
    refine ⟨⟨⟨_, _, _, rfl⟩, Nat.le_succ_of_le hge, hpre.imp_right fun hbehind => ?_⟩, hlt⟩
    dsimp only at hlt ⊢
    omega
  · cases next with
    | skipped =>
        exact absurd rfl hnext
    | atEnd =>
        exact Meets.ok ⟨⟨_, _, _, rfl⟩, by dsimp only; omega, hpre⟩
    | other =>
        refine (groupsFit_meets hstop).value.bind fun fit hfit => ?_
        refine Meets.bind (R := fun u => ∃ res cur' pre', u = { s with
          res := res, resCurPos := cur', resPrePos := pre' } ∧ cur ≤ cur' ∧ cur' ≤ stop + 1 ∧
            (free ∨ pre' ≤ cur' ∧ pre' ≤ stop)) ?_ ?_
        · refine Meets.ite (fun htrue => ?_) fun _ => Meets.ok ?_
          · subst htrue
            refine (collapseGroups_meets hstop hcur (hfit.1 rfl)
              (hpre.imp_right fun hbehind => hbehind.1) ?_).imp ?_
            · refine hroom.imp_right fun hno pos found hgroups hlimit => ?_
              refine Nat.le_of_not_lt fun hlt => hno ?_
              exact ⟨hmore, hvalue, hfit.2, pos, found, hgroups, hlimit, by dsimp only at hlt ⊢; omega⟩
            · rintro _ ⟨res', cur', pre', rfl, hle, hge, hpre'⟩
              exact ⟨_, _, _, rfl, hle, hge, hpre'⟩
          · exact ⟨_, _, _, rfl, Nat.le_refl _, by omega, hpre⟩
        · rintro _ ⟨res', cur', pre', rfl, hle, hge, hpre'⟩
          refine Meets.ite (fun _ => Meets.ok ⟨⟨_, _, _, rfl⟩, hge, hpre'⟩) fun hinside => ?_
          dsimp only at hinside
          refine (keep_meets (by dsimp only; omega)
            (hpre'.imp_right fun hbehind => Nat.le_trans hbehind.2 hstop)).bind ?_
          rintro _ ⟨res'', pre'', rfl, hle'⟩
          refine Meets.ok ?_
          rw [if_pos rfl]
          dsimp only at hle'
          refine ⟨⟨⟨_, _, _, rfl⟩, by dsimp only; omega, hpre'.imp_right fun hbehind => ?_⟩, ?_⟩
          · dsimp only
            omega
          · dsimp only
            omega

end DigestSt

end Tokenizer

end PolarProxy
