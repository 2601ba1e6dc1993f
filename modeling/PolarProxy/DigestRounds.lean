import PolarProxy.DigestComments
import PolarProxy.DigestLiterals

/-!
# Rounds of the first stage

Between two rounds every state but the current one is idle, and the current one has begun or was
just selected.  A round keeps this, stays in the query and in the result, and moves forward in the
query, except that a state is selected or handed back.

**Results.** `LoopInv`, `DigestSt.process_settles`, `DigestSt.stage1Step_meets`.
-/

namespace PolarProxy

namespace Tokenizer

open Loops Memory

variable {q : List Char} {opts : Options} {dMaxLen : Nat} {free : Prop}

/-- A state that is not current holds nothing. -/
def IdleAt (s : DigestSt dMaxLen) : ParseSt → Prop
  | .cmntType1 => s.cmntType1St.nestLevel = 0
  | .literalString => s.literalStrSt.delimNum = false
  | .arrayLiteral => s.bracketDepth = 0
  | .quotedIdentifier => s.quotedIdenSt.delimNum = false
  | _ => True

/-- The current state has begun. -/
def Entered (s : DigestSt dMaxLen) : Prop :=
  match s.st with
  | .cmntType1 => 0 < s.cmntType1St.nestLevel
  | .cmntType2 => True
  | .literalString => s.literalStrSt.delimNum = true
  | .literalNumber => s.literalDigSt.firstDigit = false
  | .dollarQuoteString => s.dollarQuoteStrSt.tagStart ≠ none
  | .arrayLiteral => 0 < s.bracketDepth
  | .quotedIdentifier => s.quotedIdenSt.delimNum = true
  | _ => False

/-- The invariant of the loop of the first stage -/
structure LoopInv (free : Prop) (q : List Char) (opts : Options) (s : DigestSt dMaxLen) : Prop where
  pos : s.qCurPos ≤ q.length
  cur : s.resCurPos ≤ dMaxLen
  pre : 0 < dMaxLen → s.resPrePos < dMaxLen
  number : s.st ≠ .literalNumber → s.literalDigSt = {}
  digits : s.literalDigSt.firstDigit = true ∧ s.literalDigSt.startPos = none ∨
    s.literalDigSt.firstDigit = false ∧
      ∃ start, s.literalDigSt.startPos = some start ∧ start < s.resCurPos
  tag : DigestSt.TagInv q s.dollarQuoteStrSt
  cmnt : CmntInv free opts s.cmntType1St s.fstCmnt
  allocated : s.fstCmnt = none → s.cmntType1St.nestLevel = 0
  idle : s.qCurPos < q.length → ∀ st, s.st ≠ st → IdleAt s st
  cast : s.qCurPos < q.length → s.pgTcStarted = false
  enters : s.qCurPos < q.length → s.st ≠ .noMarkFound → Entered s ∨
    Finds q s.qCurPos s.prevChar s.st ∧ s.resCurPos < dMaxLen ∧ s.resPrePos = s.resCurPos

theorem LoopInv.digits_of_ne
    {s : DigestSt dMaxLen}
    (h : LoopInv free q opts s)
    (hst : s.st ≠ .literalNumber) :
    s.literalDigSt.firstDigit = true ∧ s.literalDigSt.startPos = none := by
  rw [h.number hst]
  exact ⟨rfl, rfl⟩

/-- The current state may hand back the control where it is. -/
def Lingers (q : List Char) (s : DigestSt dMaxLen) : Prop :=
  match s.st with
  | .cmntType1 => 0 < s.cmntType1St.nestLevel
  | .literalNumber => s.literalDigSt.firstDigit = false
  | .dollarQuoteString => DigestSt.TagTooLong q s
  | .quotedIdentifier => s.quotedIdenSt.delimNum = true
  | _ => False

namespace DigestSt

variable {s : DigestSt dMaxLen}

/-- What the function of a state leaves for the rest of the round -/
structure Settled (free : Prop) (q : List Char) (opts : Options) (s : DigestSt dMaxLen)
    (r : ParseSt × DigestSt dMaxLen) : Prop where
  pos : s.qCurPos ≤ r.2.qCurPos
  moves : r.1 = .noMarkFound →
    s.qCurPos < r.2.qCurPos ∨ Lingers q s ∧ r.2.resCurPos ≤ s.resCurPos
  leaves : r.1 = .noMarkFound → LoopInv free q opts { r.2 with
    st := .noMarkFound
    literalDigSt :=
      if s.st = .literalNumber then { r.2.literalDigSt with firstDigit := true }
      else r.2.literalDigSt }
  inside : r.1 ≠ .noMarkFound → r.2.qCurPos < q.length
  copies : r.1 ≠ .noMarkFound → r.2.copyNext = true → r.2.resCurPos < dMaxLen ∧
    ∀ (res : Block Char (dMaxLen + 1)) (prev : Char), LoopInv free q opts { r.2 with
      st := r.1
      res := res
      resCurPos := r.2.resCurPos + 1
      prevChar := prev
      keepPrevChar := false
      qCurPos := r.2.qCurPos + 1 }
  skips : r.1 ≠ .noMarkFound → r.2.copyNext = false →
    ∀ prev : Char, LoopInv free q opts { r.2 with
      st := r.1
      prevChar := prev
      keepPrevChar := false
      qCurPos := r.2.qCurPos + 1 }

/-- A round moves forward, or it hands the control back where it is. -/
structure RoundStep (free : Prop) (q : List Char) (opts : Options) (s t : DigestSt dMaxLen) :
    Prop where
  inv : LoopInv free q opts t
  moves : s.qCurPos < t.qCurPos ∨ t.qCurPos = s.qCurPos ∧ t.resCurPos ≤ s.resCurPos ∧
    (s.st = .noMarkFound ∧ t.st ≠ .noMarkFound ∨ Lingers q s ∧ t.st = .noMarkFound)

theorem markStep_of_settled
    (h : Meets (Allowed free) (s.process q opts) (Settled free q opts s)) :
    Meets (Allowed free) (s.markStep q opts) (RoundStep free q opts s) := by
  refine h.bind ?_
  rintro ⟨next, t⟩ ⟨hpos, hmoves, hleaves, hinside, hcopies, hskips⟩
  dsimp only at hpos hmoves hleaves hinside hcopies hskips ⊢
  refine Meets.ite (fun hnext => Meets.ok ?_) fun hnext => ?_
  · have hinv := hleaves hnext
    have hround : s.qCurPos < t.qCurPos ∨ t.qCurPos = s.qCurPos ∧ t.resCurPos ≤ s.resCurPos ∧
        (s.st = .noMarkFound ∧ next ≠ .noMarkFound ∨ Lingers q s ∧ next = .noMarkFound) := by
      rcases hmoves hnext with hlt | ⟨hlingers, hcur⟩
      · exact Or.inl hlt
      · rcases Nat.lt_or_eq_of_le hpos with hlt | heq
        · exact Or.inl hlt
        · exact Or.inr ⟨heq.symm, hcur, Or.inr ⟨hlingers, hnext⟩⟩
    subst hnext
    split
    case isTrue hst =>
      rw [if_pos hst] at hinv
      exact ⟨{ hinv with }, hround⟩
    case isFalse hst =>
      rw [if_neg hst] at hinv
      exact ⟨{ hinv with }, hround⟩
  · have hlt := hinside hnext
    refine Meets.ite (fun hcopy => ?_) fun hcopy => ?_
    · obtain ⟨hcur, hinv⟩ := hcopies hnext hcopy
      obtain ⟨res, prev, heq⟩ := copyNextChar_ok (s := { t with st := next }) opts
        (Nat.le_of_lt hlt) (Nat.le_of_lt hcur)
      rw [heq]
      exact Meets.ok ⟨hinv res prev, Or.inl (Nat.lt_succ_of_le hpos)⟩
    · obtain ⟨prev, heq⟩ := incProcPos_ok (s := { t with st := next }) (Nat.le_of_lt hlt)
      rw [heq]
      exact Meets.ok ⟨hskips hnext (eq_false_of_ne_true hcopy) prev,
        Or.inl (Nat.lt_succ_of_le hpos)⟩

/-- The states that another one does not touch stay idle. -/
theorem idle_of_others
    {t : DigestSt dMaxLen} {current : ParseSt}
    (hidle : ∀ st, s.st ≠ st → IdleAt s st)
    (hsame : ∀ st, st ≠ s.st → IdleAt s st → IdleAt t st)
    (hcurrent : current = s.st ∨ IdleAt t s.st) :
    ∀ st, current ≠ st → IdleAt t st := by
  intro st hne
  by_cases hst : st = s.st
  · rcases hcurrent with heq | hidle'
    · exact absurd (heq.trans hst.symm) hne
    · rw [hst]
      exact hidle'
  · exact hsame st hst (hidle st fun heq => hst heq.symm)

/-! ## One state after the other -/

section States

variable (h : LoopInv free q opts s)
variable (hpos : s.qCurPos < q.length)

include h hpos

theorem processCmntType1_settles
    (hcur : s.resCurPos < dMaxLen)
    (hst : s.st = .cmntType1)
    (hfull : free ∨ ¬ NestsFull q opts s) :
    Meets (Allowed free) (processCmntType1 q opts { s with copyNext := false })
      (Settled free q opts s) := by
  have hnumber : s.st ≠ .literalNumber := by
    rw [hst]
    nofun
  have hbegins : 0 < s.cmntType1St.nestLevel ∨
      s.qCurPos + 2 < q.length ∧ char q s.qCurPos = '/' ∧ char q (s.qCurPos + 1) = '*' := by
    rcases h.enters hpos (by rw [hst]; nofun) with hentered | ⟨hfinds, -, -⟩
    · rw [Entered, hst] at hentered
      exact Or.inl hentered
    · rw [hst] at hfinds
      exact Or.inr hfinds
  refine (processCmntType1_meets (s := { s with copyNext := false }) h.cmnt h.allocated hst hfull
    hcur hpos hbegins).imp ?_
  rintro ⟨next, t⟩ ⟨⟨⟨res, cur, prev, c, f, block, pos, rfl⟩, hinv, ⟨-, hcur'⟩, ⟨hle, hge⟩,
    hends, hgoes⟩, hmoves⟩
  dsimp only at hinv hcur' hle hge hends hgoes hmoves
  have hothers : ∀ st, st ≠ s.st → IdleAt s st → IdleAt { s with
      cmntType1St := c, fstCmnt := f } st := by
    intro st hne hidle
    cases st
    case cmntType1 =>
      exact absurd hst.symm hne
    all_goals exact hidle
  refine ⟨hle, fun hnext => ?_, fun hnext => ?_, fun hnext => (hgoes hnext).2.2.2.1,
    nofun, fun hnext _ prev' => ?_⟩
  · refine (hmoves hnext).imp_right fun hlast => ⟨?_, Nat.le_of_eq hlast.2.1⟩
    rw [Lingers, hst]
    exact hlast.1
  · have hzero := (hends hnext).1
    rw [if_neg hnumber]
    exact { h with
      pos := hge
      cur := hcur'
      number := fun _ => h.number hnumber
      digits := Or.inl (h.digits_of_ne hnumber)
      cmnt := hinv
      allocated := fun _ => hzero
      idle := fun _ => idle_of_others (h.idle hpos) hothers (Or.inr (by rw [hst]; exact hzero))
      cast := fun _ => h.cast hpos
      enters := fun _ hno => absurd rfl hno }
  · obtain ⟨hnext', hnest, hsome, hlt, hsame⟩ := hgoes hnext
    exact { h with
      pos := hlt
      cur := hcur'
      number := fun _ => h.number hnumber
      digits := Or.inl (h.digits_of_ne hnumber)
      cmnt := hinv
      allocated := fun hnone => absurd hnone hsome
      idle := fun _ => idle_of_others (h.idle hpos) hothers (Or.inl (hnext'.trans hst.symm))
      cast := fun _ => h.cast hpos
      enters := fun _ _ => Or.inl (by rw [Entered, hnext']; exact hnest) }

theorem processCmntType2_settles (hst : s.st = .cmntType2) :
    Meets (Allowed free) (processCmntType2 q { s with copyNext := false })
      (Settled free q opts s) := by
  have hnumber : s.st ≠ .literalNumber := by
    rw [hst]
    nofun
  refine (processCmntType2_meets (s := { s with copyNext := false }) hpos).imp ?_
  rintro ⟨next, t⟩ ⟨prev, pos, rfl, hle, hge, hends, hgoes⟩
  dsimp only at hle hge hends hgoes
  refine ⟨hle, fun hnext => Or.inl (hends hnext), fun hnext => ?_, fun hnext => (hgoes hnext).2,
    nofun, fun hnext _ prev' => ?_⟩
  · rw [if_neg hnumber]
    exact { h with
      pos := hge
      number := fun _ => h.number hnumber
      idle := fun _ => idle_of_others (h.idle hpos) (fun _ _ hidle => hidle)
        (Or.inr (by rw [hst]; trivial))
      cast := fun _ => h.cast hpos
      enters := fun _ hno => absurd rfl hno }
  · obtain ⟨hnext', hlt⟩ := hgoes hnext
    exact { h with
      pos := hlt
      number := fun _ => h.number hnumber
      idle := fun _ => idle_of_others (h.idle hpos) (fun _ _ hidle => hidle)
        (Or.inl (hnext'.trans hst.symm))
      cast := fun _ => h.cast hpos
      enters := fun _ _ => Or.inl (by rw [Entered, hnext']; trivial) }

theorem processLiteralString_settles
    (hcur : s.resCurPos < dMaxLen)
    (hst : s.st = .literalString) :
    Meets (Allowed free) (processLiteralString q { s with copyNext := false })
      (Settled free q opts s) := by
  have hnumber : s.st ≠ .literalNumber := by
    rw [hst]
    nofun
  refine (processLiteralString_meets (s := { s with copyNext := false }) hpos (Nat.le_of_lt hcur)
    (h.pre (Nat.zero_lt_of_lt hcur)) rfl).imp ?_
  rintro ⟨next, t⟩ ⟨⟨res, cur, prev, keep, copy, str, pos, rfl⟩, hcur', ⟨hle, hge⟩, hends, hgoes⟩
  dsimp only at hcur' hle hge hends hgoes
  have hothers : ∀ st, st ≠ s.st → IdleAt s st → IdleAt { s with literalStrSt := str } st := by
    intro st hne hidle
    cases st
    case literalString =>
      exact absurd hst.symm hne
    all_goals exact hidle
  refine ⟨hle, fun hnext => Or.inl (hends hnext).2, fun hnext => ?_,
    fun hnext => Nat.lt_of_le_of_lt (Nat.le_of_eq (hgoes hnext).2.2.1) hpos,
    fun hnext hcopy => ?_, fun hnext _ prev' => ?_⟩
  · have hdone := (hends hnext).1
    rw [if_neg hnumber]
    exact { h with
      pos := hge
      cur := hcur'
      number := fun _ => h.number hnumber
      digits := Or.inl (h.digits_of_ne hnumber)
      idle := fun _ => idle_of_others (h.idle hpos) hothers (Or.inr (by rw [hst]; exact hdone))
      cast := fun _ => h.cast hpos
      enters := fun _ hno => absurd rfl hno }
  · exact absurd (hcopy.symm.trans (hgoes hnext).2.2.2) nofun
  · obtain ⟨hnext', hdelim, hsame, -⟩ := hgoes hnext
    exact { h with
      pos := Nat.lt_of_le_of_lt (Nat.le_of_eq hsame) hpos
      cur := hcur'
      number := fun _ => h.number hnumber
      digits := Or.inl (h.digits_of_ne hnumber)
      idle := fun _ => idle_of_others (h.idle hpos) hothers (Or.inl (hnext'.trans hst.symm))
      cast := fun _ => h.cast hpos
      enters := fun _ _ => Or.inl (by rw [Entered, hnext']; exact hdelim) }

theorem processLiteralDigit_settles
    (hcur : s.resCurPos < dMaxLen)
    (hst : s.st = .literalNumber) :
    Meets (Allowed free) (processLiteralDigit q { s with copyNext := true })
      (Settled free q opts s) := by
  have hbegins : NumberInv q s := by
    rcases h.digits with ⟨hfirst, hnone⟩ | hstarted
    · rcases h.enters hpos (by rw [hst]; nofun) with hentered | ⟨hfinds, -, hpre⟩
      · rw [Entered, hst] at hentered
        exact absurd (hfirst.symm.trans hentered) nofun
      · rw [hst] at hfinds
        exact Or.inl ⟨hfirst, hfinds.1, hfinds.2, hpre⟩
    · exact Or.inr hstarted
  refine (processLiteralDigit_meets (s := { s with copyNext := true }) hpos (Nat.le_of_lt hcur)
    hbegins rfl).imp ?_
  rintro ⟨next, t⟩ ⟨⟨res, cur, prev, copy, d, rfl⟩, hle, hends, hgoes⟩
  dsimp only at hle hends hgoes
  refine ⟨Nat.le_refl _, fun hnext => Or.inr ?_, fun hnext => ?_, fun _ => hpos,
    fun hnext hcopy => ?_, fun hnext hcopy prev' => ?_⟩
  · obtain ⟨hfirst, -, hcur'⟩ := hends hnext
    refine ⟨?_, hcur'⟩
    rw [Lingers, hst]
    exact hfirst
  · obtain ⟨-, hdone, hcur'⟩ := hends hnext
    rw [if_pos hst]
    dsimp only
    rw [hdone]
    exact { h with
      cur := Nat.le_trans hcur' (Nat.le_of_lt hcur)
      number := fun _ => rfl
      digits := Or.inl ⟨rfl, rfl⟩
      idle := fun _ => idle_of_others (h.idle hpos) (fun _ _ hidle => hidle)
        (Or.inr (by rw [hst]; trivial))
      cast := fun _ => h.cast hpos
      enters := fun _ hno => absurd rfl hno }
  · obtain ⟨hnext', hfirst, start, hstart, hplace⟩ := hgoes hnext
    rcases hplace with ⟨-, hsame, hle'⟩ | ⟨hno, -⟩
    · refine ⟨Nat.lt_of_le_of_lt (Nat.le_of_eq hsame) hcur, fun res' prev' => ?_⟩
      exact { h with
        pos := hpos
        cur := Nat.lt_of_le_of_lt (Nat.le_of_eq hsame) hcur
        number := fun hno => absurd hnext' hno
        digits := Or.inr ⟨hfirst, start, hstart, Nat.lt_succ_of_le hle'⟩
        idle := fun _ => idle_of_others (h.idle hpos) (fun _ _ hidle => hidle)
          (Or.inl (hnext'.trans hst.symm))
        cast := fun _ => h.cast hpos
        enters := fun _ _ => Or.inl (by rw [Entered, hnext']; exact hfirst) }
    · exact absurd (hcopy.symm.trans hno) nofun
  · obtain ⟨hnext', hfirst, start, hstart, hplace⟩ := hgoes hnext
    rcases hplace with ⟨hyes, -, -⟩ | ⟨-, hcur'⟩
    · exact absurd (hcopy.symm.trans hyes) nofun
    · exact { h with
        pos := hpos
        cur := Nat.le_trans hle hcur
        number := fun hno => absurd hnext' hno
        digits := Or.inr ⟨hfirst, start, hstart, by rw [hcur']; exact Nat.lt_succ_self _⟩
        idle := fun _ => idle_of_others (h.idle hpos) (fun _ _ hidle => hidle)
          (Or.inl (hnext'.trans hst.symm))
        cast := fun _ => h.cast hpos
        enters := fun _ _ => Or.inl (by rw [Entered, hnext']; exact hfirst) }

theorem settled_of_word
    (hst : s.st = .replaceNull ∨ s.st = .replaceBoolean)
    {r : ParseSt × DigestSt dMaxLen}
    (hr : WordStep q s r) :
    Settled free q opts s r := by
  have hnumber : s.st ≠ .literalNumber := by
    rcases hst with hst | hst
    · rw [hst]
      nofun
    · rw [hst]
      nofun
  have hidle : IdleAt s s.st := by
    rcases hst with hst | hst
    · rw [hst]
      trivial
    · rw [hst]
      trivial
  obtain ⟨next, t⟩ := r
  obtain ⟨⟨res, cur, prev, keep, pos, rfl⟩, hnext, hcur', hlt, hge⟩ := hr
  dsimp only at hnext hcur' hlt hge
  refine ⟨Nat.le_of_lt hlt, fun _ => Or.inl hlt, fun _ => ?_, fun hno => absurd hnext hno,
    fun hno => absurd hnext hno, fun hno => absurd hnext hno⟩
  rw [if_neg hnumber]
  exact { h with
    pos := hge
    cur := hcur'
    number := fun _ => h.number hnumber
    digits := Or.inl (h.digits_of_ne hnumber)
    idle := fun _ => idle_of_others (h.idle hpos) (fun _ _ hidle => hidle) (Or.inr hidle)
    cast := fun _ => h.cast hpos
    enters := fun _ hno => absurd rfl hno }

theorem processDollarQuoteString_settles
    (hcur : s.resCurPos < dMaxLen)
    (hst : s.st = .dollarQuoteString) :
    Meets (Allowed free) (processDollarQuoteString q { s with copyNext := false })
      (Settled free q opts s) := by
  have hnumber : s.st ≠ .literalNumber := by
    rw [hst]
    nofun
  have hbegins : s.dollarQuoteStrSt.tagStart = none → ∃ p, DollarTag q s.qCurPos p := by
    intro hnone
    rcases h.enters hpos (by rw [hst]; nofun) with hentered | ⟨hfinds, -, -⟩
    · rw [Entered, hst] at hentered
      exact absurd hnone hentered
    · rw [hst] at hfinds
      exact hfinds
  refine (processDollarQuoteString_meets (s := { s with copyNext := false }) hpos
    (Nat.le_of_lt hcur) (h.pre (Nat.zero_lt_of_lt hcur)) h.tag hbegins).imp ?_
  rintro ⟨next, t⟩ ⟨⟨res, cur, d, pos, rfl⟩, htag, hcur', ⟨hle, hge⟩, hends, hgoes⟩
  dsimp only at htag hcur' hle hge hends hgoes
  refine ⟨hle, fun hnext => (hends hnext).imp_right fun hlong => ⟨?_, Nat.le_of_eq hlong.2⟩,
    fun hnext => ?_, fun hnext => (hgoes hnext).2.2, nofun, fun hnext _ prev' => ?_⟩
  · rw [Lingers, hst]
    exact hlong.1
  · rw [if_neg hnumber]
    exact { h with
      pos := hge
      cur := hcur'
      number := fun _ => h.number hnumber
      digits := Or.inl (h.digits_of_ne hnumber)
      tag := htag
      idle := fun _ => idle_of_others (h.idle hpos) (fun _ _ hidle => hidle)
        (Or.inr (by rw [hst]; trivial))
      cast := fun _ => h.cast hpos
      enters := fun _ hno => absurd rfl hno }
  · obtain ⟨hnext', hopen, hlt⟩ := hgoes hnext
    exact { h with
      pos := hlt
      cur := hcur'
      number := fun _ => h.number hnumber
      digits := Or.inl (h.digits_of_ne hnumber)
      tag := htag
      idle := fun _ => idle_of_others (h.idle hpos) (fun _ _ hidle => hidle)
        (Or.inl (hnext'.trans hst.symm))
      cast := fun _ => h.cast hpos
      enters := fun _ _ => Or.inl (by rw [Entered, hnext']; exact hopen) }

theorem processPgTypecast_settles (hst : s.st = .pgTypecast) :
    Meets (Allowed free) (processPgTypecast q { s with copyNext := false })
      (Settled free q opts s) := by
  have hnumber : s.st ≠ .literalNumber := by
    rw [hst]
    nofun
  have hbegins : s.qCurPos + 1 < q.length := by
    rcases h.enters hpos (by rw [hst]; nofun) with hentered | ⟨hfinds, -, -⟩
    · rw [Entered, hst] at hentered
      exact hentered.elim
    · rw [hst] at hfinds
      exact hfinds
  refine (processPgTypecast_meets (s := { s with copyNext := false }) hbegins
    (h.cast hpos)).imp ?_
  rintro ⟨next, t⟩ ⟨hnext, pos, started, rfl, hlt, hge, hstarted⟩
  dsimp only at hnext hlt
  refine ⟨Nat.le_of_lt hlt, fun _ => Or.inl hlt, fun _ => ?_, fun hno => absurd hnext hno,
    fun hno => absurd hnext hno, fun hno => absurd hnext hno⟩
  rw [if_neg hnumber]
  exact { h with
    pos := hge
    number := fun _ => h.number hnumber
    idle := fun _ => idle_of_others (h.idle hpos) (fun _ _ hidle => hidle)
      (Or.inr (by rw [hst]; trivial))
    cast := hstarted
    enters := fun _ hno => absurd rfl hno }

theorem processLiteralPrefixType_settles (hst : s.st = .literalPrefixType) :
    Meets (Allowed free) (processLiteralPrefixType q { s with copyNext := false })
      (Settled free q opts s) := by
  have hnumber : s.st ≠ .literalNumber := by
    rw [hst]
    nofun
  obtain ⟨n, hn, hne⟩ : ∃ n, literalPrefixLen q s.qCurPos = .ok n ∧ n ≠ 0 := by
    rcases h.enters hpos (by rw [hst]; nofun) with hentered | ⟨hfinds, -, -⟩
    · rw [Entered, hst] at hentered
      exact hentered.elim
    · rw [hst] at hfinds
      exact hfinds
  have hdelim : s.literalStrSt.delimNum = false :=
    h.idle hpos .literalString (by rw [hst]; nofun)
  refine (processLiteralPrefixType_meets (s := { s with copyNext := false }) hn hne hdelim).imp ?_
  rintro ⟨next, t⟩ ⟨hnext, str, pos, rfl, hdelim', hlt, hge⟩
  dsimp only at hnext hlt hge
  have hothers : ∀ st, next ≠ st → IdleAt { s with literalStrSt := str } st := by
    intro st hne'
    by_cases hpre : st = .literalPrefixType
    · rw [hpre]
      trivial
    have hidle := h.idle hpos st fun heq => hpre (heq.symm.trans hst)
    cases st
    case literalString =>
      exact absurd hnext hne'
    all_goals exact hidle
  refine ⟨Nat.le_of_lt hlt, fun hno => ?_, fun hno => ?_, fun _ => hge, nofun, fun _ _ prev' => ?_⟩
  · exact absurd (hnext.symm.trans hno) nofun
  · exact absurd (hnext.symm.trans hno) nofun
  · exact { h with
      pos := hge
      number := fun _ => h.number hnumber
      idle := fun _ => hothers
      cast := fun _ => h.cast hpos
      enters := fun _ _ => Or.inl (by rw [Entered, hnext]; exact hdelim') }

theorem processArrayLiteral_settles
    (hcur : s.resCurPos < dMaxLen)
    (hst : s.st = .arrayLiteral) :
    Meets (Allowed free) (processArrayLiteral q { s with copyNext := false })
      (Settled free q opts s) := by
  have hnumber : s.st ≠ .literalNumber := by
    rw [hst]
    nofun
  have hbegins : s.bracketDepth = 0 → ∃ p, ArrayBracket q s.qCurPos p := by
    intro hzero
    rcases h.enters hpos (by rw [hst]; nofun) with hentered | ⟨hfinds, -, -⟩
    · rw [Entered, hst] at hentered
      exact absurd hentered (Nat.not_lt_of_ge (Nat.le_of_eq hzero))
    · rw [hst] at hfinds
      exact hfinds
  refine (processArrayLiteral_meets (s := { s with copyNext := false }) hpos
    (Nat.le_of_lt hcur) (h.pre (Nat.zero_lt_of_lt hcur)) hbegins).imp ?_
  rintro ⟨next, t⟩ ⟨⟨⟨res, cur, prev, depth, pos, rfl⟩, hcur', ⟨hle, hge⟩, hends, hgoes⟩, hmoves⟩
  dsimp only at hcur' hle hge hends hgoes hmoves
  have hothers : ∀ st, st ≠ s.st → IdleAt s st → IdleAt { s with bracketDepth := depth } st := by
    intro st hne hidle
    cases st
    case arrayLiteral =>
      exact absurd hst.symm hne
    all_goals exact hidle
  refine ⟨hle, fun hnext => Or.inl (hmoves hnext), fun hnext => ?_, fun hnext => (hgoes hnext).2.2,
    nofun, fun hnext _ prev' => ?_⟩
  · have hzero := (hends hnext).1
    rw [if_neg hnumber]
    exact { h with
      pos := hge
      cur := hcur'
      number := fun _ => h.number hnumber
      digits := Or.inl (h.digits_of_ne hnumber)
      idle := fun hlt => idle_of_others (h.idle hpos) hothers
        (Or.inr (by rw [hst]; exact hzero hlt))
      cast := fun _ => h.cast hpos
      enters := fun _ hno => absurd rfl hno }
  · obtain ⟨hnext', hdepth, hlt⟩ := hgoes hnext
    exact { h with
      pos := hlt
      cur := hcur'
      number := fun _ => h.number hnumber
      digits := Or.inl (h.digits_of_ne hnumber)
      idle := fun _ => idle_of_others (h.idle hpos) hothers (Or.inl (hnext'.trans hst.symm))
      cast := fun _ => h.cast hpos
      enters := fun _ _ => Or.inl (by rw [Entered, hnext']; exact hdepth) }

theorem processQuotedIdentifier_settles
    (hcur : s.resCurPos < dMaxLen)
    (hst : s.st = .quotedIdentifier) :
    Meets (Allowed free) (processQuotedIdentifier q { s with copyNext := true })
      (Settled free q opts s) := by
  have hnumber : s.st ≠ .literalNumber := by
    rw [hst]
    nofun
  refine (processQuotedIdentifier_meets (s := { s with copyNext := true }) hpos).imp ?_
  rintro ⟨next, t⟩ ⟨i, rfl, hends, hgoes⟩
  dsimp only at hends hgoes
  have hothers : ∀ st, st ≠ s.st → IdleAt s st → IdleAt { s with quotedIdenSt := i } st := by
    intro st hne hidle
    cases st
    case quotedIdentifier =>
      exact absurd hst.symm hne
    all_goals exact hidle
  refine ⟨Nat.le_refl _, fun hnext => Or.inr ⟨?_, Nat.le_refl _⟩, fun hnext => ?_, fun _ => hpos,
    fun hnext _ => ⟨hcur, fun res' prev' => ?_⟩, nofun⟩
  · rw [Lingers, hst]
    exact (hends hnext).2.1
  · have hdone := (hends hnext).1
    rw [if_neg hnumber]
    exact { h with
      number := fun _ => h.number hnumber
      idle := fun _ => idle_of_others (h.idle hpos) hothers (Or.inr (by rw [hst]; exact hdone))
      enters := fun _ hno => absurd rfl hno }
  · obtain ⟨hnext', hdelim⟩ := hgoes hnext
    exact { h with
      pos := hpos
      cur := hcur
      number := fun _ => h.number hnumber
      digits := Or.inl (h.digits_of_ne hnumber)
      idle := fun _ => idle_of_others (h.idle hpos) hothers (Or.inl (hnext'.trans hst.symm))
      cast := fun _ => h.cast hpos
      enters := fun _ _ => Or.inl (by rw [Entered, hnext']; exact hdelim) }

theorem process_settles
    (hcur : s.resCurPos < dMaxLen)
    (hfull : free ∨ ¬ NestsFull q opts s)
    (hmark : s.st ≠ .noMarkFound) :
    Meets (Allowed free) (s.process q opts) (Settled free q opts s) := by
  have hpre := h.pre (Nat.zero_lt_of_lt hcur)
  unfold process
  split
  case h_1 hst =>
    exact absurd hst hmark
  case h_2 hst =>
    exact processCmntType1_settles h hpos hcur hst hfull
  case h_3 hst =>
    exact processCmntType2_settles h hpos hst
  case h_4 hst =>
    exact processLiteralString_settles h hpos hcur hst
  case h_5 hst =>
    exact processLiteralDigit_settles h hpos hcur hst
  case h_6 hst =>
    exact (processReplaceNull_meets hpos hcur hpre).imp fun r => settled_of_word h hpos (Or.inl hst)
  case h_7 hst =>
    exact processDollarQuoteString_settles h hpos hcur hst
  case h_8 hst =>
    exact processPgTypecast_settles h hpos hst
  case h_9 hst =>
    exact processLiteralPrefixType_settles h hpos hst
  case h_10 hst =>
    exact (processReplaceBoolean_meets hpos hcur hpre).imp
      fun r => settled_of_word h hpos (Or.inr hst)
  case h_11 hst =>
    exact processArrayLiteral_settles h hpos hcur hst
  case h_12 hst =>
    exact processQuotedIdentifier_settles h hpos hcur hst

/-- In the neutral state a state is selected, or a character is consumed. -/
theorem neutralStep_meets
    (hcur : s.resCurPos < dMaxLen)
    (hst : s.st = .noMarkFound) :
    Meets (Allowed free) (s.neutralStep q opts) (RoundStep free q opts s) := by
  have hnumber : s.st ≠ .literalNumber := by
    rw [hst]
    nofun
  -- the invariant behind a consumed character
  have hconsumed : ∀ (res : Block Char (dMaxLen + 1)) (cur : Nat) (prev : Char) (keep : Bool),
      cur ≤ dMaxLen → RoundStep free q opts s { s with
        res := res
        resCurPos := cur
        resPrePos := s.resCurPos
        prevChar := prev
        keepPrevChar := keep
        qCurPos := s.qCurPos + 1 } := by
    intro res cur prev keep hle
    refine ⟨?_, Or.inl (Nat.lt_succ_self _)⟩
    exact { h with
      pos := hpos
      cur := hle
      pre := fun _ => hcur
      digits := Or.inl (h.digits_of_ne hnumber)
      idle := fun _ => h.idle hpos
      cast := fun _ => h.cast hpos
      enters := fun _ hno => absurd hst hno }
  refine (getNextSt_meets (q := q) hpos s.prevChar).bind fun st hfinds => ?_
  refine Meets.ite (fun hne => Meets.ok ⟨?_, Or.inr ⟨rfl, Nat.le_refl _, Or.inl ⟨hst, hne⟩⟩⟩)
    fun _ => ?_
  · exact { h with
      pre := fun _ => hcur
      number := fun _ => h.number hnumber
      idle := by
        intro _ st' _
        by_cases hno : st' = .noMarkFound
        · rw [hno]
          trivial
        · have hidle := h.idle hpos st' fun heq => hno (heq.symm.trans hst)
          cases st'
          all_goals exact hidle
      enters := fun _ _ => Or.inr ⟨hfinds, hcur, rfl⟩ }
  · dsimp only
    rw [readQuery_ok (Nat.le_of_lt hpos)]
    refine Meets.ok_bind (Meets.ite (fun _ => Meets.ok ?_) fun hnot => ?_)
    · exact hconsumed _ _ _ _ (Nat.le_of_lt hcur)
    refine Meets.ite (fun hspaces => ?_) fun _ => ?_
    · have hne : s.resCurPos ≠ 0 := fun hzero => hnot ⟨hzero, hspaces.2⟩
      obtain ⟨last, hlast⟩ := readRes_ok { s with resPrePos := s.resCurPos }
        ((s.resCurPos : Int) - 1) (by omega) (by omega)
      rw [hlast]
      refine Meets.ok_bind ?_
      split
      · obtain ⟨res, hres⟩ := writeRes_ok { s with
          resCurPos := s.resCurPos + 1, resPrePos := s.resCurPos, prevChar := ' ' } hcur ' '
        rw [hres]
        exact Meets.ok (hconsumed _ _ _ _ hcur)
      · obtain ⟨res, hres⟩ := writeRes_ok { s with
          resPrePos := s.resCurPos, prevChar := ' ' } (Nat.le_of_lt hcur) ' '
        rw [hres]
        exact Meets.ok (hconsumed _ _ _ _ (Nat.le_of_lt hcur))
    · obtain ⟨res, prev, hcopy⟩ := copyNextChar_ok (s := { s with resPrePos := s.resCurPos }) opts
        (Nat.le_of_lt hpos) (Nat.le_of_lt hcur)
      rw [hcopy]
      exact Meets.ok (hconsumed _ _ _ _ hcur)

end States

/-- A round of the loop keeps the invariant. -/
theorem stage1Step_meets
    (h : LoopInv free q opts s)
    (hfull : free ∨ ¬ NestsFull q opts s) :
    Meets (Allowed free) (s.stage1Step q opts) (fun r =>
      if r.2 then RoundStep free q opts s r.1 ∧ s.qCurPos < q.length
      else r.1 = s ∧ (s.qCurPos < q.length → dMaxLen ≤ s.resCurPos)) := by
  refine Meets.ite (fun hmore => ?_) fun hdone => Meets.ok ⟨rfl, fun hpos => ?_⟩
  · obtain ⟨hcur, hpos⟩ := hmore
    refine Meets.bind (R := RoundStep free q opts s) ?_ fun t ht => Meets.ok ⟨ht, hpos⟩
    refine Meets.ite (fun hst => neutralStep_meets h hpos hcur hst) fun hmark => ?_
    exact markStep_of_settled (process_settles h hpos hcur hfull hmark)
  · exact Nat.le_of_not_lt fun hcur => hdone ⟨hcur, hpos⟩

end DigestSt

end Tokenizer

end PolarProxy
