import PolarProxy.DigestSelection

/-!
# Strings, numbers and other values of the query digest

The function of every state reads the query up to its terminator, and writes the result where a
mark takes the place of what was copied.  It moves forward in the query; where it hands the control
back to the neutral state without moving, its value had begun before.

**Results.** `DigestSt.processLiteralString_meets`, `DigestSt.processDollarQuoteString_meets`,
`DigestSt.processQuotedIdentifier_meets`, `DigestSt.processLiteralDigit_meets`,
`DigestSt.processPgTypecast_meets`, `DigestSt.processArrayLiteral_meets`.
-/

namespace PolarProxy

namespace Tokenizer

open Loops Memory

variable {q : List Char} {opts : Options} {dMaxLen : Nat} {fails : Stop Fault → Prop}

/-! ## Scanners -/

theorem uescapeEnd_meets
    (rem pos : Nat)
    (h : pos + rem ≤ q.length) :
    Meets fails (uescapeEnd q rem pos) (fun p => pos ≤ p ∧ p ≤ pos + rem) := by
  induction rem using Nat.strongRecOn generalizing pos with
  | ind rem ih =>
      match rem with
      | 0 =>
          exact Meets.ok ⟨Nat.le_refl _, Nat.le_refl _⟩
      | 1 =>
          rw [uescapeEnd, readQuery_ok (by omega)]
          exact Meets.ok ⟨Nat.le_succ _, Nat.le_refl _⟩
      | rem + 2 =>
          rw [uescapeEnd, readQuery_ok (by omega)]
          refine Meets.ok_bind (Meets.ite (fun _ => ?_) fun _ => ?_)
          · exact (ih rem (by omega) (pos + 2) (by omega)).imp fun p hp => by omega
          · refine Meets.ite (fun _ => Meets.ok (by omega)) fun _ => ?_
            exact (ih (rem + 1) (by omega) (pos + 1) (by omega)).imp fun p hp => by omega

theorem quoteEnd_meets
    (quote : Char) (rem pos : Nat)
    (h : pos + rem ≤ q.length) :
    Meets fails (quoteEnd q quote rem pos) (fun p => pos ≤ p ∧ p ≤ pos + rem) := by
  induction rem using Nat.strongRecOn generalizing pos with
  | ind rem ih =>
      match rem with
      | 0 =>
          exact Meets.ok ⟨Nat.le_refl _, Nat.le_refl _⟩
      | 1 =>
          rw [quoteEnd, isAt_ok (by omega)]
          exact Meets.ok_bind (Meets.ite (fun _ => Meets.ok (by omega)) fun _ => Meets.ok (by omega))
      | rem + 2 =>
          rw [quoteEnd, readQuery_ok (by omega)]
          refine Meets.ok_bind (Meets.ite (fun _ => Meets.ok (by omega)) fun _ => ?_)
          refine (both_any (Meets.ok trivial) (isAt_meets (by omega) quote).any).bind fun x _ => ?_
          refine Meets.ite (fun _ => ?_) fun _ => ?_
          · exact (ih rem (by omega) (pos + 2) (by omega)).imp fun p hp => by omega
          · exact (ih (rem + 1) (by omega) (pos + 1) (by omega)).imp fun p hp => by omega

theorem skipQuoted_meets
    (quote : Char) {pos : Nat}
    (h : pos < q.length) :
    Meets fails (skipQuoted q quote pos) (fun p => pos < p ∧ p ≤ q.length) := by
  refine (quoteEnd_meets quote (q.length - (pos + 1)) (pos + 1) (by omega)).bind fun p hp => ?_
  refine (both_left (test_meets (p := p < q.length)) fun hlt =>
    (isAt_meets (Nat.le_of_lt hlt) quote).any).bind fun x hx => Meets.ok ?_
  split
  case isTrue htrue =>
    have hlt := hx htrue
    omega
  case isFalse =>
    omega

theorem arrayQuoteEnd_meets
    (quote : Char) (rem pos : Nat)
    (h : pos + rem ≤ q.length) :
    Meets fails (arrayQuoteEnd q quote rem pos) (fun p => pos ≤ p ∧ p ≤ pos + rem) := by
  induction rem using Nat.strongRecOn generalizing pos with
  | ind rem ih =>
      match rem with
      | 0 =>
          exact Meets.ok ⟨Nat.le_refl _, Nat.le_refl _⟩
      | 1 =>
          rw [arrayQuoteEnd, readQuery_ok (by omega)]
          exact Meets.ok ⟨Nat.le_succ _, Nat.le_refl _⟩
      | rem + 2 =>
          have hskip : Meets fails (arrayQuoteEnd q quote rem (pos + 2))
              (fun p => pos ≤ p ∧ p ≤ pos + (rem + 2)) :=
            (ih rem (by omega) (pos + 2) (by omega)).imp fun p hp => by omega
          rw [arrayQuoteEnd, readQuery_ok (by omega)]
          refine Meets.ok_bind (Meets.ite (fun _ => hskip) fun _ => ?_)
          refine (both_any (Meets.ok trivial) (isAt_meets (by omega) '\'').any).bind fun x _ => ?_
          refine Meets.ite (fun _ => hskip) fun _ => ?_
          refine Meets.ite (fun _ => Meets.ok (by omega)) fun _ => ?_
          exact (ih (rem + 1) (by omega) (pos + 1) (by omega)).imp fun p hp => by omega

theorem arrayDollarEnd_meets
    {start tagLen : Nat}
    (rem pos : Nat)
    (hstart : start + tagLen ≤ q.length)
    (h : pos + rem ≤ q.length) :
    Meets fails (arrayDollarEnd q start tagLen rem pos) (fun p => pos ≤ p ∧ p ≤ q.length) := by
  induction rem generalizing pos with
  | zero =>
      exact Meets.ok ⟨Nat.le_refl _, h⟩
  | succ rem ih =>
      have hcloses : Meets fails (both (isAt q pos '$')
          (both (.ok (decide (pos + tagLen + 1 < q.length)))
            (both (sameBytes q (pos + 1) start tagLen) (isAt q (pos + tagLen + 1) '$'))))
          (fun x => x = true → pos + tagLen + 1 < q.length) := by
        refine (both_meets (isAt_meets (by omega) '$') fun _ => ?_).imp fun x hx htrue => (hx htrue).2
        refine both_left test_meets fun hlt => ?_
        exact both_any (sameBytes_meets (by omega) hstart) (isAt_meets (by omega) '$').any
      refine hcloses.bind fun x hx => Meets.ite (fun htrue => Meets.ok ?_) fun _ => ?_
      · have hlt := hx htrue
        omega
      · exact (ih (pos + 1) (by omega)).imp fun p hp => by omega

/-- Behind quoted text in an array, or at the same position -/
theorem arraySkipQuotes_meets {pos : Nat} (hpos : pos < q.length) :
    Meets fails (arraySkipQuotes q pos) (fun p => pos ≤ p ∧ p ≤ q.length) := by
  rw [arraySkipQuotes, readQuery_ok (Nat.le_of_lt hpos)]
  refine Meets.ok_bind (Meets.ite (fun _ => ?_) fun _ => Meets.ite (fun _ => ?_) fun _ => ?_)
  · refine (arrayQuoteEnd_meets _ (q.length - (pos + 1)) (pos + 1) (by omega)).imp fun p hp => ?_
    omega
  · obtain ⟨p, hp, hle, hge⟩ :=
      skipWhile_ok (q := q) isTagChar (q.length - (pos + 1)) (pos + 1) (by omega)
    rw [hp]
    refine Meets.ok_bind ((both_left (test_meets (p := p < q.length)) fun hlt =>
      (isAt_meets (Nat.le_of_lt hlt) '$').any).bind fun x hx => ?_)
    refine Meets.ite (fun htrue => ?_) fun _ => Meets.ok ⟨Nat.le_refl _, Nat.le_of_lt hpos⟩
    have hlt := hx htrue
    refine (arrayDollarEnd_meets (q.length - (p + 1)) (p + 1) (by omega) (by omega)).imp fun r hr => ?_
    omega
  · exact Meets.ok ⟨Nat.le_refl _, Nat.le_of_lt hpos⟩

namespace DigestSt

variable {s : DigestSt dMaxLen}

/-! ## Strings -/

theorem tryConsumeUescape_meets (hpos : s.qCurPos ≤ q.length) :
    Meets fails (s.tryConsumeUescape q) (fun t => ∃ p, t = { s with qCurPos := p } ∧
      s.qCurPos ≤ p ∧ p ≤ q.length) := by
  obtain ⟨p, hp, hle, hge⟩ :=
    skipWhile_ok (q := q) isSpaceChar (q.length - s.qCurPos) s.qCurPos (by omega)
  rw [tryConsumeUescape, hp]
  have hsame : Meets fails (.ok s) (fun t => ∃ p, t = { s with qCurPos := p } ∧
      s.qCurPos ≤ p ∧ p ≤ q.length) :=
    Meets.ok ⟨s.qCurPos, rfl, Nat.le_refl _, hpos⟩
  refine Meets.ok_bind ((both_left (test_meets (p := p + 7 ≤ q.length)) fun hlen =>
    isWordAt_meets hlen).bind fun x hx => Meets.ite (fun htrue => ?_) fun _ => hsame)
  have hlen := hx htrue
  obtain ⟨p', hp', hle', hge'⟩ :=
    skipWhile_ok (q := q) isSpaceChar (q.length - (p + 7)) (p + 7) (by omega)
  rw [hp']
  refine Meets.ok_bind ((both_left (test_meets (p := p' < q.length)) fun hlt =>
    (isLowerAt_meets (Nat.le_of_lt hlt) 'e').any).bind fun e he => ?_)
  -- behind the prefix of the escape character's string
  obtain ⟨p'', heq, hle'', hge''⟩ : ∃ p'', (if e = true then p' + 1 else p') = p'' ∧ p' ≤ p'' ∧
      p'' ≤ q.length := by
    split
    case isTrue htrue' =>
      exact ⟨_, rfl, Nat.le_succ _, he htrue'⟩
    case isFalse =>
      exact ⟨_, rfl, Nat.le_refl _, by omega⟩
  dsimp only
  rw [heq]
  refine (both_left (test_meets (p := p'' < q.length)) fun hlt =>
    (isAt_meets (Nat.le_of_lt hlt) '\'').any).bind fun y hy =>
      Meets.ite (fun htrue' => ?_) fun _ => hsame
  have hlt := hy htrue'
  refine (uescapeEnd_meets (q.length - (p'' + 1)) (p'' + 1) (by omega)).bind fun r hr => Meets.ok ?_
  exact ⟨r, rfl, by omega, by omega⟩

/-- How a string proceeds -/
structure StringStep (q : List Char) (s : DigestSt dMaxLen) (r : ParseSt × DigestSt dMaxLen) :
    Prop where
  frame : ∃ res cur prev keep copy str pos, r.2 = { s with
    res := res
    resCurPos := cur
    prevChar := prev
    keepPrevChar := keep
    copyNext := copy
    literalStrSt := str
    qCurPos := pos }
  cur : r.2.resCurPos ≤ dMaxLen
  pos : s.qCurPos ≤ r.2.qCurPos ∧ r.2.qCurPos ≤ q.length
  ends : r.1 = .noMarkFound → r.2.literalStrSt.delimNum = false ∧ s.qCurPos < r.2.qCurPos
  goesOn : r.1 ≠ .noMarkFound → r.1 = .literalString ∧ r.2.literalStrSt.delimNum = true ∧
    r.2.qCurPos = s.qCurPos ∧ r.2.copyNext = false

theorem processLiteralString_meets
    (hpos : s.qCurPos < q.length)
    (hcur : s.resCurPos ≤ dMaxLen)
    (hpre : s.resPrePos < dMaxLen)
    (hcopy : s.copyNext = false) :
    Meets fails (s.processLiteralString q) (StringStep q s) := by
  rw [processLiteralString, readQuery_ok (Nat.le_of_lt hpos)]
  refine Meets.ok_bind (Meets.ite (fun _ => Meets.ok ?_) fun hdelim => ?_)
  · exact ⟨⟨_, _, _, _, _, _, _, rfl⟩, hcur, ⟨Nat.le_refl _, Nat.le_of_lt hpos⟩, nofun,
      fun _ => ⟨rfl, rfl, rfl, hcopy⟩⟩
  have htrue : s.literalStrSt.delimNum = true := eq_true_of_ne_false hdelim
  refine Meets.ite (fun _ => Meets.ok ?_) fun _ => ?_
  · exact ⟨⟨_, _, _, _, _, _, _, rfl⟩, hcur, ⟨Nat.le_refl _, Nat.le_of_lt hpos⟩, nofun,
      fun _ => ⟨rfl, htrue, rfl, hcopy⟩⟩
  refine Meets.bind (R := fun _ => True) ?_ fun closes _ => ?_
  · refine both_any (Meets.ok trivial) (Meets.ite (fun _ => Meets.ok trivial) fun _ => ?_)
    rw [readQuery_ok hpos]
    exact Meets.ok trivial
  refine Meets.ite (fun _ => ?_) fun _ => Meets.ok ?_
  · obtain ⟨res, hmark⟩ := emitMark_ok (s := s) (Nat.le_of_lt hpre)
    rw [hmark]
    refine Meets.ok_bind (Meets.ite (fun _ => Meets.ok ?_) fun hlast => ?_)
    · exact ⟨⟨_, _, _, _, _, _, _, rfl⟩, hpre, ⟨Nat.le_refl _, Nat.le_of_lt hpos⟩, nofun,
        fun _ => ⟨rfl, htrue, rfl, rfl⟩⟩
    · refine Meets.ite (fun _ => ?_) fun _ => Meets.ok ?_
      · refine (tryConsumeUescape_meets (q := q) ?_).bind ?_
        · exact hpos
        · rintro _ ⟨p, rfl, hle, hge⟩
          have hlt : s.qCurPos < p := hle
          exact Meets.ok ⟨⟨_, _, _, _, _, _, _, rfl⟩, hpre, ⟨Nat.le_of_lt hlt, hge⟩,
            fun _ => ⟨rfl, hlt⟩, fun hno => absurd rfl hno⟩
      · exact ⟨⟨_, _, _, _, _, _, _, rfl⟩, hpre, ⟨Nat.le_succ _, hpos⟩,
          fun _ => ⟨rfl, Nat.lt_succ_self _⟩, fun hno => absurd rfl hno⟩
  · exact ⟨⟨_, _, _, _, _, _, _, rfl⟩, hcur, ⟨Nat.le_refl _, Nat.le_of_lt hpos⟩, nofun,
      fun _ => ⟨rfl, htrue, rfl, hcopy⟩⟩

theorem processLiteralPrefixType_meets
    {n : Nat}
    (hn : literalPrefixLen q s.qCurPos = .ok n)
    (hne : n ≠ 0)
    (hdelim : s.literalStrSt.delimNum = false) :
    Meets fails (s.processLiteralPrefixType q) (fun r => r.1 = .literalString ∧ ∃ str pos,
      r.2 = { s with literalStrSt := str, qCurPos := pos } ∧ str.delimNum = true ∧
        s.qCurPos < pos ∧ pos < q.length) := by
  obtain ⟨m, hm, hzero⟩ := literalPrefixLen_ok (q := q) s.qCurPos
  obtain rfl : n = m := Except.ok.inj (hn.symm.trans hm)
  rw [processLiteralPrefixType, hn]
  refine Meets.ok_bind ?_
  obtain ⟨hn', hpos⟩ := hzero.resolve_left hne
  -- the string begins at its delimiter
  have hstring : ∀ str : LiteralStringSt, str.delimNum = false →
      Meets fails (processLiteralString q { s with literalStrSt := str, qCurPos := s.qCurPos + n })
        (fun r => r.1 = .literalString ∧ ∃ str pos,
          r.2 = { s with literalStrSt := str, qCurPos := pos } ∧ str.delimNum = true ∧
            s.qCurPos < pos ∧ pos < q.length) := by
    intro str hfalse
    rw [processLiteralString]
    dsimp only
    rw [readQuery_ok (Nat.le_of_lt hpos)]
    refine Meets.ok_bind ?_
    rw [if_pos hfalse]
    exact Meets.ok ⟨rfl, _, _, rfl, rfl, by omega, hpos⟩
  rcases hn' with rfl | rfl
  · exact hstring _ hdelim
  · exact hstring _ hdelim

/-! ## Dollar quotes -/

/-- The tag of an open dollar quote is part of the query. -/
def TagInv (q : List Char) (d : DollarQuoteStringSt) : Prop :=
  ∀ start, d.tagStart = some start → start + d.tagLen ≤ q.length

/-- The query ends before the closing delimiter of an open dollar quote. -/
def TagTooLong (q : List Char) (s : DigestSt dMaxLen) : Prop :=
  s.dollarQuoteStrSt.tagStart ≠ none ∧ q.length - s.qCurPos < s.dollarQuoteStrSt.tagLen + 2

/-- How a dollar quote proceeds -/
structure DollarStep (q : List Char) (s : DigestSt dMaxLen) (r : ParseSt × DigestSt dMaxLen) :
    Prop where
  frame : ∃ res cur d pos, r.2 = { s with
    res := res
    resCurPos := cur
    dollarQuoteStrSt := d
    qCurPos := pos }
  tag : TagInv q r.2.dollarQuoteStrSt
  cur : r.2.resCurPos ≤ dMaxLen
  pos : s.qCurPos ≤ r.2.qCurPos ∧ r.2.qCurPos ≤ q.length
  ends : r.1 = .noMarkFound →
    s.qCurPos < r.2.qCurPos ∨ TagTooLong q s ∧ r.2.resCurPos = s.resCurPos
  goesOn : r.1 ≠ .noMarkFound → r.1 = .dollarQuoteString ∧
    r.2.dollarQuoteStrSt.tagStart ≠ none ∧ r.2.qCurPos < q.length

theorem closeDollarQuote_meets
    (hpos : s.qCurPos ≤ q.length)
    (hcur : s.resCurPos ≤ dMaxLen)
    (hpre : s.resPrePos < dMaxLen)
    (htag : TagInv q s.dollarQuoteStrSt)
    (hopen : s.dollarQuoteStrSt.tagStart ≠ none) :
    Meets fails (s.closeDollarQuote q) (DollarStep q s) := by
  obtain ⟨start, hstart⟩ := Option.ne_none_iff_exists'.mp hopen
  have hlen := htag start hstart
  refine Meets.ite (fun hrem => ?_) fun hshort => Meets.ok ?_
  · refine Meets.bind (R := fun _ => True) ?_ fun closes _ => ?_
    · rw [hstart]
      refine both_any (isAt_meets (by omega) '$').any ?_
      exact both_any (sameBytes_meets (by omega) hlen) (isAt_meets (by omega) '$').any
    · refine Meets.ite (fun _ => ?_) fun _ => Meets.ok ?_
      · obtain ⟨res, hmark⟩ := emitMark_ok (s := s) (Nat.le_of_lt hpre)
        rw [hmark]
        have hlt : s.qCurPos < s.qCurPos + (s.dollarQuoteStrSt.tagLen + 2) := by omega
        refine Meets.ok ⟨⟨_, _, _, _, rfl⟩, nofun, hpre, ⟨Nat.le_of_lt hlt, ?_⟩,
          fun _ => Or.inl hlt, fun hno => absurd rfl hno⟩
        change s.qCurPos + (s.dollarQuoteStrSt.tagLen + 2) ≤ q.length
        omega
      · exact ⟨⟨_, _, _, _, rfl⟩, htag, hcur, ⟨Nat.le_refl _, hpos⟩, nofun,
          fun _ => ⟨rfl, hopen, by dsimp only; omega⟩⟩
  · exact ⟨⟨_, _, _, _, rfl⟩, htag, hcur, ⟨Nat.le_refl _, hpos⟩,
      fun _ => Or.inr ⟨⟨hopen, by omega⟩, rfl⟩, fun hno => absurd rfl hno⟩

theorem processDollarQuoteString_meets
    (hpos : s.qCurPos < q.length)
    (hcur : s.resCurPos ≤ dMaxLen)
    (hpre : s.resPrePos < dMaxLen)
    (htag : TagInv q s.dollarQuoteStrSt)
    (hbegins : s.dollarQuoteStrSt.tagStart = none → ∃ p, DollarTag q s.qCurPos p) :
    Meets fails (s.processDollarQuoteString q) (DollarStep q s) := by
  refine Meets.ite (fun hnone => ?_) fun hopen => closeDollarQuote_meets (Nat.le_of_lt hpos) hcur hpre htag hopen
  obtain ⟨p, hp, hle, hlt, hdollar⟩ := hbegins hnone
  have hopens : s.openDollarQuote q = .ok (true, { s with
      dollarQuoteStrSt := { tagStart := some (s.qCurPos + 1), tagLen := p - (s.qCurPos + 1) }
      qCurPos := s.qCurPos + (p - (s.qCurPos + 1) + 2) }) := by
    rw [openDollarQuote, if_neg (by omega), hp]
    change (both (.ok (decide (p < q.length))) (isAt q p '$') >>= _) = _
    rw [decide_eq_true hlt, both_ok_left rfl, if_pos rfl, isAt_ok (Nat.le_of_lt hlt), hdollar]
    change (if s.qCurPos + (p - (s.qCurPos + 1)) + 2 > q.length then _ else _) = _
    rw [if_neg (by omega)]
    rfl
  rw [hopens]
  refine Meets.ok_bind ?_
  rw [if_pos rfl]
  refine (closeDollarQuote_meets (s := { s with
    dollarQuoteStrSt := { tagStart := some (s.qCurPos + 1), tagLen := p - (s.qCurPos + 1) }
    qCurPos := s.qCurPos + (p - (s.qCurPos + 1) + 2) }) ?_ hcur hpre ?_ nofun).imp ?_
  · dsimp only
    omega
  · rintro start ⟨⟩
    dsimp only
    omega
  · rintro ⟨st, t⟩ ⟨⟨res, cur, d, pos, rfl⟩, htag', hcur', ⟨hle', hge'⟩, -, hgoes⟩
    dsimp only at hle'
    have hlt' : s.qCurPos < pos := by omega
    exact ⟨⟨_, _, _, _, rfl⟩, htag', hcur', ⟨Nat.le_of_lt hlt', hge'⟩, fun _ => Or.inl hlt', hgoes⟩

/-! ## Quoted identifiers -/

theorem processQuotedIdentifier_meets (hpos : s.qCurPos < q.length) :
    Meets fails (s.processQuotedIdentifier q) (fun r => ∃ i, r.2 = { s with quotedIdenSt := i } ∧
      (r.1 = .noMarkFound → i.delimNum = false ∧ s.quotedIdenSt.delimNum = true ∧
        char q s.qCurPos = '"') ∧
      (r.1 ≠ .noMarkFound → r.1 = .quotedIdentifier ∧ i.delimNum = true)) := by
  rw [processQuotedIdentifier, readQuery_ok (Nat.le_of_lt hpos)]
  refine Meets.ok_bind (Meets.ite (fun _ => Meets.ok ?_) fun hdelim => ?_)
  · exact ⟨_, rfl, nofun, fun _ => ⟨rfl, rfl⟩⟩
  have htrue : s.quotedIdenSt.delimNum = true := eq_true_of_ne_false hdelim
  refine Meets.ite (fun hquote => Meets.ok ?_) fun _ => Meets.ok ?_
  · exact ⟨_, rfl, fun _ => ⟨rfl, htrue, hquote⟩, fun hno => absurd rfl hno⟩
  · exact ⟨_, rfl, nofun, fun _ => ⟨rfl, htrue⟩⟩

/-! ## Numbers -/

theorem digitsUpTo_meets
    {last : Nat}
    (rem pos : Nat) (isHex : Bool) (i : Nat)
    (hle : pos ≤ last)
    (hlast : last ≤ dMaxLen)
    (hrem : last < pos + rem) :
    Meets fails (s.digitsUpTo last rem pos isHex i) (fun _ => True) := by
  induction rem generalizing pos isHex i with
  | zero =>
      exact absurd hrem (Nat.not_lt_of_ge hle)
  | succ rem ih =>
      refine Meets.ite (fun _ => Meets.ok trivial) fun hne => ?_
      obtain ⟨c, hc⟩ := s.readRes_ok (pos : Int) (by omega) (by omega)
      rw [hc]
      refine Meets.ok_bind (Meets.bind (R := fun _ => True) ?_ fun before _ => ?_)
      · refine Meets.ite (fun hpos => ?_) fun _ => Meets.ok trivial
        obtain ⟨b, hb⟩ := s.readRes_ok ((pos : Int) - 1) (by omega) (by omega)
        rw [hb]
        exact Meets.ok trivial
      · refine Meets.ite (fun _ => ih _ _ _ (by omega) (by omega)) fun _ => ?_
        refine Meets.ite (fun _ => Meets.ok trivial) fun _ => ?_
        exact Meets.ite (fun _ => Meets.ok trivial) fun _ => ih _ _ _ (by omega) (by omega)

theorem isDigitString2_meets
    {first last : Nat}
    (hle : first ≤ last)
    (hlast : last ≤ dMaxLen) :
    Meets fails (s.isDigitString2 first last) (fun _ => True) := by
  refine Meets.ite (fun _ => ?_) fun _ => digitsUpTo_meets _ _ _ _ hle hlast (by omega)
  obtain ⟨c, hc⟩ := s.readRes_ok (first : Int) (by omega) (by omega)
  rw [hc]
  exact Meets.ok trivial

/-- A number that has begun, or whose first digit is at the current position -/
def NumberInv (q : List Char) (s : DigestSt dMaxLen) : Prop :=
  (s.literalDigSt.firstDigit = true ∧ isTokenChar s.prevChar = true ∧
      isDigitChar (char q s.qCurPos) = true ∧ s.resPrePos = s.resCurPos) ∨
    (s.literalDigSt.firstDigit = false ∧
      ∃ start, s.literalDigSt.startPos = some start ∧ start < s.resCurPos)

/-- How a number proceeds -/
structure NumberStep (s : DigestSt dMaxLen) (r : ParseSt × DigestSt dMaxLen) : Prop where
  frame : ∃ res cur prev copy d, r.2 = { s with
    res := res
    resCurPos := cur
    prevChar := prev
    copyNext := copy
    literalDigSt := d }
  cur : r.2.resCurPos ≤ s.resCurPos + 1
  ends : r.1 = .noMarkFound → s.literalDigSt.firstDigit = false ∧
    r.2.literalDigSt = { startPos := none, firstDigit := false } ∧ r.2.resCurPos ≤ s.resCurPos
  goesOn : r.1 ≠ .noMarkFound → r.1 = .literalNumber ∧ r.2.literalDigSt.firstDigit = false ∧
    ∃ start, r.2.literalDigSt.startPos = some start ∧
      (r.2.copyNext = true ∧ r.2.resCurPos = s.resCurPos ∧ start ≤ r.2.resCurPos ∨
        r.2.copyNext = false ∧ r.2.resCurPos = start + 1)

theorem isTokenChar_digit {c : Char} (h : isDigitChar c = true) : isTokenChar c = false := by
  rw [isTokenChar, isNormalChar, isTagChar]
  rw [isDigitChar] at h
  rw [h]
  simp

/-- The end of a number that began at `start`, or a character of it -/
theorem processLiteralDigit_started
    {start : Nat}
    (hpos : s.qCurPos < q.length)
    (hcur : s.resCurPos ≤ dMaxLen)
    (hfirst : s.literalDigSt.firstDigit = false)
    (hstart : s.literalDigSt.startPos = some start)
    (hlt : start < s.resCurPos)
    (hcopy : s.copyNext = true) :
    Meets fails (s.processLiteralDigit q) (NumberStep s) := by
  rw [processLiteralDigit, readQuery_ok (Nat.le_of_lt hpos)]
  refine Meets.ok_bind ?_
  rw [startLiteralDigit, if_neg (by rw [hfirst]; exact fun h => absurd h.1 Bool.false_ne_true)]
  refine Meets.ok_bind (Meets.ite (fun _ => ?_) fun _ => Meets.ok ?_)
  · rw [hstart, Option.getD_some]
    refine (isDigitString2_meets (Nat.le_of_lt hlt) hcur).bind fun digits _ =>
      Meets.ite (fun _ => ?_) fun _ => Meets.ok ?_
    · obtain ⟨res, hemit⟩ := emit_ok (s := { s with resCurPos := start })
        (Nat.le_trans (Nat.le_of_lt hlt) hcur) '?'
      rw [hemit]
      refine Meets.ok_bind (Meets.ite (fun _ => Meets.ok ?_) fun _ => Meets.ok ?_)
      · exact ⟨⟨_, _, _, _, _, rfl⟩, Nat.succ_le_succ (Nat.le_of_lt hlt), nofun,
          fun _ => ⟨rfl, hfirst, start, hstart, Or.inr ⟨rfl, rfl⟩⟩⟩
      · exact ⟨⟨_, _, _, _, _, rfl⟩, Nat.succ_le_succ (Nat.le_of_lt hlt),
          fun _ => ⟨hfirst, rfl, hlt⟩, fun hno => absurd rfl hno⟩
    · exact ⟨⟨_, _, _, _, _, rfl⟩, Nat.le_succ _, fun _ => ⟨hfirst, rfl, Nat.le_refl _⟩,
        fun hno => absurd rfl hno⟩
  · exact ⟨⟨_, _, _, _, _, rfl⟩, Nat.le_succ _, nofun,
      fun _ => ⟨rfl, hfirst, start, hstart, Or.inl ⟨hcopy, rfl, Nat.le_of_lt hlt⟩⟩⟩

/-- The first digit of a number: it is a number also as the last character of the query. -/
theorem processLiteralDigit_first
    (hpos : s.qCurPos < q.length)
    (hcur : s.resCurPos ≤ dMaxLen)
    (hfirst : s.literalDigSt.firstDigit = true)
    (hprev : isTokenChar s.prevChar = true)
    (hdigit : isDigitChar (char q s.qCurPos) = true)
    (hpre : s.resPrePos = s.resCurPos)
    (hcopy : s.copyNext = true) :
    Meets fails (s.processLiteralDigit q) (NumberStep s) := by
  rw [processLiteralDigit, readQuery_ok (Nat.le_of_lt hpos)]
  refine Meets.ok_bind ?_
  obtain ⟨res, hwrite⟩ := s.res.exists_write (Nat.lt_succ_of_le hcur) (char q s.qCurPos)
  have hbegins : s.startLiteralDigit (char q s.qCurPos) = .ok { s with
      res := res
      literalDigSt := { startPos := some s.resPrePos, firstDigit := false } } := by
    rw [startLiteralDigit, if_pos ⟨hfirst, hprev, hdigit⟩, writeRes, hwrite]
    rfl
  rw [hbegins]
  refine Meets.ok_bind (Meets.ite (fun hends => ?_) fun _ => Meets.ok ?_)
  · have hread : isDigitString2 { s with
        res := res
        literalDigSt := { startPos := some s.resPrePos, firstDigit := false } }
        s.resPrePos s.resCurPos = .ok true := by
      rw [isDigitString2, if_pos hpre, readRes]
      dsimp only
      rw [hpre, Block.read_write_eq hwrite, ← hdigit]
      rfl
    dsimp only
    rw [Option.getD_some, hread]
    refine Meets.ok_bind ?_
    rw [if_pos rfl]
    obtain ⟨res', hemit⟩ := emit_ok (s := { s with
      res := res
      literalDigSt := { startPos := some s.resPrePos, firstDigit := false }
      resCurPos := s.resPrePos }) (hpre ▸ hcur) '?'
    rw [hemit]
    have hlast : q.length = s.qCurPos + 1 := by
      rcases hends with hends | hlast
      · rw [isTokenChar_digit hdigit] at hends
        exact absurd hends.1 Bool.false_ne_true
      · exact hlast
    refine Meets.ok_bind (Meets.ite (fun _ => Meets.ok ?_) fun hno => ?_)
    · exact ⟨⟨_, _, _, _, _, rfl⟩, Nat.le_of_eq (congrArg (· + 1) hpre),
        fun hnext => ParseSt.noConfusion hnext,
        fun _ => ⟨rfl, rfl, _, rfl, Or.inr ⟨rfl, rfl⟩⟩⟩
    · refine absurd ⟨?_, hlast⟩ hno
      rw [isTokenChar_digit hdigit]
      rfl
  · exact ⟨⟨_, _, _, _, _, rfl⟩, Nat.le_succ _, fun hnext => ParseSt.noConfusion hnext,
      fun _ => ⟨rfl, rfl, _, rfl, Or.inl ⟨hcopy, rfl, Nat.le_of_eq hpre⟩⟩⟩

theorem processLiteralDigit_meets
    (hpos : s.qCurPos < q.length)
    (hcur : s.resCurPos ≤ dMaxLen)
    (hnumber : NumberInv q s)
    (hcopy : s.copyNext = true) :
    Meets fails (s.processLiteralDigit q) (NumberStep s) := by
  rcases hnumber with ⟨hfirst, hprev, hdigit, hpre⟩ | ⟨hfirst, start, hstart, hlt⟩
  · exact processLiteralDigit_first hpos hcur hfirst hprev hdigit hpre hcopy
  · exact processLiteralDigit_started hpos hcur hfirst hstart hlt hcopy

/-! ## Words -/

/-- How a word proceeds: it is replaced, or a character is copied. -/
structure WordStep (q : List Char) (s : DigestSt dMaxLen) (r : ParseSt × DigestSt dMaxLen) :
    Prop where
  frame : ∃ res cur prev keep pos, r.2 = { s with
    res := res
    resCurPos := cur
    prevChar := prev
    keepPrevChar := keep
    qCurPos := pos }
  st : r.1 = .noMarkFound
  cur : r.2.resCurPos ≤ dMaxLen
  pos : s.qCurPos < r.2.qCurPos ∧ r.2.qCurPos ≤ q.length

theorem replaceWord_meets
    {found : Bool} {n : Nat}
    (hpos : s.qCurPos < q.length)
    (hcur : s.resCurPos < dMaxLen)
    (hpre : s.resPrePos < dMaxLen)
    (hn : found = true → 0 < n ∧ s.qCurPos + n ≤ q.length) :
    Meets fails (s.replaceWord q opts found n) (WordStep q s) := by
  refine Meets.ite (fun hfound => ?_) fun _ => ?_
  · obtain ⟨res, hmark⟩ := emitMark_ok (s := s) (Nat.le_of_lt hpre)
    obtain ⟨hnpos, hle⟩ := hn hfound
    rw [hmark]
    exact Meets.ok ⟨⟨_, _, _, _, _, rfl⟩, rfl, hpre, ⟨Nat.lt_add_of_pos_right hnpos, hle⟩⟩
  · obtain ⟨res, prev, hcopy⟩ :=
      copyNextChar_ok (s := s) opts (Nat.le_of_lt hpos) (Nat.le_of_lt hcur)
    rw [hcopy]
    exact Meets.ok ⟨⟨_, _, _, _, _, rfl⟩, rfl, hcur, ⟨Nat.lt_succ_self _, hpos⟩⟩

theorem isWholeWord_meets (word : List Char) :
    Meets fails (s.isWholeWord q word)
      (fun x => x = true → s.qCurPos + word.length ≤ q.length) := by
  refine both_left test_meets fun hlen => both_any (isWordAt_meets hlen) ?_
  refine Meets.ite (fun _ => Meets.ok trivial) fun hne => ?_
  rw [readQuery_ok hlen]
  exact Meets.ok trivial

theorem processReplaceNull_meets
    (hpos : s.qCurPos < q.length)
    (hcur : s.resCurPos < dMaxLen)
    (hpre : s.resPrePos < dMaxLen) :
    Meets fails (s.processReplaceNull q opts) (WordStep q s) :=
  (isWholeWord_meets _).bind fun _ hfound =>
    replaceWord_meets hpos hcur hpre fun htrue => ⟨by decide, hfound htrue⟩

theorem processReplaceBoolean_meets
    (hpos : s.qCurPos < q.length)
    (hcur : s.resCurPos < dMaxLen)
    (hpre : s.resPrePos < dMaxLen) :
    Meets fails (s.processReplaceBoolean q opts) (WordStep q s) := by
  refine (both_any (isLowerAt_meets (Nat.le_of_lt hpos) 't').any (Meets.ok trivial)).bind
    fun _ _ => Meets.ite (fun _ => ?_) fun _ => ?_
  · exact (isWholeWord_meets _).bind fun _ hfound =>
      replaceWord_meets hpos hcur hpre fun htrue => ⟨by decide, hfound htrue⟩
  · refine (both_any (isLowerAt_meets (Nat.le_of_lt hpos) 'f').any (Meets.ok trivial)).bind
      fun _ _ => Meets.ite (fun _ => ?_) fun _ => ?_
    · exact (isWholeWord_meets _).bind fun _ hfound =>
        replaceWord_meets hpos hcur hpre fun htrue => ⟨by decide, hfound htrue⟩
    · exact replaceWord_meets hpos hcur hpre nofun

end DigestSt

/-! ## Casts -/

theorem typeNameEnd_meets {pos : Nat} (hpos : pos < q.length) :
    Meets fails (typeNameEnd q pos) (fun p => pos ≤ p ∧ p ≤ q.length) := by
  refine (isAt_meets (Nat.le_of_lt hpos) '"').bind fun quoted _ => ?_
  refine Meets.bind (R := fun p => pos ≤ p ∧ p ≤ q.length) ?_ fun p hp => ?_
  · refine Meets.ite (fun _ => ?_) fun _ => Meets.ok ⟨Nat.le_refl _, Nat.le_of_lt hpos⟩
    exact (skipQuoted_meets '"' hpos).imp fun p hp => ⟨Nat.le_of_lt hp.1, hp.2⟩
  · obtain ⟨r, hr, hle, hge⟩ := skipWhile_ok (q := q) isTagChar (q.length - p) p (by omega)
    rw [hr]
    exact Meets.ok ⟨by omega, by omega⟩

theorem typeSpacesEnd_meets {pos : Nat} (hpos : pos ≤ q.length) :
    Meets fails (typeSpacesEnd q pos) (fun p => pos ≤ p ∧ p ≤ q.length) := by
  obtain ⟨c, hc, -⟩ := peek_ok (q := q) pos
  rw [typeSpacesEnd, hc]
  refine Meets.ok_bind (Meets.ite (fun _ => ?_) fun _ => Meets.ok ⟨Nat.le_refl _, hpos⟩)
  obtain ⟨p, hp, hle, hge⟩ := skipWhile_ok (q := q) isSpaceChar (q.length - pos) pos (by omega)
  obtain ⟨d, hd, -⟩ := peek_ok (q := q) p
  rw [hp]
  refine Meets.ok_bind ?_
  rw [hd]
  refine Meets.ok_bind (Meets.ok ?_)
  split
  · exact ⟨hle, by omega⟩
  · exact ⟨Nat.le_refl _, hpos⟩

theorem modifierStep_meets (r : Nat × Nat) (hr : r.2 ≤ q.length) :
    Meets fails (modifierStep q r) (fun t => if t.2 then
      t.1.2 ≤ q.length ∧ q.length - t.1.2 < q.length - r.2 ∧ r.2 ≤ t.1.2 else t.1 = r) := by
  obtain ⟨depth, pos⟩ := r
  dsimp only at hr
  refine Meets.ite (fun hmore => ?_) fun _ => Meets.ok rfl
  have hlt := hmore.1
  have hnext : ∀ d : Nat, Meets fails (.ok ((d, pos + 1), true)) (fun t : (Nat × Nat) × Bool =>
      if t.2 then t.1.2 ≤ q.length ∧ q.length - t.1.2 < q.length - pos ∧ pos ≤ t.1.2
      else t.1 = (depth, pos)) := by
    intro d
    refine Meets.ok ?_
    rw [if_pos rfl]
    dsimp only
    omega
  rw [readQuery_ok hr]
  refine Meets.ok_bind (Meets.ite (fun _ => hnext _) fun _ => ?_)
  refine Meets.ite (fun _ => hnext _) fun _ => Meets.ite (fun _ => ?_) fun _ => hnext _
  refine (skipQuoted_meets _ hlt).bind fun p hp => Meets.ok ?_
  rw [if_pos rfl]
  dsimp only
  omega

theorem modifiersEnd_meets {pos : Nat} (hpos : pos ≤ q.length) :
    Meets fails (modifiersEnd q pos) (fun p => pos ≤ p ∧ p ≤ q.length) := by
  obtain ⟨c, hc, hchar⟩ := peek_ok (q := q) pos
  rw [modifiersEnd, hc]
  refine Meets.ok_bind (Meets.ite (fun hparen => ?_) fun _ => Meets.ok ⟨Nat.le_refl _, hpos⟩)
  have hlt : pos < q.length := (hchar (by rw [hparen]; decide)).1
  refine Meets.bind (R := fun r => pos ≤ r.2 ∧ r.2 ≤ q.length) ?_ fun r hr => Meets.ok hr
  refine Meets.loop_measure (I := fun r => pos ≤ r.2 ∧ r.2 ≤ q.length)
    (fun r => q.length - r.2) ?_ _ _ ⟨Nat.le_succ _, hlt⟩ ?_
  · intro r hr
    refine (modifierStep_meets r hr.2).imp fun t ht => ?_
    split
    case isTrue hagain =>
      rw [if_pos hagain] at ht
      exact ⟨⟨Nat.le_trans hr.1 ht.2.2, ht.1⟩, ht.2.1⟩
    case isFalse hdone =>
      rw [if_neg hdone] at ht
      rw [ht]
      exact hr
  · dsimp only
    omega

theorem bracketStep_meets {pos : Nat} (hpos : pos ≤ q.length) :
    Meets fails (bracketStep q pos) (fun t => if t.2 then
      (pos ≤ t.1 ∧ t.1 ≤ q.length) ∧ q.length - t.1 < q.length - pos else t.1 = pos) := by
  have htest : Meets fails (both (both (.ok (decide (pos < q.length))) (isAt q pos '['))
      (both (.ok (decide (pos + 1 < q.length))) (isAt q (pos + 1) ']')))
      (fun x => x = true → pos + 1 < q.length) := by
    refine (both_meets (A := True) ?_ fun _ => ?_).imp fun x hx htrue => (hx htrue).2
    · exact (both_left (test_meets (p := pos < q.length)) fun _ =>
        (isAt_meets hpos '[').any).imp fun _ _ _ => trivial
    · exact both_left test_meets fun hlt => (isAt_meets (Nat.le_of_lt hlt) ']').any
  refine htest.bind fun x hx => Meets.ite (fun htrue => ?_) fun _ => Meets.ok rfl
  have hlt := hx htrue
  obtain ⟨p, hp, hle, hge⟩ :=
    skipWhile_ok (q := q) isSpaceChar (q.length - (pos + 2)) (pos + 2) (by omega)
  rw [hp]
  refine Meets.ok_bind (Meets.ok ?_)
  rw [if_pos rfl]
  dsimp only
  omega

theorem bracketsEnd_meets {pos : Nat} (hpos : pos ≤ q.length) :
    Meets fails (loop (bracketStep q) (q.length + 1) pos) (fun p => pos ≤ p ∧ p ≤ q.length) := by
  refine Meets.loop_measure (I := fun p => pos ≤ p ∧ p ≤ q.length)
    (fun p => q.length - p) ?_ _ _ ⟨Nat.le_refl _, hpos⟩ (by omega)
  intro p hp
  refine (bracketStep_meets hp.2).imp fun t ht => ?_
  split
  case isTrue hagain =>
    rw [if_pos hagain] at ht
    exact ⟨⟨Nat.le_trans hp.1 ht.1.1, ht.1.2⟩, ht.2⟩
  case isFalse hdone =>
    rw [if_neg hdone] at ht
    rw [ht]
    exact hp

namespace DigestSt

variable {s : DigestSt dMaxLen}

/-- A cast is read in one round. -/
theorem processPgTypecast_meets
    (hpos : s.qCurPos + 1 < q.length)
    (hstarted : s.pgTcStarted = false) :
    Meets fails (s.processPgTypecast q) (fun r => r.1 = .noMarkFound ∧ ∃ pos started,
      r.2 = { s with qCurPos := pos, pgTcStarted := started } ∧ s.qCurPos < pos ∧
        pos ≤ q.length ∧ (pos < q.length → started = false)) := by
  obtain ⟨p, hp, hle, hge⟩ :=
    skipWhile_ok (q := q) isSpaceChar (q.length - (s.qCurPos + 2)) (s.qCurPos + 2) (by omega)
  have hstart : s.startPgTypecast q = .ok { s with pgTcStarted := true, qCurPos := p } := by
    rw [startPgTypecast, if_pos hstarted, hp]
    rfl
  rw [processPgTypecast, hstart]
  refine Meets.ok_bind (Meets.ite (fun hend => Meets.ok ?_) fun hmore => ?_)
  · exact ⟨rfl, _, _, rfl, by omega, by omega, fun hlt => absurd hlt (Nat.not_lt_of_ge hend)⟩
  dsimp only at hmore ⊢
  refine (typeNameEnd_meets (by omega)).bind fun p₁ h₁ => ?_
  refine (typeSpacesEnd_meets h₁.2).bind fun p₂ h₂ => ?_
  refine (modifiersEnd_meets h₂.2).bind fun p₃ h₃ => ?_
  refine (bracketsEnd_meets h₃.2).bind fun p₄ h₄ => Meets.ok ?_
  exact ⟨rfl, _, _, rfl, by omega, h₄.2, fun _ => rfl⟩

/-! ## Arrays -/

/-- How an array proceeds -/
structure ArrayStep (q : List Char) (s : DigestSt dMaxLen) (r : ParseSt × DigestSt dMaxLen) :
    Prop where
  frame : ∃ res cur prev depth pos, r.2 = { s with
    res := res
    resCurPos := cur
    prevChar := prev
    bracketDepth := depth
    qCurPos := pos }
  cur : r.2.resCurPos ≤ dMaxLen
  pos : s.qCurPos ≤ r.2.qCurPos ∧ r.2.qCurPos ≤ q.length
  ends : r.1 = .noMarkFound → (r.2.qCurPos < q.length → r.2.bracketDepth = 0) ∧
    (s.qCurPos < r.2.qCurPos ∨ s.qCurPos = q.length)
  goesOn : r.1 ≠ .noMarkFound → r.1 = .arrayLiteral ∧ 0 < r.2.bracketDepth ∧
    r.2.qCurPos < q.length

theorem continueArrayLiteral_meets
    (hpos : s.qCurPos ≤ q.length)
    (hcur : s.resCurPos ≤ dMaxLen)
    (hpre : s.resPrePos < dMaxLen)
    (hdepth : 0 < s.bracketDepth) :
    Meets fails (s.continueArrayLiteral q) (ArrayStep q s) := by
  refine Meets.ite (fun hend => Meets.ok ?_) fun hmore => ?_
  · exact ⟨⟨_, _, _, _, _, rfl⟩, hcur, ⟨Nat.le_refl _, hpos⟩,
      fun _ => ⟨fun hlt => absurd hlt (Nat.not_lt_of_ge hend), Or.inr (Nat.le_antisymm hpos hend)⟩,
      fun hno => absurd rfl hno⟩
  have hlt : s.qCurPos < q.length := Nat.lt_of_not_le hmore
  refine (arraySkipQuotes_meets hlt).bind fun p hp => ?_
  refine Meets.ite (fun hend => Meets.ok ?_) fun hmore' => ?_
  · refine ⟨⟨_, _, _, _, _, rfl⟩, hcur, hp, fun _ => ⟨fun hlt' => absurd hlt' (Nat.not_lt_of_ge hend),
      Or.inl (Nat.lt_of_lt_of_le hlt hend)⟩, fun hno => absurd rfl hno⟩
  have hplt : p < q.length := Nat.lt_of_not_le hmore'
  dsimp only
  rw [readQuery_ok hp.2]
  refine Meets.ok_bind (Meets.ite (fun _ => Meets.ok ?_) fun _ => ?_)
  · exact ⟨⟨_, _, _, _, _, rfl⟩, hcur, hp, nofun, fun _ => ⟨rfl, Nat.succ_pos _, hplt⟩⟩
  refine Meets.ite (fun _ => Meets.ite (fun _ => ?_) fun hinner => Meets.ok ?_) fun _ => Meets.ok ?_
  · obtain ⟨res, hmark⟩ := emitMark_ok
      (s := { s with qCurPos := p, bracketDepth := s.bracketDepth - 1 }) (Nat.le_of_lt hpre)
    rw [hmark]
    rename_i hzero
    exact Meets.ok ⟨⟨_, _, _, _, _, rfl⟩, hpre, ⟨Nat.le_succ_of_le hp.1, hplt⟩,
      fun _ => ⟨fun _ => hzero, Or.inl (Nat.lt_succ_of_le hp.1)⟩, fun hno => absurd rfl hno⟩
  · exact ⟨⟨_, _, _, _, _, rfl⟩, hcur, hp, nofun,
      fun _ => ⟨rfl, Nat.pos_of_ne_zero hinner, hplt⟩⟩
  · exact ⟨⟨_, _, _, _, _, rfl⟩, hcur, hp, nofun, fun _ => ⟨rfl, hdepth, hplt⟩⟩

theorem processArrayLiteral_meets
    (hpos : s.qCurPos < q.length)
    (hcur : s.resCurPos ≤ dMaxLen)
    (hpre : s.resPrePos < dMaxLen)
    (hbegins : s.bracketDepth = 0 → ∃ p, ArrayBracket q s.qCurPos p) :
    Meets fails (s.processArrayLiteral q) (fun r => ArrayStep q s r ∧
      (r.1 = .noMarkFound → s.qCurPos < r.2.qCurPos)) := by
  refine Meets.ite (fun hzero => ?_) fun hopen => ?_
  · obtain ⟨p, hp, hle, hlt, hbracket⟩ := hbegins hzero
    have hopens : s.openArrayLiteral q = .ok (true, { s with
        bracketDepth := 1
        qCurPos := p + 1 }) := by
      rw [openArrayLiteral, if_neg (by omega), hp]
      change (both (.ok (decide (p < q.length))) (isAt q p '[') >>= _) = _
      rw [decide_eq_true hlt, both_ok_left rfl, if_pos rfl, isAt_ok (Nat.le_of_lt hlt), hbracket]
      rfl
    rw [hopens]
    refine Meets.ok_bind ?_
    rw [if_pos rfl]
    refine (continueArrayLiteral_meets (s := { s with bracketDepth := 1, qCurPos := p + 1 })
      hlt hcur hpre Nat.one_pos).imp ?_
    rintro ⟨st, t⟩ ⟨⟨res, cur, prev, depth, pos, rfl⟩, hcur', ⟨hle', hge'⟩, hends, hgoes⟩
    dsimp only at hle'
    have hlt' : s.qCurPos < pos := by omega
    exact ⟨⟨⟨_, _, _, _, _, rfl⟩, hcur', ⟨Nat.le_of_lt hlt', hge'⟩,
      fun hst => ⟨(hends hst).1, Or.inl hlt'⟩, hgoes⟩, fun _ => hlt'⟩
  · refine (continueArrayLiteral_meets (Nat.le_of_lt hpos) hcur hpre
      (Nat.pos_of_ne_zero hopen)).imp fun r hr => ⟨hr, fun hst => ?_⟩
    exact (hr.ends hst).2.resolve_right (Nat.ne_of_lt hpos)

end DigestSt

end Tokenizer

end PolarProxy
