import PolarProxy.DigestStages

/-!
# Reading the query and the result

The tests of the first stage read the query no further than its terminator.  What they find is
what the function of the selected state relies on.

**Results.** `skipWhile_ok`, `isWordAt_meets`, `sameBytes_meets`, `getNextSt_meets`,
`DigestSt.emit_ok`, `DigestSt.copyNextChar_ok`.
-/

namespace PolarProxy

namespace Tokenizer

open Loops Memory

variable {q : List Char} {opts : Options} {dMaxLen : Nat} {fails : Stop Fault → Prop}

/-! ## The query -/

theorem readQuery_ok {pos : Nat} (h : pos ≤ q.length) :
    readQuery q pos = .ok (char q pos) :=
  if_pos h

theorem isAt_ok {pos : Nat} (h : pos ≤ q.length) (c : Char) :
    isAt q pos c = .ok (char q pos == c) := by
  rw [isAt, readQuery_ok h]
  rfl

theorem isLowerAt_ok {pos : Nat} (h : pos ≤ q.length) (c : Char) :
    isLowerAt q pos c = .ok ((char q pos).toLower == c) := by
  rw [isLowerAt, readQuery_ok h]
  rfl

theorem peek_ok (pos : Nat) :
    ∃ c, peek q pos = .ok c ∧ (c ≠ nul → pos < q.length ∧ char q pos = c) := by
  unfold peek
  split
  case isTrue h =>
    exact ⟨_, readQuery_ok (Nat.le_of_lt h), fun _ => ⟨h, rfl⟩⟩
  case isFalse h =>
    exact ⟨nul, rfl, fun hne => absurd rfl hne⟩

theorem sameBytes_meets
    {i j n : Nat}
    (hi : i + n ≤ q.length)
    (hj : j + n ≤ q.length) :
    Meets fails (sameBytes q i j n) (fun _ => True) := by
  rw [sameBytes, if_pos ⟨hi, hj⟩]
  exact Meets.ok trivial

theorem both_ok_left {a b : Checked Bool} {x : Bool} (h : a = .ok x) :
    both a b = if x then b else .ok false := by
  rw [h]
  rfl

/-- A test whose right side is read behind a left side that is true. -/
theorem both_meets
    {a b : Checked Bool} {A B : Prop}
    (ha : Meets fails a (fun x => x = true → A))
    (hb : A → Meets fails b (fun x => x = true → B)) :
    Meets fails (both a b) (fun x => x = true → A ∧ B) := by
  refine ha.bind fun x hx => ?_
  split
  case isTrue htrue =>
    have hA := hx htrue
    exact (hb hA).imp fun y hy htrue' => ⟨hA, hy htrue'⟩
  case isFalse hfalse =>
    exact Meets.ok fun h => absurd h Bool.false_ne_true

theorem both_left
    {a b : Checked Bool} {A : Prop}
    (ha : Meets fails a (fun x => x = true → A))
    (hb : A → Meets fails b (fun _ => True)) :
    Meets fails (both a b) (fun x => x = true → A) :=
  (both_meets (B := True) ha fun h => (hb h).imp fun _ _ _ => trivial).imp
    fun _ hx htrue => (hx htrue).1

theorem both_any
    {a b : Checked Bool}
    (ha : Meets fails a (fun _ => True))
    (hb : Meets fails b (fun _ => True)) :
    Meets fails (both a b) (fun _ => True) :=
  (both_left (A := True) (ha.imp fun _ _ _ => trivial) fun _ => hb).any

theorem test_meets {p : Prop} [Decidable p] :
    Meets fails (.ok (decide p)) (fun x => x = true → p) :=
  Meets.ok of_decide_eq_true

theorem isAt_meets {pos : Nat} (h : pos ≤ q.length) (c : Char) :
    Meets fails (isAt q pos c) (fun x => x = true → char q pos = c) := by
  rw [isAt_ok h]
  exact Meets.ok (fun heq => eq_of_beq heq)

theorem isLowerAt_meets {pos : Nat} (h : pos ≤ q.length) (c : Char) :
    Meets fails (isLowerAt q pos c) (fun x => x = true → (char q pos).toLower = c) := by
  rw [isLowerAt_ok h]
  exact Meets.ok (fun heq => eq_of_beq heq)

theorem isWordAt_meets
    {pos : Nat} {word : List Char}
    (h : pos + word.length ≤ q.length) :
    Meets fails (isWordAt q pos word) (fun _ => True) := by
  induction word generalizing pos with
  | nil =>
      exact Meets.ok trivial
  | cons c word ih =>
      rw [List.length_cons] at h
      rw [isWordAt, both_ok_left (isLowerAt_ok (by omega) c)]
      exact Meets.ite (fun _ => ih (by omega)) (fun _ => Meets.ok trivial)

/-- The scanner stops at the end of its stretch or at another character. -/
theorem skipWhile_ok
    (f : Char → Bool) (rem pos : Nat)
    (h : pos + rem ≤ q.length) :
    ∃ p, skipWhile q f rem pos = .ok p ∧ pos ≤ p ∧ p ≤ pos + rem := by
  induction rem generalizing pos with
  | zero =>
      exact ⟨pos, rfl, Nat.le_refl _, Nat.le_refl _⟩
  | succ rem ih =>
      rw [skipWhile, readQuery_ok (by omega)]
      by_cases hf : f (char q pos) = true
      · obtain ⟨p, hp, hle, hge⟩ := ih (pos + 1) (by omega)
        refine ⟨p, ?_, by omega, by omega⟩
        change (if f (char q pos) = true then skipWhile q f rem (pos + 1) else .ok pos) = _
        rw [if_pos hf]
        exact hp
      · refine ⟨pos, ?_, Nat.le_refl _, by omega⟩
        change (if f (char q pos) = true then skipWhile q f rem (pos + 1) else .ok pos) = _
        rw [if_neg hf]

/-! ## The selection -/

/-- A dollar sign, a tag and another dollar sign begin at a position. -/
def DollarTag (q : List Char) (pos p : Nat) : Prop :=
  skipWhile q isTagChar (q.length - (pos + 1)) (pos + 1) = .ok p ∧ pos + 1 ≤ p ∧
    p < q.length ∧ char q p = '$'

/-- Behind the word at a position there are spaces and a bracket. -/
def ArrayBracket (q : List Char) (pos p : Nat) : Prop :=
  skipWhile q isSpaceChar (q.length - (pos + 5)) (pos + 5) = .ok p ∧ pos + 5 ≤ p ∧
    p < q.length ∧ char q p = '['

/-- What a selected state finds at its position -/
def Finds (q : List Char) (pos : Nat) (prevChar : Char) : ParseSt → Prop
  | .cmntType1 => pos + 2 < q.length ∧ char q pos = '/' ∧ char q (pos + 1) = '*'
  | .literalNumber => isTokenChar prevChar = true ∧ isDigitChar (char q pos) = true
  | .dollarQuoteString => ∃ p, DollarTag q pos p
  | .pgTypecast => pos + 1 < q.length
  | .arrayLiteral => ∃ p, ArrayBracket q pos p
  | .literalPrefixType => ∃ n, literalPrefixLen q pos = .ok n ∧ n ≠ 0
  | _ => True

theorem startsCmntType1_meets (pos : Nat) :
    Meets fails (startsCmntType1 q pos)
      (fun x => x = true → pos + 2 < q.length ∧ char q pos = '/' ∧ char q (pos + 1) = '*') := by
  refine both_meets test_meets fun hpos => ?_
  exact both_meets (isAt_meets (by omega) '/') fun _ => isAt_meets (by omega) '*'

theorem startsCmntType2_meets {pos : Nat} (hpos : pos < q.length) :
    Meets fails (startsCmntType2 q pos) (fun _ => True) := by
  refine (both_left (isAt_meets (by omega) '-') fun _ => ?_).any
  exact (both_left test_meets fun hlt => (isAt_meets (by omega) '-').any).any

theorem startsDollarQuoteString_meets {pos : Nat} (hpos : pos < q.length) :
    Meets fails (startsDollarQuoteString q pos) (fun x => x = true → ∃ p, DollarTag q pos p) := by
  obtain ⟨p, hp, hle, hge⟩ :=
    skipWhile_ok (q := q) isTagChar (q.length - (pos + 1)) (pos + 1) (by omega)
  rw [startsDollarQuoteString, hp]
  refine Meets.imp (both_meets test_meets fun _ => isAt_meets (by omega) '$') ?_
  intro x hx htrue
  exact ⟨p, hp, hle, hx htrue⟩

theorem startsArrayLiteral_meets (pos : Nat) :
    Meets fails (startsArrayLiteral q pos) (fun x => x = true → ∃ p, ArrayBracket q pos p) := by
  have hbracket : pos + 6 ≤ q.length → Meets fails (do
      let p ← skipWhile q isSpaceChar (q.length - (pos + 5)) (pos + 5)
      both (return p < q.length) (isAt q p '[')) (fun x => x = true → ∃ p, ArrayBracket q pos p) := by
    intro hlen
    obtain ⟨p, hp, hle, hge⟩ :=
      skipWhile_ok (q := q) isSpaceChar (q.length - (pos + 5)) (pos + 5) (by omega)
    rw [hp]
    refine Meets.imp (both_meets test_meets fun _ => isAt_meets (by omega) '[') ?_
    intro x hx htrue
    exact ⟨p, hp, hle, hx htrue⟩
  refine Meets.imp (both_meets test_meets fun hlen => both_meets (A := True) ?_ fun _ => hbracket hlen) ?_
  · exact (isWordAt_meets (by simpa using Nat.le_of_succ_le hlen)).imp fun _ _ _ => trivial
  · exact fun x hx htrue => (hx htrue).2.2

/-- The prefix of a string is one or two characters before a quote, or there is none. -/
theorem literalPrefixLen_ok (pos : Nat) :
    ∃ n, literalPrefixLen q pos = .ok n ∧ (n = 0 ∨ (n = 1 ∨ n = 2) ∧ pos + n < q.length) := by
  have htwo : Meets (fun _ => False) (both (.ok (decide (pos + 3 ≤ q.length)))
      (both (isLowerAt q pos 'u') (both (isAt q (pos + 1) '&') (isAt q (pos + 2) '\''))))
      (fun x => x = true → pos + 3 ≤ q.length) := by
    refine both_left test_meets fun hlen => ?_
    refine (both_left (isLowerAt_meets (by omega) 'u') fun _ => ?_).any
    exact (both_left (isAt_meets (by omega) '&') fun _ => (isAt_meets (by omega) '\'').any).any
  have hone : Meets (fun _ => False) (both (.ok (decide (pos + 2 ≤ q.length)))
      (isAt q (pos + 1) '\'')) (fun x => x = true → pos + 2 ≤ q.length) :=
    both_left test_meets fun hlen => (isAt_meets (by omega) '\'').any
  have hmeets : Meets (fun _ => False) (literalPrefixLen q pos)
      (fun n => n = 0 ∨ (n = 1 ∨ n = 2) ∧ pos + n < q.length) := by
    refine htwo.bind fun x hx => Meets.ite (fun htrue => ?_) (fun _ => ?_)
    · exact Meets.ok (Or.inr ⟨Or.inr rfl, by have := hx htrue; omega⟩)
    · refine hone.bind fun y hy => Meets.ite (fun htrue => ?_) (fun _ => ?_)
      · have hlen := hy htrue
        rw [readQuery_ok (by omega)]
        refine Meets.ok ?_
        split
        · exact Or.inr ⟨Or.inl rfl, by omega⟩
        · exact Or.inl rfl
      · exact Meets.ok (Or.inl rfl)
  cases h : literalPrefixLen q pos with
  | ok n =>
      exact ⟨n, rfl, hmeets.of_ok h⟩
  | error e =>
      exact (hmeets.of_error h).elim

/-- The selection reads no further than the terminator. -/
theorem getNextSt_meets
    {pos : Nat}
    (hpos : pos < q.length)
    (prevChar : Char) :
    Meets fails (getNextSt q opts pos prevChar) (Finds q pos prevChar) := by
  rw [getNextSt, readQuery_ok (Nat.le_of_lt hpos)]
  refine (startsCmntType1_meets pos).bind fun x hx => Meets.ite (fun h => Meets.ok (hx h)) fun _ => ?_
  refine (startsCmntType2_meets hpos).bind fun y _ => Meets.ite (fun _ => Meets.ok ?_) fun _ => ?_
  · split <;> trivial
  refine Meets.ite (fun _ => ?_) fun _ => ?_
  · refine (startsDollarQuoteString_meets hpos).bind fun x hx => Meets.ok ?_
    split
    case isTrue h =>
      exact hx h
    case isFalse =>
      trivial
  refine Meets.ite (fun _ => Meets.ok trivial) fun _ => ?_
  refine Meets.ite (fun _ => Meets.ok trivial) fun _ => ?_
  refine Meets.ite (fun h => Meets.ok ((Bool.and_eq_true _ _).mp h)) fun _ => ?_
  refine Meets.ite (fun _ => Meets.ok trivial) fun _ => ?_
  have hcast : Meets fails (both (.ok (prevChar != '"' && decide (pos + 1 < q.length) &&
      char q pos == ':')) (isAt q (pos + 1) ':')) (fun x => x = true → pos + 1 < q.length) := by
    refine both_left (Meets.ok ?_) fun _ => ?_
    · intro h
      rw [Bool.and_eq_true, Bool.and_eq_true] at h
      exact of_decide_eq_true h.1.2
    · exact (isAt_meets (by omega) ':').any
  refine hcast.bind fun x hx => Meets.ite (fun htrue => ?_) fun _ => ?_
  · have hlt := hx htrue
    rw [readQuery_ok (by omega)]
    refine Meets.ok ?_
    split
    · exact hlt
    · trivial
  refine Meets.ite (fun _ => ?_) fun _ => ?_
  · refine (startsArrayLiteral_meets pos).bind fun x hx => Meets.ok ?_
    split
    case isTrue h =>
      exact hx h
    case isFalse =>
      trivial
  refine Meets.ite (fun _ => Meets.ok trivial) fun _ => ?_
  refine Meets.ite (fun _ => ?_) fun _ => Meets.ok trivial
  obtain ⟨n, hn, -⟩ := literalPrefixLen_ok (q := q) pos
  rw [hn]
  refine Meets.ok ?_
  split
  · trivial
  case isFalse hne =>
    exact ⟨n, hn, hne⟩

/-! ## The result -/

namespace DigestSt

variable {s : DigestSt dMaxLen}

theorem readRes_ok (s : DigestSt dMaxLen) (pos : Int) (hnonneg : 0 ≤ pos) (hle : pos ≤ dMaxLen) :
    ∃ c, s.readRes pos = .ok c := by
  obtain ⟨c, hc⟩ := s.res.exists_read hnonneg (by omega)
  exact ⟨c, by rw [readRes, hc]⟩

theorem writeRes_ok (s : DigestSt dMaxLen) {pos : Nat} (h : pos ≤ dMaxLen) (c : Char) :
    ∃ res, s.writeRes pos c = .ok { s with res := res } := by
  obtain ⟨res, hres⟩ := s.res.exists_write (Nat.lt_succ_of_le h) c
  exact ⟨res, by rw [writeRes, hres]⟩

theorem emit_ok (h : s.resCurPos ≤ dMaxLen) (c : Char) :
    ∃ res, s.emit c = .ok { s with res := res, resCurPos := s.resCurPos + 1 } := by
  obtain ⟨res, hres⟩ := s.writeRes_ok h c
  exact ⟨res, by rw [emit, hres]; rfl⟩

theorem emitMark_ok (h : s.resPrePos ≤ dMaxLen) :
    ∃ res, s.emitMark = .ok { s with res := res, resCurPos := s.resPrePos + 1 } :=
  emit_ok (s := { s with resCurPos := s.resPrePos }) h '?'

theorem incProcPos_ok (h : s.qCurPos ≤ q.length) :
    ∃ prev, s.incProcPos q =
      .ok { s with prevChar := prev, keepPrevChar := false, qCurPos := s.qCurPos + 1 } := by
  unfold incProcPos
  split
  case isTrue hkeep =>
    refine ⟨char q s.qCurPos, ?_⟩
    rw [readQuery_ok h, ← hkeep]
    rfl
  case isFalse hkeep =>
    exact ⟨s.prevChar, rfl⟩

theorem copyNextChar_ok
    (opts : Options)
    (hpos : s.qCurPos ≤ q.length)
    (hcur : s.resCurPos ≤ dMaxLen) :
    ∃ res prev, s.copyNextChar q opts =
      .ok { s with
        res := res
        resCurPos := s.resCurPos + 1
        prevChar := prev
        keepPrevChar := false
        qCurPos := s.qCurPos + 1 } := by
  obtain ⟨res, hres⟩ := emit_ok hcur (if isSpaceChar (char q s.qCurPos) then ' '
    else if opts.lowercase then (char q s.qCurPos).toLower else char q s.qCurPos)
  obtain ⟨prev, hprev⟩ :=
    incProcPos_ok (s := { s with res := res, resCurPos := s.resCurPos + 1 }) (q := q) hpos
  refine ⟨res, prev, ?_⟩
  rw [copyNextChar, readQuery_ok hpos]
  change (s.emit _ >>= _) = _
  rw [hres]
  exact hprev

end DigestSt

end Tokenizer

end PolarProxy
