import PolarProxy.DigestSelection

/-!
# What the stages of the digest leave alone

Only the function of the state for comments touches the first comment.  All others, the compression
stages and the loop leave it and the state of comments as they are, whatever they read and write.
The character that is kept for the next round is gone when a round ends.

**Results.**
* `DigestSt.process_leaves`: the functions of the other states.
* `DigestSt.stage1Step_retains`: a round of the first stage.
* `DigestSt.compress_leaves`: the compression stages.
* `DigestSt.Reached.queryDigest_retains`: what a digest returns, seen from a state of its loop.
-/

namespace PolarProxy

namespace Tokenizer

open Loops Memory

variable {q : List Char} {opts : Options} {dMaxLen : Nat}

/-- Any error -/
def Any (_ : Stop Fault) : Prop :=
  True

theorem any_meets {α : Type} (m : Checked α) : Meets Any m (fun _ => True) := by
  cases m with
  | ok a =>
      trivial
  | error e =>
      trivial

theorem any_bind
    {α β : Type} {m : Checked α} {f : α → Checked β} {R : β → Prop}
    (h : ∀ a, Meets Any (f a) R) :
    Meets Any (m >>= f) R :=
  (any_meets m).bind fun a _ => h a

namespace DigestSt

/-- The first comment, the state of comments and the flag of a kept character are left alone. -/
structure Leaves (s t : DigestSt dMaxLen) : Prop where
  fst : t.fstCmnt = s.fstCmnt
  cmnt : t.cmntType1St = s.cmntType1St
  keep : s.keepPrevChar = false → t.keepPrevChar = false

variable {s t u : DigestSt dMaxLen}

theorem Leaves.refl (s : DigestSt dMaxLen) : Leaves s s :=
  ⟨rfl, rfl, id⟩

theorem Leaves.trans
    (h : Leaves s t)
    (h' : Leaves t u) :
    Leaves s u :=
  ⟨h'.fst.trans h.fst, h'.cmnt.trans h.cmnt, fun hkeep => h'.keep (h.keep hkeep)⟩

variable {m : Checked (DigestSt dMaxLen)}

theorem Leaves.bind
    {f : DigestSt dMaxLen → Checked (DigestSt dMaxLen)}
    (h : Meets Any m (Leaves s))
    (hf : ∀ t, Meets Any (f t) (Leaves t)) :
    Meets Any (m >>= f) (Leaves s) :=
  Meets.bind h fun t ht => (hf t).imp fun _ hu => ht.trans hu

/-! ## The result -/

theorem writeRes_leaves (pos : Nat) (c : Char) : Meets Any (s.writeRes pos c) (Leaves s) := by
  unfold writeRes
  split
  · exact Meets.ok ⟨rfl, rfl, id⟩
  · exact Meets.error trivial

theorem emit_leaves (c : Char) : Meets Any (s.emit c) (Leaves s) :=
  Leaves.bind (writeRes_leaves _ c) fun _ => Meets.ok ⟨rfl, rfl, id⟩

theorem emitMark_leaves : Meets Any s.emitMark (Leaves s) :=
  (emit_leaves (s := { s with resCurPos := s.resPrePos }) '?').imp fun _ h => ⟨h.fst, h.cmnt, h.keep⟩

theorem incProcPos_leaves : Meets Any (s.incProcPos q) (Leaves s) := by
  unfold incProcPos
  split
  · exact any_bind fun _ => Meets.ok ⟨rfl, rfl, id⟩
  · exact Meets.ok ⟨rfl, rfl, fun _ => rfl⟩

theorem copyNextChar_leaves : Meets Any (s.copyNextChar q opts) (Leaves s) :=
  any_bind fun _ => Leaves.bind (emit_leaves _) fun _ => incProcPos_leaves

/-! ## The functions of the states -/

/-- The function of a state leaves the first comment alone, and keeps no character behind itself. -/
def LeavesSt (s : DigestSt dMaxLen) (r : ParseSt × DigestSt dMaxLen) : Prop :=
  r.2.fstCmnt = s.fstCmnt ∧ r.2.cmntType1St = s.cmntType1St ∧
    (r.1 = .noMarkFound → s.keepPrevChar = false → r.2.keepPrevChar = false)

theorem Leaves.st
    (h : Leaves s t)
    (next : ParseSt) :
    LeavesSt s (next, t) :=
  ⟨h.fst, h.cmnt, fun _ => h.keep⟩

theorem Leaves.bindSt
    {f : DigestSt dMaxLen → Checked (ParseSt × DigestSt dMaxLen)}
    (h : Meets Any m (Leaves s))
    (hf : ∀ t, Meets Any (f t) (LeavesSt t)) :
    Meets Any (m >>= f) (LeavesSt s) := by
  refine Meets.bind h fun t ht => (hf t).imp fun r hr => ?_
  exact ⟨hr.1.trans ht.fst, hr.2.1.trans ht.cmnt, fun hnext hkeep => hr.2.2 hnext (ht.keep hkeep)⟩

theorem processCmntType2_leaves : Meets Any (s.processCmntType2 q) (LeavesSt s) := by
  refine any_bind fun begins => ?_
  split
  · exact any_bind fun _ => Meets.ite (fun _ => Meets.ok ⟨rfl, rfl, fun _ => id⟩)
      fun _ => Meets.ok ⟨rfl, rfl, fun _ => id⟩
  · exact any_bind fun _ => Meets.ite (fun _ => Meets.ok ⟨rfl, rfl, fun _ => id⟩)
      fun _ => Meets.ok ⟨rfl, rfl, fun _ => id⟩

theorem tryConsumeUescape_leaves : Meets Any (s.tryConsumeUescape q) (Leaves s) := by
  refine any_bind fun _ => any_bind fun _ => Meets.ite (fun _ => ?_) fun _ => Meets.ok (Leaves.refl s)
  refine any_bind fun _ => any_bind fun _ => any_bind fun _ => ?_
  refine Meets.ite (fun _ => ?_) fun _ => Meets.ok (Leaves.refl s)
  exact any_bind fun _ => Meets.ok ⟨rfl, rfl, id⟩

theorem processLiteralString_leaves : Meets Any (s.processLiteralString q) (LeavesSt s) := by
  refine any_bind fun c => ?_
  refine Meets.ite (fun _ => Meets.ok ⟨rfl, rfl, fun _ => id⟩) fun _ => ?_
  refine Meets.ite (fun _ => Meets.ok ⟨rfl, rfl, fun hnext => ParseSt.noConfusion hnext⟩) fun _ => ?_
  refine any_bind fun _ => Meets.ite (fun _ => ?_) fun _ => Meets.ok ⟨rfl, rfl, fun _ => id⟩
  refine Leaves.bindSt emitMark_leaves fun t => ?_
  refine Meets.ite (fun _ => Meets.ok ⟨rfl, rfl, fun _ => id⟩) fun _ => ?_
  refine Meets.ite (fun _ => ?_) fun _ => Meets.ok ⟨rfl, rfl, fun _ => id⟩
  exact Meets.bind tryConsumeUescape_leaves fun u hu =>
    Meets.ok ⟨hu.fst, hu.cmnt, fun _ => hu.keep⟩

theorem processLiteralPrefixType_leaves : Meets Any (s.processLiteralPrefixType q) (LeavesSt s) := by
  refine any_bind fun n => ?_
  split
  · exact Meets.ok ((Leaves.refl s).st _)
  · exact processLiteralString_leaves
  · exact processLiteralString_leaves

theorem closeDollarQuote_leaves : Meets Any (s.closeDollarQuote q) (LeavesSt s) := by
  refine Meets.ite (fun _ => ?_) fun _ => Meets.ok ((Leaves.refl s).st _)
  refine any_bind fun _ => Meets.ite (fun _ => ?_) fun _ => Meets.ok ((Leaves.refl s).st _)
  exact Leaves.bindSt emitMark_leaves fun t => Meets.ok ⟨rfl, rfl, fun _ => id⟩

theorem openDollarQuote_leaves : Meets Any (s.openDollarQuote q) (fun r => Leaves s r.2) := by
  unfold openDollarQuote
  refine Meets.ite (fun _ => Meets.ok (Leaves.refl s)) fun _ => ?_
  refine any_bind fun p => any_bind fun _ => Meets.ite (fun _ => ?_) fun _ => Meets.ok (Leaves.refl s)
  refine Meets.ite (fun _ => Meets.ok ⟨rfl, rfl, id⟩) fun _ => Meets.ok ⟨rfl, rfl, id⟩

theorem processDollarQuoteString_leaves : Meets Any (s.processDollarQuoteString q) (LeavesSt s) := by
  refine Meets.ite (fun _ => ?_) fun _ => closeDollarQuote_leaves
  refine Meets.bind openDollarQuote_leaves fun r hr => ?_
  refine Meets.ite (fun _ => ?_) fun _ => Meets.ok (hr.st _)
  exact Leaves.bindSt (Meets.ok hr) fun t => closeDollarQuote_leaves

theorem processQuotedIdentifier_leaves : Meets Any (s.processQuotedIdentifier q) (LeavesSt s) := by
  refine any_bind fun c => Meets.ite (fun _ => Meets.ok ⟨rfl, rfl, fun _ => id⟩) fun _ => ?_
  exact Meets.ite (fun _ => Meets.ok ⟨rfl, rfl, fun _ => id⟩)
    fun _ => Meets.ok ⟨rfl, rfl, fun _ => id⟩

theorem startLiteralDigit_leaves (c : Char) : Meets Any (s.startLiteralDigit c) (Leaves s) := by
  refine Meets.ite (fun _ => ?_) fun _ => Meets.ok (Leaves.refl s)
  exact Leaves.bind (writeRes_leaves _ c) fun t => Meets.ok ⟨rfl, rfl, id⟩

theorem processLiteralDigit_leaves : Meets Any (s.processLiteralDigit q) (LeavesSt s) := by
  refine any_bind fun c => Leaves.bindSt (startLiteralDigit_leaves c) fun t => ?_
  refine Meets.ite (fun _ => ?_) fun _ => Meets.ok ((Leaves.refl t).st _)
  refine any_bind fun _ => Meets.ite (fun _ => ?_) fun _ => Meets.ok ⟨rfl, rfl, fun _ => id⟩
  refine Meets.bind (emit_leaves (s := { t with resCurPos := t.literalDigSt.startPos.getD 0 }) '?')
    fun u hu => ?_
  exact Meets.ite (fun _ => Meets.ok ⟨hu.fst, hu.cmnt, fun _ => hu.keep⟩)
    fun _ => Meets.ok ⟨hu.fst, hu.cmnt, fun _ => hu.keep⟩

theorem replaceWord_leaves (found : Bool) (n : Nat) :
    Meets Any (s.replaceWord q opts found n) (LeavesSt s) := by
  refine Meets.ite (fun _ => ?_) fun _ => ?_
  · exact Leaves.bindSt emitMark_leaves fun t => Meets.ok ⟨rfl, rfl, fun _ => id⟩
  · exact Leaves.bindSt copyNextChar_leaves fun t => Meets.ok ((Leaves.refl t).st _)

theorem processReplaceNull_leaves : Meets Any (s.processReplaceNull q opts) (LeavesSt s) :=
  any_bind fun found => replaceWord_leaves found 4

theorem processReplaceBoolean_leaves : Meets Any (s.processReplaceBoolean q opts) (LeavesSt s) := by
  refine any_bind fun _ => Meets.ite (fun _ => any_bind fun found => replaceWord_leaves found 4)
    fun _ => ?_
  exact any_bind fun _ => Meets.ite (fun _ => any_bind fun found => replaceWord_leaves found 5)
    fun _ => replaceWord_leaves false 0

theorem startPgTypecast_leaves : Meets Any (s.startPgTypecast q) (Leaves s) :=
  Meets.ite (fun _ => any_bind fun _ => Meets.ok ⟨rfl, rfl, id⟩) fun _ => Meets.ok (Leaves.refl s)

theorem processPgTypecast_leaves : Meets Any (s.processPgTypecast q) (LeavesSt s) := by
  refine Leaves.bindSt startPgTypecast_leaves fun t => ?_
  refine Meets.ite (fun _ => Meets.ok ((Leaves.refl t).st _)) fun _ => ?_
  exact any_bind fun _ => any_bind fun _ => any_bind fun _ => any_bind fun _ =>
    Meets.ok ⟨rfl, rfl, fun _ => id⟩

theorem openArrayLiteral_leaves : Meets Any (s.openArrayLiteral q) (fun r => Leaves s r.2) := by
  refine Meets.ite (fun _ => Meets.ok (Leaves.refl s)) fun _ => ?_
  refine any_bind fun p => any_bind fun _ => ?_
  exact Meets.ite (fun _ => Meets.ok ⟨rfl, rfl, id⟩) fun _ => Meets.ok (Leaves.refl s)

theorem continueArrayLiteral_leaves : Meets Any (s.continueArrayLiteral q) (LeavesSt s) := by
  refine Meets.ite (fun _ => Meets.ok ((Leaves.refl s).st _)) fun _ => any_bind fun p => ?_
  refine Meets.ite (fun _ => Meets.ok ⟨rfl, rfl, fun _ => id⟩) fun _ => any_bind fun c => ?_
  refine Meets.ite (fun _ => Meets.ok ⟨rfl, rfl, fun _ => id⟩) fun _ => ?_
  refine Meets.ite (fun _ => ?_) fun _ => Meets.ok ⟨rfl, rfl, fun _ => id⟩
  refine Meets.ite (fun _ => ?_) fun _ => Meets.ok ⟨rfl, rfl, fun _ => id⟩
  exact Meets.bind emitMark_leaves fun t ht => Meets.ok ⟨ht.fst, ht.cmnt, fun _ => ht.keep⟩

theorem processArrayLiteral_leaves : Meets Any (s.processArrayLiteral q) (LeavesSt s) := by
  refine Meets.ite (fun _ => ?_) fun _ => continueArrayLiteral_leaves
  refine Meets.bind openArrayLiteral_leaves fun r hr => ?_
  refine Meets.ite (fun _ => ?_) fun _ => Meets.ok (hr.st _)
  exact Leaves.bindSt (Meets.ok hr) fun t => continueArrayLiteral_leaves

/-- Whatever state the loop is in but the one for comments, its function leaves the first comment
alone. -/
theorem process_leaves (hst : s.st ≠ .cmntType1) : Meets Any (s.process q opts) (LeavesSt s) := by
  unfold process
  split
  case h_1 =>
    exact Meets.ok ((Leaves.refl s).st _)
  case h_2 heq =>
    exact absurd heq hst
  case h_3 =>
    exact processCmntType2_leaves (s := { s with copyNext := false })
  case h_4 =>
    exact processLiteralString_leaves (s := { s with copyNext := false })
  case h_5 =>
    exact processLiteralDigit_leaves (s := { s with copyNext := true })
  case h_6 =>
    exact processReplaceNull_leaves
  case h_7 =>
    exact processDollarQuoteString_leaves (s := { s with copyNext := false })
  case h_8 =>
    exact processPgTypecast_leaves (s := { s with copyNext := false })
  case h_9 =>
    exact processLiteralPrefixType_leaves (s := { s with copyNext := false })
  case h_10 =>
    exact processReplaceBoolean_leaves
  case h_11 =>
    exact processArrayLiteral_leaves (s := { s with copyNext := false })
  case h_12 =>
    exact processQuotedIdentifier_leaves (s := { s with copyNext := true })

/-! ## Comments behind the first one -/

/-- The first comment is left alone if it has ended. -/
structure Retains (s t : DigestSt dMaxLen) : Prop where
  fst : s.cmntType1St.fstCmntEnd = true →
    t.fstCmnt = s.fstCmnt ∧ t.cmntType1St.fstCmntEnd = true
  keep : s.keepPrevChar = false → t.keepPrevChar = false

theorem Retains.refl (s : DigestSt dMaxLen) : Retains s s :=
  ⟨fun h => ⟨rfl, h⟩, id⟩

theorem Retains.trans
    (h : Retains s t)
    (h' : Retains t u) :
    Retains s u := by
  refine ⟨fun hend => ?_, fun hkeep => h'.keep (h.keep hkeep)⟩
  obtain ⟨hfst, hend'⟩ := h.fst hend
  obtain ⟨hfst', hend''⟩ := h'.fst hend'
  exact ⟨hfst'.trans hfst, hend''⟩

theorem Leaves.retains (h : Leaves s t) : Retains s t :=
  ⟨fun hend => ⟨h.fst, by rw [h.cmnt]; exact hend⟩, h.keep⟩

theorem Retains.bind
    {f : DigestSt dMaxLen → Checked (DigestSt dMaxLen)}
    (h : Meets Any m (Retains s))
    (hf : ∀ t, Meets Any (f t) (Retains t)) :
    Meets Any (m >>= f) (Retains s) :=
  Meets.bind h fun t ht => (hf t).imp fun _ hu => ht.trans hu

theorem Retains.bindSt
    {f : DigestSt dMaxLen → Checked (ParseSt × DigestSt dMaxLen)}
    (h : Meets Any m (Retains s))
    (hf : ∀ t, Meets Any (f t) (fun r => Retains t r.2)) :
    Meets Any (m >>= f) (fun r => Retains s r.2) :=
  Meets.bind h fun t ht => (hf t).imp fun _ hu => ht.trans hu

theorem keepCmntChar_retains (c : Char) : Meets Any (s.keepCmntChar c) (Retains s) := by
  unfold keepCmntChar
  split
  · exact Meets.ok ⟨fun hend => ⟨rfl, hend⟩, id⟩
  · exact Meets.error trivial

theorem endKeptCmnt_retains : Meets Any s.endKeptCmnt (Retains s) := by
  unfold endKeptCmnt
  split
  · exact Meets.ok ⟨fun hend => ⟨rfl, hend⟩, id⟩
  · exact Meets.error trivial

/-- Writing the first comment does not touch the kept character. -/
theorem writeFstCmnt_keep (pos : Nat) (c : Char) :
    Meets Any (s.writeFstCmnt pos c) (fun t => t.keepPrevChar = s.keepPrevChar) := by
  unfold writeFstCmnt
  split
  · exact Meets.error trivial
  · split
    · exact Meets.ok rfl
    · exact Meets.error trivial

theorem fstCmntChar_keep (c : Char) :
    Meets Any (s.fstCmntChar c) (fun t => t.keepPrevChar = s.keepPrevChar) :=
  (writeFstCmnt_keep _ c).bind fun _ ht => Meets.ok ht

theorem allocFstCmnt_keep : Meets Any s.allocFstCmnt (fun t => t.keepPrevChar = s.keepPrevChar) := by
  unfold allocFstCmnt
  split
  · exact writeFstCmnt_keep (s := { s with fstCmnt := some _ }) _ nul
  · exact Meets.ok rfl

theorem retains_of_open
    (hopen : s.cmntType1St.fstCmntEnd = false)
    (h : Meets Any m (fun t => t.keepPrevChar = s.keepPrevChar)) :
    Meets Any m (Retains s) :=
  h.imp fun _ hkeep =>
    ⟨fun hend => absurd (hopen.symm.trans hend) Bool.false_ne_true, fun hs => hkeep.trans hs⟩

theorem endFstCmnt_retains : Meets Any s.endFstCmnt (Retains s) := by
  unfold endFstCmnt
  split
  case isTrue htracked =>
    exact retains_of_open htracked.1 ((writeFstCmnt_keep _ nul).bind fun _ ht => Meets.ok ht)
  case isFalse =>
    exact Meets.ok (Retains.refl s)

theorem endCmntAtQueryEnd_retains :
    Meets Any (s.endCmntAtQueryEnd opts) (fun r => Retains s r.2) := by
  refine Retains.bindSt endFstCmnt_retains fun t => ?_
  refine Retains.bindSt ?_ fun u => Meets.ok ⟨fun hend => ⟨rfl, hend⟩, id⟩
  exact Meets.ite (fun _ => endKeptCmnt_retains) fun _ => Meets.ok (Retains.refl t)

theorem openCmntType1_retains : Meets Any (s.openCmntType1 q opts) (Retains s) := by
  have hbegun : Retains s (if s.cmntType1St.nestLevel = 0 then
      { s with cmntType1St := { s.cmntType1St with curCmdCmntLen := 0 } } else s) := by
    split
    · exact ⟨fun hend => ⟨rfl, hend⟩, id⟩
    · exact Retains.refl s
  unfold openCmntType1
  generalize (if s.cmntType1St.nestLevel = 0 then
    { s with cmntType1St := { s.cmntType1St with curCmdCmntLen := 0 } } else s) = s' at hbegun ⊢
  have hnested : Retains s { s' with
      cmntType1St := { s'.cmntType1St with nestLevel := s'.cmntType1St.nestLevel + 1 } } :=
    hbegun.trans ⟨fun hend => ⟨rfl, hend⟩, id⟩
  refine any_bind fun c => any_bind fun d => ?_
  refine Retains.bind (s := s) ?_ fun t => ?_
  · refine Meets.ite (fun _ => ?_) fun _ => Meets.ok hnested
    exact Retains.bind ((keepCmntChar_retains c).imp fun _ ht => hnested.trans ht)
      fun t => keepCmntChar_retains d
  · refine Retains.bind ?_ fun u => Meets.ok ⟨fun hend => ⟨rfl, hend⟩, id⟩
    refine Meets.ite (fun htracked => ?_) fun _ => Meets.ok (Retains.refl t)
    refine retains_of_open htracked.1 (any_bind fun _ => (fstCmntChar_keep c).bind fun u hu => ?_)
    exact (fstCmntChar_keep d).imp fun _ hv => hv.trans hu

theorem copyCmntChar_retains : Meets Any (s.copyCmntChar q opts) (Retains s) := by
  refine any_bind fun c => Retains.bind ?_ fun t => ?_
  · exact Meets.ite (fun _ => keepCmntChar_retains c) fun _ => Meets.ok (Retains.refl s)
  · refine Meets.ite (fun htracked => ?_) fun _ => Meets.ok (Retains.refl t)
    refine retains_of_open htracked.1 (allocFstCmnt_keep.bind fun u hu => ?_)
    exact (fstCmntChar_keep _).imp fun _ hv => hv.trans hu

theorem emitAll_leaves (cs : List Char) : Meets Any (s.emitAll cs) (Leaves s) := by
  induction cs generalizing s with
  | nil =>
      exact Meets.ok (Leaves.refl s)
  | cons c cs ih =>
      exact Leaves.bind (emit_leaves c) fun t => ih

theorem emitKeptCmnt_retains : Meets Any s.emitKeptCmnt (Retains s) := by
  refine Retains.bind endKeptCmnt_retains fun t => ?_
  refine Retains.bind ((emitAll_leaves _).imp fun _ => Leaves.retains) fun u => any_bind fun last => ?_
  refine Retains.bind ?_ fun v => Meets.ok ⟨fun hend => ⟨rfl, hend⟩, id⟩
  exact Meets.ite (fun _ => (emit_leaves ' ').imp fun _ => Leaves.retains)
    fun _ => Meets.ok (Retains.refl u)

theorem closeCmntType1_retains : Meets Any (s.closeCmntType1 opts) (Retains s) := by
  refine Retains.bind (s := s) ?_ fun t => any_bind fun spaceless => ?_
  · exact Meets.ite (fun _ => emitKeptCmnt_retains) fun _ => Meets.ok (Retains.refl s)
  refine Retains.bind (s := t) ?_ fun u => ?_
  · exact Meets.ite (fun _ => (emit_leaves ' ').imp fun _ => Leaves.retains)
      fun _ => Meets.ok (Retains.refl t)
  have hcut : Retains u (if u.cmntType1St.fstCmntEnd = false ∧ u.fstCmnt.isSome ∧
      u.cmntType1St.fstCmntLen ≥ 2 then
        { u with
          prevChar := ' '
          cmntType1St := { u.cmntType1St with fstCmntLen := u.cmntType1St.fstCmntLen - 2 } }
      else { u with prevChar := ' ' }) := by
    split
    · exact ⟨fun hend => ⟨rfl, hend⟩, id⟩
    · exact ⟨fun hend => ⟨rfl, hend⟩, id⟩
  exact Retains.bind (endFstCmnt_retains.imp fun _ hv => hcut.trans hv)
    fun v => Meets.ok ⟨fun hend => ⟨rfl, hend⟩, id⟩

theorem continueCmntType1_retains :
    Meets Any (s.continueCmntType1 q opts) (fun r => Retains s r.2) := by
  refine Retains.bindSt copyCmntChar_retains fun t => any_bind fun closes => ?_
  have hnest : Retains t (if closes = true ∧ t.cmntType1St.nestLevel > 0 then
      { t with cmntType1St := { t.cmntType1St with nestLevel := t.cmntType1St.nestLevel - 1 } }
      else t) := by
    split
    · exact ⟨fun hend => ⟨rfl, hend⟩, id⟩
    · exact Retains.refl t
  dsimp only
  refine Retains.bindSt (s := t) ?_ fun u => ?_
  · exact Meets.ite (fun _ => closeCmntType1_retains.imp fun _ hv => hnest.trans hv)
      fun _ => Meets.ok hnest
  · exact Meets.ite (fun _ => endCmntAtQueryEnd_retains) fun _ => Meets.ok (Retains.refl u)

theorem processCmntType1_retains :
    Meets Any (s.processCmntType1 q opts) (fun r => Retains s r.2) := by
  refine any_bind fun _ => Meets.ite (fun _ => ?_) fun _ => continueCmntType1_retains
  refine Retains.bindSt openCmntType1_retains fun t => ?_
  exact Meets.ite (fun _ => endCmntAtQueryEnd_retains) fun _ => continueCmntType1_retains

/-! ## Rounds -/

theorem neutralStep_leaves : Meets Any (s.neutralStep q opts) (Leaves s) := by
  refine any_bind fun st => Meets.ite (fun _ => Meets.ok ⟨rfl, rfl, id⟩) fun _ => any_bind fun c => ?_
  refine Meets.ite (fun _ => Meets.ok ⟨rfl, rfl, id⟩) fun _ => ?_
  refine Meets.ite (fun _ => any_bind fun last => ?_) fun _ => ?_
  · split
    · exact Meets.bind (writeRes_leaves _ ' ') fun t ht => Meets.ok ⟨ht.fst, ht.cmnt, ht.keep⟩
    · exact Meets.bind (writeRes_leaves _ ' ') fun t ht => Meets.ok ⟨ht.fst, ht.cmnt, ht.keep⟩
  · exact copyNextChar_leaves.imp fun _ ht => ⟨ht.fst, ht.cmnt, ht.keep⟩

/-- What is consumed at the end of a round leaves no character for the next one. -/
theorem incProcPos_keep : Meets Any (s.incProcPos q) (fun t => t.keepPrevChar = false) := by
  unfold incProcPos
  split
  case isTrue hkeep =>
    exact any_bind fun _ => Meets.ok hkeep
  case isFalse =>
    exact Meets.ok rfl

theorem copyNextChar_keep : Meets Any (s.copyNextChar q opts) (fun t => t.keepPrevChar = false) :=
  any_bind fun _ => any_bind fun _ => incProcPos_keep

theorem markStep_retains_of
    (h : Meets Any (s.process q opts) (fun r =>
      (s.cmntType1St.fstCmntEnd = true →
        r.2.fstCmnt = s.fstCmnt ∧ r.2.cmntType1St.fstCmntEnd = true) ∧
      (r.1 = .noMarkFound → s.keepPrevChar = false → r.2.keepPrevChar = false))) :
    Meets Any (s.markStep q opts) (Retains s) := by
  refine h.bind fun r hr => Meets.ite (fun hnext => ?_) fun _ => ?_
  · split
    · exact Meets.ok ⟨hr.1, hr.2 hnext⟩
    · exact Meets.ok ⟨hr.1, hr.2 hnext⟩
  · refine Meets.ite (fun _ => ?_) fun _ => ?_
    · refine (copyNextChar_leaves.and copyNextChar_keep).imp fun t ht => ⟨fun hend => ?_, fun _ => ht.2⟩
      obtain ⟨hfst, hend'⟩ := ht.1.retains.fst (hr.1 hend).2
      exact ⟨hfst.trans (hr.1 hend).1, hend'⟩
    · refine (incProcPos_leaves.and incProcPos_keep).imp fun t ht => ⟨fun hend => ?_, fun _ => ht.2⟩
      obtain ⟨hfst, hend'⟩ := ht.1.retains.fst (hr.1 hend).2
      exact ⟨hfst.trans (hr.1 hend).1, hend'⟩

theorem process_of_cmntType1 (hst : s.st = .cmntType1) :
    s.process q opts = processCmntType1 q opts { s with copyNext := false } := by
  unfold process
  split
  case h_2 =>
    rfl
  all_goals
    rename_i heq
    rw [hst] at heq
    cases heq

theorem markStep_retains : Meets Any (s.markStep q opts) (Retains s) := by
  refine markStep_retains_of ?_
  by_cases hst : s.st = .cmntType1
  · rw [process_of_cmntType1 hst]
    exact (processCmntType1_retains (s := { s with copyNext := false })).imp
      fun r hr => ⟨hr.fst, fun _ => hr.keep⟩
  · refine (process_leaves hst).imp fun r hr => ⟨fun hend => ⟨hr.1, ?_⟩, hr.2.2⟩
    rw [hr.2.1]
    exact hend

/-- A round leaves the first comment alone if it has ended. -/
theorem stage1Step_retains : Meets Any (s.stage1Step q opts) (fun r => Retains s r.1) := by
  refine Meets.ite (fun _ => ?_) fun _ => Meets.ok (Retains.refl s)
  refine Meets.bind (R := Retains s) ?_ fun t ht => Meets.ok ht
  exact Meets.ite (fun _ => neutralStep_leaves.imp fun _ => Leaves.retains) fun _ => markStep_retains

/-! ## Between the loops of the first stage -/

theorem loop_leaves
    {step : DigestSt dMaxLen → Checked (DigestSt dMaxLen × Bool)}
    (hstep : ∀ t, Meets Any (step t) (fun r => Leaves t r.1))
    (fuel : Nat) :
    Meets Any (loop step fuel s) (Leaves s) := by
  refine Meets.loop (I := Leaves s) trivial (fun t ht => (hstep t).imp fun r hr => ?_) fuel s
    (Leaves.refl s)
  split
  · exact ht.trans hr
  · exact ht.trans hr

theorem setStageNextStartPos_leaves (digestEnd : Int) (next : Option Int) :
    Leaves s (s.setStageNextStartPos digestEnd next) := by
  unfold setStageNextStartPos
  split
  · split
    · exact ⟨rfl, rfl, id⟩
    · exact ⟨rfl, rfl, id⟩
  · exact ⟨rfl, rfl, id⟩

theorem keep_leaves : Meets Any s.keep (Leaves s) :=
  any_bind fun c => Leaves.bind (writeRes_leaves _ c) fun _ => Meets.ok ⟨rfl, rfl, id⟩

theorem put_leaves (c : Char) : Meets Any (s.put c) (Leaves s) :=
  Leaves.bind (writeRes_leaves _ c) fun _ => Meets.ok ⟨rfl, rfl, id⟩

theorem drop_leaves : Leaves s s.drop :=
  ⟨rfl, rfl, id⟩

theorem putAll_leaves (cs : List Char) : Meets Any (s.putAll cs) (Leaves s) := by
  induction cs generalizing s with
  | nil =>
      exact Meets.ok (Leaves.refl s)
  | cons c cs ih =>
      exact Leaves.bind (put_leaves c) fun t => ih

theorem moveDigits_leaves (rem pos : Nat) : Meets Any (s.moveDigits rem pos) (Leaves s) := by
  induction rem generalizing s pos with
  | zero =>
      exact Meets.ok (Leaves.refl s)
  | succ rem ih =>
      refine any_bind fun c => Leaves.bind (put_leaves c) fun t => ?_
      exact (ih (s := t.drop) (pos + 1)).imp fun _ hu => drop_leaves.trans hu

theorem endCompressionStageIt_leaves (digestEnd : Int) :
    Meets Any (s.endCompressionStageIt digestEnd) (fun r => Leaves s r.2) := by
  have hend : Meets Any (do return (s.resPrePos, ← s.writeRes s.resPrePos nul) :
      Checked (Nat × DigestSt dMaxLen)) (fun r => Leaves s r.2) :=
    Meets.bind (writeRes_leaves _ nul) fun t ht => Meets.ok ht
  unfold endCompressionStageIt
  split
  · refine Meets.ite (fun _ => ?_) fun _ => hend
    refine Meets.bind (moveDigits_leaves (s := { s with
      literalDigSt := { s.literalDigSt with startPos := some s.resPrePos } }) _ _) fun t ht => ?_
    exact Meets.bind (writeRes_leaves t.resPrePos nul) fun u hu =>
      Meets.ok ⟨hu.fst.trans ht.fst, hu.cmnt.trans ht.cmnt, fun hkeep => hu.keep (ht.keep hkeep)⟩
  · exact hend

theorem endStage_leaves (digestEnd : Int) :
    Meets Any (s.endStage digestEnd) (fun r => Leaves s r.2) :=
  Meets.bind (endCompressionStageIt_leaves digestEnd) fun _ hr => Meets.ok ⟨hr.fst, hr.cmnt, hr.keep⟩

theorem stage2Step_leaves (digestEnd : Int) :
    Meets Any (s.stage2Step opts digestEnd) (fun r => Leaves s r.1) := by
  have hround : ∀ {m : Checked (DigestSt dMaxLen)}, Meets Any m (Leaves s) →
      Meets Any (do return (← m, true) : Checked (DigestSt dMaxLen × Bool)) (fun r => Leaves s r.1) :=
    fun h => Meets.bind h fun t ht => Meets.ok ht
  have hdrop : Meets Any (.ok s.drop : Checked (DigestSt dMaxLen)) (Leaves s) :=
    Meets.ok drop_leaves
  refine Meets.ite (fun _ => any_bind fun c => ?_) fun _ => Meets.ok (Leaves.refl s)
  refine Meets.ite (fun _ => hround ?_) fun _ => Meets.ite (fun _ => hround ?_) fun _ =>
    Meets.ite (fun _ => hround ?_) fun _ => hround keep_leaves
  · refine any_bind fun lc => any_bind fun rc => Meets.ite (fun _ => hdrop) fun _ => ?_
    refine Meets.ite (fun _ => any_bind fun llc => ?_) fun _ => ?_
    · exact Meets.ite (fun _ => keep_leaves) fun _ => hdrop
    · exact Meets.ite (fun _ => hdrop) fun _ => keep_leaves
  · refine any_bind fun llc => any_bind fun lc => any_bind fun rc => ?_
    refine Meets.ite (fun _ => Meets.ite (fun _ => hdrop) fun _ => ?_) fun _ => ?_
    · exact Meets.ite (fun _ => hdrop) fun _ => keep_leaves
    · exact Meets.ite (fun _ => hdrop) fun _ => keep_leaves
  · refine any_bind fun marks => Leaves.bind ?_ fun t => Meets.ok drop_leaves
    exact Meets.ite (fun _ => put_leaves '?') fun _ => Meets.ok (Leaves.refl s)

theorem stage2Parsing_leaves : Meets Any (s.stage2Parsing opts) (Leaves s) := by
  refine Leaves.bind ((loop_leaves (fun t => stage2Step_leaves _) _).imp fun _ ht =>
    (setStageNextStartPos_leaves _ _).trans ht) fun t => ?_
  exact Meets.bind (endStage_leaves _) fun r hr => Meets.ok ⟨hr.fst, hr.cmnt, hr.keep⟩

theorem collapseExpansion_leaves (digestEnd : Int) :
    Meets Any (s.collapseExpansion digestEnd) (fun r => Leaves s r.1) := by
  refine any_bind fun c => any_bind fun r => ?_
  have hmoved : Leaves s (if r.1 > s.resCurPos + 1 ∨ r.2 = true then
      { s with resCurPos := r.1 } else s) := by
    split
    · exact ⟨rfl, rfl, id⟩
    · exact Leaves.refl s
  exact Meets.ite (fun _ => any_bind fun _ => Meets.ok hmoved) fun _ => Meets.ok hmoved

theorem collapseGroup_leaves (digestEnd : Int) :
    Meets Any (s.collapseGroup opts digestEnd) (Leaves s) := by
  refine any_bind fun r => Meets.ite (fun _ => ?_) fun _ => ?_
  · exact Meets.bind (putAll_leaves _) fun t ht => Meets.ok ⟨ht.fst, ht.cmnt, ht.keep⟩
  · exact Meets.bind (putAll_leaves _) fun t ht => Meets.ok ⟨ht.fst, ht.cmnt, ht.keep⟩

theorem stage3Step_leaves (digestEnd : Int) (groupCandidate : Bool) :
    Meets Any (stage3Step opts digestEnd (s, groupCandidate)) (fun r => Leaves s r.1.1) := by
  refine Meets.ite (fun _ => any_bind fun expansion => ?_) fun _ => Meets.ok (Leaves.refl s)
  refine Meets.bind (R := fun r => Leaves s r.1) ?_ fun r hr => ?_
  · exact Meets.ite (fun _ => collapseExpansion_leaves digestEnd) fun _ => Meets.ok (Leaves.refl s)
  refine Meets.ite (fun _ => Meets.ok hr) fun _ => any_bind fun group => ?_
  refine Meets.bind (R := Leaves s) ?_ fun t ht => any_bind fun c => Meets.ok ht
  exact Meets.ite (fun _ => (collapseGroup_leaves digestEnd).imp fun _ ht => hr.trans ht)
    fun _ => keep_leaves.imp fun _ ht => hr.trans ht

theorem stage3Parsing_leaves : Meets Any (s.stage3Parsing opts) (Leaves s) := by
  refine Meets.ite (fun _ => Meets.ok (Leaves.refl s)) fun _ => ?_
  refine Meets.bind (R := fun r => Leaves s r.1) ?_ fun r hr => ?_
  · refine Meets.loop (I := fun r => Leaves s r.1) trivial (fun r hr => ?_) _ _
      (setStageNextStartPos_leaves _ _)
    refine (stage3Step_leaves _ r.2).imp fun r' hr' => ?_
    split
    · exact hr.trans hr'
    · exact hr.trans hr'
  · exact Meets.bind (endStage_leaves _) fun r' hr' =>
      Meets.ok ⟨hr'.fst.trans hr.fst, hr'.cmnt.trans hr.cmnt, fun hkeep => hr'.keep (hr.keep hkeep)⟩

theorem collapseExpansionGroups_leaves (digestEnd : Int) :
    Meets Any (s.collapseExpansionGroups opts digestEnd) (fun r => Leaves s r.2) :=
  any_bind fun _ => any_bind fun _ => Meets.ite (fun _ => Meets.ok ⟨rfl, rfl, id⟩)
    fun _ => Meets.ok (Leaves.refl s)

theorem collapseGroups_leaves (digestEnd : Int) :
    Meets Any (s.collapseGroups opts digestEnd) (Leaves s) := by
  refine any_bind fun r => Meets.ite (fun _ => ?_) fun _ => Meets.ok (Leaves.refl s)
  refine Leaves.bind (any_bind fun text => putAll_leaves text) fun t => ?_
  exact Meets.bind (putAll_leaves _) fun u hu => Meets.ok ⟨hu.fst, hu.cmnt, hu.keep⟩

theorem stage4Step_leaves (digestEnd : Int) :
    Meets Any (s.stage4Step opts digestEnd) (fun r => Leaves s r.1) := by
  refine Meets.ite (fun _ => ?_) fun _ => Meets.ok (Leaves.refl s)
  refine Meets.bind (R := fun r => Leaves s r.2) ?_ fun r hr => ?_
  · exact any_bind fun _ => Meets.ite (fun _ => collapseExpansionGroups_leaves digestEnd)
      fun _ => Meets.ok (Leaves.refl s)
  obtain ⟨next, t⟩ := r
  cases next with
  | skipped => exact Meets.ok hr
  | atEnd => exact Meets.ok hr
  | other =>
    refine any_bind fun fit => Meets.bind (R := Leaves s) ?_ fun u hu => ?_
    · exact Meets.ite (fun _ => (collapseGroups_leaves digestEnd).imp fun _ hu => hr.trans hu)
        fun _ => Meets.ok hr
    · exact Meets.ite (fun _ => Meets.ok hu)
        fun _ => Meets.bind keep_leaves fun v hv => Meets.ok (hu.trans hv)

theorem stage4Parsing_leaves : Meets Any (s.stage4Parsing opts) (Leaves s) := by
  refine Meets.ite (fun _ => Meets.ok (Leaves.refl s)) fun _ => ?_
  refine Leaves.bind ((loop_leaves (fun t => stage4Step_leaves _) _).imp fun _ ht =>
    (setStageNextStartPos_leaves _ _).trans ht) fun t => ?_
  exact Meets.bind (endStage_leaves _) fun r hr => Meets.ok ⟨hr.fst, hr.cmnt, hr.keep⟩

/-- The compression stages leave the first comment alone. -/
theorem compress_leaves : Meets Any (s.compress q opts) (fun r => Leaves s r.1) := by
  refine Meets.bind (R := Leaves s) ?_ fun t ht => ?_
  · exact Meets.bind (writeRes_leaves _ nul) fun t ht => Meets.ok ⟨ht.fst, ht.cmnt, ht.keep⟩
  refine Meets.bind (stage2Parsing_leaves.imp fun _ hu => ht.trans hu) fun u hu => ?_
  refine Meets.bind (stage3Parsing_leaves.imp fun _ hv => hu.trans hv) fun v hv => ?_
  refine Meets.bind (stage4Parsing_leaves.imp fun _ hw => hv.trans hw) fun w hw => ?_
  exact Meets.ite (fun _ => Meets.ok ⟨hw.fst, hw.cmnt, hw.keep⟩)
    fun _ => Meets.ok ⟨hw.fst, hw.cmnt, hw.keep⟩

theorem beginStage1_leaves : Meets Any s.beginStage1 (Leaves s) := by
  unfold beginStage1
  cases s.newEndPos with
  | none =>
      exact Meets.ite (fun _ => any_bind fun _ => Meets.ok ⟨rfl, rfl, id⟩)
        fun _ => Meets.ok (Leaves.refl s)
  | some pos =>
      exact Meets.ite (fun _ => any_bind fun _ => Meets.ok ⟨rfl, rfl, id⟩)
        fun _ => Meets.ok ⟨rfl, rfl, id⟩

theorem finalStage_leaves : Meets Any s.finalStage (Leaves s) := by
  refine Leaves.bind ?_ fun t => any_bind fun pos => ?_
  · unfold trimDigits
    split
    · refine any_bind fun _ => Meets.ite (fun _ => ?_) fun _ => Meets.ok (Leaves.refl s)
      refine Leaves.bind (writeRes_leaves _ '?') fun t => ?_
      exact (writeRes_leaves (s := { t with literalDigSt := _ }) _ nul).imp
        fun _ hu => ⟨hu.fst, hu.cmnt, hu.keep⟩
    · exact Meets.ok (Leaves.refl s)
  · exact Meets.bind (writeRes_leaves _ nul) fun u hu => Meets.ok ⟨hu.fst, hu.cmnt, hu.keep⟩

/-! ## From a state of the loop to the result -/

/-- The state in which a digest begins is at the head of its loop. -/
theorem reached_init {buf cmnt : Nat → Char} :
    Reached q opts (init dMaxLen buf cmnt) (init dMaxLen buf cmnt) :=
  .start rfl

theorem Reached.of_rounds
    (h : Reached q opts s t)
    (hrounds : Rounds (stage1Step q opts) t u) :
    Reached q opts s u := by
  induction hrounds with
  | refl =>
      exact h
  | round _ hstep ih =>
      exact .round ih hstep

theorem Reached.keepPrevChar_eq
    (h : Reached q opts s t)
    (hs : s.keepPrevChar = false) :
    t.keepPrevChar = false := by
  induction h with
  | start hbegin =>
      exact (beginStage1_leaves.of_ok hbegin).keep hs
  | round _ hstep ih =>
      exact (stage1Step_retains.of_ok hstep).keep ih
  | iteration _ hstep hcompress hbegin ih =>
      have hkeep := (compress_leaves.of_ok hcompress).keep ((stage1Step_retains.of_ok hstep).keep ih)
      exact (beginStage1_leaves.of_ok hbegin).keep hkeep

/-- What is left of all iterations, from a state of the loop of the first stage on: rounds of this
loop with the fuel `rounds`, and iterations with the fuel `iterations` -/
def resume (q : List Char) (opts : Options) (fuel rounds iterations : Nat) (s : DigestSt dMaxLen) :
    Checked (DigestSt dMaxLen) := do
  let t ← loop (stage1Step q opts) rounds s
  let r ← t.compress q opts
  if r.2 then loop (digestStep q opts fuel) iterations r.1 else return r.1

theorem loop_of_begin
    {fuel iterations : Nat}
    (hbegin : s.beginStage1 = .ok t) :
    loop (digestStep q opts fuel) (iterations + 1) s = resume q opts fuel fuel iterations t := by
  rw [loop, digestStep, hbegin, ok_bind]
  unfold resume
  cases hloop : loop (stage1Step q opts) fuel t with
  | error e =>
      rfl
  | ok u =>
      rfl

/-- A run that has enough fuel comes from every state that it reaches. -/
theorem Reached.resumes
    {fuel iterations : Nat}
    (h : Reached q opts s t)
    (hm : loop (digestStep q opts fuel) iterations s = m)
    (hfuel : m ≠ .error .outOfFuel) :
    ∃ rounds iterations', resume q opts fuel rounds iterations' t = m := by
  induction h with
  | start hbegin =>
      cases iterations with
      | zero =>
          exact absurd hm.symm hfuel
      | succ iterations =>
          exact ⟨fuel, iterations, (loop_of_begin hbegin).symm.trans hm⟩
  | round _ hstep ih =>
      obtain ⟨rounds, iterations', hresume⟩ := ih
      cases rounds with
      | zero =>
          exact absurd hresume.symm hfuel
      | succ rounds =>
          refine ⟨rounds, iterations', ?_⟩
          rw [resume, loop, hstep] at hresume
          exact hresume
  | iteration _ hstep hcompress hbegin ih =>
      obtain ⟨rounds, iterations', hresume⟩ := ih
      cases rounds with
      | zero =>
          exact absurd hresume.symm hfuel
      | succ rounds =>
          rw [resume, loop, hstep] at hresume
          change (compress q opts _ >>= _) = _ at hresume
          rw [hcompress] at hresume
          change loop (digestStep q opts fuel) iterations' _ = m at hresume
          cases iterations' with
          | zero =>
              exact absurd hresume.symm hfuel
          | succ iterations' =>
              exact ⟨fuel, iterations', (loop_of_begin hbegin).symm.trans hresume⟩

/-- A loop whose rounds leave a first comment alone that has ended -/
theorem loop_retains
    {step : DigestSt dMaxLen → Checked (DigestSt dMaxLen × Bool)}
    (hstep : ∀ t, Meets Any (step t) (fun r => Retains t r.1))
    (fuel : Nat) :
    Meets Any (loop step fuel s) (Retains s) := by
  refine Meets.loop (I := Retains s) trivial (fun t ht => (hstep t).imp fun r hr => ?_) fuel s
    (Retains.refl s)
  split
  · exact ht.trans hr
  · exact ht.trans hr

theorem digestStep_retains (fuel : Nat) :
    Meets Any (s.digestStep q opts fuel) (fun r => Retains s r.1) := by
  refine beginStage1_leaves.bind fun t ht => ?_
  refine (loop_retains (fun t => stage1Step_retains) fuel).bind fun u hu => ?_
  exact compress_leaves.imp fun r hr => (ht.retains.trans hu).trans hr.retains

theorem resume_retains (fuel rounds iterations : Nat) :
    Meets Any (resume q opts fuel rounds iterations s) (Retains s) := by
  refine (loop_retains (fun t => stage1Step_retains) rounds).bind fun t ht => ?_
  refine compress_leaves.bind fun r hr => ?_
  have hrest := ht.trans hr.retains
  exact Meets.ite (fun _ => (loop_retains (fun t => digestStep_retains fuel) iterations).imp
    fun _ hu => hrest.trans hu) fun _ => Meets.ok hrest

/-- What the digest returns holds the first comment of every state in which it has ended. -/
theorem Reached.queryDigest_retains
    {buf cmnt : Nat → Char} {s : DigestSt (digestMaxLen q opts)} {fuel : Nat}
    {r : DigestSt (digestMaxLen q opts)}
    (h : Reached q opts (init (digestMaxLen q opts) buf cmnt) s)
    (hr : queryDigest q opts buf cmnt fuel = .ok r) :
    Retains s r := by
  unfold queryDigest at hr
  cases hloop : loop (digestStep q opts fuel) fuel (init (digestMaxLen q opts) buf cmnt) with
  | error e =>
      rw [hloop] at hr
      cases hr
  | ok t =>
      rw [hloop] at hr
      obtain ⟨rounds, iterations, hresume⟩ := h.resumes hloop (by intro heq; cases heq)
      exact ((resume_retains fuel rounds iterations).of_ok hresume).trans
        (finalStage_leaves.of_ok hr).retains

end DigestSt

end Tokenizer

end PolarProxy
