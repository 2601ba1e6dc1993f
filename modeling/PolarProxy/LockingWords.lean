import PolarProxy.Library.SqlLexer
import PolarProxy.Shapes

/-!
# Locking clauses and the word scanner

The word scanner walks over a text with rules of its own.  Wherever it reads a lexeme as
PostgreSQL does, it leaves the lexeme where PostgreSQL does and reports a keyword as one
word.  Five kinds of lexemes are read otherwise: block comments that hold another one,
strings with escapes that a newline continues, identifiers with dollar signs, dollar tags that
are not ASCII, and parameters with a dollar sign behind them.

**Results.** `sqlWords_lineComment`, `skipBlockComment_eq`, `sqlWords_stringBody`,
`skipDoubleQuoted_eq`, `dropPast_eq`, `nextSqlWord_within`.
-/

namespace PolarProxy

/-- A statement whose words contain a locking form. -/
def HoldsLockingClause (query : List Char) : Prop :=
  ∃ earlier later, sqlWords query = earlier ++ later ∧ startsLockingForm later = true

theorem selectHasLockingForClause_iff (query : List Char) :
    selectHasLockingForClause query = true ↔ HoldsLockingClause query :=
  lockingForClause_iff (sqlWords query)

namespace LockingWords

open SqlLexer

/-! ## Lexemes that the scanner misreads -/

/-- Another comment opens before the first end of a comment. -/
def holdsComment : List Char → Bool
  | [] => false
  | [_] => false
  | c :: d :: rest =>
      if c = '*' ∧ d = '/' then false
      else if c = '/' ∧ d = '*' then true
      else holdsComment (d :: rest)

/-- The end of a string depends on whether a backslash escapes. -/
def escapesMatter (body : List Char) : Bool :=
  skipSingleQuoted true body != skipSingleQuoted false body

/-- A newline continues a string with escapes, and the scanner reads the rest without escapes. -/
def continuedMisread : Nat → List Char → Bool
  | 0, _ => false
  | fuel + 1, p =>
      match quotedBody true p with
      | none => false
      | some rest =>
          match quoteContinue false false rest with
          | some body => escapesMatter body || continuedMisread fuel body
          | none => false

/-- Two dollar signs with nothing but letters, digits and underscores between them -/
def holdsDollarPair : List Char → Bool
  | [] => false
  | c :: rest =>
      (c == '$' && (rest.dropWhile isIdentChar).head? == some '$') || holdsDollarPair rest

/-- The scanner takes the last letter of an identifier for the start of a string with escapes. -/
def tailMisread (word rest : List Char) : Bool :=
  match word.reverse.takeWhile isIdentChar, rest with
  | [c], d :: body => (c == 'e' || c == 'E') && d == singleQuote && escapesMatter body
  | _, _ => false

/-- The first lexeme of a text is one that the scanner reads otherwise. -/
def misread : List Char → Bool
  | [] => false
  | c :: rest =>
      match kind c rest with
      | .blockComment => holdsComment rest.tail
      | .escapeString => continuedMisread rest.length rest.tail
      | .dollarString => (rest.takeWhile isTagChar).any isHigh
      | .parameter => (rest.dropWhile isDigit).head? == some '$'
      | .identifier =>
          holdsDollarPair (c :: rest.takeWhile isIdentCont) ||
            tailMisread (c :: rest.takeWhile isIdentCont) (rest.dropWhile isIdentCont)
      | _ => false

/-- The tokens before the first lexeme that the scanner misreads -/
def plainTokens (text : List Char) : List Token :=
  tokensWhile (fun p => !misread p) text.length text

/-! ## One turn of the scanner -/

theorem nextSqlWord_cons (c : Char) (rest : List Char) :
    nextSqlWord (c :: rest) =
      match scanStep c rest with
      | .inl p => nextSqlWord p
      | .inr found => some found := by
  rw [nextSqlWord, List.length_cons, nextSqlWordFrom]
  cases hstep : scanStep c rest with
  | inl p =>
      exact nextSqlWordFrom_length ((scanStep_length c rest).1 p hstep)
  | inr found =>
      rfl

theorem sqlWords_of_inl
    {c : Char} {rest p : List Char}
    (h : scanStep c rest = .inl p) :
    sqlWords (c :: rest) = sqlWords p := by
  rw [sqlWords_eq, nextSqlWord_cons, h]
  exact (sqlWords_eq p).symm

theorem sqlWords_of_inr
    {c : Char} {rest word p : List Char}
    (h : scanStep c rest = .inr (word, p)) :
    sqlWords (c :: rest) = word :: sqlWords p := by
  rw [sqlWords_eq, nextSqlWord_cons, h]

/-- The scanner comes from a text to one of its tails, and reports some words on its way. -/
def Reaches (p q : List Char) : Prop :=
  ∃ words, sqlWords p = words ++ sqlWords q

theorem Reaches.of_eq
    {p q : List Char}
    (h : sqlWords p = sqlWords q) :
    Reaches p q :=
  ⟨[], h⟩

theorem Reaches.trans
    {p q r : List Char}
    (h : Reaches p q)
    (h' : Reaches q r) :
    Reaches p r := by
  obtain ⟨words, hwords⟩ := h
  obtain ⟨words', hwords'⟩ := h'
  exact ⟨words ++ words', by rw [hwords, hwords', List.append_assoc]⟩

theorem scanStep_skipped
    {c : Char} {rest : List Char}
    (hdash : ¬ (c = '-' ∧ rest.head? = some '-'))
    (hslash : ¬ (c = '/' ∧ rest.head? = some '*'))
    (hescape : ¬ ((c = 'e' ∨ c = 'E') ∧ rest.head? = some singleQuote))
    (hquote : c ≠ singleQuote)
    (hdouble : c ≠ PolarProxy.doubleQuote)
    (hdollar : c = '$' → skipDollarQuoted rest = none)
    (hident : isIdentChar c = false) :
    scanStep c rest = .inl rest := by
  have hnot : ¬ (c = '$' ∧ (skipDollarQuoted rest).isSome = true) := by
    rintro ⟨hc, hsome⟩
    rw [hdollar hc] at hsome
    cases hsome
  rw [scanStep]
  simp only [hdash, hslash, hescape, hquote, hdouble, hnot, hident, if_false, Bool.false_eq_true,
    ite_self]

/-- Blanks that the scanner does not know are skipped like other characters. -/
theorem sqlWords_blank
    {c : Char}
    (h : SqlLexer.isSpace c = true)
    (rest : List Char) :
    sqlWords (c :: rest) = sqlWords rest := by
  apply sqlWords_of_inl
  have hcode : c.toNat = 32 ∨ 9 ≤ c.toNat ∧ c.toNat ≤ 13 := by
    simpa [SqlLexer.isSpace] using h
  have hne : ∀ d : Char, 32 < d.toNat → c ≠ d := by
    rintro d hd rfl
    omega
  apply scanStep_skipped
  · exact fun h => hne '-' (by decide) h.1
  · exact fun h => hne '/' (by decide) h.1
  · rintro ⟨h | h, -⟩
    · exact hne 'e' (by decide) h
    · exact hne 'E' (by decide) h
  · exact hne singleQuote (by decide)
  · exact hne PolarProxy.doubleQuote (by decide)
  · exact fun h => absurd h (hne '$' (by decide))
  · simp only [isIdentChar, Bool.or_eq_false_iff, Bool.and_eq_false_iff, decide_eq_false_iff_not,
      beq_eq_false_iff_ne]
    omega

theorem skipLineComment_eq (p : List Char) : skipLineComment p = SqlLexer.lineComment p := by
  rw [skipLineComment, SqlLexer.lineComment]
  congr 1
  funext c
  rw [isNewline, Bool.not_or]
  rfl

theorem sqlWords_lineComment (rest : List Char) :
    sqlWords ('-' :: '-' :: rest) = sqlWords (SqlLexer.lineComment rest) := by
  apply sqlWords_of_inl
  rw [← skipLineComment_eq]
  simp [scanStep, asciiSpace]

/-! ## Lexemes with an end -/

theorem skipBlockComment_eq
    {body q : List Char}
    (hplain : holdsComment body = false)
    (h : blockComment 0 body = some q) :
    skipBlockComment body = q := by
  fun_induction skipBlockComment body with
  | case1 => cases h
  | case2 => cases h
  | case3 c d rest hend =>
      rw [blockComment, if_pos hend] at h
      cases h
      rfl
  | case4 c d rest hend ih =>
      rw [blockComment, if_neg hend] at h
      rw [holdsComment, if_neg hend] at hplain
      by_cases hopen : c = '/' ∧ d = '*'
      · rw [if_pos hopen] at hplain
        cases hplain
      · rw [if_neg hopen] at h hplain
        exact ih hplain h

theorem skipSingleQuoted_eq
    {escapes : Bool} {p q : List Char}
    (h : quotedBody escapes p = some q) :
    skipSingleQuoted escapes p = q := by
  have hquote : SqlLiterals.quote = singleQuote := rfl
  have hbackslash : SqlLexer.backslash = PolarProxy.backslash := rfl
  fun_induction skipSingleQuoted escapes p with
  | case1 => cases h
  | case2 c =>
      rw [quotedBody] at h
      split_ifs at h
      cases h
      rfl
  | case3 c d rest hescape ih =>
      rw [quotedBody, hbackslash, if_pos hescape] at h
      exact ih h
  | case4 rest hescape ih =>
      rw [quotedBody, hbackslash, if_neg hescape, hquote, if_pos rfl, if_pos rfl] at h
      exact ih h
  | case5 d rest hd hescape =>
      rw [quotedBody, hbackslash, if_neg hescape, hquote, if_pos rfl, if_neg hd] at h
      cases h
      rfl
  | case6 c d rest hescape hc ih =>
      rw [quotedBody, hbackslash, if_neg hescape, hquote, if_neg hc] at h
      exact ih h

theorem skipDoubleQuoted_eq
    {p q : List Char}
    (h : identifierBody p = some q) :
    skipDoubleQuoted p = q := by
  have hquote : SqlLexer.doubleQuote = PolarProxy.doubleQuote := rfl
  fun_induction skipDoubleQuoted p with
  | case1 => cases h
  | case2 c =>
      rw [identifierBody] at h
      split_ifs at h
      cases h
      rfl
  | case3 rest ih =>
      rw [identifierBody, hquote, if_pos rfl, if_pos rfl] at h
      exact ih h
  | case4 d rest hd =>
      rw [identifierBody, hquote, if_pos rfl, if_neg hd] at h
      cases h
      rfl
  | case5 c d rest hc ih =>
      rw [identifierBody, hquote, if_neg hc] at h
      exact ih h

theorem dropPast_eq
    {delimiter p q : List Char}
    (h : dollarBody delimiter p = some q) :
    dropPast delimiter p = q := by
  induction p with
  | nil => cases h
  | cons c rest ih =>
      rw [dollarBody] at h
      rw [dropPast]
      split_ifs at h ⊢ with hhere
      · cases h
        rfl
      · exact ih h

theorem sqlWords_string (body : List Char) :
    sqlWords (singleQuote :: body) = sqlWords (skipSingleQuoted false body) := by
  apply sqlWords_of_inl
  have hspace : asciiSpace singleQuote = false := by decide
  have hdash : ¬ (singleQuote = '-' ∧ body.head? = some '-') := fun h => absurd h.1 (by decide)
  have hslash : ¬ (singleQuote = '/' ∧ body.head? = some '*') := fun h => absurd h.1 (by decide)
  have hescape : ¬ ((singleQuote = 'e' ∨ singleQuote = 'E') ∧ body.head? = some singleQuote) :=
    fun h => absurd h.1 (by decide)
  rw [scanStep]
  simp only [hspace, hdash, hslash, hescape, if_false, Bool.false_eq_true, if_true]

theorem sqlWords_quoteContinue
    {newline : Bool} {p body : List Char} :
    (quoteContinue false newline p = some body →
      sqlWords p = sqlWords (singleQuote :: body)) ∧
    (quoteContinue true newline p = some body →
      sqlWords (SqlLexer.lineComment p) = sqlWords (singleQuote :: body)) := by
  induction p generalizing newline with
  | nil =>
      constructor
      · intro h
        cases h
      · intro h
        cases h
  | cons c rest ih =>
      have hnewline : ∀ c, isNewline c = true → SqlLexer.isSpace c = true := by
        intro c h
        simp only [isNewline, SqlLexer.isSpace, Bool.or_eq_true, Bool.and_eq_true, beq_iff_eq,
          decide_eq_true_eq] at h ⊢
        omega
      constructor
      · intro h
        rw [quoteContinue] at h
        by_cases hline : isNewline c = true
        · rw [if_pos hline] at h
          rw [sqlWords_blank (hnewline c hline)]
          exact ih.1 h
        rw [if_neg hline, if_neg Bool.false_ne_true] at h
        by_cases hquote : c = SqlLiterals.quote
        · rw [if_pos hquote] at h
          split_ifs at h
          cases h
          rw [hquote]
          rfl
        rw [if_neg hquote] at h
        by_cases hspace : SqlLexer.isSpace c = true
        · rw [if_pos hspace] at h
          rw [sqlWords_blank hspace]
          exact ih.1 h
        rw [if_neg hspace] at h
        split_ifs at h with hdash
        obtain ⟨rfl, hhead⟩ := hdash
        cases rest with
        | nil => cases hhead
        | cons d rest =>
            obtain rfl : d = '-' := by simpa using hhead
            have hcomment := ih.2 h
            rw [sqlWords_lineComment]
            rwa [SqlLexer.lineComment, List.dropWhile_cons_of_pos (by decide)] at hcomment
      · intro h
        rw [quoteContinue] at h
        by_cases hline : isNewline c = true
        · rw [if_pos hline] at h
          rw [SqlLexer.lineComment, List.dropWhile_cons_of_neg (by simp [hline])]
          rw [sqlWords_blank (hnewline c hline)]
          exact ih.1 h
        · rw [if_neg hline, if_pos rfl] at h
          rw [SqlLexer.lineComment, List.dropWhile_cons_of_pos (by simp [hline])]
          exact ih.2 h

/-- A string with everything that continues it -/
theorem sqlWords_stringBody
    {escapes : Bool} {fuel : Nat} {p q : List Char}
    (hplain : escapes = true → continuedMisread fuel p = false)
    (h : stringBody escapes fuel p = some q) :
    sqlWords (skipSingleQuoted escapes p) = sqlWords q := by
  induction fuel generalizing p with
  | zero => cases h
  | succ fuel ih =>
      rw [stringBody] at h
      cases hbody : quotedBody escapes p with
      | none =>
          rw [hbody] at h
          cases h
      | some rest =>
          rw [skipSingleQuoted_eq hbody]
          simp only [hbody] at h
          cases hmore : quoteContinue false false rest with
          | none =>
              simp only [hmore] at h
              cases h
              rfl
          | some body =>
              simp only [hmore] at h
              rw [sqlWords_quoteContinue.1 hmore, sqlWords_string]
              cases escapes with
              | false =>
                  exact ih (fun h => by cases h) h
              | true =>
                  have hcontinued := hplain rfl
                  simp only [continuedMisread, hbody, hmore, Bool.or_eq_false_iff] at hcontinued
                  have hsame : skipSingleQuoted true body = skipSingleQuoted false body := by
                    simpa [escapesMatter] using hcontinued.1
                  rw [← hsame]
                  exact ih (fun _ => hcontinued.2) h

/-! ## The scanner stays in the text -/

theorem skipSingleQuoted_suffix (escapes : Bool) (p : List Char) :
    skipSingleQuoted escapes p <:+ p := by
  fun_induction skipSingleQuoted escapes p with
  | case1 => exact List.suffix_refl _
  | case2 c => exact List.suffix_cons c []
  | case3 c d rest hescape ih =>
      exact ih.trans ((List.suffix_cons d rest).trans (List.suffix_cons c _))
  | case4 rest hescape ih =>
      exact ih.trans ((List.suffix_cons _ rest).trans (List.suffix_cons _ _))
  | case5 d rest hd hescape => exact List.suffix_cons _ _
  | case6 c d rest hescape hc ih => exact ih.trans (List.suffix_cons c _)

theorem skipDoubleQuoted_suffix (p : List Char) : skipDoubleQuoted p <:+ p := by
  fun_induction skipDoubleQuoted p with
  | case1 => exact List.suffix_refl _
  | case2 c => exact List.suffix_cons c []
  | case3 rest ih => exact ih.trans ((List.suffix_cons _ rest).trans (List.suffix_cons _ _))
  | case4 d rest hd => exact List.suffix_cons _ _
  | case5 c d rest hc ih => exact ih.trans (List.suffix_cons c _)

theorem skipBlockComment_suffix (p : List Char) : skipBlockComment p <:+ p := by
  fun_induction skipBlockComment p with
  | case1 => exact List.suffix_refl _
  | case2 c => exact List.suffix_cons c []
  | case3 c d rest hend => exact (List.suffix_cons d rest).trans (List.suffix_cons c _)
  | case4 c d rest hend ih => exact ih.trans (List.suffix_cons c _)

theorem dropPast_suffix (delimiter p : List Char) : dropPast delimiter p <:+ p := by
  induction p with
  | nil => exact List.suffix_refl _
  | cons c rest ih =>
      rw [dropPast]
      split
      · exact List.drop_suffix _ _
      · exact ih.trans (List.suffix_cons c rest)

theorem skipDollarQuoted_suffix
    {p q : List Char}
    (h : skipDollarQuoted p = some q) :
    q <:+ p := by
  rw [skipDollarQuoted] at h
  have hdrop := List.dropWhile_suffix isIdentChar (l := p)
  cases hrest : p.dropWhile isIdentChar with
  | nil =>
      rw [hrest] at h
      cases h
  | cons c body =>
      simp only [hrest] at h
      split_ifs at h
      cases h
      rw [hrest] at hdrop
      exact (dropPast_suffix _ body).trans ((List.suffix_cons c body).trans hdrop)

/-- A turn leaves the first character behind and stays in the text. -/
theorem scanStep_within (c : Char) (rest : List Char) :
    (∀ q, scanStep c rest = .inl q → q <:+ rest) ∧
      (∀ word q, scanStep c rest = .inr (word, q) → word ≠ [] ∧ word ++ q = c :: rest) := by
  have htail : rest.tail <:+ rest := List.tail_suffix rest
  have hdollar : ((skipDollarQuoted rest).getD []) <:+ rest := by
    cases h : skipDollarQuoted rest with
    | none => exact List.nil_suffix
    | some q => exact skipDollarQuoted_suffix h
  rw [scanStep]
  constructor
  · intro q h
    split_ifs at h
    · cases h
      exact List.suffix_refl _
    · cases h
      exact (List.dropWhile_suffix _).trans htail
    · cases h
      exact (skipBlockComment_suffix _).trans htail
    · cases h
      exact (skipSingleQuoted_suffix true _).trans htail
    · cases h
      exact skipSingleQuoted_suffix false rest
    · cases h
      exact skipDoubleQuoted_suffix rest
    · cases h
      exact hdollar
    · cases h
      exact List.suffix_refl _
  · intro word q h
    split_ifs at h
    cases h
    constructor
    · exact List.cons_ne_nil _ _
    · rw [List.cons_append, List.takeWhile_append_dropWhile]

/-- A word that the scanner reports lies in the text, and the scanner goes on behind it. -/
theorem nextSqlWord_within
    {p word q : List Char}
    (h : nextSqlWord p = some (word, q)) :
    word ≠ [] ∧ ∃ skipped, p = skipped ++ (word ++ q) := by
  induction hlength : p.length using Nat.strong_induction_on generalizing p with
  | _ n ih =>
    cases p with
    | nil => cases h
    | cons c rest =>
        obtain ⟨hskip, hword⟩ := scanStep_within c rest
        rw [nextSqlWord_cons] at h
        cases hstep : scanStep c rest with
        | inl p =>
            rw [hstep] at h
            obtain ⟨skipped, hsuffix⟩ := hskip p hstep
            have hlt : p.length < n := by
              rw [← hlength, ← hsuffix, List.length_cons, List.length_append]
              omega
            obtain ⟨hne, more, hmore⟩ := ih p.length hlt h rfl
            refine ⟨hne, c :: (skipped ++ more), ?_⟩
            rw [← hsuffix, hmore, List.cons_append, List.append_assoc]
        | inr found =>
            rw [hstep] at h
            cases h
            obtain ⟨hne, heq⟩ := hword word q hstep
            exact ⟨hne, [], heq.symm⟩

end LockingWords

end PolarProxy
