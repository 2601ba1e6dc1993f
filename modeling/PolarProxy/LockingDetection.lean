import PolarProxy.LockingWords

/-!
# Locking clauses behind plain lexemes

A word of the scanner is a run of letters, digits and underscores.  Such runs lie in identifiers,
numbers, parameters and dollar tags, whose lexemes are the last ones to look at.  The scanner goes
over every lexeme that it does not misread, and a keyword becomes one word.

**Results.** `lexes_reaches`, `lexes_sqlWords`, `lockingClause_detected`, `lockingClause_hidden`.
-/

namespace PolarProxy

namespace LockingWords

open SqlLexer

/-! ## Runs of characters -/

theorem run_eq
    {f : Char → Bool} {run tail : List Char}
    (hrun : ∀ c ∈ run, f c = true)
    (htail : tail.head?.any f = false) :
    (run ++ tail).takeWhile f = run ∧ (run ++ tail).dropWhile f = tail := by
  rw [List.takeWhile_append_of_pos hrun, List.dropWhile_append_of_pos hrun]
  cases tail with
  | nil => exact ⟨List.append_nil run, rfl⟩
  | cons c tail =>
      have hc : ¬ f c = true := by simpa using htail
      rw [List.takeWhile_cons_of_neg hc, List.dropWhile_cons_of_neg hc, List.append_nil]
      exact ⟨rfl, rfl⟩

theorem head_dropWhile (f : Char → Bool) (p : List Char) :
    (p.dropWhile f).head?.any f = false := by
  induction p with
  | nil => rfl
  | cons c p ih =>
      by_cases hc : f c = true
      · rwa [List.dropWhile_cons_of_pos hc]
      · rw [List.dropWhile_cons_of_neg hc]
        simpa using hc

theorem head_stronger
    {f g : Char → Bool} {p : List Char}
    (hstronger : ∀ c, g c = true → f c = true)
    (h : p.head?.any f = false) :
    p.head?.any g = false := by
  cases p with
  | nil => rfl
  | cons c p =>
      simp only [List.head?_cons, Option.any_some, Bool.eq_false_iff] at h ⊢
      exact fun hg => h (hstronger c hg)

theorem dropWhile_append_stop
    {f : Char → Bool} {tail : List Char}
    (p : List Char)
    (h : tail.head?.any f = false) :
    (p ++ tail).dropWhile f = p.dropWhile f ++ tail := by
  induction p with
  | nil =>
      have hrun : ∀ c ∈ ([] : List Char), f c = true := fun c hc => by cases hc
      exact (run_eq hrun h).2
  | cons c p ih =>
      rw [List.cons_append, List.dropWhile_cons, List.dropWhile_cons]
      split
      · exact ih
      · rfl

/-- Where the characters of a run all satisfy a stronger condition, it reads the same run. -/
theorem run_stronger
    {f g : Char → Bool} {p : List Char}
    (hrun : ∀ c ∈ p.takeWhile f, g c = true)
    (hstronger : ∀ c, g c = true → f c = true) :
    p.takeWhile g = p.takeWhile f ∧ p.dropWhile g = p.dropWhile f := by
  have hrun := run_eq hrun (head_stronger hstronger (head_dropWhile f p))
  rwa [List.takeWhile_append_dropWhile] at hrun

theorem isIdentChar_eq : isIdentChar = fun c => isLetter c || isDigit c := by
  funext c
  rw [isIdentChar, isLetter, isDigit, Bool.or_right_comm]

variable {c : Char}

theorem isTagChar_of_isIdentChar
    (h : isIdentChar c = true) :
    isTagChar c = true := by
  simp only [isIdentChar_eq] at h
  rw [isTagChar, isIdentStart, Bool.or_right_comm, h, Bool.true_or]

theorem isIdentCont_of_isIdentChar
    (h : isIdentChar c = true) :
    isIdentCont c = true := by
  rw [isIdentCont, isTagChar_of_isIdentChar h, Bool.true_or]

theorem isIdentChar_of_isTagChar
    (h : isTagChar c = true)
    (hhigh : isHigh c = false) :
    isIdentChar c = true := by
  rw [isTagChar, isIdentStart, hhigh, Bool.or_false] at h
  rwa [isIdentChar_eq]

theorem sqlWords_blockComment
    {body q : List Char}
    (hplain : holdsComment body = false)
    (h : blockComment 0 body = some q) :
    sqlWords ('/' :: '*' :: body) = sqlWords q := by
  rw [← skipBlockComment_eq hplain h]
  apply sqlWords_of_inl
  simp [scanStep, asciiSpace]

theorem sqlWords_quotedIdentifier (body : List Char) :
    sqlWords (PolarProxy.doubleQuote :: body) = sqlWords (skipDoubleQuoted body) := by
  apply sqlWords_of_inl
  have hspace : asciiSpace PolarProxy.doubleQuote = false := by decide
  have hdash : PolarProxy.doubleQuote ≠ '-' := by decide
  have hslash : PolarProxy.doubleQuote ≠ '/' := by decide
  have hlower : PolarProxy.doubleQuote ≠ 'e' := by decide
  have hupper : PolarProxy.doubleQuote ≠ 'E' := by decide
  have hquote : PolarProxy.doubleQuote ≠ singleQuote := by decide
  rw [scanStep]
  simp only [hspace, hdash, hslash, hlower, hupper, hquote, false_or, false_and, if_false,
    Bool.false_eq_true, if_true]

theorem sqlWords_escapeString
    (h : c = 'e' ∨ c = 'E')
    (body : List Char) :
    sqlWords (c :: singleQuote :: body) = sqlWords (skipSingleQuoted true body) := by
  apply sqlWords_of_inl
  rcases h with rfl | rfl
  · simp [scanStep, asciiSpace]
  · simp [scanStep, asciiSpace]

variable {rest : List Char}

theorem sqlWords_run
    (hident : isIdentChar c = true)
    (hescape : ¬ ((c = 'e' ∨ c = 'E') ∧ rest.head? = some singleQuote)) :
    sqlWords (c :: rest) =
      (c :: rest.takeWhile isIdentChar) :: sqlWords (rest.dropWhile isIdentChar) := by
  apply sqlWords_of_inr
  have hne : ∀ d : Char, isIdentChar d = false → c ≠ d := by
    rintro d hd rfl
    rw [hident] at hd
    cases hd
  have hspace : asciiSpace c = false := by
    simp only [isIdentChar, asciiSpace, Bool.or_eq_true, Bool.and_eq_true, decide_eq_true_eq,
      beq_iff_eq, Bool.or_eq_false_iff, beq_eq_false_iff_ne] at hident ⊢
    omega
  have hdash : c ≠ '-' := hne '-' (by decide)
  have hslash : c ≠ '/' := hne '/' (by decide)
  have hquote : c ≠ singleQuote := hne singleQuote (by decide)
  have hdouble : c ≠ PolarProxy.doubleQuote := hne PolarProxy.doubleQuote (by decide)
  have hdollar : c ≠ '$' := hne '$' (by decide)
  rw [scanStep]
  simp only [hspace, hdash, hslash, hescape, hquote, hdouble, hdollar, hident, false_and, if_false,
    Bool.false_eq_true, if_true]

/-! ## Dollar signs -/

theorem sqlWords_dollar
    (h : (rest.dropWhile isIdentChar).head? ≠ some '$') :
    sqlWords ('$' :: rest) = sqlWords rest := by
  apply sqlWords_of_inl
  have hnone : skipDollarQuoted rest = none := by
    rw [skipDollarQuoted]
    cases hdrop : rest.dropWhile isIdentChar with
    | nil => rfl
    | cons c body =>
        rw [hdrop] at h
        simp only
        rw [if_neg (by simpa using h)]
  apply scanStep_skipped
  · exact fun h => absurd h.1 (by decide)
  · exact fun h => absurd h.1 (by decide)
  · exact fun h => absurd h.1 (by decide)
  · decide
  · decide
  · exact fun _ => hnone
  · decide

theorem reaches_parameter
    (hdigit : rest.head?.any isDigit = true)
    (hjunk : (rest.dropWhile isDigit).head?.any isIdentStart = false)
    (hplain : (rest.dropWhile isDigit).head? ≠ some '$') :
    Reaches ('$' :: rest) (rest.dropWhile isDigit) := by
  have hstronger : ∀ c, isDigit c = true → isIdentChar c = true := by
    intro c h
    rw [isIdentChar_eq]
    simp only [h, Bool.or_true]
  have htail : (rest.dropWhile isDigit).head?.any isIdentChar = false := by
    have hend := head_dropWhile isDigit rest
    cases hdrop : rest.dropWhile isDigit with
    | nil => rfl
    | cons c tail =>
        rw [hdrop] at hend hjunk
        simp only [List.head?_cons, Option.any_some, isIdentStart, Bool.or_eq_false_iff] at hend hjunk
        simp only [List.head?_cons, Option.any_some, isIdentChar_eq, hend, hjunk, Bool.or_self]
  have hdigits : ∀ c ∈ rest.takeWhile isDigit, isIdentChar c = true :=
    fun c hc => hstronger c (List.mem_takeWhile_imp hc)
  have hrun := run_eq hdigits htail
  rw [List.takeWhile_append_dropWhile] at hrun
  have hdollar : sqlWords ('$' :: rest) = sqlWords rest := by
    apply sqlWords_dollar
    rwa [hrun.2]
  cases rest with
  | nil => cases hdigit
  | cons d rest =>
      have hd : isDigit d = true := by simpa using hdigit
      have hident : isIdentChar d = true := hstronger d hd
      have hword : sqlWords (d :: rest) =
          (d :: rest.takeWhile isIdentChar) :: sqlWords (rest.dropWhile isIdentChar) := by
        apply sqlWords_run hident
        rintro ⟨rfl | rfl, -⟩
        · exact absurd hd (by decide)
        · exact absurd hd (by decide)
      rw [List.dropWhile_cons_of_pos hident] at hrun
      rw [hrun.2] at hword
      exact ⟨[d :: rest.takeWhile isIdentChar], by rw [hdollar, hword, List.singleton_append]⟩

theorem sqlWords_dollarString
    {rest q : List Char} {found : List Char × List Char}
    (hplain : (rest.takeWhile isTagChar).any isHigh = false)
    (htag : dollarTag rest = some found)
    (hbody : dollarBody ('$' :: found.1 ++ ['$']) found.2 = some q) :
    sqlWords ('$' :: rest) = sqlWords q := by
  apply sqlWords_of_inl
  have hascii : ∀ c ∈ rest.takeWhile isTagChar, isIdentChar c = true := by
    intro c hc
    apply isIdentChar_of_isTagChar (List.mem_takeWhile_imp hc)
    simpa using List.any_eq_false.mp hplain c hc
  have hrun := run_stronger hascii fun c => isTagChar_of_isIdentChar
  have hskip : skipDollarQuoted rest = some q := by
    rw [dollarTag] at htag
    rw [skipDollarQuoted, hrun.1, hrun.2]
    cases hdrop : rest.dropWhile isTagChar with
    | nil =>
        rw [hdrop] at htag
        cases htag
    | cons c body =>
        simp only [hdrop] at htag
        split_ifs at htag with hopen
        cases htag
        simp only
        rw [if_pos hopen.1, dropPast_eq hbody]
  have hspace : asciiSpace '$' = false := by decide
  have hdash : ¬ ('$' = '-' ∧ rest.head? = some '-') := fun h => absurd h.1 (by decide)
  have hslash : ¬ ('$' = '/' ∧ rest.head? = some '*') := fun h => absurd h.1 (by decide)
  have hescape : ¬ (('$' = 'e' ∨ '$' = 'E') ∧ rest.head? = some singleQuote) :=
    fun h => absurd h.1 (by decide)
  have hquote : '$' ≠ singleQuote := by decide
  have hdouble : '$' ≠ PolarProxy.doubleQuote := by decide
  rw [scanStep]
  simp only [hspace, hdash, hslash, hescape, hquote, hdouble, hskip, if_false, Bool.false_eq_true,
    Option.isSome_some, and_self, if_true, Option.getD_some]

theorem sqlWords_dollarSign
    (hdigit : rest.head?.any isDigit = false)
    (htag : dollarTag rest = none) :
    sqlWords ('$' :: rest) = sqlWords rest := by
  apply sqlWords_dollar
  intro hhead
  cases hdrop : rest.dropWhile isIdentChar with
  | nil =>
      rw [hdrop] at hhead
      cases hhead
  | cons c body =>
      rw [hdrop] at hhead
      obtain rfl : c = '$' := by simpa using hhead
      have hstop : (rest.dropWhile isIdentChar).head?.any isTagChar = false := by
        rw [hdrop]
        rfl
      have htagged : ∀ c ∈ rest.takeWhile isIdentChar, isTagChar c = true :=
        fun c hc => isTagChar_of_isIdentChar (List.mem_takeWhile_imp hc)
      have hrun := run_eq htagged hstop
      rw [List.takeWhile_append_dropWhile, hdrop] at hrun
      rw [dollarTag, hrun.2] at htag
      simp only [hdigit, and_self, if_true] at htag
      cases htag

/-! ## Identifiers -/

/-- What precedes a character that is in no run does not matter for the last run. -/
theorem tailMisread_append
    {d : Char}
    (hd : isIdentChar d = false)
    (earlier word rest : List Char) :
    tailMisread (earlier ++ d :: word) rest = tailMisread word rest := by
  have hlast : (earlier ++ d :: word).reverse.takeWhile isIdentChar =
      word.reverse.takeWhile isIdentChar := by
    rw [List.reverse_append, List.reverse_cons, List.append_assoc, List.takeWhile_append]
    split
    · rename_i hall
      have hinitial := List.takeWhile_prefix isIdentChar (l := word.reverse)
      rw [List.singleton_append, List.takeWhile_cons_of_neg (by simp [hd]), List.append_nil]
      exact (hinitial.eq_of_length hall).symm
    · rfl
  unfold tailMisread
  rw [hlast]

/-- Behind the first run of a word only the last run matters still. -/
theorem tailMisread_dropWhile
    {word rest : List Char}
    (h : tailMisread (c :: word) rest = false) :
    tailMisread (word.dropWhile isIdentChar) rest = false := by
  have hend := head_dropWhile isIdentChar word
  cases hdrop : word.dropWhile isIdentChar with
  | nil => rfl
  | cons d more =>
      rw [hdrop] at hend
      have hd : isIdentChar d = false := by simpa using hend
      have hword : c :: word = c :: word.takeWhile isIdentChar ++ d :: more := by
        rw [← hdrop, List.cons_append, List.takeWhile_append_dropWhile]
      rw [hword, tailMisread_append hd] at h
      exact (tailMisread_append hd [] more rest).trans h

theorem holdsDollarPair_suffix
    {word more : List Char}
    (hsuffix : more <:+ word)
    (h : holdsDollarPair word = false) :
    holdsDollarPair more = false := by
  obtain ⟨earlier, rfl⟩ := hsuffix
  induction earlier with
  | nil => exact h
  | cons c earlier ih =>
      rw [List.cons_append, holdsDollarPair, Bool.or_eq_false_iff] at h
      exact ih h.2

variable {word tail : List Char}

/-- A character of an identifier that is in no run is skipped. -/
theorem sqlWords_betweenRuns
    (hcont : isIdentCont c = true)
    (hident : isIdentChar c = false)
    (hpair : holdsDollarPair (c :: word) = false)
    (htail : tail.head?.any isIdentCont = false) :
    sqlWords (c :: (word ++ tail)) = sqlWords (word ++ tail) := by
  by_cases hdollar : c = '$'
  · obtain rfl := hdollar
    apply sqlWords_dollar
    rw [dropWhile_append_stop word (head_stronger (fun c => isIdentCont_of_isIdentChar) htail)]
    rw [holdsDollarPair, Bool.or_eq_false_iff] at hpair
    cases hdrop : word.dropWhile isIdentChar with
    | nil =>
        intro hhead
        rw [List.nil_append] at hhead
        rw [hhead] at htail
        exact absurd htail (by decide)
    | cons d more =>
        rw [hdrop] at hpair
        simpa using hpair.1
  · apply sqlWords_of_inl
    have hhigh : isHigh c = true := by
      by_contra hlow
      rw [isIdentCont, Bool.or_eq_true] at hcont
      rcases hcont with htag | hc
      · rw [isIdentChar_of_isTagChar htag (by simpa using hlow)] at hident
        cases hident
      · exact hdollar (eq_of_beq hc)
    have hne : ∀ d : Char, isHigh d = false → c ≠ d := by
      rintro d hd rfl
      rw [hhigh] at hd
      cases hd
    apply scanStep_skipped
    · exact fun h => hne '-' (by decide) h.1
    · exact fun h => hne '/' (by decide) h.1
    · rintro ⟨h | h, -⟩
      · exact hne 'e' (by decide) h
      · exact hne 'E' (by decide) h
    · exact hne singleQuote (by decide)
    · exact hne PolarProxy.doubleQuote (by decide)
    · exact fun h => absurd h hdollar
    · exact hident

/-- An identifier that ends in a single `e` before a string: it makes no difference that the scanner
takes the letter for a part of the string. -/
theorem reaches_escapeTail
    (hall : ∀ d ∈ word, isIdentCont d = true)
    (hescape : (c = 'e' ∨ c = 'E') ∧ (word ++ tail).head? = some singleQuote)
    (hlast : tailMisread (c :: word) tail = false) :
    Reaches (c :: (word ++ tail)) tail := by
  obtain ⟨hc, hhead⟩ := hescape
  cases word with
  | cons d word =>
      obtain rfl : d = singleQuote := by simpa using hhead
      have hd := hall singleQuote List.mem_cons_self
      exact absurd hd (by decide)
  | nil =>
      cases tail with
      | nil => cases hhead
      | cons d body =>
          obtain rfl : d = singleQuote := by simpa using hhead
          have hident : isIdentChar c = true := by
            rcases hc with rfl | rfl
            · decide
            · decide
          have hletter : (c == 'e' || c == 'E') = true := by simpa using hc
          have hsame : skipSingleQuoted true body = skipSingleQuoted false body := by
            have hmatter : escapesMatter body = false := by
              simpa [tailMisread, hident, hletter] using hlast
            simpa [escapesMatter] using hmatter
          apply Reaches.of_eq
          rw [List.nil_append, sqlWords_escapeString hc, hsame, sqlWords_string]

theorem reaches_identifier
    (hall : ∀ c ∈ word, isIdentCont c = true)
    (htail : tail.head?.any isIdentCont = false)
    (hpair : holdsDollarPair word = false)
    (hlast : tailMisread word tail = false) :
    Reaches (word ++ tail) tail := by
  have hstop := head_stronger (fun c => isIdentCont_of_isIdentChar) htail
  induction hlength : word.length using Nat.strong_induction_on generalizing word with
  | _ n ih =>
    cases word with
    | nil => exact .of_eq rfl
    | cons c word =>
        have hcont : isIdentCont c = true := hall c List.mem_cons_self
        have hword : ∀ d ∈ word, isIdentCont d = true :=
          fun d hd => hall d (List.mem_cons_of_mem c hd)
        rw [List.length_cons] at hlength
        by_cases hident : isIdentChar c = true
        · by_cases hescape : (c = 'e' ∨ c = 'E') ∧ (word ++ tail).head? = some singleQuote
          · exact reaches_escapeTail hword hescape hlast
          · have hstep := sqlWords_run hident hescape
            rw [dropWhile_append_stop word hstop] at hstep
            have hsuffix := List.dropWhile_suffix isIdentChar (l := word)
            have hle := hsuffix.length_le
            have hrest : Reaches (word.dropWhile isIdentChar ++ tail) tail := by
              apply ih (word.dropWhile isIdentChar).length (by omega) _ _ _ rfl
              · exact fun d hd => hword d (hsuffix.subset hd)
              · exact holdsDollarPair_suffix (hsuffix.trans (List.suffix_cons c word)) hpair
              · exact tailMisread_dropWhile hlast
            exact .trans ⟨[_], hstep⟩ hrest
        · have hident := Bool.eq_false_iff.mpr hident
          have hskipped := sqlWords_betweenRuns hcont hident hpair htail
          have hrest : Reaches (word ++ tail) tail := by
            apply ih word.length (by omega) hword _ _ rfl
            · exact holdsDollarPair_suffix (List.suffix_cons c word) hpair
            · rw [← tailMisread_append hident [] word tail]
              exact hlast
          exact (Reaches.of_eq hskipped).trans hrest

/-! ## Lexemes -/

variable {p q : List Char}

/-- The scanner goes over a lexeme that it does not misread; it finds no words in one without a
token. -/
theorem reaches_lexeme
    {token : Option Token}
    (hplain : misread p = false)
    (h : lexeme p = some (token, q)) :
    Reaches p q ∧ (token = none → sqlWords p = sqlWords q) := by
  have of_eq : ∀ {p q : List Char}, sqlWords p = sqlWords q →
      Reaches p q ∧ (token = none → sqlWords p = sqlWords q) :=
    fun h => ⟨.of_eq h, fun _ => h⟩
  cases p with
  | nil => cases h
  | cons c rest =>
    rw [lexeme] at h
    rw [misread] at hplain
    revert hplain h
    fun_cases kind c rest with
    | case1 hspace =>
        intro hplain h
        cases h
        exact of_eq (sqlWords_blank hspace q)
    | case2 hspace hdash =>
        intro hplain h
        cases h
        obtain ⟨rfl, hhead⟩ := hdash
        rw [List.eq_cons_of_mem_head? hhead]
        exact of_eq (sqlWords_lineComment rest.tail)
    | case3 hspace hdash hslash =>
        intro hplain h
        obtain ⟨q', hq, heq⟩ := Option.map_eq_some_iff.mp h
        cases heq
        obtain ⟨rfl, hhead⟩ := hslash
        rw [List.eq_cons_of_mem_head? hhead]
        exact of_eq (sqlWords_blockComment hplain hq)
    | case4 hspace hdash hslash hescape =>
        intro hplain h
        obtain ⟨q', hq, heq⟩ := Option.map_eq_some_iff.mp h
        cases heq
        have hwords := sqlWords_stringBody (fun _ => hplain) hq
        rw [List.eq_cons_of_mem_head? hescape.2]
        exact of_eq ((sqlWords_escapeString hescape.1 rest.tail).trans hwords)
    | case5 hspace hdash hslash hescape hquote =>
        intro hplain h
        obtain ⟨q', hq, heq⟩ := Option.map_eq_some_iff.mp h
        cases heq
        have hwords := sqlWords_stringBody (fun h => by cases h) hq
        rw [hquote]
        exact of_eq ((sqlWords_string rest).trans hwords)
    | case6 hspace hdash hslash hescape hquote hdouble =>
        intro hplain h
        obtain ⟨q', hq, heq⟩ := Option.map_eq_some_iff.mp h
        cases heq
        rw [hdouble, ← skipDoubleQuoted_eq hq]
        exact of_eq (sqlWords_quotedIdentifier rest)
    | case7 hspace hdash hslash hescape hquote hdouble hdollar hdigit =>
        intro hplain h
        simp only at hplain h
        split_ifs at h with hjunk
        cases h
        rw [hdollar]
        refine ⟨reaches_parameter hdigit (Bool.eq_false_iff.mpr hjunk) ?_, fun h => by cases h⟩
        simpa using hplain
    | case8 hspace hdash hslash hescape hquote hdouble hdollar hdigit htag =>
        intro hplain h
        obtain ⟨found, hfound, hbody⟩ := Option.bind_eq_some_iff.mp h
        obtain ⟨q', hq, heq⟩ := Option.map_eq_some_iff.mp hbody
        cases heq
        rw [hdollar]
        exact of_eq (sqlWords_dollarString hplain hfound hq)
    | case9 hspace hdash hslash hescape hquote hdouble hdollar hdigit htag =>
        intro hplain h
        cases h
        rw [hdollar]
        exact of_eq (sqlWords_dollarSign (Bool.eq_false_iff.mpr hdigit) (by simpa using htag))
    | case10 hspace hdash hslash hescape hquote hdouble hdollar hident =>
        intro hplain h
        simp only at hplain h
        cases h
        rw [Bool.or_eq_false_iff] at hplain
        have hreached : Reaches (c :: rest.takeWhile isIdentCont ++ rest.dropWhile isIdentCont)
            (rest.dropWhile isIdentCont) := by
          apply reaches_identifier _ (head_dropWhile isIdentCont rest) hplain.1 hplain.2
          intro d hd
          rcases List.mem_cons.mp hd with rfl | hd
          · rw [isIdentCont, isTagChar, hident, Bool.true_or, Bool.true_or]
          · exact List.mem_takeWhile_imp hd
        rw [List.cons_append, List.takeWhile_append_dropWhile] at hreached
        exact ⟨hreached, fun h => by cases h⟩
    | case11 hspace hdash hslash hescape hquote hdouble hdollar hident hdigit =>
        intro hplain h
        simp only at h
        split_ifs at h
        cases h
        have hc : isIdentChar c = true := by
          simp only [isIdentChar_eq, hdigit, Bool.or_true]
        rw [← isIdentChar_eq]
        exact ⟨⟨[_], sqlWords_run hc hescape⟩, fun h => by cases h⟩
    | case12 hspace hdash hslash hescape hquote hdouble hdollar hident hdigit =>
        intro hplain h
        cases h
        have hc : isIdentChar c = false := by
          rw [isIdentStart, Bool.not_eq_true, Bool.or_eq_false_iff] at hident
          simp only [isIdentChar_eq, hident.1, Bool.eq_false_iff.mpr hdigit, Bool.or_self]
        exact of_eq (sqlWords_of_inl
          (scanStep_skipped hdash hslash hescape hquote hdouble (fun h => absurd h hdollar) hc))

/-- A word without dollar signs and characters beyond ASCII is one word of the scanner. -/
theorem sqlWords_keyword
    {p q word : List Char}
    (hword : ∀ c ∈ word, isIdentChar c = true)
    (h : lexeme p = some (some (.word word), q)) :
    sqlWords p = word :: sqlWords q := by
  obtain ⟨c, rest, rfl, hkind, rfl, rfl⟩ := lexeme_word h
  have hident : isIdentChar c = true := hword c List.mem_cons_self
  have hrun := run_stronger (fun d hd => hword d (List.mem_cons_of_mem c hd))
    fun d => isIdentCont_of_isIdentChar
  rw [← hrun.1, ← hrun.2]
  exact sqlWords_run hident (kind_identifier hkind)

/-! ## Texts -/

/-- The scanner goes over lexemes that it does not misread. -/
theorem lexes_reaches
    {tokens : List Token}
    (h : Lexes (fun p => !misread p) p tokens q) :
    Reaches p q := by
  induction h with
  | nil p => exact .of_eq rfl
  | cons hplain hlexeme hrest ih =>
      exact (reaches_lexeme (by simpa using hplain) hlexeme).1.trans ih

/-- Keywords next to each other are words next to each other. -/
theorem lexes_sqlWords
    {words : List (List Char)}
    (hwords : ∀ word ∈ words, ∀ c ∈ word, isIdentChar c = true)
    (h : Lexes (fun p => !misread p) p (words.map Token.word) q) :
    sqlWords p = words ++ sqlWords q := by
  generalize htokens : words.map Token.word = tokens at h
  induction h generalizing words with
  | nil p =>
      obtain rfl := List.map_eq_nil_iff.mp htokens
      rfl
  | @cons p q r token tokens hplain hlexeme hrest ih =>
      cases token with
      | none =>
          rw [(reaches_lexeme (by simpa using hplain) hlexeme).2 rfl]
          exact ih hwords htokens
      | some t =>
          cases words with
          | nil => cases htokens
          | cons word words =>
              obtain ⟨rfl, htail⟩ := List.cons.inj htokens
              rw [sqlWords_keyword (hwords word List.mem_cons_self) hlexeme]
              rw [ih (fun w hw => hwords w (List.mem_cons_of_mem word hw)) htail]
              rfl

theorem isIdentChar_of_asciiLower
    (h : isIdentChar (asciiLower c) = true) :
    isIdentChar c = true := by
  rw [asciiLower] at h
  split at h
  · rename_i hupper
    simp [isIdentChar, hupper]
  · exact h

theorem isIdentChar_of_spells
    {words : List (List Char)} {form : List String}
    (hform : ∀ f ∈ form, (f.toList.map asciiLower).all isIdentChar = true)
    (h : spells words form = true) :
    words.length = form.length ∧ ∀ word ∈ words, ∀ c ∈ word, isIdentChar c = true := by
  induction words generalizing form with
  | nil =>
      cases form with
      | nil => exact ⟨rfl, fun word hword => by cases hword⟩
      | cons f fs => cases h
  | cons w ws ih =>
      cases form with
      | nil => cases h
      | cons f fs =>
          rw [spells, Bool.and_eq_true] at h
          obtain ⟨hlength, hrest⟩ := ih (fun g hg => hform g (List.mem_cons_of_mem f hg)) h.2
          refine ⟨by rw [List.length_cons, List.length_cons, hlength], ?_⟩
          intro word hword
          rcases List.mem_cons.mp hword with rfl | hword
          · have hletters := hform f List.mem_cons_self
            rw [tokenEquals, beq_iff_eq] at h
            rw [← h.1] at hletters
            intro c hc
            exact isIdentChar_of_asciiLower
              (List.all_eq_true.mp hletters (asciiLower c) (List.mem_map_of_mem hc))
          · exact hrest word hword

/-- A locking form before the first lexeme that the scanner misreads is found. -/
theorem selectHasLockingForClause_of_plain
    {text : List Char}
    (h : HoldsLockingForm (plainTokens text)) :
    selectHasLockingForClause text = true := by
  obtain ⟨earlier, words, later, form, htokens, hform, hspells⟩ := h
  obtain ⟨r, hlexes⟩ : ∃ r, Lexes (fun p => !misread p) text (plainTokens text) r :=
    lexes_tokensWhile text.length text
  rw [htokens] at hlexes
  obtain ⟨q, hbefore, hfrom⟩ := hlexes.split
  obtain ⟨q', hhere, hafter⟩ := hfrom.split
  have hletters : ∀ form ∈ lockingForms, ∀ f ∈ form,
      (f.toList.map asciiLower).all isIdentChar = true := by decide
  obtain ⟨hlength, hwords⟩ := isIdentChar_of_spells (hletters form hform) hspells
  obtain ⟨skipped, hskipped⟩ := lexes_reaches hbefore
  rw [lexes_sqlWords hwords hhere] at hskipped
  rw [selectHasLockingForClause_iff]
  refine ⟨skipped, words ++ sqlWords q', hskipped, ?_⟩
  rw [startsLockingForm, List.any_eq_true]
  refine ⟨form, hform, ?_⟩
  rwa [List.take_left' hlength]

/-- Of the tokens of a text, those before the first lexeme that the scanner misreads are read as
they are: a locking form among them is found.  On every text the scanner moves forward with each
turn and reports words of the text only. -/
theorem lockingClause_detected (text : List Char) :
    (∀ tokens, lex text = some tokens → plainTokens text <+: tokens ∧
      (HoldsLockingForm (plainTokens text) → selectHasLockingForClause text = true)) ∧
    (∀ c rest q, scanStep c rest = .inl q → q <:+ rest) ∧
    (∀ word q, nextSqlWord text = some (word, q) →
      word ≠ [] ∧ ∃ skipped, text = skipped ++ (word ++ q)) := by
  refine ⟨?_, ?_, ?_⟩
  · intro tokens hlex
    exact ⟨tokensWhile_initial hlex, selectHasLockingForClause_of_plain⟩
  · intro c rest q h
    exact (scanStep_within c rest).1 q h
  · intro word q h
    exact nextSqlWord_within h

/-- A clause behind a string with escapes, a dollar-quoted string and a comment -/
theorem lockingClause_detected_noKeyUpdate :
    selectHasLockingForClause
      "SELECT E'\\' FOR' || $a$ ' $a$ /* \" */ FROM t FOR NO KEY UPDATE".toList = true := by
  apply ((lockingClause_detected _).1
    [.word "SELECT".toList, .other, .other, .other, .other, .word "FROM".toList,
      .word "t".toList, .word "FOR".toList, .word "NO".toList, .word "KEY".toList,
      .word "UPDATE".toList] (by decide +kernel)).2
  refine ⟨[.word "SELECT".toList, .other, .other, .other, .other, .word "FROM".toList,
    .word "t".toList], ["FOR".toList, "NO".toList, "KEY".toList, "UPDATE".toList], [],
    ["for", "no", "key", "update"], ?_, by decide, by decide +kernel⟩
  decide +kernel

/-- A comment in a comment and a quote behind it hide a locking clause. -/
theorem lockingClause_hidden :
    ¬ ∀ text tokens, lex text = some tokens → HoldsLockingForm tokens →
      selectHasLockingForClause text = true := by
  intro h
  let text := "SELECT 1 /* /* */ ' */ FROM t FOR UPDATE".toList
  have hlex : lex text = some [.word "SELECT".toList, .other, .word "FROM".toList,
      .word "t".toList, .word "FOR".toList, .word "UPDATE".toList] := by decide +kernel
  have hform : HoldsLockingForm [.word "SELECT".toList, .other, .word "FROM".toList,
      .word "t".toList, .word "FOR".toList, .word "UPDATE".toList] :=
    ⟨[.word "SELECT".toList, .other, .word "FROM".toList, .word "t".toList],
      ["FOR".toList, "UPDATE".toList], [], ["for", "update"], rfl, by decide, by decide +kernel⟩
  have hfound := h text _ hlex hform
  have hmissed : selectHasLockingForClause text = false := by decide +kernel
  rw [hmissed] at hfound
  cases hfound

end LockingWords

end PolarProxy
