import Mathlib.Data.List.DropRight
import PolarProxy.Policy

/-!
# Query text

The proxy classifies SQL text with a small word scanner and a few keyword tests;
it does not parse.  This module models that scanner over lists of characters,
one character for each byte of the source text.

A text that the source reads through a pointer ends at its first NUL character;
`cString` cuts the buffer there.  The word scanner walks over blanks, comments,
string literals, quoted identifiers and dollar-quoted bodies, and reports bare
words only.

**Results.** `nextSqlWordFrom_length`, `lockingForClause_iff`,
`hasMultipleStatements_of_separator`.
-/

namespace PolarProxy

/-- Command classification of a statement.  Commands that the consistency code
does not tell apart are `other`. -/
inductive QueryCommand
  | select
  | show_
  | explain
  | begin_
  | commit
  | rollback
  | abort
  | savepoint
  | rollbackToSavepoint
  | releaseSavepoint
  | set_
  | reset
  | unknown
  | uninitialized
  | noCommand
  | other (code : Nat)
  deriving DecidableEq

/-- The part of a buffer that a NUL-terminated reader sees. -/
def cString (buffer : List Char) : List Char :=
  buffer.takeWhile (fun c => c.toNat != 0)

/-- Blanks of the word scanner. -/
def asciiSpace (c : Char) : Bool :=
  c.toNat == 32 || c.toNat == 9 || c.toNat == 10 || c.toNat == 13

/-- The C library's `isspace`. -/
def isSpace (c : Char) : Bool :=
  c.toNat == 32 || (9 ≤ c.toNat && c.toNat ≤ 13)

def asciiLower (c : Char) : Char :=
  if 65 ≤ c.toNat ∧ c.toNat ≤ 90 then Char.ofNat (c.toNat + 32) else c

/-- Characters of a bare word. -/
def isIdentChar (c : Char) : Bool :=
  (65 ≤ c.toNat && c.toNat ≤ 90) || (97 ≤ c.toNat && c.toNat ≤ 122) ||
    (48 ≤ c.toNat && c.toNat ≤ 57) || c.toNat == 95

/-- The character that delimits string literals. -/
def singleQuote : Char := Char.ofNat 39

/-- The character that delimits quoted identifiers. -/
def doubleQuote : Char := Char.ofNat 34

/-- The escape character of `E` string literals. -/
def backslash : Char := Char.ofNat 92

/-- Case-insensitive comparison of a token with a word. -/
def tokenEquals (token : List Char) (word : String) : Bool :=
  token.map asciiLower == word.toList.map asciiLower

/-- Whether the text starts with a keyword that ends at a word boundary. -/
def startsWithKeyword (query : List Char) (word : String) : Bool :=
  let q := query.dropWhile asciiSpace
  tokenEquals (q.take word.length) word &&
    !((q.drop word.length).head?.any isIdentChar)

/-- The same test for the session-state keywords, which must be followed by a
blank, a semicolon or the end of the text. -/
def startsWithSqlKeyword (query : List Char) (keyword : String) : Bool :=
  let q := query.dropWhile isSpace
  tokenEquals (q.take keyword.length) keyword &&
    (q.drop keyword.length).head?.all (fun c => isSpace c || c == ';')

/-- Skip a string literal whose opening quote was consumed. -/
def skipSingleQuoted (backslashEscapes : Bool) : List Char → List Char
  | [] => []
  | [_] => []
  | c :: d :: rest =>
      if backslashEscapes ∧ c = backslash then skipSingleQuoted backslashEscapes rest
      else if c = singleQuote then
        if d = singleQuote then skipSingleQuoted backslashEscapes rest else d :: rest
      else skipSingleQuoted backslashEscapes (d :: rest)

def skipDoubleQuoted : List Char → List Char
  | [] => []
  | [_] => []
  | c :: d :: rest =>
      if c = doubleQuote then
        if d = doubleQuote then skipDoubleQuoted rest else d :: rest
      else skipDoubleQuoted (d :: rest)

def skipLineComment (p : List Char) : List Char :=
  p.dropWhile (fun c => c.toNat != 10 && c.toNat != 13)

def skipBlockComment : List Char → List Char
  | [] => []
  | [_] => []
  | c :: d :: rest =>
      if c = '*' ∧ d = '/' then rest else skipBlockComment (d :: rest)

/-- The text after the first occurrence of a delimiter. -/
def dropPast (delim : List Char) : List Char → List Char
  | [] => []
  | c :: rest =>
      if delim.isPrefixOf (c :: rest) then (c :: rest).drop delim.length
      else dropPast delim rest

/-- Skip a dollar-quoted body whose first dollar sign was consumed; `none` when
the dollar sign does not open one. -/
def skipDollarQuoted (p : List Char) : Option (List Char) :=
  let tag := p.takeWhile isIdentChar
  match p.dropWhile isIdentChar with
  | [] => none
  | c :: body =>
      if c = '$' then some (dropPast ('$' :: tag ++ ['$']) body) else none

/-- One turn of the word scanner at a non-empty text: the text to continue with,
or the word found and the text after it. -/
def scanStep (c : Char) (rest : List Char) : List Char ⊕ (List Char × List Char) :=
  let next := rest.head?
  if asciiSpace c then .inl rest
  else if c = '-' ∧ next = some '-' then .inl (skipLineComment rest.tail)
  else if c = '/' ∧ next = some '*' then .inl (skipBlockComment rest.tail)
  else if (c = 'e' ∨ c = 'E') ∧ next = some singleQuote then
    .inl (skipSingleQuoted true rest.tail)
  else if c = singleQuote then .inl (skipSingleQuoted false rest)
  else if c = doubleQuote then .inl (skipDoubleQuoted rest)
  else if c = '$' ∧ (skipDollarQuoted rest).isSome then
    .inl ((skipDollarQuoted rest).getD [])
  else if isIdentChar c then
    .inr (c :: rest.takeWhile isIdentChar, rest.dropWhile isIdentChar)
  else .inl rest

/-- The next bare word and the text after it, in a bounded number of turns. -/
def nextSqlWordFrom : Nat → List Char → Option (List Char × List Char)
  | 0, _ => none
  | _ + 1, [] => none
  | fuel + 1, c :: rest =>
      match scanStep c rest with
      | .inl p => nextSqlWordFrom fuel p
      | .inr found => some found

def nextSqlWord (p : List Char) : Option (List Char × List Char) :=
  nextSqlWordFrom p.length p

/-- The bare words of a text, in a bounded number of turns. -/
def sqlWordsFrom : Nat → List Char → List (List Char)
  | 0, _ => []
  | fuel + 1, p =>
      match nextSqlWord p with
      | none => []
      | some (word, rest) => word :: sqlWordsFrom fuel rest

/-- The bare words of a text. -/
def sqlWords (p : List Char) : List (List Char) :=
  sqlWordsFrom p.length p

/-- Walk over the words of a statement and look ahead after each `FOR`. -/
def lockingForClause : List (List Char) → Bool
  | [] => false
  | word :: rest =>
      if tokenEquals word "for" then
        match rest with
        | [] => false
        | next :: ahead =>
            if tokenEquals next "update" || tokenEquals next "share" then true
            else if tokenEquals next "no" then
              match ahead with
              | key :: update :: _ =>
                  if tokenEquals key "key" && tokenEquals update "update" then true
                  else lockingForClause rest
              | _ => lockingForClause rest
            else if tokenEquals next "key" then
              match ahead with
              | share :: _ =>
                  if tokenEquals share "share" then true else lockingForClause rest
              | _ => lockingForClause rest
            else lockingForClause rest
      else lockingForClause rest

/-- Whether a statement holds a row-locking `FOR` clause. -/
def selectHasLockingForClause (query : List Char) : Bool :=
  lockingForClause (sqlWords query)

/-- Whether a simple-query buffer holds more than one statement. -/
def queryHasMultipleStatements (buffer : List Char) : Bool :=
  let q := (buffer.dropWhile isSpace).rdropWhile (fun c => c.toNat == 0 || isSpace c)
  let q := if q.getLast? = some ';' then q.dropLast else q
  q.contains ';'

/-! ## Statement classification -/

/-- Whether a `SELECT` may be read on a replica inside a transaction. -/
def isTxnSplitSafeSelect (isTopLevelSelect : Bool) (query : List Char) : Bool :=
  isTopLevelSelect && !selectHasLockingForClause query

/-- Whether a statement already classified as `SELECT` locks rows. -/
def isLockingSelectQuery (query : List Char) : Bool :=
  selectHasLockingForClause query

def shouldAdvanceSessionWriteLsnText : Option (List Char) → Bool
  | none => false
  | some query =>
      !(startsWithKeyword query "select" || startsWithKeyword query "show" ||
        startsWithKeyword query "explain")

def shouldAdvanceSessionWriteLsn (query : Option (List Char)) (command : QueryCommand) : Bool :=
  match command with
  | .select => false
  | .show_ => false
  | .explain => false
  | .unknown => shouldAdvanceSessionWriteLsnText query
  | .uninitialized => shouldAdvanceSessionWriteLsnText query
  | .noCommand => shouldAdvanceSessionWriteLsnText query
  | _ => true

/-- Keywords whose zero position records no write. -/
def safeZeroKeywords : List String :=
  ["SET", "RESET", "DISCARD", "BEGIN", "START", "COMMIT", "END", "ROLLBACK", "SAVEPOINT",
    "RELEASE", "DEALLOCATE", "CLOSE"]

def zeroLsnPayloadCanSkipWaitTarget : Option (List Char) → Bool
  | none => false
  | some query => safeZeroKeywords.any (startsWithSqlKeyword query)

/-- Commands whose transaction-state-only RFQ may leave the session position. -/
def queryCommandCanPreserveSessionLsn : QueryCommand → Bool
  | .select => true
  | .show_ => true
  | .explain => true
  | .begin_ => true
  | .commit => true
  | .rollback => true
  | .abort => true
  | .savepoint => true
  | .rollbackToSavepoint => true
  | .releaseSavepoint => true
  | .set_ => true
  | .reset => true
  | _ => false

/-- The letters and digits of a statement, in lower case. -/
def normalizeQueryWords (buffer : List Char) : List Char :=
  (buffer.filter (fun c => isIdentChar c && c.toNat != 95)).map asciiLower

/-- Whether the normalized text mentions a word. -/
def normalizedMentions (normalized : List Char) (word : String) : Bool :=
  normalized.tails.any word.toList.isPrefixOf

/-- Isolation levels other than `READ COMMITTED`. -/
def normalizedMentionsNonReadCommitted (normalized : List Char) : Bool :=
  normalizedMentions normalized "repeatableread" || normalizedMentions normalized "serializable"

def normalizedSetsSessionIsolationDefault (normalized : List Char) : Bool :=
  normalizedMentions normalized "sessioncharacteristics" ||
    normalizedMentions normalized "defaulttransactionisolation"

/-- `SET` of a proxy variable, which changes no backend state. -/
def normalizedSetsProxysqlPolardbVariable (normalized : List Char) : Bool :=
  "setproxysqlpolardb".toList.isPrefixOf normalized

/-! ## The scanner moves forward -/

theorem skipSingleQuoted_length (escapes : Bool) (p : List Char) :
    (skipSingleQuoted escapes p).length ≤ p.length := by
  fun_induction skipSingleQuoted escapes p <;> simp_all <;> omega

theorem skipDoubleQuoted_length (p : List Char) :
    (skipDoubleQuoted p).length ≤ p.length := by
  fun_induction skipDoubleQuoted p <;> simp_all <;> omega

theorem skipBlockComment_length (p : List Char) :
    (skipBlockComment p).length ≤ p.length := by
  fun_induction skipBlockComment p <;> simp_all <;> omega

theorem dropPast_length (delim p : List Char) :
    (dropPast delim p).length ≤ p.length := by
  fun_induction dropPast delim p <;> simp_all
  omega

theorem skipDollarQuoted_length
    {p q : List Char}
    (h : skipDollarQuoted p = some q) :
    q.length ≤ p.length := by
  unfold skipDollarQuoted at h
  have hdrop := (List.dropWhile_suffix isIdentChar (l := p)).length_le
  split at h
  · cases h
  · rename_i c body hbody
    split at h
    · cases h
      have hpast := dropPast_length ('$' :: p.takeWhile isIdentChar ++ ['$']) body
      rw [hbody, List.length_cons] at hdrop
      omega
    · cases h

/-- A turn of the scanner never lengthens the text. -/
theorem scanStep_length (c : Char) (rest : List Char) :
    (∀ p, scanStep c rest = .inl p → p.length ≤ rest.length) ∧
      (∀ found, scanStep c rest = .inr found → found.2.length ≤ rest.length) := by
  have htail : rest.tail.length ≤ rest.length := by
    simp
  have hline : (skipLineComment rest.tail).length ≤ rest.tail.length :=
    (List.dropWhile_suffix _).length_le
  have hblock := skipBlockComment_length rest.tail
  have hescaped := skipSingleQuoted_length true rest.tail
  have hquoted := skipSingleQuoted_length false rest
  have hident := skipDoubleQuoted_length rest
  have hword : (rest.dropWhile isIdentChar).length ≤ rest.length :=
    (List.dropWhile_suffix _).length_le
  have hdollar : ((skipDollarQuoted rest).getD []).length ≤ rest.length := by
    cases h : skipDollarQuoted rest with
    | none =>
        simp
    | some q =>
        simpa using skipDollarQuoted_length h
  unfold scanStep
  simp only
  constructor
  · intro p hp
    split_ifs at hp <;> cases hp <;> omega
  · intro found hfound
    split_ifs at hfound
    cases hfound
    exact hword

/-- Any amount of fuel from the length of the text on finds the same word. -/
theorem nextSqlWordFrom_length
    {fuel : Nat} {p : List Char}
    (h : p.length ≤ fuel) :
    nextSqlWordFrom fuel p = nextSqlWord p := by
  induction fuel using Nat.strong_induction_on generalizing p with
  | _ fuel ih =>
      unfold nextSqlWord
      cases p with
      | nil =>
          cases fuel <;> rfl
      | cons c rest =>
          obtain ⟨fuel, rfl⟩ : ∃ n, fuel = n + 1 := by
            cases fuel with
            | zero => simp at h
            | succ n => exact ⟨n, rfl⟩
          simp only [List.length_cons, Nat.add_le_add_iff_right] at h
          simp only [List.length_cons, nextSqlWordFrom]
          cases hs : scanStep c rest with
          | inl p =>
              have hp := (scanStep_length c rest).1 p hs
              simp only
              rw [ih fuel (by omega) (by omega)]
              by_cases hlt : rest.length < fuel + 1
              · exact (ih rest.length hlt hp).symm
              · omega
          | inr found =>
              rfl

/-- The text after a word is shorter than the text before it. -/
theorem nextSqlWord_length
    {p word rest : List Char}
    (h : nextSqlWord p = some (word, rest)) :
    rest.length < p.length := by
  suffices hfrom : ∀ (fuel : Nat) (p : List Char),
      nextSqlWordFrom fuel p = some (word, rest) → rest.length < p.length from
    hfrom p.length p h
  intro fuel
  induction fuel with
  | zero =>
      intro p h
      cases h
  | succ fuel ih =>
      intro p h
      cases p with
      | nil =>
          cases h
      | cons c tail =>
          simp only [nextSqlWordFrom] at h
          cases hs : scanStep c tail with
          | inl q =>
              rw [hs] at h
              have hq := (scanStep_length c tail).1 q hs
              have hrest := ih q h
              simp only [List.length_cons]
              omega
          | inr found =>
              rw [hs] at h
              cases h
              have hfound : rest.length ≤ tail.length := (scanStep_length c tail).2 _ hs
              simp only [List.length_cons]
              omega

theorem sqlWords_eq (p : List Char) :
    sqlWords p =
      match nextSqlWord p with
      | none => []
      | some (word, rest) => word :: sqlWords rest := by
  have hfuel : ∀ (fuel : Nat) (p : List Char), p.length ≤ fuel →
      sqlWordsFrom fuel p = sqlWords p := by
    intro fuel
    induction fuel using Nat.strong_induction_on with
    | _ fuel ih =>
        intro p hp
        unfold sqlWords
        cases p with
        | nil =>
            cases fuel <;> rfl
        | cons c tail =>
            obtain ⟨fuel, rfl⟩ : ∃ n, fuel = n + 1 :=
              ⟨fuel - 1, by simp only [List.length_cons] at hp; omega⟩
            simp only [List.length_cons, Nat.add_le_add_iff_right] at hp
            simp only [List.length_cons, sqlWordsFrom]
            cases hnext : nextSqlWord (c :: tail) with
            | none =>
                rfl
            | some found =>
                have hlt := nextSqlWord_length hnext
                simp only [List.length_cons] at hlt
                simp only [List.cons.injEq, true_and]
                rw [ih fuel (by omega) _ (by omega), ih tail.length (by omega) _ (by omega)]
  cases p with
  | nil =>
      rfl
  | cons c tail =>
      rw [sqlWords, List.length_cons, sqlWordsFrom]
      cases hnext : nextSqlWord (c :: tail) with
      | none =>
          rfl
      | some found =>
          have hlt := nextSqlWord_length hnext
          simp only [List.length_cons] at hlt
          simp only
          rw [hfuel _ _ (by omega)]

/-! ## Locking clauses -/

def lockingForms : List (List String) :=
  [["for", "update"], ["for", "share"], ["for", "no", "key", "update"], ["for", "key", "share"]]

/-- The words of a form, compared without case. -/
def spells (words : List (List Char)) (form : List String) : Bool :=
  match words, form with
  | [], [] => true
  | w :: ws, f :: fs => tokenEquals w f && spells ws fs
  | _, _ => false

/-- Whether the words begin with a locking form. -/
def startsLockingForm (words : List (List Char)) : Bool :=
  lockingForms.any (fun form => spells (words.take form.length) form)

/-- Two different lower-case words are not the same token. -/
theorem tokenEquals_ne
    {token : List Char} {v w : String}
    (hne : v.toList.map asciiLower ≠ w.toList.map asciiLower)
    (h : tokenEquals token v = true) :
    tokenEquals token w = false := by
  unfold tokenEquals at h ⊢
  rw [eq_of_beq h]
  exact beq_false_of_ne hne

theorem lockingForClause_cons (word : List Char) (rest : List (List Char)) :
    lockingForClause (word :: rest) =
      (startsLockingForm (word :: rest) || lockingForClause rest) := by
  conv_lhs => unfold lockingForClause
  unfold startsLockingForm
  by_cases hfor : tokenEquals word "for" = true
  · rw [if_pos hfor]
    cases rest with
    | nil =>
        simp [lockingForms, spells, lockingForClause]
    | cons next ahead =>
        by_cases hupdate : tokenEquals next "update" = true
        · simp [lockingForms, spells, hfor, hupdate]
        by_cases hshare : tokenEquals next "share" = true
        · simp [lockingForms, spells, hfor, hshare]
        by_cases hno : tokenEquals next "no" = true
        · have hkey : tokenEquals next "key" = false := tokenEquals_ne (by decide) hno
          rcases ahead with _ | ⟨key, _ | ⟨update, more⟩⟩
          · simp [lockingForms, spells, hupdate, hshare, hno, hkey]
          · simp [lockingForms, spells, hupdate, hshare, hno, hkey]
          · by_cases hform : (tokenEquals key "key" && tokenEquals update "update") = true
            · simp [lockingForms, spells, hfor, hno, hform, hupdate, hshare, hkey]
            · simp [lockingForms, spells, hfor, hno, hform, hupdate, hshare, hkey]
        · by_cases hkey : tokenEquals next "key" = true
          · rcases ahead with _ | ⟨share, more⟩
            · simp [lockingForms, spells, hupdate, hshare, hno, hkey]
            · by_cases hform : tokenEquals share "share" = true
              · simp [lockingForms, spells, hfor, hno, hform, hupdate, hshare, hkey]
              · simp [lockingForms, spells, hfor, hno, hform, hupdate, hshare, hkey]
          · simp [lockingForms, spells, hupdate, hshare, hno, hkey]
  · rw [if_neg hfor]
    simp [lockingForms, spells, hfor]

/-- A locking clause is reported exactly when a locking form starts at some word. -/
theorem lockingForClause_iff (words : List (List Char)) :
    lockingForClause words = true ↔
      ∃ earlier later, words = earlier ++ later ∧ startsLockingForm later = true := by
  induction words with
  | nil =>
      constructor
      · intro h
        cases h
      · rintro ⟨earlier, later, heq, hstart⟩
        obtain ⟨-, rfl⟩ := List.nil_eq_append_iff.mp heq
        cases hstart
  | cons word rest ih =>
      rw [lockingForClause_cons, Bool.or_eq_true, ih]
      constructor
      · rintro (hstart | ⟨earlier, later, rfl, hstart⟩)
        · exact ⟨[], word :: rest, rfl, hstart⟩
        · exact ⟨word :: earlier, later, rfl, hstart⟩
      · rintro ⟨earlier, later, heq, hstart⟩
        cases earlier with
        | nil =>
            exact Or.inl (by rw [heq]; exact hstart)
        | cons e earlier =>
            obtain ⟨-, hrest⟩ := List.cons_eq_cons.mp heq
            exact Or.inr ⟨earlier, later, hrest, hstart⟩

/-! ## Several statements in one buffer -/

/-- A buffer holds text after a statement separator. -/
def HoldsSeveralStatements (buffer : List Char) : Prop :=
  ∃ (before after : List Char) (c : Char) (more : List Char),
    buffer = before ++ ';' :: after ++ c :: more ∧
      c ≠ ';' ∧ c.toNat ≠ 0 ∧ isSpace c = false

theorem dropWhile_append_cons
    {α : Type} {p : α → Bool} (l : List α) {a : α} (r : List α)
    (ha : p a = false) :
    ∃ l', (l ++ a :: r).dropWhile p = l' ++ a :: r := by
  induction l with
  | nil =>
      exact ⟨[], by simp [ha]⟩
  | cons b l ih =>
      by_cases hb : p b = true
      · obtain ⟨l', hl'⟩ := ih
        exact ⟨l', by simpa [hb] using hl'⟩
      · exact ⟨b :: l, by simp [hb]⟩

theorem rdropWhile_append_cons
    {α : Type} {p : α → Bool} (l : List α) {a : α} (r : List α)
    (ha : p a = false) :
    ∃ r', (l ++ a :: r).rdropWhile p = l ++ a :: r' := by
  obtain ⟨r', hr'⟩ := dropWhile_append_cons (p := p) r.reverse l.reverse ha
  refine ⟨r'.reverse, ?_⟩
  simp only [List.rdropWhile, List.reverse_append, List.reverse_cons, List.append_assoc,
    List.singleton_append, hr', List.reverse_reverse]

/-- A separator followed by text is reported as more than one statement. -/
theorem hasMultipleStatements_of_separator
    {buffer : List Char}
    (h : HoldsSeveralStatements buffer) :
    queryHasMultipleStatements buffer = true := by
  obtain ⟨before, after, c, more, rfl, hsemi, hnul, hspace⟩ := h
  -- The leading trim stops at the separator, the trailing trim at the later text.
  obtain ⟨before', hlead⟩ :=
    dropWhile_append_cons (p := isSpace) before (after ++ c :: more)
      (show isSpace ';' = false by decide)
  obtain ⟨more', htrail⟩ :=
    rdropWhile_append_cons (p := fun c => c.toNat == 0 || isSpace c) (before' ++ ';' :: after)
      more (a := c) (by simp [hnul, hspace])
  unfold queryHasMultipleStatements
  rw [List.append_assoc, List.cons_append] at *
  rw [hlead]
  simp only [List.append_assoc, List.cons_append] at htrail
  rw [htrail]
  simp only
  rw [List.contains_iff_mem]
  split
  · rename_i hlast
    cases more' with
    | nil =>
        simp [List.getLast?_append, List.getLast?_cons] at hlast
        exact absurd hlast hsemi
    | cons d more' =>
        rw [List.dropLast_append_of_ne_nil (by simp)]
        simp [List.dropLast]
  · simp

end PolarProxy
