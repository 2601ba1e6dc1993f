import PolarProxy.TxnScanning

/-!
# Transaction commands against the grammar

The parser of transaction commands agrees with the grammar on most statements.  It takes the first
word for the whole of BEGIN, COMMIT and END, drops a word that a double quote follows at once, reads a
name up to its first double quote, and skips a name that is SAVEPOINT where the keyword is optional.
Names are compared in any letter case.

**Results.** `executes_iff`, `parse_unknown_iff`, `parse_agrees_iff`.
-/

namespace PolarProxy

namespace TxnText

/-! ## Conditions -/

/-- The name is read where the keyword SAVEPOINT is optional. -/
def FineAfterKeyword (text : List Char) (keyword : Bool) (name : Name) : Prop :=
  doubleQuote ∉ name.chars ∧
    if keyword then Glued text → tokenEquals name.chars "savepoint" = false
    else ¬Glued text ∧ tokenEquals name.chars "savepoint" = false

/-- The parser reports the statement rightly. -/
def Fine (text : List Char) : Statement → Prop
  | .begin_ => True
  | .commit chain => chain = false
  | .rollback _ => True
  | .commitPrepared _ => False
  | .rollbackPrepared _ => False
  | .savepoint name => doubleQuote ∉ name.chars ∧ ¬Glued text
  | .release keyword name => FineAfterKeyword text keyword name
  | .rollbackTo keyword name => FineAfterKeyword text keyword name

/-- A blank or a semicolon -/
def isSeparator (c : Char) : Bool :=
  isSpace c || c == ';'

def firstWordOf (text : List Char) : List Char :=
  (text.dropWhile isSpace).takeWhile fun c => !isSeparator c

/-- The first token of a text: up to a separator, or what stands in quotes if a quote comes first -/
def firstToken (text : List Char) : List Char :=
  let text := text.dropWhile isSeparator
  match text.dropWhile isWordChar with
  | c :: inner => if isQuote c then inner.takeWhile fun d => d != c else text.takeWhile isWordChar
  | [] => text.takeWhile isWordChar

def txnKeywords : List String :=
  ["begin", "start", "savepoint", "release", "rollback", "abort", "commit", "end"]

/-- The text starts with no keyword, or with a quote in its first word, or with START alone. -/
def LeftAlone (text : List Char) : Prop :=
  (∃ c ∈ firstWordOf text, isQuote c = true) ∨
    (∀ keyword ∈ txnKeywords, tokenEquals (firstWordOf text) keyword = false) ∨
    (tokenEquals (firstWordOf text) "start" = true ∧
      tokenEquals (firstToken ((text.dropWhile isSpace).drop (firstWordOf text).length)) "transaction" =
        false)

/-- The text is parsed as the server reads it: its slices lie inside, a statement is reported as the
command it is, and any other text is left alone. -/
structure ParsedAs (reserved : List Char → Bool) (text : List Char) : Prop where
  slices : ∀ word tokens, readSlices text = some (word, tokens) →
    word.Inside text ∧ ∀ s ∈ tokens, s.Inside text
  statement : ∀ statement, IsStatement reserved text statement →
    Executes (parseTxnCmd text) statement
  other : (∀ statement, ¬IsStatement reserved text statement) → parseTxnCmd text = .unknown

/-- Both texts are parsed as the server reads them, and their savepoints have equal names, without
regard to letter case, exactly if the server takes them for one; `clip` cuts long identifiers. -/
structure ParsedAlike (reserved : List Char → Bool) (clip : List Char → List Char)
    (text text' : List Char) : Prop where
  left : ParsedAs reserved text
  right : ParsedAs reserved text'
  names : ∀ s s' name name' slice slice', IsStatement reserved text s →
    IsStatement reserved text' s' → s.name = some name → s'.name = some name' →
    savepointOf (parseTxnCmd text) = some slice → savepointOf (parseTxnCmd text') = some slice' →
      (foldCase slice = foldCase slice' ↔ clip name.identifier = clip name'.identifier)

/-- A statement of the text is fine, and a text that is no statement is left alone. -/
structure WellRead (reserved : List Char → Bool) (text : List Char) : Prop where
  statement : ∀ statement, IsStatement reserved text statement → Fine text statement
  other : (∀ statement, ¬IsStatement reserved text statement) → LeftAlone text

/-- No two names differ in letter case only, or agree only where the server cuts them. -/
structure NamesClear (reserved : List Char → Bool) (clip : List Char → List Char)
    (text text' : List Char) : Prop where
  case_ : ∀ s s' name name', IsStatement reserved text s → IsStatement reserved text' s' →
    s.name = some name → s'.name = some name' →
    foldCase name.identifier = foldCase name'.identifier → clip name.identifier = clip name'.identifier
  cut : ∀ s s' name name', IsStatement reserved text s → IsStatement reserved text' s' →
    s.name = some name → s'.name = some name' →
    clip name.identifier = clip name'.identifier → foldCase name.identifier = foldCase name'.identifier

/-! ## Keywords -/

theorem keywords_nil {lexemes : List Lexeme} (h : Keywords [] lexemes) : lexemes = [] := by
  cases h
  rfl

variable {keyword : String} {lexemes : List Lexeme}

theorem keywords_cons
    {keywords : List String}
    (h : Keywords (keyword :: keywords) lexemes) :
    ∃ w rest, lexemes = .word w :: rest ∧ tokenEquals w keyword = true ∧ Keywords keywords rest := by
  cases h with
  | cons hword hrest =>
      obtain ⟨w, rfl, hequals⟩ := hword
      exact ⟨w, _, rfl, hequals, hrest⟩

theorem keywords_one
    (h : Keywords [keyword] lexemes) :
    ∃ w, lexemes = [.word w] ∧ tokenEquals w keyword = true := by
  obtain ⟨w, rest, rfl, hequals, hrest⟩ := keywords_cons h
  rw [keywords_nil hrest]
  exact ⟨w, rfl, hequals⟩

theorem tokenEquals_of
    {w : List Char}
    (h : tokenEquals w keyword = true)
    (other : String) :
    tokenEquals w other = tokenEquals keyword.toList other := by
  unfold tokenEquals at h ⊢
  rw [beq_iff_eq.mp h]

theorem parseAfterWord_of
    {w : List Char}
    (h : tokenEquals w keyword = true)
    (tokens : List (List Char)) :
    parseAfterWord w tokens = parseAfterWord keyword.toList tokens := by
  unfold parseAfterWord
  simp only [tokenEquals_of h]

/-- WORK or TRANSACTION, or nothing -/
def IsOpt (words : List (List Char)) : Prop :=
  ∀ w ∈ words, (tokenEquals w "work" || tokenEquals w "transaction") = true

theorem optTransaction_words
    (h : OptTransaction lexemes) :
    ∃ words, lexemes = words.map .word ∧ IsOpt words := by
  rcases h with rfl | h | h
  · exact ⟨[], rfl, fun w hw => by cases hw⟩
  · obtain ⟨w, rfl, hequals⟩ := keywords_one h
    refine ⟨[w], rfl, fun v hv => ?_⟩
    rw [List.mem_singleton.mp hv, hequals, Bool.true_or]
  · obtain ⟨w, rfl, hequals⟩ := keywords_one h
    refine ⟨[w], rfl, fun v hv => ?_⟩
    rw [List.mem_singleton.mp hv, hequals, Bool.or_true]

theorem parseRollback_opt
    {words : List (List Char)}
    (h : IsOpt words)
    (tokens : List (List Char)) :
    parseRollback (words ++ tokens) = parseRollback tokens := by
  unfold parseRollback
  rw [List.dropWhile_append_of_pos h]

theorem parseRollback_to
    {w : List Char}
    (h : tokenEquals w "to" = true)
    (tokens : List (List Char)) :
    parseRollback (w :: tokens) = .rollbackTo (nextName (skipWord "savepoint" tokens)) := by
  have hopt : (tokenEquals w "work" || tokenEquals w "transaction") = false := by
    rw [tokenEquals_of h, tokenEquals_of h]
    decide
  unfold parseRollback
  rw [List.dropWhile_cons_of_neg (by rw [hopt]; exact Bool.false_ne_true)]
  dsimp only
  rw [if_pos h]

theorem parseRollback_and
    {w v : List Char}
    (h : tokenEquals w "and" = true)
    (tokens : List (List Char)) :
    parseRollback (w :: v :: tokens) =
      if tokenEquals v "chain" then .rollbackAndChain else .rollback := by
  have hopt : (tokenEquals w "work" || tokenEquals w "transaction") = false := by
    rw [tokenEquals_of h, tokenEquals_of h]
    decide
  have hto : tokenEquals w "to" = false := by
    rw [tokenEquals_of h]
    decide
  unfold parseRollback
  rw [List.dropWhile_cons_of_neg (by rw [hopt]; exact Bool.false_ne_true)]
  dsimp only
  rw [hto, if_neg Bool.false_ne_true, if_pos h]

theorem eq_rollbackTo
    {tokens : List (List Char)} {slice : List Char}
    (h : parseRollback tokens = .rollbackTo slice) :
    ∃ token rest, (tokens.dropWhile fun t => tokenEquals t "work" || tokenEquals t "transaction") =
      token :: rest ∧ slice = nextName (skipWord "savepoint" rest) := by
  unfold parseRollback at h
  cases hdrop : tokens.dropWhile fun t => tokenEquals t "work" || tokenEquals t "transaction" with
  | nil =>
      rw [hdrop] at h
      cases h
  | cons token rest =>
      rw [hdrop] at h
      dsimp only at h
      refine ⟨token, rest, rfl, ?_⟩
      by_cases hto : tokenEquals token "to" = true
      · rw [if_pos hto] at h
        injection h with h
        exact h.symm
      · rw [if_neg hto] at h
        by_cases hand : tokenEquals token "and" = true
        · rw [if_pos hand] at h
          cases rest with
          | nil => cases h
          | cons next rest =>
              dsimp only at h
              by_cases hchain : tokenEquals next "chain" = true
              · rw [if_pos hchain] at h
                cases h
              · rw [if_neg hchain] at h
                cases h
        · rw [if_neg hand] at h
          cases h

variable {name : Name}

theorem NameText.not_rollbackTo
    {text : List Char} {keyword : Bool}
    (h : NameText name text) :
    ¬Executes (parseRollback (tokenize none [] text)) (.rollbackTo keyword name) := by
  cases hparse : parseRollback (tokenize none [] text) with
  | rollbackTo slice =>
      intro hdenotes
      obtain ⟨token, rest, hdrop, hslice⟩ := eq_rollbackTo hparse
      have hsub : List.Sublist (token :: rest) (tokenize none [] text) := by
        rw [← hdrop]
        exact List.dropWhile_sublist _
      have hmem := (nextName_cases (skipWord "savepoint" rest)).imp_right
        fun hmem => hsub.subset (List.mem_cons_of_mem _ (skipWord_subset _ _ hmem))
      obtain ⟨hno, hne⟩ := h.of_denotes (hslice ▸ hmem) hdenotes
      have hlen := hsub.length_le
      rw [h.whole hno, List.length_cons, List.length_singleton] at hlen
      have hnil : rest = [] := List.eq_nil_of_length_eq_zero (by omega)
      rw [hslice, hnil] at hne
      exact hne rfl
  | unknown | begin_ | commit | rollback | savepoint _ | release _ | rollbackAndChain =>
      exact id

/-! ## Statements -/

variable {reserved : List Char → Bool} {text rest blanks : List Char} {tail : List Lexeme}

/-- Words that others follow are the tokens, and no quote stands between them. -/
theorem words_prefix
    (words : List (List Char))
    (h : Written (words.map .word ++ lexemes) text)
    (hnext : ∀ l ∈ lexemes.head?, (∃ w, l = .word w) ∨ l = .semicolon) :
    ∃ rest, Written lexemes rest ∧ tokenize none [] text = words ++ tokenize none [] rest ∧
      (Glued text ↔ Glued rest) := by
  induction words generalizing text with
  | nil => exact ⟨text, h, rfl, Iff.rfl⟩
  | cons w words ih =>
      rw [List.map_cons, List.cons_append] at h
      cases h with
      | @word _ blanks _ after hblank hword hend hafter =>
          have hseparated : Separated after := by
            refine separated_of_written hafter hend fun l hl => ?_
            cases words with
            | nil => exact hnext l hl
            | cons v words => exact Or.inl ⟨v, (Option.some.inj hl).symm⟩
          obtain ⟨rest, hrest, htokens, hglued⟩ := ih hafter
          refine ⟨rest, hrest, ?_, ?_⟩
          · rw [tokenize_ident hblank hword hseparated, htokens, List.cons_append]
          · rw [glued_word_iff hblank hword, or_iff_right hseparated.no_quote, hglued]

theorem words_tail
    {words : List (List Char)}
    (htail : tail = [] ∨ tail = [.semicolon])
    (h : Written (words.map .word ++ tail) text) :
    tokenize none [] text = words := by
  have hnext : ∀ l ∈ tail.head?, (∃ w, l = .word w) ∨ l = .semicolon := by
    rcases htail with rfl | rfl
    · intro l hl
      cases hl
    · intro l hl
      exact Or.inr (Option.some.inj hl).symm
  obtain ⟨rest, hrest, htokens, _⟩ := words_prefix words h hnext
  rw [htokens, (tail_text htail hrest).1, List.append_nil]

variable {lexeme : Lexeme}

theorem after_word
    {word : List Char} {keyword : List Lexeme} {written : Bool}
    (hblank : Blank blanks)
    (hword : IsIdentifier word)
    (hend : ∀ c ∈ rest.head?, isIdentCont c = false)
    (hkeyword : Keywords (if written then ["savepoint"] else []) keyword)
    (hname : IsName reserved lexeme name)
    (htail : tail = [] ∨ tail = [.semicolon])
    (h : Written (keyword ++ lexeme :: tail) rest) :
    (Separated rest ∧ (Denotes (nextName (skipWord "savepoint" (tokenize none [] rest))) name ↔
        FineAfterKeyword (blanks ++ (word ++ rest)) written name)) ∨
      (rest.head? = some doubleQuote ∧ NameText name rest ∧
        ¬FineAfterKeyword (blanks ++ (word ++ rest)) written name) := by
  unfold FineAfterKeyword
  rw [glued_word_iff hblank hword]
  cases written with
  | false =>
      rw [keywords_nil hkeyword] at h
      have htext := nameText hname htail h
      rcases htext.next hend with hhead | hseparated
      · refine Or.inr ⟨hhead, htext, fun hfine => ?_⟩
        exact (if_neg Bool.false_ne_true ▸ hfine.2).1 (Or.inl hhead)
      · refine Or.inl ⟨hseparated, ?_⟩
        rw [htext.denotes_skip, if_neg Bool.false_ne_true, or_iff_right hseparated.no_quote,
          and_iff_right htext.not_glued]
  | true =>
      obtain ⟨s, rfl, hs⟩ := keywords_one hkeyword
      have hseparated := separated_of_written h hend fun l hl => Or.inl ⟨s, (Option.some.inj hl).symm⟩
      refine Or.inl ⟨hseparated, ?_⟩
      rw [or_iff_right hseparated.no_quote, if_pos rfl]
      cases h with
      | @word _ blanks' _ rest' hblank' hword' hend' hrest' =>
          have htext := nameText hname htail hrest'
          rw [glued_word_iff hblank' hword', or_iff_left htext.not_glued]
          rcases htext.next hend' with hhead | hseparated'
          · rw [tokenize_glued hblank' hword' hhead, htext.denotes_skip]
            exact and_congr_right fun _ => ⟨fun hne _ => hne, fun hne => hne hhead⟩
          · rw [tokenize_ident hblank' hword' hseparated', skipWord, if_pos hs, htext.denotes_next]
            exact ⟨fun hno => ⟨hno, fun hhead => absurd hhead hseparated'.no_quote⟩, fun hfine => hfine.1⟩

/-- A word or a semicolon comes next, or nothing. -/
def StartsPlain (lexemes : List Lexeme) : Prop :=
  ∀ l ∈ lexemes.head?, (∃ w, l = .word w) ∨ l = .semicolon

theorem startsPlain_tail (htail : tail = [] ∨ tail = [.semicolon]) : StartsPlain tail := by
  rcases htail with rfl | rfl
  · intro l hl
    cases hl
  · intro l hl
    exact Or.inr (Option.some.inj hl).symm

theorem startsPlain_words
    (words : List (List Char))
    (h : StartsPlain lexemes) :
    StartsPlain (words.map .word ++ lexemes) := by
  cases words with
  | nil => exact h
  | cons w words => exact fun l hl => Or.inl ⟨w, (Option.some.inj hl).symm⟩

/-- A first word that a separator follows decides how the rest is read. -/
theorem parse_verb
    {verb : List Char}
    (h : Written (.word verb :: lexemes) text)
    (hnext : StartsPlain lexemes) :
    ∃ rest, Written lexemes rest ∧
      parseTxnCmd text = parseAfterWord verb (tokenize none [] rest) ∧ (Glued text ↔ Glued rest) := by
  cases h with
  | @word _ blanks _ rest hblank hword hend hrest =>
      have hseparated := separated_of_written hrest hend hnext
      refine ⟨rest, hrest, parse_ident hblank hword hseparated, ?_⟩
      rw [glued_word_iff hblank hword, or_iff_right hseparated.no_quote]

theorem startsPlain_modes
    {modes : List Lexeme}
    (h : Modes modes)
    (htail : tail = [] ∨ tail = [.semicolon]) :
    StartsPlain (modes ++ tail) := by
  have hmode : ∀ {keywords : List String} {mode : List Lexeme} (rest : List Lexeme),
      (keywords ∈ modeKeywords ∧ Keywords keywords mode) → StartsPlain (mode ++ rest) := by
    intro keywords mode rest hmode
    have hne : keywords ≠ [] := by
      rintro rfl
      exact absurd hmode.1 (by decide)
    obtain ⟨keyword, keywords, rfl⟩ := List.exists_cons_of_ne_nil hne
    obtain ⟨w, mode, rfl, _⟩ := keywords_cons hmode.2
    exact fun l hl => Or.inl ⟨w, (Option.some.inj hl).symm⟩
  cases h with
  | none => exact startsPlain_tail htail
  | one h => exact hmode _ h
  | next h _ =>
      rw [List.append_assoc]
      exact hmode _ h
  | comma h _ _ =>
      rw [List.append_assoc]
      exact hmode _ h

theorem executes_savepoint
    {verb : List Lexeme}
    (hverb : Keywords ["savepoint"] verb)
    (hname : IsName reserved lexeme name)
    (htail : tail = [] ∨ tail = [.semicolon])
    (h : Written (verb ++ lexeme :: tail) text) :
    Executes (parseTxnCmd text) (.savepoint name) ↔ Fine text (.savepoint name) := by
  obtain ⟨v, rfl, hv⟩ := keywords_one hverb
  cases h with
  | @word _ blanks _ rest hblank hword hend hrest =>
      have htext := nameText hname htail hrest
      unfold Fine
      rw [glued_word_iff hblank hword, or_iff_left htext.not_glued]
      rcases htext.next hend with hhead | hseparated
      · rw [parse_glued hblank hword hhead]
        exact ⟨fun h => h.elim, fun h => h.2 hhead⟩
      · rw [parse_ident hblank hword hseparated, parseAfterWord_of hv]
        exact htext.denotes_next.trans (and_iff_left hseparated.no_quote).symm

theorem executes_release
    {verb keyword : List Lexeme} {written : Bool}
    (hverb : Keywords ["release"] verb)
    (hkeyword : Keywords (if written then ["savepoint"] else []) keyword)
    (hname : IsName reserved lexeme name)
    (htail : tail = [] ∨ tail = [.semicolon])
    (h : Written (verb ++ (keyword ++ lexeme :: tail)) text) :
    Executes (parseTxnCmd text) (.release written name) ↔ Fine text (.release written name) := by
  obtain ⟨v, rfl, hv⟩ := keywords_one hverb
  cases h with
  | @word _ blanks _ rest hblank hword hend hrest =>
      rcases after_word hblank hword hend hkeyword hname htail hrest with ⟨hseparated, hdenotes⟩ |
        ⟨hhead, _, hnot⟩
      · rw [parse_ident hblank hword hseparated, parseAfterWord_of hv]
        exact hdenotes
      · rw [parse_glued hblank hword hhead]
        exact ⟨fun h => h.elim, fun h => hnot h⟩

theorem executes_rollbackTo
    {verb opt to_ keyword : List Lexeme} {written : Bool}
    (hverb : Keywords ["rollback"] verb)
    (hopt : OptTransaction opt)
    (hto : Keywords ["to"] to_)
    (hkeyword : Keywords (if written then ["savepoint"] else []) keyword)
    (hname : IsName reserved lexeme name)
    (htail : tail = [] ∨ tail = [.semicolon])
    (h : Written (verb ++ (opt ++ (to_ ++ (keyword ++ lexeme :: tail)))) text) :
    Executes (parseTxnCmd text) (.rollbackTo written name) ↔ Fine text (.rollbackTo written name) := by
  obtain ⟨v, rfl, hv⟩ := keywords_one hverb
  obtain ⟨words, rfl, hwords⟩ := optTransaction_words hopt
  obtain ⟨t, rfl, ht⟩ := keywords_one hto
  have hplain : StartsPlain ([Lexeme.word t] ++ (keyword ++ lexeme :: tail)) :=
    fun l hl => Or.inl ⟨t, (Option.some.inj hl).symm⟩
  obtain ⟨rest, hrest, hparse, hglued⟩ := parse_verb h (startsPlain_words words hplain)
  obtain ⟨rest', hrest', htokens, hglued'⟩ := words_prefix words hrest hplain
  have hfine : FineAfterKeyword text written name ↔ FineAfterKeyword rest' written name := by
    unfold FineAfterKeyword
    rw [hglued, hglued']
  have hrollback : parseTxnCmd text = parseRollback (tokenize none [] rest') := by
    rw [hparse, parseAfterWord_of hv, htokens, ← parseRollback_opt hwords]
    rfl
  rw [hrollback]
  refine Iff.trans ?_ hfine.symm
  cases hrest' with
  | @word _ blanks _ after hblank hword hend hafter =>
      rcases after_word hblank hword hend hkeyword hname htail hafter with ⟨hseparated, hdenotes⟩ |
        ⟨hhead, htext, hnot⟩
      · rw [tokenize_ident hblank hword hseparated, parseRollback_to ht]
        exact hdenotes
      · rw [tokenize_glued hblank hword hhead]
        exact ⟨fun h => absurd h htext.not_rollbackTo, fun h => absurd h hnot⟩

theorem executes_rollback
    {verb opt clause : List Lexeme} {chain : Bool}
    (hverb : Keywords ["rollback"] verb ∨ Keywords ["abort"] verb)
    (hopt : OptTransaction opt)
    (hchain : Chain chain clause)
    (htail : tail = [] ∨ tail = [.semicolon])
    (h : Written (verb ++ (opt ++ (clause ++ tail))) text) :
    Executes (parseTxnCmd text) (.rollback chain) := by
  obtain ⟨words, rfl, hwords⟩ := optTransaction_words hopt
  have hclause : ∃ clauseWords, clause = clauseWords.map Lexeme.word ∧
      Executes (parseRollback clauseWords) (.rollback chain) := by
    cases hchain with
    | none => exact ⟨[], rfl, rfl⟩
    | no h =>
        obtain ⟨a, l, rfl, ha, h⟩ := keywords_cons h
        obtain ⟨n, l, rfl, hn, h⟩ := keywords_cons h
        obtain ⟨c, rfl, hc⟩ := keywords_one h
        have hno : tokenEquals n "chain" = false := by
          rw [tokenEquals_of hn]
          decide
        refine ⟨[a, n, c], rfl, ?_⟩
        rw [parseRollback_and ha, hno, if_neg Bool.false_ne_true]
        rfl
    | chain h =>
        obtain ⟨a, l, rfl, ha, h⟩ := keywords_cons h
        obtain ⟨c, rfl, hc⟩ := keywords_one h
        refine ⟨[a, c], rfl, ?_⟩
        rw [parseRollback_and ha, if_pos hc]
        rfl
  obtain ⟨clauseWords, rfl, hexec⟩ := hclause
  have hplain := startsPlain_words clauseWords (startsPlain_tail htail)
  have hverbs : ∃ v keyword, verb = [.word v] ∧ tokenEquals v keyword = true ∧
      (keyword = "rollback" ∨ keyword = "abort") := by
    rcases hverb with hverb | hverb
    · obtain ⟨v, rfl, hv⟩ := keywords_one hverb
      exact ⟨v, _, rfl, hv, Or.inl rfl⟩
    · obtain ⟨v, rfl, hv⟩ := keywords_one hverb
      exact ⟨v, _, rfl, hv, Or.inr rfl⟩
  obtain ⟨v, keyword, rfl, hv, hkeyword⟩ := hverbs
  obtain ⟨rest, hrest, hparse, _⟩ := parse_verb h (startsPlain_words words hplain)
  obtain ⟨rest', hrest', htokens, _⟩ := words_prefix words hrest hplain
  have hrollback : ∀ tokens, parseAfterWord keyword.toList tokens = parseRollback tokens := by
    intro tokens
    rcases hkeyword with rfl | rfl
    · rfl
    · rfl
  rw [hparse, parseAfterWord_of hv, hrollback, htokens, parseRollback_opt hwords,
    words_tail htail hrest']
  exact hexec

theorem parseRollback_ne_unknown (tokens : List (List Char)) : parseRollback tokens ≠ .unknown := by
  unfold parseRollback
  cases tokens.dropWhile fun t => tokenEquals t "work" || tokenEquals t "transaction" with
  | nil => exact TxnCmd.noConfusion
  | cons token rest =>
      dsimp only
      by_cases hto : tokenEquals token "to" = true
      · rw [if_pos hto]
        exact TxnCmd.noConfusion
      · rw [if_neg hto]
        by_cases hand : tokenEquals token "and" = true
        · rw [if_pos hand]
          cases rest with
          | nil => exact TxnCmd.noConfusion
          | cons next rest =>
              dsimp only
              by_cases hchain : tokenEquals next "chain" = true
              · rw [if_pos hchain]
                exact TxnCmd.noConfusion
              · rw [if_neg hchain]
                exact TxnCmd.noConfusion
        · rw [if_neg hand]
          exact TxnCmd.noConfusion

theorem eq_unknown_of_prepared
    {cmd : TxnCmd} {gid : List Char}
    (h : Executes cmd (.rollbackPrepared gid)) :
    cmd = .unknown := by
  cases cmd with
  | unknown => rfl
  | begin_ => exact h.elim
  | commit => exact h.elim
  | rollback => exact h.elim
  | savepoint name => exact h.elim
  | release name => exact h.elim
  | rollbackTo name => exact h.elim
  | rollbackAndChain => exact h.elim

theorem parse_commit
    {verb : List Char}
    (hverb : tokenEquals verb keyword = true)
    (hkeyword : keyword = "commit" ∨ keyword = "end")
    (h : Written (.word verb :: lexemes) text)
    (hnext : StartsPlain lexemes) :
    parseTxnCmd text = .commit := by
  obtain ⟨rest, _, hparse, _⟩ := parse_verb h hnext
  rw [hparse, parseAfterWord_of hverb]
  rcases hkeyword with rfl | rfl
  · rfl
  · rfl

/-- The parser reports the right command for a statement if and only if the statement is fine. -/
theorem executes_iff
    {statement : Statement}
    (h : IsStatement reserved text statement) :
    Executes (parseTxnCmd text) statement ↔ Fine text statement := by
  obtain ⟨body, tail, hderives, htail, hwritten⟩ := h
  cases hderives with
  | begin_ hverb hopt hmodes =>
      obtain ⟨v, rfl, hv⟩ := keywords_one hverb
      obtain ⟨words, rfl, _⟩ := optTransaction_words hopt
      rw [List.append_assoc, List.append_assoc] at hwritten
      obtain ⟨rest, _, hparse, _⟩ := parse_verb hwritten
        (startsPlain_words words (startsPlain_modes hmodes htail))
      rw [hparse, parseAfterWord_of hv]
      exact Iff.rfl
  | start hverb hmodes =>
      obtain ⟨v, l, rfl, hv, hverb⟩ := keywords_cons hverb
      obtain ⟨t, rfl, ht⟩ := keywords_one hverb
      have hplain := startsPlain_modes hmodes htail
      rw [List.append_assoc] at hwritten
      obtain ⟨rest, hrest, hparse, _⟩ := parse_verb hwritten
        (startsPlain_words [t] hplain)
      obtain ⟨rest', _, htokens, _⟩ := words_prefix [t] hrest hplain
      have hstart : parseAfterWord "start".toList (t :: tokenize none [] rest') = .begin_ := by
        change parseStart (t :: tokenize none [] rest') = .begin_
        rw [parseStart, if_pos ht]
      rw [hparse, parseAfterWord_of hv, htokens]
      exact iff_of_true (hstart ▸ trivial) trivial
  | @commit _ _ clause chain hverb hopt hchain =>
      obtain ⟨words, rfl, _⟩ := optTransaction_words hopt
      have hplain : StartsPlain (clause ++ tail) := by
        cases hchain with
        | none => exact startsPlain_tail htail
        | no h =>
            obtain ⟨a, l, rfl, _⟩ := keywords_cons h
            exact fun l hl => Or.inl ⟨a, (Option.some.inj hl).symm⟩
        | chain h =>
            obtain ⟨a, l, rfl, _⟩ := keywords_cons h
            exact fun l hl => Or.inl ⟨a, (Option.some.inj hl).symm⟩
      rw [List.append_assoc, List.append_assoc] at hwritten
      have hparse : parseTxnCmd text = .commit := by
        rcases hverb with hverb | hverb
        · obtain ⟨v, rfl, hv⟩ := keywords_one hverb
          exact parse_commit hv (Or.inl rfl) hwritten (startsPlain_words words hplain)
        · obtain ⟨v, rfl, hv⟩ := keywords_one hverb
          exact parse_commit hv (Or.inr rfl) hwritten (startsPlain_words words hplain)
      rw [hparse]
      exact Iff.rfl
  | rollback hverb hopt hchain =>
      rw [List.append_assoc, List.append_assoc] at hwritten
      exact iff_of_true (executes_rollback hverb hopt hchain htail hwritten) trivial
  | commitPrepared hverb =>
      obtain ⟨v, l, rfl, hv, hverb⟩ := keywords_cons hverb
      obtain ⟨p, rfl, _⟩ := keywords_one hverb
      have hparse := parse_commit hv (Or.inl rfl) hwritten
        fun l hl => Or.inl ⟨p, (Option.some.inj hl).symm⟩
      rw [hparse]
      exact Iff.rfl
  | rollbackPrepared hverb =>
      obtain ⟨v, l, rfl, hv, hverb⟩ := keywords_cons hverb
      obtain ⟨p, rfl, _⟩ := keywords_one hverb
      obtain ⟨rest, _, hparse, _⟩ := parse_verb hwritten
        fun l hl => Or.inl ⟨p, (Option.some.inj hl).symm⟩
      refine ⟨fun hexec => ?_, fun hfine => hfine.elim⟩
      rw [hparse, parseAfterWord_of hv] at hexec
      exact absurd (eq_unknown_of_prepared hexec) (parseRollback_ne_unknown (tokenize none [] rest))
  | savepoint hverb hname =>
      rw [List.append_assoc] at hwritten
      exact executes_savepoint hverb hname htail hwritten
  | release hverb hkeyword hname =>
      rw [List.append_assoc, List.append_assoc] at hwritten
      exact executes_release hverb hkeyword hname htail hwritten
  | rollbackTo hverb hopt hto hkeyword hname =>
      rw [List.append_assoc, List.append_assoc, List.append_assoc, List.append_assoc] at hwritten
      exact executes_rollbackTo hverb hopt hto hkeyword hname htail hwritten

/-! ## Other texts -/

theorem firstWord_eq (start text : List Char) :
    firstWord start text =
      if (text.takeWhile fun c => !isSeparator c).any isQuote then none
      else some (start ++ text.takeWhile (fun c => !isSeparator c),
        text.drop (text.takeWhile fun c => !isSeparator c).length) := by
  induction text generalizing start with
  | nil =>
      rw [firstWord, List.takeWhile_nil, List.append_nil]
      rfl
  | cons c text ih =>
      rw [firstWord]
      cases hend : isSeparator c with
      | true =>
          have hneg : ¬(!isSeparator c) = true := by
            rw [hend]
            exact Bool.false_ne_true
          rw [isQuote_of_separator hend, if_neg Bool.false_ne_true,
            if_pos (show (isSpace c || c == ';') = true from hend),
            List.takeWhile_cons_of_neg (p := fun c => !isSeparator c) hneg, List.append_nil]
          rfl
      | false =>
          have hpos : (!isSeparator c) = true := by
            rw [hend]
            rfl
          have hne : ¬(isSpace c || c == ';') = true := by
            rw [Bool.not_eq_true]
            exact hend
          rw [List.takeWhile_cons_of_pos (p := fun c => !isSeparator c) hpos, List.any_cons,
            List.length_cons, List.drop_succ_cons]
          cases hquote : isQuote c with
          | true => rfl
          | false =>
              rw [if_neg Bool.false_ne_true, if_neg hne, ih, Bool.false_or, List.append_assoc,
                List.singleton_append]

theorem parse_eq (text : List Char) :
    parseTxnCmd text =
      if (firstWordOf text).any isQuote then .unknown
      else parseAfterWord (firstWordOf text)
        (tokenize none [] ((text.dropWhile isSpace).drop (firstWordOf text).length)) := by
  by_cases hnil : text.dropWhile isSpace = []
  · unfold parseTxnCmd firstWordOf
    rw [hnil]
    rfl
  · rw [parse_dropWhile hnil, firstWord_eq, List.nil_append]
    unfold firstWordOf
    split
    case h_1 h =>
      split at h
      case isTrue hquote =>
        rw [if_pos hquote]
      case isFalse =>
        cases h
    case h_2 word rest h =>
      split at h
      case isTrue =>
        cases h
      case isFalse hquote =>
        cases h
        rw [if_neg hquote]

theorem tokenize_separators
    (separators rest : List Char)
    (h : ∀ c ∈ separators, isSeparator c = true) :
    tokenize none [] (separators ++ rest) = tokenize none [] rest := by
  induction separators with
  | nil => rfl
  | cons c separators ih =>
      have hend := h c List.mem_cons_self
      rw [List.cons_append, tokenize, isQuote_of_separator hend, if_neg Bool.false_ne_true,
        if_pos (show (isSpace c || c == ';') = true from hend), ih fun d hd => h d (List.mem_cons_of_mem _ hd)]
      rfl

theorem nextName_quoted (quote : Char) (token text : List Char) :
    nextName (tokenize (some quote) token text) = token ++ text.takeWhile fun d => d != quote := by
  induction text generalizing token with
  | nil =>
      rw [List.takeWhile_nil, List.append_nil]
      rfl
  | cons c text ih =>
      rw [tokenize]
      by_cases hc : (c == quote) = true
      · rw [if_pos hc, List.takeWhile_cons_of_neg (by rw [bne, hc]; exact Bool.false_ne_true),
          List.append_nil]
        rfl
      · rw [if_neg hc, ih, List.takeWhile_cons_of_pos (by rw [bne, Bool.not_eq_true _ |>.mp hc]; rfl),
          List.append_assoc]
        rfl

theorem nextName_tokenize (text : List Char) :
    nextName (tokenize none [] text) = firstToken text := by
  have hsplit := List.takeWhile_append_dropWhile (p := isSeparator) (l := text)
  have hskip := tokenize_separators (text.takeWhile isSeparator) (text.dropWhile isSeparator)
    fun c hc => List.mem_takeWhile_imp hc
  rw [hsplit] at hskip
  have hfirst : ∀ c ∈ (text.dropWhile isSeparator).head?, isSeparator c = false := by
    intro c hc
    have := List.head?_dropWhile_not isSeparator text
    rw [Option.mem_def.mp hc] at this
    exact this
  unfold firstToken
  dsimp only
  rw [hskip]
  generalize text.dropWhile isSeparator = t at hfirst
  have hword : ∀ c ∈ t.takeWhile isWordChar, isWordChar c = true := fun c hc => List.mem_takeWhile_imp hc
  have hread := tokenize_append hword [] (t.dropWhile isWordChar)
  rw [List.takeWhile_append_dropWhile, List.nil_append] at hread
  rw [hread]
  cases hrest : t.dropWhile isWordChar with
  | nil =>
      dsimp only
      rw [tokenize]
      cases hw : t.takeWhile isWordChar with
      | nil => rfl
      | cons c w => rfl
  | cons c rest =>
      have hnot := List.head?_dropWhile_not isWordChar t
      rw [hrest] at hnot
      dsimp only
      rw [tokenize]
      by_cases hquote : isQuote c = true
      · rw [if_pos hquote, if_pos hquote, nextName_quoted, List.nil_append]
      · have hsep : (isSpace c || c == ';') = true := by
          by_contra hsep
          rw [Bool.not_eq_true] at hquote hsep
          rw [Bool.or_eq_false_iff] at hsep
          exact Bool.false_ne_true (hnot.symm.trans (isWordChar_iff.mpr ⟨hquote, hsep⟩))
        have hne : t.takeWhile isWordChar ≠ [] := by
          intro hnil
          have ht := List.takeWhile_append_dropWhile (p := isWordChar) (l := t)
          rw [hnil, hrest, List.nil_append] at ht
          have := hfirst c (by rw [← ht]; rfl)
          exact Bool.false_ne_true (this.symm.trans hsep)
        have hfull : (t.takeWhile isWordChar).isEmpty = false := List.isEmpty_eq_false_iff.mpr hne
        rw [if_neg hquote, if_neg hquote, if_pos hsep, hfull]
        rfl

theorem parseStart_eq_unknown (tokens : List (List Char)) :
    parseStart tokens = .unknown ↔ tokenEquals (nextName tokens) "transaction" = false := by
  cases tokens with
  | nil => exact iff_of_true rfl (by decide)
  | cons token tokens =>
      rw [parseStart]
      change _ ↔ tokenEquals token "transaction" = false
      cases tokenEquals token "transaction" with
      | true => exact iff_of_false TxnCmd.noConfusion Bool.noConfusion
      | false => exact iff_of_true rfl rfl

theorem parseAfterWord_eq_unknown (word : List Char) (tokens : List (List Char)) :
    parseAfterWord word tokens = .unknown ↔
      (∀ keyword ∈ txnKeywords, tokenEquals word keyword = false) ∨
        (tokenEquals word "start" = true ∧ parseStart tokens = .unknown) := by
  by_cases hnone : ∀ keyword ∈ txnKeywords, tokenEquals word keyword = false
  · refine iff_of_true ?_ (Or.inl hnone)
    unfold parseAfterWord
    simp only [txnKeywords, List.forall_mem_cons] at hnone
    obtain ⟨hbegin, hstart, hsavepoint, hrelease, hrollback, habort, hcommit, hend, _⟩ := hnone
    rw [hbegin, hstart, hsavepoint, hrelease, hrollback, habort, hcommit, hend]
    rfl
  · rw [or_iff_right hnone]
    push Not at hnone
    obtain ⟨keyword, hmem, hword⟩ := hnone
    rw [ne_eq, Bool.not_eq_false] at hword
    rw [parseAfterWord_of hword, tokenEquals_of hword]
    have hstart : keyword = "start" ∨ (tokenEquals keyword.toList "start" = false ∧
        parseAfterWord keyword.toList tokens ≠ .unknown) := by
      simp only [txnKeywords, List.mem_cons, List.not_mem_nil, or_false] at hmem
      rcases hmem with rfl | rfl | rfl | rfl | rfl | rfl | rfl | rfl
      · exact Or.inr ⟨by decide, TxnCmd.noConfusion⟩
      · exact Or.inl rfl
      · exact Or.inr ⟨by decide, TxnCmd.noConfusion⟩
      · exact Or.inr ⟨by decide, TxnCmd.noConfusion⟩
      · exact Or.inr ⟨by decide, parseRollback_ne_unknown tokens⟩
      · exact Or.inr ⟨by decide, parseRollback_ne_unknown tokens⟩
      · exact Or.inr ⟨by decide, TxnCmd.noConfusion⟩
      · exact Or.inr ⟨by decide, TxnCmd.noConfusion⟩
    rcases hstart with rfl | ⟨hfalse, hknown⟩
    · exact (and_iff_right (by decide)).symm
    · refine iff_of_false hknown fun h => ?_
      exact Bool.false_ne_true (hfalse.symm.trans h.1)

/-- The texts that the parser leaves alone -/
theorem parse_unknown_iff (text : List Char) :
    parseTxnCmd text = .unknown ↔ LeftAlone text := by
  unfold LeftAlone
  rw [parse_eq]
  by_cases hquote : (firstWordOf text).any isQuote = true
  · rw [if_pos hquote]
    exact iff_of_true rfl (Or.inl (List.any_eq_true.mp hquote))
  · rw [if_neg hquote, parseAfterWord_eq_unknown, parseStart_eq_unknown, nextName_tokenize]
    have hnot : ¬∃ c ∈ firstWordOf text, isQuote c = true := fun h => hquote (List.any_eq_true.mpr h)
    rw [or_iff_right hnot]

/-! ## Texts -/

theorem parsedAs_iff : ParsedAs reserved text ↔ WellRead reserved text := by
  constructor
  · intro h
    exact ⟨fun s hs => (executes_iff hs).mp (h.statement s hs),
      fun hnone => (parse_unknown_iff text).mp (h.other hnone)⟩
  · intro h
    exact ⟨fun _ _ hread => readSlices_inside hread,
      fun s hs => (executes_iff hs).mpr (h.statement s hs),
      fun hnone => (parse_unknown_iff text).mpr (h.other hnone)⟩

theorem asciiLower_asciiLower (c : Char) : asciiLower (asciiLower c) = asciiLower c := by
  have hlower : ∀ n < 123, 97 ≤ n → asciiLower (Char.ofNat n) = Char.ofNat n := by
    decide
  by_cases hupper : 65 ≤ c.toNat ∧ c.toNat ≤ 90
  · have hc : asciiLower c = Char.ofNat (c.toNat + 32) := if_pos hupper
    rw [hc]
    exact hlower _ (by omega) (by omega)
  · have hc : asciiLower c = c := if_neg hupper
    rw [hc, hc]

theorem foldCase_foldCase (chars : List Char) : foldCase (foldCase chars) = foldCase chars := by
  unfold foldCase
  rw [List.map_map]
  exact List.map_congr_left fun c _ => asciiLower_asciiLower c

theorem foldCase_of_denotes
    {slice : List Char}
    (h : Denotes slice name) :
    foldCase slice = foldCase name.identifier := by
  unfold Denotes at h
  unfold Name.identifier
  cases hquoted : name.quoted with
  | true =>
      rw [if_pos hquoted] at h
      rw [if_pos rfl, h]
  | false =>
      rw [hquoted, if_neg Bool.false_ne_true] at h
      rw [if_neg Bool.false_ne_true, foldCase_foldCase, h]

theorem savepointOf_executes
    {cmd : TxnCmd} {statement : Statement}
    (h : Executes cmd statement)
    (hname : statement.name = some name) :
    ∃ slice, savepointOf cmd = some slice ∧ Denotes slice name := by
  cases statement with
  | savepoint n =>
      obtain rfl := Option.some.inj hname
      cases cmd with
      | savepoint slice => exact ⟨slice, rfl, h⟩
      | unknown => exact h.elim
      | begin_ => exact h.elim
      | commit => exact h.elim
      | rollback => exact h.elim
      | release slice => exact h.elim
      | rollbackTo slice => exact h.elim
      | rollbackAndChain => exact h.elim
  | release keyword n =>
      obtain rfl := Option.some.inj hname
      cases cmd with
      | release slice => exact ⟨slice, rfl, h⟩
      | unknown => exact h.elim
      | begin_ => exact h.elim
      | commit => exact h.elim
      | rollback => exact h.elim
      | savepoint slice => exact h.elim
      | rollbackTo slice => exact h.elim
      | rollbackAndChain => exact h.elim
  | rollbackTo keyword n =>
      obtain rfl := Option.some.inj hname
      cases cmd with
      | rollbackTo slice => exact ⟨slice, rfl, h⟩
      | unknown => exact h.elim
      | begin_ => exact h.elim
      | commit => exact h.elim
      | rollback => exact h.elim
      | savepoint slice => exact h.elim
      | release slice => exact h.elim
      | rollbackAndChain => exact h.elim
  | begin_ => cases hname
  | commit chain => cases hname
  | rollback chain => cases hname
  | commitPrepared gid => cases hname
  | rollbackPrepared gid => cases hname

/-- Two texts are parsed as the server reads them if and only if each is well read and their names
are clear. -/
theorem parse_agrees_iff
    (reserved : List Char → Bool) (clip : List Char → List Char) (text text' : List Char) :
    ParsedAlike reserved clip text text' ↔
      WellRead reserved text ∧ WellRead reserved text' ∧ NamesClear reserved clip text text' := by
  have hnames : ∀ s s' name name', ParsedAs reserved text → ParsedAs reserved text' →
      IsStatement reserved text s → IsStatement reserved text' s' →
      s.name = some name → s'.name = some name' →
      ∃ slice slice', savepointOf (parseTxnCmd text) = some slice ∧
        savepointOf (parseTxnCmd text') = some slice' ∧
        foldCase slice = foldCase name.identifier ∧ foldCase slice' = foldCase name'.identifier := by
    intro s s' name name' hleft hright hs hs' hname hname'
    obtain ⟨slice, hslice, hdenotes⟩ := savepointOf_executes (hleft.statement s hs) hname
    obtain ⟨slice', hslice', hdenotes'⟩ := savepointOf_executes (hright.statement s' hs') hname'
    exact ⟨slice, slice', hslice, hslice', foldCase_of_denotes hdenotes, foldCase_of_denotes hdenotes'⟩
  rw [← parsedAs_iff, ← parsedAs_iff]
  constructor
  · intro h
    refine ⟨h.left, h.right, ⟨?_, ?_⟩⟩
    · intro s s' name name' hs hs' hname hname' hfold
      obtain ⟨slice, slice', hslice, hslice', heq, heq'⟩ :=
        hnames s s' name name' h.left h.right hs hs' hname hname'
      refine (h.names s s' name name' slice slice' hs hs' hname hname' hslice hslice').mp ?_
      rw [heq, heq', hfold]
    · intro s s' name name' hs hs' hname hname' hclip
      obtain ⟨slice, slice', hslice, hslice', heq, heq'⟩ :=
        hnames s s' name name' h.left h.right hs hs' hname hname'
      have hfold := (h.names s s' name name' slice slice' hs hs' hname hname' hslice hslice').mpr hclip
      rw [heq, heq'] at hfold
      exact hfold
  · rintro ⟨hleft, hright, hclear⟩
    refine ⟨hleft, hright, ?_⟩
    intro s s' name name' slice slice' hs hs' hname hname' hslice hslice'
    obtain ⟨found, found', hfound, hfound', heq, heq'⟩ :=
      hnames s s' name name' hleft hright hs hs' hname hname'
    obtain rfl := Option.some.inj (hslice.symm.trans hfound)
    obtain rfl := Option.some.inj (hslice'.symm.trans hfound')
    rw [heq, heq']
    exact ⟨hclear.case_ s s' name name' hs hs' hname hname', hclear.cut s s' name name' hs hs' hname hname'⟩

/-- COMMIT AND CHAIN is reported as COMMIT. -/
theorem parse_commitAndChain :
    IsStatement (fun _ => false) "COMMIT AND CHAIN".toList (.commit true) ∧
      parseTxnCmd "COMMIT AND CHAIN".toList = .commit ∧
      ¬ParsedAlike (fun _ => false) (fun name => name) "COMMIT AND CHAIN".toList
        "COMMIT AND CHAIN".toList := by
  have hstatement : IsStatement (fun _ => false) "COMMIT AND CHAIN".toList (.commit true) := by
    have hnone : Blank [] := fun c hc => by cases hc
    have hblank : Blank [' '] := fun c hc => by
      rw [List.mem_singleton.mp hc]
      decide
    have hidentifier : ∀ {c : Char} {word : List Char}, word.head? = some c →
        isIdentStart c = true → word.all isIdentCont = true → IsIdentifier word :=
      fun hhead hstart hall => ⟨⟨_, hhead, hstart⟩, List.all_eq_true.mp hall⟩
    have hspace : ∀ c ∈ some ' ', isIdentCont c = false := fun c hc => by
      cases hc
      decide
    have hchain : Written [.word "CHAIN".toList] " CHAIN".toList :=
      @Written.word [] [' '] "CHAIN".toList [] hblank (hidentifier rfl (by decide) (by decide)) nofun
        (Written.nil hnone)
    have hand : Written [.word "AND".toList, .word "CHAIN".toList] " AND CHAIN".toList :=
      @Written.word _ [' '] "AND".toList _ hblank (hidentifier rfl (by decide) (by decide)) hspace
        hchain
    have hcommit : Written [.word "COMMIT".toList, .word "AND".toList, .word "CHAIN".toList]
        "COMMIT AND CHAIN".toList :=
      @Written.word _ [] "COMMIT".toList _ hnone (hidentifier rfl (by decide) (by decide)) hspace
        hand
    have hkeyword : ∀ (keyword : String) (w : List Char), tokenEquals w keyword = true →
        ∃ v, Lexeme.word w = .word v ∧ tokenEquals v keyword = true :=
      fun _ w hw => ⟨w, rfl, hw⟩
    refine ⟨[.word "COMMIT".toList] ++ ([] ++ [.word "AND".toList, .word "CHAIN".toList]), [],
      ?_, Or.inl rfl, hcommit⟩
    refine Derives.commit (Or.inl ?_) (Or.inl rfl) (Chain.chain ?_)
    · exact List.Forall₂.cons (hkeyword _ _ (by decide)) List.Forall₂.nil
    · exact List.Forall₂.cons (hkeyword _ _ (by decide))
        (List.Forall₂.cons (hkeyword _ _ (by decide)) List.Forall₂.nil)
  refine ⟨hstatement, by decide, fun h => ?_⟩
  have hexec := h.left.statement _ hstatement
  have hfine : true = false := (executes_iff hstatement).mp hexec
  exact Bool.false_ne_true hfine.symm

end TxnText

end PolarProxy
