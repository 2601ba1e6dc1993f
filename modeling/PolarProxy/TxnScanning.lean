import PolarProxy.TxnGrammar

/-!
# Tokens of transaction statements

How the parser of transaction commands cuts the text of lexemes: a word that a separator follows is a
token, a word that a double quote follows at once is lost, and a quoted name is one token unless a
quote stands in it.

**Results.** `tokenize_ident`, `tokenize_glued`, `parse_ident`, `parse_glued`, `nameText`.
-/

namespace PolarProxy

namespace TxnText

/-- A double quote stands right after a character that is not a blank; the first one counts. -/
def Glued (text : List Char) : Prop :=
  doubleQuote ∈ text ∧
    ∃ c, (text.takeWhile fun c => c ≠ doubleQuote).getLast? = some c ∧ isSpace c = false

/-! ## Characters and blanks -/

theorem isWordChar_of_isIdentCont
    {c : Char}
    (h : isIdentCont c = true) :
    isWordChar c = true := by
  have hdouble : isIdentCont doubleQuote = false := by
    decide
  have hsingle : isIdentCont singleQuote = false := by
    decide
  have hsemi : isIdentCont ';' = false := by
    decide
  rw [isWordChar_iff]
  refine ⟨?_, ?_, ?_⟩
  · rw [isQuote, Bool.or_eq_false_iff, beq_eq_false_iff_ne, beq_eq_false_iff_ne]
    constructor
    · rintro rfl
      exact Bool.false_ne_true (hdouble.symm.trans h)
    · rintro rfl
      exact Bool.false_ne_true (hsingle.symm.trans h)
  · rw [Bool.eq_false_iff]
    intro hspace
    simp only [isIdentCont, isIdentStart, isSpace, Bool.or_eq_true, Bool.and_eq_true, beq_iff_eq,
      decide_eq_true_eq] at h hspace
    omega
  · rw [beq_eq_false_iff_ne]
    rintro rfl
    exact Bool.false_ne_true (hsemi.symm.trans h)

theorem IsIdentifier.wordChars
    {word : List Char}
    (h : IsIdentifier word) :
    ∀ c ∈ word, isWordChar c = true :=
  fun c hc => isWordChar_of_isIdentCont (h.cont c hc)

theorem IsIdentifier.ne_nil {word : List Char} (h : IsIdentifier word) : word ≠ [] := by
  rintro rfl
  obtain ⟨c, hc, _⟩ := h.start
  cases hc

theorem IsIdentifier.no_quote
    {word : List Char}
    (h : IsIdentifier word) :
    doubleQuote ∉ word := by
  intro hmem
  have hword := (isWordChar_iff.mp (h.wordChars _ hmem)).1
  exact absurd hword (by decide)

theorem isQuote_of_separator
    {c : Char}
    (h : (isSpace c || c == ';') = true) :
    isQuote c = false := by
  rw [isQuote, Bool.or_eq_false_iff, beq_eq_false_iff_ne, beq_eq_false_iff_ne]
  constructor
  · rintro rfl
    exact absurd h (by decide)
  · rintro rfl
    exact absurd h (by decide)

theorem tokenize_blank
    {blanks : List Char}
    (h : Blank blanks)
    (rest : List Char) :
    tokenize none [] (blanks ++ rest) = tokenize none [] rest := by
  induction blanks with
  | nil => rfl
  | cons c blanks ih =>
      have hspace := h c List.mem_cons_self
      have hquote := isQuote_of_separator (c := c) (by rw [hspace, Bool.true_or])
      rw [List.cons_append, tokenize, hquote, if_neg Bool.false_ne_true, hspace, Bool.true_or,
        if_pos rfl, ih fun d hd => h d (List.mem_cons_of_mem _ hd)]
      rfl

theorem dropWhile_blank
    {blanks : List Char}
    (h : Blank blanks)
    (rest : List Char) :
    (blanks ++ rest).dropWhile isSpace = rest.dropWhile isSpace :=
  List.dropWhile_append_of_pos h

theorem tokenize_dropWhile (text : List Char) :
    tokenize none [] (text.dropWhile isSpace) = tokenize none [] text := by
  have hblank : Blank (text.takeWhile isSpace) := fun c hc => List.mem_takeWhile_imp hc
  rw [← tokenize_blank hblank, List.takeWhile_append_dropWhile]

/-! ## A word -/

/-- A blank or a semicolon comes next, or the text ends. -/
def Separated (rest : List Char) : Prop :=
  ∀ c ∈ rest.head?, (isSpace c || c == ';') = true

theorem Separated.no_quote
    {rest : List Char}
    (h : Separated rest) :
    rest.head? ≠ some doubleQuote := by
  intro hhead
  exact absurd (h doubleQuote hhead) (by decide)

variable {blanks word rest : List Char}

theorem tokenize_ident
    (hblank : Blank blanks)
    (hword : IsIdentifier word)
    (hrest : Separated rest) :
    tokenize none [] (blanks ++ (word ++ rest)) = word :: tokenize none [] rest := by
  rw [tokenize_blank hblank, tokenize_append hword.wordChars, List.nil_append]
  have hne : word.isEmpty = false := by
    rw [List.isEmpty_eq_false_iff]
    exact hword.ne_nil
  cases rest with
  | nil =>
      rw [tokenize, hne, if_neg Bool.false_ne_true]
      rfl
  | cons c rest =>
      have hend := hrest c rfl
      have hquote := isQuote_of_separator hend
      rw [tokenize, tokenize, hquote, if_neg Bool.false_ne_true, if_neg Bool.false_ne_true, if_pos hend,
        if_pos hend, hne]
      rfl

/-- A word right before a double quote is lost. -/
theorem tokenize_glued
    (hblank : Blank blanks)
    (hword : IsIdentifier word)
    (hrest : rest.head? = some doubleQuote) :
    tokenize none [] (blanks ++ (word ++ rest)) = tokenize none [] rest := by
  rw [tokenize_blank hblank, tokenize_append hword.wordChars]
  cases rest with
  | nil => cases hrest
  | cons c rest =>
      obtain rfl := Option.some.inj hrest
      have hquote : isQuote doubleQuote = true := by
        decide
      rw [tokenize, tokenize, if_pos hquote, if_pos hquote]

theorem dropWhile_ident
    {blanks word : List Char} (rest : List Char)
    (hblank : Blank blanks)
    (hword : IsIdentifier word) :
    (blanks ++ (word ++ rest)).dropWhile isSpace = word ++ rest := by
  rw [dropWhile_blank hblank]
  obtain ⟨c, hc, _⟩ := hword.start
  cases word with
  | nil => cases hc
  | cons d word =>
      have hspace := (isWordChar_iff.mp (hword.wordChars d List.mem_cons_self)).2.1
      rw [List.cons_append, List.dropWhile_cons_of_neg (by rw [hspace]; exact Bool.false_ne_true)]

variable {text : List Char}

theorem parse_dropWhile
    (h : text.dropWhile isSpace ≠ []) :
    parseTxnCmd text =
      match firstWord [] (text.dropWhile isSpace) with
      | none => .unknown
      | some (word, rest) => parseAfterWord word (tokenize none [] rest) := by
  unfold parseTxnCmd
  cases htext : text.dropWhile isSpace with
  | nil => exact absurd htext h
  | cons c rest =>
      dsimp only
      cases firstWord [] (c :: rest) with
      | none => rfl
      | some r =>
          dsimp only
          rw [tokenize_dropWhile]

theorem firstWord_ident
    {word rest : List Char}
    (hword : IsIdentifier word) :
    (Separated rest → firstWord [] (word ++ rest) = some (word, rest)) ∧
      (rest.head? = some doubleQuote → firstWord [] (word ++ rest) = none) := by
  have hscan : ∀ (w start : List Char), (∀ c ∈ w, isWordChar c = true) →
      firstWord start (w ++ rest) = firstWord (start ++ w) rest := by
    intro w
    induction w with
    | nil =>
        intro start _
        rw [List.append_nil, List.nil_append]
    | cons c w ih =>
        intro start h
        obtain ⟨hquote, hspace, hsemi⟩ := isWordChar_iff.mp (h c List.mem_cons_self)
        rw [List.cons_append, firstWord, hquote, hspace, hsemi, Bool.or_false,
          if_neg Bool.false_ne_true, if_neg Bool.false_ne_true,
          ih _ fun d hd => h d (List.mem_cons_of_mem _ hd), List.append_assoc]
        rfl
  rw [hscan word [] hword.wordChars, List.nil_append]
  constructor
  · intro hrest
    cases rest with
    | nil => rfl
    | cons c rest =>
        have hend := hrest c rfl
        have hquote := isQuote_of_separator hend
        rw [firstWord, hquote, if_neg Bool.false_ne_true, if_pos hend]
  · intro hrest
    cases rest with
    | nil => cases hrest
    | cons c rest =>
        obtain rfl := Option.some.inj hrest
        rfl

theorem parse_ident
    (hblank : Blank blanks)
    (hword : IsIdentifier word)
    (hrest : Separated rest) :
    parseTxnCmd (blanks ++ (word ++ rest)) = parseAfterWord word (tokenize none [] rest) := by
  have hdrop := dropWhile_ident rest hblank hword
  rw [parse_dropWhile, hdrop, (firstWord_ident hword).1 hrest]
  rw [hdrop]
  exact List.append_ne_nil_of_left_ne_nil hword.ne_nil _

theorem parse_glued
    (hblank : Blank blanks)
    (hword : IsIdentifier word)
    (hrest : rest.head? = some doubleQuote) :
    parseTxnCmd (blanks ++ (word ++ rest)) = .unknown := by
  have hdrop := dropWhile_ident rest hblank hword
  rw [parse_dropWhile, hdrop, (firstWord_ident hword).2 hrest]
  rw [hdrop]
  exact List.append_ne_nil_of_left_ne_nil hword.ne_nil _

/-! ## A quoted name -/

theorem doubled_cons (quote c : Char) (chars : List Char) :
    doubled quote (c :: chars) = (if c = quote then [c, c] else [c]) ++ doubled quote chars :=
  List.flatMap_cons

theorem tokenize_name_whole
    {chars : List Char} (token rest : List Char)
    (h : doubleQuote ∉ chars) :
    tokenize (some doubleQuote) token (doubled doubleQuote chars ++ doubleQuote :: rest) =
      (token ++ chars) :: tokenize none [] rest := by
  induction chars generalizing token with
  | nil =>
      rw [List.append_nil, doubled, List.flatMap_nil, List.nil_append, tokenize, beq_self_eq_true,
        if_pos rfl]
  | cons c chars ih =>
      rw [List.mem_cons, not_or] at h
      have hc : ¬c = doubleQuote := fun heq => h.1 heq.symm
      rw [doubled_cons, if_neg hc, List.append_assoc, List.singleton_append, tokenize,
        beq_eq_false_iff_ne.mpr hc, if_neg Bool.false_ne_true, ih _ h.2, List.append_assoc]
      rfl

theorem tokenize_name_pieces
    {chars : List Char} (token rest : List Char)
    (htoken : doubleQuote ∉ token) :
    ∀ t ∈ tokenize (some doubleQuote) token (doubled doubleQuote chars ++ doubleQuote :: rest),
      doubleQuote ∈ t → t ∈ tokenize none [] rest := by
  induction chars generalizing token with
  | nil =>
      rw [doubled, List.flatMap_nil, List.nil_append, tokenize, beq_self_eq_true, if_pos rfl]
      intro t ht hquote
      rcases List.mem_cons.mp ht with rfl | ht
      · exact absurd hquote htoken
      · exact ht
  | cons c chars ih =>
      rw [doubled_cons]
      by_cases hc : c = doubleQuote
      · have hquote : isQuote doubleQuote = true := by
          decide
        rw [if_pos hc, hc, List.cons_append, List.singleton_append, List.cons_append, tokenize,
          beq_self_eq_true, if_pos rfl, List.cons_append, tokenize, if_pos hquote]
        intro t ht hmem
        rcases List.mem_cons.mp ht with rfl | ht
        · exact absurd hmem htoken
        · exact ih [] List.not_mem_nil t ht hmem
      · rw [if_neg hc, List.append_assoc, List.singleton_append, tokenize,
          beq_eq_false_iff_ne.mpr hc, if_neg Bool.false_ne_true]
        refine ih _ fun hmem => ?_
        rcases List.mem_append.mp hmem with hmem | hmem
        · exact htoken hmem
        · exact hc (List.mem_singleton.mp hmem).symm

/-! ## The end of a statement -/

theorem blank_no_quote {blanks : List Char} (h : Blank blanks) : doubleQuote ∉ blanks := by
  intro hmem
  exact absurd (h _ hmem) (by decide)

/-- What ends a statement has no tokens and no double quote. -/
theorem tail_text
    {tail : List Lexeme}
    (htail : tail = [] ∨ tail = [.semicolon])
    (h : Written tail text) :
    tokenize none [] text = [] ∧ doubleQuote ∉ text := by
  have hnil : ∀ blanks : List Char, Blank blanks → tokenize none [] blanks = [] := by
    intro blanks hblank
    have := tokenize_blank hblank []
    rw [List.append_nil] at this
    rw [this]
    rfl
  rcases htail with rfl | rfl
  · cases h with
    | nil hblank => exact ⟨hnil _ hblank, blank_no_quote hblank⟩
  · cases h with
    | semicolon hblank hrest =>
        cases hrest with
        | nil hblank' =>
            have hquote := isQuote_of_separator (c := ';') (by decide)
            constructor
            · rw [tokenize_blank hblank, tokenize, hquote, if_neg Bool.false_ne_true, beq_self_eq_true,
                Bool.or_true, if_pos rfl, hnil _ hblank']
              rfl
            · intro hmem
              rcases List.mem_append.mp hmem with hmem | hmem
              · exact blank_no_quote hblank hmem
              · rcases List.mem_cons.mp hmem with heq | hmem
                · exact absurd heq (by decide)
                · exact blank_no_quote hblank' hmem

theorem separated_of_written
    {lexemes : List Lexeme}
    (h : Written lexemes text)
    (hend : ∀ c ∈ text.head?, isIdentCont c = false)
    (hnext : ∀ l ∈ lexemes.head?, (∃ w, l = .word w) ∨ l = .semicolon) :
    Separated text := by
  have hblanks : ∀ {blanks : List Char} (rest : List Char), Blank blanks →
      (blanks = [] → Separated rest) → Separated (blanks ++ rest) := by
    intro blanks rest hblank hrest
    cases blanks with
    | nil => exact hrest rfl
    | cons c blanks =>
        intro d hd
        obtain rfl := Option.some.inj hd
        rw [hblank _ List.mem_cons_self, Bool.true_or]
  cases h with
  | nil hblank =>
      rw [← List.append_nil text]
      exact hblanks _ hblank fun _ c hc => by cases hc
  | semicolon hblank _ =>
      refine hblanks _ hblank fun _ c hc => ?_
      obtain rfl := Option.some.inj hc
      decide
  | @word _ blanks w rest hblank hword _ _ =>
      refine hblanks _ hblank fun hnil => ?_
      obtain ⟨c, hc, hstart⟩ := hword.start
      have hhead : c ∈ (blanks ++ (w ++ rest)).head? := by
        rw [hnil, List.nil_append, List.head?_append, hc]
        rfl
      have hcont : isIdentCont c = true := by
        rw [isIdentCont, hstart, Bool.true_or, Bool.true_or]
      exact absurd ((hend c hhead).symm.trans hcont) Bool.false_ne_true
  | quotedName _ _ _ _ | literal _ _ _ | comma _ _ =>
      obtain ⟨w, hw⟩ | hw := hnext _ rfl
      · cases hw
      · cases hw

/-! ## Names right after a word -/

theorem takeWhile_no_quote
    {before : List Char} (rest : List Char)
    (h : doubleQuote ∉ before) :
    ((before ++ rest).takeWhile fun c => c ≠ doubleQuote) =
      before ++ rest.takeWhile fun c => c ≠ doubleQuote := by
  refine List.takeWhile_append_of_pos fun c hc => ?_
  rw [decide_eq_true_iff]
  rintro rfl
  exact h hc

theorem not_glued_of_no_quote
    (h : doubleQuote ∉ text) :
    ¬Glued text :=
  fun hglued => h hglued.1

theorem not_glued_of_blank
    {blanks rest : List Char}
    (hblank : Blank blanks) :
    ¬Glued (blanks ++ doubleQuote :: rest) := by
  rintro ⟨_, c, hc, hspace⟩
  have hnil : ((doubleQuote :: rest).takeWhile fun c => c ≠ doubleQuote) = [] :=
    List.takeWhile_cons_of_neg (by simp)
  rw [takeWhile_no_quote _ (blank_no_quote hblank), hnil, List.append_nil] at hc
  exact Bool.false_ne_true (hspace.symm.trans (hblank c (List.mem_of_getLast? hc)))

/-- The quote stands right after the word, or right after a character of the rest. -/
theorem glued_word_iff
    (hblank : Blank blanks)
    (hword : IsIdentifier word) :
    Glued (blanks ++ (word ++ rest)) ↔ rest.head? = some doubleQuote ∨ Glued rest := by
  have hbefore : doubleQuote ∉ blanks ++ word := by
    intro hmem
    rcases List.mem_append.mp hmem with hmem | hmem
    · exact blank_no_quote hblank hmem
    · exact hword.no_quote hmem
  rw [← List.append_assoc, Glued, takeWhile_no_quote _ hbefore, List.mem_append]
  by_cases hhead : rest.head? = some doubleQuote
  · refine iff_of_true ?_ (Or.inl hhead)
    cases rest with
    | nil => cases hhead
    | cons c rest =>
        obtain rfl := Option.some.inj hhead
        have hnil : ((doubleQuote :: rest).takeWhile fun c => c ≠ doubleQuote) = [] :=
          List.takeWhile_cons_of_neg (by simp)
        refine ⟨Or.inr List.mem_cons_self, word.getLast hword.ne_nil, ?_, ?_⟩
        · rw [hnil, List.append_nil, List.getLast?_append, List.getLast?_eq_some_getLast hword.ne_nil]
          rfl
        · exact (isWordChar_iff.mp (hword.wordChars _ (List.getLast_mem hword.ne_nil))).2.1
  · have hmem : (doubleQuote ∈ blanks ++ word ∨ doubleQuote ∈ rest) ↔ doubleQuote ∈ rest :=
      or_iff_right hbefore
    rw [hmem, or_iff_right hhead, Glued]
    refine and_congr_right fun hquote => ?_
    have hne : (rest.takeWhile fun c => c ≠ doubleQuote) ≠ [] := by
      cases rest with
      | nil => cases hquote
      | cons c rest =>
          have hc : c ≠ doubleQuote := fun heq => hhead (congrArg some heq)
          rw [List.takeWhile_cons_of_pos (by rw [decide_eq_true_iff]; exact hc)]
          exact List.cons_ne_nil _ _
    rw [List.getLast?_append, List.getLast?_eq_some_getLast hne, Option.some_or]

/-! ## The text of a name -/

/-- How the parser reads the text of a name that ends a statement -/
structure NameText (name : Name) (text : List Char) : Prop where
  ne_nil : name.chars ≠ []
  bare : name.quoted = false → doubleQuote ∉ name.chars
  whole : doubleQuote ∉ name.chars → tokenize none [] text = [name.chars]
  pieces : ∀ t ∈ tokenize none [] text, doubleQuote ∉ t
  not_glued : ¬Glued text
  next : (∀ c ∈ text.head?, isIdentCont c = false) → text.head? = some doubleQuote ∨ Separated text

variable {name : Name}

theorem nameText
    {reserved : List Char → Bool} {lexeme : Lexeme} {tail : List Lexeme}
    (hname : IsName reserved lexeme name)
    (htail : tail = [] ∨ tail = [.semicolon])
    (h : Written (lexeme :: tail) text) :
    NameText name text := by
  cases hname with
  | @bare w hreserved =>
      have hwritten := h
      cases h with
      | @word _ blanks _ rest hblank hword hend hrest =>
          have hafter := tail_text htail hrest
          have hseparated : Separated rest := by
            refine separated_of_written hrest hend ?_
            rcases htail with rfl | rfl
            · intro l hl
              cases hl
            · intro l hl
              exact Or.inr (Option.some.inj hl).symm
          have htokens : tokenize none [] (blanks ++ (w ++ rest)) = [w] := by
            rw [tokenize_ident hblank hword hseparated, hafter.1]
          refine ⟨hword.ne_nil, fun _ => hword.no_quote, fun _ => htokens, ?_, ?_, ?_⟩
          · rw [htokens]
            intro t ht
            rw [List.mem_singleton.mp ht]
            exact hword.no_quote
          · rw [glued_word_iff hblank hword]
            rintro (hhead | hglued)
            · exact hseparated.no_quote hhead
            · exact not_glued_of_no_quote hafter.2 hglued
          · intro hend'
            exact Or.inr (separated_of_written hwritten hend' fun l hl =>
              Or.inl ⟨w, (Option.some.inj hl).symm⟩)
  | @quoted chars =>
      cases h with
      | @quotedName _ blanks _ rest hblank hne hend hrest =>
          have hafter := tail_text htail hrest
          have hquote : isQuote doubleQuote = true := by
            decide
          have htokens : tokenize none [] (blanks ++ doubleQuote ::
              (doubled doubleQuote chars ++ doubleQuote :: rest)) =
              tokenize (some doubleQuote) [] (doubled doubleQuote chars ++ doubleQuote :: rest) := by
            rw [tokenize_blank hblank, tokenize, if_pos hquote]
          refine ⟨hne, fun hfalse => absurd hfalse.symm Bool.false_ne_true, ?_, ?_, ?_, ?_⟩
          · intro hno
            rw [htokens, tokenize_name_whole [] rest hno, hafter.1]
            rfl
          · rw [htokens]
            intro t ht hmem
            have := tokenize_name_pieces [] rest List.not_mem_nil t ht hmem
            rw [hafter.1] at this
            cases this
          · exact not_glued_of_blank hblank
          · intro _
            cases blanks with
            | nil => exact Or.inl rfl
            | cons c blanks =>
                refine Or.inr fun d hd => ?_
                obtain rfl := Option.some.inj hd
                rw [hblank _ List.mem_cons_self, Bool.true_or]

theorem NameText.of_denotes
    {text slice : List Char}
    (h : NameText name text)
    (hslice : slice = [] ∨ slice ∈ tokenize none [] text)
    (hdenotes : Denotes slice name) :
    doubleQuote ∉ name.chars ∧ slice ≠ [] := by
  have hne : slice ≠ [] := by
    rintro rfl
    refine h.ne_nil ?_
    unfold Denotes at hdenotes
    split at hdenotes
    case isTrue =>
      exact hdenotes.symm
    case isFalse =>
      exact List.map_eq_nil_iff.mp hdenotes.symm
  refine ⟨?_, hne⟩
  cases hquoted : name.quoted with
  | false => exact h.bare hquoted
  | true =>
      unfold Denotes at hdenotes
      rw [if_pos hquoted] at hdenotes
      rw [← hdenotes]
      exact h.pieces slice (hslice.resolve_left hne)

theorem denotes_chars (name : Name) : Denotes name.chars name := by
  unfold Denotes
  split
  case isTrue =>
    rfl
  case isFalse =>
    rfl

theorem nextName_cases (tokens : List (List Char)) :
    nextName tokens = [] ∨ nextName tokens ∈ tokens := by
  cases tokens with
  | nil => exact Or.inl rfl
  | cons token tokens => exact Or.inr List.mem_cons_self

theorem skipWord_subset (word : String) (tokens : List (List Char)) :
    skipWord word tokens ⊆ tokens := by
  cases tokens with
  | nil => exact List.Subset.refl _
  | cons token tokens =>
      rw [skipWord]
      by_cases hword : tokenEquals token word = true
      · rw [if_pos hword]
        exact List.subset_cons_self _ _
      · rw [if_neg hword]
        exact List.Subset.refl _

theorem NameText.denotes_next
    (h : NameText name text) :
    Denotes (nextName (tokenize none [] text)) name ↔ doubleQuote ∉ name.chars := by
  constructor
  · intro hdenotes
    exact (h.of_denotes (nextName_cases _) hdenotes).1
  · intro hno
    rw [h.whole hno]
    exact denotes_chars name

theorem NameText.denotes_skip
    (h : NameText name text) :
    Denotes (nextName (skipWord "savepoint" (tokenize none [] text))) name ↔
      doubleQuote ∉ name.chars ∧ tokenEquals name.chars "savepoint" = false := by
  constructor
  · intro hdenotes
    have hslice := (nextName_cases (skipWord "savepoint" (tokenize none [] text))).imp_right
      fun hmem => skipWord_subset _ _ hmem
    obtain ⟨hno, hne⟩ := h.of_denotes hslice hdenotes
    refine ⟨hno, ?_⟩
    rw [h.whole hno] at hne
    rw [Bool.eq_false_iff]
    intro hskip
    rw [skipWord, if_pos hskip] at hne
    exact hne rfl
  · rintro ⟨hno, hword⟩
    rw [h.whole hno, skipWord, hword, if_neg Bool.false_ne_true]
    exact denotes_chars name

end TxnText

end PolarProxy
