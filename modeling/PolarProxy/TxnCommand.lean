import PolarProxy.Text

/-!
# Transaction commands

The transaction tracker reads the text of each statement that was executed.  Its
parser looks at the first word; BEGIN and COMMIT are reported on that word alone,
and for the other commands the rest of the text is cut into words and quoted
names.

Next to the parser stand the commands themselves (`TxnCommand`), as PostgreSQL
executes them, with the text of each.

**Results.** `tokenize_name`, `parse_text`.
-/

namespace PolarProxy

/-- `TxnCmd`, with the savepoint of the commands that have one -/
inductive TxnCmd
  | unknown
  | begin_
  | commit
  | rollback
  | savepoint (name : List Char)
  | release (name : List Char)
  | rollbackTo (name : List Char)
  | rollbackAndChain
  deriving DecidableEq

/-! ## The parser -/

def isQuote (c : Char) : Bool :=
  c == doubleQuote || c == singleQuote

/-- The scan for the end of the first word.  A quote in it ends the parse. -/
def firstWord : List Char → List Char → Option (List Char × List Char)
  | word, [] => some (word, [])
  | word, c :: rest =>
      if isQuote c then none
      else if isSpace c || c == ';' then some (word, c :: rest)
      else firstWord (word ++ [c]) rest

/-- The loop that cuts the rest of the text into tokens.  `quote` is the quote that
is open, `token` what was read since the start of the token. -/
def tokenize : Option Char → List Char → List Char → List (List Char)
  | some _, token, [] => [token]
  | none, token, [] => if token.isEmpty then [] else [token]
  | some quote, token, c :: rest =>
      if c == quote then token :: tokenize none [] rest
      else tokenize (some quote) (token ++ [c]) rest
  | none, token, c :: rest =>
      if isQuote c then tokenize (some c) [] rest
      else if isSpace c || c == ';' then
        (if token.isEmpty then [] else [token]) ++ tokenize none [] rest
      else tokenize none (token ++ [c]) rest

def nextName (tokens : List (List Char)) : List Char :=
  tokens.head?.getD []

def skipWord (word : String) : List (List Char) → List (List Char)
  | [] => []
  | token :: rest => if tokenEquals token word then rest else token :: rest

/-- `parse_rollback` -/
def parseRollback (tokens : List (List Char)) : TxnCmd :=
  match tokens.dropWhile fun t => tokenEquals t "work" || tokenEquals t "transaction" with
  | [] => .rollback
  | token :: rest =>
      if tokenEquals token "to" then .rollbackTo (nextName (skipWord "savepoint" rest))
      else if tokenEquals token "and" then
        match rest with
        | [] => .rollback
        | next :: _ => if tokenEquals next "chain" then .rollbackAndChain else .rollback
      else .rollback

/-- `parse_release` -/
def parseRelease (tokens : List (List Char)) : TxnCmd :=
  .release (nextName (skipWord "savepoint" tokens))

/-- `parse_start` -/
def parseStart : List (List Char) → TxnCmd
  | [] => .unknown
  | token :: _ => if tokenEquals token "transaction" then .begin_ else .unknown

def parseAfterWord (word : List Char) (tokens : List (List Char)) : TxnCmd :=
  if tokenEquals word "begin" then .begin_
  else if tokenEquals word "start" then parseStart tokens
  else if tokenEquals word "savepoint" then .savepoint (nextName tokens)
  else if tokenEquals word "release" then parseRelease tokens
  else if tokenEquals word "rollback" || tokenEquals word "abort" then parseRollback tokens
  else if tokenEquals word "commit" || tokenEquals word "end" then .commit
  else .unknown

/-- `PgSQL_TxnCmdParser::parse` -/
def parseTxnCmd (input : List Char) : TxnCmd :=
  match input.dropWhile isSpace with
  | [] => .unknown
  | c :: text =>
      match firstWord [] (c :: text) with
      | none => .unknown
      | some (word, rest) => parseAfterWord word (tokenize none [] (rest.dropWhile isSpace))

/-! ## Commands and their text -/

/-- A character of a word that neither ends the word nor opens a quote. -/
def isWordChar (c : Char) : Bool :=
  !isQuote c && !isSpace c && c != ';'

structure SavepointName where
  chars : List Char
  quoted : Bool
  nonempty : chars ≠ []
  written : if quoted then doubleQuote ∉ chars else ∀ c ∈ chars, isWordChar c = true
  deriving DecidableEq

/-- Letter case does not count. -/
def foldCase (name : List Char) : List Char :=
  name.map asciiLower

/-- The identifier that PostgreSQL reads: it folds a name that is not quoted. -/
def SavepointName.identifier (name : SavepointName) : List Char :=
  if name.quoted then name.chars else foldCase name.chars

/-- A transaction command of PostgreSQL. -/
inductive TxnCommand
  | begin_
  | commit (chain : Bool)
  | rollback (chain : Bool)
  | savepoint (name : SavepointName)
  | release (name : SavepointName)
  | rollbackTo (name : SavepointName)
  deriving DecidableEq

def SavepointName.text (name : SavepointName) : List Char :=
  if name.quoted then doubleQuote :: name.chars ++ [doubleQuote] else name.chars

def TxnCommand.text : TxnCommand → List Char
  | .begin_ => "BEGIN".toList
  | .commit false => "COMMIT".toList
  | .commit true => "COMMIT AND CHAIN".toList
  | .rollback false => "ROLLBACK".toList
  | .rollback true => "ROLLBACK AND CHAIN".toList
  | .savepoint name => "SAVEPOINT".toList ++ ' ' :: name.text
  | .release name => "RELEASE".toList ++ ' ' :: ("SAVEPOINT".toList ++ ' ' :: name.text)
  | .rollbackTo name =>
      "ROLLBACK".toList ++ ' ' :: ("TO".toList ++ ' ' :: ("SAVEPOINT".toList ++ ' ' :: name.text))

/-- What the parser makes of a command: COMMIT is COMMIT whatever follows it. -/
def TxnCommand.parsed : TxnCommand → TxnCmd
  | .begin_ => .begin_
  | .commit _ => .commit
  | .rollback false => .rollback
  | .rollback true => .rollbackAndChain
  | .savepoint name => .savepoint name.chars
  | .release name => .release name.chars
  | .rollbackTo name => .rollbackTo name.chars

theorem isWordChar_iff
    {c : Char} :
    isWordChar c = true ↔ isQuote c = false ∧ isSpace c = false ∧ (c == ';') = false := by
  simp [isWordChar, and_assoc]

theorem firstWord_append
    {word : List Char} {c : Char}
    (h : ∀ c ∈ word, isWordChar c = true)
    (hc : isQuote c = false)
    (hend : (isSpace c || c == ';') = true)
    (start rest : List Char) :
    firstWord start (word ++ c :: rest) = some (start ++ word, c :: rest) := by
  induction word generalizing start with
  | nil =>
      simp [firstWord, hc, hend]
  | cons d word ih =>
      obtain ⟨hquote, hspace, hsemi⟩ := isWordChar_iff.mp (h d (List.mem_cons_self ..))
      rw [List.cons_append, firstWord, hquote, hspace, hsemi]
      simp only [Bool.or_self, Bool.false_eq_true, ↓reduceIte]
      rw [ih fun e he => h e (List.mem_cons_of_mem _ he)]
      simp

theorem tokenize_append
    {word : List Char}
    (h : ∀ c ∈ word, isWordChar c = true)
    (token rest : List Char) :
    tokenize none token (word ++ rest) = tokenize none (token ++ word) rest := by
  induction word generalizing token with
  | nil =>
      simp
  | cons c word ih =>
      obtain ⟨hquote, hspace, hsemi⟩ := isWordChar_iff.mp (h c (List.mem_cons_self ..))
      rw [List.cons_append, tokenize, hquote, hspace, hsemi]
      simp only [Bool.or_self, Bool.false_eq_true, ↓reduceIte]
      rw [ih fun d hd => h d (List.mem_cons_of_mem _ hd)]
      simp

theorem tokenize_word
    {word : List Char}
    (h : ∀ c ∈ word, isWordChar c = true)
    (hne : word ≠ [])
    (rest : List Char) :
    tokenize none [] (word ++ ' ' :: rest) = word :: tokenize none [] rest := by
  have hblank : isQuote ' ' = false ∧ (isSpace ' ' || ' ' == ';') = true := by decide
  rw [tokenize_append h, List.nil_append, tokenize, hblank.1, hblank.2]
  simp [hne]

theorem tokenize_quoted
    {name : List Char}
    (h : doubleQuote ∉ name)
    (token : List Char) :
    tokenize (some doubleQuote) token (name ++ [doubleQuote]) = [token ++ name] := by
  induction name generalizing token with
  | nil =>
      simp [tokenize]
  | cons c rest ih =>
      rw [List.mem_cons, not_or] at h
      have hc : (c == doubleQuote) = false := by
        simpa using Ne.symm h.1
      rw [List.cons_append, tokenize, hc]
      simp only [Bool.false_eq_true, ↓reduceIte]
      rw [ih h.2]
      simp

/-- A name is read back from its text. -/
theorem tokenize_name
    (name : SavepointName) :
    tokenize none [] name.text = [name.chars] := by
  have hwritten := name.written
  unfold SavepointName.text
  split at hwritten
  · rename_i hquoted
    have hquote : isQuote doubleQuote = true := by decide
    rw [if_pos hquoted, List.cons_append, tokenize, if_pos hquote]
    exact tokenize_quoted hwritten []
  · rename_i hplain
    have happend := tokenize_append hwritten [] []
    rw [List.append_nil, List.nil_append] at happend
    rw [if_neg hplain, happend, tokenize]
    simp [name.nonempty]

theorem dropWhile_name
    (name : SavepointName) :
    name.text.dropWhile isSpace = name.text := by
  have hwritten := name.written
  unfold SavepointName.text
  split
  · have hquote : isSpace doubleQuote = false := by decide
    rw [List.cons_append, List.dropWhile_cons_of_neg (by simp [hquote])]
  · rename_i hplain
    rw [if_neg hplain] at hwritten
    cases hchars : name.chars with
    | nil =>
        rfl
    | cons c rest =>
        have hc := isWordChar_iff.mp (hwritten c (by rw [hchars]; exact List.mem_cons_self ..))
        rw [List.dropWhile_cons_of_neg (by simp [hc.2.1])]

theorem parse_word
    {word : List Char}
    (h : ∀ c ∈ word, isWordChar c = true)
    (hne : word ≠ [])
    (rest : List Char) :
    parseTxnCmd (word ++ ' ' :: rest) =
      parseAfterWord word (tokenize none [] (rest.dropWhile isSpace)) := by
  obtain ⟨c, word, rfl⟩ := List.exists_cons_of_ne_nil hne
  have hc := isWordChar_iff.mp (h c (List.mem_cons_self ..))
  have hstart : ((c :: word) ++ ' ' :: rest).dropWhile isSpace = c :: (word ++ ' ' :: rest) := by
    rw [List.cons_append, List.dropWhile_cons_of_neg (by simp [hc.2.1])]
  have hfirst := firstWord_append h (show isQuote ' ' = false by decide) (by decide) []
    rest
  rw [List.cons_append, List.nil_append] at hfirst
  simp only [parseTxnCmd, hstart, hfirst]
  rw [List.dropWhile_cons_of_pos (by decide)]

/-- What the parser reports for each command. -/
theorem parse_text
    (command : TxnCommand) :
    parseTxnCmd command.text = command.parsed := by
  have hsavepoint : ∀ c ∈ "SAVEPOINT".toList, isWordChar c = true := List.all_eq_true.mp rfl
  have hto : ∀ c ∈ "TO".toList, isWordChar c = true := List.all_eq_true.mp rfl
  cases command with
  | begin_ =>
      rfl
  | commit chain =>
      cases chain <;> rfl
  | rollback chain =>
      cases chain <;> rfl
  | savepoint name =>
      change parseTxnCmd ("SAVEPOINT".toList ++ ' ' :: name.text) = _
      rw [parse_word hsavepoint (by decide), dropWhile_name, tokenize_name]
      rfl
  | release name =>
      have hrest : ("SAVEPOINT".toList ++ ' ' :: name.text).dropWhile isSpace =
          "SAVEPOINT".toList ++ ' ' :: name.text := rfl
      change parseTxnCmd ("RELEASE".toList ++ ' ' :: _) = _
      rw [parse_word (List.all_eq_true.mp rfl) (by decide), hrest,
        tokenize_word hsavepoint (by decide), tokenize_name]
      rfl
  | rollbackTo name =>
      have hrest : ("TO".toList ++ ' ' :: ("SAVEPOINT".toList ++ ' ' :: name.text)).dropWhile
          isSpace = "TO".toList ++ ' ' :: ("SAVEPOINT".toList ++ ' ' :: name.text) := rfl
      change parseTxnCmd ("ROLLBACK".toList ++ ' ' :: _) = _
      rw [parse_word (List.all_eq_true.mp rfl) (by decide), hrest, tokenize_word hto (by decide),
        tokenize_word hsavepoint (by decide), tokenize_name]
      rfl

end PolarProxy
