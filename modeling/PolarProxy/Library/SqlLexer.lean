import Mathlib.Data.List.TakeWhile
import PolarProxy.Library.SqlLiterals

/-!
# Lexemes of PostgreSQL

How PostgreSQL cuts a text into lexemes, with standard strings: blanks and comments, which nest;
strings, which go on after a newline; strings with escapes; quoted identifiers; dollar-quoted
strings; identifiers, which may hold dollar signs and characters that are not ASCII; parameters,
numbers and the rest.

Only words matter as tokens; everything else that is not blank is `other`.  Numbers and operators
are cut into smaller pieces than PostgreSQL cuts them, which changes neither the words nor which
words are next to each other.  Some texts that PostgreSQL rejects have lexemes here too, such as
the quoted identifier without characters.

**Rules.**
* `Lexes.split`, `lexes_tokensWhile`: tokens that are read while a condition holds are those of a
  sequence of lexemes.
* `tokensWhile_initial`: they are the first tokens of the text.
-/

namespace SqlLexer

/-! ## Characters -/

/-- `space` -/
def isSpace (c : Char) : Bool :=
  c.toNat == 32 || (9 ≤ c.toNat && c.toNat ≤ 13)

/-- `newline` -/
def isNewline (c : Char) : Bool :=
  c.toNat == 10 || c.toNat == 13

/-- `decdigit` -/
def isDigit (c : Char) : Bool :=
  48 ≤ c.toNat && c.toNat ≤ 57

def isLetter (c : Char) : Bool :=
  (65 ≤ c.toNat && c.toNat ≤ 90) || (97 ≤ c.toNat && c.toNat ≤ 122) || c.toNat == 95

/-- A character that is not ASCII -/
def isHigh (c : Char) : Bool :=
  128 ≤ c.toNat

/-- `ident_start`, which is `dolq_start` too -/
def isIdentStart (c : Char) : Bool :=
  isLetter c || isHigh c

/-- `dolq_cont` -/
def isTagChar (c : Char) : Bool :=
  isIdentStart c || isDigit c

/-- `ident_cont` -/
def isIdentCont (c : Char) : Bool :=
  isTagChar c || c == '$'

def doubleQuote : Char :=
  Char.ofNat 34

def backslash : Char :=
  Char.ofNat 92

/-! ## Lexemes with an end -/

/-- The text after a comment of two dashes -/
def lineComment (p : List Char) : List Char :=
  p.dropWhile fun c => !isNewline c

/-- The text after a block comment that lies in a number of others -/
def blockComment : Nat → List Char → Option (List Char)
  | _, [] => none
  | _, [_] => none
  | depth, c :: d :: rest =>
      if c = '*' ∧ d = '/' then
        match depth with
        | 0 => some rest
        | depth + 1 => blockComment depth rest
      else if c = '/' ∧ d = '*' then blockComment (depth + 1) rest
      else blockComment depth (d :: rest)

/-- The text after the closing quote of a string -/
def quotedBody (escapes : Bool) : List Char → Option (List Char)
  | [] => none
  | [c] => if c = SqlLiterals.quote then some [] else none
  | c :: d :: rest =>
      if escapes ∧ c = backslash then quotedBody escapes rest
      else if c = SqlLiterals.quote then
        if d = SqlLiterals.quote then quotedBody escapes rest else some (d :: rest)
      else quotedBody escapes (d :: rest)

/-- `quotecontinue`: the text after a quote that blanks with a newline separate from a closing
quote.  A comment is blank up to its newline. -/
def quoteContinue (comment newline : Bool) : List Char → Option (List Char)
  | [] => none
  | c :: rest =>
      if isNewline c then quoteContinue false true rest
      else if comment then quoteContinue true newline rest
      else if c = SqlLiterals.quote then if newline then some rest else none
      else if isSpace c then quoteContinue false newline rest
      else if c = '-' ∧ rest.head? = some '-' then quoteContinue true newline rest
      else none

/-- The text after a string with everything that continues it -/
def stringBody (escapes : Bool) : Nat → List Char → Option (List Char)
  | 0, _ => none
  | fuel + 1, p =>
      match quotedBody escapes p with
      | none => none
      | some rest =>
          match quoteContinue false false rest with
          | some body => stringBody escapes fuel body
          | none => some rest

/-- The text after a quoted identifier -/
def identifierBody : List Char → Option (List Char)
  | [] => none
  | [c] => if c = doubleQuote then some [] else none
  | c :: d :: rest =>
      if c = doubleQuote then
        if d = doubleQuote then identifierBody rest else some (d :: rest)
      else identifierBody (d :: rest)

/-- The tag that a dollar sign opens, and the body after it -/
def dollarTag (p : List Char) : Option (List Char × List Char) :=
  match p.dropWhile isTagChar with
  | [] => none
  | c :: body =>
      if c = '$' ∧ p.head?.any isDigit = false then some (p.takeWhile isTagChar, body) else none

/-- The text after the first occurrence of a delimiter -/
def dollarBody (delimiter : List Char) : List Char → Option (List Char)
  | [] => none
  | c :: rest =>
      if delimiter.isPrefixOf (c :: rest) then some ((c :: rest).drop delimiter.length)
      else dollarBody delimiter rest

/-! ## Tokens -/

inductive Token
  | word (text : List Char)
  | other
  deriving DecidableEq

inductive Kind
  | blank
  | lineComment
  | blockComment
  | string
  | escapeString
  | quotedIdentifier
  | parameter
  | dollarString
  | identifier
  | number
  | other
  deriving DecidableEq

/-- The lexeme that starts with a character -/
def kind (c : Char) (rest : List Char) : Kind :=
  if isSpace c then .blank
  else if c = '-' ∧ rest.head? = some '-' then .lineComment
  else if c = '/' ∧ rest.head? = some '*' then .blockComment
  else if (c = 'e' ∨ c = 'E') ∧ rest.head? = some SqlLiterals.quote then .escapeString
  else if c = SqlLiterals.quote then .string
  else if c = doubleQuote then .quotedIdentifier
  else if c = '$' then
    if rest.head?.any isDigit then .parameter
    else if (dollarTag rest).isSome then .dollarString
    else .other
  else if isIdentStart c then .identifier
  else if isDigit c then .number
  else .other

/-- The letters in front of a quote that are part of a literal or of a quoted identifier -/
def isLiteralLetter (word rest : List Char) : Bool :=
  match word, rest with
  | [c], d :: more =>
      (c ∈ ['b', 'B', 'x', 'X', 'n', 'N'] && d == SqlLiterals.quote) ||
        (c ∈ ['u', 'U'] && d == '&' &&
          more.head?.any fun q => q == SqlLiterals.quote || q == doubleQuote)
  | _, _ => false

/-- The token of an identifier or keyword -/
def wordToken (word rest : List Char) : Token :=
  if isLiteralLetter word rest then .other else .word word

/-- The first lexeme of a text and the text after it; a blank has no token. -/
def lexeme : List Char → Option (Option Token × List Char)
  | [] => none
  | c :: rest =>
      match kind c rest with
      | .blank => some (none, rest)
      | .lineComment => some (none, lineComment rest.tail)
      | .blockComment => (blockComment 0 rest.tail).map fun q => (none, q)
      | .string => (stringBody false rest.length rest).map fun q => (some .other, q)
      | .escapeString => (stringBody true rest.length rest.tail).map fun q => (some .other, q)
      | .quotedIdentifier => (identifierBody rest).map fun q => (some .other, q)
      | .parameter =>
          if (rest.dropWhile isDigit).head?.any isIdentStart then none
          else some (some .other, rest.dropWhile isDigit)
      | .dollarString =>
          (dollarTag rest).bind fun found =>
            (dollarBody ('$' :: found.1 ++ ['$']) found.2).map fun q => (some .other, q)
      | .identifier =>
          some (some (wordToken (c :: rest.takeWhile isIdentCont) (rest.dropWhile isIdentCont)),
            rest.dropWhile isIdentCont)
      | .number =>
          if (rest.dropWhile fun c => isLetter c || isDigit c).head?.any isHigh then none
          else some (some .other, rest.dropWhile fun c => isLetter c || isDigit c)
      | .other => some (some .other, rest)

/-- The tokens of the lexemes from the start of a text on, as long as a condition holds where
they start -/
def tokensWhile (ok : List Char → Bool) : Nat → List Char → List Token
  | 0, _ => []
  | fuel + 1, p =>
      if ok p then
        match lexeme p with
        | none => []
        | some (token, q) => token.toList ++ tokensWhile ok fuel q
      else []

def lexFrom : Nat → List Char → Option (List Token)
  | _, [] => some []
  | 0, _ :: _ => none
  | fuel + 1, c :: rest =>
      match lexeme (c :: rest) with
      | none => none
      | some (token, q) => (lexFrom fuel q).map fun tokens => token.toList ++ tokens

/-- The tokens of a text; `none` when PostgreSQL rejects a lexeme. -/
def lex (p : List Char) : Option (List Token) :=
  lexFrom p.length p

theorem kind_identifier
    {c : Char} {rest : List Char}
    (h : kind c rest = .identifier) :
    ¬ ((c = 'e' ∨ c = 'E') ∧ rest.head? = some SqlLiterals.quote) := by
  rw [kind] at h
  split_ifs at h
  assumption

theorem lexeme_word
    {p q word : List Char}
    (h : lexeme p = some (some (.word word), q)) :
    ∃ c rest, p = c :: rest ∧ kind c rest = .identifier ∧
      c :: rest.takeWhile isIdentCont = word ∧ rest.dropWhile isIdentCont = q := by
  cases p with
  | nil => cases h
  | cons c rest =>
      rw [lexeme] at h
      cases hkind : kind c rest with
      | identifier =>
          simp only [hkind, Option.some_inj, Prod.mk.injEq, wordToken] at h
          split_ifs at h with hliteral
          · cases h.1
          · obtain ⟨hword, hq⟩ := h
            cases hword
            exact ⟨c, rest, rfl, hkind, rfl, hq⟩
      | dollarString =>
          simp only [hkind, Option.bind_eq_some_iff, Option.map_eq_some_iff] at h
          obtain ⟨found, hfound, q', hq, heq⟩ := h
          cases heq
      | _ => simp [hkind] at h

/-! ## Sequences of lexemes -/

/-- Lexemes from a text to one of its tails, each where a condition holds, and their tokens -/
inductive Lexes (ok : List Char → Bool) : List Char → List Token → List Char → Prop
  | nil (p : List Char) : Lexes ok p [] p
  | cons {p q r : List Char} {token : Option Token} {tokens : List Token} :
      ok p = true → lexeme p = some (token, q) → Lexes ok q tokens r →
        Lexes ok p (token.toList ++ tokens) r

variable {ok : List Char → Bool} {p r : List Char}

theorem Lexes.split
    {earlier later : List Token}
    (h : Lexes ok p (earlier ++ later) r) :
    ∃ q, Lexes ok p earlier q ∧ Lexes ok q later r := by
  generalize htokens : earlier ++ later = tokens at h
  induction h generalizing earlier with
  | nil p =>
      obtain ⟨rfl, rfl⟩ := List.append_eq_nil_iff.mp htokens
      exact ⟨p, .nil p, .nil p⟩
  | @cons p q r token tokens hok hlexeme hrest ih =>
      cases token with
      | none =>
          obtain ⟨q', hearlier, hlater⟩ := ih htokens
          exact ⟨q', .cons hok hlexeme hearlier, hlater⟩
      | some t =>
          cases earlier with
          | nil =>
              rw [List.nil_append] at htokens
              rw [htokens]
              exact ⟨p, .nil p, .cons hok hlexeme hrest⟩
          | cons e earlier =>
              obtain ⟨rfl, htail⟩ := List.cons.inj htokens
              obtain ⟨q', hearlier, hlater⟩ := ih htail
              exact ⟨q', .cons hok hlexeme hearlier, hlater⟩

/-- Tokens that are read while a condition holds are the tokens of lexemes. -/
theorem lexes_tokensWhile (fuel : Nat) (p : List Char) :
    ∃ r, Lexes ok p (tokensWhile ok fuel p) r := by
  induction fuel generalizing p with
  | zero => exact ⟨p, .nil p⟩
  | succ fuel ih =>
      rw [tokensWhile]
      split
      · rename_i hok
        cases hlexeme : lexeme p with
        | none => exact ⟨p, .nil p⟩
        | some found =>
            obtain ⟨r, hrest⟩ := ih found.2
            exact ⟨r, .cons hok hlexeme hrest⟩
      · exact ⟨p, .nil p⟩

theorem tokensWhile_initial
    {fuel : Nat} {tokens : List Token}
    (h : lexFrom fuel p = some tokens) :
    tokensWhile ok fuel p <+: tokens := by
  induction fuel generalizing p tokens with
  | zero => exact ⟨tokens, rfl⟩
  | succ fuel ih =>
      rw [tokensWhile]
      split
      · cases p with
        | nil => exact ⟨tokens, rfl⟩
        | cons c rest =>
            rw [lexFrom] at h
            cases hlexeme : lexeme (c :: rest) with
            | none => exact ⟨tokens, rfl⟩
            | some found =>
                simp only [hlexeme, Option.map_eq_some_iff] at h
                obtain ⟨more, hmore, rfl⟩ := h
                obtain ⟨last, hlast⟩ := ih hmore
                refine ⟨last, ?_⟩
                simp only
                rw [List.append_assoc, hlast]
      · exact ⟨tokens, rfl⟩

end SqlLexer
