import Mathlib.Tactic.Common

/-!
# Literals and SET statements of SQL

A quoted literal doubles the quotes inside it.  A reader of such a literal stops at
the first quote that stands alone.  Numbers are written in decimal, and a statement
`SET name = value; ` has a name, a value and a blank behind it.

**Rules.**
* `readQuoted_escape`: a quoted text is read back whatever it holds.
* `readDecimal_toDigits`: a number is read back.
* `readSet_writeSet`: a statement is read back, with what stands behind it.
-/

namespace SqlLiterals

def quote : Char :=
  Char.ofNat 39

/-- The body of a literal for a text. -/
def escape (value : List Char) : List Char :=
  value.flatMap fun c => if c = quote then [quote, quote] else [c]

/-- Read the body of a literal up to the quote that ends it, and give what is behind
it. -/
def readQuoted : List Char → Option (List Char × List Char)
  | [] => none
  | c :: rest =>
      if c = quote then
        match rest with
        | [] => some ([], [])
        | d :: rest' =>
            if d = quote then (readQuoted rest').map fun r => (quote :: r.1, r.2)
            else some ([], d :: rest')
      else (readQuoted rest).map fun r => (c :: r.1, r.2)

theorem readQuoted_cons_of_ne
    {c : Char} {rest : List Char}
    (hc : c ≠ quote) :
    readQuoted (c :: rest) = (readQuoted rest).map fun r => (c :: r.1, r.2) := by
  rw [readQuoted.eq_def]
  exact if_neg hc

theorem readQuoted_escape
    (value : List Char)
    {rest : List Char}
    (hrest : rest.head? ≠ some quote) :
    readQuoted (escape value ++ quote :: rest) = some (value, rest) := by
  induction value with
  | nil =>
      cases rest with
      | nil =>
          rfl
      | cons d rest =>
          have hd : d ≠ quote := by
            rintro rfl
            exact hrest rfl
          simp [escape, readQuoted, hd]
  | cons c value ih =>
      rw [escape] at ih ⊢
      rw [List.flatMap_cons, List.append_assoc]
      by_cases hc : c = quote
      · subst hc
        rw [if_pos rfl]
        simp only [List.cons_append, List.nil_append, readQuoted, ↓reduceIte, ih, Option.map_some]
      · rw [if_neg hc]
        rw [List.cons_append, List.nil_append, readQuoted_cons_of_ne hc, ih, Option.map_some]

/-- Read the digits at the front of a text. -/
def readDecimal (text : List Char) : Option (Nat × List Char) :=
  if text.takeWhile Char.isDigit = [] then none
  else some (Nat.ofDigitChars 10 (text.takeWhile Char.isDigit) 0, text.dropWhile Char.isDigit)

/-- What satisfies a test is taken, up to a character that does not. -/
theorem takeWhile_append
    {p : Char → Bool} {word rest : List Char}
    (hword : ∀ c ∈ word, p c = true)
    (hrest : ∀ c ∈ rest.head?, p c = false) :
    (word ++ rest).takeWhile p = word ∧ (word ++ rest).dropWhile p = rest := by
  rw [List.takeWhile_append_of_pos hword, List.dropWhile_append_of_pos hword]
  cases rest with
  | nil =>
      simp
  | cons c rest =>
      have hc := hrest c rfl
      simp [hc]

theorem readDecimal_toDigits
    (n : Nat)
    {rest : List Char}
    (hrest : ∀ c ∈ rest.head?, c.isDigit = false) :
    readDecimal (Nat.toDigits 10 n ++ rest) = some (n, rest) := by
  have hdigits : ∀ c ∈ Nat.toDigits 10 n, c.isDigit = true :=
    fun c hc => Nat.isDigit_of_mem_toDigits (by decide) (by decide) hc
  obtain ⟨htake, hdrop⟩ := takeWhile_append hdigits hrest
  rw [readDecimal, htake, hdrop, if_neg Nat.toDigits_ne_nil, Nat.ofDigitChars_ten_toDigits]

/-! ## Statements -/

inductive Value
  | text (value : String)
  | number (n : Nat)
  deriving DecidableEq

/-- `SET name = value` -/
structure SetCommand where
  name : String
  value : Value
  deriving DecidableEq

def writeValue : Value → List Char
  | .text value => quote :: (escape value.toList ++ [quote])
  | .number n => Nat.toDigits 10 n

def writeSet (command : SetCommand) : List Char :=
  "SET ".toList ++ (command.name.toList ++ (" = ".toList ++ (writeValue command.value ++ "; ".toList)))

def readValue : List Char → Option (Value × List Char)
  | [] => none
  | c :: rest =>
      if c = quote then (readQuoted rest).map fun r => (.text (String.ofList r.1), r.2)
      else (readDecimal (c :: rest)).map fun r => (.number r.1, r.2)

/-- A word at the front of a text. -/
def expect (word text : List Char) : Option (List Char) :=
  if word.isPrefixOf text then some (text.drop word.length) else none

/-- Letters, digits and underscores. -/
def isNameChar (c : Char) : Bool :=
  c.isAlphanum || c == '_'

/-- Read one statement, with the blank behind it. -/
def readSet (text : List Char) : Option (SetCommand × List Char) := do
  let text ← expect "SET ".toList text
  let name := text.takeWhile isNameChar
  let text ← expect " = ".toList (text.dropWhile isNameChar)
  let (value, text) ← readValue text
  let text ← expect "; ".toList text
  return (⟨String.ofList name, value⟩, text)

theorem expect_append
    (word rest : List Char) :
    expect word (word ++ rest) = some rest := by
  rw [expect, if_pos (List.isPrefixOf_iff_prefix.mpr (List.prefix_append word rest)),
    List.drop_left]

theorem readValue_writeValue
    (value : Value)
    {rest : List Char}
    (hrest : ∀ c ∈ rest.head?, c ≠ quote ∧ c.isDigit = false) :
    readValue (writeValue value ++ rest) = some (value, rest) := by
  cases value with
  | text value =>
      have hquoted : readQuoted (escape value.toList ++ quote :: rest) =
          some (value.toList, rest) := by
        refine readQuoted_escape value.toList ?_
        intro hhead
        exact (hrest quote hhead).1 rfl
      have happend : writeValue (.text value) ++ rest =
          quote :: (escape value.toList ++ quote :: rest) := by
        simp [writeValue]
      rw [happend, readValue, if_pos rfl, hquoted, Option.map_some, String.ofList_toList]
  | number n =>
      have hdecimal := readDecimal_toDigits n fun c hc => (hrest c hc).2
      rw [writeValue]
      cases hdigits : Nat.toDigits 10 n with
      | nil =>
          exact absurd hdigits Nat.toDigits_ne_nil
      | cons c digits =>
          have hc : c ≠ quote := by
            rintro rfl
            have hdigit := Nat.isDigit_of_mem_toDigits (b := 10) (n := n) (c := quote) (by decide)
              (by decide) (hdigits ▸ List.mem_cons_self)
            exact absurd hdigit (by decide)
          rw [hdigits] at hdecimal
          rw [List.cons_append] at hdecimal ⊢
          rw [readValue, if_neg hc, hdecimal, Option.map_some]

/-- A statement is read back, with what stands behind it. -/
theorem readSet_writeSet
    (command : SetCommand) (rest : List Char)
    (hname : ∀ c ∈ command.name.toList, isNameChar c = true) :
    readSet (writeSet command ++ rest) = some (command, rest) := by
  have happend : writeSet command ++ rest = "SET ".toList ++ (command.name.toList ++
      (" = ".toList ++ (writeValue command.value ++ ("; ".toList ++ rest)))) := by
    simp only [writeSet, List.append_assoc]
  have hbehind : ∀ c ∈ (" = ".toList ++
      (writeValue command.value ++ ("; ".toList ++ rest))).head?, isNameChar c = false := by
    intro c hc
    obtain rfl : ' ' = c := by simpa using hc
    rfl
  have hend : ∀ c ∈ ("; ".toList ++ rest).head?, c ≠ quote ∧ c.isDigit = false := by
    intro c hc
    obtain rfl : ';' = c := by simpa using hc
    exact ⟨by decide, rfl⟩
  obtain ⟨htake, hdrop⟩ := takeWhile_append hname hbehind
  simp only [readSet, happend, expect_append, Option.bind_eq_bind, Option.bind_some, htake, hdrop,
    readValue_writeValue command.value hend, String.ofList_toList]
  rfl

end SqlLiterals
