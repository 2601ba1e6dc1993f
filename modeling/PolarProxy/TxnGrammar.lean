import PolarProxy.TxnSlices

/-!
# The grammar of transaction commands

PostgreSQL's transaction statements: their lexemes as they are written in a text, the productions of
the grammar, and which command of the parser stands for a statement.

Keywords are read in any letter case.  Between lexemes stand blanks, and none need to stand next to a
quoted name.  A name is a bare word that the server does not reserve, in lower case, or what stands
between double quotes; a quote in it is written twice.  Which words are reserved, and how the server
cuts long identifiers, are parameters.

**Results.** `Written`, `Derives`, `IsStatement`, `Executes`.
-/

namespace PolarProxy

namespace TxnText

/-! ## Lexemes -/

/-- A lexeme of a transaction statement -/
inductive Lexeme
  | word (chars : List Char)
  | quotedName (chars : List Char)
  | literal (chars : List Char)
  | comma
  | semicolon
  deriving DecidableEq

def isIdentStart (c : Char) : Bool :=
  (65 ≤ c.toNat && c.toNat ≤ 90) || (97 ≤ c.toNat && c.toNat ≤ 122) || c.toNat == 95 || 128 ≤ c.toNat

def isIdentCont (c : Char) : Bool :=
  isIdentStart c || (48 ≤ c.toNat && c.toNat ≤ 57) || c.toNat == 36

/-- A word that is a keyword or a name -/
structure IsIdentifier (word : List Char) : Prop where
  start : ∃ c, word.head? = some c ∧ isIdentStart c = true
  cont : ∀ c ∈ word, isIdentCont c = true

def Blank (blanks : List Char) : Prop :=
  ∀ c ∈ blanks, isSpace c = true

/-- Characters with every quote written twice -/
def doubled (quote : Char) (chars : List Char) : List Char :=
  chars.flatMap fun c => if c = quote then [c, c] else [c]

/-- A text that consists of lexemes, with blanks before and after them -/
inductive Written : List Lexeme → List Char → Prop
  | nil {blanks : List Char}
      (hblank : Blank blanks) :
      Written [] blanks
  | word {lexemes : List Lexeme} {blanks word rest : List Char}
      (hblank : Blank blanks)
      (hword : IsIdentifier word)
      (hend : ∀ c ∈ rest.head?, isIdentCont c = false)
      (hrest : Written lexemes rest) :
      Written (.word word :: lexemes) (blanks ++ (word ++ rest))
  | quotedName {lexemes : List Lexeme} {blanks chars rest : List Char}
      (hblank : Blank blanks)
      (hne : chars ≠ [])
      (hend : rest.head? ≠ some doubleQuote)
      (hrest : Written lexemes rest) :
      Written (.quotedName chars :: lexemes)
        (blanks ++ doubleQuote :: (doubled doubleQuote chars ++ doubleQuote :: rest))
  | literal {lexemes : List Lexeme} {blanks chars rest : List Char}
      (hblank : Blank blanks)
      (hend : rest.head? ≠ some singleQuote)
      (hrest : Written lexemes rest) :
      Written (.literal chars :: lexemes)
        (blanks ++ singleQuote :: (doubled singleQuote chars ++ singleQuote :: rest))
  | comma {lexemes : List Lexeme} {blanks rest : List Char}
      (hblank : Blank blanks)
      (hrest : Written lexemes rest) :
      Written (.comma :: lexemes) (blanks ++ ',' :: rest)
  | semicolon {lexemes : List Lexeme} {blanks rest : List Char}
      (hblank : Blank blanks)
      (hrest : Written lexemes rest) :
      Written (.semicolon :: lexemes) (blanks ++ ';' :: rest)

/-! ## Statements -/

/-- The name of a savepoint, as it is written between its quotes if it has any -/
structure Name where
  chars : List Char
  quoted : Bool
  deriving DecidableEq

/-- The identifier that the server reads -/
def Name.identifier (name : Name) : List Char :=
  if name.quoted then name.chars else foldCase name.chars

/-- A transaction statement.  `keyword` says whether SAVEPOINT is written before a name. -/
inductive Statement
  | begin_
  | commit (chain : Bool)
  | rollback (chain : Bool)
  | commitPrepared (gid : List Char)
  | rollbackPrepared (gid : List Char)
  | savepoint (name : Name)
  | release (keyword : Bool) (name : Name)
  | rollbackTo (keyword : Bool) (name : Name)
  deriving DecidableEq

/-- Keywords one after the other, in any letter case -/
def Keywords (keywords : List String) (lexemes : List Lexeme) : Prop :=
  List.Forall₂ (fun keyword lexeme => ∃ w, lexeme = .word w ∧ tokenEquals w keyword = true)
    keywords lexemes

/-- A name; `reserved` tells the bare words that are no names. -/
inductive IsName (reserved : List Char → Bool) : Lexeme → Name → Prop
  | bare {word : List Char}
      (hword : reserved (foldCase word) = false) :
      IsName reserved (.word word) ⟨word, false⟩
  | quoted {chars : List Char} :
      IsName reserved (.quotedName chars) ⟨chars, true⟩

def modeKeywords : List (List String) :=
  [["isolation", "level", "serializable"], ["isolation", "level", "repeatable", "read"],
    ["isolation", "level", "read", "committed"], ["isolation", "level", "read", "uncommitted"],
    ["read", "only"], ["read", "write"], ["deferrable"], ["not", "deferrable"]]

/-- Transaction modes, with or without commas between them -/
inductive Modes : List Lexeme → Prop
  | none : Modes []
  | one {keywords : List String} {mode : List Lexeme}
      (hmode : keywords ∈ modeKeywords ∧ Keywords keywords mode) :
      Modes mode
  | next {keywords : List String} {mode rest : List Lexeme}
      (hmode : keywords ∈ modeKeywords ∧ Keywords keywords mode)
      (hrest : Modes rest) :
      Modes (mode ++ rest)
  | comma {keywords : List String} {mode rest : List Lexeme}
      (hmode : keywords ∈ modeKeywords ∧ Keywords keywords mode)
      (hne : rest ≠ [])
      (hrest : Modes rest) :
      Modes (mode ++ .comma :: rest)

/-- An optional WORK or TRANSACTION -/
def OptTransaction (lexemes : List Lexeme) : Prop :=
  lexemes = [] ∨ Keywords ["work"] lexemes ∨ Keywords ["transaction"] lexemes

/-- An optional chain clause -/
inductive Chain : Bool → List Lexeme → Prop
  | none : Chain false []
  | no {lexemes : List Lexeme} (h : Keywords ["and", "no", "chain"] lexemes) : Chain false lexemes
  | chain {lexemes : List Lexeme} (h : Keywords ["and", "chain"] lexemes) : Chain true lexemes

/-- The productions of the statements -/
inductive Derives (reserved : List Char → Bool) : List Lexeme → Statement → Prop
  | begin_ {verb opt modes : List Lexeme}
      (hverb : Keywords ["begin"] verb)
      (hopt : OptTransaction opt)
      (hmodes : Modes modes) :
      Derives reserved (verb ++ (opt ++ modes)) .begin_
  | start {verb modes : List Lexeme}
      (hverb : Keywords ["start", "transaction"] verb)
      (hmodes : Modes modes) :
      Derives reserved (verb ++ modes) .begin_
  | commit {verb opt clause : List Lexeme} {chain : Bool}
      (hverb : Keywords ["commit"] verb ∨ Keywords ["end"] verb)
      (hopt : OptTransaction opt)
      (hchain : Chain chain clause) :
      Derives reserved (verb ++ (opt ++ clause)) (.commit chain)
  | rollback {verb opt clause : List Lexeme} {chain : Bool}
      (hverb : Keywords ["rollback"] verb ∨ Keywords ["abort"] verb)
      (hopt : OptTransaction opt)
      (hchain : Chain chain clause) :
      Derives reserved (verb ++ (opt ++ clause)) (.rollback chain)
  | commitPrepared {verb : List Lexeme} {gid : List Char}
      (hverb : Keywords ["commit", "prepared"] verb) :
      Derives reserved (verb ++ [.literal gid]) (.commitPrepared gid)
  | rollbackPrepared {verb : List Lexeme} {gid : List Char}
      (hverb : Keywords ["rollback", "prepared"] verb) :
      Derives reserved (verb ++ [.literal gid]) (.rollbackPrepared gid)
  | savepoint {verb : List Lexeme} {lexeme : Lexeme} {name : Name}
      (hverb : Keywords ["savepoint"] verb)
      (hname : IsName reserved lexeme name) :
      Derives reserved (verb ++ [lexeme]) (.savepoint name)
  | release {verb keyword : List Lexeme} {lexeme : Lexeme} {name : Name} {written : Bool}
      (hverb : Keywords ["release"] verb)
      (hkeyword : Keywords (if written then ["savepoint"] else []) keyword)
      (hname : IsName reserved lexeme name) :
      Derives reserved (verb ++ (keyword ++ [lexeme])) (.release written name)
  | rollbackTo {verb opt to_ keyword : List Lexeme} {lexeme : Lexeme} {name : Name} {written : Bool}
      (hverb : Keywords ["rollback"] verb)
      (hopt : OptTransaction opt)
      (hto : Keywords ["to"] to_)
      (hkeyword : Keywords (if written then ["savepoint"] else []) keyword)
      (hname : IsName reserved lexeme name) :
      Derives reserved (verb ++ (opt ++ (to_ ++ (keyword ++ [lexeme])))) (.rollbackTo written name)

/-- The text is the statement, with an optional semicolon after it. -/
def IsStatement (reserved : List Char → Bool) (text : List Char) (statement : Statement) : Prop :=
  ∃ body tail, Derives reserved body statement ∧ (tail = [] ∨ tail = [.semicolon]) ∧
    Written (body ++ tail) text

/-! ## The command of a statement -/

/-- The slice of a savepoint is its name; the letter case of a bare name does not count. -/
def Denotes (slice : List Char) (name : Name) : Prop :=
  if name.quoted then slice = name.chars else foldCase slice = foldCase name.chars

/-- The command does what the statement does.  Nothing stands for COMMIT AND CHAIN, and statements
about prepared transactions are left alone. -/
def Executes : TxnCmd → Statement → Prop
  | .begin_, .begin_ => True
  | .commit, .commit chain => chain = false
  | .rollback, .rollback chain => chain = false
  | .rollbackAndChain, .rollback chain => chain = true
  | .unknown, .commitPrepared _ => True
  | .unknown, .rollbackPrepared _ => True
  | .savepoint slice, .savepoint name => Denotes slice name
  | .release slice, .release _ name => Denotes slice name
  | .rollbackTo slice, .rollbackTo _ name => Denotes slice name
  | _, _ => False

def savepointOf : TxnCmd → Option (List Char)
  | .savepoint slice => some slice
  | .release slice => some slice
  | .rollbackTo slice => some slice
  | _ => none

def Statement.name : Statement → Option Name
  | .savepoint name => some name
  | .release _ name => some name
  | .rollbackTo _ name => some name
  | _ => none

end TxnText

end PolarProxy
