import PolarProxy.WrapDispatch
import PolarProxy.Library.SqlLiterals

/-!
# The text of a wrapped query

The builders of a wrapper append SET statements and the client's query to a buffer
and return how many statements they put in front.  The count is what the
connection later counts down, so it has to agree with the text.

A text is a list of bytes, each given as a character.

**Results.** `readSets_sets`, `wrappedQuery_exact`, `buildWrappedWaitText_eq`.
-/

namespace PolarProxy

namespace Wrapping

open SqlLiterals

/-! ## Building -/

/-- `polardb_wait_mode_set_statement` -/
def waitModeSetStatement : WaitMode → List Char
  | .strict => "SET polar_consistency_mode = 'strict'; ".toList
  | .bestEffort => "SET polar_consistency_mode = 'best_effort'; ".toList

/-- `append_polar_timeout_set` -/
def appendPolarTimeoutSet (timeoutMs : Nat) (out : List Char) : List Char :=
  out ++ "SET polar_proxy_wait_timeout_ms = ".toList ++ Nat.toDigits 10 timeoutMs ++ "; ".toList

/-- `append_polar_wait_set`; `none` when nothing was appended -/
def appendPolarWaitText (type : WaitType) (target : Nat) (out : List Char) :
    Option (List Char) :=
  if type ≠ .lsn ∨ target = 0 then none
  else
    some (out ++ "SET polar_xact_split_wait_lsn = '".toList ++ Nat.toDigits 10 target ++
      "'; ".toList)

/-- `append_wrapped_wait_query`: the number of statements, and the buffer.  The query
is `none` for a null pointer. -/
def appendWrappedWaitText (query : Option (List Char)) (spec : WaitSpec) (modeSet : List Char)
    (out : List Char) : Nat × List Char :=
  match query with
  | none => (0, out)
  | some query =>
      if query = [] then (0, out)
      else if spec.type = .none then (0, out)
      else if spec.type = .lsn ∧ spec.target = 0 then (0, out)
      else
        let wrapped := out ++ modeSet
        let wrapperStmts := 0 + 1
        let wrapped := appendPolarTimeoutSet spec.timeoutMs wrapped
        let wrapperStmts := wrapperStmts + 1
        match appendPolarWaitText spec.type spec.target wrapped with
        | none => (0, out)
        | some wrapped => (wrapperStmts + 1, wrapped ++ query)

/-- `build_wrapped_wait_query`: the buffer is cleared first. -/
def buildWrappedWaitText (query : Option (List Char)) (spec : WaitSpec) (modeSet : List Char) :
    Nat × List Char :=
  appendWrappedWaitText query spec modeSet []

/-- `polardb_append_sql_literal` -/
def appendSqlLiteral (value out : List Char) : List Char :=
  out ++ value.flatMap fun c => if c = quote then [quote, quote] else [c]

/-- `polardb_extract_simple_query_body` -/
def extractSimpleQueryBody (pkt : List Char) : Option (List Char) :=
  if pkt.length < 6 + 1 ∨ pkt.head? ≠ some 'Q' then none
  else some ((pkt.drop 5).take (pkt.length - 6))

/-- `polardb_build_txn_split_wrapped_query` -/
def buildTxnSplitWrappedText (pkt : List Char) (spec : WaitSpec) (txnXids : List Char)
    (bypassWait : Bool) : Nat × List Char :=
  if txnXids = [] ∨ spec.hasWait = false then (0, [])
  else
    match extractSimpleQueryBody pkt with
    | none => (0, [])
    | some query =>
        let splitSpec : WaitSpec := { spec with mode := .strict }
        let wrapped := "SET polar_xact_split_xids = '".toList
        let wrapped := appendSqlLiteral txnXids wrapped
        let wrapped := wrapped ++ "'; ".toList
        let wrapperStmts := 1
        if bypassWait then (wrapperStmts, wrapped ++ query)
        else
          let appended :=
            appendWrappedWaitText (some query) splitSpec (waitModeSetStatement splitSpec.mode)
              wrapped
          if appended.1 = 0 then (0, []) else (wrapperStmts + appended.1, appended.2)

/-! ## The statements of a wrapper -/

/-- The name and the value of a statement. -/
def SetStmt.command : SetStmt → SetCommand
  | .mode .strict => ⟨"polar_consistency_mode", .text "strict"⟩
  | .mode .bestEffort => ⟨"polar_consistency_mode", .text "best_effort"⟩
  | .timeout ms => ⟨"polar_proxy_wait_timeout_ms", .number ms⟩
  | .waitLsn target => ⟨"polar_xact_split_wait_lsn", .text (toString target)⟩
  | .xids value => ⟨"polar_xact_split_xids", .text value⟩

/-- What a statement with a name and a value sets. -/
def setStmtOf (command : SetCommand) : Option SetStmt :=
  match command.value with
  | .number ms => if command.name = "polar_proxy_wait_timeout_ms" then some (.timeout ms) else none
  | .text value =>
      if command.name = "polar_consistency_mode" then
        if value = "strict" then some (.mode .strict)
        else if value = "best_effort" then some (.mode .bestEffort)
        else none
      else if command.name = "polar_xact_split_wait_lsn" then
        (readDecimal value.toList).bind fun read =>
          if read.2 = [] then some (.waitLsn read.1) else none
      else if command.name = "polar_xact_split_xids" then some (.xids value)
      else none

/-- Read a number of statements from the front of a text, as a server does. -/
def readSets : Nat → List Char → Option (List SetStmt × List Char)
  | 0, text => some ([], text)
  | n + 1, text => do
      let (command, text) ← readSet text
      let stmt ← setStmtOf command
      let (stmts, text) ← readSets n text
      return (stmt :: stmts, text)

theorem setStmtOf_command
    (stmt : SetStmt) :
    setStmtOf stmt.command = some stmt := by
  cases stmt with
  | mode mode =>
      cases mode <;> simp [SetStmt.command, setStmtOf]
  | timeout ms =>
      simp [SetStmt.command, setStmtOf]
  | waitLsn target =>
      have hdigits := @readDecimal_toDigits target [] (by simp)
      rw [List.append_nil] at hdigits
      simp [SetStmt.command, setStmtOf, Nat.toList_repr, hdigits]
  | xids value =>
      simp [SetStmt.command, setStmtOf]

theorem isNameChar_command
    (stmt : SetStmt) :
    ∀ c ∈ stmt.command.name.toList, isNameChar c = true := by
  have hnames : ∀ name : String, name.toList.all isNameChar = true →
      ∀ c ∈ name.toList, isNameChar c = true :=
    fun name h => List.all_eq_true.mp h
  cases stmt with
  | mode mode =>
      cases mode <;> exact hnames "polar_consistency_mode" (by decide)
  | timeout ms =>
      exact hnames "polar_proxy_wait_timeout_ms" (by decide)
  | waitLsn target =>
      exact hnames "polar_xact_split_wait_lsn" (by decide)
  | xids value =>
      exact hnames "polar_xact_split_xids" (by decide)

/-- The statements of a wrapper are read back from its text, and what stands behind
them is left. -/
theorem readSets_sets
    (sets : List SetStmt) (rest : List Char) :
    readSets sets.length (sets.flatMap (fun stmt => writeSet stmt.command) ++ rest) =
      some (sets, rest) := by
  induction sets with
  | nil =>
      rfl
  | cons stmt sets ih =>
      rw [List.flatMap_cons, List.append_assoc, List.length_cons, readSets]
      simp only [readSet_writeSet stmt.command _ (isNameChar_command stmt), Option.bind_eq_bind,
        Option.bind_some, setStmtOf_command, ih]
      rfl

def setsText (sets : List SetStmt) : List Char :=
  sets.flatMap fun stmt => writeSet stmt.command

theorem waitModeSetStatement_eq
    (mode : WaitMode) :
    waitModeSetStatement mode = writeSet (SetStmt.mode mode).command := by
  cases mode <;> decide

theorem appendPolarTimeoutSet_eq
    (timeoutMs : Nat) (out : List Char) :
    appendPolarTimeoutSet timeoutMs out = out ++ writeSet (SetStmt.timeout timeoutMs).command := by
  have hname : "SET polar_proxy_wait_timeout_ms = ".toList =
      "SET ".toList ++ ("polar_proxy_wait_timeout_ms".toList ++ " = ".toList) := by decide
  simp only [appendPolarTimeoutSet, hname, SetStmt.command, writeSet, writeValue,
    List.append_assoc]

theorem escape_of_notMem
    {value : List Char}
    (h : quote ∉ value) :
    escape value = value := by
  induction value with
  | nil =>
      rfl
  | cons c value ih =>
      have hc : c ≠ quote := by
        rintro rfl
        exact h List.mem_cons_self
      have hvalue : quote ∉ value := fun hin => h (List.mem_cons_of_mem _ hin)
      rw [escape, List.flatMap_cons, if_neg hc]
      exact congrArg (c :: ·) (ih hvalue)

theorem appendPolarWaitText_eq
    {spec : WaitSpec}
    (htype : spec.type = .lsn)
    (htarget : spec.target ≠ 0)
    (out : List Char) :
    appendPolarWaitText spec.type spec.target out =
      some (out ++ writeSet (SetStmt.waitLsn spec.target).command) := by
  have hname : "SET polar_xact_split_wait_lsn = '".toList =
      "SET ".toList ++ ("polar_xact_split_wait_lsn".toList ++ (" = ".toList ++ [quote])) := by
    decide
  have hend : "'; ".toList = [quote] ++ "; ".toList := by decide
  have hdigits : escape (Nat.toDigits 10 spec.target) = Nat.toDigits 10 spec.target := by
    apply escape_of_notMem
    intro hin
    have hdigit := Nat.isDigit_of_mem_toDigits (b := 10) (by decide) (by decide) hin
    exact absurd hdigit (by decide)
  rw [appendPolarWaitText, if_neg (by simp [htype, htarget])]
  simp only [hname, hend, SetStmt.command, writeSet, writeValue, Nat.toString_eq_repr,
    Nat.toList_repr, hdigits, List.append_assoc, List.cons_append, List.nil_append]

/-! ## What the builders return -/

def waitSets (spec : WaitSpec) : List SetStmt :=
  [.mode spec.mode, .timeout spec.timeoutMs, .waitLsn spec.target]

/-- The statements of a read that is split from a transaction. -/
def splitSets (spec : WaitSpec) (txnXids : List Char) (bypassWait : Bool) : List SetStmt :=
  .xids (String.ofList txnXids) :: if bypassWait then [] else waitSets { spec with mode := .strict }

/-- There is a query, and a position to wait for. -/
def CanWrap (query : List Char) (spec : WaitSpec) : Prop :=
  query ≠ [] ∧ spec.type = .lsn ∧ spec.target ≠ 0

/-- A builder that appends to `out` returns the number of the statements it put in front of
the query, whose text reads back as these statements and the query; or it returns 0 and
appends nothing. -/
structure Wraps (can : Prop) (out query : List Char) (sets : List SetStmt)
    (result : Nat × List Char) : Prop where
  built : can → result = (sets.length, out ++ (setsText sets ++ query))
  declined : ¬ can → result = (0, out)
  read : readSets sets.length (setsText sets ++ query) = some (sets, query)
  nothing : result.1 = 0 → result.2 = out

theorem Wraps.of_eq
    {can : Prop} {out query : List Char} {sets : List SetStmt} {result : Nat × List Char}
    (hsets : sets ≠ [])
    (hbuilt : can → result = (sets.length, out ++ (setsText sets ++ query)))
    (hdeclined : ¬ can → result = (0, out)) :
    Wraps can out query sets result := by
  refine ⟨hbuilt, hdeclined, readSets_sets sets query, ?_⟩
  intro hzero
  by_cases hcan : can
  · rw [hbuilt hcan] at hzero
    exact absurd (List.length_eq_zero_iff.mp hzero) hsets
  · rw [hdeclined hcan]

theorem appendWrappedWaitText_wraps
    (query : Option (List Char)) (spec : WaitSpec) (out : List Char) :
    Wraps (CanWrap (query.getD []) spec) out (query.getD []) (waitSets spec)
      (appendWrappedWaitText query spec (waitModeSetStatement spec.mode) out) := by
  refine .of_eq (List.cons_ne_nil _ _) ?_ ?_
  · rintro ⟨hquery, htype, htarget⟩
    cases query with
    | none =>
        exact absurd rfl hquery
    | some query =>
        have hnone : spec.type ≠ .none := by
          rw [htype]
          decide
        simp only [appendWrappedWaitText, Option.getD_some] at hquery ⊢
        rw [if_neg hquery, if_neg hnone, if_neg fun h => htarget h.2,
          appendPolarWaitText_eq htype htarget, appendPolarTimeoutSet_eq, waitModeSetStatement_eq]
        simp only [waitSets, setsText, List.flatMap_cons, List.flatMap_nil, List.length_cons,
          List.length_nil, List.append_assoc, List.nil_append]
  · intro hcan
    cases query with
    | none =>
        rfl
    | some query =>
        simp only [appendWrappedWaitText]
        split
        · rfl
        · rename_i hquery
          split
          · rfl
          · split
            · rfl
            · rename_i hnone hzero
              have hwait : appendPolarWaitText spec.type spec.target
                  (appendPolarTimeoutSet spec.timeoutMs (out ++ waitModeSetStatement spec.mode)) =
                  none := by
                rw [appendPolarWaitText, if_pos]
                by_cases htype : spec.type = .lsn
                · by_cases htarget : spec.target = 0
                  · exact Or.inr htarget
                  · exact absurd ⟨hquery, htype, htarget⟩ hcan
                · exact Or.inl htype
              rw [hwait]

theorem appendSqlLiteral_eq
    (txnXids : List Char) :
    appendSqlLiteral txnXids "SET polar_xact_split_xids = '".toList ++ "'; ".toList =
      writeSet (SetStmt.xids (String.ofList txnXids)).command := by
  have hname : "SET polar_xact_split_xids = '".toList =
      "SET ".toList ++ ("polar_xact_split_xids".toList ++ (" = ".toList ++ [quote])) := by
    decide
  have hend : "'; ".toList = [quote] ++ "; ".toList := by decide
  simp only [appendSqlLiteral, hname, hend, SetStmt.command, writeSet, writeValue, escape,
    String.toList_ofList, List.append_assoc, List.cons_append, List.nil_append]

theorem buildTxnSplitWrappedText_wraps
    (pkt : List Char) (spec : WaitSpec) (txnXids : List Char) (bypassWait : Bool) :
    Wraps
      (txnXids ≠ [] ∧ spec.type ≠ .none ∧ ∃ query, extractSimpleQueryBody pkt = some query ∧
        (bypassWait = true ∨ CanWrap query spec))
      [] ((extractSimpleQueryBody pkt).getD []) (splitSets spec txnXids bypassWait)
      (buildTxnSplitWrappedText pkt spec txnXids bypassWait) := by
  have hwaits : ∀ query, Wraps (CanWrap query spec)
      (writeSet (SetStmt.xids (String.ofList txnXids)).command) query
      (waitSets { spec with mode := .strict })
      (appendWrappedWaitText (some query) { spec with mode := .strict }
        (waitModeSetStatement .strict)
        (writeSet (SetStmt.xids (String.ofList txnXids)).command)) :=
    fun query => appendWrappedWaitText_wraps (some query) { spec with mode := .strict } _
  refine .of_eq (List.cons_ne_nil _ _) ?_ ?_
  · rintro ⟨hxids, hnone, query, hquery, hwait⟩
    rw [buildTxnSplitWrappedText, if_neg (by simp [hxids, WaitSpec.hasWait, hnone]), hquery]
    simp only [appendSqlLiteral_eq, Option.getD_some, splitSets]
    cases bypassWait with
    | true =>
        simp [setsText]
    | false =>
        have hcan := hwait.resolve_left Bool.false_ne_true
        rw [(hwaits query).built hcan]
        simp [setsText, waitSets]
  · intro hcan
    rw [buildTxnSplitWrappedText]
    split
    · rfl
    · rename_i hgiven
      rw [not_or, Bool.not_eq_false, WaitSpec.hasWait, bne_iff_ne] at hgiven
      cases hquery : extractSimpleQueryBody pkt with
      | none =>
          rfl
      | some query =>
          have hnot : ¬ (bypassWait = true ∨ CanWrap query spec) :=
            fun h => hcan ⟨hgiven.1, hgiven.2, query, hquery, h⟩
          rw [not_or] at hnot
          simp only [appendSqlLiteral_eq, if_neg hnot.1, (hwaits query).declined hnot.2, ↓reduceIte]

/-- For every query, wait and list of transaction ids, each builder returns the number of SET
statements it put in front of the query, and the text reads back as these statements, with
their values, and the query; or it returns 0 and leaves no text of its own. -/
theorem wrappedQuery_exact
    (query : Option (List Char)) (spec : WaitSpec) (out pkt txnXids : List Char)
    (bypassWait : Bool) :
    Wraps (CanWrap (query.getD []) spec) out (query.getD []) (waitSets spec)
        (appendWrappedWaitText query spec (waitModeSetStatement spec.mode) out) ∧
      Wraps (CanWrap (query.getD []) spec) [] (query.getD []) (waitSets spec)
        (buildWrappedWaitText query spec (waitModeSetStatement spec.mode)) ∧
      Wraps
        (txnXids ≠ [] ∧ spec.type ≠ .none ∧ ∃ query, extractSimpleQueryBody pkt = some query ∧
          (bypassWait = true ∨ CanWrap query spec))
        [] ((extractSimpleQueryBody pkt).getD []) (splitSets spec txnXids bypassWait)
        (buildTxnSplitWrappedText pkt spec txnXids bypassWait) :=
  ⟨appendWrappedWaitText_wraps query spec out, appendWrappedWaitText_wraps query spec [],
    buildTxnSplitWrappedText_wraps pkt spec txnXids bypassWait⟩

/-! ## Texts and statements -/

theorem text_toList
    (stmt : SetStmt) :
    stmt.text.toList = writeSet stmt.command := by
  cases stmt with
  | mode mode =>
      cases mode <;> decide +kernel
  | timeout ms =>
      have htext : (SetStmt.timeout ms).text =
          "SET polar_proxy_wait_timeout_ms = " ++ toString ms ++ "; " := rfl
      have happend := appendPolarTimeoutSet_eq ms []
      rw [List.nil_append] at happend
      rw [htext, ← happend]
      simp [appendPolarTimeoutSet, Nat.toList_repr]
  | waitLsn target =>
      by_cases hzero : target = 0
      · subst hzero
        decide
      · have htext : (SetStmt.waitLsn target).text =
            "SET polar_xact_split_wait_lsn = '" ++ toString target ++ "'; " := rfl
        have happend := @appendPolarWaitText_eq { type := .lsn, target := target } rfl hzero []
        rw [List.nil_append, appendPolarWaitText, if_neg (by simp [hzero]),
          Option.some.injEq] at happend
        rw [htext, ← happend]
        simp [Nat.toList_repr]
  | xids value =>
      have happend := appendSqlLiteral_eq value.toList
      have hquote : quote = '\'' := rfl
      have htext : (SetStmt.xids value).text =
          "SET polar_xact_split_xids = '" ++ sqlLiteral value ++ "'; " := rfl
      rw [String.ofList_toList] at happend
      rw [htext, ← happend]
      simp [appendSqlLiteral, sqlLiteral, hquote]

theorem setsText_eq
    (sets : List SetStmt) :
    (String.join (sets.map SetStmt.text)).toList = setsText sets := by
  induction sets with
  | nil =>
      rfl
  | cons stmt sets ih =>
      rw [List.map_cons, String.join_cons, String.toList_append, ih, text_toList]
      rfl

/-- The builder of texts writes the batch of the builder of statements. -/
theorem buildWrappedWaitText_eq
    (query : String) (spec : WaitSpec) :
    buildWrappedWaitText (some query.toList) spec (waitModeSetStatement spec.mode) =
      ((buildWrappedWaitQuery query spec).1,
        if (buildWrappedWaitQuery query spec).1 = 0 then []
        else (Batch.text ⟨(buildWrappedWaitQuery query spec).2, query⟩).toList) := by
  have hwraps := appendWrappedWaitText_wraps (some query.toList) spec []
  have hempty : query.toList = [] ↔ query = "" := by
    rw [← String.toList_inj]
    rfl
  rw [Option.getD_some] at hwraps
  rw [buildWrappedWaitText]
  by_cases hcan : CanWrap query.toList spec
  · obtain ⟨hquery, htype, htarget⟩ := hcan
    replace hquery := hempty.not.mp hquery
    have hbuilt : buildWrappedWaitQuery query spec = (3, waitSets spec) := by
      have hnone : spec.type ≠ .none := by
        rw [htype]
        decide
      rw [buildWrappedWaitQuery, appendWrappedWaitQuery, if_neg hquery, if_neg hnone,
        if_neg fun h => htarget h.2]
      simp [appendPolarWaitSet, htype, htarget, waitSets]
    rw [hwraps.built ⟨hempty.not.mpr hquery, htype, htarget⟩, hbuilt]
    simp only [Batch.text, String.toList_append, setsText_eq, waitSets, List.length_cons,
      List.length_nil, List.nil_append]
    rfl
  · have hbuilt : (buildWrappedWaitQuery query spec).1 = 0 := by
      rw [buildWrappedWaitQuery, appendWrappedWaitQuery]
      split
      · rfl
      · rename_i hquery
        split
        · rfl
        · split
          · rfl
          · rename_i hnone hzero
            have hset : ∀ sets, appendPolarWaitSet spec.type spec.target sets = none := by
              intro sets
              rw [appendPolarWaitSet, if_pos]
              by_cases htype : spec.type = .lsn
              · by_cases htarget : spec.target = 0
                · exact Or.inr htarget
                · exact absurd ⟨hempty.not.mpr hquery, htype, htarget⟩ hcan
              · exact Or.inl htype
            simp only [hset]
    rw [hwraps.declined hcan, hbuilt]
    rfl

end Wrapping

end PolarProxy
