import PolarProxy.TxnCommand

/-!
# The slices of a transaction command

The parser of transaction commands copies nothing: its words and tokens are slices of the input, cut
at positions that two scans find.  `readSlices` follows the scans position by position.

**Results.** `readSlices_inside`, `parse_eq_slices`.
-/

namespace PolarProxy

namespace TxnText

/-- A `std::string_view` of the input -/
structure Slice where
  offset : Nat
  length : Nat
  deriving DecidableEq

namespace Slice

def text (s : Slice) (input : List Char) : List Char :=
  (input.drop s.offset).take s.length

def Inside (s : Slice) (input : List Char) : Prop :=
  s.offset + s.length ≤ input.length

end Slice

variable (input : List Char)

/-- The first position from `start` on that is not a blank -/
def skipSpaces (start : Nat) : Nat :=
  if h : start < input.length then
    if isSpace input[start] then skipSpaces (start + 1) else start
  else start
termination_by input.length - start

/-- The end of the first word, if no quote stands in it -/
def wordEnd (stop : Nat) : Option Nat :=
  if h : stop < input.length then
    if isQuote input[stop] then none
    else if isSpace input[stop] || input[stop] == ';' then some stop
    else wordEnd (stop + 1)
  else some stop
termination_by input.length - stop

/-- The scan that cuts the rest of the input, which goes on to the position after the last character.
`quote` is the quote that is open. -/
def scanSlices (quote : Option Char) (start i : Nat) : List Slice :=
  if i ≤ input.length then
    let atEnd := i == input.length
    let c := input.getD i (Char.ofNat 0)
    match quote with
    | some q =>
        if c == q || atEnd then ⟨start + 1, i - start - 1⟩ :: scanSlices none (i + 1) (i + 1)
        else scanSlices (some q) start (i + 1)
    | none =>
        if isQuote c then scanSlices (some c) i (i + 1)
        else if isSpace c || c == ';' || atEnd then
          (if start < i then [⟨start, i - start⟩] else []) ++ scanSlices none (i + 1) (i + 1)
        else scanSlices none start (i + 1)
  else []
termination_by input.length + 1 - i

/-- The first word and the tokens after it -/
def readSlices : Option (Slice × List Slice) :=
  let start := skipSpaces input 0
  if start ≥ input.length then none
  else
    (wordEnd input start).map fun stop =>
      (⟨start, stop - start⟩, scanSlices input none (skipSpaces input stop) (skipSpaces input stop))

variable {input}

theorem skipSpaces_spec
    (input : List Char) {start : Nat}
    (hstart : start ≤ input.length) :
    start ≤ skipSpaces input start ∧ skipSpaces input start ≤ input.length ∧
      input.drop (skipSpaces input start) = (input.drop start).dropWhile isSpace := by
  induction start using skipSpaces.induct input with
  | case1 start hlt hspace ih =>
      have hrest := ih hlt
      rw [skipSpaces, dif_pos hlt, if_pos hspace, List.drop_eq_getElem_cons hlt,
        List.dropWhile_cons_of_pos hspace]
      exact ⟨by omega, hrest.2⟩
  | case2 start hlt hspace =>
      rw [skipSpaces, dif_pos hlt, if_neg hspace, List.drop_eq_getElem_cons hlt,
        List.dropWhile_cons_of_neg hspace]
      exact ⟨Nat.le_refl _, hstart, rfl⟩
  | case3 start hlt =>
      rw [skipSpaces, dif_neg hlt, List.drop_eq_nil_of_le (Nat.not_lt.mp hlt)]
      exact ⟨Nat.le_refl _, hstart, rfl⟩

theorem take_drop_succ
    {start i : Nat}
    (hle : start ≤ i)
    (hlt : i < input.length) :
    (input.drop start).take (i + 1 - start) = (input.drop start).take (i - start) ++ [input[i]] := by
  have hsucc : i + 1 - start = i - start + 1 := by
    omega
  have hget : (input.drop start)[i - start]? = some input[i] := by
    rw [List.getElem?_drop, Nat.add_sub_cancel' hle, List.getElem?_eq_getElem hlt]
  rw [hsucc, List.take_add_one, hget]
  rfl

theorem wordEnd_spec
    {start pos : Nat}
    (hstart : start ≤ pos)
    (hpos : pos ≤ input.length) :
    firstWord ((input.drop start).take (pos - start)) (input.drop pos) =
        (wordEnd input pos).map (fun stop =>
          ((input.drop start).take (stop - start), input.drop stop)) ∧
      ∀ stop, wordEnd input pos = some stop → pos ≤ stop ∧ stop ≤ input.length := by
  induction pos using wordEnd.induct input with
  | case1 pos hlt hquote =>
      rw [wordEnd, dif_pos hlt, if_pos hquote, List.drop_eq_getElem_cons hlt, firstWord, if_pos hquote]
      refine ⟨rfl, ?_⟩
      intro stop h
      cases h
  | case2 pos hlt hquote hend =>
      rw [wordEnd, dif_pos hlt, if_neg hquote, if_pos hend, List.drop_eq_getElem_cons hlt, firstWord,
        if_neg hquote, if_pos hend, Option.map_some, List.drop_eq_getElem_cons hlt]
      refine ⟨rfl, ?_⟩
      intro stop h
      cases h
      exact ⟨Nat.le_refl _, hpos⟩
  | case3 pos hlt hquote hend ih =>
      have hrest := ih (by omega) hlt
      rw [wordEnd, dif_pos hlt, if_neg hquote, if_neg hend, List.drop_eq_getElem_cons hlt, firstWord,
        if_neg hquote, if_neg hend, ← take_drop_succ hstart hlt]
      refine ⟨hrest.1, ?_⟩
      intro stop h
      have := hrest.2 stop h
      omega
  | case4 pos hlt =>
      have hlen := Nat.not_lt.mp hlt
      rw [wordEnd, dif_neg hlt, List.drop_eq_nil_of_le hlen, firstWord, Option.map_some,
        List.drop_eq_nil_of_le hlen]
      refine ⟨rfl, ?_⟩
      intro stop h
      cases h
      exact ⟨Nat.le_refl _, hpos⟩

theorem scanSlices_past (quote : Option Char) (start : Nat) :
    scanSlices input quote start (input.length + 1) = [] := by
  rw [scanSlices, if_neg (by omega)]

def readSince (input : List Char) (quote : Option Char) (start i : Nat) : List Char :=
  match quote with
  | some _ => (input.drop (start + 1)).take (i - start - 1)
  | none => (input.drop start).take (i - start)

theorem readSince_self (start : Nat) :
    readSince input none start start = [] := by
  rw [readSince, Nat.sub_self, List.take_zero]

theorem map_ended
    {start i : Nat}
    (hi : i ≤ input.length) :
    (if start < i then [Slice.mk start (i - start)] else []).map (fun s => s.text input) =
      if (readSince input none start i).isEmpty then [] else [readSince input none start i] := by
  by_cases hlt : start < i
  · have hne : (readSince input none start i).isEmpty = false := by
      rw [List.isEmpty_eq_false_iff, ← List.length_pos_iff, readSince, List.length_take,
        List.length_drop]
      omega
    rw [if_pos hlt, hne, if_neg Bool.false_ne_true]
    rfl
  · have hnil : readSince input none start i = [] := by
      rw [readSince, Nat.sub_eq_zero_of_le (Nat.not_lt.mp hlt), List.take_zero]
    rw [if_neg hlt, hnil]
    rfl

theorem scanSlices_spec
    (quote : Option Char) (start i : Nat)
    (hi : i ≤ input.length)
    (hstart : start ≤ i)
    (hquote : quote.isSome → start < i) :
    (∀ s ∈ scanSlices input quote start i, s.Inside input) ∧
      (scanSlices input quote start i).map (fun s => s.text input) =
        tokenize quote (readSince input quote start i) (input.drop i) := by
  induction hn : input.length - i generalizing quote start i with
  | zero =>
      have hend : i = input.length := by
        omega
      subst hend
      rw [scanSlices, if_pos hi, beq_self_eq_true, List.drop_eq_nil_of_le (Nat.le_refl _)]
      dsimp only
      cases quote with
      | some q =>
          have hlt := hquote rfl
          dsimp only
          rw [Bool.or_true, if_pos rfl, scanSlices_past, tokenize]
          refine ⟨?_, rfl⟩
          intro s hs
          rw [List.mem_singleton.mp hs, Slice.Inside]
          dsimp only
          omega
      | none =>
          have hnul : isQuote (input.getD input.length (Char.ofNat 0)) = false := by
            rw [List.getD_eq_getElem?_getD, List.getElem?_eq_none (Nat.le_refl _)]
            decide
          dsimp only
          rw [hnul, if_neg Bool.false_ne_true, Bool.or_true, if_pos rfl, scanSlices_past, List.append_nil,
            tokenize]
          refine ⟨?_, map_ended hi⟩
          intro s hs
          split at hs
          case isTrue =>
            rw [List.mem_singleton.mp hs, Slice.Inside]
            dsimp only
            omega
          case isFalse =>
            cases hs
  | succ n ih =>
      have hlt : i < input.length := by
        omega
      have hne : (i == input.length) = false := by
        rw [beq_eq_false_iff_ne]
        omega
      have hget : input.getD i (Char.ofNat 0) = input[i] := by
        rw [List.getD_eq_getElem?_getD, List.getElem?_eq_getElem hlt, Option.getD_some]
      have hdrop := List.drop_eq_getElem_cons hlt
      rw [scanSlices, if_pos hi, hne, hget, hdrop]
      dsimp only
      cases quote with
      | some q =>
          have hbefore := hquote rfl
          dsimp only
          rw [Bool.or_false, tokenize]
          by_cases hclose : (input[i] == q) = true
          · have hrest := ih none (i + 1) (i + 1) hlt (Nat.le_refl _)
              (fun h => by cases h) (by omega)
            rw [readSince_self] at hrest
            rw [if_pos hclose, if_pos hclose, List.map_cons, hrest.2]
            refine ⟨?_, rfl⟩
            intro s hs
            rcases List.mem_cons.mp hs with rfl | hs
            · rw [Slice.Inside]
              dsimp only
              omega
            · exact hrest.1 s hs
          · have hrest := ih (some q) start (i + 1) hlt (by omega)
              (fun _ => by omega) (by omega)
            have hread : readSince input (some q) start (i + 1) =
                readSince input (some q) start i ++ [input[i]] := by
              have hlen : i + 1 - start - 1 = i + 1 - (start + 1) := by
                omega
              have hlen' : i - start - 1 = i - (start + 1) := by
                omega
              rw [readSince, readSince, hlen, hlen']
              exact take_drop_succ hbefore hlt
            rw [if_neg hclose, if_neg hclose, ← hread]
            exact hrest
      | none =>
          dsimp only
          rw [tokenize]
          by_cases hopen : isQuote input[i] = true
          · have hrest := ih (some input[i]) i (i + 1) hlt (by omega)
              (fun _ => by omega) (by omega)
            have hread : readSince input (some input[i]) i (i + 1) = [] := by
              have hlen : i + 1 - i - 1 = 0 := by
                omega
              rw [readSince, hlen, List.take_zero]
            rw [hread] at hrest
            rw [if_pos hopen, if_pos hopen]
            exact hrest
          · rw [if_neg hopen, if_neg hopen, Bool.or_false]
            by_cases hend : (isSpace input[i] || input[i] == ';') = true
            · have hrest := ih none (i + 1) (i + 1) hlt (Nat.le_refl _)
                (fun h => by cases h) (by omega)
              rw [readSince_self] at hrest
              rw [if_pos hend, if_pos hend, List.map_append, map_ended hi, hrest.2]
              refine ⟨?_, rfl⟩
              intro s hs
              rcases List.mem_append.mp hs with hs | hs
              · split at hs
                case isTrue =>
                  rw [List.mem_singleton.mp hs, Slice.Inside]
                  dsimp only
                  omega
                case isFalse =>
                  cases hs
              · exact hrest.1 s hs
            · have hrest := ih none start (i + 1) hlt (by omega)
                (fun h => by cases h) (by omega)
              have hread : readSince input none start (i + 1) =
                  readSince input none start i ++ [input[i]] := take_drop_succ hstart hlt
              rw [if_neg hend, if_neg hend, ← hread]
              exact hrest

/-- Every slice lies inside the input. -/
theorem readSlices_inside
    {word : Slice} {tokens : List Slice}
    (h : readSlices input = some (word, tokens)) :
    word.Inside input ∧ ∀ s ∈ tokens, s.Inside input := by
  unfold readSlices at h
  dsimp only at h
  split at h
  case isTrue =>
    cases h
  case isFalse hlt =>
    obtain ⟨stop, hstop, heq⟩ := Option.map_eq_some_iff.mp h
    have hstart := skipSpaces_spec input (Nat.zero_le _)
    have hword := (wordEnd_spec (Nat.le_refl (skipSpaces input 0)) hstart.2.1).2 stop hstop
    have hrest := skipSpaces_spec input hword.2
    cases heq
    refine ⟨?_, (scanSlices_spec _ _ _ hrest.2.1 (Nat.le_refl _) fun h => by cases h).1⟩
    rw [Slice.Inside]
    dsimp only
    omega

/-- The parser, with the texts of the slices. -/
theorem parse_eq_slices (input : List Char) :
    parseTxnCmd input =
      match readSlices input with
      | none => .unknown
      | some (word, tokens) =>
          parseAfterWord (word.text input) (tokens.map fun s => s.text input) := by
  have hstart := skipSpaces_spec input (Nat.zero_le _)
  rw [List.drop_zero] at hstart
  unfold parseTxnCmd readSlices
  dsimp only
  rw [← hstart.2.2]
  by_cases hlt : skipSpaces input 0 ≥ input.length
  · rw [if_pos hlt, List.drop_eq_nil_of_le hlt]
  · have hword := wordEnd_spec (Nat.le_refl (skipSpaces input 0)) hstart.2.1
    rw [Nat.sub_self, List.take_zero] at hword
    rw [if_neg hlt]
    rw [List.drop_eq_getElem_cons (Nat.not_le.mp hlt)] at hword ⊢
    dsimp only
    rw [hword.1]
    cases hstop : wordEnd input (skipSpaces input 0) with
    | none => rfl
    | some stop =>
        have hinside := hword.2 stop hstop
        have hrest := skipSpaces_spec input hinside.2
        have htokens := (scanSlices_spec none _ _ hrest.2.1 (Nat.le_refl _)
          fun h => by cases h).2
        rw [readSince_self, hrest.2.2] at htokens
        rw [Option.map_some, Option.map_some]
        dsimp only
        rw [htokens, ← List.drop_eq_getElem_cons (Nat.not_le.mp hlt)]
        rfl

end TxnText

end PolarProxy
