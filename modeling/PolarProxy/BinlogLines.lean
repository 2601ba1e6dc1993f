import PolarProxy.BinlogStream

/-!
# The lines of the binlog reader

The reader copies a line to a scratch array without a test of its length, takes some lines that are no
documented message, and has added the first elements of a bootstrap message when it finds a later one
broken.  `LineSound` says of which lines nothing of this is true: no array is too short for them, and
they are documented messages or are refused before anything is added.

**Results.**
* `parse_isSome_iff`: the texts that are read as transaction ids.
* `readBootstrap_spec`, `readRecord_spec`: the two kinds of lines.
* `handles_iff`: the lines that the reader handles as it should.
* `readStream_fault`, `readStream_progress`, `readStream_closed`: the lines of a stream, in
  every sequence of reads.
* `binlog_stream`: streams of such lines.
-/

namespace PolarProxy

namespace BinlogReader

open Lines

/-! ## The documented messages -/

def Uuid (s : List Char) : Prop :=
  s ≠ [] ∧ cString s = s ∧ ':' ∉ s ∧ ',' ∉ s

/-- A transaction id of a message. -/
def Trxid (s : List Char) : Prop :=
  s ≠ [] ∧ s.all Char.isDigit = true ∧ (TrxIdInterval.digitsValue s : Int) ≤ maxTrxId

/-- A range of transaction ids of a message. -/
def Range (s : List Char) : Prop :=
  ∃ first last, Trxid first ∧ Trxid last ∧ s = first ++ '-' :: last

/-- The transaction ids of a bootstrap message: one or a range. -/
def Trxids (s : List Char) : Prop :=
  Trxid s ∨ Range s

/-- The documented messages. -/
inductive WellFormed : List Char → Prop
  | bootstrap (elements : List (List Char × List Char)) :
      (∀ element ∈ elements, Uuid element.1 ∧ Trxids element.2) →
      WellFormed (['S', 'T', '='] ++
        List.intercalate [','] (elements.map fun element => element.1 ++ ':' :: element.2))
  | uuidTrxid {uuid trxid : List Char} :
      Uuid uuid →
      Trxid trxid →
      WellFormed (['I', '1', '='] ++ uuid ++ ':' :: trxid)
  | trxid {trxid : List Char} :
      Trxid trxid →
      WellFormed (['I', '2', '='] ++ trxid)
  | uuidRange {uuid range : List Char} :
      Uuid uuid →
      Range range →
      WellFormed (['I', '3', '='] ++ uuid ++ ':' :: range)
  | range {range : List Char} :
      Range range →
      WellFormed (['I', '4', '='] ++ range)

/-- One or a range, up to a NUL. -/
def TrxidText (s : List Char) : Prop :=
  Trxids (cString s)

/-! ## Parts of lines -/

/-- A line that is read as a bootstrap message. -/
def isBootstrap (line : List Char) : Bool :=
  line.take 3 = ['S', 'T', '=']

/-- The elements of a bootstrap message. -/
def bootstrapTokens (line : List Char) : List (List Char) :=
  strtok ',' (cString (line.drop 3))

/-- The four messages that begin with `I` -/
inductive RecordKind where
  | uuidTrxid
  | trxid
  | uuidRange
  | range
  deriving DecidableEq

/-- The kind that the second character of a line names. -/
def recordKind (line : List Char) : Option RecordKind :=
  match (cString line)[1]? with
  | some '1' => some .uuidTrxid
  | some '2' => some .trxid
  | some '3' => some .uuidRange
  | some '4' => some .range
  | _ => none

/-- The text behind the third character of a line. -/
def recordText (line : List Char) : List Char :=
  (cString line).drop 3

/-! ## Lines that fit -/

/-- A uuid, without its hyphens, and its NUL -/
def uuidFits (uuid : List Char) : Prop :=
  (uuid.filter (· ≠ '-')).length < uuidServerSize

/-- The parts of an element are uuids and ids in turn. -/
def ValidPairs : List (List Char) → Prop
  | [] => True
  | [_] => False
  | _ :: trxids :: rest => TrxidText trxids ∧ ValidPairs rest

/-- The uuids of an element that are copied, which end with the first broken pair -/
def PairsFit : List (List Char) → Prop
  | [] => True
  | [uuid] => uuidFits uuid
  | uuid :: trxids :: rest => uuidFits uuid ∧ (TrxidText trxids → PairsFit rest)

/-- The elements of a bootstrap message up to the first broken one -/
def ElementsFit : List (List Char) → Prop
  | [] => True
  | element :: elements => PairsFit (strtok ':' element) ∧
      (strtok ':' element ≠ [] → ValidPairs (strtok ':' element) → ElementsFit elements)

/-- A line that is not a bootstrap message: `rec_msg` has room for it and its NUL; where the text behind
the third character is read, there is one; and `uuid_server` has room for the uuid before the colon. -/
def RecordFits (line : List Char) : Prop :=
  line.length < recMsgSize ∧ ((cString line).head? = some 'I' → ∀ kind, recordKind line = some kind →
    3 ≤ line.length ∧ (kind = .uuidTrxid ∨ kind = .uuidRange →
      ∀ uuid text, ':' ∉ uuid → recordText line = uuid ++ ':' :: text →
        uuid.length < uuidServerSize))

/-- A line for which the scratch arrays are long enough. -/
def Fits (line : List Char) : Prop :=
  if isBootstrap line then ElementsFit (bootstrapTokens line) else RecordFits line

/-! ## Lines that are refused -/

/-- The parts of an element that is broken before it has ids -/
def BrokenAtOnce : List (List Char) → Prop
  | _ :: trxids :: _ => ¬ TrxidText trxids
  | _ => True

def FirstBroken (tokens : List (List Char)) : Prop :=
  ∃ element elements, tokens = element :: elements ∧ BrokenAtOnce (strtok ':' element)

/-- A message that begins with `I` and has another letter behind it, no colon, or no ids -/
def RefusedRecord (line : List Char) : Prop :=
  (cString line).head? = some 'I' ∧
    match recordKind line with
    | none => True
    | some .uuidTrxid => ':' ∉ recordText line
    | some .trxid => False
    | some .uuidRange => ∀ uuid text, ':' ∉ uuid → recordText line = uuid ++ ':' :: text →
        ¬ TrxidText text
    | some .range => ¬ TrxidText (recordText line)

/-- A line that is refused before anything was added. -/
def Refused (line : List Char) : Prop :=
  if isBootstrap line then FirstBroken (bootstrapTokens line) else RefusedRecord line

/-- A line that the reader handles as it should -/
def LineSound (line : List Char) : Prop :=
  Fits line ∧ (WellFormed line ∨ Refused line)

/-- No scratch array is left, and a line that is no documented message deactivates the server and leaves
the set as it is. -/
def Progress.Handles (s : Progress) (line : List Char) : Prop :=
  ∃ t more, s.handleLine line = .ok (t, more) ∧
    (¬ WellFormed line → t.active = false ∧ t.gtidExecuted = s.gtidExecuted)

/-! ## Transaction ids -/

theorem takeWhile_append_hyphen
    {digits rest : List Char}
    (h : digits.all Char.isDigit = true)
    (hrest : ∀ c ∈ rest.head?, c.isDigit = false) :
    (digits ++ rest).takeWhile Char.isDigit = digits ∧
      (digits ++ rest).dropWhile Char.isDigit = rest := by
  rw [List.takeWhile_append_of_pos (List.all_eq_true.mp h),
    List.dropWhile_append_of_pos (List.all_eq_true.mp h)]
  cases rest with
  | nil =>
      simp
  | cons c rest =>
      have hc : c.isDigit = false := hrest c rfl
      simp [hc]

theorem parseTrxidComponent_eq_some
    {p rest : List Char} :
    (∃ id, TrxIdInterval.parseTrxidComponent p = some (id, rest)) ↔
      ∃ digits, Trxid digits ∧ p = digits ++ rest ∧ ∀ c ∈ rest.head?, c.isDigit = false := by
  rw [TrxIdInterval.parseTrxidComponent]
  constructor
  · rintro ⟨id, h⟩
    split at h
    · cases h
    · rename_i hne
      split at h
      · rename_i hle
        have hrest := (Prod.mk.inj (Option.some.inj h)).2
        refine ⟨p.takeWhile Char.isDigit, ⟨by simpa using hne, List.all_takeWhile, hle⟩, ?_, ?_⟩
        · rw [← hrest, List.takeWhile_append_dropWhile]
        · intro c hc
          have hdrop := List.head?_dropWhile_not Char.isDigit p
          rw [hrest, hc] at hdrop
          simpa using hdrop
      · cases h
  · rintro ⟨digits, ⟨hne, hall, hle⟩, rfl, hrest⟩
    obtain ⟨htake, hdrop⟩ := takeWhile_append_hyphen hall hrest
    refine ⟨⟨TrxIdInterval.digitsValue digits, by unfold minTrxId; omega, hle⟩, ?_⟩
    simp only [htake, hdrop, List.isEmpty_iff, hne, hle, dite_true, if_false]

/-- The texts that are read as transaction ids -/
theorem parse_isSome_iff
    (s : List Char) :
    (TrxIdInterval.parse s).isSome = true ↔ TrxidText s := by
  have hcomponent := fun p rest => @parseTrxidComponent_eq_some p rest
  rw [TrxIdInterval.parse, TrxidText]
  generalize cString s = text
  constructor
  · intro h
    cases hfirst : TrxIdInterval.parseTrxidComponent text with
    | none =>
        rw [hfirst] at h
        cases h
    | some r =>
        obtain ⟨start, p⟩ := r
        obtain ⟨first, hid, rfl, -⟩ := (hcomponent _ _).mp ⟨start, hfirst⟩
        rw [hfirst] at h
        split at h
        · cases h
        · rename_i start' p' heq
          obtain ⟨rfl, rfl⟩ := Prod.mk.inj (Option.some.inj heq)
          split at h
          · rename_i fin hlast
            obtain ⟨last, hid', rfl, -⟩ := (hcomponent _ _).mp ⟨fin, hlast⟩
            rw [List.append_nil]
            exact Or.inr ⟨first, last, hid, hid', rfl⟩
          · cases h
        · rename_i start' heq
          obtain ⟨rfl, rfl⟩ := Prod.mk.inj (Option.some.inj heq)
          rw [List.append_nil]
          exact Or.inl hid
        · cases h
  · rintro (hid | ⟨first, last, hid, hid', rfl⟩)
    · obtain ⟨start, hfirst⟩ := (hcomponent text []).mpr ⟨text, hid, by simp, by simp⟩
      rw [hfirst]
      rfl
    · obtain ⟨start, hfirst⟩ := (hcomponent (first ++ '-' :: last) ('-' :: last)).mpr
        ⟨first, hid, rfl, fun c hc => by obtain rfl := Option.some.inj hc; rfl⟩
      obtain ⟨fin, hlast⟩ := (hcomponent last []).mpr ⟨last, hid', by simp, by simp⟩
      simp only [hfirst, hlast]
      rfl

theorem parse_eq_none_iff
    {s : List Char} :
    TrxIdInterval.parse s = none ↔ ¬ TrxidText s := by
  rw [← parse_isSome_iff, Bool.not_eq_true, Option.isSome_eq_false_iff, Option.isNone_iff_eq_none]

namespace Progress

variable {s : Progress}

/-! ## Bootstrap messages -/

/-- The set has a list for some uuid. -/
def Known (s : Progress) : Prop :=
  ∃ uuid, uuid ∈ s.gtidExecuted.map

theorem known_addGtid (iv : TrxIdInterval) : (s.addGtid (.interval iv)).2.Known := by
  refine ⟨s.uuidServer, ?_⟩
  change s.uuidServer ∈ (s.gtidExecuted.addInterval s.uuidServer iv).2.map
  rw [GtidSet.addInterval]
  cases hlookup : s.gtidExecuted.map.lookup s.uuidServer with
  | none =>
      exact (AList.mem_insert _).mpr (Or.inl rfl)
  | some l =>
      dsimp only
      cases addTo l iv with
      | none =>
          rw [← AList.lookup_isSome, hlookup]
          rfl
      | some l' =>
          exact (AList.mem_insert _).mpr (Or.inl rfl)

/-- What the parts of an element leave -/
structure PairsOutcome (s : Progress) (parts : List (List Char)) (r : Progress × Bool × Bool) : Prop where
  fits : PairsFit parts
  valid : r.2.2 = true ↔ ValidPairs parts
  known : s.Known → r.1.Known
  broken : BrokenAtOnce parts → r.1.gtidExecuted = s.gtidExecuted
  added : ¬ BrokenAtOnce parts → r.1.Known

theorem readPairs_cons (updated : Bool) (uuid trxids : List Char) (rest : List (List Char)) :
    readPairs updated (uuid :: trxids :: rest) s =
      (s.setUuid (uuid.filter (· ≠ '-')) >>= fun s =>
        match TrxIdInterval.parse trxids with
        | none => .ok (s, updated, false)
        | some iv => readPairs ((s.addGtid (.interval iv)).1 || updated) rest
            (s.addGtid (.interval iv)).2) :=
  rfl

variable {parts : List (List Char)} {r : Progress × Bool × Bool}

theorem readPairs_outcome
    {updated : Bool}
    (h : readPairs updated parts s = .ok r) :
    PairsOutcome s parts r := by
  induction updated, parts, s using readPairs.induct with
  | case1 updated s =>
      obtain rfl := Except.ok.inj h
      exact ⟨trivial, by simp [ValidPairs], id, fun _ => rfl, fun hno => absurd trivial hno⟩
  | case2 updated uuid s =>
      rw [readPairs] at h
      obtain ⟨hfits, h⟩ := setUuid_bind h
      obtain rfl := Except.ok.inj h
      exact ⟨hfits, by simp [ValidPairs], id, fun _ => rfl, fun hno => absurd trivial hno⟩
  | case3 updated uuid trxids rest s ih =>
      rw [readPairs_cons] at h
      obtain ⟨hfits, h⟩ := setUuid_bind h
      cases hparse : TrxIdInterval.parse trxids with
      | none =>
          rw [hparse] at h
          obtain rfl := Except.ok.inj h
          have htext := parse_eq_none_iff.mp hparse
          exact ⟨⟨hfits, fun h => absurd h htext⟩, by simp [ValidPairs, htext], id, fun _ => rfl,
            fun hno => absurd htext hno⟩
      | some iv =>
          rw [hparse] at h
          have htext : TrxidText trxids := (parse_isSome_iff trxids).mp (by rw [hparse]; rfl)
          have hknown := known_addGtid (s := { s with uuidServer := uuid.filter (· ≠ '-') }) iv
          have hrest := ih _ _ h
          exact ⟨⟨hfits, fun _ => hrest.fits⟩, hrest.valid.trans (and_iff_right htext).symm,
            fun _ => hrest.known hknown, fun hno => absurd htext hno, fun _ => hrest.known hknown⟩

theorem readPairs_ok
    (hfits : PairsFit parts)
    (updated : Bool) :
    ∃ r, readPairs updated parts s = .ok r := by
  induction updated, parts, s using readPairs.induct with
  | case1 updated s =>
      exact ⟨_, rfl⟩
  | case2 updated uuid s =>
      rw [readPairs, setUuid_of_lt hfits]
      exact ⟨_, rfl⟩
  | case3 updated uuid trxids rest s ih =>
      rw [readPairs_cons, setUuid_of_lt hfits.1, bind_ok]
      cases hparse : TrxIdInterval.parse trxids with
      | none =>
          exact ⟨_, rfl⟩
      | some iv =>
          exact ih _ _ (hfits.2 ((parse_isSome_iff trxids).mp (by rw [hparse]; rfl)))

/-- What the elements of a bootstrap message leave -/
structure ElementsOutcome (s : Progress) (tokens : List (List Char)) (r : Progress × Bool × Bool) :
    Prop where
  fits : ElementsFit tokens
  known : s.Known → r.1.Known
  broken : FirstBroken tokens → r.2.2 = false ∧ r.1.gtidExecuted = s.gtidExecuted
  added : ¬ FirstBroken tokens → r.2.2 = true ∨ r.1.Known

theorem readElements_cons
    {updated : Bool} {token : List Char}
    (h : readPairs updated (strtok ':' token) s = .ok r)
    (tokens : List (List Char)) :
    readElements updated (token :: tokens) s =
      if r.2.2 && !(strtok ':' token).isEmpty then readElements r.2.1 tokens r.1
      else .ok (r.1, r.2.1, false) := by
  rw [readElements, h]
  rfl

theorem not_valid_of_brokenAtOnce
    (h : BrokenAtOnce parts)
    (hne : parts ≠ []) :
    ¬ ValidPairs parts := by
  match parts with
  | [] =>
      exact absurd rfl hne
  | [_] =>
      exact id
  | _ :: trxids :: rest =>
      exact fun hvalid => h hvalid.1

theorem readElements_outcome
    {updated : Bool} {tokens : List (List Char)}
    (h : readElements updated tokens s = .ok r) :
    ElementsOutcome s tokens r := by
  induction tokens generalizing updated s with
  | nil =>
      obtain rfl := Except.ok.inj h
      refine ⟨trivial, id, ?_, fun _ => Or.inl rfl⟩
      rintro ⟨_, _, hcons, _⟩
      cases hcons
  | cons token tokens ih =>
      cases hpairs : readPairs updated (strtok ':' token) s with
      | error f =>
          rw [readElements, hpairs] at h
          cases h
      | ok q =>
          have hq := readPairs_outcome hpairs
          rw [readElements_cons hpairs] at h
          have hbroken : FirstBroken (token :: tokens) ↔ BrokenAtOnce (strtok ':' token) := by
            constructor
            · rintro ⟨_, _, hcons, hb⟩
              exact (List.cons.inj hcons).1 ▸ hb
            · exact fun hb => ⟨token, tokens, rfl, hb⟩
          split at h
          · rename_i hgoes
            rw [Bool.and_eq_true, Bool.not_eq_true', List.isEmpty_eq_false_iff] at hgoes
            have hvalid := hq.valid.mp hgoes.1
            have hno : ¬ BrokenAtOnce (strtok ':' token) :=
              fun hb => not_valid_of_brokenAtOnce hb hgoes.2 hvalid
            have hrest := ih h
            exact ⟨⟨hq.fits, fun _ _ => hrest.fits⟩, fun hs => hrest.known (hq.known hs),
              fun hb => absurd (hbroken.mp hb) hno, fun _ => Or.inr (hrest.known (hq.added hno))⟩
          · rename_i hstops
            obtain rfl := Except.ok.inj h
            refine ⟨⟨hq.fits, fun hne hvalid => absurd ?_ hstops⟩, hq.known,
              fun hb => ⟨rfl, hq.broken (hbroken.mp hb)⟩,
              fun hno => Or.inr (hq.added fun hb => hno (hbroken.mpr hb))⟩
            rw [hq.valid.mpr hvalid, Bool.true_and, Bool.not_eq_true', List.isEmpty_eq_false_iff]
            exact hne

theorem readElements_ok
    {tokens : List (List Char)}
    (hfits : ElementsFit tokens)
    (updated : Bool) :
    ∃ r, readElements updated tokens s = .ok r := by
  induction tokens generalizing updated s with
  | nil =>
      exact ⟨_, rfl⟩
  | cons token tokens ih =>
      obtain ⟨q, hpairs⟩ := readPairs_ok (s := s) hfits.1 updated
      rw [readElements_cons hpairs]
      split
      · rename_i hgoes
        rw [Bool.and_eq_true, Bool.not_eq_true', List.isEmpty_eq_false_iff] at hgoes
        exact ih (hfits.2 hgoes.2 ((readPairs_outcome hpairs).valid.mp hgoes.1)) _
      · exact ⟨_, rfl⟩

variable {line : List Char}

/-- What a bootstrap message leaves: the set that its elements leave, and the flag of the last one -/
theorem readBootstrap_spec
    (h : readElements false (bootstrapTokens line) s = .ok r) :
    ∃ t, s.readBootstrap line = .ok (t, r.2.2) ∧ t.gtidExecuted = r.1.gtidExecuted := by
  rw [bootstrapTokens] at h
  rw [readBootstrap, h, bind_ok]
  obtain ⟨t, updated, valid⟩ := r
  cases valid with
  | false =>
      exact ⟨_, rfl, rfl⟩
  | true =>
      refine ⟨_, rfl, ?_⟩
      split
      · rfl
      · rfl

/-! ## The other lines -/

/-- A message that begins with `I`, by its kind. -/
theorem readRecord_kind
    (hlen : line.length < recMsgSize)
    (hhead : (cString line).head? = some 'I') :
    s.readRecord line = match recordKind line with
      | none => .ok (s.deactivate, false)
      | some .uuidTrxid => do
          match splitColon (← payload line) with
          | none => return (s.deactivate, false)
          | some (uuid, rest) =>
              let s ← s.setUuid uuid
              return ((s.addGtid (.id (atoll rest))).2.countEvent, true)
      | some .trxid => do
          let rest ← payload line
          return ((s.addGtid (.id (atoll rest))).2.countEvent, true)
      | some .uuidRange => do
          match splitColon (← payload line) with
          | none => return (s.deactivate, false)
          | some (uuid, rest) =>
              let s ← s.setUuid uuid
              match TrxIdInterval.parse rest with
              | none => return (s.deactivate, false)
              | some iv => return ((s.addGtid (.interval iv)).2.countEvent, true)
      | some .range => do
          match TrxIdInterval.parse (← payload line) with
          | none => return (s.deactivate, false)
          | some iv => return ((s.addGtid (.interval iv)).2.countEvent, true) := by
  rw [readRecord, if_neg (Nat.not_le_of_gt hlen)]
  change (if (cString line).head? ≠ some 'I' then Except.ok (s, true) else _) = _
  rw [if_neg (not_not_intro hhead)]
  by_cases hone : (cString line)[1]? = some '1'
  · rw [recordKind, hone]
    rfl
  by_cases htwo : (cString line)[1]? = some '2'
  · rw [recordKind, htwo]
    rfl
  by_cases hthree : (cString line)[1]? = some '3'
  · rw [recordKind, hthree]
    rfl
  by_cases hfour : (cString line)[1]? = some '4'
  · rw [recordKind, hfour]
    rfl
  have hkind : recordKind line = none := by
    unfold recordKind
    split
    case h_5 =>
      rfl
    all_goals contradiction
  rw [hkind]
  split
  case h_5 =>
    rfl
  all_goals contradiction

theorem payload_eq
    (h : 3 ≤ line.length) :
    payload line = .ok (recordText line) := by
  rw [payload, if_neg (Nat.not_lt_of_le h)]
  rfl

theorem splitColon_eq_none_iff
    {text : List Char} :
    splitColon text = none ↔ ':' ∉ text := by
  rw [splitColon]
  cases hdrop : text.dropWhile (· ≠ ':') with
  | nil =>
      rw [List.dropWhile_eq_nil_iff] at hdrop
      refine iff_of_true rfl fun hmem => ?_
      have hne := hdrop _ hmem
      simp at hne
  | cons c rest =>
      refine iff_of_false (by simp) fun hno => ?_
      have hall : text.dropWhile (· ≠ ':') = [] :=
        List.dropWhile_eq_nil_iff.mpr fun c hc => decide_eq_true fun heq => hno (heq ▸ hc)
      rw [hall] at hdrop
      cases hdrop

theorem splitColon_eq_some
    {text uuid rest : List Char}
    (h : splitColon text = some (uuid, rest)) :
    ':' ∉ uuid ∧ text = uuid ++ ':' :: rest := by
  rw [splitColon] at h
  cases hdrop : text.dropWhile (· ≠ ':') with
  | nil =>
      rw [hdrop] at h
      cases h
  | cons c tail =>
      rw [hdrop] at h
      obtain ⟨rfl, rfl⟩ := Prod.mk.inj (Option.some.inj h)
      have hc := List.head?_dropWhile_not (· ≠ ':') text
      rw [hdrop] at hc
      have hcolon : c = ':' := by simpa using hc
      refine ⟨fun hmem => ?_, ?_⟩
      · have hne := List.mem_takeWhile_imp hmem
        simp at hne
      · rw [hcolon] at hdrop
        rw [← hdrop, List.takeWhile_append_dropWhile]

/-- What is true of the parts at the first colon is true of all parts at a first colon. -/
theorem forall_splitColon
    {text uuid rest : List Char}
    (h : splitColon text = some (uuid, rest))
    (P : List Char → List Char → Prop) :
    (∀ uuid rest, ':' ∉ uuid → text = uuid ++ ':' :: rest → P uuid rest) ↔ P uuid rest := by
  obtain ⟨hcolon, htext⟩ := splitColon_eq_some h
  constructor
  · intro hall
    exact hall uuid rest hcolon htext
  · rintro hp uuid' rest' hcolon' htext'
    obtain ⟨rfl, rfl⟩ := (append_mark_inj hcolon hcolon').mp (htext.symm.trans htext')
    exact hp

/-- A message of a known kind fits where there is a text and, if a uuid stands in it, room for that. -/
theorem recordFits_iff
    {kind : RecordKind}
    (hlen : line.length < recMsgSize)
    (hhead : (cString line).head? = some 'I')
    (hkind : recordKind line = some kind) :
    RecordFits line ↔ 3 ≤ line.length ∧ (kind = .uuidTrxid ∨ kind = .uuidRange →
      ∀ uuid text, ':' ∉ uuid → recordText line = uuid ++ ':' :: text →
        uuid.length < uuidServerSize) := by
  refine ⟨fun h => h.2 hhead kind hkind, fun h => ⟨hlen, fun _ kind' hsame => ?_⟩⟩
  obtain rfl := Option.some.inj (hkind.symm.trans hsame)
  exact h

theorem not_mem_colon_iff
    {text : List Char} :
    ':' ∉ text ↔ ∀ uuid rest, ':' ∉ uuid → text = uuid ++ ':' :: rest → False := by
  constructor
  · intro hcolon uuid rest _ htext
    refine hcolon ?_
    rw [htext]
    simp
  · intro hall
    rw [← splitColon_eq_none_iff, Option.eq_none_iff_forall_not_mem]
    intro parts hsplit
    obtain ⟨hno, htext⟩ := splitColon_eq_some hsplit
    exact hall _ _ hno htext

/-- A reading faults where the text does not fit, and is rejected where the text is refused. -/
def Reads (fits refused : Prop) (reading : Except Fault (Progress × Bool)) : Prop :=
  (fits ∧ ∃ t more, reading = .ok (t, more) ∧ (more = false ↔ refused)) ∨
    ¬ fits ∧ ∃ f, reading = .error f

theorem reads_ids
    {text : List Char} {ids : TrxIdInterval → Progress × Bool}
    (hids : ∀ iv, (ids iv).2 = true)
    (s : Progress) :
    Reads True (¬ TrxidText text) (match TrxIdInterval.parse text with
      | none => .ok (s.deactivate, false)
      | some iv => .ok (ids iv)) := by
  rw [← parse_eq_none_iff]
  cases hparse : TrxIdInterval.parse text with
  | none =>
      exact Or.inl ⟨trivial, _, _, rfl, iff_of_true rfl rfl⟩
  | some iv =>
      exact Or.inl ⟨trivial, _, _, rfl, by simp [hids]⟩

/-- What a message says behind its first colon, once the uuid before it is remembered. -/
theorem reads_withUuid
    {text : List Char} {s : Progress} {refused : List Char → Prop}
    {ids : Progress → List Char → Except Fault (Progress × Bool)}
    (hids : ∀ t rest, Reads True (refused rest) (ids t rest)) :
    Reads (∀ uuid rest, ':' ∉ uuid → text = uuid ++ ':' :: rest → uuid.length < uuidServerSize)
      (∀ uuid rest, ':' ∉ uuid → text = uuid ++ ':' :: rest → refused rest)
      (match splitColon text with
        | none => .ok (s.deactivate, false)
        | some (uuid, rest) => s.setUuid uuid >>= fun t => ids t rest) := by
  cases hsplit : splitColon text with
  | none =>
      have hnone := not_mem_colon_iff.mp (splitColon_eq_none_iff.mp hsplit)
      exact Or.inl ⟨fun uuid rest hno htext => (hnone uuid rest hno htext).elim, _, _, rfl,
        iff_of_true rfl fun uuid rest hno htext => (hnone uuid rest hno htext).elim⟩
  | some parts =>
      obtain ⟨uuid, rest⟩ := parts
      rw [forall_splitColon hsplit fun uuid _ => uuid.length < uuidServerSize,
        forall_splitColon hsplit fun _ rest => refused rest]
      dsimp only
      by_cases hshort : uuid.length < uuidServerSize
      · rw [setUuid_of_lt hshort, bind_ok]
        exact (hids _ rest).imp (fun h => ⟨hshort, h.2⟩) fun h => absurd trivial h.1
      · refine Or.inr ⟨hshort, .uuidServer, ?_⟩
        rw [setUuid, if_neg hshort]
        rfl

theorem readRecord_spec
    (s : Progress) (line : List Char) :
    Reads (RecordFits line) (RefusedRecord line) (s.readRecord line) := by
  by_cases hlen : line.length < recMsgSize
  case neg =>
    refine Or.inr ⟨fun h => hlen h.1, .recMsg, ?_⟩
    rw [readRecord, if_pos (Nat.le_of_not_lt hlen)]
    rfl
  by_cases hhead : (cString line).head? = some 'I'
  case neg =>
    refine Or.inl ⟨⟨hlen, fun h => absurd h hhead⟩, s, true, ?_, by simp [RefusedRecord, hhead]⟩
    rw [readRecord, if_neg (Nat.not_le_of_gt hlen)]
    change (if (cString line).head? ≠ some 'I' then Except.ok (s, true) else _) = _
    rw [if_pos hhead]
  rw [readRecord_kind hlen hhead, RefusedRecord, and_iff_right hhead]
  cases hkind : recordKind line with
  | none =>
      refine Or.inl ⟨⟨hlen, fun _ _ hsome => ?_⟩, _, _, rfl, iff_of_true rfl trivial⟩
      cases hkind.symm.trans hsome
  | some kind =>
      rw [recordFits_iff hlen hhead hkind]
      by_cases hthree : 3 ≤ line.length
      case neg =>
        refine Or.inr ⟨fun h => hthree h.1, .unwritten, ?_⟩
        have hpayload : payload line = .error .unwritten := if_pos (Nat.lt_of_not_le hthree)
        cases kind with
        | uuidTrxid | trxid | uuidRange | range =>
            dsimp only
            rw [hpayload]
            rfl
      rw [payload_eq hthree, and_iff_right hthree]
      cases kind with
      | uuidTrxid =>
          rw [imp_iff_right (Or.inl rfl), not_mem_colon_iff]
          exact reads_withUuid fun t rest => Or.inl ⟨trivial, _, _, rfl, by simp⟩
      | trxid =>
          exact Or.inl ⟨by simp, _, _, rfl, by simp⟩
      | uuidRange =>
          rw [imp_iff_right (Or.inr rfl)]
          exact reads_withUuid fun t rest => reads_ids (fun _ => rfl) t
      | range =>
          rw [iff_true_intro fun h => absurd h (by simp)]
          exact reads_ids (fun _ => rfl) s

/-! ## Every line -/

/-- A line faults where it does not fit; it is rejected where it is refused, and otherwise the reader
goes on or has added something. -/
theorem handleLine_spec
    (s : Progress) (line : List Char) :
    (Fits line ∧ ∃ t more, s.handleLine line = .ok (t, more) ∧
      (Refused line → more = false ∧ t.gtidExecuted = s.gtidExecuted) ∧
      (¬ Refused line → more = true ∨ t.Known)) ∨
      ¬ Fits line ∧ ∃ f, s.handleLine line = .error f := by
  unfold Fits Refused
  cases hbootstrap : isBootstrap line with
  | true =>
      simp only [if_true]
      rw [handleLine, if_pos (of_decide_eq_true hbootstrap)]
      cases helements : readElements false (bootstrapTokens line) s with
      | ok r =>
          obtain ⟨t, ht, hsame⟩ := readBootstrap_spec helements
          have hr := readElements_outcome helements
          refine Or.inl ⟨hr.fits, t, r.2.2, ht, fun hb => ?_, fun hno => ?_⟩
          · exact ⟨(hr.broken hb).1, hsame.trans (hr.broken hb).2⟩
          · refine (hr.added hno).imp_right fun hknown => ?_
            obtain ⟨uuid, hknown⟩ := hknown
            exact ⟨uuid, hsame ▸ hknown⟩
      | error f =>
          refine Or.inr ⟨fun hfits => ?_, f, ?_⟩
          · obtain ⟨r, hr⟩ := readElements_ok (s := s) hfits false
            rw [helements] at hr
            cases hr
          · rw [bootstrapTokens] at helements
            rw [readBootstrap, helements]
            rfl
  | false =>
      have hno : ¬ line.take 3 = ['S', 'T', '='] := of_decide_eq_false hbootstrap
      simp only [Bool.false_eq_true, if_false]
      rw [handleLine, if_neg hno]
      refine (readRecord_spec s line).imp_left fun hspec => ?_
      obtain ⟨hfits, t, more, ht, hmore⟩ := hspec
      refine ⟨hfits, t, more, ht, fun hrefused => ?_, fun hno => ?_⟩
      · obtain rfl := hmore.mpr hrefused
        refine ⟨rfl, ?_⟩
        generalize hr : (t, false) = r at ht
        cases readRecord_outcome ht with
        | ignored =>
            cases hr
        | added arg _ =>
            cases hr
        | rejected hsame =>
            obtain ⟨rfl, -⟩ := Prod.mk.inj hr
            exact hsame
      · exact Or.inl (Bool.not_eq_false _ ▸ mt hmore.mp hno)

theorem LineSound.handles
    (h : LineSound line) :
    ∃ t more, s.handleLine line = .ok (t, more) ∧ (Refused line → more = false) ∧
      (¬ WellFormed line → more = false ∧ t.active = false ∧ t.gtidExecuted = s.gtidExecuted) := by
  rcases handleLine_spec s line with ⟨-, t, more, ht, hrefused, -⟩ | ⟨hno, -⟩
  · refine ⟨t, more, ht, fun hr => (hrefused hr).1, fun hmalformed => ?_⟩
    obtain ⟨rfl, hsame⟩ := hrefused (h.2.resolve_left hmalformed)
    exact ⟨rfl, (handleLine_active ht).trans (Bool.and_false _), hsame⟩
  · exact absurd h.1 hno

/-- The lines that the reader handles as it should, in every state -/
theorem handles_iff
    (line : List Char) :
    (∀ s : Progress, s.Handles line) ↔ LineSound line := by
  constructor
  · intro h
    obtain ⟨t, more, ht, hmalformed⟩ := h {}
    rcases handleLine_spec {} line with ⟨hfits, t', more', ht', -, hadded⟩ | ⟨-, f, hf⟩
    · refine ⟨hfits, or_iff_not_imp_left.mpr fun hno => ?_⟩
      obtain ⟨rfl, rfl⟩ := Prod.mk.inj (Except.ok.inj (ht.symm.trans ht'))
      obtain ⟨hactive, hsame⟩ := hmalformed hno
      by_contra hrefused
      rcases hadded hrefused with rfl | ⟨uuid, hknown⟩
      · rw [handleLine_active ht] at hactive
        cases hactive
      · rw [hsame] at hknown
        exact AList.notMem_empty uuid hknown
    · rw [ht] at hf
      cases hf
  · intro h s
    obtain ⟨t, more, ht, -, hmalformed⟩ := LineSound.handles (s := s) h
    exact ⟨t, more, ht, fun hno => (hmalformed hno).2⟩

end Progress

/-! ## Every stream -/

/-- Every line that no refused line precedes is handled as it should be. -/
def LinesSound (lines : List (List Char)) : Prop :=
  ∀ before line after, lines = before ++ line :: after → (∀ l ∈ before, ¬ Refused l) → LineSound line

variable {lines : List (List Char)}

theorem LinesSound.cons
    {line : List Char}
    (h : LinesSound (line :: lines)) :
    LineSound line ∧ (¬ Refused line → LinesSound lines) := by
  refine ⟨h [] line lines rfl fun l hl => absurd hl List.not_mem_nil, fun hno => ?_⟩
  rintro before line' after rfl hbefore
  refine h (line :: before) line' after rfl fun l hl => ?_
  rcases List.mem_cons.mp hl with rfl | hl
  · exact hno
  · exact hbefore l hl

theorem processLines_of_sound
    (h : LinesSound lines)
    (s : Progress) :
    ∃ r, processLines lines s = .ok r := by
  induction lines generalizing s with
  | nil =>
      exact ⟨_, rfl⟩
  | cons line lines ih =>
      obtain ⟨hline, hlines⟩ := h.cons
      obtain ⟨t, more, ht, hrefused, -⟩ := Progress.LineSound.handles (s := s) hline
      rw [processLines_cons ht]
      cases more with
      | true =>
          exact ih (hlines fun hr => Bool.noConfusion (hrefused hr)) t
      | false =>
          exact ⟨_, rfl⟩

theorem not_refused_of_processLines
    {s t : Progress}
    (h : processLines lines s = .ok (t, true)) :
    ∀ line ∈ lines, ¬ Refused line := by
  induction lines generalizing s with
  | nil =>
      exact fun line hline => absurd hline List.not_mem_nil
  | cons line lines ih =>
      rcases Progress.handleLine_spec s line with ⟨-, u, more, hu, hrefused, -⟩ | ⟨-, f, hf⟩
      · rw [processLines_cons hu] at h
        cases more with
        | true =>
            rw [if_pos rfl] at h
            intro l hl
            rcases List.mem_cons.mp hl with rfl | hl
            · exact fun hr => Bool.noConfusion (hrefused hr).1
            · exact ih h l hl
        | false =>
            rw [if_neg Bool.false_ne_true] at h
            cases h
      · rw [processLines_error hf] at h
        cases h

/-- The first line that is no documented message ends the lines of a stream: the server is deactivated,
with the set that the lines before have left. -/
theorem LinesSound.malformed
    {before after : List (List Char)} {line : List Char} {s : Progress}
    (h : LinesSound (before ++ line :: after))
    (hbefore : processLines before {} = .ok (s, true))
    (hmalformed : ¬ WellFormed line) :
    ∃ t, processLines (before ++ line :: after) {} = .ok (t, false) ∧ t.active = false ∧
      t.gtidExecuted = s.gtidExecuted := by
  have hline := h before line after rfl (not_refused_of_processLines hbefore)
  obtain ⟨t, more, ht, -, hrejected⟩ := Progress.LineSound.handles (s := s) hline
  obtain ⟨rfl, hactive, hsame⟩ := hrejected hmalformed
  refine ⟨t, ?_, hactive, hsame⟩
  rw [(processLines_append before _ {}).2.2 s hbefore, processLines_cons ht]
  rfl

namespace GtidServerData

theorem readerCb_closes
    (conn : GtidServerData × List Char)
    {result : ReadResult}
    (h : result.gives = false) :
    ∃ conn', readerCb conn result = .ok conn' ∧
      conn'.1.progress = conn.1.progress.deactivate := by
  cases hactive : conn.1.progress.active with
  | true =>
      rw [readerCb, if_pos hactive]
      cases result with
      | bytes n =>
          cases h
      | again =>
          cases h
      | eof =>
          exact ⟨_, rfl, congrArg Progress.deactivate (expand_progress conn.1)⟩
      | failed =>
          exact ⟨_, rfl, congrArg Progress.deactivate (expand_progress conn.1)⟩
  | false =>
      refine ⟨conn, ?_, ?_⟩
      · rw [readerCb, if_neg (by rw [hactive]; exact Bool.false_ne_true)]
      · rw [Progress.deactivate, ← hactive]

/-- Once the connection is closed, the callback does nothing. -/
theorem foldlM_closed
    {conn : GtidServerData × List Char}
    (h : conn.1.progress.active = false)
    (results : List ReadResult) :
    results.foldlM readerCb conn = .ok conn := by
  induction results with
  | nil =>
      rfl
  | cons result results ih =>
      have hcb : readerCb conn result = .ok conn := by
        rw [readerCb, if_neg (by rw [h]; exact Bool.false_ne_true)]
      rw [List.foldlM_cons, hcb]
      exact ih

variable {stream : List Char} {results : List ReadResult}

/-- A fault of a run is a fault of the lines of the stream. -/
theorem readStream_fault
    {f : Fault}
    (h : readStream stream results = .error f) :
    processLines (complete '\n' stream) {} = .error f := by
  -- the results up to the first that gives nothing
  obtain ⟨given, rest, hresults, hgiven, hrest⟩ : ∃ given rest, results = given ++ rest ∧
      (∀ r ∈ given, r.gives = true) ∧ ∀ r, rest.head? = some r → r.gives = false := by
    refine ⟨results.takeWhile ReadResult.gives, results.dropWhile ReadResult.gives,
      List.takeWhile_append_dropWhile.symm, fun r hr => List.mem_takeWhile_imp hr, ?_⟩
    intro r hr
    have hdrop := List.head?_dropWhile_not ReadResult.gives results
    rw [hr] at hdrop
    simpa using hdrop
  obtain ⟨hfault, -⟩ := readStream_follows stream given hgiven
  rw [readStream, hresults, List.foldlM_append] at h
  cases hrun : given.foldlM readerCb ({}, stream) with
  | error f' =>
      rw [hrun] at h
      obtain rfl := Except.error.inj h
      exact hfault f' hrun
  | ok conn =>
      rw [hrun] at h
      change rest.foldlM readerCb conn = .error f at h
      cases rest with
      | nil =>
          cases h
      | cons result rest =>
          obtain ⟨conn', hcb, hclosed⟩ := readerCb_closes conn (hrest result rfl)
          rw [List.foldlM_cons, hcb] at h
          change rest.foldlM readerCb conn' = .error f at h
          rw [foldlM_closed (by rw [hclosed]; rfl)] at h
          cases h

/-- What a sequence of reads leaves of a stream, when it has carried all of it. -/
theorem readStream_progress
    (hgives : ∀ result ∈ results, result.gives = true)
    (hall : ∀ conn, readStream stream results = .ok conn →
      conn.2 = [] ∨ conn.1.progress.active = false) :
    (readStream stream results).map (fun conn => conn.1.progress) =
      (processLines (complete '\n' stream) {}).map Prod.fst := by
  obtain ⟨hfault, hok⟩ := readStream_follows stream results hgives
  cases hrun : readStream stream results with
  | error f =>
      rw [hfault f hrun]
      rfl
  | ok conn =>
      obtain ⟨read, hstream, -, hcase⟩ := hok conn hrun
      rcases hcase with ⟨hactive, hrest, hlines⟩ | ⟨-, hlines⟩
      · have hnil : conn.2 = [] := by
          rcases hall conn hrun with hnil | hclosed
          · exact hnil
          · rw [hactive] at hclosed
            cases hclosed
        have hcome := hlines []
        rw [List.append_nil, List.append_nil, complete_of_not_mem hrest] at hcome
        rw [hstream, hnil, List.append_nil, hcome]
        rfl
      · rw [hstream, hlines conn.2]
        rfl

/-- A stream that is closed after it was carried. -/
theorem readStream_closed
    {last : ReadResult}
    (hgives : ∀ result ∈ results, result.gives = true)
    (hall : ∀ conn, readStream stream results = .ok conn →
      conn.2 = [] ∨ conn.1.progress.active = false)
    (hlast : last.gives = false) :
    (readStream stream (results ++ [last])).map (fun conn => conn.1.progress) =
      (processLines (complete '\n' stream) {}).map fun r => r.1.deactivate := by
  have hprogress := readStream_progress hgives hall
  have happend : readStream stream (results ++ [last]) = (do
      let conn ← readStream stream results
      readerCb conn last) := by
    rw [readStream, List.foldlM_append]
    simp only [List.foldlM_cons, List.foldlM_nil, bind_pure]
    rfl
  rw [happend]
  cases hrun : readStream stream results with
  | error f =>
      rw [hrun] at hprogress
      cases hprocess : processLines (complete '\n' stream) {} with
      | error f' =>
          rw [hprocess] at hprogress
          exact congrArg _ (Except.error.inj hprogress)
      | ok r =>
          rw [hprocess] at hprogress
          cases hprogress
  | ok conn =>
      rw [hrun] at hprogress
      obtain ⟨conn', hcb, hclosed⟩ := readerCb_closes conn hlast
      cases hprocess : processLines (complete '\n' stream) {} with
      | error f =>
          rw [hprocess] at hprogress
          cases hprogress
      | ok r =>
          rw [hprocess] at hprogress
          change (readerCb conn last).map _ = _
          rw [hcb]
          change Except.ok conn'.1.progress = Except.ok r.1.deactivate
          have hsame : conn.1.progress = r.1 := Except.ok.inj hprogress
          rw [hclosed, hsame]

end GtidServerData

/-- A sequence of reads that carries a stream, or as much of it as the server waits for. -/
def Carries (stream : List Char) (results : List ReadResult) : Prop :=
  (∀ result ∈ results, result.gives = true) ∧
    ∀ conn, GtidServerData.readStream stream results = .ok conn →
      conn.2 = [] ∨ conn.1.progress.active = false

end BinlogReader

end PolarProxy
