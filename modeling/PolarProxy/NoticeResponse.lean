import PolarProxy.Library.Attempts
import PolarProxy.Library.TaggedFields
import PolarProxy.MessageEncoding

/-!
# NoticeResponse messages

The proxy sends the client notices of its own, and notices of backends whose results it does not
forward.  `polardb_notice_response_packet_size` sizes the buffer and
`polardb_write_notice_response_packet` fills it, in two passes over the same fields; a field whose
pointer is null is left out.

A value is a C string: its bytes are those before the NUL.  The size is of type `unsigned int`,
so its sums wrap.  A write outside of the bytes that stand from `pkt` on gives up.

**Results.**
* `writeMessage_some`, `writeMessage_none`: what is written, and when the bytes do not suffice.
* `decodeNotice_encodeNotice`: the message is read back by the grammar of the protocol.
* `encodesNotice_iff`: the combinations of fields that the encoder encodes.
* `Notices.run_sublist`: what the client is sent of the notices of a session.
-/

namespace PolarProxy

namespace NoticeResponse

open Attempts TaggedFields
open ExtendedMessage (Text be32 wrap32 length_be32 be32_eq_iff)

/-! ## Encoder -/

/-- `PolarDB_NoticeField` -/
structure NoticeField where
  code : UInt8
  value : Option Text
  deriving DecidableEq

/-- `polardb_notice_response_packet_size` -/
def noticeResponsePacketSize (fields : List NoticeField) : Nat :=
  fields.foldl (fun size field =>
    match field.value with
    | some value => wrap32 (size + (value.bytes.length + 2))
    | none => size) (1 + 4 + 1)

/-- The bytes from `pkt` on, and `write_cursor` -/
structure Output where
  bytes : List UInt8
  writeCursor : Nat
  deriving DecidableEq

/-- `memcpy` to the cursor, which moves behind what is written -/
def put (text : List UInt8) : Attempt Output PUnit := fun out =>
  if out.writeCursor + text.length ≤ out.bytes.length then
    (some ⟨⟩,
      { bytes := out.bytes.take out.writeCursor ++ text ++
          out.bytes.drop (out.writeCursor + text.length)
        writeCursor := out.writeCursor + text.length })
  else (none, out)

/-- `write_field` -/
def writeField (field : NoticeField) : Attempt Output PUnit :=
  match field.value with
  | none => pure ⟨⟩
  | some value => do
      put [field.code]
      put (value.bytes ++ [0])

/-- The message of the given size, with the length `size - 1` -/
def writeMessage (size : Nat) (fields : List NoticeField) : Attempt Output PUnit := do
  put ['N'.toUInt8]
  put (be32 (wrap32 (size + 2 ^ 32 - 1)))
  fields.forM writeField
  put [0]

/-- `polardb_write_notice_response_packet`; the state is the bytes from `pkt` on, unless `pkt` is
null. -/
def writeNoticeResponsePacket (capacity : Nat) (fields : List NoticeField) :
    Attempt (Option (List UInt8)) Nat := fun pkt =>
  let size := noticeResponsePacketSize fields
  match pkt with
  | none => (some 0, none)
  | some bytes =>
      if capacity < size then (some 0, some bytes)
      else
        match writeMessage size fields ⟨bytes, 0⟩ with
        | (some _, out) => (some size, some out.bytes)
        | (none, out) => (none, some out.bytes)

/-- The fields of both functions for five values, which the source lists in this order -/
def noticeFields (severity sqlstate primary detail severityNonlocalized : Option Text) :
    List NoticeField :=
  [⟨'S'.toUInt8, severity⟩, ⟨'V'.toUInt8, severityNonlocalized⟩, ⟨'C'.toUInt8, sqlstate⟩,
    ⟨'M'.toUInt8, primary⟩, ⟨'D'.toUInt8, detail⟩]

/-! ## The grammar of the protocol -/

/-- A present field: its code and the bytes of its value -/
def NoticeField.present (field : NoticeField) : Option (Tagged UInt8) :=
  field.value.map fun value => (field.code, value.bytes)

def presentFields (fields : List NoticeField) : List (Tagged UInt8) :=
  fields.filterMap NoticeField.present

/-- NoticeResponse: the type byte `N`, the length of what follows the type byte, and fields that
a zero byte ends; a field is a code other than zero and a string -/
def decodeNotice (message : List UInt8) : Option (List (Tagged UInt8)) :=
  match message with
  | type :: b₀ :: b₁ :: b₂ :: b₃ :: body =>
      if type = 'N'.toUInt8 ∧
          b₀.toNat * 2 ^ 24 + b₁.toNat * 2 ^ 16 + b₂.toNat * 2 ^ 8 + b₃.toNat = body.length + 4 then
        decode 0 body
      else none
  | _ => none

/-- The number of bytes of the message, without a limit -/
def messageLength (fields : List NoticeField) : Nat :=
  6 + ((presentFields fields).map fun field => field.2.length + 2).sum

/-- The message of the fields -/
def encodeNotice (fields : List NoticeField) : List UInt8 :=
  'N'.toUInt8 :: (be32 (messageLength fields - 1) ++ encode 0 (presentFields fields))

/-- What the encoder is for: with room for the predicted size, exactly so many bytes are written,
and they are a message whose length word counts the bytes behind the type byte and which is read
as the present fields; without room nothing is written. -/
structure EncodesNotice (fields : List NoticeField) : Prop where
  writes : ∀ (bytes : List UInt8) (capacity : Nat), capacity ≤ bytes.length → capacity < 2 ^ 32 →
    noticeResponsePacketSize fields ≤ capacity →
      ∃ message : List UInt8,
        writeNoticeResponsePacket capacity fields (some bytes) =
            (some (noticeResponsePacketSize fields),
              some (message ++ bytes.drop (noticeResponsePacketSize fields))) ∧
          message.length = noticeResponsePacketSize fields ∧
          (message.drop 1).take 4 = be32 (message.drop 1).length ∧
          decodeNotice message = some (presentFields fields)
  declines : ∀ (bytes : List UInt8) (capacity : Nat), capacity < noticeResponsePacketSize fields →
    writeNoticeResponsePacket capacity fields (some bytes) = (some 0, some bytes)
  declinesNull : ∀ capacity : Nat,
    writeNoticeResponsePacket capacity fields none = (some 0, none)

/-! ## Sizes -/

theorem presentFields_cons
    (field : NoticeField)
    (fields : List NoticeField) :
    presentFields (field :: fields) = field.present.toList ++ presentFields fields := by
  cases h : field.present <;> simp [presentFields, h]

/-- The size is the number of bytes, as far as 32 bits hold it. -/
theorem noticeResponsePacketSize_eq (fields : List NoticeField) :
    noticeResponsePacketSize fields = wrap32 (messageLength fields) := by
  have hfold : ∀ size, size < 2 ^ 32 →
      fields.foldl (fun size field =>
        match field.value with
        | some value => wrap32 (size + (value.bytes.length + 2))
        | none => size) size =
      wrap32 (size + ((presentFields fields).map fun field => field.2.length + 2).sum) := by
    induction fields with
    | nil =>
        intro size hsize
        exact (Nat.mod_eq_of_lt hsize).symm
    | cons field fields ih =>
        intro size hsize
        obtain ⟨code, value⟩ := field
        cases value with
        | none =>
            exact ih size hsize
        | some value =>
            have hnext := ih (wrap32 (size + (value.bytes.length + 2))) (Nat.mod_lt _ (by decide))
            rw [List.foldl_cons, hnext]
            simp only [presentFields_cons, NoticeField.present, Option.map_some, Option.toList_some,
              List.singleton_append, List.map_cons, List.sum_cons, wrap32, Nat.mod_add_mod,
              Nat.add_assoc]
  exact hfold _ (by decide)

theorem noticeResponsePacketSize_of_lt
    {fields : List NoticeField}
    (h : messageLength fields < 2 ^ 32) :
    noticeResponsePacketSize fields = messageLength fields := by
  rw [noticeResponsePacketSize_eq]
  exact Nat.mod_eq_of_lt h

theorem noticeResponsePacketSize_lt (fields : List NoticeField) :
    noticeResponsePacketSize fields < 2 ^ 32 := by
  rw [noticeResponsePacketSize_eq]
  exact Nat.mod_lt _ (by decide)

theorem length_encodeNotice (fields : List NoticeField) :
    (encodeNotice fields).length = messageLength fields := by
  rw [encodeNotice, List.length_cons, List.length_append, length_be32, length_encode, messageLength]
  omega

/-! ## Writing -/

/-- The first bytes are written, and the others as they were. -/
def Wrote (bytes text : List UInt8) (out : Output) : Prop :=
  text.length ≤ bytes.length ∧ out = ⟨text ++ bytes.drop text.length, text.length⟩

variable {bytes text : List UInt8} {total : Nat}

/-- Bytes behind those written, unless they do not fit -/
theorem put_ensures
    {new : List UInt8}
    (h : (text ++ new).length ≤ total) :
    Ensures (Wrote bytes text) (put new) (fun _ => Wrote bytes (text ++ new))
      (fun _ => bytes.length < total) := by
  rintro out ⟨htext, rfl⟩
  rw [List.length_append] at h
  have hlen : (text ++ bytes.drop text.length).length = bytes.length := by
    rw [List.length_append, List.length_drop]
    omega
  have hput : put new ⟨text ++ bytes.drop text.length, text.length⟩ =
      if text.length + new.length ≤ bytes.length then
        (some ⟨⟩, ⟨(text ++ bytes.drop text.length).take text.length ++ new ++
          (text ++ bytes.drop text.length).drop (text.length + new.length),
          text.length + new.length⟩)
      else (none, ⟨text ++ bytes.drop text.length, text.length⟩) := by
    rw [put, hlen]
  rw [hput]
  by_cases hfits : text.length + new.length ≤ bytes.length
  · rw [if_pos hfits]
    refine ⟨by rw [List.length_append]; exact hfits, ?_⟩
    rw [List.take_left, List.drop_append, Nat.add_sub_cancel_left, List.drop_drop,
      List.length_append, List.drop_of_length_le (Nat.le_add_right _ _), List.nil_append]
  · rw [if_neg hfits]
    show bytes.length < total
    omega

theorem writeField_ensures
    {field : NoticeField}
    (h : (text ++ field.present.toList.flatMap (encodeField 0)).length ≤ total) :
    Ensures (Wrote bytes text) (writeField field)
      (fun _ => Wrote bytes (text ++ field.present.toList.flatMap (encodeField 0)))
      (fun _ => bytes.length < total) := by
  obtain ⟨code, value⟩ := field
  cases value with
  | none =>
      refine .pure fun out hout => ?_
      simpa [NoticeField.present] using hout
  | some value =>
      have hword : text ++ (NoticeField.present ⟨code, some value⟩).toList.flatMap (encodeField 0) =
          text ++ [code] ++ (value.bytes ++ [0]) := by
        simp [NoticeField.present, encodeField]
      rw [hword] at h ⊢
      have hcode : (text ++ [code]).length ≤ total := by
        rw [List.length_append] at h
        omega
      exact (put_ensures hcode).seq (put_ensures h)

theorem writeFields_ensures
    {fields : List NoticeField}
    (h : (text ++ (presentFields fields).flatMap (encodeField 0)).length ≤ total) :
    Ensures (Wrote bytes text) (fields.forM writeField)
      (fun _ => Wrote bytes (text ++ (presentFields fields).flatMap (encodeField 0)))
      (fun _ => bytes.length < total) := by
  induction fields generalizing text with
  | nil =>
      refine .pure fun out hout => ?_
      simpa [presentFields] using hout
  | cons field fields ih =>
      rw [presentFields_cons, List.flatMap_append, ← List.append_assoc] at h ⊢
      have hfield : (text ++ field.present.toList.flatMap (encodeField 0)).length ≤ total := by
        rw [List.length_append] at h
        omega
      exact (writeField_ensures hfield).seq (ih h)

/-- A message of any length word -/
def messageWith (word : Nat) (fields : List NoticeField) : List UInt8 :=
  ['N'.toUInt8] ++ be32 word ++ (presentFields fields).flatMap (encodeField 0) ++ [0]

theorem encodeNotice_eq (fields : List NoticeField) :
    encodeNotice fields = messageWith (messageLength fields - 1) fields := by
  simp [encodeNotice, messageWith, encode]

theorem length_messageWith
    (word : Nat)
    (fields : List NoticeField) :
    (messageWith word fields).length = messageLength fields := by
  rw [← length_encodeNotice, encodeNotice_eq]
  simp [messageWith]

/-- The message is written, or there are too few bytes for it. -/
theorem writeMessage_ensures
    (size : Nat)
    (fields : List NoticeField) :
    Ensures (fun out => out = ⟨bytes, 0⟩) (writeMessage size fields)
      (fun _ => Wrote bytes (messageWith (wrap32 (size + 2 ^ 32 - 1)) fields))
      (fun _ => bytes.length < messageLength fields) := by
  have hlength := length_messageWith (wrap32 (size + 2 ^ 32 - 1)) fields
  simp only [messageWith, List.length_append] at hlength
  have hstart : ∀ out : Output, out = ⟨bytes, 0⟩ → Wrote bytes [] out := by
    rintro out rfl
    exact ⟨Nat.zero_le _, rfl⟩
  refine .imp (.seq (put_ensures ?_) (.seq (put_ensures ?_)
    (.seq (writeFields_ensures ?_) (put_ensures ?_)))) hstart fun _ _ h => h
  all_goals
    simp only [List.nil_append, List.length_append]
    omega

/-! ## The encoder -/

variable {fields : List NoticeField} {capacity : Nat}

theorem writeMessage_some
    (h : messageLength fields ≤ bytes.length)
    (size : Nat) :
    ∃ out, writeMessage size fields ⟨bytes, 0⟩ = (some ⟨⟩, out) ∧
      out.bytes = messageWith (wrap32 (size + 2 ^ 32 - 1)) fields ++
        bytes.drop (messageLength fields) := by
  have hensures := writeMessage_ensures size fields _ (rfl : (⟨bytes, 0⟩ : Output) = _)
  split at hensures
  · rename_i out heq
    obtain ⟨-, rfl⟩ := hensures
    refine ⟨_, heq, ?_⟩
    rw [length_messageWith]
  · omega

theorem writeMessage_none
    (h : bytes.length < messageLength fields)
    (size : Nat) :
    (writeMessage size fields ⟨bytes, 0⟩).1 = none := by
  have hensures := writeMessage_ensures size fields _ (rfl : (⟨bytes, 0⟩ : Output) = _)
  split at hensures
  · obtain ⟨hle, -⟩ := hensures
    rw [length_messageWith] at hle
    omega
  · rename_i heq
    rw [heq]

theorem writeNoticeResponsePacket_declines
    (h : capacity < noticeResponsePacketSize fields) :
    writeNoticeResponsePacket capacity fields (some bytes) = (some 0, some bytes) := by
  rw [writeNoticeResponsePacket]
  exact if_pos h

theorem writeNoticeResponsePacket_writes
    (hlength : messageLength fields < 2 ^ 32)
    (hinside : capacity ≤ bytes.length)
    (hroom : messageLength fields ≤ capacity) :
    writeNoticeResponsePacket capacity fields (some bytes) =
      (some (messageLength fields),
        some (encodeNotice fields ++ bytes.drop (messageLength fields))) := by
  have hsize := noticeResponsePacketSize_of_lt hlength
  have hword : wrap32 (messageLength fields + 2 ^ 32 - 1) = messageLength fields - 1 := by
    have hpos : 6 ≤ messageLength fields := Nat.le_add_right 6 _
    unfold wrap32
    omega
  obtain ⟨out, hrun, hbytes⟩ :=
    writeMessage_some (hroom.trans hinside) (messageLength fields)
  rw [hword, ← encodeNotice_eq] at hbytes
  rw [writeNoticeResponsePacket]
  simp only [hsize, if_neg (Nat.not_lt.mpr hroom), hrun, hbytes]

/-- Where the size wraps, the bytes that it asks for are too few. -/
theorem writeNoticeResponsePacket_overruns
    (hlength : 2 ^ 32 ≤ messageLength fields)
    (hbytes : bytes.length = noticeResponsePacketSize fields) :
    (writeNoticeResponsePacket bytes.length fields (some bytes)).1 = none := by
  have hshort : bytes.length < messageLength fields := by
    rw [hbytes, noticeResponsePacketSize_eq]
    exact lt_of_lt_of_le (Nat.mod_lt _ (by decide)) hlength
  have hnone := writeMessage_none hshort (noticeResponsePacketSize fields)
  rw [writeNoticeResponsePacket]
  simp only [hbytes, lt_irrefl, if_false]
  split
  · rename_i heq
    rw [heq] at hnone
    cases hnone
  · rfl

/-- A message is read as its present fields when their codes are no end of a list. -/
theorem decodeNotice_encodeNotice
    (hlength : messageLength fields < 2 ^ 32) :
    decodeNotice (encodeNotice fields) = some (presentFields fields) ↔
      ∀ field ∈ fields, field.value.isSome → field.code ≠ 0 := by
  have hbody : messageLength fields - 1 = (encode 0 (presentFields fields)).length + 4 := by
    rw [length_encode, messageLength]
    omega
  have hword := (be32_eq_iff.mpr ⟨lt_of_le_of_lt (Nat.sub_le _ 1) hlength, rfl⟩ :
    _ = messageLength fields - 1)
  have hdecode : decodeNotice (encodeNotice fields) = decode 0 (encode 0 (presentFields fields)) :=
    if_pos ⟨rfl, hword.trans hbody⟩
  rw [hdecode, decode_eq_some_iff]
  constructor
  · rintro ⟨-, hseparated⟩ field hfield hsome
    obtain ⟨value, hvalue⟩ := Option.isSome_iff_exists.mp hsome
    have hpresent : (field.code, value.bytes) ∈ presentFields fields :=
      List.mem_filterMap.mpr ⟨field, hfield, by rw [NoticeField.present, hvalue]; rfl⟩
    exact (hseparated _ hpresent).1
  · intro hcodes
    refine ⟨rfl, ?_⟩
    intro present hpresent
    obtain ⟨field, hfield, heq⟩ := List.mem_filterMap.mp hpresent
    obtain ⟨value, hvalue, rfl⟩ := Option.map_eq_some_iff.mp heq
    exact ⟨hcodes field hfield (by rw [hvalue]; rfl), value.noNul⟩

/-- The length word of a message counts the bytes behind its type byte. -/
theorem lengthWord_encodeNotice (fields : List NoticeField) :
    ((encodeNotice fields).drop 1).take 4 = be32 ((encodeNotice fields).drop 1).length := by
  have hlength : ((encodeNotice fields).drop 1).length = messageLength fields - 1 := by
    rw [List.length_drop, length_encodeNotice]
  rw [hlength]
  exact List.take_left' (length_be32 _)

/-- A message that is encoded is counted by 32 bits, as a buffer of the predicted size holds
it. -/
theorem EncodesNotice.length_lt
    (h : EncodesNotice fields) :
    messageLength fields < 2 ^ 32 := by
  by_contra hwraps
  have hbytes : (List.replicate (noticeResponsePacketSize fields) (0 : UInt8)).length =
      noticeResponsePacketSize fields := List.length_replicate
  have hnone := writeNoticeResponsePacket_overruns (Nat.not_lt.mp hwraps) hbytes
  have hcapacity := noticeResponsePacketSize_lt fields
  rw [← hbytes] at hcapacity
  obtain ⟨message, hwrites, -⟩ := h.writes _ _ (le_refl _) hcapacity (le_of_eq hbytes.symm)
  rw [hwrites] at hnone
  cases hnone

theorem EncodesNotice.code_ne_zero
    (h : EncodesNotice fields) :
    ∀ field ∈ fields, field.value.isSome → field.code ≠ 0 := by
  have hlength := h.length_lt
  have hsize := noticeResponsePacketSize_of_lt hlength
  have hbytes : (List.replicate (messageLength fields) (0 : UInt8)).length =
      messageLength fields := List.length_replicate
  obtain ⟨message, hwrites, -, -, hdecode⟩ :=
    h.writes _ _ (le_of_eq hbytes.symm) hlength (le_of_eq hsize)
  rw [writeNoticeResponsePacket_writes hlength (le_of_eq hbytes.symm) (le_refl _), hsize,
    List.drop_of_length_le (le_of_eq hbytes), List.append_nil, List.append_nil] at hwrites
  obtain rfl := Option.some.inj (Prod.mk.inj hwrites).2
  exact (decodeNotice_encodeNotice hlength).mp hdecode

theorem encodesNotice_of_lt
    (hcodes : ∀ field ∈ fields, field.value.isSome → field.code ≠ 0)
    (hlength : messageLength fields < 2 ^ 32) :
    EncodesNotice fields where
  writes bytes capacity hinside _ hroom := by
    rw [noticeResponsePacketSize_of_lt hlength] at hroom ⊢
    exact ⟨encodeNotice fields, writeNoticeResponsePacket_writes hlength hinside hroom,
      length_encodeNotice fields, lengthWord_encodeNotice fields,
      (decodeNotice_encodeNotice hlength).mpr hcodes⟩
  declines _ _ h := writeNoticeResponsePacket_declines h
  declinesNull _ := rfl

/-- The encoder encodes the fields exactly when the codes of the present ones are not zero and 32
bits count the bytes of the message. -/
theorem encodesNotice_iff (fields : List NoticeField) :
    EncodesNotice fields ↔
      (∀ field ∈ fields, field.value.isSome → field.code ≠ 0) ∧ messageLength fields < 2 ^ 32 := by
  constructor
  · intro h
    exact ⟨h.code_ne_zero, h.length_lt⟩
  · rintro ⟨hcodes, hlength⟩
    exact encodesNotice_of_lt hcodes hlength

/-- A notice of a primary message, and nothing else -/
def primaryNotice (primary : Text) : List NoticeField :=
  noticeFields none none (some primary) none none

theorem messageLength_primaryNotice (primary : Text) :
    messageLength (primaryNotice primary) = primary.bytes.length + 8 := by
  have hsum : messageLength (primaryNotice primary) = 6 + (primary.bytes.length + 2 + 0) := rfl
  rw [hsum]
  omega

/-- A primary message of 2^32 - 2 characters: the size wraps to 6, a buffer of 6 bytes is taken to
have room, and the message is written past its end. -/
theorem primaryNotice_overruns
    {primary : Text}
    (hprimary : primary.bytes.length = 2 ^ 32 - 2) :
    noticeResponsePacketSize (primaryNotice primary) = 6 ∧
      (writeNoticeResponsePacket 6 (primaryNotice primary) (some (List.replicate 6 0))).1 = none ∧
      ¬ EncodesNotice (primaryNotice primary) := by
  have hlength : messageLength (primaryNotice primary) = 2 ^ 32 + 6 := by
    rw [messageLength_primaryNotice]
    omega
  have hsize : noticeResponsePacketSize (primaryNotice primary) = 6 := by
    rw [noticeResponsePacketSize_eq, hlength]
    rfl
  refine ⟨hsize, ?_, ?_⟩
  · have hbytes : (List.replicate 6 (0 : UInt8)).length = 6 := rfl
    have hnone := writeNoticeResponsePacket_overruns (by rw [hlength]; omega)
      (hbytes.trans hsize.symm)
    rwa [hbytes] at hnone
  · intro h
    have hlt := h.length_lt
    omega

def letters (n : Nat) : Text where
  bytes := List.replicate n 97
  noNul h := absurd (List.eq_of_mem_replicate h) (by decide)

theorem longNotice_overruns :
    noticeResponsePacketSize (primaryNotice (letters (2 ^ 32 - 2))) = 6 ∧
      (writeNoticeResponsePacket 6 (primaryNotice (letters (2 ^ 32 - 2)))
        (some (List.replicate 6 0))).1 = none ∧
      ¬ EncodesNotice (primaryNotice (letters (2 ^ 32 - 2))) := by
  have hletters : ∀ n : Nat, (letters n).bytes.length = n := fun n => List.length_replicate
  exact primaryNotice_overruns (hletters (2 ^ 32 - 2))

/-! ## Notices of a session -/

/-- The fields of a result that `PQresultErrorField` gives -/
inductive Diag
  | severity
  | severityNonlocalized
  | sqlstate
  | messagePrimary
  | messageDetail
  | messageHint
  | statementPosition
  | internalPosition
  | internalQuery
  | context
  | schemaName
  | tableName
  | columnName
  | datatypeName
  | constraintName
  | sourceFile
  | sourceLine
  | sourceFunction
  deriving DecidableEq

/-- The codes of the fields of a result, in the order in which they are sent -/
def resultCodes : List (Char × Diag) :=
  [('S', .severity), ('V', .severityNonlocalized), ('C', .sqlstate), ('M', .messagePrimary),
    ('D', .messageDetail), ('H', .messageHint), ('P', .statementPosition),
    ('p', .internalPosition), ('q', .internalQuery), ('W', .context), ('s', .schemaName),
    ('t', .tableName), ('c', .columnName), ('d', .datatypeName), ('n', .constraintName),
    ('F', .sourceFile), ('L', .sourceLine), ('R', .sourceFunction)]

/-- The fields of the notice of a backend -/
def resultFields (errorField : Diag → Option Text) : List NoticeField :=
  resultCodes.map fun entry => ⟨entry.1.toUInt8, errorField entry.2⟩

theorem noticeFields_code_ne_zero
    (severity sqlstate primary detail severityNonlocalized : Option Text) :
    ∀ field ∈ noticeFields severity sqlstate primary detail severityNonlocalized,
      field.code ≠ 0 := by
  intro field hfield
  simp only [noticeFields, List.mem_cons, List.not_mem_nil, or_false] at hfield
  rcases hfield with rfl | rfl | rfl | rfl | rfl
  all_goals
    change Char.toUInt8 _ ≠ 0
    decide

theorem resultFields_code_ne_zero
    (errorField : Diag → Option Text) :
    ∀ field ∈ resultFields errorField, field.code ≠ 0 := by
  have hcodes : ∀ entry ∈ resultCodes, entry.1.toUInt8 ≠ 0 := by
    decide
  intro field hfield
  obtain ⟨entry, hentry, rfl⟩ := List.mem_map.mp hfield
  exact hcodes entry hentry

/-- `polardb_enqueue_notice_packet`; the state is the queue of pending packets. -/
def enqueueNoticePacket (alloc : Nat → Option (List UInt8)) (fields : List NoticeField) :
    Attempt (List (List UInt8)) Nat := fun pending =>
  let size := noticeResponsePacketSize fields
  match writeNoticeResponsePacket size fields (alloc size) with
  | (none, _) => (none, pending)
  | (some 0, _) => (some 0, pending)
  | (some written, pkt) => (some written, pending ++ pkt.toList)

/-- A notice is queued as its message, unless there is no memory for it. -/
theorem enqueueNoticePacket_eq
    {alloc : Nat → Option (List UInt8)}
    (halloc : ∀ size bytes, alloc size = some bytes → bytes.length = size)
    (hlength : messageLength fields < 2 ^ 32)
    (pending : List (List UInt8)) :
    enqueueNoticePacket alloc fields pending =
      match alloc (messageLength fields) with
      | none => (some 0, pending)
      | some _ => (some (messageLength fields), pending ++ [encodeNotice fields]) := by
  rw [enqueueNoticePacket]
  simp only [noticeResponsePacketSize_of_lt hlength]
  cases hmemory : alloc (messageLength fields) with
  | none =>
      rfl
  | some bytes =>
      have hbytes := halloc _ _ hmemory
      rw [writeNoticeResponsePacket_writes hlength (le_of_eq hbytes.symm) (le_refl _),
        List.drop_of_length_le (le_of_eq hbytes), List.append_nil]
      split
      · cases ‹_›
      · rename_i heq
        have hzero : messageLength fields = 0 := Option.some.inj (Prod.mk.inj heq).1
        have hpos : 6 ≤ messageLength fields := Nat.le_add_right 6 _
        omega
      · rename_i heq
        obtain ⟨hwritten, rfl⟩ := Prod.mk.inj heq
        obtain rfl := Option.some.inj hwritten
        rfl

/-- The notices of a session: the queue, and what the client's output has taken over -/
structure Notices where
  pending : List (List UInt8) := []
  client : List (List UInt8) := []
  deriving DecidableEq

inductive NoticeOp
  /-- `polardb_enqueue_notice_packet`, with the memory there is at that time -/
  | enqueue (alloc : Nat → Option (List UInt8)) (fields : List NoticeField)
  /-- `polardb_flush_pending_notices_to_client`, with or without a client and its output -/
  | flush (client : Bool)
  /-- `discard_pending_notices` -/
  | discard

/-- The message of a notice that is queued -/
def NoticeOp.message : NoticeOp → Option (List UInt8)
  | .enqueue _ fields => some (encodeNotice fields)
  | .flush _ | .discard => none

/-- The allocator returns as many bytes as it was asked for, and 32 bits hold the length of the
message. -/
def NoticeOp.Fits : NoticeOp → Prop
  | .enqueue alloc fields =>
      (∀ size bytes, alloc size = some bytes → bytes.length = size) ∧
        messageLength fields < 2 ^ 32
  | .flush _ | .discard => True

/-- A step of the session; `none`: a packet was written past its end. -/
def Notices.step (notices : Notices) :
    NoticeOp → Option Notices
  | .enqueue alloc fields =>
      match enqueueNoticePacket alloc fields notices.pending with
      | (none, _) => none
      | (some _, pending) => some { notices with pending := pending }
  | .flush client =>
      if client = false then some notices
      else some { pending := [], client := notices.client ++ notices.pending }
  | .discard => some { notices with pending := [] }

theorem Notices.step_sublist
    {op : NoticeOp}
    (hop : op.Fits)
    (notices : Notices) :
    ∃ next, notices.step op = some next ∧
      (next.client ++ next.pending).Sublist
        (notices.client ++ notices.pending ++ op.message.toList) := by
  cases op with
  | enqueue alloc fields =>
      obtain ⟨halloc, hlength⟩ := hop
      rw [Notices.step, enqueueNoticePacket_eq halloc hlength]
      cases alloc (messageLength fields) with
      | none =>
          exact ⟨notices, rfl, List.sublist_append_left _ _⟩
      | some bytes =>
          refine ⟨_, rfl, ?_⟩
          rw [← List.append_assoc]
          exact List.Sublist.refl _
  | flush client =>
      simp only [NoticeOp.message, Option.toList_none, List.append_nil]
      cases client with
      | false =>
          exact ⟨notices, rfl, List.Sublist.refl _⟩
      | true =>
          refine ⟨_, rfl, ?_⟩
          rw [List.append_nil]
  | discard =>
      refine ⟨_, rfl, ?_⟩
      simp only [NoticeOp.message, Option.toList_none, List.append_nil]
      exact List.sublist_append_left _ _

/-- The client is sent the messages of the notices that were queued, each once at most and in
their order. -/
theorem Notices.run_sublist
    {ops : List NoticeOp}
    (hops : ∀ op ∈ ops, op.Fits)
    (notices : Notices) :
    ∃ last, ops.foldlM Notices.step notices = some last ∧
      (last.client ++ last.pending).Sublist
        (notices.client ++ notices.pending ++ ops.filterMap NoticeOp.message) := by
  induction ops generalizing notices with
  | nil =>
      exact ⟨notices, rfl, by rw [List.filterMap_nil, List.append_nil]⟩
  | cons op ops ih =>
      obtain ⟨next, hstep, hnext⟩ := notices.step_sublist (hops op List.mem_cons_self)
      obtain ⟨last, hrun, hlast⟩ := ih (fun op h => hops op (List.mem_cons_of_mem _ h)) next
      refine ⟨last, ?_, hlast.trans ?_⟩
      · rw [List.foldlM_cons, hstep]
        exact hrun
      · have hmessages : (op :: ops).filterMap NoticeOp.message =
            op.message.toList ++ ops.filterMap NoticeOp.message := by
          cases h : op.message <;> simp [h]
        rw [hmessages, ← List.append_assoc]
        exact hnext.append_right _

/-- Of two notices before a flush one finds no memory; a flush without a client keeps the other; one
more is queued and discarded. -/
theorem Notices.run_sublist_flushed :
    ∃ last, [NoticeOp.enqueue (fun size => some (List.replicate size 0)) (primaryNotice (letters 1)),
        .enqueue (fun _ => none) (primaryNotice (letters 2)), .flush false, .flush true,
        .enqueue (fun size => some (List.replicate size 0)) (primaryNotice (letters 2)),
        .discard].foldlM Notices.step {} = some last ∧
      (last.client ++ last.pending).Sublist
        ([] ++ [] ++
          [NoticeOp.enqueue (fun size => some (List.replicate size 0)) (primaryNotice (letters 1)),
            .enqueue (fun _ => none) (primaryNotice (letters 2)), .flush false, .flush true,
            .enqueue (fun size => some (List.replicate size 0)) (primaryNotice (letters 2)),
            .discard].filterMap NoticeOp.message) := by
  refine Notices.run_sublist (fun op h => ?_) {}
  have hshort : ∀ n < 9, messageLength (primaryNotice (letters n)) < 2 ^ 32 := fun n h => by
    rw [messageLength_primaryNotice, letters, List.length_replicate]
    omega
  have hmemory : ∀ size bytes, some (List.replicate size (0 : UInt8)) = some bytes →
      bytes.length = size := fun size bytes h => by
    rw [← Option.some.inj h, List.length_replicate]
  simp only [List.mem_cons, List.not_mem_nil, or_false] at h
  obtain rfl | rfl | rfl | rfl | rfl | rfl := h
  · exact ⟨hmemory, hshort 1 (by decide)⟩
  · exact ⟨fun size bytes h => (Option.some_ne_none bytes h.symm).elim, hshort 2 (by decide)⟩
  · trivial
  · trivial
  · exact ⟨hmemory, hshort 2 (by decide)⟩
  · trivial

end NoticeResponse

end PolarProxy
