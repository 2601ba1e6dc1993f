import Mathlib.Algebra.GroupWithZero.Nat
import Mathlib.Data.List.Basic
import Mathlib.Tactic.Common

/-!
# Tagged fields

A list of fields is written as one word: a field is a tag, a value and a mark, and a mark in the
place of a tag ends the list.  A word is read from the left, one symbol after the other; it is
the word of the fields it is read as, and every list of fields is read back whose tags are no
marks and whose values do not contain the mark.

**Rules.**
* `decode_eq_some_iff`: the words that are read, and what they are read as.
* `length_encode`: how long a word is.
-/

namespace TaggedFields

universe u

variable {β : Type u}

/-- A tag and a value -/
abbrev Tagged (β : Type u) : Type u :=
  β × List β

def encodeField (mark : β) (field : Tagged β) : List β :=
  field.1 :: (field.2 ++ [mark])

/-- The word of a list of fields -/
def encode (mark : β) (fields : List (Tagged β)) : List β :=
  fields.flatMap (encodeField mark) ++ [mark]

/-- Fields that can be told from the word of their list -/
def Separated (mark : β) (fields : List (Tagged β)) : Prop :=
  ∀ field ∈ fields, field.1 ≠ mark ∧ mark ∉ field.2

theorem encode_nil (mark : β) :
    encode mark [] = [mark] :=
  rfl

theorem encode_cons
    (mark : β)
    (field : Tagged β)
    (fields : List (Tagged β)) :
    encode mark (field :: fields) = field.1 :: (field.2 ++ mark :: encode mark fields) := by
  simp [encode, encodeField]

theorem length_encode
    (mark : β)
    (fields : List (Tagged β)) :
    (encode mark fields).length = (fields.map fun field => field.2.length + 2).sum + 1 := by
  induction fields with
  | nil =>
      rfl
  | cons field fields ih =>
      rw [encode_cons, List.length_cons, List.length_append, List.length_cons, ih, List.map_cons,
        List.sum_cons]
      omega

section Decode

variable [DecidableEq β] (mark : β)

/-- The reader of a list, which may have read a part of a field -/
def decodeFrom : Option (Tagged β) → List β → Option (List (Tagged β))
  | _, [] => none
  | none, b :: rest =>
      if b = mark then
        if rest.isEmpty then some [] else none
      else decodeFrom (some (b, [])) rest
  | some (tag, value), b :: rest =>
      if b = mark then (decodeFrom none rest).map fun fields => (tag, value) :: fields
      else decodeFrom (some (tag, value ++ [b])) rest

/-- The fields of a word -/
def decode (word : List β) : Option (List (Tagged β)) :=
  decodeFrom mark none word

variable {mark}

theorem decodeFrom_value
    {tag : β} {value rest : List β}
    (hvalue : mark ∉ value)
    (before : List β) :
    decodeFrom mark (some (tag, before)) (value ++ mark :: rest) =
      (decode mark rest).map fun fields => (tag, before ++ value) :: fields := by
  induction value generalizing before with
  | nil =>
      rw [List.nil_append, decodeFrom, if_pos rfl, List.append_nil]
      rfl
  | cons b value ih =>
      obtain ⟨hb, hvalue⟩ := not_or.mp (fun h => hvalue (List.mem_cons.mpr h))
      rw [List.cons_append, decodeFrom, if_neg (Ne.symm hb), ih hvalue, List.append_assoc,
        List.singleton_append]

theorem decode_encode
    {fields : List (Tagged β)}
    (h : Separated mark fields) :
    decode mark (encode mark fields) = some fields := by
  induction fields with
  | nil =>
      rw [encode_nil, decode, decodeFrom, if_pos rfl]
      rfl
  | cons field fields ih =>
      obtain ⟨htag, hvalue⟩ := h field List.mem_cons_self
      have hrest := ih fun f hf => h f (List.mem_cons_of_mem field hf)
      rw [encode_cons, decode, decodeFrom, if_neg htag, decodeFrom_value hvalue, hrest]
      rfl

/-- What a reader has read: the rest of the field it has begun, and a list of fields -/
theorem of_decodeFrom
    {begun : Option (Tagged β)} {word : List β} {fields : List (Tagged β)}
    (h : decodeFrom mark begun word = some fields) :
    match begun with
    | none => word = encode mark fields ∧ Separated mark fields
    | some (tag, before) => ∃ value rest, fields = (tag, before ++ value) :: rest ∧
        word = value ++ mark :: encode mark rest ∧ mark ∉ value ∧ Separated mark rest := by
  induction word generalizing begun fields with
  | nil =>
      cases begun <;> simp [decodeFrom] at h
  | cons b word ih =>
      cases begun with
      | none =>
          rw [decodeFrom] at h
          split at h
          · rename_i hb
            split at h
            · rename_i hempty
              obtain rfl := Option.some.inj h
              obtain rfl := List.isEmpty_iff.mp hempty
              exact ⟨by rw [hb, encode_nil], by simp [Separated]⟩
            · cases h
          · rename_i hb
            obtain ⟨value, rest, rfl, rfl, hvalue, hrest⟩ := ih h
            refine ⟨by rw [encode_cons, List.nil_append], ?_⟩
            intro field hfield
            rcases List.mem_cons.mp hfield with rfl | hfield
            · exact ⟨hb, by simpa using hvalue⟩
            · exact hrest field hfield
      | some begun =>
          obtain ⟨tag, before⟩ := begun
          rw [decodeFrom] at h
          split at h
          · rename_i hb
            obtain ⟨rest, hword, rfl⟩ := Option.map_eq_some_iff.mp h
            obtain ⟨rfl, hrest⟩ := ih hword
            exact ⟨[], rest, by rw [List.append_nil], by rw [hb, List.nil_append], by simp, hrest⟩
          · rename_i hb
            obtain ⟨value, rest, rfl, rfl, hvalue, hrest⟩ := ih h
            refine ⟨b :: value, rest, by simp, by simp, ?_, hrest⟩
            intro hmem
            rcases List.mem_cons.mp hmem with hmark | hmem
            · exact hb hmark.symm
            · exact hvalue hmem

theorem decode_eq_some_iff
    {word : List β} {fields : List (Tagged β)} :
    decode mark word = some fields ↔ word = encode mark fields ∧ Separated mark fields := by
  constructor
  · intro h
    exact of_decodeFrom h
  · rintro ⟨rfl, hfields⟩
    exact decode_encode hfields

end Decode

end TaggedFields
