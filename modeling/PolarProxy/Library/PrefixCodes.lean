import Mathlib.Data.List.Basic
import Mathlib.Tactic.Common

/-!
# Prefix codes

A code writes values as words.  When a text tells which word stands at its start, and so where
that word ends, values can be written one after the other: the words of the fields of a record
in a row tell the fields apart, whatever follows them.

**Rules.**
* `IsPrefixCode.of_length`: words of one length.
* `IsPrefixCode.comp`: values that an injective function maps to values with a code.
* `IsPrefixCode.counted`: a text behind the word of its length.
* `IsPrefixCode.injective`: a word on its own.
-/

namespace PrefixCodes

universe u v w

variable {α : Type u} {γ : Type v} {β : Type w}

/-- The text that starts with a word determines its value and what follows. -/
def IsPrefixCode (encode : α → List β) : Prop :=
  ∀ ⦃a b x y⦄, encode a ++ x = encode b ++ y → a = b ∧ x = y

namespace IsPrefixCode

theorem of_length
    {encode : α → List β} {width : Nat}
    (hlen : ∀ a, (encode a).length = width)
    (hinj : Function.Injective encode) :
    IsPrefixCode encode := by
  intro a b x y h
  have hwidth : (encode a).length = (encode b).length := by
    rw [hlen, hlen]
  obtain ⟨hword, hrest⟩ := List.append_inj h hwidth
  exact ⟨hinj hword, hrest⟩

/-- Values that are written through a code of other values -/
theorem comp
    {encode : α → List β}
    (h : IsPrefixCode encode)
    {f : γ → α}
    (hf : Function.Injective f) :
    IsPrefixCode fun c => encode (f c) := by
  intro c d x y heq
  obtain ⟨hvalue, hrest⟩ := h heq
  exact ⟨hf hvalue, hrest⟩

theorem counted
    {limit : Nat} {count : Nat → List β}
    (h : IsPrefixCode fun n : Fin limit => count n) :
    IsPrefixCode fun text : { xs : List β // xs.length < limit } =>
      count text.1.length ++ text.1 := by
  rintro ⟨xs, hxs⟩ ⟨ys, hys⟩ x y heq
  simp only [List.append_assoc] at heq
  obtain ⟨hcount, htexts⟩ := @h ⟨xs.length, hxs⟩ ⟨ys.length, hys⟩ _ _ heq
  have hlen : xs.length = ys.length := congrArg Fin.val hcount
  obtain ⟨htext, hrest⟩ := List.append_inj htexts hlen
  exact ⟨Subtype.ext htext, hrest⟩

theorem injective
    {encode : α → List β}
    (h : IsPrefixCode encode) :
    Function.Injective encode := by
  intro a b heq
  have happend : encode a ++ [] = encode b ++ [] := by
    rw [heq]
  exact (h happend).1

end IsPrefixCode

end PrefixCodes
