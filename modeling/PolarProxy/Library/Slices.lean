import Mathlib.Data.List.Basic
import Mathlib.Data.List.TakeWhile
import Mathlib.Tactic.Common

/-!
# Words in a buffer

A format is read from a buffer at offsets.  `At p o xs` says that the word `xs` stands in
the buffer `p` at the offset `o`.  Words that follow one another are one word, and a word of
a given length is determined by its place; a reader that finds the fields of a message one
after the other up to the end has found the encoding of the message.

**Rules.**
* `at_append`: words that follow one another.
* `At.eq`: a word is determined by its place and its length.
* `at_all`: the word that is the whole buffer.
* `at_ended_iff`: words that end with the first symbol of a kind.
* `exists_blocks`: a word of blocks of one length.
-/

namespace Slices

universe u v

variable {β : Type u} {p : List β} {o : Nat}

/-- The word `xs` stands in `p` at `o`. -/
def At (p : List β) (o : Nat) (xs : List β) : Prop :=
  ∃ pre post, p = pre ++ xs ++ post ∧ pre.length = o

theorem At.le
    {xs : List β}
    (h : At p o xs) :
    o + xs.length ≤ p.length := by
  obtain ⟨pre, post, rfl, rfl⟩ := h
  simp only [List.length_append]
  omega

theorem at_iff {xs : List β} :
    At p o xs ↔ o ≤ p.length ∧ xs <+: p.drop o := by
  constructor
  · rintro ⟨pre, post, rfl, rfl⟩
    refine ⟨by simp only [List.length_append]; omega, post, ?_⟩
    rw [List.append_assoc, List.drop_left]
  · rintro ⟨hle, post, hpost⟩
    refine ⟨p.take o, post, ?_, List.length_take_of_le hle⟩
    rw [List.append_assoc, hpost, List.take_append_drop]

theorem at_nil : At p o [] ↔ o ≤ p.length := by
  simp [at_iff]

/-- A word in the first `n` symbols -/
theorem at_take
    {n : Nat} (xs : List β) (o : Nat)
    (hn : n ≤ p.length) :
    At (p.take n) o xs ↔ At p o xs ∧ o + xs.length ≤ n := by
  rw [at_iff, at_iff, List.length_take_of_le hn, List.drop_take]
  constructor
  · rintro ⟨hle, hpre⟩
    have hlen := hpre.length_le
    rw [List.length_take, List.length_drop] at hlen
    exact ⟨⟨by omega, hpre.trans (List.take_prefix _ _)⟩, by omega⟩
  · rintro ⟨⟨hle, hpre⟩, hlen⟩
    refine ⟨by omega, ?_⟩
    rw [List.prefix_iff_eq_take.mp hpre]
    exact List.take_prefix_take_left (by omega)

theorem at_append {xs ys : List β} :
    At p o (xs ++ ys) ↔ At p o xs ∧ At p (o + xs.length) ys := by
  constructor
  · rintro ⟨pre, post, rfl, rfl⟩
    exact ⟨⟨pre, ys ++ post, by simp, rfl⟩, ⟨pre ++ xs, post, by simp, by simp⟩⟩
  · rintro ⟨⟨pre, post, rfl, rfl⟩, hys⟩
    obtain ⟨-, post', hpost'⟩ := at_iff.mp hys
    have hpost : ys ++ post' = post := by
      rw [hpost', ← List.length_append, List.drop_left]
    exact ⟨pre, post', by simp [← hpost], rfl⟩

theorem At.eq
    {xs ys : List β}
    (h : At p o xs)
    (h' : At p o ys)
    (hlen : xs.length = ys.length) :
    xs = ys := by
  obtain ⟨-, hxs⟩ := at_iff.mp h
  obtain ⟨-, hys⟩ := at_iff.mp h'
  rw [List.prefix_iff_eq_take.mp hxs, List.prefix_iff_eq_take.mp hys, hlen]

theorem at_singleton {b : β} : At p o [b] ↔ p[o]? = some b := by
  constructor
  · rintro ⟨pre, post, rfl, rfl⟩
    simp
  · intro h
    obtain ⟨hlt, rfl⟩ := List.getElem?_eq_some_iff.mp h
    refine ⟨p.take o, p.drop (o + 1), ?_, List.length_take_of_le (Nat.le_of_lt hlt)⟩
    simp

theorem at_cons {b : β} {xs : List β} :
    At p o (b :: xs) ↔ p[o]? = some b ∧ At p (o + 1) xs := by
  rw [← List.singleton_append, at_append, at_singleton]
  rfl

theorem exists_at
    {n : Nat}
    (h : o + n ≤ p.length) :
    ∃ xs, xs.length = n ∧ At p o xs := by
  refine ⟨(p.drop o).take n, ?_, at_iff.mpr ⟨by omega, List.take_prefix _ _⟩⟩
  rw [List.length_take, List.length_drop]
  omega

theorem at_all {xs : List β} :
    At p 0 xs ∧ xs.length = p.length ↔ p = xs := by
  constructor
  · rintro ⟨h, hlen⟩
    exact (h.eq ⟨[], [], by simp, rfl⟩ hlen).symm
  · rintro rfl
    exact ⟨⟨[], [], by simp, rfl⟩, rfl⟩

/-! ## Words that end with the first symbol of a kind -/

section Ended

variable [DecidableEq β] (z : β)

/-- The length of the word before the first `z`. -/
def endedLength (xs : List β) : Nat :=
  (xs.takeWhile fun b => b ≠ z).length

/-- A word without `z` that `z` ends. -/
theorem at_ended_iff
    (ho : o ≤ p.length)
    {n : Nat} :
    (∃ t, t.length = n ∧ z ∉ t ∧ At p o (t ++ [z])) ↔
      o + n < p.length ∧ endedLength z (p.drop o) = n := by
  have hlen : (p.drop o).length = p.length - o := List.length_drop
  constructor
  · rintro ⟨t, rfl, ht, hat⟩
    have hle := hat.le
    rw [List.length_append, List.length_singleton] at hle
    obtain ⟨-, post, hpost⟩ := at_iff.mp hat
    refine ⟨by omega, ?_⟩
    have hall : ∀ b ∈ t, (decide (b ≠ z)) = true := by
      intro b hb
      exact decide_eq_true (fun heq => ht (heq ▸ hb))
    rw [endedLength, ← hpost, List.append_assoc, List.takeWhile_append_of_pos hall,
      List.singleton_append, List.takeWhile_cons_of_neg (by simp), List.append_nil]
  · rintro ⟨hlt, rfl⟩
    set t := (p.drop o).takeWhile fun b => b ≠ z with ht
    have hsplit : t ++ (p.drop o).dropWhile (fun b => b ≠ z) = p.drop o :=
      List.takeWhile_append_dropWhile
    cases hrest : (p.drop o).dropWhile fun b => b ≠ z with
    | nil =>
        rw [hrest, List.append_nil] at hsplit
        rw [endedLength, ← ht, hsplit, hlen] at hlt
        omega
    | cons b rest =>
        have hb : b = z := by
          have hhead := List.head?_dropWhile_not (fun b => decide (b ≠ z)) (p.drop o)
          rw [hrest] at hhead
          simpa using hhead
        subst hb
        refine ⟨t, rfl, ?_, at_iff.mpr ⟨ho, rest, ?_⟩⟩
        · intro hmem
          simpa using List.mem_takeWhile_imp hmem
        · rw [List.append_assoc, List.singleton_append, ← hrest, hsplit]

end Ended

/-! ## Words of blocks of one length -/

/-- A word of `n` blocks of length `w`, where every block encodes something. -/
theorem exists_blocks
    {α : Type v} {encode : α → List β} {w : Nat}
    (hsurj : ∀ xs : List β, xs.length = w → ∃ a, encode a = xs)
    (n : Nat) {xs : List β}
    (hlen : xs.length = n * w) :
    ∃ l : List α, l.length = n ∧ l.flatMap encode = xs := by
  induction n generalizing xs with
  | zero =>
      rw [Nat.zero_mul, List.length_eq_zero_iff] at hlen
      exact ⟨[], rfl, by rw [hlen]; rfl⟩
  | succ n ih =>
      rw [Nat.succ_mul] at hlen
      obtain ⟨a, ha⟩ := hsurj (xs.take w) (List.length_take_of_le (by omega))
      obtain ⟨l, hl, hflat⟩ := @ih (xs.drop w) (by rw [List.length_drop]; omega)
      refine ⟨a :: l, by rw [List.length_cons, hl], ?_⟩
      rw [List.flatMap_cons, ha, hflat, List.take_append_drop]

theorem length_blocks
    {α : Type v} {encode : α → List β} {w : Nat}
    (hw : ∀ a, (encode a).length = w)
    (l : List α) :
    (l.flatMap encode).length = l.length * w := by
  induction l with
  | nil =>
      simp
  | cons a l ih =>
      rw [List.flatMap_cons, List.length_append, ih, hw, List.length_cons, Nat.succ_mul]
      omega

end Slices
