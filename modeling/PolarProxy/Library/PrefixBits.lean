import Mathlib.Data.List.Basic
import Mathlib.Tactic.Common

/-!
# The first bits of bytes

A row of bytes is a row of bits, the highest bit of a byte first.  Two rows agree on their first
bits if their whole bytes are equal up to there, and the next bytes agree under a mask.

**Rules.**
* `bitAt_bytes`: the bits of a word are those of its bytes.
* `byte_mask_iff`: bytes that agree under a mask.
* `agree_iff`: whole bytes and the rest.
* `Agree.trans`, `Agree.symm`: agreement as an equivalence.
-/

namespace PrefixBits

/-- The bit of a row of bytes at a place -/
def bitAt (xs : List (BitVec 8)) (j : Nat) : Bool :=
  (xs.getD (j / 8) 0).getMsbD (j % 8)

/-- The bytes of a word, the highest first -/
def bytes {w : Nat} (x : BitVec w) : List (BitVec 8) :=
  (List.range (w / 8)).map fun i => x.extractLsb' (w - 8 * (i + 1)) 8

/-- The rows have the same first bits. -/
def Agree (n : Nat) (xs ys : List (BitVec 8)) : Prop :=
  ∀ j < n, bitAt xs j = bitAt ys j

variable {xs ys zs : List (BitVec 8)} {n : Nat}

theorem Agree.symm (h : Agree n xs ys) : Agree n ys xs :=
  fun j hj => (h j hj).symm

theorem Agree.trans
    (h : Agree n xs ys)
    (h' : Agree n ys zs) :
    Agree n xs zs :=
  fun j hj => (h j hj).trans (h' j hj)

@[simp]
theorem length_bytes {w : Nat} (x : BitVec w) : (bytes x).length = w / 8 := by
  rw [bytes, List.length_map, List.length_range]

theorem bitAt_bytes
    {w j : Nat} (x : BitVec w) (rest : List (BitVec 8))
    (hj : j < w)
    (hw : 8 ∣ w) :
    bitAt (bytes x ++ rest) j = x.getMsbD j := by
  obtain ⟨k, rfl⟩ := hw
  have hlt : j / 8 < 8 * k / 8 := by
    omega
  have hget : (bytes x ++ rest).getD (j / 8) 0 = x.extractLsb' (8 * k - 8 * (j / 8 + 1)) 8 := by
    rw [List.getD_eq_getElem?_getD, List.getElem?_append_left (by rw [length_bytes]; exact hlt), bytes,
      List.getElem?_map, List.getElem?_range hlt]
    rfl
  have hplace : 8 * k - (8 * k - 8 * (j / 8 + 1) + 8 - j % 8) = j := by
    omega
  rw [bitAt, hget, BitVec.getMsbD_extractLsb', hplace, decide_eq_true (by omega),
    decide_eq_true (by omega), Bool.true_and, Bool.true_and]

theorem byte_mask_iff
    {x y : BitVec 8}
    (hn : n ≤ 8) :
    x &&& (BitVec.allOnes 8 <<< (8 - n)) = y &&& (BitVec.allOnes 8 <<< (8 - n)) ↔
      ∀ j < n, x.getMsbD j = y.getMsbD j := by
  have hbit : ∀ (z : BitVec 8) (j : Nat),
      (z &&& (BitVec.allOnes 8 <<< (8 - n))).getMsbD j = (z.getMsbD j && decide (j < n)) := by
    intro z j
    have hiff : (j + (8 - n) < 8) ↔ j < n := by
      omega
    rw [BitVec.getMsbD_and, BitVec.getMsbD_shiftLeft, BitVec.getMsbD_allOnes, decide_eq_decide.mpr hiff]
  constructor
  · intro h j hj
    have hmasked := congrArg (fun z => z.getMsbD j) h
    rw [hbit, hbit, decide_eq_true hj, Bool.and_true, Bool.and_true] at hmasked
    exact hmasked
  · intro h
    refine BitVec.eq_of_getMsbD_eq fun j _ => ?_
    rw [hbit, hbit]
    by_cases hj : j < n
    · rw [h j hj]
    · rw [decide_eq_false hj, Bool.and_false, Bool.and_false]

theorem byte_eq_iff {x y : BitVec 8} : x = y ↔ ∀ j < 8, x.getMsbD j = y.getMsbD j := by
  constructor
  · rintro rfl j _
    rfl
  · intro h
    exact BitVec.eq_of_getMsbD_eq fun j hj => h j hj

/-- Rows agree if their whole bytes are equal and the next bytes agree under the mask. -/
theorem agree_iff
    (hlen : xs.length = ys.length)
    (hn : n ≤ 8 * xs.length) :
    Agree n xs ys ↔ xs.take (n / 8) = ys.take (n / 8) ∧
      (0 < n % 8 → xs.getD (n / 8) 0 &&& (BitVec.allOnes 8 <<< (8 - n % 8)) =
        ys.getD (n / 8) 0 &&& (BitVec.allOnes 8 <<< (8 - n % 8))) := by
  have hbit : ∀ (zs : List (BitVec 8)) (i j : Nat), j < 8 →
      bitAt zs (8 * i + j) = (zs.getD i 0).getMsbD j := by
    intro zs i j hj
    have hdiv : (8 * i + j) / 8 = i := by
      omega
    have hmod : (8 * i + j) % 8 = j := by
      omega
    rw [bitAt, hdiv, hmod]
  rw [byte_mask_iff (by omega)]
  constructor
  · intro h
    refine ⟨?_, fun _ j hj => ?_⟩
    · apply List.ext_getElem?
      intro i
      rw [List.getElem?_take, List.getElem?_take]
      split
      case isTrue hi =>
        have hbyte : xs.getD i 0 = ys.getD i 0 := by
          refine byte_eq_iff.mpr fun j hj => ?_
          rw [← hbit xs i j hj, ← hbit ys i j hj]
          exact h _ (by omega)
        have hxs : i < xs.length := by
          omega
        have hys : i < ys.length := by
          omega
        rw [List.getD_eq_getElem?_getD, List.getD_eq_getElem?_getD, List.getElem?_eq_getElem hxs,
          List.getElem?_eq_getElem hys, Option.getD_some, Option.getD_some] at hbyte
        rw [List.getElem?_eq_getElem hxs, List.getElem?_eq_getElem hys, hbyte]
      case isFalse =>
        rfl
    · rw [← hbit xs (n / 8) j (by omega), ← hbit ys (n / 8) j (by omega)]
      exact h _ (by omega)
  · rintro ⟨hwhole, hrest⟩ j hj
    have hsplit : j = 8 * (j / 8) + j % 8 := by
      omega
    rw [hsplit, hbit _ _ _ (by omega), hbit _ _ _ (by omega)]
    rcases Nat.lt_or_eq_of_le (Nat.div_le_div_right (Nat.le_of_lt hj) : j / 8 ≤ n / 8) with hlt | heq
    · have hget := congrArg (fun zs => zs.getD (j / 8) 0) hwhole
      simp only [List.getD_eq_getElem?_getD, List.getElem?_take, if_pos hlt] at hget
      rw [List.getD_eq_getElem?_getD, List.getD_eq_getElem?_getD, hget]
    · rw [heq]
      exact hrest (by omega) _ (by omega)

end PrefixBits
