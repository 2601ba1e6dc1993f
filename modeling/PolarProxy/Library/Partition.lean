import Mathlib.Data.List.Basic
import Mathlib.Data.List.Perm.Basic
import Mathlib.Tactic.Common

/-!
# Partition by swaps

One pass over an array moves the elements that satisfy a test to its front: an element
that does is swapped with the first one that does not, and the length of the front grows.

**Rules.**
* `swapAt_append`: a swap of two elements of a list that is given by its parts.
* `partitionSwaps_spec`: the front has the elements that satisfy the test, the rest has the
  others, and nothing is lost.
-/

namespace Partition

universe u

variable {α : Type u}

/-- `std::swap` of two elements -/
def swapAt (l : List α) (i j : Nat) : List α :=
  match l[i]?, l[j]? with
  | some a, some b => (l.set i b).set j a
  | _, _ => l

/-- The rounds of the pass that are left, at an index and with the length of the front. -/
def partitionFrom (p : α → Bool) : Nat → Nat → Nat → List α → Nat × List α
  | 0, _, front, l => (front, l)
  | rounds + 1, index, front, l =>
      match l[index]? with
      | none => (front, l)
      | some a =>
          if p a then partitionFrom p rounds (index + 1) (front + 1) (swapAt l front index)
          else partitionFrom p rounds (index + 1) front l

/-- The whole pass. -/
def partitionSwaps (p : α → Bool) (l : List α) : Nat × List α :=
  partitionFrom p l.length 0 0 l

theorem swapAt_self (l : List α) (i : Nat) : swapAt l i i = l := by
  unfold swapAt
  split
  case h_1 a b ha hb =>
    obtain rfl := Option.some.inj (ha.symm.trans hb)
    obtain ⟨hi, rfl⟩ := List.getElem?_eq_some_iff.mp ha
    rw [List.set_set, List.set_getElem_self]
  case h_2 =>
    rfl

theorem swapAt_append (front middle rest : List α) (a b : α) :
    swapAt (front ++ a :: middle ++ b :: rest) front.length (front.length + (middle.length + 1)) =
      front ++ b :: middle ++ a :: rest := by
  have hi : (front ++ a :: middle ++ b :: rest)[front.length]? = some a := by
    simp
  have hj : (front ++ a :: middle ++ b :: rest)[front.length + (middle.length + 1)]? = some b := by
    rw [List.append_assoc, List.getElem?_append_right (by omega), Nat.add_sub_cancel_left]
    simp
  simp only [swapAt, hi, hj]
  rw [List.append_assoc, List.set_append_right _ _ (by omega), Nat.sub_self, List.cons_append,
    List.set_cons_zero, List.set_append_right _ _ (by omega), Nat.add_sub_cancel_left]
  simp

/-- The pass with a front, a part that was passed over, and a rest. -/
theorem partitionFrom_spec
    (p : α → Bool)
    (front middle rest : List α)
    (hfront : ∀ a ∈ front, p a = true)
    (hmiddle : ∀ a ∈ middle, p a = false) :
    ∃ front' middle', partitionFrom p rest.length (front.length + middle.length) front.length
        (front ++ middle ++ rest) = (front'.length, front' ++ middle') ∧
      (∀ a ∈ front', p a = true) ∧
      (∀ a ∈ middle', p a = false) ∧
      (front' ++ middle').Perm (front ++ middle ++ rest) := by
  induction rest generalizing front middle with
  | nil =>
      exact ⟨front, middle, by simp [partitionFrom], hfront, hmiddle, by simp⟩
  | cons b rest ih =>
      have hget : (front ++ middle ++ b :: rest)[front.length + middle.length]? = some b := by
        rw [List.getElem?_append_right (by simp)]
        simp
      rw [List.length_cons, partitionFrom, hget]
      cases hb : p b with
      | false =>
          obtain ⟨front', middle', heq, hp, hn, hperm⟩ := ih front (middle ++ [b]) hfront (by
            intro a ha
            obtain ha | ha := List.mem_append.mp ha
            · exact hmiddle a ha
            · rw [List.mem_singleton.mp ha, hb])
          refine ⟨front', middle', ?_, hp, hn, ?_⟩
          · simpa [hb, Nat.add_assoc] using heq
          · simpa using hperm
      | true =>
          have hfront' : ∀ a ∈ front ++ [b], p a = true := by
            intro a ha
            obtain ha | ha := List.mem_append.mp ha
            · exact hfront a ha
            · rw [List.mem_singleton.mp ha, hb]
          cases middle with
          | nil =>
              obtain ⟨front', middle', heq, hp, hn, hperm⟩ :=
                ih (front ++ [b]) [] hfront' (by simp)
              refine ⟨front', middle', ?_, hp, hn, ?_⟩
              · simpa [hb, swapAt_self] using heq
              · simpa using hperm
          | cons a middle =>
              obtain ⟨front', middle', heq, hp, hn, hperm⟩ :=
                ih (front ++ [b]) (middle ++ [a]) hfront' (by
                  intro c hc
                  obtain hc | hc := List.mem_append.mp hc
                  · exact hmiddle c (List.mem_cons_of_mem a hc)
                  · rw [List.mem_singleton.mp hc]
                    exact hmiddle a List.mem_cons_self)
              refine ⟨front', middle', ?_, hp, hn, hperm.trans ?_⟩
              · rw [List.length_cons, swapAt_append]
                simpa [hb, Nat.add_assoc, Nat.add_comm 1] using heq
              · have hswap : (b :: (middle ++ a :: rest)).Perm (a :: (middle ++ b :: rest)) := by
                  refine (List.Perm.cons b List.perm_middle).trans ((List.Perm.swap a b _).trans ?_)
                  exact List.Perm.cons a List.perm_middle.symm
                simpa using List.Perm.append_left front hswap

/-- The front has what satisfies the test, the rest has the others. -/
theorem partitionSwaps_spec (p : α → Bool) (l : List α) :
    ∃ front rest, partitionSwaps p l = (front.length, front ++ rest) ∧
      front.Perm (l.filter p) ∧
      rest.Perm (l.filter (!p ·)) := by
  obtain ⟨front, rest, heq, hfront, hrest, hperm⟩ :=
    partitionFrom_spec p [] [] l (by simp) (by simp)
  refine ⟨front, rest, heq, ?_, ?_⟩
  · have hfilter := hperm.filter p
    rwa [List.filter_append, List.filter_eq_self.mpr hfront,
      List.filter_eq_nil_iff.mpr (by simpa using hrest), List.append_nil] at hfilter
  · have hfilter := hperm.filter (!p ·)
    rwa [List.filter_append, List.filter_eq_nil_iff.mpr (by simpa using hfront),
      List.filter_eq_self.mpr (by simpa using hrest), List.nil_append] at hfilter

end Partition
