import Mathlib.Data.List.Basic
import Mathlib.Data.List.Nodup
import Mathlib.Tactic.Common

/-!
# Removal by swapping

An array drops the element at an index by moving its last element there.  The
order of the rest is lost, its content is not, and two arrays kept in step stay
in step.

**Rules.**
* `getElem?_swapRemove`: what stands where afterwards.
* `swapRemove_perm`, `drop_swapRemove_perm`: nothing but the removed element is lost.
* `zip_swapRemove`: parallel arrays stay parallel.
* `removeWhere_spec`: one pass that removes what satisfies a test.
* `removeFrom_map`, `skipFrom_map`: a pass over the image of an array.
* `forall_skipWhere_iff`: what a pass misses that goes on after a removal.
-/

namespace SwapRemove

universe u v

variable {α : Type u} {β : Type v}

/-- Drop the element at an index; the last element takes its place. -/
def swapRemove (xs : List α) (i : Nat) : List α :=
  match xs.getLast? with
  | none => xs
  | some last => (xs.set i last).dropLast

@[simp]
theorem swapRemove_concat (ys : List α) (last : α) (i : Nat) :
    swapRemove (ys ++ [last]) i = ys.set i last := by
  simp only [swapRemove, List.getLast?_concat]
  by_cases hi : i < ys.length
  · rw [List.set_append_left _ _ hi, List.dropLast_concat]
  · rw [List.set_append_right _ _ (by omega), List.set_eq_of_length_le (by omega : ys.length ≤ i)]
    cases hk : i - ys.length with
    | zero =>
        simp
    | succ k =>
        simp

@[simp]
theorem length_swapRemove (xs : List α) (i : Nat) :
    (swapRemove xs i).length = xs.length - 1 := by
  rcases List.eq_nil_or_concat' xs with rfl | ⟨ys, last, rfl⟩
  · rfl
  · simp

theorem getElem?_swapRemove
    {xs : List α} {i j : Nat}
    (hi : i < xs.length) :
    (swapRemove xs i)[j]? =
      if j + 1 < xs.length then
        if j = i then xs.getLast? else xs[j]?
      else none := by
  rcases List.eq_nil_or_concat' xs with rfl | ⟨ys, last, rfl⟩
  · simp at hi
  · simp only [List.length_append, List.length_singleton] at hi ⊢
    rw [swapRemove_concat, List.getElem?_set, List.getLast?_concat]
    by_cases hj : j < ys.length
    · rw [List.getElem?_append_left hj, if_pos (by omega : j + 1 < ys.length + 1)]
      by_cases heq : j = i
      · subst heq
        simp [hj]
      · rw [if_neg (fun h => heq h.symm), if_neg heq]
    · rw [if_neg (by omega : ¬ j + 1 < ys.length + 1)]
      split
      · rename_i heq
        rw [if_neg (by omega)]
      · exact List.getElem?_eq_none (by omega)

/-- From the index on, the element at the index is what is gone. -/
theorem drop_swapRemove_perm
    {xs : List α} {i : Nat} {x : α}
    (h : xs[i]? = some x) :
    (xs.drop i).Perm (x :: (swapRemove xs i).drop i) := by
  rcases List.eq_nil_or_concat' xs with rfl | ⟨ys, last, rfl⟩
  · simp at h
  · rw [swapRemove_concat]
    by_cases hi : i < ys.length
    · rw [List.getElem?_append_left hi] at h
      obtain ⟨_, hget⟩ := List.getElem?_eq_some_iff.mp h
      rw [List.drop_append_of_le_length (Nat.le_of_lt hi), List.drop_set, if_neg (Nat.lt_irrefl i),
        Nat.sub_self, List.drop_eq_getElem_cons hi, List.set_cons_zero, hget]
      exact (List.perm_append_singleton _ _).cons x
    · obtain rfl : i = ys.length := by
        have hlt := (List.getElem?_eq_some_iff.mp h).1
        simp only [List.length_append, List.length_singleton] at hlt
        omega
      obtain rfl : last = x := by simpa using h
      simp

theorem zip_set (xs : List α) (ys : List β) (i : Nat) (x : α) (y : β) :
    (xs.set i x).zip (ys.set i y) = (xs.zip ys).set i (x, y) := by
  induction xs generalizing ys i with
  | nil =>
      simp
  | cons a xs ih =>
      cases ys with
      | nil =>
          simp
      | cons b ys =>
          cases i with
          | zero =>
              rfl
          | succ i =>
              simp [ih]

/-- Removal from two arrays in step is removal from the array of pairs. -/
theorem zip_swapRemove
    {xs : List α} {ys : List β}
    (hlen : ys.length = xs.length) (i : Nat) :
    (swapRemove xs i).zip (swapRemove ys i) = swapRemove (xs.zip ys) i := by
  rcases List.eq_nil_or_concat' xs with rfl | ⟨xs, x, rfl⟩
  · obtain rfl : ys = [] := List.eq_nil_of_length_eq_zero hlen
    rfl
  · rcases List.eq_nil_or_concat' ys with rfl | ⟨ys, y, rfl⟩
    · simp at hlen
    · have hlen' : xs.length = ys.length := by simpa using hlen.symm
      rw [swapRemove_concat, swapRemove_concat, List.zip_append hlen', List.zip_cons_cons,
        List.zip_nil_right, swapRemove_concat, zip_set]

theorem take_swapRemove
    {xs : List α} {i : Nat}
    (hi : i < xs.length) :
    (swapRemove xs i).take i = xs.take i := by
  rcases List.eq_nil_or_concat' xs with rfl | ⟨ys, last, rfl⟩
  · simp at hi
  · have hle : i ≤ ys.length := by
      simp only [List.length_append, List.length_singleton] at hi
      omega
    rw [swapRemove_concat, List.take_append_of_le_length hle, List.take_set_of_le (Nat.le_refl i)]

theorem swapRemove_perm
    {xs : List α} {i : Nat} {x : α}
    (h : xs[i]? = some x) :
    xs.Perm (x :: swapRemove xs i) := by
  have hi := (List.getElem?_eq_some_iff.mp h).1
  calc xs = xs.take i ++ xs.drop i := (List.take_append_drop i xs).symm
    _ |>.Perm (xs.take i ++ x :: (swapRemove xs i).drop i) := (drop_swapRemove_perm h).append_left _
    _ |>.Perm (x :: (xs.take i ++ (swapRemove xs i).drop i)) := List.perm_middle
    _ = x :: swapRemove xs i := by rw [← take_swapRemove hi, List.take_append_drop]

/-- The rounds of a pass that are left, at an index: what they remove in order, and the
array at the end. -/
def removeFrom (p : α → Bool) : Nat → Nat → List α → List α × List α
  | 0, _, xs => ([], xs)
  | rounds + 1, i, xs =>
      match xs[i]? with
      | none => ([], xs)
      | some x =>
          if p x then
            let rest := removeFrom p rounds i (swapRemove xs i)
            (x :: rest.1, rest.2)
          else removeFrom p rounds (i + 1) xs

/-- The whole pass; after a removal the element that was moved in is looked at next. -/
def removeWhere (p : α → Bool) (xs : List α) : List α × List α :=
  removeFrom p xs.length 0 xs

theorem removeFrom_spec
    (p : α → Bool)
    {rounds i : Nat} {xs : List α}
    (hrounds : xs.length ≤ i + rounds) :
    (removeFrom p rounds i xs).1.Perm ((xs.drop i).filter p) ∧
      (removeFrom p rounds i xs).2.Perm (xs.take i ++ (xs.drop i).filter (fun x => !p x)) := by
  induction rounds generalizing i xs with
  | zero =>
      have hdrop : xs.drop i = [] := List.drop_eq_nil_of_le (by omega)
      have htake : xs.take i = xs := List.take_of_length_le (by omega)
      simp [removeFrom, hdrop, htake]
  | succ rounds ih =>
      cases hx : xs[i]? with
      | none =>
          have hlen : xs.length ≤ i := List.getElem?_eq_none_iff.mp hx
          have hdrop : xs.drop i = [] := List.drop_eq_nil_of_le hlen
          have htake : xs.take i = xs := List.take_of_length_le hlen
          simp [removeFrom, hx, hdrop, htake]
      | some x =>
          obtain ⟨hi, hget⟩ := List.getElem?_eq_some_iff.mp hx
          cases hp : p x with
          | true =>
              obtain ⟨hremoved, hkept⟩ := @ih i (swapRemove xs i) (by simp; omega)
              have hperm := drop_swapRemove_perm hx
              rw [take_swapRemove hi] at hkept
              simp only [removeFrom, hx, hp, if_true]
              constructor
              · calc (x :: (removeFrom p rounds i (swapRemove xs i)).1).Perm
                      (x :: ((swapRemove xs i).drop i).filter p) := hremoved.cons x
                  _ = (x :: (swapRemove xs i).drop i).filter p := by simp [hp]
                  _ |>.Perm ((xs.drop i).filter p) := (hperm.filter p).symm
              · refine hkept.trans (List.Perm.append_left _ ?_)
                calc ((swapRemove xs i).drop i).filter (fun y => !p y)
                      = (x :: (swapRemove xs i).drop i).filter (fun y => !p y) := by simp [hp]
                  _ |>.Perm ((xs.drop i).filter (fun y => !p y)) := (hperm.filter _).symm
          | false =>
              obtain ⟨hremoved, hkept⟩ := @ih (i + 1) xs (by omega)
              have hdrop : xs.drop i = x :: xs.drop (i + 1) := by
                rw [List.drop_eq_getElem_cons hi, hget]
              have htake : xs.take (i + 1) = xs.take i ++ [x] := by
                rw [List.take_succ_eq_append_getElem hi, hget]
              simp only [removeFrom, hx, hp, Bool.false_eq_true, if_false]
              constructor
              · simpa [hdrop, hp] using hremoved
              · simpa [hdrop, htake, hp] using hkept

/-- The pass removes what satisfies the test and nothing else. -/
theorem removeWhere_spec (p : α → Bool) (xs : List α) :
    (removeWhere p xs).1.Perm (xs.filter p) ∧
      (removeWhere p xs).2.Perm (xs.filter (fun x => !p x)) := by
  have hpass := @removeFrom_spec α p xs.length 0 xs (by omega)
  simpa [removeWhere] using hpass

variable {p : α → Bool}

theorem mem_removeWhere
    {xs : List α} {x : α} :
    (x ∈ (removeWhere p xs).1 ↔ x ∈ xs ∧ p x = true) ∧
      (x ∈ (removeWhere p xs).2 ↔ x ∈ xs ∧ p x = false) := by
  obtain ⟨hremoved, hkept⟩ := removeWhere_spec p xs
  rw [hremoved.mem_iff, hkept.mem_iff]
  simp

theorem swapRemove_map (g : α → β) (xs : List α) (i : Nat) :
    swapRemove (xs.map g) i = (swapRemove xs i).map g := by
  rcases List.eq_nil_or_concat' xs with rfl | ⟨ys, last, rfl⟩
  · rfl
  · rw [List.map_append, List.map_singleton, swapRemove_concat, swapRemove_concat, List.map_set]

/-- A pass over an array that a map took from another one -/
theorem removeFrom_map
    {q : β → Bool} {g : α → β}
    (h : ∀ x, q (g x) = p x)
    (rounds i : Nat) (xs : List α) :
    (removeFrom q rounds i (xs.map g)).2 = (removeFrom p rounds i xs).2.map g := by
  induction rounds generalizing i xs with
  | zero =>
      rfl
  | succ rounds ih =>
      rw [removeFrom, removeFrom, List.getElem?_map]
      cases xs[i]? with
      | none =>
          rfl
      | some x =>
          cases hp : p x with
          | true =>
              simp only [Option.map_some, h, hp, if_true, swapRemove_map]
              exact ih i _
          | false =>
              simp only [Option.map_some, h, hp, Bool.false_eq_true, if_false]
              exact ih (i + 1) xs

/-! ## A pass that skips -/

/-- The rounds of a pass that goes on after a removal: the element that was moved in is not looked
at. -/
def skipFrom (p : α → Bool) : Nat → Nat → List α → List α
  | 0, _, xs => xs
  | rounds + 1, i, xs =>
      match xs[i]? with
      | none => xs
      | some x => skipFrom p rounds (i + 1) (if p x then swapRemove xs i else xs)

def skipWhere (p : α → Bool) (xs : List α) : List α :=
  skipFrom p xs.length 0 xs

theorem skipFrom_map
    {q : β → Bool} {g : α → β}
    (h : ∀ x, q (g x) = p x)
    (rounds i : Nat) (xs : List α) :
    skipFrom q rounds i (xs.map g) = (skipFrom p rounds i xs).map g := by
  induction rounds generalizing i xs with
  | zero =>
      rfl
  | succ rounds ih =>
      rw [skipFrom, skipFrom, List.getElem?_map]
      cases xs[i]? with
      | none =>
          rfl
      | some x =>
          simp only [Option.map_some, h, swapRemove_map]
          rw [← ih]
          split
          · rfl
          · rfl

theorem swapRemove_append_singleton (xs : List α) (x : α) :
    swapRemove (xs ++ [x]) xs.length = xs := by
  rw [swapRemove_concat, List.set_eq_of_length_le (Nat.le_refl _)]

/-- Behind what stands before it, the last element takes the place of the removed one. -/
theorem swapRemove_append_cons (xs r : List α) (x last : α) :
    swapRemove (xs ++ x :: (r ++ [last])) xs.length = xs ++ last :: r := by
  rw [← List.cons_append, ← List.append_assoc, swapRemove_concat,
    List.set_append_right _ _ (Nat.le_refl _), Nat.sub_self, List.set_cons_zero]

theorem skipFrom_of_le
    {rounds i : Nat} {xs : List α}
    (h : xs.length ≤ i) :
    skipFrom p rounds i xs = xs := by
  cases rounds with
  | zero =>
      rfl
  | succ rounds =>
      rw [skipFrom, List.getElem?_eq_none h]

/-- A pass that skips leaves an element that satisfies the test exactly where it moves one in, and it
moves in the last elements, one fewer than it has to remove. -/
theorem skipFrom_spec
    (p : α → Bool)
    {rounds : Nat} {xs l : List α}
    (hrounds : l.length ≤ rounds) :
    ∃ kept, skipFrom p rounds xs.length (xs ++ l) = xs ++ kept ∧
      ((∀ x ∈ kept, p x = false) ↔
        ∀ x ∈ l.reverse.take (l.countP p - 1), p x = false) := by
  induction rounds generalizing xs l with
  | zero =>
      obtain rfl := List.eq_nil_of_length_eq_zero (Nat.le_zero.mp hrounds)
      exact ⟨[], rfl, by simp⟩
  | succ rounds ih =>
      cases l with
      | nil =>
          exact ⟨[], skipFrom_of_le (by simp), by simp⟩
      | cons x r =>
          have hx : (xs ++ x :: r)[xs.length]? = some x := by simp
          have hlen : r.length ≤ rounds := Nat.le_of_succ_le_succ hrounds
          rw [skipFrom]
          simp only [hx]
          cases hp : p x with
          | false =>
              obtain ⟨kept, hkept, hiff⟩ := @ih (xs ++ [x]) r hlen
              rw [List.length_append, List.length_singleton, List.append_assoc,
                List.append_assoc] at hkept
              refine ⟨x :: kept, hkept, ?_⟩
              have hcount : (x :: r).countP p = r.countP p := List.countP_cons_of_neg (by simp [hp])
              have htake : (x :: r).reverse.take (r.countP p - 1) =
                  r.reverse.take (r.countP p - 1) := by
                have hle := List.countP_le_length (p := p) (l := r)
                rw [List.reverse_cons, List.take_append_of_le_length]
                rw [List.length_reverse]
                omega
              rw [hcount, htake, ← hiff, List.forall_mem_cons]
              exact and_iff_right hp
          | true =>
              simp only [if_true]
              rcases List.eq_nil_or_concat' r with rfl | ⟨r, last, rfl⟩
              · refine ⟨[], ?_, by simp [hp]⟩
                rw [swapRemove_append_singleton, List.append_nil]
                exact skipFrom_of_le (Nat.le_succ _)
              · rw [List.length_append, List.length_singleton] at hlen
                obtain ⟨kept, hkept, hiff⟩ := @ih (xs ++ [last]) r (by omega)
                rw [List.length_append, List.length_singleton, List.append_assoc,
                  List.append_assoc] at hkept
                refine ⟨last :: kept, ?_, ?_⟩
                · rw [swapRemove_append_cons]
                  exact hkept
                · have hcount : (x :: (r ++ [last])).countP p =
                      r.countP p + (if p last then 1 else 0) + 1 := by
                    rw [List.countP_cons_of_pos hp, List.countP_append, List.countP_singleton]
                  have hle := List.countP_le_length (p := p) (l := r)
                  have hreverse : (x :: (r ++ [last])).reverse = last :: (r.reverse ++ [x]) := by simp
                  rw [hcount, Nat.add_sub_cancel, hreverse, List.forall_mem_cons, hiff]
                  cases hlast : p last with
                  | true =>
                      simp [hlast]
                  | false =>
                      cases hr : r.countP p with
                      | zero =>
                          simp
                      | succ n =>
                          rw [if_neg Bool.false_ne_true, Nat.add_zero, Nat.add_sub_cancel,
                            List.take_succ_cons, List.forall_mem_cons,
                            List.take_append_of_le_length (by rw [List.length_reverse]; omega), hlast]

theorem forall_skipWhere_iff (p : α → Bool) (xs : List α) :
    (∀ x ∈ skipWhere p xs, p x = false) ↔
      ∀ x ∈ xs.reverse.take (xs.countP p - 1), p x = false := by
  obtain ⟨kept, hkept, hiff⟩ := @skipFrom_spec α p xs.length [] xs (Nat.le_refl _)
  rw [List.nil_append, List.nil_append] at hkept
  rw [skipWhere]
  exact (show skipFrom p xs.length 0 xs = kept from hkept) ▸ hiff

end SwapRemove
