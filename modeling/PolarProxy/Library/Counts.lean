import Mathlib.Data.Multiset.AddSub
import Mathlib.Data.Multiset.Replicate
import Mathlib.Algebra.BigOperators.Group.List.Basic
import Mathlib.Algebra.GroupWithZero.Nat
import Mathlib.Tactic.Common

/-!
# Counted lists

A bag of values is kept as a list with one entry for each value that occurs and the
number of its occurrences.  Adding a value raises the count of its entry or appends
an entry; removing one lowers the count, and drops the entry when nothing is left.
Removing fails when the value has no entry or a count of zero.

**Rules.**
* `Represents`: the list counts a multiset.
* `Represents.add`, `Represents.remove`: the operations are those of the multiset,
  and removing does not fail for a value that occurs.
* `Represents.mem_iff`, `Represents.sum_eq`: what the entries tell about the multiset.
-/

namespace Counts

universe u

variable {α : Type u}

/-- The entries count the occurrences of the multiset. -/
inductive Represents : List (α × Nat) → Multiset α → Prop
  | nil : Represents [] 0
  | cons {a : α} {n : Nat} {l : List (α × Nat)} {m : Multiset α} :
      a ∉ m →
      Represents l m →
      Represents ((a, n + 1) :: l) (Multiset.replicate (n + 1) a + m)

namespace Represents

variable {l : List (α × Nat)} {m : Multiset α} {a : α}

theorem of_eq
    {m' : Multiset α}
    (h : Represents l m)
    (hm : m = m') :
    Represents l m' :=
  hm ▸ h

theorem sum_eq (h : Represents l m) : (l.map (·.2)).sum = m.card := by
  induction h with
  | nil =>
      rfl
  | cons _ _ ih =>
      simp only [List.map_cons, List.sum_cons, Multiset.card_add, Multiset.card_replicate, ih]

theorem mem_iff (h : Represents l m) : (∃ n, (a, n) ∈ l ∧ 0 < n) ↔ a ∈ m := by
  induction h with
  | nil =>
      simp
  | @cons b n l m hb hl ih =>
      rw [Multiset.mem_add, ← ih, Multiset.mem_replicate]
      constructor
      · rintro ⟨k, hk, hpos⟩
        rcases List.mem_cons.mp hk with heq | hmem
        · exact .inl ⟨Nat.succ_ne_zero n, congrArg Prod.fst heq⟩
        · exact .inr ⟨k, hmem, hpos⟩
      · rintro (⟨_, rfl⟩ | ⟨k, hk, hpos⟩)
        · exact ⟨n + 1, List.mem_cons_self, Nat.succ_pos n⟩
        · exact ⟨k, List.mem_cons_of_mem _ hk, hpos⟩

end Represents

variable [DecidableEq α]

/-- One more occurrence. -/
def add (a : α) : List (α × Nat) → List (α × Nat)
  | [] => [(a, 1)]
  | e :: rest => if e.1 = a then (e.1, e.2 + 1) :: rest else e :: add a rest

/-- One occurrence less, and whether it was the last. -/
def remove (a : α) : List (α × Nat) → Option (Bool × List (α × Nat))
  | [] => none
  | e :: rest =>
      if e.1 = a then
        if e.2 = 0 then none
        else if e.2 - 1 ≠ 0 then some (false, (e.1, e.2 - 1) :: rest)
        else some (true, rest)
      else (remove a rest).map fun r => (r.1, e :: r.2)

namespace Represents

variable {l : List (α × Nat)} {m : Multiset α} {a : α}

theorem add (h : Represents l m) (a : α) : Represents (Counts.add a l) (a ::ₘ m) := by
  induction h with
  | nil =>
      exact (Represents.cons (n := 0) (Multiset.notMem_zero a) .nil).of_eq (by simp)
  | @cons b n l m hb hl ih =>
      by_cases hab : b = a
      · subst hab
        simp only [Counts.add, if_true]
        refine (Represents.cons (n := n + 1) hb hl).of_eq ?_
        rw [Multiset.replicate_succ, Multiset.cons_add]
      · simp only [Counts.add, if_neg hab]
        refine (Represents.cons (n := n) ?_ ih).of_eq (by rw [Multiset.add_cons])
        simp only [Multiset.mem_cons, not_or]
        exact ⟨hab, hb⟩

theorem remove
    (h : Represents l m)
    (ha : a ∈ m) :
    ∃ l',
      Counts.remove a l = some (decide (a ∉ m.erase a), l') ∧
      Represents l' (m.erase a) := by
  induction h with
  | nil =>
      exact absurd ha (Multiset.notMem_zero a)
  | @cons b n l m hb hl ih =>
      by_cases hab : b = a
      · subst hab
        have herase : (Multiset.replicate (n + 1) b + m).erase b = Multiset.replicate n b + m := by
          rw [Multiset.replicate_succ, Multiset.cons_add, Multiset.erase_cons_head]
        rw [herase]
        cases n with
        | zero =>
            exact ⟨l, by simp [Counts.remove, hb], hl.of_eq (by simp)⟩
        | succ n =>
            exact ⟨(b, n + 1) :: l, by simp [Counts.remove], .cons hb hl⟩
      · have ham : a ∈ m := by
          simpa [Multiset.mem_replicate, Ne.symm hab] using ha
        obtain ⟨l', hl', hrep⟩ := ih ham
        have herase : (Multiset.replicate (n + 1) b + m).erase a =
            Multiset.replicate (n + 1) b + m.erase a :=
          Multiset.erase_add_right_pos _ ham
        rw [herase]
        refine ⟨(b, n + 1) :: l', ?_, .cons (fun hm => hb (Multiset.mem_of_mem_erase hm)) hrep⟩
        simp [Counts.remove, if_neg hab, hl', Multiset.mem_replicate, Ne.symm hab]

end Represents

end Counts
