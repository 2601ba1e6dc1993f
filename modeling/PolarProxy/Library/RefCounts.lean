import Mathlib.Data.Multiset.Count
import Mathlib.Logic.Function.Basic
import Mathlib.Tactic.Common

/-!
# Reference counts with a tally of the unused

Every object has a count of its references, and one counter tells how many objects
have none.  A count is adjusted without a look at the other objects; the counter
follows the count from zero and to zero.

**Rules.**
* `Matches`: the counts are the multiplicities in the multiset of references, and the
  counter is the number of live objects that it does not hold.
* `Matches.acquire`, `Matches.release`: a reference more, a reference less.
* `Matches.enroll`, `Matches.retire`: a new object without references, and the end of
  unused objects.
-/

namespace RefCounts

universe u

/-- Counts of references, and the number of objects without one. -/
structure Counters (α : Type u) where
  count : α → Int
  zero : Int

variable {α : Type u} [DecidableEq α]

/-- Adjust the count of an object; the counter follows a count that leaves zero or
comes to zero. -/
def Counters.adjust (c : Counters α) (a : α) (v : Int) : Counters α :=
  let prev := c.count a
  { count := Function.update c.count a (prev + v)
    zero :=
      if 0 < v ∧ prev = 0 then c.zero - 1
      else if v < 0 ∧ prev + v = 0 then c.zero + 1
      else c.zero }

/-- How many objects of a list have no reference. -/
def unused (refs : Multiset α) (live : List α) : Nat :=
  live.countP fun a => refs.count a = 0

/-- The counters are those of the references to the live objects. -/
structure Matches (c : Counters α) (live : List α) (refs : Multiset α) : Prop where
  count : ∀ a ∈ live, c.count a = refs.count a
  zero : c.zero = unused refs live

variable {c : Counters α} {live : List α} {refs : Multiset α} {a : α}

/-- One more reference to an object leaves the other objects alone. -/
theorem unused_cons_of_notMem
    (refs : Multiset α)
    (ha : a ∉ live) :
    unused (a ::ₘ refs) live = unused refs live := by
  refine List.countP_congr fun b hb => ?_
  have hne : b ≠ a := fun h => ha (h ▸ hb)
  simp [Multiset.count_cons_of_ne hne]

theorem unused_cons
    (refs : Multiset α)
    (hnodup : live.Nodup)
    (ha : a ∈ live) :
    unused (a ::ₘ refs) live + (if refs.count a = 0 then 1 else 0) = unused refs live := by
  obtain ⟨before, after, rfl⟩ := List.append_of_mem ha
  have hnot := List.nodup_middle.mp hnodup
  have hbefore : a ∉ before := fun h =>
    (List.nodup_cons.mp hnot).1 (List.mem_append_left _ h)
  have hafter : a ∉ after := fun h =>
    (List.nodup_cons.mp hnot).1 (List.mem_append_right _ h)
  have hb := unused_cons_of_notMem refs hbefore
  have hc := unused_cons_of_notMem refs hafter
  unfold unused at hb hc ⊢
  rw [List.countP_append, List.countP_append, hb, List.countP_cons, List.countP_cons, hc]
  by_cases hzero : refs.count a = 0
  · simp only [hzero, if_true, Multiset.count_cons_self]
    simp
    omega
  · simp only [hzero, if_false, Multiset.count_cons_self]
    simp

namespace Matches

theorem perm
    {live' : List α}
    (h : Matches c live refs)
    (hperm : live.Perm live') :
    Matches c live' refs := by
  refine ⟨fun b hb => h.count b (hperm.mem_iff.mpr hb), ?_⟩
  rw [h.zero, unused, unused, hperm.countP_eq]

theorem acquire
    (h : Matches c live refs)
    (hnodup : live.Nodup)
    (ha : a ∈ live) :
    Matches (c.adjust a 1) live (a ::ₘ refs) := by
  have hcount := h.count a ha
  constructor
  · intro b hb
    by_cases hba : b = a
    · subst hba
      simp [Counters.adjust, hcount]
    · simp [Counters.adjust, Function.update_of_ne hba, Multiset.count_cons_of_ne hba, h.count b hb]
  · have hunused := unused_cons refs hnodup ha
    simp only [Counters.adjust, hcount, h.zero]
    by_cases hzero : refs.count a = 0
    · rw [if_pos hzero] at hunused
      rw [if_pos (by omega)]
      omega
    · rw [if_neg hzero] at hunused
      rw [if_neg (by omega), if_neg (by omega)]
      omega

theorem release
    (h : Matches c live (a ::ₘ refs))
    (hnodup : live.Nodup)
    (ha : a ∈ live) :
    Matches (c.adjust a (-1)) live refs := by
  have hcount := h.count a ha
  rw [Multiset.count_cons_self] at hcount
  constructor
  · intro b hb
    by_cases hba : b = a
    · subst hba
      simp only [Counters.adjust, Function.update_self, hcount]
      omega
    · have hother := h.count b hb
      rw [Multiset.count_cons_of_ne hba] at hother
      simp [Counters.adjust, Function.update_of_ne hba, hother]
  · have hunused := unused_cons refs hnodup ha
    simp only [Counters.adjust, hcount, h.zero]
    by_cases hzero : refs.count a = 0
    · rw [if_pos hzero] at hunused
      rw [if_neg (by omega), if_pos (by omega)]
      omega
    · rw [if_neg hzero] at hunused
      rw [if_neg (by omega), if_neg (by omega)]
      omega

theorem enroll
    (h : Matches c live refs)
    (ha : a ∉ live)
    (hrefs : a ∉ refs) :
    Matches ⟨Function.update c.count a 0, c.zero + 1⟩ (a :: live) refs := by
  have hzero : refs.count a = 0 := Multiset.count_eq_zero.mpr hrefs
  constructor
  · intro b hb
    by_cases hba : b = a
    · subst hba
      simp [hzero]
    · have hmem : b ∈ live := (List.mem_cons.mp hb).resolve_left hba
      simp [Function.update_of_ne hba, h.count b hmem]
  · simp only [h.zero, unused, List.countP_cons, hzero, decide_true, if_true]
    omega

theorem retire
    {kept gone : List α}
    (h : Matches c live refs)
    (hsplit : live.Perm (kept ++ gone))
    (hgone : ∀ a ∈ gone, refs.count a = 0) :
    Matches { c with zero := c.zero - gone.length } kept refs := by
  have hall := h.perm hsplit
  refine ⟨fun b hb => hall.count b (List.mem_append_left _ hb), ?_⟩
  have hcount : gone.countP (fun a => refs.count a = 0) = gone.length :=
    List.countP_eq_length.mpr (by simpa using hgone)
  have hzero := hall.zero
  rw [unused, List.countP_append, hcount] at hzero
  simp only [unused, hzero]
  omega

end Matches

end RefCounts
