import Mathlib.Data.List.Basic
import Mathlib.Data.List.Pairwise
import Mathlib.Tactic.Common

/-!
# Sets of integers as lists of intervals

A set of integers is kept as a list of closed intervals.  The list is canonical when it is
sorted and two neighbours have an integer between them that belongs to neither; then an
interval that the set contains lies in one of the list.  A pass over a list that is sorted
by lower bounds joins neighbours that touch, and leaves it canonical.

**Rules.**
* `Canonical.contains`: an interval inside a canonical list is inside one of its members.
* `joinTouching_spec`: the pass keeps the set and makes the list canonical.
-/

namespace IntervalLists

universe u

/-- How the members of a list are read as intervals. -/
structure Bounds (α : Type u) where
  lo : α → Int
  hi : α → Int
  le : ∀ a, lo a ≤ hi a

variable {α : Type u} (b : Bounds α)

/-- The integer lies in an interval of the list. -/
def Covers (l : List α) (n : Int) : Prop :=
  ∃ a ∈ l, b.lo a ≤ n ∧ n ≤ b.hi a

/-- There is an integer between the two intervals. -/
def Gap (a a' : α) : Prop :=
  b.hi a + 1 < b.lo a'

/-- Sorted, disjoint, and not adjacent. -/
def Canonical (l : List α) : Prop :=
  l.Pairwise (Gap b)

/-- Join neighbours as long as `join` can. -/
def joinTouching (join : α → α → Option α) : List α → List α
  | [] => []
  | [a] => [a]
  | a :: a' :: rest =>
      match join a a' with
      | some joined => joinTouching join (joined :: rest)
      | none => a :: joinTouching join (a' :: rest)
termination_by l => l.length

variable {b}

@[simp]
theorem covers_nil (n : Int) : ¬ Covers b [] n := by
  simp [Covers]

@[simp]
theorem covers_cons (a : α) (l : List α) (n : Int) :
    Covers b (a :: l) n ↔ (b.lo a ≤ n ∧ n ≤ b.hi a) ∨ Covers b l n := by
  simp [Covers]

@[simp]
theorem covers_append (l l' : List α) (n : Int) :
    Covers b (l ++ l') n ↔ Covers b l n ∨ Covers b l' n := by
  simp only [Covers, List.mem_append]
  constructor
  · rintro ⟨a, ha | ha, hn⟩
    · exact Or.inl ⟨a, ha, hn⟩
    · exact Or.inr ⟨a, ha, hn⟩
  · rintro (⟨a, ha, hn⟩ | ⟨a, ha, hn⟩)
    · exact ⟨a, Or.inl ha, hn⟩
    · exact ⟨a, Or.inr ha, hn⟩

theorem covers_perm
    {l l' : List α}
    (h : l.Perm l')
    (n : Int) :
    Covers b l n ↔ Covers b l' n := by
  simp only [Covers, h.mem_iff]

theorem Canonical.contains
    {l : List α}
    (h : Canonical b l)
    {lo hi : Int}
    (hle : lo ≤ hi)
    (hcovers : ∀ n, lo ≤ n → n ≤ hi → Covers b l n) :
    ∃ a ∈ l, b.lo a ≤ lo ∧ hi ≤ b.hi a := by
  induction l with
  | nil =>
      exact absurd (hcovers lo (Int.le_refl lo) hle) (covers_nil lo)
  | cons a l ih =>
      obtain ⟨hgap, hrest⟩ := List.pairwise_cons.mp h
      have habove : ∀ n, Covers b l n → b.hi a + 1 < n := by
        rintro n ⟨a', ha', hlo, -⟩
        have := hgap a' ha'
        unfold Gap at this
        omega
      by_cases hin : b.lo a ≤ lo ∧ hi ≤ b.hi a
      · exact ⟨a, List.mem_cons_self, hin⟩
      · -- the first member covers neither end, so it covers nothing of the interval
        have hout : ∀ n, lo ≤ n → n ≤ hi → Covers b l n := by
          intro n hlo hhi
          have hfirst := (covers_cons a l lo).mp (hcovers lo (Int.le_refl lo) hle)
          rcases hfirst with ⟨hal, hlo'⟩ | hl
          · have hhi' : b.hi a < hi := by
              by_contra hnot
              exact hin ⟨hal, by omega⟩
            have hnext := (covers_cons a l _).mp (hcovers (b.hi a + 1) (by omega) (by omega))
            rcases hnext with ⟨-, hbad⟩ | hl
            · omega
            · have := habove _ hl
              omega
          · have hlo' := habove lo hl
            rcases (covers_cons a l n).mp (hcovers n hlo hhi) with ⟨-, hbad⟩ | hn
            · omega
            · exact hn
        obtain ⟨a', ha', hcon⟩ := ih hrest hout
        exact ⟨a', List.mem_cons_of_mem a ha', hcon⟩

/-- What joining has to do with two intervals of which the second does not begin first. -/
structure Joins (b : Bounds α) (join : α → α → Option α) : Prop where
  joined : ∀ {a a' c}, b.lo a ≤ b.lo a' → join a a' = some c →
    b.lo c = b.lo a ∧ ∀ n, (b.lo c ≤ n ∧ n ≤ b.hi c) ↔
      (b.lo a ≤ n ∧ n ≤ b.hi a) ∨ (b.lo a' ≤ n ∧ n ≤ b.hi a')
  apart : ∀ {a a'}, b.lo a ≤ b.lo a' → join a a' = none → Gap b a a'

/-- The pass keeps the set and makes the list canonical; all lower bounds stay above those
that were there. -/
theorem joinTouching_spec
    {join : α → α → Option α} {l : List α}
    (hjoin : Joins b join)
    (hsorted : l.Pairwise fun a a' => b.lo a ≤ b.lo a') :
    Canonical b (joinTouching join l) ∧
      (∀ n, Covers b (joinTouching join l) n ↔ Covers b l n) := by
  induction l using joinTouching.induct join with
  | case1 =>
      exact ⟨by simp [joinTouching, Canonical], by simp [joinTouching]⟩
  | case2 a =>
      exact ⟨by simp [joinTouching, Canonical], by simp [joinTouching]⟩
  | case3 a a' rest joined hj ih =>
      obtain ⟨hfirst, htail⟩ := List.pairwise_cons.mp hsorted
      obtain ⟨hsecond, hrest⟩ := List.pairwise_cons.mp htail
      obtain ⟨hlo, hset⟩ := hjoin.joined (hfirst a' List.mem_cons_self) hj
      have hsorted' : (joined :: rest).Pairwise fun a a' => b.lo a ≤ b.lo a' := by
        refine List.pairwise_cons.mpr ⟨?_, hrest⟩
        intro c hc
        rw [hlo]
        exact hfirst c (List.mem_cons_of_mem a' hc)
      obtain ⟨hcanon, hcovers⟩ := ih hsorted'
      rw [joinTouching, hj]
      refine ⟨hcanon, ?_⟩
      intro n
      rw [hcovers, covers_cons, hset, covers_cons, covers_cons, or_assoc]
  | case4 a a' rest hj ih =>
      obtain ⟨hfirst, htail⟩ := List.pairwise_cons.mp hsorted
      obtain ⟨hcanon, hcovers⟩ := ih htail
      have hgap := hjoin.apart (hfirst a' List.mem_cons_self) hj
      rw [joinTouching, hj]
      constructor
      · refine List.pairwise_cons.mpr ⟨?_, hcanon⟩
        intro c hc
        -- the lower bound of a member is covered, hence not below that of the second
        have hin := (hcovers (b.lo c)).mp ⟨c, hc, Int.le_refl _, b.le c⟩
        have hlow : b.lo a' ≤ b.lo c := by
          rcases (covers_cons a' rest _).mp hin with ⟨hle, -⟩ | ⟨d, hd, hle, -⟩
          · exact hle
          · exact Int.le_trans ((List.pairwise_cons.mp htail).1 d hd) hle
        unfold Gap at hgap ⊢
        omega
      · intro n
        rw [covers_cons, hcovers, covers_cons a]

end IntervalLists
