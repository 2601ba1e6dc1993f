import Mathlib.Data.List.AList
import Mathlib.Data.List.Perm.Subperm
import Mathlib.Tactic.Common

/-!
# Maps that index a list

A list of records is often kept together with maps that find its elements: a map
from a field that no two elements share to the element, and a map from a field to
the elements that have it, in the order of the list.

**Rules.**
* `IndexedBy.insert`, `IndexedBy.erase`: a unique index follows an element that
  comes last and an element that leaves.
* `IndexedBy.lookup_of_mem`, `IndexedBy.exists_of_lookup`: what it finds.
* `GroupedBy.insert`, `GroupedBy.erase`: the same for a map of groups.
-/

namespace Indexes

universe u v w

variable {κ : Type u} {α : Type v} {β : Type w}

/-- The entries of a map are the elements of a list under a field of theirs. -/
def IndexedBy (m : AList fun _ : κ => β) (f : α → κ) (g : α → β) (l : List α) : Prop :=
  m.entries.Perm (l.map fun x => ⟨f x, g x⟩)

namespace IndexedBy

variable {m : AList fun _ : κ => β} {f : α → κ} {g : α → β} {l : List α}

theorem empty : IndexedBy (∅ : AList fun _ : κ => β) f g [] :=
  List.Perm.refl _

theorem length_eq
    (h : IndexedBy m f g l) :
    m.entries.length = l.length := by
  rw [List.Perm.length_eq h, List.length_map]

theorem keys_perm
    (h : IndexedBy m f g l) :
    m.keys.Perm (l.map f) := by
  have hkeys := h.map Sigma.fst
  rwa [List.map_map] at hkeys

theorem nodup
    (h : IndexedBy m f g l) :
    (l.map f).Nodup :=
  h.keys_perm.nodup_iff.mp m.keys_nodup

variable [DecidableEq κ]

theorem lookup_of_mem
    {x : α}
    (h : IndexedBy m f g l)
    (hx : x ∈ l) :
    m.lookup (f x) = some (g x) := by
  have hmem : (⟨f x, g x⟩ : Sigma fun _ : κ => β) ∈ m.entries :=
    h.mem_iff.mpr (List.mem_map.mpr ⟨x, hx, rfl⟩)
  exact AList.mem_lookup_iff.mpr hmem

theorem exists_of_lookup
    {k : κ} {b : β}
    (h : IndexedBy m f g l)
    (hk : m.lookup k = some b) :
    ∃ x ∈ l, f x = k ∧ g x = b := by
  have hmem : (⟨k, b⟩ : Sigma fun _ : κ => β) ∈ m.entries :=
    AList.mem_lookup_iff.mp hk
  obtain ⟨x, hx, heq⟩ := List.mem_map.mp (h.mem_iff.mp hmem)
  cases heq
  exact ⟨x, hx, rfl, rfl⟩

theorem lookup_eq_none_iff
    {k : κ}
    (h : IndexedBy m f g l) :
    m.lookup k = none ↔ ∀ x ∈ l, f x ≠ k := by
  rw [AList.lookup_eq_none, AList.mem_keys, h.keys_perm.mem_iff]
  simp

theorem insert
    {x : α}
    (h : IndexedBy m f g l)
    (hnew : m.lookup (f x) = none) :
    IndexedBy (m.insert (f x) (g x)) f g (l ++ [x]) := by
  rw [IndexedBy, AList.entries_insert_of_notMem (AList.lookup_eq_none.mp hnew), List.map_append]
  exact (h.cons _).trans (List.perm_append_singleton _ _).symm

theorem erase
    {x : α} {a b : List α}
    (h : IndexedBy m f g (a ++ x :: b)) :
    IndexedBy (m.erase (f x)) f g (a ++ b) := by
  have hlookup := h.lookup_of_mem (x := x) (by simp)
  have hkey : f x ∈ m.entries.keys := AList.lookup_isSome.mp (by rw [hlookup]; rfl)
  obtain ⟨y, l₁, l₂, -, hentries, herase⟩ := List.exists_of_kerase hkey
  obtain rfl : y = g x := by
    have hmem : m.lookup (f x) = some y := AList.mem_lookup_iff.mpr (by simp [hentries])
    rw [hlookup] at hmem
    exact (Option.some.inj hmem).symm
  have hperm : (⟨f x, g x⟩ :: (l₁ ++ l₂)).Perm
      (⟨f x, g x⟩ :: (a ++ b).map fun y => (⟨f y, g y⟩ : Sigma fun _ : κ => β)) := by
    have hleft : m.entries.Perm (⟨f x, g x⟩ :: (l₁ ++ l₂)) := by
      rw [hentries]
      exact List.perm_middle
    refine (hleft.symm.trans h).trans ?_
    rw [List.map_append, List.map_cons, List.map_append]
    exact List.perm_middle
  rw [IndexedBy, show (m.erase (f x)).entries = l₁ ++ l₂ from herase]
  exact hperm.cons_inv

end IndexedBy

variable [DecidableEq κ]

/-- A map from a field to the elements of a list that have it; no group is empty. -/
def GroupedBy (m : AList fun _ : κ => List α) (f : α → κ) (l : List α) : Prop :=
  ∀ k, m.lookup k =
    if l.filter (fun x => f x = k) = [] then none else some (l.filter fun x => f x = k)

namespace GroupedBy

variable {m : AList fun _ : κ => List α} {f : α → κ} {l : List α}

theorem empty : GroupedBy (∅ : AList fun _ : κ => List α) f [] := by
  intro k
  simp

/-- What a key stands for, when an absent key stands for nothing. -/
theorem getD_eq
    (h : GroupedBy m f l)
    (k : κ) :
    (m.lookup k).getD [] = l.filter fun x => f x = k := by
  rw [h k]
  split
  · rename_i hnil
    exact hnil.symm
  · rfl

theorem lookup_of_mem
    {x : α}
    (h : GroupedBy m f l)
    (hx : x ∈ l) :
    m.lookup (f x) = some (l.filter fun y => f y = f x) := by
  have hmem : x ∈ l.filter fun y => f y = f x := by
    simpa using hx
  rw [h (f x), if_neg (List.ne_nil_of_mem hmem)]

theorem insert
    {x : α}
    (h : GroupedBy m f l) :
    GroupedBy (m.insert (f x) ((m.lookup (f x)).getD [] ++ [x])) f (l ++ [x]) := by
  intro k
  by_cases hk : k = f x
  · subst hk
    rw [AList.lookup_insert, h.getD_eq, List.filter_append]
    simp
  · rw [AList.lookup_insert_ne hk, h k, List.filter_append]
    have hne : ¬ f x = k := fun heq => hk heq.symm
    simp [hne]

/-- An element leaves its group, and the group goes when it was the last one. -/
theorem erase
    {x : α} {a b : List α}
    (h : GroupedBy m f (a ++ x :: b)) :
    GroupedBy
      (if (a ++ b).filter (fun y => f y = f x) = [] then m.erase (f x)
        else m.insert (f x) ((a ++ b).filter fun y => f y = f x)) f (a ++ b) := by
  intro k
  by_cases hk : k = f x
  · subst hk
    split
    · exact AList.lookup_erase _ _
    · exact AList.lookup_insert _
  · have hrest : (a ++ x :: b).filter (fun y => f y = k) = (a ++ b).filter fun y => f y = k := by
      have hne : ¬ f x = k := fun heq => hk heq.symm
      simp [List.filter_append, hne]
    rw [← hrest, ← h k]
    split
    · exact AList.lookup_erase_ne hk
    · exact AList.lookup_insert_ne hk

end GroupedBy

end Indexes
