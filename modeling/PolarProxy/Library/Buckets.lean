import Mathlib.Data.List.AList
import Mathlib.Tactic.Common

/-!
# Buckets

A map from keys to lists of elements, in which a key may be present with an
empty list.  `bucket` does not tell such a bucket from a missing one; `empties`
counts the empty buckets that are present.

**Rules.**
* `bucket_put`, `bucket_drop`, `bucket_prune`: what each key holds afterwards.
* `empties_put`, `empties_drop`: the count follows the bucket that changed.
-/

namespace Buckets

universe u v

variable {κ : Type u} {α : Type v} [DecidableEq κ]

/-- Lists of elements by key. -/
abbrev Index (κ : Type u) (α : Type v) :=
  AList (fun _ : κ => List α)

/-- What a key holds; nothing when it is absent. -/
def bucket (m : Index κ α) (k : κ) : List α :=
  (m.lookup k).getD []

/-- Number of buckets that are present and empty. -/
def empties (m : Index κ α) : Nat :=
  m.entries.countP fun e => e.2.isEmpty

/-- Set what a key holds. -/
def put (m : Index κ α) (k : κ) (xs : List α) : Index κ α :=
  m.insert k xs

/-- Remove a bucket. -/
def drop (m : Index κ α) (k : κ) : Index κ α :=
  m.erase k

/-- Remove the empty buckets. -/
def prune (m : Index κ α) : Index κ α :=
  ⟨m.entries.filter fun e => !e.2.isEmpty,
    m.nodupKeys.sublist List.filter_sublist⟩

variable {m : Index κ α} {k k' : κ} {xs : List α}

@[simp]
theorem bucket_empty (k : κ) : bucket (∅ : Index κ α) k = [] := by
  simp [bucket]

omit [DecidableEq κ] in
@[simp]
theorem empties_empty : empties (∅ : Index κ α) = 0 :=
  rfl

theorem bucket_put :
    bucket (put m k xs) k' = if k' = k then xs else bucket m k' := by
  unfold bucket put
  split
  · rename_i h
    rw [h, AList.lookup_insert]
    rfl
  · rename_i h
    rw [AList.lookup_insert_ne h]

theorem bucket_drop :
    bucket (drop m k) k' = if k' = k then [] else bucket m k' := by
  unfold bucket drop
  split
  · rename_i h
    rw [h, AList.lookup_erase]
    rfl
  · rename_i h
    rw [AList.lookup_erase_ne h]

theorem empties_put :
    empties (put m k xs) = (if xs = [] then 1 else 0) + empties (drop m k) := by
  unfold empties put drop
  rw [AList.entries_insert, List.countP_cons]
  change List.countP _ (AList.erase k m).entries + _ = _
  cases xs with
  | nil =>
      simp [Nat.add_comm]
  | cons x xs =>
      simp

/-- The bucket of a key that is present, and all the others. -/
theorem entries_perm_drop
    (h : m.lookup k = some xs) :
    m.entries.Perm (⟨k, xs⟩ :: (drop m k).entries) := by
  obtain ⟨ys, before, after, hnotMem, hentries, herase⟩ :=
    List.exists_of_kerase (AList.lookup_isSome.mp (by rw [h]; rfl) : k ∈ m)
  have hmem : (⟨k, ys⟩ : Sigma fun _ : κ => List α) ∈ m.entries := by
    rw [hentries]
    simp
  obtain rfl : ys = xs :=
    Option.some.inj ((List.mem_dlookup m.nodupKeys hmem).symm.trans h)
  change m.entries.Perm (⟨k, ys⟩ :: m.entries.kerase k)
  rw [herase, hentries]
  exact List.perm_middle

theorem bucket_of_mem_entries
    {e : Sigma fun _ : κ => List α}
    (h : e ∈ m.entries) :
    bucket m e.1 = e.2 := by
  unfold bucket
  rw [show m.lookup e.1 = some e.2 from List.mem_dlookup m.nodupKeys h]
  rfl

theorem mem_entries_of_mem_bucket
    {x : α}
    (h : x ∈ bucket m k) :
    ∃ e ∈ m.entries, x ∈ e.2 := by
  unfold bucket at h
  cases hlookup : m.lookup k with
  | none =>
      simp [hlookup] at h
  | some xs =>
      rw [hlookup] at h
      exact ⟨⟨k, xs⟩, List.of_mem_dlookup hlookup, h⟩

theorem empties_drop
    (h : m.lookup k = some xs) :
    empties m = (if xs = [] then 1 else 0) + empties (drop m k) := by
  unfold empties
  rw [(entries_perm_drop h).countP_eq, List.countP_cons]
  cases xs with
  | nil =>
      simp [Nat.add_comm]
  | cons x xs =>
      simp

theorem drop_of_lookup_none
    (h : m.lookup k = none) :
    drop m k = m := by
  apply AList.ext
  exact List.kerase_of_notMem_keys (AList.lookup_eq_none.mp h)

omit [DecidableEq κ] in
@[simp]
theorem empties_prune : empties (prune m) = 0 := by
  unfold empties prune
  rw [List.countP_eq_zero]
  intro e he
  simpa using (List.mem_filter.mp he).2

@[simp]
theorem bucket_prune : bucket (prune m) k = bucket m k := by
  unfold bucket
  cases h : (prune m).lookup k with
  | some xs =>
      have hmem := List.of_mem_dlookup (show xs ∈ List.dlookup k (prune m).entries from h)
      have hlookup : m.lookup k = some xs :=
        List.mem_dlookup m.nodupKeys (List.mem_filter.mp hmem).1
      rw [hlookup]
  | none =>
      cases h' : m.lookup k with
      | none =>
          rfl
      | some xs =>
          cases xs with
          | nil =>
              rfl
          | cons x xs =>
              have hmem := List.of_mem_dlookup (show x :: xs ∈ List.dlookup k m.entries from h')
              have hkept : (prune m).lookup k = some (x :: xs) :=
                List.mem_dlookup (prune m).nodupKeys (List.mem_filter.mpr ⟨hmem, rfl⟩)
              rw [h] at hkept
              cases hkept

end Buckets
