import Mathlib.Data.List.MinMax
import Mathlib.Data.List.Perm.Basic
import Mathlib.Data.Set.Insert
import Mathlib.Order.Lattice

/-!
# Reclamation by generations

Readers hold views of a changing collection.  An object that leaves the
collection is retired under the generation of the day and may be freed once no
view that is still held can name it.  Views carry the generation they were
published under, so the least generation that is still held is a cut-off:
whatever was retired before it is out of reach.

**Rules.**
* `Guarded`: a view names a retired object only if it is no younger than the
  retirement; kept by retiring, by publishing and by forgetting views.
* `Guarded.not_names_of_lt_cutoff`: what lies before the cut-off is not named.
* `release_perm`: releasing loses and duplicates nothing.
-/

namespace Reclaim

universe u v w

variable {V : Type u} {R : Type v} {α : Type w}

/-- The least generation of the views still held, or `d` when there is none. -/
def cutoff (gens : List Nat) (d : Nat) : Nat :=
  gens.min?.getD d

theorem lt_cutoff_iff
    {gens : List Nat} {d g : Nat} :
    g < cutoff gens d ↔ (∀ n ∈ gens, g < n) ∧ (gens = [] → g < d) := by
  unfold cutoff
  cases hmin : gens.min? with
  | none =>
      obtain rfl := List.min?_eq_none_iff.mp hmin
      simp
  | some m =>
      obtain ⟨hmem, hle⟩ := List.min?_eq_some_iff.mp hmin
      constructor
      · intro hlt
        refine ⟨fun n hn => lt_of_lt_of_le hlt (hle n hn), ?_⟩
        rintro rfl
        simp at hmem
      · intro h
        exact h.1 m hmem

/-- Split the retired records at a cut-off: what is released, what is kept. -/
def release (at_ : R → Nat) (before : Nat) : List R → List R × List R
  | [] => ([], [])
  | r :: rs =>
      let (out, kept) := release at_ before rs
      if at_ r < before then (r :: out, kept) else (out, r :: kept)

theorem release_eq
    (at_ : R → Nat) (before : Nat) (rs : List R) :
    release at_ before rs =
      (rs.filter (fun r => at_ r < before), rs.filter (fun r => ¬ at_ r < before)) := by
  induction rs with
  | nil =>
      rfl
  | cons r rest ih =>
      by_cases hr : at_ r < before
      · simp [release, ih, hr, not_le.mpr hr]
      · simp [release, ih, hr, not_lt.mp hr]

theorem release_perm
    (at_ : R → Nat) (before : Nat) (rs : List R) :
    ((release at_ before rs).1 ++ (release at_ before rs).2).Perm rs := by
  rw [release_eq]
  simpa only [decide_not] using
    List.filter_append_perm (fun r => decide (at_ r < before)) rs

section Guarded

variable {gen : V → Nat} {names : V → α → Prop}
variable {obj : R → α} {at_ : R → Nat}
variable {views : Set V} {retired : List R}

/-- A view names a retired object only if it was published no later than the
object was retired. -/
def Guarded (gen : V → Nat) (names : V → α → Prop) (obj : R → α) (at_ : R → Nat)
    (views : Set V) (retired : List R) : Prop :=
  ∀ v ∈ views, ∀ r ∈ retired, names v (obj r) → gen v ≤ at_ r

theorem Guarded.mono
    {views' : Set V} {retired' : List R}
    (h : Guarded gen names obj at_ views retired)
    (hviews : views' ⊆ views)
    (hretired : retired' ⊆ retired) :
    Guarded gen names obj at_ views' retired' :=
  fun v hv r hr => h v (hviews hv) r (hretired hr)

theorem Guarded.retire
    {r : R}
    (h : Guarded gen names obj at_ views retired)
    (hgen : ∀ v ∈ views, gen v ≤ at_ r) :
    Guarded gen names obj at_ views (retired ++ [r]) := by
  intro v hv r' hr' hnames
  rcases List.mem_append.mp hr' with hold | hnew
  · exact h v hv r' hold hnames
  · obtain rfl := List.mem_singleton.mp hnew
    exact hgen v hv

theorem Guarded.publish
    {v : V}
    (h : Guarded gen names obj at_ views retired)
    (hclean : ∀ r ∈ retired, ¬ names v (obj r)) :
    Guarded gen names obj at_ (insert v views) retired := by
  intro v' hv' r hr hnames
  rcases Set.mem_insert_iff.mp hv' with rfl | hold
  · exact absurd hnames (hclean r hr)
  · exact h v' hold r hr hnames

theorem Guarded.not_names_of_lt_cutoff
    {held : List V} {d : Nat} {r : R}
    (h : Guarded gen names obj at_ views retired)
    (hheld : ∀ v ∈ held, v ∈ views)
    (hr : r ∈ retired)
    (hlt : at_ r < cutoff (held.map gen) d)
    {v : V}
    (hv : v ∈ held) :
    ¬ names v (obj r) := by
  intro hnames
  have hle : gen v ≤ at_ r := h v (hheld v hv) r hr hnames
  have hgt : at_ r < gen v := (lt_cutoff_iff.mp hlt).1 _ (List.mem_map_of_mem hv)
  omega

end Guarded

end Reclaim
