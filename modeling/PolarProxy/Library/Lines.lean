import Mathlib.Data.List.Lex
import Mathlib.Data.List.Sort

/-!
# Lines

A collection of records is written down as text: one line a record, the lines
sorted, each closed by a terminator.  The text says exactly which records there
were, with their multiplicities, as long as no line contains the terminator.

A text that arrives in parts has complete lines, and a rest that no terminator
closes yet.

**Rules.**
* `exists_terminated`, `complete_terminated`: the complete lines of a text and its rest.
* `terminated_inj`: terminated lines can be told apart.
* `sortedLines_inj`: sorted lines can be told apart up to order.
* `keyed_inj`: a key and a value, set apart by a mark the value does not contain.
-/

namespace Lines

universe u

variable {α : Type u}

/-- A mark that occurs in neither first part can be found again. -/
theorem append_mark_inj
    {mark : α} {a a' b b' : List α}
    (ha : mark ∉ a)
    (ha' : mark ∉ a') :
    a ++ mark :: b = a' ++ mark :: b' ↔ a = a' ∧ b = b' := by
  constructor
  · intro h
    induction a generalizing a' with
    | nil =>
        cases a' with
        | nil =>
            simpa using h
        | cons x rest =>
            obtain ⟨rfl, -⟩ := List.cons.inj h
            simp at ha'
    | cons y rest ih =>
        cases a' with
        | nil =>
            obtain ⟨rfl, -⟩ := List.cons.inj h
            simp at ha
        | cons x rest' =>
            obtain ⟨rfl, htail⟩ := List.cons.inj h
            obtain ⟨rfl, rfl⟩ := ih (fun hm => ha (List.mem_cons_of_mem _ hm))
              (fun hm => ha' (List.mem_cons_of_mem _ hm)) htail
            exact ⟨rfl, rfl⟩
  · rintro ⟨rfl, rfl⟩
    rfl

theorem keyed_inj
    {mark : α} {key key' value value' : List α}
    (hvalue : mark ∉ value)
    (hvalue' : mark ∉ value') :
    key ++ mark :: value = key' ++ mark :: value' ↔ key = key' ∧ value = value' := by
  rw [← List.reverse_inj]
  simp only [List.reverse_append, List.reverse_cons, List.append_assoc, List.singleton_append]
  rw [append_mark_inj (by simpa using hvalue) (by simpa using hvalue')]
  simp only [List.reverse_inj]
  exact and_comm

/-- Lines, each closed by a terminator. -/
def terminated (nl : α) (lines : List (List α)) : List α :=
  lines.flatMap fun line => line ++ [nl]

theorem terminated_inj
    {nl : α} {lines lines' : List (List α)}
    (h : ∀ line ∈ lines, nl ∉ line)
    (h' : ∀ line ∈ lines', nl ∉ line) :
    terminated nl lines = terminated nl lines' ↔ lines = lines' := by
  constructor
  · intro heq
    induction lines generalizing lines' with
    | nil =>
        cases lines' with
        | nil =>
            rfl
        | cons line rest =>
            simp [terminated] at heq
    | cons line rest ih =>
        cases lines' with
        | nil =>
            simp [terminated] at heq
        | cons line' rest' =>
            simp only [terminated, List.flatMap_cons, List.append_assoc,
              List.singleton_append] at heq
            obtain ⟨rfl, hrest⟩ := (append_mark_inj (h line (by simp)) (h' line' (by simp))).mp heq
            rw [ih (fun l hl => h l (List.mem_cons_of_mem _ hl))
              (fun l hl => h' l (List.mem_cons_of_mem _ hl)) hrest]
  · rintro rfl
    rfl

section Complete

variable [DecidableEq α]

/-- The lines of a text that a terminator closes. -/
def complete (nl : α) (text : List α) : List (List α) :=
  (text.splitOn nl).dropLast

theorem complete_of_not_mem
    {nl : α} {text : List α}
    (h : nl ∉ text) :
    complete nl text = [] := by
  rw [complete, List.splitOn_eq_singleton h]
  rfl

theorem complete_terminated
    {nl : α} {lines : List (List α)}
    (h : ∀ line ∈ lines, nl ∉ line)
    (rest : List α) :
    complete nl (terminated nl lines ++ rest) = lines ++ complete nl rest := by
  induction lines with
  | nil =>
      rfl
  | cons line lines ih =>
      have hline := h line List.mem_cons_self
      have hlines := ih (fun l hl => h l (List.mem_cons_of_mem _ hl))
      have hcons : terminated nl (line :: lines) ++ rest =
          line ++ nl :: (terminated nl lines ++ rest) := by
        simp [terminated]
      rw [complete, hcons, List.splitOn_append_cons_self_of_not_mem hline,
        List.dropLast_cons_of_ne_nil (List.splitOn_ne_nil _ _)]
      exact congrArg (line :: ·) hlines

theorem exists_terminated (nl : α) (text : List α) :
    ∃ lines rest, text = terminated nl lines ++ rest ∧ (∀ line ∈ lines, nl ∉ line) ∧ nl ∉ rest := by
  induction text with
  | nil =>
      exact ⟨[], [], rfl, by simp, by simp⟩
  | cons c text ih =>
      obtain ⟨lines, rest, rfl, hlines, hrest⟩ := ih
      by_cases hc : c = nl
      · subst hc
        refine ⟨[] :: lines, rest, by simp [terminated], ?_, hrest⟩
        intro line hline
        rcases List.mem_cons.mp hline with rfl | hline
        · simp
        · exact hlines line hline
      · cases lines with
        | nil =>
            refine ⟨[], c :: rest, rfl, by simp, ?_⟩
            intro hmem
            rcases List.mem_cons.mp hmem with rfl | hmem
            · exact hc rfl
            · exact hrest hmem
        | cons line lines =>
            refine ⟨(c :: line) :: lines, rest, by simp [terminated], ?_, hrest⟩
            intro line' hline'
            rcases List.mem_cons.mp hline' with rfl | hline'
            · intro hmem
              rcases List.mem_cons.mp hmem with rfl | hmem
              · exact hc rfl
              · exact hlines line List.mem_cons_self hmem
            · exact hlines line' (List.mem_cons_of_mem _ hline')

end Complete

section Sorted

variable [LinearOrder α]

/-- The lines in order, each closed by a terminator. -/
def sortedLines (nl : α) (lines : List (List α)) : List α :=
  terminated nl (lines.insertionSort (· ≤ ·))

theorem sortedLines_inj
    {nl : α} {lines lines' : List (List α)}
    (h : ∀ line ∈ lines, nl ∉ line)
    (h' : ∀ line ∈ lines', nl ∉ line) :
    sortedLines nl lines = sortedLines nl lines' ↔ lines.Perm lines' := by
  have hperm := List.perm_insertionSort (· ≤ ·) lines
  have hperm' := List.perm_insertionSort (· ≤ ·) lines'
  unfold sortedLines
  rw [terminated_inj (fun l hl => h l (hperm.mem_iff.mp hl)) fun l hl => h' l (hperm'.mem_iff.mp hl)]
  constructor
  · intro heq
    exact hperm.symm.trans (heq ▸ hperm')
  · intro hlines
    exact List.Perm.eq_of_pairwise' (List.pairwise_insertionSort _ _) (List.pairwise_insertionSort _ _)
      (hperm.trans (hlines.trans hperm'.symm))

end Sorted

end Lines
