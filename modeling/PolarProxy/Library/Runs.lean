import Mathlib.Order.Basic
import Mathlib.Tactic.Common

/-!
# Runs of a labelled transition system

A transition system is a relation `step : S → L → S → Prop`.  A run is a finite
chain of steps together with the list of labels it took.  Runs grow at the end,
so that an induction over a run looks at its last step, with the labels so far
available as the history of the state reached.

**Rules.**
* `Run.invariant`: what holds at the start and is kept by every step holds at
  the end.
* `Run.history_invariant`: the same for a statement about the state and the
  labels taken so far.
* `Run.le_of_step_le`: a measure that no step lowers is not lowered by a run.
* `Run.of_foldlM`, `Run.exists_of_foldlM_map`: evaluating a step function along its
  labels is a run.
-/

namespace Transition

universe u v w

variable {S : Type u} {L : Type v}

/-- A finite chain of steps, with the labels it took in order. -/
inductive Run (step : S → L → S → Prop) (s : S) : List L → S → Prop
  | nil : Run step s [] s
  | snoc {ls : List L} {t u : S} {l : L} :
      Run step s ls t →
      step t l u →
      Run step s (ls ++ [l]) u

namespace Run

variable {step : S → L → S → Prop} {s t : S} {ls : List L}

theorem single {l : L} (h : step s l t) : Run step s [l] t :=
  snoc nil h

theorem append
    {ms : List L} {u : S}
    (h : Run step s ls t)
    (h' : Run step t ms u) :
    Run step s (ls ++ ms) u := by
  induction h' with
  | nil =>
      simpa using h
  | snoc _ hstep ih =>
      rw [← List.append_assoc]
      exact snoc ih hstep

/-- What holds at the start and is kept by every step holds at the end, with
the labels taken so far as part of the statement. -/
theorem history_invariant
    {I : List L → S → Prop}
    (h : Run step s ls t)
    (hinit : I [] s)
    (hstep : ∀ {ls t l u}, I ls t → step t l u → I (ls ++ [l]) u) :
    I ls t := by
  induction h with
  | nil =>
      exact hinit
  | snoc _ hlast ih =>
      exact hstep ih hlast

/-- What holds at the start and is kept by every step holds at the end. -/
theorem invariant
    {I : S → Prop}
    (h : Run step s ls t)
    (hinit : I s)
    (hstep : ∀ {t l u}, I t → step t l u → I u) :
    I t :=
  history_invariant (I := fun _ t => I t) h hinit hstep

/-- A measure that no step lowers is not lowered by a run. -/
theorem le_of_step_le
    {α : Type w} [Preorder α]
    {f : S → α}
    (h : Run step s ls t)
    (hstep : ∀ {t l u}, step t l u → f t ≤ f u) :
    f s ≤ f t :=
  invariant (I := fun t => f s ≤ f t) h le_rfl
    (fun hle hlast => le_trans hle (hstep hlast))

/-- Evaluating a step function along a list of labels is a run. -/
theorem of_foldlM
    {f : S → L → Option S}
    (ls : List L)
    (h : ls.foldlM f s = some t) :
    Run (fun s l t => f s l = some t) s ls t := by
  induction ls generalizing s with
  | nil =>
      obtain rfl : s = t := by simpa using h
      exact nil
  | cons l rest ih =>
      rw [List.foldlM_cons] at h
      obtain ⟨u, hu, hrest⟩ := Option.bind_eq_some_iff.mp h
      exact (single hu).append (ih hrest)

/-- What an evaluation shows of its last state, a run ends in. -/
theorem exists_of_foldlM_map
    {α : Type w} {f : S → L → Option S} {g : S → α} {x : α}
    (ls : List L)
    (h : (ls.foldlM f s).map g = some x) :
    ∃ t, Run (fun s l t => f s l = some t) s ls t ∧ g t = x := by
  obtain ⟨t, ht, hx⟩ := Option.map_eq_some_iff.mp h
  exact ⟨t, of_foldlM ls ht, hx⟩

end Run

end Transition
