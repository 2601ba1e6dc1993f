import Mathlib.Tactic.Common

/-!
# Attempts

An attempt is a computation on a state that may give up.  It leaves a state behind in either case:
what it has done before it gives up is not undone.

`Ensures P m Q F` says that `m`, started in a state with `P`, either has a value `a` and a state
with `Q a`, or gives up in a state with `F`.

**Rules.**
* `Ensures.bind`, `Ensures.seq`: an attempt after another.
* `Ensures.forM`: an attempt for every element of a list, with an invariant on the elements done.
-/

namespace Attempts

universe u

/-- A computation on a state that may give up -/
def Attempt (σ α : Type u) : Type u :=
  σ → Option α × σ

variable {σ α β : Type u}

namespace Attempt

/-- Nothing is done. -/
def pure (a : α) : Attempt σ α :=
  fun s => (some a, s)

def bind (m : Attempt σ α) (f : α → Attempt σ β) : Attempt σ β := fun s =>
  match m s with
  | (some a, t) => f a t
  | (none, t) => (none, t)

instance : Monad (Attempt σ) where
  pure := Attempt.pure
  bind := Attempt.bind

/-- A change of the state -/
def modify (f : σ → σ) : Attempt σ PUnit :=
  fun s => (some ⟨⟩, f s)

/-- A value that is read from the state -/
def read (f : σ → α) : Attempt σ α :=
  fun s => (some (f s), s)

/-- A change of the state, after which the attempt gives up -/
def giveUp (f : σ → σ) : Attempt σ α :=
  fun s => (none, f s)

end Attempt

/-- What an attempt leaves behind -/
def Ensures
    (P : σ → Prop) (m : Attempt σ α) (Q : α → σ → Prop) (F : σ → Prop) : Prop :=
  ∀ s, P s → match m s with
    | (some a, t) => Q a t
    | (none, t) => F t

namespace Ensures

variable {P P' : σ → Prop} {Q Q' : α → σ → Prop} {R : β → σ → Prop} {F : σ → Prop}

theorem of_some
    {m : Attempt σ α} {s t : σ} {a : α}
    (h : Ensures P m Q F)
    (hs : P s)
    (heq : m s = (some a, t)) :
    Q a t := by
  have hm := h s hs
  rw [heq] at hm
  exact hm

theorem of_none
    {m : Attempt σ α} {s t : σ}
    (h : Ensures P m Q F)
    (hs : P s)
    (heq : m s = (none, t)) :
    F t := by
  have hm := h s hs
  rw [heq] at hm
  exact hm

theorem pure {a : α} (h : ∀ s, P s → Q a s) : Ensures P (Pure.pure a : Attempt σ α) Q F :=
  h

theorem modify {f : σ → σ} {Q : PUnit → σ → Prop} (h : ∀ s, P s → Q ⟨⟩ (f s)) :
    Ensures P (Attempt.modify f) Q F :=
  h

theorem giveUp {f : σ → σ} (h : ∀ s, P s → F (f s)) :
    Ensures P (Attempt.giveUp f : Attempt σ α) Q F :=
  h

/-- The rest of an attempt starts where its first part ends. -/
theorem bind
    {m : Attempt σ α} {f : α → Attempt σ β}
    (hm : Ensures P m Q F)
    (hf : ∀ a, Ensures (Q a) (f a) R F) :
    Ensures P (m >>= f) R F := by
  intro s hs
  have hdef : (m >>= f) s = Attempt.bind m f s := rfl
  rw [hdef, Attempt.bind]
  cases hrun : m s with
  | mk value t =>
      cases value with
      | some a =>
          exact hf a t (hm.of_some hs hrun)
      | none =>
          exact hm.of_none hs hrun

theorem seq
    {m : Attempt σ PUnit} {n : Attempt σ β} {Q : σ → Prop}
    (hm : Ensures P m (fun _ => Q) F)
    (hn : Ensures Q n R F) :
    Ensures P (do m; n) R F :=
  hm.bind fun _ => hn

theorem imp
    {m : Attempt σ α}
    (h : Ensures P m Q F)
    (hP : ∀ s, P' s → P s)
    (hQ : ∀ a s, Q a s → Q' a s) :
    Ensures P' m Q' F := by
  intro s hs
  have hm := h s (hP s hs)
  cases hrun : m s with
  | mk value t =>
      rw [hrun] at hm
      cases value with
      | some a =>
          exact hQ a t hm
      | none =>
          exact hm

/-- An attempt for every element of a list; the invariant knows the elements done. -/
theorem forM
    {I : List α → σ → Prop} {f : α → Attempt σ PUnit} (l : List α)
    (hf : ∀ done a, a ∈ l → Ensures (I done) (f a) (fun _ => I (done ++ [a])) F)
    (done : List α) :
    Ensures (I done) (l.forM f) (fun _ => I (done ++ l)) F := by
  induction l generalizing done with
  | nil =>
      rw [List.append_nil]
      exact pure fun _ hs => hs
  | cons a rest ih =>
      have hrest := ih (fun done b hb => hf done b (List.mem_cons_of_mem a hb)) (done ++ [a])
      rw [List.append_assoc] at hrest
      exact (hf done a List.mem_cons_self).seq hrest

end Ensures

end Attempts
