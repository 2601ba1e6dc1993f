import Mathlib.Tactic.Common

/-!
# Exact outcomes

A computation that may stop with an error is specified by the values it returns and by an
error it never stops with.  `Exact bad x R` says that `x` returns exactly the value that has
the property `R`, if there is one, and does not stop with `bad`.

**Rules.**
* `Exact.bind`: a computation after another.
* `Exact.congr`: another form of the property.
* `Exact.ite`: a choice.
-/

namespace ExactOutcomes

universe u v

variable {ε : Type u} {α β : Type v} {bad : ε}

/-- `x` never stops with `bad`, and returns what `R` says. -/
structure Exact (bad : ε) (x : Except ε α) (R : α → Prop) : Prop where
  never : x ≠ .error bad
  iff : ∀ a, x = .ok a ↔ R a

namespace Exact

theorem pure (a : α) : Exact bad (.ok a : Except ε α) (fun b => b = a) where
  never := by simp
  iff := by
    intro b
    simp [eq_comm]

theorem error
    {e : ε}
    (he : e ≠ bad) :
    Exact bad (.error e : Except ε α) (fun _ => False) where
  never := by simpa using he
  iff := by simp

theorem congr
    {x : Except ε α} {R S : α → Prop}
    (h : Exact bad x R)
    (hRS : ∀ a, R a ↔ S a) :
    Exact bad x S where
  never := h.never
  iff := fun a => (h.iff a).trans (hRS a)

theorem bind
    {x : Except ε α} {f : α → Except ε β} {R : α → Prop} {S : α → β → Prop}
    (h : Exact bad x R)
    (hf : ∀ a, R a → Exact bad (f a) (S a)) :
    Exact bad (x >>= f) (fun b => ∃ a, R a ∧ S a b) := by
  cases x with
  | error e =>
      constructor
      · exact fun heq => h.never (by rw [Except.error.inj heq])
      · intro b
        constructor
        · intro heq
          cases heq
        · rintro ⟨a, ha, -⟩
          have hok := (h.iff a).mpr ha
          cases hok
  | ok a =>
      have ha := (h.iff a).mp rfl
      constructor
      · exact (hf a ha).never
      · intro b
        constructor
        · intro heq
          exact ⟨a, ha, ((hf a ha).iff b).mp heq⟩
        · rintro ⟨a', ha', hb⟩
          obtain rfl := Except.ok.inj ((h.iff a').mpr ha')
          exact ((hf a ha).iff b).mpr hb

theorem ite
    {c : Prop} [Decidable c] {x y : Except ε α} {R S : α → Prop}
    (hx : c → Exact bad x R)
    (hy : ¬ c → Exact bad y S) :
    Exact bad (if c then x else y) (fun a => (c ∧ R a) ∨ (¬ c ∧ S a)) := by
  by_cases hc : c
  · rw [if_pos hc]
    exact (hx hc).congr (fun a => by simp [hc])
  · rw [if_neg hc]
    exact (hy hc).congr (fun a => by simp [hc])

/-- The value that is returned is the only one with the property. -/
theorem eq
    {x : Except ε α} {R : α → Prop} {a b : α}
    (h : Exact bad x R)
    (ha : R a)
    (hb : R b) :
    a = b :=
  Except.ok.inj (((h.iff a).mpr ha).symm.trans ((h.iff b).mpr hb))

end Exact

end ExactOutcomes
