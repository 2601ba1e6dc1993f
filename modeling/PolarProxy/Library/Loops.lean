import Mathlib.Tactic.Common

/-!
# Loops

A loop is a step function that says after each round whether the loop goes on.  It is run with a
number of rounds as its fuel.  A computation stops with a value, with a fault, or out of fuel.

`Meets fails m R` says that a value of `m` has the property `R` and that an error of it is one of
`fails`.  `Ends R P` says the same of a computation `P` that takes fuel, and that it has such an
outcome from some fuel on.

**Rules.**
* `Meets.bind`, `Meets.loop`: a computation after another, and the invariant of a loop.
* `Ends.bind`, `Ends.loop`: the same with a measure that every round lowers.
* `loop_outOfFuel`: states that a loop never leaves.
-/

namespace Loops

universe u v w

/-- Why a computation has no value -/
inductive Stop (φ : Type u)
  | fault (f : φ)
  | outOfFuel
  deriving DecidableEq

variable {φ : Type u} {ε : Type u} {α β σ : Type v}

/-- Rounds of a loop: after each the step says whether there is another. -/
def loop (step : σ → Except (Stop φ) (σ × Bool)) : Nat → σ → Except (Stop φ) σ
  | 0, _ => .error .outOfFuel
  | fuel + 1, s => do
      let r ← step s
      if r.2 then loop step fuel r.1 else return r.1

/-- The states that rounds of a loop reach -/
inductive Rounds (step : σ → Except (Stop φ) (σ × Bool)) (s : σ) : σ → Prop
  | refl : Rounds step s s
  | round {t u : σ} : Rounds step s t → step t = .ok (u, true) → Rounds step s u

variable {step : σ → Except (Stop φ) (σ × Bool)}

theorem Rounds.trans
    {s t u : σ}
    (h : Rounds step s t)
    (h' : Rounds step t u) :
    Rounds step s u := by
  induction h' with
  | refl =>
      exact h
  | round _ hstep ih =>
      exact .round ih hstep

theorem ok_bind (a : α) (f : α → Except ε β) : (.ok a >>= f) = f a :=
  rfl

/-- The values of a computation, and its errors. -/
def Meets (fails : ε → Prop) (m : Except ε α) (R : α → Prop) : Prop :=
  match m with
  | .ok a => R a
  | .error e => fails e

namespace Meets

variable {fails : ε → Prop} {m : Except ε α} {R S : α → Prop}

theorem ok {a : α} (h : R a) : Meets fails (.ok a) R :=
  h

theorem error {e : ε} (h : fails e) : Meets fails (.error e) R :=
  h

theorem of_ok
    {a : α}
    (h : Meets fails m R)
    (heq : m = .ok a) :
    R a := by
  rw [heq] at h
  exact h

theorem of_error
    {e : ε}
    (h : Meets fails m R)
    (heq : m = .error e) :
    fails e := by
  rw [heq] at h
  exact h

theorem exists_ok (h : Meets (fun _ => False) m R) : ∃ a, m = .ok a ∧ R a := by
  cases m with
  | ok a =>
      exact ⟨a, rfl, h⟩
  | error e =>
      exact h.elim

theorem mono
    {fails' : ε → Prop}
    (h : Meets fails m R)
    (hfails : ∀ e, fails e → fails' e)
    (hRS : ∀ a, R a → S a) :
    Meets fails' m S := by
  cases m with
  | ok a =>
      exact hRS a h
  | error e =>
      exact hfails e h

theorem imp
    (h : Meets fails m R)
    (hRS : ∀ a, R a → S a) :
    Meets fails m S :=
  h.mono (fun _ he => he) hRS

theorem any (h : Meets fails m R) : Meets fails m (fun _ => True) :=
  h.imp fun _ _ => trivial

theorem and
    {fails' : ε → Prop}
    (h : Meets fails m R)
    (h' : Meets fails' m S) :
    Meets fails m (fun a => R a ∧ S a) := by
  cases m with
  | ok a =>
      exact ⟨h, h'⟩
  | error e =>
      exact h

theorem value (h : Meets fails m R) : Meets fails m (fun a => R a ∧ m = .ok a) := by
  cases m with
  | ok a =>
      exact ⟨h, rfl⟩
  | error e =>
      exact h

theorem bind
    {f : α → Except ε β} {S : β → Prop}
    (h : Meets fails m R)
    (hf : ∀ a, R a → Meets fails (f a) S) :
    Meets fails (m >>= f) S := by
  cases m with
  | ok a =>
      exact hf a h
  | error e =>
      exact h

theorem ok_bind
    {a : α} {f : α → Except ε β} {S : β → Prop}
    (h : Meets fails (f a) S) :
    Meets fails (.ok a >>= f) S :=
  h

theorem ite
    {c : Prop} [Decidable c] {m' : Except ε α}
    (hpos : c → Meets fails m R)
    (hneg : ¬ c → Meets fails m' R) :
    Meets fails (if c then m else m') R := by
  split
  case isTrue hc =>
    exact hpos hc
  case isFalse hc =>
    exact hneg hc

theorem loop
    {fails : Stop φ → Prop} {I R : σ → Prop}
    (hfuel : fails .outOfFuel)
    (hstep : ∀ s, I s → Meets fails (step s) (fun r => if r.2 then I r.1 else R r.1))
    (fuel : Nat) (s : σ)
    (hs : I s) :
    Meets fails (Loops.loop step fuel s) R := by
  induction fuel generalizing s with
  | zero =>
      exact hfuel
  | succ fuel ih =>
      refine (hstep s hs).bind fun r hr => ?_
      split
      case isTrue hagain =>
        rw [if_pos hagain] at hr
        exact ih r.1 hr
      case isFalse hdone =>
        rw [if_neg hdone] at hr
        exact hr

theorem loop_measure
    {fails : Stop φ → Prop} {I R : σ → Prop}
    (μ : σ → Nat)
    (hstep : ∀ s, I s →
      Meets fails (step s) (fun r => if r.2 then I r.1 ∧ μ r.1 < μ s else R r.1))
    (fuel : Nat) (s : σ)
    (hs : I s)
    (hfuel : μ s < fuel) :
    Meets fails (Loops.loop step fuel s) R := by
  induction fuel generalizing s with
  | zero =>
      exact absurd hfuel (Nat.not_lt_zero _)
  | succ fuel ih =>
      refine (hstep s hs).bind fun r hr => ?_
      split
      case isTrue hagain =>
        rw [if_pos hagain] at hr
        exact ih r.1 hr.1 (by omega)
      case isFalse hdone =>
        rw [if_neg hdone] at hr
        exact hr

end Meets

theorem loop_outOfFuel
    {I : σ → Prop}
    (hstep : ∀ s, I s → ∃ s', step s = .ok (s', true) ∧ I s')
    (fuel : Nat) (s : σ)
    (hs : I s) :
    loop step fuel s = .error .outOfFuel := by
  induction fuel generalizing s with
  | zero =>
      rfl
  | succ fuel ih =>
      obtain ⟨s', heq, hs'⟩ := hstep s hs
      rw [loop, heq]
      exact ih s' hs'

/-- A loop has no value if it reaches a state from where it has none. -/
theorem loop_ne_ok_of_rounds
    {s t : σ}
    (h : Rounds step s t)
    (ht : ∀ fuel u, loop step fuel t ≠ .ok u)
    (fuel : Nat) (u : σ) :
    loop step fuel s ≠ .ok u := by
  induction h with
  | refl =>
      exact ht fuel u
  | round _ hstep ih =>
      refine ih fun fuel u => ?_
      cases fuel with
      | zero =>
          nofun
      | succ fuel =>
          rw [loop, hstep]
          exact ht fuel u

/-- From some fuel on the outcome is a fault or a value with the property. -/
def Ends (R : α → Prop) (P : Nat → Except (Stop φ) α) : Prop :=
  ∃ n m, (∀ fuel, n ≤ fuel → P fuel = m) ∧ Meets (· ≠ .outOfFuel) m R

namespace Ends

variable {P : Nat → Except (Stop φ) α} {R S : α → Prop}

theorem const
    {m : Except (Stop φ) α}
    (h : Meets (· ≠ .outOfFuel) m R) :
    Ends R (fun _ => m) :=
  ⟨0, m, fun _ _ => rfl, h⟩

theorem bind
    {Q : Nat → α → Except (Stop φ) β} {S : β → Prop}
    (h : Ends R P)
    (hQ : ∀ a, R a → Ends S (fun fuel => Q fuel a)) :
    Ends S (fun fuel => P fuel >>= Q fuel) := by
  obtain ⟨n, m, heq, hm⟩ := h
  cases m with
  | error e =>
      refine ⟨n, .error e, ?_, hm⟩
      intro fuel hfuel
      dsimp only
      rw [heq fuel hfuel]
      rfl
  | ok a =>
      obtain ⟨n', m', heq', hm'⟩ := hQ a hm
      refine ⟨max n n', m', ?_, hm'⟩
      intro fuel hfuel
      dsimp only
      rw [heq fuel (by omega)]
      exact heq' fuel (by omega)

/-- A loop whose rounds end and lower a measure.  The rounds take fuel themselves. -/
theorem loop
    {step : Nat → σ → Except (Stop φ) (σ × Bool)} {I R : σ → Prop}
    (μ : σ → Nat)
    (hstep : ∀ s, I s →
      Ends (fun r => if r.2 then I r.1 ∧ μ r.1 < μ s else R r.1) (fun fuel => step fuel s))
    (s : σ)
    (hs : I s) :
    Ends R (fun fuel => Loops.loop (step fuel) fuel s) := by
  -- the rounds that are left, however much fuel a round takes
  have hrounds : ∀ k s, I s → μ s < k →
      ∃ n m, (∀ fuel rounds, n ≤ fuel → k ≤ rounds → Loops.loop (step fuel) rounds s = m) ∧
        Meets (· ≠ .outOfFuel) m R := by
    intro k
    induction k with
    | zero =>
        intro s _ hμ
        exact absurd hμ (Nat.not_lt_zero _)
    | succ k ih =>
        intro s hs hμ
        obtain ⟨n, m, heq, hm⟩ := hstep s hs
        dsimp only at heq
        cases m with
        | error e =>
            refine ⟨n, .error e, ?_, hm⟩
            intro fuel rounds hfuel hle
            obtain ⟨rounds, rfl⟩ := Nat.exists_eq_succ_of_ne_zero (Nat.ne_zero_of_lt hle)
            rw [Loops.loop, heq fuel hfuel]
            rfl
        | ok r =>
            have hr := Meets.of_ok hm rfl
            by_cases hagain : r.2 = true
            · rw [if_pos hagain] at hr
              obtain ⟨n', m', heq', hm'⟩ := ih r.1 hr.1 (by omega)
              refine ⟨max n n', m', ?_, hm'⟩
              intro fuel rounds hfuel hle
              obtain ⟨rounds, rfl⟩ := Nat.exists_eq_succ_of_ne_zero (Nat.ne_zero_of_lt hle)
              rw [Loops.loop, heq fuel (by omega)]
              change (if r.2 = true then _ else _) = _
              rw [if_pos hagain]
              exact heq' fuel rounds (by omega) (by omega)
            · rw [if_neg hagain] at hr
              refine ⟨n, .ok r.1, ?_, hr⟩
              intro fuel rounds hfuel hle
              obtain ⟨rounds, rfl⟩ := Nat.exists_eq_succ_of_ne_zero (Nat.ne_zero_of_lt hle)
              rw [Loops.loop, heq fuel hfuel]
              change (if r.2 = true then _ else _) = _
              rw [if_neg hagain]
              rfl
  obtain ⟨n, m, heq, hm⟩ := hrounds (μ s + 1) s hs (Nat.lt_succ_self _)
  refine ⟨max n (μ s + 1), m, ?_, hm⟩
  intro fuel hfuel
  exact heq fuel fuel (by omega) (by omega)

theorem exists_ne
    (h : Ends R P) :
    ∃ fuel, P fuel ≠ .error .outOfFuel := by
  obtain ⟨n, m, heq, hm⟩ := h
  refine ⟨n, ?_⟩
  rw [heq n (Nat.le_refl n)]
  intro hfuel
  exact hm.of_error hfuel rfl

end Ends

end Loops
