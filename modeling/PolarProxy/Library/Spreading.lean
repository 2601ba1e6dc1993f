import Mathlib.Data.Nat.Count
import Mathlib.Algebra.Order.Floor.Semifield
import Mathlib.Data.Rat.Floor
import Mathlib.Tactic.Common
import Mathlib.Tactic.Linarith
import Mathlib.Tactic.Positivity
import Mathlib.Tactic.Ring

/-!
# Even spreading

Of every `S` consecutive numbers `w` are chosen, as evenly as integers allow: a number is chosen when
the share `n * w / S` that is due before it grows by it.  What is chosen before a number telescopes, so
every count is a difference of two shares.

**Rules.**
* `Chosen.mod_iff`: a number is chosen with its remainder modulo `S`.
* `count_chosen`: `n * w / S` numbers below `n` are chosen.
* `count_cycle`: of `S` consecutive numbers `w` are chosen, wherever they begin.
* `count_prefix`, `share_error`: from a multiple of `S` on the count is the share, rounded down.
-/

namespace Spreading

variable {w S : Nat}

/-- The share that is due grows by the number. -/
def Chosen (w S n : Nat) : Prop :=
  n * w / S < (n + 1) * w / S

instance : DecidablePred (Chosen w S) :=
  fun _ => inferInstanceAs (Decidable (_ < _))

theorem share_add_cycles
    (hS : 0 < S)
    (q n : Nat) :
    (q * S + n) * w / S = q * w + n * w / S := by
  have hsplit : (q * S + n) * w = n * w + S * (q * w) := by ring
  rw [hsplit, Nat.add_mul_div_left _ _ hS, Nat.add_comm]

namespace Chosen

theorem mod_iff
    (hS : 0 < S)
    (n : Nat) :
    Chosen w S (n % S) ↔ Chosen w S n := by
  have hshare := share_add_cycles (w := w) hS (n / S)
  have hn : n / S * S + n % S = n := Nat.div_add_mod' n S
  have hbefore := hshare (n % S)
  have hafter := hshare (n % S + 1)
  rw [← Nat.add_assoc] at hafter
  rw [hn] at hbefore hafter
  unfold Chosen
  omega

theorem all
    (hS : 0 < S)
    (n : Nat) :
    Chosen S S n := by
  unfold Chosen
  rw [Nat.mul_div_cancel _ hS, Nat.mul_div_cancel _ hS]
  exact Nat.lt_succ_self n

theorem none (n : Nat) : ¬ Chosen 0 S n := by
  unfold Chosen
  rw [Nat.mul_zero, Nat.mul_zero]
  exact Nat.lt_irrefl _

theorem half_iff (n : Nat) : Chosen 1 2 n ↔ n % 2 = 1 := by
  unfold Chosen
  omega

end Chosen

theorem share_succ_le
    (hw : w ≤ S)
    (hS : 0 < S)
    (n : Nat) :
    (n + 1) * w / S ≤ n * w / S + 1 := by
  calc (n + 1) * w / S
      = (n * w + w) / S := by rw [Nat.succ_mul]
    _ ≤ (n * w + S) / S := Nat.div_le_div_right (Nat.add_le_add_left hw _)
    _ = n * w / S + 1 := Nat.add_div_right _ hS

theorem count_chosen
    (hw : w ≤ S)
    (hS : 0 < S)
    (n : Nat) :
    Nat.count (Chosen w S) n = n * w / S := by
  induction n with
  | zero =>
      rw [Nat.count_zero, Nat.zero_mul, Nat.zero_div]
  | succ n ih =>
      have hle := share_succ_le hw hS n
      have hmono : n * w / S ≤ (n + 1) * w / S :=
        Nat.div_le_div_right (Nat.mul_le_mul_right _ (Nat.le_succ n))
      rw [Nat.count_succ, ih]
      by_cases h : Chosen w S n
      · rw [if_pos h]
        exact Nat.le_antisymm (Nat.succ_le_of_lt h) hle
      · rw [if_neg h]
        exact Nat.le_antisymm hmono (Nat.le_of_not_lt h)

theorem count_window
    (hw : w ≤ S)
    (hS : 0 < S)
    (a n : Nat) :
    a * w / S + Nat.count (fun k => Chosen w S (a + k)) n = (a + n) * w / S := by
  rw [← count_chosen hw hS a, ← count_chosen hw hS (a + n)]
  exact (Nat.count_add _ _ _).symm

theorem count_cycle
    (hw : w ≤ S)
    (hS : 0 < S)
    (a : Nat) :
    Nat.count (fun k => Chosen w S (a + k)) S = w := by
  have hwindow := count_window hw hS a S
  have hshare := share_add_cycles (w := w) hS 1 a
  rw [Nat.one_mul, Nat.one_mul, Nat.add_comm S a] at hshare
  omega

theorem count_prefix
    (hw : w ≤ S)
    (hS : 0 < S)
    (q n : Nat) :
    Nat.count (fun k => Chosen w S (q * S + k)) n = n * w / S := by
  have hwindow := count_window hw hS (q * S) n
  have hstart := share_add_cycles (w := w) hS q 0
  rw [Nat.add_zero, Nat.zero_mul, Nat.zero_div, Nat.add_zero] at hstart
  rw [hstart, share_add_cycles hS] at hwindow
  exact Nat.add_left_cancel hwindow

theorem share_error
    (hS : 0 < S)
    (n : Nat) :
    |((n * w / S : Nat) : ℚ) - (n : ℚ) * w / S| < 1 := by
  have hdiv : ((n * w / S : Nat) : ℚ) = (⌊((n * w : Nat) : ℚ) / (S : Nat)⌋₊ : ℚ) := by
    rw [Nat.floor_div_eq_div]
  have hnonneg : (0 : ℚ) ≤ (n : ℚ) * w / S := by positivity
  have hle := Nat.floor_le hnonneg
  have hlt := Nat.lt_floor_add_one ((n : ℚ) * w / S)
  rw [hdiv, Nat.cast_mul, abs_lt]
  constructor
  · linarith
  · linarith

end Spreading
