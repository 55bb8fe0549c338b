import Mathlib.Algebra.Order.Field.Rat
import Mathlib.Algebra.Order.Field.Power
import Mathlib.Tactic.Linarith
import Mathlib.Tactic.Positivity
import TaskGraph.Execution.Iteration

/-!
# Numbers that are counts

A binary64 number is its magnitude, a natural number times a power of two, with its sign
(`Number.value?`). A loop takes a number for a count exactly if its value is a natural number
(`Iteration.count?_of_value`, `Iteration.count?_eq_none_iff`).
-/

set_option autoImplicit false

namespace TaskGraph

/-- The sign of a binary64 number. -/
def Number.sign (x : Float) : ℚ := if x.toBits.toNat / Nat.pow 2 63 = 0 then 1 else -1

/-- The value of a number; infinities and what is no number have none. -/
def Number.value? : Number → Option ℚ
  | .int n => some n
  | .float x =>
    if x.isFinite then
      some (Number.sign x * ((Expr.magnitude x).1 * (2 : ℚ) ^ (Expr.magnitude x).2))
    else none

/-- A natural number times a power of two is a natural number if the power, or what it divides by, allows
it. -/
theorem mul_zpow_eq_iff (m n : ℕ) (q : ℤ) :
    (m : ℚ) * 2 ^ q = n ↔
      if 0 ≤ q then n = m * Nat.pow 2 q.toNat else m = n * Nat.pow 2 (-q).toNat := by
  split
  · next hq =>
    obtain ⟨k, rfl⟩ := Int.eq_ofNat_of_zero_le hq
    rw [zpow_natCast, Int.toNat_natCast, Nat.pow_eq]
    constructor
    · intro h
      exact_mod_cast h.symm
    · intro h
      exact_mod_cast h.symm
  · next hq =>
    obtain ⟨k, hk⟩ := Int.eq_ofNat_of_zero_le (a := -q) (by omega)
    obtain rfl : q = -(k : ℤ) := by omega
    -- a power below one is divided by, and moves to the other side
    have hpow : (2 : ℚ) ^ k ≠ 0 := by positivity
    rw [zpow_neg, zpow_natCast, neg_neg, Int.toNat_natCast, Nat.pow_eq, ← div_eq_mul_inv,
      div_eq_iff hpow]
    constructor
    · intro h
      exact_mod_cast h
    · intro h
      exact_mod_cast h

namespace Iteration

/-- A magnitude with a sign is a natural number only if the sign does not count. -/
theorem signed_eq_iff (x : Float) (m n : ℕ) (q : ℤ) :
    Number.sign x * ((m : ℚ) * 2 ^ q) = n ↔
      (m = 0 ∨ x.toBits.toNat / Nat.pow 2 63 = 0) ∧ (m : ℚ) * 2 ^ q = n := by
  have hpow : (0 : ℚ) < 2 ^ q := by positivity
  unfold Number.sign
  by_cases hsign : x.toBits.toNat / Nat.pow 2 63 = 0
  · simp [hsign]
  · by_cases hm : m = 0
    · simp [hm]
    · -- a negative number is below every natural number
      have hpos : (0 : ℚ) < m * 2 ^ q := mul_pos (by exact_mod_cast Nat.pos_of_ne_zero hm) hpow
      have hn : (0 : ℚ) ≤ n := Nat.cast_nonneg n
      rw [if_neg hsign]
      constructor
      · intro h
        linarith
      · rintro ⟨h, -⟩
        exact absurd h (by simp [hm, hsign])

/-- A binary64 number is taken for the natural number that is its value. -/
theorem whole?_eq_some_iff {x : Float} {n : ℕ} :
    whole? x = some n ↔ (Number.float x).value? = some (n : ℚ) := by
  unfold whole? Number.value?
  dsimp only
  generalize Expr.magnitude x = p
  rcases p with ⟨m, q⟩
  dsimp only
  by_cases hfinite : x.isFinite = true
  · rw [if_pos hfinite, Option.some.injEq, signed_eq_iff, mul_zpow_eq_iff]
    -- `whole?` asks the same in its own order: for the sign, and then whether the fraction is
    -- divisible
    by_cases hsign : m = 0 ∨ x.toBits.toNat / Nat.pow 2 63 = 0
    · rw [if_pos ⟨hfinite, hsign⟩]
      rw [and_iff_right hsign]
      by_cases hq : 0 ≤ q
      · rw [if_pos hq, if_pos hq, Option.some.injEq, eq_comm]
      · have hpow : 0 < Nat.pow 2 (-q).toNat := Nat.pow_pos (by omega)
        rw [if_neg hq, if_neg hq]
        constructor
        · intro h
          split at h
          · next hmod =>
            cases h
            exact (Nat.div_mul_cancel (Nat.dvd_of_mod_eq_zero hmod)).symm
          · cases h
        · rintro rfl
          rw [if_pos (Nat.mul_mod_left ..), Nat.mul_div_cancel _ hpow]
    · rw [if_neg fun h => hsign h.2]
      constructor
      · intro h
        cases h
      · rintro ⟨h, -⟩
        exact absurd h hsign
  · rw [if_neg fun h => hfinite h.1, if_neg hfinite]
    simp

/-- A number whose value is a natural number counts as it. -/
theorem count?_of_value {k : Number} {n : ℕ} (h : k.value? = some (n : ℚ)) :
    count? k = some (min n most) := by
  cases k with
  | int i =>
    obtain rfl : i = (n : ℤ) := by
      have hcast : ((i : ℤ) : ℚ) = ((n : ℤ) : ℚ) := Option.some.inj h
      exact_mod_cast hcast
    rfl
  | float x =>
    show (whole? x).map _ = _
    rw [whole?_eq_some_iff.2 h]
    rfl

/-- No other number counts. -/
theorem count?_eq_none {k : Number} (h : ∀ n : ℕ, k.value? ≠ some (n : ℚ)) : count? k = none := by
  cases k with
  | int i =>
    cases i with
    | ofNat n => exact absurd rfl (h n)
    | negSucc n => rfl
  | float x =>
    show (whole? x).map _ = _
    rw [Option.map_eq_none_iff, Option.eq_none_iff_forall_ne_some]
    intro n hn
    exact h n (whole?_eq_some_iff.1 hn)

end Iteration

end TaskGraph
