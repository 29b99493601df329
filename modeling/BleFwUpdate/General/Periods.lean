import Mathlib.Data.Nat.Prime.Basic
import Mathlib.Dynamics.PeriodicPts.Defs

/-! After how many turns a map that is iterated comes back to a point. -/

namespace Periods

open Function

variable {α : Type} {map : α → α} {point : α}

/-- A point that comes back after some number of turns, but not after that number divided by any
of its primes, does not come back earlier. -/
theorem minimalPeriod_eq_of_primes {turns : Nat} (returns : IsPeriodicPt map turns point)
    (earlier : ∀ factor, factor.Prime → factor ∣ turns →
      ¬ IsPeriodicPt map (turns / factor) point) :
    minimalPeriod map point = turns := by
  obtain ⟨rest, whole⟩ := returns.minimalPeriod_dvd
  by_contra proper
  have several : rest ≠ 1 := by
    rintro rfl
    exact proper (by rw [whole, Nat.mul_one])
  obtain ⟨factor, prime, cofactor, rfl⟩ := Nat.exists_prime_and_dvd several
  have divides : turns = factor * (minimalPeriod map point * cofactor) := by
    rw [whole]
    exact Nat.mul_left_comm _ _ _
  refine earlier factor prime ⟨_, divides⟩ ?_
  rw [divides, Nat.mul_div_cancel_left _ prime.pos]
  exact (isPeriodicPt_minimalPeriod map point).mul_const cofactor

theorem iterate_eq_iterate_iff (injective : Injective map) {first second : Nat}
    (order : first ≤ second) :
    map^[first] point = map^[second] point ↔ minimalPeriod map point ∣ second - first := by
  have split : map^[second] point = map^[first] (map^[second - first] point) := by
    rw [← iterate_add_apply, Nat.add_sub_cancel' order]
  rw [← isPeriodicPt_iff_minimalPeriod_dvd, split, (injective.iterate first).eq_iff]
  exact eq_comm

end Periods
