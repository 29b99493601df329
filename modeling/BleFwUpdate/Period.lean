import BleFwUpdate.General.Periods
import BleFwUpdate.Randomness

/-! How long the bytes of `get_rand_byte` go on before the register comes back. -/

namespace BleFwUpdate

open BitMaps Periods Function

/-- `reg` after a number of calls of `get_rand_byte`. -/
def afterCalls (initializer : UInt16) (calls : Nat) : UInt16 :=
  (fun reg => (getRandByte reg).2)^[calls] (initRandGenerator initializer)

def callBits : BitVec 16 → BitVec 16 := shiftBits^[8]

theorem xorLinear_callBits : XorLinear callBits := xorLinear_shiftBits.iterate 8

theorem toBitVec_afterCalls (initializer : UInt16) (calls : Nat) :
    (afterCalls initializer calls).toBitVec = callBits^[calls] initializer.toBitVec := by
  have call : (fun reg => (getRandByte reg).2) = shiftRegister^[8] := by
    funext reg
    rw [getRandByte_eq]
  have whole : initRandGenerator initializer = initializer := by
    apply UInt16.toBitVec_inj.mp
    exact BitVec.and_allOnes
  rw [afterCalls, call, whole, ← iterate_mul, toBitVec_iterate, iterate_mul, callBits]

theorem callBits_returns (bits : BitVec 16) : callBits^[65535] bits = bits := by
  refine (xorLinear_callBits.iterate 65535).ext xorLinear_id ?_ bits
  intro index inside
  rw [xorLinear_callBits.iterate_eq (show 65535 < 2 ^ 16 by decide)]
  have singles : ∀ index < 16, iterateBy (columnsOf callBits) 16 65535 (.twoPow 16 index) =
      .twoPow 16 index := by
    decide +kernel
  exact singles index inside

theorem injective_callBits : Injective callBits := by
  intro first second same
  rw [← callBits_returns first, ← callBits_returns second, iterate_succ_apply, same,
    ← iterate_succ_apply]

/-- 65535 divided by each of its primes, and the number of calls after which that many more make
the register differ by what it was at first. -/
def partners : List (Nat × Nat) :=
  [(65535 / 3, 21845), (65535 / 5, 48059), (65535 / 17, 48316), (65535 / 257, 49088)]

theorem callBits_partners {count rest : Nat} (pair : (count, rest) ∈ partners)
    (bits : BitVec 16) : callBits^[count + rest] bits ^^^ callBits^[rest] bits = bits := by
  have small : ∀ entry ∈ partners, entry.1 + entry.2 < 2 ^ 16 ∧ entry.2 < 2 ^ 16 := by decide
  have singles : ∀ entry ∈ partners, ∀ index < 16,
      iterateBy (columnsOf callBits) 16 (entry.1 + entry.2) (.twoPow 16 index) ^^^
        iterateBy (columnsOf callBits) 16 entry.2 (.twoPow 16 index) = .twoPow 16 index := by
    decide +kernel
  have linear := (xorLinear_callBits.iterate (count + rest)).xor (xorLinear_callBits.iterate rest)
  refine linear.ext xorLinear_id ?_ bits
  intro index inside
  rw [xorLinear_callBits.iterate_eq (small _ pair).1,
    xorLinear_callBits.iterate_eq (small _ pair).2]
  exact singles _ pair index inside

theorem primes_65535 {factor : Nat} (prime : factor.Prime) (divides : factor ∣ 65535) :
    ∃ rest, (65535 / factor, rest) ∈ partners := by
  have whole : 65535 = 3 * 5 * 17 * 257 := rfl
  have isPrime : Nat.Prime 3 ∧ Nat.Prime 5 ∧ Nat.Prime 17 ∧ Nat.Prime 257 := by decide +kernel
  rw [whole, prime.dvd_mul, prime.dvd_mul, prime.dvd_mul] at divides
  simp only [Nat.prime_dvd_prime_iff_eq prime, isPrime] at divides
  rcases divides with ((rfl | rfl) | rfl) | rfl <;> simp [partners]

theorem minimalPeriod_callBits {bits : BitVec 16} (nonzero : bits ≠ 0) :
    minimalPeriod callBits bits = 65535 := by
  refine minimalPeriod_eq_of_primes (callBits_returns bits) ?_
  intro factor prime divides returns
  obtain ⟨rest, pair⟩ := primes_65535 prime divides
  exact nonzero (eq_zero_of_returns (callBits_partners pair) returns)

/-- From every seed but zero the register goes through all its values but zero before it comes
back. -/
theorem getRandByte_fullPeriod (initializer : UInt16) (nonzero : initializer ≠ 0)
    (first second : Nat) (order : first ≤ second) :
    afterCalls initializer second ≠ 0 ∧
      (afterCalls initializer first = afterCalls initializer second ↔ 65535 ∣ second - first) ∧
      (getRandByte (afterCalls initializer second)).1.toNat =
        (afterCalls initializer second).toNat % 256 := by
  have bits : initializer.toBitVec ≠ 0 := fun zero => nonzero (UInt16.toBitVec_inj.mp zero)
  refine ⟨?_, ?_, ?_⟩
  · intro zero
    have last := congrArg UInt16.toBitVec zero
    rw [toBitVec_afterCalls] at last
    have fixed := (xorLinear_callBits.iterate second).zero
    exact bits (injective_callBits.iterate second (last.trans fixed.symm))
  · rw [← UInt16.toBitVec_inj, toBitVec_afterCalls, toBitVec_afterCalls,
      iterate_eq_iterate_iff injective_callBits order, minimalPeriod_callBits bits]
  · rw [getRandByte_eq]
    exact UInt16.toNat_toUInt8 _

theorem getRandByte_fullPeriod_timer :
    (0x1234 : UInt16) ≠ 0 ∧ (3 : Nat) ≤ 65538 ∧ afterCalls 0x1234 65538 ≠ 0 ∧
      (afterCalls 0x1234 3 = afterCalls 0x1234 65538 ↔ 65535 ∣ 65538 - 3) ∧
      (getRandByte (afterCalls 0x1234 65538)).1.toNat = (afterCalls 0x1234 65538).toNat % 256 :=
  ⟨by decide, by decide, getRandByte_fullPeriod 0x1234 (by decide) 3 65538 (by decide)⟩

end BleFwUpdate
