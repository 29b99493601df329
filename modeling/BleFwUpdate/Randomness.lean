import Mathlib.Data.UInt
import BleFwUpdate.General.BitMaps
import BleFwUpdate.Cipher

/-! The register of `rand_generator.c`, bit by bit, and the bytes drawn from it. -/

namespace BleFwUpdate

open BitMaps

theorem getLsbD_shiftRegister (reg : UInt16) {index : Nat} (inside : index < 16) :
    (shiftRegister reg).toBitVec.getLsbD index =
      if index = 15 then
        reg.toBitVec.getLsbD 15 ^^ reg.toBitVec.getLsbD 13 ^^ reg.toBitVec.getLsbD 4 ^^
          reg.toBitVec.getLsbD 0
      else reg.toBitVec.getLsbD (index + 1) := by
  by_cases last : index = 15
  · subst last
    simp [shiftRegister]
  · have below : index - 15 = 0 := by omega
    have small : index < 15 := by omega
    have wide : index + 1 < 32 := by omega
    simp [shiftRegister, last, inside, small, Nat.add_comm 1 index, wide]

def shiftBits (bits : BitVec 16) : BitVec 16 := (shiftRegister ⟨bits⟩).toBitVec

theorem xorLinear_shiftBits : XorLinear shiftBits := by
  intro first second
  apply BitVec.eq_of_getLsbD_eq
  intro index inside
  simp only [shiftBits, BitVec.getLsbD_xor, getLsbD_shiftRegister _ inside]
  split
  · simp only [Bool.xor_assoc, Bool.xor_left_comm]
  · rfl

theorem toBitVec_iterate (count : Nat) (reg : UInt16) :
    (shiftRegister^[count] reg).toBitVec = shiftBits^[count] reg.toBitVec := by
  induction count generalizing reg with
  | zero => rfl
  | succ count ih => exact ih (shiftRegister reg)

theorem getLsbD_iterate (reg : UInt16) {count index : Nat} (inside : count + index < 16) :
    (shiftRegister^[count] reg).toBitVec.getLsbD index = reg.toBitVec.getLsbD (count + index) := by
  induction count generalizing reg with
  | zero => simp
  | succ count ih =>
      rw [Function.iterate_succ_apply, ih _ (by omega), getLsbD_shiftRegister _ (by omega),
        if_neg (by omega)]
      congr 1
      omega

theorem lowBit (reg : UInt16) :
    (reg &&& 1).toUInt8 = if reg.toBitVec.getLsbD 0 then 1 else 0 := by
  apply UInt8.toBitVec_inj.mp
  apply BitVec.eq_of_getLsbD_eq
  intro index inside
  cases bit : reg.toBitVec.getLsbD 0 with
  | false => by_cases first : index = 0 <;> simp_all
  | true => by_cases first : index = 0 <;> simp_all

theorem getLsbD_toUInt8 (reg : UInt16) {index : Nat} (small : index < 8) :
    reg.toUInt8.toBitVec.getLsbD index = reg.toBitVec.getLsbD index := by
  simp [small]

theorem byte_of_bits (byte : UInt8) :
    (List.range 8).foldl (fun sum index => sum +
      (if byte.toBitVec.getLsbD index then 1 else 0) <<< UInt8.ofNat index) 0 = byte := by
  have all : ∀ number < 256, (List.range 8).foldl (fun sum index => sum +
      (if (UInt8.ofNat number).toBitVec.getLsbD index then 1 else 0) <<< UInt8.ofNat index) 0 =
        UInt8.ofNat number := by
    decide +kernel
  have here := all byte.toNat byte.toNat_lt
  rwa [UInt8.ofNat_toNat] at here

/-- A call returns the low byte of the register, and moves it on by eight bits. -/
theorem getRandByte_eq (reg : UInt16) :
    getRandByte reg = (reg.toUInt8, shiftRegister^[8] reg) := by
  refine Prod.ext ?_ rfl
  have low : ∀ sum : UInt8, ∀ index ∈ List.range 8,
      sum + (shiftRegister^[index] reg &&& 1).toUInt8 <<< UInt8.ofNat index =
        sum + (if reg.toUInt8.toBitVec.getLsbD index then 1 else 0) <<< UInt8.ofNat index := by
    intro sum index member
    have small := List.mem_range.mp member
    rw [lowBit, getLsbD_iterate reg (by omega), getLsbD_toUInt8 reg small, Nat.add_zero]
  calc (getRandByte reg).1
    _ = (List.range 8).foldl (fun sum index =>
          sum + (shiftRegister^[index] reg &&& 1).toUInt8 <<< UInt8.ofNat index) 0 := rfl
    _ = (List.range 8).foldl (fun sum index => sum +
          (if reg.toUInt8.toBitVec.getLsbD index then 1 else 0) <<< UInt8.ofNat index) 0 :=
        List.foldl_ext _ _ _ low
    _ = reg.toUInt8 := byte_of_bits reg.toUInt8

theorem getRandBytes_eq (reg : UInt16) :
    getRandBytes reg = (#v[reg.toUInt8, (shiftRegister^[8] reg).toUInt8,
      (shiftRegister^[16] reg).toUInt8], shiftRegister^[24] reg) := by
  simp only [getRandBytes, getRandByte_eq, ← Function.iterate_add_apply]

/-- The first two of three bytes show the whole register. -/
theorem getRandBytes_injective {first second : UInt16}
    (same : (getRandBytes first).1 = (getRandBytes second).1) : first = second := by
  simp only [getRandBytes_eq] at same
  have low : first.toUInt8 = second.toUInt8 := congrArg (·[0]) same
  have high : (shiftRegister^[8] first).toUInt8 = (shiftRegister^[8] second).toUInt8 :=
    congrArg (·[1]) same
  apply UInt16.toBitVec_inj.mp
  apply BitVec.eq_of_getLsbD_eq
  intro index inside
  rcases Nat.lt_or_ge index 8 with small | large
  · rw [← getLsbD_toUInt8 first small, low, getLsbD_toUInt8 second small]
  · have rest : index - 8 < 8 := by omega
    have place : 8 + (index - 8) = index := by omega
    have shifted (reg : UInt16) : reg.toBitVec.getLsbD index =
        (shiftRegister^[8] reg).toUInt8.toBitVec.getLsbD (index - 8) := by
      rw [getLsbD_toUInt8 _ rest, getLsbD_iterate reg (by omega), place]
    rw [shifted, shifted, high]

/-- Of the registers that are not zero, none comes back after three bytes. -/
theorem eq_zero_of_threeBytes {reg : UInt16} (same : shiftRegister^[24] reg = reg) : reg = 0 := by
  have linear : XorLinear fun bits => shiftBits^[24] bits ^^^ id bits :=
    (xorLinear_shiftBits.iterate 24).xor xorLinear_id
  apply UInt16.toBitVec_inj.mp
  refine linear.eq_zero [0x771a, 0xee35, 0xdc6a, 0xb8d4, 0x06b2, 0x0d64, 0x1ac8, 0x3590, 0x6b21,
    0xd643, 0xac87, 0x590f, 0xb21f, 0x1325, 0x264b, 0x3b8d] (by decide +kernel) ?_
  rw [← toBitVec_iterate, same, id, BitVec.xor_self]
  rfl

theorem bumpIv_zero (iv : Iv) : bumpIv iv 0 = iv := by
  simp [bumpIv]

/-- The same three bytes are only drawn twice in a row if they leave every initialization vector
as it is. -/
theorem getRandBytes_differ {reg : UInt16} {iv : Iv} (moves : nextIv iv (getRandBytes reg).1 ≠ iv) :
    (getRandBytes (getRandBytes reg).2).1 ≠ (getRandBytes reg).1 := by
  intro same
  have again := getRandBytes_injective same
  rw [getRandBytes_eq] at again
  obtain rfl := eq_zero_of_threeBytes again
  have zeros : (getRandBytes 0).1 = #v[0, 0, 0] := by decide +kernel
  apply moves
  rw [zeros, nextIv]
  simp only [Vector.getElem_mk, List.getElem_toArray, List.getElem_cons_zero,
    List.getElem_cons_succ, bumpIv_zero]

end BleFwUpdate
