import Mathlib.Data.Nat.Digits.Lemmas
import Mathlib.Tactic.Common

/-! Byte strings read as little-endian 64-bit words, the last one filled up with zero bytes. -/

namespace LittleEndian

/-- The word whose bytes are the given ones, least significant first. -/
def word (bytes : List UInt8) : UInt64 :=
  UInt64.ofNat (Nat.ofDigits 256 (bytes.map UInt8.toNat))

def wordAt (bytes : List UInt8) (index : Nat) : UInt64 :=
  word ((bytes.drop (8 * index)).take 8)

def wordCount (bytes : List UInt8) : Nat := (bytes.length + 7) / 8

def byteOf (value : UInt64) (index : Nat) : UInt8 :=
  UInt8.ofNat (value.toNat / 256 ^ index)

theorem digits_lt (bytes : List UInt8) : ∀ digit ∈ bytes.map UInt8.toNat, digit < 256 := by
  intro digit member
  obtain ⟨byte, _, rfl⟩ := List.mem_map.mp member
  exact byte.toNat_lt

theorem ofDigits_lt (bytes : List UInt8) :
    Nat.ofDigits 256 (bytes.map UInt8.toNat) < 256 ^ bytes.length := by
  simpa using Nat.ofDigits_lt_base_pow_length (b := 256) (by decide) (digits_lt bytes)

theorem toNat_word (bytes : List UInt8) (short : bytes.length ≤ 8) :
    (word bytes).toNat = Nat.ofDigits 256 (bytes.map UInt8.toNat) := by
  have bound := ofDigits_lt bytes
  have top : 256 ^ bytes.length ≤ 256 ^ 8 := Nat.pow_le_pow_right (by decide) short
  rw [word, UInt64.toNat_ofNat']
  exact Nat.mod_eq_of_lt (by omega)

@[simp] theorem word_nil : word [] = 0 := rfl

theorem shifted_byte (byte position : UInt8) (small : position.toNat < 8) :
    byte.toUInt64 <<< (position.toUInt64 * 8) =
      UInt64.ofNat (256 ^ position.toNat * byte.toNat) := by
  have shift : 8 * position.toNat % 64 = 8 * position.toNat := by omega
  have power : 2 ^ (8 * position.toNat) = 256 ^ position.toNat := by
    rw [Nat.pow_mul]
  apply UInt64.toNat_inj.mp
  simp [UInt64.toNat_shiftLeft, Nat.shiftLeft_eq, Nat.mul_comm, shift, power]

theorem word_concat (bytes : List UInt8) (byte position : UInt8) (small : position.toNat < 8)
    (length : bytes.length = position.toNat) :
    word (bytes ++ [byte]) = word bytes + byte.toUInt64 <<< (position.toUInt64 * 8) := by
  rw [shifted_byte byte position small, word, word, ← UInt64.ofNat_add]
  simp [Nat.ofDigits_append, Nat.ofDigits_singleton, length]

theorem wordAt_append_left (front back : List UInt8) (index : Nat)
    (inside : 8 * (index + 1) ≤ front.length) :
    wordAt (front ++ back) index = wordAt front index := by
  have gap : 8 - (front.length - 8 * index) = 0 := by omega
  simp [wordAt, List.drop_append_of_le_length (show 8 * index ≤ front.length by omega),
    List.take_append, gap]

theorem wordAt_append_right (front back : List UInt8) (start index : Nat)
    (length : front.length = 8 * start) :
    wordAt (front ++ back) (start + index) = wordAt back index := by
  have past : 8 * (start + index) - front.length = 8 * index := by omega
  have none : front.drop (8 * (start + index)) = [] := List.drop_eq_nil_of_le (by omega)
  simp [wordAt, List.drop_append, past, none]

theorem wordAt_concat_new (bytes : List UInt8) (byte : UInt8) (index : Nat)
    (length : bytes.length = 8 * index) :
    wordAt (bytes ++ [byte]) index = byte.toUInt64 := by
  have first := wordAt_append_right bytes [byte] index 0 length
  rw [Nat.add_zero] at first
  rw [first]
  apply UInt64.toNat_inj.mp
  simp [wordAt, toNat_word [byte] (by simp), Nat.ofDigits_singleton]

theorem wordAt_concat_last (bytes : List UInt8) (byte position : UInt8) (index : Nat)
    (small : position.toNat < 8) (length : bytes.length = 8 * index + position.toNat) :
    wordAt (bytes ++ [byte]) index =
      wordAt bytes index + byte.toUInt64 <<< (position.toUInt64 * 8) := by
  have dropped : (bytes.drop (8 * index)).length = position.toNat := by
    rw [List.length_drop, length]
    omega
  have whole : (bytes.drop (8 * index)).take 8 = bytes.drop (8 * index) :=
    List.take_of_length_le (by omega)
  have longer : ((bytes ++ [byte]).drop (8 * index)).take 8 = bytes.drop (8 * index) ++ [byte] := by
    rw [List.drop_append_of_le_length (by omega), List.take_of_length_le (by simp; omega)]
  rw [wordAt, wordAt, whole, longer]
  exact word_concat _ byte position small dropped

theorem wordCount_append (front back : List UInt8) (count : Nat)
    (length : front.length = 8 * count) :
    wordCount (front ++ back) = count + wordCount back := by
  simp only [wordCount, List.length_append]
  omega

theorem byteOf_word (bytes : List UInt8) (index : Nat) (short : bytes.length ≤ 8) :
    byteOf (word bytes) index = bytes.getD index 0 := by
  have digit : (Nat.ofDigits 256 (bytes.map UInt8.toNat) / 256 ^ index) % 256 =
      (bytes.getD index 0).toNat := by
    rw [Nat.ofDigits_div_pow_eq_ofDigits_drop index (by decide) _ (digits_lt bytes)]
    rcases Nat.lt_or_ge index bytes.length with inside | outside
    · have small := bytes[index].toNat_lt
      rw [← List.map_drop, List.drop_eq_getElem_cons inside, List.map_cons, Nat.ofDigits_cons,
        Nat.add_mul_mod_self_left, Nat.mod_eq_of_lt small]
      simp [inside]
    · rw [List.drop_eq_nil_of_le (by simpa using outside)]
      simp [List.getD, outside]
  apply UInt8.toNat_inj.mp
  rw [byteOf, UInt8.toNat_ofNat', toNat_word bytes short, digit]

theorem byteOf_wordAt (bytes : List UInt8) (index offset : Nat) (small : offset < 8) :
    byteOf (wordAt bytes index) offset = bytes.getD (8 * index + offset) 0 := by
  rw [wordAt, byteOf_word _ offset (by simp)]
  simp [List.getD, List.getElem?_drop, small]

end LittleEndian
