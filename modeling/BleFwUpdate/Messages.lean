import BleFwUpdate.Host
import BleFwUpdate.Session

/-! The messages the host builds, as the device reads them. -/

namespace BleFwUpdate

theorem numBytes_ofBytes {bytes : List UInt8} (short : bytes.length ≤ 20) :
    (Packet.ofBytes bytes short).numBytes = UInt8.ofNat bytes.length := rfl

theorem mem_ofBytes {bytes : List UInt8} (short : bytes.length ≤ 20) (index : Nat) :
    (Packet.ofBytes bytes short).mem index = bytes.getD index 0 := by
  simp [Packet.ofBytes]

theorem slice_ofBytes {bytes : List UInt8} (short : bytes.length ≤ 20) {start count : Nat}
    (inside : start + count ≤ bytes.length) :
    (Packet.ofBytes bytes short).slice start count = (bytes.drop start).take count := by
  apply List.ext_getElem
  · simp
    omega
  · intro index first second
    simp only [Packet.length_slice] at first
    have bound : start + index < bytes.length := by omega
    have taken : (Packet.ofBytes bytes short).mem ((start + index : Nat) : Int) =
        bytes[start + index] := by
      rw [mem_ofBytes]
      simp [List.getD, bound]
    simpa [Packet.slice] using taken

theorem slice_write (packet : Packet) (start : Nat) {bytes : List UInt8} {count : Nat}
    (inside : count ≤ bytes.length) :
    (packet.write start bytes).slice start count = bytes.take count := by
  apply List.ext_getElem
  · simp [inside]
  · intro index first second
    have bound : index < bytes.length := by
      rw [List.length_take] at second
      omega
    simp [Packet.slice, Packet.write, bound]

theorem sumPayload_eq (packet : Packet) (start stop : UInt8) :
    sumPayload packet.mem start stop =
      (packet.slice start.toNat (stop.toNat + 1 - start.toNat)).sum := by
  have fold : ∀ (indices : List Nat) (sum : UInt8),
      indices.foldl (fun sum (index : Nat) => sum + packet.mem index) sum =
        sum + (indices.map fun (index : Nat) => packet.mem index).sum := by
    intro indices
    induction indices with
    | nil => simp
    | cons index rest ih =>
        intro sum
        simp [ih, UInt8.add_assoc]
  rw [sumPayload, fold, UInt8.zero_add, Packet.slice]

theorem bigEndian_ofNat (number : Nat) :
    ((UInt8.ofNat (number / 256)).toUInt16 <<< 8) + (UInt8.ofNat number).toUInt16 =
      UInt16.ofNat number := by
  apply UInt16.toNat_inj.mp
  simp [Nat.shiftLeft_eq]
  omega

theorem length_ljust {size : Nat} {chunk : List UInt8} (fits : chunk.length ≤ size) :
    (ljust size chunk).length = size := by
  simp [ljust]
  omega

theorem length_rawMsg {chunk : List UInt8} (fits : chunk.length ≤ 16) (number : Nat) :
    (rawMsg number chunk).length = 20 := by
  simp [rawMsg, length_ljust fits]

def rawPacket (number : Nat) (chunk : List UInt8) (fits : chunk.length ≤ 16) : Packet :=
  Packet.ofBytes (rawMsg number chunk) (Nat.le_of_eq (length_rawMsg fits number))

section Raw

variable {number : Nat} {chunk : List UInt8} (fits : chunk.length ≤ 16)

theorem numBytes_rawPacket : (rawPacket number chunk fits).numBytes = 20 := by
  rw [rawPacket, numBytes_ofBytes, length_rawMsg fits]
  rfl

theorem slice_rawPacket : (rawPacket number chunk fits).slice 3 16 = ljust 16 chunk := by
  have length := length_ljust fits
  have whole := length_rawMsg fits number
  rw [rawPacket, slice_ofBytes _ (by omega)]
  have split : (rawMsg number chunk).drop 3 = ljust 16 chunk ++ [(ljust 16 chunk).sum] := rfl
  rw [split, List.take_append_of_le_length (by omega), List.take_of_length_le (by omega)]

theorem number_rawPacket :
    (rawPacket number chunk fits).number 1 = UInt16.ofNat number := bigEndian_ofNat number

theorem verify_rawPacket :
    verifyDataType (rawPacket number chunk fits) .writeFlashPacket = true := by
  have first : (rawPacket number chunk fits).mem 0 = writeFlashPacketCmd := rfl
  have length := length_ljust fits
  have last : (rawPacket number chunk fits).mem 19 = (ljust 16 chunk).sum := by
    have at19 := mem_ofBytes (Nat.le_of_eq (length_rawMsg fits number)) 19
    have front : ([0xbb, UInt8.ofNat (number / 256), UInt8.ofNat number] ++
        ljust 16 chunk).length = 19 := by simp [length]
    rw [rawPacket, show (19 : Int) = (19 : Nat) from rfl, at19, rawMsg, List.getD,
      List.getElem?_append_right (by omega), front]
    rfl
  simp only [verifyDataType, first, ne_eq, not_true_eq_false, if_false]
  rw [numBytes_rawPacket, sumPayload_eq]
  have stop : ((20 : UInt8) - 2).toNat + 1 - (3 : UInt8).toNat = 16 := rfl
  rw [stop, show ((3 : UInt8).toNat) = 3 from rfl, slice_rawPacket,
    show (((20 : UInt8).toNat : Int) - 1) = 19 from rfl, last]
  simp

theorem accepts_rawPacket {device : Device} (small : number < 65536)
    (count : device.countPck.toNat = number) :
    accepts .raw (rawPacket number chunk fits) device = true := by
  have same : UInt16.ofNat number = device.countPck :=
    UInt16.toNat_inj.mp (by rw [count, UInt16.toNat_ofNat', Nat.mod_eq_of_lt small])
  simp [accepts, Mode.dataType, verify_rawPacket, numbered, number_rawPacket fits, same]

theorem payload_rawPacket (gcm : AesGcm) (hardware : Hardware) (device : Device) :
    payload gcm hardware .raw (rawPacket number chunk fits) device = ljust 16 chunk := by
  rw [payload, numBytes_rawPacket]
  exact slice_rawPacket fits

end Raw

section Secure

variable {gcm : AesGcm} {iv : Iv} {number : Int} {chunk : List UInt8}

theorem length_secureMsg (lawful : gcm.Lawful) (iv : Iv) (number : Int)
    (fits : chunk.length ≤ 15) : (secureMsg gcm iv number chunk).length = 20 := by
  simp [secureMsg, AesGcm.encrypt, lawful.length_ctr, lawful.length_mac, length_ljust fits]

def securePacket (lawful : gcm.Lawful) (iv : Iv) (number : Int) (chunk : List UInt8)
    (fits : chunk.length ≤ 15) : Packet :=
  Packet.ofBytes (secureMsg gcm iv number chunk)
    (Nat.le_of_eq (length_secureMsg lawful iv number fits))

variable (lawful : gcm.Lawful) (fits : chunk.length ≤ 15)

theorem numBytes_securePacket : (securePacket lawful iv number chunk fits).numBytes = 20 := by
  rw [securePacket, numBytes_ofBytes, length_secureMsg lawful iv number fits]
  rfl

def secureHeader (number : Int) : UInt8 := 0xc0 ||| UInt8.ofNat (number % 16).toNat

theorem mem_securePacket :
    (securePacket lawful iv number chunk fits).mem 0 = secureHeader number := rfl

theorem secureHeader_digits {low : Nat} (small : low < 16) :
    (0xc0 ||| UInt8.ofNat low) >>> 4 = (0xc : UInt8) ∧
      ((0xc0 ||| UInt8.ofNat low) &&& 0xf).toUInt16 = UInt16.ofNat low := by
  have all : ∀ low < 16, (0xc0 ||| UInt8.ofNat low) >>> 4 = (0xc : UInt8) ∧
      ((0xc0 ||| UInt8.ofNat low) &&& 0xf).toUInt16 = UInt16.ofNat low := by decide
  exact all low small

theorem secureHeader_digit (number : Int) : secureHeader number >>> 4 = 0xc :=
  (secureHeader_digits (by omega)).1

theorem accepts_secureHeader {packet : Packet} {device : Device}
    (header : packet.mem 0 = secureHeader device.countPck.toNat) :
    accepts .secure packet device = true := by
  have low : ((device.countPck.toNat : Int) % 16).toNat = device.countPck.toNat % 16 := by omega
  have digits := secureHeader_digits (Nat.mod_lt device.countPck.toNat (by decide : 0 < 16))
  rw [secureHeader, low] at header
  have number : UInt16.ofNat (device.countPck.toNat % 16) = device.countPck % 16 := by
    apply UInt16.toNat_inj.mp
    rw [UInt16.toNat_mod, UInt16.toNat_ofNat']
    exact Nat.mod_eq_of_lt (by simp; omega)
  simp [accepts, Mode.dataType, verifyDataType, numbered, header, digits.1, digits.2, number,
    writeSecureFlashPacketCmd]

theorem accepts_securePacket {device : Device} {count : Nat}
    (same : device.countPck.toNat = count) :
    accepts .secure (securePacket lawful iv count chunk fits) device = true :=
  accepts_secureHeader (by rw [mem_securePacket, same])

theorem payload_securePacket (hardware : Hardware) {device : Device}
    (same : iv = nextIv device.iv device.randIv) :
    payload gcm hardware .secure (securePacket lawful iv number chunk fits) device =
      ljust 15 chunk := by
  have length := length_ljust fits
  have whole := length_secureMsg lawful iv number fits
  have cipherLength : (gcm.encrypt iv [secureHeader number] (ljust 15 chunk)).1.length = 15 := by
    simp [AesGcm.encrypt, lawful.length_ctr, length]
  have tagLength : (gcm.encrypt iv [secureHeader number] (ljust 15 chunk)).2.length = 4 := by
    simp [AesGcm.encrypt, lawful.length_mac]
  have msg : secureMsg gcm iv number chunk = secureHeader number ::
      ((gcm.encrypt iv [secureHeader number] (ljust 15 chunk)).1 ++
        (gcm.encrypt iv [secureHeader number] (ljust 15 chunk)).2) := rfl
  have addData : (securePacket lawful iv number chunk fits).slice 0 1 = [secureHeader number] := by
    rw [securePacket, slice_ofBytes _ (by omega), msg]
    rfl
  have ciphertext : (securePacket lawful iv number chunk fits).slice 1 15 =
      (gcm.encrypt iv [secureHeader number] (ljust 15 chunk)).1 := by
    rw [securePacket, slice_ofBytes _ (by omega), msg, List.drop_one, List.tail_cons,
      List.take_append_of_le_length (by omega), List.take_of_length_le (by omega)]
  have tag : (securePacket lawful iv number chunk fits).slice 16 aesTagLen =
      (gcm.encrypt iv [secureHeader number] (ljust 15 chunk)).2 := by
    rw [securePacket, slice_ofBytes _ (by simp [aesTagLen]; omega), msg, List.drop_succ_cons,
      List.drop_append_of_le_length (by omega), List.drop_of_length_le (by omega), List.nil_append,
      List.take_of_length_le (by simp [aesTagLen]; omega)]
  have decrypted := lawful.decrypt_encrypt iv [secureHeader number] (ljust 15 chunk)
  rw [payload, decryptData, addData, ciphertext, tag, ← same, decrypted, numBytes_securePacket]
  have written := slice_write (securePacket lawful iv number chunk fits) 1
    (Nat.le_of_eq length.symm)
  rw [List.take_of_length_le (Nat.le_of_eq length)] at written
  exact written

end Secure

def startPacket (cmd app : UInt8) (number : Nat) : Packet :=
  Packet.ofBytes [cmd, app, UInt8.ofNat (number / 256), UInt8.ofNat number,
    UInt8.ofNat (number / 256) + UInt8.ofNat number] (by simp)

theorem number_startPacket (cmd app : UInt8) (number : Nat) :
    (startPacket cmd app number).number 2 = UInt16.ofNat number := bigEndian_ofNat number

def Mode.startCmd : Mode → UInt8
  | .raw => startFlashModeCmd
  | .secure => startSecureFlashModeCmd

theorem startMode_startPacket (mode : Mode) (app : UInt8) (number : Nat) :
    startMode (startPacket mode.startCmd app number) = some mode := by
  have sum : sumPayload (startPacket mode.startCmd app number).mem 2 3 =
      UInt8.ofNat (number / 256) + UInt8.ofNat number := by
    simp [sumPayload, startPacket, Packet.ofBytes, List.range']
  have last : (startPacket mode.startCmd app number).mem 4 =
      UInt8.ofNat (number / 256) + UInt8.ofNat number := rfl
  have first : (startPacket mode.startCmd app number).mem 0 = mode.startCmd := rfl
  have length : (startPacket mode.startCmd app number).numBytes = 5 := rfl
  have crc : (((5 : UInt8).toNat : Int) - 1) = 4 := rfl
  have stop : (5 : UInt8) - 2 = 3 := rfl
  simp only [startMode, verifyDataType, first, length, crc, stop, sum, last]
  cases mode <;>
    simp [Mode.startCmd, startFlashModeCmd, startSecureFlashModeCmd, startFlashModeLen,
      startSecureFlashModeLen]

/-- Data packet `number` of the longer of the two sessions of `longSample`. -/
def sealedPacket (number : Nat) : Packet :=
  @securePacket .longSample (AesGcm.lawful_ofTables _ _)
    ((fun iv => nextIv iv (getRandBytes 0x1234).1)^[number + 1] initialIv) number
    (List.replicate 15 (UInt8.ofNat (number + 1))) (by simp)

/-- That session up to packet `taken`, with a flash that works. -/
def sealedSession (taken : Nat) : List Event :=
  [.connect, .receive (startPacket startSecureFlashModeCmd 1 17) (.working 0x1234)] ++
    (List.range taken).map fun number => .receive (sealedPacket number) (.working 0)

theorem sealedSession_succ (taken : Nat) :
    sealedSession (taken + 1) =
      sealedSession taken ++ [.receive (sealedPacket taken) (.working 0)] := by
  simp [sealedSession, List.range_succ]

end BleFwUpdate
