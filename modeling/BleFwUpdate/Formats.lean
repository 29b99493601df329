import BleFwUpdate.Messages

/-! The formats of the messages the host sends, and how closely `verify_data_type` checks
each of them. -/

namespace BleFwUpdate

def Packet.received (packet : Packet) : List UInt8 := packet.slice 0 packet.numBytes.toNat

def HostMessage (expected : PckType) (bytes : List UInt8) : Prop :=
  match expected with
  | .startFlashMode => ∃ app high low, bytes = [startFlashModeCmd, app, high, low, high + low]
  | .startSecureFlashMode =>
      ∃ app high low, bytes = [startSecureFlashModeCmd, app, high, low, high + low]
  | .writeFlashPacket =>
      ∃ (high low : UInt8) (payload : List UInt8), payload.length = 16 ∧
        bytes = [writeFlashPacketCmd, high, low] ++ payload ++ [payload.sum]
  | .writeSecureFlashPacket => bytes.length = 20 ∧ bytes.headD 0 >>> 4 = writeSecureFlashPacketCmd
  | .masterNak => bytes = [nakCmd]
  | _ => False

def requestTypes : List PckType :=
  [.startFlashMode, .startSecureFlashMode, .writeFlashPacket, .writeSecureFlashPacket, .masterNak]

def Mode.startType : Mode → PckType
  | raw => .startFlashMode
  | secure => .startSecureFlashMode

theorem hostMessage_startMsg {mode : Mode} {host : Host} {bytes : List UInt8}
    (sent : startMsg mode.startCmd host = some bytes) :
    HostMessage mode.startType bytes := by
  rw [startMsg] at sent
  split at sent
  · cases mode <;> exact ⟨_, _, _, (Option.some.inj sent).symm⟩
  · contradiction

theorem hostMessage_rawMsg (number : Nat) {chunk : List UInt8} (fits : chunk.length ≤ 16) :
    HostMessage .writeFlashPacket (rawMsg number chunk) :=
  ⟨_, _, _, length_ljust fits, rfl⟩

theorem hostMessage_secureMsg {gcm : AesGcm} (lawful : gcm.Lawful) (iv : Iv) (number : Int)
    {chunk : List UInt8} (fits : chunk.length ≤ 15) :
    HostMessage .writeSecureFlashPacket (secureMsg gcm iv number chunk) := by
  refine ⟨length_secureMsg lawful iv number fits, ?_⟩
  have low : (number % 16).toNat < 16 := by omega
  exact (secureHeader_digits low).1

/-! What the checker asks of the received bytes. -/

section Checks

variable {packet : Packet}

theorem length_received : packet.received.length = packet.numBytes.toNat := packet.length_slice _ _

theorem Packet.slice_add (packet : Packet) (start first second : Nat) :
    packet.slice start (first + second) =
      packet.slice start first ++ packet.slice (start + first) second := by
  simp only [Packet.slice, ← List.range'_append_1, List.map_append]

theorem Packet.slice_one (packet : Packet) (start : Nat) :
    packet.slice start 1 = [packet.mem start] := rfl

theorem received_five (length : packet.numBytes = 5) :
    packet.received =
      [packet.mem 0, packet.mem 1, packet.mem 2, packet.mem 3, packet.mem 4] := by
  rw [Packet.received, length]
  rfl

theorem received_twenty (length : packet.numBytes = 20) :
    packet.received =
      [packet.mem 0, packet.mem 1, packet.mem 2] ++ packet.slice 3 16 ++ [packet.mem 19] := by
  rw [Packet.received, length, show (20 : UInt8).toNat = 3 + 16 + 1 from rfl, packet.slice_add,
    packet.slice_add, packet.slice_one]
  rfl

theorem headD_received (received : 1 ≤ packet.numBytes) :
    packet.received.headD 0 = packet.mem 0 := by
  have positive : 1 ≤ packet.numBytes.toNat := UInt8.le_iff_toNat_le.mp received
  rw [Packet.received, ← Nat.add_sub_cancel' positive, packet.slice_add]
  rfl

theorem numBytes_of_length {count : UInt8} (length : packet.received.length = count.toNat) :
    packet.numBytes = count :=
  UInt8.toNat_inj.mp (length_received.symm.trans length)

theorem startCheck_iff (cmd : UInt8) :
    (if packet.mem 0 ≠ cmd ∨ packet.numBytes ≠ 5 then false
      else sumPayload packet.mem 2 (packet.numBytes - 2) ==
        packet.mem ((packet.numBytes.toNat : Int) - 1)) = true ↔
      ∃ app high low, packet.received = [cmd, app, high, low, high + low] := by
  constructor
  · intro checked
    split at checked
    · contradiction
    rename_i header
    obtain ⟨first, length⟩ : packet.mem 0 = cmd ∧ packet.numBytes = 5 := by
      simpa only [not_or, not_not] using header
    have checksum := eq_of_beq checked
    have sum : sumPayload packet.mem 2 3 = packet.mem 2 + packet.mem 3 := by
      simp [sumPayload, List.range']
    have last : packet.mem 4 = packet.mem 2 + packet.mem 3 := by
      rw [length] at checksum
      exact checksum.symm.trans sum
    exact ⟨packet.mem 1, packet.mem 2, packet.mem 3, by
      rw [received_five length, first, last]⟩
  · rintro ⟨app, high, low, bytes⟩
    have length : packet.numBytes = 5 := numBytes_of_length (by rw [bytes]; rfl)
    rw [received_five length] at bytes
    simp only [List.cons.injEq, and_true] at bytes
    obtain ⟨first, _, second, third, last⟩ := bytes
    rw [if_neg (by simp [first, length]), length, beq_iff_eq]
    have crc : packet.mem (((5 : UInt8).toNat : Int) - 1) = high + low := last
    rw [crc]
    simp [sumPayload, List.range', second, third]

theorem verify_raw_iff :
    verifyDataType packet .writeFlashPacket = true ↔
      packet.mem 0 = writeFlashPacketCmd ∧
        sumPayload packet.mem 3 (packet.numBytes - 2) =
          packet.mem ((packet.numBytes.toNat : Int) - 1) := by
  simp [verifyDataType]

theorem rawCheck_iff (length : packet.numBytes = 20) :
    (packet.mem 0 = writeFlashPacketCmd ∧
        sumPayload packet.mem 3 (packet.numBytes - 2) =
          packet.mem ((packet.numBytes.toNat : Int) - 1)) ↔
      HostMessage .writeFlashPacket packet.received := by
  have sum : sumPayload packet.mem 3 18 = (packet.slice 3 16).sum := sumPayload_eq packet 3 18
  have checksum : (sumPayload packet.mem 3 (packet.numBytes - 2) =
      packet.mem ((packet.numBytes.toNat : Int) - 1)) ↔
        packet.mem 19 = (packet.slice 3 16).sum := by
    rw [length, ← sum]
    exact eq_comm
  rw [checksum, HostMessage, received_twenty length]
  constructor
  · rintro ⟨first, last⟩
    exact ⟨packet.mem 1, packet.mem 2, packet.slice 3 16, packet.length_slice _ _, by
      rw [first, last]⟩
  · rintro ⟨high, low, payload, count, bytes⟩
    obtain ⟨front, last⟩ := List.append_inj' bytes rfl
    simp only [List.cons_append, List.nil_append, List.cons.injEq] at front
    obtain ⟨first, _, _, rfl⟩ := front
    exact ⟨first, List.singleton_inj.mp last⟩

end Checks

/-- What has to be so of a packet for the rule of a type to tell its messages apart. The raw
and the secure data rule ask for no length, and the NAK rule is content with one of its two
parts. -/
def RuleSuffices (expected : PckType) (packet : Packet) : Prop :=
  match expected with
  | .writeFlashPacket =>
      packet.numBytes = 20 ∨ packet.mem 0 ≠ writeFlashPacketCmd ∨
        sumPayload packet.mem 3 (packet.numBytes - 2) ≠
          packet.mem ((packet.numBytes.toNat : Int) - 1)
  | .writeSecureFlashPacket =>
      packet.numBytes = 20 ∨ packet.mem 0 >>> 4 ≠ writeSecureFlashPacketCmd
  | .masterNak =>
      packet.received = [nakCmd] ∨ packet.numBytes ≠ 1 ∧ packet.mem 0 >>> 4 ≠ nakCmd
  | _ => True

theorem verify_raw_exact_iff (packet : Packet) :
    (verifyDataType packet .writeFlashPacket = true ↔
        HostMessage .writeFlashPacket packet.received) ↔
      RuleSuffices .writeFlashPacket packet := by
  by_cases length : packet.numBytes = 20
  · rw [verify_raw_iff, rawCheck_iff length]
    exact iff_of_true Iff.rfl (.inl length)
  · have noMessage : ¬ HostMessage .writeFlashPacket packet.received := by
      rintro ⟨high, low, payload, count, bytes⟩
      exact length (numBytes_of_length (by rw [bytes]; simp [count]))
    rw [verify_raw_iff, RuleSuffices, iff_false_right noMessage, not_and_or]
    simp only [length, false_or]

theorem verify_secure_exact_iff (packet : Packet) (received : 1 ≤ packet.numBytes) :
    (verifyDataType packet .writeSecureFlashPacket = true ↔
        HostMessage .writeSecureFlashPacket packet.received) ↔
      RuleSuffices .writeSecureFlashPacket packet := by
  have count : packet.numBytes.toNat = 20 ↔ packet.numBytes = 20 :=
    @UInt8.toNat_inj packet.numBytes 20
  simp only [verifyDataType, HostMessage, RuleSuffices, headD_received received, length_received,
    count]
  by_cases length : packet.numBytes = 20 <;> simp [length]

theorem verify_nak_exact_iff (packet : Packet) :
    (verifyDataType packet .masterNak = true ↔ HostMessage .masterNak packet.received) ↔
      RuleSuffices .masterNak packet := by
  simp only [verifyDataType, HostMessage, RuleSuffices]
  by_cases message : packet.received = [nakCmd]
  · have length : packet.numBytes = 1 := numBytes_of_length (by rw [message]; rfl)
    simp [message, length]
  · simp [message, and_comm]

/-- The checker tells the messages of the host exactly where its rules suffice. -/
theorem verifyDataType_exact_iff (packet : Packet) (received : 1 ≤ packet.numBytes)
    (expected : PckType) (request : expected ∈ requestTypes) :
    (verifyDataType packet expected = true ↔ HostMessage expected packet.received) ↔
      RuleSuffices expected packet := by
  cases expected with
  | startFlashMode => exact iff_of_true (startCheck_iff startFlashModeCmd) trivial
  | startSecureFlashMode => exact iff_of_true (startCheck_iff startSecureFlashModeCmd) trivial
  | writeFlashPacket => exact verify_raw_exact_iff packet
  | writeSecureFlashPacket => exact verify_secure_exact_iff packet received
  | masterNak => exact verify_nak_exact_iff packet
  | writeFlashPacketResponse => simp [requestTypes] at request
  | writeSecureFlashPacketResponse => simp [requestTypes] at request

theorem verifyDataType_exact_raw :
    (1 : UInt8) ≤ (rawPacket 0 [0x11] (by simp)).numBytes ∧
      (verifyDataType (rawPacket 0 [0x11] (by simp)) .writeFlashPacket = true ↔
        HostMessage .writeFlashPacket (rawPacket 0 [0x11] (by simp)).received) :=
  ⟨by decide, (verifyDataType_exact_iff (rawPacket 0 [0x11] (by simp)) (by decide)
    .writeFlashPacket (by decide)).mpr (.inl rfl)⟩

/-- Four bytes with an empty payload, whose checksum is that of no byte at all. -/
theorem truncated_packet_verified :
    verifyDataType (.ofBytes [0xbb, 0, 0, 0] (by decide)) .writeFlashPacket = true ∧
      ¬ HostMessage .writeFlashPacket
        (Packet.ofBytes [0xbb, 0, 0, 0] (by decide)).received := by
  refine ⟨by decide, ?_⟩
  rintro ⟨high, low, payload, count, bytes⟩
  have length := congrArg List.length bytes
  rw [length_received, numBytes_ofBytes] at length
  simp [count] at length

end BleFwUpdate
