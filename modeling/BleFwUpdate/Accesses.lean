import BleFwUpdate.General.Logged
import BleFwUpdate.Session

/-! The array accesses that handling one packet makes: the functions of `message_handler.c` once
more, each with the indices it uses. -/

namespace BleFwUpdate

open Transitions

def writeFlashPacketResponseLen : Nat := 4
def writeSecureFlashPacketResponseLen : Nat := 10

/-- The received packet, and the local arrays of `send_ack`, `encrypt_data` and `decrypt_data`. -/
inductive Buffer
  | dataRcv
  | msg
  | msgCrypted
  | plaintext
  | ciphertext
  | tag
  | computedCiphertext
  | computedPlaintext
  deriving DecidableEq, Repr

def Buffer.size (numBytes : UInt8) : Buffer → Nat
  | dataRcv => numBytes.toNat
  | msg => writeFlashPacketResponseLen + 2
  | msgCrypted => writeSecureFlashPacketResponseLen
  | plaintext => 5
  | ciphertext => 5
  | tag => aesTagLen
  | computedCiphertext => 5 + aesTagLen
  | computedPlaintext => 19

structure Access where
  buffer : Buffer
  index : Int
  deriving DecidableEq

def Access.InBounds (numBytes : UInt8) (access : Access) : Prop :=
  0 ≤ access.index ∧ access.index < access.buffer.size numBytes

instance (numBytes : UInt8) : DecidablePred (Access.InBounds numBytes) := fun _ =>
  inferInstanceAs (Decidable (_ ∧ _))

abbrev Accessing := Logged Access

def readFrom (buffer : Buffer) (contents : Int → UInt8) (index : Int) : Accessing UInt8 := do
  Logged.note [⟨buffer, index⟩]
  return contents index

def touch (buffer : Buffer) (start count : Nat) : Accessing Unit :=
  Logged.note ((List.range' start count).map fun (index : Nat) => ⟨buffer, index⟩)

def Packet.read (packet : Packet) (index : Int) : Accessing UInt8 :=
  readFrom .dataRcv packet.mem index

def Packet.readSlice (packet : Packet) (start count : Nat) : Accessing (List UInt8) := do
  touch .dataRcv start count
  return packet.slice start count

def Packet.readNumber (packet : Packet) (index : Nat) : Accessing UInt16 := do
  return ((← packet.read index).toUInt16 <<< 8) + (← packet.read (index + 1)).toUInt16

def sumPayloadLogged (read : Int → Accessing UInt8) (start stop : UInt8) : Accessing UInt8 :=
  (List.range' start.toNat (stop.toNat + 1 - start.toNat)).foldlM
    (fun sum (index : Nat) => do return sum + (← read index)) 0

def verifyDataTypeLogged (packet : Packet) (expected : PckType) : Accessing Bool := do
  let rcvCrc ← packet.read ((packet.numBytes.toNat : Int) - 1)
  match expected with
  | .startFlashMode =>
      if (← packet.read 0) ≠ startFlashModeCmd ∨ packet.numBytes ≠ startFlashModeLen then
        return false
      else return (← sumPayloadLogged packet.read 2 (packet.numBytes - 2)) == rcvCrc
  | .startSecureFlashMode =>
      if (← packet.read 0) ≠ startSecureFlashModeCmd ∨
          packet.numBytes ≠ startSecureFlashModeLen then
        return false
      else return (← sumPayloadLogged packet.read 2 (packet.numBytes - 2)) == rcvCrc
  | .writeFlashPacket =>
      if (← packet.read 0) ≠ writeFlashPacketCmd then return false
      else return (← sumPayloadLogged packet.read 3 (packet.numBytes - 2)) == rcvCrc
  | .writeSecureFlashPacket =>
      if (← packet.read 0) >>> 4 ≠ writeSecureFlashPacketCmd then return false else return true
  | .masterNak =>
      if (← packet.read 0) >>> 4 ≠ nakCmd ∧ packet.numBytes ≠ 1 then return false else return true
  | _ => return false

def encryptDataLogged (gcm : AesGcm) (plaintext addData : List UInt8) (device : Device) :
    Accessing ((List UInt8 × List UInt8) × Device) := do
  -- The test of the length before it is passed in the only call.
  touch .plaintext plaintext.length (16 - plaintext.length)
  touch .plaintext 0 plaintext.length
  touch .computedCiphertext 0 (plaintext.length + aesTagLen)
  touch .computedCiphertext 0 plaintext.length
  touch .ciphertext 0 plaintext.length
  touch .computedCiphertext plaintext.length aesTagLen
  touch .tag 0 aesTagLen
  return encryptData gcm plaintext addData device

def sendRawAckLogged (hardware : Hardware) (ackMsg : UInt8) (device : Device) :
    Accessing Device := do
  let high := highByte device.countPck
  let low := lowByte device.countPck
  let msg := [ackMsg, high, low, hardware.msgStack]
  touch .msg 0 3
  let sum ← sumPayloadLogged (readFrom .msg fun index => msg.getD index.toNat 0) 2 3
  -- `sprintf` leaves two digits and the NULL terminator.
  touch .msg 3 3
  touch .msg 0 writeFlashPacketResponseLen
  return updateTxChar [ackMsg, high, low, hexDigit (sum >>> 4)] device

def sendSecureAckLogged (gcm : AesGcm) (ackMsg : UInt8) (device : Device) :
    Accessing Device := do
  let random := getRandBytes device.reg
  let device := { device with randIv := random.1, reg := random.2 }
  -- The initializer fills the whole array, before the loop assigns the last three bytes.
  touch .plaintext 0 5
  touch .plaintext 2 3
  let plaintext := [highByte device.countPck, lowByte device.countPck] ++ random.1.toList
  let encrypted ← encryptDataLogged gcm plaintext [ackMsg] device
  touch .ciphertext 0 5
  touch .tag 0 aesTagLen
  touch .msgCrypted 0 10
  touch .msgCrypted 0 writeSecureFlashPacketResponseLen
  return updateTxChar (ackMsg :: (encrypted.1.1 ++ encrypted.1.2)) encrypted.2

def sendAckLogged (gcm : AesGcm) (hardware : Hardware) (ack : Bool) (replyType : PckType)
    (device : Device) : Accessing Device :=
  let device := { device with oldAck := ack }
  let ackMsg := if ack then ackCmd else nakCmd
  match replyType with
  | .writeFlashPacketResponse => sendRawAckLogged hardware ackMsg device
  | .writeSecureFlashPacketResponse => sendSecureAckLogged gcm ackMsg device
  | _ => return device

def decryptDataLogged (gcm : AesGcm) (hardware : Hardware) (packet : Packet) (device : Device) :
    Accessing (Packet × Device) := do
  let iv := nextIv device.iv device.randIv
  let addData ← packet.readSlice 0 1
  let ciphertext ← packet.readSlice 1 15
  let tag ← packet.readSlice 16 aesTagLen
  let computed := (gcm.decrypt iv addData ciphertext tag).getD hardware.rejected
  -- The plaintext is copied over the ciphertext.
  touch .computedPlaintext 0 computed.length
  touch .computedPlaintext 0 computed.length
  touch .dataRcv 1 computed.length
  return decryptData gcm hardware packet device

def stageLogged (packet : Packet) (start count : Nat) (device : Device) : Accessing Device := do
  let staging ← (List.range' start count).foldlM
    (fun staging (index : Nat) => do return stageByte staging (← packet.read index)) device.staging
  return { device with staging := staging }

def readStartLogged (packet : Packet) (device : Device) : Accessing Device := do
  let totalPck ← packet.readNumber 2
  return { device with totalPck := totalPck, appToUpdate := .ofByte (← packet.read 1) }

def answerStartLogged (gcm : AesGcm) (hardware : Hardware) (fwPayloadLen : UInt8)
    (replyType : PckType) (next : ConnectionStatus) (device : Device) : Accessing Device := do
  let prepared := prepareApplicationMemory hardware device.appToUpdate device
  if prepared.1 && checkFwSize prepared.2.totalPck fwPayloadLen prepared.2.appToUpdate then
    return { ← sendAckLogged gcm hardware true replyType prepared.2 with connectionStatus := next }
  else sendAckLogged gcm hardware false .writeFlashPacketResponse prepared.2

def handleConnectedLogged (gcm : AesGcm) (hardware : Hardware) (packet : Packet)
    (device : Device) : Accessing Device := do
  if ← verifyDataTypeLogged packet .startFlashMode then
    let started ← readStartLogged packet device
    answerStartLogged gcm hardware payloadLen .writeFlashPacketResponse .recevingRawFw started
  else if ← verifyDataTypeLogged packet .startSecureFlashMode then
    let started ← readStartLogged packet device
    answerStartLogged gcm hardware securePayloadLen .writeSecureFlashPacketResponse
      .recevingSecureFw { started with reg := initRandGenerator hardware.timer }
  else sendAckLogged gcm hardware false .writeFlashPacketResponse device

def storeRawPacketLogged (packet : Packet) (device : Device) : Accessing Device := do
  if ← verifyDataTypeLogged packet .writeFlashPacket then
    if (← packet.readNumber 1) = device.countPck then
      stageLogged packet 3 (packet.numBytes.toNat - 1 - 3) device
    else return { device with nextAck := false }
  else return { device with nextAck := false }

def handleRecevingRawFwLogged (gcm : AesGcm) (hardware : Hardware) (packet : Packet)
    (device : Device) : Accessing Device := do
  let stored ← storeRawPacketLogged packet device
  let counted := { stored with countPck := stored.countPck + 1 }
  if endsWindow rawNumCumulativeAck counted then
    let settled := settleWindow hardware rawNumCumulativeAck counted
    return resetWindow
      (← sendAckLogged gcm hardware settled.nextAck .writeFlashPacketResponse settled)
  else return counted

def storeSecurePacketLogged (gcm : AesGcm) (hardware : Hardware) (packet : Packet)
    (device : Device) : Accessing Device := do
  let cumulativePckNum := ((← packet.read 0) &&& 0xf).toUInt16
  let decrypted ← decryptDataLogged gcm hardware packet device
  if cumulativePckNum = decrypted.2.countPck % 16 then
    stageLogged decrypted.1 1 (decrypted.1.numBytes.toNat - 4 - 1) decrypted.2
  else return { decrypted.2 with nextAck := false }

def countSecurePacketLogged (gcm : AesGcm) (hardware : Hardware) (device : Device) :
    Accessing Device := do
  let counted := { device with countPck := device.countPck + 1 }
  if endsWindow secureNumCumulativeAck counted then
    let answered ←
      sendAckLogged gcm hardware counted.nextAck .writeSecureFlashPacketResponse counted
    return resetWindow (settleWindow hardware secureNumCumulativeAck answered)
  else return counted

def handleRecevingSecureFwLogged (gcm : AesGcm) (hardware : Hardware) (packet : Packet)
    (device : Device) : Accessing Device := do
  if ← verifyDataTypeLogged packet .writeSecureFlashPacket then
    countSecurePacketLogged gcm hardware (← storeSecurePacketLogged gcm hardware packet device)
  else if ← verifyDataTypeLogged packet .masterNak then
    sendAckLogged gcm hardware device.oldAck .writeSecureFlashPacketResponse device
  else countSecurePacketLogged gcm hardware { device with nextAck := false }

def dataHandlerLogged (gcm : AesGcm) (hardware : Hardware) (packet : Packet) (device : Device) :
    Accessing Device := do
  -- The packet is printed first, whatever it is.
  touch .dataRcv 0 packet.numBytes.toNat
  match device.connectionStatus with
  | .connected => handleConnectedLogged gcm hardware packet device
  | .recevingRawFw => handleRecevingRawFwLogged gcm hardware packet device
  | .recevingSecureFw => handleRecevingSecureFwLogged gcm hardware packet device
  | _ => return device

/-! They compute what the functions themselves do. -/

section Values

@[simp] theorem value_touch (buffer : Buffer) (start count : Nat) :
    (touch buffer start count).value = () := rfl

@[simp] theorem value_readFrom (buffer : Buffer) (contents : Int → UInt8) (index : Int) :
    (readFrom buffer contents index).value = contents index := by
  rw [readFrom, Logged.value_bind, Logged.value_pure]

@[simp] theorem value_read (packet : Packet) (index : Int) :
    (packet.read index).value = packet.mem index := by
  rw [Packet.read, value_readFrom]

@[simp] theorem value_readSlice (packet : Packet) (start count : Nat) :
    (packet.readSlice start count).value = packet.slice start count := rfl

@[simp] theorem value_readNumber (packet : Packet) (index : Nat) :
    (packet.readNumber index).value = packet.number index := by
  simp only [Packet.readNumber, Packet.number, Logged.value_bind, Logged.value_pure, value_read]

@[simp] theorem value_sumPayloadLogged (read : Int → Accessing UInt8) (start stop : UInt8) :
    (sumPayloadLogged read start stop).value =
      sumPayload (fun index => (read index).value) start stop :=
  Logged.value_foldlM _ _ _

@[simp] theorem value_verifyDataTypeLogged (packet : Packet) (expected : PckType) :
    (verifyDataTypeLogged packet expected).value = verifyDataType packet expected := by
  cases expected <;>
    simp only [verifyDataTypeLogged, verifyDataType, Logged.value_bind, Logged.value_ite,
      Logged.value_pure, value_read, value_sumPayloadLogged]

variable (gcm : AesGcm) (hardware : Hardware) (packet : Packet) (device : Device)

@[simp] theorem value_sendAckLogged (ack : Bool) (replyType : PckType) :
    (sendAckLogged gcm hardware ack replyType device).value =
      sendAck gcm hardware ack replyType device := by
  cases replyType <;>
    simp [sendAckLogged, sendRawAckLogged, sendSecureAckLogged, encryptDataLogged, sendAck,
      sendRawAck, sendSecureAck]

@[simp] theorem value_decryptDataLogged :
    (decryptDataLogged gcm hardware packet device).value =
      decryptData gcm hardware packet device := by
  rw [decryptDataLogged]
  simp only [Logged.value_bind, Logged.value_pure]

@[simp] theorem value_stageLogged (start count : Nat) :
    (stageLogged packet start count device).value =
      stageBytes (packet.slice start count) device := by
  simp [stageLogged, Logged.value_foldlM, stageBytes, Packet.slice, List.foldl_map]

@[simp] theorem value_readStartLogged :
    (readStartLogged packet device).value =
      { device with totalPck := packet.number 2, appToUpdate := .ofByte (packet.mem 1) } := rfl

@[simp] theorem value_answerStartLogged (fwPayloadLen : UInt8) (replyType : PckType)
    (next : ConnectionStatus) :
    (answerStartLogged gcm hardware fwPayloadLen replyType next device).value =
      answerStart gcm hardware fwPayloadLen replyType next device := by
  simp [answerStartLogged, answerStart]

theorem value_handleConnectedLogged :
    (handleConnectedLogged gcm hardware packet device).value =
      handleConnected gcm hardware packet device := by
  simp only [handleConnectedLogged, handleConnected, Logged.value_bind, Logged.value_ite,
    value_verifyDataTypeLogged, value_readStartLogged, value_answerStartLogged,
    value_sendAckLogged]

@[simp] theorem value_storeRawPacketLogged :
    (storeRawPacketLogged packet device).value = storeRawPacket packet device := by
  simp only [storeRawPacketLogged, storeRawPacket, Logged.value_bind, Logged.value_ite,
    Logged.value_pure, value_verifyDataTypeLogged, value_readNumber, value_stageLogged]

theorem value_handleRecevingRawFwLogged :
    (handleRecevingRawFwLogged gcm hardware packet device).value =
      handleRecevingRawFw gcm hardware packet device := by
  simp only [handleRecevingRawFwLogged, handleRecevingRawFw, Logged.value_bind, Logged.value_ite,
    Logged.value_pure, value_storeRawPacketLogged, value_sendAckLogged]

@[simp] theorem value_storeSecurePacketLogged :
    (storeSecurePacketLogged gcm hardware packet device).value =
      storeSecurePacket gcm hardware packet device := by
  simp only [storeSecurePacketLogged, storeSecurePacket, Logged.value_bind, Logged.value_ite,
    Logged.value_pure, value_read, value_decryptDataLogged, value_stageLogged]

@[simp] theorem value_countSecurePacketLogged :
    (countSecurePacketLogged gcm hardware device).value =
      countSecurePacket gcm hardware device := by
  simp only [countSecurePacketLogged, countSecurePacket, Logged.value_bind, Logged.value_ite,
    Logged.value_pure, value_sendAckLogged]

theorem value_handleRecevingSecureFwLogged :
    (handleRecevingSecureFwLogged gcm hardware packet device).value =
      handleRecevingSecureFw gcm hardware packet device := by
  simp only [handleRecevingSecureFwLogged, handleRecevingSecureFw, Logged.value_bind,
    Logged.value_ite, value_verifyDataTypeLogged, value_storeSecurePacketLogged,
    value_countSecurePacketLogged, value_sendAckLogged]

theorem value_dataHandlerLogged :
    (dataHandlerLogged gcm hardware packet device).value =
      dataHandler gcm hardware packet device := by
  rw [dataHandlerLogged, dataHandler]
  cases device.connectionStatus with
  | connected => simp [value_handleConnectedLogged]
  | recevingRawFw => simp [value_handleRecevingRawFwLogged]
  | recevingSecureFw => simp [value_handleRecevingSecureFwLogged]
  | _ => rfl

end Values

/-! Which of them stay inside the arrays. -/

section Bounds

variable {numBytes : UInt8}

theorem all_touch_iff (buffer : Buffer) (start count : Nat) :
    (touch buffer start count).All (Access.InBounds numBytes) ↔
      count = 0 ∨ start + count ≤ buffer.size numBytes := by
  simp only [touch, Logged.all_note, List.forall_mem_map, List.mem_range'_1, Access.InBounds]
  constructor
  · intro inside
    rcases Nat.eq_zero_or_pos count with empty | positive
    · exact .inl empty
    · have last := (inside (start + count - 1) (by omega)).2
      omega
  · intro fits index member
    omega

theorem all_readFrom_iff (buffer : Buffer) (contents : Int → UInt8) (index : Int) :
    (readFrom buffer contents index).All (Access.InBounds numBytes) ↔
      0 ≤ index ∧ index < buffer.size numBytes := by
  simp [readFrom, Access.InBounds]

theorem all_loop_iff (buffer : Buffer) (contents : Int → UInt8) {Sofar : Type}
    (next : Sofar → UInt8 → Sofar) (first : Sofar) (start count : Nat) :
    ((List.range' start count).foldlM
        (fun sofar (index : Nat) => do return next sofar (← readFrom buffer contents index))
        first).All (Access.InBounds numBytes) ↔
      count = 0 ∨ start + count ≤ buffer.size numBytes := by
  rw [← all_touch_iff, touch, Logged.all_note, List.forall_mem_map]
  apply Logged.all_foldlM
  intro sofar index
  rw [Logged.all_bind, all_readFrom_iff, Access.InBounds]
  simp

theorem all_sumPayload_iff (buffer : Buffer) (contents : Int → UInt8) (start stop : UInt8) :
    (sumPayloadLogged (readFrom buffer contents) start stop).All (Access.InBounds numBytes) ↔
      stop.toNat < start.toNat ∨ stop.toNat < buffer.size numBytes := by
  have loop := @all_loop_iff numBytes buffer contents UInt8 (· + ·) 0 start.toNat
    (stop.toNat + 1 - start.toNat)
  rw [sumPayloadLogged, loop]
  omega

variable (packet : Packet)

theorem all_read_iff (index : Int) :
    (packet.read index).All (Access.InBounds packet.numBytes) ↔
      0 ≤ index ∧ index < packet.numBytes.toNat :=
  all_readFrom_iff .dataRcv packet.mem index

theorem all_readNumber_iff (index : Nat) :
    (packet.readNumber index).All (Access.InBounds packet.numBytes) ↔
      index + 1 < packet.numBytes.toNat := by
  simp only [Packet.readNumber, Logged.all_bind, Logged.all_pure, all_read_iff, and_true]
  omega

theorem all_readSlice_iff (start count : Nat) :
    (packet.readSlice start count).All (Access.InBounds packet.numBytes) ↔
      count = 0 ∨ start + count ≤ packet.numBytes.toNat := by
  simp [Packet.readSlice, all_touch_iff, Buffer.size]

theorem all_stage_iff (start count : Nat) (device : Device) :
    (stageLogged packet start count device).All (Access.InBounds packet.numBytes) ↔
      count = 0 ∨ start + count ≤ packet.numBytes.toNat := by
  have loop := @all_loop_iff packet.numBytes .dataRcv packet.mem Staging stageByte device.staging
    start count
  rw [stageLogged, Logged.all_bind]
  exact (and_iff_left (Logged.all_pure _)).trans loop

theorem all_readLast_iff :
    (packet.read ((packet.numBytes.toNat : Int) - 1)).All (Access.InBounds packet.numBytes) ↔
      packet.numBytes ≠ 0 := by
  rw [all_read_iff, ne_eq, ← UInt8.toNat_inj, UInt8.toNat_zero]
  omega

theorem all_readFirst_iff :
    (packet.read 0).All (Access.InBounds packet.numBytes) ↔ packet.numBytes ≠ 0 := by
  rw [all_read_iff, ne_eq, ← UInt8.toNat_inj, UInt8.toNat_zero]
  omega

/-- `num_bytes-2` is one byte wide, and is 254 or 255 where there are less than two bytes. -/
theorem all_sumReceived_iff {start : UInt8} (small : start.toNat ≤ 3) :
    (sumPayloadLogged packet.read start (packet.numBytes - 2)).All
        (Access.InBounds packet.numBytes) ↔ 2 ≤ packet.numBytes.toNat := by
  have short := packet.numBytes_le
  have stop : (packet.numBytes - 2).toNat = (254 + packet.numBytes.toNat) % 256 :=
    UInt8.toNat_sub packet.numBytes 2
  refine (all_sumPayload_iff .dataRcv packet.mem start (packet.numBytes - 2)).trans ?_
  rw [stop, Buffer.size]
  omega

theorem all_verifyDataType_iff (expected : PckType) :
    (verifyDataTypeLogged packet expected).All (Access.InBounds packet.numBytes) ↔
      packet.numBytes ≠ 0 ∧
        (expected = .writeFlashPacket → packet.mem 0 = writeFlashPacketCmd →
          2 ≤ packet.numBytes.toNat) := by
  have startSum (full : packet.numBytes = 5) :
      (sumPayloadLogged packet.read 2 (packet.numBytes - 2)).All
        (Access.InBounds packet.numBytes) := by
    rw [all_sumReceived_iff packet (by decide), full]
    decide
  cases expected <;>
    simp only [verifyDataTypeLogged, Logged.all_bind, Logged.all_ite, Logged.all_pure,
      all_readLast_iff, all_readFirst_iff, value_read, ne_eq, reduceCtorEq, true_implies,
      false_implies, and_true, implies_true, true_and, and_self]
  case startFlashMode | startSecureFlashMode =>
    simp only [not_or, not_not]
    exact ⟨And.left, fun some => ⟨some, some, fun both => startSum both.2⟩⟩
  case writeFlashPacket =>
    rw [all_sumReceived_iff packet (by decide)]
    tauto

theorem all_sendAck_raw (gcm : AesGcm) (hardware : Hardware) (ack : Bool) (device : Device) :
    (sendAckLogged gcm hardware ack .writeFlashPacketResponse device).All
      (Access.InBounds numBytes) := by
  simp [sendAckLogged, sendRawAckLogged, all_touch_iff, all_sumPayload_iff, Buffer.size,
    writeFlashPacketResponseLen]

/-- The padding goes on to the sixteenth byte of the five that `send_ack` has. -/
theorem not_all_sendAck_secure (gcm : AesGcm) (hardware : Hardware) (ack : Bool)
    (device : Device) :
    ¬ (sendAckLogged gcm hardware ack .writeSecureFlashPacketResponse device).All
      (Access.InBounds numBytes) := by
  simp [sendAckLogged, sendSecureAckLogged, encryptDataLogged, all_touch_iff, Buffer.size]

section Handlers

variable (gcm : AesGcm) (hardware : Hardware) (device : Device)

theorem all_readStart_iff :
    (readStartLogged packet device).All (Access.InBounds packet.numBytes) ↔
      3 < packet.numBytes.toNat := by
  simp only [readStartLogged, Logged.all_bind, Logged.all_pure, all_readNumber_iff, all_read_iff,
    and_true]
  omega

theorem all_answerStart_iff (mode : Mode) :
    (answerStartLogged gcm hardware mode.checkedLen mode.replyType mode.status
        (startRead hardware mode packet device)).All (Access.InBounds numBytes) ↔
      (mode = .secure → admitted hardware mode packet = false) := by
  simp only [answerStartLogged, startRead, prepareApplicationMemory_eq, Logged.all_ite,
    Logged.all_bind, Logged.all_pure, and_true, all_sendAck_raw, implies_true]
  change (admitted hardware mode packet = true → _) ↔ _
  cases mode with
  | raw => simp [all_sendAck_raw, Mode.replyType]
  | secure => simp [not_all_sendAck_secure, Mode.replyType]

theorem numBytes_of_start (valid : verifyDataType packet .startFlashMode = true ∨
    verifyDataType packet .startSecureFlashMode = true) : packet.numBytes = 5 := by
  simp only [verifyDataType, Bool.if_false_left, Bool.and_eq_true, Bool.not_eq_true',
    decide_eq_false_iff_not, not_or, not_not] at valid
  rcases valid with ⟨⟨_, length⟩, _⟩ | ⟨⟨_, length⟩, _⟩ <;> exact length

theorem all_handleConnected_iff :
    (handleConnectedLogged gcm hardware packet device).All (Access.InBounds packet.numBytes) ↔
      packet.numBytes ≠ 0 ∧
        (startMode packet = some .secure → admitted hardware .secure packet = false) := by
  have answered (mode : Mode) :=
    @all_answerStart_iff packet.numBytes packet gcm hardware device mode
  have long (valid : verifyDataType packet .startFlashMode = true ∨
      verifyDataType packet .startSecureFlashMode = true) :
      packet.numBytes ≠ 0 ∧ 3 < packet.numBytes.toNat := by
    rw [numBytes_of_start packet valid]
    decide
  simp only [handleConnectedLogged, Logged.all_bind, all_verifyDataType_iff, reduceCtorEq,
    false_implies, and_true, value_verifyDataTypeLogged, Logged.all_ite, all_readStart_iff,
    value_readStartLogged, all_sendAck_raw, implies_true, startMode]
  cases isRaw : verifyDataType packet .startFlashMode with
  | true =>
      obtain ⟨nonempty, reads⟩ := long (.inl isRaw)
      have inside := (answered .raw).mpr (by simp)
      simp only [nonempty, reads, ne_eq, not_false_eq_true, not_true, true_implies, false_implies,
        true_and, and_true, if_true, Option.some.injEq, reduceCtorEq, iff_true]
      exact inside
  | false =>
      cases isSecure : verifyDataType packet .startSecureFlashMode with
      | true =>
          obtain ⟨nonempty, reads⟩ := long (.inr isSecure)
          simp only [nonempty, reads, ne_eq, not_false_eq_true, true_implies, false_implies,
            true_and, if_true, Bool.false_eq_true, if_false]
          exact (answered .secure).trans (by simp only [true_implies])
      | false => simp

theorem verify_raw_two (two : packet.numBytes = 2) (cmd : packet.mem 0 = writeFlashPacketCmd) :
    verifyDataType packet .writeFlashPacket = true ↔ packet.mem 1 = 0 := by
  have none : sumPayload packet.mem 3 (2 - 2) = 0 := rfl
  have last : ((2 : UInt8).toNat : Int) - 1 = 1 := rfl
  simp only [verifyDataType, two, cmd, ne_eq, not_true, if_false, none, last, beq_iff_eq]
  exact eq_comm

theorem all_storeRawPacket_iff :
    (storeRawPacketLogged packet device).All (Access.InBounds packet.numBytes) ↔
      packet.numBytes ≠ 0 ∧ (packet.mem 0 = writeFlashPacketCmd →
        3 ≤ packet.numBytes.toNat ∨ packet.numBytes = 2 ∧ packet.mem 1 ≠ 0) := by
  have payload : packet.numBytes.toNat - 1 - 3 = 0 ∨
      3 + (packet.numBytes.toNat - 1 - 3) ≤ packet.numBytes.toNat := by omega
  simp only [storeRawPacketLogged, Logged.all_bind, all_verifyDataType_iff, true_implies,
    value_verifyDataTypeLogged, Logged.all_ite, all_readNumber_iff, value_readNumber,
    all_stage_iff, Logged.all_pure, payload, implies_true, and_true]
  by_cases cmd : packet.mem 0 = writeFlashPacketCmd
  · simp only [cmd, true_implies]
    by_cases two : packet.numBytes = 2
    · simp [two, verify_raw_two packet two cmd]
    · have other : packet.numBytes.toNat ≠ 2 := fun same => two (UInt8.toNat_inj.mp same)
      constructor
      · rintro ⟨⟨nonempty, long⟩, _⟩
        exact ⟨nonempty, .inl (by omega)⟩
      · rintro ⟨nonempty, long | ⟨same, _⟩⟩
        · exact ⟨⟨nonempty, by omega⟩, fun _ => long⟩
        · exact absurd same two
  · have invalid : verifyDataType packet .writeFlashPacket = false := by
      simp [verifyDataType, cmd]
    simp [cmd, invalid]

theorem all_handleRecevingRawFw_iff :
    (handleRecevingRawFwLogged gcm hardware packet device).All
        (Access.InBounds packet.numBytes) ↔
      packet.numBytes ≠ 0 ∧ (packet.mem 0 = writeFlashPacketCmd →
        3 ≤ packet.numBytes.toNat ∨ packet.numBytes = 2 ∧ packet.mem 1 ≠ 0) := by
  rw [handleRecevingRawFwLogged, Logged.all_bind, all_storeRawPacket_iff]
  simp [all_sendAck_raw]

variable {gcm} {hardware}

/-- What `cmox` computes from the 19 bytes of ciphertext and tag is no longer than the ciphertext,
also where it does not accept the tag. -/
structure ComputedSize (gcm : AesGcm) (hardware : Hardware) : Prop where
  lawful : gcm.Lawful
  rejected : hardware.rejected.length ≤ 15

theorem all_decryptData_iff (sized : ComputedSize gcm hardware) :
    (decryptDataLogged gcm hardware packet device).All (Access.InBounds packet.numBytes) ↔
      packet.numBytes = 20 := by
  have short := packet.numBytes_le
  have size : ((gcm.decrypt (nextIv device.iv device.randIv) (packet.slice 0 1)
      (packet.slice 1 15) (packet.slice 16 aesTagLen)).getD hardware.rejected).length ≤ 15 := by
    rw [AesGcm.decrypt]
    split
    · rw [Option.getD_some, sized.lawful.length_ctr, Packet.length_slice]
    · exact sized.rejected
  simp only [decryptDataLogged, Logged.all_bind, Logged.all_pure, all_readSlice_iff,
    value_readSlice, all_touch_iff, Buffer.size, aesTagLen, ← UInt8.toNat_inj, and_true]
  rw [aesTagLen] at size
  generalize List.length _ = computed at *
  change _ ↔ _ = 20
  omega

theorem all_storeSecurePacket_iff (sized : ComputedSize gcm hardware) :
    (storeSecurePacketLogged gcm hardware packet device).All (Access.InBounds packet.numBytes) ↔
      packet.numBytes = 20 := by
  have payload : (stageLogged (decryptData gcm hardware packet device).1 1
      ((decryptData gcm hardware packet device).1.numBytes.toNat - 4 - 1)
      (decryptData gcm hardware packet device).2).All (Access.InBounds packet.numBytes) ↔ _ :=
    all_stage_iff (decryptData gcm hardware packet device).1 1 _ _
  have length : (decryptData gcm hardware packet device).1.numBytes = packet.numBytes := rfl
  rw [length] at payload
  simp only [storeSecurePacketLogged, Logged.all_bind, Logged.all_ite, Logged.all_pure,
    value_decryptDataLogged, all_readFirst_iff, all_decryptData_iff packet device sized, length,
    payload, implies_true, and_true]
  constructor
  · rintro ⟨_, full, _⟩
    exact full
  · intro full
    exact ⟨by rw [full]; decide, full, fun _ => by rw [full]; decide⟩

theorem all_countSecurePacket_iff :
    (countSecurePacketLogged gcm hardware device).All (Access.InBounds numBytes) ↔
      endsWindow secureNumCumulativeAck { device with countPck := device.countPck + 1 } =
        false := by
  simp [countSecurePacketLogged, not_all_sendAck_secure]

theorem all_handleRecevingSecureFw_iff (sized : ComputedSize gcm hardware) :
    (handleRecevingSecureFwLogged gcm hardware packet device).All
        (Access.InBounds packet.numBytes) ↔
      packet.numBytes ≠ 0 ∧ (decrypted .secure packet = true → packet.numBytes = 20) ∧
        counted .secure packet = true ∧ closesWindow .secure packet device = false := by
  simp only [handleRecevingSecureFwLogged, Logged.all_bind, all_verifyDataType_iff, reduceCtorEq,
    false_implies, and_true, value_verifyDataTypeLogged, Logged.all_ite,
    all_storeSecurePacket_iff packet device sized, value_storeSecurePacketLogged,
    all_countSecurePacket_iff, not_all_sendAck_secure, decrypted, closesWindow, counted]
  cases valid : verifyDataType packet .writeSecureFlashPacket with
  | true =>
      have stored := storeSecurePacket_eq gcm hardware packet device valid
      have countPck := congrArg Device.countPck stored
      have totalPck := congrArg Device.totalPck stored
      simp only [intake_countPck, intake_totalPck] at countPck totalPck
      simp [endsWindow, countPck, totalPck, Mode.window]
  | false =>
      cases nak : verifyDataType packet .masterNak <;> simp [Mode.window, endsWindow]

end Handlers

end Bounds

def HandledInBounds (gcm : AesGcm) (device : Device) : Event → Prop
  | .receive packet hardware => device.running = none →
      (dataHandlerLogged gcm hardware packet device.cleared).All (Access.InBounds packet.numBytes)
  | _ => True

/-- The packet is not empty, has all the bytes that are read for a packet of its command, and
asks for no secure answer. -/
def PacketFits (hardware : Hardware) (packet : Packet) (device : Device) : Prop :=
  (device.connectionStatus = .connected →
    packet.numBytes ≠ 0 ∧
      (startMode packet = some .secure → admitted hardware .secure packet = false)) ∧
  (device.connectionStatus = .recevingRawFw →
    packet.numBytes ≠ 0 ∧
      (packet.mem 0 = writeFlashPacketCmd →
        3 ≤ packet.numBytes.toNat ∨ packet.numBytes = 2 ∧ packet.mem 1 ≠ 0)) ∧
  (device.connectionStatus = .recevingSecureFw →
    packet.numBytes ≠ 0 ∧ (decrypted .secure packet = true → packet.numBytes = 20) ∧
      counted .secure packet = true ∧ closesWindow .secure packet device = false)

instance (hardware : Hardware) (packet : Packet) (device : Device) :
    Decidable (PacketFits hardware packet device) :=
  inferInstanceAs (Decidable (_ ∧ _))

def EventFits (device : Device) : Event → Prop
  | .receive packet hardware => device.running = none → PacketFits hardware packet device
  | _ => True

theorem all_dataHandler_iff {gcm : AesGcm} {hardware : Hardware} (packet : Packet)
    (device : Device) (sized : ComputedSize gcm hardware) :
    (dataHandlerLogged gcm hardware packet device).All (Access.InBounds packet.numBytes) ↔
      PacketFits hardware packet device := by
  have printed : (touch .dataRcv 0 packet.numBytes.toNat).All
      (Access.InBounds packet.numBytes) := by
    rw [all_touch_iff]
    exact .inr (Nat.zero_add _).le
  simp only [dataHandlerLogged, Logged.all_bind, printed, true_and, PacketFits]
  cases status : device.connectionStatus with
  | connected => simp [all_handleConnected_iff]
  | recevingRawFw => simp [all_handleRecevingRawFw_iff]
  | recevingSecureFw => simp [all_handleRecevingSecureFw_iff packet device sized]
  | _ => simp

theorem handledInBounds_iff {gcm : AesGcm} (device : Device) (event : Event)
    (sized : ∀ packet hardware, event = .receive packet hardware → ComputedSize gcm hardware) :
    HandledInBounds gcm device event ↔ EventFits device event := by
  cases event with
  | receive packet hardware =>
      exact imp_congr_right fun _ =>
        all_dataHandler_iff packet device.cleared (sized packet hardware rfl)
  | _ => rfl

/-- The steps of a run stay inside the arrays exactly if the packets fit. -/
theorem run_inBounds_iff (gcm : AesGcm) (device : Device) (events : List Event)
    (sized : ∀ packet hardware, .receive packet hardware ∈ events → ComputedSize gcm hardware) :
    Along (step gcm) (HandledInBounds gcm) device events ↔
      Along (step gcm) EventFits device events := by
  refine @along_iff_of_invariant _ _ (step gcm) _ _ (fun _ => True) device events ?_ ?_ trivial
  · exact fun _ _ _ _ _ => trivial
  · rintro state event member -
    refine handledInBounds_iff state event fun packet hardware same => ?_
    exact sized packet hardware (same ▸ member)

theorem run_inBounds_raw :
    let start := Packet.ofBytes [0xbb, 1, 0, 1, 1] (by decide)
    let data := Packet.ofBytes (0xbb :: List.replicate 19 0) (by decide)
    Along (step (.ofTables [] [])) (HandledInBounds (.ofTables [] [])) (powerOn fun _ => 0)
      [.connect, .receive start (.working 0), .receive data (.working 0)] := by
  intro start data
  refine (run_inBounds_iff (.ofTables [] []) (powerOn fun _ => 0)
    [.connect, .receive start (.working 0), .receive data (.working 0)] ?_).mpr ?_
  · intro packet hardware member
    have working : hardware = .working 0 := by
      simp only [List.mem_cons, reduceCtorEq, Event.receive.injEq, List.not_mem_nil, or_false,
        false_or] at member
      exact member.elim And.right And.right
    exact ⟨AesGcm.lawful_ofTables [] [], by rw [working]; decide⟩
  · exact ⟨trivial, fun _ => by decide +kernel, fun _ => by decide +kernel, trivial⟩

/-- An empty packet, a data packet of nothing but the command, and the answer to the START of a
secure session. -/
theorem accesses_out_of_bounds :
    let gcm := AesGcm.ofTables [] []
    let connected := run gcm (fun _ => 0) [.connect]
    let start := Packet.ofBytes [0xbb, 1, 0, 1, 1] (by decide)
    let receving := run gcm (fun _ => 0) [.connect, .receive start (.working 0)]
    let empty := Packet.ofBytes [] (by decide)
    let command := Packet.ofBytes [0xbb] (by decide)
    let secureStart := Packet.ofBytes [0xbc, 1, 0, 1, 1] (by decide)
    ¬ HandledInBounds gcm connected (.receive empty (.working 0)) ∧
      ⟨.dataRcv, -1⟩ ∈ (dataHandlerLogged gcm (.working 0) empty connected.cleared).log ∧
      ¬ HandledInBounds gcm receving (.receive command (.working 0)) ∧
      ⟨.dataRcv, 255⟩ ∈ (dataHandlerLogged gcm (.working 0) command receving.cleared).log ∧
      ¬ HandledInBounds gcm connected (.receive secureStart (.working 0)) ∧
      ⟨.plaintext, 15⟩ ∈
        (dataHandlerLogged gcm (.working 0) secureStart connected.cleared).log := by
  refine ⟨?_, by decide +kernel, ?_, by decide +kernel, ?_, by decide +kernel⟩
  all_goals exact fun inside => absurd (inside (by decide +kernel)) (by decide +kernel)

end BleFwUpdate
