import BleFwUpdate.Operations

/-! The two receiving states side by side: what one packet does to the state, for either
mode of a session. -/

namespace BleFwUpdate

inductive Mode
  | raw
  | secure
  deriving DecidableEq, Repr

instance (holds : Mode → Prop) [DecidablePred holds] : Decidable (∀ mode, holds mode) :=
  decidable_of_iff (holds .raw ∧ holds .secure)
    ⟨fun both mode => match mode with
      | .raw => both.1
      | .secure => both.2, fun all => ⟨all .raw, all .secure⟩⟩

namespace Mode

def status : Mode → ConnectionStatus
  | raw => .recevingRawFw
  | secure => .recevingSecureFw

def window : Mode → UInt16
  | raw => rawNumCumulativeAck
  | secure => secureNumCumulativeAck

def checkedLen : Mode → UInt8
  | raw => payloadLen
  | secure => securePayloadLen

def stored : Mode → Nat
  | raw => 16
  | secure => 15

def dataType : Mode → PckType
  | raw => .writeFlashPacket
  | secure => .writeSecureFlashPacket

def replyType : Mode → PckType
  | raw => .writeFlashPacketResponse
  | secure => .writeSecureFlashPacketResponse

end Mode

def handleReceving (gcm : AesGcm) (hardware : Hardware) (mode : Mode) (packet : Packet)
    (device : Device) : Device :=
  match mode with
  | .raw => handleRecevingRawFw gcm hardware packet device
  | .secure => handleRecevingSecureFw gcm hardware packet device

theorem dataHandler_receving (gcm : AesGcm) (hardware : Hardware) (mode : Mode) (packet : Packet)
    {device : Device} (status : device.connectionStatus = mode.status) :
    dataHandler gcm hardware packet device =
      handleReceving gcm hardware mode packet device := by
  cases mode <;> simp only [dataHandler, status, Mode.status, handleReceving]

def numbered (mode : Mode) (packet : Packet) (device : Device) : Bool :=
  match mode with
  | .raw => packet.number 1 == device.countPck
  | .secure => (packet.mem 0 &&& 0xf).toUInt16 == device.countPck % 16

/-- Whether the packet is taken for the next one, and its payload staged. -/
def accepts (mode : Mode) (packet : Packet) (device : Device) : Bool :=
  verifyDataType packet mode.dataType && numbered mode packet device

/-- Whether `count_pck` is advanced: not for a master NAK. -/
def counted (mode : Mode) (packet : Packet) : Bool :=
  match mode with
  | .raw => true
  | .secure => verifyDataType packet .writeSecureFlashPacket || !verifyDataType packet .masterNak

def payload (gcm : AesGcm) (hardware : Hardware) (mode : Mode) (packet : Packet)
    (device : Device) : List UInt8 :=
  match mode with
  | .raw => packet.slice 3 (packet.numBytes.toNat - 1 - 3)
  | .secure =>
      (decryptData gcm hardware packet device).1.slice 1 (packet.numBytes.toNat - 4 - 1)

def storedBytes (gcm : AesGcm) (hardware : Hardware) (mode : Mode) (packet : Packet)
    (device : Device) : List UInt8 :=
  if accepts mode packet device then payload gcm hardware mode packet device else []

theorem length_payload_le (gcm : AesGcm) (hardware : Hardware) (mode : Mode) (packet : Packet)
    (device : Device) : (payload gcm hardware mode packet device).length ≤ mode.stored := by
  have short := packet.numBytes_le
  cases mode <;> simp only [payload, Packet.length_slice, Mode.stored] <;> omega

theorem length_storedBytes_le (gcm : AesGcm) (hardware : Hardware) (mode : Mode)
    (packet : Packet) (device : Device) :
    (storedBytes gcm hardware mode packet device).length ≤ mode.stored := by
  rw [storedBytes]
  split
  · exact length_payload_le gcm hardware mode packet device
  · simp

def decrypted (mode : Mode) (packet : Packet) : Bool :=
  match mode with
  | .raw => false
  | .secure => verifyDataType packet .writeSecureFlashPacket

def decryptEffect (gcm : AesGcm) (packet : Packet) (device : Device) : Effect :=
  let iv := nextIv device.iv device.randIv
  .decrypt iv (packet.slice 0 1) (packet.slice 1 15) (packet.slice 16 aesTagLen)
    (gcm.decrypt iv (packet.slice 0 1) (packet.slice 1 15) (packet.slice 16 aesTagLen)).isSome

def intake (gcm : AesGcm) (hardware : Hardware) (mode : Mode) (packet : Packet)
    (device : Device) : Device :=
  { device with
    staging := (storedBytes gcm hardware mode packet device).foldl stageByte device.staging
    nextAck := device.nextAck && accepts mode packet device
    countPck := device.countPck + 1
    iv := if decrypted mode packet then nextIv device.iv device.randIv else device.iv
    effects := device.effects ++
      if decrypted mode packet then [decryptEffect gcm packet device] else [] }

section Intake

variable (gcm : AesGcm) (hardware : Hardware) (mode : Mode) (packet : Packet) (device : Device)

@[simp] theorem intake_connected :
    (intake gcm hardware mode packet device).connected = device.connected := rfl

@[simp] theorem intake_running :
    (intake gcm hardware mode packet device).running = device.running := rfl

@[simp] theorem intake_connectionStatus :
    (intake gcm hardware mode packet device).connectionStatus = device.connectionStatus := rfl

@[simp] theorem intake_totalPck :
    (intake gcm hardware mode packet device).totalPck = device.totalPck := rfl

@[simp] theorem intake_countPck :
    (intake gcm hardware mode packet device).countPck = device.countPck + 1 := rfl

@[simp] theorem intake_appToUpdate :
    (intake gcm hardware mode packet device).appToUpdate = device.appToUpdate := rfl

@[simp] theorem intake_startPageAddress :
    (intake gcm hardware mode packet device).startPageAddress = device.startPageAddress := rfl

@[simp] theorem intake_flash :
    (intake gcm hardware mode packet device).flash = device.flash := rfl

@[simp] theorem intake_flashLocked :
    (intake gcm hardware mode packet device).flashLocked = device.flashLocked := rfl

@[simp] theorem intake_nextAck :
    (intake gcm hardware mode packet device).nextAck =
      (device.nextAck && accepts mode packet device) := rfl

@[simp] theorem intake_staging :
    (intake gcm hardware mode packet device).staging =
      (storedBytes gcm hardware mode packet device).foldl stageByte device.staging := rfl

@[simp] theorem intake_iv :
    (intake gcm hardware mode packet device).iv =
      if decrypted mode packet then nextIv device.iv device.randIv else device.iv := rfl

@[simp] theorem intake_reg : (intake gcm hardware mode packet device).reg = device.reg := rfl

@[simp] theorem intake_effects :
    (intake gcm hardware mode packet device).effects =
      device.effects ++ if decrypted mode packet then [decryptEffect gcm packet device] else [] :=
  rfl

end Intake

def closesWindow (mode : Mode) (packet : Packet) (device : Device) : Bool :=
  counted mode packet &&
    endsWindow mode.window { device with countPck := device.countPck + 1 }

theorem closesWindow_iff {mode : Mode} {packet : Packet} {device : Device}
    (isCounted : counted mode packet = true) :
    closesWindow mode packet device = true ↔
      (device.countPck + 1).toNat % mode.window.toNat = 0 ∨
        device.countPck + 1 = device.totalPck := by
  simp [closesWindow, isCounted, endsWindow, ← UInt16.toNat_inj]

/-- The end of a window: the raw mode settles it first, the secure mode answers it first. -/
def closeWindow (gcm : AesGcm) (hardware : Hardware) (mode : Mode) (device : Device) : Device :=
  match mode with
  | .raw =>
      let device := settleWindow hardware rawNumCumulativeAck device
      resetWindow (sendAck gcm hardware device.nextAck .writeFlashPacketResponse device)
  | .secure =>
      resetWindow (settleWindow hardware secureNumCumulativeAck
        (sendAck gcm hardware device.nextAck .writeSecureFlashPacketResponse device))

theorem storeRawPacket_eq (gcm : AesGcm) (hardware : Hardware) (packet : Packet)
    (device : Device) :
    { storeRawPacket packet device with
      countPck := (storeRawPacket packet device).countPck + 1 } =
      intake gcm hardware .raw packet device := by
  cases valid : verifyDataType packet .writeFlashPacket <;>
    by_cases number : packet.number 1 = device.countPck <;>
    simp [storeRawPacket, intake, storedBytes, accepts, numbered, payload, decrypted, stageBytes,
      Mode.dataType, valid, number]

theorem storeSecurePacket_eq (gcm : AesGcm) (hardware : Hardware) (packet : Packet)
    (device : Device) (valid : verifyDataType packet .writeSecureFlashPacket = true) :
    { storeSecurePacket gcm hardware packet device with
      countPck := (storeSecurePacket gcm hardware packet device).countPck + 1 } =
      intake gcm hardware .secure packet device := by
  simp only [storeSecurePacket, intake, storedBytes, accepts, numbered, payload, decrypted,
    decryptData, decryptEffect, Device.emit, Mode.dataType, valid]
  generalize (packet.mem 0 &&& 0xf).toUInt16 = cumulativePckNum
  by_cases number : cumulativePckNum = device.countPck % 16 <;>
    simp [stageBytes, Packet.write, number]

theorem intake_unverified (gcm : AesGcm) (hardware : Hardware) (packet : Packet) (device : Device)
    (invalid : verifyDataType packet .writeSecureFlashPacket = false) :
    intake gcm hardware .secure packet device =
      { device with nextAck := false, countPck := device.countPck + 1 } := by
  simp [intake, storedBytes, accepts, decrypted, Mode.dataType, invalid]

def afterIntake (gcm : AesGcm) (hardware : Hardware) (mode : Mode) (device : Device) : Device :=
  if endsWindow mode.window device then closeWindow gcm hardware mode device else device

theorem handleRecevingRawFw_eq (gcm : AesGcm) (hardware : Hardware) (packet : Packet)
    (device : Device) :
    handleRecevingRawFw gcm hardware packet device =
      afterIntake gcm hardware .raw (intake gcm hardware .raw packet device) := by
  rw [← storeRawPacket_eq gcm hardware]
  rfl

theorem countSecurePacket_eq (gcm : AesGcm) (hardware : Hardware) (device : Device) :
    countSecurePacket gcm hardware device =
      afterIntake gcm hardware .secure { device with countPck := device.countPck + 1 } := rfl

theorem handleRecevingSecureFw_eq (gcm : AesGcm) (hardware : Hardware) (packet : Packet)
    (device : Device) (isCounted : counted .secure packet = true) :
    handleRecevingSecureFw gcm hardware packet device =
      afterIntake gcm hardware .secure (intake gcm hardware .secure packet device) := by
  cases valid : verifyDataType packet .writeSecureFlashPacket with
  | true =>
      rw [← storeSecurePacket_eq gcm hardware packet device valid, ← countSecurePacket_eq]
      simp only [handleRecevingSecureFw, valid, if_true]
  | false =>
      have noNak : verifyDataType packet .masterNak = false := by
        simpa [counted, valid] using isCounted
      rw [intake_unverified gcm hardware packet device valid]
      simp only [handleRecevingSecureFw, valid, noNak, countSecurePacket_eq, Bool.false_eq_true,
        if_false]

theorem handleReceving_eq (gcm : AesGcm) (hardware : Hardware) (mode : Mode) (packet : Packet)
    (device : Device) :
    handleReceving gcm hardware mode packet device =
      if counted mode packet then
        if closesWindow mode packet device then
          closeWindow gcm hardware mode (intake gcm hardware mode packet device)
        else intake gcm hardware mode packet device
      else sendAck gcm hardware device.oldAck mode.replyType device := by
  cases isCounted : counted mode packet with
  | true =>
      simp only [closesWindow, isCounted, Bool.true_and, if_true]
      cases mode with
      | raw => exact handleRecevingRawFw_eq gcm hardware packet device
      | secure => exact handleRecevingSecureFw_eq gcm hardware packet device isCounted
  | false =>
      cases mode with
      | raw => simp [counted] at isCounted
      | secure =>
          simp only [counted, Bool.or_eq_false_iff, Bool.not_eq_false'] at isCounted
          simp [handleReceving, handleRecevingSecureFw, isCounted, Mode.replyType]

/-! What the end of a window leaves behind, in either mode. -/

section CloseWindow

variable (gcm : AesGcm) (hardware : Hardware) (mode : Mode) (device : Device)

theorem closeWindow_settled :
    ∃ oldAck randIv reg effects,
      closeWindow gcm hardware mode device =
        { resetWindow (settleWindow hardware mode.window device) with
          oldAck := oldAck, randIv := randIv, reg := reg, effects := effects } := by
  cases mode with
  | raw =>
      simp only [closeWindow, sendAck_raw, Mode.window]
      exact ⟨_, _, _, _, rfl⟩
  | secure =>
      simp only [closeWindow, sendAck_secure, settleWindow_eq, Mode.window]
      exact ⟨_, _, _, _, rfl⟩

@[simp] theorem closeWindow_countPck :
    (closeWindow gcm hardware mode device).countPck =
      if windowAccepted hardware device then device.countPck
      else device.countPck - mode.window := by
  obtain ⟨_, _, _, _, shape⟩ := closeWindow_settled gcm hardware mode device
  simp [shape, resetWindow, settleWindow_eq]

@[simp] theorem closeWindow_connectionStatus :
    (closeWindow gcm hardware mode device).connectionStatus =
      if (closeWindow gcm hardware mode device).countPck = device.totalPck then
        .closingConnection
      else device.connectionStatus := by
  obtain ⟨_, _, _, _, shape⟩ := closeWindow_settled gcm hardware mode device
  simp [shape, resetWindow, settleWindow_eq]

@[simp] theorem closeWindow_startPageAddress :
    (closeWindow gcm hardware mode device).startPageAddress =
      device.startPageAddress + 8 * UInt32.ofNat (windowWritten hardware device) := by
  obtain ⟨_, _, _, _, shape⟩ := closeWindow_settled gcm hardware mode device
  simp [shape, resetWindow, settleWindow_eq]

@[simp] theorem closeWindow_flash :
    (closeWindow gcm hardware mode device).flash =
      flashAfter device.flash (windowEffects hardware device) := by
  obtain ⟨_, _, _, _, shape⟩ := closeWindow_settled gcm hardware mode device
  simp [shape, resetWindow, settleWindow_eq]

@[simp] theorem closeWindow_iv : (closeWindow gcm hardware mode device).iv = device.iv := by
  obtain ⟨_, _, _, _, shape⟩ := closeWindow_settled gcm hardware mode device
  simp [shape, resetWindow, settleWindow_eq]

@[simp] theorem closeWindow_staging :
    (closeWindow gcm hardware mode device).staging =
      { device.staging with
        contBuff := 0xFFFF
        entries := []
        touched := device.staging.touched ++ if device.nextAck then
          writeTouched hardware (device.staging.contBuff + 1) device else [] } := by
  obtain ⟨_, _, _, _, shape⟩ := closeWindow_settled gcm hardware mode device
  simp [shape, resetWindow, settleWindow_eq, Staging.discard]

@[simp] theorem closeWindow_nextAck :
    (closeWindow gcm hardware mode device).nextAck = true := by
  obtain ⟨_, _, _, _, shape⟩ := closeWindow_settled gcm hardware mode device
  simp [shape, resetWindow]

@[simp] theorem closeWindow_totalPck :
    (closeWindow gcm hardware mode device).totalPck = device.totalPck := by
  obtain ⟨_, _, _, _, shape⟩ := closeWindow_settled gcm hardware mode device
  simp [shape, resetWindow, settleWindow_eq]

@[simp] theorem closeWindow_appToUpdate :
    (closeWindow gcm hardware mode device).appToUpdate = device.appToUpdate := by
  obtain ⟨_, _, _, _, shape⟩ := closeWindow_settled gcm hardware mode device
  simp [shape, resetWindow, settleWindow_eq]

@[simp] theorem closeWindow_connected :
    (closeWindow gcm hardware mode device).connected = device.connected := by
  obtain ⟨_, _, _, _, shape⟩ := closeWindow_settled gcm hardware mode device
  simp [shape, resetWindow, settleWindow_eq]

@[simp] theorem closeWindow_running :
    (closeWindow gcm hardware mode device).running = device.running := by
  obtain ⟨_, _, _, _, shape⟩ := closeWindow_settled gcm hardware mode device
  simp [shape, resetWindow, settleWindow_eq]

theorem closeWindow_raw_randIv :
    (closeWindow gcm hardware .raw device).randIv = device.randIv := by
  simp [closeWindow, sendAck_raw, settleWindow_eq, resetWindow]

theorem closeWindow_secure_randIv :
    (closeWindow gcm hardware .secure device).randIv = (getRandBytes device.reg).1 := by
  simp [closeWindow, sendAck_secure, settleWindow_eq, resetWindow]

end CloseWindow

theorem closeWindow_raw_effects (gcm : AesGcm) (hardware : Hardware) (device : Device) :
    (closeWindow gcm hardware .raw device).effects =
      device.effects ++ windowEffects hardware device ++
        [.response (rawResponse hardware (windowAccepted hardware device)
          (closeWindow gcm hardware .raw device).countPck)] := by
  simp [closeWindow, sendAck_raw, settleWindow_eq, resetWindow]

theorem closeWindow_secure_effects (gcm : AesGcm) (hardware : Hardware) (device : Device) :
    (closeWindow gcm hardware .secure device).effects =
      device.effects ++
        [.encrypt device.iv [ackByte device.nextAck]
            (responsePlaintext device.countPck (getRandBytes device.reg).1),
          .response (secureResponse gcm device.iv device.nextAck device.countPck
            (getRandBytes device.reg).1)] ++
        windowEffects hardware device := by
  simp [closeWindow, sendAck_secure, settleWindow_eq, resetWindow, windowEffects, writeEffects]

end BleFwUpdate
