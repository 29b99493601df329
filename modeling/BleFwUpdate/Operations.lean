import BleFwUpdate.Service

/-! What each operation of the firmware does to the state, as one equation an operation. -/

namespace BleFwUpdate

/-! The flash manager. -/

/-- The double words programmed before the first failure, of `left` from `sofar` on. -/
def programmedCount (hardware : Hardware) : Nat → Nat → Nat
  | 0, _ => 0
  | left + 1, sofar =>
      if hardware.program sofar then programmedCount hardware left (sofar + 1) + 1 else 0

def programEffects (hardware : Hardware) (dataToFlash : Nat → UInt64) :
    Nat → Nat → UInt32 → List Effect
  | 0, _, _ => []
  | left + 1, sofar, address =>
      .program address (dataToFlash sofar) (hardware.program sofar) ::
        if hardware.program sofar then
          programEffects hardware dataToFlash left (sofar + 1) (address + 8)
        else []

def flashAfter (flash : UInt32 → UInt64) (effects : List Effect) : UInt32 → UInt64 :=
  effects.foldl (fun flash effect => match effect with
    | .program address data true => fun other => if other = address then data else flash other
    | _ => flash) flash

def readIndices (hardware : Hardware) (left sofar : Nat) : List Nat :=
  List.range' sofar (min left (programmedCount hardware left sofar + 1))

theorem programmedCount_le (hardware : Hardware) (left sofar : Nat) :
    programmedCount hardware left sofar ≤ left := by
  induction left generalizing sofar with
  | zero => simp [programmedCount]
  | succ left ih =>
      simp only [programmedCount]
      split
      · exact Nat.succ_le_succ (ih (sofar + 1))
      · omega

theorem programFrom_eq (hardware : Hardware) (dataToFlash : Nat → UInt64) (left sofar : Nat)
    (device : Device) :
    programFrom hardware dataToFlash left sofar device =
      (decide (programmedCount hardware left sofar = left),
        { device with
          staging := { device.staging with
            touched := device.staging.touched ++ readIndices hardware left sofar }
          effects := device.effects ++
            programEffects hardware dataToFlash left sofar device.startPageAddress
          flash := flashAfter device.flash
            (programEffects hardware dataToFlash left sofar device.startPageAddress)
          startPageAddress :=
            device.startPageAddress + 8 * UInt32.ofNat (programmedCount hardware left sofar) }) := by
  induction left generalizing sofar device with
  | zero => simp [programFrom, programmedCount, programEffects, flashAfter, readIndices]
  | succ left ih =>
      rw [programFrom]
      cases ok : hardware.program sofar with
      | false =>
          simp [halFlashProgram, Device.emit, Staging.touch, programmedCount, programEffects,
            flashAfter, readIndices, ok]
      | true =>
          have indices : readIndices hardware (left + 1) sofar =
              sofar :: readIndices hardware left (sofar + 1) := by
            simp only [readIndices, programmedCount, ok, if_true]
            rw [Nat.add_min_add_right, List.range'_succ]
          have address (count : Nat) : device.startPageAddress + 8 + 8 * UInt32.ofNat count =
              device.startPageAddress + 8 * UInt32.ofNat (count + 1) := by
            rw [UInt32.ofNat_add, UInt32.mul_add, UInt32.add_comm (8 * _), UInt32.add_assoc]
            rfl
          simp only [halFlashProgram, Device.emit, Staging.touch, if_true, ih]
          simp [programmedCount, programEffects, flashAfter, indices, ok, address]

theorem programEffects_eq (hardware : Hardware) (dataToFlash : Nat → UInt64) (left sofar : Nat)
    (address : UInt32) :
    programEffects hardware dataToFlash left sofar address =
      (List.range (programmedCount hardware left sofar)).map (fun offset =>
        Effect.program (address + 8 * UInt32.ofNat offset) (dataToFlash (sofar + offset)) true) ++
      if programmedCount hardware left sofar < left then
        [.program (address + 8 * UInt32.ofNat (programmedCount hardware left sofar))
          (dataToFlash (sofar + programmedCount hardware left sofar)) false]
      else [] := by
  induction left generalizing sofar address with
  | zero => simp [programEffects, programmedCount]
  | succ left ih =>
      cases ok : hardware.program sofar with
      | false => simp [programEffects, programmedCount, ok]
      | true =>
          have shifted (count : Nat) : address + 8 + 8 * UInt32.ofNat count =
              address + 8 * UInt32.ofNat (count + 1) := by
            rw [UInt32.ofNat_add, UInt32.mul_add, UInt32.add_comm (8 * _), UInt32.add_assoc]
            rfl
          have next (count : Nat) : sofar + 1 + count = sofar + (count + 1) := by omega
          simp only [programEffects, programmedCount, ok, if_true, ih, shifted, next,
            List.range_succ_eq_map, List.map_cons, List.map_map, Nat.add_lt_add_iff_right,
            List.cons_append]
          simp [Function.comp_def]

theorem mem_programEffects {hardware : Hardware} {dataToFlash : Nat → UInt64} {left : Nat}
    {address : UInt32} {effect : Effect} :
    effect ∈ programEffects hardware dataToFlash left 0 address ↔
      ∃ offset < left, offset ≤ programmedCount hardware left 0 ∧
        effect = .program (address + 8 * UInt32.ofNat offset) (dataToFlash offset)
          (decide (offset < programmedCount hardware left 0)) := by
  have bound := programmedCount_le hardware left 0
  rw [programEffects_eq]
  simp only [List.mem_append, List.mem_map, List.mem_range, Nat.zero_add]
  constructor
  · rintro (⟨offset, below, rfl⟩ | last)
    · exact ⟨offset, by omega, by omega, by simp [below]⟩
    · split at last
      · rename_i stopped
        exact ⟨_, stopped, Nat.le_refl _, by simpa using last⟩
      · simp at last
  · rintro ⟨offset, inside, upTo, rfl⟩
    by_cases below : offset < programmedCount hardware left 0
    · exact .inl ⟨offset, below, by simp [below]⟩
    · have same : programmedCount hardware left 0 = offset := by omega
      right
      rw [same]
      simp [inside]

/-- The outcome of `Write_FW_to_flash`: it succeeds exactly when the unlock and every
call of `HAL_FLASH_Program` do. -/
def writeOutcome (hardware : Hardware) (numBytes : UInt16) (device : Device) : Bool :=
  (!device.flashLocked || hardware.unlock) &&
    decide (programmedCount hardware numBytes.toUInt8.toNat 0 = numBytes.toUInt8.toNat)

def writeEffects (hardware : Hardware) (dataToFlash : Nat → UInt64) (numBytes : UInt16)
    (device : Device) : List Effect :=
  if !device.flashLocked || hardware.unlock then
    programEffects hardware dataToFlash numBytes.toUInt8.toNat 0 device.startPageAddress
  else []

def writtenCount (hardware : Hardware) (numBytes : UInt16) (device : Device) : Nat :=
  if !device.flashLocked || hardware.unlock then
    programmedCount hardware numBytes.toUInt8.toNat 0
  else 0

def writeTouched (hardware : Hardware) (numBytes : UInt16) (device : Device) : List Nat :=
  if !device.flashLocked || hardware.unlock then
    readIndices hardware numBytes.toUInt8.toNat 0
  else []

theorem writeFwToFlash_eq (hardware : Hardware) (dataToFlash : Nat → UInt64) (numBytes : UInt16)
    (device : Device) :
    writeFwToFlash hardware dataToFlash numBytes device =
      (writeOutcome hardware numBytes device,
        { device with
          staging := { device.staging with
            touched := device.staging.touched ++ writeTouched hardware numBytes device }
          effects := device.effects ++ writeEffects hardware dataToFlash numBytes device
          flash := flashAfter device.flash (writeEffects hardware dataToFlash numBytes device)
          flashLocked := if !device.flashLocked || hardware.unlock then
            writeOutcome hardware numBytes device else true
          startPageAddress := device.startPageAddress +
            8 * UInt32.ofNat (writtenCount hardware numBytes device) }) := by
  cases locked : device.flashLocked <;> cases unlock : hardware.unlock
  all_goals
    simp only [writeFwToFlash, halFlashUnlock, locked, unlock, programFrom_eq, writeOutcome,
      writeEffects, writtenCount, writeTouched, halFlashLock]
    simp [flashAfter]
  all_goals
    split <;> simp_all

/-- Where a slot begins; the other values of the slot byte have no slot. -/
def slotAddress : FlashAppType → Option UInt32
  | .flashAppFullSpace | .flashApp1 => some flashApp1Addr
  | .flashApp2 => some flashApp2Addr
  | _ => none

def slotSize : FlashAppType → Nat
  | .flashAppFullSpace => 0x40000
  | .flashApp1 | .flashApp2 => 0x20000
  | _ => 0

theorem slotSize_whole (app : FlashAppType) : slotSize app % 8 = 0 := by
  cases app <;> rfl

theorem slot_top {app : FlashAppType} {base : UInt32} (slot : slotAddress app = some base) :
    base.toNat + slotSize app ≤ 0x08080000 := by
  cases app <;> simp only [slotAddress, Option.some.injEq, reduceCtorEq] at slot <;>
    rw [← slot] <;> decide

def prepareOutcome (hardware : Hardware) (app : FlashAppType) : Bool :=
  hardware.eraseError.isNone && (slotAddress app).isSome

theorem prepareApplicationMemory_eq (hardware : Hardware) (app : FlashAppType) (device : Device) :
    prepareApplicationMemory hardware app device =
      (prepareOutcome hardware app,
        { device with
          flashLocked := true
          effects := device.effects ++ [.erase (eraseRequest app) hardware.eraseError.isNone]
          flash := erasedFlash hardware (eraseRequest app) device.flash
          startPageAddress := if hardware.eraseError.isNone then
            (slotAddress app).getD device.startPageAddress else device.startPageAddress }) := by
  cases locked : device.flashLocked <;> cases error : hardware.eraseError <;> cases app <;>
    simp [prepareApplicationMemory, halFlashUnlock, halFlashExErase, halFlashLock,
      setStartPageAddress, prepareOutcome, slotAddress, Device.emit, locked, error]

/-! Responses. -/

def ackByte (ack : Bool) : UInt8 := if ack then ackCmd else nakCmd

def rawResponse (hardware : Hardware) (ack : Bool) (countPck : UInt16) : List UInt8 :=
  let msg := [ackByte ack, highByte countPck, lowByte countPck, hardware.msgStack]
  [ackByte ack, highByte countPck, lowByte countPck,
    hexDigit (sumPayload (fun index => msg.getD index.toNat 0) 2 3 >>> 4)]

def responsePlaintext (countPck : UInt16) (randIv : Vector UInt8 3) : List UInt8 :=
  [highByte countPck, lowByte countPck] ++ randIv.toList

def secureResponse (gcm : AesGcm) (iv : Iv) (ack : Bool) (countPck : UInt16)
    (randIv : Vector UInt8 3) : List UInt8 :=
  let sealed := gcm.encrypt iv [ackByte ack] (responsePlaintext countPck randIv)
  ackByte ack :: (sealed.1 ++ sealed.2)

theorem sendAck_raw (gcm : AesGcm) (hardware : Hardware) (ack : Bool) (device : Device) :
    sendAck gcm hardware ack .writeFlashPacketResponse device =
      { device with
        oldAck := ack
        effects := device.effects ++ [.response (rawResponse hardware ack device.countPck)] } :=
  rfl

theorem sendAck_secure (gcm : AesGcm) (hardware : Hardware) (ack : Bool) (device : Device) :
    sendAck gcm hardware ack .writeSecureFlashPacketResponse device =
      { device with
        oldAck := ack
        randIv := (getRandBytes device.reg).1
        reg := (getRandBytes device.reg).2
        effects := device.effects ++
          [.encrypt device.iv [ackByte ack]
              (responsePlaintext device.countPck (getRandBytes device.reg).1),
            .response (secureResponse gcm device.iv ack device.countPck
              (getRandBytes device.reg).1)] } := by
  simp [sendAck, sendSecureAck, encryptData, updateTxChar, Device.emit, secureResponse,
    responsePlaintext, ackByte]

/-! Windows. -/

/-- Whether a window is accepted: every packet was, and the flash write succeeds. -/
def windowAccepted (hardware : Hardware) (device : Device) : Bool :=
  device.nextAck && writeOutcome hardware (device.staging.contBuff + 1) device

def windowEffects (hardware : Hardware) (device : Device) : List Effect :=
  if device.nextAck then
    writeEffects hardware device.staging.flashBuff (device.staging.contBuff + 1) device
  else []

def windowWritten (hardware : Hardware) (device : Device) : Nat :=
  if device.nextAck then writtenCount hardware (device.staging.contBuff + 1) device else 0

theorem settleWindow_eq (hardware : Hardware) (window : UInt16) (device : Device) :
    settleWindow hardware window device =
      { device with
        staging := { device.staging with
          touched := device.staging.touched ++ if device.nextAck then
            writeTouched hardware (device.staging.contBuff + 1) device else [] }
        effects := device.effects ++ windowEffects hardware device
        flash := flashAfter device.flash (windowEffects hardware device)
        flashLocked := if device.nextAck && (!device.flashLocked || hardware.unlock) then
          windowAccepted hardware device else device.flashLocked
        startPageAddress :=
          device.startPageAddress + 8 * UInt32.ofNat (windowWritten hardware device)
        nextAck := windowAccepted hardware device
        countPck := if windowAccepted hardware device then device.countPck
          else device.countPck - window } := by
  cases good : device.nextAck with
  | false =>
      simp [settleWindow, rejectWindow, windowAccepted, windowEffects, windowWritten, flashAfter,
        good]
  | true =>
      simp only [settleWindow, writeFwToFlash_eq, good, if_true]
      cases outcome : writeOutcome hardware (device.staging.contBuff + 1) device <;>
        cases locked : device.flashLocked <;> cases unlock : hardware.unlock <;>
        simp_all [rejectWindow, windowAccepted, windowEffects, windowWritten, writeOutcome]

end BleFwUpdate
