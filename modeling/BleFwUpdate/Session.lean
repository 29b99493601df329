import BleFwUpdate.Receiving
import BleFwUpdate.Staging

/-! How a session begins and ends, and what holds between sessions. -/

namespace BleFwUpdate

open Transitions

def startMode (packet : Packet) : Option Mode :=
  if verifyDataType packet .startFlashMode then some .raw
  else if verifyDataType packet .startSecureFlashMode then some .secure
  else none

def requestedApp (packet : Packet) : FlashAppType := .ofByte (packet.mem 1)

def admitted (hardware : Hardware) (mode : Mode) (packet : Packet) : Bool :=
  prepareOutcome hardware (requestedApp packet) &&
    checkFwSize (packet.number 2) mode.checkedLen (requestedApp packet)

/-- The number of bytes that `checkFWSize` compares with; its division is one of integers. -/
def sizeLimit : FlashAppType → Nat
  | .flashAppFullSpace => 256000
  | .flashApp1 | .flashApp2 => 128000
  | _ => 0

theorem checkFwSize_iff {app : FlashAppType} {base : UInt32} (slot : slotAddress app = some base)
    (mode : Mode) {count : Nat} (small : count < 65536) :
    checkFwSize (UInt16.ofNat count) mode.checkedLen app = true ↔
      count * mode.checkedLen.toNat < 2 * sizeLimit app := by
  have factor : mode.checkedLen.toNat ≤ 16 := by cases mode <;> decide
  have product : ((UInt16.ofNat count).toUInt32 * mode.checkedLen.toUInt32).toNat =
      count * mode.checkedLen.toNat := by
    have bound : count * mode.checkedLen.toNat ≤ 65535 * 16 := Nat.mul_le_mul (by omega) factor
    have number : count % 2 ^ 16 = count := Nat.mod_eq_of_lt (by omega)
    rw [UInt32.toNat_mul, UInt16.toNat_toUInt32, UInt8.toNat_toUInt32, UInt16.toNat_ofNat', number,
      Nat.mod_eq_of_lt (by omega)]
  cases app <;> simp only [slotAddress, reduceCtorEq] at slot <;>
    simp only [checkFwSize, sizeLimit, gt_iff_lt, UInt32.lt_iff_toNat_lt, UInt32.toNat_div, product,
      UInt32.reduceToNat, Bool.if_false_left, Bool.and_true, Bool.not_eq_true',
      decide_eq_false_iff_not] <;>
    omega

def startRead (hardware : Hardware) (mode : Mode) (packet : Packet) (device : Device) : Device :=
  { device with
    totalPck := packet.number 2
    appToUpdate := requestedApp packet
    reg := if mode = .secure then initRandGenerator hardware.timer else device.reg }

def startPrepared (hardware : Hardware) (mode : Mode) (packet : Packet) (device : Device) :
    Device :=
  { startRead hardware mode packet device with
    flashLocked := true
    effects := device.effects ++
      [.erase (eraseRequest (requestedApp packet)) hardware.eraseError.isNone]
    flash := erasedFlash hardware (eraseRequest (requestedApp packet)) device.flash
    startPageAddress := if hardware.eraseError.isNone then
      (slotAddress (requestedApp packet)).getD device.startPageAddress
      else device.startPageAddress }

theorem answerStart_startRead (gcm : AesGcm) (hardware : Hardware) (mode : Mode)
    (packet : Packet) (device : Device) :
    answerStart gcm hardware mode.checkedLen mode.replyType mode.status
        (startRead hardware mode packet device) =
      if admitted hardware mode packet then
        { sendAck gcm hardware true mode.replyType (startPrepared hardware mode packet device) with
          connectionStatus := mode.status }
      else
        sendAck gcm hardware false .writeFlashPacketResponse
          (startPrepared hardware mode packet device) := by
  simp [answerStart, startRead, startPrepared, prepareApplicationMemory_eq, admitted]

theorem handleConnected_eq (gcm : AesGcm) (hardware : Hardware) (packet : Packet)
    (device : Device) :
    handleConnected gcm hardware packet device =
      match startMode packet with
      | some mode =>
          if admitted hardware mode packet then
            { sendAck gcm hardware true mode.replyType
                (startPrepared hardware mode packet device) with
              connectionStatus := mode.status }
          else
            sendAck gcm hardware false .writeFlashPacketResponse
              (startPrepared hardware mode packet device)
      | none => sendAck gcm hardware false .writeFlashPacketResponse device := by
  simp only [← answerStart_startRead]
  cases raw : verifyDataType packet .startFlashMode with
  | true => simp [handleConnected, startMode, startRead, requestedApp, raw, Mode.checkedLen,
      Mode.replyType, Mode.status]
  | false =>
      cases secure : verifyDataType packet .startSecureFlashMode <;>
        simp [handleConnected, startMode, startRead, requestedApp, raw, secure, Mode.checkedLen,
          Mode.replyType, Mode.status]

theorem handleConnected_shape (gcm : AesGcm) (hardware : Hardware) (packet : Packet)
    (device : Device) (status : device.connectionStatus = .connected) :
    ∃ oldAck randIv reg effects flash flashLocked startPageAddress totalPck appToUpdate,
      handleConnected gcm hardware packet device =
        { device with
          connectionStatus := match startMode packet with
            | some mode => if admitted hardware mode packet then mode.status else .connected
            | none => .connected
          oldAck := oldAck, randIv := randIv, reg := reg, effects := effects, flash := flash
          flashLocked := flashLocked, startPageAddress := startPageAddress
          totalPck := totalPck, appToUpdate := appToUpdate } := by
  rw [handleConnected_eq]
  cases startMode packet with
  | none =>
      simp only [sendAck_raw, ← status]
      exact ⟨_, _, _, _, _, _, _, _, _, rfl⟩
  | some mode =>
      dsimp only
      cases admitted hardware mode packet with
      | false =>
          simp only [Bool.false_eq_true, if_false, sendAck_raw, startPrepared, startRead, ← status]
          exact ⟨_, _, _, _, _, _, _, _, _, rfl⟩
      | true =>
          cases mode <;>
            simp only [if_true, Mode.replyType, sendAck_raw, sendAck_secure, startPrepared,
              startRead]
          all_goals exact ⟨_, _, _, _, _, _, _, _, _, rfl⟩

/-! Nothing depends on what the history variables of an event held before it. -/

theorem Staged.cleared {bytes : List UInt8} {device : Device}
    (staged : Staged bytes device.staging) :
    Staged bytes device.cleared.staging :=
  ⟨staged.count, staged.words, staged.position, staged.small⟩

section Cleared

variable (gcm : AesGcm) (hardware : Hardware) (mode : Mode) (packet : Packet) (device : Device)

@[simp] theorem closesWindow_cleared :
    closesWindow mode packet device.cleared = closesWindow mode packet device := rfl

@[simp] theorem accepts_cleared :
    accepts mode packet device.cleared = accepts mode packet device := by
  cases mode <;> rfl

@[simp] theorem payload_cleared :
    payload gcm hardware mode packet device.cleared = payload gcm hardware mode packet device := by
  cases mode <;> rfl

@[simp] theorem storedBytes_cleared :
    storedBytes gcm hardware mode packet device.cleared =
      storedBytes gcm hardware mode packet device := by
  simp only [storedBytes, accepts_cleared, payload_cleared]

theorem intake_cleared :
    ∃ touched effects, intake gcm hardware mode packet device.cleared =
      { intake gcm hardware mode packet device with
        staging := { (intake gcm hardware mode packet device).staging with touched := touched }
        effects := effects } := by
  refine ⟨[] ++ stagedAt (storedBytes gcm hardware mode packet device) device.staging,
    (intake gcm hardware mode packet device.cleared).effects, ?_⟩
  rw [intake_staging, ← stageBytes_touched_irrelevant]
  simp only [intake, storedBytes_cleared, accepts_cleared]
  rfl

@[simp] theorem windowAccepted_intake_cleared :
    windowAccepted hardware (intake gcm hardware mode packet device.cleared) =
      windowAccepted hardware (intake gcm hardware mode packet device) := by
  obtain ⟨_, _, shape⟩ := intake_cleared gcm hardware mode packet device
  rw [shape]
  rfl

@[simp] theorem windowEffects_intake_cleared :
    windowEffects hardware (intake gcm hardware mode packet device.cleared) =
      windowEffects hardware (intake gcm hardware mode packet device) := by
  obtain ⟨_, _, shape⟩ := intake_cleared gcm hardware mode packet device
  rw [shape]
  rfl

theorem closes_raw_effects :
    (closeWindow gcm hardware .raw (intake gcm hardware .raw packet device.cleared)).effects =
      windowEffects hardware (intake gcm hardware .raw packet device) ++
        [.response (rawResponse hardware
          (windowAccepted hardware (intake gcm hardware .raw packet device))
          (closeWindow gcm hardware .raw (intake gcm hardware .raw packet device)).countPck)] := by
  rw [closeWindow_raw_effects]
  simp [decrypted]

def beforeAnswer : List Effect :=
  (if decrypted .secure packet then [decryptEffect gcm packet device] else []) ++
    [.encrypt (intake gcm hardware .secure packet device).iv
      [ackByte (device.nextAck && accepts .secure packet device)]
      (responsePlaintext (device.countPck + 1) (getRandBytes device.reg).1)]

theorem mem_beforeAnswer {effect : Effect}
    (member : effect ∈ beforeAnswer gcm hardware packet device) :
    (∃ iv addData ciphertext tag ok, effect = .decrypt iv addData ciphertext tag ok) ∨
      ∃ iv addData plaintext, effect = .encrypt iv addData plaintext := by
  rcases List.mem_append.mp member with member | member
  · split at member
    · exact .inl ⟨_, _, _, _, _, List.mem_singleton.mp member⟩
    · contradiction
  · exact .inr ⟨_, _, _, List.mem_singleton.mp member⟩

theorem closes_secure_effects :
    (closeWindow gcm hardware .secure (intake gcm hardware .secure packet device.cleared)).effects =
      beforeAnswer gcm hardware packet device ++
        .response (secureResponse gcm (intake gcm hardware .secure packet device).iv
            (device.nextAck && accepts .secure packet device) (device.countPck + 1)
            (getRandBytes device.reg).1) ::
          windowEffects hardware (intake gcm hardware .secure packet device) := by
  rw [closeWindow_secure_effects]
  simp [decryptEffect, beforeAnswer]

end Cleared

/-! Steps of the device, by the state it is in. -/

section Steps

variable (gcm : AesGcm) {device : Device}

theorem step_connected (packet : Packet) (hardware : Hardware) (booted : device.running = none)
    (status : device.connectionStatus = .connected) :
    step gcm device (.receive packet hardware) =
      handleConnected gcm hardware packet device.cleared := by
  simp [step, handleEvent, dataHandler, Device.cleared, booted, status]

theorem step_receving (mode : Mode) (packet : Packet) (hardware : Hardware)
    (booted : device.running = none) (status : device.connectionStatus = mode.status) :
    step gcm device (.receive packet hardware) =
      handleReceving gcm hardware mode packet device.cleared := by
  simp only [step, handleEvent, booted, Option.isSome_none, Bool.false_eq_true, if_false]
  exact dataHandler_receving gcm hardware mode packet status

theorem step_ignored (packet : Packet) (hardware : Hardware)
    (status : device.connectionStatus = .idle ∨ device.connectionStatus = .closingConnection) :
    step gcm device (.receive packet hardware) = device.cleared := by
  rcases status with status | status <;>
    simp [step, handleEvent, dataHandler, Device.cleared, status]

theorem step_connect (booted : device.running = none) :
    step gcm device .connect =
      { device.cleared with connected := true, connectionStatus := .connected } := by
  simp [step, handleEvent, gapConnectionCompleteCb, booted]

def jumps (device : Device) : Prop := device.countPck = device.totalPck ∧ device.totalPck ≠ 0

instance (device : Device) : Decidable (jumps device) := inferInstanceAs (Decidable (_ ∧ _))

theorem step_disconnect_jump (hardware : Hardware) (booted : device.running = none)
    (complete : jumps device) :
    step gcm device (.disconnect hardware) =
      { device.cleared with
        connected := false
        connectionStatus := .idle
        effects := [.go2App device.appToUpdate]
        running := some device.appToUpdate } := by
  have condition : device.countPck = device.totalPck ∧ device.totalPck ≠ 0 := complete
  simp [step, handleEvent, gapDisconnectionCompleteCb, go2App, Device.emit, Device.cleared, booted,
    condition]

theorem step_disconnect_stay (hardware : Hardware) (booted : device.running = none)
    (incomplete : ¬ jumps device) :
    step gcm device (.disconnect hardware) =
      { device with
        connected := false
        connectionStatus := .idle
        countPck := 0
        staging := { device.staging.discard with touched := [] }
        flashLocked := true
        effects := [.erase (eraseRequest device.appToUpdate) hardware.eraseError.isNone]
        flash := erasedFlash hardware (eraseRequest device.appToUpdate) device.flash
        startPageAddress := if hardware.eraseError.isNone then
          (slotAddress device.appToUpdate).getD device.startPageAddress
          else device.startPageAddress
        setConnectable := true } := by
  have condition : ¬ (device.countPck = device.totalPck ∧ device.totalPck ≠ 0) := incomplete
  simp only [step, handleEvent, gapDisconnectionCompleteCb, Device.cleared, booted,
    Option.isSome_none, Bool.false_eq_true, if_false, condition, prepareApplicationMemory_eq,
    Staging.discard, List.nil_append]

theorem step_running (event : Event) (running : device.running ≠ none) :
    step gcm device event = device.cleared := by
  simp [step, Option.isSome_iff_ne_none.mpr running]

end Steps

theorem connectionStatus_cases (status : ConnectionStatus) :
    status = .idle ∨ status = .closingConnection ∨ status = .connected ∨
      ∃ mode : Mode, status = mode.status := by
  cases status with
  | recevingRawFw => exact .inr (.inr (.inr ⟨.raw, rfl⟩))
  | recevingSecureFw => exact .inr (.inr (.inr ⟨.secure, rfl⟩))
  | _ => simp

theorem counted_of_accepts {mode : Mode} {packet : Packet} {device : Device}
    (good : accepts mode packet device = true) : counted mode packet = true := by
  simp only [accepts, Bool.and_eq_true] at good
  cases mode with
  | raw => rfl
  | secure =>
      rw [counted, Bool.or_eq_true]
      exact .inl good.1

theorem counted_of_closes {mode : Mode} {packet : Packet} {device : Device}
    (closes : closesWindow mode packet device = true) : counted mode packet = true := by
  simp only [closesWindow, Bool.and_eq_true] at closes
  exact closes.1

theorem step_counted (gcm : AesGcm) (hardware : Hardware) {mode : Mode} {packet : Packet}
    {device : Device} (booted : device.running = none)
    (status : device.connectionStatus = mode.status) (isCounted : counted mode packet = true) :
    step gcm device (.receive packet hardware) =
      if closesWindow mode packet device then
        closeWindow gcm hardware mode (intake gcm hardware mode packet device.cleared)
      else intake gcm hardware mode packet device.cleared := by
  rw [step_receving gcm mode packet hardware booted status, handleReceving_eq,
    closesWindow_cleared, if_pos isCounted]

theorem step_uncounted (gcm : AesGcm) (hardware : Hardware) {mode : Mode} {packet : Packet}
    {device : Device} (booted : device.running = none)
    (status : device.connectionStatus = mode.status) (notCounted : counted mode packet = false) :
    step gcm device (.receive packet hardware) =
      sendAck gcm hardware device.oldAck mode.replyType device.cleared := by
  rw [step_receving gcm mode packet hardware booted status, handleReceving_eq, notCounted]
  rfl

theorem handleReceving_frame (gcm : AesGcm) (hardware : Hardware) (mode : Mode) (packet : Packet)
    (device : Device) :
    (handleReceving gcm hardware mode packet device).connected = device.connected ∧
      (handleReceving gcm hardware mode packet device).running = device.running ∧
      (handleReceving gcm hardware mode packet device).totalPck = device.totalPck ∧
      (handleReceving gcm hardware mode packet device).appToUpdate = device.appToUpdate := by
  rw [handleReceving_eq]
  split
  · split <;> simp
  · cases mode <;> exact ⟨rfl, rfl, rfl, rfl⟩

theorem receive_frame (gcm : AesGcm) {device : Device} (packet : Packet) (hardware : Hardware)
    (begun : device.connectionStatus ≠ .connected) :
    (step gcm device (.receive packet hardware)).connected = device.connected ∧
      (step gcm device (.receive packet hardware)).running = device.running ∧
      (step gcm device (.receive packet hardware)).totalPck = device.totalPck ∧
      (step gcm device (.receive packet hardware)).appToUpdate = device.appToUpdate := by
  by_cases booted : device.running = none
  · rcases connectionStatus_cases device.connectionStatus with
      status | status | status | ⟨mode, status⟩
    · rw [step_ignored gcm packet hardware (.inl status)]
      exact ⟨rfl, rfl, rfl, rfl⟩
    · rw [step_ignored gcm packet hardware (.inr status)]
      exact ⟨rfl, rfl, rfl, rfl⟩
    · exact (begun status).elim
    · rw [step_receving gcm mode packet hardware booted status]
      exact handleReceving_frame gcm hardware mode packet device.cleared
  · rw [step_running gcm _ booted]
    exact ⟨rfl, rfl, rfl, rfl⟩

/-- All that one step can do. Every property of the steps is proved by these cases. -/
theorem step_cases (gcm : AesGcm) (device : Device) {motive : Event → Prop}
    (running : ∀ event, device.running ≠ none → step gcm device event = device.cleared →
      motive event)
    (connect : device.running = none →
      step gcm device .connect =
        { device.cleared with connected := true, connectionStatus := .connected } →
      motive .connect)
    (jump : ∀ hardware, device.running = none → jumps device →
      step gcm device (.disconnect hardware) =
        { device.cleared with
          connected := false
          connectionStatus := .idle
          effects := [.go2App device.appToUpdate]
          running := some device.appToUpdate } →
      motive (.disconnect hardware))
    (stay : ∀ hardware, device.running = none → ¬ jumps device →
      step gcm device (.disconnect hardware) =
        { device with
          connected := false
          connectionStatus := .idle
          countPck := 0
          staging := { device.staging.discard with touched := [] }
          flashLocked := true
          effects := [.erase (eraseRequest device.appToUpdate) hardware.eraseError.isNone]
          flash := erasedFlash hardware (eraseRequest device.appToUpdate) device.flash
          startPageAddress := if hardware.eraseError.isNone then
            (slotAddress device.appToUpdate).getD device.startPageAddress
            else device.startPageAddress
          setConnectable := true } →
      motive (.disconnect hardware))
    (ignored : ∀ packet hardware, device.running = none →
      device.connectionStatus = .idle ∨ device.connectionStatus = .closingConnection →
      step gcm device (.receive packet hardware) = device.cleared →
      motive (.receive packet hardware))
    (connected : ∀ packet hardware, device.running = none →
      device.connectionStatus = .connected →
      step gcm device (.receive packet hardware) =
        handleConnected gcm hardware packet device.cleared →
      motive (.receive packet hardware))
    (repeats : ∀ mode packet hardware, device.running = none →
      device.connectionStatus = mode.status → counted mode packet = false →
      step gcm device (.receive packet hardware) =
        sendAck gcm hardware device.oldAck mode.replyType device.cleared →
      motive (.receive packet hardware))
    (inside : ∀ mode packet hardware, device.running = none →
      device.connectionStatus = mode.status → counted mode packet = true →
      closesWindow mode packet device = false →
      step gcm device (.receive packet hardware) =
        intake gcm hardware mode packet device.cleared →
      motive (.receive packet hardware))
    (closes : ∀ mode packet hardware, device.running = none →
      device.connectionStatus = mode.status → closesWindow mode packet device = true →
      step gcm device (.receive packet hardware) =
        closeWindow gcm hardware mode (intake gcm hardware mode packet device.cleared) →
      motive (.receive packet hardware))
    (event : Event) : motive event := by
  by_cases booted : device.running = none
  · cases event with
    | connect => exact connect booted (step_connect gcm booted)
    | disconnect hardware =>
        by_cases complete : jumps device
        · exact jump hardware booted complete (step_disconnect_jump gcm hardware booted complete)
        · exact stay hardware booted complete (step_disconnect_stay gcm hardware booted complete)
    | receive packet hardware =>
        rcases connectionStatus_cases device.connectionStatus with
          status | status | status | ⟨mode, status⟩
        · exact ignored packet hardware booted (.inl status)
            (step_ignored gcm packet hardware (.inl status))
        · exact ignored packet hardware booted (.inr status)
            (step_ignored gcm packet hardware (.inr status))
        · exact connected packet hardware booted status
            (step_connected gcm packet hardware booted status)
        · cases isCounted : counted mode packet with
          | false =>
              exact repeats mode packet hardware booted status isCounted
                (step_uncounted gcm hardware booted status isCounted)
          | true =>
              have after := step_counted gcm hardware booted status isCounted
              cases isClosing : closesWindow mode packet device with
              | false =>
                  rw [isClosing] at after
                  exact inside mode packet hardware booted status isCounted isClosing after
              | true =>
                  rw [isClosing] at after
                  exact closes mode packet hardware booted status isClosing after
  · exact running event booted (step_running gcm event booted)

theorem Mode.status_ne_idle (mode : Mode) :
    ¬ (mode.status = .idle ∨ mode.status = .connected) := by
  cases mode <;> simp [Mode.status]

/-- What holds between sessions in every run in which connections alternate: no packet is
counted and the buffer is empty until a START has been admitted. -/
structure Fresh (device : Device) : Prop where
  offline : device.connected = false → device.connectionStatus = .idle
  untouched : device.running = none →
    device.connectionStatus = .idle ∨ device.connectionStatus = .connected →
      device.countPck = 0 ∧ device.staging.contBuff = 0xFFFF ∧ device.staging.entries = []
  small : device.staging.bytePos.toNat < 8

theorem fresh_powerOn (flash : UInt32 → UInt64) : Fresh (powerOn flash) where
  offline _ := rfl
  untouched _ _ := ⟨rfl, rfl, rfl⟩
  small := Nat.zero_lt_succ 7

theorem Fresh.cleared {device : Device} (fresh : Fresh device) : Fresh device.cleared :=
  ⟨fresh.offline, fresh.untouched, fresh.small⟩

theorem fresh_receving {device after : Device} (fresh : Fresh device) (mode : Mode)
    (status : device.connectionStatus = mode.status)
    (connected : after.connected = device.connected)
    (receving : after.connectionStatus = mode.status ∨
      after.connectionStatus = .closingConnection)
    (small : after.staging.bytePos.toNat < 8) : Fresh after := by
  refine ⟨?_, ?_, small⟩
  · intro offline
    rw [connected] at offline
    exact ((Mode.status_ne_idle mode) (.inl (status ▸ fresh.offline offline))).elim
  · intro _ between
    rcases receving with same | closing
    · exact (Mode.status_ne_idle mode (same ▸ between)).elim
    · rw [closing] at between
      simp at between

theorem fresh_step (gcm : AesGcm) {device : Device} {event : Event} (fresh : Fresh device)
    (offline : event = .connect → device.connected = false) : Fresh (step gcm device event) := by
  induction event using step_cases gcm device with
  | running event running after =>
      rw [after]
      exact fresh.cleared
  | connect booted after =>
      rw [after]
      have idle := fresh.untouched booted (.inl (fresh.offline (offline rfl)))
      exact ⟨by simp, fun _ _ => idle, fresh.small⟩
  | jump hardware booted complete after =>
      rw [after]
      exact ⟨fun _ => rfl, by simp, fresh.small⟩
  | stay hardware booted incomplete after =>
      rw [after]
      exact ⟨fun _ => rfl, fun _ _ => ⟨rfl, rfl, rfl⟩, fresh.small⟩
  | ignored packet hardware booted status after =>
      rw [after]
      exact fresh.cleared
  | connected packet hardware booted status after =>
      obtain ⟨_, _, _, _, _, _, _, _, _, shape⟩ :=
        handleConnected_shape gcm hardware packet device.cleared status
      rw [after, shape]
      refine ⟨fun offline => ?_, fun _ _ => fresh.untouched booted (.inr status), fresh.small⟩
      have idle := fresh.offline offline
      rw [status] at idle
      contradiction
  | repeats mode packet hardware booted status notCounted after =>
      rw [after]
      exact fresh_receving fresh mode status (by cases mode <;> rfl)
        (.inl (by cases mode <;> exact status)) (by cases mode <;> exact fresh.small)
  | inside mode packet hardware booted status isCounted isInside after =>
      rw [after]
      exact fresh_receving fresh mode status rfl (.inl status)
        (stageBytes_small _ fresh.cleared.small)
  | closes mode packet hardware booted status isClosing after =>
      rw [after]
      refine fresh_receving fresh mode status (by simp) ?_
        (by simpa using stageBytes_small _ fresh.cleared.small)
      rw [closeWindow_connectionStatus]
      split
      · exact .inr rfl
      · exact .inl status

theorem fresh_run (gcm : AesGcm) (flash : UInt32 → UInt64) (events : List Event)
    (alternating : Along (step gcm) Alternates (powerOn flash) events) :
    Fresh (run gcm flash events) :=
  alternating.invariant
    (fun _ _ fresh alternates => fresh_step gcm fresh fun connects => by
      rw [connects] at alternates
      exact alternates)
    (fresh_powerOn flash)

end BleFwUpdate
