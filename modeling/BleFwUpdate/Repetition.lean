import BleFwUpdate.Delivery

/-! The NAK the host sends for a response it could not read, and the response the device
repeats for it. -/

namespace BleFwUpdate

open Transitions

def nakPacket : Packet := .ofBytes [nakCmd] (by decide)

def nakEvent (hardware : Hardware) : Event := .receive nakPacket hardware

/-- What a response says to a host with the initialization vector it was sent under: the flag,
and the two bytes of `count_pck`. -/
def carried (gcm : AesGcm) (iv : Iv) (bytes : List UInt8) : Option (UInt8 × List UInt8) :=
  (decryptMessage gcm { initialHost with iv := iv } bytes).map fun plaintext =>
    (bytes.headD 0, plaintext.take 2)

structure NakKept (device after : Device) : Prop where
  countPck : after.countPck = device.countPck
  totalPck : after.totalPck = device.totalPck
  nextAck : after.nextAck = device.nextAck
  bytePos : after.staging.bytePos = device.staging.bytePos
  contBuff : after.staging.contBuff = device.staging.contBuff
  flashBuff : after.staging.flashBuff = device.staging.flashBuff
  startPageAddress : after.startPageAddress = device.startPageAddress
  iv : after.iv = device.iv

/-- A NAK is answered with what the first response said, and handled without other effect. -/
def RepeatsResponse (gcm : AesGcm) (closed asked after : Device) : Prop :=
  (∃ sent repeated, responses closed.effects = [sent] ∧ responses after.effects = [repeated] ∧
    (carried gcm closed.iv sent).isSome = true ∧
    carried gcm asked.iv repeated = carried gcm closed.iv sent) ∧
  NakKept asked after

/-- The window that the packet ends is stored, and is not the last one. -/
structure SettlesInside (gcm : AesGcm) (hardware : Hardware) (packet : Packet) (device : Device) :
    Prop where
  nextAck : device.nextAck = true
  accepts : accepts .secure packet device = true
  written : writeOutcome hardware
    ((intake gcm hardware .secure packet device).staging.contBuff + 1) device = true
  notLast : device.countPck + 1 ≠ device.totalPck

theorem carried_secureResponse {gcm : AesGcm} (lawful : gcm.Lawful) (iv : Iv) (ack : Bool)
    (count : UInt16) (randIv : Vector UInt8 3) :
    carried gcm iv (secureResponse gcm iv ack count randIv) =
      some (ackByte ack, [highByte count, lowByte count]) := by
  have decrypted :=
    decryptMessage_secureResponse lawful { initialHost with iv := iv } iv ack count randIv
  rw [lawful.decrypt_encrypt] at decrypted
  rw [carried, decrypted]
  rfl

theorem bytes_inj {first second : UInt16} (high : highByte first = highByte second)
    (low : lowByte first = lowByte second) : first = second := by
  have highNat := UInt8.toNat_inj.mpr high
  have lowNat := UInt8.toNat_inj.mpr low
  have bounds := And.intro first.toNat_lt second.toNat_lt
  apply UInt16.toNat_inj.mp
  simp [highByte, lowByte, Nat.shiftRight_eq_div_pow] at highNat lowNat
  omega

theorem carried_eq_iff {gcm : AesGcm} (lawful : gcm.Lawful) {iv : Iv} {first second : Bool}
    {count other : UInt16} {randIv more : Vector UInt8 3} :
    carried gcm iv (secureResponse gcm iv first count randIv) =
        carried gcm iv (secureResponse gcm iv second other more) ↔
      first = second ∧ count = other := by
  rw [carried_secureResponse lawful, carried_secureResponse lawful]
  constructor
  · intro same
    simp only [Option.some.injEq, Prod.mk.injEq, List.cons.injEq, and_true] at same
    obtain ⟨flag, high, low⟩ := same
    refine ⟨?_, bytes_inj high low⟩
    cases first <;> cases second <;> simp_all [ackByte, ackCmd, nakCmd]
  · rintro ⟨rfl, rfl⟩
    rfl

section Nak

variable (gcm : AesGcm) {device : Device}

theorem step_nak (hardware : Hardware) (booted : device.running = none)
    (status : device.connectionStatus = .recevingSecureFw) :
    step gcm device (nakEvent hardware) =
      sendAck gcm hardware device.oldAck .writeSecureFlashPacketResponse device.cleared :=
  @step_uncounted gcm hardware .secure nakPacket device booted status (by decide)

/-- All that a NAK changes, received before the end of a secure session or after it. -/
theorem nak_frame (hardware : Hardware) (booted : device.running = none)
    (status : device.connectionStatus = .recevingSecureFw ∨
      device.connectionStatus = .closingConnection) :
    ∃ randIv reg effects,
      step gcm device (nakEvent hardware) =
        { device.cleared with randIv := randIv, reg := reg, effects := effects } := by
  rcases status with status | status
  · rw [step_nak gcm hardware booted status, sendAck_secure]
    exact ⟨_, _, _, rfl⟩
  · rw [nakEvent, step_ignored gcm nakPacket hardware (.inr status)]
    exact ⟨_, _, _, rfl⟩

theorem naks_frame (naks : List Hardware) (booted : device.running = none)
    (status : device.connectionStatus = .recevingSecureFw ∨
      device.connectionStatus = .closingConnection) :
    ∃ touched randIv reg effects,
      runFrom (step gcm) device (naks.map nakEvent) =
        { device with
          staging := { device.staging with touched := touched }
          randIv := randIv, reg := reg, effects := effects } := by
  induction naks generalizing device with
  | nil => exact ⟨_, _, _, _, rfl⟩
  | cons hardware rest ih =>
      obtain ⟨randIv, reg, effects, shape⟩ := nak_frame gcm hardware booted status
      rw [List.map_cons, runFrom_cons, shape]
      obtain ⟨_, _, _, _, after⟩ := @ih
        { device.cleared with randIv := randIv, reg := reg, effects := effects } booted status
      rw [after]
      exact ⟨_, _, _, _, rfl⟩

theorem nak_keeps (hardware : Hardware) (booted : device.running = none)
    (status : device.connectionStatus = .recevingSecureFw ∨
      device.connectionStatus = .closingConnection) :
    NakKept device (step gcm device (nakEvent hardware)) := by
  obtain ⟨_, _, _, shape⟩ := nak_frame gcm hardware booted status
  rw [shape]
  exact ⟨rfl, rfl, rfl, rfl, rfl, rfl, rfl, rfl⟩

theorem naks_same (naks : List Hardware) (booted : device.running = none)
    (status : device.connectionStatus = .recevingSecureFw ∨
      device.connectionStatus = .closingConnection) :
    let asked := runFrom (step gcm) device (naks.map nakEvent)
    asked.running = none ∧ asked.connectionStatus = device.connectionStatus ∧
      asked.iv = device.iv := by
  obtain ⟨_, _, _, _, shape⟩ := naks_frame gcm naks booted status
  rw [shape]
  exact ⟨booted, rfl, rfl⟩

theorem naks_answer (naks : List Hardware) (hardware : Hardware) (booted : device.running = none)
    (status : device.connectionStatus = .recevingSecureFw) :
    ∃ randIv, responses
        (step gcm (runFrom (step gcm) device (naks.map nakEvent)) (nakEvent hardware)).effects =
      [secureResponse gcm device.iv device.oldAck device.countPck randIv] := by
  obtain ⟨touched, randIv, reg, effects, shape⟩ := naks_frame gcm naks booted (.inl status)
  rw [shape, @step_nak gcm { device with
    staging := { device.staging with touched := touched }
    randIv := randIv, reg := reg, effects := effects } hardware booted status]
  exact ⟨_, responses_sendAck gcm hardware device.oldAck .secure _⟩

end Nak

section Closed

variable (gcm : AesGcm) (hardware : Hardware) (packet : Packet) (device : Device)

def closedSecure : Device :=
  closeWindow gcm hardware .secure (intake gcm hardware .secure packet device.cleared)

theorem responses_closedSecure :
    responses (closedSecure gcm hardware packet device).effects =
      [secureResponse gcm (closedSecure gcm hardware packet device).iv
        (device.nextAck && accepts .secure packet device) (device.countPck + 1)
        (getRandBytes device.reg).1] := by
  have iv : (closedSecure gcm hardware packet device).iv =
      (intake gcm hardware .secure packet device).iv := by
    rw [closedSecure, closeWindow_iv]
    rfl
  rw [iv, closedSecure, closes_secure_effects, ← List.singleton_append, responses_append,
    responses_append, responses_beforeAnswer, responses_windowEffects]
  rfl

theorem closedSecure_oldAck :
    (closedSecure gcm hardware packet device).oldAck =
      (device.nextAck && accepts .secure packet device) := by
  simp [closedSecure, closeWindow, sendAck_secure, settleWindow_eq, resetWindow]

theorem closedSecure_countPck :
    (closedSecure gcm hardware packet device).countPck =
      if windowAccepted hardware (intake gcm hardware .secure packet device) then
        device.countPck + 1
      else device.countPck + 1 - secureNumCumulativeAck := by
  rw [closedSecure, closeWindow_countPck, windowAccepted_intake_cleared]
  rfl

theorem closedSecure_status :
    (closedSecure gcm hardware packet device).connectionStatus =
      if (closedSecure gcm hardware packet device).countPck = device.totalPck then
        .closingConnection
      else device.connectionStatus := by
  rw [closedSecure, closeWindow_connectionStatus]
  rfl

theorem closedSecure_running :
    (closedSecure gcm hardware packet device).running = device.running := by
  rw [closedSecure, closeWindow_running]
  rfl

theorem windowAccepted_intake :
    windowAccepted hardware (intake gcm hardware .secure packet device) =
      (device.nextAck && accepts .secure packet device &&
        writeOutcome hardware
          ((intake gcm hardware .secure packet device).staging.contBuff + 1) device) := rfl

variable {gcm hardware packet device}

theorem settlesInside_iff :
    SettlesInside gcm hardware packet device ↔
      windowAccepted hardware (intake gcm hardware .secure packet device) = true ∧
        device.countPck + 1 ≠ device.totalPck := by
  rw [windowAccepted_intake]
  simp only [Bool.and_eq_true]
  exact ⟨fun settles => ⟨⟨⟨settles.nextAck, settles.accepts⟩, settles.written⟩, settles.notLast⟩,
    fun ⟨⟨⟨nextAck, accepts⟩, written⟩, notLast⟩ => ⟨nextAck, accepts, written, notLast⟩⟩

/-- The count said again is the one said before exactly if the window was accepted, and the
device says it as long as it has not left the session. -/
theorem sameCount_iff (status : device.connectionStatus = .recevingSecureFw) :
    ((closedSecure gcm hardware packet device).connectionStatus = .recevingSecureFw ∧
        (closedSecure gcm hardware packet device).countPck = device.countPck + 1) ↔
      SettlesInside gcm hardware packet device := by
  have other : device.countPck + 1 - secureNumCumulativeAck ≠ device.countPck + 1 := by
    intro same
    have nat := UInt16.toNat_inj.mpr same
    have bound := (device.countPck + 1).toNat_lt
    simp only [UInt16.toNat_sub, secureNumCumulativeAck, UInt16.reduceToNat] at nat
    omega
  rw [settlesInside_iff, closedSecure_status, closedSecure_countPck]
  cases accepted : windowAccepted hardware (intake gcm hardware .secure packet device) with
  | false => simp [other]
  | true =>
      by_cases last : device.countPck + 1 = device.totalPck
      · simp [last]
      · simp [last, status]

end Closed

/-- A NAK is answered with the verdict and the count of the damaged response exactly if the
window was stored and was not the last one. Any number of NAKs may have gone before. -/
theorem repeatsResponse_iff (gcm : AesGcm) (lawful : gcm.Lawful) (hardware again : Hardware)
    (packet : Packet) (device : Device) (earlier : List Hardware)
    (booted : device.running = none) (status : device.connectionStatus = .recevingSecureFw)
    (closes : closesWindow .secure packet device = true) :
    let closed := step gcm device (.receive packet hardware)
    let asked := runFrom (step gcm) closed (earlier.map nakEvent)
    RepeatsResponse gcm closed asked (step gcm asked (nakEvent again)) ↔
      SettlesInside gcm hardware packet device := by
  intro closed asked
  have isClosed : closed = closedSecure gcm hardware packet device := by
    have after := @step_counted gcm hardware .secure packet device booted status
      (counted_of_closes closes)
    rwa [if_pos closes] at after
  have sent := responses_closedSecure gcm hardware packet device
  have oldAck := closedSecure_oldAck gcm hardware packet device
  have running : closed.running = none := by
    rw [isClosed, closedSecure_running, booted]
  have receving : closed.connectionStatus = .recevingSecureFw ∨
      closed.connectionStatus = .closingConnection := by
    rw [isClosed, closedSecure_status]
    split
    · exact .inr rfl
    · exact .inl status
  obtain ⟨askedRunning, askedStatus, sameIv⟩ := naks_same gcm earlier running receving
  have kept := nak_keeps gcm again askedRunning (by rwa [askedStatus])
  rw [← sameCount_iff status, ← isClosed]
  rw [← isClosed] at sent oldAck
  rcases receving with still | closing
  · obtain ⟨fresh, answered⟩ := naks_answer gcm earlier again running still
    have said : carried gcm asked.iv
          (secureResponse gcm closed.iv closed.oldAck closed.countPck fresh) =
        carried gcm closed.iv (secureResponse gcm closed.iv
          (device.nextAck && accepts .secure packet device) (device.countPck + 1)
          (getRandBytes device.reg).1) ↔ closed.countPck = device.countPck + 1 := by
      rw [sameIv, oldAck, carried_eq_iff lawful]
      simp
    constructor
    · rintro ⟨⟨first, second, isFirst, isSecond, _, same⟩, _⟩
      rw [sent, List.singleton_inj] at isFirst
      rw [answered, List.singleton_inj] at isSecond
      rw [← isFirst, ← isSecond] at same
      exact ⟨still, said.mp same⟩
    · rintro ⟨_, same⟩
      refine ⟨⟨_, _, sent, answered, ?_, said.mpr same⟩, kept⟩
      rw [carried_secureResponse lawful]
      rfl
  · have silent : responses (step gcm asked (nakEvent again)).effects = [] := by
      rw [nakEvent, step_ignored gcm nakPacket again (.inr (askedStatus.trans closing))]
      rfl
    simp [RepeatsResponse, silent, closing]

theorem repeatsResponse_first_window :
    let fifteenTaken := run .longSample (fun _ => 0) (sealedSession 15)
    let closed := step .longSample fifteenTaken (.receive (sealedPacket 15) (.working 0))
    let asked := runFrom (step .longSample) closed ([.working 0].map nakEvent)
    responses closed.effects =
        [[0x00, 0x2e, 0x83, 0xfe, 0x36, 0xd7, 0x0e, 0xb4, 0xeb, 0x31]] ∧
      RepeatsResponse .longSample closed asked
        (step .longSample asked (nakEvent (.working 0))) := by
  refine ⟨by decide +kernel, ?_⟩
  exact (repeatsResponse_iff .longSample (AesGcm.lawful_ofTables _ _) (.working 0) (.working 0)
    (sealedPacket 15) (run .longSample (fun _ => 0) (sealedSession 15)) [.working 0]
    (by decide +kernel) (by decide +kernel) (by decide +kernel)).mpr
    ⟨by decide +kernel, by decide +kernel, by decide +kernel, by decide +kernel⟩

/-- The response to the only packet of an image: the device has left the session and does not
answer the NAK. -/
theorem lastResponse_not_repeated :
    let data := Packet.ofBytes [0xc0, 0x47, 0x9f, 0x22, 0x05, 0x2b, 0x56, 0x13, 0xd6, 0x32, 0xb0,
      0xf0, 0x8d, 0x6d, 0x3f, 0xf2, 0x80, 0xd5, 0xde, 0x1e] (by decide)
    let begun := run .sample (fun _ => 0)
      [.connect, .receive (startPacket startSecureFlashModeCmd 1 1) (.working 0x1234)]
    let closed := step .sample begun (.receive data (.working 0))
    let after := step .sample closed (nakEvent (.working 0))
    begun.connectionStatus = .recevingSecureFw ∧ closesWindow .secure data begun = true ∧
      responses closed.effects = [[0x00, 0x46, 0x9c, 0x93, 0xa9, 0xcd, 0x3b, 0xce, 0xb5, 0x8f]] ∧
      responses after.effects = [] ∧ ¬ RepeatsResponse .sample closed closed after := by
  have silent : responses (step .sample (step .sample (run .sample (fun _ => 0)
      [.connect, .receive (startPacket startSecureFlashModeCmd 1 1) (.working 0x1234)])
      (.receive (.ofBytes [0xc0, 0x47, 0x9f, 0x22, 0x05, 0x2b, 0x56, 0x13, 0xd6, 0x32, 0xb0,
        0xf0, 0x8d, 0x6d, 0x3f, 0xf2, 0x80, 0xd5, 0xde, 0x1e] (by decide)) (.working 0)))
      (nakEvent (.working 0))).effects = [] := by
    decide +kernel
  refine ⟨by decide +kernel, by decide +kernel, by decide +kernel, silent, ?_⟩
  rintro ⟨⟨_, repeated, _, answered, _⟩, _⟩
  rw [silent] at answered
  contradiction

end BleFwUpdate
