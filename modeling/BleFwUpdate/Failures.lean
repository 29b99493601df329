import BleFwUpdate.Agreement

/-! What a request that fails leaves behind: a START that is refused, and a write of the
firmware that stops at a call of `HAL_FLASH_Program`. -/

namespace BleFwUpdate

def AnswersNak (gcm : AesGcm) (hardware : Hardware) (packet : Packet) (device : Device) : Prop :=
  ∃ bytes, responses (dataHandler gcm hardware packet device.cleared).effects = [bytes] ∧
    bytes.head? = some nakCmd

/-- Where the erase a START asks for reports an error, it has erased nothing. -/
def FailsClean (hardware : Hardware) (packet : Packet) (device : Device) : Prop :=
  hardware.eraseError ≠ none →
    erasedFlash hardware (eraseRequest (requestedApp packet)) device.flash = device.flash

/-- An error on the first page stops the erase of a slot before anything is erased. -/
theorem failsClean_of_first_page {hardware : Hardware} {packet : Packet} {device : Device}
    (first : hardware.eraseError = some 0) {base : UInt32}
    (slot : slotAddress (requestedApp packet) = some base) :
    FailsClean hardware packet device := by
  intro _
  funext address
  cases app : requestedApp packet
  all_goals simp_all [erasedFlash, eraseRequest, erasedBy, slotAddress, flashTypeErasePages,
    flashTypeEraseMass]

structure RequestKept (device after : Device) : Prop where
  flash : after.flash = device.flash
  startPageAddress : after.startPageAddress = device.startPageAddress
  appToUpdate : after.appToUpdate = device.appToUpdate
  totalPck : after.totalPck = device.totalPck

/-- The START names the slot and the count of the one before it, and the erase finds nothing
left to do. -/
structure Redundant (hardware : Hardware) (packet : Packet) (device : Device) : Prop where
  totalPck : packet.number 2 = device.totalPck
  appToUpdate : requestedApp packet = device.appToUpdate
  blank : hardware.eraseError = none → ∀ address,
    let request := (eraseRequest (requestedApp packet)).getD hardware.eraseStack
    erasedBy request request.pageCount address → device.flash address = 0xFFFFFFFFFFFFFFFF
  place : hardware.eraseError = none →
    (slotAddress (requestedApp packet)).getD device.startPageAddress = device.startPageAddress

section Refusal

variable (gcm : AesGcm) {hardware : Hardware} {packet : Packet} {device : Device}

theorem dataHandler_connected (status : device.connectionStatus = .connected) :
    dataHandler gcm hardware packet device.cleared =
      handleConnected gcm hardware packet device.cleared := by
  simp only [dataHandler, cleared_connectionStatus, status]

theorem answersNak_iff (status : device.connectionStatus = .connected) :
    AnswersNak gcm hardware packet device ↔
      ∀ mode, startMode packet = some mode → admitted hardware mode packet = false := by
  rw [AnswersNak, dataHandler_connected gcm status, handleConnected_eq]
  cases start : startMode packet with
  | none => simp [sendAck_raw, responses, rawResponse, ackByte]
  | some mode =>
      simp only [Option.some.injEq, forall_eq']
      cases admitted hardware mode packet with
      | false => simp [sendAck_raw, startPrepared, responses, rawResponse, ackByte]
      | true =>
          cases mode <;>
            simp [Mode.replyType, sendAck_raw, sendAck_secure, startPrepared, responses,
              rawResponse, secureResponse, ackByte, ackCmd, nakCmd]

theorem erasedFlash_eq_iff (erases : hardware.eraseError = none) (request : Option EraseInit)
    (flash : UInt32 → UInt64) :
    erasedFlash hardware request flash = flash ↔
      ∀ address, erasedBy (request.getD hardware.eraseStack)
        (request.getD hardware.eraseStack).pageCount address →
          flash address = 0xFFFFFFFFFFFFFFFF := by
  simp only [erasedFlash, erases, funext_iff, ite_eq_right_iff]
  exact forall_congr' fun _ => imp_congr_right fun _ => eq_comm

theorem requestKept_startPrepared_iff (clean : FailsClean hardware packet device) (mode : Mode) :
    RequestKept device (startPrepared hardware mode packet device) ↔
      Redundant hardware packet device := by
  cases error : hardware.eraseError with
  | none =>
      have blank := erasedFlash_eq_iff error (eraseRequest (requestedApp packet)) device.flash
      constructor
      · rintro ⟨flash, place, app, total⟩
        simp only [startPrepared, error, Option.isNone_none, if_true] at place
        exact ⟨total, app, fun _ => blank.mp flash, fun _ => place⟩
      · rintro ⟨total, app, flash, place⟩
        refine ⟨blank.mpr (flash error), ?_, app, total⟩
        simpa only [startPrepared, error, Option.isNone_none, if_true] using place error
  | some faulty =>
      have failed : hardware.eraseError ≠ none := by simp [error]
      constructor
      · rintro ⟨_, _, app, total⟩
        exact ⟨total, app, fun erases => (failed erases).elim, fun erases => (failed erases).elim⟩
      · rintro ⟨total, app, _, _⟩
        refine ⟨clean failed, ?_, app, total⟩
        simp [startPrepared, error]

end Refusal

/-- A refused START changes nothing exactly if it was no START, or asked for nothing new. -/
theorem refusal_keeps_iff (gcm : AesGcm) (hardware : Hardware) (packet : Packet)
    (device : Device) (status : device.connectionStatus = .connected)
    (clean : FailsClean hardware packet device) :
    (AnswersNak gcm hardware packet device →
        RequestKept device (dataHandler gcm hardware packet device)) ↔
      ∀ mode, startMode packet = some mode →
        admitted hardware mode packet = true ∨ Redundant hardware packet device := by
  have handled : dataHandler gcm hardware packet device =
      handleConnected gcm hardware packet device := by
    simp only [dataHandler, status]
  rw [answersNak_iff gcm status, handled, handleConnected_eq]
  cases start : startMode packet with
  | none => exact iff_of_true (fun _ => ⟨rfl, rfl, rfl, rfl⟩) (by simp)
  | some mode =>
      simp only [Option.some.injEq, forall_eq']
      cases admitted hardware mode packet with
      | true => simp
      | false =>
          simp only [true_implies, Bool.false_eq_true, if_false, false_or]
          rw [← requestKept_startPrepared_iff clean mode]
          exact ⟨fun kept => ⟨kept.1, kept.2, kept.3, kept.4⟩,
            fun kept => ⟨kept.1, kept.2, kept.3, kept.4⟩⟩

/-- A START for APP_1 whose erase fails on the first page is refused, and sent once more. -/
theorem refusal_keeps_failing_erase :
    let hardware := { Hardware.working 0 with eraseError := some 0 }
    let packet := Packet.ofBytes [0xbb, 0x01, 0x00, 0x01, 0x01] (by decide)
    let device := dataHandler (.ofTables [] []) hardware packet
      (gapConnectionCompleteCb (powerOn fun _ => 0))
    device.totalPck = 1 ∧ AnswersNak (.ofTables [] []) hardware packet device ∧
      RequestKept device (dataHandler (.ofTables [] []) hardware packet device) := by
  intro hardware packet device
  have connected : device.connectionStatus = .connected := by decide +kernel
  have refused : ∀ mode, admitted hardware mode packet = false := by
    intro mode
    cases mode <;> decide
  have nak : AnswersNak (.ofTables [] []) hardware packet device :=
    (answersNak_iff (.ofTables [] []) connected).mpr fun mode _ => refused mode
  have slot : slotAddress (requestedApp packet) = some flashApp1Addr := by decide
  have again : Redundant hardware packet device :=
    ⟨by decide +kernel, by decide +kernel, fun erases => (by cases erases),
      fun erases => (by cases erases)⟩
  exact ⟨by decide +kernel, nak,
    (refusal_keeps_iff (.ofTables [] []) hardware packet device connected
      (failsClean_of_first_page rfl slot)).mpr (fun _ _ => .inr again) nak⟩

/-- The largest count there is, for APP_1: the installed application is gone before the size
is looked at. -/
theorem refused_start_erases :
    let packet := Packet.ofBytes [0xbb, 0x01, 0xff, 0xff, 0xfe] (by decide)
    let device := gapConnectionCompleteCb (powerOn fun _ => 0)
    let after := dataHandler (.ofTables [] []) (.working 0) packet device
    AnswersNak (.ofTables [] []) (.working 0) packet device ∧
      device.flash 0x08040000 = 0 ∧ after.flash 0x08040000 = 0xFFFFFFFFFFFFFFFF ∧
      after.totalPck = 0xFFFF ∧ after.appToUpdate = .flashApp1 ∧
      ¬ RequestKept device after := by
  have erased : (dataHandler (.ofTables [] []) (.working 0)
      (.ofBytes [0xbb, 0x01, 0xff, 0xff, 0xfe] (by decide))
      (gapConnectionCompleteCb (powerOn fun _ => 0))).flash 0x08040000 =
        0xFFFFFFFFFFFFFFFF := by
    decide +kernel
  refine ⟨⟨_, rfl, by decide +kernel⟩, rfl, erased, by decide +kernel, by decide +kernel, ?_⟩
  intro kept
  rw [kept.flash] at erased
  contradiction

/-! Writes that stop midway. -/

theorem programmedCount_of_failure {hardware : Hardware} {left sofar failing : Nat}
    (inside : failing < left) (fails : hardware.program (sofar + failing) = false)
    (first : ∀ earlier < failing, hardware.program (sofar + earlier) = true) :
    programmedCount hardware left sofar = failing := by
  induction failing generalizing left sofar with
  | zero =>
      obtain ⟨left, rfl⟩ := Nat.exists_eq_succ_of_ne_zero (Nat.ne_of_gt inside)
      rw [Nat.add_zero] at fails
      simp [programmedCount, fails]
  | succ failing ih =>
      obtain ⟨left, rfl⟩ := Nat.exists_eq_succ_of_ne_zero (Nat.ne_of_gt (Nat.zero_lt_of_lt inside))
      have now : hardware.program sofar = true := first 0 (Nat.succ_pos failing)
      have next (offset : Nat) : sofar + 1 + offset = sofar + (offset + 1) := by omega
      have later := @ih left (sofar + 1) (by omega) (by rw [next]; exact fails)
        (fun earlier below => by rw [next]; exact first (earlier + 1) (by omega))
      simp [programmedCount, now, later]

theorem failedWrite {hardware : Hardware} (dataToFlash : Nat → UInt64) {numBytes : UInt16}
    {device : Device} {failing : Nat}
    (unlocks : device.flashLocked = false ∨ hardware.unlock = true)
    (inside : failing < numBytes.toUInt8.toNat) (fails : hardware.program failing = false)
    (first : ∀ earlier < failing, hardware.program earlier = true) :
    (writeFwToFlash hardware dataToFlash numBytes device).1 = false ∧
      (writeFwToFlash hardware dataToFlash numBytes device).2.flashLocked = false ∧
      (writeFwToFlash hardware dataToFlash numBytes device).2.startPageAddress =
        device.startPageAddress + 8 * UInt32.ofNat failing := by
  have count : programmedCount hardware numBytes.toUInt8.toNat 0 = failing :=
    programmedCount_of_failure inside (by rwa [Nat.zero_add])
      (fun earlier below => by rw [Nat.zero_add]; exact first earlier below)
  have opened : (!device.flashLocked || hardware.unlock) = true := by
    rcases unlocks with open_ | opens <;> simp [*]
  have stopped : failing ≠ numBytes.toUInt8.toNat := Nat.ne_of_lt inside
  rw [writeFwToFlash_eq]
  simp only [writeOutcome, writtenCount, opened, count, stopped, decide_false, Bool.and_false,
    if_true, and_self]

/-- No failed write puts things back: the flash stays unlocked wherever the failure falls,
and after the first double word the pointer has moved as well. -/
theorem failedWrite_never_restored (hardware : Hardware) (dataToFlash : Nat → UInt64)
    (numBytes : UInt16) (device : Device) (failing : Nat)
    (unlocks : device.flashLocked = false ∨ hardware.unlock = true)
    (inside : failing < numBytes.toUInt8.toNat) (fails : hardware.program failing = false)
    (first : ∀ earlier < failing, hardware.program earlier = true) :
    ¬ ((writeFwToFlash hardware dataToFlash numBytes device).1 = false ∧
      (writeFwToFlash hardware dataToFlash numBytes device).2.startPageAddress =
        device.startPageAddress ∧
      (writeFwToFlash hardware dataToFlash numBytes device).2.flashLocked = true) := by
  obtain ⟨_, unlocked, _⟩ := failedWrite dataToFlash unlocks inside fails first
  rintro ⟨_, _, locked⟩
  rw [unlocked] at locked
  contradiction

theorem failedWrite_retried {hardware : Hardware} (again : Hardware) (dataToFlash : Nat → UInt64)
    {numBytes : UInt16} {device : Device} {failing : Nat}
    (unlocks : device.flashLocked = false ∨ hardware.unlock = true)
    (inside : failing < numBytes.toUInt8.toNat) (fails : hardware.program failing = false)
    (first : ∀ earlier < failing, hardware.program earlier = true) :
    writeEffects again dataToFlash numBytes
        (writeFwToFlash hardware dataToFlash numBytes device).2 =
      programEffects again dataToFlash numBytes.toUInt8.toNat 0
        (device.startPageAddress + 8 * UInt32.ofNat failing) := by
  obtain ⟨_, unlocked, place⟩ := failedWrite dataToFlash unlocks inside fails first
  simp [writeEffects, unlocked, place]

theorem failedWrite_second_word :
    let hardware := { Hardware.working 0 with program := fun sofar => sofar != 1 }
    let after := writeFwToFlash hardware (fun _ => 0x11) 2 (powerOn fun _ => 0)
    after.1 = false ∧ after.2.startPageAddress = flashApp1Addr + 8 ∧
      after.2.flashLocked = false ∧
      ¬ (after.1 = false ∧ after.2.startPageAddress = flashApp1Addr ∧
        after.2.flashLocked = true) := by
  decide +kernel

theorem failedWrite_never_restored_second_word :
    let hardware := { Hardware.working 0 with program := fun sofar => sofar != 1 }
    let after := writeFwToFlash hardware (fun _ => 0x11) 2 (powerOn fun _ => 0)
    ¬ (after.1 = false ∧ after.2.startPageAddress = (powerOn fun _ => 0).startPageAddress ∧
      after.2.flashLocked = true) :=
  failedWrite_never_restored { Hardware.working 0 with program := fun sofar => sofar != 1 }
    (fun _ => 0x11) 2 (powerOn fun _ => 0) 1 (.inr rfl) (by decide) rfl (by decide)

end BleFwUpdate
