import BleFwUpdate.Session

/-! The requests made of `HAL_FLASHEx_Erase`, over whole runs of the device. -/

namespace BleFwUpdate

open Transitions

def erasures (effects : List Effect) : List (Option EraseInit) :=
  effects.filterMap fun effect => match effect with
    | .erase request _ => some request
    | _ => none

def slotRange : FlashAppType → Option (Nat × Nat)
  | .flashAppFullSpace => some (0x08040000, 0x08080000)
  | .flashApp1 => some (0x08040000, 0x08060000)
  | .flashApp2 => some (0x08060000, 0x08080000)
  | _ => none

def ErasesSlot (app : FlashAppType) (request : Option EraseInit) : Prop :=
  ∃ assigned range, request = some assigned ∧ slotRange app = some range ∧
    assigned.banks = flashBank2 ∧ assigned.typeErase = flashTypeErasePages ∧
    ∀ page, assigned.page.toNat ≤ page → page < assigned.page.toNat + assigned.nbPages.toNat →
      range.1 ≤ 0x08040000 + page * flashPageSize ∧
      0x08040000 + (page + 1) * flashPageSize ≤ range.2

theorem erasesSlot_eraseRequest (app : FlashAppType) :
    ErasesSlot app (eraseRequest app) ↔ (slotAddress app).isSome = true := by
  cases app <;>
    simp only [ErasesSlot, eraseRequest, slotRange, slotAddress, flashPageSize, Option.isSome_some,
      Option.isSome_none, iff_true]
  case none => simp
  case unknown => simp
  all_goals
    refine ⟨_, _, rfl, rfl, rfl, rfl, ?_⟩
    intro page first last
    simp at first last
    omega

@[simp] theorem erasures_nil : erasures [] = [] := rfl

@[simp] theorem erasures_cons (effect : Effect) (rest : List Effect) :
    erasures (effect :: rest) = erasures [effect] ++ erasures rest := by
  cases effect <;> simp [erasures]

@[simp] theorem erasures_erase (request : Option EraseInit) (ok : Bool) :
    erasures [.erase request ok] = [request] := rfl

@[simp] theorem erasures_append (first second : List Effect) :
    erasures (first ++ second) = erasures first ++ erasures second := List.filterMap_append ..

theorem erasures_programEffects (hardware : Hardware) (dataToFlash : Nat → UInt64)
    (left sofar : Nat) (address : UInt32) :
    erasures (programEffects hardware dataToFlash left sofar address) = [] := by
  induction left generalizing sofar address with
  | zero => rfl
  | succ left ih =>
      simp only [programEffects, erasures, List.filterMap_cons]
      split
      · exact ih (sofar + 1) (address + 8)
      · rfl

theorem erasures_windowEffects (hardware : Hardware) (device : Device) :
    erasures (windowEffects hardware device) = [] := by
  simp only [windowEffects, writeEffects]
  split
  · split
    · exact erasures_programEffects ..
    · rfl
  · rfl

theorem erasures_intake (gcm : AesGcm) (hardware : Hardware) (mode : Mode) (packet : Packet)
    (device : Device) :
    erasures (intake gcm hardware mode packet device).effects = erasures device.effects := by
  simp only [intake, erasures_append]
  split <;> simp [erasures, decryptEffect]

theorem erasures_closeWindow (gcm : AesGcm) (hardware : Hardware) (mode : Mode)
    (device : Device) :
    erasures (closeWindow gcm hardware mode device).effects = erasures device.effects := by
  cases mode
  · rw [closeWindow_raw_effects, erasures_append, erasures_append, erasures_windowEffects]
    simp [erasures]
  · rw [closeWindow_secure_effects, erasures_append, erasures_append, erasures_windowEffects]
    simp [erasures]

theorem erasures_handleConnected (gcm : AesGcm) (hardware : Hardware) (packet : Packet)
    (device : Device) :
    erasures (handleConnected gcm hardware packet device).effects =
      erasures device.effects ++
        if (startMode packet).isSome then [eraseRequest (requestedApp packet)] else [] := by
  rw [handleConnected_eq]
  cases startMode packet with
  | none => simp [erasures, sendAck_raw]
  | some mode =>
      dsimp only
      cases admitted hardware mode packet
      · simp [erasures, sendAck_raw, startPrepared]
      · cases mode <;> simp [erasures, Mode.replyType, sendAck_raw, sendAck_secure, startPrepared]

/-- An event in which `Prepare_Application_Memory` is called is one for a slot. -/
def PreparesSlot (device : Device) (event : Event) : Prop :=
  device.running = none → match event with
    | .connect => True
    | .disconnect _ => jumps device ∨ (slotAddress device.appToUpdate).isSome = true
    | .receive packet _ => device.connectionStatus = .connected → (startMode packet).isSome = true →
        (slotAddress (requestedApp packet)).isSome = true

/-- The event erases nothing but pages of the slot in `AppToUpdate`. -/
def ErasesOnlySlot (gcm : AesGcm) (device : Device) (event : Event) : Prop :=
  ∀ request ∈ erasures (step gcm device event).effects,
    ErasesSlot (step gcm device event).appToUpdate request

theorem appToUpdate_handleConnected (gcm : AesGcm) (hardware : Hardware) (packet : Packet)
    (device : Device) :
    (handleConnected gcm hardware packet device).appToUpdate =
      if (startMode packet).isSome then requestedApp packet else device.appToUpdate := by
  rw [handleConnected_eq]
  cases startMode packet with
  | none => rfl
  | some mode =>
      dsimp only
      cases admitted hardware mode packet
      · rfl
      · cases mode <;>
          simp [Mode.replyType, sendAck_raw, sendAck_secure, startPrepared, startRead]

theorem erasesOnlySlot_iff (gcm : AesGcm) (device : Device) (event : Event) :
    ErasesOnlySlot gcm device event ↔ PreparesSlot device event := by
  unfold ErasesOnlySlot PreparesSlot
  induction event using step_cases gcm device with
  | running event running after => simp [after, running]
  | connect booted after => simp [after]
  | jump hardware booted complete after => simp [after, erasures, complete]
  | stay hardware booted incomplete after =>
      simp [after, erasures, booted, incomplete, erasesSlot_eraseRequest]
  | ignored packet hardware booted status after =>
      rcases status with status | status <;> simp [after, status]
  | connected packet hardware booted status after =>
      rw [after, erasures_handleConnected, appToUpdate_handleConnected]
      cases start : startMode packet <;> simp [booted, status, start, erasesSlot_eraseRequest]
  | repeats mode packet hardware booted status notCounted after =>
      cases mode <;>
        simp [after, status, erasures, Mode.status, Mode.replyType, sendAck_raw, sendAck_secure]
  | inside mode packet hardware booted status isCounted isInside after =>
      rw [after, erasures_intake]
      cases mode <;> simp [status, Mode.status]
  | closes mode packet hardware booted status isClosing after =>
      rw [after, erasures_closeWindow, erasures_intake]
      cases mode <;> simp [status, Mode.status]

/-- In a run, every erase request is assigned by the program and stays inside the slot
exactly if no event prepares the memory for a value of `AppToUpdate` that is no slot. -/
theorem erasesOnlySlot_run_iff (gcm : AesGcm) (flash : UInt32 → UInt64) (events : List Event) :
    Along (step gcm) (ErasesOnlySlot gcm) (powerOn flash) events ↔
      Along (step gcm) PreparesSlot (powerOn flash) events := by
  have same : ErasesOnlySlot gcm = PreparesSlot := by
    funext device event
    exact propext (erasesOnlySlot_iff gcm device event)
  rw [same]

/-- A connection that ends without a START: the request is whatever the stack held, here
the first pages of bank 1. -/
theorem erases_bank1_without_start :
    let gcm := AesGcm.ofTables [] []
    let stale : EraseInit :=
      { banks := flashBank1, page := 0, nbPages := 8, typeErase := flashTypeErasePages }
    let hardware := { Hardware.working 0 with eraseStack := stale }
    let events := [.connect, .disconnect hardware]
    ¬ Along (step gcm) (ErasesOnlySlot gcm) (powerOn fun _ => 0) events ∧
      (run gcm (fun _ => 0) events).effects = [.erase none true] ∧
      (run gcm (fun _ => 0) events).flash 0x08000000 = 0xFFFFFFFFFFFFFFFF := by
  refine ⟨?_, by decide +kernel, by decide +kernel⟩
  rintro ⟨-, erases, -⟩
  obtain ⟨_, _, assigned, _⟩ := erases none (by decide +kernel)
  contradiction

end BleFwUpdate
