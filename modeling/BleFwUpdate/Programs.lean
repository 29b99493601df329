import BleFwUpdate.Bounds

/-! The double words that a run programs, and where a session starts to program them. -/

namespace BleFwUpdate

open Transitions LittleEndian

def programs (effects : List Effect) : List Effect :=
  effects.filter fun effect => match effect with
    | .program _ _ _ => true
    | _ => false

def programmed (gcm : AesGcm) (log : List (Device × Event)) : List Effect :=
  log.flatMap fun entry => programs (step gcm entry.1 entry.2).effects

/-- A byte string programmed without a failure from an address on. -/
def programsOf (base : UInt32) (bytes : List UInt8) : List Effect :=
  (List.range (wordCount bytes)).map fun index =>
    .program (base + 8 * UInt32.ofNat index) (wordAt bytes index) true

@[simp] theorem programs_nil : programs [] = [] := rfl

@[simp] theorem programs_append (first second : List Effect) :
    programs (first ++ second) = programs first ++ programs second := List.filter_append ..

theorem mem_programs {effects : List Effect} {address : UInt32} {data : UInt64} {ok : Bool} :
    .program address data ok ∈ programs effects ↔ .program address data ok ∈ effects := by
  simp [programs]

theorem programmed_concat (gcm : AesGcm) (log : List (Device × Event)) (device : Device)
    (event : Event) :
    programmed gcm (log ++ [(device, event)]) =
      programmed gcm log ++ programs (step gcm device event).effects := by
  simp [programmed]

theorem programs_windowEffects (hardware : Hardware) (device : Device) :
    programs (windowEffects hardware device) = windowEffects hardware device := by
  apply List.filter_eq_self.mpr
  intro effect member
  simp only [windowEffects, writeEffects] at member
  split at member
  · split at member
    · obtain ⟨_, _, _, rfl⟩ := mem_programEffects.mp member
      rfl
    · contradiction
  · contradiction

/-- What looks at anything but the programming of the flash sees nothing of a window. -/
theorem filterMap_windowEffects {Output : Type} {select : Effect → Option Output}
    (blind : ∀ address data ok, select (.program address data ok) = none)
    (hardware : Hardware) (device : Device) :
    (windowEffects hardware device).filterMap select = [] := by
  apply List.filterMap_eq_nil_iff.mpr
  intro effect member
  rw [← programs_windowEffects] at member
  have isProgram := (List.mem_filter.mp member).2
  cases effect with
  | program address data ok => exact blind address data ok
  | erase | response | encrypt | decrypt | go2App => contradiction

theorem programsOf_append (base : UInt32) (front back : List UInt8) (count : Nat)
    (length : front.length = 8 * count) :
    programsOf base (front ++ back) =
      programsOf base front ++ programsOf (base + 8 * UInt32.ofNat (wordCount front)) back := by
  have frontCount : wordCount front = count := by
    simp only [wordCount]
    omega
  rw [programsOf, wordCount_append front back count length, List.range_add, List.map_append,
    List.map_map, programsOf, programsOf, frontCount]
  congr 1
  · apply List.map_congr_left
    intro index member
    have inside := List.mem_range.mp member
    rw [wordAt_append_left front back index (by omega)]
  · apply List.map_congr_left
    intro index _
    rw [Function.comp_apply, wordAt_append_right front back count index length,
      UInt32.ofNat_add, UInt32.mul_add, UInt32.add_assoc]

theorem flashAfter_append (flash : UInt32 → UInt64) (first second : List Effect) :
    flashAfter flash (first ++ second) = flashAfter (flashAfter flash first) second :=
  List.foldl_append ..

theorem flashAfter_programsOf (flash : UInt32 → UInt64) (base : UInt32) (bytes : List UInt8)
    {index : Nat} (inside : index < wordCount bytes) (small : wordCount bytes ≤ 0x10000000) :
    flashAfter flash (programsOf base bytes) (base + 8 * UInt32.ofNat index) =
      wordAt bytes index := by
  have upTo (count : Nat) (below : count ≤ wordCount bytes) (first : index < count) :
      flashAfter flash ((List.range count).map fun word =>
        .program (base + 8 * UInt32.ofNat word) (wordAt bytes word) true)
          (base + 8 * UInt32.ofNat index) = wordAt bytes index := by
    induction count with
    | zero => omega
    | succ count ih =>
        rw [List.range_succ, List.map_append, flashAfter_append]
        simp only [List.map_cons, List.map_nil, flashAfter, List.foldl_cons, List.foldl_nil]
        split
        · rename_i same
          have sameOffset := UInt32.toNat_inj.mpr ((UInt32.add_right_inj base).mp same)
          simp only [UInt32.toNat_mul, UInt32.toNat_ofNat', UInt32.reduceToNat] at sameOffset
          rw [show index = count by omega]
        · rename_i other
          refine ih (by omega) ?_
          have different : index ≠ count := fun same => other (by rw [same])
          omega
  exact upTo (wordCount bytes) (Nat.le_refl _) inside

section Steps

variable (gcm : AesGcm) (hardware : Hardware) (mode : Mode) (packet : Packet) (device : Device)

theorem programs_closes :
    programs (closeWindow gcm hardware mode
      (intake gcm hardware mode packet device.cleared)).effects =
      windowEffects hardware (intake gcm hardware mode packet device) := by
  cases mode with
  | raw =>
      rw [closes_raw_effects, programs_append, programs_windowEffects]
      simp [programs]
  | secure =>
      have silent : programs (beforeAnswer gcm hardware packet device) = [] := by
        apply List.filter_eq_nil_iff.mpr
        intro effect member
        rcases mem_beforeAnswer gcm hardware packet device member with
          ⟨_, _, _, _, _, rfl⟩ | ⟨_, _, _, rfl⟩ <;> simp
      rw [closes_secure_effects, programs_append, silent, ← List.singleton_append, programs_append,
        programs_windowEffects]
      rfl

theorem programs_inside :
    programs (intake gcm hardware mode packet device.cleared).effects = [] := by
  rw [intake_effects]
  split <;> rfl

theorem programs_repeats (ack : Bool) :
    programs (sendAck gcm hardware ack mode.replyType device.cleared).effects = [] := by
  cases mode <;> rfl

theorem programs_connected :
    programs (handleConnected gcm hardware packet device.cleared).effects = [] := by
  rw [handleConnected_eq]
  cases startMode packet with
  | none => rfl
  | some mode =>
      dsimp only
      cases admitted hardware mode packet
      · rfl
      · cases mode <;> rfl

end Steps

/-! Where a session starts. -/

/-- What a START that is admitted leaves behind. -/
structure Started (mode : Mode) (packet : Packet) (device after : Device) : Prop where
  connectionStatus : after.connectionStatus = mode.status
  connected : after.connected = device.connected
  running : after.running = device.running
  countPck : after.countPck = device.countPck
  nextAck : after.nextAck = device.nextAck
  staging : after.staging = device.cleared.staging
  iv : after.iv = device.iv
  totalPck : after.totalPck = packet.number 2
  appToUpdate : after.appToUpdate = requestedApp packet
  place : slotAddress (requestedApp packet) = some after.startPageAddress
  fits : checkFwSize (packet.number 2) mode.checkedLen (requestedApp packet) = true

theorem started (gcm : AesGcm) {hardware : Hardware} {mode : Mode} {packet : Packet}
    {device : Device} (booted : device.running = none)
    (status : device.connectionStatus = .connected) (start : startMode packet = some mode)
    (isAdmitted : admitted hardware mode packet = true) :
    Started mode packet device (step gcm device (.receive packet hardware)) := by
  have parts := isAdmitted
  simp only [admitted, prepareOutcome, Bool.and_eq_true] at parts
  obtain ⟨⟨erased, isSlot⟩, fits⟩ := parts
  obtain ⟨base, place⟩ := Option.isSome_iff_exists.mp isSlot
  rw [step_connected gcm packet hardware booted status, handleConnected_eq, start]
  dsimp only
  rw [if_pos isAdmitted]
  cases mode <;>
    exact ⟨rfl, rfl, rfl, rfl, rfl, rfl, rfl, rfl, rfl, by
      simp [Mode.replyType, sendAck_raw, sendAck_secure, startPrepared, startRead, erased, place],
      fits⟩

end BleFwUpdate
