import BleFwUpdate.Session

/-! The accesses to `flash_buff`, over whole runs of the device. -/

namespace BleFwUpdate

open Transitions LittleEndian

def openBytes (device : Device) : Nat :=
  match device.connectionStatus with
  | .recevingRawFw => 16 * (device.countPck % rawNumCumulativeAck).toNat
  | .recevingSecureFw => 15 * (device.countPck % secureNumCumulativeAck).toNat
  | _ => 0

theorem openBytes_receving {mode : Mode} {device : Device}
    (status : device.connectionStatus = mode.status) :
    openBytes device = mode.stored * (device.countPck % mode.window).toNat := by
  cases mode <;> simp only [openBytes, status, Mode.status, Mode.stored, Mode.window]

/-- The buffer holds bytes of the open window, and `byte_pos` agrees with them. -/
def Packed (device : Device) : Prop :=
  ∃ bytes, Staged bytes device.staging ∧
    device.staging.bytePos.toNat = bytes.length % 8 ∧ bytes.length ≤ openBytes device

def Completed (device : Device) : Prop :=
  device.connectionStatus = .closingConnection ∧ jumps device

/-- The invariant of the runs in which no packet is left half way in a double word. -/
def Whole (device : Device) : Prop :=
  device.running = none → Packed device ∨ Completed device

theorem packed_of_empty {device : Device} (empty : device.staging.contBuff = 0xFFFF)
    (aligned : device.staging.bytePos = 0) : Packed device :=
  ⟨[], staged_nil empty (by simp [aligned]), by simp [aligned], Nat.zero_le _⟩

theorem Packed.bytePos {device : Device} (packed : Packed device)
    (empty : device.staging.contBuff = 0xFFFF) : device.staging.bytePos = 0 := by
  obtain ⟨bytes, staged, aligned, _⟩ := packed
  have none : wordCount bytes = 0 := by rw [← staged.count, empty]; rfl
  have length : bytes.length = 0 := by
    simp only [wordCount] at none
    omega
  exact UInt8.toNat_inj.mp (by simp [aligned, length])

theorem Packed.intake {gcm : AesGcm} {hardware : Hardware} {mode : Mode} {packet : Packet}
    {device : Device} (packed : Packed device) (status : device.connectionStatus = mode.status) :
    ∃ bytes, Staged bytes (intake gcm hardware mode packet device).staging ∧
      (intake gcm hardware mode packet device).staging.bytePos.toNat = bytes.length % 8 ∧
      bytes.length ≤ mode.stored * ((device.countPck % mode.window).toNat + 1) ∧
      bytes.length ≤ 240 ∧
      ∀ index ∈ stagedAt (storedBytes gcm hardware mode packet device) device.staging,
        index < wordCount bytes := by
  obtain ⟨bytes, staged, aligned, length⟩ := packed
  have more := length_storedBytes_le gcm hardware mode packet device
  rw [openBytes_receving status] at length
  have top : mode.stored * ((device.countPck % mode.window).toNat + 1) ≤ 240 := by
    have small : (device.countPck % mode.window).toNat < mode.window.toNat :=
      Nat.mod_lt _ (by cases mode <;> decide)
    cases mode <;>
      simp only [Mode.stored, Mode.window, rawNumCumulativeAck, secureNumCumulativeAck,
        UInt16.reduceToNat] at small ⊢ <;> omega
  have sum : (bytes ++ storedBytes gcm hardware mode packet device).length ≤
      mode.stored * ((device.countPck % mode.window).toNat + 1) := by
    rw [List.length_append, Nat.mul_succ]
    omega
  refine ⟨bytes ++ storedBytes gcm hardware mode packet device, ?_, ?_, sum, by omega, ?_⟩
  · exact stageBytes_aligned _ staged aligned (by rw [← List.length_append]; omega)
  · rw [intake_staging, stageBytes_bytePos _ _ staged.small, aligned, List.length_append]
    omega
  · exact stagedAt_lt _ staged aligned (by rw [← List.length_append]; omega)

theorem window_advance {mode : Mode} {packet : Packet} {device : Device}
    (isCounted : counted mode packet = true) (inside : closesWindow mode packet device = false) :
    ((device.countPck + 1) % mode.window).toNat = (device.countPck % mode.window).toNat + 1 := by
  simp only [closesWindow, isCounted, endsWindow, Bool.true_and, Bool.or_eq_false_iff,
    beq_eq_false_iff_ne, ne_eq, ← UInt16.toNat_inj, UInt16.toNat_mod, UInt16.toNat_add] at inside
  have bound := device.countPck.toNat_lt
  have noWrap : device.countPck.toNat + 1 < 65536 := by
    by_contra wraps
    have top : device.countPck.toNat = 65535 := by omega
    cases mode <;> simp [Mode.window, rawNumCumulativeAck, secureNumCumulativeAck, top] at inside
  cases mode <;>
    simp [Mode.window, rawNumCumulativeAck, secureNumCumulativeAck, Nat.mod_eq_of_lt noWrap]
      at inside ⊢ <;>
    omega

/-- Whether a packet completes the upload: it ends the last window, every packet of the
window has been accepted, and the flash takes it. -/
def Completes (gcm : AesGcm) (hardware : Hardware) (mode : Mode) (packet : Packet)
    (device : Device) : Prop :=
  device.countPck + 1 = device.totalPck ∧ device.totalPck ≠ 0 ∧
    windowAccepted hardware (intake gcm hardware mode packet device) = true

/-- The event does not empty the buffer in the middle of a double word: a connection finds
it empty, a disconnection that does not jump finds no double word begun, and the packet
that ends a window fills up a double word unless it completes the upload. -/
def LeavesWhole (gcm : AesGcm) (device : Device) (event : Event) : Prop :=
  device.running = none → match event with
    | .connect => device.staging.contBuff = 0xFFFF ∧ device.staging.bytePos = 0
    | .disconnect _ => ¬ jumps device → device.staging.bytePos = 0
    | .receive packet hardware => ∀ mode : Mode, device.connectionStatus = mode.status →
        closesWindow mode packet device = true → ¬ Completes gcm hardware mode packet device →
          (device.staging.bytePos.toNat +
            (storedBytes gcm hardware mode packet device).length) % 8 = 0

instance (gcm : AesGcm) (hardware : Hardware) (mode : Mode) (packet : Packet) (device : Device) :
    Decidable (Completes gcm hardware mode packet device) := inferInstanceAs (Decidable (_ ∧ _))

instance (gcm : AesGcm) (device : Device) (event : Event) :
    Decidable (LeavesWhole gcm device event) :=
  match event with
  | .connect => inferInstanceAs (Decidable (_ → _ ∧ _))
  | .disconnect _ => inferInstanceAs (Decidable (_ → ¬ jumps _ → _))
  | .receive _ _ => inferInstanceAs (Decidable (_ → ∀ _ : Mode, _))

/-- Every entry of `flash_buff` that is read or written while the event is handled exists,
and a packet that finds the buffer empty finds `byte_pos` at zero. -/
def InBounds (gcm : AesGcm) (device : Device) (event : Event) : Prop :=
  (∀ index ∈ (step gcm device event).staging.touched, index < 32) ∧
    match event with
    | .receive _ _ => device.running = none → ∀ mode : Mode,
        device.connectionStatus = mode.status → device.staging.contBuff = 0xFFFF →
          device.staging.bytePos = 0
    | _ => True

theorem readIndices_lt {hardware : Hardware} {left : Nat} {bound : Nat} (inside : left ≤ bound) :
    ∀ index ∈ readIndices hardware left 0, index < bound := by
  intro index member
  simp only [readIndices, List.mem_range'_1] at member
  omega

theorem touched_settle {bytes : List UInt8} {hardware : Hardware} {device : Device}
    (staged : Staged bytes device.staging) (short : bytes.length ≤ 240) :
    ∀ index ∈ writeTouched hardware (device.staging.contBuff + 1) device, index < 32 := by
  intro index member
  have count := staged.count
  simp only [wordCount] at count
  have small : (device.staging.contBuff + 1).toUInt8.toNat ≤ 32 := by
    rw [UInt16.toNat_toUInt8, count]
    omega
  simp only [writeTouched] at member
  split at member
  · exact readIndices_lt small index member
  · contradiction

theorem whole_closes {gcm : AesGcm} {hardware : Hardware} {mode : Mode} {packet : Packet}
    {device : Device} (packed : Packed device)
    (fills : ¬ Completes gcm hardware mode packet device →
      (device.staging.bytePos.toNat + (storedBytes gcm hardware mode packet device).length) % 8
        = 0) :
    Packed (closeWindow gcm hardware mode (intake gcm hardware mode packet device)) ∨
      Completed (closeWindow gcm hardware mode (intake gcm hardware mode packet device)) := by
  by_cases completes : Completes gcm hardware mode packet device
  · obtain ⟨last, positive, good⟩ := completes
    right
    constructor
    · rw [closeWindow_connectionStatus, closeWindow_countPck, if_pos good]
      exact if_pos last
    · simp [jumps, good, last, positive]
  · left
    obtain ⟨_, staged, _⟩ := packed
    apply packed_of_empty
    · simp
    · apply UInt8.toNat_inj.mp
      rw [closeWindow_staging]
      simp only [intake_staging, stageBytes_bytePos _ _ staged.small]
      exact fills completes

theorem packed_inside {gcm : AesGcm} {hardware : Hardware} {mode : Mode} {packet : Packet}
    {device : Device} (packed : Packed device) (status : device.connectionStatus = mode.status)
    (isCounted : counted mode packet = true) (inside : closesWindow mode packet device = false) :
    Packed (intake gcm hardware mode packet device) := by
  obtain ⟨bytes, staged, aligned, length, _⟩ := packed.intake status
  refine ⟨bytes, staged, aligned, ?_⟩
  have same : (intake gcm hardware mode packet device).connectionStatus = mode.status := status
  rw [openBytes_receving same, intake_countPck, window_advance isCounted inside]
  exact length

theorem touched_intake {gcm : AesGcm} {hardware : Hardware} {mode : Mode} {packet : Packet}
    {device : Device} (packed : Packed device) (status : device.connectionStatus = mode.status)
    (clear : device.staging.touched = []) :
    ∀ index ∈ (intake gcm hardware mode packet device).staging.touched, index < 32 := by
  obtain ⟨bytes, _, _, _, short, stagedIn⟩ := packed.intake status
  intro index member
  rw [intake_staging, stageBytes_touched, clear, List.nil_append] at member
  have below := stagedIn index member
  simp only [wordCount] at below
  omega

theorem touched_closes {gcm : AesGcm} {hardware : Hardware} {mode : Mode} {packet : Packet}
    {device : Device} (packed : Packed device) (status : device.connectionStatus = mode.status)
    (clear : device.staging.touched = []) :
    ∀ index ∈ (closeWindow gcm hardware mode
      (intake gcm hardware mode packet device)).staging.touched, index < 32 := by
  obtain ⟨bytes, staged, _, _, short, _⟩ := packed.intake status
  intro index member
  rw [closeWindow_staging] at member
  rcases List.mem_append.mp member with member | member
  · exact touched_intake packed status clear index member
  · split at member
    · exact touched_settle staged short index member
    · contradiction

theorem Whole.packed {device : Device} (whole : Whole device) (booted : device.running = none)
    {mode : Mode} (status : device.connectionStatus = mode.status) : Packed device := by
  rcases whole booted with packed | ⟨closing, _⟩
  · exact packed
  · rw [closing] at status
    cases mode <;> contradiction

theorem Whole.cleared {device : Device} (whole : Whole device) : Whole device.cleared := by
  intro booted
  rcases whole booted with ⟨bytes, staged, rest⟩ | completed
  · exact .inl ⟨bytes, ⟨staged.count, staged.words, staged.position, staged.small⟩, rest⟩
  · exact .inr completed

theorem whole_powerOn (flash : UInt32 → UInt64) : Whole (powerOn flash) :=
  fun _ => .inl (packed_of_empty rfl rfl)

theorem whole_step (gcm : AesGcm) {device : Device} {event : Event} (whole : Whole device)
    (leaves : LeavesWhole gcm device event) : Whole (step gcm device event) := by
  induction event using step_cases gcm device with
  | running event running after =>
      rw [after]
      exact whole.cleared
  | connect booted after =>
      rw [after]
      exact fun _ => .inl (packed_of_empty (leaves booted).1 (leaves booted).2)
  | jump hardware booted complete after =>
      rw [after]
      exact fun running => by simp at running
  | stay hardware booted incomplete after =>
      rw [after]
      exact fun _ => .inl (packed_of_empty rfl (leaves booted incomplete))
  | ignored packet hardware booted status after =>
      rw [after]
      exact whole.cleared
  | connected packet hardware booted status after =>
      obtain ⟨_, _, _, _, _, _, _, _, _, shape⟩ :=
        handleConnected_shape gcm hardware packet device.cleared status
      rw [after, shape]
      intro _
      rcases whole.cleared booted with ⟨bytes, staged, aligned, length⟩ | ⟨closing, _⟩
      · have none : bytes.length = 0 := by simpa [openBytes, status] using length
        exact .inl ⟨bytes, staged, aligned, by omega⟩
      · rw [cleared_connectionStatus, status] at closing
        contradiction
  | repeats mode packet hardware booted status notCounted after =>
      obtain ⟨bytes, staged, aligned, length⟩ := whole.cleared.packed booted status
      rw [after]
      intro _
      cases mode <;> exact .inl ⟨bytes, staged, aligned, length⟩
  | inside mode packet hardware booted status isCounted isInside after =>
      rw [after]
      exact fun _ => .inl (packed_inside (whole.cleared.packed booted status) status isCounted
        isInside)
  | closes mode packet hardware booted status isClosing after =>
      rw [after]
      exact fun _ => whole_closes (whole.cleared.packed booted status)
        (by simpa [Completes] using leaves booted mode status isClosing)

theorem touched_step (gcm : AesGcm) {device : Device} {event : Event} (whole : Whole device) :
    ∀ index ∈ (step gcm device event).staging.touched, index < 32 := by
  induction event using step_cases gcm device with
  | running event running after => simp [after]
  | connect booted after => simp [after]
  | jump hardware booted complete after => simp [after]
  | stay hardware booted incomplete after => simp [after]
  | ignored packet hardware booted status after => simp [after]
  | connected packet hardware booted status after =>
      obtain ⟨_, _, _, _, _, _, _, _, _, shape⟩ :=
        handleConnected_shape gcm hardware packet device.cleared status
      simp [after, shape]
  | repeats mode packet hardware booted status notCounted after =>
      cases mode <;> simp [after, Mode.replyType, sendAck_raw, sendAck_secure]
  | inside mode packet hardware booted status isCounted isInside after =>
      rw [after]
      exact touched_intake (whole.cleared.packed booted status) status rfl
  | closes mode packet hardware booted status isClosing after =>
      rw [after]
      exact touched_closes (whole.cleared.packed booted status) status rfl

theorem inBounds_step (gcm : AesGcm) {device : Device} {event : Event} (whole : Whole device) :
    InBounds gcm device event := by
  refine ⟨touched_step gcm whole, ?_⟩
  cases event with
  | receive packet hardware =>
      exact fun booted mode status empty => (whole.packed booted status).bytePos empty
  | _ => trivial

/-- In a run that never empties the buffer in the middle of a double word, every access to
the buffer is in bounds. -/
theorem inBounds_of_leavesWhole (gcm : AesGcm) (flash : UInt32 → UInt64) (events : List Event)
    (leaves : Along (step gcm) (LeavesWhole gcm) (powerOn flash) events) :
    Along (step gcm) (InBounds gcm) (powerOn flash) events :=
  leaves.imp_of_invariant (fun _ _ whole leaves => whole_step gcm whole leaves)
    (fun _ _ whole _ => inBounds_step gcm whole) (whole_powerOn flash)

theorem inBounds_of_leavesWhole_single_packet :
    let gcm := AesGcm.ofTables [] []
    let start := Packet.ofBytes [0xbb, 0, 0, 1, 1] (by decide)
    let data := Packet.ofBytes
      [0xbb, 0, 0, 1, 2, 3, 4, 5, 6, 7, 8, 9, 10, 11, 12, 13, 14, 15, 16, 136] (by decide)
    let events := [.connect, .receive start (.working 0), .receive data (.working 0),
      .disconnect (.working 0)]
    Along (step gcm) (InBounds gcm) (powerOn fun _ => 0) events :=
  inBounds_of_leavesWhole _ _ _ (by decide +kernel)

/-- A secure session that ends after one packet leaves `byte_pos` at 7, so that the first
byte of the next session goes to `flash_buff[65535]`. -/
theorem outOfBounds_after_interrupted_session :
    let gcm := AesGcm.ofTables [] []
    let startSecure := Packet.ofBytes [0xbc, 0, 0, 2, 2] (by decide)
    let secureData := Packet.ofBytes (0xc0 :: List.replicate 19 0) (by decide)
    let start := Packet.ofBytes [0xbb, 0, 0, 1, 1] (by decide)
    let data := Packet.ofBytes
      [0xbb, 0, 0, 1, 2, 3, 4, 5, 6, 7, 8, 9, 10, 11, 12, 13, 14, 15, 16, 136] (by decide)
    let events := [.connect, .receive startSecure (.working 0), .receive secureData (.working 0),
      .disconnect (.working 0), .connect, .receive start (.working 0), .receive data (.working 0)]
    ¬ Along (step gcm) (InBounds gcm) (powerOn fun _ => 0) events ∧
      65535 ∈ (run gcm (fun _ => 0) events).staging.touched := by
  refine ⟨?_, by decide +kernel⟩
  rintro ⟨-, -, -, -, -, -, ⟨inBounds, -⟩, -⟩
  exact absurd (inBounds 65535 (by decide +kernel)) (by decide)

end BleFwUpdate
