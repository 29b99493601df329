import BleFwUpdate.Placement

/-! Raw sessions in which windows are rejected and sent again. -/

namespace BleFwUpdate

open Transitions LittleEndian

/-- Each packet number has been programmed once, at the place that the number gives, with
the payload of a valid packet of that number. -/
def ExactlyOnce (gcm : AesGcm) (base : UInt32) (total : UInt16) (log : List (Device × Event)) :
    Prop :=
  ∃ payloads : List (List UInt8), payloads.length = total.toNat ∧
    (∀ number bytes, payloads[number]? = some bytes →
      ∃ device packet hardware, (device, Event.receive packet hardware) ∈ log ∧
        verifyDataType packet .writeFlashPacket = true ∧ (packet.number 1).toNat = number ∧
        bytes = packet.slice 3 16) ∧
    programmed gcm log = (payloads.mapIdx fun number bytes =>
      programsOf (base + 16 * UInt32.ofNat number) bytes).flatten

theorem programsOf_flatten (base : UInt32) (payloads : List (List UInt8))
    (sized : ∀ bytes ∈ payloads, bytes.length = 16) :
    programsOf base payloads.flatten = (payloads.mapIdx fun number bytes =>
      programsOf (base + 16 * UInt32.ofNat number) bytes).flatten := by
  induction payloads generalizing base with
  | nil => rfl
  | cons first rest ih =>
      have length : first.length = 8 * 2 := sized first (by simp)
      have words : wordCount first = 2 := by simp [wordCount, length]
      have later := ih (base + 8 * UInt32.ofNat 2)
        fun bytes member => sized bytes (List.mem_cons_of_mem _ member)
      have shifted (number : Nat) : base + 8 * UInt32.ofNat 2 + 16 * UInt32.ofNat number =
          base + 16 * UInt32.ofNat (number + 1) := by
        rw [UInt32.ofNat_add, UInt32.mul_add, UInt32.add_comm (16 * _), UInt32.add_assoc]
        rfl
      rw [List.flatten_cons, programsOf_append base first _ 2 length, words, later,
        List.mapIdx_cons, List.flatten_cons, show base + 16 * UInt32.ofNat 0 = base by simp]
      simp only [shifted]

theorem Uploaded.exactlyOnce {gcm : AesGcm} {base : UInt32} {log : List (Device × Event)}
    {payloads : List (List UInt8)} {device : Device} {total : UInt16}
    (uploaded : Uploaded gcm .raw base log payloads device) (same : device.totalPck = total)
    (full : ∀ entry ∈ log, RawData entry.2) : ExactlyOnce gcm base total log := by
  refine ⟨payloads, by rw [uploaded.length, same], ?_, ?_⟩
  · intro number bytes taken
    obtain ⟨taker, packet, hardware, member, good, counted, stored⟩ :=
      uploaded.delivered number bytes (by simpa using taken)
    obtain ⟨_, _, event, length, _⟩ := full _ member
    injection event with samePacket
    rw [← samePacket] at length
    simp only [accepts, numbered, Bool.and_eq_true, beq_iff_eq] at good
    exact ⟨taker, packet, hardware, member, good.1, by rw [good.2, counted],
      by rw [← stored, payload, length]; rfl⟩
  · rw [uploaded.programmed]
    exact programsOf_flatten base payloads fun bytes member =>
      uploaded.sized bytes (List.mem_append_left _ member)

section Begin

variable {mode : Mode} {start : Packet} {device begun : Device} {base : UInt32}

theorem Started.startPage (started : Started mode start device begun)
    (slot : slotAddress (requestedApp start) = some base) : begun.startPageAddress = base := by
  have place := started.place
  rw [slot] at place
  exact (Option.some.inj place).symm

theorem Started.rawOpen (started : Started .raw start device begun)
    (fresh : Fresh device) (booted : device.running = none)
    (connected : device.connectionStatus = .connected)
    (slot : slotAddress (requestedApp start) = some base) (nonempty : start.number 2 ≠ 0) :
    RawOpen base begun := by
  obtain ⟨count, empty, _⟩ := fresh.untouched booted (.inr connected)
  have place := started.startPage slot
  refine ⟨by rw [started.running, booted], started.connectionStatus, ?_, ?_, ?_, ?_⟩
  · rw [started.countPck, count, started.totalPck]
    exact UInt16.pos_iff_ne_zero.mpr nonempty
  · rw [place, started.countPck, count]
    simp [windowStart]
  · intro _
    rw [started.staging, started.countPck, count, cleared_contBuff, empty]
    rfl
  · rw [started.staging]
    exact fresh.small

theorem Started.uploading (gcm : AesGcm) (started : Started mode start device begun)
    (fresh : Fresh device) (booted : device.running = none)
    (connected : device.connectionStatus = .connected)
    (slot : slotAddress (requestedApp start) = some base) (nonempty : start.number 2 ≠ 0)
    (aligned : device.staging.bytePos = 0) : Uploading gcm mode base [] [] [] begun := by
  obtain ⟨count, empty, _⟩ := fresh.untouched booted (.inr connected)
  have place := started.startPage slot
  refine ⟨⟨by simp, by simp, rfl, by simp [place, wordCount]⟩, by rw [started.running, booted],
    started.connectionStatus, ?_, ?_, fun _ => ⟨?_, ?_⟩, ?_⟩
  · rw [started.countPck, count, started.totalPck]
    exact UInt16.pos_iff_ne_zero.mpr nonempty
  · simp [windowStart, started.countPck, count]
  · simp [started.countPck, count]
  · rw [started.staging]
    exact staged_nil empty fresh.small
  · simp [started.staging, aligned]

end Begin

structure RawUpload (gcm : AesGcm) (base : UInt32) (total : UInt16) (log : List (Device × Event))
    (device : Device) : Prop where
  placed : Placed gcm .raw base log device
  total : device.totalPck = total
  full : ∀ entry ∈ log, RawData entry.2

theorem RawUpload.step {gcm : AesGcm} {base : UInt32} {total : UInt16}
    (log : List (Device × Event)) (device : Device) (event : Event)
    (upload : RawUpload gcm base total log device)
    (allowed : RejectsWhole device event ∧ RawData event) :
    RawUpload gcm base total (log ++ [(device, event)]) (step gcm device event) := by
  obtain ⟨placed, same, full⟩ := upload
  obtain ⟨whole, packet, hardware, rfl, length, works⟩ := allowed
  have begun : device.connectionStatus ≠ .connected := by
    intro connected
    rcases placed with ⟨_, _, uploading⟩ | ⟨_, uploaded⟩
    · rw [uploading.receving] at connected
      contradiction
    · rw [uploaded.closing] at connected
      contradiction
  refine ⟨placed_step placed ⟨packet, hardware, rfl, length, works, ?_⟩, ?_, ?_⟩
  · intro bad raw
    refine ⟨rfl, fun closes => ?_⟩
    have aligned := UInt16.toNat_inj.mpr (whole raw closes bad)
    rwa [UInt16.toNat_mod] at aligned
  · rw [(receive_frame gcm packet hardware begun).2.2.1, same]
  · intro entry member
    rcases List.mem_append.mp member with member | member
    · exact full entry member
    · rw [List.mem_singleton.mp member]
      exact ⟨packet, hardware, rfl, length, works⟩

/-- In a raw session of 20-byte packets on a working flash, the flash pointer agrees with
`count_pck` after every window exactly if no window cut short by the end of the image is
rejected. If `byte_pos` is zero at the START, the payloads are then in their places. -/
theorem rawSession_keepsPlace (gcm : AesGcm) (flash : UInt32 → UInt64) (events : List Event)
    (start : Packet) (hardware : Hardware) (base : UInt32) (session : List Event)
    (alternating : Along (step gcm) Alternates (powerOn flash) events)
    (booted : (run gcm flash events).running = none)
    (connected : (run gcm flash events).connectionStatus = .connected)
    (isStart : startMode start = some .raw) (isAdmitted : admitted hardware .raw start = true)
    (slot : slotAddress (requestedApp start) = some base) (nonempty : start.number 2 ≠ 0)
    (data : ∀ event ∈ session, RawData event) :
    let begun := step gcm (run gcm flash events) (.receive start hardware)
    (Along (step gcm) (KeepsPlace gcm base) begun session ↔
      Along (step gcm) RejectsWhole begun session) ∧
    ((run gcm flash events).staging.bytePos = 0 →
      Along (step gcm) RejectsWhole begun session →
      (runFrom (step gcm) begun session).connectionStatus = .closingConnection →
        ExactlyOnce gcm base (start.number 2) (history (step gcm) begun session)) := by
  have fresh := fresh_run gcm flash events alternating
  have begins := started gcm booted connected isStart isAdmitted
  constructor
  · exact along_iff_of_invariant
      (fun _ event member tracked keeps => tracked_step (data event member) tracked
        ((keepsPlace_iff (data event member) tracked).mp keeps))
      (fun _ event member tracked => keepsPlace_iff (data event member) tracked)
      (.inl (begins.rawOpen fresh booted connected slot nonempty))
  · intro aligned whole closing
    have uploading := begins.uploading gcm fresh booted connected slot nonempty aligned
    have initial : RawUpload gcm base (start.number 2) [] _ :=
      ⟨.inl ⟨[], [], uploading⟩, begins.totalPck, by simp⟩
    have result := (whole.and (along_of_forall data)).invariant_history RawUpload.step initial
    rw [List.nil_append] at result
    obtain ⟨⟨_, _, open'⟩ | ⟨payloads, uploaded⟩, total, full⟩ := result
    · rw [open'.receving] at closing
      contradiction
    · exact uploaded.exactlyOnce total full

def filledPacket (number byte sum : UInt8) : Packet :=
  .ofBytes ([0xbb, 0x00, number] ++ List.replicate 16 byte ++ [sum]) (by simp)

/-- The packets of an image of eleven: the first window is rejected for the checksum of its fourth
packet, and sent again. -/
def resentWindow : List Packet :=
  let window := (List.range 10).map fun number =>
    filledPacket (.ofNat number) (.ofNat number) (.ofNat (16 * number))
  window.set 3 (filledPacket 3 3 0) ++ window ++ [filledPacket 10 10 160]

theorem rawData_resentWindow :
    ∀ event ∈ resentWindow.map (Event.receive · (.working 0)), RawData event := by
  have full : ∀ packet ∈ resentWindow, packet.numBytes = 20 := by decide +kernel
  intro event member
  obtain ⟨packet, listed, rfl⟩ := List.mem_map.mp member
  exact ⟨packet, .working 0, rfl, full packet listed, flashWorks_working 0⟩

theorem rawSession_resent_window :
    let gcm := AesGcm.ofTables [] []
    let begun := step gcm (run gcm (fun _ => 0) [.connect])
      (.receive (.ofBytes [0xbb, 1, 0, 11, 11] (by decide)) (.working 0))
    ExactlyOnce gcm 0x08040000 11
      (history (step gcm) begun (resentWindow.map (Event.receive · (.working 0)))) :=
  (rawSession_keepsPlace (.ofTables [] []) (fun _ => 0) [.connect]
    (.ofBytes [0xbb, 1, 0, 11, 11] (by decide)) (.working 0) 0x08040000
    (resentWindow.map (Event.receive · (.working 0))) (by decide +kernel) (by decide +kernel)
    (by decide +kernel) (by decide +kernel) (by decide +kernel) (by decide +kernel)
    (by decide +kernel) rawData_resentWindow).2
    (by decide +kernel) (by decide +kernel) (by decide +kernel)

/-- The only packet of an image carries a wrong number: ten is taken off a counter at one. -/
theorem pointer_lost_after_short_window :
    let gcm := AesGcm.ofTables [] []
    let start := Packet.ofBytes [0xbb, 1, 0, 1, 1] (by decide)
    let misnumbered := Packet.ofBytes
      [0xbb, 0, 1, 1, 2, 3, 4, 5, 6, 7, 8, 9, 10, 11, 12, 13, 14, 15, 16, 136] (by decide)
    let begun := step gcm (run gcm (fun _ => 0) [.connect]) (.receive start (.working 0))
    ¬ Along (step gcm) (KeepsPlace gcm 0x08040000) begun [.receive misnumbered (.working 0)] ∧
      (step gcm begun (.receive misnumbered (.working 0))).startPageAddress = 0x08040000 ∧
      (step gcm begun (.receive misnumbered (.working 0))).countPck = 65527 := by
  refine ⟨?_, by decide +kernel, by decide +kernel⟩
  rintro ⟨keeps, -⟩
  exact absurd (keeps (by decide +kernel) (by decide +kernel)) (by decide +kernel)

end BleFwUpdate
