import BleFwUpdate.Radio

/-! What surrounds a received value in memory makes no difference, as long as the value is long
enough for what is read of it. -/

namespace BleFwUpdate

structure Packet.Same (first second : Packet) : Prop where
  numBytes : first.numBytes = second.numBytes
  mem : ∀ index : Nat, index < first.numBytes.toNat → first.mem index = second.mem index

/-- Nothing that is read of the packet lies outside the received bytes. -/
def LongEnough (packet : Packet) (device : Device) : Prop :=
  4 ≤ packet.numBytes.toNat ∧
    (device.connectionStatus = .recevingSecureFw → packet.numBytes = 20)

namespace Packet.Same

variable {first second : Packet}

theorem longEnough (same : first.Same second) {device other : Device}
    (status : device.connectionStatus = other.connectionStatus) (long : LongEnough second other) :
    LongEnough first device := by
  rw [LongEnough, same.numBytes, status]
  exact long

theorem slice (same : first.Same second) {start count : Nat}
    (inside : start + count ≤ first.numBytes.toNat) :
    first.slice start count = second.slice start count := by
  apply List.map_congr_left
  intro index member
  have bounds := List.mem_range'_1.mp member
  exact same.mem index (by omega)

theorem sumPayload (same : first.Same second) {start stop : UInt8}
    (inside : stop.toNat < first.numBytes.toNat) :
    BleFwUpdate.sumPayload first.mem start stop = BleFwUpdate.sumPayload second.mem start stop := by
  unfold BleFwUpdate.sumPayload
  apply List.foldl_ext
  intro sum index member
  have bounds := List.mem_range'_1.mp member
  rw [same.mem index (by omega)]

theorem number (same : first.Same second) {index : Nat}
    (inside : index + 1 < first.numBytes.toNat) : first.number index = second.number index := by
  have high := same.mem index (by omega)
  have low := same.mem (index + 1) inside
  rw [Nat.cast_add, Nat.cast_one] at low
  rw [Packet.number, Packet.number, high, low]

theorem verifyDataType (same : first.Same second) (long : 4 ≤ first.numBytes.toNat)
    (expected : PckType) :
    BleFwUpdate.verifyDataType first expected = BleFwUpdate.verifyDataType second expected := by
  have head : first.mem 0 = second.mem 0 := same.mem 0 (by omega)
  have last : first.mem ((first.numBytes.toNat : Int) - 1) =
      second.mem ((second.numBytes.toNat : Int) - 1) := by
    have place : (first.numBytes.toNat : Int) - 1 = ((first.numBytes.toNat - 1 : Nat) : Int) := by
      omega
    rw [← same.numBytes, place]
    exact same.mem _ (by omega)
  have stop : (first.numBytes - 2).toNat < first.numBytes.toNat := by
    rw [UInt8.toNat_sub_of_le _ _ (by rw [UInt8.le_iff_toNat_le]; exact Nat.le_trans (by decide) long)]
    exact Nat.sub_lt (by omega) (by decide)
  have sum (start : UInt8) : BleFwUpdate.sumPayload first.mem start (first.numBytes - 2) =
      BleFwUpdate.sumPayload second.mem start (second.numBytes - 2) := by
    rw [same.sumPayload stop, same.numBytes]
  cases expected with
  | startFlashMode =>
      unfold BleFwUpdate.verifyDataType
      dsimp only
      rw [head, sum, last, same.numBytes]
  | startSecureFlashMode =>
      unfold BleFwUpdate.verifyDataType
      dsimp only
      rw [head, sum, last, same.numBytes]
  | writeFlashPacket =>
      unfold BleFwUpdate.verifyDataType
      dsimp only
      rw [head, sum, last]
  | writeSecureFlashPacket => simp only [BleFwUpdate.verifyDataType, head]
  | masterNak => simp only [BleFwUpdate.verifyDataType, head, same.numBytes]
  | writeFlashPacketResponse => rfl
  | writeSecureFlashPacketResponse => rfl

theorem write (same : first.Same second) (start : Nat) (bytes : List UInt8) :
    (first.write start bytes).Same (second.write start bytes) := by
  refine ⟨same.numBytes, fun index inside => ?_⟩
  simp only [Packet.write]
  rw [same.mem index inside]

variable (gcm : AesGcm) (hardware : Hardware) (device : Device)

theorem handleConnected (same : first.Same second) (long : 4 ≤ first.numBytes.toNat) :
    BleFwUpdate.handleConnected gcm hardware first device =
      BleFwUpdate.handleConnected gcm hardware second device := by
  have app : first.mem 1 = second.mem 1 := same.mem 1 (by omega)
  simp only [BleFwUpdate.handleConnected, same.verifyDataType long, app, same.number long]

theorem handleRecevingRawFw (same : first.Same second) (long : 4 ≤ first.numBytes.toNat) :
    BleFwUpdate.handleRecevingRawFw gcm hardware first device =
      BleFwUpdate.handleRecevingRawFw gcm hardware second device := by
  have number : first.number 1 = second.number 1 := same.number (by omega)
  have stored : first.slice 3 (first.numBytes.toNat - 1 - 3) =
      second.slice 3 (second.numBytes.toNat - 1 - 3) := by
    rw [← same.numBytes]
    exact same.slice (by omega)
  have store : storeRawPacket first device = storeRawPacket second device := by
    simp only [storeRawPacket, same.verifyDataType long, number, stored]
  rw [BleFwUpdate.handleRecevingRawFw, store]
  rfl

theorem decryptData (same : first.Same second) (full : first.numBytes = 20) :
    (BleFwUpdate.decryptData gcm hardware first device).1.Same
        (BleFwUpdate.decryptData gcm hardware second device).1 ∧
      (BleFwUpdate.decryptData gcm hardware first device).2 =
        (BleFwUpdate.decryptData gcm hardware second device).2 := by
  have length : first.numBytes.toNat = 20 := by rw [full]; rfl
  have addData : first.slice 0 1 = second.slice 0 1 := same.slice (by omega)
  have ciphertext : first.slice 1 15 = second.slice 1 15 := same.slice (by omega)
  have tag : first.slice 16 aesTagLen = second.slice 16 aesTagLen :=
    same.slice (by rw [length]; decide)
  unfold BleFwUpdate.decryptData
  dsimp only
  rw [addData, ciphertext, tag]
  exact ⟨same.write _ _, rfl⟩

theorem handleRecevingSecureFw (same : first.Same second) (full : first.numBytes = 20) :
    BleFwUpdate.handleRecevingSecureFw gcm hardware first device =
      BleFwUpdate.handleRecevingSecureFw gcm hardware second device := by
  have length : first.numBytes.toNat = 20 := by rw [full]; rfl
  have long : 4 ≤ first.numBytes.toNat := by omega
  have head : first.mem 0 = second.mem 0 := same.mem 0 (by omega)
  obtain ⟨opened, after⟩ := same.decryptData gcm hardware device full
  have numBytes : (BleFwUpdate.decryptData gcm hardware first device).1.numBytes = 20 := full
  have stored : (BleFwUpdate.decryptData gcm hardware first device).1.slice 1 15 =
      (BleFwUpdate.decryptData gcm hardware second device).1.slice 1 15 :=
    opened.slice (by rw [numBytes]; decide)
  have store : storeSecurePacket gcm hardware first device =
      storeSecurePacket gcm hardware second device := by
    unfold storeSecurePacket
    dsimp only
    have count : (20 : UInt8).toNat - 4 - 1 = 15 := rfl
    rw [head, ← opened.numBytes, numBytes, after, count, stored]
  simp only [BleFwUpdate.handleRecevingSecureFw, same.verifyDataType long, store]

theorem dataHandler (same : first.Same second) (long : LongEnough first device) :
    BleFwUpdate.dataHandler gcm hardware first device =
      BleFwUpdate.dataHandler gcm hardware second device := by
  unfold BleFwUpdate.dataHandler
  cases status : device.connectionStatus with
  | connected => exact same.handleConnected gcm hardware device long.1
  | recevingRawFw => exact same.handleRecevingRawFw gcm hardware device long.1
  | recevingSecureFw => exact same.handleRecevingSecureFw gcm hardware device (long.2 status)
  | idle => rfl
  | closingConnection => rfl

end Packet.Same

/-- The same has happened, up to the memory around what was received. -/
inductive Event.Same : Event → Event → Prop
  | connect : Event.Same .connect .connect
  | disconnect (hardware : Hardware) : Event.Same (.disconnect hardware) (.disconnect hardware)
  | receive {first second : Packet} (same : first.Same second) (hardware : Hardware) :
      Event.Same (.receive first hardware) (.receive second hardware)

def ReadsReceived (device : Device) : Event → Prop
  | .receive packet _ => LongEnough packet device
  | _ => True

theorem step_same (gcm : AesGcm) {device : Device} {first second : Event}
    (same : Event.Same first second) (reads : ReadsReceived device first) :
    step gcm device first = step gcm device second := by
  cases same with
  | connect => rfl
  | disconnect hardware => rfl
  | receive same hardware =>
      simp only [step, handleEvent]
      rw [same.dataHandler gcm hardware device.cleared reads]

/-- Where every packet is long enough when it is handled, neither the device nor what it does
depends on the memory around the received bytes. -/
theorem run_reads_received (gcm : AesGcm) (flash : UInt32 → UInt64) (events others : List Event)
    (same : List.Forall₂ Event.Same events others)
    (reads : Transitions.Along (step gcm) ReadsReceived (powerOn flash) events) :
    run gcm flash events = run gcm flash others ∧
      Transitions.trace (step gcm) Device.effects (powerOn flash) events =
        Transitions.trace (step gcm) Device.effects (powerOn flash) others := by
  have keeps : ∀ device event other, Event.Same event other → ReadsReceived device event →
      step gcm device event = step gcm device other :=
    fun _ _ _ now long => step_same gcm now long
  exact Transitions.Along.run_congr keeps same reads

theorem run_reads_received_start :
    let start := Packet.ofBytes [0xbb, 0x01, 0x00, 0x01, 0x01] (by decide)
    let other := { start with mem := fun index => if index < 5 then start.mem index else 0xff }
    run .sample (fun _ => 0) [.connect, .receive start (.working 0)] =
        run .sample (fun _ => 0) [.connect, .receive other (.working 0)] ∧
      Transitions.trace (step .sample) Device.effects (powerOn fun _ => 0)
          [.connect, .receive start (.working 0)] =
        Transitions.trace (step .sample) Device.effects (powerOn fun _ => 0)
          [.connect, .receive other (.working 0)] := by
  intro start other
  have same : start.Same other := by
    refine ⟨rfl, fun index inside => ?_⟩
    have below : (index : Int) < 5 := Int.ofNat_lt.mpr inside
    exact (if_pos below).symm
  exact run_reads_received .sample (fun _ => 0) _ _
    (.cons .connect (.cons (.receive same (.working 0)) .nil))
    ⟨trivial, ⟨by decide, fun receving => by cases receving⟩, trivial⟩

theorem Packet.Holds.same {packet : Packet} {data : List UInt8} (holds : packet.Holds data)
    (short : data.length ≤ 20) : packet.Same (.ofBytes data short) := by
  have length : packet.numBytes.toNat = data.length := by
    rw [← holds, Packet.length_slice]
  have count : (Packet.ofBytes data short).numBytes = packet.numBytes := by
    apply UInt8.toNat_inj.mp
    rw [length, Packet.ofBytes, UInt8.toNat_ofNat']
    exact Nat.mod_eq_of_lt (by omega)
  refine ⟨count.symm, fun index inside => ?_⟩
  have byte := congrArg (fun bytes => bytes.getD index 0) holds
  simp only [Packet.slice] at byte
  rw [List.getD_eq_getElem?_getD, List.getElem?_map, List.getElem?_range' inside] at byte
  simpa [Packet.ofBytes] using byte

end BleFwUpdate
