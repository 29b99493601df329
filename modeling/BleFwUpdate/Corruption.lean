import BleFwUpdate.Erasing
import BleFwUpdate.Failures
import BleFwUpdate.Formats
import BleFwUpdate.Pointer
import BleFwUpdate.Programs

/-! Messages of the host of which one byte arrives as another one. -/

namespace BleFwUpdate

open Transitions

structure ByteChanged (sent : List UInt8) (place : Nat) (value : UInt8) (packet : Packet) :
    Prop where
  inside : place < sent.length
  differs : sent[place] ≠ value
  received : packet.received = sent.set place value

/-! START messages. -/

/-- The device has refused a request, and has neither erased anything nor gone on. -/
structure RefusedOnly (after : Device) : Prop where
  answer : ∃ bytes, responses after.effects = [bytes] ∧ bytes.head? = some nakCmd
  erases : erasures after.effects = []
  status : after.connectionStatus = .connected

theorem Mode.forall_iff {holds : Mode → Prop} : (∀ mode, holds mode) ↔ holds .raw ∧ holds .secure :=
  ⟨fun all => ⟨all .raw, all .secure⟩, fun both mode => by cases mode; exacts [both.1, both.2]⟩

section Starts

variable {packet : Packet}

theorem hostMessage_start_iff (mode : Mode) (cmd app high low last : UInt8) :
    HostMessage mode.startType [cmd, app, high, low, last] ↔
      cmd = mode.startCmd ∧ last = high + low := by
  cases mode <;> simp [HostMessage, Mode.startType, Mode.startCmd]

theorem startMode_eq_none_iff :
    startMode packet = none ↔ ∀ mode : Mode, ¬ HostMessage mode.startType packet.received := by
  have raw : verifyDataType packet .startFlashMode = true ↔
      HostMessage .startFlashMode packet.received := startCheck_iff startFlashModeCmd
  have secure : verifyDataType packet .startSecureFlashMode = true ↔
      HostMessage .startSecureFlashMode packet.received := startCheck_iff startSecureFlashModeCmd
  rw [Mode.forall_iff, Mode.startType, Mode.startType, ← raw, ← secure, startMode]
  cases verifyDataType packet .startFlashMode <;>
    cases verifyDataType packet .startSecureFlashMode <;> simp

theorem refusedOnly_iff (gcm : AesGcm) (hardware : Hardware) {device : Device}
    (booted : device.running = none) (status : device.connectionStatus = .connected) :
    RefusedOnly (step gcm device (.receive packet hardware)) ↔ startMode packet = none := by
  rw [step_connected gcm packet hardware booted status]
  constructor
  · intro refused
    have erased := refused.erases
    rw [erasures_handleConnected] at erased
    cases start : startMode packet with
    | none => rfl
    | some mode => simp [start] at erased
  · intro none
    rw [handleConnected_eq, none]
    exact ⟨⟨_, rfl, rfl⟩, rfl, status⟩

theorem changedStart_iff {cmd : Mode} {app high low value : UInt8} {place : Nat}
    (change : ByteChanged [cmd.startCmd, app, high, low, high + low] place value packet) :
    (∀ mode : Mode, ¬ HostMessage mode.startType packet.received) ↔
      place ≠ 1 ∧ (place = 0 → value ≠ startFlashModeCmd ∧ value ≠ startSecureFlashModeCmd) := by
  obtain ⟨inside, differs, received⟩ := change
  simp only [List.length_cons, List.length_nil] at inside
  have cases : place = 0 ∨ place = 1 ∨ place = 2 ∨ place = 3 ∨ place = 4 := by omega
  rw [received]
  rcases cases with rfl | rfl | rfl | rfl | rfl
  · simp [hostMessage_start_iff, Mode.forall_iff, Mode.startCmd]
  · simp [hostMessage_start_iff]
  · have other : high ≠ value := differs
    simp [hostMessage_start_iff, other]
  · have other : low ≠ value := differs
    simp [hostMessage_start_iff, other]
  · have other : high + low ≠ value := differs
    simp [hostMessage_start_iff, other.symm]

end Starts

/-- The change is noticed exactly if it is in the two bytes of the count, in their sum, or makes
the command none at all: nothing covers the slot. -/
theorem corruptedStart_refused_iff (gcm : AesGcm) (hardware : Hardware) (device : Device)
    (booted : device.running = none) (status : device.connectionStatus = .connected) (mode : Mode)
    (host : Host) (msg : List UInt8) (sent : startMsg mode.startCmd host = some msg) (place : Nat)
    (value : UInt8) (packet : Packet) (change : ByteChanged msg place value packet) :
    RefusedOnly (step gcm device (.receive packet hardware)) ↔
      place ≠ 1 ∧ (place = 0 → value ≠ startFlashModeCmd ∧ value ≠ startSecureFlashModeCmd) := by
  rw [startMsg] at sent
  split at sent
  · obtain rfl := Option.some.inj sent
    rw [refusedOnly_iff gcm hardware booted status, startMode_eq_none_iff]
    exact changedStart_iff change
  · contradiction

theorem corruptedStart_refused_checksum :
    let device := gapConnectionCompleteCb (powerOn fun _ => 0)
    let host := beginUpload false 1 (List.replicate 16 0x11) initialHost
    let packet := Packet.ofBytes [0xbb, 1, 0, 1, 3] (by decide)
    startMsg startFlashModeCmd host = some [0xbb, 1, 0, 1, 1] ∧
      ByteChanged [0xbb, 1, 0, 1, 1] 4 3 packet ∧
      RefusedOnly (step (.ofTables [] []) device (.receive packet (.working 0))) := by
  have sent : startMsg startFlashModeCmd
      (beginUpload false 1 (List.replicate 16 0x11) initialHost) = some [0xbb, 1, 0, 1, 1] := by
    decide +kernel
  have change : ByteChanged [0xbb, 1, 0, 1, 1] 4 3 (.ofBytes [0xbb, 1, 0, 1, 3] (by decide)) :=
    ⟨by decide, by decide, by decide⟩
  exact ⟨sent, change, (corruptedStart_refused_iff (.ofTables [] []) (.working 0)
    (gapConnectionCompleteCb (powerOn fun _ => 0)) rfl rfl .raw
    (beginUpload false 1 (List.replicate 16 0x11) initialHost) _ sent 4 3 _ change).mpr
      (by decide)⟩

/-- APP_1 turned into APP_2 on the way, and a raw START turned into a secure one. -/
theorem changed_slot_accepted :
    let device := gapConnectionCompleteCb (powerOn fun _ => 0)
    let host := beginUpload false 1 (List.replicate 16 0x11) initialHost
    let slot := Packet.ofBytes [0xbb, 2, 0, 1, 1] (by decide)
    let command := Packet.ofBytes [0xbc, 1, 0, 1, 1] (by decide)
    let other := step (.ofTables [] []) device (.receive slot (.working 0))
    let secure := step (.ofTables [] []) device (.receive command (.working 0))
    startMsg startFlashModeCmd host = some [0xbb, 1, 0, 1, 1] ∧
      ByteChanged [0xbb, 1, 0, 1, 1] 1 2 slot ∧ ByteChanged [0xbb, 1, 0, 1, 1] 0 0xbc command ∧
      other.connectionStatus = .recevingRawFw ∧
      erasures other.effects = [eraseRequest .flashApp2] ∧ ¬ RefusedOnly other ∧
      secure.connectionStatus = .recevingSecureFw ∧ ¬ RefusedOnly secure := by
  refine ⟨by decide +kernel, ⟨by decide, by decide, by decide⟩, ⟨by decide, by decide, by decide⟩,
    by decide +kernel, by decide +kernel, ?_, by decide +kernel, ?_⟩
  all_goals
    rw [refusedOnly_iff _ _ rfl rfl]
    decide

/-! Data packets. -/

theorem sum_set_inj {bytes : List UInt8} {place : Nat} {value : UInt8}
    (inside : place < bytes.length) (same : (bytes.set place value).sum = bytes.sum) :
    bytes[place] = value := by
  induction bytes generalizing place with
  | nil => simp at inside
  | cons byte rest ih =>
      cases place with
      | zero =>
          simp only [List.set_cons_zero, List.sum_cons] at same
          exact ((UInt8.add_left_inj rest.sum).mp same).symm
      | succ place =>
          simp only [List.set_cons_succ, List.sum_cons] at same
          exact ih (by simpa using inside) ((UInt8.add_right_inj byte).mp same)

theorem changed_ne_dataMsg {front padded other : List UInt8} {place : Nat} {value : UInt8}
    (inside : place < (front ++ padded ++ [padded.sum]).length)
    (differs : (front ++ padded ++ [padded.sum])[place] ≠ value)
    (length : other.length = padded.length) :
    (front ++ padded ++ [padded.sum]).set place value ≠ front ++ other ++ [other.sum] := by
  intro same
  have unchanged : other = padded := by
    have parts := same
    simp only [List.append_assoc, List.set_append] at parts
    split at parts
    · obtain ⟨_, back⟩ := List.append_inj parts (by simp)
      exact (List.append_inj_left back length.symm).symm
    · have back := List.append_cancel_left parts
      split at back
      · rename_i middle
        obtain ⟨set, sums⟩ := List.append_inj back (by simp [length])
        have sum : (padded.set (place - front.length) value).sum = padded.sum := by
          rw [set]
          exact (List.singleton_inj.mp sums).symm
        rw [← set, ← sum_set_inj middle sum, List.set_getElem_self]
      · exact (List.append_inj_left back length.symm).symm
  rw [unchanged] at same
  have here := congrArg (fun bytes : List UInt8 => bytes[place]?) same
  simp only [List.getElem?_set_self inside, List.getElem?_eq_getElem inside] at here
  exact differs (Option.some.inj here).symm

section Changed

variable {number : Nat} {chunk : List UInt8} {place : Nat} {value : UInt8} {packet : Packet}

theorem numberBytes_inj {high low : UInt8} {count : UInt16}
    (same : (high.toUInt16 <<< 8) + low.toUInt16 = count) :
    high = UInt8.ofNat (count.toNat / 256) ∧ low = UInt8.ofNat count.toNat := by
  have sum := congrArg UInt16.toNat same
  have highBound := high.toNat_lt
  have lowBound := low.toNat_lt
  simp [Nat.shiftLeft_eq] at sum
  constructor
  · apply UInt8.toNat_inj.mp
    simp
    omega
  · apply UInt8.toNat_inj.mp
    simp
    omega

theorem not_accepts_changed {device : Device} (fits : chunk.length ≤ 16)
    (change : ByteChanged (rawMsg device.countPck.toNat chunk) place value packet) :
    accepts .raw packet device = false := by
  obtain ⟨inside, differs, received⟩ := change
  rw [← Bool.not_eq_true]
  intro isAccepted
  simp only [accepts, Mode.dataType, numbered, Bool.and_eq_true, beq_iff_eq] at isAccepted
  obtain ⟨verified, number⟩ := isAccepted
  have full : packet.numBytes = 20 :=
    numBytes_of_length (by rw [received, List.length_set, length_rawMsg fits]; rfl)
  obtain ⟨high, low, payload, length, bytes⟩ := (rawCheck_iff full).mp (verify_raw_iff.mp verified)
  have front := bytes
  rw [received_twenty full] at front
  simp only [List.cons_append, List.nil_append, List.cons.injEq] at front
  obtain ⟨_, isHigh, isLow, _⟩ := front
  obtain ⟨sameHigh, sameLow⟩ : packet.mem 1 = _ ∧ packet.mem 2 = _ := numberBytes_inj number
  have other := @changed_ne_dataMsg
    [0xbb, UInt8.ofNat (device.countPck.toNat / 256), UInt8.ofNat device.countPck.toNat]
    (ljust 16 chunk) payload place value inside differs (by rw [length, length_ljust fits])
  rw [← isHigh, ← isLow, sameHigh, sameLow] at bytes
  exact other (received.symm.trans bytes)

end Changed

/-- The window that a raw session is in ends with the packet of this number from now on. -/
structure WindowTakes (device : Device) (length : Nat) : Prop where
  ends : endsWindow rawNumCumulativeAck
    { device with countPck := device.countPck + UInt16.ofNat length } = true
  inside : ∀ fewer, 0 < fewer → fewer < length → endsWindow rawNumCumulativeAck
    { device with countPck := device.countPck + UInt16.ofNat fewer } = false

def receiveEvent (entry : Packet × Hardware) : Event := .receive entry.1 entry.2

/-- The state a number of packets after the start of a window, before its end. -/
structure Within (start : Device) (taken : Nat) (device : Device) : Prop where
  booted : device.running = none
  status : device.connectionStatus = .recevingRawFw
  totalPck : device.totalPck = start.totalPck
  countPck : device.countPck = start.countPck + UInt16.ofNat taken
  place : device.startPageAddress = start.startPageAddress

section Window

variable (gcm : AesGcm) {start device : Device} {length taken : Nat}

theorem WindowTakes.noWrap (window : WindowTakes start length) (inside : taken < length) :
    (start.countPck + UInt16.ofNat taken).toNat = start.countPck.toNat + taken := by
  have top := start.countPck.toNat_lt
  rcases Nat.lt_or_ge (start.countPck.toNat + taken) 65536 with small | wraps
  · rw [UInt16.toNat_add, UInt16.toNat_ofNat']
    omega
  · have zero : start.countPck + UInt16.ofNat (65536 - start.countPck.toNat) = 0 := by
      apply UInt16.toNat_inj.mp
      rw [UInt16.toNat_add, UInt16.toNat_ofNat']
      simp
      omega
    have going := window.inside (65536 - start.countPck.toNat) (by omega) (by omega)
    rw [zero] at going
    simp [endsWindow] at going

theorem Within.closesWindow_eq (within : Within start taken device) (packet : Packet) :
    closesWindow .raw packet device = endsWindow rawNumCumulativeAck
      { start with countPck := start.countPck + UInt16.ofNat (taken + 1) } := by
  have next : device.countPck + 1 = start.countPck + UInt16.ofNat (taken + 1) := by
    rw [within.countPck, UInt16.ofNat_add, UInt16.add_assoc]
    rfl
  simp only [closesWindow, counted, Bool.true_and, endsWindow, Mode.window, next, within.totalPck]

theorem Within.inside (within : Within start taken device) (window : WindowTakes start length)
    (before : taken + 1 < length) (entry : Packet × Hardware) :
    step gcm device (receiveEvent entry) = intake gcm entry.2 .raw entry.1 device.cleared ∧
      Within start (taken + 1) (step gcm device (receiveEvent entry)) := by
  have isInside : closesWindow .raw entry.1 device = false := by
    rw [within.closesWindow_eq]
    exact window.inside _ (Nat.succ_pos taken) before
  have after : step gcm device (receiveEvent entry) =
      intake gcm entry.2 .raw entry.1 device.cleared := by
    have counts := @step_counted gcm entry.2 .raw entry.1 device within.booted within.status rfl
    rwa [isInside] at counts
  refine ⟨after, ?_⟩
  rw [after]
  refine ⟨within.booted, within.status, within.totalPck, ?_, within.place⟩
  rw [intake_countPck, cleared_countPck, within.countPck, UInt16.ofNat_add, UInt16.add_assoc]
  rfl

theorem Within.run (within : Within start taken device) (window : WindowTakes start length)
    (packets : List (Packet × Hardware)) (before : taken + packets.length < length) :
    Within start (taken + packets.length)
        (runFrom (step gcm) device (packets.map receiveEvent)) ∧
      trace (step gcm) Device.effects device (packets.map receiveEvent) = [] := by
  induction packets generalizing taken device with
  | nil => exact ⟨within, rfl⟩
  | cons entry rest ih =>
      simp only [List.length_cons] at before
      obtain ⟨after, next⟩ := within.inside gcm window (by omega) entry
      obtain ⟨last, silent⟩ := ih next (by omega)
      have place : taken + 1 + rest.length = taken + (entry :: rest).length := by
        rw [List.length_cons]
        omega
      rw [place] at last
      refine ⟨last, ?_⟩
      rw [List.map_cons, trace_cons, silent, after]
      rfl

theorem Within.refused (within : Within start taken device)
    (window : WindowTakes start (taken + 1)) (entry : Packet × Hardware)
    (bad : (device.nextAck && accepts .raw entry.1 device) = false) :
    (∃ bytes, (step gcm device (receiveEvent entry)).effects = [.response bytes] ∧
        bytes.head? = some nakCmd) ∧
      (step gcm device (receiveEvent entry)).startPageAddress = start.startPageAddress := by
  have closes : closesWindow .raw entry.1 device = true := by
    rw [within.closesWindow_eq]
    exact window.ends
  have after := @step_counted gcm entry.2 .raw entry.1 device within.booted within.status rfl
  rw [if_pos closes] at after
  rw [receiveEvent, after]
  constructor
  · rw [closes_raw_effects, windowEffects, windowAccepted, intake_nextAck, bad]
    exact ⟨_, rfl, rfl⟩
  · exact (@rawWindow_rejected gcm entry.1 device.cleared entry.2 bad).1.trans within.place

/-- The verdict on one packet stays until the window is answered. -/
theorem Within.spoilt (within : Within start taken device) (entry : Packet × Hardware)
    (rest : List (Packet × Hardware)) (window : WindowTakes start (taken + 1 + rest.length))
    (bad : (device.nextAck && accepts .raw entry.1 device) = false) :
    (∃ bytes, trace (step gcm) Device.effects device ((entry :: rest).map receiveEvent) =
        [.response bytes] ∧ bytes.head? = some nakCmd) ∧
      (runFrom (step gcm) device ((entry :: rest).map receiveEvent)).startPageAddress =
        start.startPageAddress := by
  induction rest generalizing taken device entry with
  | nil =>
      obtain ⟨⟨bytes, answered, nak⟩, stays⟩ := within.refused gcm window entry bad
      exact ⟨⟨bytes, by rw [List.map_singleton, trace_cons, answered]; rfl, nak⟩, stays⟩
  | cons next rest ih =>
      rw [List.length_cons, Nat.add_comm rest.length, ← Nat.add_assoc] at window
      obtain ⟨after, within⟩ := within.inside gcm window (by omega) entry
      have nextAck : (step gcm device (receiveEvent entry)).nextAck = false := by
        rw [after, intake_nextAck]
        exact bad
      have silent : (step gcm device (receiveEvent entry)).effects = [] := by
        rw [after]
        rfl
      rw [List.map_cons, trace_cons, silent, List.nil_append, runFrom_cons]
      exact ih within next window (by rw [nextAck, Bool.false_and])

theorem Within.accepts_changed (within : Within start taken device)
    (window : WindowTakes start length) (inside : taken < length) {chunk : List UInt8}
    (fits : chunk.length ≤ 16) {place : Nat} {value : UInt8} {packet : Packet}
    (change : ByteChanged (rawMsg (start.countPck.toNat + taken) chunk) place value packet) :
    accepts .raw packet device = false := by
  refine @not_accepts_changed chunk place value packet device fits ?_
  rw [within.countPck, window.noWrap inside]
  exact change

end Window

/-- Whatever the other packets of the window are, the damaged one is held against all of them. -/
theorem corruptedWindow_refused (gcm : AesGcm) (device : Device)
    (booted : device.running = none) (status : device.connectionStatus = .recevingRawFw)
    (before after : List (Packet × Hardware)) (corrupted : Packet × Hardware)
    (window : WindowTakes device (before.length + 1 + after.length)) (chunk : List UInt8)
    (fits : chunk.length ≤ 16) (place : Nat) (value : UInt8)
    (change : ByteChanged (rawMsg (device.countPck.toNat + before.length) chunk) place value
      corrupted.1) :
    let events := (before ++ corrupted :: after).map receiveEvent
    (∃ bytes, trace (step gcm) Device.effects device events = [.response bytes] ∧
        bytes.head? = some nakCmd) ∧
      (runFrom (step gcm) device events).startPageAddress = device.startPageAddress := by
  have start : Within device 0 device := ⟨booted, status, rfl, (UInt16.add_zero _).symm, rfl⟩
  obtain ⟨reached, silent⟩ := start.run gcm window before (by omega)
  rw [Nat.zero_add] at reached
  have bad : accepts .raw corrupted.1 (runFrom (step gcm) device (before.map receiveEvent)) =
      false := reached.accepts_changed window (by omega) fits change
  have spoilt := reached.spoilt gcm corrupted after window (by rw [bad, Bool.and_false])
  simp only [List.map_append, trace_append, silent, List.nil_append, runFrom_append]
  exact spoilt

theorem corruptedWindow_refused_payload :
    let start := Packet.ofBytes [0xbb, 1, 0, 2, 2] (by decide)
    let device := step (.ofTables [] []) (gapConnectionCompleteCb (powerOn fun _ => 0))
      (.receive start (.working 0))
    let chunk := List.replicate 16 0x11
    let good := Packet.ofBytes (rawMsg 0 chunk) (by decide)
    let bad := Packet.ofBytes ((rawMsg 1 chunk).set 5 0x22) (by decide)
    device.connectionStatus = .recevingRawFw ∧ WindowTakes device 2 ∧
      ByteChanged (rawMsg 1 chunk) 5 0x22 bad ∧
      (∃ bytes, trace (step (.ofTables [] [])) Device.effects device
          [.receive good (.working 0), .receive bad (.working 0)] = [.response bytes] ∧
        bytes.head? = some nakCmd) ∧
      (runFrom (step (.ofTables [] [])) device
        [.receive good (.working 0), .receive bad (.working 0)]).startPageAddress =
        device.startPageAddress := by
  intro start device chunk good bad
  have window : WindowTakes device 2 := by
    refine ⟨by decide +kernel, fun fewer positive below => ?_⟩
    obtain rfl : fewer = 1 := by omega
    decide +kernel
  have change : ByteChanged (rawMsg 1 chunk) 5 0x22 bad := ⟨by decide, by decide, by decide⟩
  have status : device.connectionStatus = .recevingRawFw := by decide +kernel
  have number : device.countPck.toNat = 0 := by decide +kernel
  refine ⟨status, window, change, ?_⟩
  refine corruptedWindow_refused (.ofTables [] []) device (by decide +kernel) status
    [(good, .working 0)] [] (bad, .working 0) window chunk (by decide) 5 0x22 ?_
  rw [number]
  exact change

end BleFwUpdate
