import BleFwUpdate.Messages
import BleFwUpdate.Programs

/-! Where the bytes come from that a secure session programs. -/

namespace BleFwUpdate

open Transitions LittleEndian

def tagCheck (gcm : AesGcm) (packet : Packet) (device : Device) : Option (List UInt8) :=
  gcm.decrypt (nextIv device.iv device.randIv) (packet.slice 0 1) (packet.slice 1 15)
    (packet.slice 16 aesTagLen)

def Decrypts (packet : Packet) (device : Device) : Prop :=
  device.running = none ∧ device.connectionStatus = .recevingSecureFw ∧
    decrypted .secure packet = true

instance (packet : Packet) (device : Device) : Decidable (Decrypts packet device) :=
  inferInstanceAs (Decidable (_ ∧ _))

def authenticPayload (gcm : AesGcm) (entry : Device × Event) : Option (List UInt8) :=
  match entry with
  | (device, .receive packet _) =>
      if Decrypts packet device then
        (tagCheck gcm packet device).map fun plaintext =>
          plaintext.take (packet.numBytes.toNat - 4 - 1)
      else none
  | _ => none

def validPayload (gcm : AesGcm) (entry : Device × Event) : Option (List UInt8) :=
  match entry with
  | (device, .receive packet hardware) =>
      if device.running = none ∧ device.connectionStatus = .recevingRawFw then
        some (payload gcm hardware .raw packet device)
      else authenticPayload gcm entry
  | _ => none

/-- A piece of the string of some of the payloads of a history, in order. -/
def PieceOf (select : Device × Event → Option (List UInt8)) (log : List (Device × Event))
    (bytes : List UInt8) : Prop :=
  ∃ (payloads : List (List UInt8)) (skipped : Nat),
    payloads.Sublist (log.filterMap select) ∧ bytes = payloads.flatten.drop skipped

/-- In a window that has not been spoilt, a packet of the right type and number has a valid
tag, and no connection begins while such a window of a raw session has bytes staged. -/
def TagHolds (gcm : AesGcm) (device : Device) (event : Event) : Prop :=
  device.running = none → device.nextAck = true → match event with
    | .receive packet _ => device.connectionStatus = .recevingSecureFw →
        accepts .secure packet device = true → (tagCheck gcm packet device).isSome = true
    | .connect => device.connectionStatus = .recevingRawFw → device.staging.contBuff = 0xFFFF
    | .disconnect _ => True

instance (gcm : AesGcm) (device : Device) (event : Event) : Decidable (TagHolds gcm device event) :=
  match event with
  | .receive _ _ => inferInstanceAs (Decidable (_ → _ → _ → _ → _))
  | .connect => inferInstanceAs (Decidable (_ → _ → _ → _))
  | .disconnect _ => .isTrue fun _ _ => trivial

/-- What the buffer holds if its window has not been spoilt. At a multiple of both window
lengths a window ends in either mode. -/
structure Authentic (gcm : AesGcm) (log : List (Device × Event)) (device : Device) : Prop where
  small : device.staging.bytePos.toNat < 8
  source : device.running = none → device.nextAck = true →
    ∃ bytes, Staged bytes device.staging ∧ bytes.length ≤ 16 * (device.countPck.toNat % 80) ∧
      PieceOf (validPayload gcm) log bytes ∧
      (device.connectionStatus ≠ .recevingRawFw → PieceOf (authenticPayload gcm) log bytes)

section Pieces

variable {select : Device × Event → Option (List UInt8)} {log : List (Device × Event)}
  {bytes more : List UInt8}

theorem pieceOf_nil (select : Device × Event → Option (List UInt8)) (log : List (Device × Event)) :
    PieceOf select log [] := ⟨[], 0, List.nil_sublist _, rfl⟩

theorem PieceOf.concat (piece : PieceOf select log bytes) (entry : Device × Event) :
    PieceOf select (log ++ [entry]) bytes := by
  obtain ⟨payloads, skipped, sublist, same⟩ := piece
  refine ⟨payloads, skipped, ?_, same⟩
  rw [List.filterMap_append]
  exact sublist.trans (List.sublist_append_left ..)

theorem PieceOf.stage {entry : Device × Event} (piece : PieceOf select log bytes)
    (here : select entry = some more) (lost : Nat) :
    PieceOf select (log ++ [entry]) (bytes ++ more.drop (if bytes = [] then lost else 0)) := by
  obtain ⟨payloads, skipped, sublist, rfl⟩ := piece
  have added : (log ++ [entry]).filterMap select = log.filterMap select ++ [more] := by
    simp [List.filterMap_append, here]
  by_cases empty : payloads.flatten.drop skipped = []
  · refine ⟨[more], lost, ?_, by simp [empty]⟩
    rw [added]
    exact List.sublist_append_right ..
  · have inside : skipped ≤ payloads.flatten.length := by
      by_contra past
      exact empty (List.drop_eq_nil_of_le (by omega))
    refine ⟨payloads ++ [more], skipped, ?_, ?_⟩
    · rw [added]
      exact sublist.append_right _
    · rw [if_neg empty, List.drop_zero, List.flatten_append, List.flatten_singleton,
        List.drop_append_of_le_length inside]

end Pieces

section Steps

variable {gcm : AesGcm} {log : List (Device × Event)} {device : Device} {hardware : Hardware}
  {packet : Packet}

theorem payload_authentic (lawful : gcm.Lawful) (hardware : Hardware)
    (decrypts : Decrypts packet device)
    (valid : (tagCheck gcm packet device).isSome = true) :
    authenticPayload gcm (device, .receive packet hardware) =
      some (payload gcm hardware .secure packet device) := by
  obtain ⟨plaintext, check⟩ := Option.isSome_iff_exists.mp valid
  have length : plaintext.length = 15 := by
    simp only [tagCheck, AesGcm.decrypt] at check
    split at check
    · rw [← Option.some.inj check, lawful.length_ctr, Packet.length_slice]
    · contradiction
  have short := packet.numBytes_le
  have written := slice_write packet 1
    (show packet.numBytes.toNat - 4 - 1 ≤ plaintext.length by omega)
  simp only [authenticPayload, if_pos decrypts, check, Option.map_some, payload, decryptData]
  rw [show gcm.decrypt (nextIv device.iv device.randIv) (packet.slice 0 1) (packet.slice 1 15)
    (packet.slice 16 aesTagLen) = some plaintext from check, Option.getD_some, written]

theorem Authentic.intake (lawful : gcm.Lawful) (authentic : Authentic gcm log device)
    (holds : TagHolds gcm device (.receive packet hardware)) (booted : device.running = none)
    {mode : Mode} (status : device.connectionStatus = mode.status)
    (good : (device.nextAck && accepts mode packet device) = true) :
    ∃ bytes, Staged bytes (intake gcm hardware mode packet device).staging ∧
      bytes.length ≤ 16 * (device.countPck.toNat % 80 + 1) ∧
      PieceOf (validPayload gcm) (log ++ [(device, .receive packet hardware)]) bytes ∧
      (device.connectionStatus ≠ .recevingRawFw →
        PieceOf (authenticPayload gcm) (log ++ [(device, .receive packet hardware)]) bytes) := by
  rw [Bool.and_eq_true] at good
  obtain ⟨bytes, staged, length, valid, source⟩ := authentic.source booted good.1
  have more := length_payload_le gcm hardware mode packet device
  have most : mode.stored ≤ 16 := by cases mode <;> decide
  have added : validPayload gcm (device, .receive packet hardware) =
        some (payload gcm hardware mode packet device) ∧
      (device.connectionStatus ≠ .recevingRawFw →
        authenticPayload gcm (device, .receive packet hardware) =
          some (payload gcm hardware mode packet device)) := by
    cases mode with
    | raw =>
        refine ⟨?_, fun notRaw => (notRaw status).elim⟩
        rw [validPayload, if_pos ⟨booted, status⟩]
    | secure =>
        have verified : verifyDataType packet .writeSecureFlashPacket = true := by
          have parts := good.2
          simp only [accepts, Mode.dataType, Bool.and_eq_true] at parts
          exact parts.1
        have here := payload_authentic lawful hardware ⟨booted, status, verified⟩
          (holds booted good.1 status good.2)
        have notRaw : device.connectionStatus ≠ .recevingRawFw := by rw [status]; decide
        refine ⟨?_, fun _ => here⟩
        rw [validPayload, if_neg (by simp [notRaw]), here]
  refine ⟨_, ?_, ?_, valid.stage added.1 (skew device.staging),
    fun notRaw => (source notRaw).stage (added.2 notRaw) (skew device.staging)⟩
  · rw [intake_staging, storedBytes, if_pos good.2]
    exact stageBytes_staged _ staged (by omega)
  · rw [List.length_append, List.length_drop]
    omega

theorem authentic_of_empty {after : Device} (empty : after.staging.contBuff = 0xFFFF)
    (small : after.staging.bytePos.toNat < 8) : Authentic gcm log after :=
  ⟨small, fun _ _ => ⟨[], staged_nil empty small, Nat.zero_le _, pieceOf_nil ..,
    fun _ => pieceOf_nil ..⟩⟩

theorem Authentic.keep (authentic : Authentic gcm log device) (entry : Device × Event)
    {after : Device} (running : after.running = none → device.running = none)
    (receving : after.connectionStatus ≠ .recevingRawFw →
      device.connectionStatus ≠ .recevingRawFw)
    (nextAck : after.nextAck = device.nextAck) (countPck : after.countPck = device.countPck)
    (staging : after.staging = device.cleared.staging) : Authentic gcm (log ++ [entry]) after := by
  refine ⟨by rw [staging]; exact authentic.small, fun booted good => ?_⟩
  obtain ⟨bytes, staged, length, valid, source⟩ :=
    authentic.source (running booted) (by rw [← nextAck, good])
  exact ⟨bytes, by rw [staging]; exact staged.cleared, by rw [countPck]; exact length,
    valid.concat entry, fun notRaw => (source (receving notRaw)).concat entry⟩

theorem count_inside {mode : Mode} (isCounted : counted mode packet = true)
    (inside : closesWindow mode packet device = false) :
    (device.countPck + 1).toNat % 80 = device.countPck.toNat % 80 + 1 := by
  have going := mt (closesWindow_iff isCounted).mpr (by simpa using inside)
  rw [not_or] at going
  have noMultiple : (device.countPck + 1).toNat % 80 ≠ 0 := by
    intro multiple
    refine going.1 ?_
    cases mode <;>
      simp only [Mode.window, rawNumCumulativeAck, secureNumCumulativeAck, UInt16.reduceToNat] <;>
      omega
  have top := device.countPck.toNat_lt
  have noWrap : device.countPck.toNat + 1 < 2 ^ 16 := by
    by_contra wraps
    have last : device.countPck.toNat = 65535 := by omega
    simp [UInt16.toNat_add, last] at noMultiple
  rw [UInt16.toNat_add, UInt16.toNat_one, Nat.mod_eq_of_lt noWrap] at noMultiple ⊢
  omega

theorem authentic_step (lawful : gcm.Lawful) {event : Event} (authentic : Authentic gcm log device)
    (holds : TagHolds gcm device event) :
    Authentic gcm (log ++ [(device, event)]) (step gcm device event) := by
  induction event using step_cases gcm device with
  | running event running after =>
      rw [after]
      exact authentic.keep _ id id rfl rfl rfl
  | connect booted after =>
      rw [after]
      by_cases raw : device.connectionStatus = .recevingRawFw
      · refine ⟨authentic.small, fun _ good => ?_⟩
        exact ⟨[], staged_nil (holds booted good raw) authentic.small, Nat.zero_le _,
          pieceOf_nil .., fun _ => pieceOf_nil ..⟩
      · exact authentic.keep _ id (fun _ => raw) rfl rfl rfl
  | jump hardware booted complete after =>
      rw [after]
      exact ⟨authentic.small, by simp⟩
  | stay hardware booted incomplete after =>
      rw [after]
      exact authentic_of_empty rfl authentic.small
  | ignored packet hardware booted status after =>
      rw [after]
      exact authentic.keep _ id id rfl rfl rfl
  | connected packet hardware booted status after =>
      obtain ⟨_, _, _, _, _, _, _, _, _, shape⟩ :=
        handleConnected_shape gcm hardware packet device.cleared status
      rw [after, shape]
      exact authentic.keep _ id (fun _ => by rw [status]; decide) rfl rfl rfl
  | repeats mode packet hardware booted status notCounted after =>
      rw [after]
      cases mode <;> exact authentic.keep _ id id rfl rfl rfl
  | inside mode packet hardware booted status isCounted isInside after =>
      rw [after]
      refine ⟨stageBytes_small _ authentic.small, fun _ good => ?_⟩
      obtain ⟨bytes, staged, length, valid, source⟩ :=
        authentic.intake lawful holds booted status (by simpa using good)
      obtain ⟨touched, effects, shape⟩ := intake_cleared gcm hardware mode packet device
      refine ⟨bytes, ?_, ?_, valid, source⟩
      · rw [shape]
        exact ⟨staged.count, staged.words, staged.position, staged.small⟩
      · rw [intake_countPck, cleared_countPck, count_inside isCounted isInside]
        exact length
  | closes mode packet hardware booted status isClosing after =>
      rw [after]
      refine authentic_of_empty (by simp) ?_
      rw [closeWindow_staging]
      exact stageBytes_small _ (show device.cleared.staging.bytePos.toNat < 8 from authentic.small)

theorem Authentic.programs (lawful : gcm.Lawful) (authentic : Authentic gcm log device)
    {event : Event} (holds : TagHolds gcm device event) {address : UInt32} {data : UInt64}
    {ok : Bool} (member : .program address data ok ∈ (step gcm device event).effects) :
    ∃ bytes index, index < wordCount bytes ∧ data = wordAt bytes index ∧
      PieceOf (validPayload gcm) (log ++ [(device, event)]) bytes ∧
      (device.connectionStatus = .recevingSecureFw →
        PieceOf (authenticPayload gcm) (log ++ [(device, event)]) bytes) := by
  induction event using step_cases gcm device with
  | running event running after => simp [after] at member
  | connect booted after => simp [after] at member
  | jump hardware booted complete after => simp [after] at member
  | stay hardware booted incomplete after => simp [after] at member
  | ignored packet hardware booted idle after => simp [after] at member
  | connected packet hardware booted connected after =>
      rw [← mem_programs, after, programs_connected] at member
      contradiction
  | repeats mode packet hardware booted status notCounted after =>
      rw [← mem_programs, after, programs_repeats] at member
      contradiction
  | inside mode packet hardware booted status isCounted isInside after =>
      rw [← mem_programs, after, programs_inside] at member
      contradiction
  | closes mode packet hardware booted status isClosing after =>
      rw [← mem_programs, after, programs_closes, windowEffects, intake_nextAck] at member
      split at member
      · rename_i good
        obtain ⟨bytes, staged, length, valid, source⟩ :=
          authentic.intake lawful holds booted status good
        simp only [writeEffects] at member
        split at member
        · obtain ⟨offset, inside, _, same⟩ := mem_programEffects.mp member
          injection same with _ sameData
          have below : offset < wordCount bytes := by
            rw [← staged.count]
            rw [UInt16.toNat_toUInt8] at inside
            exact Nat.lt_of_lt_of_le inside (Nat.mod_le ..)
          exact ⟨bytes, offset, below, by rw [sameData, staged.words offset below], valid,
            fun secure => source (by rw [secure]; decide)⟩
        · contradiction
      · contradiction

end Steps

def FailsTag (gcm : AesGcm) (device : Device) (event : Event) : Prop :=
  match event with
  | .receive packet _ => Decrypts packet device ∧ tagCheck gcm packet device = none
  | _ => False

/-- The effects of an event that is answered with a NAK, with nothing programmed. -/
def AnsweredNak (effects : List Effect) : Prop :=
  ∃ front bytes, effects = front ++ [.response bytes] ∧ bytes.head? = some nakCmd ∧
    ∀ effect ∈ front, (∀ other, effect ≠ .response other) ∧
      ∀ address data ok, effect ≠ .program address data ok

/-- The secure window that is open where the history begins is answered with a NAK, unless
the connection ends or begins anew before. -/
def Refused (gcm : AesGcm) : List (Device × Event) → Prop
  | (device, .receive packet hardware) :: rest =>
      if closesWindow .secure packet device then
        AnsweredNak (step gcm device (.receive packet hardware)).effects
      else Refused gcm rest
  | _ => True

section Spoilt

variable {gcm : AesGcm} {device : Device} {hardware : Hardware} {packet : Packet}

theorem answeredNak_closes (booted : device.running = none)
    (status : device.connectionStatus = .recevingSecureFw)
    (closes : closesWindow .secure packet device = true)
    (bad : (device.nextAck && accepts .secure packet device) = false) :
    AnsweredNak (step gcm device (.receive packet hardware)).effects := by
  rw [@step_counted gcm hardware .secure packet device booted status (counted_of_closes closes),
    if_pos closes, closes_secure_effects]
  have silent : windowEffects hardware (intake gcm hardware .secure packet device) = [] := by
    rw [windowEffects, intake_nextAck, bad]
    rfl
  rw [silent, bad]
  refine ⟨_, _, rfl, rfl, fun effect member => ?_⟩
  rcases mem_beforeAnswer gcm hardware packet device member with
    ⟨_, _, _, _, _, rfl⟩ | ⟨_, _, _, rfl⟩ <;> simp

theorem spoilt_inside (booted : device.running = none)
    (status : device.connectionStatus = .recevingSecureFw)
    (inside : closesWindow .secure packet device = false)
    (bad : device.nextAck = false ∨
      (counted .secure packet = true ∧ accepts .secure packet device = false)) :
    (step gcm device (.receive packet hardware)).running = none ∧
      (step gcm device (.receive packet hardware)).connectionStatus = .recevingSecureFw ∧
      (step gcm device (.receive packet hardware)).nextAck = false := by
  cases isCounted : counted .secure packet with
  | true =>
      rw [@step_counted gcm hardware .secure packet device booted status isCounted, inside]
      refine ⟨booted, status, ?_⟩
      rcases bad with spoilt | ⟨_, notAccepted⟩
      · simp [spoilt]
      · simp [notAccepted]
  | false =>
      rw [@step_uncounted gcm hardware .secure packet device booted status isCounted]
      have spoilt := bad.resolve_right (by simp [isCounted])
      exact ⟨booted, status, spoilt⟩

theorem refused_spoilt (events : List Event) (booted : device.running = none)
    (status : device.connectionStatus = .recevingSecureFw) (spoilt : device.nextAck = false) :
    Refused gcm (history (step gcm) device events) := by
  induction events generalizing device with
  | nil => trivial
  | cons event rest ih =>
      cases event with
      | receive packet hardware =>
          rw [history, Refused]
          split
          · rename_i closes
            exact answeredNak_closes booted status closes (by simp [spoilt])
          · rename_i inside
            obtain ⟨booted, status, spoilt⟩ :=
              @spoilt_inside gcm device hardware packet booted status (by simpa using inside)
                (.inl spoilt)
            exact ih booted status spoilt
      | _ => trivial

theorem refused_failsTag {event : Event} (holds : TagHolds gcm device event)
    (fails : FailsTag gcm device event) (later : List Event) :
    Refused gcm (history (step gcm) device (event :: later)) := by
  cases event with
  | receive packet hardware =>
      obtain ⟨⟨booted, status, verified⟩, invalid⟩ := fails
      have isCounted : counted .secure packet = true := by
        rw [counted, Bool.or_eq_true]
        exact .inl verified
      have bad : (device.nextAck && accepts .secure packet device) = false := by
        by_contra good
        rw [Bool.not_eq_false, Bool.and_eq_true] at good
        have valid := holds booted good.1 status good.2
        rw [invalid] at valid
        contradiction
      rw [history, Refused]
      split
      · rename_i closes
        exact answeredNak_closes booted status closes bad
      · rename_i inside
        rw [Bool.and_eq_false_iff] at bad
        obtain ⟨booted, status, spoilt⟩ :=
          @spoilt_inside gcm device hardware packet booted status (by simpa using inside)
            (bad.imp_right fun notAccepted => ⟨isCounted, notAccepted⟩)
        exact refused_spoilt later booted status spoilt
  | _ => exact fails.elim

end Spoilt

theorem authentic_run {gcm : AesGcm} (lawful : gcm.Lawful) (flash : UInt32 → UInt64)
    {events : List Event} (holds : Along (step gcm) (TagHolds gcm) (powerOn flash) events) :
    Authentic gcm (history (step gcm) (powerOn flash) events) (run gcm flash events) := by
  have initial : Authentic gcm [] (powerOn flash) :=
    authentic_of_empty rfl (fresh_powerOn flash).small
  exact holds.invariant_history
    (fun log device event authentic holds => authentic_step lawful authentic holds) initial

/-- In a run in which no packet with an invalid tag is taken, whatever a secure session
programs is authentic, and a window with such a packet is answered with a NAK. -/
theorem run_authentic (gcm : AesGcm) (lawful : gcm.Lawful) (flash : UInt32 → UInt64)
    (events : List Event) (holds : Along (step gcm) (TagHolds gcm) (powerOn flash) events)
    (first : List Event) (event : Event) (second : List Event)
    (split : events = first ++ event :: second) :
    let device := run gcm flash first
    let log := history (step gcm) (powerOn flash) (first ++ [event])
    (∀ address data ok, .program address data ok ∈ (step gcm device event).effects →
      ∃ bytes index, index < wordCount bytes ∧ data = wordAt bytes index ∧
        PieceOf (validPayload gcm) log bytes ∧
        (device.connectionStatus = .recevingSecureFw → PieceOf (authenticPayload gcm) log bytes)) ∧
    (FailsTag gcm device event → Refused gcm (history (step gcm) device (event :: second))) := by
  rw [split, along_append, along_cons] at holds
  obtain ⟨before, now, -⟩ := holds
  refine ⟨fun address data ok member => ?_, fun fails => refused_failsTag now fails second⟩
  rw [history_concat]
  exact (authentic_run lawful flash before).programs lawful now member

/-- The last of the seventeen packets has neither the right number nor a valid tag. -/
theorem run_authentic_two_windows :
    let closes : Event := .receive (sealedPacket 15) (.working 0)
    let forged : Packet := .ofBytes (0xc1 :: (List.replicate 15 0xaa ++ [0, 0, 0, 0])) (by decide)
    let before := run .longSample (fun _ => 0) (sealedSession 15)
    let after := run .longSample (fun _ => 0) (sealedSession 16)
    let log := history (step .longSample) (powerOn fun _ => 0) (sealedSession 16)
    (programs (step .longSample before closes).effects).length = 30 ∧
      (∀ address data ok, .program address data ok ∈ (step .longSample before closes).effects →
        ∃ bytes index, index < wordCount bytes ∧ data = wordAt bytes index ∧
          PieceOf (authenticPayload .longSample) log bytes) ∧
      FailsTag .longSample after (.receive forged (.working 0)) ∧
      Refused .longSample
        (history (step .longSample) after [.receive forged (.working 0)]) := by
  intro closes forged before after log
  have held : Along (step .longSample) (TagHolds .longSample) (powerOn fun _ => 0)
      (sealedSession 15 ++ [closes, .receive forged (.working 0)]) := by
    decide +kernel
  have whole : sealedSession 16 = sealedSession 15 ++ [closes] := sealedSession_succ 15
  have split : sealedSession 15 ++ [closes, .receive forged (.working 0)] =
      sealedSession 16 ++ .receive forged (.working 0) :: [] := by
    rw [whole, List.append_assoc]
    rfl
  have fails : FailsTag .longSample after (.receive forged (.working 0)) :=
    ⟨by decide +kernel, by decide +kernel⟩
  refine ⟨by decide +kernel, fun address data ok member => ?_, fails, ?_⟩
  · obtain ⟨bytes, index, inside, same, _, authentic⟩ :=
      (run_authentic .longSample (AesGcm.lawful_ofTables _ _) (fun _ => 0) _ held
        (sealedSession 15) closes _ rfl).1 address data ok member
    rw [← whole] at authentic
    exact ⟨bytes, index, inside, same, authentic (by decide +kernel)⟩
  · exact (run_authentic .longSample (AesGcm.lawful_ofTables _ _) (fun _ => 0) _ held
      (sealedSession 16) (.receive forged (.working 0)) [] split).2 fails

/-- The packet has the right type and number but a wrong tag. What `decrypt_data` leaves in
its place is programmed, and the window is answered with an ACK. -/
theorem forged_packet_programmed :
    let start := Packet.ofBytes [0xbc, 1, 0, 1, 1] (by decide)
    let forged := Packet.ofBytes (0xc0 :: (List.replicate 15 0xaa ++ [0, 0, 0, 0])) (by decide)
    let device := run .sample (fun _ => 0) [.connect, .receive start (.working 0x1234)]
    let hardware := { Hardware.working 0 with rejected := List.replicate 15 0x41 }
    let after := step .sample device (.receive forged hardware)
    let log := history (step .sample) (powerOn fun _ => 0)
      [.connect, .receive start (.working 0x1234), .receive forged hardware]
    FailsTag .sample device (.receive forged hardware) ∧
      .program 0x08040000 0x4141414141414141 true ∈ after.effects ∧
      (∃ bytes, .response bytes ∈ after.effects ∧ bytes.head? = some ackCmd) ∧
      ¬ ∃ bytes index, index < wordCount bytes ∧ 0x4141414141414141 = wordAt bytes index ∧
        PieceOf (authenticPayload .sample) log bytes := by
  intro start forged device hardware after log
  have none : log.filterMap (authenticPayload .sample) = [] := by decide +kernel
  refine ⟨⟨by decide +kernel, by decide +kernel⟩, by decide +kernel, ?_, ?_⟩
  · exact ⟨[0x00, 0x46, 0x9c, 0x93, 0xa9, 0xcd, 0x3b, 0xce, 0xb5, 0x8f], by decide +kernel, rfl⟩
  · rintro ⟨bytes, index, inside, -, payloads, skipped, sublist, rfl⟩
    rw [none] at sublist
    rw [List.sublist_nil.mp sublist] at inside
    simp [wordCount] at inside

end BleFwUpdate
