import BleFwUpdate.Delivery
import BleFwUpdate.Requests
import BleFwUpdate.System

/-! From the device back to the central: every response becomes one command to the radio, and
they go out in the order in which the device gave them. -/

namespace BleFwUpdate

open Faults

def setsValue (command : List UInt8) : Bool :=
  let opcode := cmdOpcodePack ogfVendorCmd ocfGattUpdCharVal
  command.take 3 == [hciCommandPkt, opcode.toUInt8, (opcode >>> 8).toUInt8]

def Handles.command (handles : Handles) (bytes : List UInt8) : List UInt8 :=
  [hciCommandPkt, 0x06, 0xfd, UInt8.ofNat (bytes.length + 6)] ++
    htobs handles.chatServiceHandle ++ htobs handles.txCharHandle ++
    [0, UInt8.ofNat bytes.length] ++ bytes

theorem sendCmd_updateTxChar (handles : Handles) {bytes : List UInt8}
    (fits : bytes.length + 6 ≤ hciMaxPayloadSize) :
    (handles.updateTxChar bytes).map sendCmd = [handles.command bytes] := by
  have length : (htobs handles.chatServiceHandle ++ htobs handles.txCharHandle ++
      [0, UInt8.ofNat bytes.length] ++ bytes).length = bytes.length + 6 := by
    simp only [htobs, List.length_append, List.length_cons, List.length_nil]
    omega
  have count : (UInt8.ofNat (bytes.length + 6)).toNat = bytes.length + 6 := by
    rw [UInt8.toNat_ofNat']
    rw [hciMaxPayloadSize] at fits
    exact Nat.mod_eq_of_lt (by omega)
  rw [Handles.updateTxChar, aciGattUpdateCharValue, if_neg (by omega), List.map_singleton, sendCmd]
  dsimp only
  rw [length, count, List.take_of_length_le (by rw [length])]
  rfl

theorem setsValue_command (handles : Handles) (bytes : List UInt8) :
    setsValue (handles.command bytes) = true := rfl

theorem enableAdvertising_setsNone :
    (enableAdvertising.map sendCmd).filter setsValue = [] := by decide

/-- The longest response is the secure one. -/
def responseLen : Nat := 10

section Lengths

variable {gcm : AesGcm}

theorem length_secureResponse (lawful : gcm.Lawful) (iv : Iv) (ack : Bool) (count : UInt16)
    (randIv : Vector UInt8 3) : (secureResponse gcm iv ack count randIv).length = responseLen := by
  simp [secureResponse, AesGcm.encrypt, lawful.length_ctr, lawful.length_mac, responsePlaintext,
    responseLen]

theorem short_sendAck (lawful : gcm.Lawful) (hardware : Hardware) (ack : Bool)
    (replyType : PckType) {device : Device}
    (short : ∀ bytes ∈ responses device.effects, bytes.length ≤ responseLen) :
    ∀ bytes ∈ responses (sendAck gcm hardware ack replyType device).effects,
      bytes.length ≤ responseLen := by
  have raw : (sendAck gcm hardware ack .writeFlashPacketResponse device).effects =
      device.effects ++ [.response (rawResponse hardware ack device.countPck)] := rfl
  intro bytes member
  cases replyType with
  | writeFlashPacketResponse =>
      rw [raw, responses_append, List.mem_append] at member
      rcases member with member | member
      · exact short bytes member
      · obtain rfl : bytes = rawResponse hardware ack device.countPck := by
          simpa [responses] using member
        simp [rawResponse, responseLen]
  | writeSecureFlashPacketResponse =>
      rw [sendAck_secure, responses_append, List.mem_append] at member
      rcases member with member | member
      · exact short bytes member
      · obtain rfl : bytes = secureResponse gcm device.iv ack device.countPck
            (getRandBytes device.reg).1 := by
          simpa [responses] using member
        exact Nat.le_of_eq (length_secureResponse lawful _ _ _ _)
  | _ => exact short bytes member

theorem short_closeWindow (lawful : gcm.Lawful) (hardware : Hardware) (mode : Mode)
    {device : Device} (silent : responses device.effects = []) :
    ∀ bytes ∈ responses (closeWindow gcm hardware mode device).effects,
      bytes.length ≤ responseLen := by
  intro bytes member
  cases mode with
  | raw =>
      rw [closeWindow_raw_effects, responses_append, responses_append, responses_windowEffects,
        silent] at member
      obtain rfl : bytes = rawResponse hardware (windowAccepted hardware device)
          (closeWindow gcm hardware .raw device).countPck := by
        simpa [responses] using member
      simp [rawResponse, responseLen]
  | secure =>
      rw [closeWindow_secure_effects, responses_append, responses_append,
        responses_windowEffects, silent] at member
      obtain rfl : bytes = secureResponse gcm device.iv device.nextAck device.countPck
          (getRandBytes device.reg).1 := by
        simpa [responses] using member
      exact Nat.le_of_eq (length_secureResponse lawful _ _ _ _)

theorem short_handleConnected (lawful : gcm.Lawful) (hardware : Hardware) (packet : Packet)
    {device : Device} (silent : responses device.effects = []) :
    ∀ bytes ∈ responses (handleConnected gcm hardware packet device).effects,
      bytes.length ≤ responseLen := by
  have none : ∀ bytes ∈ responses device.effects, bytes.length ≤ responseLen := by simp [silent]
  rw [handleConnected_eq]
  cases startMode packet with
  | none => exact short_sendAck lawful hardware false _ none
  | some mode =>
      have prepared : ∀ bytes ∈ responses (startPrepared hardware mode packet device).effects,
          bytes.length ≤ responseLen := by
        rw [startPrepared, responses_append, silent]
        simp [responses]
      dsimp only
      split
      · exact short_sendAck lawful hardware true mode.replyType prepared
      · exact short_sendAck lawful hardware false _ prepared

theorem responses_intake (hardware : Hardware) (mode : Mode) (packet : Packet) (device : Device) :
    responses (intake gcm hardware mode packet device.cleared).effects = [] := by
  rw [intake_effects]
  cases decrypted mode packet <;> rfl

theorem short_step (lawful : gcm.Lawful) (device : Device) (event : Event) :
    ∀ bytes ∈ responses (step gcm device event).effects, bytes.length ≤ responseLen := by
  have none : ∀ effects, responses effects = [] →
      ∀ bytes ∈ responses effects, bytes.length ≤ responseLen := by
    intro effects silent
    simp [silent]
  induction event using step_cases gcm device with
  | running event _ shape => exact none _ (by rw [shape]; rfl)
  | connect _ shape => exact none _ (by rw [shape]; rfl)
  | jump hardware _ _ shape => exact none _ (by rw [shape]; rfl)
  | stay hardware _ _ shape => exact none _ (by rw [shape]; rfl)
  | ignored packet hardware _ _ shape => exact none _ (by rw [shape]; rfl)
  | connected packet hardware _ _ shape =>
      rw [shape]
      exact short_handleConnected lawful hardware packet rfl
  | repeats mode packet hardware _ _ _ shape =>
      rw [shape]
      exact short_sendAck lawful hardware device.oldAck mode.replyType (none _ rfl)
  | inside mode packet hardware _ _ _ _ shape =>
      exact none _ (by rw [shape]; exact responses_intake hardware mode packet device)
  | closes mode packet hardware _ _ _ shape =>
      rw [shape]
      exact short_closeWindow lawful hardware mode (responses_intake hardware mode packet device)

theorem responses_jump {device : Device} (booted : device.running = none) {event : Event}
    (running : (step gcm device event).running ≠ none) :
    responses (step gcm device event).effects = [] := by
  have stays : ∀ packet hardware, device.connectionStatus ≠ .connected →
      (step gcm device (.receive packet hardware)).running = none := by
    intro packet hardware begun
    rw [(receive_frame gcm packet hardware begun).2.1, booted]
  induction event using step_cases gcm device with
  | running event gone _ => exact absurd booted gone
  | connect _ shape => rw [shape]; rfl
  | jump hardware _ _ shape => rw [shape]; rfl
  | stay hardware _ _ shape => rw [shape]; rfl
  | ignored packet hardware _ _ shape => rw [shape]; rfl
  | connected packet hardware _ status shape =>
      rw [shape] at running
      obtain ⟨_, _, _, _, _, _, _, _, _, kept⟩ :=
        handleConnected_shape gcm hardware packet device.cleared status
      rw [kept] at running
      exact absurd booted running
  | repeats mode packet hardware _ status _ _ =>
      exact absurd (stays packet hardware (by rw [status]; cases mode <;> simp [Mode.status])) running
  | inside mode packet hardware _ status _ _ _ =>
      exact absurd (stays packet hardware (by rw [status]; cases mode <;> simp [Mode.status])) running
  | closes mode packet hardware _ status _ _ =>
      exact absurd (stays packet hardware (by rw [status]; cases mode <;> simp [Mode.status])) running

end Lengths

/-- The commands that were to be sent, those that set a value: first those of the initialisation,
then one for each response. -/
def Answers (handles : Handles) (initialisation : Initialisation) (transport : Transport Program) :
    Prop :=
  (transport.calls.requested.map sendCmd).filter setsValue =
    (initialisation.requests.map sendCmd).filter setsValue ++
      (responses transport.app.effects).map handles.command

theorem commands_of_responses (handles : Handles) {given : List (List UInt8)}
    (short : ∀ bytes ∈ given, bytes.length ≤ responseLen) :
    ((given.flatMap handles.updateTxChar).map sendCmd).filter setsValue =
      given.map handles.command := by
  induction given with
  | nil => rfl
  | cons bytes rest ih =>
      have fits : bytes.length + 6 ≤ hciMaxPayloadSize := by
        have bound := short bytes (by simp)
        rw [responseLen] at bound
        rw [hciMaxPayloadSize]
        omega
      rw [List.flatMap_cons, List.map_append, List.filter_append, sendCmd_updateTxChar handles fits,
        ih fun other member => short other (List.mem_cons_of_mem _ member), List.filter_singleton,
        setsValue_command, List.map_cons]
      rfl

section Runs

variable {gcm : AesGcm} {handles : Handles} {initialisation : Initialisation}
  {flash : UInt32 → UInt64} {transport next : Transport Program}

theorem callback_answers {surroundings : Surroundings} {index : PacketIndex}
    (lawful : gcm.Lawful) (booted : transport.app.device.running = none)
    (holds : Answers handles initialisation transport) :
    Answers handles initialisation
      (transport.callback (updateFirmware gcm handles initialisation) surroundings index) := by
  have requested := callback_requested (updateFirmware gcm handles initialisation) surroundings index
    transport
  have app := callback_app (updateFirmware gcm handles initialisation) surroundings index transport
  have handled := hciEventCb_device gcm handles surroundings (transport.packets index)
    { transport.app with device := transport.app.device.cleared }
  generalize handles.event surroundings (transport.packets index) = event at handled
  generalize called : hciEventCb gcm handles surroundings (transport.packets index)
    { transport.app with device := transport.app.device.cleared } = result at handled
  have user : (updateFirmware gcm handles initialisation).userEvtRx surroundings
      (transport.packets index) transport.app =
        ({ result.1 with effects := transport.app.effects ++ result.1.device.effects },
          (responses result.1.device.effects).flatMap handles.updateTxChar, result.2) := by
    rw [← called]
    rfl
  have facts : (∀ bytes ∈ responses result.1.device.effects, bytes.length ≤ responseLen) ∧
      (result.1.device.running ≠ none → responses result.1.device.effects = []) := by
    rw [handled]
    cases event with
    | none => exact ⟨fun bytes member => absurd member (by simp [handleIf, responses]), fun _ => rfl⟩
    | some event =>
        have stepped : handleIf gcm transport.app.device.cleared (some event) =
            step gcm transport.app.device event := by
          rw [step, booted]
          rfl
        dsimp only
        rw [stepped]
        exact ⟨short_step lawful transport.app.device event, responses_jump booted⟩
  obtain ⟨short, silent⟩ := facts
  rw [Answers] at holds ⊢
  rw [requested, app, user, List.map_append, List.filter_append, holds, responses_append,
    List.map_append, List.append_assoc]
  congr 2
  split
  next gone =>
    rw [silent (Option.isSome_iff_ne_none.mp gone)]
    rfl
  next => exact commands_of_responses handles short

theorem AppStep.answers (lawful : gcm.Lawful) (follows : Follows gcm handles flash transport)
    (holds : Answers handles initialisation transport)
    {input : Input Surroundings}
    (change : AppStep (updateFirmware gcm handles initialisation) input transport next) :
    Answers handles initialisation next := by
  cases change with
  | keeps app handed requested gone =>
      rw [Answers, app, requested]
      exact holds
  | advertises app handed requested here =>
      have none : ((updateFirmware gcm handles initialisation).advertisingRequests.map
          sendCmd).filter setsValue = [] := enableAdvertising_setsNone
      rw [Answers, app, requested, List.map_append, List.filter_append, none, List.append_nil]
      exact holds
  | advertised app handed requested gone =>
      rw [Answers, app, requested]
      exact holds
  | calls elapsed surroundings index run here called =>
      rw [called]
      exact callback_answers lawful (follows.booted (by simp [here])) holds

theorem run_answers (lawful : gcm.Lawful) {packets : PacketIndex → HciDataPacket}
    {inputs : List (Input Surroundings)} {config : Transport Program × Lists}
    (runs : runFrom (listStep (updateFirmware gcm handles initialisation))
      (Transport.initial (updateFirmware gcm handles initialisation) packets (.initial flash),
        Lists.initial) inputs = some config) :
    config.1.calls.commands.filter setsValue ++
        (config.1.control.remaining.map sendCmd).filter setsValue =
      (initialisation.requests.map sendCmd).filter setsValue ++
        (responses config.1.app.effects).map handles.command := by
  have commands := (run_tallied (initial_tallied (updateFirmware gcm handles initialisation)
    packets (.initial flash)) runs).commands
  have keeps : ∀ config input next,
      (Follows gcm handles flash config.1 ∧ Answers handles initialisation config.1) →
      listStep (updateFirmware gcm handles initialisation) config input = some next →
      Follows gcm handles flash next.1 ∧ Answers handles initialisation next.1 := by
    rintro config input next ⟨follows, answers⟩ done
    have change := step_app.holds done
    exact ⟨change.follows follows, change.answers lawful follows answers⟩
  have final := run_invariant keeps runs
    ⟨initial_follows initialisation packets, (List.append_nil _).symm⟩
  rw [← List.filter_append, commands]
  exact final.2

/-- In every interleaving, the commands that set a value, those handed to the radio and those still
to be sent, are those of the initialisation and then one for each response of the device, with its
bytes and in the order in which it gave them. -/
theorem responses_in_order (gcm : AesGcm) (lawful : gcm.Lawful) (handles : Handles)
    (initialisation : Initialisation) (flash : UInt32 → UInt64)
    (packets : PacketIndex → HciDataPacket) (inputs : List (Input Surroundings)) :
    ∃ transport lists,
      runFrom (listStep (updateFirmware gcm handles initialisation))
        (Transport.initial (updateFirmware gcm handles initialisation) packets (.initial flash),
          Lists.initial) inputs = some (transport, lists) ∧
      transport.calls.commands.filter setsValue ++
          (transport.control.remaining.map sendCmd).filter setsValue =
        (initialisation.requests.map sendCmd).filter setsValue ++
          (responses transport.app.effects).map handles.command := by
  obtain ⟨⟨transport, lists⟩, runs, -⟩ :=
    run_safe (step_inPlace (updateFirmware gcm handles initialisation))
      (initial_inPlace (updateFirmware gcm handles initialisation) packets (.initial flash)) inputs
  exact ⟨transport, lists, runs, run_answers lawful runs⟩

theorem responses_in_order_start :
    ∃ transport lists,
      runFrom (listStep sampleFirmware) sampleStart sampleInputs = some (transport, lists) ∧
      transport.calls.commands.filter setsValue ++
          (transport.control.remaining.map sendCmd).filter setsValue =
        (sampleInitialisation.requests.map sendCmd).filter setsValue ++
          (responses transport.app.effects).map sampleHandles.command :=
  responses_in_order .sample (AesGcm.lawful_ofTables _ _) sampleHandles sampleInitialisation
    (fun _ => 0) blankPackets sampleInputs

end Runs

end BleFwUpdate
