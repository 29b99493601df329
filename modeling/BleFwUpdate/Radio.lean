import BleFwUpdate.System

/-! The events of the radio, laid out as the headers of the BlueNRG say, and what the firmware
update makes of them. -/

namespace BleFwUpdate

open Faults

/-- What the radio reports. The fields that the program does not read have no names. -/
inductive RadioEvent
  | connectionComplete (fields : List UInt8)
  | disconnectionComplete (fields : List UInt8)
  | attributeModified (connHandle attrHandle offset : UInt16) (data : List UInt8)
  | other (evt : UInt8) (params : List UInt8)
  deriving DecidableEq, Repr

def eventPacket (evt : UInt8) (params : List UInt8) : List UInt8 :=
  [hciEventPkt, evt, UInt8.ofNat params.length] ++ params

def RadioEvent.bytes : RadioEvent → List UInt8
  | .connectionComplete fields => eventPacket evtLeMetaEvent (evtLeConnComplete :: fields)
  | .disconnectionComplete fields => eventPacket evtDisconnComplete fields
  | .attributeModified connHandle attrHandle offset data =>
      eventPacket evtVendor (htobs evtBlueGattAttributeModified ++ htobs connHandle ++
        htobs attrHandle ++ [UInt8.ofNat data.length] ++ htobs offset ++ data)
  | .other evt params => eventPacket evt params

/-- An event fits a packet, no value is longer than the characteristic, and the other events are
none of those with a name. -/
def RadioEvent.Valid : RadioEvent → Prop
  | .connectionComplete fields => fields.length ≤ 124
  | .disconnectionComplete fields => fields.length ≤ 125
  | .attributeModified _ _ _ data => data.length ≤ chatDataLen.toNat
  | .other evt params => params.length ≤ 125 ∧ evt ≠ evtDisconnComplete ∧
      (evt = evtLeMetaEvent → ∃ subevent rest, params = subevent :: rest ∧
        subevent ≠ evtLeConnComplete) ∧
      (evt = evtVendor → ∃ ecode rest, params = htobs ecode ++ rest ∧
        ecode ≠ evtBlueGattAttributeModified ∧ ecode ≠ evtBlueGattNotification)

/-- The packet `data_handler` is called with holds the value that was written. -/
def Packet.Holds (packet : Packet) (data : List UInt8) : Prop :=
  packet.slice 0 packet.numBytes.toNat = data

def RadioEvent.Means (handles : Handles) : RadioEvent → Option Event → Prop
  | .connectionComplete _, outcome => outcome = some .connect
  | .disconnectionComplete _, outcome => ∃ hardware, outcome = some (.disconnect hardware)
  | .attributeModified _ attrHandle _ data, outcome =>
      if attrHandle.toNat = handles.rxCharHandle.toNat + 1 then
        ∃ packet hardware, outcome = some (.receive packet hardware) ∧ packet.Holds data
      else outcome = none
  | .other _ _, outcome => outcome = none

theorem littleEndian_htobs (number : UInt16) :
    (lowByte number).toUInt16 + ((highByte number).toUInt16 <<< 8) = number := by
  apply UInt16.toNat_inj.mp
  have bound := number.toNat_lt
  simp [lowByte, highByte, Nat.shiftLeft_eq, Nat.shiftRight_eq_div_pow]
  omega

section Layout

variable {packet : HciDataPacket} {evt : UInt8} {params : List UInt8}

theorem dataBuff_header (holds : packet.event = eventPacket evt params) :
    packet.type = hciEventPkt ∧ packet.evt = evt := by
  constructor
  · exact dataBuff_eq (by decide) (by rw [holds]; rfl)
  · exact dataBuff_eq (by decide) (by rw [holds]; rfl)

theorem dataBuff_params (holds : packet.event = eventPacket evt params) {index : Nat}
    {byte : UInt8} (inside : index + 3 < hciReadPacketSize) (found : params[index]? = some byte) :
    packet.dataBuff[index + 3] = byte := by
  refine dataBuff_eq inside ?_
  rw [holds]
  exact found

theorem halfword_params (holds : packet.event = eventPacket evt params) {index : Nat}
    {number : UInt16} (inside : index + 3 + 1 < hciReadPacketSize)
    (low : params[index]? = some (lowByte number))
    (high : params[index + 1]? = some (highByte number)) :
    packet.halfword (index + 3) inside = number := by
  have first := dataBuff_params holds (by omega) low
  have second := dataBuff_params holds (by omega) high
  rw [HciDataPacket.halfword, first]
  have later : packet.dataBuff[index + 3 + 1] = highByte number := second
  rw [later, littleEndian_htobs]

theorem payload_holds (holds : packet.event = eventPacket evt params) (around : Int → UInt8)
    {start : Nat} {front data : List UInt8} (parts : params = front ++ data)
    (start_eq : start = front.length + 3) (fits : start + data.length ≤ hciReadPacketSize)
    {numBytes : UInt8} (short : numBytes ≤ chatDataLen) (length : numBytes.toNat = data.length) :
    (packet.payload around start numBytes short).Holds data := by
  rw [Packet.Holds, Packet.slice]
  apply List.ext_getElem
  · rw [List.length_map, List.length_range']
    exact length
  · intro position first second
    have found : params[front.length + position]? = some data[position] := by
      rw [parts, List.getElem?_append_right (Nat.le_add_right _ _), Nat.add_sub_cancel_left,
        List.getElem?_eq_getElem second]
    have byte := dataBuff_params holds (by omega) found
    have inside : (0 : Int) ≤ start + position ∧ (start + position : Int) < hciReadPacketSize := by
      omega
    have place : ((start : Int) + (position : Int)).toNat = front.length + position + 3 := by omega
    rw [List.getElem_map, List.getElem_range']
    simp only [Nat.zero_add, Nat.one_mul, HciDataPacket.payload]
    rw [if_pos inside, place, List.getD_eq_getElem?_getD, List.getElem?_eq_getElem (by simp; omega),
      Vector.getElem_toList, byte, Option.getD_some]

end Layout

section Meaning

variable {handles : Handles} {surroundings : Surroundings} {packet : HciDataPacket}

theorem means_connectionComplete {fields : List UInt8}
    (holds : packet.event = (RadioEvent.connectionComplete fields).bytes) :
    handles.event surroundings packet = some .connect := by
  obtain ⟨type, evt⟩ := dataBuff_header holds
  have subevent : packet.subevent = evtLeConnComplete :=
    @dataBuff_params packet _ _ holds 0 _ (by decide) rfl
  rw [Handles.event, if_pos type, evt, if_neg (by decide), if_pos rfl, if_pos subevent]

theorem means_disconnectionComplete {fields : List UInt8}
    (holds : packet.event = (RadioEvent.disconnectionComplete fields).bytes) :
    handles.event surroundings packet = some (.disconnect surroundings.hardware) := by
  obtain ⟨type, evt⟩ := dataBuff_header holds
  rw [Handles.event, if_pos type, evt, if_pos rfl]

theorem event_attributeModified {connHandle attrHandle offset : UInt16} {data : List UInt8}
    (short : data.length ≤ chatDataLen.toNat)
    (holds : packet.event = (RadioEvent.attributeModified connHandle attrHandle offset data).bytes) :
    ∃ received : Packet, received.Holds data ∧ handles.event surroundings packet =
      if attrHandle.toNat = handles.rxCharHandle.toNat + 1 then
        some (.receive received surroundings.hardware)
      else none := by
  obtain ⟨type, evt⟩ := dataBuff_header holds
  have ecode : packet.halfword 3 = evtBlueGattAttributeModified :=
    @halfword_params packet _ _ holds 0 _ (by decide) rfl rfl
  have attr : packet.halfword 7 = attrHandle :=
    @halfword_params packet _ _ holds 4 _ (by decide) rfl rfl
  have dataLength : packet.dataBuff[9] = UInt8.ofNat data.length :=
    @dataBuff_params packet _ _ holds 6 _ (by decide) rfl
  have bound : chatDataLen.toNat = 20 := rfl
  have count : (UInt8.ofNat data.length).toNat = data.length := by
    rw [UInt8.toNat_ofNat']
    exact Nat.mod_eq_of_lt (by omega)
  have shortNumber : UInt8.ofNat data.length ≤ chatDataLen := by
    rw [UInt8.le_iff_toNat_le, count]
    exact short
  refine ⟨packet.payload surroundings.around 12 (UInt8.ofNat data.length) shortNumber,
    payload_holds holds _ rfl rfl ?_ shortNumber count, ?_⟩
  · simp only [htobs, List.length_append, List.length_cons, List.length_nil, hciReadPacketSize]
    omega
  · rw [Handles.event, if_pos type, evt, if_neg (by decide), if_neg (by decide), if_pos rfl,
      if_pos ecode, attr, dataLength, Surroundings.receive, dif_pos shortNumber]

theorem means_attributeModified {connHandle attrHandle offset : UInt16} {data : List UInt8}
    (short : data.length ≤ chatDataLen.toNat)
    (holds : packet.event = (RadioEvent.attributeModified connHandle attrHandle offset data).bytes) :
    RadioEvent.Means handles (.attributeModified connHandle attrHandle offset data)
      (handles.event surroundings packet) := by
  obtain ⟨received, contents, outcome⟩ :=
    @event_attributeModified handles surroundings packet connHandle attrHandle offset data short holds
  rw [outcome, RadioEvent.Means]
  split
  next => exact ⟨received, surroundings.hardware, rfl, contents⟩
  next => rfl

theorem means_other {evt : UInt8} {params : List UInt8}
    (valid : (RadioEvent.other evt params).Valid)
    (holds : packet.event = (RadioEvent.other evt params).bytes) :
    handles.event surroundings packet = none := by
  obtain ⟨-, disconnection, leMeta, vendor⟩ := valid
  obtain ⟨type, same⟩ := dataBuff_header holds
  rw [Handles.event, if_pos type, same, if_neg disconnection]
  by_cases isMeta : evt = evtLeMetaEvent
  · obtain ⟨subevent, rest, parts, differs⟩ := leMeta isMeta
    have third : packet.subevent = subevent :=
      @dataBuff_params packet _ _ holds 0 _ (by decide) (by rw [parts]; rfl)
    rw [if_pos isMeta, third, if_neg differs]
  · rw [if_neg isMeta]
    by_cases isVendor : evt = evtVendor
    · obtain ⟨ecode, rest, parts, modified, notification⟩ := vendor isVendor
      have code : packet.halfword 3 = ecode :=
        @halfword_params packet _ _ holds 0 _ (by decide) (by rw [parts]; rfl) (by rw [parts]; rfl)
      rw [if_pos isVendor, code, if_neg modified, if_neg notification]
    · rw [if_neg isVendor]

theorem means_of_reads {event : RadioEvent} (valid : event.Valid) {outcome : Option Event}
    (reads : handles.Reads event.bytes outcome) : event.Means handles outcome := by
  obtain ⟨surroundings, packet, holds, rfl⟩ := reads
  cases event with
  | connectionComplete fields => exact means_connectionComplete holds
  | disconnectionComplete fields => exact ⟨_, means_disconnectionComplete holds⟩
  | attributeModified connHandle attrHandle offset data =>
      exact means_attributeModified valid holds
  | other evt params => exact means_other valid holds

end Meaning

theorem RadioEvent.Valid.params_le {event : RadioEvent} (valid : event.Valid) :
    ∃ evt params, event.bytes = eventPacket evt params ∧ params.length ≤ 125 := by
  cases event with
  | connectionComplete fields =>
      have short : fields.length ≤ 124 := valid
      exact ⟨_, _, rfl, by rw [List.length_cons]; omega⟩
  | disconnectionComplete fields => exact ⟨_, _, rfl, valid⟩
  | attributeModified connHandle attrHandle offset data =>
      have short : data.length ≤ 20 := valid
      refine ⟨_, _, rfl, ?_⟩
      simp only [htobs, List.length_append, List.length_cons, List.length_nil]
      omega
  | other evt params => exact ⟨_, _, rfl, valid.1⟩

theorem wellFormed_eventPacket {evt : UInt8} {params : List UInt8} (short : params.length ≤ 125) :
    wellFormed (eventPacket evt params) = true := by
  have count : (UInt8.ofNat params.length).toNat = params.length := by
    rw [UInt8.toNat_ofNat']
    exact Nat.mod_eq_of_lt (by omega)
  simp [wellFormed, eventPacket, count]

theorem pieces_eventPacket {evt : UInt8} {params : List UInt8} (short : params.length ≤ 125) :
    pieces (eventPacket evt params) = [eventPacket evt params] := by
  have length : (eventPacket evt params).length ≤ hciReadPacketSize := by
    simp only [eventPacket, List.length_append, List.length_cons, List.length_nil,
      hciReadPacketSize]
    omega
  rw [pieces_cons (by simp [eventPacket]), List.take_of_length_le length,
    List.drop_eq_nil_of_le length, pieces_nil]

theorem arrivals_valid {offered : List RadioEvent} (valid : ∀ event ∈ offered, event.Valid) :
    ((offered.map RadioEvent.bytes).flatMap pieces).filter wellFormed =
      offered.map RadioEvent.bytes := by
  induction offered with
  | nil => rfl
  | cons event rest ih =>
      obtain ⟨evt, params, bytes, short⟩ := (valid event (by simp)).params_le
      rw [List.map_cons, List.flatMap_cons, List.filter_append,
        ih fun other member => valid other (List.mem_cons_of_mem _ member), bytes,
        pieces_eventPacket short, List.filter_singleton, wellFormed_eventPacket short]
      rfl

theorem RadioEvent.Valid.length_le {event : RadioEvent} (valid : event.Valid) :
    event.bytes.length ≤ hciReadPacketSize := by
  obtain ⟨evt, params, bytes, short⟩ := valid.params_le
  simp only [bytes, eventPacket, List.length_append, List.length_cons, List.length_nil,
    hciReadPacketSize]
  omega

theorem arrived_valid {App Answers : Type} {firmware : Firmware App Answers}
    {packets : PacketIndex → HciDataPacket} {app : App} {inputs : List (Input Answers)}
    {config : Transport App × Lists} {offered : List RadioEvent}
    (runs : runFrom (listStep firmware) (Transport.initial firmware packets app, Lists.initial)
      inputs = some config)
    (valid : ∀ event ∈ offered, event.Valid)
    (arrived : arrivals inputs = offered.map RadioEvent.bytes) :
    offered.map RadioEvent.bytes = config.1.events.queued ++ config.1.inHand ++
      (config.1.offered.flatMap pieces).filter wellFormed := by
  have lengths : ∀ event ∈ arrivals inputs, event.length < 65536 := by
    intro event member
    rw [arrived] at member
    obtain ⟨source, listed, rfl⟩ := List.mem_map.mp member
    exact Nat.lt_of_le_of_lt (valid source listed).length_le (by decide)
  have parts := (run_arrived runs lengths).pieces
  rwa [arrived, arrivals_valid valid] at parts

theorem forall₂_means {handles : Handles} {events : List RadioEvent}
    {outcomes : List (Option Event)} (valid : ∀ event ∈ events, event.Valid)
    (reads : List.Forall₂ handles.Reads (events.map RadioEvent.bytes) outcomes) :
    List.Forall₂ (RadioEvent.Means handles) events outcomes := by
  induction events generalizing outcomes with
  | nil =>
      cases reads
      exact .nil
  | cons event rest ih =>
      cases reads with
      | cons now later =>
          exact .cons (means_of_reads (valid event (by simp)) now)
            (ih (fun other member => valid other (List.mem_cons_of_mem _ member)) later)

/-- In every interleaving with a radio that offers valid events, the device has gone through the
steps of its own machine for some of them, in the order in which the radio offered them and none
twice, and each with the value the central wrote. -/
theorem device_follows_radio (gcm : AesGcm) (handles : Handles) (initialisation : Initialisation)
    (flash : UInt32 → UInt64) (packets : PacketIndex → HciDataPacket)
    (offered : List RadioEvent) (valid : ∀ event ∈ offered, event.Valid)
    (inputs : List (Input Surroundings)) (arrived : arrivals inputs = offered.map RadioEvent.bytes) :
    ∃ transport lists, ∃ handled : List RadioEvent, ∃ outcomes : List (Option Event),
      runFrom (listStep (updateFirmware gcm handles initialisation))
        (Transport.initial (updateFirmware gcm handles initialisation) packets (.initial flash),
          Lists.initial) inputs = some (transport, lists) ∧
      handled.Sublist offered ∧
      List.Forall₂ (RadioEvent.Means handles) handled outcomes ∧
      transport.app.device.cleared = (run gcm flash (outcomes.filterMap id)).cleared ∧
      transport.app.effects =
        Transitions.trace (step gcm) Device.effects (powerOn flash) (outcomes.filterMap id) := by
  obtain ⟨⟨transport, lists⟩, runs, -⟩ :=
    run_safe (step_inPlace (updateFirmware gcm handles initialisation))
      (initial_inPlace (updateFirmware gcm handles initialisation) packets (.initial flash)) inputs
  obtain ⟨outcomes, reads, device, effects⟩ := (run_follows runs).outcomes
  have handed := (run_inOrder runs).picks.sublist
  have queued : transport.events.queued.Sublist (offered.map RadioEvent.bytes) := by
    rw [arrived_valid runs valid arrived, List.append_assoc]
    exact List.sublist_append_left _ _
  obtain ⟨handled, fewer, same⟩ := List.sublist_map_iff.mp (handed.trans queued)
  refine ⟨transport, lists, handled, outcomes, runs, fewer, ?_, device, effects⟩
  refine forall₂_means (fun event member => valid event (fewer.subset member)) ?_
  rw [← same]
  exact reads

def sampleOffered : List RadioEvent :=
  [.connectionComplete [0x00, 0x01, 0x08],
    .attributeModified 0x0801 0x000e 0 [0xbb, 0x01, 0x00, 0x01, 0x01]]

theorem sampleOffered_valid : ∀ event ∈ sampleOffered, event.Valid := by
  simp [sampleOffered, RadioEvent.Valid]
  decide

theorem device_follows_radio_start :
    ∃ transport lists, ∃ handled : List RadioEvent, ∃ outcomes : List (Option Event),
      runFrom (listStep sampleFirmware) sampleStart sampleInputs = some (transport, lists) ∧
      handled.Sublist sampleOffered ∧
      List.Forall₂ (RadioEvent.Means sampleHandles) handled outcomes ∧
      transport.app.device.cleared =
        (run .sample (fun _ => 0) (outcomes.filterMap id)).cleared ∧
      transport.app.effects = Transitions.trace (step .sample) Device.effects
        (powerOn fun _ => 0) (outcomes.filterMap id) :=
  device_follows_radio .sample sampleHandles sampleInitialisation (fun _ => 0) blankPackets
    sampleOffered sampleOffered_valid sampleInputs (by decide +kernel)

end BleFwUpdate
