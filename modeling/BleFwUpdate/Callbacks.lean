import BleFwUpdate.Agreement
import BleFwUpdate.Transport

/-! `HCI_Event_CB` and the requests of `service.c` and `app_bluenrg.c`: the firmware update as the
program that runs on top of the transport layer. -/

namespace BleFwUpdate

def evtDisconnComplete : UInt8 := 0x05
def evtVendor : UInt8 := 0xff

def evtLeConnComplete : UInt8 := 0x01

def evtBlueGattAttributeModified : UInt16 := 0x0c01
def evtBlueGattNotification : UInt16 := 0x0c0f

def ogfLeCtl : UInt16 := 0x08
def ogfVendorCmd : UInt16 := 0x3f
def ocfLeSetScanResponseData : UInt16 := 0x0009
def ocfGapSetDiscoverable : UInt16 := 0x0083
def ocfGattUpdCharVal : UInt16 := 0x0106

def hciMaxPayloadSize : Nat := 128

def htobs (number : UInt16) : List UInt8 := [lowByte number, highByte number]

/-- The handles that `add_FW_Update_Service` has got from the radio. -/
structure Handles where
  chatServiceHandle : UInt16
  rxCharHandle : UInt16
  txCharHandle : UInt16
  deriving DecidableEq, Repr

/-- The request `aci_gatt_update_char_value` makes, unless the value does not fit. -/
def aciGattUpdateCharValue (servHandle charHandle : UInt16) (charValOffset : UInt8)
    (charValue : List UInt8) : List HciRequest :=
  if charValue.length + 6 > hciMaxPayloadSize then []
  else [{
    ogf := ogfVendorCmd
    ocf := ocfGattUpdCharVal
    event := 0
    cparam := htobs servHandle ++ htobs charHandle ++
      [charValOffset, UInt8.ofNat charValue.length] ++ charValue
    rlen := 1 }]

def hciLeSetScanRespData (data : List UInt8) : HciRequest where
  ogf := ogfLeCtl
  ocf := ocfLeSetScanResponseData
  event := 0
  cparam := UInt8.ofNat data.length :: (data.take 31 ++ List.replicate (31 - data.length) 0)
  rlen := 1

/-- `aci_gap_set_discoverable(ADV_IND, 0, 0, PUBLIC_ADDR, NO_WHITE_LIST_USE, ..)` for this name and
no list of services. -/
def aciGapSetDiscoverable (localName : List UInt8) : List HciRequest :=
  if localName.length + 14 > 40 then []
  else [{
    ogf := ogfVendorCmd
    ocf := ocfGapSetDiscoverable
    event := 0
    cparam := [0x00] ++ htobs 0 ++ htobs 0 ++ [0x00, 0x00, UInt8.ofNat localName.length] ++
      localName ++ [0] ++ htobs 0 ++ htobs 0
    rlen := 1 }]

/-- `AD_TYPE_COMPLETE_LOCAL_NAME` and "BLE-G-UP". -/
def localName : List UInt8 := [0x09, 0x42, 0x4c, 0x45, 0x2d, 0x47, 0x2d, 0x55, 0x50]

def enableAdvertising : List HciRequest := hciLeSetScanRespData [] :: aciGapSetDiscoverable localName

def Handles.updateTxChar (handles : Handles) (bytes : List UInt8) : List HciRequest :=
  aciGattUpdateCharValue handles.chatServiceHandle handles.txCharHandle 0 bytes

/-- The device with the globals of `service.c` that `message_handler.c` does not know. -/
structure Program where
  device : Device
  -- `set_connectable` as `BlueNRG_Process` reads and clears it
  setConnectable : Bool
  notificationEnabled : Bool
  -- history variable: what the device has done so far, in order
  effects : List Effect

structure Surroundings where
  hardware : Hardware
  -- the memory around the buffer of the packet, seen from its first byte
  around : Int → UInt8

/-- The memory seen from a pointer into the buffer of the packet. -/
def HciDataPacket.payload (packet : HciDataPacket) (around : Int → UInt8) (start : Nat)
    (numBytes : UInt8) (short : numBytes ≤ chatDataLen) : Packet where
  mem index :=
    let position := (start : Int) + index
    if 0 ≤ position ∧ position < hciReadPacketSize then
      packet.dataBuff.toList.getD position.toNat 0
    else around position
  numBytes := numBytes
  le_chatDataLen := short

/-- What `data_handler` leaves of the packet: `decrypt_data` works in place. -/
def leftByDataHandler (gcm : AesGcm) (hardware : Hardware) (packet : Packet) (device : Device) :
    Packet :=
  match device.connectionStatus with
  | .recevingSecureFw =>
      if verifyDataType packet .writeSecureFlashPacket then (decryptData gcm hardware packet device).1
      else packet
  | _ => packet

/-- `data_handler(&dataBuff[start], num_bytes)`. The characteristic is `CHAT_DATA_LEN` bytes long: for
a longer value the call is left out, so a result that holds of every call asks for `ValueFits` of
the events. -/
def Program.dataHandler (gcm : AesGcm) (surroundings : Surroundings) (start : Nat) (numBytes : UInt8)
    (packet : HciDataPacket) (program : Program) : Program × Vector UInt8 hciReadPacketSize :=
  if short : numBytes ≤ chatDataLen then
    let payload := packet.payload surroundings.around start numBytes short
    let left := leftByDataHandler gcm surroundings.hardware payload program.device
    ({ program with
        device := BleFwUpdate.dataHandler gcm surroundings.hardware payload program.device },
      Vector.ofFn fun position => left.mem ((position.val : Int) - start))
  else (program, packet.dataBuff)

def attributeModifiedCb (gcm : AesGcm) (handles : Handles) (surroundings : Surroundings)
    (handle : UInt16) (dataLength : UInt8) (attData : Nat)
    (inside : attData < hciReadPacketSize) (packet : HciDataPacket) (program : Program) :
    Program × Vector UInt8 hciReadPacketSize :=
  if handle.toNat = handles.rxCharHandle.toNat + 1 then
    program.dataHandler gcm surroundings attData dataLength packet
  else if handle.toNat = handles.txCharHandle.toNat + 2 then
    if packet.dataBuff[attData] = 0x01 then
      ({ program with notificationEnabled := true }, packet.dataBuff)
    else (program, packet.dataBuff)
  else (program, packet.dataBuff)

def Program.gapDisconnectionCompleteCb (hardware : Hardware) (program : Program) : Program :=
  let device := BleFwUpdate.gapDisconnectionCompleteCb hardware program.device
  -- Nothing after the call of `go2App` is executed.
  if device.running.isSome then { program with device := device }
  else { program with device := device, setConnectable := true, notificationEnabled := false }

/-- The fields of an event are read wherever they would be, also past the end of the event. -/
def hciEventCb (gcm : AesGcm) (handles : Handles) (surroundings : Surroundings)
    (packet : HciDataPacket) (program : Program) : Program × Vector UInt8 hciReadPacketSize :=
  if packet.type = hciEventPkt then
    if packet.evt = evtDisconnComplete then
      (program.gapDisconnectionCompleteCb surroundings.hardware, packet.dataBuff)
    else if packet.evt = evtLeMetaEvent then
      -- The status of the connection is not looked at.
      if packet.subevent = evtLeConnComplete then
        ({ program with device := gapConnectionCompleteCb program.device }, packet.dataBuff)
      else (program, packet.dataBuff)
    else if packet.evt = evtVendor then
      if packet.halfword 3 = evtBlueGattAttributeModified then
        attributeModifiedCb gcm handles surroundings (packet.halfword 7) packet.dataBuff[9] 12
          (by decide) packet program
      else if packet.halfword 3 = evtBlueGattNotification then
        program.dataHandler gcm surroundings 10 (packet.dataBuff[7] - 2) packet
      else (program, packet.dataBuff)
    else (program, packet.dataBuff)
  else (program, packet.dataBuff)

/-- What `BlueNRG_Init` asks of the radio before the first event is handled. It waits for no event
but the answers to its commands. -/
structure Initialisation where
  requests : List HciRequest
  waitsForNone : ∀ request ∈ requests, request.event = 0
  ok : List (Option (List UInt8)) → Bool

def Program.userEvtRx (gcm : AesGcm) (handles : Handles) (surroundings : Surroundings)
    (packet : HciDataPacket) (program : Program) :
    Program × List HciRequest × Vector UInt8 hciReadPacketSize :=
  let (after, dataBuff) := hciEventCb gcm handles surroundings packet
    { program with device := program.device.cleared }
  ({ after with effects := program.effects ++ after.device.effects },
    (responses after.device.effects).flatMap handles.updateTxChar, dataBuff)

/-- The firmware update on top of the transport layer. The device makes its requests while it
handles an event; what it does after a request does not depend on the answer. -/
def updateFirmware (gcm : AesGcm) (handles : Handles) (initialisation : Initialisation) :
    Firmware Program Surroundings where
  initRequests := initialisation.requests
  initOk := initialisation.ok
  advertisingRequests := enableAdvertising
  setConnectable := Program.setConnectable
  advertised program := { program with setConnectable := false }
  userEvtRx := Program.userEvtRx gcm handles
  gone program := program.device.running.isSome

def Program.initial (flash : UInt32 → UInt64) : Program where
  device := powerOn flash
  setConnectable := true
  notificationEnabled := false
  effects := []

/-- What a packet the device is handed the bytes of stands for. -/
def Surroundings.receive (surroundings : Surroundings) (packet : HciDataPacket) (start : Nat)
    (numBytes : UInt8) : Option Event :=
  if short : numBytes ≤ chatDataLen then
    some (.receive (packet.payload surroundings.around start numBytes short) surroundings.hardware)
  else none

/-- The length that `data_handler` is called with for a packet, if it is called. -/
def Handles.valueLength (handles : Handles) (packet : HciDataPacket) : Option UInt8 :=
  if packet.type = hciEventPkt ∧ packet.evt = evtVendor then
    if packet.halfword 3 = evtBlueGattAttributeModified then
      if (packet.halfword 7).toNat = handles.rxCharHandle.toNat + 1 then some packet.dataBuff[9]
      else none
    else if packet.halfword 3 = evtBlueGattNotification then some (packet.dataBuff[7] - 2)
    else none
  else none

/-- A vendor event says which one it is, and a value in it is no longer than the characteristic. -/
def ValueFits (event : List UInt8) : Prop :=
  event[1]? = some evtVendor → ∃ low ∈ event[3]?, ∃ high ∈ event[4]?,
    let ecode : UInt16 := low.toUInt16 + (high.toUInt16 <<< 8)
    (ecode = evtBlueGattAttributeModified → ∃ dataLength ∈ event[9]?, dataLength ≤ chatDataLen) ∧
      (ecode = evtBlueGattNotification →
        ∃ eventDataLength ∈ event[7]?, eventDataLength - 2 ≤ chatDataLen)

instance (event : List UInt8) : Decidable (ValueFits event) :=
  inferInstanceAs (Decidable (event[1]? = _ → ∃ low ∈ event[3]?, ∃ high ∈ event[4]?, _ ∧ _))

/-- The event of the device's own machine that a packet stands for, if it does for one. -/
def Handles.event (handles : Handles) (surroundings : Surroundings) (packet : HciDataPacket) :
    Option Event :=
  if packet.type = hciEventPkt then
    if packet.evt = evtDisconnComplete then some (.disconnect surroundings.hardware)
    else if packet.evt = evtLeMetaEvent then
      if packet.subevent = evtLeConnComplete then some .connect else none
    else if packet.evt = evtVendor then
      if packet.halfword 3 = evtBlueGattAttributeModified then
        if (packet.halfword 7).toNat = handles.rxCharHandle.toNat + 1 then
          surroundings.receive packet 12 packet.dataBuff[9]
        else none
      else if packet.halfword 3 = evtBlueGattNotification then
        surroundings.receive packet 10 (packet.dataBuff[7] - 2)
      else none
    else none
  else none

def handleIf (gcm : AesGcm) (device : Device) : Option Event → Device
  | some event => handleEvent gcm device event
  | none => device

section Decoding

variable (gcm : AesGcm) (handles : Handles) (surroundings : Surroundings) (packet : HciDataPacket)
  (program : Program)

theorem dataHandler_device (start : Nat) (numBytes : UInt8) :
    (program.dataHandler gcm surroundings start numBytes packet).1.device =
      handleIf gcm program.device (surroundings.receive packet start numBytes) := by
  unfold Program.dataHandler Surroundings.receive
  split <;> rfl

theorem attributeModifiedCb_device (handle : UInt16) (dataLength : UInt8) {attData : Nat}
    (inside : attData < hciReadPacketSize) :
    (attributeModifiedCb gcm handles surroundings handle dataLength attData inside packet
        program).1.device =
      handleIf gcm program.device
        (if handle.toNat = handles.rxCharHandle.toNat + 1 then
          surroundings.receive packet attData dataLength
        else none) := by
  unfold attributeModifiedCb
  split
  next => exact dataHandler_device gcm surroundings packet program attData dataLength
  next =>
    split
    next => split <;> rfl
    next => rfl

theorem gapDisconnectionCompleteCb_device (hardware : Hardware) :
    (program.gapDisconnectionCompleteCb hardware).device =
      BleFwUpdate.gapDisconnectionCompleteCb hardware program.device := by
  unfold Program.gapDisconnectionCompleteCb
  dsimp only
  split <;> rfl

/-- The callback does to the device what the device's own machine does for the event, and nothing
for a packet that stands for none. -/
theorem hciEventCb_device :
    (hciEventCb gcm handles surroundings packet program).1.device =
      handleIf gcm program.device (handles.event surroundings packet) := by
  unfold hciEventCb Handles.event
  by_cases type : packet.type = hciEventPkt
  · rw [if_pos type, if_pos type]
    by_cases disconnection : packet.evt = evtDisconnComplete
    · rw [if_pos disconnection, if_pos disconnection]
      exact gapDisconnectionCompleteCb_device program surroundings.hardware
    · rw [if_neg disconnection, if_neg disconnection]
      by_cases leMeta : packet.evt = evtLeMetaEvent
      · rw [if_pos leMeta, if_pos leMeta]
        split <;> rfl
      · rw [if_neg leMeta, if_neg leMeta]
        by_cases vendor : packet.evt = evtVendor
        · rw [if_pos vendor, if_pos vendor]
          by_cases modified : packet.halfword 3 = evtBlueGattAttributeModified
          · rw [if_pos modified, if_pos modified]
            exact attributeModifiedCb_device gcm handles surroundings packet program _ _ _
          · rw [if_neg modified, if_neg modified]
            by_cases notification : packet.halfword 3 = evtBlueGattNotification
            · rw [if_pos notification, if_pos notification]
              exact dataHandler_device gcm surroundings packet program 10 _
            · rw [if_neg notification, if_neg notification]
              rfl
        · rw [if_neg vendor, if_neg vendor]
          rfl
  · rw [if_neg type, if_neg type]
    rfl

end Decoding

end BleFwUpdate
