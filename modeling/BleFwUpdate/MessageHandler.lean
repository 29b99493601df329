import BleFwUpdate.FlashManager

/-! `message_handler.c`: the state machine that receives a firmware. -/

namespace BleFwUpdate

def updateTxChar (bytes : List UInt8) (device : Device) : Device := device.emit (.response bytes)

def hexDigit (digit : UInt8) : UInt8 := if digit < 10 then 0x30 + digit else 0x61 + (digit - 10)

def highByte (number : UInt16) : UInt8 := (number >>> 8).toUInt8
def lowByte (number : UInt16) : UInt8 := number.toUInt8

def encryptData (gcm : AesGcm) (plaintext addData : List UInt8) (device : Device) :
    (List UInt8 × List UInt8) × Device :=
  -- The loop that pads `plaintext` up to 16 bytes writes past the five bytes of the caller's
  -- array; these writes are taken to leave the other variables alone.
  (gcm.encrypt device.iv addData plaintext, device.emit (.encrypt device.iv addData plaintext))

def sendRawAck (hardware : Hardware) (ackMsg : UInt8) (device : Device) : Device :=
  -- Only the first of the two digits `sprintf` leaves in `msg` is sent, and `sum_payload` also
  -- reads the byte of `msg` that is about to be overwritten.
  let high := highByte device.countPck
  let low := lowByte device.countPck
  let msg := [ackMsg, high, low, hardware.msgStack]
  let sum := sumPayload (fun index => msg.getD index.toNat 0) 2 3
  updateTxChar [ackMsg, high, low, hexDigit (sum >>> 4)] device

def sendSecureAck (gcm : AesGcm) (ackMsg : UInt8) (device : Device) : Device :=
  let (randIv, reg) := getRandBytes device.reg
  let device := { device with randIv := randIv, reg := reg }
  let plaintext := [highByte device.countPck, lowByte device.countPck] ++ randIv.toList
  let ((ciphertext, tag), device) := encryptData gcm plaintext [ackMsg] device
  updateTxChar (ackMsg :: (ciphertext ++ tag)) device

def sendAck (gcm : AesGcm) (hardware : Hardware) (ack : Bool) (replyType : PckType)
    (device : Device) : Device :=
  let device := { device with oldAck := ack }
  let ackMsg := if ack then ackCmd else nakCmd
  match replyType with
  | .writeFlashPacketResponse => sendRawAck hardware ackMsg device
  | .writeSecureFlashPacketResponse => sendSecureAck gcm ackMsg device
  | _ => device

def decryptData (gcm : AesGcm) (hardware : Hardware) (packet : Packet) (device : Device) :
    Packet × Device :=
  let iv := nextIv device.iv device.randIv
  let addData := packet.slice 0 1
  let ciphertext := packet.slice 1 15
  let tag := packet.slice 16 aesTagLen
  let decrypted := gcm.decrypt iv addData ciphertext tag
  let device := { device with iv := iv }
  -- The verdict of the tag check is only printed: the output is copied in either case.
  (packet.write 1 (decrypted.getD hardware.rejected),
    device.emit (.decrypt iv addData ciphertext tag decrypted.isSome))

def checkFwSize (numPckts : UInt16) (fwPayloadLen : UInt8) (appSelected : FlashAppType) : Bool :=
  let bytesFwDim : UInt32 := numPckts.toUInt32 * fwPayloadLen.toUInt32
  match appSelected with
  | .flashAppFullSpace => if bytesFwDim / 256000 > 1 then false else true
  | .flashApp1 | .flashApp2 => if bytesFwDim / 128000 > 1 then false else true
  | _ => false

/-- One turn of the packing loops: the first byte of a double word is assigned,
the other seven are added to it. -/
def stageByte (staging : Staging) (byte : UInt8) : Staging :=
  let shifted := byte.toUInt64 <<< (staging.bytePos.toUInt64 * 8)
  let contBuff := if staging.bytePos ≠ 0 then staging.contBuff else staging.contBuff + 1
  let index := contBuff.toNat
  let word := if staging.bytePos ≠ 0 then staging.flashBuff index + shifted else shifted
  { flashBuff := fun other => if other = index then word else staging.flashBuff other
    bytePos := (staging.bytePos + 1) % 8
    contBuff := contBuff
    touched := staging.touched ++ [index]
    entries := staging.entries ++ [index] }

def stageBytes (bytes : List UInt8) (device : Device) : Device :=
  { device with staging := bytes.foldl stageByte device.staging }

/-- The end of a START packet's handling, common to both modes but for the payload length,
the format of the positive answer and the next state. -/
def answerStart (gcm : AesGcm) (hardware : Hardware) (fwPayloadLen : UInt8) (replyType : PckType)
    (next : ConnectionStatus) (device : Device) : Device :=
  let (prepared, device) := prepareApplicationMemory hardware device.appToUpdate device
  if prepared && checkFwSize device.totalPck fwPayloadLen device.appToUpdate then
    { sendAck gcm hardware true replyType device with connectionStatus := next }
  else sendAck gcm hardware false .writeFlashPacketResponse device

def handleConnected (gcm : AesGcm) (hardware : Hardware) (packet : Packet) (device : Device) :
    Device :=
  let started := { device with
    totalPck := packet.number 2, appToUpdate := .ofByte (packet.mem 1) }
  if verifyDataType packet .startFlashMode then
    answerStart gcm hardware payloadLen .writeFlashPacketResponse .recevingRawFw started
  else if verifyDataType packet .startSecureFlashMode then
    answerStart gcm hardware securePayloadLen .writeSecureFlashPacketResponse .recevingSecureFw
      { started with reg := initRandGenerator hardware.timer }
  else sendAck gcm hardware false .writeFlashPacketResponse device

def storeRawPacket (packet : Packet) (device : Device) : Device :=
  if verifyDataType packet .writeFlashPacket then
    if packet.number 1 = device.countPck then
      stageBytes (packet.slice 3 (packet.numBytes.toNat - 1 - 3)) device
    else { device with nextAck := false }
  else { device with nextAck := false }

def endsWindow (numCumulativeAck : UInt16) (device : Device) : Bool :=
  device.countPck % numCumulativeAck == 0 || device.countPck == device.totalPck

def rejectWindow (numCumulativeAck : UInt16) (device : Device) : Device :=
  { device with nextAck := false, countPck := device.countPck - numCumulativeAck }

def settleWindow (hardware : Hardware) (numCumulativeAck : UInt16) (device : Device) : Device :=
  if device.nextAck then
    let (written, device) :=
      writeFwToFlash hardware device.staging.flashBuff (device.staging.contBuff + 1) device
    if written then device else rejectWindow numCumulativeAck device
  else rejectWindow numCumulativeAck device

def resetWindow (device : Device) : Device :=
  { device with
    connectionStatus :=
      if device.countPck = device.totalPck then .closingConnection else device.connectionStatus
    staging := device.staging.discard
    nextAck := true }

def handleRecevingRawFw (gcm : AesGcm) (hardware : Hardware) (packet : Packet)
    (device : Device) : Device :=
  let device := storeRawPacket packet device
  let device := { device with countPck := device.countPck + 1 }
  if endsWindow rawNumCumulativeAck device then
    -- A window is settled before it is answered.
    let device := settleWindow hardware rawNumCumulativeAck device
    resetWindow (sendAck gcm hardware device.nextAck .writeFlashPacketResponse device)
  else device

def storeSecurePacket (gcm : AesGcm) (hardware : Hardware) (packet : Packet) (device : Device) :
    Device :=
  let cumulativePckNum := (packet.mem 0 &&& 0xf).toUInt16
  let (packet, device) := decryptData gcm hardware packet device
  if cumulativePckNum = device.countPck % 16 then
    stageBytes (packet.slice 1 (packet.numBytes.toNat - 4 - 1)) device
  else { device with nextAck := false }

def countSecurePacket (gcm : AesGcm) (hardware : Hardware) (device : Device) : Device :=
  let device := { device with countPck := device.countPck + 1 }
  if endsWindow secureNumCumulativeAck device then
    -- A window is answered before it is settled.
    let device := sendAck gcm hardware device.nextAck .writeSecureFlashPacketResponse device
    resetWindow (settleWindow hardware secureNumCumulativeAck device)
  else device

def handleRecevingSecureFw (gcm : AesGcm) (hardware : Hardware) (packet : Packet)
    (device : Device) : Device :=
  if verifyDataType packet .writeSecureFlashPacket then
    countSecurePacket gcm hardware (storeSecurePacket gcm hardware packet device)
  else if verifyDataType packet .masterNak then
    sendAck gcm hardware device.oldAck .writeSecureFlashPacketResponse device
  else countSecurePacket gcm hardware { device with nextAck := false }

def dataHandler (gcm : AesGcm) (hardware : Hardware) (packet : Packet) (device : Device) : Device :=
  match device.connectionStatus with
  | .connected => handleConnected gcm hardware packet device
  | .recevingRawFw => handleRecevingRawFw gcm hardware packet device
  | .recevingSecureFw => handleRecevingSecureFw gcm hardware packet device
  | _ => device

end BleFwUpdate
