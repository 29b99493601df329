import Mathlib.Tactic.Common

/-! Received packets and the checks `message_handler.c` makes on them. -/

namespace BleFwUpdate

def chatDataLen : UInt8 := 20

def payloadLen : UInt8 := 16
def securePayloadLen : UInt8 := 14

def startFlashModeCmd : UInt8 := 0xbb
def startSecureFlashModeCmd : UInt8 := 0xbc
def writeFlashPacketCmd : UInt8 := 0xbb
def writeSecureFlashPacketCmd : UInt8 := 0xc

def ackCmd : UInt8 := 0x0
def nakCmd : UInt8 := 0x1

def startFlashModeLen : UInt8 := 5
def startSecureFlashModeLen : UInt8 := 5

def aesTagLen : Nat := 4

def rawNumCumulativeAck : UInt16 := 10
def secureNumCumulativeAck : UInt16 := 16

inductive PckType
  | startFlashMode
  | startSecureFlashMode
  | writeFlashPacket
  | writeSecureFlashPacket
  | writeFlashPacketResponse
  | writeSecureFlashPacketResponse
  | masterNak
  deriving DecidableEq, Repr

/-- What `data_handler` is called with: `num_bytes_rcv`, and the memory seen from
`data_rcv`. Outside the received bytes it holds whatever the buffer held before. -/
structure Packet where
  mem : Int → UInt8
  numBytes : UInt8
  le_chatDataLen : numBytes ≤ chatDataLen

def Packet.ofBytes (bytes : List UInt8) (short : bytes.length ≤ 20) : Packet where
  mem index := if 0 ≤ index then bytes.getD index.toNat 0 else 0
  numBytes := UInt8.ofNat bytes.length
  le_chatDataLen := by
    rw [UInt8.le_iff_toNat_le, UInt8.toNat_ofNat']
    exact Nat.le_trans (Nat.mod_le _ _) short

def Packet.slice (packet : Packet) (start count : Nat) : List UInt8 :=
  (List.range' start count).map fun (index : Nat) => packet.mem index

@[simp] theorem Packet.length_slice (packet : Packet) (start count : Nat) :
    (packet.slice start count).length = count := by
  simp [Packet.slice]

theorem Packet.numBytes_le (packet : Packet) : packet.numBytes.toNat ≤ 20 :=
  UInt8.le_iff_toNat_le.mp packet.le_chatDataLen

def Packet.write (packet : Packet) (start : Nat) (bytes : List UInt8) : Packet :=
  { packet with
    mem := fun index =>
      if (start : Int) ≤ index ∧ index < start + bytes.length then
        bytes.getD (index - start).toNat 0
      else packet.mem index }

/-- `sum_payload`, which includes the index `stop`. -/
def sumPayload (payload : Int → UInt8) (start stop : UInt8) : UInt8 :=
  (List.range' start.toNat (stop.toNat + 1 - start.toNat)).foldl
    (fun sum (index : Nat) => sum + payload index) 0

def verifyDataType (packet : Packet) (expected : PckType) : Bool :=
  let rcvCrc := packet.mem ((packet.numBytes.toNat : Int) - 1)
  match expected with
  | .startFlashMode =>
      if packet.mem 0 ≠ startFlashModeCmd ∨ packet.numBytes ≠ startFlashModeLen then false
      else sumPayload packet.mem 2 (packet.numBytes - 2) == rcvCrc
  | .startSecureFlashMode =>
      if packet.mem 0 ≠ startSecureFlashModeCmd ∨ packet.numBytes ≠ startSecureFlashModeLen then
        false
      else sumPayload packet.mem 2 (packet.numBytes - 2) == rcvCrc
  | .writeFlashPacket =>
      if packet.mem 0 ≠ writeFlashPacketCmd then false
      else sumPayload packet.mem 3 (packet.numBytes - 2) == rcvCrc
  | .writeSecureFlashPacket =>
      if packet.mem 0 >>> 4 ≠ writeSecureFlashPacketCmd then false else true
  | .masterNak =>
      if packet.mem 0 >>> 4 ≠ nakCmd ∧ packet.numBytes ≠ 1 then false else true
  | _ => false

/-- Two received bytes read as a 16-bit number, high byte first. -/
def Packet.number (packet : Packet) (index : Nat) : UInt16 :=
  ((packet.mem index).toUInt16 <<< 8) + (packet.mem (index + 1)).toUInt16

end BleFwUpdate
