import BleFwUpdate.Commands
import Mathlib.Tactic.Simps.Basic

/-! `hci_tl.c`, `hci_tl_interface.c` and `app_bluenrg.c`: the main program and the interrupt
service routine that share the packet buffers, one step at a time and in any order. -/

namespace BleFwUpdate

open Rings

def hciCommandPkt : UInt8 := 0x01
def hciEventPkt : UInt8 := 0x04

def evtCmdComplete : UInt8 := 0x0e
def evtCmdStatus : UInt8 := 0x0f
def evtHardwareError : UInt8 := 0x10
def evtLeMetaEvent : UInt8 := 0x3e

/-- `HCI_READ_PACKET_SIZE` -/
abbrev hciReadPacketSize : Nat := 128

structure HciDataPacket where
  dataBuff : Vector UInt8 hciReadPacketSize
  dataLen : UInt8
  deriving DecidableEq

/-! What stands where in the buffer of an event; the subevent is that of a meta event. -/

abbrev HciDataPacket.type (packet : HciDataPacket) : UInt8 := packet.dataBuff[0]
abbrev HciDataPacket.evt (packet : HciDataPacket) : UInt8 := packet.dataBuff[1]
abbrev HciDataPacket.subevent (packet : HciDataPacket) : UInt8 := packet.dataBuff[3]

def HciDataPacket.event (packet : HciDataPacket) : List UInt8 :=
  packet.dataBuff.toList.take packet.dataLen.toNat

def verifyPacket (packet : HciDataPacket) : Nat :=
  if packet.dataBuff[0] ≠ hciEventPkt then 1
  else if (packet.dataBuff[2].toNat : Int) ≠ packet.dataLen.toNat - 3 then 2
  else 0

/-- `struct hci_request`, its pointer to the parameters followed; `clen` is their number. -/
structure HciRequest where
  ogf : UInt16
  ocf : UInt16
  event : UInt32
  cparam : List UInt8
  rlen : UInt32
  deriving DecidableEq

def cmdOpcodePack (ogf ocf : UInt16) : UInt16 := (ocf &&& (0x03ff : UInt16)) ||| (ogf <<< 10)

/-- What `send_cmd` hands to `io.Send`. -/
def sendCmd (request : HciRequest) : List UInt8 :=
  let opcode := cmdOpcodePack request.ogf request.ocf
  let plen := UInt8.ofNat request.cparam.length
  [hciCommandPkt, opcode.toUInt8, (opcode >>> 8).toUInt8, plen] ++ request.cparam.take plen.toNat

/-- Where the `switch` of `hci_send_req` goes: to `failed`, to `done` with the bytes copied to
`rparam`, or on to the next packet. -/
inductive Verdict
  | failed
  | done (rparam : List UInt8)
  | other
  deriving DecidableEq

def HciDataPacket.halfword (packet : HciDataPacket) (index : Nat)
    (inside : index + 1 < hciReadPacketSize := by decide) : UInt16 :=
  packet.dataBuff[index].toUInt16 + (packet.dataBuff[index + 1].toUInt16 <<< 8)

/-- `memcpy(r->rparam, ptr, MIN(len, r->rlen))` -/
def HciDataPacket.answer (packet : HciDataPacket) (start : Nat) (len rlen : UInt32) : List UInt8 :=
  (packet.dataBuff.toList.drop start).take (if len < rlen then len else rlen).toNat

def examineEvent (request : HciRequest) (packet : HciDataPacket) : Verdict :=
  let opcode := cmdOpcodePack request.ogf request.ocf
  let len : UInt32 := packet.dataLen.toUInt32 - 3
  if packet.dataBuff[0] = hciEventPkt then
    if packet.dataBuff[1] = evtCmdStatus then
      if packet.halfword 5 ≠ opcode then .failed
      else if request.event ≠ evtCmdStatus.toUInt32 then
        if packet.dataBuff[3] ≠ 0 then .failed else .other
      else .done (packet.answer 3 len request.rlen)
    else if packet.dataBuff[1] = evtCmdComplete then
      if packet.halfword 4 ≠ opcode then .failed
      else .done (packet.answer 6 (len - 3) request.rlen)
    else if packet.dataBuff[1] = evtLeMetaEvent then
      if packet.dataBuff[3].toUInt32 ≠ request.event then .other
      else .done (packet.answer 4 (len - 1) request.rlen)
    else if packet.dataBuff[1] = evtHardwareError then .failed
    else .other
  else .other

/-- The number of bytes `HCI_TL_SPI_Receive` reads of the event the radio offers, if the radio is
ready. -/
def hciTlSpiReceive (size : UInt16) (ready : Bool) (offered : List UInt8) : UInt8 :=
  if ready then
    let byteCount := UInt16.ofNat offered.length
    if byteCount > size then size.toUInt8 else byteCount.toUInt8
  else 0

/-- The packet after the first `dataLen` bytes of the event have been read into it. -/
def HciDataPacket.fill (packet : HciDataPacket) (dataLen : UInt8) (offered : List UInt8) :
    HciDataPacket where
  dataBuff := Vector.ofFn fun index =>
    if index.val < dataLen.toNat then offered.getD index.val 0 else packet.dataBuff[index.val]
  dataLen := dataLen

/-- The functions that call `hci_send_req`; the callback runs while `hci_user_evt_proc` holds
a packet. -/
inductive Caller
  | blueNrgInit
  | enableAdvertising
  | userEvtRx (index : PacketIndex)
  deriving DecidableEq, Repr

/-- Where `hci_send_req` is, with the packet it holds and with what it will return: the bytes
copied to `rparam` for 0, nothing for -1. -/
inductive Phase
  | initHead
  | getSize
  | freeRemove
  | freeInsert (index : PacketIndex)
  | send
  | wait
  | extract
  | examine (index : PacketIndex)
  | poolEmpty (index : PacketIndex)
  | rxQueueEmpty (index : PacketIndex)
  | discard (index : PacketIndex)
  | keep (index : PacketIndex)
  | release (index : PacketIndex) (ret : Option (List UInt8))
  | moveEmpty (ret : Option (List UInt8))
  | moveRemove (ret : Option (List UInt8))
  | moveInsert (index : PacketIndex) (ret : Option (List UInt8))
  | leave (ret : Option (List UInt8))
  deriving DecidableEq

inductive Control
  | calls (caller : Caller) (requests : List HciRequest)
  | sendReq (caller : Caller) (request : HciRequest) (rest : List HciRequest) (phase : Phase)
  | process
  | evtProcEmpty
  | evtProcRemove
  | evtProcCall (index : PacketIndex)
  | evtProcInsert (index : PacketIndex)
  -- the endless loop after an initialisation that failed
  | initFailed
  -- `go2App` has been called
  | gone (index : PacketIndex)
  deriving DecidableEq

inductive Isr
  | idle
  | available
  | poolEmpty
  | poolRemove
  | receive (index : PacketIndex)
  | queue (index : PacketIndex)
  | giveBack (index : PacketIndex)
  deriving DecidableEq, Repr

/-- What the program runs on top of the transport layer: the requests of its initialisation and
of `Enable_Advertising`, `set_connectable`, and the callback `UserEvtRx`, which may also write to
the packet it is called with. -/
structure Firmware (App Answers : Type) where
  initRequests : List HciRequest
  initOk : List (Option (List UInt8)) → Bool
  advertisingRequests : List HciRequest
  setConnectable : App → Bool
  advertised : App → App
  userEvtRx : Answers → HciDataPacket → App → App × List HciRequest × Vector UInt8 hciReadPacketSize
  gone : App → Bool

/-- History variables: the events the interrupt has put in the queue, the number each packet's
event has among them, and what became of the events. -/
structure EventLog where
  queued : List (List UInt8)
  serial : PacketIndex → Nat
  delivered : List Nat
  consumed : List Nat
  lost : List Nat
  -- the events `UserEvtRx` was called with
  handed : List (List UInt8)

/-- History variables: the requests that were to be made, the commands handed to `io.Send`, and
what `hci_send_req` returned. -/
structure RequestLog where
  requested : List HciRequest
  commands : List (List UInt8)
  results : List (Option (List UInt8))

structure Transport (App : Type) where
  control : Control
  isr : Isr
  -- whether the rising edge of the interrupt line is still to be served
  edge : Bool
  -- the events the radio has for the program; the line is high while there are any
  offered : List (List UInt8)
  packets : PacketIndex → HciDataPacket
  app : App
  events : EventLog
  calls : RequestLog

inductive Input (Answers : Type)
  | arrive (type : UInt8) (rest : List UInt8)
  | interrupt (ready : Bool)
  | main (elapsed : Bool) (answers : Answers)

variable {App Answers : Type}

@[simps] def Transport.setPacket (transport : Transport App) (index : PacketIndex)
    (packet : HciDataPacket) : Transport App :=
  { transport with packets := fun other => if other = index then packet else transport.packets other }

@[simps] def Transport.goto (transport : Transport App) (control : Control) : Transport App :=
  { transport with control := control }

def EventLog.lose (log : EventLog) (index : PacketIndex) : EventLog :=
  { log with lost := log.lost ++ [log.serial index] }

def EventLog.consume (log : EventLog) (index : PacketIndex) : EventLog :=
  { log with consumed := log.consumed ++ [log.serial index] }

def EventLog.deliver (log : EventLog) (index : PacketIndex) (event : List UInt8) : EventLog :=
  { log with delivered := log.delivered ++ [log.serial index], handed := log.handed ++ [event] }

/-- The packet's event gets its number when it is put in the queue. -/
def EventLog.queue (log : EventLog) (index : PacketIndex) (event : List UInt8) : EventLog :=
  { log with
    queued := log.queued ++ [event]
    serial := fun other => if other = index then log.queued.length else log.serial other }

@[simps] def Transport.loses (transport : Transport App) (index : PacketIndex) : Transport App :=
  { transport with events := transport.events.lose index }

@[simps] def Transport.consumes (transport : Transport App) (index : PacketIndex) : Transport App :=
  { transport with events := transport.events.consume index }

@[simps] def Transport.requests (transport : Transport App) (caller : Caller) (requests : List HciRequest) :
    Transport App :=
  { transport with
    control := .calls caller requests
    calls := { transport.calls with requested := transport.calls.requested ++ requests } }

@[simps] def Transport.sends (transport : Transport App) (request : HciRequest) : Transport App :=
  { transport with
    calls := { transport.calls with commands := transport.calls.commands ++ [sendCmd request] } }

@[simps] def Transport.returns (transport : Transport App) (ret : Option (List UInt8)) : Transport App :=
  { transport with
    calls := { transport.calls with results := transport.calls.results ++ [ret] } }

/-- A step of `hci_send_req`; `next` leads to another place in it. -/
def Transport.sendReq (elapsed : Bool) (transport : Transport App) (caller : Caller)
    (request : HciRequest) (rest : List HciRequest) (phase : Phase) : Command (Transport App) :=
  let next (phase : Phase) (transport : Transport App) : Transport App :=
    transport.goto (.sendReq caller request rest phase)
  match phase with
  | .initHead => .initHead .hciTempQueue (next .getSize transport)
  -- free_event_list
  | .getSize => .getSize .hciReadPktPool fun size =>
      next (if size < hciReadPacketNumMax / 2 then .freeRemove else .send) transport
  | .freeRemove => .removeHead .hciReadPktRxQueue fun index =>
      next (.freeInsert index) (transport.loses index)
  | .freeInsert index => .insertTail .hciReadPktPool index (next .getSize transport)
  | .send => .skip (next .wait (transport.sends request))
  | .wait =>
      if elapsed then .skip (next (.moveEmpty none) transport)
      else .isEmpty .hciReadPktRxQueue fun empty =>
        next (if empty then .wait else .extract) transport
  | .extract => .removeHead .hciReadPktRxQueue fun index => next (.examine index) transport
  | .examine index =>
      match examineEvent request (transport.packets index) with
      | .failed => .skip (next (.release index none) (transport.consumes index))
      | .done rparam => .skip (next (.release index (some rparam)) (transport.consumes index))
      | .other => .skip (next (.poolEmpty index) transport)
  | .poolEmpty index => .isEmpty .hciReadPktPool fun empty =>
      next (if empty then .rxQueueEmpty index else .keep index) transport
  | .rxQueueEmpty index => .isEmpty .hciReadPktRxQueue fun empty =>
      if empty then next (.discard index) (transport.loses index) else next (.keep index) transport
  | .discard index => .insertTail .hciReadPktPool index (next .wait transport)
  | .keep index => .insertTail .hciTempQueue index (next .wait transport)
  | .release index ret => .insertHead .hciReadPktPool index (next (.moveEmpty ret) transport)
  -- move_list
  | .moveEmpty ret => .isEmpty .hciTempQueue fun empty =>
      next (if empty then .leave ret else .moveRemove ret) transport
  | .moveRemove ret => .removeTail .hciTempQueue fun index => next (.moveInsert index ret) transport
  | .moveInsert index ret => .insertHead .hciReadPktRxQueue index (next (.moveEmpty ret) transport)
  | .leave ret => .leave ((transport.returns ret).goto (.calls caller rest))

/-- `hci_user_evt_proc` calls `UserEvtRx`, from which `go2App` does not come back. -/
def Transport.callback (firmware : Firmware App Answers) (answers : Answers)
    (index : PacketIndex) (transport : Transport App) : Transport App :=
  let packet := transport.packets index
  let (app, requests, dataBuff) := firmware.userEvtRx answers packet transport.app
  let transport := { transport with
    app := app
    events := transport.events.deliver index packet.event }
  let transport := transport.setPacket index { packet with dataBuff := dataBuff }
  if firmware.gone app then transport.goto (.gone index)
  else transport.requests (.userEvtRx index) requests

def Transport.main (firmware : Firmware App Answers) (elapsed : Bool) (answers : Answers)
    (transport : Transport App) : Command (Transport App) :=
  match transport.control with
  | .calls caller (request :: rest) =>
      .skip (transport.goto (.sendReq caller request rest .initHead))
  | .calls .blueNrgInit [] =>
      .skip (transport.goto
        (if firmware.initOk transport.calls.results then .process else .initFailed))
  | .calls .enableAdvertising [] =>
      .skip ({ transport with app := firmware.advertised transport.app }.goto .evtProcEmpty)
  | .calls (.userEvtRx index) [] => .skip (transport.goto (.evtProcInsert index))
  | .sendReq caller request rest phase => transport.sendReq elapsed caller request rest phase
  -- BlueNRG_Process
  | .process =>
      .skip (if firmware.setConnectable transport.app then
          transport.requests .enableAdvertising firmware.advertisingRequests
        else transport.goto .evtProcEmpty)
  -- hci_user_evt_proc
  | .evtProcEmpty => .isEmpty .hciReadPktRxQueue fun empty =>
      transport.goto (if empty then .process else .evtProcRemove)
  | .evtProcRemove => .removeHead .hciReadPktRxQueue fun index =>
      transport.goto (.evtProcCall index)
  | .evtProcCall index => .skip (transport.callback firmware answers index)
  | .evtProcInsert index => .insertTail .hciReadPktPool index (transport.goto .evtProcEmpty)
  | .initFailed => .skip transport
  | .gone _ => .skip transport

/-- The part of `hci_notify_asynch_evt` between the two calls of `ble_list.c`: the packet is
filled from the first event the radio offers. What does not fit is offered again. -/
def Transport.receive (ready : Bool) (index : PacketIndex) (transport : Transport App) :
    Transport App :=
  let event := transport.offered.headD []
  let dataLen := hciTlSpiReceive hciReadPacketSize.toUInt16 ready event
  if dataLen > 0 then
    let packet := (transport.packets index).fill dataLen event
    let remaining := event.drop dataLen.toNat
    let transport := transport.setPacket index packet
    { transport with
      offered := if remaining = [] then transport.offered.tail else remaining :: transport.offered.tail
      isr := if verifyPacket packet = 0 then .queue index else .giveBack index }
  else { transport with isr := .giveBack index }

/-- A step of `hci_tl_lowlevel_isr`, which runs `hci_notify_asynch_evt` while the line is high. -/
def Transport.interrupt (ready : Bool) (transport : Transport App) : Command (Transport App) :=
  match transport.isr with
  | .idle => .skip (if transport.edge then { transport with edge := false, isr := .available }
      else transport)
  | .available =>
      .skip { transport with isr := if transport.offered = [] then .idle else .poolEmpty }
  | .poolEmpty => .isEmpty .hciReadPktPool fun empty =>
      { transport with isr := if empty then .idle else .poolRemove }
  | .poolRemove => .removeHead .hciReadPktPool fun index =>
      { transport with isr := .receive index }
  | .receive index => .skip (transport.receive ready index)
  | .queue index => .insertTail .hciReadPktRxQueue index
      { transport with
        isr := .available
        events := transport.events.queue index (transport.packets index).event }
  | .giveBack index => .insertHead .hciReadPktPool index { transport with isr := .available }

/-- The main program does not run while the interrupt is being served. -/
def Transport.step (firmware : Firmware App Answers) (transport : Transport App) :
    Input Answers → Command (Transport App)
  | .arrive type rest =>
      .skip { transport with
        offered := transport.offered ++ [type :: rest]
        edge := transport.edge || transport.offered.isEmpty }
  | .interrupt ready => transport.interrupt ready
  | .main elapsed answers =>
      if transport.isr = .idle then transport.main firmware elapsed answers else .skip transport

structure SameLine (before after : Transport App) : Prop where
  isr : after.isr = before.isr
  edge : after.edge = before.edge
  offered : after.offered = before.offered

section Frames

variable (transport : Transport App) (index : PacketIndex)

theorem callback_control (firmware : Firmware App Answers) (answers : Answers) :
    (transport.callback firmware answers index).control = .gone index ∨
      ∃ requests, (transport.callback firmware answers index).control =
        .calls (.userEvtRx index) requests := by
  unfold Transport.callback
  dsimp only
  split
  · exact .inl rfl
  · exact .inr ⟨_, rfl⟩

theorem callback_line (firmware : Firmware App Answers) (answers : Answers) :
    SameLine transport (transport.callback firmware answers index) := by
  unfold Transport.callback
  dsimp only
  split <;> exact ⟨rfl, rfl, rfl⟩

theorem sendReq_line (elapsed : Bool) (caller : Caller) (request : HciRequest)
    (rest : List HciRequest) (phase : Phase) :
    (transport.sendReq elapsed caller request rest phase).Leads (SameLine transport) := by
  cases phase with
  | wait =>
      cases elapsed with
      | true => exact ⟨rfl, rfl, rfl⟩
      | false => exact fun empty => ⟨rfl, rfl, rfl⟩
  | examine held =>
      simp only [Transport.sendReq]
      cases examineEvent request (transport.packets held) <;> exact ⟨rfl, rfl, rfl⟩
  | rxQueueEmpty held =>
      intro empty
      cases empty <;> exact ⟨rfl, rfl, rfl⟩
  | getSize => exact fun size => ⟨rfl, rfl, rfl⟩
  | freeRemove => exact fun index => ⟨rfl, rfl, rfl⟩
  | extract => exact fun index => ⟨rfl, rfl, rfl⟩
  | poolEmpty held => exact fun empty => ⟨rfl, rfl, rfl⟩
  | moveEmpty ret => exact fun empty => ⟨rfl, rfl, rfl⟩
  | moveRemove ret => exact fun index => ⟨rfl, rfl, rfl⟩
  | _ => exact ⟨rfl, rfl, rfl⟩

theorem main_line (firmware : Firmware App Answers) (elapsed : Bool) (answers : Answers) :
    (transport.main firmware elapsed answers).Leads (SameLine transport) := by
  unfold Transport.main
  cases transport.control with
  | calls caller requests =>
      cases requests with
      | cons request rest => exact ⟨rfl, rfl, rfl⟩
      | nil => cases caller <;> exact ⟨rfl, rfl, rfl⟩
  | sendReq caller request rest phase =>
      exact sendReq_line transport elapsed caller request rest phase
  | process =>
      cases due : firmware.setConnectable transport.app <;> exact ⟨rfl, rfl, rfl⟩
  | evtProcEmpty => exact fun empty => ⟨rfl, rfl, rfl⟩
  | evtProcRemove => exact fun index => ⟨rfl, rfl, rfl⟩
  | evtProcCall held => exact callback_line transport held firmware answers
  | evtProcInsert inserted => exact ⟨rfl, rfl, rfl⟩
  | initFailed => exact ⟨rfl, rfl, rfl⟩
  | gone index => exact ⟨rfl, rfl, rfl⟩

theorem callback_events (firmware : Firmware App Answers) (answers : Answers) :
    (transport.callback firmware answers index).events =
      transport.events.deliver index (transport.packets index).event := by
  unfold Transport.callback
  dsimp only
  split <;> rfl

theorem callback_packets (firmware : Firmware App Answers) (answers : Answers)
    {other : PacketIndex} (apart : other ≠ index) :
    (transport.callback firmware answers index).packets other = transport.packets other := by
  unfold Transport.callback
  dsimp only
  split <;> simp [apart]

theorem receive_control (ready : Bool) :
    (transport.receive ready index).control = transport.control := by
  unfold Transport.receive
  dsimp only
  split <;> rfl

theorem receive_events (ready : Bool) :
    (transport.receive ready index).events = transport.events := by
  unfold Transport.receive
  dsimp only
  split <;> rfl

theorem receive_calls (ready : Bool) :
    (transport.receive ready index).calls = transport.calls := by
  unfold Transport.receive
  dsimp only
  split <;> rfl

theorem receive_packets (ready : Bool) {other : PacketIndex} (apart : other ≠ index) :
    (transport.receive ready index).packets other = transport.packets other := by
  unfold Transport.receive
  dsimp only
  split
  · simp [apart]
  · rfl

theorem hciTlSpiReceive_le (ready : Bool) (offered : List UInt8) :
    (hciTlSpiReceive hciReadPacketSize.toUInt16 ready offered).toNat ≤ hciReadPacketSize := by
  unfold hciTlSpiReceive
  cases ready with
  | false => exact Nat.zero_le _
  | true =>
      dsimp only
      rw [if_pos rfl]
      split
      next large => decide
      next small =>
        have bound : (UInt16.ofNat offered.length).toNat ≤ hciReadPacketSize :=
          UInt16.le_iff_toNat_le.mp (UInt16.not_lt.mp small)
        rw [UInt16.toNat_toUInt8]
        exact Nat.le_trans (Nat.mod_le _ _) bound

theorem receive_nothing {ready : Bool}
    (nothing : hciTlSpiReceive hciReadPacketSize.toUInt16 ready (transport.offered.headD []) = 0) :
    transport.receive ready index = { transport with isr := .giveBack index } := by
  unfold Transport.receive
  dsimp only
  rw [nothing, if_neg (by decide)]

theorem receive_something {ready : Bool} {event : List UInt8} {later : List (List UInt8)}
    {dataLen : UInt8} (first : transport.offered = event :: later)
    (length : hciTlSpiReceive hciReadPacketSize.toUInt16 ready event = dataLen)
    (some : 0 < dataLen) :
    (transport.receive ready index).offered =
        (if event.drop dataLen.toNat = [] then later else event.drop dataLen.toNat :: later) ∧
      (transport.receive ready index).packets index =
        (transport.packets index).fill dataLen event ∧
      (transport.receive ready index).isr =
        if verifyPacket ((transport.packets index).fill dataLen event) = 0 then .queue index
        else .giveBack index := by
  unfold Transport.receive
  rw [first, List.headD_cons]
  dsimp only
  rw [length, if_pos some]
  generalize (transport.packets index).fill dataLen event = packet
  refine ⟨?_, ?_, rfl⟩
  · rw [Transport.setPacket_offered, first, List.tail_cons]
  · simp

theorem receive_isr (ready : Bool) :
    (transport.receive ready index).isr = .giveBack index ∨
      (transport.receive ready index).isr = .queue index ∧
        verifyPacket ((transport.receive ready index).packets index) = 0 ∧
        ((transport.receive ready index).packets index).dataLen.toNat ≤ hciReadPacketSize := by
  have short := hciTlSpiReceive_le ready (transport.offered.headD [])
  unfold Transport.receive
  dsimp only
  generalize made : (transport.packets index).fill _ _ = packet
  have length : packet.dataLen.toNat ≤ hciReadPacketSize := by
    rw [← made]
    exact short
  split
  · by_cases valid : verifyPacket packet = 0
    · refine .inr ⟨if_pos valid, ?_⟩
      simpa using ⟨valid, length⟩
    · exact .inl (if_neg valid)
  · exact .inl rfl

end Frames

end BleFwUpdate
