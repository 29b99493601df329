import BleFwUpdate.Buffers
import BleFwUpdate.General.Positions

/-! What becomes of the events the interrupt puts in the queue: every one is waiting, has been
handed to the application, has been taken as an answer, or has been lost, and those that wait or
have been handed over are in the order of their arrival. -/

namespace BleFwUpdate

open Faults Positions

variable {App Answers : Type}

def Phase.live : Phase → List PacketIndex
  | .examine index | .poolEmpty index | .rxQueueEmpty index | .keep index
  | .moveInsert index _ => [index]
  | _ => []

/-- The packet in the hands of the main program whose event is still to be used. -/
def Control.live : Control → List PacketIndex
  | .sendReq _ _ _ phase => phase.live
  | .evtProcCall index => [index]
  | _ => []

/-- The packets whose events wait, the oldest first. -/
def waiting (config : Transport App × Lists) : List PacketIndex :=
  config.2.temp ++ config.1.control.live ++ config.2.rxQueue

inductive Moves (before after : Transport App × Lists) : Prop
  | keeps (log : after.1.events = before.1.events) (waits : waiting after = waiting before)
      (packets : ∀ index ∈ waiting before, after.1.packets index = before.1.packets index)
  | queues (index : PacketIndex) (isr : before.1.isr = .queue index)
      (log : after.1.events = before.1.events.queue index (before.1.packets index).event)
      (waits : waiting after = waiting before ++ [index])
      (packets : after.1.packets = before.1.packets)
  | delivers (index : PacketIndex)
      (log : after.1.events = before.1.events.deliver index (before.1.packets index).event)
      (waits : waiting before = index :: waiting after)
      (packets : ∀ other ∈ waiting after, after.1.packets other = before.1.packets other)
  | consumes (index : PacketIndex) (front back : List PacketIndex)
      (log : after.1.events = before.1.events.consume index)
      (waits : waiting before = front ++ index :: back) (rest : waiting after = front ++ back)
      (packets : after.1.packets = before.1.packets)
  | loses (index : PacketIndex) (front back : List PacketIndex)
      (log : after.1.events = before.1.events.lose index)
      (waits : waiting before = front ++ index :: back) (rest : waiting after = front ++ back)
      (packets : after.1.packets = before.1.packets)

theorem Moves.same {before after : Transport App × Lists}
    (log : after.1.events = before.1.events) (packets : after.1.packets = before.1.packets)
    (waits : waiting after = waiting before) : Moves before after :=
  .keeps log waits fun index _ => by rw [packets]

section Inversion

variable {transport : Transport App} {lists : Lists} {next : Transport App × Lists}

@[simp] theorem waiting_goto (control : Control) (lists : Lists) :
    waiting (transport.goto control, lists) = lists.temp ++ control.live ++ lists.rxQueue := rfl

@[simp] theorem sendReq_live (caller : Caller) (request : HciRequest) (rest : List HciRequest)
    (phase : Phase) : (Control.sendReq caller request rest phase).live = phase.live := rfl

@[simp] theorem temp_set_pool (items : List PacketIndex) :
    (lists.set .hciReadPktPool items).temp = lists.temp := rfl

@[simp] theorem temp_set_rxQueue (items : List PacketIndex) :
    (lists.set .hciReadPktRxQueue items).temp = lists.temp := rfl

@[simp] theorem temp_set_temp (items : List PacketIndex) :
    (lists.set .hciTempQueue items).temp = items := rfl

@[simp] theorem rxQueue_set_pool (items : List PacketIndex) :
    (lists.set .hciReadPktPool items).rxQueue = lists.rxQueue := rfl

@[simp] theorem rxQueue_set_rxQueue (items : List PacketIndex) :
    (lists.set .hciReadPktRxQueue items).rxQueue = items := rfl

@[simp] theorem rxQueue_set_temp (items : List PacketIndex) :
    (lists.set .hciTempQueue items).rxQueue = lists.rxQueue := rfl

theorem temp_of_get {items : List PacketIndex} (found : lists.get .hciTempQueue = some items) :
    lists.temp = items := by
  have temp : lists.tempQueue = some items := found
  rw [Lists.temp, temp, Option.getD_some]

theorem sendReq_moves {elapsed : Bool} {caller : Caller} {request : HciRequest}
    {rest : List HciRequest} {phase : Phase} (ready : phase.Ready lists)
    (here : transport.control = .sendReq caller request rest phase)
    (runs : (transport.sendReq elapsed caller request rest phase).onLists lists = some next) :
    Moves (transport, lists) next := by
  have before : waiting (transport, lists) = lists.temp ++ phase.live ++ lists.rxQueue := by
    rw [waiting, here]
    rfl
  cases phase with
  | initHead =>
      have unused : lists.tempQueue = none := ready
      have none : lists.temp = [] := by rw [Lists.temp, unused, Option.getD_none]
      obtain ⟨-, rfl⟩ := initHead_onLists runs
      exact .same rfl rfl (by simp [before, none, Phase.live])
  | getSize =>
      obtain ⟨items, -, rfl⟩ := getSize_onLists runs
      refine .same rfl rfl ?_
      by_cases few : items.length < hciReadPacketNumMax / 2 <;> simp [few, before, Phase.live]
  | freeRemove =>
      obtain ⟨index, items, found, rfl⟩ := removeHead_onLists runs
      have queue : lists.rxQueue = index :: items := Option.some.inj found
      refine .loses index lists.temp items rfl ?_ ?_ rfl
      · simp [before, queue, Phase.live]
      · simp [Phase.live]
  | freeInsert inserted =>
      obtain ⟨items, -, -, rfl⟩ := insertTail_onLists runs
      exact .same rfl rfl (by simp [before, Phase.live])
  | send =>
      cases runs
      exact .same rfl rfl (by simp [before, Phase.live])
  | wait =>
      cases elapsed with
      | true =>
          cases runs
          exact .same rfl rfl (by simp [before, Phase.live])
      | false =>
          obtain ⟨items, -, rfl⟩ := isEmpty_onLists runs
          refine .same rfl rfl ?_
          cases items <;> simp [before, Phase.live]
  | extract =>
      obtain ⟨index, items, found, rfl⟩ := removeHead_onLists runs
      have queue : lists.rxQueue = index :: items := Option.some.inj found
      exact .same rfl rfl (by simp [before, queue, Phase.live])
  | examine held =>
      simp only [Transport.sendReq] at runs
      cases verdict : examineEvent request (transport.packets held) with
      | failed =>
          rw [verdict] at runs
          cases runs
          exact .consumes held lists.temp lists.rxQueue rfl (by simp [before, Phase.live])
            (by simp [Phase.live]) rfl
      | done rparam =>
          rw [verdict] at runs
          cases runs
          exact .consumes held lists.temp lists.rxQueue rfl (by simp [before, Phase.live])
            (by simp [Phase.live]) rfl
      | other =>
          rw [verdict] at runs
          cases runs
          exact .same rfl rfl (by simp [before, Phase.live])
  | poolEmpty held =>
      obtain ⟨items, -, rfl⟩ := isEmpty_onLists runs
      refine .same rfl rfl ?_
      cases items <;> simp [before, Phase.live]
  | rxQueueEmpty held =>
      obtain ⟨items, found, rfl⟩ := isEmpty_onLists runs
      cases items with
      | nil =>
          have queue : lists.rxQueue = [] := Option.some.inj found
          exact .loses held lists.temp [] rfl (by simp [before, queue, Phase.live])
            (by simp [queue, Phase.live]) rfl
      | cons index items => exact .same rfl rfl (by simp [before, Phase.live])
  | discard inserted =>
      obtain ⟨items, -, -, rfl⟩ := insertTail_onLists runs
      exact .same rfl rfl (by simp [before, Phase.live])
  | keep inserted =>
      obtain ⟨items, found, -, rfl⟩ := insertTail_onLists runs
      exact .same rfl rfl (by simp [before, temp_of_get found, Phase.live])
  | release inserted ret =>
      obtain ⟨items, -, -, rfl⟩ := insertHead_onLists runs
      exact .same rfl rfl (by simp [before, Phase.live])
  | moveEmpty ret =>
      obtain ⟨items, -, rfl⟩ := isEmpty_onLists runs
      refine .same rfl rfl ?_
      cases items <;> simp [before, Phase.live]
  | moveRemove ret =>
      obtain ⟨index, items, found, rfl⟩ := removeTail_onLists runs
      exact .same rfl rfl (by simp [before, temp_of_get found, Phase.live])
  | moveInsert inserted ret =>
      obtain ⟨items, found, -, rfl⟩ := insertHead_onLists runs
      have queue : lists.rxQueue = items := Option.some.inj found
      exact .same rfl rfl (by simp [before, queue, Phase.live])
  | leave ret =>
      obtain ⟨temp, rfl⟩ := leave_onLists runs
      have none : lists.temp = [] := by rw [Lists.temp, temp, Option.getD_some]
      refine .same rfl rfl ?_
      rw [before, none, waiting]
      rfl

theorem InPlace.not_waiting {config : Transport App × Lists} (inPlace : InPlace config)
    {index : PacketIndex} (held : index ∈ config.1.isr.held) : index ∉ waiting config := by
  have once := inPlace.once index
  have counted := List.one_le_count_iff.mpr held
  have live : ∀ other ∈ config.1.control.live, other ∈ config.1.control.held := by
    cases config.1.control with
    | sendReq caller request rest phase =>
        intro other member
        cases phase <;> simp_all [Control.live, Control.held, Phase.live, Phase.held]
    | evtProcCall index => exact fun other member => member
    | _ => simp [Control.live]
  simp only [Transport.hands, Lists.all, List.count_append] at once
  simp only [waiting, List.mem_append, not_or]
  refine ⟨⟨?_, ?_⟩, ?_⟩
  · intro member
    have found := List.one_le_count_iff.mpr member
    omega
  · intro member
    have found := List.one_le_count_iff.mpr (live index member)
    omega
  · intro member
    have found := List.one_le_count_iff.mpr member
    omega

theorem main_moves {firmware : Firmware App Answers} {elapsed : Bool} {answers : Answers}
    (inPlace : InPlace (transport, lists))
    (runs : (transport.main firmware elapsed answers).onLists lists = some next) :
    Moves (transport, lists) next := by
  have ready := inPlace.main
  have before : waiting (transport, lists) =
      lists.temp ++ transport.control.live ++ lists.rxQueue := rfl
  unfold Transport.main at runs
  cases here : transport.control with
  | calls caller requests =>
      rw [here] at runs before
      cases requests with
      | cons request rest =>
          cases runs
          exact .same rfl rfl (by simp [before, Control.live, Phase.live])
      | nil =>
          cases caller with
          | blueNrgInit =>
              cases runs
              refine .same rfl rfl ?_
              rw [waiting_goto, before]
              split <;> rfl
          | enableAdvertising =>
              cases runs
              exact .same rfl rfl (by rw [before]; rfl)
          | userEvtRx index =>
              cases runs
              exact .same rfl rfl (by rw [before]; rfl)
  | sendReq caller request rest phase =>
      rw [here] at runs ready
      exact sendReq_moves ready here runs
  | process =>
      rw [here] at runs before
      cases runs
      cases due : firmware.setConnectable transport.app with
      | true => exact .same rfl rfl (by rw [before]; rfl)
      | false => exact .same rfl rfl (by rw [before]; rfl)
  | evtProcEmpty =>
      rw [here] at runs before
      obtain ⟨items, -, rfl⟩ := isEmpty_onLists runs
      refine .same rfl rfl ?_
      cases items <;> simp [before, Control.live]
  | evtProcRemove =>
      rw [here] at runs before
      obtain ⟨index, items, found, rfl⟩ := removeHead_onLists runs
      have queue : lists.rxQueue = index :: items := Option.some.inj found
      exact .same rfl rfl (by simp [before, queue, Control.live])
  | evtProcCall held =>
      rw [here] at runs before ready
      have unused : lists.tempQueue = none := ready
      have none : lists.temp = [] := by rw [Lists.temp, unused, Option.getD_none]
      have free : held ∉ lists.all := by
        refine inPlace.free ?_
        simp only [Transport.hands, here, Control.held, List.count_singleton_self]
        omega
      have apart : ∀ other ∈ lists.rxQueue, other ≠ held := by
        intro other member
        refine ne_of_mem_of_not_mem member fun listed => free ?_
        simp [Lists.all, listed]
      have after : waiting (transport.callback firmware answers held, lists) = lists.rxQueue := by
        rw [waiting]
        rcases callback_control transport held firmware answers with gone | ⟨requests, calls⟩
        · rw [gone, none]
          rfl
        · rw [calls, none]
          rfl
      cases runs
      refine .delivers held (callback_events transport held firmware answers) ?_ ?_
      · rw [after, before, none]
        rfl
      · intro other member
        rw [after] at member
        exact callback_packets transport held firmware answers (apart other member)
  | evtProcInsert inserted =>
      rw [here] at runs before
      obtain ⟨items, -, -, rfl⟩ := insertTail_onLists runs
      exact .same rfl rfl (by simp [before, Control.live])
  | initFailed =>
      rw [here] at runs
      cases runs
      exact .same rfl rfl rfl
  | gone index =>
      rw [here] at runs
      cases runs
      exact .same rfl rfl rfl

theorem interrupt_moves {ready : Bool} (inPlace : InPlace (transport, lists))
    (runs : (transport.interrupt ready).onLists lists = some next) :
    Moves (transport, lists) next := by
  unfold Transport.interrupt at runs
  cases place : transport.isr with
  | idle =>
      rw [place] at runs
      cases runs
      cases edge : transport.edge with
      | true => exact .same rfl rfl rfl
      | false => exact .same rfl rfl rfl
  | available =>
      rw [place] at runs
      cases runs
      exact .same rfl rfl rfl
  | poolEmpty =>
      rw [place] at runs
      obtain ⟨items, -, rfl⟩ := isEmpty_onLists runs
      exact .same rfl rfl rfl
  | poolRemove =>
      rw [place] at runs
      obtain ⟨index, items, -, rfl⟩ := removeHead_onLists runs
      exact .same rfl rfl rfl
  | receive index =>
      rw [place] at runs
      cases runs
      have held : index ∉ waiting (transport, lists) :=
        inPlace.not_waiting (by simp [place, Isr.held])
      refine .keeps (receive_events transport index ready) ?_ ?_
      · rw [waiting, receive_control]
        rfl
      · intro other member
        exact receive_packets transport index ready (ne_of_mem_of_not_mem member held)
  | queue inserted =>
      rw [place] at runs
      obtain ⟨items, found, -, rfl⟩ := insertTail_onLists runs
      have queue : lists.rxQueue = items := Option.some.inj found
      refine .queues inserted place rfl ?_ rfl
      simp [waiting, queue]
  | giveBack inserted =>
      rw [place] at runs
      obtain ⟨items, -, -, rfl⟩ := insertHead_onLists runs
      exact .same rfl rfl rfl

theorem step_moves {firmware : Firmware App Answers} {input : Input Answers}
    {config : Transport App × Lists} (inPlace : InPlace config)
    (runs : listStep firmware config input = some next) : Moves config next := by
  obtain ⟨transport, lists⟩ := config
  cases input with
  | arrive type rest =>
      cases runs
      exact .same rfl rfl rfl
  | interrupt ready => exact interrupt_moves inPlace runs
  | main elapsed answers =>
      simp only [listStep, Transport.step] at runs
      split at runs
      · exact main_moves inPlace runs
      · cases runs
        exact .same rfl rfl rfl

end Inversion

/-- An HCI event: its code, and as many bytes of parameters as its length says. -/
def wellFormed : List UInt8 → Bool
  | type :: _ :: plen :: params => type == hciEventPkt && params.length == plen.toNat
  | _ => false

theorem event_getElem? {packet : HciDataPacket} {index : Nat} (inside : index < hciReadPacketSize)
    (below : index < packet.dataLen.toNat) :
    packet.event[index]? = some packet.dataBuff[index] := by
  have length : index < packet.dataBuff.toList.length := by rwa [Vector.length_toList]
  rw [HciDataPacket.event, List.getElem?_take, if_pos below, List.getElem?_eq_getElem length,
    Vector.getElem_toList]

theorem event_eq_cons {packet : HciDataPacket} (long : 3 ≤ packet.dataLen.toNat) :
    packet.event = packet.dataBuff[0] :: packet.dataBuff[1] :: packet.dataBuff[2] ::
      packet.event.drop 3 := by
  have first : packet.event[0]? = _ := event_getElem? (by decide) (by omega)
  have second : packet.event[1]? = _ := event_getElem? (by decide) (by omega)
  have third : packet.event[2]? = _ := event_getElem? (by decide) (by omega)
  generalize packet.event = event at first second third ⊢
  rcases event with _ | ⟨zero, _ | ⟨one, _ | ⟨two, rest⟩⟩⟩ <;> simp_all

theorem length_event {packet : HciDataPacket}
    (short : packet.dataLen.toNat ≤ hciReadPacketSize) :
    packet.event.length = packet.dataLen.toNat := by
  rw [HciDataPacket.event, List.length_take, Vector.length_toList]
  omega

/-- The check accepts the packets that hold a well-formed event, and no others. -/
theorem verifyPacket_eq_zero_iff {packet : HciDataPacket}
    (short : packet.dataLen.toNat ≤ hciReadPacketSize) :
    verifyPacket packet = 0 ↔ wellFormed packet.event = true := by
  have length := length_event short
  have checks : verifyPacket packet = 0 ↔ packet.dataBuff[0] = hciEventPkt ∧
      (packet.dataBuff[2].toNat : Int) = packet.dataLen.toNat - 3 := by
    unfold verifyPacket
    split
    next other => simp [other]
    next type =>
      split
      next differs => simp [differs]
      next same =>
        simp only [ne_eq, Decidable.not_not] at type same
        exact ⟨fun _ => ⟨type, same⟩, fun _ => rfl⟩
  rw [checks]
  by_cases long : 3 ≤ packet.dataLen.toNat
  · rw [event_eq_cons long]
    simp only [wellFormed, Bool.and_eq_true, beq_iff_eq, List.length_drop, length]
    refine and_congr_right fun _ => ?_
    omega
  · constructor
    · rintro ⟨-, same⟩
      omega
    · intro valid
      generalize packet.event = event at length valid
      rcases event with _ | ⟨zero, _ | ⟨one, _ | ⟨two, rest⟩⟩⟩
      · cases valid
      · cases valid
      · cases valid
      · simp only [List.length_cons] at length
        omega

/-- Every event in the queue has exactly one fate, those that wait or were handed over are in
order, and the packets still hold what was put in the queue. -/
structure InOrder (config : Transport App × Lists) : Prop where
  inPlace : InPlace config
  verified : ∀ index, config.1.isr = .queue index →
    verifyPacket (config.1.packets index) = 0 ∧
      (config.1.packets index).dataLen.toNat ≤ hciReadPacketSize
  fates : ∀ number, config.1.events.delivered.count number +
      config.1.events.consumed.count number + config.1.events.lost.count number +
      ((waiting config).map config.1.events.serial).count number =
    if number < config.1.events.queued.length then 1 else 0
  sorted : (config.1.events.delivered ++
    (waiting config).map config.1.events.serial).Pairwise (· < ·)
  contents : ∀ index ∈ waiting config,
    config.1.events.queued[config.1.events.serial index]? = some (config.1.packets index).event
  handed : config.1.events.delivered.map (config.1.events.queued[·]?) =
    config.1.events.handed.map some
  valid : ∀ event ∈ config.1.events.queued, wellFormed event = true

section Preservation

variable {before after : Transport App × Lists}

theorem InOrder.serial_lt (order : InOrder before) {index : PacketIndex}
    (waits : index ∈ waiting before) :
    before.1.events.serial index < before.1.events.queued.length := by
  have found := order.contents index waits
  exact (List.getElem?_eq_some_iff.mp found).1

theorem InOrder.delivered_lt (order : InOrder before) {number : Nat}
    (delivered : number ∈ before.1.events.delivered) :
    number < before.1.events.queued.length := by
  have fate := order.fates number
  have counted := List.one_le_count_iff.mpr delivered
  by_contra above
  rw [if_neg above] at fate
  omega

theorem InOrder.keeps (order : InOrder before) (inPlace : InPlace after)
    (verified : ∀ index, after.1.isr = .queue index →
      verifyPacket (after.1.packets index) = 0 ∧
        (after.1.packets index).dataLen.toNat ≤ hciReadPacketSize)
    (log : after.1.events = before.1.events) (waits : waiting after = waiting before)
    (packets : ∀ index ∈ waiting before, after.1.packets index = before.1.packets index) :
    InOrder after where
  inPlace := inPlace
  verified := verified
  fates := by
    rw [log, waits]
    exact order.fates
  sorted := by
    rw [log, waits]
    exact order.sorted
  contents := by
    intro index member
    rw [waits] at member
    rw [log, packets index member]
    exact order.contents index member
  handed := by
    rw [log]
    exact order.handed
  valid := by
    rw [log]
    exact order.valid

theorem InOrder.queues (order : InOrder before) (inPlace : InPlace after)
    (verified : ∀ index, after.1.isr = .queue index →
      verifyPacket (after.1.packets index) = 0 ∧
        (after.1.packets index).dataLen.toNat ≤ hciReadPacketSize)
    {index : PacketIndex} (isr : before.1.isr = .queue index)
    (log : after.1.events = before.1.events.queue index (before.1.packets index).event)
    (waits : waiting after = waiting before ++ [index])
    (packets : after.1.packets = before.1.packets) : InOrder after := by
  have fresh : index ∉ waiting before :=
    order.inPlace.not_waiting (by rw [isr, Isr.held, List.mem_singleton])
  have serial : ∀ other ∈ waiting before,
      (before.1.events.queue index (before.1.packets index).event).serial other =
        before.1.events.serial other := by
    intro other member
    exact if_neg (ne_of_mem_of_not_mem member fresh)
  have own : (before.1.events.queue index (before.1.packets index).event).serial index =
      before.1.events.queued.length := if_pos rfl
  have serials : (waiting after).map after.1.events.serial =
      (waiting before).map before.1.events.serial ++ [before.1.events.queued.length] := by
    rw [log, waits, List.map_append, List.map_singleton, own]
    congr 1
    exact List.map_congr_left serial
  have queued : after.1.events.queued =
      before.1.events.queued ++ [(before.1.packets index).event] := by rw [log]; rfl
  refine ⟨inPlace, verified, ?_, ?_, ?_, ?_, ?_⟩
  · intro number
    have fate := order.fates number
    rw [serials, queued, log, List.count_append, List.length_append, List.length_singleton]
    simp only [EventLog.queue, List.count_singleton, beq_iff_eq]
    split at fate <;> split <;> split <;> omega
  · have same : after.1.events.delivered = before.1.events.delivered := by rw [log]; rfl
    rw [serials, same, ← List.append_assoc, List.pairwise_append]
    refine ⟨order.sorted, List.pairwise_singleton _ _, ?_⟩
    intro number member last equal
    rw [List.mem_singleton] at equal
    subst equal
    rcases List.mem_append.mp member with delivered | listed
    · exact order.delivered_lt delivered
    · obtain ⟨other, waits, rfl⟩ := List.mem_map.mp listed
      exact order.serial_lt waits
  · intro other member
    rw [waits, List.mem_append, List.mem_singleton] at member
    rw [queued, log, packets]
    rcases member with member | rfl
    · rw [serial other member, List.getElem?_append_left (order.serial_lt member)]
      exact order.contents other member
    · rw [own, List.getElem?_concat_length]
  · have same : after.1.events.handed = before.1.events.handed := by rw [log]; rfl
    have delivered : after.1.events.delivered = before.1.events.delivered := by rw [log]; rfl
    rw [same, delivered, ← order.handed]
    refine List.map_congr_left ?_
    intro number member
    rw [queued, List.getElem?_append_left (order.delivered_lt member)]
  · intro event member
    rw [queued, List.mem_append, List.mem_singleton] at member
    rcases member with member | rfl
    · exact order.valid event member
    · obtain ⟨valid, short⟩ := order.verified index isr
      exact (verifyPacket_eq_zero_iff short).mp valid

theorem InOrder.delivers (order : InOrder before) (inPlace : InPlace after)
    (verified : ∀ index, after.1.isr = .queue index →
      verifyPacket (after.1.packets index) = 0 ∧
        (after.1.packets index).dataLen.toNat ≤ hciReadPacketSize)
    {index : PacketIndex}
    (log : after.1.events = before.1.events.deliver index (before.1.packets index).event)
    (waits : waiting before = index :: waiting after)
    (packets : ∀ other ∈ waiting after, after.1.packets other = before.1.packets other) :
    InOrder after := by
  refine ⟨inPlace, verified, ?_, ?_, ?_, ?_, ?_⟩
  · intro number
    have fate := order.fates number
    have queued : after.1.events.queued = before.1.events.queued := by rw [log]; rfl
    rw [waits, List.map_cons, ← List.singleton_append, List.count_append] at fate
    rw [queued, log]
    simp only [EventLog.deliver, List.count_append]
    omega
  · have sorted := order.sorted
    rw [waits, List.map_cons] at sorted
    rw [log]
    simpa [EventLog.deliver] using sorted
  · intro other member
    rw [log, packets other member]
    exact order.contents other (by rw [waits]; exact List.mem_cons_of_mem _ member)
  · have content := order.contents index (by simp [waits])
    rw [log]
    simp only [EventLog.deliver, List.map_append, List.map_singleton, content]
    rw [order.handed]
  · rw [log]
    exact order.valid

theorem InOrder.drops (order : InOrder before) (inPlace : InPlace after)
    (verified : ∀ index, after.1.isr = .queue index →
      verifyPacket (after.1.packets index) = 0 ∧
        (after.1.packets index).dataLen.toNat ≤ hciReadPacketSize)
    {index : PacketIndex} {front back : List PacketIndex}
    (log : after.1.events = before.1.events.consume index ∨
      after.1.events = before.1.events.lose index)
    (waits : waiting before = front ++ index :: back) (rest : waiting after = front ++ back)
    (packets : after.1.packets = before.1.packets) : InOrder after := by
  have same : after.1.events.queued = before.1.events.queued ∧
      after.1.events.serial = before.1.events.serial ∧
      after.1.events.delivered = before.1.events.delivered ∧
      after.1.events.handed = before.1.events.handed := by
    rcases log with log | log <;> rw [log] <;> exact ⟨rfl, rfl, rfl, rfl⟩
  obtain ⟨queued, serial, delivered, handed⟩ := same
  have fewer : (waiting after).Sublist (waiting before) := by
    rw [waits, rest]
    exact (List.Sublist.refl front).append (List.sublist_cons_self index back)
  refine ⟨inPlace, verified, ?_, ?_, ?_, ?_, ?_⟩
  · intro number
    have fate := order.fates number
    rw [waits, List.map_append, List.map_cons, List.count_append, ← List.singleton_append,
      List.count_append] at fate
    rw [serial, queued, rest, List.map_append, List.count_append]
    rcases log with log | log <;> rw [log] <;>
      simp only [EventLog.consume, EventLog.lose, List.count_append] <;> omega
  · rw [delivered, serial]
    exact order.sorted.sublist ((List.Sublist.refl _).append (fewer.map _))
  · intro other member
    rw [queued, serial, packets]
    exact order.contents other (fewer.subset member)
  · rw [delivered, queued, handed]
    exact order.handed
  · rw [queued]
    exact order.valid

end Preservation

theorem step_verified {firmware : Firmware App Answers} {input : Input Answers}
    {before after : Transport App × Lists} (order : InOrder before)
    (runs : listStep firmware before input = some after) (index : PacketIndex)
    (isr : after.1.isr = .queue index) :
    verifyPacket (after.1.packets index) = 0 ∧
      (after.1.packets index).dataLen.toNat ≤ hciReadPacketSize := by
  obtain ⟨transport, lists⟩ := before
  cases input with
  | arrive type rest =>
      cases runs
      exact order.verified index isr
  | main elapsed answers =>
      simp only [listStep, Transport.step] at runs
      split at runs
      next quiet =>
        have line := (main_line transport firmware elapsed answers).holds runs
        rw [line.isr, quiet] at isr
        cases isr
      next =>
        cases runs
        exact order.verified index isr
  | interrupt ready =>
      simp only [listStep, Transport.step, Transport.interrupt] at runs
      cases place : transport.isr with
      | receive held =>
          rw [place] at runs
          cases runs
          rcases receive_isr transport held ready with back | ⟨queue, valid⟩
          · rw [back] at isr
            cases isr
          · rw [queue] at isr
            cases isr
            exact valid
      | idle =>
          rw [place] at runs
          cases runs
          dsimp only at isr
          split at isr
          · cases isr
          · rw [place] at isr
            cases isr
      | available =>
          rw [place] at runs
          cases runs
          dsimp only at isr
          split at isr <;> cases isr
      | poolEmpty =>
          rw [place] at runs
          obtain ⟨items, -, rfl⟩ := isEmpty_onLists runs
          dsimp only at isr
          split at isr <;> cases isr
      | poolRemove =>
          rw [place] at runs
          obtain ⟨held, items, -, rfl⟩ := removeHead_onLists runs
          cases isr
      | queue inserted =>
          rw [place] at runs
          obtain ⟨items, -, -, rfl⟩ := insertTail_onLists runs
          cases isr
      | giveBack inserted =>
          rw [place] at runs
          obtain ⟨items, -, -, rfl⟩ := insertHead_onLists runs
          cases isr

theorem step_inOrder {firmware : Firmware App Answers} {input : Input Answers}
    {before after : Transport App × Lists} (order : InOrder before)
    (runs : listStep firmware before input = some after) : InOrder after := by
  obtain ⟨next, done, inPlace⟩ := step_inPlace firmware before input order.inPlace
  obtain rfl : next = after := Option.some.inj (done.symm.trans runs)
  have verified := step_verified order runs
  cases step_moves order.inPlace runs with
  | keeps log waits packets => exact order.keeps inPlace verified log waits packets
  | queues index isr log waits packets =>
      exact order.queues inPlace verified isr log waits packets
  | delivers index log waits packets => exact order.delivers inPlace verified log waits packets
  | consumes index front back log waits rest packets =>
      exact order.drops inPlace verified (.inl log) waits rest packets
  | loses index front back log waits rest packets =>
      exact order.drops inPlace verified (.inr log) waits rest packets

theorem initial_inOrder (firmware : Firmware App Answers)
    (packets : PacketIndex → HciDataPacket) (app : App) :
    InOrder (Transport.initial firmware packets app, Lists.initial) := by
  refine ⟨initial_inPlace firmware packets app, ?_, ?_, .nil, ?_, rfl, ?_⟩
  · intro index isr
    cases isr
  · intro number
    rfl
  · intro index member
    cases member
  · intro event member
    cases member

theorem run_inOrder {firmware : Firmware App Answers} {packets : PacketIndex → HciDataPacket}
    {app : App} {inputs : List (Input Answers)} {config : Transport App × Lists}
    (runs : runFrom (listStep firmware) (Transport.initial firmware packets app, Lists.initial)
      inputs = some config) : InOrder config :=
  run_invariant (fun _ _ _ order done => step_inOrder order done) runs
    (initial_inOrder firmware packets app)

theorem InOrder.perm {config : Transport App × Lists} (order : InOrder config) :
    (config.1.events.delivered ++ config.1.events.consumed ++ config.1.events.lost ++
      (waiting config).map config.1.events.serial).Perm
        (List.range config.1.events.queued.length) := by
  rw [List.perm_iff_count]
  intro number
  rw [List.count_append, List.count_append, List.count_append, order.fates number]
  split
  next below =>
    rw [List.count_eq_one_of_mem List.nodup_range (List.mem_range.mpr below)]
  next above =>
    rw [List.count_eq_zero_of_not_mem (fun member => above (List.mem_range.mp member))]

theorem InOrder.picks {config : Transport App × Lists} (order : InOrder config) :
    Picks config.1.events.delivered config.1.events.queued config.1.events.handed :=
  ⟨(List.pairwise_append.mp order.sorted).1, order.handed⟩

/-- In every interleaving, the events the application is called with are events that the
interrupt put in the queue, unaltered, in the order in which it did, and none of them twice; every
event in the queue is a well-formed one, and is delivered, taken as an answer, lost or waiting. -/
theorem events_in_order (firmware : Firmware App Answers) (packets : PacketIndex → HciDataPacket)
    (app : App) (inputs : List (Input Answers)) :
    ∃ transport lists,
      runFrom (listStep firmware) (Transport.initial firmware packets app, Lists.initial) inputs =
        some (transport, lists) ∧
      transport.events.handed.Sublist transport.events.queued ∧
      (∀ event ∈ transport.events.queued, wellFormed event = true) ∧
      (transport.events.delivered ++ transport.events.consumed ++ transport.events.lost ++
        (waiting (transport, lists)).map transport.events.serial).Perm
          (List.range transport.events.queued.length) ∧
      ∀ index ∈ waiting (transport, lists),
        transport.events.queued[transport.events.serial index]? =
          some (transport.packets index).event := by
  obtain ⟨⟨transport, lists⟩, runs, -⟩ :=
    run_safe (step_inPlace firmware) (initial_inPlace firmware packets app) inputs
  have order := run_inOrder runs
  exact ⟨transport, lists, runs, order.picks.sublist, order.valid, order.perm, order.contents⟩

end BleFwUpdate
