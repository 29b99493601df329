import BleFwUpdate.EventOrder

/-! From the radio to the queue: the interrupt takes every event the radio offers, in pieces that
fit a packet, and puts in the queue exactly the pieces that are well-formed events. -/

namespace BleFwUpdate

open Faults

variable {App Answers : Type}

def arrivals (inputs : List (Input Answers)) : List (List UInt8) :=
  inputs.filterMap fun
    | .arrive type rest => some (type :: rest)
    | _ => none

/-- An event as it is read: at most the size of a packet at a time. -/
def pieces (event : List UInt8) : List (List UInt8) :=
  if event = [] then []
  else event.take hciReadPacketSize :: pieces (event.drop hciReadPacketSize)
termination_by event.length
decreasing_by
  rename_i filled
  have positive := List.length_pos_iff.mpr filled
  rw [List.length_drop, hciReadPacketSize]
  omega

/-- The event the interrupt has accepted and not yet put in the queue. -/
def Transport.inHand (transport : Transport App) : List (List UInt8) :=
  match transport.isr with
  | .queue index => [(transport.packets index).event]
  | _ => []

/-- The well-formed pieces of the events that arrived are in the queue, in the hands of the
interrupt, or still with the radio. -/
structure Arrived (arrived : List (List UInt8)) (transport : Transport App) : Prop where
  pieces : (arrived.flatMap pieces).filter wellFormed = transport.events.queued ++
    transport.inHand ++ (transport.offered.flatMap pieces).filter wellFormed
  -- the radio says in two bytes how long an event is
  lengths : ∀ event ∈ transport.offered, event.length < 65536

theorem fill_event {packet : HciDataPacket} {dataLen : UInt8} {offered : List UInt8}
    (short : dataLen.toNat ≤ hciReadPacketSize) (enough : dataLen.toNat ≤ offered.length) :
    (packet.fill dataLen offered).event = offered.take dataLen.toNat := by
  apply List.ext_getElem?
  intro position
  by_cases below : position < dataLen.toNat
  · have inside : position < hciReadPacketSize := by omega
    have inOffered : position < offered.length := by omega
    rw [event_getElem? inside below, List.getElem?_take, if_pos below,
      List.getElem?_eq_getElem inOffered]
    simp [HciDataPacket.fill, below, inOffered]
  · rw [HciDataPacket.event, List.getElem?_take, List.getElem?_take,
      if_neg below]
    exact if_neg below

theorem dataBuff_eq {packet : HciDataPacket} {index : Nat} {byte : UInt8}
    (inside : index < hciReadPacketSize) (found : packet.event[index]? = some byte) :
    packet.dataBuff[index] = byte := by
  have length : index < packet.dataBuff.toList.length := by rwa [Vector.length_toList]
  rw [HciDataPacket.event, List.getElem?_take] at found
  split at found
  · rw [List.getElem?_eq_getElem length, Vector.getElem_toList] at found
    exact Option.some.inj found
  · cases found

theorem hciTlSpiReceive_eq {offered : List UInt8} (length : offered.length < 65536) :
    (hciTlSpiReceive hciReadPacketSize.toUInt16 true offered).toNat =
      min offered.length hciReadPacketSize := by
  have count : (UInt16.ofNat offered.length).toNat = offered.length := by
    rw [UInt16.toNat_ofNat']
    exact Nat.mod_eq_of_lt length
  have size : hciReadPacketSize.toUInt16.toNat = hciReadPacketSize := by decide
  unfold hciTlSpiReceive
  rw [if_pos rfl]
  dsimp only
  split
  next large =>
    have above := UInt16.lt_iff_toNat_lt.mp large
    rw [size, count] at above
    rw [Nat.min_eq_right (by omega)]
    decide
  next small =>
    have below := UInt16.le_iff_toNat_le.mp (UInt16.not_lt.mp small)
    rw [size, count] at below
    rw [UInt16.toNat_toUInt8, count, Nat.min_eq_left below]
    rw [hciReadPacketSize] at below
    exact Nat.mod_eq_of_lt (by omega)

theorem pieces_nil : pieces [] = [] := by
  rw [pieces, if_pos rfl]

theorem pieces_cons {event : List UInt8} (filled : event ≠ []) :
    pieces event = event.take hciReadPacketSize :: pieces (event.drop hciReadPacketSize) := by
  rw [pieces, if_neg filled]

theorem flatMap_pieces_rest (remaining : List UInt8) (later : List (List UInt8)) :
    (if remaining = [] then later else remaining :: later).flatMap pieces =
      pieces remaining ++ later.flatMap pieces := by
  split
  next empty => rw [empty, pieces_nil, List.nil_append]
  next filled => rw [List.flatMap_cons]

section Steps

variable {transport next : Transport App} {arrived : List (List UInt8)}

theorem Arrived.congr (holds : Arrived arrived transport)
    (queued : next.events.queued = transport.events.queued)
    (inHand : next.inHand = transport.inHand) (offered : next.offered = transport.offered) :
    Arrived arrived next := by
  constructor
  · rw [queued, inHand, offered]
    exact holds.pieces
  · rw [offered]
    exact holds.lengths

theorem take_drop_min (event : List UInt8) :
    event.take (min event.length hciReadPacketSize) = event.take hciReadPacketSize ∧
      event.drop (min event.length hciReadPacketSize) = event.drop hciReadPacketSize := by
  rcases Nat.le_total event.length hciReadPacketSize with short | long
  · rw [Nat.min_eq_left short, List.take_length, List.drop_length, List.take_of_length_le short,
      List.drop_eq_nil_of_le short]
    exact ⟨rfl, rfl⟩
  · rw [Nat.min_eq_right long]
    exact ⟨rfl, rfl⟩

theorem Arrived.receive_piece (holds : Arrived arrived transport) (index : PacketIndex)
    (place : transport.isr = .receive index) {event : List UInt8} {later : List (List UInt8)}
    (first : transport.offered = event :: later) (filled : event ≠ []) :
    Arrived arrived (transport.receive true index) := by
  have parts := holds.pieces
  have empty : transport.inHand = [] := by rw [Transport.inHand, place]
  rw [empty, List.append_nil, first, List.flatMap_cons, pieces_cons filled] at parts
  have length := holds.lengths event (by simp [first])
  have count := hciTlSpiReceive_eq length
  generalize dataLen : hciTlSpiReceive hciReadPacketSize.toUInt16 true event = some at count
  have nonempty := List.length_pos_iff.mpr filled
  have positive : 0 < some := by
    rw [UInt8.lt_iff_toNat_lt, UInt8.toNat_zero, count, hciReadPacketSize]
    omega
  have short : some.toNat ≤ hciReadPacketSize := by omega
  have enough : some.toNat ≤ event.length := by omega
  obtain ⟨offered, packet, isr⟩ := receive_something transport index first dataLen positive
  obtain ⟨head, tail⟩ := take_drop_min event
  rw [← count] at head tail
  have held : ((transport.packets index).fill some event).event = event.take hciReadPacketSize := by
    rw [fill_event short enough, head]
  rw [tail] at offered
  constructor
  · rw [parts, receive_events, offered, flatMap_pieces_rest, List.cons_append, List.filter_cons]
    have check := @verifyPacket_eq_zero_iff ((transport.packets index).fill some event) short
    rw [held] at check
    by_cases valid : wellFormed (event.take hciReadPacketSize) = true
    · rw [if_pos (check.mpr valid)] at isr
      rw [if_pos valid, Transport.inHand, isr]
      dsimp only
      rw [packet, held, List.append_assoc, List.singleton_append]
    · rw [if_neg (fun zero => valid (check.mp zero))] at isr
      rw [if_neg valid, Transport.inHand, isr, List.append_nil]
  · intro other member
    rw [offered] at member
    split at member
    · exact holds.lengths other (by rw [first]; exact List.mem_cons_of_mem _ member)
    · rcases List.mem_cons.mp member with rfl | member
      · rw [List.length_drop]
        omega
      · exact holds.lengths other (by rw [first]; exact List.mem_cons_of_mem _ member)

theorem Arrived.receive (holds : Arrived arrived transport) (ready : Bool) (index : PacketIndex)
    (place : transport.isr = .receive index) :
    Arrived arrived (transport.receive ready index) := by
  have empty : transport.inHand = [] := by rw [Transport.inHand, place]
  by_cases nothing :
      hciTlSpiReceive hciReadPacketSize.toUInt16 ready (transport.offered.headD []) = 0
  · rw [receive_nothing transport index nothing]
    exact holds.congr rfl empty.symm rfl
  · cases ready with
    | false => exact absurd rfl nothing
    | true =>
        cases first : transport.offered with
        | nil =>
            rw [first] at nothing
            exact absurd (by decide) nothing
        | cons event later =>
            refine holds.receive_piece index place first ?_
            rintro rfl
            rw [first, List.headD_cons] at nothing
            exact absurd (by decide) nothing

theorem interrupt_arrived {lists : Lists} {result : Transport App × Lists} {ready : Bool}
    (holds : Arrived arrived transport)
    (runs : (transport.interrupt ready).onLists lists = some result) :
    Arrived arrived result.1 := by
  unfold Transport.interrupt at runs
  cases place : transport.isr with
  | idle =>
      have empty : transport.inHand = [] := by rw [Transport.inHand, place]
      rw [place] at runs
      cases runs
      cases edge : transport.edge with
      | true => exact holds.congr rfl empty.symm rfl
      | false => exact holds
  | available =>
      have empty : transport.inHand = [] := by rw [Transport.inHand, place]
      rw [place] at runs
      cases runs
      refine holds.congr rfl ?_ rfl
      rw [empty]
      by_cases none : transport.offered = [] <;> simp [Transport.inHand, none]
  | poolEmpty =>
      have empty : transport.inHand = [] := by rw [Transport.inHand, place]
      rw [place] at runs
      obtain ⟨items, -, rfl⟩ := isEmpty_onLists runs
      refine holds.congr rfl ?_ rfl
      rw [empty]
      cases items <;> rfl
  | poolRemove =>
      have empty : transport.inHand = [] := by rw [Transport.inHand, place]
      rw [place] at runs
      obtain ⟨index, items, -, rfl⟩ := removeHead_onLists runs
      exact holds.congr rfl empty.symm rfl
  | receive index =>
      rw [place] at runs
      cases runs
      exact holds.receive ready index place
  | queue index =>
      have parts := holds.pieces
      have full : transport.inHand = [(transport.packets index).event] := by
        rw [Transport.inHand, place]
      rw [place] at runs
      obtain ⟨items, -, -, rfl⟩ := insertTail_onLists runs
      refine ⟨?_, holds.lengths⟩
      rw [parts, full]
      simp [EventLog.queue, Transport.inHand]
  | giveBack index =>
      have empty : transport.inHand = [] := by rw [Transport.inHand, place]
      rw [place] at runs
      obtain ⟨items, -, -, rfl⟩ := insertHead_onLists runs
      exact holds.congr rfl empty.symm rfl

theorem main_arrived {firmware : Firmware App Answers} {elapsed : Bool} {answers : Answers}
    {lists : Lists} {result : Transport App × Lists} (holds : Arrived arrived transport)
    (inPlace : InPlace (transport, lists)) (quiet : transport.isr = .idle)
    (runs : (transport.main firmware elapsed answers).onLists lists = some result) :
    Arrived arrived result.1 := by
  have line := (main_line transport firmware elapsed answers).holds runs
  have inHand : result.1.inHand = transport.inHand := by
    rw [Transport.inHand, line.isr, quiet, Transport.inHand, quiet]
  refine holds.congr ?_ inHand line.offered
  cases main_moves inPlace runs with
  | keeps log => rw [log]
  | queues index isr =>
      have queue : transport.isr = .queue index := isr
      rw [quiet] at queue
      cases queue
  | delivers index log => rw [log]; rfl
  | consumes index front back log => rw [log]; rfl
  | loses index front back log => rw [log]; rfl

end Steps

theorem step_arrived {firmware : Firmware App Answers} {earlier : List (Input Answers)}
    {input : Input Answers} {config next : Transport App × Lists} (inPlace : InPlace config)
    (short : ∀ event ∈ arrivals [input], event.length < 65536)
    (holds : Arrived (arrivals earlier) config.1)
    (runs : listStep firmware config input = some next) :
    Arrived (arrivals (earlier ++ [input])) next.1 := by
  obtain ⟨transport, lists⟩ := config
  have split : arrivals (earlier ++ [input]) = arrivals earlier ++ arrivals [input] :=
    List.filterMap_append
  rw [split]
  cases input with
  | arrive type rest =>
      cases runs
      have parts := holds.pieces
      constructor
      · simp only [arrivals, List.filterMap_cons, List.filterMap_nil, List.flatMap_append,
          List.filter_append] at parts ⊢
        rw [parts]
        simp [Transport.inHand]
      · intro event member
        rcases List.mem_append.mp member with member | member
        · exact holds.lengths event member
        · exact short event (by simpa [arrivals] using member)
  | interrupt ready =>
      rw [show arrivals [Input.interrupt ready] = [] from rfl, List.append_nil]
      exact interrupt_arrived holds runs
  | main elapsed answers =>
      rw [show arrivals [Input.main elapsed answers] = [] from rfl, List.append_nil]
      simp only [listStep, Transport.step] at runs
      split at runs
      next quiet => exact main_arrived holds inPlace quiet runs
      next =>
        cases runs
        exact holds

theorem run_arrived {firmware : Firmware App Answers} {packets : PacketIndex → HciDataPacket}
    {app : App} {inputs : List (Input Answers)} {config : Transport App × Lists}
    (runs : runFrom (listStep firmware) (Transport.initial firmware packets app, Lists.initial)
      inputs = some config)
    (lengths : ∀ event ∈ arrivals inputs, event.length < 65536) :
    Arrived (arrivals inputs) config.1 := by
  have keeps : ∀ earlier state input next,
      (InPlace state ∧ ((∀ event ∈ arrivals earlier, event.length < 65536) →
        Arrived (arrivals earlier) state.1)) →
      listStep firmware state input = some next →
      InPlace next ∧ ((∀ event ∈ arrivals (earlier ++ [input]), event.length < 65536) →
        Arrived (arrivals (earlier ++ [input])) next.1) := by
    rintro earlier state input next ⟨inPlace, holds⟩ done
    obtain ⟨after, same, kept⟩ := step_inPlace firmware state input inPlace
    obtain rfl : after = next := Option.some.inj (same.symm.trans done)
    refine ⟨kept, fun short => ?_⟩
    have split : arrivals (earlier ++ [input]) = arrivals earlier ++ arrivals [input] :=
      List.filterMap_append
    rw [split] at short
    exact step_arrived inPlace (fun event member => short event (List.mem_append_right _ member))
      (holds fun event member => short event (List.mem_append_left _ member)) done
  have start : InPlace (Transport.initial firmware packets app, Lists.initial) ∧
      ((∀ event ∈ arrivals ([] : List (Input Answers)), event.length < 65536) →
        Arrived (arrivals ([] : List (Input Answers)))
          (Transport.initial firmware packets app)) := by
    refine ⟨initial_inPlace firmware packets app, fun _ => ⟨rfl, ?_⟩⟩
    intro event member
    cases member
  exact (run_history keeps runs start).2 lengths

/-- In every interleaving, however the interrupt is delayed and whether or not the radio is ready,
the queue has received exactly the well-formed events that arrived, in their order, up to those
that the interrupt or the radio still has. -/
theorem events_arrive_in_order (firmware : Firmware App Answers)
    (packets : PacketIndex → HciDataPacket) (app : App) (inputs : List (Input Answers))
    (lengths : ∀ event ∈ arrivals inputs, event.length < 65536) :
    ∃ transport lists,
      runFrom (listStep firmware) (Transport.initial firmware packets app, Lists.initial) inputs =
        some (transport, lists) ∧
      ((arrivals inputs).flatMap pieces).filter wellFormed = transport.events.queued ++
        transport.inHand ++ (transport.offered.flatMap pieces).filter wellFormed := by
  obtain ⟨⟨transport, lists⟩, runs, -⟩ :=
    run_safe (step_inPlace firmware) (initial_inPlace firmware packets app) inputs
  exact ⟨transport, lists, runs, (run_arrived runs lengths).pieces⟩

theorem events_arrive_in_order_short :
    let inputs : List (Input Unit) :=
      [.arrive hciEventPkt [0x05, 0x01, 0x00], .interrupt true, .arrive hciEventPkt [0x10, 0x00]]
    ∃ transport lists,
      runFrom (listStep .silent) (Transport.initial .silent blankPackets (), Lists.initial)
        inputs = some (transport, lists) ∧
      ((arrivals inputs).flatMap pieces).filter wellFormed = transport.events.queued ++
        transport.inHand ++ (transport.offered.flatMap pieces).filter wellFormed :=
  events_arrive_in_order .silent blankPackets () _ (by decide)

end BleFwUpdate
