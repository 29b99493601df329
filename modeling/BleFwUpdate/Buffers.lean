import BleFwUpdate.Transport
import Mathlib.Data.List.FinRange

/-! The packet buffers in every interleaving of the main program and the interrupt: each is in
one place, and no call of `ble_list.c` is out of place. -/

namespace BleFwUpdate

open Faults

variable {App Answers : Type}

/-- The program over plain lists. -/
def listStep (firmware : Firmware App Answers) (config : Transport App × Lists)
    (input : Input Answers) : Option (Transport App × Lists) :=
  (config.1.step firmware input).onLists config.2

def Phase.held : Phase → List PacketIndex
  | .freeInsert index | .examine index | .poolEmpty index | .rxQueueEmpty index
  | .discard index | .keep index | .release index _ | .moveInsert index _ => [index]
  | _ => []

def Caller.held : Caller → List PacketIndex
  | .userEvtRx index => [index]
  | _ => []

def Control.held : Control → List PacketIndex
  | .calls caller _ => caller.held
  | .sendReq caller _ _ phase => caller.held ++ phase.held
  | .evtProcCall index | .evtProcInsert index | .gone index => [index]
  | _ => []

def Isr.held : Isr → List PacketIndex
  | .receive index | .queue index | .giveBack index => [index]
  | _ => []

/-- What a place in `hci_send_req` relies on: `hciTempQueue` is in use, and there is something to
remove. -/
def Phase.Ready (lists : Lists) : Phase → Prop
  | .initHead => lists.tempQueue = none
  | .getSize | .freeInsert _ | .send | .leave _ => lists.tempQueue = some []
  | .freeRemove => lists.tempQueue = some [] ∧ lists.rxQueue ≠ []
  | .extract => lists.tempQueue.isSome ∧ lists.rxQueue ≠ []
  | .moveRemove _ => lists.tempQueue.isSome ∧ lists.temp ≠ []
  | _ => lists.tempQueue.isSome

def Control.Ready (lists : Lists) : Control → Prop
  | .sendReq _ _ _ phase => phase.Ready lists
  | .evtProcRemove => lists.tempQueue = none ∧ lists.rxQueue ≠ []
  | _ => lists.tempQueue = none

def Isr.Ready (lists : Lists) : Isr → Prop
  | .poolRemove => lists.pool ≠ []
  | _ => True

def Transport.hands (transport : Transport App) (index : PacketIndex) : Nat :=
  transport.control.held.count index + transport.isr.held.count index

/-- The packets leave the hands by the calls that insert them, and come back by those that
remove them. -/
def Command.Balanced {State : Type} (hands : State → PacketIndex → Nat)
    (before : PacketIndex → Nat) : Command State → Prop
  | .skip next | .initHead _ next | .leave next => ∀ index, hands next index = before index
  | .isEmpty _ next => ∀ empty index, hands (next empty) index = before index
  | .getSize _ next => ∀ size index, hands (next size) index = before index
  | .insertHead _ inserted next | .insertTail _ inserted next =>
      ∀ index, before index = hands next index + [inserted].count index
  | .removeHead _ next | .removeTail _ next =>
      ∀ removed index, hands (next removed) index = before index + [removed].count index

theorem Lists.count_set {lists : Lists} {queue : Queue} {items : List PacketIndex}
    (found : lists.get queue = some items) (others : List PacketIndex) (index : PacketIndex) :
    (lists.set queue others).all.count index + items.count index =
      lists.all.count index + others.count index := by
  cases queue with
  | hciReadPktPool =>
      cases found
      simp only [Lists.set, Lists.all, Lists.temp, List.count_append]
      omega
  | hciReadPktRxQueue =>
      cases found
      simp only [Lists.set, Lists.all, Lists.temp, List.count_append]
      omega
  | hciTempQueue =>
      have temp : lists.tempQueue = some items := found
      simp only [Lists.set, Lists.all, Lists.temp, temp, Option.getD_some, List.count_append]
      omega

theorem count_cons_eq (first index : PacketIndex) (items : List PacketIndex) :
    (first :: items).count index = [first].count index + items.count index := by
  rw [← List.count_append, List.singleton_append]

theorem Command.Balanced.conserves {State : Type} {hands : State → PacketIndex → Nat}
    {before : PacketIndex → Nat} {command : Command State} {lists after : Lists} {next : State}
    (balanced : command.Balanced hands before)
    (runs : command.onLists lists = some (next, after)) (index : PacketIndex) :
    after.all.count index + hands next index = lists.all.count index + before index := by
  cases command with
  | skip next =>
      cases runs
      rw [balanced index]
  | initHead queue next =>
      obtain ⟨fresh, equal⟩ := initHead_onLists runs
      cases equal
      rw [balanced index]
      congr 1
      cases found : lists.get queue with
      | some items =>
          have counts := Lists.count_set found [] index
          rw [found, Option.getD_some] at fresh
          rwa [fresh, List.count_nil, Nat.add_zero, Nat.add_zero] at counts
      | none =>
          cases queue with
          | hciReadPktPool => cases found
          | hciReadPktRxQueue => cases found
          | hciTempQueue =>
              have temp : lists.tempQueue = none := found
              simp [Lists.set, Lists.all, Lists.temp, temp]
  | isEmpty queue next =>
      obtain ⟨items, -, equal⟩ := isEmpty_onLists runs
      cases equal
      rw [balanced items.isEmpty index]
  | getSize queue next =>
      obtain ⟨items, -, equal⟩ := getSize_onLists runs
      cases equal
      rw [balanced items.length index]
  | insertHead queue inserted next =>
      obtain ⟨items, found, -, equal⟩ := insertHead_onLists runs
      cases equal
      have counts := Lists.count_set found (inserted :: items) index
      rw [count_cons_eq] at counts
      have moved := balanced index
      omega
  | insertTail queue inserted next =>
      obtain ⟨items, found, -, equal⟩ := insertTail_onLists runs
      cases equal
      have counts := Lists.count_set found (items ++ [inserted]) index
      have moved := balanced index
      rw [List.count_append] at counts
      omega
  | removeHead queue next =>
      obtain ⟨removed, items, found, equal⟩ := removeHead_onLists runs
      cases equal
      have counts := Lists.count_set found items index
      rw [count_cons_eq] at counts
      have moved := balanced removed index
      omega
  | removeTail queue next =>
      obtain ⟨removed, items, found, equal⟩ := removeTail_onLists runs
      cases equal
      have counts := Lists.count_set found items index
      have moved := balanced removed index
      rw [List.count_append] at counts
      omega
  | leave next =>
      obtain ⟨empty, equal⟩ := leave_onLists runs
      cases equal
      rw [balanced index]
      simp [Lists.all, Lists.temp, empty]

section Balance

variable (firmware : Firmware App Answers) (transport : Transport App)

@[simp] theorem hands_goto (control : Control) (index : PacketIndex) :
    (transport.goto control).hands index =
      control.held.count index + transport.isr.held.count index := rfl

@[simp] theorem hands_requests (caller : Caller) (requests : List HciRequest)
    (index : PacketIndex) : (transport.requests caller requests).hands index =
      caller.held.count index + transport.isr.held.count index := rfl

@[simp] theorem sendReq_held (caller : Caller) (request : HciRequest) (rest : List HciRequest)
    (phase : Phase) (index : PacketIndex) :
    (Control.sendReq caller request rest phase).held.count index =
      caller.held.count index + phase.held.count index := List.count_append

theorem sendReq_balanced (elapsed : Bool) (caller : Caller) (request : HciRequest)
    (rest : List HciRequest) (phase : Phase)
    (here : transport.control = .sendReq caller request rest phase) :
    (transport.sendReq elapsed caller request rest phase).Balanced Transport.hands
      transport.hands := by
  have before : ∀ index, transport.hands index =
      caller.held.count index + phase.held.count index + transport.isr.held.count index := by
    intro index
    rw [Transport.hands, here, sendReq_held]
  cases phase with
  | initHead => simp [Transport.sendReq, Command.Balanced, before, Phase.held]
  | getSize =>
      intro size index
      by_cases small : size < hciReadPacketNumMax / 2 <;> simp [small, before, Phase.held]
  | freeRemove =>
      intro removed index
      simp only [hands_goto, sendReq_held, before, Phase.held, Transport.loses_isr,
        List.count_nil]
      omega
  | freeInsert inserted =>
      intro index
      simp only [hands_goto, sendReq_held, before, Phase.held, List.count_nil]
      omega
  | send => simp [Transport.sendReq, Command.Balanced, before, Phase.held]
  | wait =>
      simp only [Transport.sendReq]
      cases elapsed with
      | true => simp [Command.Balanced, before, Phase.held]
      | false =>
          intro empty index
          cases empty <;> simp [before, Phase.held]
  | extract =>
      intro removed index
      simp only [hands_goto, sendReq_held, before, Phase.held, List.count_nil]
      omega
  | examine held =>
      simp only [Transport.sendReq]
      cases examineEvent request (transport.packets held) <;>
        simp [Command.Balanced, before, Phase.held]
  | poolEmpty held =>
      intro empty index
      cases empty <;> simp [before, Phase.held]
  | rxQueueEmpty held =>
      intro empty index
      cases empty <;> simp [before, Phase.held]
  | discard inserted =>
      intro index
      simp only [hands_goto, sendReq_held, before, Phase.held, List.count_nil]
      omega
  | keep inserted =>
      intro index
      simp only [hands_goto, sendReq_held, before, Phase.held, List.count_nil]
      omega
  | release inserted ret =>
      intro index
      simp only [hands_goto, sendReq_held, before, Phase.held, List.count_nil]
      omega
  | moveEmpty ret =>
      intro empty index
      cases empty <;> simp [before, Phase.held]
  | moveRemove ret =>
      intro removed index
      simp only [hands_goto, sendReq_held, before, Phase.held, List.count_nil]
      omega
  | moveInsert inserted ret =>
      intro index
      simp only [hands_goto, sendReq_held, before, Phase.held, List.count_nil]
      omega
  | leave ret => simp [Transport.sendReq, Command.Balanced, before, Phase.held, Control.held]

theorem main_balanced (elapsed : Bool) (answers : Answers) :
    (transport.main firmware elapsed answers).Balanced Transport.hands transport.hands := by
  have before : ∀ index, transport.hands index =
      transport.control.held.count index + transport.isr.held.count index := fun _ => rfl
  unfold Transport.main
  cases here : transport.control with
  | calls caller requests =>
      cases requests with
      | cons request rest => simp [Command.Balanced, before, here, Control.held, Phase.held]
      | nil =>
          cases caller with
          | blueNrgInit =>
              intro index
              by_cases ok : firmware.initOk transport.calls.results <;>
                simp [ok, before, here, Control.held, Caller.held]
          | enableAdvertising => simp [Command.Balanced, before, here, Control.held, Caller.held]
          | userEvtRx index => simp [Command.Balanced, before, here, Control.held, Caller.held]
  | sendReq caller request rest phase =>
      exact sendReq_balanced transport elapsed caller request rest phase here
  | process =>
      intro index
      by_cases due : firmware.setConnectable transport.app <;>
        simp [due, before, here, Control.held, Caller.held]
  | evtProcEmpty =>
      intro empty index
      cases empty <;> simp [before, here, Control.held]
  | evtProcRemove =>
      intro removed index
      simp only [hands_goto, before, here, Control.held, List.count_nil]
      omega
  | evtProcCall held =>
      intro index
      rcases callback_control transport held firmware answers with gone | ⟨requests, calls⟩
      · rw [Transport.hands, (callback_line transport held firmware answers).isr, gone, before, here]
        rfl
      · rw [Transport.hands, (callback_line transport held firmware answers).isr, calls, before, here]
        rfl
  | evtProcInsert inserted =>
      intro index
      simp only [hands_goto, before, here, Control.held, List.count_nil]
      omega
  | initFailed => simp [Command.Balanced]
  | gone index => simp [Command.Balanced]

theorem interrupt_balanced (ready : Bool) :
    (transport.interrupt ready).Balanced Transport.hands transport.hands := by
  unfold Transport.interrupt
  cases place : transport.isr with
  | idle =>
      intro index
      by_cases edge : transport.edge <;> simp [edge, Transport.hands, place, Isr.held]
  | available =>
      intro index
      by_cases empty : transport.offered = [] <;>
        simp [empty, Transport.hands, place, Isr.held]
  | poolEmpty =>
      intro empty index
      cases empty <;> simp [Transport.hands, place, Isr.held]
  | poolRemove =>
      intro removed index
      simp [Transport.hands, place, Isr.held]
  | receive held =>
      intro index
      rw [Transport.hands, Transport.hands, receive_control, place]
      rcases receive_isr transport held ready with isr | ⟨isr, -⟩ <;> rw [isr] <;> rfl
  | queue inserted =>
      intro index
      simp [Transport.hands, place, Isr.held]
  | giveBack inserted =>
      intro index
      simp [Transport.hands, place, Isr.held]

theorem step_balanced (input : Input Answers) :
    (transport.step firmware input).Balanced Transport.hands transport.hands := by
  cases input with
  | arrive type rest => exact fun index => rfl
  | interrupt ready => exact interrupt_balanced transport ready
  | main elapsed answers =>
      unfold Transport.step
      dsimp only
      split
      · exact main_balanced firmware transport elapsed answers
      · exact fun index => rfl

end Balance

structure InPlace (config : Transport App × Lists) : Prop where
  once : ∀ index, config.2.all.count index + config.1.hands index = 1
  main : config.1.control.Ready config.2
  isr : config.1.isr.Ready config.2

theorem InPlace.free {config : Transport App × Lists} (inPlace : InPlace config)
    {index : PacketIndex} (held : 0 < config.1.hands index) : index ∉ config.2.all := by
  intro member
  have once := inPlace.once index
  have listed := List.one_le_count_iff.mpr member
  omega

theorem InPlace.perm {config : Transport App × Lists} (inPlace : InPlace config) :
    (config.2.all ++ config.1.control.held ++ config.1.isr.held).Perm
      (List.finRange hciReadPacketNumMax) := by
  rw [List.perm_iff_count]
  intro index
  rw [List.count_append, List.count_append, Nat.add_assoc,
    List.count_eq_one_of_mem (List.nodup_finRange _) (List.mem_finRange index)]
  exact inPlace.once index

theorem InPlace.length {config : Transport App × Lists} (inPlace : InPlace config) :
    config.2.all.length + config.1.control.held.length + config.1.isr.held.length =
      hciReadPacketNumMax := by
  have lengths := inPlace.perm.length_eq
  rwa [List.length_append, List.length_append, List.length_finRange] at lengths

def GoesOn (command : Command (Transport App)) (lists : Lists) : Prop :=
  ∃ next after, command.onLists lists = some (next, after) ∧
    next.control.Ready after ∧ next.isr.Ready after

section Calls

variable {lists : Lists} {queue : Queue} {items : List PacketIndex} {index : PacketIndex}
  {next : Transport App}

theorem GoesOn.skip (main : next.control.Ready lists) (isr : next.isr.Ready lists) :
    GoesOn (.skip next) lists :=
  ⟨next, lists, rfl, main, isr⟩

theorem GoesOn.initHead (fresh : (lists.get queue).getD [] = [])
    (main : next.control.Ready (lists.set queue [])) (isr : next.isr.Ready (lists.set queue [])) :
    GoesOn (.initHead queue next) lists :=
  ⟨_, _, by rw [Command.onLists, if_pos fresh], main, isr⟩

theorem GoesOn.leave (temp : lists.tempQueue = some [])
    (main : next.control.Ready { lists with tempQueue := none })
    (isr : next.isr.Ready { lists with tempQueue := none }) : GoesOn (.leave next) lists :=
  ⟨_, _, by rw [Command.onLists, if_pos temp], main, isr⟩

theorem GoesOn.isEmpty {next : Bool → Transport App} (found : lists.get queue = some items)
    (main : (next items.isEmpty).control.Ready lists)
    (isr : (next items.isEmpty).isr.Ready lists) : GoesOn (.isEmpty queue next) lists :=
  ⟨_, _, by rw [Command.onLists, found]; rfl, main, isr⟩

theorem GoesOn.insertHead (found : lists.get queue = some items) (free : index ∉ lists.all)
    (main : next.control.Ready (lists.set queue (index :: items)))
    (isr : next.isr.Ready (lists.set queue (index :: items))) :
    GoesOn (.insertHead queue index next) lists :=
  ⟨_, _, by rw [Command.onLists, if_neg free, found]; rfl, main, isr⟩

theorem GoesOn.insertTail (found : lists.get queue = some items) (free : index ∉ lists.all)
    (main : next.control.Ready (lists.set queue (items ++ [index])))
    (isr : next.isr.Ready (lists.set queue (items ++ [index]))) :
    GoesOn (.insertTail queue index next) lists :=
  ⟨_, _, by rw [Command.onLists, if_neg free, found]; rfl, main, isr⟩

theorem GoesOn.removeHead {next : PacketIndex → Transport App}
    (found : lists.get queue = some items) (filled : items ≠ [])
    (main : ∀ index, (next index).control.Ready (lists.set queue items.tail))
    (isr : ∀ index, (next index).isr.Ready (lists.set queue items.tail)) :
    GoesOn (.removeHead queue next) lists := by
  cases items with
  | nil => exact absurd rfl filled
  | cons index rest => exact ⟨_, _, by simp only [Command.onLists, found, List.tail_cons], main index,
      isr index⟩

theorem GoesOn.removeTail {next : PacketIndex → Transport App}
    (found : lists.get queue = some items) (filled : items ≠ [])
    (main : ∀ index, (next index).control.Ready (lists.set queue items.dropLast))
    (isr : ∀ index, (next index).isr.Ready (lists.set queue items.dropLast)) :
    GoesOn (.removeTail queue next) lists := by
  refine ⟨_, _, ?_, main (items.getLast filled), isr (items.getLast filled)⟩
  rw [Command.onLists, found, Option.bind_some, List.getLast?_eq_getLast_of_ne_nil filled]
  rfl

end Calls

section Progress

variable {transport : Transport App} {lists : Lists}

theorem rxQueue_ne_nil {caller : Caller} {request : HciRequest} {rest : List HciRequest}
    (inPlace : InPlace (transport, lists)) (quiet : transport.isr = .idle)
    (here : transport.control = .sendReq caller request rest .getSize)
    (temp : lists.tempQueue = some []) (few : lists.pool.length < hciReadPacketNumMax / 2) :
    lists.rxQueue ≠ [] := by
  intro empty
  have length := inPlace.length
  have held : caller.held.length ≤ 1 := by cases caller <;> simp [Caller.held]
  simp only [Lists.all, Lists.temp, temp, empty, quiet, here, Control.held, Phase.held, Isr.held,
    Option.getD_some, List.append_nil, List.length_nil, hciReadPacketNumMax] at length few
  omega

theorem sendReq_goesOn (elapsed : Bool) (caller : Caller) (request : HciRequest)
    (rest : List HciRequest) (phase : Phase) (inPlace : InPlace (transport, lists))
    (quiet : transport.isr = .idle)
    (here : transport.control = .sendReq caller request rest phase) :
    GoesOn (transport.sendReq elapsed caller request rest phase) lists := by
  have ready : phase.Ready lists := by
    have main := inPlace.main
    rwa [here] at main
  have free : ∀ index, index ∈ phase.held → index ∉ lists.all := by
    intro index held
    refine inPlace.free ?_
    rw [Transport.hands, here, sendReq_held]
    have counted := List.one_le_count_iff.mpr held
    omega
  have idle : ∀ after, transport.isr.Ready after := by
    intro after
    rw [quiet]
    trivial
  cases phase with
  | initHead =>
      have unused : lists.tempQueue = none := ready
      exact .initHead (by simp [Lists.get, unused]) rfl (idle _)
  | getSize =>
      refine ⟨_, lists, rfl, ?_, idle _⟩
      by_cases few : lists.pool.length < hciReadPacketNumMax / 2
      · simpa [few, Control.Ready, Phase.Ready] using
          ⟨ready, rxQueue_ne_nil inPlace quiet here ready few⟩
      · simpa [few, Control.Ready, Phase.Ready] using ready
  | freeRemove => exact .removeHead rfl ready.2 (fun _ => ready.1) fun _ => idle _
  | freeInsert inserted =>
      exact .insertTail rfl (free inserted (by simp [Phase.held])) ready (idle _)
  | send => 
      have temp : lists.tempQueue = some [] := ready
      exact .skip (by simp [Control.Ready, Phase.Ready, temp]) (idle _)
  | wait =>
      simp only [Transport.sendReq]
      cases elapsed with
      | true => exact .skip ready (idle _)
      | false =>
          refine .isEmpty rfl ?_ (idle _)
          cases filled : lists.rxQueue with
          | nil => exact ready
          | cons index items => exact ⟨ready, by simp [filled]⟩
  | extract => exact .removeHead rfl ready.2 (fun _ => ready.1) fun _ => idle _
  | examine held =>
      simp only [Transport.sendReq]
      cases examineEvent request (transport.packets held) with
      | failed => exact .skip ready (idle _)
      | done rparam => exact .skip ready (idle _)
      | other => exact .skip ready (idle _)
  | poolEmpty held =>
      refine .isEmpty rfl ?_ (idle _)
      cases lists.pool.isEmpty <;> exact ready
  | rxQueueEmpty held =>
      refine .isEmpty rfl ?_ ?_
      · cases lists.rxQueue.isEmpty <;> exact ready
      · cases lists.rxQueue.isEmpty <;> exact idle _
  | discard inserted => exact .insertTail rfl (free inserted (by simp [Phase.held])) ready (idle _)
  | keep inserted =>
      obtain ⟨items, temp⟩ := Option.isSome_iff_exists.mp ready
      exact .insertTail temp (free inserted (by simp [Phase.held])) rfl (idle _)
  | release inserted ret =>
      exact .insertHead rfl (free inserted (by simp [Phase.held])) ready (idle _)
  | moveEmpty ret =>
      obtain ⟨items, temp⟩ := Option.isSome_iff_exists.mp ready
      refine .isEmpty temp ?_ (idle _)
      cases items with
      | nil => exact temp
      | cons index items => exact ⟨ready, by simp [Lists.temp, temp]⟩
  | moveRemove ret =>
      obtain ⟨items, temp⟩ := Option.isSome_iff_exists.mp ready.1
      have filled : items ≠ [] := by simpa [Lists.temp, temp] using ready.2
      exact .removeTail temp filled (fun _ => rfl) fun _ => idle _
  | moveInsert inserted ret =>
      exact .insertHead rfl (free inserted (by simp [Phase.held])) ready (idle _)
  | leave ret => exact .leave ready rfl (idle _)

theorem main_goesOn (firmware : Firmware App Answers) (elapsed : Bool) (answers : Answers)
    (inPlace : InPlace (transport, lists)) (quiet : transport.isr = .idle) :
    GoesOn (transport.main firmware elapsed answers) lists := by
  have ready := inPlace.main
  have idle : ∀ after, transport.isr.Ready after := by
    intro after
    rw [quiet]
    trivial
  unfold Transport.main
  cases here : transport.control with
  | calls caller requests =>
      rw [here] at ready
      cases requests with
      | cons request rest => exact .skip ready (idle _)
      | nil =>
          cases caller with
          | blueNrgInit =>
              refine .skip ?_ (idle _)
              rw [Transport.goto_control]
              split <;> exact ready
          | enableAdvertising => exact .skip ready (idle _)
          | userEvtRx index => exact .skip ready (idle _)
  | sendReq caller request rest phase =>
      exact sendReq_goesOn elapsed caller request rest phase inPlace quiet here
  | process =>
      rw [here] at ready
      cases due : firmware.setConnectable transport.app with
      | true => exact .skip ready (idle _)
      | false => exact .skip ready (idle _)
  | evtProcEmpty =>
      rw [here] at ready
      refine .isEmpty rfl ?_ (idle _)
      cases filled : lists.rxQueue with
      | nil => exact ready
      | cons index items => exact ⟨ready, by simp [filled]⟩
  | evtProcRemove =>
      rw [here] at ready
      exact .removeHead rfl ready.2 (fun _ => ready.1) fun _ => idle _
  | evtProcCall held =>
      rw [here] at ready
      refine .skip ?_ ?_
      · rcases callback_control transport held firmware answers with gone | ⟨requests, calls⟩
        · rw [gone]
          exact ready
        · rw [calls]
          exact ready
      · rw [(callback_line transport held firmware answers).isr]
        exact idle _
  | evtProcInsert inserted =>
      have free : inserted ∉ lists.all := by
        refine inPlace.free ?_
        simp only [Transport.hands, here, Control.held, List.count_singleton_self]
        omega
      rw [here] at ready
      exact .insertTail rfl free ready (idle _)
  | initFailed =>
      exact .skip inPlace.main (idle _)
  | gone index =>
      exact .skip inPlace.main (idle _)

theorem ready_of_grown {control : Control} {after : Lists} (ready : control.Ready lists)
    (temp : after.tempQueue = lists.tempQueue)
    (grown : lists.rxQueue ≠ [] → after.rxQueue ≠ []) : control.Ready after := by
  cases control with
  | sendReq caller request rest phase =>
      cases phase <;> simp_all [Control.Ready, Phase.Ready, Lists.temp]
  | evtProcRemove => exact ⟨temp.trans ready.1, grown ready.2⟩
  | calls caller requests => exact temp.trans ready
  | process => exact temp.trans ready
  | evtProcEmpty => exact temp.trans ready
  | evtProcCall index => exact temp.trans ready
  | evtProcInsert index => exact temp.trans ready
  | initFailed => exact temp.trans ready
  | gone index => exact temp.trans ready

theorem interrupt_goesOn (ready : Bool) (inPlace : InPlace (transport, lists)) :
    GoesOn (transport.interrupt ready) lists := by
  have main := inPlace.main
  have free : ∀ index, index ∈ transport.isr.held → index ∉ lists.all := by
    intro index held
    refine inPlace.free ?_
    have counted := List.one_le_count_iff.mpr held
    simp only [Transport.hands]
    omega
  unfold Transport.interrupt
  cases place : transport.isr with
  | idle =>
      refine .skip ?_ ?_
      · split <;> exact main
      · split
        · trivial
        · rw [place]
          trivial
  | available =>
      refine .skip main ?_
      dsimp only
      split <;> trivial
  | poolEmpty =>
      refine .isEmpty rfl main ?_
      cases filled : lists.pool with
      | nil => trivial
      | cons index items => simp [Isr.Ready, filled]
  | poolRemove =>
      have filled : lists.pool ≠ [] := by
        have isr := inPlace.isr
        rwa [place] at isr
      exact .removeHead rfl filled (fun _ => ready_of_grown main rfl id) fun _ => trivial
  | receive index =>
      refine .skip ?_ ?_
      · rw [receive_control]
        exact main
      · rcases receive_isr transport index ready with isr | ⟨isr, -⟩ <;> rw [isr] <;> trivial
  | queue inserted =>
      exact .insertTail rfl (free inserted (by simp [place, Isr.held]))
        (ready_of_grown main rfl fun _ => by simp [Lists.set]) trivial
  | giveBack inserted =>
      exact .insertHead rfl (free inserted (by simp [place, Isr.held]))
        (ready_of_grown main rfl id) trivial

theorem step_goesOn (firmware : Firmware App Answers) (input : Input Answers)
    (inPlace : InPlace (transport, lists)) : GoesOn (transport.step firmware input) lists := by
  cases input with
  | arrive type rest => exact .skip inPlace.main inPlace.isr
  | interrupt ready => exact interrupt_goesOn ready inPlace
  | main elapsed answers =>
      unfold Transport.step
      dsimp only
      split
      · exact main_goesOn firmware elapsed answers inPlace (by assumption)
      · exact .skip inPlace.main inPlace.isr

theorem step_inPlace (firmware : Firmware App Answers) (config : Transport App × Lists)
    (input : Input Answers) (inPlace : InPlace config) :
    ∃ next, listStep firmware config input = some next ∧ InPlace next := by
  obtain ⟨transport, lists⟩ := config
  obtain ⟨next, after, runs, main, isr⟩ := step_goesOn firmware input inPlace
  refine ⟨(next, after), runs, ?_, main, isr⟩
  intro index
  rw [(step_balanced firmware transport input).conserves runs index]
  exact inPlace.once index

end Progress

/-- The lists that `hci_init` sets up. -/
def Lists.initial : Lists where
  pool := List.finRange hciReadPacketNumMax
  rxQueue := []
  tempQueue := none

/-- The program after `hci_init`, which has reset the radio. -/
def Transport.initial (firmware : Firmware App Answers) (packets : PacketIndex → HciDataPacket)
    (app : App) : Transport App where
  control := .calls .blueNrgInit firmware.initRequests
  isr := .idle
  edge := false
  offered := []
  packets := packets
  app := app
  events := {
    queued := []
    serial := fun _ => 0
    delivered := []
    consumed := []
    lost := []
    handed := [] }
  calls := {
    requested := firmware.initRequests
    commands := []
    results := [] }

/-- A program that asks nothing of the radio. -/
def Firmware.silent : Firmware Unit Unit where
  initRequests := []
  initOk _ := true
  advertisingRequests := []
  setConnectable _ := false
  advertised app := app
  userEvtRx _ packet app := (app, [], packet.dataBuff)
  gone _ := false

/-- `hciReadPacketBuffer` at power-on. -/
def blankPackets (_ : PacketIndex) : HciDataPacket := ⟨Vector.replicate hciReadPacketSize 0, 0⟩

theorem initial_inPlace (firmware : Firmware App Answers)
    (packets : PacketIndex → HciDataPacket) (app : App) :
    InPlace (Transport.initial firmware packets app, Lists.initial) := by
  refine ⟨?_, rfl, trivial⟩
  intro index
  simp [Lists.initial, Lists.all, Lists.temp, Transport.hands, Transport.initial, Control.held,
    Caller.held, Isr.held]

/-- In every interleaving of arrivals, interrupts, steps of the main program and timeouts, no
call is made out of place, and each of the packets is on one list or in the hands of the main
program or of the interrupt. -/
theorem packets_conserved (firmware : Firmware App Answers)
    (packets : PacketIndex → HciDataPacket) (app : App) (inputs : List (Input Answers)) :
    ∃ transport lists,
      runFrom (listStep firmware) (Transport.initial firmware packets app, Lists.initial) inputs =
        some (transport, lists) ∧
      (lists.pool ++ lists.rxQueue ++ lists.temp ++ transport.control.held ++
        transport.isr.held).Perm (List.finRange hciReadPacketNumMax) := by
  obtain ⟨⟨transport, lists⟩, runs, inPlace⟩ :=
    run_safe (step_inPlace firmware) (initial_inPlace firmware packets app) inputs
  exact ⟨transport, lists, runs, inPlace.perm⟩

end BleFwUpdate
