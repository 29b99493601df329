import BleFwUpdate.EventOrder

/-! How long `hci_send_req` can take, apart from waiting: its loops come to an end although the
interrupt puts events in the queue that they work through. -/

namespace BleFwUpdate

open Faults

variable {App Answers : Type}

/-- The steps that `hci_send_req` can still make without waiting and without new events. -/
def Phase.rank (queued kept : Nat) : Phase → Nat
  | .initHead => 9 * queued + 3 * kept + 7
  | .getSize => 9 * queued + 3 * kept + 6
  | .freeRemove => 9 * queued + 3 * kept + 5
  | .freeInsert _ => 9 * queued + 3 * kept + 8
  | .send => 9 * queued + 3 * kept + 5
  | .wait => 9 * queued + 3 * kept + 4
  | .extract => 9 * queued + 3 * kept + 3
  | .examine _ => 9 * queued + 3 * kept + 11
  | .poolEmpty _ => 9 * queued + 3 * kept + 10
  | .rxQueueEmpty _ => 9 * queued + 3 * kept + 9
  | .discard _ => 9 * queued + 3 * kept + 8
  | .keep _ => 9 * queued + 3 * kept + 8
  | .release _ _ => 3 * kept + 3
  | .moveEmpty _ => 3 * kept + 2
  | .moveRemove _ => 3 * kept + 1
  | .moveInsert _ _ => 3 * kept + 3
  | .leave _ => 1

def Control.rank (queued kept : Nat) : Control → Nat
  | .sendReq _ _ _ phase => phase.rank queued kept
  | _ => 0

def rank (config : Transport App × Lists) : Nat :=
  config.1.control.rank config.2.rxQueue.length config.2.temp.length

/-- The calls of `hci_send_req`, the one that has not returned included. -/
def begun (transport : Transport App) : Nat :=
  transport.calls.results.length + match transport.control with
    | .sendReq _ _ _ _ => 1
    | _ => 0

/-- What pays for the steps: a call pays for the events that wait when it begins, and an event for
what it adds to the work of the call it comes in. -/
def budget (config : Transport App × Lists) : Nat :=
  52 * begun config.1 + 9 * config.1.events.queued.length

/-- A step of `hci_send_req`, but for a turn of the loop that waits for an event. -/
def works (config : Transport App × Lists) (input : Input Answers) : Nat :=
  match input, config.1.isr, config.1.control with
  | .main elapsed _, .idle, .sendReq _ _ _ phase =>
      if phase = .wait ∧ elapsed = false ∧ config.2.rxQueue = [] then 0 else 1
  | _, _, _ => 0

def Paid (cost : Nat) (config next : Transport App × Lists) : Prop :=
  cost + rank next + budget config ≤ rank config + budget next

section Steps

variable {firmware : Firmware App Answers} {transport : Transport App} {lists : Lists}
  {next : Transport App × Lists}

theorem Paid.of_rank {cost : Nat} {config : Transport App × Lists}
    (calls : begun next.1 = begun config.1)
    (queued : next.1.events.queued = config.1.events.queued)
    (less : cost + rank next ≤ rank config) : Paid cost config next := by
  rw [Paid, budget, budget, calls, queued]
  omega

@[simp] theorem rank_goto (caller : Caller) (request : HciRequest) (rest : List HciRequest)
    (phase : Phase) (lists : Lists) :
    rank (transport.goto (.sendReq caller request rest phase), lists) =
      phase.rank lists.rxQueue.length lists.temp.length := rfl

theorem sendReq_paid {elapsed : Bool} {caller : Caller} {request : HciRequest}
    {rest : List HciRequest} {phase : Phase}
    (here : transport.control = .sendReq caller request rest phase)
    (runs : (transport.sendReq elapsed caller request rest phase).onLists lists = some next) :
    Paid (if phase = .wait ∧ elapsed = false ∧ lists.rxQueue = [] then 0 else 1)
      (transport, lists) next := by
  have before : rank (transport, lists) = phase.rank lists.rxQueue.length lists.temp.length := by
    rw [rank, here]
    rfl
  have calls : begun transport = transport.calls.results.length + 1 := by rw [begun, here]
  cases phase with
  | initHead =>
      obtain ⟨-, rfl⟩ := initHead_onLists runs
      refine .of_rank calls.symm rfl ?_
      simp [before, Phase.rank]
      omega
  | getSize =>
      obtain ⟨items, -, rfl⟩ := getSize_onLists runs
      refine .of_rank calls.symm rfl ?_
      by_cases few : items.length < hciReadPacketNumMax / 2
      all_goals
        simp [few, before, Phase.rank]
        omega
  | freeRemove =>
      obtain ⟨index, items, found, rfl⟩ := removeHead_onLists runs
      have queue : lists.rxQueue = index :: items := Option.some.inj found
      refine .of_rank calls.symm rfl ?_
      simp [before, queue, Phase.rank]
      omega
  | freeInsert inserted =>
      obtain ⟨items, -, -, rfl⟩ := insertTail_onLists runs
      refine .of_rank calls.symm rfl ?_
      simp [before, Phase.rank]
      omega
  | send =>
      cases runs
      refine .of_rank calls.symm rfl ?_
      simp [before, Phase.rank]
      omega
  | wait =>
      cases elapsed with
      | true =>
          cases runs
          refine .of_rank calls.symm rfl ?_
          simp [before, Phase.rank]
          omega
      | false =>
          obtain ⟨items, found, rfl⟩ := isEmpty_onLists runs
          have queue : lists.rxQueue = items := Option.some.inj found
          refine .of_rank calls.symm rfl ?_
          cases items with
          | nil => simp [before, queue, Phase.rank]
          | cons first others =>
              simp [before, queue, Phase.rank]
              omega
  | extract =>
      obtain ⟨index, items, found, rfl⟩ := removeHead_onLists runs
      have queue : lists.rxQueue = index :: items := Option.some.inj found
      refine .of_rank calls.symm rfl ?_
      simp [before, queue, Phase.rank]
      omega
  | examine held =>
      simp only [Transport.sendReq] at runs
      cases verdict : examineEvent request (transport.packets held) with
      | failed =>
          rw [verdict] at runs
          cases runs
          refine .of_rank calls.symm rfl ?_
          simp [before, Phase.rank]
          omega
      | done rparam =>
          rw [verdict] at runs
          cases runs
          refine .of_rank calls.symm rfl ?_
          simp [before, Phase.rank]
          omega
      | other =>
          rw [verdict] at runs
          cases runs
          refine .of_rank calls.symm rfl ?_
          simp [before, Phase.rank]
          omega
  | poolEmpty held =>
      obtain ⟨items, -, rfl⟩ := isEmpty_onLists runs
      refine .of_rank calls.symm rfl ?_
      cases items
      all_goals
        simp [before, Phase.rank]
        try omega
  | rxQueueEmpty held =>
      obtain ⟨items, -, rfl⟩ := isEmpty_onLists runs
      cases items <;> refine .of_rank calls.symm rfl ?_ <;> simp [before, Phase.rank] <;> omega
  | discard inserted =>
      obtain ⟨items, -, -, rfl⟩ := insertTail_onLists runs
      refine .of_rank calls.symm rfl ?_
      simp [before, Phase.rank]
      omega
  | keep inserted =>
      obtain ⟨items, found, -, rfl⟩ := insertTail_onLists runs
      refine .of_rank calls.symm rfl ?_
      simp [before, temp_of_get found, Phase.rank]
      omega
  | release inserted ret =>
      obtain ⟨items, -, -, rfl⟩ := insertHead_onLists runs
      refine .of_rank calls.symm rfl ?_
      simp [before, Phase.rank]
      omega
  | moveEmpty ret =>
      obtain ⟨items, -, rfl⟩ := isEmpty_onLists runs
      refine .of_rank calls.symm rfl ?_
      cases items
      all_goals
        simp [before, Phase.rank]
        try omega
  | moveRemove ret =>
      obtain ⟨index, items, found, rfl⟩ := removeTail_onLists runs
      refine .of_rank calls.symm rfl ?_
      simp [before, temp_of_get found, Phase.rank]
      omega
  | moveInsert inserted ret =>
      obtain ⟨items, found, -, rfl⟩ := insertHead_onLists runs
      refine .of_rank calls.symm rfl ?_
      simp [before, Phase.rank]
      omega
  | leave ret =>
      obtain ⟨-, rfl⟩ := leave_onLists runs
      refine .of_rank ?_ rfl ?_
      · rw [calls]
        simp [begun]
      · rw [before]
        exact Nat.le_refl 1

theorem main_paid {elapsed : Bool} {answers : Answers} (inPlace : InPlace (transport, lists))
    (quiet : transport.isr = .idle)
    (runs : (transport.main firmware elapsed answers).onLists lists = some next) :
    Paid (works (transport, lists) (.main elapsed answers : Input Answers)) (transport, lists)
      next := by
  have idle : ∀ command : Command (Transport App), command.onLists lists = some next →
      (∀ caller request rest phase, transport.control ≠ .sendReq caller request rest phase) →
      command.Leads (fun after => begun after = begun transport ∧
        after.events.queued = transport.events.queued ∧
        ∀ caller request rest phase, after.control ≠ .sendReq caller request rest phase) →
      Paid (works (transport, lists) (.main elapsed answers : Input Answers)) (transport, lists)
        next := by
    intro command done before leads
    obtain ⟨calls, queued, after⟩ := leads.holds done
    have free : works (transport, lists) (.main elapsed answers : Input Answers) = 0 := by
      simp only [works, quiet]
      split
      next here => exact absurd here (before _ _ _ _)
      next => rfl
    have none : rank next = 0 := by
      rw [rank]
      cases there : next.1.control with
      | sendReq caller request rest phase => exact absurd there (after _ _ _ _)
      | _ => rfl
    refine .of_rank calls queued ?_
    rw [free, none]
    exact Nat.zero_le _
  unfold Transport.main at runs
  cases here : transport.control with
  | sendReq caller request rest phase =>
      rw [here] at runs
      have paid := sendReq_paid here runs
      simpa only [works, quiet, here] using paid
  | calls caller requests =>
      rw [here] at runs
      cases requests with
      | cons request rest =>
          cases runs
          have unused : lists.temp = [] := by
            have ready := inPlace.main
            rw [here] at ready
            have none : lists.tempQueue = none := ready
            rw [Lists.temp, none, Option.getD_none]
          have length := inPlace.length
          simp only [Lists.all, List.length_append, hciReadPacketNumMax] at length
          have free : works (transport, lists) (.main elapsed answers : Input Answers) = 0 := by
            simp only [works, quiet, here]
          have before : rank (transport, lists) = 0 := by
            rw [rank, here]
            rfl
          have calls : begun transport = transport.calls.results.length := by
            rw [begun, here]
            rfl
          have after : begun (transport.goto (.sendReq caller request rest .initHead)) =
              transport.calls.results.length + 1 := rfl
          rw [Paid, budget, budget, free, before, calls, after]
          simp only [rank_goto, Phase.rank, unused, List.length_nil, Transport.goto_events]
          omega
      | nil =>
          refine idle _ runs (by simp [here]) ?_
          cases caller with
          | blueNrgInit =>
              refine ⟨?_, rfl, ?_⟩
              · rw [begun, begun, here, Transport.goto_control]
                split <;> rfl
              · rw [Transport.goto_control]
                split <;> simp
          | enableAdvertising => exact ⟨by rw [begun, begun, here]; rfl, rfl, by simp⟩
          | userEvtRx index => exact ⟨by rw [begun, begun, here]; rfl, rfl, by simp⟩
  | process =>
      rw [here] at runs
      refine idle _ runs (by simp [here]) ?_
      dsimp only [Command.Leads]
      split <;> exact ⟨by rw [begun, begun, here]; rfl, rfl, by simp⟩
  | evtProcEmpty =>
      rw [here] at runs
      refine idle _ runs (by simp [here]) fun empty => ?_
      cases empty <;> exact ⟨by rw [begun, begun, here]; rfl, rfl, by simp⟩
  | evtProcRemove =>
      rw [here] at runs
      exact idle _ runs (by simp [here]) fun index =>
        ⟨by rw [begun, begun, here]; rfl, rfl, by simp⟩
  | evtProcCall held =>
      rw [here] at runs
      refine idle _ runs (by simp [here]) ⟨?_, by rw [callback_events]; rfl, ?_⟩
      · unfold Transport.callback
        dsimp only
        split <;> (rw [begun, begun, here]; rfl)
      · rcases callback_control transport held firmware answers with gone | ⟨requests, called⟩
        · simp [gone]
        · simp [called]
  | evtProcInsert inserted =>
      rw [here] at runs
      exact idle _ runs (by simp [here]) ⟨by rw [begun, begun, here]; rfl, rfl, by simp⟩
  | initFailed =>
      rw [here] at runs
      exact idle _ runs (by simp [here]) ⟨rfl, rfl, by simp [here]⟩
  | gone index =>
      rw [here] at runs
      exact idle _ runs (by simp [here]) ⟨rfl, rfl, by simp [here]⟩

theorem rank_succ_le (phase : Phase) (queued kept : Nat) :
    phase.rank (queued + 1) kept ≤ phase.rank queued kept + 9 := by
  cases phase <;> simp only [Phase.rank] <;> omega

theorem interrupt_paid {ready : Bool}
    (runs : (transport.interrupt ready).onLists lists = some next) :
    Paid 0 (transport, lists) next := by
  unfold Transport.interrupt at runs
  cases place : transport.isr with
  | idle =>
      rw [place] at runs
      cases runs
      cases edge : transport.edge <;> exact .of_rank rfl rfl (Nat.le_of_eq (Nat.zero_add _))
  | available =>
      rw [place] at runs
      cases runs
      exact .of_rank rfl rfl (Nat.le_of_eq (Nat.zero_add _))
  | poolEmpty =>
      rw [place] at runs
      obtain ⟨items, -, rfl⟩ := isEmpty_onLists runs
      exact .of_rank rfl rfl (Nat.le_of_eq (Nat.zero_add _))
  | poolRemove =>
      rw [place] at runs
      obtain ⟨index, items, -, rfl⟩ := removeHead_onLists runs
      exact .of_rank rfl rfl (Nat.le_of_eq (Nat.zero_add _))
  | receive index =>
      rw [place] at runs
      cases runs
      refine .of_rank ?_ ?_ ?_
      · rw [begun, receive_calls, receive_control]
        rfl
      · rw [receive_events]
      · rw [Nat.zero_add, rank, receive_control]
        exact Nat.le_refl _
  | queue index =>
      rw [place] at runs
      obtain ⟨items, found, -, rfl⟩ := insertTail_onLists runs
      have queue : lists.rxQueue = items := Option.some.inj found
      have more : transport.control.rank (items.length + 1) lists.temp.length ≤
          transport.control.rank items.length lists.temp.length + 9 := by
        cases transport.control with
        | sendReq caller request rest phase => exact rank_succ_le phase _ _
        | _ => exact Nat.zero_le _
      have queued : (transport.events.queue index (transport.packets index).event).queued.length =
          transport.events.queued.length + 1 := by
        simp [EventLog.queue]
      have before : budget (transport, lists) =
          52 * begun transport + 9 * transport.events.queued.length := rfl
      have after : budget ({ transport with
          isr := .available
          events := transport.events.queue index (transport.packets index).event },
          lists.set .hciReadPktRxQueue (items ++ [index])) =
          52 * begun transport + 9 * (transport.events.queued.length + 1) := by
        rw [← queued]
        rfl
      rw [Paid, before, after, rank, rank, rxQueue_set_rxQueue, temp_set_rxQueue,
        List.length_append, List.length_singleton]
      dsimp only
      rw [queue]
      omega
  | giveBack index =>
      rw [place] at runs
      obtain ⟨items, -, -, rfl⟩ := insertHead_onLists runs
      exact .of_rank rfl rfl (Nat.le_of_eq (Nat.zero_add _))

theorem step_paid {firmware : Firmware App Answers} {input : Input Answers}
    {config after : Transport App × Lists} (inPlace : InPlace config)
    (runs : listStep firmware config input = some after) :
    Paid (works config input) config after := by
  obtain ⟨transport, lists⟩ := config
  cases input with
  | arrive type rest =>
      cases runs
      exact .of_rank rfl rfl (Nat.le_of_eq (Nat.zero_add _))
  | interrupt ready => exact interrupt_paid runs
  | main elapsed answers =>
      simp only [listStep, Transport.step] at runs
      by_cases quiet : transport.isr = .idle
      · rw [if_pos quiet] at runs
        exact main_paid inPlace quiet runs
      · rw [if_neg quiet] at runs
        cases runs
        have free : works (transport, lists) (.main elapsed answers) = 0 := by
          simp only [works]
          split
          next isr here => exact absurd isr quiet
          next => rfl
        exact .of_rank rfl rfl (by rw [free, Nat.zero_add])

end Steps

/-- A call has at most this much left to do, as no more than all packets can be waiting for it. -/
theorem rank_le {config : Transport App × Lists} (inPlace : InPlace config) :
    rank config + 52 * config.1.calls.results.length ≤ 52 * begun config.1 := by
  obtain ⟨transport, lists⟩ := config
  cases here : transport.control with
  | sendReq caller request rest phase =>
      have calls : begun transport = transport.calls.results.length + 1 := by rw [begun, here]
      have length := inPlace.length
      simp only [here, Control.held, Lists.all, List.length_append, hciReadPacketNumMax] at length
      have left : phase.rank lists.rxQueue.length lists.temp.length ≤ 52 := by
        cases phase <;> simp only [Phase.rank, Phase.held, List.length_singleton] at length ⊢ <;> omega
      rw [rank, here]
      dsimp only [Control.rank]
      omega
  | _ =>
      rw [rank, begun, here]
      exact Nat.le_of_eq (Nat.zero_add _)

/-- In any stretch of any run, `hci_send_req` makes no more than 52 steps for each of its calls
and 9 for each event that the interrupt puts in the queue meanwhile, the turns of the loop that
waits for an event apart. -/
theorem sendReq_work_bounded (firmware : Firmware App Answers)
    (packets : PacketIndex → HciDataPacket) (app : App) (earlier inputs : List (Input Answers)) :
    ∃ before after : Transport App × Lists,
      runFrom (listStep firmware) (Transport.initial firmware packets app, Lists.initial) earlier =
        some before ∧
      runFrom (listStep firmware) before inputs = some after ∧
      total (listStep firmware) works before inputs + 52 * before.1.calls.results.length +
          9 * before.1.events.queued.length ≤
        52 * (after.1.calls.results.length + 1) + 9 * after.1.events.queued.length := by
  obtain ⟨before, first, inPlace⟩ :=
    run_safe (step_inPlace firmware) (initial_inPlace firmware packets app) earlier
  obtain ⟨after, second, -⟩ := run_safe (step_inPlace firmware) inPlace inputs
  have keeps : ∀ config input next, InPlace config → listStep firmware config input = some next →
      InPlace next ∧
        works config input + rank next + budget config ≤ rank config + budget next := by
    intro config input next placed done
    obtain ⟨other, same, kept⟩ := step_inPlace firmware config input placed
    obtain rfl : other = next := Option.some.inj (same.symm.trans done)
    exact ⟨kept, step_paid placed done⟩
  have paid := total_le keeps second inPlace
  have start := rank_le inPlace
  have calls : begun after.1 ≤ after.1.calls.results.length + 1 := by
    rw [begun]
    split <;> omega
  refine ⟨before, after, first, second, ?_⟩
  simp only [budget] at paid
  omega

end BleFwUpdate
