import BleFwUpdate.Stalls

/-! When an event is lost: only when too few packets are free, which takes three events that wait
at once. As long as there are fewer, none is lost, and the interrupt never runs out of packets. -/

namespace BleFwUpdate

open Faults

variable {App Answers : Type}

/-- What `free_event_list` and `hci_send_req` have found about the pool when they are about to
drop an event; the interrupt can only take packets from it or give them back. -/
def Starved (config : Transport App × Lists) : Prop :=
  match config.1.control with
  | .sendReq _ _ _ .freeRemove =>
      config.2.pool.length + config.1.isr.held.length < hciReadPacketNumMax / 2
  | .sendReq _ _ _ (.rxQueueEmpty _) => config.2.pool.length + config.1.isr.held.length = 0
  | _ => True

section Steps

variable {firmware : Firmware App Answers} {transport : Transport App} {lists : Lists}
  {next : Transport App × Lists}

theorem Starved.of_fewer {config next : Transport App × Lists} (starved : Starved config)
    (control : next.1.control = config.1.control)
    (fewer : next.2.pool.length + next.1.isr.held.length ≤
      config.2.pool.length + config.1.isr.held.length) : Starved next := by
  unfold Starved at starved ⊢
  rw [control]
  split
  next here =>
    rw [here] at starved
    exact Nat.lt_of_le_of_lt fewer starved
  next here =>
    rw [here] at starved
    exact Nat.eq_zero_of_le_zero (Nat.le_trans fewer (Nat.le_of_eq starved))
  next => trivial

theorem interrupt_starved {ready : Bool} (starved : Starved (transport, lists))
    (runs : (transport.interrupt ready).onLists lists = some next) : Starved next := by
  unfold Transport.interrupt at runs
  cases place : transport.isr with
  | idle =>
      rw [place] at runs
      cases runs
      cases edge : transport.edge with
      | true => exact starved.of_fewer rfl (by simp [place, Isr.held])
      | false => exact starved.of_fewer rfl (Nat.le_refl _)
  | available =>
      rw [place] at runs
      cases runs
      refine starved.of_fewer rfl ?_
      dsimp only
      split <;> simp [place, Isr.held]
  | poolEmpty =>
      rw [place] at runs
      obtain ⟨items, -, rfl⟩ := isEmpty_onLists runs
      refine starved.of_fewer rfl ?_
      dsimp only
      split <;> simp [place, Isr.held]
  | poolRemove =>
      rw [place] at runs
      obtain ⟨index, items, found, rfl⟩ := removeHead_onLists runs
      have pool : lists.pool = index :: items := Option.some.inj found
      refine starved.of_fewer rfl ?_
      simp [place, Isr.held, pool, Lists.set]
  | receive index =>
      rw [place] at runs
      cases runs
      refine starved.of_fewer (receive_control transport index ready) ?_
      rcases receive_isr transport index ready with isr | ⟨isr, -⟩ <;>
        simp [place, isr, Isr.held]
  | queue index =>
      rw [place] at runs
      obtain ⟨items, -, -, rfl⟩ := insertTail_onLists runs
      refine starved.of_fewer rfl ?_
      simp [place, Isr.held, Lists.set]
  | giveBack index =>
      rw [place] at runs
      obtain ⟨items, found, -, rfl⟩ := insertHead_onLists runs
      have pool : lists.pool = items := Option.some.inj found
      refine starved.of_fewer rfl ?_
      simp [place, Isr.held, pool, Lists.set]

def Control.Calm : Control → Prop
  | .sendReq _ _ _ .freeRemove => False
  | .sendReq _ _ _ (.rxQueueEmpty _) => False
  | _ => True

theorem Starved.of_calm {config : Transport App × Lists} (calm : config.1.control.Calm) :
    Starved config := by
  unfold Starved
  split
  next here =>
    rw [here] at calm
    exact calm.elim
  next here =>
    rw [here] at calm
    exact calm.elim
  next => trivial

theorem sendReq_starved {elapsed : Bool} {caller : Caller} {request : HciRequest}
    {rest : List HciRequest} {phase : Phase} (quiet : transport.isr = .idle)
    (runs : (transport.sendReq elapsed caller request rest phase).onLists lists = some next) :
    Starved next := by
  have calm : ∀ command : Command (Transport App), command.onLists lists = some next →
      command.Leads (fun next => next.control.Calm) → Starved next :=
    fun command done leads => .of_calm (leads.holds done)
  cases phase with
  | getSize =>
      obtain ⟨items, found, rfl⟩ := getSize_onLists runs
      obtain rfl : lists.pool = items := Option.some.inj found
      by_cases few : lists.pool.length < hciReadPacketNumMax / 2
      · simp [Starved, few, quiet, Isr.held]
      · simp [Starved, few]
  | poolEmpty held =>
      obtain ⟨items, found, rfl⟩ := isEmpty_onLists runs
      obtain rfl : lists.pool = items := Option.some.inj found
      cases filled : lists.pool with
      | nil => simp [Starved, filled, quiet, Isr.held]
      | cons index items => simp [Starved]
  | wait =>
      cases elapsed with
      | true => exact calm _ runs trivial
      | false =>
          refine calm _ runs fun empty => ?_
          cases empty <;> trivial
  | examine held =>
      refine calm _ runs ?_
      simp only [Transport.sendReq]
      cases examineEvent request (transport.packets held) <;> trivial
  | rxQueueEmpty held =>
      refine calm _ runs fun empty => ?_
      cases empty <;> trivial
  | moveEmpty ret =>
      refine calm _ runs fun empty => ?_
      cases empty <;> trivial
  | freeRemove => exact calm _ runs fun _ => trivial
  | extract => exact calm _ runs fun _ => trivial
  | moveRemove ret => exact calm _ runs fun _ => trivial
  | _ => exact calm _ runs trivial

theorem main_starved {elapsed : Bool} {answers : Answers} (quiet : transport.isr = .idle)
    (runs : (transport.main firmware elapsed answers).onLists lists = some next) :
    Starved next := by
  have calm : ∀ command : Command (Transport App), command.onLists lists = some next →
      command.Leads (fun next => next.control.Calm) → Starved next :=
    fun command done leads => .of_calm (leads.holds done)
  unfold Transport.main at runs
  cases here : transport.control with
  | sendReq caller request rest phase =>
      rw [here] at runs
      exact sendReq_starved quiet runs
  | calls caller requests =>
      rw [here] at runs
      cases requests with
      | cons request rest => exact calm _ runs trivial
      | nil =>
          cases caller with
          | blueNrgInit =>
              refine calm _ runs ?_
              dsimp only [Command.Leads, Transport.goto_control]
              split <;> trivial
          | enableAdvertising => exact calm _ runs trivial
          | userEvtRx index => exact calm _ runs trivial
  | process =>
      rw [here] at runs
      refine calm _ runs ?_
      dsimp only [Command.Leads]
      split <;> trivial
  | evtProcEmpty =>
      rw [here] at runs
      refine calm _ runs fun empty => ?_
      cases empty <;> trivial
  | evtProcRemove =>
      rw [here] at runs
      exact calm _ runs fun _ => trivial
  | evtProcCall held =>
      rw [here] at runs
      refine calm _ runs ?_
      rcases callback_control transport held firmware answers with gone | ⟨requests, calls⟩
      · simp [Command.Leads, gone, Control.Calm]
      · simp [Command.Leads, calls, Control.Calm]
  | evtProcInsert inserted =>
      rw [here] at runs
      exact calm _ runs trivial
  | initFailed =>
      rw [here] at runs
      refine calm _ runs ?_
      simp [Command.Leads, here, Control.Calm]
  | gone index =>
      rw [here] at runs
      refine calm _ runs ?_
      simp [Command.Leads, here, Control.Calm]

theorem step_starved {input : Input Answers} {config : Transport App × Lists}
    (starved : Starved config) (runs : listStep firmware config input = some next) :
    Starved next := by
  obtain ⟨transport, lists⟩ := config
  cases input with
  | arrive type rest =>
      cases runs
      exact starved.of_fewer rfl (Nat.le_refl _)
  | interrupt ready => exact interrupt_starved starved runs
  | main elapsed answers =>
      simp only [listStep, Transport.step] at runs
      split at runs
      next quiet => exact main_starved quiet runs
      next =>
        cases runs
        exact starved

end Steps

/-- An event is dropped only while others wait: the oldest of at least three, to make room, or the
newest of at least four, for want of room. -/
inductive Drops (config next : Transport App × Lists) : Prop
  | nothing (lost : next.1.events.lost = config.1.events.lost)
  | oldest (index : PacketIndex)
      (lost : next.1.events.lost = config.1.events.lost ++ [config.1.events.serial index])
      (waits : waiting config = index :: waiting next) (many : 2 ≤ (waiting next).length)
  | newest (index : PacketIndex)
      (lost : next.1.events.lost = config.1.events.lost ++ [config.1.events.serial index])
      (waits : waiting config = waiting next ++ [index]) (many : 3 ≤ (waiting next).length)

theorem Drops.same {config next : Transport App × Lists}
    (log : next.1.events = config.1.events) : Drops config next :=
  .nothing (by rw [log])

section Drops

variable {firmware : Firmware App Answers} {transport : Transport App} {lists : Lists}
  {next : Transport App × Lists}

theorem sendReq_drops {elapsed : Bool} {caller : Caller} {request : HciRequest}
    {rest : List HciRequest} {phase : Phase} (inPlace : InPlace (transport, lists))
    (starved : Starved (transport, lists)) (quiet : transport.isr = .idle)
    (here : transport.control = .sendReq caller request rest phase)
    (runs : (transport.sendReq elapsed caller request rest phase).onLists lists = some next) :
    Drops (transport, lists) next := by
  have length := inPlace.length
  have caller_le : caller.held.length ≤ 1 := by cases caller <;> simp [Caller.held]
  have same : ∀ command : Command (Transport App), command.onLists lists = some next →
      command.Leads (fun next => next.events.lost = transport.events.lost) →
      Drops (transport, lists) next :=
    fun command done leads => .nothing (leads.holds done)
  cases phase with
  | freeRemove =>
      have temp : lists.temp = [] := by
        have ready := inPlace.main
        rw [here] at ready
        exact temp_of_get ready.1
      obtain ⟨index, items, found, rfl⟩ := removeHead_onLists runs
      have queue : lists.rxQueue = index :: items := Option.some.inj found
      refine .oldest index rfl ?_ ?_
      · simp [waiting, here, Control.live, Phase.live, temp, queue]
      · simp only [Starved, here] at starved
        simp only [Lists.all, temp, queue, here, quiet, Control.held, Phase.held, Isr.held,
          List.length_append, List.length_cons, List.length_nil] at length starved
        simp only [waiting_goto, sendReq_live, Phase.live, temp_set_rxQueue, rxQueue_set_rxQueue,
          temp, List.nil_append]
        rw [hciReadPacketNumMax] at length starved
        omega
  | rxQueueEmpty held =>
      obtain ⟨items, found, rfl⟩ := isEmpty_onLists runs
      cases items with
      | cons index items => exact .same rfl
      | nil =>
          have queue : lists.rxQueue = [] := Option.some.inj found
          refine .newest held rfl ?_ ?_
          · simp [waiting, here, Control.live, Phase.live, queue]
          · simp only [Starved, here] at starved
            simp only [Lists.all, queue, here, quiet, Control.held, Phase.held, Isr.held,
              List.length_append, List.length_cons, List.length_nil] at length starved
            simp only [waiting, List.isEmpty_nil, if_true, Transport.goto_control, sendReq_live,
              Phase.live, queue, List.append_nil]
            rw [hciReadPacketNumMax] at length
            omega
  | examine held =>
      refine same _ runs ?_
      simp only [Transport.sendReq]
      cases examineEvent request (transport.packets held) <;> rfl
  | wait => cases elapsed <;> exact same _ runs (by simp [Transport.sendReq, Command.Leads])
  | getSize => exact same _ runs fun size => rfl
  | extract => exact same _ runs fun index => rfl
  | poolEmpty held => exact same _ runs fun empty => rfl
  | moveEmpty ret => exact same _ runs fun empty => rfl
  | moveRemove ret => exact same _ runs fun index => rfl
  | _ => exact same _ runs rfl

theorem main_drops {elapsed : Bool} {answers : Answers} (inPlace : InPlace (transport, lists))
    (starved : Starved (transport, lists)) (quiet : transport.isr = .idle)
    (runs : (transport.main firmware elapsed answers).onLists lists = some next) :
    Drops (transport, lists) next := by
  have same : ∀ command : Command (Transport App), command.onLists lists = some next →
      command.Leads (fun next => next.events.lost = transport.events.lost) →
      Drops (transport, lists) next :=
    fun command done leads => .nothing (leads.holds done)
  unfold Transport.main at runs
  cases here : transport.control with
  | sendReq caller request rest phase =>
      rw [here] at runs
      exact sendReq_drops inPlace starved quiet here runs
  | calls caller requests =>
      rw [here] at runs
      cases requests with
      | cons request rest => exact same _ runs rfl
      | nil => cases caller <;> exact same _ runs rfl
  | process =>
      rw [here] at runs
      refine same _ runs ?_
      dsimp only [Command.Leads]
      split <;> rfl
  | evtProcEmpty =>
      rw [here] at runs
      exact same _ runs fun empty => rfl
  | evtProcRemove =>
      rw [here] at runs
      exact same _ runs fun index => rfl
  | evtProcCall held =>
      rw [here] at runs
      refine same _ runs ?_
      rw [Command.Leads, callback_events]
      rfl
  | evtProcInsert inserted =>
      rw [here] at runs
      exact same _ runs rfl
  | initFailed =>
      rw [here] at runs
      exact same _ runs rfl
  | gone index =>
      rw [here] at runs
      exact same _ runs rfl

theorem interrupt_keeps_lost {ready : Bool} :
    (transport.interrupt ready).Leads fun next => next.events.lost = transport.events.lost := by
  unfold Transport.interrupt
  cases transport.isr with
  | idle =>
      dsimp only [Command.Leads]
      split <;> rfl
  | receive index => rw [Command.Leads, receive_events]
  | poolEmpty => exact fun empty => rfl
  | poolRemove => exact fun index => rfl
  | _ => rfl

end Drops

theorem step_drops {firmware : Firmware App Answers} {config next : Transport App × Lists}
    {input : Input Answers} (inPlace : InPlace config) (starved : Starved config)
    (runs : listStep firmware config input = some next) : Drops config next := by
  obtain ⟨transport, lists⟩ := config
  cases input with
  | arrive type rest =>
      cases runs
      exact .same rfl
  | interrupt ready => exact .nothing (interrupt_keeps_lost.holds runs)
  | main elapsed answers =>
      simp only [listStep, Transport.step] at runs
      split at runs
      next quiet => exact main_drops inPlace starved quiet runs
      next =>
        cases runs
        exact .same rfl

theorem Drops.lost_eq {config next : Transport App × Lists} (drops : Drops config next)
    (few : (waiting config).length ≤ 2) : next.1.events.lost = config.1.events.lost := by
  cases drops with
  | nothing lost => exact lost
  | oldest index lost waits many =>
      rw [waits, List.length_cons] at few
      omega
  | newest index lost waits many =>
      rw [waits, List.length_append, List.length_singleton] at few
      omega

theorem InPlace.length_le {config : Transport App × Lists} (inPlace : InPlace config) :
    hciReadPacketNumMax ≤
      config.2.pool.length + (waiting config).length + config.1.isr.held.length + 2 := by
  have length := inPlace.length
  have live : config.1.control.held.length ≤ config.1.control.live.length + 2 := by
    cases config.1.control with
    | sendReq caller request rest phase =>
        cases caller <;> cases phase <;>
          simp [Control.live, Control.held, Caller.held, Phase.live, Phase.held]
    | calls caller requests => cases caller <;> simp [Control.live, Control.held, Caller.held]
    | _ => simp [Control.live, Control.held]
  simp only [waiting, Lists.all, List.length_append] at length ⊢
  omega

theorem run_loses_none {firmware : Firmware App Answers} {packets : PacketIndex → HciDataPacket}
    {app : App} {inputs : List (Input Answers)} {config : Transport App × Lists}
    (runs : runFrom (listStep firmware) (Transport.initial firmware packets app, Lists.initial)
      inputs = some config)
    (few : Along (listStep firmware) (fun config => (waiting config).length ≤ 2)
      (Transport.initial firmware packets app, Lists.initial) inputs) :
    config.1.events.lost = [] ∧ ¬ Stalled config := by
  have keeps : ∀ state input next,
      (InPlace state ∧ Attended state ∧ Starved state ∧ state.1.events.lost = [] ∧
        ¬ Stalled state) →
      (waiting state).length ≤ 2 → listStep firmware state input = some next →
      InPlace next ∧ Attended next ∧ Starved next ∧ next.1.events.lost = [] ∧ ¬ Stalled next := by
    rintro state input next ⟨inPlace, attended, starved, lost, flowing⟩ few done
    obtain ⟨after, same, kept⟩ := step_inPlace firmware state input inPlace
    obtain rfl : after = next := Option.some.inj (same.symm.trans done)
    obtain ⟨attendedNext, iff⟩ := step_stalls attended done
    refine ⟨kept, attendedNext, step_starved starved done, ?_, ?_⟩
    · rw [(step_drops inPlace starved done).lost_eq few, lost]
    · rw [iff, not_or]
      refine ⟨flowing, ?_⟩
      rintro ⟨-, asks, empty, -⟩
      have length := inPlace.length_le
      have held : state.1.isr.held = [] := by
        rw [asks]
        rfl
      rw [held, empty, hciReadPacketNumMax] at length
      simp only [List.length_nil] at length
      omega
  have start : InPlace (Transport.initial firmware packets app, Lists.initial) ∧
      Attended (Transport.initial firmware packets app, Lists.initial) ∧
      Starved (Transport.initial firmware packets app, Lists.initial) ∧
      (Transport.initial firmware packets app).events.lost = [] ∧
      ¬ Stalled (Transport.initial firmware packets app, Lists.initial) :=
    ⟨initial_inPlace firmware packets app, by simp [Attended, Transport.initial], trivial, rfl,
      by simp [Stalled, Transport.initial]⟩
  exact (run_along keeps runs few start).2.2.2

/-- In every interleaving in which never more than two events wait, none is lost, and the radio
never has one that no interrupt will fetch. -/
theorem none_lost_while_few_wait {firmware : Firmware App Answers}
    {packets : PacketIndex → HciDataPacket} {app : App} {inputs : List (Input Answers)}
    (few : Along (listStep firmware) (fun config => (waiting config).length ≤ 2)
      (Transport.initial firmware packets app, Lists.initial) inputs) :
    ∃ config,
      runFrom (listStep firmware) (Transport.initial firmware packets app, Lists.initial) inputs =
        some config ∧
      config.1.events.lost = [] ∧ ¬ Stalled config := by
  obtain ⟨config, runs, -⟩ :=
    run_safe (step_inPlace firmware) (initial_inPlace firmware packets app) inputs
  exact ⟨config, runs, run_loses_none runs few⟩

theorem none_lost_while_few_wait_two :
    let inputs : List (Input Unit) :=
      List.replicate 2 (.arrive hciEventPkt [0x05, 0x00]) ++ List.replicate 12 (.interrupt true) ++
        List.replicate 8 (.main false ())
    ∃ config,
      runFrom (listStep .silent) (Transport.initial .silent blankPackets (), Lists.initial)
        inputs = some config ∧
      config.1.events.lost = [] ∧ ¬ Stalled config :=
  none_lost_while_few_wait (by decide +kernel)

end BleFwUpdate
