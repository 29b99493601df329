import BleFwUpdate.Arrivals
import BleFwUpdate.Losses
import BleFwUpdate.Progress
import BleFwUpdate.System

/-! How the program works off what waits, when the radio leaves it time. -/

namespace BleFwUpdate

open Faults

variable {App Answers : Type}

/-- The initialisation is over, and the program still runs. -/
def Control.serves : Control → Bool
  | .calls caller _ => caller != .blueNrgInit
  | .sendReq caller _ _ _ => caller != .blueNrgInit
  | .initFailed => false
  | .gone _ => false
  | _ => true

/-- The events that the program still has to put in the queue or to use. -/
def outstanding (config : Transport App × Lists) : Nat :=
  (waiting config).length + config.1.inHand.length + config.1.offered.length

/-- How far the main program is from the next call of `UserEvtRx`. -/
def Control.place (advertising : Nat) : Control → Nat
  | .evtProcCall _ => 0
  | .evtProcRemove => 1
  | .evtProcEmpty => 2
  | .evtProcInsert _ => 3
  | .calls _ requests => 2 * requests.length + 4
  | .sendReq _ _ rest _ => 2 * rest.length + 5
  | .process => 2 * advertising + 5
  | .initFailed => 0
  | .gone _ => 0

def Transport.reach (transport : Transport App) : Nat :=
  match transport.isr with
  | .idle => if transport.offered = [] then 0 else 5
  | .available => 4
  | .poolEmpty => 3
  | .poolRemove => 2
  | .receive _ => 1
  | .queue _ => 5
  | .giveBack _ => 5

/-- What is left to do: for the interrupt, then for the main program. -/
def workLeft (firmware : Firmware App Answers) (config : Transport App × Lists) :
    Nat × Nat × Nat × Nat :=
  (6 * config.1.offered.length + config.1.reach, (waiting config).length,
    config.1.control.place firmware.advertisingRequests.length, rank config)

def LessWork : Nat × Nat × Nat × Nat → Nat × Nat × Nat × Nat → Prop :=
  Prod.Lex (· < ·) (Prod.Lex (· < ·) (Prod.Lex (· < ·) (· < ·)))

theorem lessWork_wf : WellFounded LessWork :=
  Nat.lt_wfRel.wf.prod_lex (Nat.lt_wfRel.wf.prod_lex (Nat.lt_wfRel.wf.prod_lex Nat.lt_wfRel.wf))

theorem lex_of_le {Size : Type} {less : Size → Size → Prop} {fewer many : Nat}
    {smaller larger : Size} (le : fewer ≤ many) (below : less smaller larger) :
    Prod.Lex (· < ·) less (fewer, smaller) (many, larger) := by
  rcases Nat.lt_or_eq_of_le le with lt | rfl
  · exact .left _ _ lt
  · exact .right _ below

def Transport.Fits (transport : Transport App) : Prop :=
  ∀ event ∈ transport.offered, event ≠ [] ∧ event.length ≤ hciReadPacketSize

section Interrupt

variable {transport : Transport App} {lists : Lists} {next : Transport App × Lists}

theorem receive_whole {index : PacketIndex} {event : List UInt8} {later : List (List UInt8)}
    (first : transport.offered = event :: later) (filled : event ≠ [])
    (fits : event.length ≤ hciReadPacketSize) :
    (transport.receive true index).offered = later := by
  have count := @hciTlSpiReceive_eq event (by rw [hciReadPacketSize] at fits; omega)
  generalize dataLen : hciTlSpiReceive hciReadPacketSize.toUInt16 true event = some at count
  have length := List.length_pos_iff.mpr filled
  have positive : 0 < some := by
    rw [UInt8.lt_iff_toNat_lt, UInt8.toNat_zero, count, hciReadPacketSize]
    omega
  have none : event.drop some.toNat = [] :=
    List.drop_eq_nil_of_le (by rw [count]; omega)
  obtain ⟨offered, -, -⟩ := receive_something transport index first dataLen positive
  rw [offered, if_pos none]

theorem InPlace.pool_ne_nil (inPlace : InPlace (transport, lists))
    (few : outstanding (transport, lists) ≤ 2) (held : transport.isr.held = [])
    (some : transport.offered ≠ []) : lists.pool ≠ [] := by
  have length := inPlace.length_le
  have positive := List.length_pos_iff.mpr some
  intro empty
  rw [held, empty, hciReadPacketNumMax] at length
  simp only [outstanding, List.length_nil] at few length
  omega

/-- With few events outstanding, the interrupt gets on with those of the radio, and as many are
outstanding as before, or fewer. -/
theorem interrupt_works (inPlace : InPlace (transport, lists))
    (attended : Attended (transport, lists)) (flowing : ¬ Stalled (transport, lists))
    (fits : transport.Fits) (few : outstanding (transport, lists) ≤ 2)
    (busy : ¬ (transport.isr = .idle ∧ transport.offered = []))
    (runs : (transport.interrupt true).onLists lists = some next) :
    6 * next.1.offered.length + next.1.reach < 6 * transport.offered.length + transport.reach ∧
      outstanding next ≤ outstanding (transport, lists) := by
  unfold Transport.interrupt at runs
  cases place : transport.isr with
  | idle =>
      have some : transport.offered ≠ [] := fun none => busy ⟨place, none⟩
      have edge : transport.edge = true := by
        by_contra none
        exact flowing ⟨place, by simpa using none, some⟩
      rw [place] at runs
      cases runs
      simp [edge, Transport.reach, place, some, outstanding, waiting, Transport.inHand]
  | available =>
      rw [place] at runs
      cases runs
      by_cases none : transport.offered = [] <;>
        simp [none, Transport.reach, place, outstanding, waiting, Transport.inHand]
  | poolEmpty =>
      have pool := inPlace.pool_ne_nil few (by rw [place]; rfl) (attended.1 place)
      rw [place] at runs
      obtain ⟨items, found, rfl⟩ := isEmpty_onLists runs
      obtain rfl : lists.pool = items := Option.some.inj found
      simp [pool, Transport.reach, place, outstanding, waiting, Transport.inHand]
  | poolRemove =>
      rw [place] at runs
      obtain ⟨index, items, -, rfl⟩ := removeHead_onLists runs
      simp [Transport.reach, place, outstanding, waiting, Transport.inHand, Lists.temp, Lists.set]
  | receive index =>
      rw [place] at runs
      cases runs
      cases first : transport.offered with
      | nil => exact absurd first (attended.2.2 index place)
      | cons event later =>
          obtain ⟨filled, short⟩ := fits event (by simp [first])
          have rest := @receive_whole _ transport index event later first filled short
          have waits : waiting (transport.receive true index, lists) = waiting (transport, lists) := by
            simp only [waiting, receive_control]
          rcases receive_isr transport index true with isr | ⟨isr, -⟩
          all_goals
            simp only [rest, waits, Transport.reach, isr, place, first, outstanding,
              Transport.inHand, List.length_cons, List.length_nil]
            omega
  | queue index =>
      rw [place] at runs
      obtain ⟨items, found, -, rfl⟩ := insertTail_onLists runs
      have queue : lists.rxQueue = items := Option.some.inj found
      simp [Transport.reach, place, outstanding, waiting, Transport.inHand, queue]
      omega
  | giveBack index =>
      rw [place] at runs
      obtain ⟨items, -, -, rfl⟩ := insertHead_onLists runs
      simp [Transport.reach, place, outstanding, waiting, Transport.inHand]

end Interrupt

section Main

variable {firmware : Firmware App Answers} {transport : Transport App} {lists : Lists}
  {next : Transport App × Lists} {answers : Answers}

theorem sendReq_stays {elapsed : Bool} {caller : Caller} {request : HciRequest}
    {rest : List HciRequest} {phase : Phase}
    (here : transport.control = .sendReq caller request rest phase) :
    (transport.sendReq elapsed caller request rest phase).Leads fun next =>
      begun next = begun transport ∧ (next.control = .calls caller rest ∨
        ∃ later, next.control = .sendReq caller request rest later) := by
  have calls : begun transport = transport.calls.results.length + 1 := by rw [begun, here]
  have stays : ∀ after : Transport App, after.calls.results = transport.calls.results →
      (∃ later, after.control = .sendReq caller request rest later) →
      begun after = begun transport ∧ (after.control = .calls caller rest ∨
        ∃ later, after.control = .sendReq caller request rest later) := by
    rintro after results ⟨later, control⟩
    exact ⟨by rw [begun, control, results, calls], .inr ⟨later, control⟩⟩
  cases phase with
  | getSize => exact fun size => stays _ rfl ⟨_, rfl⟩
  | freeRemove => exact fun index => stays _ rfl ⟨_, rfl⟩
  | wait =>
      cases elapsed with
      | true => exact stays _ rfl ⟨_, rfl⟩
      | false => exact fun empty => stays _ rfl ⟨_, rfl⟩
  | extract => exact fun index => stays _ rfl ⟨_, rfl⟩
  | examine held =>
      simp only [Transport.sendReq]
      cases examineEvent request (transport.packets held) <;> exact stays _ rfl ⟨_, rfl⟩
  | poolEmpty held => exact fun empty => stays _ rfl ⟨_, rfl⟩
  | rxQueueEmpty held =>
      intro empty
      cases empty <;> exact stays _ rfl ⟨_, rfl⟩
  | moveEmpty ret => exact fun empty => stays _ rfl ⟨_, rfl⟩
  | moveRemove ret => exact fun index => stays _ rfl ⟨_, rfl⟩
  | leave ret =>
      refine ⟨?_, .inl rfl⟩
      rw [calls]
      simp [begun]
  | _ => exact stays _ rfl ⟨_, rfl⟩

theorem main_waits (inPlace : InPlace (transport, lists)) (quiet : transport.isr = .idle)
    {elapsed : Bool} (runs : (transport.main firmware elapsed answers).onLists lists = some next) :
    (waiting next).length ≤ (waiting (transport, lists)).length ∧
      next.1.events.queued = transport.events.queued := by
  cases main_moves inPlace runs with
  | keeps log waits => exact ⟨by rw [waits], by rw [log]⟩
  | queues index isr =>
      have busy : transport.isr = .queue index := isr
      rw [quiet] at busy
      cases busy
  | delivers index log waits => exact ⟨by rw [waits, List.length_cons]; omega, by rw [log]; rfl⟩
  | consumes index front back log waits rest =>
      refine ⟨?_, by rw [log]; rfl⟩
      rw [waits, rest, List.length_append, List.length_append, List.length_cons]
      omega
  | loses index front back log waits rest =>
      refine ⟨?_, by rw [log]; rfl⟩
      rw [waits, rest, List.length_append, List.length_append, List.length_cons]
      omega

/-- What the main program gets nearer to with a step: to the end of the call it is in, else to the
next call of `UserEvtRx`, and with this call to the last event. -/
def Nearer (firmware : Firmware App Answers) (config next : Transport App × Lists) : Prop :=
  (waiting next).length < (waiting config).length ∨
    next.1.control.place firmware.advertisingRequests.length <
      config.1.control.place firmware.advertisingRequests.length ∨
    next.1.control.place firmware.advertisingRequests.length =
      config.1.control.place firmware.advertisingRequests.length ∧ rank next < rank config

theorem sendReq_nearer {caller : Caller} {request : HciRequest} {rest : List HciRequest}
    {phase : Phase} (here : transport.control = .sendReq caller request rest phase)
    (queued : next.1.events.queued = transport.events.queued)
    (runs : (transport.sendReq true caller request rest phase).onLists lists = some next) :
    Nearer firmware (transport, lists) next := by
  obtain ⟨calls, place⟩ := (sendReq_stays here).holds runs
  have paid := sendReq_paid here runs
  rw [if_neg (by simp), Paid, budget, budget, calls, queued] at paid
  dsimp only at paid
  refine .inr ?_
  rcases place with control | ⟨later, control⟩
  · exact .inl (by simp [control, here, Control.place])
  · exact .inr ⟨by simp [control, here, Control.place], by omega⟩

/-- With something to do, the main program gets on with it, unless the callback was its last. -/
theorem main_works (inPlace : InPlace (transport, lists)) (quiet : transport.isr = .idle)
    (serves : transport.control.serves = true)
    (busy : waiting (transport, lists) ≠ [] ∨ transport.control.remaining ≠ [])
    (runs : (transport.main firmware true answers).onLists lists = some next) :
    Nearer firmware (transport, lists) next ∧
      (next.1.control.serves = true ∨ firmware.gone next.1.app = true) := by
  obtain ⟨-, queued⟩ := main_waits inPlace quiet runs
  unfold Transport.main at runs
  cases here : transport.control with
  | sendReq caller request rest phase =>
      rw [here] at runs serves
      refine ⟨sendReq_nearer here queued runs, .inl ?_⟩
      obtain ⟨-, control | ⟨later, control⟩⟩ := (sendReq_stays here).holds runs
      · rw [control]
        exact serves
      · rw [control]
        exact serves
  | calls caller requests =>
      rw [here] at runs serves
      cases requests with
      | cons request rest =>
          cases runs
          refine ⟨.inr (.inl ?_), .inl serves⟩
          simp only [here, Control.place, Transport.goto_control, List.length_cons]
          omega
      | nil =>
          cases caller with
          | blueNrgInit => cases serves
          | enableAdvertising =>
              cases runs
              exact ⟨.inr (.inl (by simp [here, Control.place])), .inl rfl⟩
          | userEvtRx index =>
              cases runs
              exact ⟨.inr (.inl (by simp [here, Control.place])), .inl rfl⟩
  | process =>
      rw [here] at runs
      cases runs
      dsimp only
      split
      · exact ⟨.inr (.inl (by simp [here, Control.place])), .inl rfl⟩
      · exact ⟨.inr (.inl (by simp [here, Control.place])), .inl rfl⟩
  | evtProcEmpty =>
      have some : waiting (transport, lists) ≠ [] :=
        busy.resolve_right (by simp [here, Control.remaining])
      have temp : lists.tempQueue = none := by
        have ready := inPlace.main
        rwa [here] at ready
      rw [here] at runs
      obtain ⟨items, found, rfl⟩ := isEmpty_onLists runs
      obtain rfl : lists.rxQueue = items := Option.some.inj found
      have queue : lists.rxQueue ≠ [] := by
        simpa [waiting, here, Control.live, Lists.temp, temp] using some
      simp [Nearer, queue, here, Control.place, Control.serves]
  | evtProcRemove =>
      rw [here] at runs
      obtain ⟨index, items, -, rfl⟩ := removeHead_onLists runs
      exact ⟨.inr (.inl (by simp [here, Control.place])), .inl rfl⟩
  | evtProcCall held =>
      rw [here] at runs
      cases runs
      have waits : waiting (transport.callback firmware answers held, lists) =
          lists.temp ++ lists.rxQueue := by
        rw [waiting]
        rcases callback_control transport held firmware answers with gone | ⟨requests, calls⟩
        · rw [gone]
          simp [Control.live]
        · rw [calls]
          simp [Control.live]
      refine ⟨.inl ?_, ?_⟩
      · rw [waits]
        simp only [waiting, here, Control.live, List.length_append, List.length_singleton]
        omega
      · rw [callback_app]
        unfold Transport.callback
        dsimp only
        split
        next gone => exact .inr gone
        next => exact .inl rfl
  | evtProcInsert inserted =>
      rw [here] at runs
      obtain ⟨items, -, -, rfl⟩ := insertTail_onLists runs
      exact ⟨.inr (.inl (by simp [here, Control.place])), .inl rfl⟩
  | initFailed =>
      rw [here] at serves
      cases serves
  | gone index =>
      rw [here] at serves
      cases serves

end Main

/-- Nothing waits for the program, neither an event nor a request of its own. -/
structure Rested (config : Transport App × Lists) : Prop where
  isr : config.1.isr = .idle
  offered : config.1.offered = []
  waits : waiting config = []
  sent : config.1.control.remaining = []

/-- The program can do what there is to do without losing an event. -/
structure Serving (config : Transport App × Lists) : Prop where
  inPlace : InPlace config
  starved : Starved config
  attended : Attended config
  flowing : ¬ Stalled config
  fits : config.1.Fits
  few : outstanding config ≤ 2
  serves : config.1.control.serves = true

section Steps

variable {firmware : Firmware App Answers} {config next : Transport App × Lists}

theorem interrupt_control {transport : Transport App} {ready : Bool} :
    (transport.interrupt ready).Leads fun next => next.control = transport.control := by
  unfold Transport.interrupt
  cases transport.isr with
  | idle =>
      dsimp only [Command.Leads]
      split <;> rfl
  | receive index => exact receive_control transport index ready
  | poolEmpty => exact fun empty => rfl
  | poolRemove => exact fun index => rfl
  | _ => rfl

theorem step_fits {input : Input Answers} (fits : config.1.Fits)
    (short : ∀ event ∈ arrivals [input], event.length ≤ hciReadPacketSize)
    (runs : listStep firmware config input = some next) : next.1.Fits := by
  obtain ⟨transport, lists⟩ := config
  cases input with
  | arrive type rest =>
      cases runs
      intro event member
      rcases List.mem_append.mp member with old | new
      · exact fits event old
      · rw [List.mem_singleton.mp new]
        exact ⟨by simp, short _ (by simp [arrivals])⟩
  | main elapsed answers =>
      simp only [listStep, Transport.step] at runs
      split at runs
      next =>
        have line := (main_line transport firmware elapsed answers).holds runs
        rw [Transport.Fits, line.offered]
        exact fits
      next =>
        cases runs
        exact fits
  | interrupt ready =>
      have kept : next.1.offered = transport.offered ∨
          ∃ index, transport.isr = .receive index ∧
            next.1.offered = (transport.receive ready index).offered := by
        have leads : (transport.interrupt ready).Leads fun next =>
            next.offered = transport.offered ∨
              ∃ index, transport.isr = .receive index ∧
                next.offered = (transport.receive ready index).offered := by
          unfold Transport.interrupt
          cases place : transport.isr with
          | idle =>
              dsimp only [Command.Leads]
              split <;> exact .inl rfl
          | receive index => exact .inr ⟨index, rfl, rfl⟩
          | poolEmpty => exact fun empty => .inl rfl
          | poolRemove => exact fun index => .inl rfl
          | _ => exact .inl rfl
        exact leads.holds runs
      rcases kept with same | ⟨index, place, taken⟩
      · rw [Transport.Fits, same]
        exact fits
      · rw [Transport.Fits, taken]
        by_cases nothing :
            hciTlSpiReceive hciReadPacketSize.toUInt16 ready (transport.offered.headD []) = 0
        · rw [receive_nothing transport index nothing]
          exact fits
        · cases ready with
          | false => exact absurd rfl nothing
          | true =>
              cases first : transport.offered with
              | nil =>
                  rw [first] at nothing
                  exact absurd (by decide) nothing
              | cons event later =>
                  obtain ⟨filled, length⟩ := fits event (by simp [first])
                  rw [receive_whole first filled length]
                  exact fun other member => fits other (by simp [first, member])

theorem Serving.arrive (serving : Serving config) (rested : Rested config) {type : UInt8}
    {rest : List UInt8} (short : (type :: rest).length ≤ hciReadPacketSize)
    (runs : listStep firmware config (.arrive type rest) = some next) :
    Serving next ∧ next.1.events = config.1.events := by
  have fits := step_fits serving.fits (by simpa [arrivals] using short) runs
  obtain ⟨after, same, kept⟩ := step_inPlace firmware _ (.arrive type rest) serving.inPlace
  obtain rfl : after = next := Option.some.inj (same.symm.trans runs)
  have starved := step_starved serving.starved runs
  obtain ⟨attended, stalls⟩ := step_stalls serving.attended runs
  obtain ⟨transport, lists⟩ := config
  cases runs
  refine ⟨⟨kept, starved, attended, ?_, fits, ?_, serving.serves⟩, rfl⟩
  · rw [stalls, not_or]
    exact ⟨serving.flowing, fun exhausts => absurd exhausts.1 (by simp)⟩
  · have waits : waiting (transport, lists) = [] := rested.waits
    have isr : transport.isr = .idle := rested.isr
    have offered : transport.offered = [] := rested.offered
    rw [waiting] at waits
    simp [outstanding, waiting, waits, Transport.inHand, isr, offered]

theorem Serving.interrupt (serving : Serving config)
    (busy : ¬ (config.1.isr = .idle ∧ config.1.offered = []))
    (runs : listStep firmware config (.interrupt true) = some next) :
    Serving next ∧ next.1.events.lost = config.1.events.lost ∧
      LessWork (workLeft firmware next) (workLeft firmware config) := by
  obtain ⟨transport, lists⟩ := config
  have interrupted : (transport.interrupt true).onLists lists = some next := runs
  obtain ⟨less, few⟩ := interrupt_works serving.inPlace serving.attended serving.flowing
    serving.fits serving.few busy interrupted
  obtain ⟨after, same, kept⟩ := step_inPlace firmware _ (.interrupt true) serving.inPlace
  obtain rfl : after = next := Option.some.inj (same.symm.trans runs)
  obtain ⟨attended, stalls⟩ := step_stalls serving.attended runs
  refine ⟨{
    inPlace := kept
    starved := interrupt_starved serving.starved interrupted
    attended := attended
    flowing := ?_
    fits := step_fits serving.fits (by simp [arrivals]) runs
    few := Nat.le_trans few serving.few
    serves := ?_ }, interrupt_keeps_lost.holds interrupted, .left _ _ less⟩
  · rw [stalls, not_or]
    refine ⟨serving.flowing, ?_⟩
    rintro ⟨-, asks, empty, -⟩
    exact serving.inPlace.pool_ne_nil serving.few (by rw [show transport.isr = _ from asks]; rfl)
      (serving.attended.1 asks) empty
  · rw [interrupt_control.holds interrupted]
    exact serving.serves

theorem Serving.main (serving : Serving config) {answers : Answers}
    (quiet : config.1.isr = .idle) (silent : config.1.offered = [])
    (busy : waiting config ≠ [] ∨ config.1.control.remaining ≠ [])
    (runs : listStep firmware config (.main true answers) = some next) :
    (Serving next ∨ firmware.gone next.1.app = true) ∧
      next.1.events.lost = config.1.events.lost ∧
      LessWork (workLeft firmware next) (workLeft firmware config) := by
  obtain ⟨transport, lists⟩ := config
  have ran : (transport.main firmware true answers).onLists lists = some next := by
    simp only [listStep, Transport.step] at runs
    rwa [if_pos quiet] at runs
  obtain ⟨waits, -⟩ := main_waits serving.inPlace quiet ran
  obtain ⟨nearer, serves⟩ := main_works serving.inPlace quiet serving.serves busy ran
  have line := (main_line transport firmware true answers).holds ran
  have bound := serving.few
  have fewWaiting : (waiting (transport, lists)).length ≤ 2 := by
    rw [outstanding] at bound
    omega
  obtain ⟨after, same, kept⟩ := step_inPlace firmware _ (.main true answers) serving.inPlace
  obtain rfl : after = next := Option.some.inj (same.symm.trans runs)
  refine ⟨serves.imp (fun serves => ?_) id,
    (step_drops serving.inPlace serving.starved runs).lost_eq fewWaiting, ?_⟩
  · have inHand : after.1.inHand = [] := by rw [Transport.inHand, line.isr, quiet]
    have nothing : after.1.offered = [] := line.offered.trans silent
    exact {
      inPlace := kept
      starved := step_starved serving.starved runs
      attended := (step_stalls serving.attended runs).1
      flowing := fun stalled => stalled.2.2 nothing
      fits := by simp [Transport.Fits, nothing]
      few := by
        rw [outstanding, inHand, nothing]
        exact Nat.le_trans waits fewWaiting
      serves := serves }
  · have same : 6 * after.1.offered.length + after.1.reach =
        6 * transport.offered.length + transport.reach := by
      rw [Transport.reach, Transport.reach, line.offered, line.isr]
    rw [workLeft, same]
    refine .right _ ?_
    rcases nearer with fewer | closer | ⟨level, lower⟩
    · exact .left _ _ fewer
    · exact lex_of_le waits (.left _ _ closer)
    · rw [level]
      exact lex_of_le waits (.right _ lower)

theorem Serving.goes (serving : Serving config) (busy : ¬ Rested config) (answers : Answers) :
    ∃ input next, (input = .interrupt true ∨ input = .main true answers) ∧
      listStep firmware config input = some next ∧
      (Serving next ∨ firmware.gone next.1.app = true) ∧
      next.1.events.lost = config.1.events.lost ∧
      LessWork (workLeft firmware next) (workLeft firmware config) := by
  by_cases idle : config.1.isr = .idle ∧ config.1.offered = []
  · obtain ⟨next, runs, -⟩ := step_inPlace firmware config (.main true answers) serving.inPlace
    have some : waiting config ≠ [] ∨ config.1.control.remaining ≠ [] := by
      by_contra none
      obtain ⟨waits, sent⟩ := not_or.mp none
      exact busy ⟨idle.1, idle.2, not_not.mp waits, not_not.mp sent⟩
    exact ⟨_, next, .inr rfl, runs, serving.main idle.1 idle.2 some runs⟩
  · obtain ⟨next, runs, -⟩ := step_inPlace firmware config (.interrupt true) serving.inPlace
    obtain ⟨after, lost, less⟩ := serving.interrupt idle runs
    exact ⟨_, next, .inl rfl, runs, .inl after, lost, less⟩

end Steps

theorem run_fits {firmware : Firmware App Answers} {packets : PacketIndex → HciDataPacket}
    {app : App} {inputs : List (Input Answers)} {config : Transport App × Lists}
    (runs : runFrom (listStep firmware) (Transport.initial firmware packets app, Lists.initial)
      inputs = some config)
    (fit : ∀ event ∈ arrivals inputs, event.length ≤ hciReadPacketSize) : config.1.Fits := by
  have keeps : ∀ earlier state input next,
      ((∀ event ∈ arrivals earlier, event.length ≤ hciReadPacketSize) → state.1.Fits) →
      listStep firmware state input = some next →
      (∀ event ∈ arrivals (earlier ++ [input]), event.length ≤ hciReadPacketSize) →
        next.1.Fits := by
    intro earlier state input next fits done short
    rw [arrivals, List.filterMap_append] at short
    exact step_fits (fits fun event member => short event (List.mem_append_left _ member))
      (fun event member => short event (List.mem_append_right _ member)) done
  have start : (Transport.initial firmware packets app).Fits := by
    simp [Transport.Fits, Transport.initial]
  exact @run_history _ _ _ (fun earlier state =>
    (∀ event ∈ arrivals earlier, event.length ≤ hciReadPacketSize) → state.1.Fits) keeps _ _ []
    inputs runs (fun _ => start) fit

theorem run_serving {firmware : Firmware App Answers} {packets : PacketIndex → HciDataPacket}
    {app : App} {inputs : List (Input Answers)} {config : Transport App × Lists}
    (runs : runFrom (listStep firmware) (Transport.initial firmware packets app, Lists.initial)
      inputs = some config)
    (fit : ∀ event ∈ arrivals inputs, event.length ≤ hciReadPacketSize)
    (flowing : ¬ Stalled config) (few : outstanding config ≤ 2)
    (serves : config.1.control.serves = true) : Serving config where
  inPlace := (run_inOrder runs).inPlace
  starved := run_invariant (fun _ _ _ starved done => step_starved starved done) runs trivial
  attended := run_invariant (fun _ _ _ attended done => (step_stalls attended done).1) runs
    (by simp [Attended, Transport.initial])
  flowing := flowing
  fits := run_fits runs fit
  few := few
  serves := serves

/-- From wherever a run has led, with at most two events outstanding and the program neither
stalled nor in its initialisation, it can work off all that waits, without a new event and without
losing one, unless it ends before. -/
theorem works_off_what_waits {firmware : Firmware App Answers}
    {packets : PacketIndex → HciDataPacket} {app : App} {inputs : List (Input Answers)}
    {config : Transport App × Lists}
    (runs : runFrom (listStep firmware) (Transport.initial firmware packets app, Lists.initial)
      inputs = some config)
    (fit : ∀ event ∈ arrivals inputs, event.length ≤ hciReadPacketSize)
    (flowing : ¬ Stalled config) (few : outstanding config ≤ 2)
    (serves : config.1.control.serves = true) (answers : Answers) :
    ∃ later final, (∀ input ∈ later, input = .interrupt true ∨ input = .main true answers) ∧
      runFrom (listStep firmware) config later = some final ∧
      final.1.events.lost = config.1.events.lost ∧
      (Rested final ∨ firmware.gone final.1.app = true) := by
  have goes : ∀ state size,
      ((Serving state ∨ firmware.gone state.1.app = true) ∧
        state.1.events.lost = config.1.events.lost ∧ size = workLeft firmware state) →
      (state.1.events.lost = config.1.events.lost ∧
        (Rested state ∨ firmware.gone state.1.app = true)) ∨
      ∃ input next smaller, (input = .interrupt true ∨ input = .main true answers) ∧
        listStep firmware state input = some next ∧
        ((Serving next ∨ firmware.gone next.1.app = true) ∧
          next.1.events.lost = config.1.events.lost ∧ smaller = workLeft firmware next) ∧
        LessWork smaller size := by
    rintro state size ⟨serving | gone, lost, rfl⟩
    · by_cases rested : Rested state
      · exact .inl ⟨lost, .inl rested⟩
      · obtain ⟨input, next, chosen, done, after, same, less⟩ :=
          @Serving.goes _ _ firmware state serving rested answers
        exact .inr ⟨input, next, _, chosen, done, ⟨after, same.trans lost, rfl⟩, less⟩
    · exact .inl ⟨lost, .inr gone⟩
  exact run_reaches lessWork_wf goes
    ⟨.inl (run_serving runs fit flowing few serves), rfl, rfl⟩

theorem works_off_what_waits_two :
    let inputs : List (Input Unit) := .main true () ::
      List.replicate 2 (.arrive hciEventPkt [0x05, 0x00]) ++ List.replicate 8 (.interrupt true)
    ∃ config,
      runFrom (listStep .silent) (Transport.initial .silent blankPackets (), Lists.initial)
        inputs = some config ∧
      ∃ later final, (∀ input ∈ later, input = .interrupt true ∨ input = .main true ()) ∧
        runFrom (listStep .silent) config later = some final ∧
        final.1.events.lost = config.1.events.lost ∧
        (Rested final ∨ Firmware.silent.gone final.1.app = true) := by
  intro inputs
  have possible : ∃ config ∈ runFrom (listStep .silent)
      (Transport.initial .silent blankPackets (), Lists.initial) inputs,
      ¬ Stalled config ∧ outstanding config ≤ 2 ∧ config.1.control.serves = true := by
    decide +kernel
  obtain ⟨config, runs, flowing, few, serves⟩ := possible
  exact ⟨config, runs, works_off_what_waits runs (by decide) flowing few serves ()⟩

end BleFwUpdate
