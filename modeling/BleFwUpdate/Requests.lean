import BleFwUpdate.EventOrder

/-! What the radio is told: the requests of the program go out one at a time and in their order,
and each is tallied, or given up, before the next. -/

namespace BleFwUpdate

open Faults

variable {App Answers : Type}

def Phase.sent : Phase → Bool
  | .initHead | .getSize | .freeRemove | .freeInsert _ | .send => false
  | _ => true

/-- What the call is going to return, once it knows. -/
def Phase.result : Phase → Option (Option (List UInt8))
  | .release _ ret | .moveEmpty ret | .moveRemove ret | .moveInsert _ ret | .leave ret => some ret
  | _ => none

def Control.remaining : Control → List HciRequest
  | .calls _ requests => requests
  | .sendReq _ request rest phase => if phase.sent then rest else request :: rest
  | _ => []

def Control.unanswered : Control → Nat
  | .sendReq _ _ _ phase => if phase.sent then 1 else 0
  | _ => 0

def Control.succeeding : Control → Nat
  | .sendReq _ _ _ phase => if phase.result.any Option.isSome then 1 else 0
  | _ => 0

theorem succeeding_le (control : Control) : control.succeeding ≤ 1 := by
  cases control with
  | sendReq caller request rest phase =>
      rw [Control.succeeding]
      split <;> omega
  | _ => exact Nat.zero_le 1

/-- Every request made is a command handed over or still to be sent, in order; every command but
the last has been answered; and a call returns 0 only for an event it has taken, so that the
events that were taken for nothing stay spare. -/
structure Tally (spare : Nat) (calls : RequestLog) (consumed : List Nat)
    (remaining : List HciRequest) (unanswered succeeding : Nat) : Prop where
  commands : calls.commands ++ remaining.map sendCmd = calls.requested.map sendCmd
  results : calls.commands.length = calls.results.length + unanswered
  successes : calls.results.countP Option.isSome + succeeding + spare ≤ consumed.length

def Tallied (spare : Nat) (transport : Transport App) : Prop :=
  Tally spare transport.calls transport.events.consumed transport.control.remaining
    transport.control.unanswered transport.control.succeeding

section Steps

variable {transport : Transport App} {spare : Nat}

theorem sendReq_tallied {elapsed : Bool} {caller : Caller} {request : HciRequest}
    {rest : List HciRequest} {phase : Phase} (tallied : Tallied spare transport)
    (here : transport.control = .sendReq caller request rest phase) :
    (transport.sendReq elapsed caller request rest phase).Leads (Tallied spare) := by
  rw [Tallied, here] at tallied
  cases phase with
  | initHead => exact tallied
  | getSize =>
      intro size
      dsimp only
      split <;> exact tallied
  | freeRemove => exact fun _ => tallied
  | freeInsert inserted => exact tallied
  | send =>
      obtain ⟨commands, results, successes⟩ := tallied
      refine ⟨?_, ?_, successes⟩
      · simpa [Control.remaining, Phase.sent] using commands
      · simpa [Control.unanswered, Phase.sent] using results
  | wait =>
      cases elapsed with
      | true => exact tallied
      | false =>
          intro empty
          cases empty <;> exact tallied
  | extract => exact fun _ => tallied
  | examine held =>
      obtain ⟨commands, results, successes⟩ := tallied
      have taken : transport.calls.results.countP Option.isSome + 1 + spare ≤
          (transport.events.consume held).consumed.length := by
        simp only [EventLog.consume, List.length_append, List.length_singleton]
        simp only [Control.succeeding, Phase.result, Option.any_none] at successes
        omega
      simp only [Transport.sendReq]
      cases examineEvent request (transport.packets held) with
      | failed => exact ⟨commands, results, by simp [Control.succeeding, Phase.result]; omega⟩
      | done rparam => exact ⟨commands, results, taken⟩
      | other => exact ⟨commands, results, successes⟩
  | poolEmpty held =>
      intro empty
      cases empty <;> exact tallied
  | rxQueueEmpty held =>
      intro empty
      cases empty <;> exact tallied
  | discard inserted => exact tallied
  | keep inserted => exact tallied
  | release inserted ret => exact tallied
  | moveEmpty ret =>
      intro empty
      cases empty <;> exact tallied
  | moveRemove ret => exact fun _ => tallied
  | moveInsert inserted ret => exact tallied
  | leave ret =>
      obtain ⟨commands, results, successes⟩ := tallied
      refine ⟨commands, ?_, ?_⟩
      · simpa [Control.unanswered, Phase.sent] using results
      · cases ret <;> simpa [Control.succeeding, Phase.result] using successes

theorem Tallied.requests (tallied : Tallied spare transport) (caller : Caller)
    (requests : List HciRequest) (none : transport.control.remaining = [])
    (settled : transport.control.unanswered = 0) :
    Tallied spare (transport.requests caller requests) := by
  obtain ⟨commands, results, successes⟩ := tallied
  refine ⟨?_, ?_, ?_⟩
  · rw [none, List.map_nil, List.append_nil] at commands
    simp [Control.remaining, commands]
  · rwa [settled] at results
  · have fewer : transport.calls.results.countP Option.isSome + spare ≤
        transport.events.consumed.length := by omega
    exact fewer

theorem callback_tallied {firmware : Firmware App Answers} {answers : Answers}
    {index : PacketIndex} (tallied : Tallied spare transport)
    (here : transport.control = .evtProcCall index) :
    Tallied spare (transport.callback firmware answers index) := by
  have none : transport.control.remaining = [] := by rw [here]; rfl
  have settled : transport.control.unanswered = 0 := by rw [here]; rfl
  unfold Transport.callback
  dsimp only
  split
  · rw [Tallied, here] at tallied
    exact tallied
  · exact Tallied.requests tallied _ _ none settled

theorem main_tallied {firmware : Firmware App Answers} {elapsed : Bool} {answers : Answers}
    (tallied : Tallied spare transport) :
    (transport.main firmware elapsed answers).Leads (Tallied spare) := by
  unfold Transport.main
  cases here : transport.control with
  | calls caller requests =>
      rw [Tallied, here] at tallied
      cases requests with
      | cons request rest => exact tallied
      | nil =>
          cases caller with
          | blueNrgInit =>
              dsimp only [Command.Leads]
              split <;> exact tallied
          | enableAdvertising => exact tallied
          | userEvtRx index => exact tallied
  | sendReq caller request rest phase => exact sendReq_tallied tallied here
  | process =>
      have none : transport.control.remaining = [] := by rw [here]; rfl
      have settled : transport.control.unanswered = 0 := by rw [here]; rfl
      dsimp only [Command.Leads]
      split
      · exact tallied.requests _ _ none settled
      · rw [Tallied, here] at tallied
        exact tallied
  | evtProcEmpty =>
      rw [Tallied, here] at tallied
      intro empty
      cases empty <;> exact tallied
  | evtProcRemove =>
      rw [Tallied, here] at tallied
      exact fun _ => tallied
  | evtProcCall held => exact callback_tallied tallied here
  | evtProcInsert inserted =>
      rw [Tallied, here] at tallied
      exact tallied
  | initFailed => exact tallied
  | gone index => exact tallied

theorem interrupt_tallied {ready : Bool} (tallied : Tallied spare transport) :
    (transport.interrupt ready).Leads (Tallied spare) := by
  unfold Transport.interrupt
  cases place : transport.isr with
  | idle =>
      dsimp only [Command.Leads]
      split <;> exact tallied
  | available => exact tallied
  | poolEmpty => exact fun _ => tallied
  | poolRemove => exact fun _ => tallied
  | receive index =>
      dsimp only [Command.Leads]
      rw [Tallied, receive_control, receive_events, receive_calls]
      exact tallied
  | queue index => exact tallied
  | giveBack index => exact tallied

theorem step_tallied {firmware : Firmware App Answers} {input : Input Answers}
    (tallied : Tallied spare transport) :
    (transport.step firmware input).Leads (Tallied spare) := by
  cases input with
  | arrive type rest => exact tallied
  | interrupt ready => exact interrupt_tallied tallied
  | main elapsed answers =>
      unfold Transport.step
      dsimp only
      split
      · exact main_tallied tallied
      · exact tallied

end Steps

theorem run_tallied {firmware : Firmware App Answers} {spare : Nat}
    {config final : Transport App × Lists} {inputs : List (Input Answers)}
    (tallied : Tallied spare config.1)
    (runs : runFrom (listStep firmware) config inputs = some final) : Tallied spare final.1 := by
  refine @run_invariant _ _ _ (fun config => Tallied spare config.1) ?_ config final inputs runs
    tallied
  intro config input next tallied done
  exact (step_tallied tallied).holds done

theorem initial_tallied (firmware : Firmware App Answers)
    (packets : PacketIndex → HciDataPacket) (app : App) :
    Tallied 0 (Transport.initial firmware packets app) :=
  ⟨rfl, rfl, Nat.le_refl 0⟩

end BleFwUpdate
