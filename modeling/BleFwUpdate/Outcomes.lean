import BleFwUpdate.Requests

/-! What decides a call of `hci_send_req`: one event, which no other call and no handler gets to
see, or else the time running out. -/

namespace BleFwUpdate

open Faults

variable {App Answers : Type}

/-- A call of `hci_send_req` that knows what it returns, and the number of the event it knows it
from. -/
structure Call where
  request : HciRequest
  result : Option (List UInt8)
  source : Option Nat

def verdictOf : Option (List UInt8) → Verdict
  | some rparam => .done rparam
  | none => .failed

def Call.Decided (queued : List (List UInt8)) (call : Call) : Prop :=
  match call.source with
  | some number => ∃ packet : HciDataPacket, queued[number]? = some packet.event ∧
      examineEvent call.request packet = verdictOf call.result
  | none => call.result = none

theorem Call.Decided.append {queued : List (List UInt8)} {call : Call}
    (decided : call.Decided queued) (more : List (List UInt8)) :
    call.Decided (queued ++ more) := by
  unfold Call.Decided at decided ⊢
  cases source : call.source with
  | none => rwa [source] at decided
  | some number =>
      rw [source] at decided
      obtain ⟨packet, found, verdict⟩ := decided
      have inside := (List.getElem?_eq_some_iff.mp found).1
      exact ⟨packet, by rw [List.getElem?_append_left inside, found], verdict⟩

def Control.undecided : Control → List HciRequest
  | .calls _ requests => requests
  | .sendReq _ request rest phase => if phase.result.isSome then rest else request :: rest
  | _ => []

def Control.returning : Control → List (Option (List UInt8))
  | .sendReq _ _ _ phase => phase.result.toList
  | _ => []

/-- The calls account for all requests but those whose outcome is open, for all results, and for
all events that were taken. -/
structure Accounted (calls : List Call) (transport : Transport App) : Prop where
  requested : transport.calls.requested = calls.map Call.request ++ transport.control.undecided
  results : transport.calls.results ++ transport.control.returning = calls.map Call.result
  consumed : transport.events.consumed = calls.filterMap Call.source
  decided : ∀ call ∈ calls, call.Decided transport.events.queued

def Accounts (transport : Transport App) : Prop := ∃ calls, Accounted calls transport

section Steps

variable {transport : Transport App}

theorem Accounts.keeps {after : Transport App} (accounts : Accounts transport)
    (log : after.calls = transport.calls) (events : after.events.consumed = transport.events.consumed)
    (queued : after.events.queued = transport.events.queued)
    (undecided : after.control.undecided = transport.control.undecided)
    (returning : after.control.returning = transport.control.returning) : Accounts after := by
  obtain ⟨calls, requested, results, consumed, decided⟩ := accounts
  exact ⟨calls, by rw [log, undecided, requested], by rw [log, returning, results],
    by rw [events, consumed], by rwa [queued]⟩

theorem Accounts.decide {after : Transport App} {caller : Caller} {request : HciRequest}
    {rest : List HciRequest} {phase : Phase} {result : Option (List UInt8)}
    (accounts : Accounts transport) (source : Option Nat)
    (here : transport.control = .sendReq caller request rest phase)
    (unknown : phase.result = none) (log : after.calls = transport.calls)
    (events : after.events.consumed = transport.events.consumed ++ source.toList)
    (queued : after.events.queued = transport.events.queued)
    (undecided : after.control.undecided = rest) (returning : after.control.returning = [result])
    (decided : (Call.mk request result source).Decided transport.events.queued) :
    Accounts after := by
  obtain ⟨calls, requested, results, consumed, earlier⟩ := accounts
  rw [here] at requested results
  refine ⟨calls ++ [⟨request, result, source⟩], ?_, ?_, ?_, ?_⟩
  · rw [log, requested, undecided]
    simp [Control.undecided, unknown]
  · rw [log, returning, List.map_append, ← results]
    simp [Control.returning, unknown]
  · rw [events, consumed, List.filterMap_append]
    cases source <;> rfl
  · intro call member
    rw [queued]
    rcases List.mem_append.mp member with old | new
    · exact earlier call old
    · rwa [List.mem_singleton.mp new]

theorem sendReq_accounts {elapsed : Bool} {caller : Caller} {request : HciRequest}
    {rest : List HciRequest} {phase : Phase} (accounts : Accounts transport)
    (here : transport.control = .sendReq caller request rest phase)
    (contents : ∀ index ∈ transport.control.live,
      transport.events.queued[transport.events.serial index]? =
        some (transport.packets index).event) :
    (transport.sendReq elapsed caller request rest phase).Leads Accounts := by
  have keeps : ∀ after : Transport App, after.calls = transport.calls →
      after.events.consumed = transport.events.consumed →
      after.events.queued = transport.events.queued →
      after.control.undecided = (Control.sendReq caller request rest phase).undecided →
      after.control.returning = (Control.sendReq caller request rest phase).returning →
      Accounts after := by
    intro after log events queued undecided returning
    exact accounts.keeps log events queued (by rw [undecided, here]) (by rw [returning, here])
  cases phase with
  | getSize =>
      intro size
      dsimp only
      split <;> exact keeps _ rfl rfl rfl rfl rfl
  | freeRemove => exact fun index => keeps _ rfl rfl rfl rfl rfl
  | wait =>
      cases elapsed with
      | true =>
          exact accounts.decide none here rfl rfl (List.append_nil _).symm rfl rfl rfl rfl
      | false =>
          intro empty
          cases empty <;> exact keeps _ rfl rfl rfl rfl rfl
  | extract => exact fun index => keeps _ rfl rfl rfl rfl rfl
  | examine held =>
      have found := contents held (by rw [here]; exact List.mem_singleton_self held)
      simp only [Transport.sendReq]
      cases verdict : examineEvent request (transport.packets held) with
      | failed =>
          exact accounts.decide (some (transport.events.serial held)) here rfl rfl rfl rfl rfl rfl
            ⟨transport.packets held, found, verdict⟩
      | done rparam =>
          exact accounts.decide (some (transport.events.serial held)) here rfl rfl rfl rfl rfl rfl
            ⟨transport.packets held, found, verdict⟩
      | other => exact keeps _ rfl rfl rfl rfl rfl
  | poolEmpty held =>
      intro empty
      cases empty <;> exact keeps _ rfl rfl rfl rfl rfl
  | rxQueueEmpty held =>
      intro empty
      cases empty <;> exact keeps _ rfl rfl rfl rfl rfl
  | moveEmpty ret =>
      intro empty
      cases empty <;> exact keeps _ rfl rfl rfl rfl rfl
  | moveRemove ret => exact fun index => keeps _ rfl rfl rfl rfl rfl
  | leave ret =>
      obtain ⟨calls, requested, results, consumed, decided⟩ := accounts
      rw [here] at requested results
      refine ⟨calls, requested, ?_, consumed, decided⟩
      rw [← results]
      exact List.append_nil _
  | send =>
      obtain ⟨calls, requested, results, consumed, decided⟩ := accounts
      rw [here] at requested results
      exact ⟨calls, requested, results, consumed, decided⟩
  | _ => exact keeps _ rfl rfl rfl rfl rfl

theorem Accounts.requests (accounts : Accounts transport) (caller : Caller)
    (requests : List HciRequest) (none : transport.control.undecided = [])
    (settled : transport.control.returning = []) :
    Accounts (transport.requests caller requests) := by
  obtain ⟨calls, requested, results, consumed, decided⟩ := accounts
  refine ⟨calls, ?_, ?_, consumed, decided⟩
  · rw [none, List.append_nil] at requested
    simp [Control.undecided, requested]
  · rwa [settled] at results

theorem main_accounts {firmware : Firmware App Answers} {elapsed : Bool} {answers : Answers}
    (accounts : Accounts transport)
    (contents : ∀ index ∈ transport.control.live,
      transport.events.queued[transport.events.serial index]? =
        some (transport.packets index).event) :
    (transport.main firmware elapsed answers).Leads Accounts := by
  unfold Transport.main
  cases here : transport.control with
  | calls caller requests =>
      cases requests with
      | cons request rest => exact accounts.keeps rfl rfl rfl (by rw [here]; rfl) (by rw [here]; rfl)
      | nil =>
          cases caller with
          | blueNrgInit =>
              refine accounts.keeps rfl rfl rfl ?_ ?_ <;>
                (rw [here, Transport.goto_control]; split <;> rfl)
          | enableAdvertising =>
              exact accounts.keeps rfl rfl rfl (by rw [here]; rfl) (by rw [here]; rfl)
          | userEvtRx index =>
              exact accounts.keeps rfl rfl rfl (by rw [here]; rfl) (by rw [here]; rfl)
  | sendReq caller request rest phase => exact sendReq_accounts accounts here contents
  | process =>
      dsimp only [Command.Leads]
      split
      · exact accounts.requests _ _ (by rw [here]; rfl) (by rw [here]; rfl)
      · exact accounts.keeps rfl rfl rfl (by rw [here]; rfl) (by rw [here]; rfl)
  | evtProcEmpty =>
      intro empty
      cases empty <;> exact accounts.keeps rfl rfl rfl (by rw [here]; rfl) (by rw [here]; rfl)
  | evtProcRemove =>
      exact fun index => accounts.keeps rfl rfl rfl (by rw [here]; rfl) (by rw [here]; rfl)
  | evtProcCall held =>
      dsimp only [Command.Leads]
      unfold Transport.callback
      dsimp only
      split
      · exact accounts.keeps rfl rfl rfl (by rw [here]; rfl) (by rw [here]; rfl)
      · have none : transport.control.undecided = [] := by rw [here]; rfl
        have settled : transport.control.returning = [] := by rw [here]; rfl
        refine Accounts.requests ?_ _ _ none settled
        exact accounts.keeps rfl rfl rfl rfl rfl
  | evtProcInsert inserted =>
      exact accounts.keeps rfl rfl rfl (by rw [here]; rfl) (by rw [here]; rfl)
  | initFailed => exact accounts
  | gone index => exact accounts

theorem interrupt_accounts {ready : Bool} (accounts : Accounts transport) :
    (transport.interrupt ready).Leads Accounts := by
  unfold Transport.interrupt
  cases transport.isr with
  | idle =>
      dsimp only [Command.Leads]
      split <;> exact accounts.keeps rfl rfl rfl rfl rfl
  | available => exact accounts.keeps rfl rfl rfl rfl rfl
  | poolEmpty => exact fun empty => accounts.keeps rfl rfl rfl rfl rfl
  | poolRemove => exact fun index => accounts.keeps rfl rfl rfl rfl rfl
  | receive index =>
      refine accounts.keeps ?_ ?_ ?_ ?_ ?_
      · rw [receive_calls]
      · rw [receive_events]
      · rw [receive_events]
      · rw [receive_control]
      · rw [receive_control]
  | queue index =>
      obtain ⟨calls, requested, results, consumed, decided⟩ := accounts
      exact ⟨calls, requested, results, consumed, fun call member => (decided call member).append _⟩
  | giveBack index => exact accounts.keeps rfl rfl rfl rfl rfl

theorem step_accounts {firmware : Firmware App Answers} {input : Input Answers}
    (accounts : Accounts transport)
    (contents : ∀ index ∈ transport.control.live,
      transport.events.queued[transport.events.serial index]? =
        some (transport.packets index).event) :
    (transport.step firmware input).Leads Accounts := by
  cases input with
  | arrive type rest => exact accounts.keeps rfl rfl rfl rfl rfl
  | interrupt ready => exact interrupt_accounts accounts
  | main elapsed answers =>
      unfold Transport.step
      dsimp only
      split
      · exact main_accounts accounts contents
      · exact accounts

end Steps

/-- In every interleaving, the calls of `hci_send_req` are decided in the order of the requests,
each by one event that the interrupt has put in the queue, with the bytes this event holds for its
request, or else by the time running out; no event decides two calls, and none that does is handed
to the application. -/
theorem results_from_events (firmware : Firmware App Answers)
    (packets : PacketIndex → HciDataPacket) (app : App) (inputs : List (Input Answers)) :
    ∃ transport lists, ∃ calls : List Call,
      runFrom (listStep firmware) (Transport.initial firmware packets app, Lists.initial) inputs =
        some (transport, lists) ∧
      calls.map Call.request <+: transport.calls.requested ∧
      transport.calls.results <+: calls.map Call.result ∧
      calls.length ≤ transport.calls.results.length + 1 ∧
      transport.events.consumed = calls.filterMap Call.source ∧
      (transport.events.delivered ++ transport.events.consumed).Nodup ∧
      ∀ call ∈ calls, call.Decided transport.events.queued := by
  have keeps : ∀ config input next, (InOrder config ∧ Accounts config.1) →
      listStep firmware config input = some next → InOrder next ∧ Accounts next.1 := by
    rintro config input next ⟨order, accounts⟩ done
    refine ⟨step_inOrder order done, (step_accounts accounts fun index live => ?_).holds done⟩
    exact order.contents index (List.mem_append_left _ (List.mem_append_right _ live))
  have start : InOrder (Transport.initial firmware packets app, Lists.initial) ∧
      Accounts (Transport.initial firmware packets app) :=
    ⟨initial_inOrder firmware packets app, [], rfl, rfl, rfl, fun _ member => by cases member⟩
  obtain ⟨⟨transport, lists⟩, runs, -⟩ :=
    run_safe (step_inPlace firmware) (initial_inPlace firmware packets app) inputs
  obtain ⟨order, calls, requested, results, consumed, decided⟩ := run_invariant keeps runs start
  dsimp only at requested results consumed decided
  refine ⟨transport, lists, calls, runs, ⟨_, requested.symm⟩, ⟨_, results⟩, ?_, consumed, ?_, decided⟩
  · have lengths := congrArg List.length results
    have one : transport.control.returning.length ≤ 1 := by
      cases transport.control with
      | sendReq caller request rest phase =>
          rw [Control.returning]
          cases phase.result <;> simp
      | _ => exact Nat.zero_le 1
    rw [List.length_append, List.length_map] at lengths
    omega
  · have once : (transport.events.delivered ++ transport.events.consumed ++ transport.events.lost ++
        (waiting (transport, lists)).map transport.events.serial).Nodup :=
      order.perm.nodup_iff.mpr List.nodup_range
    rw [List.append_assoc] at once
    exact (List.nodup_append.mp once).1

end BleFwUpdate
