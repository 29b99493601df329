import BleFwUpdate.Contents
import BleFwUpdate.EndToEnd
import BleFwUpdate.Handling
import BleFwUpdate.Responses

/-! The host, the radio and the device with all its program, which take their turns in any
order. -/

namespace BleFwUpdate

open Faults

/-- A report of the radio that does not concern the device, such as the answer to a command. -/
structure OtherEvent where
  evt : UInt8
  params : List UInt8
  valid : (RadioEvent.other evt params).Valid

inductive Connection
  | waiting
  | connected
  | gone
  deriving DecidableEq

structure Network where
  host : Host
  connection : Connection
  -- the messages on their way to the radio
  air : List (List UInt8)
  program : Transport Program × Lists
  -- the number of notifications the host has read
  heard : Nat
  -- history variable: what the radio has reported to the program
  reported : List RadioEvent

/-- In a turn of the main program every call that unlocks, erases or programs the flash succeeds;
nobody but the host ends the connection. -/
inductive NetworkMove
  | connects (fields : List UInt8)
  | hostResumes (goOn : Bool)
  | writes (connHandle offset : UInt16)
  | reports (event : OtherEvent)
  | interrupt (ready : Bool)
  | main (elapsed : Bool) (working : Working) (around : Int → UInt8)
  | hostReads
  | disconnects (fields : List UInt8)

def NetworkMove.ofHost : NetworkMove → Bool
  | .hostResumes _ | .hostReads => true
  | _ => false

def RadioEvent.arrive (event : RadioEvent) : Input Surroundings :=
  .arrive hciEventPkt event.bytes.tail

/-- What the commands that set a value have set it to, those of the initialisation apart. -/
def notified (initialisation : Initialisation) (commands : List (List UInt8)) :
    List (List UInt8) :=
  ((commands.filter setsValue).drop
    ((initialisation.requests.map sendCmd).filter setsValue).length).map (List.drop 10)

section Moves

variable (gcm : AesGcm) (handles : Handles) (initialisation : Initialisation)

def Network.input (input : Input Surroundings) (network : Network) : Option Network :=
  (listStep (updateFirmware gcm handles initialisation) network.program input).map fun program =>
    { network with program := program }

def Network.report (event : RadioEvent) (network : Network) : Option Network :=
  { network with reported := network.reported ++ [event] }.input gcm handles initialisation
    event.arrive

/-- What can happen next. The central writes to the value of `RxCharHandle` and is notified of
every value the device sets; the program and its radio run all the time. -/
def Network.move (network : Network) : NetworkMove → Option Network
  | .connects fields =>
      if network.connection = .waiting ∧ fields.length ≤ 124 then
        { network with connection := .connected }.report gcm handles initialisation
          (.connectionComplete fields)
      else none
  | .hostResumes goOn =>
      if network.connection = .connected then
        (resume gcm goOn network.host).map fun (host, messages) =>
          { network with host := host, air := network.air ++ messages }
      else none
  | .writes connHandle offset =>
      match network.air with
      | [] => none
      | msg :: rest =>
          if msg.length ≤ 20 then
            { network with air := rest }.report gcm handles initialisation
              (.attributeModified connHandle (handles.rxCharHandle + 1) offset msg)
          else none
  | .reports event => network.report gcm handles initialisation (.other event.evt event.params)
  | .interrupt ready => network.input gcm handles initialisation (.interrupt ready)
  | .main elapsed working around =>
      network.input gcm handles initialisation (.main elapsed ⟨working.hardware, around⟩)
  | .hostReads =>
      if network.connection = .connected then
        (notified initialisation network.program.1.calls.commands)[network.heard]?.map fun data =>
          { network with host := readResponse gcm data network.host, heard := network.heard + 1 }
      else none
  | .disconnects fields =>
      if network.connection = .connected ∧ network.host.connectionStatus = .closingPhase ∧
          network.host.suspended = .toLoop ∧ network.air = [] ∧ fields.length ≤ 125 then
        { network with host := endUpload network.host, connection := .gone }.report gcm handles
          initialisation (.disconnectionComplete fields)
      else none

def Network.start (upload : Upload) (flash : UInt32 → UInt64)
    (packets : PacketIndex → HciDataPacket) : Network where
  host := (upload.link gcm flash).host
  connection := .waiting
  air := []
  program := (.initial (updateFirmware gcm handles initialisation) packets (.initial flash),
    .initial)
  heard := 0
  reported := []

end Moves

section Inversion

variable {gcm : AesGcm} {handles : Handles} {initialisation : Initialisation}
  {network next : Network}

theorem Network.input_eq_some {input : Input Surroundings}
    (done : network.input gcm handles initialisation input = some next) :
    ∃ program,
      listStep (updateFirmware gcm handles initialisation) network.program input = some program ∧
      next = { network with program := program } := by
  obtain ⟨program, stepped, rfl⟩ := Option.map_eq_some_iff.mp done
  exact ⟨program, stepped, rfl⟩

theorem Network.report_eq_some {event : RadioEvent}
    (done : network.report gcm handles initialisation event = some next) :
    ∃ program,
      listStep (updateFirmware gcm handles initialisation) network.program event.arrive =
        some program ∧
      next = { network with reported := network.reported ++ [event], program := program } :=
  input_eq_some done

end Inversion

@[simp] theorem RadioEvent.cons_tail_bytes (event : RadioEvent) :
    hciEventPkt :: event.bytes.tail = event.bytes := by
  cases event <;> rfl

theorem arrivals_arrive (event : RadioEvent) : arrivals [event.arrive] = [event.bytes] := by
  simp [arrivals, RadioEvent.arrive]

section Reach

variable {gcm : AesGcm} {handles : Handles} {initialisation : Initialisation}
  {flash : UInt32 → UInt64} {packets : PacketIndex → HciDataPacket}

variable (gcm handles initialisation flash packets)

/-- The program has got where it is with what the radio has reported. -/
structure Reached (reported : List RadioEvent) (program : Transport Program × Lists) : Prop where
  run : ∃ inputs : List (Input Surroundings),
    runFrom (listStep (updateFirmware gcm handles initialisation))
        (Transport.initial (updateFirmware gcm handles initialisation) packets (.initial flash),
          Lists.initial) inputs = some program ∧
      arrivals inputs = reported.map RadioEvent.bytes
  valid : ∀ event ∈ reported, event.Valid

variable {gcm handles initialisation flash packets}

theorem Reached.input {reported more : List RadioEvent} {program next : Transport Program × Lists}
    {input : Input Surroundings}
    (reached : Reached gcm handles initialisation flash packets reported program)
    (valid : ∀ event ∈ more, event.Valid)
    (arrived : arrivals [input] = more.map RadioEvent.bytes)
    (done : listStep (updateFirmware gcm handles initialisation) program input = some next) :
    Reached gcm handles initialisation flash packets (reported ++ more) next ∧
      program.1.events.lost <+: next.1.events.lost := by
  obtain ⟨inputs, runs, earlier⟩ := reached.run
  refine ⟨⟨⟨inputs ++ [input], ?_, ?_⟩, ?_⟩, (step_moves (run_inOrder runs).inPlace done).lost⟩
  · rw [runFrom_concat, runs, Option.bind_some, done]
  · rw [List.map_append, ← earlier, ← arrived, arrivals, arrivals, arrivals, List.filterMap_append]
  · intro event member
    rcases List.mem_append.mp member with old | new
    · exact reached.valid event old
    · exact valid event new

/-- The events that concern the device and have not been handed to it yet. -/
def pending (reported : List RadioEvent) (program : Transport Program × Lists) : List RadioEvent :=
  (reported.filter RadioEvent.named).drop (program.1.events.handed.filter names).length

theorem Reached.handed {reported : List RadioEvent} {program : Transport Program × Lists}
    (reached : Reached gcm handles initialisation flash packets reported program)
    (lost : program.1.events.lost = []) :
    (reported.filter RadioEvent.named).map RadioEvent.bytes =
        program.1.events.handed.filter names ++ (pending reported program).map RadioEvent.bytes ∧
      (waiting program = [] → program.1.isr = .idle → program.1.offered = [] →
        pending reported program = []) := by
  obtain ⟨inputs, runs, arrived⟩ := reached.run
  obtain ⟨rest, whole, settled⟩ := run_named reached.valid arrived runs lost
  have later : (pending reported program).map RadioEvent.bytes = rest := by
    rw [pending, List.map_drop, whole, List.drop_left]
  refine ⟨by rw [later, whole], fun nothing quiet silentLine => ?_⟩
  rw [settled nothing quiet silentLine] at later
  exact List.map_eq_nil_iff.mp later

theorem Reached.length_handed {reported : List RadioEvent} {program : Transport Program × Lists}
    (reached : Reached gcm handles initialisation flash packets reported program)
    (lost : program.1.events.lost = []) :
    (program.1.events.handed.filter names).length ≤ (reported.filter RadioEvent.named).length := by
  have lengths := congrArg List.length (reached.handed lost).1
  rw [List.length_map, List.length_append] at lengths
  omega

theorem Reached.source {reported : List RadioEvent} {program : Transport Program × Lists}
    (reached : Reached gcm handles initialisation flash packets reported program)
    {bytes : List UInt8} (member : bytes ∈ program.1.events.handed) :
    ∃ event ∈ reported, event.bytes = bytes := by
  obtain ⟨inputs, runs, arrived⟩ := reached.run
  have source : bytes ∈ reported.map RadioEvent.bytes := by
    rw [arrived_valid runs reached.valid arrived, List.append_assoc]
    exact List.mem_append_left _ ((run_inOrder runs).picks.sublist.subset member)
  exact List.mem_map.mp source

inductive ProgramStep (gcm : AesGcm) (handles : Handles) (input : Input Surroundings)
    (reported : List RadioEvent) (before after : Transport Program × Lists) : Prop
  | keeps (same : pending reported after = pending reported before)
      (device : after.1.app.device.cleared = before.1.app.device.cleared)
      (effects : after.1.app.effects = before.1.app.effects)
  | handles (event : RadioEvent) (elapsed : Bool) (surroundings : Surroundings)
      (packet : HciDataPacket) (run : input = .main elapsed surroundings)
      (taken : pending reported before = event :: pending reported after)
      (holds : packet.event = event.bytes) (running : before.1.app.device.running = none)
      (device : after.1.app.device = handleIf gcm before.1.app.device.cleared
        (handles.event surroundings packet))
      (effects : after.1.app.effects = before.1.app.effects ++ after.1.app.device.effects)

theorem Reached.program {reported : List RadioEvent} {input : Input Surroundings}
    {program next : Transport Program × Lists}
    (reached : Reached gcm handles initialisation flash packets reported program)
    (after : Reached gcm handles initialisation flash packets reported next)
    (lost : program.1.events.lost = []) (still : next.1.events.lost = [])
    (done : listStep (updateFirmware gcm handles initialisation) program input = some next) :
    ProgramStep gcm handles input reported program next := by
  have same (handed : next.1.events.handed = program.1.events.handed) :
      pending reported next = pending reported program := by
    rw [pending, pending, handed]
  cases step_app.holds done with
  | keeps app handed => exact .keeps (same handed) (by rw [app]) (by rw [app])
  | advertises app handed => exact .keeps (same handed) (by rw [app]) (by rw [app])
  | advertised app handed => exact .keeps (same handed) (by rw [app]; rfl) (by rw [app]; rfl)
  | calls elapsed surroundings index run here called =>
      obtain ⟨inputs, runs, -⟩ := reached.run
      have booted : program.1.app.device.running = none :=
        (run_follows runs).booted (by simp [here])
      obtain ⟨device, effects⟩ :=
        @callback_device gcm handles initialisation surroundings index program.1
      rw [← called] at device effects
      have handed : next.1.events.handed =
          program.1.events.handed ++ [(program.1.packets index).event] := by
        rw [called, callback_events]
        rfl
      cases concerns : names (program.1.packets index).event with
      | true =>
          have whole := (after.handed still).1
          rw [handed, List.filter_append, List.filter_cons_of_pos concerns, List.filter_nil,
            List.append_assoc, (reached.handed lost).1, List.append_cancel_left_eq] at whole
          obtain ⟨event, rest, taken, bytes, -⟩ := List.map_eq_cons_iff.mp whole
          have later : pending reported next = (pending reported program).tail := by
            rw [pending, pending, List.tail_drop, handed, List.filter_append,
              List.filter_cons_of_pos concerns, List.length_append]
            rfl
          refine .handles event elapsed surroundings (program.1.packets index) run ?_ bytes.symm
            booted device (by rw [effects, device])
          rw [later, taken, List.tail_cons]
      | false =>
          have member : (program.1.packets index).event ∈ next.1.events.handed := by
            rw [handed]
            exact List.mem_append_right _ (List.mem_singleton_self _)
          obtain ⟨event, listed, bytes⟩ := after.source member
          have silent : handles.event surroundings (program.1.packets index) = none :=
            (reached.valid event listed).silent (by rw [bytes, concerns])
              ⟨surroundings, program.1.packets index, bytes.symm, rfl⟩
          rw [silent] at device effects
          refine .keeps ?_ (by rw [device]; rfl) ?_
          · rw [pending, pending, handed, List.filter_append,
              List.filter_cons_of_neg (by simp [concerns]), List.filter_nil, List.append_nil]
          · rw [effects]
            exact List.append_nil _

theorem Reached.report {reported : List RadioEvent} {event : RadioEvent}
    {program next : Transport Program × Lists}
    (reached : Reached gcm handles initialisation flash packets reported program)
    (lost : program.1.events.lost = [])
    (done : listStep (updateFirmware gcm handles initialisation) program event.arrive =
      some next) :
    pending (reported ++ [event]) next =
        pending reported program ++ [event].filter RadioEvent.named ∧
      next.1.app = program.1.app ∧ next.1.calls = program.1.calls := by
  cases done
  refine ⟨?_, rfl, rfl⟩
  rw [pending, List.filter_append, List.drop_append_of_le_length (reached.length_handed lost)]
  rfl

/-- Wherever the network goes, the program has got there by a run of its own, and what has been
lost stays lost. -/
theorem Reached.move {network next : Network} {move : NetworkMove}
    (reached : Reached gcm handles initialisation flash packets network.reported network.program)
    (done : network.move gcm handles initialisation move = some next) :
    Reached gcm handles initialisation flash packets next.reported next.program ∧
      network.program.1.events.lost <+: next.program.1.events.lost := by
  have reports : ∀ {before : Network} {event : RadioEvent},
      before.report gcm handles initialisation event = some next → event.Valid →
      before.reported = network.reported → before.program = network.program →
      Reached gcm handles initialisation flash packets next.reported next.program ∧
        network.program.1.events.lost <+: next.program.1.events.lost := by
    intro before event done valid same program
    obtain ⟨after, stepped, rfl⟩ := Network.report_eq_some done
    rw [program] at stepped
    dsimp only
    rw [same]
    refine reached.input (fun other member => ?_) (arrivals_arrive event) stepped
    rwa [List.mem_singleton.mp member]
  have inputs : ∀ input : Input Surroundings, arrivals [input] = [] →
      network.input gcm handles initialisation input = some next →
      Reached gcm handles initialisation flash packets next.reported next.program ∧
        network.program.1.events.lost <+: next.program.1.events.lost := by
    intro input silent done
    obtain ⟨after, stepped, rfl⟩ := Network.input_eq_some done
    have none : ∀ event ∈ ([] : List RadioEvent), event.Valid := by simp
    have after := reached.input none silent stepped
    rwa [List.append_nil] at after
  cases move with
  | connects fields =>
      obtain ⟨⟨-, short⟩, reported⟩ := Option.ite_none_right_eq_some.mp done
      exact reports reported short rfl rfl
  | hostResumes goOn =>
      obtain ⟨-, resumes⟩ := Option.ite_none_right_eq_some.mp done
      obtain ⟨resumed, -, rfl⟩ := Option.map_eq_some_iff.mp resumes
      exact ⟨reached, List.prefix_rfl⟩
  | writes connHandle offset =>
      unfold Network.move at done
      cases air : network.air with
      | nil =>
          rw [air] at done
          cases done
      | cons msg rest =>
          rw [air] at done
          obtain ⟨short, reported⟩ := Option.ite_none_right_eq_some.mp done
          exact reports reported short rfl rfl
  | reports event => exact reports done event.valid rfl rfl
  | interrupt ready => exact inputs _ rfl done
  | main elapsed working around => exact inputs _ rfl done
  | hostReads =>
      obtain ⟨-, reads⟩ := Option.ite_none_right_eq_some.mp done
      obtain ⟨data, -, rfl⟩ := Option.map_eq_some_iff.mp reads
      exact ⟨reached, List.prefix_rfl⟩
  | disconnects fields =>
      obtain ⟨⟨-, -, -, -, short⟩, reported⟩ := Option.ite_none_right_eq_some.mp done
      exact reports reported short rfl rfl

end Reach

end BleFwUpdate
