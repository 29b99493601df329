import BleFwUpdate.Arrivals
import BleFwUpdate.Callbacks
import BleFwUpdate.Session

/-! The whole program: whatever the interleaving, the firmware update goes through the states that
its own machine goes through for the events it is handed, in their order. -/

namespace BleFwUpdate

open Faults

inductive AppStep {App Answers : Type} (firmware : Firmware App Answers) (input : Input Answers)
    (before after : Transport App) : Prop
  | keeps (app : after.app = before.app) (handed : after.events.handed = before.events.handed)
      (requested : after.calls.requested = before.calls.requested)
      (gone : ∀ index, before.control = .gone index → after.control = .gone index)
  | advertises (app : after.app = before.app) (handed : after.events.handed = before.events.handed)
      (requested : after.calls.requested = before.calls.requested ++ firmware.advertisingRequests)
      (here : before.control = .process)
  | advertised (app : after.app = firmware.advertised before.app)
      (handed : after.events.handed = before.events.handed)
      (requested : after.calls.requested = before.calls.requested)
      (gone : ∀ index, before.control ≠ .gone index)
  | calls (elapsed : Bool) (answers : Answers) (index : PacketIndex)
      (run : input = .main elapsed answers) (here : before.control = .evtProcCall index)
      (called : after = before.callback firmware answers index)

section Inversion

variable {App Answers : Type} {firmware : Firmware App Answers} {transport : Transport App}
  {input : Input Answers}

theorem sendReq_app {elapsed : Bool} {caller : Caller} {request : HciRequest}
    {rest : List HciRequest} {phase : Phase}
    (here : transport.control = .sendReq caller request rest phase) :
    (transport.sendReq elapsed caller request rest phase).Leads
      (AppStep firmware input transport) := by
  have keeps : ∀ after : Transport App, after.app = transport.app →
      after.events.handed = transport.events.handed →
      after.calls.requested = transport.calls.requested →
      AppStep firmware input transport after :=
    fun after app handed requested => .keeps app handed requested (by simp [here])
  cases phase with
  | getSize => exact fun size => keeps _ rfl rfl rfl
  | freeRemove => exact fun index => keeps _ rfl rfl rfl
  | wait =>
      cases elapsed with
      | true => exact keeps _ rfl rfl rfl
      | false => exact fun empty => keeps _ rfl rfl rfl
  | extract => exact fun index => keeps _ rfl rfl rfl
  | examine held =>
      simp only [Transport.sendReq]
      cases examineEvent request (transport.packets held) <;> exact keeps _ rfl rfl rfl
  | poolEmpty held => exact fun empty => keeps _ rfl rfl rfl
  | rxQueueEmpty held =>
      intro empty
      cases empty <;> exact keeps _ rfl rfl rfl
  | moveEmpty ret => exact fun empty => keeps _ rfl rfl rfl
  | moveRemove ret => exact fun index => keeps _ rfl rfl rfl
  | _ => exact keeps _ rfl rfl rfl

theorem main_app {elapsed : Bool} {answers : Answers} :
    (transport.main firmware elapsed answers).Leads
      (AppStep firmware (.main elapsed answers) transport) := by
  unfold Transport.main
  cases here : transport.control with
  | calls caller requests =>
      cases requests with
      | cons request rest => exact .keeps rfl rfl rfl (by simp [here])
      | nil =>
          cases caller with
          | blueNrgInit => exact .keeps rfl rfl rfl (by simp [here])
          | enableAdvertising => exact .advertised rfl rfl rfl (by simp [here])
          | userEvtRx index => exact .keeps rfl rfl rfl (by simp [here])
  | sendReq caller request rest phase => exact sendReq_app here
  | process =>
      dsimp only [Command.Leads]
      split
      · exact .advertises rfl rfl rfl here
      · exact .keeps rfl rfl rfl (by simp [here])
  | evtProcEmpty =>
      intro empty
      cases empty <;> exact .keeps rfl rfl rfl (by simp [here])
  | evtProcRemove => exact fun index => .keeps rfl rfl rfl (by simp [here])
  | evtProcCall held => exact .calls elapsed answers held rfl here rfl
  | evtProcInsert inserted => exact .keeps rfl rfl rfl (by simp [here])
  | initFailed => exact .keeps rfl rfl rfl fun index gone => gone
  | gone index => exact .keeps rfl rfl rfl fun index gone => gone

theorem interrupt_app {ready : Bool} :
    (transport.interrupt ready).Leads (AppStep firmware input transport) := by
  unfold Transport.interrupt
  cases transport.isr with
  | idle =>
      dsimp only [Command.Leads]
      split <;> exact .keeps rfl rfl rfl fun index gone => gone
  | receive index =>
      refine .keeps ?_ ?_ ?_ ?_
      · unfold Transport.receive
        dsimp only
        split <;> rfl
      · rw [receive_events]
      · rw [receive_calls]
      · intro other gone
        rwa [receive_control]
  | poolEmpty => exact fun empty => .keeps rfl rfl rfl fun index gone => gone
  | poolRemove => exact fun index => .keeps rfl rfl rfl fun index gone => gone
  | _ => exact .keeps rfl rfl rfl fun index gone => gone

theorem step_app : (transport.step firmware input).Leads (AppStep firmware input transport) := by
  cases input with
  | arrive type rest => exact .keeps rfl rfl rfl fun index gone => gone
  | interrupt ready => exact interrupt_app
  | main elapsed answers =>
      unfold Transport.step
      dsimp only
      split
      · exact main_app
      · exact .keeps rfl rfl rfl fun index gone => gone

end Inversion

section Callback

variable {App Answers : Type} (firmware : Firmware App Answers) (answers : Answers)
  (index : PacketIndex) (transport : Transport App)

theorem callback_app :
    (transport.callback firmware answers index).app =
      (firmware.userEvtRx answers (transport.packets index) transport.app).1 := by
  unfold Transport.callback
  dsimp only
  split <;> rfl

theorem callback_requested :
    (transport.callback firmware answers index).calls.requested = transport.calls.requested ++
      if firmware.gone (firmware.userEvtRx answers (transport.packets index) transport.app).1 then []
      else (firmware.userEvtRx answers (transport.packets index) transport.app).2.1 := by
  unfold Transport.callback
  dsimp only
  split
  next => exact (List.append_nil _).symm
  next => rfl

theorem callback_gone
    (gone : firmware.gone (firmware.userEvtRx answers (transport.packets index) transport.app).1 =
      true) :
    (transport.callback firmware answers index).control = .gone index := by
  unfold Transport.callback
  dsimp only
  rw [if_pos gone]
  rfl

end Callback

/-- A packet that holds these bytes stands for this event, or for none. -/
def Handles.Reads (handles : Handles) (bytes : List UInt8) (outcome : Option Event) : Prop :=
  ∃ surroundings packet, packet.event = bytes ∧ handles.event surroundings packet = outcome

/-- The device is where its own machine is after the events that `UserEvtRx` was called with, and
has done what that machine has done. -/
structure Follows (gcm : AesGcm) (handles : Handles) (flash : UInt32 → UInt64)
    (transport : Transport Program) : Prop where
  outcomes : ∃ outcomes : List (Option Event),
    List.Forall₂ handles.Reads transport.events.handed outcomes ∧
      transport.app.device.cleared = (run gcm flash (outcomes.filterMap id)).cleared ∧
      transport.app.effects =
        Transitions.trace (step gcm) Device.effects (powerOn flash) (outcomes.filterMap id)
  booted : (∀ index, transport.control ≠ .gone index) → transport.app.device.running = none

section Refinement

variable {gcm : AesGcm} {handles : Handles} {initialisation : Initialisation}
  {flash : UInt32 → UInt64} {transport next : Transport Program}

theorem callback_device (answers : Surroundings) (index : PacketIndex)
    (transport : Transport Program) :
    let after := handleIf gcm transport.app.device.cleared
      (handles.event answers (transport.packets index))
    (transport.callback (updateFirmware gcm handles initialisation) answers index).app.device =
        after ∧
      (transport.callback (updateFirmware gcm handles initialisation) answers index).app.effects =
        transport.app.effects ++ after.effects := by
  have handled := hciEventCb_device gcm handles answers (transport.packets index)
    { transport.app with device := transport.app.device.cleared }
  rw [callback_app, ← handled]
  exact ⟨rfl, rfl⟩

theorem callback_follows {answers : Surroundings} {index : PacketIndex}
    (follows : Follows gcm handles flash transport)
    (here : transport.control = .evtProcCall index) :
    Follows gcm handles flash
      (transport.callback (updateFirmware gcm handles initialisation) answers index) := by
  obtain ⟨outcomes, reads, device, effects⟩ := follows.outcomes
  have booted : transport.app.device.running = none := follows.booted (by simp [here])
  have bootedRun : (run gcm flash (outcomes.filterMap id)).running = none := by
    rw [← cleared_running, ← device, cleared_running, booted]
  have app := callback_app (updateFirmware gcm handles initialisation) answers index transport
  obtain ⟨after, emitted⟩ := @callback_device gcm handles initialisation answers index transport
  generalize outcome : handles.event answers (transport.packets index) = event at after emitted
  refine ⟨⟨outcomes ++ [event], ?_, ?_⟩, ?_⟩
  · rw [callback_events]
    exact List.rel_append reads (.cons ⟨answers, transport.packets index, rfl, outcome⟩ .nil)
  · rw [List.filterMap_append]
    rw [after, emitted, effects]
    cases event with
    | none =>
        have skipped : [(none : Option Event)].filterMap id = [] := rfl
        rw [skipped, List.append_nil]
        exact ⟨device, List.append_nil _⟩
    | some event =>
        have stepped : handleIf gcm transport.app.device.cleared (some event) =
            step gcm (run gcm flash (outcomes.filterMap id)) event := by
          rw [step, bootedRun, device]
          rfl
        have one : [some event].filterMap id = [event] := rfl
        rw [one, run_concat, Transitions.trace_append, Transitions.trace_cons,
          Transitions.trace_nil, List.append_nil, stepped]
        exact ⟨rfl, rfl⟩
  · intro present
    by_contra running
    have gone : (updateFirmware gcm handles initialisation).gone
        ((updateFirmware gcm handles initialisation).userEvtRx answers (transport.packets index)
          transport.app).1 = true := by
      rw [← app]
      exact Option.isSome_iff_ne_none.mpr running
    exact present index (callback_gone _ answers index transport gone)

theorem AppStep.follows (follows : Follows gcm handles flash transport)
    {input : Input Surroundings}
    (change : AppStep (updateFirmware gcm handles initialisation) input transport next) :
    Follows gcm handles flash next := by
  cases change with
  | keeps app handed requested gone =>
      refine ⟨?_, fun present => ?_⟩
      · rw [app, handed]
        exact follows.outcomes
      · rw [app]
        exact follows.booted fun index here => present index (gone index here)
  | advertises app handed requested here =>
      refine ⟨?_, fun _ => ?_⟩
      · rw [app, handed]
        exact follows.outcomes
      · rw [app]
        exact follows.booted (by simp [here])
  | advertised app handed requested gone =>
      refine ⟨?_, fun _ => ?_⟩
      · rw [app, handed]
        exact follows.outcomes
      · rw [app]
        exact follows.booted gone
  | calls elapsed answers index run here called =>
      rw [called]
      exact callback_follows follows here

theorem initial_follows (initialisation : Initialisation) (packets : PacketIndex → HciDataPacket) :
    Follows gcm handles flash
      (Transport.initial (updateFirmware gcm handles initialisation) packets (.initial flash)) :=
  ⟨⟨[], .nil, rfl, rfl⟩, fun _ => rfl⟩

theorem run_follows {packets : PacketIndex → HciDataPacket} {inputs : List (Input Surroundings)}
    {config : Transport Program × Lists}
    (runs : runFrom (listStep (updateFirmware gcm handles initialisation))
      (Transport.initial (updateFirmware gcm handles initialisation) packets (.initial flash),
        Lists.initial) inputs = some config) :
    Follows gcm handles flash config.1 := by
  refine @run_invariant _ _ _ (fun config => Follows gcm handles flash config.1) ?_ _ config inputs
    runs (initial_follows initialisation packets)
  intro config input next follows done
  exact AppStep.follows follows (step_app.holds done)

end Refinement

/-- As `Handles.Reads`, and the model leaves out no call of `data_handler`. -/
def Handles.ReadsWhole (handles : Handles) (bytes : List UInt8) (outcome : Option Event) : Prop :=
  ∃ surroundings packet, packet.event = bytes ∧
    (∀ numBytes ∈ handles.valueLength packet, numBytes ≤ chatDataLen) ∧
    handles.event surroundings packet = outcome

theorem wellFormed_evt {packet : HciDataPacket} (formed : wellFormed packet.event = true) :
    packet.event[1]? = some packet.evt := by
  cases bytes : packet.event with
  | nil => simp [bytes, wellFormed] at formed
  | cons type rest =>
      cases rest with
      | nil => simp [bytes, wellFormed] at formed
      | cons evt params =>
          have same : packet.evt = evt := dataBuff_eq (by decide) (by rw [bytes]; rfl)
          rw [same]
          rfl

theorem ValueFits.valueLength_le {handles : Handles} {packet : HciDataPacket}
    (fits : ValueFits packet.event) (formed : wellFormed packet.event = true) :
    ∀ numBytes ∈ handles.valueLength packet, numBytes ≤ chatDataLen := by
  intro numBytes called
  unfold Handles.valueLength at called
  split at called
  next kind =>
    obtain ⟨low, lowFound, high, highFound, modified, notification⟩ :=
      fits (by rw [wellFormed_evt formed, kind.2])
    -- The code of the event is among its own bytes, not left over from an earlier one.
    have ecode : packet.halfword 3 = low.toUInt16 + (high.toUInt16 <<< 8) := by
      have first : packet.dataBuff[3] = low := dataBuff_eq (by decide) lowFound
      have second : packet.dataBuff[4] = high := dataBuff_eq (by decide) highFound
      rw [HciDataPacket.halfword, first, ← second]
    rw [ecode] at called
    split at called
    next isModified =>
      obtain ⟨dataLength, found, short⟩ := modified isModified
      split at called
      next =>
        obtain rfl := Option.some.inj called
        rwa [dataBuff_eq (by decide) found]
      next => cases called
    next =>
      split at called
      next isNotification =>
        obtain ⟨eventDataLength, found, short⟩ := notification isNotification
        obtain rfl := Option.some.inj called
        rwa [dataBuff_eq (by decide) found]
      next => cases called
  next => cases called

theorem Handles.Reads.whole {handles : Handles} {bytes : List UInt8} {outcome : Option Event}
    (formed : wellFormed bytes = true) (fits : ValueFits bytes)
    (reads : handles.Reads bytes outcome) : handles.ReadsWhole bytes outcome := by
  obtain ⟨surroundings, packet, rfl, stands⟩ := reads
  exact ⟨surroundings, packet, rfl, fits.valueLength_le formed, stands⟩

/-! A central that connects and writes a START message for one packet. -/

def sampleHandles : Handles := ⟨0x000c, 0x000d, 0x000f⟩

def sampleInitialisation : Initialisation := ⟨[], by simp, fun _ => true⟩

def sampleFirmware : Firmware Program Surroundings :=
  updateFirmware .sample sampleHandles sampleInitialisation

def sampleStart : Transport Program × Lists :=
  (.initial sampleFirmware blankPackets (.initial fun _ => 0), .initial)

def sampleInputs : List (Input Surroundings) :=
  [.arrive hciEventPkt [0x3e, 0x04, 0x01, 0x00, 0x01, 0x08],
    .arrive hciEventPkt [0xff, 0x0e, 0x01, 0x0c, 0x01, 0x08, 0x0e, 0x00, 0x05, 0x00, 0x00, 0xbb,
      0x01, 0x00, 0x01, 0x01]] ++
    List.replicate 12 (.interrupt true) ++
    List.replicate 32 (.main true ⟨.working 0x1234, fun _ => 0⟩)

/-- In every interleaving, with a radio that hands over no value longer than the characteristic, the
device is in the state, and has done what, its own machine is in and has done after some of the
events of the radio, those the callback was called with, in their order and none of them twice. -/
theorem device_follows_events (gcm : AesGcm) (handles : Handles) (initialisation : Initialisation)
    (flash : UInt32 → UInt64) (packets : PacketIndex → HciDataPacket)
    (inputs : List (Input Surroundings))
    (lengths : ∀ event ∈ arrivals inputs, event.length < 65536)
    (fits : ∀ event ∈ ((arrivals inputs).flatMap pieces).filter wellFormed, ValueFits event) :
    ∃ transport lists, ∃ outcomes : List (Option Event),
      runFrom (listStep (updateFirmware gcm handles initialisation))
        (Transport.initial (updateFirmware gcm handles initialisation) packets (.initial flash),
          Lists.initial) inputs = some (transport, lists) ∧
      transport.events.handed.Sublist transport.events.queued ∧
      transport.events.queued.Sublist (((arrivals inputs).flatMap pieces).filter wellFormed) ∧
      List.Forall₂ handles.ReadsWhole transport.events.handed outcomes ∧
      transport.app.device.cleared = (run gcm flash (outcomes.filterMap id)).cleared ∧
      transport.app.effects =
        Transitions.trace (step gcm) Device.effects (powerOn flash) (outcomes.filterMap id) := by
  obtain ⟨⟨transport, lists⟩, runs, -⟩ :=
    run_safe (step_inPlace (updateFirmware gcm handles initialisation))
      (initial_inPlace (updateFirmware gcm handles initialisation) packets (.initial flash)) inputs
  obtain ⟨outcomes, reads, device, effects⟩ := (run_follows runs).outcomes
  have handed : transport.events.handed.Sublist transport.events.queued :=
    (run_inOrder runs).picks.sublist
  have queued : transport.events.queued.Sublist
      (((arrivals inputs).flatMap pieces).filter wellFormed) := by
    rw [(run_arrived runs lengths).pieces, List.append_assoc]
    exact List.sublist_append_left _ _
  have whole : ∀ event ∈ transport.events.handed,
      wellFormed event = true ∧ ValueFits event := by
    intro event member
    have arrives := queued.subset (handed.subset member)
    exact ⟨(List.mem_filter.mp arrives).2, fits event arrives⟩
  refine ⟨transport, lists, outcomes, runs, handed, queued, ?_, device, effects⟩
  exact ((List.forall₂_and_left _ _).mpr ⟨whole, reads⟩).imp
    fun bytes outcome ⟨⟨formed, fits⟩, read⟩ => read.whole formed fits

theorem device_follows_events_start :
    ∃ transport lists, ∃ outcomes : List (Option Event),
      runFrom (listStep sampleFirmware) sampleStart sampleInputs = some (transport, lists) ∧
      transport.events.handed.Sublist transport.events.queued ∧
      transport.events.queued.Sublist
        (((arrivals sampleInputs).flatMap pieces).filter wellFormed) ∧
      List.Forall₂ sampleHandles.ReadsWhole transport.events.handed outcomes ∧
      transport.app.device.cleared =
        (run .sample (fun _ => 0) (outcomes.filterMap id)).cleared ∧
      transport.app.effects = Transitions.trace (step .sample) Device.effects
        (powerOn fun _ => 0) (outcomes.filterMap id) :=
  device_follows_events .sample sampleHandles sampleInitialisation (fun _ => 0) blankPackets
    sampleInputs (by decide +kernel) (by decide +kernel)

end BleFwUpdate
