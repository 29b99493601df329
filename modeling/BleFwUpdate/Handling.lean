import BleFwUpdate.Radio

/-! Every event of the radio that concerns the device is handled, once and in its turn, as long as
none is lost: `hci_send_req` takes none of them for an answer. -/

namespace BleFwUpdate

open Faults Positions

def Control.making : Control → List HciRequest
  | .calls _ requests => requests
  | .sendReq _ request rest _ => request :: rest
  | _ => []

section Making

variable {App Answers : Type}

/-- The firmware makes no request that waits for an event other than the answer to its command. -/
structure Firmware.WaitsForNone (firmware : Firmware App Answers) : Prop where
  init : ∀ request ∈ firmware.initRequests, request.event = 0
  advertising : ∀ request ∈ firmware.advertisingRequests, request.event = 0
  callback : ∀ answers packet app, ∀ request ∈ (firmware.userEvtRx answers packet app).2.1,
    request.event = 0

/-- The events that end a wait of `hci_send_req`. -/
def isAnswer (packet : HciDataPacket) : Bool :=
  packet.evt == evtCmdStatus || packet.evt == evtCmdComplete ||
    (packet.evt == evtLeMetaEvent && packet.subevent == 0) ||
    packet.evt == evtHardwareError

theorem isAnswer_of_examineEvent {request : HciRequest} {packet : HciDataPacket}
    (plain : request.event = 0) (taken : examineEvent request packet ≠ .other) :
    isAnswer packet = true := by
  unfold examineEvent at taken
  dsimp only at taken
  rw [plain] at taken
  split at taken
  next type =>
    split at taken
    next status => simp [isAnswer, status]
    next =>
      split at taken
      next complete => simp [isAnswer, complete]
      next =>
        split at taken
        next leMeta =>
          split at taken
          next => exact absurd rfl taken
          next subevent =>
            have zero : packet.subevent = 0 := by
              have same := Decidable.not_not.mp subevent
              have number := congrArg UInt32.toNat same
              rw [UInt8.toNat_toUInt32] at number
              exact UInt8.toNat_inj.mp number
            simp [isAnswer, leMeta, zero]
        next =>
          split at taken
          next error => simp [isAnswer, error]
          next => exact absurd rfl taken
  next => exact absurd rfl taken

structure AnswerStep (firmware : Firmware App Answers) (before after : Transport App) : Prop where
  making : ∀ request ∈ after.control.making, request ∈ before.control.making ∨
    request ∈ firmware.advertisingRequests ∨
    ∃ answers packet app, request ∈ (firmware.userEvtRx answers packet app).2.1
  consumed : after.events.consumed = before.events.consumed ∨
    ∃ request ∈ before.control.making, ∃ index ∈ before.control.live,
      examineEvent request (before.packets index) ≠ .other ∧
      after.events.consumed = before.events.consumed ++ [before.events.serial index]

variable {firmware : Firmware App Answers} {transport : Transport App}

theorem AnswerStep.keeps {after : Transport App}
    (making : ∀ request ∈ after.control.making, request ∈ transport.control.making)
    (consumed : after.events.consumed = transport.events.consumed) :
    AnswerStep firmware transport after :=
  ⟨fun request member => .inl (making request member), .inl consumed⟩

theorem sendReq_answerStep {elapsed : Bool} {caller : Caller} {request : HciRequest}
    {rest : List HciRequest} {phase : Phase}
    (here : transport.control = .sendReq caller request rest phase) :
    (transport.sendReq elapsed caller request rest phase).Leads
      (AnswerStep firmware transport) := by
  have making : transport.control.making = request :: rest := by
    rw [here]
    rfl
  have keeps : ∀ after : Transport App, after.control.making = request :: rest →
      after.events.consumed = transport.events.consumed → AnswerStep firmware transport after := by
    intro after same consumed
    exact .keeps (by simp [same, making]) consumed
  cases phase with
  | getSize => exact fun size => keeps _ rfl rfl
  | freeRemove => exact fun index => keeps _ rfl rfl
  | wait =>
      cases elapsed with
      | true => exact keeps _ rfl rfl
      | false => exact fun empty => keeps _ rfl rfl
  | extract => exact fun index => keeps _ rfl rfl
  | examine held =>
      have live : held ∈ transport.control.live := by
        rw [here]
        exact List.mem_singleton_self held
      have taken : ∀ after : Transport App, after.control.making = request :: rest →
          examineEvent request (transport.packets held) ≠ .other →
          after.events.consumed = transport.events.consumed ++ [transport.events.serial held] →
          AnswerStep firmware transport after := by
        intro after same verdict consumed
        refine ⟨fun other member => .inl ?_, .inr ⟨request, ?_, held, live, verdict, consumed⟩⟩
        · rwa [making, ← same]
        · simp [making]
      simp only [Transport.sendReq]
      cases verdict : examineEvent request (transport.packets held) with
      | failed => exact taken _ rfl (by simp [verdict]) rfl
      | done rparam => exact taken _ rfl (by simp [verdict]) rfl
      | other => exact keeps _ rfl rfl
  | poolEmpty held => exact fun empty => keeps _ rfl rfl
  | rxQueueEmpty held =>
      intro empty
      cases empty <;> exact keeps _ rfl rfl
  | moveEmpty ret => exact fun empty => keeps _ rfl rfl
  | moveRemove ret => exact fun index => keeps _ rfl rfl
  | leave ret => exact .keeps (fun other member => by simp [making, show other ∈ rest from member]) rfl
  | _ => exact keeps _ rfl rfl

theorem main_answerStep {elapsed : Bool} {answers : Answers} :
    (transport.main firmware elapsed answers).Leads (AnswerStep firmware transport) := by
  unfold Transport.main
  cases here : transport.control with
  | calls caller requests =>
      cases requests with
      | cons request rest => exact .keeps (by rw [here]; exact fun _ member => member) rfl
      | nil =>
          cases caller with
          | blueNrgInit =>
              refine .keeps ?_ rfl
              rw [Transport.goto_control]
              split <;> simp [Control.making]
          | enableAdvertising => exact .keeps (by simp [Control.making]) rfl
          | userEvtRx index => exact .keeps (by simp [Control.making]) rfl
  | sendReq caller request rest phase => exact sendReq_answerStep here
  | process =>
      dsimp only [Command.Leads]
      split
      · exact ⟨fun request member => .inr (.inl member), .inl rfl⟩
      · exact .keeps (by simp [Control.making]) rfl
  | evtProcEmpty =>
      intro empty
      cases empty <;> exact .keeps (by simp [Control.making]) rfl
  | evtProcRemove => exact fun index => .keeps (by simp [Control.making]) rfl
  | evtProcCall held =>
      constructor
      · unfold Transport.callback
        dsimp only
        split
        · simp [Control.making]
        · exact fun request member => .inr (.inr ⟨answers, _, _, member⟩)
      · rw [callback_events]
        exact .inl rfl
  | evtProcInsert inserted => exact .keeps (by simp [Control.making]) rfl
  | initFailed => exact .keeps (fun _ member => member) rfl
  | gone index => exact .keeps (fun _ member => member) rfl

theorem interrupt_answerStep {ready : Bool} :
    (transport.interrupt ready).Leads (AnswerStep firmware transport) := by
  unfold Transport.interrupt
  cases transport.isr with
  | idle =>
      dsimp only [Command.Leads]
      split <;> exact .keeps (fun _ member => member) rfl
  | receive index =>
      refine .keeps ?_ ?_
      · rw [receive_control]
        exact fun _ member => member
      · rw [receive_events]
  | poolEmpty => exact fun empty => .keeps (fun _ member => member) rfl
  | poolRemove => exact fun index => .keeps (fun _ member => member) rfl
  | _ => exact .keeps (fun _ member => member) rfl

theorem step_answerStep {input : Input Answers} :
    (transport.step firmware input).Leads (AnswerStep firmware transport) := by
  cases input with
  | arrive type rest => exact .keeps (fun _ member => member) rfl
  | interrupt ready => exact interrupt_answerStep
  | main elapsed answers =>
      unfold Transport.step
      dsimp only
      split
      · exact main_answerStep
      · exact .keeps (fun _ member => member) rfl

/-- No event was taken as an answer that is none. -/
structure Untaken (config : Transport App × Lists) : Prop where
  plain : ∀ request ∈ config.1.control.making, request.event = 0
  taken : ∀ number ∈ config.1.events.consumed, ∃ packet : HciDataPacket,
    config.1.events.queued[number]? = some packet.event ∧ isAnswer packet = true

theorem Moves.queued {before after : Transport App × Lists} (moves : Moves before after) :
    ∃ more, after.1.events.queued = before.1.events.queued ++ more := by
  cases moves with
  | keeps log => exact ⟨[], by rw [log, List.append_nil]⟩
  | queues index isr log => exact ⟨_, by rw [log]; rfl⟩
  | delivers index log => exact ⟨[], by rw [log, List.append_nil]; rfl⟩
  | consumes index front back log => exact ⟨[], by rw [log, List.append_nil]; rfl⟩
  | loses index front back log => exact ⟨[], by rw [log, List.append_nil]; rfl⟩

theorem Moves.lost {before after : Transport App × Lists} (moves : Moves before after) :
    before.1.events.lost <+: after.1.events.lost := by
  cases moves with
  | keeps log => rw [log]
  | queues index isr log => exact log ▸ List.prefix_rfl
  | delivers index log => exact log ▸ List.prefix_rfl
  | consumes index front back log => exact log ▸ List.prefix_rfl
  | loses index front back log => exact log ▸ List.prefix_append _ _

theorem step_untaken {input : Input Answers} {before after : Transport App × Lists}
    (waits : firmware.WaitsForNone) (order : InOrder before) (untaken : Untaken before)
    (runs : listStep firmware before input = some after) : Untaken after := by
  have change := step_answerStep.holds runs
  obtain ⟨more, queued⟩ := (step_moves order.inPlace runs).queued
  have kept : ∀ (number : Nat) (event : List UInt8), before.1.events.queued[number]? = some event →
      after.1.events.queued[number]? = some event := by
    intro number event found
    rw [queued, List.getElem?_append_left (List.getElem?_eq_some_iff.mp found).1, found]
  constructor
  · intro request member
    rcases change.making request member with old | advertising | ⟨answers, packet, app, called⟩
    · exact untaken.plain request old
    · exact waits.advertising request advertising
    · exact waits.callback answers packet app request called
  · intro number member
    rcases change.consumed with same | ⟨request, making, index, live, verdict, consumed⟩
    · rw [same] at member
      obtain ⟨packet, found, answer⟩ := untaken.taken number member
      exact ⟨packet, kept number _ found, answer⟩
    · rw [consumed, List.mem_append, List.mem_singleton] at member
      rcases member with member | rfl
      · obtain ⟨packet, found, answer⟩ := untaken.taken number member
        exact ⟨packet, kept number _ found, answer⟩
      · have waiting : index ∈ waiting before :=
          List.mem_append_left _ (List.mem_append_right _ live)
        exact ⟨before.1.packets index, kept _ _ (order.contents index waiting),
          isAnswer_of_examineEvent (untaken.plain request making) verdict⟩

theorem run_untaken {packets : PacketIndex → HciDataPacket} {app : App}
    {inputs : List (Input Answers)} {config : Transport App × Lists}
    (waits : firmware.WaitsForNone)
    (runs : runFrom (listStep firmware) (Transport.initial firmware packets app, Lists.initial)
      inputs = some config) : Untaken config := by
  have keeps : ∀ state input next, (InOrder state ∧ Untaken state) →
      listStep firmware state input = some next → InOrder next ∧ Untaken next := by
    rintro state input next ⟨order, untaken⟩ done
    exact ⟨step_inOrder order done, step_untaken waits order untaken done⟩
  have start : InOrder (Transport.initial firmware packets app, Lists.initial) ∧
      Untaken (Transport.initial firmware packets app, Lists.initial) := by
    refine ⟨initial_inOrder firmware packets app, waits.init, ?_⟩
    intro number member
    cases member
  exact (run_invariant keeps runs start).2

end Making

def names : List UInt8 → Bool
  | _ :: evt :: _ :: params =>
      evt == evtDisconnComplete ||
        (evt == evtLeMetaEvent && params.head? == some evtLeConnComplete) ||
        (evt == evtVendor && params.take 2 == htobs evtBlueGattAttributeModified)
  | _ => false

def RadioEvent.named : RadioEvent → Bool
  | .other _ _ => false
  | _ => true

theorem htobs_inj {first second : UInt16} (same : htobs first = htobs second) :
    first = second := by
  obtain ⟨low, high⟩ : lowByte first = lowByte second ∧ highByte first = highByte second := by
    simpa [htobs] using same
  rw [← littleEndian_htobs first, low, high, littleEndian_htobs]

theorem names_bytes {event : RadioEvent} (valid : event.Valid) :
    names event.bytes = event.named := by
  cases event with
  | connectionComplete fields => rfl
  | disconnectionComplete fields => rfl
  | attributeModified connHandle attrHandle offset data => rfl
  | other evt params =>
      obtain ⟨-, disconnection, leMeta, vendor⟩ := valid
      simp only [names, RadioEvent.bytes, eventPacket, List.cons_append, List.nil_append,
        RadioEvent.named, Bool.or_eq_false_iff, Bool.and_eq_false_imp, beq_iff_eq,
        beq_eq_false_iff_ne]
      refine ⟨⟨disconnection, fun isMeta => ?_⟩, fun isVendor => ?_⟩
      · obtain ⟨subevent, rest, rfl, differs⟩ := leMeta isMeta
        simpa using differs
      · obtain ⟨ecode, rest, rfl, differs, -⟩ := vendor isVendor
        intro same
        exact differs (htobs_inj same)

theorem isAnswer_of_names {packet : HciDataPacket} (concerns : names packet.event = true) :
    isAnswer packet = false := by
  have second : ∀ byte, packet.event[1]? = some byte → packet.evt = byte :=
    fun byte => dataBuff_eq (by decide)
  have fourth : ∀ byte, packet.event[3]? = some byte → packet.subevent = byte :=
    fun byte => dataBuff_eq (by decide)
  generalize packet.event = event at concerns second fourth
  rcases event with _ | ⟨type, _ | ⟨evt, _ | ⟨plen, params⟩⟩⟩
  · cases concerns
  · cases concerns
  · cases concerns
  · simp only [names, Bool.or_eq_true, Bool.and_eq_true, beq_iff_eq] at concerns
    rw [isAnswer, second evt rfl]
    rcases concerns with (rfl | ⟨rfl, subevent⟩) | ⟨rfl, -⟩
    · rfl
    · have third : packet.subevent = evtLeConnComplete :=
        fourth _ (by rw [← subevent, List.head?_eq_getElem?]; rfl)
      rw [third]
      rfl
    · rfl

theorem filter_queued {App : Type} {config : Transport App × Lists} (order : InOrder config)
    (untaken : Untaken config) (lost : config.1.events.lost = []) :
    config.1.events.handed.filter names ++
        ((waiting config).map fun index => (config.1.packets index).event).filter names =
      config.1.events.queued.filter names := by
  have contents : (waiting config).map (fun index =>
      config.1.events.queued[config.1.events.serial index]?) =
        (waiting config).map fun index => some (config.1.packets index).event :=
    List.map_congr_left order.contents
  have picks : Picks
      (config.1.events.delivered ++ (waiting config).map config.1.events.serial)
      config.1.events.queued
      (config.1.events.handed ++
        (waiting config).map fun index => (config.1.packets index).event) := by
    refine ⟨order.sorted, ?_⟩
    rw [List.map_append, List.map_append, order.handed, List.map_map, List.map_map]
    exact congrArg _ contents
  rw [← List.filter_append]
  refine picks.filter_eq ?_
  intro position event found concerns
  have inside := List.mem_range.mpr (List.getElem?_eq_some_iff.mp found).1
  have fate := order.perm.mem_iff.mpr inside
  rw [lost, List.append_nil, List.mem_append, List.mem_append] at fate
  rcases fate with (delivered | consumed) | waits
  · exact List.mem_append_left _ delivered
  · obtain ⟨packet, same, answer⟩ := untaken.taken position consumed
    obtain rfl : event = packet.event := Option.some.inj (found.symm.trans same)
    rw [isAnswer_of_names concerns] at answer
    cases answer
  · exact List.mem_append_right _ waits

theorem reads_filter {handles : Handles} {handed : List (List UInt8)}
    {outcomes : List (Option Event)} (reads : List.Forall₂ handles.Reads handed outcomes)
    (silent : ∀ bytes ∈ handed, names bytes = false →
      ∀ outcome, handles.Reads bytes outcome → outcome = none) :
    ∃ rest, List.Forall₂ handles.Reads (handed.filter names) rest ∧
      rest.filterMap id = outcomes.filterMap id := by
  induction reads with
  | nil => exact ⟨[], .nil, rfl⟩
  | @cons bytes outcome _ _ now later ih =>
      obtain ⟨rest, kept, same⟩ := ih fun other member => silent other (List.mem_cons_of_mem _ member)
      cases concerns : names bytes with
      | true =>
          refine ⟨outcome :: rest, ?_, ?_⟩
          · rw [List.filter_cons_of_pos concerns]
            exact .cons now kept
          · rw [List.filterMap_cons, List.filterMap_cons, same]
      | false =>
          refine ⟨rest, ?_, ?_⟩
          · rw [List.filter_cons_of_neg (by simp [concerns])]
            exact kept
          · rw [silent bytes (by simp) concerns outcome now, same]
            rfl

theorem updateFirmware_waitsForNone (gcm : AesGcm) (handles : Handles)
    (initialisation : Initialisation) :
    (updateFirmware gcm handles initialisation).WaitsForNone where
  init := initialisation.waitsForNone
  advertising := by
    have plain : ∀ request ∈ enableAdvertising, request.event = 0 := by decide
    exact plain
  callback := by
    intro surroundings packet program request member
    obtain ⟨bytes, -, made⟩ := List.mem_flatMap.mp member
    unfold Handles.updateTxChar aciGattUpdateCharValue at made
    split at made
    · cases made
    · rw [List.mem_singleton] at made
      rw [made]

theorem run_named {gcm : AesGcm} {handles : Handles} {initialisation : Initialisation}
    {flash : UInt32 → UInt64} {packets : PacketIndex → HciDataPacket} {offered : List RadioEvent}
    {inputs : List (Input Surroundings)} {config : Transport Program × Lists}
    (valid : ∀ event ∈ offered, event.Valid)
    (arrived : arrivals inputs = offered.map RadioEvent.bytes)
    (runs : runFrom (listStep (updateFirmware gcm handles initialisation))
      (Transport.initial (updateFirmware gcm handles initialisation) packets (.initial flash),
        Lists.initial) inputs = some config)
    (lost : config.1.events.lost = []) :
    ∃ rest, (offered.filter RadioEvent.named).map RadioEvent.bytes =
        config.1.events.handed.filter names ++ rest ∧
      (waiting config = [] → config.1.isr = .idle → config.1.offered = [] → rest = []) := by
  have order := run_inOrder runs
  have untaken := run_untaken (updateFirmware_waitsForNone gcm handles initialisation) runs
  have parts := arrived_valid runs valid arrived
  refine ⟨((waiting config).map fun index => (config.1.packets index).event).filter names ++
    (config.1.inHand ++ (config.1.offered.flatMap pieces).filter wellFormed).filter names, ?_, ?_⟩
  · rw [← List.append_assoc, filter_queued order untaken lost, ← List.filter_append,
      ← List.append_assoc, ← parts, List.filter_map]
    congr 1
    exact List.filter_congr fun event member => (names_bytes (valid event member)).symm
  · intro nothing quiet silentLine
    rw [nothing, Transport.inHand, quiet, silentLine]
    rfl

theorem RadioEvent.Valid.silent {event : RadioEvent} (valid : event.Valid)
    (unnamed : names event.bytes = false) {handles : Handles} {outcome : Option Event}
    (read : handles.Reads event.bytes outcome) : outcome = none := by
  rw [names_bytes valid] at unnamed
  have means := means_of_reads valid read
  cases event with
  | other evt params => exact means
  | _ => cases unnamed

/-- In every interleaving with a radio that offers valid events and in which none is lost, the
device goes through the steps of its own machine for the events that concern it, all of them, in the
order in which the radio offered them, up to those that are still on their way. -/
theorem handled_in_order_unless_lost (gcm : AesGcm) (handles : Handles)
    (initialisation : Initialisation) (flash : UInt32 → UInt64)
    (packets : PacketIndex → HciDataPacket) (offered : List RadioEvent)
    (valid : ∀ event ∈ offered, event.Valid) (inputs : List (Input Surroundings))
    (arrived : arrivals inputs = offered.map RadioEvent.bytes) :
    ∃ transport lists,
      runFrom (listStep (updateFirmware gcm handles initialisation))
        (Transport.initial (updateFirmware gcm handles initialisation) packets (.initial flash),
          Lists.initial) inputs = some (transport, lists) ∧
      (transport.events.lost = [] →
        ∃ handled pending : List RadioEvent, ∃ outcomes : List (Option Event),
          handled ++ pending = offered.filter RadioEvent.named ∧
          (waiting (transport, lists) = [] → transport.isr = .idle → transport.offered = [] →
            pending = []) ∧
          List.Forall₂ (RadioEvent.Means handles) handled outcomes ∧
          transport.app.device.cleared = (run gcm flash (outcomes.filterMap id)).cleared ∧
          transport.app.effects = Transitions.trace (step gcm) Device.effects (powerOn flash)
            (outcomes.filterMap id)) := by
  obtain ⟨⟨transport, lists⟩, runs, -⟩ :=
    run_safe (step_inPlace (updateFirmware gcm handles initialisation))
      (initial_inPlace (updateFirmware gcm handles initialisation) packets (.initial flash)) inputs
  refine ⟨transport, lists, runs, fun lost => ?_⟩
  have parts := arrived_valid runs valid arrived
  obtain ⟨later, whole, settled⟩ := run_named valid arrived runs lost
  obtain ⟨handled, pending, split, handedBytes, pendingBytes⟩ := List.map_eq_append_iff.mp whole
  obtain ⟨outcomes, reads, device, effects⟩ := (run_follows runs).outcomes
  have silent : ∀ bytes ∈ transport.events.handed, names bytes = false →
      ∀ outcome, handles.Reads bytes outcome → outcome = none := by
    intro bytes member unnamed outcome read
    have source : bytes ∈ offered.map RadioEvent.bytes := by
      rw [parts, List.append_assoc]
      exact List.mem_append_left _ ((run_inOrder runs).picks.sublist.subset member)
    obtain ⟨event, listed, rfl⟩ := List.mem_map.mp source
    exact (valid event listed).silent unnamed read
  obtain ⟨rest, kept, same⟩ := reads_filter reads silent
  rw [← handedBytes] at kept
  refine ⟨handled, pending, rest, split.symm, ?_, ?_, ?_, ?_⟩
  · intro nothing quiet silentLine
    rw [settled nothing quiet silentLine] at pendingBytes
    exact List.map_eq_nil_iff.mp pendingBytes
  · refine forall₂_means (fun event member => ?_) kept
    have listed : event ∈ offered.filter RadioEvent.named := by
      rw [split]
      exact List.mem_append_left _ member
    exact valid event (List.mem_of_mem_filter listed)
  · rw [same]
    exact device
  · rw [same]
    exact effects

theorem handled_in_order_unless_lost_start :
    ∃ transport lists, ∃ outcomes : List (Option Event),
      runFrom (listStep sampleFirmware) sampleStart sampleInputs = some (transport, lists) ∧
      transport.events.lost = [] ∧
      List.Forall₂ (RadioEvent.Means sampleHandles) (sampleOffered.filter RadioEvent.named)
        outcomes ∧
      transport.app.device.cleared =
        (run .sample (fun _ => 0) (outcomes.filterMap id)).cleared ∧
      transport.app.effects = Transitions.trace (step .sample) Device.effects
        (powerOn fun _ => 0) (outcomes.filterMap id) := by
  have possible : ∃ config ∈ runFrom (listStep sampleFirmware) sampleStart sampleInputs,
      config.1.events.lost = [] ∧ waiting config = [] ∧ config.1.isr = .idle ∧
        config.1.offered = [] := by
    decide +kernel
  obtain ⟨transport, lists, runs, inOrder⟩ :=
    handled_in_order_unless_lost .sample sampleHandles sampleInitialisation (fun _ => 0)
      blankPackets sampleOffered sampleOffered_valid sampleInputs (by decide +kernel)
  obtain ⟨config, same, lost, nothing, quiet, silentLine⟩ := possible
  obtain rfl : config = (transport, lists) := Option.some.inj (same.symm.trans runs)
  obtain ⟨handled, pending, outcomes, whole, settled, means, device, effects⟩ := inOrder lost
  rw [settled nothing quiet silentLine, List.append_nil] at whole
  rw [whole] at means
  exact ⟨transport, lists, outcomes, runs, lost, means, device, effects⟩

end BleFwUpdate
