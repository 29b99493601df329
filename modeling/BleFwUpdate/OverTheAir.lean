import BleFwUpdate.Network

/-! An upload with all of the program: whatever the order in which the host, the radio, the
interrupt and the main program take their turns, it is an upload on the faithful link. -/

namespace BleFwUpdate

open Faults Countdown LittleEndian

section Messages

variable {gcm : AesGcm}

theorem length_dataMsg (lawful : gcm.Lawful) {mode : Mode} {chunk : List UInt8}
    (fits : chunk.length ≤ mode.stored) (iv : Iv) (number : Nat) :
    (dataMsg gcm mode iv number chunk).length = 20 := by
  cases mode with
  | raw => exact length_rawMsg fits number
  | secure => exact length_secureMsg lawful iv number fits

theorem length_dataMsgs (lawful : gcm.Lawful) {mode : Mode} {chunks : List (List UInt8)}
    (fit : ∀ chunk ∈ chunks, chunk.length ≤ mode.stored) (randIv : Vector UInt8 3) (iv : Iv)
    (number : Nat) : ∀ msg ∈ dataMsgs gcm mode randIv iv number chunks, msg.length = 20 := by
  induction chunks generalizing iv number with
  | nil =>
      intro msg member
      cases member
  | cons chunk rest ih =>
      intro msg member
      rcases List.mem_cons.mp member with rfl | later
      · exact length_dataMsg lawful (fit chunk (by simp)) _ number
      · exact ih (fun other listed => fit other (List.mem_cons_of_mem _ listed)) _ _ msg later

theorem longEnough_of_length {msg : List UInt8} (length : msg.length = 20) (device : Device) :
    ∃ short : msg.length ≤ 20, LongEnough (.ofBytes msg short) device := by
  have count : UInt8.ofNat msg.length = 20 := by rw [length]; rfl
  refine ⟨Nat.le_of_eq length, ?_, fun _ => count⟩
  show 4 ≤ (UInt8.ofNat msg.length).toNat
  rw [count]
  decide

theorem Session.longEnough (lawful : gcm.Lawful) {upload : Upload} {sent taken : Nat}
    {link : Link} (session : Session gcm upload sent taken link) {msg : List UInt8}
    (member : msg ∈ link.toDevice) :
    ∃ short : msg.length ≤ 20, LongEnough (.ofBytes msg short) link.device := by
  refine longEnough_of_length ?_ link.device
  rw [session.queue] at member
  refine length_dataMsgs lawful (fun chunk listed => ?_) _ _ _ msg member
  exact upload.chunk_fits (List.mem_of_mem_drop (List.mem_of_mem_take listed))

theorem Holds.longEnough (lawful : gcm.Lawful) {upload : Upload} {flash : UInt32 → UInt64}
    {left : Nat} {link : Link} (holds : Holds gcm upload flash left link) {msg : List UInt8}
    (member : msg ∈ link.toDevice) :
    ∃ short : msg.length ≤ 20, LongEnough (.ofBytes msg short) link.device := by
  cases holds with
  | requesting => cases member
  | requested =>
      obtain rfl : msg = upload.startMsg := List.mem_singleton.mp member
      refine ⟨by simp [Upload.startMsg], ?_, fun receiving => by cases receiving⟩
      exact (by decide : 4 ≤ (5 : UInt8).toNat)
  | answered state => exact state.toSession.longEnough lawful member
  | read state => exact state.toSession.longEnough lawful member
  | sending state => exact state.toSession.longEnough lawful member
  | closed state => exact state.toSession.longEnough lawful member
  | closing state => exact state.toSession.longEnough lawful member
  | done state =>
      rw [state.delivered] at member
      cases member

end Messages

def RadioEvent.message : RadioEvent → Option (List UInt8)
  | .attributeModified _ _ _ data => some data
  | _ => none

def RadioEvent.Writes (handles : Handles) : RadioEvent → Prop
  | .attributeModified _ attrHandle _ data =>
      attrHandle.toNat = handles.rxCharHandle.toNat + 1 ∧ data.length ≤ 20
  | _ => False

section Relation

variable (gcm : AesGcm) (handles : Handles) (upload : Upload) (flash : UInt32 → UInt64)

/-- Whether the device has been told of the connection; the link begins where it has been. -/
inductive Greeted (network : Network) (link : Link) : List RadioEvent → Prop
  | waiting (unconnected : network.connection = .waiting)
      (booted : network.program.1.app.device.cleared = (powerOn flash).cleared)
      (silent : network.program.1.app.effects = [])
      (first : link.device = Upload.device gcm flash) :
      Greeted network link []
  | told (fields : List UInt8) (connected : network.connection ≠ .waiting)
      (booted : network.program.1.app.device.cleared = (powerOn flash).cleared)
      (silent : network.program.1.app.effects = [])
      (first : link.device = Upload.device gcm flash) :
      Greeted network link [.connectionComplete fields]
  | knows (connected : network.connection ≠ .waiting)
      (same : link.device.cleared = network.program.1.app.device.cleared) :
      Greeted network link []

/-- Whether the device is still to be told of the disconnection; on the link it comes only then. -/
inductive Leaving (network : Network) (link : Link) : List RadioEvent → Prop
  | told (same : network.host = link.host) : Leaving network link []
  | leaves (fields : List UInt8) (gone : network.connection = .gone)
      (ended : network.host = endUpload link.host)
      (status : link.host.connectionStatus = .closingPhase)
      (suspended : link.host.suspended = .toLoop) :
      Leaving network link [.disconnectionComplete fields]

structure Underway (network : Network) (link : Link)
    (greeting writes farewell : List RadioEvent) : Prop where
  pending : pending network.reported network.program = greeting ++ writes ++ farewell
  greeted : Greeted gcm flash network link greeting
  written : ∀ event ∈ writes, event.Writes handles
  toDevice : link.toDevice = writes.filterMap RadioEvent.message ++ network.air
  leaving : Leaving network link farewell

/-- The link is where the network is, once all that is on its way has got there. -/
structure Shows (network : Network) (link : Link) : Prop where
  moved : ∃ moves, runMoves (Link.move gcm) (upload.link gcm flash) moves = some link
  stage : ∃ greeting writes farewell,
    Underway gcm handles flash network link greeting writes farewell
  quiet : network.connection ≠ .connected → network.air = []
  alone : network.connection = .waiting →
    pending network.reported network.program = []
  effects : network.program.1.app.effects =
    link.log.flatMap fun entry => (step gcm entry.1 entry.2).effects
  heard : network.heard ≤ (responses network.program.1.app.effects).length
  toHost : link.toHost = (responses network.program.1.app.effects).drop network.heard

end Relation

section Simulation

variable {gcm : AesGcm} {handles : Handles} {initialisation : Initialisation} {upload : Upload}
  {flash : UInt32 → UInt64} {packets : PacketIndex → HciDataPacket} {network next : Network}
  {link : Link}

theorem Greeted.congr {greeting : List RadioEvent} {after : Link}
    (greeted : Greeted gcm flash network link greeting)
    (connection : next.connection = network.connection)
    (device : next.program.1.app.device.cleared = network.program.1.app.device.cleared)
    (effects : next.program.1.app.effects = network.program.1.app.effects)
    (same : after.device = link.device) : Greeted gcm flash next after greeting := by
  cases greeted with
  | waiting unconnected booted silent first =>
      exact .waiting (by rw [connection, unconnected]) (by rw [device, booted])
        (by rw [effects, silent]) (by rw [same, first])
  | told fields connected booted silent first =>
      exact .told fields (by rwa [connection]) (by rw [device, booted]) (by rw [effects, silent])
        (by rw [same, first])
  | knows connected known => exact .knows (by rwa [connection]) (by rw [same, known, device])

theorem Leaving.congr {farewell : List RadioEvent} {after : Link}
    (leaving : Leaving network link farewell) (host : next.host = network.host)
    (connection : next.connection = network.connection) (same : after.host = link.host) :
    Leaving next after farewell := by
  cases leaving with
  | told together => exact .told (by rw [host, together, same])
  | leaves fields gone ended status suspended =>
      exact .leaves fields (by rw [connection, gone]) (by rw [host, ended, same])
        (by rw [same, status]) (by rw [same, suspended])

theorem Leaving.host {farewell : List RadioEvent} (leaving : Leaving network link farewell) :
    network.host = link.host ∨ network.connection = .gone ∧ network.host = endUpload link.host := by
  cases leaving with
  | told same => exact .inl same
  | leaves fields gone ended status suspended => exact .inr ⟨gone, ended⟩

theorem Shows.restage (shows : Shows gcm handles upload flash network link)
    (app : next.program.1.app = network.program.1.app) (heard : next.heard = network.heard)
    (stage : ∃ greeting writes farewell,
      Underway gcm handles flash next link greeting writes farewell)
    (quiet : next.connection ≠ .connected → next.air = [])
    (alone : next.connection = .waiting → pending next.reported next.program = []) :
    Shows gcm handles upload flash next link := by
  refine ⟨shows.moved, stage, quiet, alone, ?_, ?_, ?_⟩
  · rw [app]
    exact shows.effects
  · rw [app, heard]
    exact shows.heard
  · rw [app, heard]
    exact shows.toHost

theorem Shows.keeps (shows : Shows gcm handles upload flash network link)
    (host : next.host = network.host) (connection : next.connection = network.connection)
    (air : next.air = network.air) (heard : next.heard = network.heard)
    (same : pending next.reported next.program = pending network.reported network.program)
    (device : next.program.1.app.device.cleared = network.program.1.app.device.cleared)
    (effects : next.program.1.app.effects = network.program.1.app.effects) :
    Shows gcm handles upload flash next link := by
  obtain ⟨greeting, writes, farewell, stage⟩ := shows.stage
  refine ⟨shows.moved, ⟨greeting, writes, farewell, ?_⟩, ?_, ?_, ?_, ?_, ?_⟩
  · exact ⟨by rw [same, stage.pending], stage.greeted.congr connection device effects rfl,
      stage.written, by rw [air, stage.toDevice], stage.leaving.congr host connection rfl⟩
  · rw [connection, air]
    exact shows.quiet
  · rw [connection, same]
    exact shows.alone
  · rw [effects]
    exact shows.effects
  · rw [heard, effects]
    exact shows.heard
  · rw [heard, effects]
    exact shows.toHost

theorem Underway.together {greeting writes farewell : List RadioEvent}
    (stage : Underway gcm handles flash network link greeting writes farewell)
    (open' : network.connection ≠ .gone) : farewell = [] ∧ network.host = link.host := by
  cases stage.leaving with
  | told same => exact ⟨rfl, same⟩
  | leaves fields gone => exact absurd gone open'

theorem Shows.resumes (shows : Shows gcm handles upload flash network link)
    (connected : network.connection = .connected) {goOn : Bool} {host : Host}
    {messages : List (List UInt8)}
    (resumed : resume gcm goOn network.host = some (host, messages)) :
    ∃ move after, link.move gcm move = some after ∧ Shows gcm handles upload flash
      { network with host := host, air := network.air ++ messages } after := by
  obtain ⟨greeting, writes, farewell, stage⟩ := shows.stage
  obtain ⟨rfl, together⟩ := stage.together (by simp [connected])
  obtain ⟨moves, ran⟩ := shows.moved
  have moved : link.move gcm (.hostResumes goOn) =
      some { link with host := host, toDevice := link.toDevice ++ messages } := by
    rw [Link.move, ← together, resumed]
    rfl
  refine ⟨_, _, moved, ⟨_, runMoves_concat ran moved⟩, ⟨greeting, writes, [], ?_⟩, ?_,
    shows.alone, shows.effects, shows.heard, shows.toHost⟩
  · refine ⟨stage.pending, stage.greeted.congr rfl rfl rfl rfl, stage.written, ?_, .told rfl⟩
    dsimp only
    rw [stage.toDevice, List.append_assoc]
  · exact fun apart => absurd connected apart

theorem Shows.reads (shows : Shows gcm handles upload flash network link)
    (connected : network.connection = .connected) {data : List UInt8}
    (found : (responses network.program.1.app.effects)[network.heard]? = some data) :
    ∃ move after, link.move gcm move = some after ∧ Shows gcm handles upload flash
      { network with host := readResponse gcm data network.host, heard := network.heard + 1 }
      after := by
  obtain ⟨greeting, writes, farewell, stage⟩ := shows.stage
  obtain ⟨rfl, together⟩ := stage.together (by simp [connected])
  obtain ⟨moves, ran⟩ := shows.moved
  obtain ⟨inside, rfl⟩ := List.getElem?_eq_some_iff.mp found
  have toHost := shows.toHost
  rw [List.drop_eq_getElem_cons inside] at toHost
  have moved : link.move gcm .hostReads = some { link with
      host := readResponse gcm (responses network.program.1.app.effects)[network.heard] link.host
      toHost := (responses network.program.1.app.effects).drop (network.heard + 1) } := by
    rw [Link.move, toHost]
  refine ⟨_, _, moved, ⟨_, runMoves_concat ran moved⟩, ⟨greeting, writes, [], ?_⟩, ?_,
    shows.alone, shows.effects, inside, rfl⟩
  · exact ⟨stage.pending, stage.greeted.congr rfl rfl rfl rfl, stage.written, stage.toDevice,
      .told (by rw [together])⟩
  · exact fun apart => absurd connected apart

theorem Shows.connects {fields : List UInt8} {program : Transport Program × Lists}
    (shows : Shows gcm handles upload flash network link)
    (reached : Reached gcm handles initialisation flash packets network.reported network.program)
    (lost : network.program.1.events.lost = []) (waits : network.connection = .waiting)
    (done : listStep (updateFirmware gcm handles initialisation) network.program
      (RadioEvent.connectionComplete fields).arrive = some program) :
    Shows gcm handles upload flash
      { network with
        connection := .connected
        reported := network.reported ++ [.connectionComplete fields]
        program := program } link := by
  obtain ⟨greeting, writes, farewell, stage⟩ := shows.stage
  obtain ⟨later, app, -⟩ := reached.report lost done
  have alone := shows.alone waits
  rw [alone] at later
  obtain ⟨rfl, rfl, rfl⟩ : greeting = [] ∧ writes = [] ∧ farewell = [] := by
    simpa [stage.pending] using alone
  obtain ⟨-, together⟩ := stage.together (by simp [waits])
  refine shows.restage app rfl ⟨[.connectionComplete fields], [], [], later, ?_, by simp,
    stage.toDevice, .told together⟩ (fun apart => absurd rfl apart)
    (fun unconnected => by cases unconnected)
  cases stage.greeted with
  | waiting unconnected booted silent first =>
      exact .told fields (by simp) (by rw [app, booted]) (by rw [app, silent]) first
  | knows connected => exact absurd waits connected

theorem Shows.writes {connHandle offset : UInt16} {msg : List UInt8} {rest : List (List UInt8)}
    {program : Transport Program × Lists}
    (shows : Shows gcm handles upload flash network link)
    (reached : Reached gcm handles initialisation flash packets network.reported network.program)
    (lost : network.program.1.events.lost = []) (room : handles.rxCharHandle.toNat < 65535)
    (air : network.air = msg :: rest) (short : msg.length ≤ 20)
    (done : listStep (updateFirmware gcm handles initialisation) network.program
      (RadioEvent.attributeModified connHandle (handles.rxCharHandle + 1) offset msg).arrive =
        some program) :
    Shows gcm handles upload flash
      { network with
        air := rest
        reported := network.reported ++
          [.attributeModified connHandle (handles.rxCharHandle + 1) offset msg]
        program := program } link := by
  obtain ⟨greeting, writes, farewell, stage⟩ := shows.stage
  obtain ⟨later, app, -⟩ := reached.report lost done
  have connected : network.connection = .connected := by
    by_contra apart
    rw [shows.quiet apart] at air
    cases air
  obtain ⟨rfl, together⟩ := stage.together (by simp [connected])
  have attrHandle : (handles.rxCharHandle + 1).toNat = handles.rxCharHandle.toNat + 1 := by
    rw [UInt16.toNat_add, UInt16.toNat_one]
    exact Nat.mod_eq_of_lt (by omega)
  refine shows.restage app rfl ⟨greeting, writes ++
      [.attributeModified connHandle (handles.rxCharHandle + 1) offset msg], [], ?_,
    stage.greeted.congr rfl (by rw [app]) (by rw [app]) rfl, ?_, ?_, .told together⟩
    (fun apart => absurd connected apart)
    (fun unconnected => by cases connected.symm.trans unconnected)
  · dsimp only
    rw [later, stage.pending, List.append_nil, List.append_nil, List.append_assoc]
    rfl
  · intro event member
    rcases List.mem_append.mp member with old | new
    · exact stage.written event old
    · rw [List.mem_singleton.mp new]
      exact ⟨attrHandle, short⟩
  · dsimp only
    rw [stage.toDevice, air, List.filterMap_append, List.append_assoc]
    rfl

theorem Shows.disconnects {fields : List UInt8} {program : Transport Program × Lists}
    (shows : Shows gcm handles upload flash network link)
    (reached : Reached gcm handles initialisation flash packets network.reported network.program)
    (lost : network.program.1.events.lost = []) (connected : network.connection = .connected)
    (status : network.host.connectionStatus = .closingPhase)
    (suspended : network.host.suspended = .toLoop) (air : network.air = [])
    (done : listStep (updateFirmware gcm handles initialisation) network.program
      (RadioEvent.disconnectionComplete fields).arrive = some program) :
    Shows gcm handles upload flash
      { network with
        host := endUpload network.host
        connection := .gone
        reported := network.reported ++ [.disconnectionComplete fields]
        program := program } link := by
  obtain ⟨greeting, writes, farewell, stage⟩ := shows.stage
  obtain ⟨later, app, -⟩ := reached.report lost done
  obtain ⟨rfl, together⟩ := stage.together (by simp [connected])
  have leaves : Leaving { network with host := endUpload network.host, connection := .gone } link
      [.disconnectionComplete fields] :=
    .leaves fields rfl (by rw [together]) (by rw [← together, status])
      (by rw [← together, suspended])
  refine shows.restage app rfl ⟨greeting, writes, [.disconnectionComplete fields], ?_, ?_,
    stage.written, stage.toDevice, leaves.congr rfl rfl rfl⟩ (fun _ => air)
    (fun unconnected => by cases unconnected)
  · dsimp only
    rw [later, stage.pending, List.append_nil]
    rfl
  · cases stage.greeted with
    | waiting unconnected => cases connected.symm.trans unconnected
    | told fields connected booted silent first =>
        exact .told fields (by simp) (by rw [app, booted]) (by rw [app, silent]) first
    | knows connected known => exact .knows (by simp) (by rw [app, known])

theorem flatMap_handle (gcm : AesGcm) (event : Event) (link : Link) :
    ((link.handle gcm event).log.flatMap fun entry => (step gcm entry.1 entry.2).effects) =
      (link.log.flatMap fun entry => (step gcm entry.1 entry.2).effects) ++
        (step gcm link.device event).effects := by
  rw [Link.handle, List.flatMap_append, List.flatMap_singleton]

theorem Shows.handled {event : RadioEvent} {program : Transport Program × Lists} {after : Link}
    {greeting writes farewell : List RadioEvent}
    (shows : Shows gcm handles upload flash network link)
    (taken : pending network.reported network.program =
      event :: pending network.reported program)
    (effects : program.1.app.effects =
      network.program.1.app.effects ++ program.1.app.device.effects)
    (moved : ∃ moves, runMoves (Link.move gcm) (upload.link gcm flash) moves = some after)
    (log : after.log.flatMap (fun entry => (step gcm entry.1 entry.2).effects) =
      link.log.flatMap (fun entry => (step gcm entry.1 entry.2).effects) ++
        program.1.app.device.effects)
    (toHost : after.toHost = link.toHost ++ responses program.1.app.device.effects)
    (stage : Underway gcm handles flash { network with program := program } after greeting writes
      farewell) :
    Shows gcm handles upload flash { network with program := program } after := by
  refine ⟨moved, ⟨greeting, writes, farewell, stage⟩, shows.quiet, fun waits => ?_,
    by rw [log, effects, shows.effects], ?_, ?_⟩
  · have alone := shows.alone waits
    rw [taken] at alone
    cases alone
  · have heard := shows.heard
    dsimp only
    rw [effects, responses_append, List.length_append]
    omega
  · dsimp only
    rw [effects, responses_append, List.drop_append_of_le_length shows.heard, ← shows.toHost,
      toHost]

/-- The link is one move on or, unless the host has taken a turn, where it was. -/
def Onward (gcm : AesGcm) (turn : Bool) (link after : Link) : Prop :=
  (turn = false ∧ after = link) ∨ ∃ move, link.move gcm move = some after

/-- The device is told of the connection; on the link it has been told before. -/
theorem Shows.takes_greeting {fields : List UInt8} {working : Working} {around : Int → UInt8}
    {packet : HciDataPacket} {program : Transport Program × Lists}
    {writes farewell : List RadioEvent}
    (shows : Shows gcm handles upload flash network link)
    (stage : Underway gcm handles flash network link [.connectionComplete fields] writes farewell)
    (taken : pending network.reported network.program =
      .connectionComplete fields :: pending network.reported program)
    (later : pending network.reported program = writes ++ farewell)
    (holds : packet.event = (RadioEvent.connectionComplete fields).bytes)
    (device : program.1.app.device = handleIf gcm network.program.1.app.device.cleared
      (handles.event ⟨working.hardware, around⟩ packet))
    (effects : program.1.app.effects =
      network.program.1.app.effects ++ program.1.app.device.effects) :
    Shows gcm handles upload flash { network with program := program } link := by
  cases stage.greeted with
  | told _ connected booted silent first =>
      rw [means_connectionComplete holds, booted] at device
      have quiet : responses program.1.app.device.effects = [] := by
        rw [device]
        rfl
      have known : link.device.cleared = program.1.app.device.cleared := by
        rw [first, device]
        rfl
      refine shows.handled taken effects shows.moved ?_ ?_
        ⟨later, .knows connected known, stage.written, stage.toDevice,
          stage.leaving.congr rfl rfl rfl⟩
      · rw [device]
        exact (List.append_nil _).symm
      · rw [quiet, List.append_nil]

theorem Shows.takes_write (lawful : gcm.Lawful) {connHandle attrHandle offset : UInt16}
    {data : List UInt8} {working : Working} {around : Int → UInt8} {packet : HciDataPacket}
    {program : Transport Program × Lists} {rest farewell : List RadioEvent}
    (shows : Shows gcm handles upload flash network link)
    (stage : Underway gcm handles flash network link []
      (.attributeModified connHandle attrHandle offset data :: rest) farewell)
    (taken : pending network.reported network.program =
      .attributeModified connHandle attrHandle offset data :: pending network.reported program)
    (later : pending network.reported program = rest ++ farewell)
    (holds : packet.event = (RadioEvent.attributeModified connHandle attrHandle offset data).bytes)
    (connected : network.connection ≠ .waiting)
    (same : link.device.cleared = network.program.1.app.device.cleared)
    (linkRunning : link.device.running = none)
    (device : program.1.app.device = handleIf gcm network.program.1.app.device.cleared
      (handles.event ⟨working.hardware, around⟩ packet))
    (effects : program.1.app.effects =
      network.program.1.app.effects ++ program.1.app.device.effects) :
    ∃ move after, link.move gcm move = some after ∧
      Shows gcm handles upload flash { network with program := program } after := by
  obtain ⟨moves, ran⟩ := shows.moved
  obtain ⟨attr, short⟩ := stage.written _ List.mem_cons_self
  have toDevice : link.toDevice =
      data :: (rest.filterMap RadioEvent.message ++ network.air) := stage.toDevice
  obtain ⟨fewer, counted, -⟩ := (countsDown lawful upload flash).run .requesting ran
  have member : data ∈ link.toDevice := by simp [toDevice]
  obtain ⟨_, long⟩ := counted.longEnough lawful member
  obtain ⟨received, contents, outcome⟩ := @event_attributeModified handles
    ⟨working.hardware, around⟩ packet connHandle attrHandle offset data short holds
  rw [outcome, if_pos attr] at device
  have same' := contents.same short
  have status : network.program.1.app.device.cleared.connectionStatus =
      link.device.connectionStatus := by rw [← same, cleared_connectionStatus]
  have stepped : step gcm link.device (.receive (.ofBytes data short) working.hardware) =
      program.1.app.device := by
    rw [step, linkRunning, device, same]
    exact (same'.dataHandler gcm working.hardware _ (same'.longEnough status long)).symm
  have moved : link.move gcm (.deviceReceives working) = some
      ({ link with toDevice := rest.filterMap RadioEvent.message ++ network.air }.handle
        gcm (.receive (.ofBytes data short) working.hardware)) := by
    simp only [Link.move, toDevice, dif_pos short]
  refine ⟨_, _, moved, shows.handled taken effects ⟨_, runMoves_concat ran moved⟩ ?_ ?_
    ⟨later, .knows connected ?_, ?_, rfl, stage.leaving.congr rfl rfl rfl⟩⟩
  · rw [← stepped]
    exact flatMap_handle ..
  · exact congrArg (fun device => link.toHost ++ responses device.effects) stepped
  · exact congrArg Device.cleared stepped
  · exact fun other listed => stage.written other (List.mem_cons_of_mem _ listed)

/-- The device is told of the disconnection, and on the link it comes now. -/
theorem Shows.takes_farewell {fields : List UInt8} {working : Working} {around : Int → UInt8}
    {packet : HciDataPacket} {program : Transport Program × Lists}
    (shows : Shows gcm handles upload flash network link)
    (stage : Underway gcm handles flash network link [] [] [.disconnectionComplete fields])
    (taken : pending network.reported network.program =
      .disconnectionComplete fields :: pending network.reported program)
    (later : pending network.reported program = [])
    (holds : packet.event = (RadioEvent.disconnectionComplete fields).bytes)
    (connected : network.connection ≠ .waiting)
    (same : link.device.cleared = network.program.1.app.device.cleared)
    (linkRunning : link.device.running = none)
    (device : program.1.app.device = handleIf gcm network.program.1.app.device.cleared
      (handles.event ⟨working.hardware, around⟩ packet))
    (effects : program.1.app.effects =
      network.program.1.app.effects ++ program.1.app.device.effects) :
    ∃ move after, link.move gcm move = some after ∧
      Shows gcm handles upload flash { network with program := program } after := by
  obtain ⟨moves, ran⟩ := shows.moved
  cases stage.leaving with
  | leaves _ gone ended status suspended =>
      rw [means_disconnectionComplete holds] at device
      have stepped : step gcm link.device (.disconnect working.hardware) =
          program.1.app.device := by
        rw [step, linkRunning, device, same]
        rfl
      have silent : link.toDevice = [] := by
        rw [stage.toDevice, shows.quiet (by simp [gone])]
        rfl
      have moved : link.move gcm (.disconnects working) = some
          ({ link with host := endUpload link.host }.handle gcm
            (.disconnect working.hardware)) := if_pos ⟨status, suspended, silent⟩
      refine ⟨_, _, moved, shows.handled taken effects ⟨_, runMoves_concat ran moved⟩ ?_ ?_
        ⟨later, .knows connected ?_, stage.written, stage.toDevice, .told ended⟩⟩
      · rw [← stepped]
        exact flatMap_handle ..
      · exact congrArg (fun device => link.toHost ++ responses device.effects) stepped
      · exact congrArg Device.cleared stepped

theorem Shows.takes (lawful : gcm.Lawful) {event : RadioEvent} {working : Working}
    {around : Int → UInt8} {packet : HciDataPacket} {program : Transport Program × Lists}
    (shows : Shows gcm handles upload flash network link)
    (taken : pending network.reported network.program =
      event :: pending network.reported program)
    (holds : packet.event = event.bytes)
    (running : network.program.1.app.device.running = none)
    (device : program.1.app.device = handleIf gcm network.program.1.app.device.cleared
      (handles.event ⟨working.hardware, around⟩ packet))
    (effects : program.1.app.effects =
      network.program.1.app.effects ++ program.1.app.device.effects) :
    ∃ after, Onward gcm false link after ∧
      Shows gcm handles upload flash { network with program := program } after := by
  obtain ⟨greeting, writes, farewell, stage⟩ := shows.stage
  have parts := stage.pending
  rw [taken] at parts
  cases stage.greeted with
  | waiting unconnected =>
      have alone := shows.alone unconnected
      rw [taken] at alone
      cases alone
  | told fields =>
      obtain ⟨rfl, later⟩ := List.cons_eq_cons.mp parts
      exact ⟨link, .inl ⟨rfl, rfl⟩,
        shows.takes_greeting stage taken later holds device effects⟩
  | knows connected same =>
      have linkRunning : link.device.running = none := by
        rw [← cleared_running, same, cleared_running, running]
      cases writes with
      | cons write rest =>
          obtain ⟨rfl, later⟩ := List.cons_eq_cons.mp parts
          have written := stage.written event List.mem_cons_self
          cases event with
          | attributeModified connHandle attrHandle offset data =>
              obtain ⟨move, after, moved, kept⟩ := shows.takes_write lawful stage taken later holds
                connected same linkRunning device effects
              exact ⟨after, .inr ⟨move, moved⟩, kept⟩
          | _ => cases written
      | nil =>
          cases stage.leaving with
          | told => cases parts
          | leaves fields =>
              obtain ⟨rfl, later⟩ := List.cons_eq_cons.mp parts
              obtain ⟨move, after, moved, kept⟩ := shows.takes_farewell stage taken later holds
                connected same linkRunning device effects
              exact ⟨after, .inr ⟨move, moved⟩, kept⟩

theorem Shows.runs (lawful : gcm.Lawful) {input : Input Surroundings}
    {program : Transport Program × Lists}
    (shows : Shows gcm handles upload flash network link)
    (reached : Reached gcm handles initialisation flash packets network.reported network.program)
    (after : Reached gcm handles initialisation flash packets network.reported program)
    (lost : network.program.1.events.lost = []) (still : program.1.events.lost = [])
    (works : ∀ elapsed surroundings, input = .main elapsed surroundings →
      ∃ (working : Working) (around : Int → UInt8), surroundings = ⟨working.hardware, around⟩)
    (done : listStep (updateFirmware gcm handles initialisation) network.program input =
      some program) :
    ∃ after, Onward gcm false link after ∧
      Shows gcm handles upload flash { network with program := program } after := by
  cases reached.program after lost still done with
  | keeps same device effects =>
      exact ⟨link, .inl ⟨rfl, rfl⟩, shows.keeps rfl rfl rfl rfl same device effects⟩
  | handles event elapsed surroundings packet run taken holds running device effects =>
      obtain ⟨working, around, rfl⟩ := works elapsed surroundings run
      exact shows.takes lawful taken holds running device effects

theorem Reached.notified (lawful : gcm.Lawful) {reported : List RadioEvent}
    {program : Transport Program × Lists}
    (reached : Reached gcm handles initialisation flash packets reported program) :
    notified initialisation program.1.calls.commands <+: responses program.1.app.effects ∧
      (program.1.control.remaining = [] →
        notified initialisation program.1.calls.commands = responses program.1.app.effects) := by
  obtain ⟨inputs, runs, -⟩ := reached.run
  have commands := run_answers lawful runs
  have values : ((responses program.1.app.effects).map handles.command).map (List.drop 10) =
      responses program.1.app.effects := by
    rw [List.map_map]
    exact List.map_id'' (fun bytes => rfl) _
  have whole : ((program.1.calls.commands.filter setsValue ++
      (program.1.control.remaining.map sendCmd).filter setsValue).drop
        ((initialisation.requests.map sendCmd).filter setsValue).length).map (List.drop 10) =
      responses program.1.app.effects := by
    rw [commands, List.drop_left, values]
  refine ⟨?_, fun sent => ?_⟩
  · rw [← whole]
    exact ((List.prefix_append _ _).drop _).map _
  · rw [sent, List.map_nil, List.filter_nil, List.append_nil] at whole
    exact whole

/-- Each turn of the network is a turn of the link, or one that the link does not know. -/
theorem Shows.moves (lawful : gcm.Lawful) (room : handles.rxCharHandle.toNat < 65535)
    (shows : Shows gcm handles upload flash network link)
    (reached : Reached gcm handles initialisation flash packets network.reported network.program)
    (lost : network.program.1.events.lost = []) (still : next.program.1.events.lost = [])
    {move : NetworkMove} (done : network.move gcm handles initialisation move = some next) :
    ∃ after, Onward gcm move.ofHost link after ∧ Shows gcm handles upload flash next after := by
  have after := (reached.move done).1
  cases move with
  | connects fields =>
      obtain ⟨⟨waits, -⟩, reported⟩ := Option.ite_none_right_eq_some.mp done
      obtain ⟨program, stepped, rfl⟩ := Network.report_eq_some reported
      exact ⟨link, .inl ⟨rfl, rfl⟩, shows.connects reached lost waits stepped⟩
  | hostResumes goOn =>
      obtain ⟨connected, resumes⟩ := Option.ite_none_right_eq_some.mp done
      obtain ⟨⟨host, messages⟩, resumed, rfl⟩ := Option.map_eq_some_iff.mp resumes
      obtain ⟨move, after, moved, kept⟩ := shows.resumes connected resumed
      exact ⟨after, .inr ⟨move, moved⟩, kept⟩
  | writes connHandle offset =>
      unfold Network.move at done
      cases air : network.air with
      | nil =>
          rw [air] at done
          cases done
      | cons msg rest =>
          rw [air] at done
          obtain ⟨short, reported⟩ := Option.ite_none_right_eq_some.mp done
          obtain ⟨program, stepped, rfl⟩ := Network.report_eq_some reported
          exact ⟨link, .inl ⟨rfl, rfl⟩, shows.writes reached lost room air short stepped⟩
  | reports event =>
      obtain ⟨program, stepped, rfl⟩ := Network.report_eq_some done
      obtain ⟨later, app, -⟩ := reached.report lost stepped
      refine ⟨link, .inl ⟨rfl, rfl⟩, shows.keeps rfl rfl rfl rfl ?_ ?_ ?_⟩
      · exact later.trans (List.append_nil _)
      · exact congrArg (fun app => app.device.cleared) app
      · exact congrArg Program.effects app
  | interrupt ready =>
      obtain ⟨program, stepped, rfl⟩ := Network.input_eq_some done
      exact shows.runs lawful reached after lost still (fun _ _ run => by cases run) stepped
  | main elapsed working around =>
      obtain ⟨program, stepped, rfl⟩ := Network.input_eq_some done
      refine shows.runs lawful reached after lost still (fun _ _ run => ?_) stepped
      cases run
      exact ⟨working, around, rfl⟩
  | hostReads =>
      obtain ⟨connected, reads⟩ := Option.ite_none_right_eq_some.mp done
      obtain ⟨data, found, rfl⟩ := Option.map_eq_some_iff.mp reads
      obtain ⟨later, whole⟩ := (reached.notified lawful).1
      have given : (responses network.program.1.app.effects)[network.heard]? = some data := by
        rw [← whole, List.getElem?_append_left (List.getElem?_eq_some_iff.mp found).1, found]
      obtain ⟨move, after, moved, kept⟩ := shows.reads connected given
      exact ⟨after, .inr ⟨move, moved⟩, kept⟩
  | disconnects fields =>
      obtain ⟨⟨connected, status, suspended, air, -⟩, reported⟩ :=
        Option.ite_none_right_eq_some.mp done
      obtain ⟨program, stepped, rfl⟩ := Network.report_eq_some reported
      exact ⟨link, .inl ⟨rfl, rfl⟩,
        shows.disconnects reached lost connected status suspended air stepped⟩

theorem reached_start :
    Reached gcm handles initialisation flash packets
      (Network.start gcm handles initialisation upload flash packets).reported
      (Network.start gcm handles initialisation upload flash packets).program :=
  ⟨⟨[], rfl, rfl⟩, by simp [Network.start]⟩

theorem shows_start :
    Shows gcm handles upload flash (.start gcm handles initialisation upload flash packets)
      (upload.link gcm flash) := by
  have none : pending [] (Transport.initial (updateFirmware gcm handles initialisation) packets
      (.initial flash), Lists.initial) = [] := rfl
  refine ⟨⟨[], rfl⟩, ⟨[], [], [], ?_⟩, fun _ => rfl, fun _ => none, rfl, Nat.zero_le _, rfl⟩
  exact ⟨none, .waiting rfl rfl rfl rfl, by simp, rfl, .told rfl⟩

theorem Holds.onward {left : Nat} {after : Link} {turn : Bool} (lawful : gcm.Lawful)
    (holds : Holds gcm upload flash left link) (onward : Onward gcm turn link after) :
    ∃ fewer, Holds gcm upload flash fewer after ∧ turn.toNat + fewer ≤ left := by
  rcases onward with ⟨rfl, rfl⟩ | ⟨move, moved⟩
  · exact ⟨left, holds, (Nat.zero_add left).le⟩
  · obtain ⟨fewer, below, kept⟩ := (countsDown lawful upload flash).keeps move holds moved
    refine ⟨fewer, kept, ?_⟩
    have one := Bool.toNat_le turn
    omega

/-- A run in which no event has been lost is shown by the link, which pays for the turns of the
host. -/
theorem shows_run (lawful : gcm.Lawful) (room : handles.rxCharHandle.toNat < 65535)
    {moves : List NetworkMove}
    (ran : runFrom (Network.move gcm handles initialisation)
      (.start gcm handles initialisation upload flash packets) moves = some network)
    (lost : network.program.1.events.lost = []) :
    Reached gcm handles initialisation flash packets network.reported network.program ∧
      ∃ link left, Shows gcm handles upload flash network link ∧
        Holds gcm upload flash left link ∧
        moves.countP NetworkMove.ofHost + left ≤ 4 * upload.chunks.length + 6 := by
  have keeps : ∀ (state : Network) (move : NetworkMove) (next : Network),
      Reached gcm handles initialisation flash packets state.reported state.program →
      state.move gcm handles initialisation move = some next →
      Reached gcm handles initialisation flash packets next.reported next.program ∧
        (next.program.1.events.lost = [] → state.program.1.events.lost = []) := by
    intro state move next reached done
    obtain ⟨after, more⟩ := reached.move done
    exact ⟨after, fun none => List.prefix_nil.mp (none ▸ more)⟩
  have goes : ∀ (earlier : List NetworkMove) (state : Network) (move : NetworkMove)
      (next : Network),
      Reached gcm handles initialisation flash packets state.reported state.program →
      state.program.1.events.lost = [] → next.program.1.events.lost = [] →
      (∃ link left, Shows gcm handles upload flash state link ∧
        Holds gcm upload flash left link ∧
        earlier.countP NetworkMove.ofHost + left ≤ 4 * upload.chunks.length + 6) →
      state.move gcm handles initialisation move = some next →
      ∃ link left, Shows gcm handles upload flash next link ∧ Holds gcm upload flash left link ∧
        (earlier ++ [move]).countP NetworkMove.ofHost + left ≤ 4 * upload.chunks.length + 6 := by
    rintro earlier state move next reached lost still ⟨link, left, shows, holds, bound⟩ done
    obtain ⟨after, onward, kept⟩ := shows.moves lawful room reached lost still done
    obtain ⟨fewer, holds, paid⟩ := holds.onward lawful onward
    refine ⟨after, fewer, kept, holds, ?_⟩
    rw [List.countP_append, List.countP_singleton]
    cases turn : move.ofHost with
    | true =>
        rw [turn, Bool.toNat_true] at paid
        simp only [if_true]
        omega
    | false =>
        rw [turn, Bool.toNat_false] at paid
        simp only [Bool.false_eq_true, if_false]
        omega
  refine ⟨?_, (@run_clean _ _ _ _ _ _ keeps goes _ network [] moves ran reached_start lost).2
    ⟨_, _, shows_start, .requesting, by simp⟩⟩
  exact run_invariant (fun state move next reached done => (keeps state move next reached done).1)
    ran reached_start

end Simulation

/-- The host has nothing to do, and nothing is on its way to the device, in it or from it. -/
structure Network.Settled (gcm : AesGcm) (initialisation : Initialisation) (network : Network) :
    Prop where
  begun : network.connection ≠ .waiting
  resumes : ∀ goOn, resume gcm goOn network.host = none
  ended : ¬ (network.host.connectionStatus = .closingPhase ∧ network.host.suspended = .toLoop)
  air : network.air = []
  waits : waiting network.program = []
  isr : network.program.1.isr = .idle
  offered : network.program.1.offered = []
  sent : network.program.1.control.remaining = []
  read : network.heard =
    (notified initialisation network.program.1.calls.commands).length

instance (gcm : AesGcm) (initialisation : Initialisation) (network : Network) :
    Decidable (network.Settled gcm initialisation) :=
  decidable_of_iff (network.connection ≠ .waiting ∧
      (∀ goOn, resume gcm goOn network.host = none) ∧
      ¬ (network.host.connectionStatus = .closingPhase ∧ network.host.suspended = .toLoop) ∧
      network.air = [] ∧ waiting network.program = [] ∧ network.program.1.isr = .idle ∧
      network.program.1.offered = [] ∧ network.program.1.control.remaining = [] ∧
      network.heard = (notified initialisation network.program.1.calls.commands).length)
    ⟨fun ⟨begun, resumes, ended, air, waits, isr, offered, sent, read⟩ =>
        ⟨begun, resumes, ended, air, waits, isr, offered, sent, read⟩,
      fun ⟨begun, resumes, ended, air, waits, isr, offered, sent, read⟩ =>
        ⟨begun, resumes, ended, air, waits, isr, offered, sent, read⟩⟩

section Whole

variable {gcm : AesGcm} {handles : Handles} {initialisation : Initialisation} {upload : Upload}
  {flash : UInt32 → UInt64} {packets : PacketIndex → HciDataPacket} {network : Network}
  {link : Link}

theorem Shows.arrived (shows : Shows gcm handles upload flash network link)
    (reached : Reached gcm handles initialisation flash packets network.reported network.program)
    (lost : network.program.1.events.lost = []) (begun : network.connection ≠ .waiting)
    (waits : waiting network.program = []) (isr : network.program.1.isr = .idle)
    (offered : network.program.1.offered = []) :
    network.host = link.host ∧ link.toDevice = network.air ∧
      link.device.cleared = network.program.1.app.device.cleared := by
  obtain ⟨greeting, writes, farewell, stage⟩ := shows.stage
  have parts := (reached.handed lost).2 waits isr offered
  obtain ⟨rfl, rfl, rfl⟩ : greeting = [] ∧ writes = [] ∧ farewell = [] := by
    simpa [stage.pending] using parts
  refine ⟨?_, stage.toDevice, ?_⟩
  · cases stage.leaving with
    | told same => exact same
  · cases stage.greeted with
    | waiting unconnected => exact absurd unconnected begun
    | knows connected known => exact known

theorem Shows.stuck (lawful : gcm.Lawful)
    (shows : Shows gcm handles upload flash network link)
    (reached : Reached gcm handles initialisation flash packets network.reported network.program)
    (lost : network.program.1.events.lost = []) (settled : network.Settled gcm initialisation) :
    Stuck (Link.move gcm) link ∧ network.host = link.host ∧
      link.device.cleared = network.program.1.app.device.cleared := by
  obtain ⟨same, toDevice, device⟩ := shows.arrived reached lost settled.begun settled.waits
    settled.isr settled.offered
  have toHost : link.toHost = [] := by
    rw [shows.toHost, ← (reached.notified lawful).2 settled.sent, settled.read,
      List.drop_length]
  refine ⟨fun move => ?_, same, device⟩
  cases move with
  | hostResumes goOn =>
      rw [Link.move, ← same, settled.resumes goOn]
      rfl
  | deviceReceives working => exact no_deviceReceives (toDevice.trans settled.air)
  | hostReads => exact no_hostReads toHost
  | disconnects working =>
      refine if_neg fun possible => settled.ended ?_
      rw [same]
      exact ⟨possible.1, possible.2.1⟩

theorem Holds.transferred_of_stuck {left : Nat} (lawful : gcm.Lawful)
    (holds : Holds gcm upload flash left link) (stuck : Stuck (Link.move gcm) link) :
    Transferred gcm upload link := by
  have spent := (countsDown lawful upload flash).stuck holds
    (rfl : runMoves (Link.move gcm) link [] = some link) stuck
  cases spent with
  | done state => exact state

end Whole

def singleChunkStart : Network :=
  .start .sample sampleHandles sampleInitialisation singleChunk (fun _ => 0) blankPackets

/-- The interrupt takes what has arrived, and the main program handles it. -/
def serves : List NetworkMove :=
  List.replicate 7 (.interrupt true) ++
    List.replicate 24 (.main true .default fun _ => 0)

def singleChunkTurns : List NetworkMove :=
  .connects [0x00] :: serves ++ [.hostResumes true, .writes 0x0801 0] ++ serves ++
    [.hostReads, .hostResumes true, .hostResumes true, .writes 0x0801 0] ++ serves ++
    [.hostReads, .hostResumes true, .hostResumes true, .disconnects []] ++ serves

/-- However the others take their turns in between, the host takes no more of its own than there
are to take on the link. -/
theorem host_turns_bounded (gcm : AesGcm) (lawful : gcm.Lawful) (handles : Handles)
    (room : handles.rxCharHandle.toNat < 65535) (initialisation : Initialisation) (upload : Upload)
    (flash : UInt32 → UInt64) (packets : PacketIndex → HciDataPacket) (moves : List NetworkMove)
    (network : Network)
    (ran : runFrom (Network.move gcm handles initialisation)
      (.start gcm handles initialisation upload flash packets) moves = some network)
    (lost : network.program.1.events.lost = []) :
    moves.countP NetworkMove.ofHost ≤ 4 * upload.chunks.length + 6 := by
  obtain ⟨-, link, left, -, -, bound⟩ := shows_run lawful room ran lost
  omega

theorem host_turns_bounded_single_chunk :
    singleChunkTurns.countP NetworkMove.ofHost ≤ 4 * singleChunk.chunks.length + 6 := by
  have possible : ∃ network ∈ runFrom (Network.move .sample sampleHandles sampleInitialisation)
      singleChunkStart singleChunkTurns, network.program.1.events.lost = [] := by
    decide +kernel
  obtain ⟨network, ran, lost⟩ := possible
  exact host_turns_bounded .sample (AesGcm.lawful_ofTables _ _) sampleHandles (by decide)
    sampleInitialisation singleChunk (fun _ => 0) blankPackets singleChunkTurns network ran lost

end BleFwUpdate
