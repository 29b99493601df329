import BleFwUpdate.OverTheAir
import BleFwUpdate.Serving

/-! Wherever an upload has got to, as long as no event has been lost it can still be completed. -/

namespace BleFwUpdate

open Faults Countdown

section Ends

variable {gcm : AesGcm} {upload : Upload} {flash : UInt32 → UInt64} {left : Nat}
  {link after : Link}

theorem Waits.not_idle {mode : Mode} {sent : Nat} {host : Host} (waits : Waits mode sent host) :
    host.connectionStatus ≠ .idle := by
  rcases waits.place with ⟨-, status, -⟩ | ⟨-, status⟩
  · rw [status]
    cases mode <;> simp [Mode.initPhase]
  · rw [status]
    cases mode <;> simp [Mode.sendingPhase]

theorem Holds.transferred_of_idle (holds : Holds gcm upload flash left link)
    (idle : link.host.connectionStatus = .idle) : Transferred gcm upload link := by
  have requests := (upload.requests_link gcm flash).connectionStatus
  have sending : ∀ mode : Mode, mode.sendingPhase ≠ .idle := fun mode => by cases mode <;> decide
  have initial : ∀ mode : Mode, mode.initPhase ≠ .idle := fun mode => by cases mode <;> decide
  cases holds with
  | requesting => exact absurd (requests.symm.trans idle) (initial upload.mode)
  | requested => exact absurd (requests.symm.trans idle) (initial upload.mode)
  | answered state => exact absurd idle state.waits.not_idle
  | read state => exact absurd idle state.waits.not_idle
  | sending state => exact absurd (state.status.symm.trans idle) (sending upload.mode)
  | closed state => exact absurd (state.status.symm.trans idle) (sending upload.mode)
  | closing state => cases state.status.symm.trans idle
  | done state => exact state

end Ends

section Network

variable {gcm : AesGcm} {handles : Handles} {initialisation : Initialisation} {upload : Upload}
  {flash : UInt32 → UInt64} {packets : PacketIndex → HciDataPacket} {network next : Network}
  {link : Link}

theorem Shows.knows (shows : Shows gcm handles upload flash network link)
    (running : network.program.1.app.device.running ≠ none) :
    link.device.cleared = network.program.1.app.device.cleared := by
  have booted (same : network.program.1.app.device.cleared = (powerOn flash).cleared) :
      network.program.1.app.device.running = none := by
    rw [← cleared_running, same]
    rfl
  obtain ⟨greeting, writes, farewell, stage⟩ := shows.stage
  cases stage.greeted with
  | waiting unconnected same => exact absurd (booted same) running
  | told fields connected same => exact absurd (booted same) running
  | knows connected known => exact known

theorem Network.move_ended {move : NetworkMove}
    (ended : network.connection = .gone → network.host.connectionStatus = .idle)
    (done : network.move gcm handles initialisation move = some next) :
    next.connection = .gone → next.host.connectionStatus = .idle := by
  have reports : ∀ {before : Network} {event : RadioEvent},
      before.report gcm handles initialisation event = some next →
      next.connection = before.connection ∧ next.host = before.host := by
    intro before event reported
    obtain ⟨program, -, rfl⟩ := Network.report_eq_some reported
    exact ⟨rfl, rfl⟩
  cases move with
  | connects fields =>
      obtain ⟨-, reported⟩ := Option.ite_none_right_eq_some.mp done
      obtain ⟨connection, -⟩ := reports reported
      rw [connection]
      intro gone
      cases gone
  | hostResumes goOn =>
      obtain ⟨connected, resumes⟩ := Option.ite_none_right_eq_some.mp done
      obtain ⟨resumed, -, rfl⟩ := Option.map_eq_some_iff.mp resumes
      exact fun gone => by cases connected.symm.trans gone
  | writes connHandle offset =>
      unfold Network.move at done
      cases air : network.air with
      | nil =>
          rw [air] at done
          cases done
      | cons msg rest =>
          rw [air] at done
          obtain ⟨-, reported⟩ := Option.ite_none_right_eq_some.mp done
          obtain ⟨connection, host⟩ := reports reported
          rw [connection, host]
          exact ended
  | reports event =>
      obtain ⟨connection, host⟩ := reports done
      rw [connection, host]
      exact ended
  | interrupt ready =>
      obtain ⟨program, -, rfl⟩ := Network.input_eq_some done
      exact ended
  | main elapsed working around =>
      obtain ⟨program, -, rfl⟩ := Network.input_eq_some done
      exact ended
  | hostReads =>
      obtain ⟨connected, reads⟩ := Option.ite_none_right_eq_some.mp done
      obtain ⟨data, -, rfl⟩ := Option.map_eq_some_iff.mp reads
      exact fun gone => by cases connected.symm.trans gone
  | disconnects fields =>
      obtain ⟨-, reported⟩ := Option.ite_none_right_eq_some.mp done
      obtain ⟨-, host⟩ := reports reported
      rw [host]
      exact fun _ => rfl

theorem Reached.serving
    (reached : Reached gcm handles initialisation flash packets network.reported network.program)
    (flowing : ¬ Stalled network.program) (few : outstanding network.program ≤ 2)
    (serves : network.program.1.control.serves = true) : Serving network.program := by
  obtain ⟨inputs, runs, arrived⟩ := reached.run
  refine run_serving runs (fun event member => ?_) flowing few serves
  rw [arrived] at member
  obtain ⟨source, listed, rfl⟩ := List.mem_map.mp member
  exact (reached.valid source listed).length_le

/-- The upload goes on: the program can serve it, and the link shows what is left to do. -/
structure Going (gcm : AesGcm) (handles : Handles) (initialisation : Initialisation)
    (upload : Upload) (flash : UInt32 → UInt64) (packets : PacketIndex → HciDataPacket)
    (network : Network) (link : Link) (left : Nat) : Prop where
  reached : Reached gcm handles initialisation flash packets network.reported network.program
  lost : network.program.1.events.lost = []
  serving : Serving network.program
  shows : Shows gcm handles upload flash network link
  holds : Holds gcm upload flash left link
  ended : network.connection = .gone → network.host.connectionStatus = .idle

/-- The device has left its own program, and no event has been lost. -/
def Network.Finished (network : Network) : Prop :=
  network.program.1.events.lost = [] ∧ network.program.1.app.device.running ≠ none

def Connection.left : Connection → Nat
  | .waiting => 2
  | .connected => 1
  | .gone => 0

/-- What is left to do: on the link, then for the radio, then for the program. -/
def Network.left (gcm : AesGcm) (handles : Handles) (initialisation : Initialisation)
    (network : Network) (left : Nat) : Nat × Nat × Nat × Nat × Nat × Nat × Nat :=
  (left, network.connection.left, network.air.length,
    workLeft (updateFirmware gcm handles initialisation) network.program)

def LessLeft :
    Nat × Nat × Nat × Nat × Nat × Nat × Nat → Nat × Nat × Nat × Nat × Nat × Nat × Nat → Prop :=
  Prod.Lex (· < ·) (Prod.Lex (· < ·) (Prod.Lex (· < ·) LessWork))

/-- A move that brings the upload nearer to its end. -/
def GoesOnTo (gcm : AesGcm) (handles : Handles) (initialisation : Initialisation)
    (upload : Upload) (flash : UInt32 → UInt64) (packets : PacketIndex → HciDataPacket)
    (network : Network) (left : Nat) : Prop :=
  ∃ move next after fewer, network.move gcm handles initialisation move = some next ∧
    (next.Finished ∨
      Going gcm handles initialisation upload flash packets next after fewer) ∧
    LessLeft (next.left gcm handles initialisation fewer)
      (network.left gcm handles initialisation left)

theorem Going.moves {left : Nat} (lawful : gcm.Lawful) (room : handles.rxCharHandle.toNat < 65535)
    (going : Going gcm handles initialisation upload flash packets network link left)
    {move : NetworkMove} (moved : network.move gcm handles initialisation move = some next)
    (lost : next.program.1.events.lost = []) (serving : Serving next.program) :
    ∃ after, ∃ fewer ≤ left,
      Going gcm handles initialisation upload flash packets next after fewer := by
  obtain ⟨after, onward, shows⟩ := going.shows.moves lawful room going.reached going.lost lost moved
  obtain ⟨fewer, holds, paid⟩ := going.holds.onward lawful onward
  exact ⟨after, fewer, Nat.le_trans (Nat.le_add_left _ _) paid, (going.reached.move moved).1,
    lost, serving, shows, holds, Network.move_ended going.ended moved⟩

theorem Going.works {left : Nat} (lawful : gcm.Lawful) (room : handles.rxCharHandle.toNat < 65535)
    (going : Going gcm handles initialisation upload flash packets network link left)
    (busy : ¬ Rested network.program) :
    GoesOnTo gcm handles initialisation upload flash packets network left := by
  obtain ⟨input, program, chosen, done, after, same, less⟩ :=
    @Serving.goes _ _ (updateFirmware gcm handles initialisation) network.program going.serving busy
      ⟨Working.default.hardware, fun _ => 0⟩
  have lost : program.1.events.lost = [] := same.trans going.lost
  obtain ⟨move, moved⟩ : ∃ move, network.move gcm handles initialisation move =
      some { network with program := program } := by
    rcases chosen with rfl | rfl
    · exact ⟨.interrupt true, by rw [Network.move, Network.input, done]; rfl⟩
    · exact ⟨.main true .default fun _ => 0, by rw [Network.move, Network.input, done]; rfl⟩
  have lower {fewer : Nat} (le : fewer ≤ left) :
      LessLeft (Network.left gcm handles initialisation { network with program := program } fewer)
        (network.left gcm handles initialisation left) :=
    lex_of_le le (.right _ (.right _ less))
  rcases after with serving | gone
  · obtain ⟨next, fewer, le, goes⟩ := going.moves lawful room moved lost serving
    exact ⟨move, _, next, fewer, moved, .inr goes, lower le⟩
  · exact ⟨move, _, link, left, moved, .inl ⟨lost, Option.isSome_iff_ne_none.mp gone⟩,
      lower (Nat.le_refl left)⟩

theorem Going.told {left : Nat} (lawful : gcm.Lawful) (room : handles.rxCharHandle.toNat < 65535)
    (going : Going gcm handles initialisation upload flash packets network link left)
    (rested : Rested network.program) {event : RadioEvent} {move : NetworkMove} {before : Network}
    (moves : network.move gcm handles initialisation move =
      before.report gcm handles initialisation event)
    (program : before.program = network.program) (valid : event.Valid) :
    ∃ next after, ∃ fewer ≤ left, network.move gcm handles initialisation move = some next ∧
      Going gcm handles initialisation upload flash packets next after fewer ∧
      next.connection = before.connection ∧ next.air = before.air := by
  have short : (hciEventPkt :: event.bytes.tail).length ≤ hciReadPacketSize := by
    rw [event.cons_tail_bytes]
    exact valid.length_le
  obtain ⟨told, done, moved⟩ : ∃ told,
      listStep (updateFirmware gcm handles initialisation) network.program event.arrive =
        some told ∧
      network.move gcm handles initialisation move =
        some { before with reported := before.reported ++ [event], program := told } := by
    rw [moves, ← program]
    exact ⟨_, rfl, rfl⟩
  obtain ⟨serving, events⟩ := going.serving.arrive rested short done
  obtain ⟨after, fewer, le, goes⟩ := going.moves lawful room moved
    (by rw [events, going.lost]) serving
  exact ⟨_, after, fewer, le, moved, goes, rfl, rfl⟩

theorem Going.host {left : Nat} (lawful : gcm.Lawful)
    (going : Going gcm handles initialisation upload flash packets network link left)
    {move : NetworkMove} (moved : network.move gcm handles initialisation move = some next)
    (program : next.program = network.program) {turn : Move} {after : Link}
    (turned : link.move gcm turn = some after)
    (shows : Shows gcm handles upload flash next after) :
    GoesOnTo gcm handles initialisation upload flash packets network left := by
  obtain ⟨fewer, below, holds⟩ := (countsDown lawful upload flash).keeps turn going.holds turned
  exact ⟨move, next, after, fewer, moved, .inr ⟨(going.reached.move moved).1,
    by rw [program, going.lost], program ▸ going.serving, shows, holds,
    Network.move_ended going.ended moved⟩, .left _ _ below⟩

theorem Going.finished {left : Nat}
    (going : Going gcm handles initialisation upload flash packets network link left)
    (done : Transferred gcm upload link)
    (device : link.device.cleared = network.program.1.app.device.cleared) : network.Finished := by
  refine ⟨going.lost, ?_⟩
  rw [← cleared_running, ← device, cleared_running, done.running]
  exact Option.some_ne_none _

/-! The turns of the host and of the radio while the program rests. -/

theorem Going.resumes {left : Nat} (lawful : gcm.Lawful)
    (going : Going gcm handles initialisation upload flash packets network link left)
    (connected : network.connection = .connected) {goOn : Bool}
    {resumed : Host × List (List UInt8)} (resumes : resume gcm goOn network.host = some resumed) :
    GoesOnTo gcm handles initialisation upload flash packets network left := by
  obtain ⟨host, messages⟩ := resumed
  have moved : network.move gcm handles initialisation (.hostResumes goOn) =
      some { network with host := host, air := network.air ++ messages } := by
    rw [Network.move, if_pos connected, resumes]
    rfl
  obtain ⟨turn, after, turned, shows⟩ := going.shows.resumes connected resumes
  exact going.host lawful moved rfl turned shows

theorem Going.reads {left : Nat} (lawful : gcm.Lawful)
    (going : Going gcm handles initialisation upload flash packets network link left)
    (rested : Rested network.program) (connected : network.connection = .connected)
    (unread : network.heard <
      (notified initialisation network.program.1.calls.commands).length) :
    GoesOnTo gcm handles initialisation upload flash packets network left := by
  obtain ⟨data, found⟩ : ∃ data,
      (notified initialisation network.program.1.calls.commands)[network.heard]? = some data :=
    ⟨_, List.getElem?_eq_getElem unread⟩
  have moved : network.move gcm handles initialisation .hostReads = some { network with
      host := readResponse gcm data network.host, heard := network.heard + 1 } := by
    rw [Network.move, if_pos connected, found]
    rfl
  rw [(going.reached.notified lawful).2 rested.sent] at found
  obtain ⟨turn, after, turned, shows⟩ := going.shows.reads connected found
  exact going.host lawful moved rfl turned shows

theorem Going.connects {left : Nat} (lawful : gcm.Lawful)
    (room : handles.rxCharHandle.toNat < 65535)
    (going : Going gcm handles initialisation upload flash packets network link left)
    (rested : Rested network.program) (waiting : network.connection = .waiting) :
    GoesOnTo gcm handles initialisation upload flash packets network left := by
  have moves : network.move gcm handles initialisation (.connects []) =
      { network with connection := .connected }.report gcm handles initialisation
        (.connectionComplete []) :=
    if_pos ⟨waiting, Nat.zero_le _⟩
  obtain ⟨next, after, fewer, le, moved, goes, connected, -⟩ :=
    going.told lawful room rested moves rfl (Nat.zero_le _)
  refine ⟨_, next, after, fewer, moved, .inr goes, lex_of_le le (.left _ _ ?_)⟩
  rw [connected, waiting]
  exact Nat.one_lt_two

theorem Going.writes {left : Nat} (lawful : gcm.Lawful) (room : handles.rxCharHandle.toNat < 65535)
    (going : Going gcm handles initialisation upload flash packets network link left)
    (rested : Rested network.program) (begun : network.connection ≠ .waiting) {msg : List UInt8}
    {rest : List (List UInt8)} (air : network.air = msg :: rest) :
    GoesOnTo gcm handles initialisation upload flash packets network left := by
  obtain ⟨-, toDevice, -⟩ := going.shows.arrived going.reached going.lost begun rested.waits
    rested.isr rested.offered
  have member : msg ∈ link.toDevice := by simp [toDevice, air]
  obtain ⟨short, -⟩ := going.holds.longEnough lawful member
  have moves : network.move gcm handles initialisation (.writes 0 0) =
      { network with air := rest }.report gcm handles initialisation
        (.attributeModified 0 (handles.rxCharHandle + 1) 0 msg) := by
    rw [Network.move, air]
    exact if_pos short
  obtain ⟨next, after, fewer, le, moved, goes, connection, fewerMsgs⟩ :=
    going.told lawful room rested moves rfl short
  refine ⟨_, next, after, fewer, moved, .inr goes, lex_of_le le ?_⟩
  rw [connection, fewerMsgs, air]
  exact .right _ (.left _ _ (Nat.lt_succ_self rest.length))

theorem Going.disconnects {left : Nat} (lawful : gcm.Lawful)
    (room : handles.rxCharHandle.toNat < 65535)
    (going : Going gcm handles initialisation upload flash packets network link left)
    (rested : Rested network.program) (connected : network.connection = .connected)
    (air : network.air = [])
    (closing : network.host.connectionStatus = .closingPhase ∧
      network.host.suspended = .toLoop) :
    GoesOnTo gcm handles initialisation upload flash packets network left := by
  have moves : network.move gcm handles initialisation (.disconnects []) =
      { network with host := endUpload network.host, connection := .gone }.report gcm handles
        initialisation (.disconnectionComplete []) :=
    if_pos ⟨connected, closing.1, closing.2, air, Nat.zero_le _⟩
  obtain ⟨next, after, fewer, le, moved, goes, connection, -⟩ :=
    going.told lawful room rested moves rfl (Nat.zero_le _)
  refine ⟨_, next, after, fewer, moved, .inr goes, lex_of_le le (.left _ _ ?_)⟩
  rw [connection, connected]
  exact Nat.zero_lt_one

theorem Going.connected {left : Nat} (lawful : gcm.Lawful)
    (room : handles.rxCharHandle.toNat < 65535)
    (going : Going gcm handles initialisation upload flash packets network link left)
    (rested : Rested network.program) (connected : network.connection = .connected) :
    network.Finished ∨
      GoesOnTo gcm handles initialisation upload flash packets network left := by
  have begun : network.connection ≠ .waiting := by simp [connected]
  by_cases resumes : ∃ goOn resumed, resume gcm goOn network.host = some resumed
  · obtain ⟨goOn, resumed, resumes⟩ := resumes
    exact .inr (going.resumes lawful connected resumes)
  by_cases unread : network.heard <
      (notified initialisation network.program.1.calls.commands).length
  · exact .inr (going.reads lawful rested connected unread)
  cases air : network.air with
  | cons msg rest => exact .inr (going.writes lawful room rested begun air)
  | nil =>
      by_cases closing : network.host.connectionStatus = .closingPhase ∧
          network.host.suspended = .toLoop
      · exact .inr (going.disconnects lawful room rested connected air closing)
      have heard := going.shows.heard
      have sent := (going.reached.notified lawful).2 rested.sent
      -- Nobody can take a turn, so the upload has come to its end.
      have settled : network.Settled gcm initialisation := {
        begun := begun
        resumes := fun goOn => Option.eq_none_iff_forall_ne_some.mpr fun resumed found =>
          resumes ⟨goOn, resumed, found⟩
        ended := closing
        air := air
        waits := rested.waits
        isr := rested.isr
        offered := rested.offered
        sent := rested.sent
        read := Nat.le_antisymm (by rw [sent]; exact heard) (Nat.not_lt.mp unread) }
      obtain ⟨stuck, -, device⟩ := going.shows.stuck lawful going.reached going.lost settled
      exact .inl (going.finished (going.holds.transferred_of_stuck lawful stuck) device)

theorem Going.goes {left : Nat} (lawful : gcm.Lawful) (room : handles.rxCharHandle.toNat < 65535)
    (going : Going gcm handles initialisation upload flash packets network link left) :
    network.Finished ∨
      GoesOnTo gcm handles initialisation upload flash packets network left := by
  by_cases rested : Rested network.program
  · cases connection : network.connection with
    | waiting => exact .inr (going.connects lawful room rested connection)
    | connected => exact going.connected lawful room rested connection
    | gone =>
        obtain ⟨host, -, device⟩ := going.shows.arrived going.reached going.lost
          (by simp [connection]) rested.waits rested.isr rested.offered
        exact .inl (going.finished
          (going.holds.transferred_of_idle (host ▸ going.ended connection)) device)
  · exact .inr (going.works lawful room rested)

end Network

end BleFwUpdate
