import BleFwUpdate.Transfer

/-! An upload comes to its end: the moves that are left, and what holds when none is. -/

namespace BleFwUpdate

open Transitions LittleEndian Countdown

/-- Everything an upload is to bring about: all answers were ACKs, exactly the padded image has
been programmed and stands in the flash, with zero bytes up to the next double word, and the
disconnection has found the upload complete and has jumped to the slot. Both sides are done. -/
structure Transferred (gcm : AesGcm) (upload : Upload) (link : Link) : Prop where
  acks : ∀ entry ∈ link.log, ∀ bytes ∈ responses (step gcm entry.1 entry.2).effects,
    bytes.head? = some ackCmd
  programmed : programmed gcm link.log =
    programsOf upload.base (paddedImage upload.mode upload.image)
  stored : ∀ index < 8 * wordCount (paddedImage upload.mode upload.image),
    byteOf (link.device.flash (upload.base + 8 * UInt32.ofNat (index / 8))) (index % 8) =
      (paddedImage upload.mode upload.image).getD index 0
  ended : ∃ front last hardware, link.log = front ++ [(last, .disconnect hardware)] ∧
    last.connectionStatus = .closingConnection ∧ last.countPck = last.totalPck ∧
    last.totalPck.toNat = upload.chunks.length
  jumped : link.device.effects = [.go2App upload.app]
  running : link.device.running = some upload.app
  hostSuspended : link.host.suspended = .toLoop
  hostStatus : link.host.connectionStatus = .idle
  delivered : link.toDevice = []
  silent : link.toHost = []

/-- The host waits for the answer to its START, or to the window that it has sent last. -/
structure Waits (mode : Mode) (sent : Nat) (host : Host) : Prop where
  cont : host.contChunck = sent
  place : (host.suspended = .startSent ∧ host.connectionStatus = mode.initPhase ∧ sent = 0) ∨
    (host.suspended = .windowSent ∧ host.connectionStatus = mode.sendingPhase)

section States

variable (gcm : AesGcm) (upload : Upload)

structure Answered (sent : Nat) (link : Link) : Prop extends Session gcm upload sent sent link where
  waits : Waits upload.mode sent link.host
  unread : link.host.ackRcv = false
  raw : upload.mode = .raw → link.host.randIv = link.device.randIv.toList
  answer : ∃ bytes, link.toHost = [bytes] ∧
    ReadsAck gcm upload.mode bytes link.device.iv link.device.randIv

structure Read (sent : Nat) (link : Link) : Prop extends Session gcm upload sent sent link where
  waits : Waits upload.mode sent link.host
  ackRcv : link.host.ackRcv = true
  isAck : link.host.isAck = true
  rand : link.host.randIv = link.device.randIv.toList
  silent : link.toHost = []

/-- Within a window: the host sends on, while the device takes what has arrived. -/
structure Sending (sent taken : Nat) (link : Link) : Prop
    extends Session gcm upload sent taken link where
  suspended : link.host.suspended = .toLoop
  status : link.host.connectionStatus = upload.mode.sendingPhase
  cont : link.host.contChunck = sent
  unread : link.host.ackRcv = false
  rand : link.host.randIv = link.device.randIv.toList
  silent : link.toHost = []
  within : ∀ number, taken < number → number ≤ sent → ¬ upload.Ends number

/-- The host has sent a window, and the device has not taken all of it yet. -/
structure Closed (sent taken : Nat) (link : Link) : Prop
    extends Session gcm upload sent taken link where
  suspended : link.host.suspended = .windowSent
  status : link.host.connectionStatus = upload.mode.sendingPhase
  cont : link.host.contChunck = sent
  unread : link.host.ackRcv = false
  rand : link.host.randIv = link.device.randIv.toList
  silent : link.toHost = []
  behind : taken < sent
  ends : upload.Ends sent
  within : ∀ number, taken < number → number < sent → ¬ upload.Ends number

structure Closing (link : Link) : Prop
    extends Session gcm upload upload.chunks.length upload.chunks.length link where
  suspended : link.host.suspended = .toLoop
  status : link.host.connectionStatus = .closingPhase
  silent : link.toHost = []

/-- The states of an upload on its way, with the most moves that can be left. -/
inductive Holds (flash : UInt32 → UInt64) : Nat → Link → Prop
  | requesting : Holds flash (4 * upload.chunks.length + 6) (upload.link gcm flash)
  | requested : Holds flash (4 * upload.chunks.length + 5) (upload.requested gcm flash)
  | answered {sent : Nat} {link : Link} (state : Answered gcm upload sent link) :
      Holds flash (4 * (upload.chunks.length - sent) + 4) link
  | read {sent : Nat} {link : Link} (state : Read gcm upload sent link) :
      Holds flash (4 * (upload.chunks.length - sent) + 3) link
  | sending {sent taken : Nat} {link : Link} (state : Sending gcm upload sent taken link) :
      Holds flash (4 * (upload.chunks.length - sent) + 3 * (sent - taken) + 2) link
  | closed {sent taken : Nat} {link : Link} (state : Closed gcm upload sent taken link) :
      Holds flash (4 * (upload.chunks.length - sent) + 3 * (sent - taken) + 2) link
  | closing {link : Link} (state : Closing gcm upload link) : Holds flash 1 link
  | done {link : Link} (state : Transferred gcm upload link) : Holds flash 0 link

end States

/-! What cannot happen next. -/

section Moves

variable {gcm : AesGcm} {link after : Link}

theorem no_deviceReceives {working : Working} (toDevice : link.toDevice = []) :
    link.move gcm (.deviceReceives working) = none := by
  simp [Link.move, toDevice]

theorem no_hostReads (toHost : link.toHost = []) : link.move gcm .hostReads = none := by
  simp [Link.move, toHost]

theorem no_disconnects {working : Working} (open' : link.host.connectionStatus ≠ .closingPhase) :
    link.move gcm (.disconnects working) = none := by
  simp [Link.move, open']

theorem hostResumes_of {goOn : Bool} {host : Host} {messages : List (List UInt8)}
    (resumes : resume gcm goOn link.host = some (host, messages)) :
    link.move gcm (.hostResumes goOn) =
      some { link with host := host, toDevice := link.toDevice ++ messages } := by
  rw [Link.move, resumes]
  rfl

theorem hostReads_of {bytes : List UInt8} (toHost : link.toHost = [bytes]) :
    link.move gcm .hostReads =
      some { link with host := readResponse gcm bytes link.host, toHost := [] } := by
  rw [Link.move, toHost]

theorem no_hostResumes {goOn : Bool} (waits : resume gcm goOn link.host = none) :
    link.move gcm (.hostResumes goOn) = none := by
  simp [Link.move, waits]

theorem Waits.blocked {mode : Mode} {sent : Nat} {host : Host} (waits : Waits mode sent host)
    (gcm : AesGcm) (goOn : Bool) (unread : host.ackRcv = false)
    (intact : host.msgTampered = false) :
    resume gcm goOn host = none := by
  rcases waits.place with ⟨suspended, status, _⟩ | ⟨suspended, status⟩ <;> cases mode <;>
    simp only [Mode.initPhase, Mode.sendingPhase] at status <;>
    simp [resume, suspended, status, unread, intact]

theorem Waits.not_closing {mode : Mode} {sent : Nat} {host : Host} (waits : Waits mode sent host) :
    host.connectionStatus ≠ .closingPhase := by
  rcases waits.place with ⟨_, status, _⟩ | ⟨_, status⟩ <;> rw [status] <;> cases mode <;>
    simp [Mode.initPhase, Mode.sendingPhase]

theorem Waits.goesOn {mode : Mode} {sent : Nat} {host : Host} (waits : Waits mode sent host)
    (gcm : AesGcm) (goOn : Bool) (ackRcv : host.ackRcv = true) (isAck : host.isAck = true)
    (intact : host.msgTampered = false) :
    ∃ nackLoop, resume gcm goOn host = some ({ host with
      ackRcv := false, suspended := .toLoop, contChunck := sent, nackLoop := nackLoop
      connectionStatus := mode.sendingPhase }, []) := by
  rcases waits.place with ⟨suspended, status, rfl⟩ | ⟨suspended, status⟩
  · refine ⟨host.nackLoop, ?_⟩
    rw [resume_admission gcm goOn suspended status ackRcv]
    simp [readAdmission, isAck]
  · refine ⟨0, ?_⟩
    have cont := waits.cont
    cases mode <;> simp only [Mode.sendingPhase] at status ⊢ <;>
      simp [resume, suspended, status, ackRcv, isAck, intact, readVerdict, cont]

end Moves

/-! What each of the states can turn into. -/

section Keeps

variable {gcm : AesGcm} {upload : Upload} {sent taken : Nat} {link after : Link} {next : Move}

theorem Session.nothing_sent (session : Session gcm upload sent sent link) :
    link.toDevice = [] := by
  rw [session.queue, Upload.flying, Nat.sub_self, List.take_zero]
  rfl

theorem Answered.keeps (answered : Answered gcm upload sent link)
    (moved : link.move gcm next = some after) : Read gcm upload sent after := by
  obtain ⟨bytes, toHost, reads⟩ := answered.answer
  cases next with
  | hostResumes goOn =>
      rw [no_hostResumes (answered.waits.blocked gcm goOn answered.unread answered.intact)] at moved
      contradiction
  | deviceReceives working =>
      rw [no_deviceReceives answered.nothing_sent] at moved
      contradiction
  | disconnects working =>
      rw [no_disconnects answered.waits.not_closing] at moved
      contradiction
  | hostReads =>
      have sameIv : link.host.iv = link.device.iv := by
        rw [answered.iv, Nat.sub_self]
        rfl
      have read := reads.2 link.host answered.security answered.intact sameIv answered.raw
      rw [hostReads_of toHost, read] at moved
      obtain rfl := Option.some.inj moved
      exact {
        answered.toSession with
        waits := ⟨answered.waits.cont, answered.waits.place⟩
        ackRcv := rfl
        isAck := rfl
        rand := rfl
        silent := rfl }

theorem Read.keeps (read : Read gcm upload sent link) (moved : link.move gcm next = some after) :
    Sending gcm upload sent sent after := by
  cases next with
  | deviceReceives working =>
      rw [no_deviceReceives read.nothing_sent] at moved
      contradiction
  | hostReads =>
      rw [no_hostReads read.silent] at moved
      contradiction
  | disconnects working =>
      rw [no_disconnects read.waits.not_closing] at moved
      contradiction
  | hostResumes goOn =>
      obtain ⟨nackLoop, goesOn⟩ := read.waits.goesOn gcm goOn read.ackRcv read.isAck read.intact
      rw [hostResumes_of goesOn] at moved
      obtain rfl := Option.some.inj moved
      exact {
        read.toSession with
        queue := by rw [List.append_nil]; exact read.queue
        suspended := rfl
        status := rfl
        cont := rfl
        unread := rfl
        rand := read.rand
        silent := read.silent
        within := fun number above upTo => by omega }

theorem Closed.waits (closed : Closed gcm upload sent taken link) :
    Waits upload.mode sent link.host := ⟨closed.cont, .inr ⟨closed.suspended, closed.status⟩⟩

theorem Closed.last (closed : Closed gcm upload sent taken link) (ends : upload.Ends (taken + 1)) :
    taken + 1 = sent := by
  have behind := closed.behind
  by_contra other
  exact closed.within (taken + 1) (by omega) (by omega) ends

theorem Closed.keeps (lawful : gcm.Lawful) (closed : Closed gcm upload sent taken link)
    (moved : link.move gcm next = some after) :
    Closed gcm upload sent (taken + 1) after ∨ Answered gcm upload sent after := by
  cases next with
  | hostResumes goOn =>
      rw [no_hostResumes (closed.waits.blocked gcm goOn closed.unread closed.intact)] at moved
      contradiction
  | hostReads =>
      rw [no_hostReads closed.silent] at moved
      contradiction
  | disconnects working =>
      rw [no_disconnects closed.waits.not_closing] at moved
      contradiction
  | deviceReceives working =>
      have behind := closed.behind
      obtain ⟨followed, takes, host, session, quiet, answers⟩ :=
        closed.toSession.takes lawful behind closed.last working
      rw [takes] at moved
      obtain rfl := Option.some.inj moved
      by_cases ends : upload.Ends (taken + 1)
      · obtain rfl := closed.last ends
        obtain ⟨raw, bytes, toHost, reads⟩ := answers ends
        refine .inr { session with
          waits := host ▸ closed.waits
          unread := host ▸ closed.unread
          raw := fun plain => ?_
          answer := ⟨bytes, by rw [toHost, closed.silent]; rfl, reads⟩ }
        rw [host, raw plain, closed.rand]
      · obtain ⟨toHost, randIv⟩ := quiet ends
        refine .inl { session with
          suspended := host ▸ closed.suspended
          status := host ▸ closed.status
          cont := host ▸ closed.cont
          unread := host ▸ closed.unread
          rand := by rw [host, randIv, closed.rand]
          silent := toHost.trans closed.silent
          behind := ?_
          ends := closed.ends
          within := fun number above => closed.within number (by omega) }
        have other : taken + 1 ≠ sent := fun same => ends (same ▸ closed.ends)
        omega

theorem Sending.not_closing (sending : Sending gcm upload sent taken link) :
    link.host.connectionStatus ≠ .closingPhase := by
  rw [sending.status]
  cases upload.mode <;> simp [Mode.sendingPhase]

theorem Sending.ends (sending : Sending gcm upload sent taken link) (goOn : Bool)
    (all : upload.chunks.length ≤ sent) :
    resume gcm goOn link.host =
      some ({ link.host with connectionStatus := .closingPhase }, []) := by
  have status := sending.status
  have past : ¬ link.host.contChunck < link.host.chunks.length := by
    rw [sending.cont, sending.chunks]
    omega
  cases mode : upload.mode <;> rw [mode] at status <;> simp only [Mode.sendingPhase] at status <;>
    simp only [resume, sending.suspended, status, if_neg past]

theorem Sending.resumes (sending : Sending gcm upload sent taken link) {goOn : Bool}
    (moved : link.move gcm (.hostResumes goOn) = some after) :
    (sent < upload.chunks.length ∧
      (Sending gcm upload (sent + 1) taken after ∨ Closed gcm upload (sent + 1) taken after)) ∨
      Closing gcm upload after := by
  have order := sending.order
  rcases Nat.lt_or_ge sent upload.chunks.length with more | all
  · obtain ⟨host, msg, sends, session, status, unread, rand, cont, waits, loops⟩ :=
      sending.toSession.sends goOn sending.suspended sending.status sending.cont sending.rand more
    rw [hostResumes_of sends] at moved
    obtain rfl := Option.some.inj moved
    refine .inl ⟨more, ?_⟩
    by_cases ends : upload.Ends (sent + 1)
    · exact .inr { session with
        suspended := waits ends
        status := status.trans sending.status
        cont := cont
        unread := unread.trans sending.unread
        rand := rand.trans sending.rand
        silent := sending.silent
        behind := by omega
        ends := ends
        within := fun number above below => sending.within number above (by omega) }
    · refine .inl { session with
        suspended := loops ends
        status := status.trans sending.status
        cont := cont
        unread := unread.trans sending.unread
        rand := rand.trans sending.rand
        silent := sending.silent
        within := fun number above upTo => ?_ }
      rcases Nat.lt_or_ge sent number with later | earlier
      · rwa [show number = sent + 1 by omega]
      · exact sending.within number above earlier
  · have complete : sent = upload.chunks.length := Nat.le_antisymm sending.inside all
    have caught : taken = sent := by
      by_contra other
      exact sending.within sent (by omega) (Nat.le_refl _) (.inr complete)
    obtain rfl := caught
    rw [hostResumes_of (sending.ends goOn all)] at moved
    obtain rfl := Option.some.inj moved
    have session := sending.toSession
    rw [complete] at session
    exact .inr { session with
      queue := by rw [List.append_nil]; exact session.queue
      suspended := sending.suspended
      status := rfl
      silent := sending.silent }

theorem Sending.receives (lawful : gcm.Lawful) (sending : Sending gcm upload sent taken link)
    {working : Working} (moved : link.move gcm (.deviceReceives working) = some after) :
    taken < sent ∧ Sending gcm upload sent (taken + 1) after := by
  rcases Nat.eq_or_lt_of_le sending.order with rfl | behind
  · rw [no_deviceReceives sending.toSession.nothing_sent] at moved
    contradiction
  · have inside : ¬ upload.Ends (taken + 1) := sending.within (taken + 1) (by omega) (by omega)
    obtain ⟨followed, takes, host, session, quiet, _⟩ :=
      sending.toSession.takes lawful behind (fun ends => absurd ends inside) working
    rw [takes] at moved
    obtain rfl := Option.some.inj moved
    obtain ⟨toHost, randIv⟩ := quiet inside
    exact ⟨behind, { session with
      suspended := host ▸ sending.suspended
      status := host ▸ sending.status
      cont := host ▸ sending.cont
      unread := host ▸ sending.unread
      rand := by rw [host, randIv, sending.rand]
      silent := toHost.trans sending.silent
      within := fun number above => sending.within number (by omega) }⟩

theorem Closing.programmed (closing : Closing gcm upload link) :
    programmed gcm link.log = programsOf upload.base (paddedImage upload.mode upload.image) := by
  have uploaded := closing.payloads
  rw [if_pos rfl] at uploaded
  rw [uploaded.programmed, upload.payloads_all]

theorem Closing.stored (closing : Closing gcm upload link) {index : Nat}
    (inside : index < 8 * wordCount (paddedImage upload.mode upload.image)) :
    byteOf (link.device.flash (upload.base + 8 * UInt32.ofNat (index / 8))) (index % 8) =
      (paddedImage upload.mode upload.image).getD index 0 := by
  obtain ⟨erased, flash⟩ := closing.flash
  have fits := upload.fits
  have bound := upload.slot_bound
  have small : wordCount (paddedImage upload.mode upload.image) ≤ 0x10000000 := by
    rw [Upload.app] at bound
    rw [wordCount]
    omega
  rw [flash, closing.programmed, flashAfter_programsOf erased upload.base _ (by omega) small,
    byteOf_wordAt _ _ _ (Nat.mod_lt _ (by decide)), Nat.div_add_mod]

theorem Closing.jumps (closing : Closing gcm upload link) : jumps link.device := by
  have uploaded := closing.payloads
  rw [if_pos rfl] at uploaded
  have total := closing.total
  have positive := upload.chunks_positive
  refine ⟨uploaded.complete, fun empty => ?_⟩
  rw [empty] at total
  exact absurd total (Nat.ne_of_lt positive)

theorem Closing.keeps (closing : Closing gcm upload link)
    (moved : link.move gcm next = some after) : Transferred gcm upload after := by
  cases next with
  | hostResumes goOn =>
      have blocked : resume gcm goOn link.host = none := by
        simp [resume, closing.suspended, closing.status]
      rw [no_hostResumes blocked] at moved
      contradiction
  | deviceReceives working =>
      rw [no_deviceReceives closing.nothing_sent] at moved
      contradiction
  | hostReads =>
      rw [no_hostReads closing.silent] at moved
      contradiction
  | disconnects working =>
      have uploaded := closing.payloads
      rw [if_pos rfl] at uploaded
      have jumped := step_disconnect_jump gcm working.hardware closing.running closing.jumps
      rw [Link.move, if_pos ⟨closing.status, closing.suspended, closing.nothing_sent⟩] at moved
      obtain rfl := Option.some.inj moved
      refine {
        acks := ?_
        programmed := ?_
        stored := ?_
        ended := ⟨link.log, link.device, working.hardware, rfl, uploaded.closing, uploaded.complete,
          closing.total⟩
        jumped := ?_
        running := ?_
        hostSuspended := closing.suspended
        hostStatus := rfl
        delivered := closing.nothing_sent
        silent := ?_ }
      · refine acks_concat closing.acks fun bytes sentBytes => ?_
        rw [jumped] at sentBytes
        contradiction
      · rw [Link.handle, programmed_concat, jumped, closing.programmed]
        exact List.append_nil _
      · intro index inside
        rw [← closing.stored inside, Link.handle, jumped]
        rfl
      · rw [Link.handle, jumped, ← closing.app]
      · rw [Link.handle, jumped, ← closing.app]
      · rw [Link.handle, jumped]
        exact (List.append_nil _).trans closing.silent

theorem Transferred.stuck (done : Transferred gcm upload link) : Stuck (Link.move gcm) link := by
  intro next
  cases next with
  | hostResumes goOn =>
      apply no_hostResumes
      simp [resume, done.hostSuspended, done.hostStatus]
  | deviceReceives working => exact no_deviceReceives done.delivered
  | hostReads => exact no_hostReads done.silent
  | disconnects working =>
      apply no_disconnects
      rw [done.hostStatus]
      simp

end Keeps

/-! The START, and the whole upload. -/

section Whole

variable {gcm : AesGcm} {upload : Upload} {flash : UInt32 → UInt64} {sent taken : Nat}
  {link after : Link} {next : Move}

theorem waits_requested (gcm : AesGcm) (upload : Upload) (flash : UInt32 → UInt64) :
    Waits upload.mode 0 (upload.requested gcm flash).host :=
  ⟨rfl, .inl ⟨rfl, (upload.requests_link gcm flash).connectionStatus, rfl⟩⟩

theorem requesting_keeps (moved : (upload.link gcm flash).move gcm next = some after) :
    after = upload.requested gcm flash := by
  cases next with
  | hostResumes goOn =>
      rw [hostResumes_of (upload.resume_link gcm flash goOn)] at moved
      exact (Option.some.inj moved).symm
  | deviceReceives working => contradiction
  | hostReads => contradiction
  | disconnects working =>
      have status := (upload.requests_link gcm flash).connectionStatus
      rw [no_disconnects (by rw [status]; cases upload.mode <;> simp [Mode.initPhase])] at moved
      contradiction

theorem requested_receives (upload : Upload) (gcm : AesGcm) (flash : UInt32 → UInt64)
    (working : Working) :
    (upload.requested gcm flash).move gcm (.deviceReceives working) =
      some (upload.begun gcm flash working) := rfl

theorem requested_keeps (lawful : gcm.Lawful)
    (moved : (upload.requested gcm flash).move gcm next = some after) :
    Answered gcm upload 0 after := by
  have waits := waits_requested gcm upload flash
  cases next with
  | hostResumes goOn =>
      rw [no_hostResumes (waits.blocked gcm goOn rfl rfl)] at moved
      contradiction
  | hostReads => contradiction
  | disconnects working =>
      rw [no_disconnects waits.not_closing] at moved
      contradiction
  | deviceReceives working =>
      rw [requested_receives] at moved
      obtain rfl := Option.some.inj moved
      obtain ⟨raw, answer⟩ := upload.answers_begun flash lawful working
      exact { upload.session_begun flash lawful working with
        waits := waits
        unread := rfl
        raw := fun plain => by rw [raw plain]; rfl
        answer := answer }

def Working.default : Working := ⟨.working 0, flashWorks_working 0, rfl⟩

theorem Sending.goesOn (state : Sending gcm upload sent taken link) :
    ∃ next after, link.move gcm next = some after := by
  rcases Nat.lt_or_ge sent upload.chunks.length with more | all
  · obtain ⟨_, _, sends, _⟩ :=
      state.toSession.sends true state.suspended state.status state.cont state.rand more
    exact ⟨_, _, hostResumes_of sends⟩
  · exact ⟨_, _, hostResumes_of (state.ends true all)⟩

theorem Closed.goesOn (lawful : gcm.Lawful) (state : Closed gcm upload sent taken link) :
    ∃ next after, link.move gcm next = some after := by
  obtain ⟨after, takes, _⟩ := state.toSession.takes lawful state.behind state.last .default
  exact ⟨_, after, takes⟩

theorem countsDown (lawful : gcm.Lawful) (upload : Upload) (flash : UInt32 → UInt64) :
    CountsDown (Link.move gcm) (Holds gcm upload flash) where
  keeps := by
    intro left link next after holds moved
    cases holds with
    | requesting =>
        obtain rfl := requesting_keeps moved
        exact ⟨_, by omega, .requested⟩
    | requested => exact ⟨_, by omega, .answered (requested_keeps lawful moved)⟩
    | answered state => exact ⟨_, by omega, .read (state.keeps moved)⟩
    | read state => exact ⟨_, by omega, .sending (state.keeps moved)⟩
    | @sending sent taken _ state =>
        have order := state.order
        cases next with
        | hostResumes goOn =>
            rcases state.resumes moved with ⟨more, sending | closed⟩ | closing
            · exact ⟨_, by omega, .sending sending⟩
            · exact ⟨_, by omega, .closed closed⟩
            · exact ⟨_, by omega, .closing closing⟩
        | deviceReceives working =>
            obtain ⟨behind, sending⟩ := state.receives lawful moved
            exact ⟨_, by omega, .sending sending⟩
        | hostReads =>
            rw [no_hostReads state.silent] at moved
            contradiction
        | disconnects working =>
            rw [no_disconnects state.not_closing] at moved
            contradiction
    | closed state =>
        have behind := state.behind
        rcases state.keeps lawful moved with closed | answered
        · exact ⟨_, by omega, .closed closed⟩
        · exact ⟨_, by omega, .answered answered⟩
    | closing state => exact ⟨_, by omega, .done (state.keeps moved)⟩
    | done state =>
        rw [state.stuck] at moved
        contradiction
  goesOn := by
    intro left link holds more
    cases holds with
    | requesting => exact ⟨_, _, hostResumes_of (upload.resume_link gcm flash true)⟩
    | requested => exact ⟨_, _, requested_receives upload gcm flash .default⟩
    | answered state =>
        obtain ⟨bytes, toHost, _⟩ := state.answer
        exact ⟨_, _, hostReads_of toHost⟩
    | read state =>
        obtain ⟨_, goesOn⟩ := state.waits.goesOn gcm true state.ackRcv state.isAck state.intact
        exact ⟨_, _, hostResumes_of goesOn⟩
    | sending state => exact state.goesOn
    | closed state => exact state.goesOn lawful
    | closing state =>
        exact ⟨.disconnects .default, _,
          if_pos ⟨state.status, state.suspended, state.nothing_sent⟩⟩
    | done state => contradiction

/-- Whatever the order of its moves, an upload comes to an end, and when it does the image is in
the flash and the device has jumped to it. -/
theorem upload_completes (gcm : AesGcm) (lawful : gcm.Lawful) (upload : Upload)
    (flash : UInt32 → UInt64) (moves : List Move) (after : Link)
    (ran : runMoves (Link.move gcm) (upload.link gcm flash) moves = some after) :
    moves.length ≤ 4 * upload.chunks.length + 6 ∧
      (Stuck (Link.move gcm) after → Transferred gcm upload after) := by
  have counts := countsDown lawful upload flash
  refine ⟨?_, fun stuck => ?_⟩
  · obtain ⟨fewer, _, bound⟩ := counts.run .requesting ran
    omega
  · cases counts.stuck .requesting ran stuck with
    | done state => exact state

def singleChunk : Upload :=
  ⟨.raw, 1, [0x2a], 0x08040000, by decide, by decide, by decide⟩

def singleChunkMoves : List Move :=
  let working : Working := ⟨.working 0x1234, flashWorks_working 0x1234, rfl⟩
  [.hostResumes true, .deviceReceives working, .hostReads, .hostResumes true, .hostResumes true,
    .deviceReceives working, .hostReads, .hostResumes true, .hostResumes true, .disconnects working]

theorem upload_completes_single_chunk :
    ∃ after, runMoves (Link.move .sample) (singleChunk.link .sample fun _ => 0) singleChunkMoves =
      some after ∧ Transferred .sample singleChunk after := by
  have possible : (runMoves (Link.move .sample) (singleChunk.link .sample fun _ => 0)
      singleChunkMoves).isSome = true := by decide +kernel
  obtain ⟨after, ran⟩ := Option.isSome_iff_exists.mp possible
  have lawful : AesGcm.Lawful .sample := AesGcm.lawful_ofTables _ _
  obtain ⟨fewer, holds, bound⟩ :=
    (countsDown lawful singleChunk fun _ => 0).run .requesting ran
  have moves : singleChunkMoves.length = 4 * singleChunk.chunks.length + 6 := rfl
  obtain rfl : fewer = 0 := by omega
  exact ⟨after, ran, (upload_completes .sample lawful singleChunk _ _ after ran).2
    ((countsDown lawful singleChunk fun _ => 0).spent holds)⟩

end Whole

end BleFwUpdate
