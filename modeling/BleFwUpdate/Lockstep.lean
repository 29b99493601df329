import BleFwUpdate.Completion
import BleFwUpdate.Turns

/-! The two packet counters of a raw session, on a link on which packets are changed or lost. -/

namespace BleFwUpdate

open Transitions

/-- The packet that brings a count to this number ends a window, on either side. -/
def WindowEnd (total number : Nat) : Prop := number % 10 = 0 ∨ number = total

instance (total number : Nat) : Decidable (WindowEnd total number) :=
  inferInstanceAs (Decidable (_ ∨ _))

/-! What a packet does to a device that receives a raw firmware, whatever its bytes are. -/

section RawReceive

variable (gcm : AesGcm) {device : Device} {packet : Packet} (hardware : Hardware)

theorem rawReceive_inside (booted : device.running = none)
    (receving : device.connectionStatus = .recevingRawFw)
    (isInside : closesWindow .raw packet device = false) :
    let after := step gcm device (.receive packet hardware)
    after.countPck = device.countPck + 1 ∧ after.connectionStatus = .recevingRawFw ∧
      responses after.effects = [] := by
  intro after
  have same : after = intake gcm hardware .raw packet device.cleared := by
    rw [show after = _ from @step_counted gcm hardware .raw packet device booted receving rfl,
      if_neg (by simp [isInside])]
  rw [same]
  exact ⟨rfl, receving, rfl⟩

theorem rawReceive_closes (booted : device.running = none)
    (receving : device.connectionStatus = .recevingRawFw)
    (closes : closesWindow .raw packet device = true) :
    let after := step gcm device (.receive packet hardware)
    ∃ ack : Bool,
      after.countPck = (if ack then device.countPck + 1 else device.countPck + 1 - 10) ∧
      after.connectionStatus =
        (if after.countPck = device.totalPck then .closingConnection else .recevingRawFw) ∧
      responses after.effects = [rawResponse hardware ack after.countPck] := by
  intro after
  have same : after =
      closeWindow gcm hardware .raw (intake gcm hardware .raw packet device.cleared) := by
    rw [show after = _ from @step_counted gcm hardware .raw packet device booted receving rfl,
      if_pos closes]
  rw [same]
  refine ⟨windowAccepted hardware (intake gcm hardware .raw packet device.cleared), ?_, ?_, ?_⟩
  · rw [closeWindow_countPck]
    rfl
  · rw [closeWindow_connectionStatus, intake_totalPck, intake_connectionStatus,
      cleared_connectionStatus, receving]
    rfl
  · rw [closeWindow_raw_effects, responses_append, responses_append, responses_windowEffects]
    rfl

end RawReceive

/-! What the host of a raw upload does next. -/

section RawResume

variable (gcm : AesGcm) (goOn : Bool) {host : Host}

theorem resume_sendsRaw {sent : Nat} (suspended : host.suspended = .toLoop)
    (status : host.connectionStatus = .sendingData) (cont : host.contChunck = sent)
    (more : sent < host.chunks.length) (small : host.chunks.length < 65536) :
    ∃ msg, resume gcm goOn host =
      some ({ host with
        contChunck := ((sent + 1 : Nat) : Int)
        suspended := if WindowEnd host.chunks.length (sent + 1) then .windowSent else .toLoop },
        [msg]) := by
  have below : host.contChunck < host.chunks.length := by omega
  have range : 0 ≤ host.contChunck ∧ host.contChunck < 65536 := by omega
  have found : pyIndex host.chunks host.contChunck = some host.chunks[sent] := by
    rw [pyIndex, cont, if_pos (by omega), Int.toNat_natCast, List.getElem?_eq_getElem more]
  have counts := countChunk_eq 10 cont
  simp only [Nat.cast_ofNat] at counts
  simp only [resume, suspended, status, if_pos below, sendRawChunk, found, if_pos range, counts]
  exact ⟨_, rfl⟩

theorem resume_ends (suspended : host.suspended = .toLoop)
    (status : host.connectionStatus = .sendingData) (all : host.chunks.length ≤ host.contChunck) :
    resume gcm goOn host = some ({ host with connectionStatus := .closingPhase }, []) := by
  simp only [resume, suspended, status, if_neg (not_lt.mpr all)]

/-- A count below zero is no packet number. -/
theorem resume_behind (suspended : host.suspended = .toLoop)
    (status : host.connectionStatus = .sendingData) (behind : host.contChunck < 0) :
    resume gcm goOn host = some (host.raise, []) := by
  have below : host.contChunck < host.chunks.length := by omega
  have noNumber : ¬ (0 ≤ host.contChunck ∧ host.contChunck < 65536) := by omega
  simp only [resume, suspended, status, if_pos below, sendRawChunk, if_neg noNumber]
  split <;> rfl

theorem resume_verdict (suspended : host.suspended = .windowSent)
    (status : host.connectionStatus = .sendingData) :
    resume gcm goOn host = if host.ackRcv then some (readVerdict 10 goOn host, []) else none := by
  simp only [resume, suspended, status]

theorem readVerdict_shape (status : host.connectionStatus = .sendingData) (window : Int)
    (goOn : Bool) :
    ∃ connectionStatus nackLoop,
      readVerdict window goOn host = { host with
        ackRcv := false
        suspended := .toLoop
        connectionStatus := connectionStatus
        nackLoop := nackLoop
        contChunck := if host.isAck then host.contChunck else host.contChunck - window } ∧
      (connectionStatus = .sendingData ∨ connectionStatus = .closingPhase) := by
  cases isAck : host.isAck with
  | true => exact ⟨host.connectionStatus, 0, by simp [readVerdict, isAck], .inl status⟩
  | false =>
      by_cases fifth : host.nackLoop + 1 = 5
      · cases goOn with
        | true => exact ⟨host.connectionStatus, 0, by simp [readVerdict, isAck, fifth], .inl status⟩
        | false => exact ⟨.closingPhase, 5, by simp [readVerdict, isAck, fifth], .inr rfl⟩
      · exact ⟨host.connectionStatus, host.nackLoop + 1, by simp [readVerdict, isAck, fifth],
          .inl status⟩

theorem resume_stopped
    (stopped : host.suspended = .raised ∨
      host.suspended = .toLoop ∧ host.connectionStatus = .closingPhase) :
    resume gcm goOn host = none := by
  rcases stopped with raised | ⟨suspended, status⟩
  · simp only [resume, raised]
  · simp only [resume, suspended, status]

end RawResume

/-! What can be seen of the verdicts on windows. -/

inductive Sign
  | waits
  | answers (ack : Bool)
  | acts (ack : Bool)
  deriving DecidableEq

def verdict (response : List UInt8) : Bool := response.head? == some ackCmd

/-- In one turn the host begins to wait for a verdict, the device answers, or the host acts on
the verdict that it has read. -/
def signs (gcm : AesGcm) (entry : Link × Turn) : List Sign :=
  let next := entry.1.after gcm entry.2
  (if entry.1.host.suspended ≠ .windowSent ∧ next.host.suspended = .windowSent then
    [.waits] else []) ++
  (next.toHost.drop entry.1.toHost.length).map (fun response => .answers (verdict response)) ++
  (if entry.1.host.suspended = .windowSent ∧ next.host.suspended ≠ .windowSent then
    [.acts entry.1.host.isAck] else [])

def exchange (ack : Bool) : List Sign := [.waits, .answers ack, .acts ack]

def drops (entry : Link × Turn) : Bool :=
  match entry.2 with
  | .loses => !entry.1.toDevice.isEmpty
  | _ => false

theorem verdict_rawResponse (hardware : Hardware) (ack : Bool) (count : UInt16) :
    verdict (rawResponse hardware ack count) = ack := by
  cases ack <;> rfl

/-! The states of a raw session. -/

structure RawLink (total : Nat) (link : Link) : Prop where
  chunks : link.host.chunks.length = total
  small : total < 65520
  plain : link.host.security = false
  booted : link.device.running = none
  totalPck : link.device.totalPck.toNat = total

/-- The host has sent so many packets of the session. Those that the device has not counted are
on their way, but for a gap of packets that have been lost. -/
structure Ahead (total gap sent : Nat) (link : Link) : Prop extends RawLink total link where
  status : link.host.connectionStatus = .sendingData
  cont : link.host.contChunck = sent
  unread : link.host.ackRcv = false
  silent : link.toHost = []
  upTo : sent ≤ total
  balance : link.device.countPck.toNat + link.toDevice.length + gap = sent
  receives : link.device.countPck.toNat < total → link.device.connectionStatus = .recevingRawFw
  within : ∀ number, link.device.countPck.toNat < number → number < sent →
    ¬ WindowEnd total number

/-- The device has counted all packets of a window, and has come to its verdict. -/
structure Settled (total sent : Nat) (ack : Bool) (link : Link) : Prop
    extends RawLink total link where
  suspended : link.host.suspended = .windowSent
  status : link.host.connectionStatus = .sendingData
  cont : link.host.contChunck = sent
  upTo : sent ≤ total
  landed : link.toDevice = []
  count : link.device.countPck = if ack then UInt16.ofNat sent else UInt16.ofNat sent - 10
  receives : link.device.connectionStatus = .recevingRawFw ∨ ack = true ∧ sent = total

structure Stopping (link : Link) : Prop where
  unread : link.host.ackRcv = false
  landed : link.toDevice = []
  silent : link.toHost = []
  congruent : link.host.contChunck % 65536 = link.device.countPck.toNat
  stops : (link.host.suspended = .raised ∨
      link.host.suspended = .toLoop ∧ link.host.connectionStatus = .closingPhase) ∨
    link.host.suspended = .toLoop ∧ link.host.connectionStatus = .sendingData ∧
      link.host.contChunck < 0

/-- With the packets lost so far, and the signs of an exchange that is not over. -/
inductive Stage (total : Nat) : Nat → List Sign → Link → Prop
  | sending {gap sent : Nat} {link : Link} (ahead : Ahead total gap sent link)
      (suspended : link.host.suspended = .toLoop)
      (inside : link.device.countPck.toNat < sent → ¬ WindowEnd total sent) :
      Stage total gap [] link
  | waiting {gap sent : Nat} {link : Link} (ahead : Ahead total gap sent link)
      (suspended : link.host.suspended = .windowSent)
      (behind : link.device.countPck.toNat < sent) (ends : WindowEnd total sent) :
      Stage total gap [.waits] link
  | answered {sent : Nat} {ack : Bool} {link : Link} (settled : Settled total sent ack link)
      (unread : link.host.ackRcv = false)
      (answer : ∃ hardware count, link.toHost = [rawResponse hardware ack count]) :
      Stage total 0 [.waits, .answers ack] link
  | read {sent : Nat} {ack : Bool} {link : Link} (settled : Settled total sent ack link)
      (received : link.host.ackRcv = true) (isAck : link.host.isAck = ack)
      (silent : link.toHost = []) :
      Stage total 0 [.waits, .answers ack] link
  | stopping {link : Link} (stopping : Stopping link) : Stage total 0 [] link

section Conforms

variable {gcm : AesGcm} {total gap sent : Nat} {ack : Bool} {tail : List Sign} {link : Link}
  {turn : Turn}

/-- A turn keeps to the protocol of the verdicts. -/
def Conforms (gcm : AesGcm) (total gap : Nat) (tail : List Sign) (link : Link) (turn : Turn) :
    Prop :=
  ∃ done after, tail ++ signs gcm (link, turn) = List.flatMap exchange done ++ after ∧
    Stage total (gap + (drops (link, turn)).toNat) after (link.after gcm turn)

theorem signs_none (impossible : link.turn gcm turn = none) : signs gcm (link, turn) = [] := by
  simp [signs, after_none impossible]

theorem drops_none (impossible : link.turn gcm turn = none) : drops (link, turn) = false := by
  cases turn with
  | loses =>
      cases queue : link.toDevice with
      | nil => simp [drops, queue]
      | cons first rest =>
          rw [turn_loses queue] at impossible
          contradiction
  | _ => rfl

theorem Stage.conforms_none (stage : Stage total gap tail link)
    (impossible : link.turn gcm turn = none) : Conforms gcm total gap tail link turn := by
  refine ⟨[], tail, ?_, ?_⟩
  · rw [signs_none impossible, List.append_nil, List.flatMap_nil, List.nil_append]
  · rw [drops_none impossible, after_none impossible]
    exact stage

theorem turn_quiet (landed : link.toDevice = []) (silent : link.toHost = [])
    (other : ∀ goOn, turn ≠ .hostResumes goOn) : link.turn gcm turn = none := by
  cases turn with
  | hostResumes goOn => exact absurd rfl (other goOn)
  | deviceReceives hardware bytes => exact turn_deviceReceives_none landed
  | loses => rw [Link.turn, landed]
  | hostReads => exact turn_hostReads_none silent

theorem Ahead.count_le (ahead : Ahead total gap sent link) :
    link.device.countPck.toNat ≤ sent := by
  have balance := ahead.balance
  omega

theorem Ahead.succ (ahead : Ahead total gap sent link)
    (behind : link.device.countPck.toNat < sent) :
    (link.device.countPck + 1).toNat = link.device.countPck.toNat + 1 := by
  have upTo := ahead.upTo
  have below : link.device.countPck < link.device.totalPck := by
    rw [UInt16.lt_iff_toNat_lt, ahead.totalPck]
    omega
  exact toNat_succ_of_lt below

theorem Ahead.closes_iff (ahead : Ahead total gap sent link)
    (behind : link.device.countPck.toNat < sent) (packet : Packet) :
    closesWindow .raw packet link.device = true ↔
      WindowEnd total (link.device.countPck.toNat + 1) := by
  rw [closesWindow_iff rfl, ← UInt16.toNat_inj, ahead.totalPck, ahead.succ behind]
  rfl

theorem Ahead.loses (ahead : Ahead total gap sent link) {first : List UInt8}
    {rest : List (List UInt8)} (queue : link.toDevice = first :: rest) :
    Ahead total (gap + 1) sent { link with toDevice := rest } := by
  have balance := ahead.balance
  rw [queue, List.length_cons] at balance
  exact { ahead with
    balance := show link.device.countPck.toNat + rest.length + (gap + 1) = sent by omega }

theorem Ahead.takes (ahead : Ahead total gap sent link) {first : List UInt8}
    {rest : List (List UInt8)} (queue : link.toDevice = first :: rest) (packet : Packet)
    (hardware : Hardware) (inside : ¬ WindowEnd total (link.device.countPck.toNat + 1)) :
    let next := { link with toDevice := rest }.handle gcm (.receive packet hardware)
    Ahead total gap sent next ∧ next.device.countPck.toNat = link.device.countPck.toNat + 1 := by
  intro next
  have balance := ahead.balance
  rw [queue, List.length_cons] at balance
  have upTo := ahead.upTo
  have small := ahead.small
  have behind : link.device.countPck.toNat < sent := by omega
  have begun := ahead.receives (by omega)
  have open' : closesWindow .raw packet link.device = false := by
    simpa using mt (ahead.closes_iff behind packet).mp inside
  obtain ⟨count, receving, quiet⟩ := rawReceive_inside gcm hardware ahead.booted begun open'
  obtain ⟨_, running, totalPck, _⟩ := receive_frame gcm packet hardware (by simp [begun] :
    link.device.connectionStatus ≠ .connected)
  have succ : next.device.countPck.toNat = link.device.countPck.toNat + 1 := by
    rw [show next.device.countPck = _ from count, ahead.succ behind]
  have silent : next.toHost = link.toHost ++ [] := congrArg (link.toHost ++ ·) quiet
  refine ⟨{ ahead with
    booted := running.trans ahead.booted
    totalPck := by rw [show next.device.totalPck = _ from totalPck, ahead.totalPck]
    silent := by rw [silent, ahead.silent]; rfl
    balance := by rw [succ]; exact show _ + 1 + rest.length + gap = sent by omega
    receives := fun _ => receving
    within := ?_ }, succ⟩
  rw [succ]
  exact fun number above below => ahead.within number (by omega) below

theorem Ahead.settles (ahead : Ahead total gap sent link)
    (suspended : link.host.suspended = .windowSent) {first : List UInt8}
    {rest : List (List UInt8)} (queue : link.toDevice = first :: rest) (packet : Packet)
    (hardware : Hardware) (last : link.device.countPck.toNat + 1 = sent)
    (ends : WindowEnd total sent) :
    let next := { link with toDevice := rest }.handle gcm (.receive packet hardware)
    gap = 0 ∧ ∃ ack count, Settled total sent ack next ∧
      next.toHost = [rawResponse hardware ack count] := by
  intro next
  have balance := ahead.balance
  rw [queue, List.length_cons] at balance
  have upTo := ahead.upTo
  have small := ahead.small
  have begun := ahead.receives (by omega)
  have closes : closesWindow .raw packet link.device = true :=
    (ahead.closes_iff (by omega) packet).mpr (last ▸ ends)
  obtain ⟨ack, count, status, answered⟩ := rawReceive_closes gcm hardware ahead.booted begun closes
  obtain ⟨_, running, totalPck, _⟩ := receive_frame gcm packet hardware (by simp [begun] :
    link.device.connectionStatus ≠ .connected)
  have number : link.device.countPck + 1 = UInt16.ofNat sent := by
    rw [← last, UInt16.ofNat_add, UInt16.ofNat_toNat]
    rfl
  have landed : rest = [] := List.length_eq_zero_iff.mp (by omega)
  have toHost : next.toHost = [rawResponse hardware ack next.device.countPck] := by
    change link.toHost ++ responses (step gcm link.device (.receive packet hardware)).effects = _
    rw [answered, ahead.silent]
    rfl
  rw [number] at count
  refine ⟨by omega, ack, _, { ahead with
    suspended := suspended
    booted := running.trans ahead.booted
    totalPck := by rw [show next.device.totalPck = _ from totalPck, ahead.totalPck]
    landed := landed
    count := count
    receives := ?_ }, toHost⟩
  by_cases complete : next.device.countPck = link.device.totalPck
  · right
    have same := congrArg UInt16.toNat complete
    rw [show next.device.countPck = _ from count, ahead.totalPck] at same
    have small : (UInt16.ofNat sent).toNat = sent := by
      rw [UInt16.toNat_ofNat', Nat.mod_eq_of_lt (by omega)]
    cases ack with
    | true => exact ⟨rfl, by rw [← same]; exact small.symm⟩
    | false =>
        rw [if_neg (by simp), UInt16.toNat_sub, small] at same
        simp only [UInt16.reduceToNat] at same
        omega
  · exact .inl (status.trans (if_neg complete))

theorem signs_handle {event : Event} {rest : List (List UInt8)}
    (possible : link.turn gcm turn = some ({ link with toDevice := rest }.handle gcm event)) :
    signs gcm (link, turn) = (responses (step gcm link.device event).effects).map
      fun response => .answers (verdict response) := by
  have toHost : (link.after gcm turn).toHost =
      link.toHost ++ responses (step gcm link.device event).effects := by
    rw [after_some possible]
    rfl
  have host : (link.after gcm turn).host = link.host := by
    rw [after_some possible]
    rfl
  simp [signs, toHost, host]

theorem Ahead.sends (ahead : Ahead total gap sent link) (suspended : link.host.suspended = .toLoop)
    (inside : link.device.countPck.toNat < sent → ¬ WindowEnd total sent) (more : sent < total)
    (goOn : Bool) :
    ∃ next, link.turn gcm (.hostResumes goOn) = some next ∧ Ahead total gap (sent + 1) next ∧
      next.device = link.device ∧
      next.host.suspended = if WindowEnd total (sent + 1) then .windowSent else .toLoop := by
  have small := ahead.small
  have balance := ahead.balance
  obtain ⟨msg, resumes⟩ := resume_sendsRaw gcm goOn suspended ahead.status ahead.cont
    (ahead.chunks ▸ more) (by rw [ahead.chunks]; omega)
  rw [ahead.chunks] at resumes
  refine ⟨_, turn_hostResumes resumes,
    { ahead with cont := rfl, upTo := more, balance := ?_, within := ?_ }, rfl, rfl⟩
  · change link.device.countPck.toNat + (link.toDevice ++ [msg]).length + gap = sent + 1
    rw [List.length_append, List.length_singleton]
    omega
  · intro number above below
    rcases Nat.lt_or_eq_of_le (Nat.le_of_lt_succ below) with before | last
    · exact ahead.within number above before
    · exact last ▸ inside (last ▸ above)

theorem Stage.sending_resumes (ahead : Ahead total gap sent link)
    (suspended : link.host.suspended = .toLoop)
    (inside : link.device.countPck.toNat < sent → ¬ WindowEnd total sent) (goOn : Bool) :
    Conforms gcm total gap [] link (.hostResumes goOn) := by
  rcases Nat.lt_or_eq_of_le ahead.upTo with more | all
  · obtain ⟨next, possible, further, device, place⟩ :=
      @Ahead.sends gcm _ _ _ _ ahead suspended inside more goOn
    have quiet := further.silent
    by_cases ends : WindowEnd total (sent + 1)
    · rw [if_pos ends] at place
      refine ⟨[], [.waits], ?_, ?_⟩
      · simp [signs, after_some possible, suspended, place, quiet]
      · rw [after_some possible]
        refine .waiting further place ?_ ends
        rw [device]
        exact Nat.lt_succ_of_le ahead.count_le
    · rw [if_neg ends] at place
      refine ⟨[], [], ?_, ?_⟩
      · simp [signs, after_some possible, suspended, place, quiet]
      · rw [after_some possible]
        exact .sending further place fun _ => ends
  · -- All chunks are sent: nothing can be missing, since the last one has ended its window.
    have resumes := resume_ends gcm goOn suspended ahead.status
      (by rw [ahead.chunks, ahead.cont, all])
    have balance := ahead.balance
    have upTo := ahead.upTo
    have small := ahead.small
    have level : ¬ link.device.countPck.toNat < sent := fun before => inside before (.inr all)
    have landed : link.toDevice = [] := List.length_eq_zero_iff.mp (by omega)
    obtain rfl : gap = 0 := by omega
    have possible := turn_hostResumes resumes
    refine ⟨[], [], ?_, ?_⟩
    · simp [signs, after_some possible, suspended, ahead.silent]
    · rw [after_some possible]
      refine .stopping ⟨ahead.unread, by simp [landed], ahead.silent, ?_,
        .inl (.inr ⟨suspended, rfl⟩)⟩
      change link.host.contChunck % 65536 = link.device.countPck.toNat
      rw [ahead.cont]
      omega

theorem Stage.loses_conforms (stage : Stage total gap tail link)
    (keeps : ∀ first rest, link.toDevice = first :: rest →
      Stage total (gap + 1) tail { link with toDevice := rest }) :
    Conforms gcm total gap tail link .loses := by
  cases queue : link.toDevice with
  | nil => exact stage.conforms_none (by rw [Link.turn, queue])
  | cons first rest =>
      refine ⟨[], tail, ?_, ?_⟩
      · simp [signs, after_some (turn_loses queue)]
      · rw [after_some (turn_loses queue)]
        simp only [drops, queue]
        exact keeps first rest queue

theorem Ahead.takes_conforms (ahead : Ahead total gap sent link) {first : List UInt8}
    {rest : List (List UInt8)} (queue : link.toDevice = first :: rest) {bytes : List UInt8}
    (short : bytes.length ≤ 20) (hardware : Hardware)
    (inside : ¬ WindowEnd total (link.device.countPck.toNat + 1))
    (keeps : ∀ next : Link, next.host = link.host → Ahead total gap sent next →
      next.device.countPck.toNat = link.device.countPck.toNat + 1 → Stage total gap tail next) :
    Conforms gcm total gap tail link (.deviceReceives hardware bytes) := by
  have possible := @turn_deviceReceives gcm _ hardware _ _ _ queue short
  obtain ⟨next, count⟩ := @Ahead.takes gcm _ _ _ _ ahead _ _ queue (.ofBytes bytes short)
    hardware inside
  have quiet := next.silent
  simp only [Link.handle, ahead.silent, List.nil_append] at quiet
  refine ⟨[], tail, ?_, ?_⟩
  · rw [signs_handle possible, quiet, List.map_nil, List.append_nil, List.flatMap_nil,
      List.nil_append]
  · rw [after_some possible]
    exact keeps _ rfl next count

theorem Stage.sending_conforms (ahead : Ahead total gap sent link)
    (suspended : link.host.suspended = .toLoop)
    (inside : link.device.countPck.toNat < sent → ¬ WindowEnd total sent) :
    Conforms gcm total gap [] link turn := by
  have stage := Stage.sending ahead suspended inside
  have balance := ahead.balance
  cases turn with
  | hostReads => exact stage.conforms_none (turn_hostReads_none ahead.silent)
  | loses =>
      exact stage.loses_conforms fun _ _ queue => .sending (ahead.loses queue) suspended inside
  | deviceReceives hardware bytes =>
      cases queue : link.toDevice with
      | nil => exact stage.conforms_none (turn_deviceReceives_none queue)
      | cons first rest =>
          by_cases short : bytes.length ≤ 20
          · rw [queue, List.length_cons] at balance
            have within : ¬ WindowEnd total (link.device.countPck.toNat + 1) := by
              rcases Nat.lt_or_eq_of_le (show link.device.countPck.toNat + 1 ≤ sent by omega) with
                before | last
              · exact ahead.within _ (by omega) before
              · exact last ▸ inside (by omega)
            refine ahead.takes_conforms queue short hardware within ?_
            intro next host ahead count
            exact .sending ahead (host ▸ suspended) fun before => inside (by omega)
          · exact stage.conforms_none (turn_deviceReceives_long short)
  | hostResumes goOn => exact sending_resumes ahead suspended inside goOn

theorem Stage.waiting_conforms (ahead : Ahead total gap sent link)
    (suspended : link.host.suspended = .windowSent)
    (behind : link.device.countPck.toNat < sent) (ends : WindowEnd total sent) :
    Conforms gcm total gap [.waits] link turn := by
  have stage := Stage.waiting ahead suspended behind ends
  cases turn with
  | hostResumes goOn =>
      refine stage.conforms_none (turn_hostResumes_none ?_)
      rw [resume_verdict gcm goOn suspended ahead.status, ahead.unread]
      rfl
  | hostReads => exact stage.conforms_none (turn_hostReads_none ahead.silent)
  | loses =>
      exact stage.loses_conforms fun _ _ queue =>
        .waiting (ahead.loses queue) suspended behind ends
  | deviceReceives hardware bytes =>
      cases queue : link.toDevice with
      | nil => exact stage.conforms_none (turn_deviceReceives_none queue)
      | cons first rest =>
          by_cases short : bytes.length ≤ 20
          · rcases Nat.lt_or_eq_of_le (Nat.succ_le_of_lt behind) with before | last
            · refine ahead.takes_conforms queue short hardware
                (ahead.within _ (Nat.lt_succ_self _) before) ?_
              intro next host ahead count
              exact .waiting ahead (host ▸ suspended) (by omega) ends
            · have possible := @turn_deviceReceives gcm _ hardware _ _ _ queue short
              obtain ⟨rfl, ack, count, settled, answer⟩ := @Ahead.settles gcm _ _ _ _ ahead
                suspended _ _ queue (.ofBytes bytes short) hardware last ends
              have answered := answer
              simp only [Link.handle, ahead.silent, List.nil_append] at answered
              refine ⟨[], [.waits, .answers ack], ?_, ?_⟩
              · rw [signs_handle possible, answered, List.map_singleton, verdict_rawResponse]
                rfl
              · rw [after_some possible]
                exact .answered settled ahead.unread ⟨hardware, count, answer⟩
          · exact stage.conforms_none (turn_deviceReceives_long short)

theorem Stage.answered_conforms (settled : Settled total sent ack link)
    (unread : link.host.ackRcv = false)
    (answer : ∃ hardware count, link.toHost = [rawResponse hardware ack count]) :
    Conforms gcm total 0 [.waits, .answers ack] link turn := by
  have stage := Stage.answered settled unread answer
  obtain ⟨hardware, count, toHost⟩ := answer
  cases turn with
  | hostResumes goOn =>
      refine stage.conforms_none (turn_hostResumes_none ?_)
      rw [resume_verdict gcm goOn settled.suspended settled.status, unread]
      rfl
  | deviceReceives hardware bytes =>
      exact stage.conforms_none (turn_deviceReceives_none settled.landed)
  | loses => exact stage.conforms_none (by rw [Link.turn, settled.landed])
  | hostReads =>
      have possible := @turn_hostReads gcm _ _ _ toHost
      rw [readResponse_raw gcm hardware ack count settled.plain] at possible
      refine ⟨[], [.waits, .answers ack], ?_, ?_⟩
      · simp [signs, after_some possible, settled.suspended]
      · rw [after_some possible]
        exact .read { settled with } rfl rfl rfl

/-- Both counts go back by a window after a NAK. That of the host may drop below zero, where the
other one wraps around. -/
theorem Settled.congruent (settled : Settled total sent ack link) :
    (if ack then (sent : Int) else sent - 10) % 65536 = link.device.countPck.toNat := by
  have upTo := settled.upTo
  have small := settled.small
  have count := congrArg UInt16.toNat settled.count
  have number : (UInt16.ofNat sent).toNat = sent := by
    rw [UInt16.toNat_ofNat', Nat.mod_eq_of_lt (by omega)]
  cases ack with
  | true =>
      rw [if_pos rfl, number] at count
      rw [if_pos rfl, count]
      omega
  | false =>
      rw [if_neg (by simp), UInt16.toNat_sub, number] at count
      simp only [UInt16.reduceToNat] at count
      rw [if_neg (by simp), count]
      omega

theorem Stage.read_conforms (settled : Settled total sent ack link)
    (received : link.host.ackRcv = true) (isAck : link.host.isAck = ack)
    (silent : link.toHost = []) : Conforms gcm total 0 [.waits, .answers ack] link turn := by
  have stage := Stage.read settled received isAck silent
  by_cases resuming : ∃ goOn, turn = .hostResumes goOn
  · obtain ⟨goOn, rfl⟩ := resuming
    have resumes : resume gcm goOn link.host = some (readVerdict 10 goOn link.host, []) := by
      rw [resume_verdict gcm goOn settled.suspended settled.status, received]
      rfl
    obtain ⟨status, nackLoop, verdict, place⟩ := @readVerdict_shape link.host settled.status 10 goOn
    rw [isAck, settled.cont] at verdict
    rw [verdict] at resumes
    have possible := turn_hostResumes resumes
    have congruent := settled.congruent
    have upTo := settled.upTo
    have small := settled.small
    generalize rewound : (if ack then (sent : Int) else sent - 10) = cont at possible congruent
    have below : cont ≤ sent := by
      rw [← rewound]
      split <;> omega
    refine ⟨[ack], [], ?_, ?_⟩
    · simp [signs, after_some possible, settled.suspended, silent, isAck, exchange]
    · rw [after_some possible]
      rcases place with sending | closing
      · by_cases before : cont < 0
        · exact .stopping ⟨rfl, by simp [settled.landed], silent, congruent,
            .inr ⟨rfl, sending, before⟩⟩
        · have count : cont = link.device.countPck.toNat := by omega
          refine @Stage.sending total 0 link.device.countPck.toNat _
            { settled.toRawLink with
              status := sending
              cont := count
              unread := rfl
              silent := silent
              upTo := by omega
              balance := by simp [settled.landed]
              receives := fun early => ?_
              within := fun number above below => absurd above (Nat.lt_asymm below) }
            rfl (fun before => absurd before (Nat.lt_irrefl _))
          rcases settled.receives with receving | ⟨rfl, complete⟩
          · exact receving
          · rw [if_pos rfl] at rewound
            have level : ¬ link.device.countPck.toNat < total := by omega
            exact absurd early level
      · exact .stopping ⟨rfl, by simp [settled.landed], silent, congruent,
          .inl (.inr ⟨rfl, closing⟩)⟩
  · exact stage.conforms_none (turn_quiet settled.landed silent (by simpa using resuming))

theorem Stage.stopping_conforms (stopping : Stopping link) :
    Conforms gcm total 0 [] link turn := by
  have stage := @Stage.stopping total _ stopping
  by_cases resuming : ∃ goOn, turn = .hostResumes goOn
  · obtain ⟨goOn, rfl⟩ := resuming
    rcases stopping.stops with stopped | ⟨suspended, status, before⟩
    · exact stage.conforms_none (turn_hostResumes_none (resume_stopped gcm goOn stopped))
    · have possible := turn_hostResumes (resume_behind gcm goOn suspended status before)
      refine ⟨[], [], ?_, ?_⟩
      · simp [signs, after_some possible, suspended, stopping.silent, Host.raise]
      · rw [after_some possible]
        exact .stopping ⟨stopping.unread, by simp [stopping.landed], stopping.silent,
          stopping.congruent, .inl (.inl rfl)⟩
  · exact stage.conforms_none
      (turn_quiet stopping.landed stopping.silent (by simpa using resuming))

theorem Stage.conforms (stage : Stage total gap tail link) (turn : Turn) :
    Conforms gcm total gap tail link turn := by
  cases stage with
  | sending ahead suspended inside => exact sending_conforms ahead suspended inside
  | waiting ahead suspended behind ends => exact waiting_conforms ahead suspended behind ends
  | answered settled unread answer => exact answered_conforms settled unread answer
  | read settled received isAck silent => exact read_conforms settled received isAck silent
  | stopping stopping => exact stopping_conforms stopping

theorem Stopping.not_waiting (stopping : Stopping link) : link.host.suspended ≠ .windowSent := by
  rcases stopping.stops with (raised | ⟨suspended, _⟩) | ⟨suspended, _⟩
  · simp [raised]
  · simp [suspended]
  · simp [suspended]

theorem Stage.congruent (stage : Stage total 0 tail link) (silent : link.toHost = [])
    (unread : link.host.ackRcv = false) (landed : link.toDevice = []) :
    link.host.contChunck % 65536 = link.device.countPck.toNat := by
  cases stage with
  | sending ahead suspended inside =>
      have balance := ahead.balance
      have upTo := ahead.upTo
      have small := ahead.small
      rw [landed, List.length_nil] at balance
      rw [ahead.cont]
      omega
  | waiting ahead suspended behind ends =>
      have balance := ahead.balance
      rw [landed, List.length_nil] at balance
      omega
  | answered settled _ answer =>
      obtain ⟨_, _, toHost⟩ := answer
      rw [silent] at toHost
      contradiction
  | read settled received isAck _ =>
      rw [received] at unread
      contradiction
  | stopping stopping => exact stopping.congruent

theorem Stage.tail_eq (stage : Stage total 0 tail link) :
    if link.host.suspended ≠ .windowSent then tail = []
    else if link.toDevice = [] then ∃ ack, tail = [.waits, .answers ack]
    else tail = [.waits] := by
  cases stage with
  | sending ahead suspended inside => simp [suspended]
  | waiting ahead suspended behind ends =>
      have balance := ahead.balance
      have flying : link.toDevice ≠ [] := by
        rw [← List.length_pos_iff]
        omega
      simp [suspended, flying]
  | answered settled _ answer => simp [settled.suspended, settled.landed]
  | read settled received isAck _ => simp [settled.suspended, settled.landed]
  | stopping stopping => rw [if_pos stopping.not_waiting]

/-- The exchanges on verdicts so far, and the one that is not over. -/
def Exchanged (gcm : AesGcm) (total : Nat) (log : List (Link × Turn)) (link : Link) : Prop :=
  ∃ (verdicts : List Bool) (tail : List Sign),
    log.flatMap (signs gcm) = verdicts.flatMap exchange ++ tail ∧
      Stage total (log.countP drops) tail link

theorem Exchanged.goesOn {log : List (Link × Turn)} (exchanged : Exchanged gcm total log link)
    (turn : Turn) : Exchanged gcm total (log ++ [(link, turn)]) (link.after gcm turn) := by
  obtain ⟨verdicts, tail, same, stage⟩ := exchanged
  obtain ⟨done, after, shown, next⟩ := stage.conforms turn
  refine ⟨verdicts ++ done, after, ?_, ?_⟩
  · rw [List.flatMap_append, same, List.flatMap_singleton, List.append_assoc, shown,
      List.flatMap_append, List.append_assoc]
  · rw [List.countP_append, List.countP_singleton]
    cases lost : drops (link, turn) with
    | false => simpa [lost] using next
    | true => simpa [lost] using next

theorem Stage.run (stage : Stage total 0 [] link) (turns : List Turn) :
    Exchanged gcm total (history (Link.after gcm) link turns)
      (runFrom (Link.after gcm) link turns) := by
  have along : Along (Link.after gcm) (fun _ _ => True) link turns :=
    along_of_forall fun _ _ => trivial
  have start : Exchanged gcm total [] link := ⟨[], [], rfl, stage⟩
  exact along.invariant_history (fun _ _ turn exchanged _ => exchanged.goesOn turn) start

end Conforms

/-! The first session of a device since power-on. -/

section FirstSession

variable (gcm : AesGcm) (flash : UInt32 → UInt64) (selected : UInt8) (image : List UInt8)
  {host : Host} {hardware : Hardware}

theorem stage_opened (unread : host.ackRcv = false) (few : (chunksOf 16 image).length < 65536)
    (isAdmitted : admitted hardware .raw
      (startPacket startFlashModeCmd selected (chunksOf 16 image).length) = true) :
    Stage (chunksOf 16 image).length 0 []
      ((firstLink gcm flash .raw selected image host).opened gcm hardware .raw) := by
  have opens := @opens_firstLink gcm flash .raw selected image host unread few
  have started := @Opens.started gcm hardware .raw _ opens isAdmitted
  have total :
      ((startPacket startFlashModeCmd selected (chunksOf 16 image).length).number 2).toNat =
      (chunksOf 16 image).length := by
    rw [number_startPacket, UInt16.toNat_ofNat', Nat.mod_eq_of_lt few]
  have small : (chunksOf 16 image).length < 65520 := total ▸ bounded_of_fits started.fits
  rw [opens.opened_raw isAdmitted]
  refine @Stage.sending _ 0 0 _ {
    chunks := rfl
    small := small
    plain := rfl
    booted := started.running
    totalPck := (congrArg UInt16.toNat started.totalPck).trans total
    status := rfl
    cont := rfl
    unread := rfl
    silent := rfl
    upTo := Nat.zero_le _
    balance := by rw [started.countPck]; rfl
    receives := fun _ => started.connectionStatus
    within := fun number _ below => absurd below (Nat.not_lt_zero _) } rfl
    (fun before => absurd before (Nat.not_lt_zero _))

end FirstSession

/-- In a raw session without losses both sides count alike, whatever arrives in place of the
packets and whatever the flash calls answer, and the device answers each window that the host
waits for once, with the verdict that the host then acts on. -/
theorem raw_lockstep (gcm : AesGcm) (flash : UInt32 → UInt64) (selected : UInt8)
    (image : List UInt8) (host : Host) (hardware : Hardware) (turns : List Turn)
    (unread : host.ackRcv = false) (few : (chunksOf 16 image).length < 65536)
    (isAdmitted : admitted hardware .raw
      (startPacket startFlashModeCmd selected (chunksOf 16 image).length) = true)
    (lossless : ∀ turn ∈ turns, turn ≠ .loses) :
    let opened := (firstLink gcm flash .raw selected image host).opened gcm hardware .raw
    let log := history (Link.after gcm) opened turns
    let link := runFrom (Link.after gcm) opened turns
    (link.toHost = [] → link.host.ackRcv = false → link.toDevice = [] →
      link.host.contChunck % 65536 = link.device.countPck.toNat) ∧
    ∃ (verdicts : List Bool) (tail : List Sign),
      log.flatMap (signs gcm) = verdicts.flatMap exchange ++ tail ∧
        if link.host.suspended ≠ .windowSent then tail = []
        else if link.toDevice = [] then ∃ ack, tail = [.waits, .answers ack]
        else tail = [.waits] := by
  intro opened log link
  obtain ⟨verdicts, tail, same, stage⟩ :=
    (stage_opened gcm flash selected image unread few isAdmitted).run turns
  have noLoss : List.countP drops log = 0 := by
    refine List.countP_eq_zero.mpr fun entry member lost => ?_
    have turns := along_iff_forall_history.mp (@along_of_forall _ _ (Link.after gcm) _ opened _
      lossless) entry member
    unfold drops at lost
    split at lost
    · exact turns ‹_›
    · contradiction
  rw [show List.countP drops _ = 0 from noLoss] at stage
  exact ⟨stage.congruent, verdicts, tail, same, stage.tail_eq⟩

theorem raw_lockstep_corrupted_packet :
    let opened := (firstLink (.ofTables [] []) (fun _ => 0) .raw 1 [0x11] initialHost).opened
      (.ofTables [] []) (.working 0) .raw
    let turns := [.hostResumes true, .deviceReceives (.working 0) (List.replicate 20 0xff),
      .hostReads, .hostResumes true]
    let log := history (Link.after (.ofTables [] [])) opened turns
    let link := runFrom (Link.after (.ofTables [] [])) opened turns
    (link.toHost = [] → link.host.ackRcv = false → link.toDevice = [] →
      link.host.contChunck % 65536 = link.device.countPck.toNat) ∧
    ∃ (verdicts : List Bool) (tail : List Sign),
      log.flatMap (signs (.ofTables [] [])) = verdicts.flatMap exchange ++ tail ∧
        if link.host.suspended ≠ .windowSent then tail = []
        else if link.toDevice = [] then ∃ ack, tail = [.waits, .answers ack]
        else tail = [.waits] :=
  raw_lockstep (.ofTables [] []) (fun _ => 0) 1 [0x11] initialHost (.working 0) _ rfl (by decide)
    (by decide) (by simp)

/-- The host waits for an answer that is never going to come: nothing is on its way, and the
device is in the middle of the transfer. -/
def Deadlocked (link : Link) : Prop :=
  link.host.suspended = .windowSent ∧ link.host.ackRcv = false ∧
    link.toDevice = [] ∧ link.toHost = [] ∧
    link.device.connectionStatus = .recevingRawFw ∧ link.device.countPck ≠ link.device.totalPck

instance (link : Link) : Decidable (Deadlocked link) := inferInstanceAs (Decidable (_ ∧ _))

section Deadlock

variable {gcm : AesGcm} {total gap : Nat} {tail : List Sign} {link : Link}

theorem Stage.deadlocked (stage : Stage total gap tail link) (deadlocked : Deadlocked link) :
    0 < gap ∧ ∀ turn, link.turn gcm turn = none := by
  obtain ⟨suspended, unread, landed, silent, receving, unfinished⟩ := deadlocked
  cases stage with
  | waiting ahead _ behind ends =>
      have balance := ahead.balance
      rw [landed, List.length_nil] at balance
      refine ⟨by omega, fun turn => ?_⟩
      by_cases resuming : ∃ goOn, turn = .hostResumes goOn
      · obtain ⟨goOn, rfl⟩ := resuming
        apply turn_hostResumes_none
        rw [resume_verdict gcm goOn suspended ahead.status, unread]
        rfl
      · exact turn_quiet landed silent (by simpa using resuming)
  | sending ahead loops inside =>
      rw [suspended] at loops
      contradiction
  | answered settled _ answer =>
      obtain ⟨_, _, toHost⟩ := answer
      rw [silent] at toHost
      contradiction
  | read settled received isAck _ =>
      rw [received] at unread
      contradiction
  | stopping stopping => exact absurd suspended stopping.not_waiting

/-- After a loss the host can still send, up to the end of its window. -/
theorem Stage.deadlocks (stage : Stage total gap tail link) (lost : 0 < gap)
    (rests : ∀ turn, link.turn gcm turn = none) : Deadlocked link := by
  cases stage with
  | sending ahead suspended inside =>
      have balance := ahead.balance
      rcases Nat.lt_or_eq_of_le ahead.upTo with more | all
      · obtain ⟨_, possible, _⟩ := @Ahead.sends gcm _ _ _ _ ahead suspended inside more true
        rw [rests] at possible
        contradiction
      · exact absurd (.inr all) (inside (by omega))
  | waiting ahead suspended behind ends =>
      have landed : link.toDevice = [] := by
        cases queue : link.toDevice with
        | nil => rfl
        | cons first rest =>
            have possible := @turn_loses gcm _ _ _ queue
            rw [rests] at possible
            contradiction
      have upTo := ahead.upTo
      have early : link.device.countPck.toNat < total := by omega
      refine ⟨suspended, ahead.unread, landed, ahead.silent, ahead.receives early, ?_⟩
      rw [← UInt16.toNat_inj.ne, ahead.totalPck]
      exact Nat.ne_of_lt early
  | answered => contradiction
  | read => contradiction
  | stopping => contradiction

end Deadlock

/-- A raw session deadlocks exactly if a packet has been lost and nothing is left to happen. -/
theorem raw_deadlocked_iff (gcm : AesGcm) (flash : UInt32 → UInt64) (selected : UInt8)
    (image : List UInt8) (host : Host) (hardware : Hardware) (turns : List Turn)
    (unread : host.ackRcv = false) (few : (chunksOf 16 image).length < 65536)
    (isAdmitted : admitted hardware .raw
      (startPacket startFlashModeCmd selected (chunksOf 16 image).length) = true) :
    let opened := (firstLink gcm flash .raw selected image host).opened gcm hardware .raw
    let log := history (Link.after gcm) opened turns
    let link := runFrom (Link.after gcm) opened turns
    Deadlocked link ↔
      (∃ entry ∈ log, drops entry = true) ∧ ∀ turn, link.turn gcm turn = none := by
  intro opened log link
  obtain ⟨verdicts, tail, _, stage⟩ :=
    (stage_opened gcm flash selected image unread few isAdmitted).run turns
  rw [← List.countP_pos_iff]
  exact ⟨stage.deadlocked, fun lost => stage.deadlocks lost.1 lost.2⟩

/-- Of the two packets of an image, the first is lost and the second arrives. -/
theorem lost_packet_deadlocks :
    let opened := (firstLink (.ofTables [] []) (fun _ => 0) .raw 1 (List.replicate 32 0x11)
      initialHost).opened (.ofTables [] []) (.working 0) .raw
    let turns := [.hostResumes true, .loses, .hostResumes true,
      .deviceReceives (.working 0) (rawMsg 1 (List.replicate 16 0x11))]
    let link := runFrom (Link.after (.ofTables [] [])) opened turns
    Deadlocked link := by
  decide +kernel

theorem raw_deadlocked_iff_lost_packet :
    let opened := (firstLink (.ofTables [] []) (fun _ => 0) .raw 1 (List.replicate 32 0x11)
      initialHost).opened (.ofTables [] []) (.working 0) .raw
    let turns := [.hostResumes true, .loses, .hostResumes true,
      .deviceReceives (.working 0) (rawMsg 1 (List.replicate 16 0x11))]
    let log := history (Link.after (.ofTables [] [])) opened turns
    let link := runFrom (Link.after (.ofTables [] [])) opened turns
    Deadlocked link ↔
      (∃ entry ∈ log, drops entry = true) ∧ ∀ turn, link.turn (.ofTables [] []) turn = none :=
  raw_deadlocked_iff (.ofTables [] []) (fun _ => 0) 1 (List.replicate 32 0x11) initialHost
    (.working 0) _ rfl (by decide) (by decide)

end BleFwUpdate
