import BleFwUpdate.Sessions

/-! The states that secure sessions go through, and the acts before the first window. -/

namespace BleFwUpdate

def SecureEnd (total number : Nat) : Prop := number % 16 = 0 ∨ number = total

instance (total number : Nat) : Decidable (SecureEnd total number) :=
  inferInstanceAs (Decidable (_ ∨ _))

def Rests (host : Host) : Prop :=
  host.suspended = .raised ∨ host.suspended = .toLoop ∧ host.connectionStatus = .idle

structure Between (tagged : Tagged) : Prop where
  rests : Rests tagged.link.host
  unread : tagged.link.host.ackRcv = false
  sameIv : tagged.link.host.iv = tagged.link.device.iv
  toDevice : tagged.link.toDevice = []
  toHost : tagged.link.toHost = []
  sent : tagged.sent = []
  answered : tagged.answered = []
  offline : tagged.link.device.connected = false
  booted : tagged.link.device.running = none
  fresh : tagged.link.device.countPck = 0

structure Jumped (tagged : Tagged) : Prop where
  rests : Rests tagged.link.host
  toDevice : tagged.link.toDevice = []
  toHost : tagged.link.toHost = []
  answered : tagged.answered = []
  offline : tagged.link.device.connected = false
  running : tagged.link.device.running ≠ none

structure Asking (link : Link) : Prop extends Opens .secure link where
  sameIv : link.host.iv = link.device.iv
  cont : link.host.contChunck = 0
  fits : ∀ chunk ∈ link.host.chunks, chunk.length ≤ 15
  connection : link.device.connected = true
  fresh : link.device.countPck = 0

/-- The host does not send a START any more, or it has more chunks than it can announce. -/
def NoStart (host : Host) : Prop :=
  host.suspended = .raised ∨ host.connectionStatus = .sendingCryptoData ∨
    host.connectionStatus = .closingPhase ∨
    host.connectionStatus = .initCryptoPhase ∧
      (host.suspended = .startSent ∨ 65536 ≤ host.chunks.length)

def NoRequest (message : List UInt8) : Prop :=
  message.head? ≠ some startFlashModeCmd ∧ message.head? ≠ some startSecureFlashModeCmd

/-- The device has not admitted the START, whatever the host makes of it. -/
structure Unadmitted (tagged : Tagged) : Prop where
  noStart : NoStart tagged.link.host
  noRequest : ∀ message ∈ tagged.link.toDevice, NoRequest message
  sentTags : tagged.sent.length = tagged.link.toDevice.length
  answerTags : tagged.answered.length = tagged.link.toHost.length
  plain : ∀ tag ∈ tagged.answered, tag = none
  status : tagged.link.device.connectionStatus = .connected
  booted : tagged.link.device.running = none
  connection : tagged.link.device.connected = true

/-- Both sides in a session, with the host as many turns of the vector ahead as there are data
packets under way. -/
structure Flow (total sent : Nat) (tagged : Tagged) : Prop where
  chunks : tagged.link.host.chunks.length = total
  small : total < 65520
  fits : ∀ chunk ∈ tagged.link.host.chunks, chunk.length ≤ 15
  security : tagged.link.host.security = true
  cont : tagged.link.host.contChunck = sent
  upTo : sent ≤ total
  booted : tagged.link.device.running = none
  connection : tagged.link.device.connected = true
  receving : tagged.link.device.connectionStatus ≠ .connected
  totalPck : tagged.link.device.totalPck.toNat = total
  hostIv : tagged.link.host.iv =
    ivAt tagged.link.device.iv tagged.link.device.randIv tagged.link.toDevice.length
  tags : tagged.sent = (List.range tagged.link.toDevice.length).map fun index =>
    some (ivAt tagged.link.device.iv tagged.link.device.randIv (index + 1))
  data : ∀ message ∈ tagged.link.toDevice, message.length ≤ 20 ∧
    ∃ number : Int, message.head? = some (secureHeader number)

/-- The host sends a window, or has sent one. The device may have gone back by some windows
before, which the host does not notice. -/
structure Flowing (total sent : Nat) (tagged : Tagged) : Prop extends Flow total sent tagged where
  status : tagged.link.host.connectionStatus = .sendingCryptoData
  intact : tagged.link.host.msgTampered = false
  rand : tagged.link.host.randIv = tagged.link.device.randIv.toList
  unread : tagged.link.host.ackRcv = false
  silent : tagged.link.toHost = []
  answered : tagged.answered = []
  position : ∃ rewinds,
    tagged.link.device.countPck.toNat + 16 * rewinds + tagged.link.toDevice.length = sent
  receives : tagged.link.device.countPck.toNat < total →
    tagged.link.device.connectionStatus = .recevingSecureFw
  within : ∀ number, sent < number + tagged.link.toDevice.length → number < sent →
    ¬ SecureEnd total number

/-- The device has answered the START or a window. -/
structure Told (total sent : Nat) (tagged : Tagged) : Prop extends Flow total sent tagged where
  waits : Waits .secure sent tagged.link.host
  landed : tagged.link.toDevice = []
  settled : (∃ rewinds, tagged.link.device.countPck.toNat + 16 * rewinds = sent ∧
      (tagged.link.device.countPck.toNat < total →
        tagged.link.device.connectionStatus = .recevingSecureFw)) ∨
    sent = total

structure Ended (tagged : Tagged) : Prop where
  suspended : tagged.link.host.suspended = .toLoop
  done : tagged.link.host.connectionStatus = .closingPhase ∨
    tagged.link.host.connectionStatus = .sendingCryptoData ∧
      tagged.link.host.chunks.length ≤ tagged.link.host.contChunck
  sameIv : tagged.link.host.iv = tagged.link.device.iv
  toDevice : tagged.link.toDevice = []
  toHost : tagged.link.toHost = []
  sent : tagged.sent = []
  answered : tagged.answered = []
  booted : tagged.link.device.running = none
  connection : tagged.link.device.connected = true

inductive Course (gcm : AesGcm) : Tagged → Prop
  | between {tagged : Tagged} (between : Between tagged) : Course gcm tagged
  | jumped {tagged : Tagged} (jumped : Jumped tagged) : Course gcm tagged
  | asking {tagged : Tagged} (asking : Asking tagged.link) (sent : tagged.sent = [])
      (answered : tagged.answered = []) : Course gcm tagged
  | asked {before : Link} {tagged : Tagged} (asking : Asking before)
      (asked : tagged.link = before.asked .secure) (sent : tagged.sent = [none])
      (answered : tagged.answered = []) : Course gcm tagged
  | unadmitted {tagged : Tagged} (unadmitted : Unadmitted tagged) : Course gcm tagged
  | sending {total sent : Nat} {tagged : Tagged} (flowing : Flowing total sent tagged)
      (suspended : tagged.link.host.suspended = .toLoop) (more : sent < total)
      (inside : 0 < tagged.link.toDevice.length → ¬ SecureEnd total sent) : Course gcm tagged
  | waiting {total sent : Nat} {tagged : Tagged} (flowing : Flowing total sent tagged)
      (suspended : tagged.link.host.suspended = .windowSent) : Course gcm tagged
  | told {total sent : Nat} {tagged : Tagged} (told : Told total sent tagged)
      (intact : tagged.link.host.suspended = .windowSent → tagged.link.host.msgTampered = false)
      (unread : tagged.link.host.ackRcv = false)
      (answer : ∃ ack count, tagged.link.toHost = [secureResponse gcm tagged.link.device.iv ack
        count tagged.link.device.randIv])
      (tag : tagged.answered = [some tagged.link.device.iv]) : Course gcm tagged
  | read {total sent : Nat} {tagged : Tagged} (told : Told total sent tagged)
      (intact : tagged.link.host.msgTampered = false)
      (received : tagged.link.host.ackRcv = true) (isAck : tagged.link.host.isAck = true)
      (rand : tagged.link.host.randIv = tagged.link.device.randIv.toList)
      (silent : tagged.link.toHost = []) (answered : tagged.answered = []) : Course gcm tagged
  | ended {tagged : Tagged} (ended : Ended tagged) : Course gcm tagged

/-- What an act is to do in each of the states. -/
def Proceeds (gcm : AesGcm) (tagged : Tagged) (act : Act) : Prop :=
  Synchronous gcm tagged act ∧ Course gcm (tagged.after gcm act)

/-! Acts that are the same in many of the states. -/

section Common

variable {gcm : AesGcm} {tagged : Tagged} {hardware : Hardware}

theorem Course.idle (course : Course gcm tagged) {act : Act}
    (impossible : tagged.act gcm act = none) (quiet : act ≠ .hostReads) :
    Proceeds gcm tagged act := by
  refine ⟨?_, by rw [taggedAfter_none impossible]; exact course⟩
  cases act with
  | deviceReceives hardware =>
      intro next possible
      rw [impossible] at possible
      contradiction
  | hostReads => contradiction
  | hostResumes goOn => trivial
  | disconnects hardware => trivial
  | breaks hardware => trivial
  | begins selected image => trivial

theorem Course.silent (course : Course gcm tagged) (silent : tagged.link.toHost = [])
    (answered : tagged.answered = []) : Proceeds gcm tagged .hostReads := by
  refine ⟨synchronous_reads (by simp [answered]), ?_⟩
  rw [taggedAfter_none (act_hostReads_none silent)]
  exact course

theorem Rests.blocked {host : Host} (rests : Rests host) (goOn : Bool) :
    resume gcm goOn host = none := by
  rcases rests with raised | ⟨suspended, status⟩
  · simp [resume, raised]
  · simp [resume, suspended, status]

theorem Course.closed {host : Host} (booted : tagged.link.device.running = none)
    (landed : tagged.link.landed) (sent : tagged.sent = []) (answered : tagged.answered = [])
    (rests : Rests host)
    (safely : jumps tagged.link.device ∨
      host.ackRcv = false ∧ host.iv = tagged.link.device.iv) :
    Course gcm { tagged with
      link := { tagged.link with host := host }.handle gcm (.disconnect hardware) } := by
  obtain ⟨_, toDevice, toHost⟩ := landed
  by_cases complete : jumps tagged.link.device
  · have ends := step_disconnect_jump gcm hardware booted complete
    refine .jumped ⟨rests, toDevice, ?_, answered, ?_, ?_⟩
    · simp [Link.handle, ends, toHost, responses]
    · simp [Link.handle, ends]
    · simp [Link.handle, ends]
  · have ends := step_disconnect_stay gcm hardware booted complete
    obtain ⟨unread, sameIv⟩ := safely.resolve_left complete
    refine .between ⟨rests, unread, ?_, toDevice, ?_, sent, answered, ?_, ?_, ?_⟩
    · simpa [Link.handle, ends] using sameIv
    · simp [Link.handle, ends, toHost, responses]
    · simp [Link.handle, ends]
    · simpa [Link.handle, ends] using booted
    · simp [Link.handle, ends]

theorem Course.disconnects (course : Course gcm tagged) (booted : tagged.link.device.running = none)
    (matched : tagged.link.landed → tagged.sent = [] ∧ tagged.answered = [])
    (safely : EndsSafely tagged (.disconnects hardware)) :
    Proceeds gcm tagged (.disconnects hardware) := by
  by_cases ends : tagged.link.landed ∧ tagged.link.host.suspended = .toLoop ∧
      tagged.link.host.connectionStatus = .closingPhase
  · obtain ⟨landed, suspended, status⟩ := ends
    obtain ⟨sent, answered⟩ := matched landed
    refine ⟨trivial, ?_⟩
    rw [taggedAfter_some (act_disconnects landed suspended status)]
    refine .closed booted landed sent answered (.inr ⟨suspended, rfl⟩) ?_
    rcases safely with complete | ⟨sameIv, unread⟩
    · exact .inl complete
    · exact .inr ⟨unread, sameIv.symm⟩
  · exact course.idle (if_neg ends) (by simp)

theorem Course.breaks (course : Course gcm tagged) (booted : tagged.link.device.running = none)
    (matched : tagged.link.landed → tagged.sent = [] ∧ tagged.answered = [])
    (sameIv : tagged.link.landed → tagged.link.device.connectionStatus ≠ .connected →
      tagged.link.host.iv = tagged.link.device.iv)
    (safely : EndsSafely tagged (.breaks hardware)) : Proceeds gcm tagged (.breaks hardware) := by
  by_cases landed : tagged.link.landed
  · obtain ⟨sent, answered⟩ := matched landed
    refine ⟨trivial, ?_⟩
    rw [taggedAfter_some (act_breaks landed)]
    refine .closed booted landed sent answered (.inl rfl) ?_
    rcases safely with complete | ⟨unread, equal⟩
    · exact .inl complete
    · by_cases status : tagged.link.device.connectionStatus = .connected
      · exact .inr ⟨unread, equal status⟩
      · exact .inr ⟨unread, sameIv landed status⟩
  · exact course.idle (if_neg landed) (by simp)

theorem Course.begins (course : Course gcm tagged)
    (connection : tagged.link.device.connected = true) (selected : UInt8) (image : List UInt8) :
    Proceeds gcm tagged (.begins selected image) :=
  course.idle (if_neg (by simp [connection])) (by simp)

theorem Course.offline (course : Course gcm tagged)
    (offline : tagged.link.device.connected = false) :
    Proceeds gcm tagged (.disconnects hardware) ∧ Proceeds gcm tagged (.breaks hardware) :=
  ⟨course.idle (if_neg (by simp [Link.landed, offline])) (by simp),
    course.idle (if_neg (by simp [Link.landed, offline])) (by simp)⟩

end Common

/-! Before a session, and up to the answer to its START. -/

section Opening

variable {gcm : AesGcm} {tagged : Tagged} {act : Act}

theorem handle_connect {link : Link} (booted : link.device.running = none) :
    link.handle gcm .connect =
      { link with
        device := { link.device.cleared with connected := true, connectionStatus := .connected }
        log := link.log ++ [(link.device, .connect)] } := by
  simp [Link.handle, step_connect gcm booted, responses]

theorem Between.begun (between : Between tagged) (selected : UInt8) (image : List UInt8) :
    Course gcm { tagged with link := { tagged.link with
      host := beginUpload true selected image tagged.link.host }.handle gcm .connect } := by
  have chunks := chunks_beginUpload .secure selected image tagged.link.host
  rw [@handle_connect gcm
    { tagged.link with host := beginUpload true selected image tagged.link.host } between.booted]
  by_cases few : (chunksOf Mode.secure.stored image).length < 65536
  · exact .asking {
      requests := requests_beginUpload .secure selected tagged.link.host few
      unread := between.unread
      toDevice := between.toDevice
      toHost := between.toHost
      booted := between.booted
      connected := rfl
      sameIv := between.sameIv
      cont := rfl
      fits := fun chunk member => @chunksOf_fits Mode.secure.stored image chunk (chunks ▸ member)
      connection := rfl
      fresh := between.fresh } between.sent between.answered
  · exact .unadmitted {
      noStart := .inr (.inr (.inr ⟨by simp [beginUpload, tooBig, equalsMember],
        .inr (chunks ▸ Nat.not_lt.mp few)⟩))
      noRequest := by simp [between.toDevice]
      sentTags := by simp [between.toDevice, between.sent]
      answerTags := by simp [between.toHost, between.answered]
      plain := by simp [between.answered]
      status := rfl
      booted := between.booted
      connection := rfl }

theorem Asking.quiet (asking : Asking tagged.link) : hostEncryptions tagged.link.host = [] := by
  simp [hostEncryptions, asking.requests.suspended, asking.requests.connectionStatus,
    Mode.initPhase]

end Opening

/-! A START that is not admitted. -/

section Unadmitted

variable {gcm : AesGcm} {tagged : Tagged} {act : Act}

theorem noRequest_secureHeader {message : List UInt8} {number : Int}
    (head : message.head? = some (secureHeader number)) : NoRequest message := by
  have digit := secureHeader_digit number
  constructor
  · intro same
    rw [Option.some.inj (head.symm.trans same)] at digit
    revert digit
    decide
  · intro same
    rw [Option.some.inj (head.symm.trans same)] at digit
    revert digit
    decide

theorem NoRequest.startMode {message : List UInt8} (noRequest : NoRequest message)
    (short : message.length ≤ 20) : startMode (.ofBytes message short) = none := by
  obtain ⟨noRaw, noSecure⟩ := noRequest
  cases message with
  | nil => rfl
  | cons first rest =>
      have first : (Packet.ofBytes (first :: rest) short).mem 0 = first := rfl
      simp_all [BleFwUpdate.startMode, verifyDataType]

theorem sendSecureChunk_noRequest (gcm : AesGcm) (host : Host) :
    (sendSecureChunk gcm host).1.connectionStatus = host.connectionStatus ∧
      ∀ message ∈ (sendSecureChunk gcm host).2, NoRequest message := by
  rw [sendSecureChunk]
  split
  · refine ⟨rfl, fun message member => ?_⟩
    rw [List.mem_singleton.mp member]
    exact noRequest_secureHeader rfl
  · exact ⟨rfl, by simp⟩

theorem readVerdict_status (window : Int) (goOn : Bool) (host : Host) :
    (readVerdict window goOn host).connectionStatus = host.connectionStatus ∨
      (readVerdict window goOn host).connectionStatus = .closingPhase := by
  simp only [readVerdict]
  split
  · exact .inl rfl
  · split
    · split
      · exact .inl rfl
      · exact .inr rfl
    · exact .inl rfl

theorem noStart_sending {host after : Host} {messages : List (List UInt8)} {goOn : Bool}
    (status : host.connectionStatus = .sendingCryptoData)
    (resumes : resume gcm goOn host = some (after, messages)) :
    NoStart after ∧ ∀ message ∈ messages, NoRequest message := by
  cases suspended : host.suspended with
  | raised | startSent => simp [resume, suspended, status] at resumes
  | nakSent =>
      simp only [resume, suspended, Option.some.injEq, Prod.mk.injEq] at resumes
      obtain ⟨rfl, rfl⟩ := resumes
      exact ⟨.inr (.inl status), by simp⟩
  | toLoop =>
      simp only [resume, suspended, status] at resumes
      split at resumes
      · obtain ⟨same, noRequest⟩ := sendSecureChunk_noRequest gcm host
        rw [Option.some.inj resumes] at same noRequest
        exact ⟨.inr (.inl (same.trans status)), noRequest⟩
      · obtain ⟨rfl, rfl⟩ := Prod.mk.inj (Option.some.inj resumes)
        exact ⟨.inr (.inr (.inl rfl)), by simp⟩
  | windowSent =>
      simp only [resume, suspended, status] at resumes
      split at resumes
      · obtain ⟨rfl, rfl⟩ := Prod.mk.inj (Option.some.inj resumes)
        refine ⟨.inr (.inl rfl), fun message member => ?_⟩
        rw [List.mem_singleton.mp member]
        simp [NoRequest, startFlashModeCmd, startSecureFlashModeCmd]
      · split at resumes
        · obtain ⟨rfl, rfl⟩ := Prod.mk.inj (Option.some.inj resumes)
          refine ⟨.inr ?_, by simp⟩
          rcases readVerdict_status 16 goOn host with same | closing
          · exact .inl (same.trans status)
          · exact .inr (.inl closing)
        · contradiction

theorem noStart_opening {host after : Host} {messages : List (List UInt8)} {goOn : Bool}
    (status : host.connectionStatus = .initCryptoPhase)
    (more : host.suspended = .startSent ∨ 65536 ≤ host.chunks.length)
    (resumes : resume gcm goOn host = some (after, messages)) :
    NoStart after ∧ ∀ message ∈ messages, NoRequest message := by
  cases suspended : host.suspended with
  | raised | windowSent => simp [resume, suspended, status] at resumes
  | startSent =>
      simp only [resume, suspended, status] at resumes
      split at resumes
      · obtain ⟨rfl, rfl⟩ := Prod.mk.inj (Option.some.inj resumes)
        refine ⟨.inr ?_, by simp⟩
        simp only [readAdmission]
        split
        · exact .inl rfl
        · exact .inr (.inl rfl)
      · contradiction
  | nakSent =>
      simp only [resume, suspended, Option.some.injEq, Prod.mk.injEq] at resumes
      obtain ⟨rfl, rfl⟩ := resumes
      have many := more.resolve_left (by simp [suspended])
      exact ⟨.inr (.inr (.inr ⟨status, .inr many⟩)), by simp⟩
  | toLoop =>
      have many := more.resolve_left (by simp [suspended])
      simp only [resume, suspended, status, sendStart, startMsg, if_neg (Nat.not_lt.mpr many)]
        at resumes
      obtain ⟨rfl, rfl⟩ := Prod.mk.inj (Option.some.inj resumes)
      exact ⟨.inl rfl, by simp⟩

theorem NoStart.resumes {host after : Host} {messages : List (List UInt8)} {goOn : Bool}
    (noStart : NoStart host) (resumes : resume gcm goOn host = some (after, messages)) :
    NoStart after ∧ ∀ message ∈ messages, NoRequest message := by
  rcases noStart with suspended | status | status | ⟨status, more⟩
  · simp [resume, suspended] at resumes
  · exact noStart_sending status resumes
  · cases suspended : host.suspended with
    | nakSent =>
        simp only [resume, suspended, Option.some.injEq, Prod.mk.injEq] at resumes
        obtain ⟨rfl, rfl⟩ := resumes
        exact ⟨.inr (.inr (.inl status)), by simp⟩
    | raised | startSent | toLoop | windowSent => simp [resume, suspended, status] at resumes
  · exact noStart_opening status more resumes

theorem readResponse_chunks (gcm : AesGcm) (data : List UInt8) (host : Host) :
    (readResponse gcm data host).chunks = host.chunks := by
  simp only [readResponse]
  split
  · split <;> rfl
  · split
    · split <;> rfl
    · rfl

theorem NoStart.reads {host : Host} (noStart : NoStart host) (data : List UInt8) :
    NoStart (readResponse gcm data host) := by
  obtain ⟨status, suspended⟩ := readResponse_frame gcm data host
  rw [NoStart, status, suspended, readResponse_chunks]
  exact noStart

theorem Unadmitted.receives (unadmitted : Unadmitted tagged) {first : List UInt8}
    {rest : List (List UInt8)} (queue : tagged.link.toDevice = first :: rest)
    (hardware : Hardware) : Proceeds gcm tagged (.deviceReceives hardware) := by
  by_cases short : first.length ≤ 20
  · have noRequest := unadmitted.noRequest first (by simp [queue])
    have noDecrypt := @connected_decryptIvs gcm hardware (.ofBytes first short) _
      unadmitted.booted unadmitted.status
    obtain ⟨status, booted, connection, noEncrypt⟩ :=
      @connected_refuses gcm hardware (.ofBytes first short) _ unadmitted.booted unadmitted.status
        (by simp [noRequest.startMode short])
    have possible := @act_deviceReceives gcm tagged hardware first rest queue short
    have sentTags := unadmitted.sentTags
    rw [queue, List.length_cons] at sentTags
    refine ⟨?_, ?_⟩
    · refine synchronous_receives possible fun iv member => ?_
      have nothing : iv ∈ ([] : List Iv) := noDecrypt ▸ member
      contradiction
    · rw [taggedAfter_some possible]
      refine .unadmitted { unadmitted with
        noRequest := ?_
        sentTags := ?_
        answerTags := ?_
        plain := ?_
        status := status
        booted := booted
        connection := connection.trans unadmitted.connection }
      · intro message member
        exact unadmitted.noRequest message (by rw [queue]; exact List.mem_cons_of_mem _ member)
      · change tagged.sent.tail.length = rest.length
        rw [List.length_tail, sentTags, Nat.add_sub_cancel]
      · simp [Tagged.taken, Link.handle, unadmitted.answerTags]
      · intro tag member
        rcases List.mem_append.mp member with earlier | now
        · exact unadmitted.plain tag earlier
        · rw [noEncrypt] at now
          obtain ⟨_, _, rfl⟩ := List.mem_map.mp now
          rfl
  · exact Course.idle (.unadmitted unadmitted) (act_deviceReceives_long queue short) (by simp)

theorem Unadmitted.resumes (unadmitted : Unadmitted tagged) (goOn : Bool) :
    Course gcm (tagged.after gcm (.hostResumes goOn)) := by
  cases resumes : resume gcm goOn tagged.link.host with
  | none =>
      rw [taggedAfter_none (act_hostResumes_none resumes)]
      exact .unadmitted unadmitted
  | some result =>
      obtain ⟨noStart, noRequest⟩ := unadmitted.noStart.resumes resumes
      rw [taggedAfter_some (act_hostResumes resumes)]
      refine .unadmitted { unadmitted with
        noStart := noStart
        noRequest := ?_
        sentTags := ?_ }
      · intro message member
        exact (List.mem_append.mp member).elim (unadmitted.noRequest message) (noRequest message)
      · simp [unadmitted.sentTags]

theorem Unadmitted.reads (unadmitted : Unadmitted tagged) :
    Course gcm (tagged.after gcm .hostReads) := by
  cases answers : tagged.link.toHost with
  | nil =>
      rw [taggedAfter_none (act_hostReads_none answers)]
      exact .unadmitted unadmitted
  | cons data rest =>
      have answerTags := unadmitted.answerTags
      rw [answers, List.length_cons] at answerTags
      rw [taggedAfter_some (act_hostReads answers)]
      refine .unadmitted { unadmitted with
        noStart := unadmitted.noStart.reads data
        answerTags := ?_
        plain := fun tag member => unadmitted.plain tag (List.mem_of_mem_tail member) }
      rw [List.length_tail, answerTags]
      rfl

end Unadmitted

/-! The answer to the START. -/

section Asked

variable {gcm : AesGcm} {tagged : Tagged} {before : Link} {hardware : Hardware}

def Tagged.told (gcm : AesGcm) (hardware : Hardware) (before : Link) : Tagged where
  link := before.told gcm hardware .secure
  sent := []
  answered := [firstIv (encryptEffects (before.begun gcm hardware .secure).effects)]

theorem Asking.tells (asking : Asking before) (asked : tagged.link = before.asked .secure)
    (sent : tagged.sent = [none]) (answered : tagged.answered = []) :
    tagged.act gcm (.deviceReceives hardware) = some (.told gcm hardware before) := by
  have queue : tagged.link.toDevice = [before.host.startBytes .secure] := by
    rw [asked]
    rfl
  have tells := @Opens.tells gcm hardware .secure before asking.toOpens
  have responds : responses (before.told gcm hardware .secure).device.effects =
      [startResponse gcm hardware .secure (before.host.startPacket .secure) before.device] :=
    responses_start gcm hardware asking.booted asking.connected (startMode_hostStart .secure _)
  rw [Tagged.act, queue, asked]
  simp only [tells, sent, answered, Option.map_some, responds]
  rfl

theorem Asking.flow (asking : Asking before)
    (isAdmitted : admitted hardware .secure (before.host.startPacket .secure) = true) :
    Flow before.host.chunks.length 0 (.told gcm hardware before) := by
  have started := @Opens.started gcm hardware .secure before asking.toOpens isAdmitted
  have few := asking.requests.sendable
  have number : ((before.host.startPacket .secure).number 2).toNat = before.host.chunks.length := by
    rw [Host.startPacket, number_startPacket, UInt16.toNat_ofNat']
    exact Nat.mod_eq_of_lt few
  have small := bounded_of_fits started.fits
  rw [number] at small
  exact {
    chunks := rfl
    small := small
    fits := asking.fits
    security := asking.requests.security
    cont := asking.cont
    upTo := Nat.zero_le _
    booted := started.running.trans asking.booted
    connection := started.connected.trans asking.connection
    receving := by
      rw [show (Tagged.told gcm hardware before).link.device.connectionStatus = _ from
        started.connectionStatus]
      simp [Mode.status]
    totalPck := (congrArg UInt16.toNat started.totalPck).trans number
    hostIv := asking.sameIv.trans started.iv.symm
    tags := rfl
    data := by simp [Tagged.told, Link.told] }

theorem Asking.answered_admitted (asking : Asking before)
    (isAdmitted : admitted hardware .secure (before.host.startPacket .secure) = true) :
    Course gcm (.told gcm hardware before) := by
  have flow := @Asking.flow gcm before hardware asking isAdmitted
  have started := @Opens.started gcm hardware .secure before asking.toOpens isAdmitted
  obtain ⟨rand, _⟩ := @Opens.begun_rand gcm hardware before asking.toOpens isAdmitted
  have encrypted := @encryptEffects_begun gcm hardware before asking.toOpens isAdmitted
  refine .told { flow with
    waits := ⟨asking.cont, .inl ⟨rfl, asking.requests.connectionStatus, rfl⟩⟩
    landed := rfl
    settled := .inl ⟨0, ?_, fun _ => started.connectionStatus⟩ } ?_ asking.unread
    ⟨true, before.device.countPck, ?_⟩ ?_
  · change (before.begun gcm hardware .secure).countPck.toNat + 16 * 0 = 0
    rw [started.countPck, asking.fresh]
    rfl
  · simp [Tagged.told, Link.told, Host.sent]
  · change [startResponse gcm hardware .secure (before.host.startPacket .secure)
      before.device] = [secureResponse gcm (before.begun gcm hardware .secure).iv true
        before.device.countPck (before.begun gcm hardware .secure).randIv]
    simp only [startResponse, isAdmitted, rand, started.iv]
  · change [firstIv (encryptEffects (before.begun gcm hardware .secure).effects)] =
      [some (before.begun gcm hardware .secure).iv]
    rw [encrypted, started.iv]
    rfl

theorem Asking.answered_refused (asking : Asking before)
    (isRefused : admitted hardware .secure (before.host.startPacket .secure) = false) :
    Course gcm (.told gcm hardware before) := by
  have refused (mode : Mode) (start : startMode (before.host.startPacket .secure) = some mode) :
      admitted hardware mode (before.host.startPacket .secure) = false := by
    rw [startMode_hostStart, Option.some.injEq] at start
    exact start ▸ isRefused
  obtain ⟨status, booted, connection, noEncrypt⟩ :=
    @connected_refuses gcm hardware (before.host.startPacket .secure) _ asking.booted
      asking.connected refused
  refine .unadmitted {
    noStart := .inr (.inr (.inr ⟨asking.requests.connectionStatus, .inl rfl⟩))
    noRequest := by simp [Tagged.told, Link.told]
    sentTags := rfl
    answerTags := rfl
    plain := ?_
    status := status
    booted := booted
    connection := connection.trans asking.connection }
  intro tag member
  rw [List.mem_singleton.mp member, Link.begun, noEncrypt]
  rfl

theorem Asking.answered (asking : Asking before) (asked : tagged.link = before.asked .secure)
    (sent : tagged.sent = [none]) (answered : tagged.answered = []) :
    Proceeds gcm tagged (.deviceReceives hardware) := by
  have possible := @Asking.tells gcm tagged before hardware asking asked sent answered
  have noDecrypt := @connected_decryptIvs gcm hardware (before.host.startPacket .secure) _
    asking.booted asking.connected
  refine ⟨synchronous_receives possible fun iv member => ?_, ?_⟩
  · have nothing : iv ∈ ([] : List Iv) := noDecrypt ▸ member
    contradiction
  · rw [taggedAfter_some possible]
    cases isAdmitted : admitted hardware .secure (before.host.startPacket .secure) with
    | true => exact asking.answered_admitted isAdmitted
    | false => exact asking.answered_refused isAdmitted

end Asked

end BleFwUpdate
