import BleFwUpdate.Agreement

/-! The START of a session: what both sides make of it. -/

namespace BleFwUpdate

namespace Mode

def initPhase : Mode → HostStatus
  | raw => .initPhase
  | secure => .initCryptoPhase

def sendingPhase : Mode → HostStatus
  | raw => .sendingData
  | secure => .sendingCryptoData

end Mode

/-- The host is about to send the START of an upload, as `beginUpload` leaves it. -/
structure Requests (mode : Mode) (host : Host) : Prop where
  suspended : host.suspended = .toLoop
  connectionStatus : host.connectionStatus = mode.initPhase
  security : host.security = (mode == .secure)
  sendable : host.chunks.length < 65536

def deliver (gcm : AesGcm) (hardware : Hardware) (device : Device) (msg : List UInt8) :
    Option Device :=
  if short : msg.length ≤ 20 then
    some (step gcm device (.receive (.ofBytes msg short) hardware))
  else none

/-- The host sends its START, the device answers, and the host goes on: with the answer read,
or, where `ack_rcv` is still set from before, possibly before the answer is there. -/
def handshake (gcm : AesGcm) (hardware : Hardware) (readFirst : Bool) (device : Device)
    (host : Host) : Option (Device × Host) := do
  let (host, messages) ← resume gcm false host
  let device ← deliver gcm hardware device (← messages.head?)
  let answer ← (responses device.effects).head?
  if readFirst then
    let (host, _) ← resume gcm false (readResponse gcm answer host)
    return (device, host)
  else
    let (host, _) ← resume gcm false host
    return (device, readResponse gcm answer host)

/-- Both sides have entered the same session, or the host has ended the upload. -/
def Agree (gcm : AesGcm) (device : Device) (host : Host) : Prop :=
  (host.connectionStatus = .sendingData ↔ device.connectionStatus = .recevingRawFw) ∧
    (host.connectionStatus = .sendingCryptoData ↔
      device.connectionStatus = .recevingSecureFw) ∧
    (device.connectionStatus = .connected →
      host.connectionStatus = .closingPhase ∧ ∀ goOn, resume gcm goOn host = none)

/-- The tag of the device's positive answer to a secure START is valid under the `iv` of the
host, as it is if both sides have the same initialization vector. -/
def TagAgrees (gcm : AesGcm) (hardware : Hardware) (device : Device) (host : Host) : Prop :=
  let ciphertext := gcm.ctr device.iv (responsePlaintext device.countPck
    (getRandBytes (initRandGenerator hardware.timer)).1)
  gcm.mac host.iv [ackCmd] ciphertext = gcm.mac device.iv [ackCmd] ciphertext

def startResponse (gcm : AesGcm) (hardware : Hardware) (mode : Mode) (packet : Packet)
    (device : Device) : List UInt8 :=
  match mode, admitted hardware mode packet with
  | .secure, true => secureResponse gcm device.iv true device.countPck
      (getRandBytes (initRandGenerator hardware.timer)).1
  | _, ack => rawResponse hardware ack device.countPck

section Start

variable (gcm : AesGcm) (hardware : Hardware) {mode : Mode} {packet : Packet} {device : Device}

theorem responses_start (booted : device.running = none)
    (status : device.connectionStatus = .connected) (start : startMode packet = some mode) :
    responses (step gcm device (.receive packet hardware)).effects =
      [startResponse gcm hardware mode packet device] := by
  rw [step_connected gcm packet hardware booted status, handleConnected_eq, start]
  dsimp only
  cases isAdmitted : admitted hardware mode packet with
  | false =>
      cases mode <;> simp only [startResponse, isAdmitted] <;> rfl
  | true =>
      cases mode <;> simp only [startResponse, isAdmitted] <;> rfl

theorem status_start (booted : device.running = none)
    (status : device.connectionStatus = .connected) (start : startMode packet = some mode) :
    (step gcm device (.receive packet hardware)).connectionStatus =
      if admitted hardware mode packet then mode.status else .connected := by
  obtain ⟨_, _, _, _, _, _, _, _, _, shape⟩ :=
    handleConnected_shape gcm hardware packet device.cleared status
  rw [step_connected gcm packet hardware booted status, shape, start]

end Start

def Host.sent (host : Host) : Host := { host with suspended := .startSent }

def Host.startPacket (mode : Mode) (host : Host) : Packet :=
  BleFwUpdate.startPacket mode.startCmd host.selectedAppUpdate host.chunks.length

section Request

variable (gcm : AesGcm) {mode : Mode} {host : Host}

theorem resume_request (goOn : Bool) (requests : Requests mode host) :
    resume gcm goOn host =
      some (host.sent,
        [[mode.startCmd, host.selectedAppUpdate, UInt8.ofNat (host.chunks.length / 256),
          UInt8.ofNat host.chunks.length,
          UInt8.ofNat (host.chunks.length / 256) + UInt8.ofNat host.chunks.length]]) := by
  cases mode with
  | raw =>
      simp [resume, requests.suspended, requests.connectionStatus, Mode.initPhase, sendStart,
        startMsg, requests.sendable, Mode.startCmd, startFlashModeCmd, Host.sent]
  | secure =>
      have crypto : host.security = true := requests.security
      simp [resume, requests.suspended, requests.connectionStatus, Mode.initPhase, sendStart,
        startMsg, requests.sendable, Mode.startCmd, startSecureFlashModeCmd, crypto,
        Host.sent]

theorem resume_admission (goOn : Bool) (sent : host.suspended = .startSent)
    (status : host.connectionStatus = mode.initPhase) (received : host.ackRcv = true) :
    resume gcm goOn host = some (readAdmission mode.sendingPhase host, []) := by
  cases mode <;> simp [resume, sent, status, received, Mode.initPhase, Mode.sendingPhase]

end Request

/-! The answer of the device, as the host reads it. -/

theorem readResponse_frame (gcm : AesGcm) (data : List UInt8) (host : Host) :
    (readResponse gcm data host).connectionStatus = host.connectionStatus ∧
      (readResponse gcm data host).suspended = host.suspended := by
  simp only [readResponse]
  split
  · split <;> exact ⟨rfl, rfl⟩
  · split
    · split <;> exact ⟨rfl, rfl⟩
    · exact ⟨rfl, rfl⟩

section Answer

variable (gcm : AesGcm) (hardware : Hardware) {mode : Mode} {host : Host}

theorem readResponse_rawInSecure (lawful : gcm.Lawful) (ack : Bool) (count : UInt16)
    (crypto : host.security = true) :
    readResponse gcm (rawResponse hardware ack count) host =
      { host with msgTampered := true, ackRcv := true } := by
  have refused : decryptMessage gcm host (rawResponse hardware ack count) = none := by
    have length := lawful.length_mac host.iv [ackByte ack]
      [highByte count, lowByte count, hexDigit (sumPayload
        (fun index => [ackByte ack, highByte count, lowByte count, hardware.msgStack].getD
          index.toNat 0) 2 3 >>> 4)]
    rw [decryptMessage, AesGcm.decrypt, if_neg]
    intro noTag
    have empty := congrArg List.length noTag
    simp only [rawResponse, List.take_succ_cons, List.take_zero, List.drop_succ_cons,
      List.drop_zero, List.take_nil, List.drop_nil, List.length_nil] at empty
    omega
  simp [readResponse, crypto, refused]

theorem readResponse_secureAck (lawful : gcm.Lawful) (iv : Iv) (count : UInt16)
    (randIv : Vector UInt8 3) (crypto : host.security = true) :
    (readResponse gcm (secureResponse gcm iv true count randIv) host).ackRcv = true ∧
    (readResponse gcm (secureResponse gcm iv true count randIv) host).isAck =
      if gcm.mac host.iv [ackCmd] (gcm.ctr iv (responsePlaintext count randIv)) =
        gcm.mac iv [ackCmd] (gcm.ctr iv (responsePlaintext count randIv)) then true
      else host.isAck := by
  have decrypted := decryptMessage_secureResponse lawful host iv true count randIv
  have flag : (secureResponse gcm iv true count randIv).headD 0 = ackCmd := rfl
  have digit : ackCmd >>> 4 = 0 := by decide
  have nonempty (under : Iv) :
      ∃ first rest, gcm.ctr under (gcm.ctr iv (responsePlaintext count randIv)) = first :: rest := by
    apply List.exists_cons_of_length_pos
    simp [lawful.length_ctr, responsePlaintext]
  obtain ⟨first, rest, plain⟩ := nonempty host.iv
  simp only [AesGcm.decrypt, AesGcm.encrypt, plain] at decrypted
  have ack : ackByte true = ackCmd := rfl
  rw [ack] at decrypted
  simp only [readResponse, crypto, Bool.not_true, Bool.false_eq_true, if_false, decrypted, flag,
    digit, if_true]
  split <;> simp_all

theorem read_startResponse (lawful : gcm.Lawful) (packet : Packet) (device : Device)
    (security : host.security = (mode == .secure)) :
    let read := readResponse gcm (startResponse gcm hardware mode packet device) host
    read.ackRcv = true ∧
      (read.isAck = admitted hardware mode packet ↔
        (mode = .raw ∨ (admitted hardware mode packet = true ∧
          TagAgrees gcm hardware device host)) ∨
        host.isAck = admitted hardware mode packet) := by
  cases isAdmitted : admitted hardware mode packet with
  | false =>
      cases mode with
      | raw =>
          simp only [startResponse, isAdmitted]
          rw [readResponse_raw gcm hardware false device.countPck security]
          simp
      | secure =>
          simp only [startResponse, isAdmitted]
          rw [readResponse_rawInSecure gcm hardware lawful false device.countPck security]
          simp
  | true =>
      cases mode with
      | raw =>
          simp only [startResponse, isAdmitted]
          rw [readResponse_raw gcm hardware true device.countPck security]
          simp
      | secure =>
          obtain ⟨received, verdict⟩ := readResponse_secureAck gcm lawful device.iv device.countPck
            (getRandBytes (initRandGenerator hardware.timer)).1 security
          simp only [startResponse, isAdmitted, received, verdict, TagAgrees]
          simp

end Answer

theorem deliver_request (gcm : AesGcm) (hardware : Hardware) (device : Device) (mode : Mode)
    (host : Host) :
    deliver gcm hardware device
        [mode.startCmd, host.selectedAppUpdate, UInt8.ofNat (host.chunks.length / 256),
          UInt8.ofNat host.chunks.length,
          UInt8.ofNat (host.chunks.length / 256) + UInt8.ofNat host.chunks.length] =
      some (step gcm device (.receive (host.startPacket mode) hardware)) := rfl

theorem handshake_eq (gcm : AesGcm) (lawful : gcm.Lawful) (hardware : Hardware)
    (readFirst : Bool) {mode : Mode} {device : Device} {host : Host}
    (requests : Requests mode host) (booted : device.running = none)
    (connected : device.connectionStatus = .connected)
    (received : readFirst = true ∨ host.ackRcv = true) :
    ∃ after, handshake gcm hardware readFirst device host =
        some (step gcm device (.receive (host.startPacket mode) hardware), after) ∧
      after.suspended = .toLoop ∧
      after.connectionStatus =
        if (if readFirst then (readResponse gcm
            (startResponse gcm hardware mode (host.startPacket mode) device) host.sent).isAck
          else host.isAck) then mode.sendingPhase else .closingPhase := by
  have isStart : startMode (host.startPacket mode) = some mode := startMode_startPacket mode _ _
  have answered := responses_start gcm hardware booted connected isStart
  simp only [handshake, resume_request gcm false requests, Option.bind_eq_bind, Option.bind_some,
    List.head?_cons, deliver_request, answered]
  cases readFirst with
  | true =>
      obtain ⟨status, suspended⟩ := readResponse_frame gcm
        (startResponse gcm hardware mode (host.startPacket mode) device) host.sent
      obtain ⟨read, _⟩ := read_startResponse gcm hardware lawful (host.startPacket mode) device
        (show host.sent.security = _ from requests.security)
      rw [resume_admission gcm false suspended (status.trans requests.connectionStatus) read]
      exact ⟨_, rfl, rfl, rfl⟩
  | false =>
      have stale : host.sent.ackRcv = true := received.resolve_left (by simp)
      obtain ⟨status, suspended⟩ := readResponse_frame gcm
        (startResponse gcm hardware mode (host.startPacket mode) device)
        (readAdmission mode.sendingPhase host.sent)
      have goesOn : resume gcm false host.sent =
          some (readAdmission mode.sendingPhase host.sent, []) :=
        resume_admission gcm false rfl requests.connectionStatus stale
      rw [goesOn]
      exact ⟨_, rfl, suspended, status⟩

theorem agree_iff (gcm : AesGcm) {mode : Mode} {device : Device} {host : Host}
    {ack isAdmitted : Bool}
    (suspended : host.suspended = .toLoop)
    (hostStatus : host.connectionStatus = if ack then mode.sendingPhase else .closingPhase)
    (deviceStatus : device.connectionStatus = if isAdmitted then mode.status else .connected) :
    Agree gcm device host ↔ ack = isAdmitted := by
  cases ack <;> cases isAdmitted <;> cases mode <;>
    simp [Agree, hostStatus, deviceStatus, resume, suspended, Mode.sendingPhase, Mode.status]

/-- After the handshake both sides agree exactly if the host has read the answer and can read
it (in secure mode: a positive answer with a valid tag), or had the right verdict before. -/
theorem handshake_agrees_iff (gcm : AesGcm) (lawful : gcm.Lawful) (hardware : Hardware)
    (readFirst : Bool) (mode : Mode) (device : Device) (host : Host)
    (requests : Requests mode host) (booted : device.running = none)
    (connected : device.connectionStatus = .connected)
    (received : readFirst = true ∨ host.ackRcv = true) :
    ∃ deviceAfter hostAfter,
      handshake gcm hardware readFirst device host = some (deviceAfter, hostAfter) ∧
      (Agree gcm deviceAfter hostAfter ↔
        readFirst = true ∧ (mode = .raw ∨
          (admitted hardware mode (host.startPacket mode) = true ∧
            TagAgrees gcm hardware device host)) ∨
        host.isAck = admitted hardware mode (host.startPacket mode)) := by
  obtain ⟨after, ends, suspended, hostStatus⟩ :=
    handshake_eq gcm lawful hardware readFirst requests booted connected received
  have isStart : startMode (host.startPacket mode) = some mode := startMode_startPacket mode _ _
  have deviceStatus := status_start gcm hardware booted connected isStart
  refine ⟨_, after, ends, (agree_iff gcm suspended hostStatus deviceStatus).trans ?_⟩
  cases readFirst with
  | true =>
      have read := (read_startResponse gcm hardware lawful (host.startPacket mode) device
        (show host.sent.security = _ from requests.security)).2
      simp only [if_true, true_and]
      exact read
  | false => simp

theorem handshake_agrees_secure :
    let host := { initialHost with
      security := true, connectionStatus := .initCryptoPhase, selectedAppUpdate := 1
      chunks := [List.replicate 15 0] }
    ∃ deviceAfter hostAfter,
      handshake .sample (.working 0x1234) true (run .sample (fun _ => 0) [.connect]) host =
        some (deviceAfter, hostAfter) ∧
      Agree .sample deviceAfter hostAfter := by
  intro host
  obtain ⟨deviceAfter, hostAfter, ends, agrees⟩ :=
    handshake_agrees_iff .sample (AesGcm.lawful_ofTables _ _) (.working 0x1234) true .secure
      (run .sample (fun _ => 0) [.connect]) host ⟨rfl, rfl, rfl, by decide⟩ rfl rfl (.inl rfl)
  exact ⟨deviceAfter, hostAfter, ends, agrees.mpr (.inl ⟨rfl, .inr ⟨by decide +kernel, rfl⟩⟩)⟩

/-- The erase for the first secure START fails: the host cannot read the refusal, and starts
to send the firmware. -/
theorem secureStart_refused_unread :
    let host := { initialHost with
      security := true, connectionStatus := .initCryptoPhase, selectedAppUpdate := 1
      chunks := [List.replicate 15 0] }
    let device := run .sample (fun _ => 0) [.connect]
    let failing := { Hardware.working 0x1234 with eraseError := some 0 }
    ∃ deviceAfter hostAfter,
      handshake .sample failing true device host = some (deviceAfter, hostAfter) ∧
      deviceAfter.connectionStatus = .connected ∧
      hostAfter.connectionStatus = .sendingCryptoData ∧
      ¬ Agree .sample deviceAfter hostAfter ∧
      ((resume .sample true hostAfter).map fun after => after.2.length) = some 1 :=
  ⟨_, _, rfl, by decide +kernel, by decide +kernel,
    fun agree => absurd (agree.2.2 (by decide +kernel)).1 (by decide +kernel), by decide +kernel⟩

end BleFwUpdate
