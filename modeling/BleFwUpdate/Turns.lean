import BleFwUpdate.Delivery

/-! Both sides on a link with faults: packets may be lost on the way to the device, or changed,
and the flash calls may fail. -/

namespace BleFwUpdate

open Transitions

inductive Turn
  | hostResumes (goOn : Bool)
  -- the bytes arrive in place of the first message under way
  | deviceReceives (hardware : Hardware) (bytes : List UInt8)
  | loses
  | hostReads

def Link.turn (gcm : AesGcm) (link : Link) : Turn → Option Link
  | .hostResumes goOn =>
      (resume gcm goOn link.host).map fun (host, messages) =>
        { link with host := host, toDevice := link.toDevice ++ messages }
  | .deviceReceives hardware bytes =>
      match link.toDevice with
      | [] => none
      | _ :: rest =>
          if short : bytes.length ≤ 20 then
            some ({ link with toDevice := rest }.handle gcm
              (.receive (.ofBytes bytes short) hardware))
          else none
  | .loses =>
      match link.toDevice with
      | [] => none
      | _ :: rest => some { link with toDevice := rest }
  | .hostReads =>
      match link.toHost with
      | [] => none
      | data :: rest => some { link with host := readResponse gcm data link.host, toHost := rest }

/-- The link after a turn. A turn that is not possible changes nothing. -/
def Link.after (gcm : AesGcm) (link : Link) (turn : Turn) : Link :=
  (link.turn gcm turn).getD link

section Turns

variable {gcm : AesGcm} {link : Link}

theorem turn_hostResumes_none {goOn : Bool} (blocked : resume gcm goOn link.host = none) :
    link.turn gcm (.hostResumes goOn) = none := by
  rw [Link.turn, blocked]
  rfl

theorem turn_hostResumes {goOn : Bool} {host : Host} {messages : List (List UInt8)}
    (resumes : resume gcm goOn link.host = some (host, messages)) :
    link.turn gcm (.hostResumes goOn) =
      some { link with host := host, toDevice := link.toDevice ++ messages } := by
  rw [Link.turn, resumes]
  rfl

theorem turn_deviceReceives_none {hardware : Hardware} {bytes : List UInt8}
    (empty : link.toDevice = []) : link.turn gcm (.deviceReceives hardware bytes) = none := by
  rw [Link.turn, empty]

theorem turn_deviceReceives {hardware : Hardware} {bytes first : List UInt8}
    {rest : List (List UInt8)} (queue : link.toDevice = first :: rest)
    (short : bytes.length ≤ 20) :
    link.turn gcm (.deviceReceives hardware bytes) =
      some ({ link with toDevice := rest }.handle gcm
        (.receive (.ofBytes bytes short) hardware)) := by
  rw [Link.turn, queue]
  exact dif_pos short

theorem turn_deviceReceives_long {hardware : Hardware} {bytes : List UInt8}
    (long : ¬ bytes.length ≤ 20) : link.turn gcm (.deviceReceives hardware bytes) = none := by
  rw [Link.turn]
  split
  · rfl
  · exact dif_neg long

theorem turn_loses {first : List UInt8} {rest : List (List UInt8)}
    (queue : link.toDevice = first :: rest) :
    link.turn gcm .loses = some { link with toDevice := rest } := by
  rw [Link.turn, queue]

theorem turn_hostReads_none (silent : link.toHost = []) : link.turn gcm .hostReads = none := by
  rw [Link.turn, silent]

theorem turn_hostReads {data : List UInt8} {rest : List (List UInt8)}
    (answered : link.toHost = data :: rest) :
    link.turn gcm .hostReads =
      some { link with host := readResponse gcm data link.host, toHost := rest } := by
  rw [Link.turn, answered]

theorem after_none {turn : Turn} (impossible : link.turn gcm turn = none) :
    link.after gcm turn = link := by
  rw [Link.after, impossible]
  rfl

theorem after_some {turn : Turn} {next : Link} (possible : link.turn gcm turn = some next) :
    link.after gcm turn = next := by
  rw [Link.after, possible]
  rfl

end Turns

/-! The START of a session. -/

def Host.startBytes (mode : Mode) (host : Host) : List UInt8 :=
  [mode.startCmd, host.selectedAppUpdate, UInt8.ofNat (host.chunks.length / 256),
    UInt8.ofNat host.chunks.length,
    UInt8.ofNat (host.chunks.length / 256) + UInt8.ofNat host.chunks.length]

/-- The host sends its START, the device answers it, and the host reads the answer and goes on. -/
def Link.opening (hardware : Hardware) (mode : Mode) (link : Link) : List Turn :=
  [.hostResumes false, .deviceReceives hardware (link.host.startBytes mode), .hostReads,
    .hostResumes false]

def Link.opened (gcm : AesGcm) (hardware : Hardware) (mode : Mode) (link : Link) : Link :=
  runFrom (Link.after gcm) link (link.opening hardware mode)

theorem startMode_hostStart (mode : Mode) (host : Host) :
    startMode (host.startPacket mode) = some mode := startMode_startPacket mode _ _

/-- Both sides are about to open a session, with nothing left from the one before. -/
structure Opens (mode : Mode) (link : Link) : Prop where
  requests : Requests mode link.host
  unread : link.host.ackRcv = false
  toDevice : link.toDevice = []
  toHost : link.toHost = []
  booted : link.device.running = none
  connected : link.device.connectionStatus = .connected

section Opening

variable {gcm : AesGcm} {hardware : Hardware} {mode : Mode} {link : Link}

def Link.begun (gcm : AesGcm) (hardware : Hardware) (mode : Mode) (link : Link) : Device :=
  step gcm link.device (.receive (link.host.startPacket mode) hardware)

theorem Opens.started (opens : Opens mode link)
    (isAdmitted : admitted hardware mode (link.host.startPacket mode) = true) :
    Started mode (link.host.startPacket mode) link.device (link.begun gcm hardware mode) :=
  BleFwUpdate.started gcm opens.booted opens.connected (startMode_hostStart mode _) isAdmitted

def Link.asked (mode : Mode) (link : Link) : Link :=
  { link with host := link.host.sent, toDevice := [link.host.startBytes mode] }

def Link.told (gcm : AesGcm) (hardware : Hardware) (mode : Mode) (link : Link) : Link where
  host := link.host.sent
  device := link.begun gcm hardware mode
  toDevice := []
  toHost := [startResponse gcm hardware mode (link.host.startPacket mode) link.device]
  log := link.log ++ [(link.device, .receive (link.host.startPacket mode) hardware)]

theorem Opens.asks (opens : Opens mode link) (goOn : Bool) :
    link.turn gcm (.hostResumes goOn) = some (link.asked mode) := by
  rw [turn_hostResumes (resume_request gcm goOn opens.requests), opens.toDevice]
  rfl

theorem Opens.tells (opens : Opens mode link) :
    (link.asked mode).turn gcm (.deviceReceives hardware (link.host.startBytes mode)) =
      some (link.told gcm hardware mode) := by
  have short : (link.host.startBytes mode).length ≤ 20 := Nat.le_add_left 5 15
  have answered : responses (step gcm link.device
      (.receive (.ofBytes (link.host.startBytes mode) short) hardware)).effects =
        [startResponse gcm hardware mode (link.host.startPacket mode) link.device] :=
    responses_start gcm hardware opens.booted opens.connected (startMode_hostStart mode link.host)
  rw [turn_deviceReceives rfl short]
  simp only [Link.handle, Link.asked, answered, opens.toHost]
  rfl

theorem Opens.opened (opens : Opens mode link)
    (read : (readResponse gcm (startResponse gcm hardware mode (link.host.startPacket mode)
      link.device) link.host.sent).ackRcv = true) :
    link.opened gcm hardware mode =
      { host := readAdmission mode.sendingPhase (readResponse gcm (startResponse gcm hardware mode
          (link.host.startPacket mode) link.device) link.host.sent)
        device := link.begun gcm hardware mode
        toDevice := []
        toHost := []
        log := link.log ++ [(link.device, .receive (link.host.startPacket mode) hardware)] } := by
  obtain ⟨status, suspended⟩ := readResponse_frame gcm
    (startResponse gcm hardware mode (link.host.startPacket mode) link.device) link.host.sent
  have goesOn := resume_admission gcm false suspended
    (status.trans opens.requests.connectionStatus) read
  have reads := @turn_hostReads gcm (link.told gcm hardware mode) _ _ rfl
  rw [Link.opened, Link.opening, runFrom_cons, after_some (opens.asks false), runFrom_cons,
    after_some opens.tells, runFrom_cons, after_some reads, runFrom_cons,
    after_some (turn_hostResumes goesOn)]
  rfl

theorem Opens.opened_raw {link : Link} (opens : Opens .raw link)
    (isAdmitted : admitted hardware .raw (link.host.startPacket .raw) = true) :
    link.opened gcm hardware .raw =
      { host := { link.host with
          ackRcv := false
          isAck := true
          connectionStatus := .sendingData
          suspended := .toLoop
          contChunck := 0 }
        device := link.begun gcm hardware .raw
        toDevice := []
        toHost := []
        log := link.log ++ [(link.device, .receive (link.host.startPacket .raw) hardware)] } := by
  have answer : startResponse gcm hardware .raw (link.host.startPacket .raw) link.device =
      rawResponse hardware true link.device.countPck := by
    simp only [startResponse, isAdmitted]
  have plain : link.host.sent.security = false := opens.requests.security
  have reads := readResponse_raw gcm hardware true link.device.countPck plain
  rw [← answer] at reads
  rw [opens.opened (by rw [reads]), reads]
  rfl

theorem Opens.begun_rand {link : Link} (opens : Opens .secure link)
    (isAdmitted : admitted hardware .secure (link.host.startPacket .secure) = true) :
    (link.begun gcm hardware .secure).randIv = (getRandBytes (initRandGenerator hardware.timer)).1 ∧
      (link.begun gcm hardware .secure).reg =
        (getRandBytes (initRandGenerator hardware.timer)).2 := by
  rw [Link.begun, step_connected gcm _ hardware opens.booted opens.connected, handleConnected_eq,
    startMode_hostStart]
  simp only [isAdmitted, if_true]
  exact ⟨rfl, rfl⟩

theorem Opens.opened_secure {link : Link} (lawful : gcm.Lawful) (opens : Opens .secure link)
    (isAdmitted : admitted hardware .secure (link.host.startPacket .secure) = true)
    (sameIv : link.host.iv = link.device.iv) :
    link.opened gcm hardware .secure =
      { host := { link.host with
          ackRcv := false
          isAck := true
          msgTampered := false
          randIv := (link.begun gcm hardware .secure).randIv.toList
          connectionStatus := .sendingCryptoData
          suspended := .toLoop
          contChunck := 0 }
        device := link.begun gcm hardware .secure
        toDevice := []
        toHost := []
        log := link.log ++ [(link.device, .receive (link.host.startPacket .secure) hardware)] } := by
  obtain ⟨randIv, _⟩ := @Opens.begun_rand gcm hardware link opens isAdmitted
  have answer : startResponse gcm hardware .secure (link.host.startPacket .secure) link.device =
      secureResponse gcm link.device.iv true link.device.countPck
        (link.begun gcm hardware .secure).randIv := by
    simp only [startResponse, isAdmitted, randIv]
  have crypto : link.host.sent.security = true := opens.requests.security
  have reads := readResponse_secure lawful crypto link.device.iv sameIv true link.device.countPck
    (link.begun gcm hardware .secure).randIv
  rw [← answer] at reads
  rw [opens.opened (by rw [reads]), reads]
  rfl

end Opening

/-- Before the first session of a device since power-on. -/
def firstLink (gcm : AesGcm) (flash : UInt32 → UInt64) (mode : Mode) (selected : UInt8)
    (image : List UInt8) (host : Host) : Link where
  host := beginUpload (mode == .secure) selected image host
  device := run gcm flash [.connect]
  toDevice := []
  toHost := []
  log := []

theorem chunks_beginUpload (mode : Mode) (selected : UInt8) (image : List UInt8) (host : Host) :
    (beginUpload (mode == .secure) selected image host).chunks = chunksOf mode.stored image := by
  cases mode <;> rfl

theorem requests_beginUpload (mode : Mode) (selected : UInt8) {image : List UInt8} (host : Host)
    (few : (chunksOf mode.stored image).length < 65536) :
    Requests mode (beginUpload (mode == .secure) selected image host) where
  suspended := rfl
  connectionStatus := by cases mode <;> simp [beginUpload, tooBig, equalsMember, Mode.initPhase]
  security := rfl
  sendable := by rw [chunks_beginUpload]; exact few

theorem opens_firstLink (gcm : AesGcm) (flash : UInt32 → UInt64) (mode : Mode) (selected : UInt8)
    {image : List UInt8} {host : Host} (unread : host.ackRcv = false)
    (few : (chunksOf mode.stored image).length < 65536) :
    Opens mode (firstLink gcm flash mode selected image host) where
  requests := requests_beginUpload mode selected host few
  unread := unread
  toDevice := rfl
  toHost := rfl
  booted := rfl
  connected := rfl

end BleFwUpdate
