import BleFwUpdate.Completion
import BleFwUpdate.EndToEnd
import BleFwUpdate.Nonces

/-! Secure sessions one after another, between one host and one device, on a link that delivers
every message. -/

namespace BleFwUpdate

open Transitions

/-- The link, and the vector that each message under way has been encrypted under, if any. -/
structure Tagged where
  link : Link
  sent : List (Option Iv)
  answered : List (Option Iv)

inductive Act
  | hostResumes (goOn : Bool)
  | deviceReceives (hardware : Hardware)
  | hostReads
  -- the host has ended the upload
  | disconnects (hardware : Hardware)
  -- the connection is lost, and the exception ends the upload of the host
  | breaks (hardware : Hardware)
  | begins (selected : UInt8) (image : List UInt8)

def firstIv (made : List Encryption) : Option Iv := made.head?.map Encryption.iv

def decryptIvs (effects : List Effect) : List Iv :=
  effects.filterMap fun
    | .decrypt iv _ _ _ _ => some iv
    | _ => none

/-- A session ends when every message has been delivered. -/
def Link.landed (link : Link) : Prop :=
  link.device.connected = true ∧ link.toDevice = [] ∧ link.toHost = []

instance (link : Link) : Decidable link.landed := inferInstanceAs (Decidable (_ ∧ _))

def Tagged.act (gcm : AesGcm) (tagged : Tagged) : Act → Option Tagged
  | .hostResumes goOn =>
      (resume gcm goOn tagged.link.host).map fun (host, messages) =>
        { tagged with
          link := { tagged.link with host := host, toDevice := tagged.link.toDevice ++ messages }
          sent := tagged.sent ++
            messages.map fun _ => firstIv (hostEncryptions tagged.link.host) }
  | .deviceReceives hardware =>
      match tagged.link.toDevice with
      | [] => none
      | bytes :: _ =>
          (tagged.link.turn gcm (.deviceReceives hardware bytes)).map fun next =>
            { link := next
              sent := tagged.sent.tail
              answered := tagged.answered ++ (responses next.device.effects).map fun _ =>
                firstIv (encryptEffects next.device.effects) }
  | .hostReads =>
      (tagged.link.turn gcm .hostReads).map fun next =>
        { tagged with link := next, answered := tagged.answered.tail }
  | .disconnects hardware =>
      if tagged.link.landed ∧ tagged.link.host.suspended = .toLoop ∧
          tagged.link.host.connectionStatus = .closingPhase then
        some { tagged with
          link := { tagged.link with host := endUpload tagged.link.host }.handle gcm
            (.disconnect hardware) }
      else none
  | .breaks hardware =>
      if tagged.link.landed then
        some { tagged with
          link := { tagged.link with host := tagged.link.host.raise }.handle gcm
            (.disconnect hardware) }
      else none
  | .begins selected image =>
      -- A device that advertises can be connected to, by a host without an upload.
      if tagged.link.device.connected = false ∧ tagged.link.device.running = none ∧
          (tagged.link.host.connectionStatus = .idle ∨ tagged.link.host.suspended = .raised) then
        some { tagged with
          link := { tagged.link with
            host := beginUpload true selected image tagged.link.host }.handle gcm .connect }
      else none

def Tagged.after (gcm : AesGcm) (tagged : Tagged) (act : Act) : Tagged :=
  (tagged.act gcm act).getD tagged

/-- Every message is decrypted under the vector that it was encrypted under. -/
def Synchronous (gcm : AesGcm) (tagged : Tagged) : Act → Prop
  | .deviceReceives hardware =>
      ∀ next ∈ tagged.act gcm (.deviceReceives hardware),
        ∀ iv ∈ decryptIvs next.link.device.effects, tagged.sent.head? = some (some iv)
  | .hostReads => ∀ iv ∈ tagged.answered.head?.join, tagged.link.host.iv = iv
  | _ => True

-- The instances for a bounded quantifier are named: over vectors of bytes there is another one,
-- which goes through all of them.
instance (gcm : AesGcm) (tagged : Tagged) (act : Act) : Decidable (Synchronous gcm tagged act) :=
  match act with
  | .deviceReceives hardware =>
      @Option.decidableForallMem Tagged
        (fun next => ∀ iv ∈ decryptIvs next.link.device.effects,
          tagged.sent.head? = some (some iv))
        (fun next => @List.decidableBAll Iv (fun iv => tagged.sent.head? = some (some iv))
          (fun _ => inferInstance) (decryptIvs next.link.device.effects))
        (tagged.act gcm (.deviceReceives hardware))
  | .hostReads =>
      @Option.decidableForallMem Iv (fun iv => tagged.link.host.iv = iv) (fun _ => inferInstance)
        tagged.answered.head?.join
  | .hostResumes _ | .disconnects _ | .breaks _ | .begins _ _ => .isTrue trivial

/-- The host, which goes back to its first vector when it has ended an upload, finds the device
there, and keeps the vector it has when the connection breaks only where the device has the
same; and it has acted on every response. -/
def EndsSafely (tagged : Tagged) : Act → Prop
  | .disconnects _ => jumps tagged.link.device ∨
      tagged.link.device.iv = initialIv ∧ tagged.link.host.ackRcv = false
  | .breaks _ => jumps tagged.link.device ∨
      tagged.link.host.ackRcv = false ∧
        (tagged.link.device.connectionStatus = .connected →
          tagged.link.host.iv = tagged.link.device.iv)
  | _ => True

instance (tagged : Tagged) (act : Act) : Decidable (EndsSafely tagged act) :=
  match act with
  | .disconnects _ =>
      inferInstanceAs (Decidable (_ ∨ tagged.link.device.iv = initialIv ∧ _ = false))
  | .breaks _ =>
      inferInstanceAs (Decidable (_ ∨ _ = false ∧
        (_ = ConnectionStatus.connected → tagged.link.host.iv = tagged.link.device.iv)))
  | .hostResumes _ | .deviceReceives _ | .hostReads | .begins _ _ => .isTrue trivial

section Acts

variable {gcm : AesGcm} {tagged : Tagged} {hardware : Hardware}

theorem taggedAfter_none {act : Act} (impossible : tagged.act gcm act = none) :
    tagged.after gcm act = tagged := by
  rw [Tagged.after, impossible]
  rfl

theorem taggedAfter_some {act : Act} {next : Tagged} (possible : tagged.act gcm act = some next) :
    tagged.after gcm act = next := by
  rw [Tagged.after, possible]
  rfl

theorem act_hostResumes_none {goOn : Bool} (blocked : resume gcm goOn tagged.link.host = none) :
    tagged.act gcm (.hostResumes goOn) = none := by
  rw [Tagged.act, blocked]
  rfl

theorem act_hostResumes {goOn : Bool} {host : Host} {messages : List (List UInt8)}
    (resumes : resume gcm goOn tagged.link.host = some (host, messages)) :
    tagged.act gcm (.hostResumes goOn) = some
      { tagged with
        link := { tagged.link with host := host, toDevice := tagged.link.toDevice ++ messages }
        sent := tagged.sent ++
          messages.map fun _ => firstIv (hostEncryptions tagged.link.host) } := by
  rw [Tagged.act, resumes]
  rfl

theorem act_deviceReceives_long {first : List UInt8} {rest : List (List UInt8)}
    (queue : tagged.link.toDevice = first :: rest) (long : ¬ first.length ≤ 20) :
    tagged.act gcm (.deviceReceives hardware) = none := by
  rw [Tagged.act, queue]
  simp only [turn_deviceReceives_long long]
  rfl

def Tagged.taken (gcm : AesGcm) (hardware : Hardware) (packet : Packet)
    (rest : List (List UInt8)) (tagged : Tagged) : Tagged where
  link := { tagged.link with toDevice := rest }.handle gcm (.receive packet hardware)
  sent := tagged.sent.tail
  answered :=
    let after := step gcm tagged.link.device (.receive packet hardware)
    tagged.answered ++ (responses after.effects).map fun _ => firstIv (encryptEffects after.effects)

theorem act_deviceReceives {first : List UInt8} {rest : List (List UInt8)}
    (queue : tagged.link.toDevice = first :: rest) (short : first.length ≤ 20) :
    tagged.act gcm (.deviceReceives hardware) =
      some (tagged.taken gcm hardware (.ofBytes first short) rest) := by
  rw [Tagged.act, queue]
  simp only [turn_deviceReceives queue short]
  rfl

theorem act_hostReads_none (silent : tagged.link.toHost = []) :
    tagged.act gcm .hostReads = none := by
  rw [Tagged.act, turn_hostReads_none silent]
  rfl

theorem act_hostReads {data : List UInt8} {rest : List (List UInt8)}
    (answers : tagged.link.toHost = data :: rest) :
    tagged.act gcm .hostReads = some
      { tagged with
        link := { tagged.link with host := readResponse gcm data tagged.link.host, toHost := rest }
        answered := tagged.answered.tail } := by
  rw [Tagged.act, turn_hostReads answers]
  rfl

theorem act_disconnects (landed : tagged.link.landed)
    (suspended : tagged.link.host.suspended = .toLoop)
    (status : tagged.link.host.connectionStatus = .closingPhase) :
    tagged.act gcm (.disconnects hardware) = some { tagged with
      link := { tagged.link with host := endUpload tagged.link.host }.handle gcm
        (.disconnect hardware) } := by
  rw [Tagged.act, if_pos ⟨landed, suspended, status⟩]

theorem act_breaks (landed : tagged.link.landed) :
    tagged.act gcm (.breaks hardware) = some { tagged with
      link := { tagged.link with host := tagged.link.host.raise }.handle gcm
        (.disconnect hardware) } := by
  rw [Tagged.act, if_pos landed]

theorem synchronous_receives {next : Tagged}
    (possible : tagged.act gcm (.deviceReceives hardware) = some next)
    (same : ∀ iv ∈ decryptIvs next.link.device.effects, tagged.sent.head? = some (some iv)) :
    Synchronous gcm tagged (.deviceReceives hardware) := by
  intro other isNext
  rw [possible, Option.mem_some_iff] at isNext
  exact isNext ▸ same

theorem synchronous_reads (plain : ∀ tag ∈ tagged.answered, tag = none) :
    Synchronous gcm tagged .hostReads := by
  intro iv head
  have member := List.mem_of_mem_head? (Option.join_eq_some_iff.mp head)
  exact absurd (plain _ member) (by simp)

end Acts

/-! What the device does with a secure data packet, and with what is no START. -/

section Receive

variable {gcm : AesGcm} {hardware : Hardware} {packet : Packet} {device : Device}

theorem decryptIvs_append (first second : List Effect) :
    decryptIvs (first ++ second) = decryptIvs first ++ decryptIvs second := List.filterMap_append ..

theorem decryptIvs_windowEffects (hardware : Hardware) (device : Device) :
    decryptIvs (windowEffects hardware device) = [] :=
  filterMap_windowEffects (fun _ _ _ => rfl) hardware device

theorem counted_data (isData : verifyDataType packet .writeSecureFlashPacket = true) :
    counted .secure packet = true := by
  rw [counted, isData, Bool.true_or]

theorem intake_data (isData : verifyDataType packet .writeSecureFlashPacket = true) :
    (intake gcm hardware .secure packet device).iv = nextIv device.iv device.randIv ∧
      (intake gcm hardware .secure packet device).effects =
        device.effects ++ [decryptEffect gcm packet device] := by
  simp [decrypted, isData]

theorem secureData_inside (booted : device.running = none)
    (receving : device.connectionStatus = .recevingSecureFw)
    (isData : verifyDataType packet .writeSecureFlashPacket = true)
    (isInside : closesWindow .secure packet device = false) :
    let after := step gcm device (.receive packet hardware)
    after.iv = nextIv device.iv device.randIv ∧ after.randIv = device.randIv ∧
      after.countPck = device.countPck + 1 ∧ after.connectionStatus = .recevingSecureFw ∧
      decryptIvs after.effects = [nextIv device.iv device.randIv] ∧
      responses after.effects = [] := by
  intro after
  obtain ⟨iv, effects⟩ := @intake_data gcm hardware packet device.cleared isData
  have same : after = intake gcm hardware .secure packet device.cleared := by
    rw [show after = _ from @step_counted gcm hardware .secure packet device booted receving
      (counted_data isData), if_neg (by simp [isInside])]
  rw [same, iv, effects]
  exact ⟨rfl, rfl, rfl, receving, rfl, rfl⟩

theorem secureData_closes (booted : device.running = none)
    (receving : device.connectionStatus = .recevingSecureFw)
    (isData : verifyDataType packet .writeSecureFlashPacket = true)
    (closes : closesWindow .secure packet device = true) :
    let after := step gcm device (.receive packet hardware)
    after.iv = nextIv device.iv device.randIv ∧
      (∃ kept : Bool, after.countPck =
        if kept then device.countPck + 1 else device.countPck + 1 - 16) ∧
      after.connectionStatus =
        (if after.countPck = device.totalPck then .closingConnection else .recevingSecureFw) ∧
      decryptIvs after.effects = [after.iv] ∧
      ∃ ack count, responses after.effects =
          [secureResponse gcm after.iv ack count after.randIv] ∧
        firstIv (encryptEffects after.effects) = some after.iv := by
  intro after
  have same : after =
      closeWindow gcm hardware .secure (intake gcm hardware .secure packet device.cleared) := by
    rw [show after = _ from @step_counted gcm hardware .secure packet device booted receving
      (counted_data isData), if_pos closes]
  have isDecrypted : decrypted .secure packet = true := isData
  have moved : (intake gcm hardware .secure packet device).iv = nextIv device.iv device.randIv :=
    (intake_data isData).1
  have iv : after.iv = nextIv device.iv device.randIv := by
    rw [same, closeWindow_iv]
    exact (intake_data isData).1
  have randIv : after.randIv = (getRandBytes device.reg).1 := by
    rw [same, closeWindow_secure_randIv]
    rfl
  have effects := congrArg Device.effects same
  rw [closes_secure_effects] at effects
  refine ⟨iv, ⟨windowAccepted hardware (intake gcm hardware .secure packet device.cleared), ?_⟩, ?_,
    ?_, device.nextAck && accepts .secure packet device, device.countPck + 1, ?_, ?_⟩
  · rw [same, closeWindow_countPck]
    rfl
  · rw [same, closeWindow_connectionStatus, intake_totalPck, intake_connectionStatus,
      cleared_connectionStatus, receving]
    rfl
  · rw [effects, decryptIvs_append, ← List.singleton_append, decryptIvs_append,
      decryptIvs_windowEffects, beforeAnswer, isDecrypted, iv]
    rfl
  · rw [effects, responses_append, responses_beforeAnswer, ← List.singleton_append,
      responses_append, responses_windowEffects, iv, randIv, moved]
    rfl
  · rw [effects, encryptEffects_append, beforeAnswer, isDecrypted, moved, iv]
    rfl

theorem connected_decryptIvs (booted : device.running = none)
    (status : device.connectionStatus = .connected) :
    decryptIvs (step gcm device (.receive packet hardware)).effects = [] := by
  rw [step_connected gcm packet hardware booted status, handleConnected_eq]
  cases startMode packet with
  | none => rfl
  | some mode =>
      dsimp only
      cases admitted hardware mode packet <;> cases mode <;> rfl

theorem connected_refuses (booted : device.running = none)
    (status : device.connectionStatus = .connected)
    (refused : ∀ mode, startMode packet = some mode → admitted hardware mode packet = false) :
    let after := step gcm device (.receive packet hardware)
    after.connectionStatus = .connected ∧ after.running = none ∧
      after.connected = device.connected ∧ encryptEffects after.effects = [] := by
  intro after
  have same : after = handleConnected gcm hardware packet device.cleared :=
    step_connected gcm packet hardware booted status
  rw [same, handleConnected_eq]
  cases start : startMode packet with
  | none => exact ⟨status, booted, rfl, rfl⟩
  | some mode =>
      simp only [refused mode start, Bool.false_eq_true, if_false]
      exact ⟨status, booted, rfl, rfl⟩

end Receive

end BleFwUpdate
