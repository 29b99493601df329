import BleFwUpdate.Link

/-! One data packet of an upload, from the chunk that the host sends to the answer it reads. -/

namespace BleFwUpdate

open Transitions LittleEndian

theorem mem_responses {effects : List Effect} {bytes : List UInt8} :
    bytes ∈ responses effects ↔ .response bytes ∈ effects := by
  simp only [responses, List.mem_filterMap]
  constructor
  · rintro ⟨effect, member, same⟩
    cases effect <;> simp_all
  · exact fun member => ⟨_, member, rfl⟩

@[simp] theorem responses_append (first second : List Effect) :
    responses (first ++ second) = responses first ++ responses second := List.filterMap_append ..

theorem responses_windowEffects (hardware : Hardware) (device : Device) :
    responses (windowEffects hardware device) = [] :=
  filterMap_windowEffects (fun _ _ _ => rfl) hardware device

theorem responses_beforeAnswer (gcm : AesGcm) (hardware : Hardware) (packet : Packet)
    (device : Device) : responses (beforeAnswer gcm hardware packet device) = [] := by
  apply List.eq_nil_iff_forall_not_mem.mpr
  intro bytes member
  rcases mem_beforeAnswer gcm hardware packet device (mem_responses.mp member) with
    ⟨_, _, _, _, _, same⟩ | ⟨_, _, _, same⟩ <;> contradiction

/-- A host with the given initialization vector reads the response as an ACK, and has the
given random bytes afterwards. -/
def ReadsAck (gcm : AesGcm) (mode : Mode) (bytes : List UInt8) (iv : Iv)
    (randIv : Vector UInt8 3) : Prop :=
  bytes.head? = some ackCmd ∧ ∀ host : Host, host.security = (mode == .secure) →
    host.msgTampered = false → host.iv = iv → (mode = .raw → host.randIv = randIv.toList) →
      readResponse gcm bytes host =
        { host with ackRcv := true, isAck := true, randIv := randIv.toList }

theorem readsAck_raw (gcm : AesGcm) (hardware : Hardware) (count : UInt16) (iv : Iv)
    (randIv : Vector UInt8 3) :
    ReadsAck gcm .raw (rawResponse hardware true count) iv randIv := by
  refine ⟨rfl, fun host plain _ _ same => ?_⟩
  rw [readResponse_raw gcm hardware true count plain, ← same rfl]

theorem readsAck_secure {gcm : AesGcm} (lawful : gcm.Lawful) (iv : Iv) (count : UInt16)
    (randIv : Vector UInt8 3) :
    ReadsAck gcm .secure (secureResponse gcm iv true count randIv) iv randIv := by
  refine ⟨rfl, fun host crypto intact sameIv _ => ?_⟩
  rw [readResponse_secure lawful crypto iv sameIv true count randIv, ← intact]

structure Took (gcm : AesGcm) (mode : Mode) (packet : Packet) (device after : Device) : Prop where
  running : after.running = none
  countPck : after.countPck = device.countPck + 1
  totalPck : after.totalPck = device.totalPck
  appToUpdate : after.appToUpdate = device.appToUpdate
  iv : after.iv = sentIv mode device.randIv device.iv
  flash : after.flash = flashAfter device.flash (programs after.effects)
  quiet : closesWindow mode packet device = false →
    responses after.effects = [] ∧ after.randIv = device.randIv
  answers : closesWindow mode packet device = true →
    (mode = .raw → after.randIv = device.randIv) ∧
      ∃ bytes, responses after.effects = [bytes] ∧ ReadsAck gcm mode bytes after.iv after.randIv

theorem Took.acks {gcm : AesGcm} {mode : Mode} {packet : Packet} {device after : Device}
    (took : Took gcm mode packet device after) :
    ∀ bytes ∈ responses after.effects, bytes.head? = some ackCmd := by
  intro bytes member
  cases closes : closesWindow mode packet device with
  | false =>
      rw [(took.quiet closes).1] at member
      contradiction
  | true =>
      obtain ⟨_, answer, answered, reads⟩ := took.answers closes
      rw [answered, List.mem_singleton] at member
      rw [member]
      exact reads.1

theorem acks_concat {gcm : AesGcm} {log : List (Device × Event)} {device : Device} {event : Event}
    (acks : ∀ entry ∈ log, ∀ bytes ∈ responses (step gcm entry.1 entry.2).effects,
      bytes.head? = some ackCmd)
    (now : ∀ bytes ∈ responses (step gcm device event).effects, bytes.head? = some ackCmd) :
    ∀ entry ∈ log ++ [(device, event)], ∀ bytes ∈ responses (step gcm entry.1 entry.2).effects,
      bytes.head? = some ackCmd := by
  intro entry member
  rcases List.mem_append.mp member with earlier | last
  · exact acks entry earlier
  · rw [List.mem_singleton.mp last]
    exact now

section Takes

variable {gcm : AesGcm} {mode : Mode} {hardware : Hardware} {packet : Packet} {device : Device}

theorem intake_sentIv (good : accepts mode packet device = true) :
    (intake gcm hardware mode packet device).iv = sentIv mode device.randIv device.iv := by
  cases mode with
  | raw => rfl
  | secure =>
      simp only [accepts, Mode.dataType, Bool.and_eq_true] at good
      rw [intake_iv, decrypted, if_pos good.1, sentIv]

theorem answers_closes (lawful : gcm.Lawful) (works : FlashWorks hardware)
    (nextAck : device.nextAck = true) (good : accepts mode packet device = true)
    {after : Device}
    (same : after =
      closeWindow gcm hardware mode (intake gcm hardware mode packet device.cleared)) :
    (mode = .raw → after.randIv = device.randIv) ∧
      ∃ bytes, responses after.effects = [bytes] ∧
        ReadsAck gcm mode bytes after.iv after.randIv := by
  cases mode with
  | raw =>
      have accepted : windowAccepted hardware (intake gcm hardware .raw packet device) = true := by
        simp [windowAccepted_works works, nextAck, good]
      have answered : responses after.effects = [rawResponse hardware true
          (closeWindow gcm hardware .raw (intake gcm hardware .raw packet device)).countPck] := by
        rw [same, closes_raw_effects, responses_append, responses_windowEffects, accepted]
        rfl
      refine ⟨fun _ => ?_, _, answered, readsAck_raw gcm hardware _ after.iv after.randIv⟩
      rw [same, closeWindow_raw_randIv]
      rfl
  | secure =>
      have iv : after.iv = (intake gcm hardware .secure packet device).iv := by
        rw [same, closeWindow_iv]
        rfl
      have randIv : after.randIv = (getRandBytes device.reg).1 := by
        rw [same, closeWindow_secure_randIv]
        rfl
      have answered : responses after.effects =
          [secureResponse gcm after.iv true (device.countPck + 1) after.randIv] := by
        rw [iv, randIv, same, closes_secure_effects, ← List.singleton_append, responses_append,
          responses_append, responses_beforeAnswer, responses_windowEffects, nextAck, good]
        rfl
      exact ⟨by simp, _, answered, readsAck_secure lawful after.iv _ after.randIv⟩

theorem Taking.took {base : UInt32} {log : List (Device × Event)} {taken : List (List UInt8)}
    (lawful : gcm.Lawful) (taking : Taking gcm mode base log taken device)
    (works : FlashWorks hardware) (good : accepts mode packet device = true) :
    Took gcm mode packet device (step gcm device (.receive packet hardware)) := by
  obtain ⟨payloads, window, rfl, nextAck, uploading⟩ := taking
  have isCounted := counted_of_accepts good
  have after := step_counted gcm hardware uploading.booted uploading.receving isCounted
  have goodClear : accepts mode packet device.cleared = true := by rw [accepts_cleared, good]
  cases closes : closesWindow mode packet device with
  | false =>
      rw [closes] at after
      have silent := programs_inside gcm hardware mode packet device
      rw [after]
      refine ⟨uploading.booted, rfl, rfl, rfl, intake_sentIv goodClear, ?_, fun _ => ⟨?_, rfl⟩,
        fun closing => by simp [closes] at closing⟩
      · rw [if_neg (by simp), silent]
        rfl
      · rw [if_neg (by simp), intake_effects]
        split <;> rfl
  | true =>
      rw [closes] at after
      rw [after, if_pos rfl]
      refine ⟨?_, ?_, by simp, by simp, ?_, ?_, fun inside => by simp [closes] at inside,
        fun _ => ?_⟩
      · simpa using uploading.booted
      · exact (closes_counts gcm works nextAck good).1
      · rw [closeWindow_iv, intake_sentIv goodClear]
        rfl
      · rw [closeWindow_flash, programs_closes, windowEffects_intake_cleared]
        rfl
      · exact answers_closes lawful works nextAck good rfl

end Takes

theorem answers_start {gcm : AesGcm} (lawful : gcm.Lawful) {mode : Mode} {hardware : Hardware}
    {packet : Packet} {device : Device} (booted : device.running = none)
    (status : device.connectionStatus = .connected) (start : startMode packet = some mode)
    (isAdmitted : admitted hardware mode packet = true) :
    let after := step gcm device (.receive packet hardware)
    (mode = .raw → after.randIv = device.randIv) ∧
      ∃ bytes, responses after.effects = [bytes] ∧
        ReadsAck gcm mode bytes after.iv after.randIv := by
  intro after
  have answered := responses_start gcm hardware booted status start
  have same : after = { sendAck gcm hardware true mode.replyType
      (startPrepared hardware mode packet device.cleared) with
        connectionStatus := mode.status } := by
    rw [show after = handleConnected gcm hardware packet device.cleared from
      step_connected gcm packet hardware booted status, handleConnected_eq, start]
    exact if_pos isAdmitted
  cases mode with
  | raw =>
      simp only [startResponse, isAdmitted] at answered
      exact ⟨fun _ => by rw [same]; rfl, _, answered, readsAck_raw gcm hardware _ _ _⟩
  | secure =>
      have iv : after.iv = device.iv := by rw [same]; rfl
      have randIv : after.randIv = (getRandBytes (initRandGenerator hardware.timer)).1 := by
        rw [same]
        rfl
      simp only [startResponse, isAdmitted] at answered
      refine ⟨by simp, _, answered, ?_⟩
      rw [iv, randIv]
      exact readsAck_secure lawful device.iv device.countPck _

end BleFwUpdate
