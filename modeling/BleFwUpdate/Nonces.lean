import BleFwUpdate.Randomness
import BleFwUpdate.Turns

/-! The initialization vectors under which both sides encrypt in a secure session. -/

namespace BleFwUpdate

open Transitions

structure Encryption where
  iv : Iv
  addData : List UInt8
  plaintext : List UInt8
  deriving DecidableEq

/-- No initialization vector is used for two different messages. -/
def OneUse (made : List Encryption) : Prop :=
  ∀ first ∈ made, ∀ second ∈ made, first.iv = second.iv → first = second

instance (made : List Encryption) : Decidable (OneUse made) :=
  inferInstanceAs (Decidable (∀ first ∈ made, ∀ second ∈ made,
    first.iv = second.iv → first = second))

theorem OneUse.front {made more : List Encryption} (oneUse : OneUse (made ++ more)) :
    OneUse made :=
  fun first firstMember second secondMember =>
    oneUse first (List.mem_append_left _ firstMember) second (List.mem_append_left _ secondMember)

theorem not_oneUse {made : List Encryption} {earlier later : Encryption} (member : earlier ∈ made)
    (same : earlier.iv = later.iv) (differs : earlier ≠ later) : ¬ OneUse (made ++ [later]) :=
  fun oneUse => differs (oneUse earlier (List.mem_append_left _ member) later
    (List.mem_append_right _ (List.mem_singleton_self _)) same)

/-! The encryptions of the host. -/

/-- What the host encrypts before it gives up control again: the data packet it sends next. -/
def hostEncryptions (host : Host) : List Encryption :=
  match host.suspended, host.connectionStatus with
  | .toLoop, .sendingCryptoData =>
      if host.contChunck < host.chunks.length then
        match pyIndex host.chunks host.contChunck, hostNextIv host.iv host.randIv with
        | some chunk, some iv => [⟨iv, [secureHeader host.contChunck], ljust 15 chunk⟩]
        | _, _ => []
      else []
  | _, _ => []

theorem hostEncryptions_startSent {host : Host} (suspended : host.suspended = .startSent) :
    hostEncryptions host = [] := by
  simp only [hostEncryptions, suspended]

def Encryption.message (gcm : AesGcm) (made : Encryption) : List UInt8 :=
  let sealed := gcm.encrypt made.iv made.addData made.plaintext
  made.addData ++ (sealed.1 ++ sealed.2)

/-- Every data packet of a secure upload is one of these encryptions. -/
theorem resume_secure_messages (gcm : AesGcm) (goOn : Bool) {host after : Host}
    {messages : List (List UInt8)} (suspended : host.suspended = .toLoop)
    (status : host.connectionStatus = .sendingCryptoData)
    (resumes : resume gcm goOn host = some (after, messages)) :
    messages = (hostEncryptions host).map (Encryption.message gcm) := by
  simp only [resume, suspended, status] at resumes
  simp only [hostEncryptions, suspended, status]
  split at resumes
  · rename_i more
    rw [if_pos more]
    have sends : sendSecureChunk gcm host = (after, messages) := Option.some.inj resumes
    have sent : messages = (sendSecureChunk gcm host).2 := (congrArg Prod.snd sends).symm
    rw [sent, sendSecureChunk]
    cases pyIndex host.chunks host.contChunck with
    | none => rfl
    | some chunk => cases hostNextIv host.iv host.randIv <;> rfl
  · rename_i done
    rw [if_neg done]
    exact (Prod.mk.inj (Option.some.inj resumes)).2.symm

theorem secureHeader_ne_ackByte (number : Int) (ack : Bool) :
    [secureHeader number] ≠ [ackByte ack] := by
  intro same
  have digit := secureHeader_digit number
  rw [List.singleton_inj.mp same] at digit
  cases ack <;> revert digit <;> decide

/-- The host sends data packets, and has heard nothing since it began to. -/
structure Unheard (randIv : Vector UInt8 3) (host : Host) : Prop where
  status : host.connectionStatus = .sendingCryptoData ∨ host.connectionStatus = .closingPhase
  suspended : host.suspended = .toLoop ∨ host.suspended = .windowSent ∨ host.suspended = .raised
  intact : host.msgTampered = false
  unread : host.ackRcv = false
  rand : host.randIv = randIv.toList

theorem Unheard.resumes {randIv : Vector UInt8 3} {host : Host} (unheard : Unheard randIv host)
    (gcm : AesGcm) (goOn : Bool) :
    (resume gcm goOn host = none ∧ hostEncryptions host = []) ∨
    ∃ after messages, resume gcm goOn host = some (after, messages) ∧ Unheard randIv after ∧
      ((messages = [] ∧ hostEncryptions host = [] ∧ after.iv = host.iv) ∨
        ∃ message addData plaintext, messages = [message] ∧
          hostEncryptions host = [⟨after.iv, addData, plaintext⟩] ∧
          after.iv = nextIv host.iv randIv ∧ ∀ ack, addData ≠ [ackByte ack]) := by
  obtain ⟨status, suspended, intact, unread, rand⟩ := unheard
  rcases suspended with suspended | suspended | suspended
  · rcases status with status | status
    · right
      simp only [resume, hostEncryptions, suspended, status]
      by_cases more : host.contChunck < host.chunks.length
      · rw [if_pos more, if_pos more, sendSecureChunk, rand, hostNextIv_toList]
        cases found : pyIndex host.chunks host.contChunck with
        | none =>
            exact ⟨_, _, rfl, ⟨.inl status, .inr (.inr rfl), intact, unread, rand⟩,
              .inl ⟨rfl, rfl, rfl⟩⟩
        | some chunk =>
            refine ⟨_, _, rfl, ⟨.inl status, ?_, intact, unread, rfl⟩,
              .inr ⟨_, _, _, rfl, rfl, rfl, secureHeader_ne_ackByte _⟩⟩
            simp only [countChunk]
            split
            · exact .inr (.inl rfl)
            · exact .inl rfl
      · rw [if_neg more, if_neg more]
        exact ⟨_, _, rfl, ⟨.inr rfl, .inl rfl, intact, unread, rand⟩, .inl ⟨rfl, rfl, rfl⟩⟩
    · left
      simp [resume, hostEncryptions, suspended, status]
  · left
    rcases status with status | status
    · simp [resume, hostEncryptions, suspended, status, intact, unread]
    · simp [resume, hostEncryptions, suspended, status]
  · left
    simp [resume, hostEncryptions, suspended]

/-! The encryptions of the device. -/

def encryptEffects (effects : List Effect) : List Encryption :=
  effects.filterMap fun
    | .encrypt iv addData plaintext => some ⟨iv, addData, plaintext⟩
    | _ => none

theorem encryptEffects_append (first second : List Effect) :
    encryptEffects (first ++ second) = encryptEffects first ++ encryptEffects second :=
  List.filterMap_append ..

theorem encryptEffects_windowEffects (hardware : Hardware) (device : Device) :
    encryptEffects (windowEffects hardware device) = [] :=
  filterMap_windowEffects (fun _ _ _ => rfl) hardware device

section SecureReceive

variable (gcm : AesGcm) (hardware : Hardware) {packet : Packet} {device : Device}

/-- A packet that is counted, and that ends no window: nothing is sent back. -/
def Silent (packet : Packet) (device : Device) : Prop :=
  counted .secure packet = true ∧ closesWindow .secure packet device = false

instance (packet : Packet) (device : Device) : Decidable (Silent packet device) :=
  inferInstanceAs (Decidable (_ ∧ _))

theorem secureReceive_silent (booted : device.running = none)
    (receving : device.connectionStatus = .recevingSecureFw) (silent : Silent packet device) :
    let after := step gcm device (.receive packet hardware)
    after = intake gcm hardware .secure packet device.cleared ∧
      encryptEffects after.effects = [] ∧ responses after.effects = [] := by
  intro after
  have same : after = intake gcm hardware .secure packet device.cleared := by
    rw [show after = _ from @step_counted gcm hardware .secure packet device booted receving
      silent.1, if_neg (by simp [silent.2])]
  refine ⟨same, ?_, ?_⟩
  · rw [same, intake_effects]
    split <;> rfl
  · rw [same, intake_effects]
    split <;> rfl

/-- Any other packet is answered, under the vector of the last data packet decrypted. -/
theorem secureReceive_answers (booted : device.running = none)
    (receving : device.connectionStatus = .recevingSecureFw) (answered : ¬ Silent packet device) :
    ∃ iv ack count, encryptEffects (step gcm device (.receive packet hardware)).effects =
        [⟨iv, [ackByte ack], responsePlaintext count (getRandBytes device.reg).1⟩] ∧
      (iv = device.iv ∨ iv = nextIv device.iv device.randIv) := by
  cases isCounted : counted .secure packet with
  | false =>
      rw [@step_uncounted gcm hardware .secure packet device booted receving isCounted]
      exact ⟨device.iv, device.oldAck, device.countPck, rfl, .inl rfl⟩
  | true =>
      have closes : closesWindow .secure packet device = true := by
        by_contra inside
        exact answered ⟨isCounted, by simpa using inside⟩
      have after := @step_counted gcm hardware .secure packet device booted receving isCounted
      rw [if_pos closes] at after
      rw [after, closes_secure_effects, encryptEffects_append, ← List.singleton_append,
        encryptEffects_append, encryptEffects_windowEffects, beforeAnswer, encryptEffects_append]
      refine ⟨(intake gcm hardware .secure packet device).iv,
        device.nextAck && accepts .secure packet device, device.countPck + 1, ?_, ?_⟩
      · split <;> rfl
      · rw [intake_iv]
        split
        · exact .inr rfl
        · exact .inl rfl

end SecureReceive

/-! A session in which the device has not answered anything but the START. -/

def encryptions (gcm : AesGcm) (link : Link) (turn : Turn) : List Encryption :=
  match turn, link.turn gcm turn with
  | .hostResumes _, some _ => hostEncryptions link.host
  | .deviceReceives _ _, some next => encryptEffects next.device.effects
  | _, _ => []

/-- The host does not come back to the vector of the START, and the device does not answer. -/
def KeepsIv (start : Iv) (link : Link) : Turn → Prop
  | .hostResumes _ => ∀ made ∈ hostEncryptions link.host, made.iv ≠ start
  | .deviceReceives _ bytes => link.toDevice ≠ [] → ∀ short : bytes.length ≤ 20,
      Silent (.ofBytes bytes short) link.device
  | _ => True

instance (start : Iv) (link : Link) (turn : Turn) : Decidable (KeepsIv start link turn) :=
  match turn with
  | .hostResumes _ =>
      inferInstanceAs (Decidable (∀ made ∈ hostEncryptions link.host, made.iv ≠ start))
  | .deviceReceives _ bytes =>
      inferInstanceAs (Decidable (link.toDevice ≠ [] → ∀ short : bytes.length ≤ 20,
        Silent (.ofBytes bytes short) link.device))
  | .hostReads | .loses => .isTrue trivial

def ivAt (start : Iv) (randIv : Vector UInt8 3) (count : Nat) : Iv :=
  (fun iv => nextIv iv randIv)^[count] start

theorem ivAt_succ (start : Iv) (randIv : Vector UInt8 3) (count : Nat) :
    ivAt start randIv (count + 1) = nextIv (ivAt start randIv count) randIv :=
  Function.iterate_succ_apply' ..

theorem bumpIv_injective (rand : UInt8) : Function.Injective fun iv => bumpIv iv rand := by
  intro first second same
  have bound : (rand >>> 4).toNat % 12 < 12 := Nat.mod_lt _ (by decide)
  apply Vector.ext
  intro index inside
  have here := congrArg (fun iv : Iv => iv[index]) same
  simp only [bumpIv, Vector.getElem_set] at here
  split at here
  · rename_i bumped
    subst bumped
    exact (UInt8.add_left_inj _).mp here
  · exact here

theorem nextIv_injective (randIv : Vector UInt8 3) :
    Function.Injective fun iv => nextIv iv randIv :=
  (bumpIv_injective randIv[2]).comp ((bumpIv_injective randIv[1]).comp (bumpIv_injective randIv[0]))

/-- The vectors are different from one another until they come back to the first. -/
theorem ivAt_inj {start : Iv} {randIv : Vector UInt8 3} {sent : Nat}
    (away : ∀ count, 0 < count → count ≤ sent → ivAt start randIv count ≠ start)
    {first second : Nat} (firstUpTo : first ≤ sent) (secondUpTo : second ≤ sent)
    (same : ivAt start randIv first = ivAt start randIv second) : first = second := by
  have cancel {low high : Nat} (order : low < high) (upTo : high ≤ sent)
      (same : ivAt start randIv high = ivAt start randIv low) : False := by
    rw [show high = high - low + low by omega] at same
    exact away (high - low) (by omega) (by omega)
      (Function.iterate_cancel_of_add (nextIv_injective randIv) same)
  rcases Nat.lt_trichotomy first second with before | equal | after
  · exact (cancel before secondUpTo same.symm).elim
  · exact equal
  · exact (cancel after firstUpTo same).elim

/-- So many data packets have been encrypted, and so many decrypted. -/
structure Unanswered (start : Iv) (reg : UInt16) (sent taken : Nat) (made : List Encryption)
    (link : Link) : Prop where
  booted : link.device.running = none
  receving : link.device.connectionStatus = .recevingSecureFw
  deviceRand : link.device.randIv = (getRandBytes reg).1
  deviceReg : link.device.reg = (getRandBytes reg).2
  deviceIv : link.device.iv = ivAt start (getRandBytes reg).1 taken
  balance : taken + link.toDevice.length ≤ sent
  unheard : Unheard (getRandBytes reg).1 link.host
  silent : link.toHost = []
  hostIv : link.host.iv = ivAt start (getRandBytes reg).1 sent
  used : made.map Encryption.iv = (List.range (sent + 1)).map (ivAt start (getRandBytes reg).1)
  answer : ∃ count, ⟨start, [ackByte true], responsePlaintext count (getRandBytes reg).1⟩ ∈ made
  data : ∀ count, 0 < count → count ≤ sent → ∃ packet ∈ made,
    packet.iv = ivAt start (getRandBytes reg).1 count ∧ ∀ ack, packet.addData ≠ [ackByte ack]
  away : ∀ count, 0 < count → count ≤ sent → ivAt start (getRandBytes reg).1 count ≠ start

/-- Nothing but the START has been answered so far. -/
def Quiet (start : Iv) (reg : UInt16) (made : List Encryption) (link : Link) : Prop :=
  ∃ sent taken, Unanswered start reg sent taken made link

section Unanswered

variable {gcm : AesGcm} {start : Iv} {reg : UInt16} {sent taken : Nat} {made : List Encryption}
  {link : Link} {turn : Turn}

theorem Unanswered.oneUse (unanswered : Unanswered start reg sent taken made link) :
    OneUse made := by
  have nodup : (made.map Encryption.iv).Nodup := by
    rw [unanswered.used]
    refine List.Nodup.map_on ?_ List.nodup_range
    intro first firstMember second secondMember same
    have firstUpTo := List.mem_range.mp firstMember
    have secondUpTo := List.mem_range.mp secondMember
    exact ivAt_inj unanswered.away (by omega) (by omega) same
  exact fun first firstMember second secondMember same =>
    List.inj_on_of_nodup_map nodup firstMember secondMember same

theorem encryptions_none (impossible : link.turn gcm turn = none) :
    encryptions gcm link turn = [] := by
  cases turn <;> simp [encryptions, impossible]

theorem Unanswered.idle (unanswered : Unanswered start reg sent taken made link)
    (impossible : link.turn gcm turn = none) :
    Unanswered start reg sent taken (made ++ encryptions gcm link turn) (link.after gcm turn) := by
  rw [encryptions_none impossible, after_none impossible, List.append_nil]
  exact unanswered

theorem Unanswered.host_keeps (unanswered : Unanswered start reg sent taken made link)
    {goOn : Bool} (keeps : KeepsIv start link (.hostResumes goOn)) :
    ∃ sent, Unanswered start reg sent taken
      (made ++ encryptions gcm link (.hostResumes goOn)) (link.after gcm (.hostResumes goOn)) := by
  rcases unanswered.unheard.resumes gcm goOn with ⟨blocked, _⟩ |
    ⟨host, messages, resumes, unheard, ⟨rfl, none, iv⟩ |
      ⟨message, addData, plaintext, rfl, one, iv, isData⟩⟩
  · exact ⟨sent, unanswered.idle (turn_hostResumes_none blocked)⟩
  · have possible := turn_hostResumes resumes
    have quiet : encryptions gcm link (.hostResumes goOn) = [] := by
      simp only [encryptions, possible, none]
    rw [quiet, List.append_nil, after_some possible]
    exact ⟨sent, { unanswered with
      unheard := unheard
      balance := by rw [List.append_nil]; exact unanswered.balance
      hostIv := iv.trans unanswered.hostIv }⟩
  · have possible := turn_hostResumes resumes
    have sends : encryptions gcm link (.hostResumes goOn) = [⟨host.iv, addData, plaintext⟩] := by
      simp only [encryptions, possible, one]
    have next : host.iv = ivAt start (getRandBytes reg).1 (sent + 1) := by
      rw [iv, ivAt_succ, unanswered.hostIv]
    have away : host.iv ≠ start := keeps ⟨host.iv, addData, plaintext⟩ (by simp [one])
    have balance := unanswered.balance
    rw [sends, after_some possible]
    refine ⟨sent + 1, { unanswered with
      unheard := unheard
      balance := ?_
      hostIv := next
      used := ?_
      answer := ?_
      data := ?_
      away := ?_ }⟩
    · change taken + (link.toDevice ++ [message]).length ≤ sent + 1
      rw [List.length_append, List.length_singleton]
      omega
    · rw [List.map_append, unanswered.used, @List.range_succ (sent + 1), List.map_append,
        List.map_singleton, List.map_singleton, next]
    · obtain ⟨count, member⟩ := unanswered.answer
      exact ⟨count, List.mem_append_left _ member⟩
    · intro count positive upTo
      rcases Nat.lt_or_eq_of_le upTo with before | rfl
      · obtain ⟨packet, member, isPacket⟩ := unanswered.data count positive (by omega)
        exact ⟨packet, List.mem_append_left _ member, isPacket⟩
      · exact ⟨_, List.mem_append_right _ (List.mem_singleton_self _), next, isData⟩
    · intro count positive upTo
      rcases Nat.lt_or_eq_of_le upTo with before | rfl
      · exact unanswered.away count positive (by omega)
      · exact next ▸ away

theorem Unanswered.host_breaks (unanswered : Unanswered start reg sent taken made link)
    {goOn : Bool} (breaks : ¬ KeepsIv start link (.hostResumes goOn)) :
    ¬ OneUse (made ++ encryptions gcm link (.hostResumes goOn)) := by
  obtain ⟨count, answer⟩ := unanswered.answer
  rcases unanswered.unheard.resumes gcm goOn with ⟨_, none⟩ |
    ⟨host, messages, resumes, _, ⟨_, none, _⟩ | ⟨message, addData, plaintext, _, one, iv, isData⟩⟩
  · exact absurd (by simp [KeepsIv, none]) breaks
  · exact absurd (by simp [KeepsIv, none]) breaks
  · have possible := turn_hostResumes resumes
    have sends : encryptions gcm link (.hostResumes goOn) = [⟨host.iv, addData, plaintext⟩] := by
      simp only [encryptions, possible, one]
    have back : host.iv = start := by
      simpa [KeepsIv, one] using breaks
    rw [sends, back]
    refine not_oneUse answer rfl fun same => ?_
    exact isData true (congrArg Encryption.addData same).symm

theorem Unanswered.device_keeps (unanswered : Unanswered start reg sent taken made link)
    {hardware : Hardware} {bytes first : List UInt8} {rest : List (List UInt8)}
    (queue : link.toDevice = first :: rest) (short : bytes.length ≤ 20)
    (silent : Silent (.ofBytes bytes short) link.device) :
    ∃ taken, Unanswered start reg sent taken
      (made ++ encryptions gcm link (.deviceReceives hardware bytes))
      (link.after gcm (.deviceReceives hardware bytes)) := by
  have possible := @turn_deviceReceives gcm link hardware bytes first rest queue short
  obtain ⟨same, none, quiet⟩ := secureReceive_silent gcm hardware unanswered.booted
    unanswered.receving silent
  have balance := unanswered.balance
  rw [queue, List.length_cons] at balance
  have nothing : encryptions gcm link (.deviceReceives hardware bytes) = [] := by
    simp only [encryptions, possible]
    exact none
  have iv : ∃ count, taken ≤ count ∧ count ≤ taken + 1 ∧
      (step gcm link.device (.receive (.ofBytes bytes short) hardware)).iv =
        ivAt start (getRandBytes reg).1 count := by
    rw [same, intake_iv, cleared_iv, cleared_randIv, unanswered.deviceIv, unanswered.deviceRand,
      ← ivAt_succ]
    split
    · exact ⟨taken + 1, by omega, Nat.le_refl _, rfl⟩
    · exact ⟨taken, Nat.le_refl _, by omega, rfl⟩
  obtain ⟨count, _, upTo, iv⟩ := iv
  rw [nothing, List.append_nil, after_some possible]
  refine ⟨count, { unanswered with
    booted := ?_
    receving := ?_
    deviceRand := ?_
    deviceReg := ?_
    deviceIv := iv
    balance := show count + rest.length ≤ sent by omega
    silent := ?_ }⟩
  · change (step gcm _ _).running = _
    rw [same]
    exact unanswered.booted
  · change (step gcm _ _).connectionStatus = _
    rw [same]
    exact unanswered.receving
  · change (step gcm _ _).randIv = _
    rw [same]
    exact unanswered.deviceRand
  · change (step gcm _ _).reg = _
    rw [same]
    exact unanswered.deviceReg
  · change link.toHost ++ responses (step gcm _ _).effects = _
    rw [quiet, unanswered.silent]
    rfl

/-- An answer is encrypted under the vector of a data packet, or under that of the START, and
then with other random bytes. -/
theorem Unanswered.device_breaks (unanswered : Unanswered start reg sent taken made link)
    {hardware : Hardware} {bytes first : List UInt8} {rest : List (List UInt8)}
    (queue : link.toDevice = first :: rest) (short : bytes.length ≤ 20)
    (answered : ¬ Silent (.ofBytes bytes short) link.device) :
    ¬ OneUse (made ++ encryptions gcm link (.deviceReceives hardware bytes)) := by
  have possible := @turn_deviceReceives gcm link hardware bytes first rest queue short
  obtain ⟨iv, ack, number, one, place⟩ := secureReceive_answers gcm hardware unanswered.booted
    unanswered.receving answered
  have sends : encryptions gcm link (.deviceReceives hardware bytes) =
      [⟨iv, [ackByte ack], responsePlaintext number (getRandBytes link.device.reg).1⟩] := by
    simp only [encryptions, possible]
    exact one
  have balance := unanswered.balance
  rw [queue, List.length_cons] at balance
  obtain ⟨count, upTo, rfl⟩ :
      ∃ count, count ≤ sent ∧ iv = ivAt start (getRandBytes reg).1 count := by
    rw [unanswered.deviceIv, unanswered.deviceRand, ← ivAt_succ] at place
    rcases place with same | moved
    · exact ⟨taken, by omega, same⟩
    · exact ⟨taken + 1, by omega, moved⟩
  rw [sends]
  by_cases none : count = 0
  · subst none
    obtain ⟨earlier, answer⟩ := unanswered.answer
    have moves : nextIv start (getRandBytes reg).1 ≠ start :=
      unanswered.away 1 (by omega) (by omega)
    refine not_oneUse answer rfl fun same => getRandBytes_differ moves ?_
    have plaintext := congrArg Encryption.plaintext same
    rw [unanswered.deviceReg] at plaintext
    have bytes := (List.append_inj plaintext rfl).2
    exact (Vector.toList_inj.mp bytes).symm
  · obtain ⟨packet, member, iv, isData⟩ := unanswered.data count (by omega) upTo
    exact not_oneUse member iv fun same => isData ack (congrArg Encryption.addData same)

theorem Unanswered.keeps (unanswered : Unanswered start reg sent taken made link)
    (keeps : KeepsIv start link turn) :
    Quiet start reg (made ++ encryptions gcm link turn) (link.after gcm turn) := by
  cases turn with
  | hostResumes goOn =>
      obtain ⟨sent, next⟩ := @Unanswered.host_keeps gcm _ _ _ _ _ _ unanswered goOn keeps
      exact ⟨sent, taken, next⟩
  | hostReads => exact ⟨sent, taken, unanswered.idle (turn_hostReads_none unanswered.silent)⟩
  | loses =>
      cases queue : link.toDevice with
      | nil => exact ⟨sent, taken, unanswered.idle (by rw [Link.turn, queue])⟩
      | cons first rest =>
          have balance := unanswered.balance
          rw [queue, List.length_cons] at balance
          have nothing : encryptions gcm link .loses = [] := by simp [encryptions]
          rw [nothing, List.append_nil, after_some (turn_loses queue)]
          exact ⟨sent, taken, { unanswered with
            balance := show taken + rest.length ≤ sent by omega }⟩
  | deviceReceives hardware bytes =>
      cases queue : link.toDevice with
      | nil => exact ⟨sent, taken, unanswered.idle (turn_deviceReceives_none queue)⟩
      | cons first rest =>
          by_cases short : bytes.length ≤ 20
          · obtain ⟨taken, next⟩ := @Unanswered.device_keeps gcm _ _ _ _ _ _ unanswered hardware
              _ _ _ queue short (keeps (by simp [queue]) short)
            exact ⟨sent, taken, next⟩
          · exact ⟨sent, taken, unanswered.idle (turn_deviceReceives_long short)⟩

theorem Unanswered.breaks (unanswered : Unanswered start reg sent taken made link)
    (breaks : ¬ KeepsIv start link turn) : ¬ OneUse (made ++ encryptions gcm link turn) := by
  cases turn with
  | hostResumes goOn => exact unanswered.host_breaks breaks
  | hostReads => exact absurd trivial breaks
  | loses => exact absurd trivial breaks
  | deviceReceives hardware bytes =>
      simp only [KeepsIv, not_forall] at breaks
      obtain ⟨flying, short, answered⟩ := breaks
      obtain ⟨first, rest, queue⟩ := List.exists_cons_of_ne_nil flying
      exact unanswered.device_breaks queue short answered

end Unanswered

/-! From the START on. -/

section Session

variable {gcm : AesGcm} {hardware : Hardware} {link : Link}

theorem encryptions_hostResumes {goOn : Bool} (none : hostEncryptions link.host = []) :
    encryptions gcm link (.hostResumes goOn) = [] := by
  simp only [encryptions]
  split
  · rename_i same _
    exact none
  · contradiction
  · rfl

theorem encryptEffects_begun (opens : Opens .secure link)
    (isAdmitted : admitted hardware .secure (link.host.startPacket .secure) = true) :
    encryptEffects (link.begun gcm hardware .secure).effects =
      [⟨link.device.iv, [ackByte true], responsePlaintext link.device.countPck
        (getRandBytes (initRandGenerator hardware.timer)).1⟩] := by
  rw [Link.begun, step_connected gcm _ hardware opens.booted opens.connected, handleConnected_eq,
    startMode_hostStart]
  simp only [isAdmitted, if_true]
  rfl

/-- The response to the START is all that is encrypted before the session is open. -/
theorem Opens.encryptions_opening (opens : Opens .secure link)
    (isAdmitted : admitted hardware .secure (link.host.startPacket .secure) = true) :
    (history (Link.after gcm) link (link.opening hardware .secure)).flatMap
        (fun entry => encryptions gcm entry.1 entry.2) =
      [⟨link.device.iv, [ackByte true], responsePlaintext link.device.countPck
        (getRandBytes (initRandGenerator hardware.timer)).1⟩] := by
  have waits : encryptions gcm link (.hostResumes false) = [] := by
    apply encryptions_hostResumes
    simp [hostEncryptions, opens.requests.suspended, opens.requests.connectionStatus,
      Mode.initPhase]
  have answers : encryptions gcm (link.asked .secure)
      (.deviceReceives hardware (link.host.startBytes .secure)) =
        encryptEffects (link.begun gcm hardware .secure).effects := by
    simp only [encryptions, opens.tells]
    rfl
  have reads : encryptions gcm (link.told gcm hardware .secure) .hostReads = [] := by
    simp [encryptions]
  have goesOn : encryptions gcm ((link.told gcm hardware .secure).after gcm .hostReads)
      (.hostResumes false) = [] := by
    obtain ⟨_, suspended⟩ := readResponse_frame gcm
      (startResponse gcm hardware .secure (link.host.startPacket .secure) link.device)
      link.host.sent
    rw [after_some (turn_hostReads rfl)]
    exact encryptions_hostResumes (hostEncryptions_startSent suspended)
  rw [Link.opening, history, after_some (opens.asks false), history, after_some opens.tells,
    history, history, history_nil]
  simp only [List.flatMap_cons, List.flatMap_nil, waits, answers, reads, goesOn,
    encryptEffects_begun opens isAdmitted, List.append_nil, List.nil_append]

/-- In a secure session that begins with both sides at the same vector, no vector is used twice
exactly as long as the device does not answer and the host does not come back to the first. -/
theorem session_oneUse_iff (gcm : AesGcm) (lawful : gcm.Lawful) (hardware : Hardware) (link : Link)
    (turns : List Turn) (opens : Opens .secure link) (sameIv : link.host.iv = link.device.iv)
    (isAdmitted : admitted hardware .secure (link.host.startPacket .secure) = true) :
    OneUse ((history (Link.after gcm) link (link.opening hardware .secure ++ turns)).flatMap
        fun entry => encryptions gcm entry.1 entry.2) ↔
      Along (Link.after gcm) (KeepsIv link.device.iv) (link.opened gcm hardware .secure) turns := by
  rw [history_append, List.flatMap_append, opens.encryptions_opening isAdmitted]
  have initial : Quiet link.device.iv (initRandGenerator hardware.timer)
      [⟨link.device.iv, [ackByte true], responsePlaintext link.device.countPck
        (getRandBytes (initRandGenerator hardware.timer)).1⟩]
      (link.opened gcm hardware .secure) := by
    have started := @Opens.started gcm hardware .secure link opens isAdmitted
    obtain ⟨randIv, reg⟩ := @Opens.begun_rand gcm hardware link opens isAdmitted
    rw [opens.opened_secure lawful isAdmitted sameIv]
    refine ⟨0, 0, {
      booted := started.running.trans opens.booted
      receving := started.connectionStatus
      deviceRand := randIv
      deviceReg := reg
      deviceIv := started.iv
      balance := Nat.le_refl 0
      unheard := ⟨.inl rfl, .inl rfl, rfl, rfl, congrArg Vector.toList randIv⟩
      silent := rfl
      hostIv := sameIv
      used := rfl
      answer := ⟨_, List.mem_singleton_self _⟩
      data := fun count positive upTo => by omega
      away := fun count positive upTo => by omega }⟩
  refine along_iff_of_emitted (fun _ _ => OneUse.front) ?_ ?_ ?_ initial turns
  · rintro made link ⟨sent, taken, unanswered⟩
    exact unanswered.oneUse
  · rintro made link turn ⟨sent, taken, unanswered⟩ keeps
    exact unanswered.keeps keeps
  · rintro made link turn ⟨sent, taken, unanswered⟩ breaks
    exact unanswered.breaks breaks

end Session

/-- Three packets are sent and two of them have arrived, so that the window is still open. -/
theorem session_oneUse_open_window :
    let link := firstLink .longSample (fun _ => 0) .secure 1
      (List.replicate 15 1 ++ List.replicate 15 2 ++ List.replicate 15 3) initialHost
    let randIv := (getRandBytes 0x1234).1
    let first := secureMsg .longSample (ivAt initialIv randIv 1) 0 (List.replicate 15 1)
    let second := secureMsg .longSample (ivAt initialIv randIv 2) 1 (List.replicate 15 2)
    let turns := [.hostResumes true, .hostResumes true, .deviceReceives (.working 0) first,
      .hostResumes true, .deviceReceives (.working 0) second]
    let made := (history (Link.after .longSample) link
      (link.opening (.working 0x1234) .secure ++ turns)).flatMap
        fun entry => encryptions .longSample entry.1 entry.2
    made.length = 4 ∧ OneUse made := by
  refine ⟨by decide +kernel, ?_⟩
  exact (session_oneUse_iff .longSample (AesGcm.lawful_ofTables _ _) (.working 0x1234) _ _
    (opens_firstLink _ _ .secure 1 rfl (by decide)) rfl (by decide +kernel)).mpr
    (by decide +kernel)

/-- The response to a window is encrypted under the vector of its last data packet. -/
theorem response_reuses_iv :
    let link := firstLink .sample (fun _ => 0) .secure 1
      [1, 2, 3, 4, 5, 6, 7, 8, 9, 10, 11, 12, 13, 14, 15] initialHost
    let message := secureMsg .sample (nextIv initialIv (getRandBytes 0x1234).1) 0
      [1, 2, 3, 4, 5, 6, 7, 8, 9, 10, 11, 12, 13, 14, 15]
    let turns := [.hostResumes true, .deviceReceives (.working 0x1234) message]
    ¬ OneUse ((history (Link.after .sample) link
        (link.opening (.working 0x1234) .secure ++ turns)).flatMap
          fun entry => encryptions .sample entry.1 entry.2) := by
  decide +kernel

end BleFwUpdate
