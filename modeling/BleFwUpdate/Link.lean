import BleFwUpdate.General.Countdown
import BleFwUpdate.Handshake
import BleFwUpdate.Retransmission

/-! Both sides and the messages between them, on a link that loses, changes and reorders
nothing. -/

namespace BleFwUpdate

open Transitions LittleEndian

/-- What the hardware answers while every erase and every program call succeeds. -/
structure Working where
  hardware : Hardware
  works : FlashWorks hardware
  erases : hardware.eraseError = none

structure Link where
  host : Host
  device : Device
  toDevice : List (List UInt8)
  toHost : List (List UInt8)
  -- history variable: the events of the device, each with the state it was handled in
  log : List (Device × Event)

inductive Move
  | hostResumes (goOn : Bool)
  | deviceReceives (working : Working)
  | hostReads
  | disconnects (working : Working)

def Link.handle (gcm : AesGcm) (event : Event) (link : Link) : Link :=
  { link with
    device := step gcm link.device event
    toHost := link.toHost ++ responses (step gcm link.device event).effects
    log := link.log ++ [(link.device, event)] }

/-- What can happen next. When the host has ended the upload, it disconnects. -/
def Link.move (gcm : AesGcm) (link : Link) : Move → Option Link
  | .hostResumes goOn =>
      (resume gcm goOn link.host).map fun (host, messages) =>
        { link with host := host, toDevice := link.toDevice ++ messages }
  | .deviceReceives working =>
      match link.toDevice with
      | [] => none
      | msg :: rest =>
          if short : msg.length ≤ 20 then
            some ({ link with toDevice := rest }.handle gcm
              (.receive (.ofBytes msg short) working.hardware))
          else none
  | .hostReads =>
      match link.toHost with
      | [] => none
      | data :: rest => some { link with host := readResponse gcm data link.host, toHost := rest }
  | .disconnects working =>
      if link.host.connectionStatus = .closingPhase ∧ link.host.suspended = .toLoop ∧
          link.toDevice = [] then
        some ({ link with host := endUpload link.host }.handle gcm (.disconnect working.hardware))
      else none

/-! The chunks of an image. -/

def paddedImage (mode : Mode) (image : List UInt8) : List UInt8 :=
  image ++ List.replicate ((mode.stored - image.length % mode.stored) % mode.stored) 0x30

theorem length_chunksOf (size : Nat) (data : List UInt8) :
    (chunksOf size data).length = (data.length + size - 1) / size := by
  simp [chunksOf]

theorem chunksOf_fits {size : Nat} {data chunk : List UInt8} (member : chunk ∈ chunksOf size data) :
    chunk.length ≤ size := by
  obtain ⟨index, _, rfl⟩ := List.mem_map.mp member
  simp

theorem chunksOf_nil {size : Nat} (positive : 0 < size) : chunksOf size [] = [] := by
  simp [chunksOf, positive]

theorem chunksOf_cons {size : Nat} (positive : 0 < size) {data : List UInt8}
    (nonempty : data ≠ []) :
    chunksOf size data = data.take size :: chunksOf size (data.drop size) := by
  have length := List.length_pos_iff.mpr nonempty
  have count : (data.length + size - 1) / size =
      ((data.drop size).length + size - 1) / size + 1 := by
    rw [List.length_drop]
    rcases Nat.lt_or_ge data.length size with short | long
    · have rest : (data.length - size + size - 1) / size = 0 := Nat.div_eq_of_lt (by omega)
      have one : (data.length + size - 1) / size = 1 :=
        Nat.div_eq_of_lt_le (by omega) (by omega)
      rw [rest, one]
    · rw [show data.length + size - 1 = data.length - size + size - 1 + size by omega,
        Nat.add_div_right _ positive]
  rw [chunksOf, count, List.range_succ_eq_map, List.map_cons, List.map_map, chunksOf]
  congr 1
  · simp
  · apply List.map_congr_left
    intro index _
    simp [Nat.succ_mul, Nat.add_comm]

/-- What the host sends, chunk after chunk, is the padded image. -/
theorem flatten_chunksOf (mode : Mode) (image : List UInt8) :
    ((chunksOf mode.stored image).map (ljust mode.stored)).flatten = paddedImage mode image := by
  have positive : 0 < mode.stored := by cases mode <;> decide
  induction length : image.length using Nat.strong_induction_on generalizing image with
  | _ count ih =>
      by_cases empty : image = []
      · subst empty
        simp [chunksOf_nil positive, paddedImage]
      · have nonempty := List.length_pos_iff.mpr empty
        have later := ih (image.drop mode.stored).length (by rw [List.length_drop]; omega) _ rfl
        rw [chunksOf_cons positive empty, List.map_cons, List.flatten_cons, later]
        rcases Nat.lt_or_ge image.length mode.stored with short | long
        · rw [List.drop_of_length_le (by omega), List.take_of_length_le (by omega), paddedImage,
            paddedImage, ljust]
          simp [Nat.mod_eq_of_lt short, Nat.mod_eq_of_lt (show mode.stored - image.length <
            mode.stored by omega)]
        · have same : (image.length - mode.stored) % mode.stored = image.length % mode.stored :=
            (Nat.mod_eq_sub_mod long).symm
          rw [paddedImage, paddedImage, ljust, List.length_take, Nat.min_eq_left long,
            Nat.sub_self, List.replicate_zero, List.append_nil, List.length_drop, same,
            ← List.append_assoc, List.take_append_drop]

/-! The data messages of an upload. -/

def sentIv (mode : Mode) (randIv : Vector UInt8 3) (iv : Iv) : Iv :=
  -- a raw message leaves the initialization vector alone
  match mode with
  | .raw => iv
  | .secure => nextIv iv randIv

def dataMsg (gcm : AesGcm) (mode : Mode) (iv : Iv) (number : Nat) (chunk : List UInt8) :
    List UInt8 :=
  match mode with
  | .raw => rawMsg number chunk
  | .secure => secureMsg gcm iv number chunk

/-- The messages for some chunks in a row, of which the first has the given number. -/
def dataMsgs (gcm : AesGcm) (mode : Mode) (randIv : Vector UInt8 3) :
    Iv → Nat → List (List UInt8) → List (List UInt8)
  | _, _, [] => []
  | iv, number, chunk :: rest =>
      dataMsg gcm mode (sentIv mode randIv iv) number chunk ::
        dataMsgs gcm mode randIv (sentIv mode randIv iv) (number + 1) rest

def ivAfter (mode : Mode) (randIv : Vector UInt8 3) (count : Nat) (iv : Iv) : Iv :=
  (sentIv mode randIv)^[count] iv

theorem ivAfter_succ (mode : Mode) (randIv : Vector UInt8 3) (count : Nat) (iv : Iv) :
    ivAfter mode randIv (count + 1) iv = sentIv mode randIv (ivAfter mode randIv count iv) :=
  Function.iterate_succ_apply' ..

theorem dataMsgs_concat (gcm : AesGcm) (mode : Mode) (randIv : Vector UInt8 3) (iv : Iv)
    (number : Nat) (chunks : List (List UInt8)) (chunk : List UInt8) :
    dataMsgs gcm mode randIv iv number (chunks ++ [chunk]) =
      dataMsgs gcm mode randIv iv number chunks ++
        [dataMsg gcm mode (ivAfter mode randIv (chunks.length + 1) iv) (number + chunks.length)
          chunk] := by
  induction chunks generalizing iv number with
  | nil => rfl
  | cons first rest ih =>
      rw [List.cons_append, dataMsgs, ih, dataMsgs, List.cons_append, List.length_cons,
        Nat.add_right_comm, Nat.add_assoc number]
      rfl

theorem hostNextIv_toList (iv : Iv) (randIv : Vector UInt8 3) :
    hostNextIv iv randIv.toList = some (nextIv iv randIv) := by
  obtain ⟨⟨bytes⟩, length⟩ := randIv
  obtain ⟨first, second, third, rfl⟩ := List.length_eq_three.mp length
  rfl

theorem countChunk_eq {host : Host} {sent : Nat} (window : Nat) (cont : host.contChunck = sent) :
    countChunk window host = { host with
      contChunck := (sent : Int) + 1
      suspended := if (sent + 1) % window = 0 ∨ sent + 1 = host.chunks.length then .windowSent
        else .toLoop } := by
  have ends : (((sent : Int) + 1) % window = 0 ∨ (sent : Int) + 1 = host.chunks.length) ↔
      ((sent + 1) % window = 0 ∨ sent + 1 = host.chunks.length) := by
    norm_cast
  rw [countChunk, cont]
  by_cases closing : (sent + 1) % window = 0 ∨ sent + 1 = host.chunks.length
  · simp only [if_pos closing, if_pos (ends.mpr closing)]
  · simp only [if_neg closing, if_neg (mt ends.mp closing)]

theorem resume_sends (gcm : AesGcm) (goOn : Bool) {mode : Mode} {host : Host}
    {randIv : Vector UInt8 3} {sent : Nat} {chunk : List UInt8}
    (suspended : host.suspended = .toLoop) (status : host.connectionStatus = mode.sendingPhase)
    (cont : host.contChunck = sent) (rand : host.randIv = randIv.toList)
    (next : host.chunks[sent]? = some chunk) (few : host.chunks.length < 65536) :
    resume gcm goOn host =
      some ({ host with
        iv := sentIv mode randIv host.iv
        contChunck := (sent : Int) + 1
        suspended := if (sent + 1) % mode.window.toNat = 0 ∨ sent + 1 = host.chunks.length then
          .windowSent else .toLoop },
        [dataMsg gcm mode (sentIv mode randIv host.iv) sent chunk]) := by
  have inside := (List.getElem?_eq_some_iff.mp next).1
  have below : host.contChunck < host.chunks.length := by omega
  have found : pyIndex host.chunks host.contChunck = some chunk := by
    rw [pyIndex, cont, if_pos (by omega), Int.toNat_natCast, next]
  cases mode with
  | raw =>
      have counts := countChunk_eq 10 cont
      have range : 0 ≤ host.contChunck ∧ host.contChunck < 65536 := by omega
      have number : host.contChunck.toNat = sent := by omega
      simp only [Nat.cast_ofNat] at counts
      simp only [resume, suspended, status, Mode.sendingPhase, if_pos below, sendRawChunk, found,
        if_pos range, counts, number]
      rfl
  | secure =>
      have counts := @countChunk_eq { host with iv := nextIv host.iv randIv } sent 16 cont
      simp only [Nat.cast_ofNat] at counts
      simp only [resume, suspended, status, Mode.sendingPhase, if_pos below, sendSecureChunk, found,
        rand, hostNextIv_toList] at counts ⊢
      rw [counts, cont]
      rfl

section Receive

variable {gcm : AesGcm} {mode : Mode} {iv : Iv} {number : Nat} {chunk : List UInt8}

theorem dataMsg_short (lawful : gcm.Lawful) (iv : Iv) (number : Nat)
    (fits : chunk.length ≤ mode.stored) : (dataMsg gcm mode iv number chunk).length ≤ 20 := by
  cases mode with
  | raw => exact Nat.le_of_eq (length_rawMsg fits number)
  | secure => exact Nat.le_of_eq (length_secureMsg lawful iv number fits)

theorem dataMsg_taken (lawful : gcm.Lawful) (fits : chunk.length ≤ mode.stored)
    (short : (dataMsg gcm mode iv number chunk).length ≤ 20) {device : Device}
    (count : device.countPck.toNat = number) (same : iv = sentIv mode device.randIv device.iv)
    (hardware : Hardware) :
    (Packet.ofBytes (dataMsg gcm mode iv number chunk) short).numBytes = 20 ∧
      accepts mode (.ofBytes (dataMsg gcm mode iv number chunk) short) device = true ∧
      payload gcm hardware mode (.ofBytes (dataMsg gcm mode iv number chunk) short) device =
        ljust mode.stored chunk := by
  cases mode with
  | raw =>
      exact ⟨numBytes_rawPacket fits,
        accepts_rawPacket fits (count ▸ device.countPck.toNat_lt) count,
        payload_rawPacket fits gcm hardware device⟩
  | secure =>
      exact ⟨numBytes_securePacket lawful fits, accepts_securePacket lawful fits count,
        payload_securePacket lawful fits hardware same⟩

end Receive

end BleFwUpdate
