import BleFwUpdate.Delivery

/-! A whole upload on a faithful link, in whatever order the two sides take their turns. -/

namespace BleFwUpdate

open Transitions LittleEndian Countdown

/-- What the user has asked for: an image, padded to whole chunks, that fits into its slot. -/
structure Upload where
  mode : Mode
  selected : UInt8
  image : List UInt8
  base : UInt32
  nonempty : image ≠ []
  slot : slotAddress (.ofByte selected) = some base
  fits : (paddedImage mode image).length ≤ slotSize (.ofByte selected)

namespace Upload

def chunks (upload : Upload) : List (List UInt8) := chunksOf upload.mode.stored upload.image

def app (upload : Upload) : FlashAppType := .ofByte upload.selected

def payloads (upload : Upload) (count : Nat) : List (List UInt8) :=
  (upload.chunks.take count).map (ljust upload.mode.stored)

def flying (upload : Upload) (sent taken : Nat) : List (List UInt8) :=
  (upload.chunks.drop taken).take (sent - taken)

def Ends (upload : Upload) (number : Nat) : Prop :=
  number % upload.mode.window.toNat = 0 ∨ number = upload.chunks.length

section Sizes

variable (upload : Upload)

theorem chunk_fits {chunk : List UInt8} (member : chunk ∈ upload.chunks) :
    chunk.length ≤ upload.mode.stored := chunksOf_fits member

theorem length_padded :
    (paddedImage upload.mode upload.image).length = upload.mode.stored * upload.chunks.length := by
  rw [← flatten_chunksOf, length_flatten_sized, List.length_map, chunks]
  intro bytes member
  obtain ⟨chunk, chunkMember, rfl⟩ := List.mem_map.mp member
  exact length_ljust (chunksOf_fits chunkMember)

theorem payloads_all :
    (upload.payloads upload.chunks.length).flatten = paddedImage upload.mode upload.image := by
  rw [payloads, List.take_length, chunks, flatten_chunksOf]

theorem chunks_positive : 0 < upload.chunks.length := by
  have nonempty := List.length_pos_iff.mpr upload.nonempty
  rw [chunks, length_chunksOf]
  cases upload.mode <;> simp only [Mode.stored] <;> omega

theorem slot_bound : slotSize upload.app ≤ 0x40000 := by
  rw [app]
  cases FlashAppType.ofByte upload.selected <;> simp [slotSize]

theorem chunks_few : upload.chunks.length ≤ 17476 := by
  have fits := upload.fits
  have bound := upload.slot_bound
  rw [length_padded] at fits
  rw [app] at bound
  revert fits
  cases upload.mode <;> simp only [Mode.stored] <;> omega

end Sizes

def device (gcm : AesGcm) (flash : UInt32 → UInt64) : Device := run gcm flash [.connect]

def link (upload : Upload) (gcm : AesGcm) (flash : UInt32 → UInt64) : Link where
  host := beginUpload (upload.mode == .secure) upload.selected upload.image initialHost
  device := device gcm flash
  toDevice := []
  toHost := []
  log := [(powerOn flash, .connect)]

def startMsg (upload : Upload) : List UInt8 :=
  [upload.mode.startCmd, upload.selected, UInt8.ofNat (upload.chunks.length / 256),
    UInt8.ofNat upload.chunks.length,
    UInt8.ofNat (upload.chunks.length / 256) + UInt8.ofNat upload.chunks.length]

def start (upload : Upload) : Packet :=
  startPacket upload.mode.startCmd upload.selected upload.chunks.length

theorem checkFwSize_start (upload : Upload) :
    checkFwSize (upload.start.number 2) upload.mode.checkedLen upload.app = true := by
  have few := upload.chunks_few
  have fits := upload.fits
  have slot := upload.slot
  rw [length_padded] at fits
  rw [start, number_startPacket, app, checkFwSize_iff slot upload.mode (by omega)]
  generalize FlashAppType.ofByte upload.selected = app at fits slot ⊢
  generalize upload.mode = mode at fits ⊢
  cases app <;> simp only [slotAddress, reduceCtorEq] at slot <;> cases mode <;>
    simp only [slotSize, sizeLimit, Mode.stored, Mode.checkedLen, payloadLen, securePayloadLen,
      UInt8.reduceToNat] at fits ⊢ <;>
    omega

theorem admitted_start (upload : Upload) (working : Working) :
    admitted working.hardware upload.mode upload.start = true := by
  have slot : (slotAddress (requestedApp upload.start)).isSome = true := by
    rw [Option.isSome_iff_exists]
    exact ⟨_, upload.slot⟩
  rw [admitted, prepareOutcome, working.erases, slot]
  exact upload.checkFwSize_start

theorem link_chunks (upload : Upload) (gcm : AesGcm) (flash : UInt32 → UInt64) :
    (upload.link gcm flash).host.chunks = upload.chunks := by
  rw [chunks]
  cases mode : upload.mode <;> simp [link, beginUpload, mode, Mode.stored]

theorem requests_link (upload : Upload) (gcm : AesGcm) (flash : UInt32 → UInt64) :
    Requests upload.mode (upload.link gcm flash).host := by
  have few := upload.chunks_few
  refine ⟨rfl, ?_, rfl, by rw [link_chunks]; omega⟩
  cases mode : upload.mode <;>
    simp [link, beginUpload, tooBig, equalsMember, mode, Mode.initPhase]

theorem length_flying (upload : Upload) {sent taken : Nat} (inside : sent ≤ upload.chunks.length) :
    (upload.flying sent taken).length = sent - taken := by
  rw [flying, List.length_take, List.length_drop]
  omega

theorem flying_sent (upload : Upload) {sent taken : Nat} {chunk : List UInt8}
    (order : taken ≤ sent) (next : upload.chunks[sent]? = some chunk) :
    upload.flying (sent + 1) taken = upload.flying sent taken ++ [chunk] := by
  have found : (upload.chunks.drop taken)[sent - taken]? = some chunk := by
    rw [List.getElem?_drop, Nat.add_sub_cancel' order, next]
  rw [flying, Nat.succ_sub order, List.take_add_one, found]
  rfl

theorem flying_taken (upload : Upload) {sent taken : Nat} {chunk : List UInt8}
    (behind : taken < sent) (next : upload.chunks[taken]? = some chunk) :
    upload.flying sent taken = chunk :: upload.flying sent (taken + 1) := by
  obtain ⟨inside, rfl⟩ := List.getElem?_eq_some_iff.mp next
  rw [flying, List.drop_eq_getElem_cons inside, show sent - taken = sent - (taken + 1) + 1 by omega,
    List.take_succ_cons]
  rfl

theorem payloads_succ (upload : Upload) {taken : Nat} {chunk : List UInt8}
    (next : upload.chunks[taken]? = some chunk) :
    upload.payloads (taken + 1) = upload.payloads taken ++ [ljust upload.mode.stored chunk] := by
  rw [payloads, List.take_add_one, next, List.map_append]
  rfl

theorem length_payloads (upload : Upload) {taken : Nat} (inside : taken ≤ upload.chunks.length) :
    (upload.payloads taken).length = taken := by
  rw [payloads, List.length_map, List.length_take]
  omega

end Upload

/-- Both sides in the middle of an upload: `sent` chunks have been sent and `taken` packets
taken, and what is in between is on its way. -/
structure Session (gcm : AesGcm) (upload : Upload) (sent taken : Nat) (link : Link) : Prop where
  chunks : link.host.chunks = upload.chunks
  security : link.host.security = (upload.mode == .secure)
  intact : link.host.msgTampered = false
  order : taken ≤ sent
  inside : sent ≤ upload.chunks.length
  queue : link.toDevice = dataMsgs gcm upload.mode link.device.randIv link.device.iv taken
    (upload.flying sent taken)
  iv : link.host.iv = ivAfter upload.mode link.device.randIv (sent - taken) link.device.iv
  payloads : if taken = upload.chunks.length then
      Uploaded gcm upload.mode upload.base link.log (upload.payloads taken) link.device
    else Taking gcm upload.mode upload.base link.log (upload.payloads taken) link.device
  running : link.device.running = none
  total : link.device.totalPck.toNat = upload.chunks.length
  app : link.device.appToUpdate = upload.app
  acks : ∀ entry ∈ link.log, ∀ bytes ∈ responses (step gcm entry.1 entry.2).effects,
    bytes.head? = some ackCmd
  flash : ∃ erased, link.device.flash = flashAfter erased (programmed gcm link.log)

section Turns

variable {gcm : AesGcm} {upload : Upload} {sent taken : Nat} {link : Link}

theorem Session.sends (session : Session gcm upload sent taken link) (goOn : Bool)
    (suspended : link.host.suspended = .toLoop)
    (status : link.host.connectionStatus = upload.mode.sendingPhase)
    (cont : link.host.contChunck = sent) (rand : link.host.randIv = link.device.randIv.toList)
    (more : sent < upload.chunks.length) :
    ∃ host msg, resume gcm goOn link.host = some (host, [msg]) ∧
      Session gcm upload (sent + 1) taken
        { link with host := host, toDevice := link.toDevice ++ [msg] } ∧
      host.connectionStatus = link.host.connectionStatus ∧ host.ackRcv = link.host.ackRcv ∧
      host.randIv = link.host.randIv ∧ host.contChunck = (sent + 1 : Nat) ∧
      (upload.Ends (sent + 1) → host.suspended = .windowSent) ∧
      (¬ upload.Ends (sent + 1) → host.suspended = .toLoop) := by
  have few := upload.chunks_few
  have next : upload.chunks[sent]? = some upload.chunks[sent] := List.getElem?_eq_getElem more
  have sends := resume_sends gcm goOn suspended status cont rand (by rw [session.chunks, next])
    (by rw [session.chunks]; omega)
  have order := session.order
  have length : (upload.flying sent taken).length = sent - taken :=
    upload.length_flying session.inside
  refine ⟨_, _, sends, ?_, rfl, rfl, rfl, rfl, fun ends => ?_, fun inside => ?_⟩
  · refine { session with
      order := by omega, inside := more, queue := ?_, iv := ?_ }
    · rw [upload.flying_sent order next, dataMsgs_concat, length, ← session.queue,
        Nat.add_sub_cancel' order, ivAfter_succ, ← session.iv]
    · rw [show sent + 1 - taken = sent - taken + 1 by omega, ivAfter_succ, ← session.iv]
  · rw [session.chunks]
    exact if_pos ends
  · rw [session.chunks]
    exact if_neg inside

theorem Session.taking (session : Session gcm upload sent taken link)
    (behind : taken < upload.chunks.length) :
    Taking gcm upload.mode upload.base link.log (upload.payloads taken) link.device ∧
      link.device.countPck.toNat = taken ∧
      (link.device.countPck + 1 = link.device.totalPck ↔ taken + 1 = upload.chunks.length) := by
  have payloads := session.payloads
  rw [if_neg (by omega)] at payloads
  have count : link.device.countPck.toNat = taken := by
    rw [← payloads.length, upload.length_payloads (by omega)]
  have few := upload.chunks_few
  refine ⟨payloads, count, ?_⟩
  rw [← UInt16.toNat_inj, UInt16.toNat_add, count, session.total, UInt16.toNat_one,
    Nat.mod_eq_of_lt (by omega)]

theorem Session.closes_iff (session : Session gcm upload sent taken link)
    (behind : taken < upload.chunks.length) {packet : Packet}
    (isCounted : counted upload.mode packet = true) :
    closesWindow upload.mode packet link.device = true ↔ upload.Ends (taken + 1) := by
  obtain ⟨_, count, last⟩ := session.taking behind
  have few := upload.chunks_few
  have succ : (link.device.countPck + 1).toNat = taken + 1 := by
    rw [UInt16.toNat_add, count, UInt16.toNat_one, Nat.mod_eq_of_lt (by omega)]
  rw [closesWindow_iff isCounted, last, succ]
  rfl

theorem Session.received (lawful : gcm.Lawful) (session : Session gcm upload sent taken link)
    (behind : taken < sent) (ends : upload.Ends (taken + 1) → taken + 1 = sent)
    {chunk : List UInt8} (here : upload.chunks[taken]? = some chunk) {packet : Packet}
    {working : Working} (full : packet.numBytes = 20)
    (good : accepts upload.mode packet link.device = true)
    (stored : payload gcm working.hardware upload.mode packet link.device =
      ljust upload.mode.stored chunk) {rest : List (List UInt8)}
    (queue : rest = dataMsgs gcm upload.mode link.device.randIv
      (sentIv upload.mode link.device.randIv link.device.iv) (taken + 1)
      (upload.flying sent (taken + 1))) :
    let next := { link with toDevice := rest }.handle gcm (.receive packet working.hardware)
    Session gcm upload sent (taken + 1) next ∧
      (¬ upload.Ends (taken + 1) →
        next.toHost = link.toHost ∧ next.device.randIv = link.device.randIv) ∧
      (upload.Ends (taken + 1) →
        (upload.mode = .raw → next.device.randIv = link.device.randIv) ∧
        ∃ bytes, next.toHost = link.toHost ++ [bytes] ∧
          ReadsAck gcm upload.mode bytes next.device.iv next.device.randIv) := by
  have inside := (List.getElem?_eq_some_iff.mp here).1
  obtain ⟨taking, _, last⟩ := session.taking inside
  have took := taking.took lawful working.works good
  have takes := taking.takes working.works full good
  have closes := session.closes_iff inside (counted_of_accepts good)
  have quiet (within : ¬ upload.Ends (taken + 1)) :=
    took.quiet (by simpa using mt closes.mp within)
  have answers (ended : upload.Ends (taken + 1)) := took.answers (closes.mpr ended)
  have landed (ended : upload.Ends (taken + 1)) : upload.flying sent (taken + 1) = [] := by
    rw [Upload.flying, ends ended, Nat.sub_self, List.take_zero]
  rw [stored, ← upload.payloads_succ here] at takes
  intro next
  have toHost : next.toHost = link.toHost ++ responses
    (step gcm link.device (.receive packet working.hardware)).effects := rfl
  have shift : sent - taken = sent - (taken + 1) + 1 := by omega
  refine ⟨{
    chunks := session.chunks
    security := session.security
    intact := session.intact
    order := behind
    inside := session.inside
    queue := ?_
    iv := ?_
    payloads := ?_
    running := took.running
    total := took.totalPck ▸ session.total
    app := took.appToUpdate.trans session.app
    acks := acks_concat session.acks took.acks
    flash := ?_ }, fun within => ?_, fun ended => ?_⟩
  · rw [show next.toDevice = rest from rfl, show next.device.iv = _ from took.iv, queue]
    by_cases ended : upload.Ends (taken + 1)
    · rw [landed ended]
      rfl
    · rw [show next.device.randIv = _ from (quiet ended).2]
  · rw [show next.host = link.host from rfl, show next.device.iv = _ from took.iv, session.iv,
      shift]
    by_cases ended : upload.Ends (taken + 1)
    · rw [← ends ended, Nat.sub_self]
      rfl
    · rw [show next.device.randIv = _ from (quiet ended).2]
      rfl
  · by_cases final : taken + 1 = upload.chunks.length
    · rw [if_pos (last.mpr final)] at takes
      rw [if_pos final]
      exact takes
    · rw [if_neg (mt last.mp final)] at takes
      rw [if_neg final]
      exact takes
  · obtain ⟨erased, same⟩ := session.flash
    refine ⟨erased, ?_⟩
    rw [show next.device.flash = _ from took.flash, same,
      show next.log = link.log ++ [(link.device, .receive packet working.hardware)] from rfl,
      programmed_concat, flashAfter_append]
  · rw [toHost, (quiet within).1, List.append_nil]
    exact ⟨rfl, (quiet within).2⟩
  · obtain ⟨raw, bytes, answer, reads⟩ := answers ended
    exact ⟨raw, bytes, by rw [toHost, answer], reads⟩

theorem Session.takes (lawful : gcm.Lawful) (session : Session gcm upload sent taken link)
    (behind : taken < sent) (ends : upload.Ends (taken + 1) → taken + 1 = sent)
    (working : Working) :
    ∃ next, link.move gcm (.deviceReceives working) = some next ∧ next.host = link.host ∧
      Session gcm upload sent (taken + 1) next ∧
      (¬ upload.Ends (taken + 1) →
        next.toHost = link.toHost ∧ next.device.randIv = link.device.randIv) ∧
      (upload.Ends (taken + 1) →
        (upload.mode = .raw → next.device.randIv = link.device.randIv) ∧
        ∃ bytes, next.toHost = link.toHost ++ [bytes] ∧
          ReadsAck gcm upload.mode bytes next.device.iv next.device.randIv) := by
  have inside : taken < upload.chunks.length := Nat.lt_of_lt_of_le behind session.inside
  have here : upload.chunks[taken]? = some upload.chunks[taken] := List.getElem?_eq_getElem inside
  have fits := upload.chunk_fits (List.getElem_mem inside)
  obtain ⟨_, count, _⟩ := session.taking inside
  have queue := session.queue
  rw [upload.flying_taken behind here, dataMsgs] at queue
  have short :=
    dataMsg_short lawful (sentIv upload.mode link.device.randIv link.device.iv) taken fits
  obtain ⟨full, good, stored⟩ := dataMsg_taken lawful fits short count rfl working.hardware
  have received := session.received lawful behind ends here full good stored rfl
  refine ⟨_, ?_, ?_, received⟩
  · simp only [Link.move, queue, dif_pos short]
  · rfl

end Turns

/-! The START of the upload. -/

namespace Upload

variable (upload : Upload) (gcm : AesGcm) (flash : UInt32 → UInt64)

theorem resume_link (goOn : Bool) :
    resume gcm goOn (upload.link gcm flash).host =
      some ((upload.link gcm flash).host.sent, [upload.startMsg]) := by
  rw [resume_request gcm goOn (upload.requests_link gcm flash), link_chunks]
  rfl

def requested : Link :=
  { upload.link gcm flash with
    host := (upload.link gcm flash).host.sent, toDevice := [upload.startMsg] }

def begun (working : Working) : Link :=
  { upload.requested gcm flash with toDevice := [] }.handle gcm
    (.receive upload.start working.hardware)

theorem started_begun (working : Working) :
    Started upload.mode upload.start (device gcm flash)
      (upload.begun gcm flash working).device :=
  started gcm rfl rfl (startMode_startPacket ..) (upload.admitted_start working)

theorem answers_begun {gcm : AesGcm} (lawful : gcm.Lawful) (working : Working) :
    (upload.mode = .raw → (upload.begun gcm flash working).device.randIv = #v[0, 0, 0]) ∧
      ∃ bytes, (upload.begun gcm flash working).toHost = [bytes] ∧
        ReadsAck gcm upload.mode bytes (upload.begun gcm flash working).device.iv
          (upload.begun gcm flash working).device.randIv :=
  answers_start lawful rfl rfl (startMode_startPacket ..) (upload.admitted_start working)

theorem session_begun {gcm : AesGcm} (lawful : gcm.Lawful) (working : Working) :
    Session gcm upload 0 0 (upload.begun gcm flash working) := by
  have started := upload.started_begun gcm flash working
  have positive := upload.chunks_positive
  have few := upload.chunks_few
  have fresh := fresh_run gcm flash [.connect] ⟨rfl, trivial⟩
  have number : (upload.start.number 2).toNat = upload.chunks.length := by
    rw [start, number_startPacket, UInt16.toNat_ofNat', Nat.mod_eq_of_lt (by omega)]
  have nonempty : upload.start.number 2 ≠ 0 := by
    rw [← UInt16.toNat_inj.ne, number]
    exact Nat.pos_iff_ne_zero.mp positive
  have uploading := started.uploading gcm fresh rfl rfl upload.slot nonempty rfl
  have silent : programmed gcm (upload.begun gcm flash working).log = [] := by
    have connected := programs_connected gcm working.hardware upload.start (device gcm flash)
    rw [← step_connected gcm upload.start working.hardware rfl rfl] at connected
    have log : (upload.begun gcm flash working).log = [(powerOn flash, .connect),
      (device gcm flash, .receive upload.start working.hardware)] := rfl
    rw [log, programmed, List.flatMap_cons, List.flatMap_cons, connected]
    rfl
  refine {
    chunks := upload.link_chunks gcm flash
    security := rfl
    intact := rfl
    order := Nat.le_refl _
    inside := Nat.zero_le _
    queue := rfl
    iv := ?_
    payloads := ?_
    running := started.running
    total := by rw [started.totalPck, number]
    app := started.appToUpdate
    acks := ?_
    flash := ⟨_, by rw [silent]; rfl⟩ }
  · rw [started.iv]
    rfl
  · rw [if_neg (by omega)]
    refine ⟨[], [], rfl, by rw [started.nextAck]; rfl,
      { uploading with delivered := ?_, programmed := silent }⟩
    simp
  · have quiet : ∀ entry ∈ [(powerOn flash, Event.connect)],
        ∀ bytes ∈ responses (step gcm entry.1 entry.2).effects, bytes.head? = some ackCmd := by
      intro entry member bytes sentBytes
      rw [List.mem_singleton.mp member] at sentBytes
      contradiction
    refine acks_concat quiet ?_
    obtain ⟨_, answer, answered, reads⟩ := upload.answers_begun flash lawful working
    intro bytes sentBytes
    have single : bytes ∈ [answer] := answered ▸ sentBytes
    rw [List.mem_singleton.mp single]
    exact reads.1

end Upload

end BleFwUpdate
