import BleFwUpdate.Course

/-! Whether both sides stay at the same initialization vector, session after session. -/

namespace BleFwUpdate

open Transitions

/-! The packets of a session. -/

section Packets

variable {gcm : AesGcm} {total sent : Nat} {tagged : Tagged} {hardware : Hardware}
  {first : List UInt8} {rest : List (List UInt8)} {packet : Packet}

theorem ivAt_next (start : Iv) (randIv : Vector UInt8 3) (count : Nat) :
    ivAt (nextIv start randIv) randIv count = ivAt start randIv (count + 1) := rfl

theorem Flow.sameIv (flow : Flow total sent tagged) (landed : tagged.link.toDevice = []) :
    tagged.link.host.iv = tagged.link.device.iv := by
  rw [flow.hostIv, landed]
  rfl

theorem Flow.taken (flow : Flow total sent tagged) (queue : tagged.link.toDevice = first :: rest)
    (iv : (step gcm tagged.link.device (.receive packet hardware)).iv =
      nextIv tagged.link.device.iv tagged.link.device.randIv)
    (rand : (step gcm tagged.link.device (.receive packet hardware)).randIv =
      tagged.link.device.randIv ∨ rest = [])
    (receving : (step gcm tagged.link.device (.receive packet hardware)).connectionStatus ≠
      .connected) :
    Flow total sent (tagged.taken gcm hardware packet rest) := by
  obtain ⟨connected, running, totalPck, _⟩ := receive_frame gcm packet hardware flow.receving
  have hostIv := flow.hostIv
  have tags := flow.tags
  rw [queue, List.length_cons] at hostIv tags
  rw [List.range_succ_eq_map, List.map_cons, List.map_map] at tags
  refine { flow with
    booted := running.trans flow.booted
    connection := connected.trans flow.connection
    receving := receving
    totalPck := (congrArg UInt16.toNat totalPck).trans flow.totalPck
    hostIv := ?_
    tags := ?_
    data := fun message member => flow.data message (by
      rw [queue]
      exact List.mem_cons_of_mem _ member) }
  · change tagged.link.host.iv = ivAt (step gcm _ _).iv (step gcm _ _).randIv rest.length
    rcases rand with same | rfl
    · rw [iv, same, ivAt_next]
      exact hostIv
    · rw [iv]
      exact hostIv
  · change tagged.sent.tail = (List.range rest.length).map fun index =>
      some (ivAt (step gcm _ _).iv (step gcm _ _).randIv (index + 1))
    rw [tags, List.tail_cons]
    rcases rand with same | rfl
    · rw [iv, same]
      rfl
    · rfl

theorem Flowing.behind (flowing : Flowing total sent tagged)
    (queue : tagged.link.toDevice = first :: rest) :
    tagged.link.device.countPck.toNat < total := by
  obtain ⟨rewinds, position⟩ := flowing.position
  have upTo := flowing.upTo
  rw [queue, List.length_cons] at position
  omega

theorem Flowing.succ (flowing : Flowing total sent tagged)
    (queue : tagged.link.toDevice = first :: rest) :
    (tagged.link.device.countPck + 1).toNat = tagged.link.device.countPck.toNat + 1 :=
  toNat_succ_of_lt (UInt16.lt_iff_toNat_lt.mpr (flowing.totalPck ▸ flowing.behind queue))

theorem Flowing.closes_iff (flowing : Flowing total sent tagged)
    (queue : tagged.link.toDevice = first :: rest)
    (isData : verifyDataType packet .writeSecureFlashPacket = true) :
    closesWindow .secure packet tagged.link.device = true ↔
      SecureEnd total (tagged.link.device.countPck.toNat + 1) := by
  rw [closesWindow_iff (counted_data isData), ← UInt16.toNat_inj, flowing.succ queue,
    flowing.totalPck]
  rfl

theorem Flowing.inside (flowing : Flowing total sent tagged)
    (queue : tagged.link.toDevice = first :: rest)
    (isData : verifyDataType packet .writeSecureFlashPacket = true)
    (isInside : closesWindow .secure packet tagged.link.device = false) :
    Flowing total sent (tagged.taken gcm hardware packet rest) := by
  have behind := flowing.behind queue
  have succ := flowing.succ queue
  obtain ⟨rewinds, position⟩ := flowing.position
  rw [queue, List.length_cons] at position
  obtain ⟨iv, rand, countPck, status, _, silent⟩ := @secureData_inside gcm hardware packet _
    flowing.booted (flowing.receives behind) isData isInside
  have flow := @Flow.taken gcm total sent tagged hardware first rest packet flowing.toFlow queue
    iv (.inl rand) (by simp [status])
  refine { flow with
    status := flowing.status
    intact := flowing.intact
    rand := flowing.rand.trans (congrArg Vector.toList rand.symm)
    unread := flowing.unread
    silent := ?_
    answered := ?_
    position := ⟨rewinds, ?_⟩
    receives := fun _ => status
    within := ?_ }
  · change tagged.link.toHost ++ responses (step gcm tagged.link.device _).effects = []
    rw [flowing.silent, silent]
    rfl
  · simp only [Tagged.taken, flowing.answered, silent]
    rfl
  · change (step gcm tagged.link.device _).countPck.toNat + 16 * rewinds + rest.length = sent
    rw [countPck, succ]
    omega
  · intro number above below
    refine flowing.within number ?_ below
    have above : sent < number + rest.length := above
    rw [queue, List.length_cons]
    omega

/-- A window that is rejected takes the device back by sixteen packets, or below zero at the end
of a short upload. -/
theorem Flowing.settles (flowing : Flowing total sent tagged)
    (queue : tagged.link.toDevice = [first])
    (ends : SecureEnd total (tagged.link.device.countPck.toNat + 1)) {after : UInt16} {kept : Bool}
    (countPck : after = if kept then tagged.link.device.countPck + 1
      else tagged.link.device.countPck + 1 - 16) :
    (∃ rewinds, after.toNat + 16 * rewinds = sent) ∨ sent = total := by
  have succ := flowing.succ queue
  have upTo := flowing.upTo
  obtain ⟨rewinds, position⟩ := flowing.position
  rw [queue, List.length_singleton] at position
  cases kept with
  | true =>
      rw [if_pos rfl] at countPck
      exact .inl ⟨rewinds, by rw [countPck, succ]; omega⟩
  | false =>
      rw [if_neg (by simp)] at countPck
      by_cases enough : 16 ≤ tagged.link.device.countPck.toNat + 1
      · have window : (16 : UInt16) ≤ tagged.link.device.countPck + 1 := by
          rw [UInt16.le_iff_toNat_le, succ]
          exact enough
        have less : after.toNat = tagged.link.device.countPck.toNat + 1 - 16 := by
          rw [countPck, UInt16.toNat_sub_of_le _ _ window, succ]
          rfl
        exact .inl ⟨rewinds + 1, by omega⟩
      · have last := ends.resolve_left (by omega)
        exact .inr (by omega)

/-- The last packet of a window: the device answers, whatever becomes of the window. -/
theorem Flowing.closes (flowing : Flowing total sent tagged)
    (queue : tagged.link.toDevice = [first])
    (suspended : tagged.link.host.suspended = .windowSent)
    (isData : verifyDataType packet .writeSecureFlashPacket = true)
    (closes : closesWindow .secure packet tagged.link.device = true) :
    Course gcm (tagged.taken gcm hardware packet []) := by
  have behind := flowing.behind queue
  have ends := (flowing.closes_iff queue isData).mp closes
  obtain ⟨iv, ⟨kept, countPck⟩, status, _, ack, count, answer, encrypted⟩ :=
    @secureData_closes gcm hardware packet _ flowing.booted (flowing.receives behind) isData closes
  have flow := @Flow.taken gcm total sent tagged hardware first [] packet flowing.toFlow queue
    iv (.inr rfl) (by rw [status]; split <;> simp)
  have goesOn (fewer : (step gcm tagged.link.device (.receive packet hardware)).countPck.toNat <
      total) : (step gcm tagged.link.device (.receive packet hardware)).connectionStatus =
        .recevingSecureFw := by
    rw [status, if_neg]
    intro same
    rw [same, flowing.totalPck] at fewer
    exact Nat.lt_irrefl _ fewer
  refine .told { flow with
    waits := ⟨flowing.cont, .inr ⟨suspended, flowing.status⟩⟩
    landed := rfl
    settled := ?_ } (fun _ => flowing.intact) flowing.unread ⟨ack, count, ?_⟩ ?_
  · rcases flowing.settles queue ends countPck with ⟨rewinds, position⟩ | all
    · exact .inl ⟨rewinds, position, goesOn⟩
    · exact .inr all
  · change tagged.link.toHost ++ responses (step gcm tagged.link.device _).effects = _
    rw [flowing.silent, answer]
    rfl
  · simp only [Tagged.taken, flowing.answered, answer, encrypted]
    rfl

theorem Flowing.received (flowing : Flowing total sent tagged)
    (queue : tagged.link.toDevice = first :: rest) (short : first.length ≤ 20)
    (isData : verifyDataType (.ofBytes first short) .writeSecureFlashPacket = true) :
    Synchronous gcm tagged (.deviceReceives hardware) := by
  have behind := flowing.behind queue
  refine synchronous_receives (act_deviceReceives queue short) fun iv member => ?_
  have moved : decryptIvs (step gcm tagged.link.device
      (.receive (.ofBytes first short) hardware)).effects =
        [nextIv tagged.link.device.iv tagged.link.device.randIv] := by
    cases closes : closesWindow .secure (.ofBytes first short) tagged.link.device with
    | false =>
        exact (secureData_inside flowing.booted (flowing.receives behind) isData closes).2.2.2.2.1
    | true =>
        obtain ⟨iv, _, _, decrypts, _⟩ := @secureData_closes gcm hardware _ _ flowing.booted
          (flowing.receives behind) isData closes
        rw [decrypts, iv]
  have member : iv ∈ decryptIvs (step gcm tagged.link.device
      (.receive (.ofBytes first short) hardware)).effects := member
  rw [moved, List.mem_singleton] at member
  rw [flowing.tags, queue, member, List.length_cons, List.range_succ_eq_map]
  rfl

/-- Only the last packet of what is under way can end a window. -/
theorem Flowing.last (flowing : Flowing total sent tagged)
    (queue : tagged.link.toDevice = first :: rest)
    (ends : SecureEnd total (sent - rest.length)) : rest = [] := by
  have within := flowing.within (sent - rest.length)
  obtain ⟨rewinds, position⟩ := flowing.position
  rw [queue, List.length_cons] at within position
  by_contra left
  have some := List.length_pos_iff.mpr left
  exact within (by omega) (by omega) ends

theorem Flowing.encrypts (flowing : Flowing total sent tagged) {goOn : Bool} {host : Host}
    {message : List UInt8} (suspended : tagged.link.host.suspended = .toLoop)
    (resumes : resume gcm goOn tagged.link.host = some (host, [message])) :
    firstIv (hostEncryptions tagged.link.host) =
      some (nextIv tagged.link.host.iv tagged.link.device.randIv) := by
  have unheard : Unheard tagged.link.device.randIv tagged.link.host :=
    ⟨.inl flowing.status, .inl suspended, flowing.intact, flowing.unread, flowing.rand⟩
  rcases unheard.resumes gcm goOn with ⟨blocked, _⟩ |
    ⟨after, messages, same, _, ⟨rfl, _, _⟩ | ⟨_, addData, plaintext, _, one, iv, _⟩⟩
  · rw [blocked] at resumes
    contradiction
  · rw [same] at resumes
    simp at resumes
  · rw [one, iv]
    rfl

def Tagged.next (gcm : AesGcm) (sent : Nat) (chunk : List UInt8) (tagged : Tagged) : Tagged :=
  let iv := nextIv tagged.link.host.iv tagged.link.device.randIv
  { tagged with
    link := { tagged.link with
      host := { tagged.link.host with
        iv := iv
        contChunck := (sent : Int) + 1
        suspended := if SecureEnd tagged.link.host.chunks.length (sent + 1) then .windowSent
          else .toLoop }
      toDevice := tagged.link.toDevice ++ [secureMsg gcm iv sent chunk] }
    sent := tagged.sent ++ [some iv] }

theorem Flowing.resumes (flowing : Flowing total sent tagged)
    (suspended : tagged.link.host.suspended = .toLoop) {chunk : List UInt8}
    (found : tagged.link.host.chunks[sent]? = some chunk) (goOn : Bool) :
    tagged.act gcm (.hostResumes goOn) = some (tagged.next gcm sent chunk) := by
  have chunks := flowing.chunks
  have small := flowing.small
  have resumes := @resume_sends gcm goOn .secure _ tagged.link.device.randIv sent chunk suspended
    flowing.status flowing.cont flowing.rand found (by omega)
  rw [act_hostResumes resumes, List.map_singleton, flowing.encrypts suspended resumes]
  rfl

theorem Flowing.next (lawful : gcm.Lawful) (flowing : Flowing total sent tagged)
    {chunk : List UInt8} (found : tagged.link.host.chunks[sent]? = some chunk)
    (inside : 0 < tagged.link.toDevice.length → ¬ SecureEnd total sent) :
    Flowing total (sent + 1) (tagged.next gcm sent chunk) := by
  have chunks := flowing.chunks
  have more := (List.getElem?_eq_some_iff.mp found).1
  have fits := flowing.fits chunk (List.mem_of_getElem? found)
  have length : (tagged.next gcm sent chunk).link.toDevice.length =
      tagged.link.toDevice.length + 1 := List.length_append
  have moved : nextIv tagged.link.host.iv tagged.link.device.randIv =
      ivAt tagged.link.device.iv tagged.link.device.randIv
        (tagged.link.toDevice.length + 1) := by
    rw [ivAt_succ, ← flowing.hostIv]
  obtain ⟨rewinds, position⟩ := flowing.position
  refine { flowing with
    cont := rfl
    upTo := chunks ▸ more
    hostIv := length ▸ moved
    tags := ?_
    data := ?_
    position := ⟨rewinds, ?_⟩
    within := ?_ }
  · rw [length, List.range_succ, List.map_append, List.map_singleton]
    change tagged.sent ++ [some (nextIv tagged.link.host.iv tagged.link.device.randIv)] = _
    rw [flowing.tags, moved]
    rfl
  · intro message member
    rcases List.mem_append.mp member with earlier | last
    · exact flowing.data message earlier
    · rw [List.mem_singleton.mp last]
      exact ⟨Nat.le_of_eq (length_secureMsg lawful _ _ fits), sent, rfl⟩
  · rw [length]
    change tagged.link.device.countPck.toNat + _ + _ = _
    omega
  · intro number above below
    rw [length] at above
    rcases Nat.lt_or_eq_of_le (Nat.le_of_lt_succ below) with earlier | rfl
    · exact flowing.within number (by omega) earlier
    · exact inside (by omega)

theorem Flowing.sends (lawful : gcm.Lawful) (flowing : Flowing total sent tagged)
    (suspended : tagged.link.host.suspended = .toLoop) (more : sent < total)
    (inside : 0 < tagged.link.toDevice.length → ¬ SecureEnd total sent) (goOn : Bool) :
    Course gcm (tagged.after gcm (.hostResumes goOn)) := by
  have chunks := flowing.chunks
  obtain ⟨chunk, found⟩ : ∃ chunk, tagged.link.host.chunks[sent]? = some chunk :=
    ⟨_, List.getElem?_eq_getElem (by omega)⟩
  have next := flowing.next lawful found inside
  rw [taggedAfter_some (flowing.resumes suspended found goOn)]
  by_cases ends : SecureEnd total (sent + 1)
  · exact .waiting next (if_pos (chunks.symm ▸ ends))
  · have notLast : sent + 1 ≠ total := fun last => ends (.inr last)
    exact .sending next (if_neg (chunks.symm ▸ ends)) (by omega) fun _ => ends

end Packets

/-! The whole of the sessions. -/

end BleFwUpdate
