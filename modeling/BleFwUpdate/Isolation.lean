import BleFwUpdate.Handshake
import BleFwUpdate.Placement

/-! Two runs of one raw session: after an interrupted upload, and right after power-on. -/

namespace BleFwUpdate

open Transitions LittleEndian

/-- The responses and the double words, with their addresses. -/
def visible (effects : List Effect) : List Effect :=
  effects.filter fun effect => match effect with
    | .response _ | .program _ _ _ => true
    | _ => false

def received (delivery : Packet × Hardware) : Event := .receive delivery.1 delivery.2

/-- What is received in a raw session: requests that are refused, a START that is not, and
packets of any kind after it. -/
structure RawSession where
  refused : List (Packet × Hardware)
  start : Packet
  hardware : Hardware
  data : List (Packet × Hardware)
  refuses : ∀ delivery ∈ refused, ∀ mode, startMode delivery.1 = some mode →
    admitted delivery.2 mode delivery.1 = false
  isStart : startMode start = some .raw
  isAdmitted : admitted hardware .raw start = true

def RawSession.events (session : RawSession) : List Event :=
  .connect :: (session.refused.map received ++
    received (session.start, session.hardware) :: session.data.map received)

def sessionTrace (gcm : AesGcm) (device : Device) (session : RawSession) : List Effect :=
  trace (step gcm) (fun device => visible device.effects) device session.events

/-- Every raw session goes as it would right after power-on, whatever the flash holds. -/
def Isolated (gcm : AesGcm) (device : Device) : Prop :=
  ∀ session flash, sessionTrace gcm device session = sessionTrace gcm (powerOn flash) session

/-- All that a raw session depends on. Of the buffer, only the entries in use count. -/
structure Alike (first second : Device) : Prop where
  booted : first.running = none ∧ second.running = none
  status : first.connectionStatus = second.connectionStatus
  countPck : first.countPck = second.countPck
  nextAck : first.nextAck = second.nextAck
  flashLocked : first.flashLocked = second.flashLocked
  bytePos : first.staging.bytePos = second.staging.bytePos
  contBuff : first.staging.contBuff = second.staging.contBuff
  words : ∀ index < (first.staging.contBuff + 1).toNat,
    first.staging.flashBuff index = second.staging.flashBuff index

structure AlikeInSession (first second : Device) : Prop extends Alike first second where
  begun : first.connectionStatus = .recevingRawFw ∨ first.connectionStatus = .closingConnection
  totalPck : first.totalPck = second.totalPck
  startPageAddress : first.startPageAddress = second.startPageAddress

theorem Alike.cleared {first second : Device} (alike : Alike first second) :
    Alike first.cleared second.cleared :=
  ⟨alike.booted, alike.status, alike.countPck, alike.nextAck, alike.flashLocked, alike.bytePos,
    alike.contBuff, alike.words⟩

/-! What is staged and written. -/

theorem stageByte_alike {first second : Staging} (byte : UInt8)
    (bytePos : first.bytePos = second.bytePos) (contBuff : first.contBuff = second.contBuff)
    (words : ∀ index < (first.contBuff + 1).toNat,
      first.flashBuff index = second.flashBuff index) :
    (stageByte first byte).bytePos = (stageByte second byte).bytePos ∧
      (stageByte first byte).contBuff = (stageByte second byte).contBuff ∧
      ∀ index < ((stageByte first byte).contBuff + 1).toNat,
        (stageByte first byte).flashBuff index = (stageByte second byte).flashBuff index := by
  refine ⟨by simp [stageByte, bytePos], by simp [stageByte, bytePos, contBuff], ?_⟩
  intro index inside
  have top := first.contBuff.toNat_lt
  by_cases boundary : first.bytePos = 0
  · -- the entry after the last one is assigned
    have boundary' : second.bytePos = 0 := bytePos ▸ boundary
    simp only [stageByte, boundary, boundary', ← contBuff, ne_eq, not_true_eq_false, if_false]
      at inside ⊢
    split
    · rfl
    · rename_i other
      apply words
      simp only [UInt16.toNat_add, UInt16.toNat_one] at inside other ⊢
      omega
  · -- the last entry is added to, and lies past the others if the buffer is empty
    have boundary' : second.bytePos ≠ 0 := bytePos ▸ boundary
    simp only [stageByte, boundary, boundary', ← contBuff, ne_eq, not_false_eq_true, if_true]
      at inside ⊢
    split
    · rename_i last
      rw [words _ (last ▸ inside), bytePos]
    · exact words index inside

theorem stageBytes_alike {first second : Staging} (more : List UInt8)
    (bytePos : first.bytePos = second.bytePos) (contBuff : first.contBuff = second.contBuff)
    (words : ∀ index < (first.contBuff + 1).toNat,
      first.flashBuff index = second.flashBuff index) :
    (more.foldl stageByte first).bytePos = (more.foldl stageByte second).bytePos ∧
      (more.foldl stageByte first).contBuff = (more.foldl stageByte second).contBuff ∧
      ∀ index < ((more.foldl stageByte first).contBuff + 1).toNat,
        (more.foldl stageByte first).flashBuff index =
          (more.foldl stageByte second).flashBuff index := by
  induction more generalizing first second with
  | nil => exact ⟨bytePos, contBuff, words⟩
  | cons byte rest ih =>
      obtain ⟨nextPos, nextBuff, nextWords⟩ := stageByte_alike byte bytePos contBuff words
      exact ih nextPos nextBuff nextWords

theorem programEffects_congr (hardware : Hardware) {first second : Nat → UInt64} (left sofar : Nat)
    (address : UInt32) (same : ∀ index < sofar + left, first index = second index) :
    programEffects hardware first left sofar address =
      programEffects hardware second left sofar address := by
  induction left generalizing sofar address with
  | zero => rfl
  | succ left ih =>
      rw [programEffects, programEffects, same sofar (by omega),
        ih (sofar + 1) (address + 8) fun index inside => same index (by omega)]

section Window

variable {hardware : Hardware} {first second : Device}

theorem windowAccepted_alike (alike : Alike first second) :
    windowAccepted hardware first = windowAccepted hardware second := by
  simp only [windowAccepted, writeOutcome, alike.nextAck, alike.contBuff, alike.flashLocked]

theorem windowWritten_alike (alike : Alike first second) :
    windowWritten hardware first = windowWritten hardware second := by
  simp only [windowWritten, writtenCount, alike.nextAck, alike.contBuff, alike.flashLocked]

theorem windowEffects_alike (alike : Alike first second)
    (place : first.startPageAddress = second.startPageAddress) :
    windowEffects hardware first = windowEffects hardware second := by
  have same := @programEffects_congr hardware first.staging.flashBuff second.staging.flashBuff
    (first.staging.contBuff + 1).toUInt8.toNat 0 first.startPageAddress fun index inside =>
      alike.words index (by
        simp only [UInt16.toNat_toUInt8] at inside
        omega)
  simp only [windowEffects, writeEffects, same]
  simp only [alike.nextAck, alike.contBuff, alike.flashLocked, place]

end Window

/-! What is received. -/

section Receive

variable (gcm : AesGcm) (hardware : Hardware) {packet : Packet} {first second : Device}

theorem intake_alike (alike : Alike first second) :
    Alike (intake gcm hardware .raw packet first) (intake gcm hardware .raw packet second) := by
  have good : accepts .raw packet first = accepts .raw packet second := by
    simp only [accepts, numbered, alike.countPck]
  have stored : storedBytes gcm hardware .raw packet first =
      storedBytes gcm hardware .raw packet second := by
    simp only [storedBytes, good, payload]
  obtain ⟨bytePos, contBuff, words⟩ := stageBytes_alike
    (storedBytes gcm hardware .raw packet first) alike.bytePos alike.contBuff alike.words
  constructor
  · exact alike.booted
  · exact alike.status
  · simp only [intake_countPck, alike.countPck]
  · simp only [intake_nextAck, alike.nextAck, good]
  · exact alike.flashLocked
  · simp only [intake_staging, ← stored, bytePos]
  · simp only [intake_staging, ← stored, contBuff]
  · simpa only [intake_staging, ← stored] using words

theorem closeWindow_raw_flashLocked (device : Device) :
    (closeWindow gcm hardware .raw device).flashLocked =
      if device.nextAck && (!device.flashLocked || hardware.unlock) then
        windowAccepted hardware device else device.flashLocked := by
  obtain ⟨_, _, _, _, shape⟩ := closeWindow_settled gcm hardware .raw device
  simp [shape, resetWindow, settleWindow_eq]

theorem closeWindow_alike (alike : Alike first second)
    (totalPck : first.totalPck = second.totalPck) :
    Alike (closeWindow gcm hardware .raw first) (closeWindow gcm hardware .raw second) := by
  have accepted := @windowAccepted_alike hardware _ _ alike
  have countPck : (closeWindow gcm hardware .raw first).countPck =
      (closeWindow gcm hardware .raw second).countPck := by
    simp only [closeWindow_countPck, accepted, alike.countPck]
  constructor
  · simpa only [closeWindow_running] using alike.booted
  · simp only [closeWindow_connectionStatus, countPck, totalPck, alike.status]
  · exact countPck
  · simp only [closeWindow_nextAck]
  · simp only [closeWindow_raw_flashLocked, accepted, alike.nextAck, alike.flashLocked]
  · simp only [closeWindow_staging, alike.bytePos]
  · simp only [closeWindow_staging]
  · intro index inside
    simp only [closeWindow_staging] at inside
    exact absurd inside (by simp)

theorem data_alike (delivery : Packet × Hardware) (alike : AlikeInSession first second) :
    AlikeInSession (step gcm first (received delivery)) (step gcm second (received delivery)) ∧
      (step gcm first (received delivery)).effects =
        (step gcm second (received delivery)).effects := by
  obtain ⟨packet, hardware⟩ := delivery
  rcases alike.begun with receving | closing
  · have status : second.connectionStatus = Mode.raw.status := alike.status ▸ receving
    have both : closesWindow .raw packet first = closesWindow .raw packet second := by
      simp only [closesWindow, endsWindow, alike.countPck, alike.totalPck]
    have taken := @intake_alike gcm hardware packet _ _ alike.toAlike.cleared
    have place : (intake gcm hardware .raw packet first.cleared).startPageAddress =
        (intake gcm hardware .raw packet second.cleared).startPageAddress := alike.startPageAddress
    rw [received, @step_counted gcm hardware .raw packet first alike.booted.1 receving rfl,
      @step_counted gcm hardware .raw packet second alike.booted.2 status rfl, both]
    split
    · have closed := closeWindow_alike gcm hardware taken alike.totalPck
      refine ⟨⟨closed, ?_, ?_, ?_⟩, ?_⟩
      · rw [closeWindow_connectionStatus]
        split
        · exact .inr rfl
        · exact .inl receving
      · rw [closeWindow_totalPck, closeWindow_totalPck]
        exact alike.totalPck
      · simp only [closeWindow_startPageAddress, place, windowWritten_alike taken]
      · rw [closeWindow_raw_effects, closeWindow_raw_effects, windowEffects_alike taken place,
          windowAccepted_alike taken, closed.countPck]
        rfl
    · exact ⟨⟨taken, .inl receving, alike.totalPck, place⟩, rfl⟩
  · have closing' : second.connectionStatus = .closingConnection := alike.status ▸ closing
    rw [received, step_ignored gcm packet hardware (.inr closing),
      step_ignored gcm packet hardware (.inr closing')]
    exact ⟨⟨alike.toAlike.cleared, .inr closing, alike.totalPck, alike.startPageAddress⟩, rfl⟩

theorem refused_alike (delivery : Packet × Hardware)
    (refuses : ∀ mode, startMode delivery.1 = some mode →
      admitted delivery.2 mode delivery.1 = false)
    (alike : Alike first second) (connected : first.connectionStatus = .connected) :
    (Alike (step gcm first (received delivery)) (step gcm second (received delivery)) ∧
      (step gcm first (received delivery)).connectionStatus = .connected) ∧
      (step gcm first (received delivery)).effects =
        (step gcm second (received delivery)).effects := by
  obtain ⟨packet, hardware⟩ := delivery
  have connected' : second.connectionStatus = .connected := alike.status ▸ connected
  rw [received, step_connected gcm packet hardware alike.booted.1 connected,
    step_connected gcm packet hardware alike.booted.2 connected', handleConnected_eq,
    handleConnected_eq]
  cases start : startMode packet with
  | none =>
      simp only [sendAck_raw]
      exact ⟨⟨⟨alike.booted, alike.status, alike.countPck, alike.nextAck, alike.flashLocked,
        alike.bytePos, alike.contBuff, alike.words⟩, connected⟩, by simp [alike.countPck]⟩
  | some mode =>
      have refused : admitted hardware mode packet = false := refuses mode start
      simp only [refused, Bool.false_eq_true, if_false, sendAck_raw, startPrepared, startRead]
      exact ⟨⟨⟨alike.booted, alike.status, alike.countPck, alike.nextAck, rfl,
        alike.bytePos, alike.contBuff, alike.words⟩, connected⟩, by simp [alike.countPck]⟩

theorem start_alike {start : Packet} (isStart : startMode start = some .raw)
    (isAdmitted : admitted hardware .raw start = true) (alike : Alike first second)
    (connected : first.connectionStatus = .connected) :
    AlikeInSession (step gcm first (received (start, hardware)))
        (step gcm second (received (start, hardware))) ∧
      (step gcm first (received (start, hardware))).effects =
        (step gcm second (received (start, hardware))).effects := by
  have connected' : second.connectionStatus = .connected := alike.status ▸ connected
  have begun := started gcm alike.booted.1 connected isStart isAdmitted
  have begun' := started gcm alike.booted.2 connected' isStart isAdmitted
  have place := begun.place.symm.trans begun'.place
  rw [received, step_connected gcm start hardware alike.booted.1 connected,
    step_connected gcm start hardware alike.booted.2 connected', handleConnected_eq,
    handleConnected_eq, isStart] at *
  simp only [isAdmitted, if_true, Mode.replyType, sendAck_raw, startPrepared, startRead]
    at place ⊢
  exact ⟨⟨⟨alike.booted, rfl, alike.countPck, alike.nextAck, rfl, alike.bytePos, alike.contBuff,
    alike.words⟩, .inl rfl, rfl, Option.some.inj place⟩, by simp [alike.countPck]⟩

theorem sessionTrace_alike (session : RawSession) (alike : Alike first second) :
    sessionTrace gcm first session = sessionTrace gcm second session := by
  have connected : Alike (step gcm first .connect) (step gcm second .connect) ∧
      (step gcm first .connect).connectionStatus = .connected := by
    rw [step_connect gcm alike.booted.1, step_connect gcm alike.booted.2]
    exact ⟨⟨alike.booted, rfl, alike.countPck, alike.nextAck, alike.flashLocked, alike.bytePos,
      alike.contBuff, alike.words⟩, rfl⟩
  have quiet (device : Device) (booted : device.running = none) :
      visible (step gcm device .connect).effects = [] := by
    rw [step_connect gcm booted]
    rfl
  obtain ⟨refusedTrace, atStart, stillConnected⟩ := @trace_related _ _ (step gcm) _
    (fun device => visible device.effects)
    (fun first second => Alike first second ∧ first.connectionStatus = .connected)
    (session.refused.map received)
    (fun _ _ event member related => by
      obtain ⟨delivery, inside, rfl⟩ := List.mem_map.mp member
      exact (refused_alike gcm delivery (session.refuses delivery inside) related.1 related.2).1)
    (fun _ _ event member related => by
      obtain ⟨delivery, inside, rfl⟩ := List.mem_map.mp member
      exact congrArg visible
        (refused_alike gcm delivery (session.refuses delivery inside) related.1 related.2).2)
    _ _ connected
  obtain ⟨begun, startEffects⟩ :=
    start_alike gcm session.hardware session.isStart session.isAdmitted atStart stillConnected
  obtain ⟨dataTrace, _⟩ := @trace_related _ _ (step gcm) _
    (fun device => visible device.effects) AlikeInSession (session.data.map received)
    (fun _ _ event member related => by
      obtain ⟨delivery, inside, rfl⟩ := List.mem_map.mp member
      exact (data_alike gcm delivery related).1)
    (fun _ _ event member related => by
      obtain ⟨delivery, inside, rfl⟩ := List.mem_map.mp member
      exact congrArg visible (data_alike gcm delivery related).2)
    _ _ begun
  simp only [sessionTrace, RawSession.events, trace_cons, trace_append, quiet _ alike.booted.1,
    quiet _ alike.booted.2, refusedTrace, startEffects, dataTrace]

end Receive

/-! After a disconnection. -/

/-- What a disconnection leaves behind that does not jump. -/
structure Parted (device : Device) : Prop where
  booted : device.running = none
  idle : device.connectionStatus = .idle
  countPck : device.countPck = 0
  empty : device.staging.contBuff = 0xFFFF
  flashLocked : device.flashLocked = true
  small : device.staging.bytePos.toNat < 8

theorem parted_powerOn (flash : UInt32 → UInt64) : Parted (powerOn flash) :=
  ⟨rfl, rfl, rfl, rfl, rfl, Nat.zero_lt_succ 7⟩

theorem small_step (gcm : AesGcm) {device : Device} (event : Event)
    (small : device.staging.bytePos.toNat < 8) :
    (step gcm device event).staging.bytePos.toNat < 8 := by
  induction event using step_cases gcm device with
  | running event running after => exact after ▸ small
  | connect booted after => exact after ▸ small
  | jump hardware booted complete after => exact after ▸ small
  | stay hardware booted incomplete after => exact after ▸ small
  | ignored packet hardware booted status after => exact after ▸ small
  | connected packet hardware booted status after =>
      obtain ⟨_, _, _, _, _, _, _, _, _, shape⟩ :=
        handleConnected_shape gcm hardware packet device.cleared status
      rw [after, shape]
      exact small
  | repeats mode packet hardware booted status notCounted after =>
      rw [after]
      cases mode <;> exact small
  | inside mode packet hardware booted status isCounted isInside after =>
      rw [after]
      exact stageBytes_small _ small
  | closes mode packet hardware booted status isClosing after =>
      rw [after]
      have cleared : device.cleared.staging.bytePos.toNat < 8 := small
      simpa using stageBytes_small _ cleared

theorem small_run (gcm : AesGcm) (flash : UInt32 → UInt64) (events : List Event) :
    (run gcm flash events).staging.bytePos.toNat < 8 := by
  induction events using List.reverseRecOn with
  | nil => exact Nat.zero_lt_succ 7
  | append_singleton before event ih =>
      rw [run_concat]
      exact small_step gcm event ih

theorem disconnect_parts (gcm : AesGcm) {device : Device} {hardware : Hardware}
    (small : device.staging.bytePos.toNat < 8)
    (stays : (step gcm device (.disconnect hardware)).running = none) :
    Parted (step gcm device (.disconnect hardware)) ∧
      (step gcm device (.disconnect hardware)).nextAck = device.nextAck ∧
      (step gcm device (.disconnect hardware)).staging.bytePos = device.staging.bytePos := by
  by_cases booted : device.running = none
  · by_cases complete : jumps device
    · rw [step_disconnect_jump gcm hardware booted complete] at stays
      contradiction
    · rw [step_disconnect_stay gcm hardware booted complete]
      exact ⟨⟨booted, rfl, rfl, rfl, rfl, small⟩, rfl, rfl⟩
  · rw [step_running gcm _ booted] at stays
    exact (booted stays).elim

theorem Parted.alike {device : Device} (parted : Parted device) (flash : UInt32 → UInt64)
    (nextAck : device.nextAck = true) (bytePos : device.staging.bytePos = 0) :
    Alike device (powerOn flash) := by
  refine ⟨⟨parted.booted, rfl⟩, parted.idle, parted.countPck, nextAck, parted.flashLocked,
    bytePos, parted.empty, ?_⟩
  intro index inside
  rw [parted.empty] at inside
  exact absurd inside (Nat.not_lt_zero index)

/-! The session that tells the difference: one packet of sixteen different bytes. -/

def probeBytes : List UInt8 := [0, 1, 2, 3, 4, 5, 6, 7, 8, 9, 10, 11, 12, 13, 14, 15]

def probePacket : Packet := rawPacket 0 probeBytes (by decide)

def probe : RawSession where
  refused := []
  start := startPacket startFlashModeCmd 1 1
  hardware := .working 0
  data := [(probePacket, .working 0)]
  refuses := by simp
  isStart := startMode_startPacket .raw 1 1
  isAdmitted := by decide

def probed (nextAck : Bool) (lost : Nat) : List Effect :=
  if nextAck then
    programsOf flashApp1Addr (probeBytes.drop lost) ++
      [.response (rawResponse (.working 0) true 1)]
  else [.response (rawResponse (.working 0) false 65527)]

theorem visible_windowEffects (hardware : Hardware) (device : Device) :
    visible (windowEffects hardware device) = windowEffects hardware device := by
  rw [← programs_windowEffects]
  apply List.filter_eq_self.mpr
  intro effect member
  cases effect <;> simp [programs] at member ⊢

theorem visible_probeStart (gcm : AesGcm) {device : Device} (booted : device.running = none)
    (connected : device.connectionStatus = .connected) :
    visible (step gcm device (received (probe.start, probe.hardware))).effects =
      [.response (rawResponse (.working 0) true device.countPck)] := by
  rw [received, step_connected gcm probe.start probe.hardware booted connected, handleConnected_eq,
    probe.isStart]
  dsimp only
  rw [if_pos probe.isAdmitted]
  rfl

theorem visible_probePacket (gcm : AesGcm) {device : Device} (booted : device.running = none)
    (receving : device.connectionStatus = .recevingRawFw) (countPck : device.countPck = 0)
    (totalPck : device.totalPck = 1) (place : device.startPageAddress = flashApp1Addr)
    (empty : device.staging.contBuff = 0xFFFF) (small : device.staging.bytePos.toNat < 8) :
    visible (step gcm device (received (probePacket, .working 0))).effects =
      probed device.nextAck (skew device.staging) := by
  have closes : closesWindow .raw probePacket device = true :=
    closesWindow_raw_iff.mpr (.inr (by rw [countPck, totalPck]; rfl))
  have good : accepts .raw probePacket device = true :=
    accepts_rawPacket _ (by decide) (by rw [countPck]; rfl)
  have stored : storedBytes gcm (.working 0) .raw probePacket device = probeBytes := by
    rw [storedBytes, if_pos good, probePacket, payload_rawPacket]
    rfl
  have staged : Staged (probeBytes.drop (skew device.staging))
      (intake gcm (.working 0) .raw probePacket device).staging := by
    rw [intake_staging, stored]
    exact stageBytes_skewed _ (staged_nil empty small) (by decide)
  have works := flashWorks_working 0
  rw [received, @step_counted gcm (.working 0) .raw probePacket device booted receving rfl,
    if_pos closes, closes_raw_effects, windowAccepted_works works, closeWindow_countPck,
    windowAccepted_works works, intake_nextAck, good, Bool.and_true, intake_countPck, countPck]
  rw [visible, List.filter_append]
  change visible _ ++ _ = _
  rw [visible_windowEffects]
  cases nextAck : device.nextAck with
  | true =>
      have taken : (intake gcm (.working 0) .raw probePacket device).nextAck = true := by
        rw [intake_nextAck, nextAck, good]
        rfl
      have short : (probeBytes.drop (skew device.staging)).length ≤ 240 := by
        rw [List.length_drop]
        exact Nat.le_trans (Nat.sub_le _ _) (by decide)
      rw [(windowEffects_staged works staged short taken).1, intake_startPageAddress, place]
      rfl
  | false =>
      rw [windowEffects, intake_nextAck, nextAck]
      rfl

theorem sessionTrace_probe (gcm : AesGcm) {device : Device} (parted : Parted device) :
    sessionTrace gcm device probe =
      .response (rawResponse (.working 0) true 0) ::
        probed device.nextAck (skew device.staging) := by
  have connects := step_connect gcm parted.booted
  have booted : (step gcm device .connect).running = none := by
    rw [connects]
    exact parted.booted
  have connected : (step gcm device .connect).connectionStatus = .connected := by rw [connects]
  have countPck : (step gcm device .connect).countPck = 0 := by
    rw [connects]
    exact parted.countPck
  have staging : (step gcm device .connect).staging = device.cleared.staging := by rw [connects]
  have begun := started gcm booted connected probe.isStart probe.isAdmitted
  have slot : some flashApp1Addr = some _ := begun.place
  have packet := visible_probePacket gcm (begun.running.trans booted) begun.connectionStatus
    (begun.countPck.trans countPck) begun.totalPck (Option.some.inj slot).symm
    (by rw [begun.staging, cleared_contBuff, staging]; exact parted.empty)
    (by rw [begun.staging, cleared_bytePos, staging]; exact parted.small)
  have nextAck : (step gcm device .connect).nextAck = device.nextAck := by
    rw [connects]
    rfl
  have position : skew (step gcm device .connect).cleared.staging = skew device.staging := by
    rw [connects]
    rfl
  have quiet : visible (step gcm device .connect).effects = [] := by
    rw [connects]
    rfl
  rw [begun.nextAck, nextAck, begun.staging, position] at packet
  rw [← packet, sessionTrace]
  simp only [RawSession.events, probe, List.map_nil, List.nil_append, List.map_cons, trace_cons,
    trace_nil, List.append_nil, quiet]
  exact congrArg (· ++ _) ((visible_probeStart gcm booted connected).trans (by rw [countPck]))

theorem probed_inj {nextAck : Bool} {lost : Nat} (few : lost < 8)
    (same : probed nextAck lost = probed true 0) : nextAck = true ∧ lost = 0 := by
  cases nextAck with
  | false =>
      have different : probed false 0 ≠ probed true 0 := by decide +kernel
      exact (different same).elim
  | true =>
      have all : ∀ lost < 8, probed true lost = probed true 0 → lost = 0 := by decide +kernel
      exact ⟨rfl, all lost few same⟩

/-- The next raw session goes as after power-on exactly if the disconnection finds `next_ack`
true and `byte_pos` zero: it resets neither. -/
theorem isolated_iff (gcm : AesGcm) (flash : UInt32 → UInt64) (events : List Event)
    (hardware : Hardware)
    (stays : (run gcm flash (events ++ [.disconnect hardware])).running = none) :
    Isolated gcm (run gcm flash (events ++ [.disconnect hardware])) ↔
      (run gcm flash events).nextAck = true ∧ (run gcm flash events).staging.bytePos = 0 := by
  rw [run_concat] at stays ⊢
  obtain ⟨parted, nextAck, bytePos⟩ := disconnect_parts gcm (small_run gcm flash events) stays
  rw [← nextAck, ← bytePos]
  constructor
  · intro isolated
    have same := isolated probe fun _ => 0
    rw [sessionTrace_probe gcm parted, sessionTrace_probe gcm (parted_powerOn _),
      List.cons_inj_right] at same
    obtain ⟨good, aligned⟩ := probed_inj (Nat.mod_lt _ (by decide)) same
    refine ⟨good, UInt8.toNat_inj.mp ?_⟩
    have small := parted.small
    have lost : (8 - (step gcm (run gcm flash events) (.disconnect hardware)).staging.bytePos.toNat)
        % 8 = 0 := aligned
    rw [UInt8.toNat_zero]
    omega
  · rintro ⟨good, aligned⟩ session flash
    exact sessionTrace_alike gcm session (parted.alike flash good aligned)

/-- An upload of five packets, interrupted after the first three. -/
theorem isolated_inside_window :
    let gcm := AesGcm.ofTables [] []
    let before := [.connect, .receive (startPacket startFlashModeCmd 1 5) (.working 0),
      .receive (rawPacket 0 [0x11, 0x12] (by decide)) (.working 0),
      .receive (rawPacket 1 [0x21, 0x22] (by decide)) (.working 0),
      .receive (rawPacket 2 [0x31, 0x32] (by decide)) (.working 0)]
    (run gcm (fun _ => 0) before).countPck = 3 ∧
      Isolated gcm (run gcm (fun _ => 0) (before ++ [.disconnect (.working 0)])) :=
  ⟨by decide +kernel,
    (isolated_iff (.ofTables [] []) (fun _ => 0) [.connect,
      .receive (startPacket startFlashModeCmd 1 5) (.working 0),
      .receive (rawPacket 0 [0x11, 0x12] (by decide)) (.working 0),
      .receive (rawPacket 1 [0x21, 0x22] (by decide)) (.working 0),
      .receive (rawPacket 2 [0x31, 0x32] (by decide)) (.working 0)] (.working 0)
      (by decide +kernel)).mpr (by decide +kernel)⟩

/-- An upload interrupted after a packet with a wrong number: the first window of the next
upload is rejected, although its only packet is right. -/
theorem interrupted_window_rejects_next :
    let gcm := AesGcm.ofTables [] []
    let misnumbered := rawPacket 1 [] (by decide)
    let interrupted := run gcm (fun _ => 0) [.connect,
      .receive (startPacket startFlashModeCmd 1 2) (.working 0),
      .receive misnumbered (.working 0), .disconnect (.working 0)]
    interrupted.running = none ∧
      sessionTrace gcm interrupted probe =
        [.response (rawResponse (.working 0) true 0),
          .response (rawResponse (.working 0) false 65527)] ∧
      sessionTrace gcm (powerOn fun _ => 0) probe =
        .response (rawResponse (.working 0) true 0) ::
          (programsOf flashApp1Addr probeBytes ++ [.response (rawResponse (.working 0) true 1)]) ∧
      ¬ Isolated gcm interrupted := by
  refine ⟨by decide +kernel, by decide +kernel, by decide +kernel, ?_⟩
  intro isolated
  exact absurd (isolated probe fun _ => 0) (by decide +kernel)

end BleFwUpdate
