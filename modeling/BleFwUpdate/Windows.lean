import BleFwUpdate.Delivery

/-! The windows of a raw session, and which of them reach the flash. -/

namespace BleFwUpdate

open Transitions LittleEndian

/-- The packets of a session, window by window: those of the windows that have been answered,
and those of the open one. Each comes with the state that it was handled in. -/
structure Windows where
  answered : List (List (Device × Event))
  opened : List (Device × Event)

def Windows.add (windows : Windows) (entry : Device × Event) : Windows :=
  match entry.2 with
  | .receive packet _ =>
      if entry.1.connectionStatus = .recevingRawFw then
        if closesWindow .raw packet entry.1 then
          { answered := windows.answered ++ [windows.opened ++ [entry]], opened := [] }
        else { windows with opened := windows.opened ++ [entry] }
      else windows
  | _ => windows

def windowsOf (log : List (Device × Event)) : Windows := log.foldl Windows.add ⟨[], []⟩

def acked (gcm : AesGcm) (window : List (Device × Event)) : Bool :=
  match window.getLast? with
  | some entry =>
      (responses (step gcm entry.1 entry.2).effects).any fun bytes => bytes.head? == some ackCmd
  | none => false

def payloadBytes (entry : Device × Event) : List UInt8 :=
  match entry.2 with
  | .receive packet _ => packet.slice 3 16
  | _ => []

def bytesOf (window : List (Device × Event)) : List UInt8 := window.flatMap payloadBytes

def ackedBytes (gcm : AesGcm) (windows : Windows) : List UInt8 :=
  (windows.answered.filter (acked gcm)).flatMap bytesOf

/-- The checksum of the packet is right, and it carries the number `count_pck`. -/
def Passed (entry : Device × Event) : Prop :=
  ∃ packet hardware, entry.2 = .receive packet hardware ∧
    verifyDataType packet .writeFlashPacket = true ∧ packet.number 1 = entry.1.countPck

/-- A step of a run whose sessions are raw, with data packets of 20 bytes and a flash that
works while they are handled. A connection begins only while there is none. -/
def RawStep (device : Device) : Event → Prop
  | .connect => device.connected = false
  | .receive packet hardware =>
      (device.connectionStatus = .connected → startMode packet = some .secure →
        admitted hardware .secure packet = false) ∧
      (device.connectionStatus = .recevingRawFw → packet.numBytes = 20 ∧ FlashWorks hardware)
  | .disconnect _ => True

theorem windowsOf_concat (log : List (Device × Event)) (entry : Device × Event) :
    windowsOf (log ++ [entry]) = (windowsOf log).add entry := by
  simp [windowsOf]

theorem passed_iff (device : Device) (packet : Packet) (hardware : Hardware) :
    Passed (device, .receive packet hardware) ↔ accepts .raw packet device = true := by
  simp [Passed, accepts, Mode.dataType, numbered]

theorem length_bytesOf {window : List (Device × Event)}
    (passed : ∀ entry ∈ window, Passed entry) : (bytesOf window).length = 16 * window.length := by
  induction window with
  | nil => rfl
  | cons entry rest ih =>
      obtain ⟨packet, hardware, same, _⟩ := passed entry (by simp)
      have later := ih fun other member => passed other (List.mem_cons_of_mem _ member)
      have here : (payloadBytes entry).length = 16 := by
        rw [payloadBytes, same]
        exact packet.length_slice _ _
      rw [bytesOf, List.flatMap_cons, List.length_append, here, List.length_cons]
      change 16 + (bytesOf rest).length = _
      omega

theorem ackedBytes_answer (gcm : AesGcm) (windows : Windows) (window : List (Device × Event)) :
    ackedBytes gcm ⟨windows.answered ++ [window], []⟩ =
      ackedBytes gcm windows ++ if acked gcm window then bytesOf window else [] := by
  simp only [ackedBytes, List.filter_append, List.flatMap_append]
  cases isAcked : acked gcm window <;> simp [isAcked]

/-! Between the packets of any raw run, `byte_pos` is zero. -/

structure RawClean (device : Device) : Prop where
  fresh : Fresh device
  plain : device.connectionStatus ≠ .recevingSecureFw
  aligned : device.staging.bytePos = 0

theorem RawClean.cleared {device : Device} (clean : RawClean device) : RawClean device.cleared :=
  ⟨clean.fresh.cleared, clean.plain, clean.aligned⟩

theorem bytePos_rawPacket (gcm : AesGcm) (hardware : Hardware) {packet : Packet}
    {device : Device} (full : packet.numBytes = 20) (aligned : device.staging.bytePos = 0) :
    (intake gcm hardware .raw packet device).staging.bytePos = 0 := by
  apply UInt8.toNat_inj.mp
  have position := stageBytes_bytePos (storedBytes gcm hardware .raw packet device) device.staging
    (by rw [aligned]; decide)
  rw [intake_staging, position, aligned, storedBytes]
  split
  · rw [length_payload gcm hardware .raw full]
    rfl
  · rfl

theorem rawClean_step (gcm : AesGcm) {device : Device} {event : Event} (clean : RawClean device)
    (raw : RawStep device event) : RawClean (step gcm device event) := by
  obtain ⟨plain, aligned⟩ : (step gcm device event).connectionStatus ≠ .recevingSecureFw ∧
      (step gcm device event).staging.bytePos = 0 := by
    induction event using step_cases gcm device with
    | running event running after => exact after ▸ ⟨clean.plain, clean.aligned⟩
    | connect booted after => exact after ▸ ⟨by simp, clean.aligned⟩
    | jump hardware booted complete after => exact after ▸ ⟨by simp, clean.aligned⟩
    | stay hardware booted incomplete after => exact after ▸ ⟨by simp, clean.aligned⟩
    | ignored packet hardware booted status after => exact after ▸ ⟨clean.plain, clean.aligned⟩
    | connected packet hardware booted status after =>
        obtain ⟨_, _, _, _, _, _, _, _, _, shape⟩ :=
          handleConnected_shape gcm hardware packet device.cleared status
        rw [after, shape]
        refine ⟨?_, clean.aligned⟩
        cases start : startMode packet with
        | none => simp
        | some mode =>
            cases mode with
            | raw =>
                cases isAdmitted : admitted hardware .raw packet <;>
                  simp [isAdmitted, Mode.status]
            | secure => simp [raw.1 status start]
    | repeats mode packet hardware booted status notCounted after =>
        cases mode with
        | raw => simp [counted] at notCounted
        | secure => exact (clean.plain status).elim
    | inside mode packet hardware booted status isCounted isInside after =>
        cases mode with
        | raw =>
            rw [after]
            exact ⟨clean.plain, bytePos_rawPacket gcm hardware (raw.2 status).1 clean.aligned⟩
        | secure => exact (clean.plain status).elim
    | closes mode packet hardware booted status isClosing after =>
        cases mode with
        | raw =>
            have next := @bytePos_rawPacket gcm hardware packet device.cleared
              (raw.2 status).1 clean.aligned
            rw [after]
            refine ⟨?_, by simpa using next⟩
            rw [closeWindow_connectionStatus]
            split
            · simp
            · exact clean.plain
        | secure => exact (clean.plain status).elim
  have offline : event = .connect → device.connected = false := fun connects => by
    rw [connects] at raw
    exact raw
  exact ⟨fresh_step gcm clean.fresh offline, plain, aligned⟩

/-! A session. -/

/-- The flash holds the packets of the windows answered with an ACK, and the buffer those of
the open window, unless that is going to be rejected. -/
structure WindowsKept (gcm : AesGcm) (base : UInt32) (log : List (Device × Event))
    (device : Device) : Prop where
  booted : device.running = none
  aligned : device.staging.bytePos = 0
  status : device.connectionStatus = .recevingRawFw ∨ device.connectionStatus = .closingConnection
  stored : programmed gcm log = programsOf base (ackedBytes gcm (windowsOf log))
  place : device.startPageAddress =
    base + 8 * UInt32.ofNat (wordCount (ackedBytes gcm (windowsOf log)))
  whole : ∃ words, (ackedBytes gcm (windowsOf log)).length = 8 * words
  passed : ∀ window ∈ (windowsOf log).answered, acked gcm window = true →
    ∀ entry ∈ window, Passed entry
  few : (windowsOf log).opened.length ≤ device.countPck.toNat % 10
  staged : device.nextAck = true → (∀ entry ∈ (windowsOf log).opened, Passed entry) ∧
    Staged (bytesOf (windowsOf log).opened) device.staging

section Session

variable {gcm : AesGcm} {base : UInt32} {log : List (Device × Event)} {device : Device}
  {packet : Packet} {hardware : Hardware}

theorem windowsOf_inside (receving : device.connectionStatus = .recevingRawFw)
    (isInside : closesWindow .raw packet device = false) :
    windowsOf (log ++ [(device, .receive packet hardware)]) =
      { windowsOf log with
        opened := (windowsOf log).opened ++ [(device, .receive packet hardware)] } := by
  simp [windowsOf_concat, Windows.add, receving, isInside]

theorem windowsOf_closes (receving : device.connectionStatus = .recevingRawFw)
    (closes : closesWindow .raw packet device = true) :
    windowsOf (log ++ [(device, .receive packet hardware)]) =
      ⟨(windowsOf log).answered ++ [(windowsOf log).opened ++ [(device, .receive packet hardware)]],
        []⟩ := by
  simp [windowsOf_concat, Windows.add, receving, closes]

theorem WindowsKept.ignored (kept : WindowsKept gcm base log device)
    (closing : device.connectionStatus = .closingConnection) :
    WindowsKept gcm base (log ++ [(device, .receive packet hardware)])
      (step gcm device (.receive packet hardware)) := by
  have same : windowsOf (log ++ [(device, .receive packet hardware)]) = windowsOf log := by
    simp [windowsOf_concat, Windows.add, closing]
  have after := step_ignored gcm packet hardware (.inr closing)
  have silent : programmed gcm (log ++ [(device, .receive packet hardware)]) =
      programmed gcm log := by
    rw [programmed_concat, after]
    exact List.append_nil _
  rw [after]
  constructor
  · exact kept.booted
  · exact kept.aligned
  · exact kept.status
  · rw [silent, same, kept.stored]
  · rw [same]
    exact kept.place
  · rw [same]
    exact kept.whole
  · rw [same]
    exact kept.passed
  · rw [same]
    exact kept.few
  · rw [same]
    exact fun good => ⟨(kept.staged good).1, (kept.staged good).2.cleared⟩

theorem WindowsKept.taken (kept : WindowsKept gcm base log device) (full : packet.numBytes = 20)
    (good : (device.nextAck && accepts .raw packet device) = true) :
    (∀ entry ∈ (windowsOf log).opened ++ [(device, .receive packet hardware)], Passed entry) ∧
      Staged (bytesOf ((windowsOf log).opened ++ [(device, .receive packet hardware)]))
        (intake gcm hardware .raw packet device.cleared).staging ∧
      (bytesOf ((windowsOf log).opened ++ [(device, .receive packet hardware)])).length =
        16 * ((windowsOf log).opened.length + 1) := by
  rw [Bool.and_eq_true] at good
  obtain ⟨passed, staged⟩ := kept.staged good.1
  have all : ∀ entry ∈ (windowsOf log).opened ++ [(device, .receive packet hardware)],
      Passed entry := by
    intro entry member
    rcases List.mem_append.mp member with earlier | last
    · exact passed entry earlier
    · rw [List.mem_singleton.mp last]
      exact (passed_iff device packet hardware).mpr good.2
  have length := length_bytesOf passed
  have bound := kept.few
  have mod : device.countPck.toNat % 10 < 10 := Nat.mod_lt _ (by decide)
  have stored : storedBytes gcm hardware .raw packet device = packet.slice 3 16 := by
    rw [storedBytes, if_pos good.2, payload, full]
    rfl
  refine ⟨all, ?_, ?_⟩
  · rw [intake_staging, storedBytes_cleared, stored, bytesOf, List.flatMap_append,
      List.flatMap_singleton]
    refine stageBytes_aligned _ staged.cleared ?_ ?_
    · change device.staging.bytePos.toNat = (bytesOf (windowsOf log).opened).length % 8
      rw [kept.aligned, length]
      simp only [UInt8.toNat_zero]
      omega
    · change (bytesOf (windowsOf log).opened).length + _ ≤ _
      have here : (payloadBytes (device, .receive packet hardware)).length = 16 :=
        packet.length_slice _ _
      rw [length, here]
      omega
  · rw [length_bytesOf all, List.length_append]
    rfl

theorem WindowsKept.inside (kept : WindowsKept gcm base log device)
    (receving : device.connectionStatus = .recevingRawFw) (full : packet.numBytes = 20)
    (isInside : closesWindow .raw packet device = false) :
    WindowsKept gcm base (log ++ [(device, .receive packet hardware)])
      (step gcm device (.receive packet hardware)) := by
  have windows := @windowsOf_inside log device packet hardware receving isInside
  have after := @step_counted gcm hardware .raw packet device kept.booted receving rfl
  rw [if_neg (by simp [isInside])] at after
  have silent : programmed gcm (log ++ [(device, .receive packet hardware)]) =
      programmed gcm log := by
    rw [programmed_concat, after, programs_inside, List.append_nil]
  rw [← Bool.not_eq_true, closesWindow_raw_iff, not_or, UInt16.toNat_add, UInt16.toNat_one]
    at isInside
  have top := device.countPck.toNat_lt
  have few := kept.few
  have noWrap : device.countPck.toNat ≠ 65535 := fun last => isInside.1 (by rw [last])
  have next : (device.countPck + 1).toNat % 10 = device.countPck.toNat % 10 + 1 := by
    rw [UInt16.toNat_add, UInt16.toNat_one]
    omega
  rw [after]
  constructor
  · exact kept.booted
  · exact bytePos_rawPacket gcm hardware full kept.aligned
  · exact kept.status
  · rw [silent, windows, kept.stored]
    rfl
  · rw [windows]
    exact kept.place
  · rw [windows]
    exact kept.whole
  · rw [windows]
    exact kept.passed
  · rw [windows, intake_countPck, cleared_countPck, next, List.length_append]
    exact Nat.succ_le_succ few
  · intro good
    rw [intake_nextAck, cleared_nextAck, accepts_cleared] at good
    rw [windows]
    obtain ⟨passed, staged, _⟩ := kept.taken full good
    exact ⟨passed, staged⟩

theorem acked_closes (booted : device.running = none)
    (receving : device.connectionStatus = .recevingRawFw) (works : FlashWorks hardware)
    (closes : closesWindow .raw packet device = true) (opened : List (Device × Event)) :
    acked gcm (opened ++ [(device, .receive packet hardware)]) =
      (device.nextAck && accepts .raw packet device) := by
  have after := @step_counted gcm hardware .raw packet device booted receving rfl
  rw [if_pos closes] at after
  have answered : responses (step gcm device (.receive packet hardware)).effects =
      [rawResponse hardware (device.nextAck && accepts .raw packet device)
        (closeWindow gcm hardware .raw (intake gcm hardware .raw packet device)).countPck] := by
    rw [after, closes_raw_effects, responses_append, responses_windowEffects,
      windowAccepted_works works]
    rfl
  rw [acked, List.getLast?_append]
  simp only [List.getLast?_singleton, Option.some_or, answered]
  cases device.nextAck && accepts .raw packet device <;> rfl

/-- What a window adds: the payloads of its packets if it is answered with an ACK, or nothing. -/
theorem WindowsKept.gains (kept : WindowsKept gcm base log device)
    (receving : device.connectionStatus = .recevingRawFw) (full : packet.numBytes = 20)
    (works : FlashWorks hardware) (closes : closesWindow .raw packet device = true) :
    ∃ gained,
      ackedBytes gcm (windowsOf (log ++ [(device, .receive packet hardware)])) =
        ackedBytes gcm (windowsOf log) ++ gained ∧
      windowEffects hardware (intake gcm hardware .raw packet device.cleared) =
        programsOf device.startPageAddress gained ∧
      windowWritten hardware (intake gcm hardware .raw packet device.cleared) =
        wordCount gained ∧
      (∃ words, gained.length = 8 * words) ∧
      (acked gcm ((windowsOf log).opened ++ [(device, .receive packet hardware)]) = true →
        ∀ entry ∈ (windowsOf log).opened ++ [(device, .receive packet hardware)],
          Passed entry) := by
  rw [windowsOf_closes receving closes, ackedBytes_answer,
    acked_closes kept.booted receving works closes]
  cases good : device.nextAck && accepts .raw packet device with
  | true =>
      obtain ⟨passed, staged, length⟩ := @WindowsKept.taken _ _ _ _ _ hardware kept full good
      have few := kept.few
      have short : (bytesOf ((windowsOf log).opened ++
          [(device, .receive packet hardware)])).length ≤ 240 := by omega
      have nextAck : (intake gcm hardware .raw packet device.cleared).nextAck = true := by
        simpa using good
      obtain ⟨effects, written⟩ := windowEffects_staged works staged short nextAck
      exact ⟨_, by rw [if_pos rfl], effects, written,
        ⟨2 * ((windowsOf log).opened.length + 1), by omega⟩, fun _ => passed⟩
  | false =>
      have bad : (intake gcm hardware .raw packet device.cleared).nextAck = false := by
        simpa using good
      refine ⟨[], rfl, ?_, ?_, ⟨0, rfl⟩, by simp⟩
      · rw [windowEffects, bad]
        rfl
      · rw [windowWritten, bad]
        rfl

theorem WindowsKept.closes (kept : WindowsKept gcm base log device)
    (receving : device.connectionStatus = .recevingRawFw) (full : packet.numBytes = 20)
    (works : FlashWorks hardware) (closes : closesWindow .raw packet device = true) :
    WindowsKept gcm base (log ++ [(device, .receive packet hardware)])
      (step gcm device (.receive packet hardware)) := by
  have windows := @windowsOf_closes log device packet hardware receving closes
  have after := @step_counted gcm hardware .raw packet device kept.booted receving rfl
  rw [if_pos closes] at after
  have now : programmed gcm (log ++ [(device, .receive packet hardware)]) =
      programmed gcm log ++
        windowEffects hardware (intake gcm hardware .raw packet device.cleared) := by
    rw [programmed_concat, after, programs_closes, windowEffects_intake_cleared]
  obtain ⟨gained, bytes, effects, written, ⟨more, length⟩, passed⟩ :=
    kept.gains receving full works closes
  obtain ⟨before, whole⟩ := kept.whole
  have words : wordCount (ackedBytes gcm (windowsOf log)) = before := by
    rw [wordCount]
    omega
  have aligned : device.cleared.staging.bytePos = 0 := kept.aligned
  rw [after]
  constructor
  · rw [closeWindow_running]
    exact kept.booted
  · rw [closeWindow_staging]
    exact bytePos_rawPacket gcm hardware full aligned
  · rw [closeWindow_connectionStatus]
    split
    · exact .inr rfl
    · exact .inl receving
  · rw [now, effects, bytes, kept.stored, kept.place, programsOf_append _ _ _ before whole]
  · rw [closeWindow_startPageAddress, written, bytes, wordCount_append _ _ before whole,
      intake_startPageAddress, cleared_startPageAddress, kept.place, words, UInt32.ofNat_add,
      UInt32.mul_add, UInt32.add_assoc]
  · rw [bytes, List.length_append]
    exact ⟨before + more, by omega⟩
  · rw [windows]
    intro window member
    rcases List.mem_append.mp member with earlier | last
    · exact kept.passed window earlier
    · rw [List.mem_singleton.mp last]
      exact passed
  · rw [windows]
    exact Nat.zero_le _
  · rw [windows]
    refine fun _ => ⟨by simp, staged_nil (by simp) ?_⟩
    rw [closeWindow_staging]
    change (intake gcm hardware .raw packet device.cleared).staging.bytePos.toNat < 8
    rw [bytePos_rawPacket gcm hardware full aligned]
    decide

theorem WindowsKept.step {event : Event} (kept : WindowsKept gcm base log device)
    (raw : RawStep device event) (receives : ∃ packet hardware, event = .receive packet hardware) :
    WindowsKept gcm base (log ++ [(device, event)]) (BleFwUpdate.step gcm device event) := by
  obtain ⟨packet, hardware, rfl⟩ := receives
  rcases kept.status with receving | closing
  · obtain ⟨full, works⟩ := raw.2 receving
    cases closes : closesWindow .raw packet device with
    | false => exact kept.inside receving full closes
    | true => exact kept.closes receving full works closes
  · exact kept.ignored closing

theorem Started.windowsKept {start : Packet} {begun : Device}
    (started : Started .raw start device begun) (clean : RawClean device)
    (booted : device.running = none) (connected : device.connectionStatus = .connected) :
    WindowsKept gcm begun.startPageAddress [] begun := by
  obtain ⟨_, empty, _⟩ := clean.fresh.untouched booted (.inr connected)
  have none : ackedBytes gcm (windowsOf []) = [] := rfl
  refine ⟨by rw [started.running, booted], ?_, .inl started.connectionStatus, ?_, ?_, ⟨0, rfl⟩,
    by simp [windowsOf], by simp [windowsOf], fun _ => ⟨by simp [windowsOf], staged_nil ?_ ?_⟩⟩
  · rw [started.staging]
    exact clean.aligned
  · rw [none]
    rfl
  · simp [none, wordCount]
  · rw [started.staging]
    exact empty
  · rw [started.staging]
    exact clean.fresh.small

end Session

/-- In a run of raw sessions, exactly the packets of the windows answered with an ACK are
programmed, and a window is only answered so if every packet of it is right. -/
theorem rawSession_programs_acked (gcm : AesGcm) (flash : UInt32 → UInt64) (before : List Event)
    (start : Packet) (hardware : Hardware) (session : List Event)
    (raw : Along (step gcm) RawStep (powerOn flash) (before ++ .receive start hardware :: session))
    (booted : (run gcm flash before).running = none)
    (connected : (run gcm flash before).connectionStatus = .connected)
    (isStart : startMode start = some .raw) (isAdmitted : admitted hardware .raw start = true)
    (receives : ∀ event ∈ session, ∃ packet hardware, event = .receive packet hardware) :
    let begun := step gcm (run gcm flash before) (.receive start hardware)
    let log := history (step gcm) begun session
    programmed gcm log =
        programsOf begun.startPageAddress (ackedBytes gcm (windowsOf log)) ∧
      ∀ window ∈ (windowsOf log).answered, acked gcm window = true →
        ∀ entry ∈ window, Passed entry := by
  intro begun log
  obtain ⟨earlier, _, inSession⟩ := (along_append (step gcm) RawStep _ _ _).mp raw
  have clean : RawClean (run gcm flash before) :=
    earlier.invariant (fun _ _ clean raw => rawClean_step gcm clean raw)
      ⟨fresh_powerOn flash, by simp [powerOn], rfl⟩
  have begins := started gcm booted connected isStart isAdmitted
  have kept := (inSession.and (along_of_forall receives)).invariant_history
    (fun log device event (kept : WindowsKept gcm begun.startPageAddress log device) step =>
      kept.step step.1 step.2)
    (begins.windowsKept clean booted connected)
  rw [List.nil_append] at kept
  exact ⟨kept.stored, kept.passed⟩

/-- A first session is interrupted inside a window; in the second a window is rejected and sent
again. -/
theorem rawSession_programs_acked_resent_window :
    let gcm := AesGcm.ofTables [] []
    let before := [.connect, .receive (startPacket startFlashModeCmd 1 2) (.working 0),
      .receive (filledPacket 0 0x55 0x50) (.working 0), .disconnect (.working 0), .connect]
    let begun := step gcm (run gcm (fun _ => 0) before)
      (.receive (startPacket startFlashModeCmd 1 11) (.working 0))
    let log := history (step gcm) begun (resentWindow.map (Event.receive · (.working 0)))
    programmed gcm log = programsOf begun.startPageAddress (ackedBytes gcm (windowsOf log)) ∧
      ∀ window ∈ (windowsOf log).answered, acked gcm window = true →
        ∀ entry ∈ window, Passed entry := by
  intro gcm before begun log
  have works := flashWorks_working 0
  have plain : ∀ packet ∈ resentWindow, startMode packet ≠ some .secure := by decide +kernel
  have session : ∀ event ∈ resentWindow.map (Event.receive · (.working 0)),
      ∀ device, RawStep device event := by
    intro event member device
    obtain ⟨packet, listed, rfl⟩ := List.mem_map.mp member
    obtain ⟨_, _, same, full, _⟩ := rawData_resentWindow _ member
    injection same with samePacket
    exact ⟨fun _ secure => (plain packet listed secure).elim,
      fun _ => ⟨samePacket ▸ full, works⟩⟩
  have start : ∀ number, startMode (startPacket startFlashModeCmd 1 number) = some .raw :=
    startMode_startPacket .raw 1
  have offline : (run gcm (fun _ => 0) (before.take 4)).connected = false := by decide +kernel
  have opening : Along (step gcm) RawStep (powerOn fun _ => 0)
      (before ++ [.receive (startPacket startFlashModeCmd 1 11) (.working 0)]) :=
    ⟨rfl, ⟨fun _ secure => (by rw [start] at secure; cases secure),
        fun receving => absurd receving (by decide +kernel)⟩,
      ⟨fun connected => absurd connected (by decide +kernel), fun _ => ⟨rfl, works⟩⟩,
      trivial, offline,
      ⟨fun _ secure => (by rw [start] at secure; cases secure),
        fun receving => absurd receving (by decide +kernel)⟩, trivial⟩
  have raw : Along (step gcm) RawStep (powerOn fun _ => 0) (before ++
      .receive (startPacket startFlashModeCmd 1 11) (.working 0) ::
        resentWindow.map (Event.receive · (.working 0))) := by
    rw [← List.singleton_append, ← List.append_assoc, along_append]
    exact ⟨opening, along_of_always session⟩
  exact rawSession_programs_acked gcm (fun _ => 0) before
    (startPacket startFlashModeCmd 1 11) (.working 0)
    (resentWindow.map (Event.receive · (.working 0))) raw (by decide +kernel) (by decide +kernel)
    (start 11) (by decide +kernel) fun event member => by
      obtain ⟨packet, hardware, same, _⟩ := rawData_resentWindow event member
      exact ⟨packet, hardware, same⟩

end BleFwUpdate
