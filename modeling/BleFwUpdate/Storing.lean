import BleFwUpdate.Session

/-! What the answer to a window says about the flash, over whole runs of the device. -/

namespace BleFwUpdate

open Transitions

/-- The entries of `flash_buff` that a window has staged when the packet ends it. -/
def stagedEntries (gcm : AesGcm) (hardware : Hardware) (mode : Mode) (packet : Packet)
    (device : Device) : List Nat :=
  device.staging.entries ++ stagedAt (storedBytes gcm hardware mode packet device) device.staging

def windowWords (gcm : AesGcm) (hardware : Hardware) (mode : Mode) (packet : Packet)
    (device : Device) : Nat :=
  ((intake gcm hardware mode packet device).staging.contBuff + 1).toUInt8.toNat

def ProgramFails (hardware : Hardware) (words : Nat) (device : Device) : Prop :=
  (!device.flashLocked || hardware.unlock) = true ∧
    ∃ sofar < words, hardware.program sofar = false

/-- At the end of a window: an answer that carries the ACK flag comes after every staged
double word has been programmed, and if a double word cannot be programmed, the answer
carries the NAK flag and the window is not counted. -/
def WindowStored (gcm : AesGcm) (hardware : Hardware) (mode : Mode) (packet : Packet)
    (device after : Device) : Prop :=
  (∀ before bytes later, after.effects = before ++ .response bytes :: later →
    bytes.head? = some ackCmd →
      ∀ index ∈ stagedEntries gcm hardware mode packet device,
        .program (device.startPageAddress + 8 * UInt32.ofNat index)
          ((intake gcm hardware mode packet device).staging.flashBuff index) true ∈ before) ∧
  ((∃ address data, .program address data false ∈ after.effects) →
    (∀ bytes, .response bytes ∈ after.effects → bytes.head? = some nakCmd) ∧
    after.countPck ≤ device.countPck)

def AckMeansStored (gcm : AesGcm) (device : Device) (event : Event) : Prop :=
  match event with
  | .receive packet hardware => device.running = none → ∀ mode : Mode,
      device.connectionStatus = mode.status → closesWindow mode packet device = true →
        WindowStored gcm hardware mode packet device (step gcm device event)
  | _ => True

/-- If every packet of the window has been accepted: in raw mode, the words to write are
as many as the entries staged reach up to, and a flash that fails does so after the first
nine packets; in secure mode, nothing has been staged. -/
def MayAnswer (gcm : AesGcm) (hardware : Hardware) (mode : Mode) (packet : Packet)
    (device : Device) : Prop :=
  (device.nextAck && accepts mode packet device) = true →
    match mode with
    | .raw =>
        (windowAccepted hardware (intake gcm hardware .raw packet device) = true →
          ∀ index ∈ stagedEntries gcm hardware .raw packet device,
            index < windowWords gcm hardware .raw packet device) ∧
        (ProgramFails hardware (windowWords gcm hardware .raw packet device) device →
          9 ≤ device.countPck)
    | .secure => stagedEntries gcm hardware .secure packet device = []

def AnswersStored (gcm : AesGcm) (device : Device) (event : Event) : Prop :=
  match event with
  | .receive packet hardware => device.running = none → ∀ mode : Mode,
      device.connectionStatus = mode.status → closesWindow mode packet device = true →
        MayAnswer gcm hardware mode packet device
  | _ => True

theorem programmedCount_lt_iff (hardware : Hardware) (left sofar : Nat) :
    programmedCount hardware left sofar < left ↔
      ∃ offset < left, hardware.program (sofar + offset) = false := by
  induction left generalizing sofar with
  | zero => simp
  | succ left ih =>
      rw [programmedCount]
      cases ok : hardware.program sofar with
      | false => exact ⟨fun _ => ⟨0, by omega, ok⟩, fun _ => by simp⟩
      | true =>
          simp only [if_true, Nat.add_lt_add_iff_right, ih]
          constructor
          · rintro ⟨offset, below, fails⟩
            exact ⟨offset + 1, by omega, by rw [← fails]; congr 1; omega⟩
          · rintro ⟨offset, below, fails⟩
            cases offset with
            | zero => simp [ok] at fails
            | succ offset => exact ⟨offset, by omega, by rw [← fails]; congr 1; omega⟩

theorem programFails_iff {hardware : Hardware} (dataToFlash : Nat → UInt64) {numBytes : UInt16}
    {device : Device} :
    (∃ address data, .program address data false ∈
        writeEffects hardware dataToFlash numBytes device) ↔
      ProgramFails hardware numBytes.toUInt8.toNat device := by
  have stops := programmedCount_lt_iff hardware numBytes.toUInt8.toNat 0
  simp only [Nat.zero_add] at stops
  simp only [writeEffects, ProgramFails, ← stops]
  cases mayWrite : !device.flashLocked || hardware.unlock with
  | false => simp
  | true =>
      simp only [if_true, true_and]
      constructor
      · rintro ⟨address, data, member⟩
        obtain ⟨offset, inside, _, same⟩ := mem_programEffects.mp member
        injection same with _ _ failed
        have past : ¬ offset < programmedCount hardware numBytes.toUInt8.toNat 0 := by
          simpa using failed.symm
        omega
      · intro short
        exact ⟨_, _, mem_programEffects.mpr ⟨_, short, Nat.le_refl _,
          by rw [decide_eq_false (Nat.lt_irrefl _)]⟩⟩

theorem wordAddress_injective {start : UInt32} {offset other : Nat} (small : offset < 65536)
    (otherSmall : other < 65536)
    (same : start + 8 * UInt32.ofNat offset = start + 8 * UInt32.ofNat other) :
    offset = other := by
  have sameOffset := UInt32.toNat_inj.mpr ((UInt32.add_right_inj start).mp same)
  simp at sameOffset
  omega

theorem response_split {front back before later : List Effect} {answer bytes : List UInt8}
    (silentFront : ∀ other, .response other ∉ front) (silentBack : ∀ other, .response other ∉ back)
    (same : front ++ .response answer :: back = before ++ .response bytes :: later) :
    before = front ∧ bytes = answer := by
  induction front generalizing before with
  | nil =>
      cases before with
      | nil => simp_all
      | cons effect before =>
          have member : Effect.response bytes ∈ back := by
            simp only [List.nil_append, List.cons_append, List.cons.injEq] at same
            simp [same.2]
          exact (silentBack bytes member).elim
  | cons effect front ih =>
      cases before with
      | nil =>
          simp only [List.cons_append, List.nil_append, List.cons.injEq] at same
          exact (silentFront bytes (by simp [same.1])).elim
      | cons first before =>
          simp only [List.cons_append, List.cons.injEq] at same
          obtain ⟨sameBefore, sameBytes⟩ :=
            ih (fun other member => silentFront other (List.mem_cons_of_mem _ member)) same.2
          simp [same.1, sameBefore, sameBytes]

theorem silent_windowEffects (hardware : Hardware) (device : Device) (bytes : List UInt8) :
    .response bytes ∉ windowEffects hardware device := by
  simp only [windowEffects, writeEffects]
  split
  · split
    · intro member
      obtain ⟨_, _, _, same⟩ := mem_programEffects.mp member
      contradiction
    · simp
  · simp

@[simp] theorem head_rawResponse (hardware : Hardware) (ack : Bool) (countPck : UInt16) :
    (rawResponse hardware ack countPck).head? = some (ackByte ack) := rfl

@[simp] theorem head_secureResponse (gcm : AesGcm) (iv : Iv) (ack : Bool) (countPck : UInt16)
    (randIv : Vector UInt8 3) :
    (secureResponse gcm iv ack countPck randIv).head? = some (ackByte ack) := rfl

theorem ackByte_eq_ackCmd {ack : Bool} : ackByte ack = ackCmd ↔ ack = true := by
  cases ack <;> decide

theorem program_windowEffects {hardware : Hardware} {device : Device}
    (accepted : windowAccepted hardware device = true) {index : Nat} (small : index < 65536) :
    .program (device.startPageAddress + 8 * UInt32.ofNat index) (device.staging.flashBuff index)
        true ∈ windowEffects hardware device ↔
      index < (device.staging.contBuff + 1).toUInt8.toNat := by
  simp only [windowAccepted, writeOutcome, Bool.and_eq_true, decide_eq_true_eq] at accepted
  obtain ⟨good, mayWrite, complete⟩ := accepted
  simp only [windowEffects, writeEffects, good, mayWrite, if_true]
  rw [mem_programEffects, complete]
  have words := (device.staging.contBuff + 1).toUInt8.toNat_lt
  constructor
  · rintro ⟨offset, inside, _, same⟩
    injection same with sameAddress
    rw [wordAddress_injective small (by omega) sameAddress]
    exact inside
  · intro inside
    exact ⟨index, inside, by omega, by rw [decide_eq_true inside]⟩

theorem programFails_windowEffects {hardware : Hardware} {device : Device} :
    (∃ address data, .program address data false ∈ windowEffects hardware device) ↔
      device.nextAck = true ∧
        ProgramFails hardware (device.staging.contBuff + 1).toUInt8.toNat device := by
  rw [← programFails_iff device.staging.flashBuff, windowEffects]
  cases device.nextAck <;> simp

theorem stagedAt_small (more : List UInt8) (staging : Staging) :
    ∀ index ∈ stagedAt more staging, index < 65536 := by
  induction more generalizing staging with
  | nil => simp [stagedAt]
  | cons byte rest ih =>
      intro index member
      rcases List.mem_cons.mp member with rfl | member
      · exact UInt16.toNat_lt _
      · exact ih _ index member

/-- What the history of the open window says about the buffer. -/
structure Noted (device : Device) : Prop where
  empty : device.staging.entries = [] → device.staging.contBuff = 0xFFFF
  small : ∀ index ∈ device.staging.entries, index < 65536

theorem Noted.of_staging {device other : Device} (noted : Noted device)
    (entries : other.staging.entries = device.staging.entries)
    (contBuff : other.staging.contBuff = device.staging.contBuff) : Noted other := by
  constructor
  · rw [entries, contBuff]
    exact noted.empty
  · rw [entries]
    exact noted.small

theorem noted_of_empty {device : Device} (entries : device.staging.entries = [])
    (empty : device.staging.contBuff = 0xFFFF) : Noted device :=
  ⟨fun _ => empty, by simp [entries]⟩

theorem Noted.stagedEntries_small {gcm : AesGcm} {hardware : Hardware} {mode : Mode}
    {packet : Packet} {device : Device} (noted : Noted device) :
    ∀ index ∈ stagedEntries gcm hardware mode packet device, index < 65536 := by
  intro index member
  rcases List.mem_append.mp member with member | member
  · exact noted.small index member
  · exact stagedAt_small _ _ index member

theorem Noted.intake {gcm : AesGcm} {hardware : Hardware} {mode : Mode} {packet : Packet}
    {device : Device} (noted : Noted device) : Noted (intake gcm hardware mode packet device) := by
  constructor
  · intro none
    rw [intake_staging, stageBytes_entries, List.append_eq_nil_iff] at none
    rw [intake_staging]
    cases stored : storedBytes gcm hardware mode packet device with
    | nil => exact noted.empty none.1
    | cons byte rest => simp [stored, stagedAt] at none
  · rw [intake_staging, stageBytes_entries]
    exact noted.stagedEntries_small

theorem noted_step (gcm : AesGcm) {device : Device} (event : Event) (noted : Noted device) :
    Noted (step gcm device event) := by
  have cleared : Noted device.cleared := noted.of_staging rfl rfl
  induction event using step_cases gcm device with
  | running event running after => exact after ▸ cleared
  | connect booted after =>
      rw [after]
      exact noted.of_staging rfl rfl
  | jump hardware booted complete after =>
      rw [after]
      exact noted.of_staging rfl rfl
  | stay hardware booted incomplete after =>
      rw [after]
      exact noted_of_empty rfl rfl
  | ignored packet hardware booted status after => exact after ▸ cleared
  | connected packet hardware booted status after =>
      obtain ⟨_, _, _, _, _, _, _, _, _, shape⟩ :=
        handleConnected_shape gcm hardware packet device.cleared status
      rw [after, shape]
      exact noted.of_staging rfl rfl
  | repeats mode packet hardware booted status notCounted after =>
      rw [after]
      cases mode <;> exact noted.of_staging rfl rfl
  | inside mode packet hardware booted status isCounted isInside after =>
      rw [after]
      exact cleared.intake
  | closes mode packet hardware booted status isClosing after =>
      rw [after]
      exact noted_of_empty (by simp) (by simp)

theorem toNat_sub_window (count : UInt16) :
    count + 1 - rawNumCumulativeAck ≤ count ↔ 9 ≤ count := by
  have bound := count.toNat_lt
  simp only [UInt16.le_iff_toNat_le, UInt16.toNat_sub, UInt16.toNat_add, rawNumCumulativeAck,
    UInt16.reduceToNat]
  omega

theorem not_accepted_of_programFails {hardware : Hardware} (device : Device)
    (fails : ProgramFails hardware (device.staging.contBuff + 1).toUInt8.toNat device) :
    windowAccepted hardware device = false := by
  obtain ⟨_, sofar, below, fails⟩ := fails
  have stops := (programmedCount_lt_iff hardware (device.staging.contBuff + 1).toUInt8.toNat 0).mpr
    ⟨sofar, below, by simpa using fails⟩
  have incomplete := decide_eq_false (Nat.ne_of_lt stops)
  simp only [windowAccepted, writeOutcome, incomplete, Bool.and_false]

section Closes

variable (gcm : AesGcm) {hardware : Hardware} {packet : Packet} {device : Device}

theorem stored_raw (noted : Noted device) :
    (∀ before bytes later,
      (closeWindow gcm hardware .raw (intake gcm hardware .raw packet device.cleared)).effects =
        before ++ .response bytes :: later → bytes.head? = some ackCmd →
        ∀ index ∈ stagedEntries gcm hardware .raw packet device,
          .program (device.startPageAddress + 8 * UInt32.ofNat index)
            ((intake gcm hardware .raw packet device).staging.flashBuff index) true ∈ before) ↔
      (windowAccepted hardware (intake gcm hardware .raw packet device) = true →
        ∀ index ∈ stagedEntries gcm hardware .raw packet device,
          index < windowWords gcm hardware .raw packet device) := by
  rw [closes_raw_effects]
  constructor
  · intro answered accepted index member
    have programmed := answered _ _ _ rfl (by simp [ackByte, accepted]) index member
    exact (program_windowEffects accepted (noted.stagedEntries_small index member)).mp programmed
  · intro inside before bytes later same flag index member
    obtain ⟨rfl, rfl⟩ := response_split (silent_windowEffects hardware _) (by simp) same
    have accepted : windowAccepted hardware (intake gcm hardware .raw packet device) = true := by
      simpa [ackByte_eq_ackCmd] using flag
    exact (program_windowEffects accepted (noted.stagedEntries_small index member)).mpr
      (inside accepted index member)

theorem failing_raw :
    ((∃ address data, .program address data false ∈
        (closeWindow gcm hardware .raw (intake gcm hardware .raw packet device.cleared)).effects) →
      (∀ bytes, .response bytes ∈ (closeWindow gcm hardware .raw
          (intake gcm hardware .raw packet device.cleared)).effects →
        bytes.head? = some nakCmd) ∧
      (closeWindow gcm hardware .raw
        (intake gcm hardware .raw packet device.cleared)).countPck ≤ device.countPck) ↔
      ((device.nextAck && accepts .raw packet device) = true →
        ProgramFails hardware (windowWords gcm hardware .raw packet device) device →
          9 ≤ device.countPck) := by
  have fails : (∃ address data, .program address data false ∈
      (closeWindow gcm hardware .raw (intake gcm hardware .raw packet device.cleared)).effects) ↔
      (device.nextAck && accepts .raw packet device) = true ∧
        ProgramFails hardware (windowWords gcm hardware .raw packet device) device := by
    rw [closes_raw_effects]
    simp only [List.mem_append, List.mem_singleton, reduceCtorEq, or_false]
    exact programFails_windowEffects
  rw [fails]
  constructor
  · intro answered good stops
    have rejected := not_accepted_of_programFails (intake gcm hardware .raw packet device) stops
    simpa [rejected, Mode.window, toNat_sub_window] using (answered ⟨good, stops⟩).2
  · rintro room ⟨good, stops⟩
    have rejected := not_accepted_of_programFails (intake gcm hardware .raw packet device) stops
    refine ⟨?_, by simpa [rejected, Mode.window, toNat_sub_window] using room good stops⟩
    intro bytes member
    rw [closes_raw_effects] at member
    rcases List.mem_append.mp member with member | member
    · exact (silent_windowEffects hardware _ bytes member).elim
    · rw [List.mem_singleton] at member
      injection member with same
      simp [same, rejected, ackByte]

theorem windowStored_raw (noted : Noted device) :
    WindowStored gcm hardware .raw packet device
        (closeWindow gcm hardware .raw (intake gcm hardware .raw packet device.cleared)) ↔
      MayAnswer gcm hardware .raw packet device := by
  rw [WindowStored, stored_raw gcm noted, failing_raw]
  constructor
  · exact fun both good => ⟨both.1, both.2 good⟩
  · intro may
    refine ⟨fun accepted => ?_, fun good => (may good).2⟩
    have good : (device.nextAck && accepts .raw packet device) = true := by
      simp only [windowAccepted, intake_nextAck, Bool.and_eq_true] at accepted ⊢
      exact accepted.1
    exact (may good).1 accepted

theorem windowStored_secure (noted : Noted device) :
    WindowStored gcm hardware .secure packet device
        (closeWindow gcm hardware .secure (intake gcm hardware .secure packet device.cleared)) ↔
      MayAnswer gcm hardware .secure packet device := by
  have silent : ∀ other, .response other ∉ beforeAnswer gcm hardware packet device := by
    intro other member
    rcases mem_beforeAnswer gcm hardware packet device member with
      ⟨_, _, _, _, _, same⟩ | ⟨_, _, _, same⟩ <;> contradiction
  have unprogrammed : ∀ address data ok,
      .program address data ok ∉ beforeAnswer gcm hardware packet device := by
    intro address data ok member
    rcases mem_beforeAnswer gcm hardware packet device member with
      ⟨_, _, _, _, _, same⟩ | ⟨_, _, _, same⟩ <;> contradiction
  rw [WindowStored, closes_secure_effects]
  constructor
  · rintro ⟨answered, _⟩ good
    refine List.eq_nil_iff_forall_not_mem.mpr fun index member => ?_
    exact unprogrammed _ _ _
      (answered _ _ _ rfl (by simp [good, ackByte]) index member)
  · intro may
    constructor
    · intro before bytes later same flag index member
      obtain ⟨rfl, rfl⟩ := response_split silent (silent_windowEffects hardware _) same
      have good : (device.nextAck && accepts .secure packet device) = true := by
        simpa only [head_secureResponse, Option.some.injEq, ackByte_eq_ackCmd] using flag
      rw [may good] at member
      contradiction
    · rintro ⟨address, data, member⟩
      have failed : .program address data false ∈
          windowEffects hardware (intake gcm hardware .secure packet device) := by
        simpa [unprogrammed] using member
      obtain ⟨good, _, sofar, below, _⟩ := programFails_windowEffects.mp ⟨address, data, failed⟩
      have nothing : (intake gcm hardware .secure packet device).staging.entries = [] := by
        rw [intake_staging, stageBytes_entries]
        exact may good
      rw [noted.intake.empty nothing] at below
      exact (Nat.not_lt_zero _ below).elim

end Closes

theorem ackMeansStored_iff (gcm : AesGcm) {device : Device} {event : Event}
    (noted : Noted device) : AckMeansStored gcm device event ↔ AnswersStored gcm device event := by
  cases event with
  | receive packet hardware =>
      refine forall_congr' fun booted => forall_congr' fun mode => forall_congr' fun status =>
        forall_congr' fun isClosing => ?_
      rw [step_counted gcm hardware booted status (counted_of_closes isClosing), if_pos isClosing]
      cases mode
      · exact windowStored_raw gcm noted
      · exact windowStored_secure gcm noted
  | _ => exact Iff.rfl

/-- In a run, every window is answered as it has been stored exactly if every window whose
packets have all been accepted is one that may be answered so. -/
theorem ackMeansStored_run_iff (gcm : AesGcm) (flash : UInt32 → UInt64) (events : List Event) :
    Along (step gcm) (AckMeansStored gcm) (powerOn flash) events ↔
      Along (step gcm) (AnswersStored gcm) (powerOn flash) events := by
  have noted : Noted (powerOn flash) := noted_of_empty rfl rfl
  constructor
  · intro along
    exact along.imp_of_invariant (fun _ event noted _ => noted_step gcm event noted)
      (fun _ _ noted stored => (ackMeansStored_iff gcm noted).mp stored) noted
  · intro along
    exact along.imp_of_invariant (fun _ event noted _ => noted_step gcm event noted)
      (fun _ _ noted may => (ackMeansStored_iff gcm noted).mpr may) noted

/-- A secure window of one packet whose double word cannot be programmed is answered with
an ACK. -/
theorem secureWindow_acked_unprogrammed :
    let gcm := AesGcm.ofTables [] []
    let start := Packet.ofBytes [0xbc, 0, 0, 1, 1] (by decide)
    let data := Packet.ofBytes (0xc0 :: List.replicate 19 0) (by decide)
    let faulty := { Hardware.working 0 with program := fun _ => false }
    let events := [.connect, .receive start (.working 0), .receive data faulty]
    ¬ Along (step gcm) (AckMeansStored gcm) (powerOn fun _ => 0) events ∧
      (run gcm (fun _ => 0) events).effects.drop 2 =
        [.response [0, 0, 1, 0, 0, 0, 0, 0, 0, 0], .program 0x08040000 0 false] := by
  refine ⟨?_, by decide +kernel⟩
  rintro ⟨-, -, ends, -⟩
  have stored := ends (by decide +kernel) .secure (by decide +kernel) (by decide +kernel)
  have flag := (stored.2 ⟨0x08040000, 0, by decide +kernel⟩).1 [0, 0, 1, 0, 0, 0, 0, 0, 0, 0]
    (by decide +kernel)
  contradiction

end BleFwUpdate
