import BleFwUpdate.Messages
import BleFwUpdate.Retransmission

/-! How far into the flash a session programs. -/

namespace BleFwUpdate

open Transitions LittleEndian

def InSlot (app : FlashAppType) (address : UInt32) : Prop :=
  ∃ base, slotAddress app = some base ∧ base.toNat ≤ address.toNat ∧
    address.toNat < base.toNat + slotSize app

def StaysInSlot (gcm : AesGcm) (app : FlashAppType) (device : Device) (event : Event) : Prop :=
  ∀ address data ok, .program address data ok ∈ (step gcm device event).effects →
    InSlot app address

/-- A window that is rejected has all its packets, and where it is rejected by the flash,
nothing of it has been programmed. -/
def RewindsWhole (gcm : AesGcm) (mode : Mode) (device : Device) (event : Event) : Prop :=
  match event with
  | .receive packet hardware =>
      device.connectionStatus = mode.status → closesWindow mode packet device = true →
        windowAccepted hardware (intake gcm hardware mode packet device) = false →
          (device.countPck + 1).toNat % mode.window.toNat = 0 ∧
            ((device.nextAck && accepts mode packet device) = true →
              (!device.flashLocked || hardware.unlock) = true → hardware.program 0 = false)
  | _ => True

/-- A session whose packets so far have moved the flash pointer no further than their
payloads reach. -/
structure Confined (mode : Mode) (base : UInt32) (size : Nat) (used : Nat) (device : Device) :
    Prop where
  booted : device.running = none
  receving : device.connectionStatus = mode.status
  below : device.countPck < device.totalPck
  fits : mode.stored * device.totalPck.toNat ≤ size
  place : device.startPageAddress = base + 8 * UInt32.ofNat used
  behind : 8 * used ≤ mode.stored * windowStart mode device.countPck
  room : 8 * (device.staging.contBuff + 1).toNat ≤
    mode.stored * (device.countPck.toNat % mode.window.toNat) +
      (8 - device.staging.bytePos.toNat) % 8
  small : device.staging.bytePos.toNat < 8

def Enclosed (mode : Mode) (base : UInt32) (size : Nat) (device : Device) : Prop :=
  (∃ used, Confined mode base size used device) ∨ device.connectionStatus = .closingConnection

theorem stageBytes_room (more : List UInt8) {staging : Staging} {bound : Nat}
    (small : staging.bytePos.toNat < 8)
    (room : 8 * (staging.contBuff + 1).toNat ≤ bound + (8 - staging.bytePos.toNat) % 8)
    (short : bound + more.length ≤ 65536) :
    8 * ((more.foldl stageByte staging).contBuff + 1).toNat ≤
      bound + more.length + (8 - (more.foldl stageByte staging).bytePos.toNat) % 8 := by
  rw [stageBytes_contBuff more staging small, stageBytes_bytePos more staging small]
  simp only [UInt16.toNat_add, UInt16.toNat_ofNat', UInt16.toNat_one] at room ⊢
  omega

section Window

variable {gcm : AesGcm} {mode : Mode} {base : UInt32} {size used : Nat} {hardware : Hardware}
  {packet : Packet} {device : Device}

theorem Confined.cleared (confined : Confined mode base size used device) :
    Confined mode base size used device.cleared :=
  ⟨confined.booted, confined.receving, confined.below, confined.fits, confined.place,
    confined.behind, confined.room, confined.small⟩

theorem Confined.intake_room (confined : Confined mode base size used device) (gcm : AesGcm)
    (hardware : Hardware) (packet : Packet) :
    8 * ((intake gcm hardware mode packet device).staging.contBuff + 1).toNat ≤
      mode.stored * (device.countPck.toNat % mode.window.toNat + 1) +
        (8 - (intake gcm hardware mode packet device).staging.bytePos.toNat) % 8 := by
  have more := length_storedBytes_le gcm hardware mode packet device
  have inside : device.countPck.toNat % mode.window.toNat < mode.window.toNat :=
    Nat.mod_lt _ (by cases mode <;> decide)
  have top : mode.stored * (device.countPck.toNat % mode.window.toNat) ≤ 240 := by
    cases mode <;>
      simp only [Mode.stored, Mode.window, rawNumCumulativeAck, secureNumCumulativeAck,
        UInt16.reduceToNat] at inside ⊢ <;> omega
  have most : mode.stored ≤ 16 := by cases mode <;> decide
  have staged := stageBytes_room (storedBytes gcm hardware mode packet device) confined.small
    confined.room (by omega)
  rw [intake_staging, Nat.mul_succ]
  omega

theorem Confined.toNat_succ (confined : Confined mode base size used device) :
    (device.countPck + 1).toNat = device.countPck.toNat + 1 ∧
      device.countPck.toNat < device.totalPck.toNat ∧ device.totalPck.toNat < 65536 :=
  ⟨toNat_succ_of_lt confined.below, UInt16.lt_iff_toNat_lt.mp confined.below,
    device.totalPck.toNat_lt⟩

theorem Confined.words_le (confined : Confined mode base size used device) (gcm : AesGcm)
    (hardware : Hardware) (packet : Packet) (whole : size % 8 = 0) :
    8 * (used + ((intake gcm hardware mode packet device).staging.contBuff + 1).toUInt8.toNat) ≤
      size := by
  obtain ⟨_, below, _⟩ := confined.toNat_succ
  have room := confined.intake_room gcm hardware packet
  have behind := confined.behind
  have fits := confined.fits
  have cut := Nat.mod_le
    ((intake gcm hardware mode packet device).staging.contBuff + 1).toNat (2 ^ 8)
  have reach : 8 * (used +
      ((intake gcm hardware mode packet device).staging.contBuff + 1).toNat) ≤
      mode.stored * (device.countPck.toNat + 1) + 7 := by
    cases mode <;>
      simp only [Mode.stored, Mode.window, windowStart, rawNumCumulativeAck,
        secureNumCumulativeAck, UInt16.reduceToNat] at room behind ⊢ <;>
      omega
  have total : mode.stored * (device.countPck.toNat + 1) ≤ size :=
    Nat.le_trans (Nat.mul_le_mul_left _ below) fits
  rw [UInt16.toNat_toUInt8]
  omega

theorem Confined.behind_next (confined : Confined mode base size used device)
    (gcm : AesGcm) (hardware : Hardware) (packet : Packet)
    (whole : (device.countPck.toNat + 1) % mode.window.toNat = 0) :
    8 * (used + ((intake gcm hardware mode packet device).staging.contBuff + 1).toUInt8.toNat) ≤
      mode.stored * (device.countPck.toNat + 1) := by
  have room := confined.intake_room gcm hardware packet
  have behind := confined.behind
  rw [UInt16.toNat_toUInt8]
  cases mode <;>
    simp only [Mode.stored, Mode.window, windowStart, rawNumCumulativeAck, secureNumCumulativeAck,
      UInt16.reduceToNat] at room behind whole ⊢ <;>
    omega

theorem Confined.inside (confined : Confined mode base size used device)
    (isCounted : counted mode packet = true)
    (isInside : closesWindow mode packet device = false) :
    Confined mode base size used (intake gcm hardware mode packet device) := by
  obtain ⟨succ, below, _⟩ := confined.toNat_succ
  have advance := window_advance isCounted isInside
  rw [UInt16.toNat_mod, UInt16.toNat_mod, succ] at advance
  have going := mt (closesWindow_iff isCounted).mpr (by simpa using isInside)
  rw [not_or, ← UInt16.toNat_inj, succ] at going
  refine ⟨confined.booted, confined.receving, ?_, confined.fits, confined.place, ?_, ?_,
    stageBytes_small _ confined.small⟩
  · rw [UInt16.lt_iff_toNat_lt, intake_countPck, intake_totalPck, succ]
    omega
  · rw [intake_countPck, windowStart_succ succ advance]
    exact confined.behind
  · rw [intake_countPck, succ, advance]
    exact confined.intake_room gcm hardware packet

theorem confined_of_windowStart {after : Device} (booted : after.running = none)
    (receving : after.connectionStatus = mode.status) (below : after.countPck < after.totalPck)
    (fits : mode.stored * after.totalPck.toNat ≤ size)
    (place : after.startPageAddress = base + 8 * UInt32.ofNat used)
    (aligned : after.countPck.toNat % mode.window.toNat = 0)
    (behind : 8 * used ≤ mode.stored * after.countPck.toNat)
    (empty : after.staging.contBuff = 0xFFFF) (small : after.staging.bytePos.toNat < 8) :
    Confined mode base size used after := by
  refine ⟨booted, receving, below, fits, place, ?_, ?_, small⟩
  · rw [windowStart, aligned, Nat.sub_zero]
    exact behind
  · rw [empty]
    exact Nat.zero_le _

theorem windowWritten_le (hardware : Hardware) (device : Device) :
    windowWritten hardware device ≤ (device.staging.contBuff + 1).toUInt8.toNat := by
  simp only [windowWritten, writtenCount]
  split
  · split
    · exact programmedCount_le ..
    · exact Nat.zero_le _
  · exact Nat.zero_le _

theorem windowWritten_rejected {hardware : Hardware} {device : Device}
    (atOnce : device.nextAck = true → (!device.flashLocked || hardware.unlock) = true →
      hardware.program 0 = false) : windowWritten hardware device = 0 := by
  simp only [windowWritten, writtenCount]
  split
  · rename_i nextAck
    split
    · rename_i mayWrite
      cases (device.staging.contBuff + 1).toUInt8.toNat with
      | zero => rfl
      | succ left => simp [programmedCount, atOnce nextAck mayWrite]
    · rfl
  · rfl

theorem Confined.place_closes (confined : Confined mode base size used device)
    (gcm : AesGcm) (hardware : Hardware) (packet : Packet) :
    (closeWindow gcm hardware mode (intake gcm hardware mode packet device)).startPageAddress =
      base + 8 * UInt32.ofNat
        (used + windowWritten hardware (intake gcm hardware mode packet device)) := by
  rw [closeWindow_startPageAddress, intake_startPageAddress, confined.place, UInt32.ofNat_add,
    UInt32.mul_add, UInt32.add_assoc]

theorem Confined.closes_accepted (confined : Confined mode base size used device)
    (closes : closesWindow mode packet device = true)
    (good : windowAccepted hardware (intake gcm hardware mode packet device) = true) :
    Enclosed mode base size
      (closeWindow gcm hardware mode (intake gcm hardware mode packet device)) := by
  obtain ⟨succ, below, top⟩ := confined.toNat_succ
  have status := closeWindow_connectionStatus gcm hardware mode
    (intake gcm hardware mode packet device)
  rw [intake_connectionStatus, intake_totalPck] at status
  have counts := closeWindow_countPck gcm hardware mode (intake gcm hardware mode packet device)
  rw [intake_countPck, good, if_pos rfl] at counts
  by_cases last : device.countPck + 1 = device.totalPck
  · right
    rw [status, counts, if_pos last]
  · have aligned := ((closesWindow_iff (counted_of_closes closes)).mp closes).resolve_right last
    have written := windowWritten_le hardware (intake gcm hardware mode packet device)
    have behind := confined.behind_next gcm hardware packet (succ ▸ aligned)
    rw [counts, if_neg last, confined.receving] at status
    rw [← UInt16.toNat_inj, succ] at last
    refine .inl ⟨_, confined_of_windowStart (by simpa using confined.booted) status ?_
      (by simpa using confined.fits) (confined.place_closes gcm hardware packet)
      (by rw [counts]; exact aligned) ?_ (by simp)
      (by simpa using stageBytes_small _ confined.small)⟩
    · rw [UInt16.lt_iff_toNat_lt, counts, succ, closeWindow_totalPck, intake_totalPck]
      omega
    · rw [counts, succ]
      omega

theorem Confined.closes_rejected (confined : Confined mode base size used device)
    (bad : windowAccepted hardware (intake gcm hardware mode packet device) = false)
    (whole : (device.countPck.toNat + 1) % mode.window.toNat = 0)
    (unwritten : windowWritten hardware (intake gcm hardware mode packet device) = 0) :
    Enclosed mode base size
      (closeWindow gcm hardware mode (intake gcm hardware mode packet device)) := by
  obtain ⟨succ, below, top⟩ := confined.toNat_succ
  have status := closeWindow_connectionStatus gcm hardware mode
    (intake gcm hardware mode packet device)
  rw [intake_connectionStatus, intake_totalPck] at status
  have counts := closeWindow_countPck gcm hardware mode (intake gcm hardware mode packet device)
  rw [intake_countPck, bad, if_neg (by simp)] at counts
  have place := confined.place_closes gcm hardware packet
  rw [unwritten, Nat.add_zero] at place
  -- The counter goes back to where the window began, as the flash pointer has stayed there.
  have back := toNat_rewound succ whole
  have start := windowStart_le mode device.countPck
  have incomplete : device.countPck + 1 - mode.window ≠ device.totalPck := by
    rw [← UInt16.toNat_inj.ne, back]
    omega
  rw [counts, if_neg incomplete, confined.receving] at status
  refine .inl ⟨_, confined_of_windowStart (by simpa using confined.booted) status ?_
    (by simpa using confined.fits) place (by rw [counts, back]; exact windowStart_mod mode _) ?_
    (by simp) (by simpa using stageBytes_small _ confined.small)⟩
  · rw [UInt16.lt_iff_toNat_lt, counts, back, closeWindow_totalPck, intake_totalPck]
    omega
  · rw [counts, back]
    exact confined.behind

theorem Confined.closes (confined : Confined mode base size used device)
    (closes : closesWindow mode packet device = true)
    (rewinds : windowAccepted hardware (intake gcm hardware mode packet device) = false →
      (device.countPck + 1).toNat % mode.window.toNat = 0 ∧
        ((device.nextAck && accepts mode packet device) = true →
          (!device.flashLocked || hardware.unlock) = true → hardware.program 0 = false)) :
    Enclosed mode base size
      (closeWindow gcm hardware mode (intake gcm hardware mode packet device)) := by
  cases good : windowAccepted hardware (intake gcm hardware mode packet device) with
  | true => exact confined.closes_accepted closes good
  | false =>
      obtain ⟨whole, atOnce⟩ := rewinds good
      rw [confined.toNat_succ.1] at whole
      exact confined.closes_rejected good whole (windowWritten_rejected (by simpa using atOnce))

theorem Confined.inSlot {app : FlashAppType} (slot : slotAddress app = some base)
    (confined : Confined mode base (slotSize app) used device) {address : UInt32} {data : UInt64}
    {ok : Bool}
    (member : .program address data ok ∈
      windowEffects hardware (intake gcm hardware mode packet device)) :
    InSlot app address := by
  have reach := confined.words_le gcm hardware packet (slotSize_whole app)
  have top := slot_top slot
  simp only [windowEffects, writeEffects] at member
  split at member
  · split at member
    · obtain ⟨offset, inside, _, same⟩ := mem_programEffects.mp member
      injection same with sameAddress
      rw [intake_startPageAddress, confined.place, UInt32.add_assoc, ← UInt32.mul_add,
        ← UInt32.ofNat_add] at sameAddress
      have toNat : address.toNat = base.toNat + 8 * (used + offset) := by
        rw [sameAddress]
        simp
        omega
      exact ⟨base, slot, by omega, by omega⟩
    · contradiction
  · contradiction

end Window

theorem enclosed_step {gcm : AesGcm} {mode : Mode} {base : UInt32} {app : FlashAppType}
    (slot : slotAddress app = some base) {device : Device} {packet : Packet} {hardware : Hardware}
    (enclosed : Enclosed mode base (slotSize app) device)
    (rewinds : RewindsWhole gcm mode device (.receive packet hardware)) :
    Enclosed mode base (slotSize app) (step gcm device (.receive packet hardware)) ∧
      StaysInSlot gcm app device (.receive packet hardware) := by
  rcases enclosed with ⟨used, confined⟩ | closing
  · cases isCounted : counted mode packet with
    | false =>
        have after := step_uncounted gcm hardware confined.booted confined.receving isCounted
        have cleared := confined.cleared
        constructor
        · rw [after]
          cases mode <;> exact .inl ⟨used, cleared.booted, cleared.receving, cleared.below,
            cleared.fits, cleared.place, cleared.behind, cleared.room, cleared.small⟩
        · intro address data ok member
          rw [← mem_programs, after, programs_repeats] at member
          contradiction
    | true =>
        have after := step_counted gcm hardware confined.booted confined.receving isCounted
        cases closes : closesWindow mode packet device with
        | false =>
            rw [closes] at after
            constructor
            · rw [after]
              exact .inl ⟨used, confined.cleared.inside isCounted (by simpa using closes)⟩
            · intro address data ok member
              rw [← mem_programs, after] at member
              simp only [Bool.false_eq_true, if_false, programs_inside] at member
              contradiction
        | true =>
            rw [closes] at after
            constructor
            · rw [after]
              exact confined.cleared.closes (by simpa using closes)
                (by simpa using rewinds confined.receving closes)
            · intro address data ok member
              rw [← mem_programs, after, if_pos rfl, programs_closes] at member
              exact confined.inSlot slot member
  · have after := step_ignored gcm packet hardware (.inr closing)
    constructor
    · rw [after]
      exact .inr closing
    · intro address data ok member
      rw [after] at member
      contradiction

theorem Started.enclosed {mode : Mode} {start : Packet} {device begun : Device} {size : Nat}
    (started : Started mode start device begun) (fresh : Fresh device)
    (booted : device.running = none) (connected : device.connectionStatus = .connected)
    (nonempty : start.number 2 ≠ 0) (fits : mode.stored * (start.number 2).toNat ≤ size) :
    Enclosed mode begun.startPageAddress size begun := by
  obtain ⟨count, empty, _⟩ := fresh.untouched booted (.inr connected)
  have zero : begun.countPck = 0 := by rw [started.countPck, count]
  refine .inl ⟨0, confined_of_windowStart (by rw [started.running, booted])
    started.connectionStatus ?_ (by rwa [started.totalPck]) (by simp) (by simp [zero])
    (Nat.zero_le _) (by rw [started.staging]; exact empty)
    (by rw [started.staging]; exact fresh.small)⟩
  rw [zero, started.totalPck]
  exact UInt16.pos_iff_ne_zero.mpr nonempty

/-- A session whose image fits into its slot programs only the slot, if each window that is
rejected is rewound as a whole. -/
theorem session_staysInSlot (gcm : AesGcm) (flash : UInt32 → UInt64) (events : List Event)
    (mode : Mode) (start : Packet) (hardware : Hardware) (session : List Event)
    (alternating : Along (step gcm) Alternates (powerOn flash) events)
    (booted : (run gcm flash events).running = none)
    (connected : (run gcm flash events).connectionStatus = .connected)
    (isStart : startMode start = some mode) (isAdmitted : admitted hardware mode start = true)
    (nonempty : start.number 2 ≠ 0)
    (fits : mode.stored * (start.number 2).toNat ≤ slotSize (requestedApp start))
    (received : ∀ event ∈ session, ∃ packet hardware, event = .receive packet hardware) :
    let begun := step gcm (run gcm flash events) (.receive start hardware)
    Along (step gcm) (RewindsWhole gcm mode) begun session →
      Along (step gcm) (StaysInSlot gcm (requestedApp start)) begun session := by
  intro begun rewinds
  have fresh := fresh_run gcm flash events alternating
  have begins := started gcm booted connected isStart isAdmitted
  have initial := begins.enclosed fresh booted connected nonempty fits
  have keeps (device : Device) (event : Event)
      (enclosed : Enclosed mode begun.startPageAddress (slotSize (requestedApp start)) device)
      (allowed : RewindsWhole gcm mode device event ∧
        ∃ packet hardware, event = .receive packet hardware) :
      Enclosed mode begun.startPageAddress (slotSize (requestedApp start)) (step gcm device event) ∧
        StaysInSlot gcm (requestedApp start) device event := by
    obtain ⟨rewinds, packet, hardware, rfl⟩ := allowed
    exact enclosed_step begins.place enclosed rewinds
  exact (rewinds.and (along_of_forall received)).imp_of_invariant
    (fun device event enclosed allowed => (keeps device event enclosed allowed).1)
    (fun device event enclosed allowed => (keeps device event enclosed allowed).2) initial

theorem session_staysInSlot_single_packet :
    let gcm := AesGcm.ofTables [] []
    let start := Packet.ofBytes [0xbb, 1, 0, 1, 1] (by decide)
    let data := Packet.ofBytes
      [0xbb, 0, 0, 1, 2, 3, 4, 5, 6, 7, 8, 9, 10, 11, 12, 13, 14, 15, 16, 136] (by decide)
    let begun := step gcm (run gcm (fun _ => 0) [.connect]) (.receive start (.working 0))
    Along (step gcm) (StaysInSlot gcm .flashApp1) begun [.receive data (.working 0)] :=
  session_staysInSlot (.ofTables [] []) (fun _ => 0) [.connect] .raw
    (Packet.ofBytes [0xbb, 1, 0, 1, 1] (by decide)) (.working 0)
    [.receive (Packet.ofBytes [0xbb, 0, 0, 1, 2, 3, 4, 5, 6, 7, 8, 9, 10, 11, 12, 13, 14, 15, 16, 136]
      (by decide)) (.working 0)] (by decide +kernel) (by decide +kernel) (by decide +kernel)
    (by decide +kernel) (by decide +kernel) (by decide +kernel) (by decide +kernel) (by
      intro event member
      exact ⟨_, _, List.mem_singleton.mp member⟩)
    ⟨fun _ _ rejected => absurd rejected (by decide +kernel), trivial⟩

/-! A session of as many good packets as its START has announced. -/

def zeroPacket (mode : Mode) (number : Nat) : Packet :=
  match mode with
  | .raw => rawPacket number (List.replicate 16 0) (by simp)
  | .secure => .ofBytes (secureHeader number :: List.replicate 19 0) (by simp)

def zeroSession (mode : Mode) (count : Nat) : List Event :=
  (List.range count).map fun number => .receive (zeroPacket mode number) (.working 0)

theorem numBytes_zeroPacket (mode : Mode) (number : Nat) :
    (zeroPacket mode number).numBytes = 20 := by
  cases mode with
  | raw => exact numBytes_rawPacket (by simp)
  | secure => rfl

theorem accepts_zeroPacket {mode : Mode} {device : Device} :
    accepts mode (zeroPacket mode device.countPck.toNat) device = true := by
  cases mode with
  | raw => exact accepts_rawPacket (by simp) device.countPck.toNat_lt rfl
  | secure => exact accepts_secureHeader rfl

section Overrun

variable {gcm : AesGcm} {mode : Mode} {base : UInt32} {begun : Device}

theorem zeroSession_succ (mode : Mode) (count : Nat) :
    zeroSession mode (count + 1) =
      zeroSession mode count ++ [.receive (zeroPacket mode count) (.working 0)] := by
  simp [zeroSession, List.range_succ]

theorem rewindsWhole_good {device : Device} {packet : Packet} {hardware : Hardware}
    (works : FlashWorks hardware) (good : (device.nextAck && accepts mode packet device) = true) :
    RewindsWhole gcm mode device (.receive packet hardware) := by
  intro _ _ rejected
  rw [windowAccepted_works works, intake_nextAck, good] at rejected
  contradiction

theorem taking_zeroSession (initial : Taking gcm mode base [] [] begun) (count : Nat)
    (below : count < begun.totalPck.toNat) :
    let ended := runFrom (step gcm) begun (zeroSession mode count)
    (∃ taken, Taking gcm mode base (history (step gcm) begun (zeroSession mode count)) taken ended) ∧
      ended.countPck.toNat = count ∧ ended.totalPck = begun.totalPck ∧
      Along (step gcm) (RewindsWhole gcm mode) begun (zeroSession mode count) := by
  induction count with
  | zero => exact ⟨⟨[], initial⟩, initial.length.symm, rfl, trivial⟩
  | succ count ih =>
      obtain ⟨⟨taken, taking⟩, counted, total, rewinds⟩ := ih (by omega)
      have works := flashWorks_working 0
      have good := @accepts_zeroPacket mode (runFrom (step gcm) begun (zeroSession mode count))
      rw [counted] at good
      have next := taking.takes works (numBytes_zeroPacket mode count) good
      have more : (runFrom (step gcm) begun (zeroSession mode count)).countPck + 1 ≠
          (runFrom (step gcm) begun (zeroSession mode count)).totalPck := by
        intro last
        rw [total, ← UInt16.toNat_inj, UInt16.toNat_add, counted] at last
        have top := begun.totalPck.toNat_lt
        simp at last
        omega
      rw [if_neg more] at next
      obtain ⟨payloads, window, rfl, nextAck, uploading⟩ := taking
      have begun' : (runFrom (step gcm) begun (zeroSession mode count)).connectionStatus ≠
          .connected := by
        rw [uploading.receving]
        cases mode <;> simp [Mode.status]
      have frame := receive_frame gcm (zeroPacket mode count) (.working 0) begun'
      have length := next.length
      rw [zeroSession_succ, history_concat, runFrom_append]
      refine ⟨⟨_, next⟩, ?_, ?_, ?_⟩
      · rw [List.length_append, uploading.number nextAck, counted] at length
        exact length.symm
      · rw [← total]
        exact frame.2.2.1
      · exact (along_append ..).mpr ⟨rewinds,
          rewindsWhole_good works (by rw [nextAck, good]; rfl), trivial⟩

theorem not_inSlot_behind {app : FlashAppType} (slot : slotAddress app = some base) :
    ¬ InSlot app (base + 8 * UInt32.ofNat (slotSize app / 8)) := by
  rintro ⟨other, same, _, below⟩
  obtain rfl := Option.some.inj (slot.symm.trans same)
  have top := slot_top slot
  have whole := slotSize_whole app
  have toNat : (base + 8 * UInt32.ofNat (slotSize app / 8)).toNat = base.toNat + slotSize app := by
    simp
    omega
  omega

/-- If the announced image is longer than the slot, the session that delivers it programs
the double word behind the slot. -/
theorem overruns_zeroSession {app : FlashAppType} (slot : slotAddress app = some base)
    (initial : Taking gcm mode base [] [] begun)
    (tooLarge : slotSize app < mode.stored * begun.totalPck.toNat) :
    Along (step gcm) (RewindsWhole gcm mode) begun (zeroSession mode begun.totalPck.toNat) ∧
      ¬ Along (step gcm) (StaysInSlot gcm app) begun (zeroSession mode begun.totalPck.toNat) := by
  obtain ⟨count, total⟩ : ∃ count, begun.totalPck.toNat = count + 1 := by
    cases total : begun.totalPck.toNat with
    | zero => simp [total] at tooLarge
    | succ count => exact ⟨count, rfl⟩
  obtain ⟨⟨taken, taking⟩, counted, same, rewinds⟩ :=
    taking_zeroSession initial count (by omega)
  have works := flashWorks_working 0
  have good := @accepts_zeroPacket mode (runFrom (step gcm) begun (zeroSession mode count))
  rw [counted] at good
  have uploaded := taking.takes works (numBytes_zeroPacket mode count) good
  have last : (runFrom (step gcm) begun (zeroSession mode count)).countPck + 1 =
      (runFrom (step gcm) begun (zeroSession mode count)).totalPck := by
    have top := begun.totalPck.toNat_lt
    rw [same, ← UInt16.toNat_inj, UInt16.toNat_add, counted, total]
    simp
    omega
  rw [if_pos last] at uploaded
  have length := length_flatten_sized fun bytes member =>
    uploaded.sized bytes (List.mem_append_left _ member)
  have words : taken.length + 1 = begun.totalPck.toNat := by
    rw [taking.length, counted, total]
  rw [List.length_append, List.length_singleton, words] at length
  rw [total, zeroSession_succ]
  obtain ⟨_, _, rfl, nextAck, uploading⟩ := taking
  refine ⟨(along_append ..).mpr ⟨rewinds,
    rewindsWhole_good works (by rw [nextAck, good]; rfl), trivial⟩, fun stays => ?_⟩
  rw [along_iff_forall_history, history_concat] at stays
  have behind : Effect.program (base + 8 * UInt32.ofNat (slotSize app / 8)) _ true ∈
      programsOf base _ :=
    List.mem_map.mpr ⟨slotSize app / 8, List.mem_range.mpr (by
      rw [wordCount, length]
      omega), rfl⟩
  rw [← uploaded.programmed] at behind
  obtain ⟨entry, member, effect⟩ := List.mem_flatMap.mp behind
  exact not_inSlot_behind slot (stays entry member _ _ _ (mem_programs.mp effect))

end Overrun

/-- A raw START for 8200 packets of 16 bytes, 128 bytes more than the slot has, is admitted. -/
theorem overrun_after_admitted_start :
    let gcm := AesGcm.ofTables [] []
    let start := Packet.ofBytes [0xbb, 1, 0x20, 0x08, 0x28] (by decide)
    let begun := step gcm (run gcm (fun _ => 0) [.connect]) (.receive start (.working 0))
    admitted (.working 0) .raw start = true ∧ begun.connectionStatus = .recevingRawFw ∧
      ¬ Along (step gcm) (StaysInSlot gcm .flashApp1) begun (zeroSession .raw 8200) := by
  intro gcm start begun
  have begins : Started .raw start (run gcm (fun _ => 0) [.connect]) begun :=
    started gcm rfl rfl (by decide +kernel) (by decide +kernel)
  have fresh := fresh_run gcm (fun _ => 0) [.connect] ⟨rfl, trivial⟩
  have uploading := begins.uploading gcm fresh rfl rfl
    (show _ = some flashApp1Addr by decide +kernel) (by decide +kernel) rfl
  have total : begun.totalPck.toNat = 8200 := by rw [begins.totalPck]; decide +kernel
  have overruns := (overruns_zeroSession (show slotAddress .flashApp1 = _ from rfl)
    ⟨[], [], rfl, by rw [begins.nextAck]; rfl, uploading⟩ (by rw [total]; decide)).2
  rw [total] at overruns
  exact ⟨by decide +kernel, begins.connectionStatus, overruns⟩

end BleFwUpdate
