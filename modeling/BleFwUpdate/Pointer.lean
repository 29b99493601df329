import BleFwUpdate.Bounds

/-! `StartPageAddress` and `count_pck`: how far the flash pointer has moved when a window
has been answered. -/

namespace BleFwUpdate

open Transitions

def FlashWorks (hardware : Hardware) : Prop :=
  hardware.unlock = true ∧ ∀ sofar, hardware.program sofar = true

theorem flashWorks_working (timer : UInt16) : FlashWorks (.working timer) := ⟨rfl, fun _ => rfl⟩

theorem programmedCount_works {hardware : Hardware} (works : FlashWorks hardware)
    (left sofar : Nat) : programmedCount hardware left sofar = left := by
  induction left generalizing sofar with
  | zero => rfl
  | succ left ih => simp [programmedCount, works.2, ih]

theorem windowAccepted_works {hardware : Hardware} (works : FlashWorks hardware)
    (device : Device) : windowAccepted hardware device = device.nextAck := by
  simp [windowAccepted, writeOutcome, works.1, programmedCount_works works]

theorem windowWritten_works {hardware : Hardware} (works : FlashWorks hardware)
    (device : Device) :
    windowWritten hardware device =
      if device.nextAck then (device.staging.contBuff + 1).toUInt8.toNat else 0 := by
  simp [windowWritten, writtenCount, works.1, programmedCount_works works]

/-- The count with which the window of the given count began, if no window was ever cut. -/
def windowStart (mode : Mode) (count : UInt16) : Nat :=
  count.toNat - count.toNat % mode.window.toNat

theorem windowStart_le (mode : Mode) (count : UInt16) : windowStart mode count ≤ count.toNat :=
  Nat.sub_le _ _

theorem windowStart_mod (mode : Mode) (count : UInt16) :
    windowStart mode count % mode.window.toNat = 0 :=
  Nat.mod_eq_zero_of_dvd (Nat.dvd_sub_mod _)

theorem windowStart_succ {mode : Mode} {count : UInt16}
    (succ : (count + 1).toNat = count.toNat + 1)
    (advance : (count.toNat + 1) % mode.window.toNat = count.toNat % mode.window.toNat + 1) :
    windowStart mode (count + 1) = windowStart mode count := by
  rw [windowStart, windowStart, succ, advance]
  omega

theorem toNat_rewound {mode : Mode} {count : UInt16} (succ : (count + 1).toNat = count.toNat + 1)
    (whole : (count.toNat + 1) % mode.window.toNat = 0) :
    (count + 1 - mode.window).toNat = windowStart mode count := by
  have top := count.toNat_lt
  rw [UInt16.toNat_sub, succ, windowStart]
  cases mode <;>
    simp only [Mode.window, rawNumCumulativeAck, secureNumCumulativeAck, UInt16.reduceToNat]
      at whole ⊢ <;>
    omega

def RawData (event : Event) : Prop :=
  ∃ packet hardware, event = .receive packet hardware ∧ packet.numBytes = 20 ∧
    FlashWorks hardware

/-- The step that answers a raw window leaves the flash pointer where `count_pck` says. -/
def KeepsPlace (gcm : AesGcm) (base : UInt32) (device : Device) (event : Event) : Prop :=
  match event with
  | .receive packet _ =>
      device.connectionStatus = .recevingRawFw → closesWindow .raw packet device = true →
        (step gcm device event).startPageAddress - base =
          16 * (step gcm device event).countPck.toUInt32
  | _ => True

/-- A raw window is only rejected if it has all its ten packets. -/
def RejectsWhole (device : Device) (event : Event) : Prop :=
  match event with
  | .receive packet _ =>
      device.connectionStatus = .recevingRawFw → closesWindow .raw packet device = true →
        (device.nextAck && accepts .raw packet device) = false →
          (device.countPck + 1) % rawNumCumulativeAck = 0
  | _ => True

instance (device : Device) (event : Event) : Decidable (RejectsWhole device event) :=
  match event with
  | .receive _ _ => inferInstanceAs (Decidable (_ → _ → _ → _))
  | .connect => .isTrue trivial
  | .disconnect _ => .isTrue trivial

/-- A raw session before its end: the flash pointer stands where the open window began, and
the buffer holds the packets of that window. -/
structure RawOpen (base : UInt32) (device : Device) : Prop where
  booted : device.running = none
  receving : device.connectionStatus = .recevingRawFw
  below : device.countPck < device.totalPck
  place : device.startPageAddress = base + 16 * UInt32.ofNat (windowStart .raw device.countPck)
  buffer : device.nextAck = true →
    (device.staging.contBuff + 1).toNat = 2 * (device.countPck.toNat % 10)
  small : device.staging.bytePos.toNat < 8

def Tracked (base : UInt32) (device : Device) : Prop :=
  RawOpen base device ∨ device.connectionStatus = .closingConnection

theorem contBuff_rawPacket {gcm : AesGcm} {hardware : Hardware} {packet : Packet}
    {device : Device} (full : packet.numBytes = 20) (small : device.staging.bytePos.toNat < 8)
    (isAccepted : accepts .raw packet device = true) :
    (intake gcm hardware .raw packet device).staging.contBuff = device.staging.contBuff + 2 := by
  have length : (storedBytes gcm hardware .raw packet device).length = 16 := by
    simp [storedBytes, isAccepted, payload, full]
  rw [intake_staging, stageBytes_contBuff _ _ small, length]
  have two : (device.staging.bytePos.toNat + 16 + 7) / 8 - (device.staging.bytePos.toNat + 7) / 8
      = 2 := by omega
  rw [two]
  rfl

theorem toNat_succ_of_lt {count total : UInt16} (below : count < total) :
    (count + 1).toNat = count.toNat + 1 := by
  have bound := total.toNat_lt
  have below := UInt16.lt_iff_toNat_lt.mp below
  rw [UInt16.toNat_add, UInt16.toNat_one]
  exact Nat.mod_eq_of_lt (by omega)

theorem closesWindow_raw_iff {packet : Packet} {device : Device} :
    closesWindow .raw packet device = true ↔
      (device.countPck + 1).toNat % 10 = 0 ∨ device.countPck + 1 = device.totalPck :=
  closesWindow_iff rfl

theorem address_advance (base : UInt32) (start count : Nat) :
    base + 16 * UInt32.ofNat start + 8 * UInt32.ofNat (2 * count) =
      base + 16 * UInt32.ofNat (start + count) := by
  have double : (8 : UInt32) * UInt32.ofNat (2 * count) = 16 * UInt32.ofNat count := by
    rw [UInt32.ofNat_mul, ← UInt32.mul_assoc]
    rfl
  rw [double, UInt32.ofNat_add, UInt32.mul_add, UInt32.add_assoc]

theorem address_eq_iff (base : UInt32) {start : Nat} (small : start < 65536) (count : UInt16) :
    base + 16 * UInt32.ofNat start - base = 16 * count.toUInt32 ↔ start = count.toNat := by
  have bound := count.toNat_lt
  rw [UInt32.add_comm, UInt32.add_sub_cancel, ← UInt32.toNat_inj]
  simp
  omega

section RawWindow

variable (gcm : AesGcm) {base : UInt32} {hardware : Hardware} {packet : Packet} {device : Device}

theorem RawOpen.cleared (rawOpen : RawOpen base device) : RawOpen base device.cleared :=
  ⟨rawOpen.booted, rawOpen.receving, rawOpen.below, rawOpen.place, rawOpen.buffer, rawOpen.small⟩

theorem RawOpen.toNat_succ (rawOpen : RawOpen base device) :
    (device.countPck + 1).toNat = device.countPck.toNat + 1 ∧
      device.countPck.toNat < device.totalPck.toNat ∧ device.totalPck.toNat < 65536 :=
  ⟨toNat_succ_of_lt rawOpen.below, UInt16.lt_iff_toNat_lt.mp rawOpen.below,
    device.totalPck.toNat_lt⟩

theorem RawOpen.accepted (rawOpen : RawOpen base device) (works : FlashWorks hardware)
    (full : packet.numBytes = 20)
    (good : (device.nextAck && accepts .raw packet device) = true) :
    (closeWindow gcm hardware .raw (intake gcm hardware .raw packet device)).startPageAddress =
      base + 16 * UInt32.ofNat (device.countPck.toNat + 1) := by
  simp only [Bool.and_eq_true] at good
  have count := rawOpen.buffer good.1
  have words : ((intake gcm hardware .raw packet device).staging.contBuff + 1).toUInt8.toNat =
      2 * (device.countPck.toNat % 10 + 1) := by
    rw [contBuff_rawPacket full rawOpen.small good.2]
    simp only [UInt16.toNat_toUInt8, UInt16.toNat_add, UInt16.toNat_one, UInt16.reduceToNat]
      at count ⊢
    omega
  have start : windowStart .raw device.countPck + (device.countPck.toNat % 10 + 1) =
      device.countPck.toNat + 1 := by
    simp only [windowStart, Mode.window, rawNumCumulativeAck, UInt16.reduceToNat]
    omega
  rw [closeWindow_startPageAddress, windowWritten_works works, intake_nextAck, good.1, good.2,
    words, intake_startPageAddress, rawOpen.place, Bool.and_self, if_pos rfl, address_advance,
    start]

theorem rawWindow_rejected (hardware : Hardware)
    (bad : (device.nextAck && accepts .raw packet device) = false) :
    (closeWindow gcm hardware .raw (intake gcm hardware .raw packet device)).startPageAddress =
      device.startPageAddress ∧
    (closeWindow gcm hardware .raw (intake gcm hardware .raw packet device)).countPck =
      device.countPck + 1 - rawNumCumulativeAck := by
  simp [windowWritten, windowAccepted, bad, Mode.window]

theorem rawWindow_counts (works : FlashWorks hardware)
    (good : (device.nextAck && accepts .raw packet device) = true) :
    (closeWindow gcm hardware .raw (intake gcm hardware .raw packet device)).countPck =
      device.countPck + 1 := by
  simp [windowAccepted_works works, good]

theorem RawOpen.keepsPlace_iff (rawOpen : RawOpen base device) (works : FlashWorks hardware)
    (full : packet.numBytes = 20) :
    (closeWindow gcm hardware .raw (intake gcm hardware .raw packet device)).startPageAddress -
        base =
      16 * (closeWindow gcm hardware .raw
        (intake gcm hardware .raw packet device)).countPck.toUInt32 ↔
    ((device.nextAck && accepts .raw packet device) = false →
      (device.countPck + 1) % rawNumCumulativeAck = 0) := by
  obtain ⟨succ, below, top⟩ := rawOpen.toNat_succ
  cases good : device.nextAck && accepts .raw packet device with
  | true =>
      rw [rawOpen.accepted gcm works full good, rawWindow_counts gcm works good,
        address_eq_iff base (by omega), succ]
      simp
  | false =>
      obtain ⟨stays, rewinds⟩ := rawWindow_rejected gcm hardware good
      have start : windowStart .raw device.countPck < 65536 := by
        simp only [windowStart]
        omega
      rw [stays, rewinds, rawOpen.place, address_eq_iff base start]
      simp only [true_implies, windowStart, Mode.window, rawNumCumulativeAck, UInt16.toNat_sub,
        ← UInt16.toNat_inj, UInt16.toNat_mod, succ, UInt16.reduceToNat, UInt16.toNat_zero]
      omega

theorem RawOpen.inside (rawOpen : RawOpen base device) (full : packet.numBytes = 20)
    (isInside : closesWindow .raw packet device = false) :
    RawOpen base (intake gcm hardware .raw packet device) := by
  obtain ⟨succ, below, top⟩ := rawOpen.toNat_succ
  rw [← Bool.not_eq_true, closesWindow_raw_iff, ← UInt16.toNat_inj, succ, not_or] at isInside
  refine ⟨rawOpen.booted, rawOpen.receving, ?_, ?_, ?_, stageBytes_small _ rawOpen.small⟩
  · rw [UInt16.lt_iff_toNat_lt, intake_countPck, intake_totalPck, succ]
    omega
  · rw [intake_startPageAddress, rawOpen.place, windowStart, windowStart, intake_countPck, succ]
    congr 3
    simp only [Mode.window, rawNumCumulativeAck, UInt16.reduceToNat]
    omega
  · intro good
    simp only [intake_nextAck, Bool.and_eq_true] at good
    have count := rawOpen.buffer good.1
    rw [contBuff_rawPacket full rawOpen.small good.2, intake_countPck, succ]
    simp only [UInt16.toNat_add, UInt16.toNat_one, UInt16.reduceToNat] at count ⊢
    omega

theorem rawOpen_of_windowStart {after : Device}
    (booted : after.running = none) (receving : after.connectionStatus = .recevingRawFw)
    (below : after.countPck < after.totalPck)
    (aligned : after.countPck.toNat % 10 = 0)
    (place : after.startPageAddress = base + 16 * UInt32.ofNat after.countPck.toNat)
    (empty : after.staging.contBuff = 0xFFFF) (small : after.staging.bytePos.toNat < 8) :
    RawOpen base after := by
  refine ⟨booted, receving, below, ?_, ?_, small⟩
  · rw [place, windowStart]
    congr 3
    simp only [Mode.window, rawNumCumulativeAck, UInt16.reduceToNat]
    omega
  · intro _
    rw [aligned, empty]
    rfl

theorem RawOpen.closes (rawOpen : RawOpen base device) (works : FlashWorks hardware)
    (full : packet.numBytes = 20) (closes : closesWindow .raw packet device = true)
    (whole : (device.nextAck && accepts .raw packet device) = false →
      (device.countPck + 1) % rawNumCumulativeAck = 0) :
    Tracked base (closeWindow gcm hardware .raw (intake gcm hardware .raw packet device)) := by
  obtain ⟨succ, below, top⟩ := rawOpen.toNat_succ
  have status := closeWindow_connectionStatus gcm hardware .raw
    (intake gcm hardware .raw packet device)
  rw [intake_connectionStatus, intake_totalPck] at status
  have booted : (closeWindow gcm hardware .raw
      (intake gcm hardware .raw packet device)).running = none := by
    simpa using rawOpen.booted
  have small : (closeWindow gcm hardware .raw
      (intake gcm hardware .raw packet device)).staging.bytePos.toNat < 8 := by
    simpa using stageBytes_small _ rawOpen.small
  cases good : device.nextAck && accepts .raw packet device with
  | true =>
      have counts := rawWindow_counts gcm works good
      by_cases last : device.countPck + 1 = device.totalPck
      · right
        rw [status, counts, if_pos last]
      · have aligned := (closesWindow_raw_iff.mp closes).resolve_right last
        rw [counts, if_neg last, rawOpen.receving] at status
        have place := rawOpen.accepted gcm works full good
        rw [← succ, ← counts] at place
        have remaining : (closeWindow gcm hardware .raw
            (intake gcm hardware .raw packet device)).countPck <
            (closeWindow gcm hardware .raw (intake gcm hardware .raw packet device)).totalPck := by
          rw [← UInt16.toNat_inj] at last
          rw [UInt16.lt_iff_toNat_lt, counts, closeWindow_totalPck, intake_totalPck]
          omega
        exact .inl (rawOpen_of_windowStart booted status remaining
          (by rw [counts]; exact aligned) place (by simp) small)
  | false =>
      obtain ⟨stays, rewinds⟩ := rawWindow_rejected gcm hardware good
      have aligned := whole good
      rw [← UInt16.toNat_inj, UInt16.toNat_mod, succ] at aligned
      have counts : (device.countPck + 1 - rawNumCumulativeAck).toNat =
          windowStart .raw device.countPck := @toNat_rewound .raw _ succ aligned
      have start := windowStart_le .raw device.countPck
      have incomplete : device.countPck + 1 - rawNumCumulativeAck ≠ device.totalPck := by
        rw [← UInt16.toNat_inj.ne, counts]
        omega
      rw [rewinds, if_neg incomplete, rawOpen.receving] at status
      have place := rawOpen.place
      rw [← counts, ← rewinds, ← stays] at place
      have remaining : (closeWindow gcm hardware .raw
          (intake gcm hardware .raw packet device)).countPck <
          (closeWindow gcm hardware .raw (intake gcm hardware .raw packet device)).totalPck := by
        rw [UInt16.lt_iff_toNat_lt, rewinds, counts, closeWindow_totalPck, intake_totalPck]
        omega
      exact .inl (rawOpen_of_windowStart booted status remaining
        (by rw [rewinds, counts]; exact windowStart_mod .raw _) place (by simp) small)

end RawWindow

theorem step_rawPacket {gcm : AesGcm} {base : UInt32} {hardware : Hardware} {packet : Packet}
    {device : Device} (rawOpen : RawOpen base device) :
    step gcm device (.receive packet hardware) =
      if closesWindow .raw packet device then
        closeWindow gcm hardware .raw (intake gcm hardware .raw packet device.cleared)
      else intake gcm hardware .raw packet device.cleared :=
  step_counted gcm hardware rawOpen.booted rawOpen.receving rfl

theorem keepsPlace_iff {gcm : AesGcm} {base : UInt32} {device : Device} {event : Event}
    (data : RawData event) (tracked : Tracked base device) :
    KeepsPlace gcm base device event ↔ RejectsWhole device event := by
  obtain ⟨packet, hardware, rfl, full, works⟩ := data
  rcases tracked with rawOpen | closing
  · refine forall_congr' fun _ => forall_congr' fun closes => ?_
    rw [step_rawPacket rawOpen, if_pos closes, rawOpen.cleared.keepsPlace_iff gcm works full]
    simp
  · simp [KeepsPlace, RejectsWhole, closing]

theorem tracked_step {gcm : AesGcm} {base : UInt32} {device : Device} {event : Event}
    (data : RawData event) (tracked : Tracked base device)
    (whole : RejectsWhole device event) : Tracked base (step gcm device event) := by
  obtain ⟨packet, hardware, rfl, full, works⟩ := data
  rcases tracked with rawOpen | closing
  · rw [step_rawPacket rawOpen]
    split
    · rename_i closes
      exact rawOpen.cleared.closes gcm works full (by simpa using closes)
        (by simpa using whole rawOpen.receving closes)
    · rename_i inside
      exact .inl (rawOpen.cleared.inside gcm full (by simpa using inside))
  · rw [step_ignored gcm packet hardware (.inr closing)]
    exact .inr closing

end BleFwUpdate
