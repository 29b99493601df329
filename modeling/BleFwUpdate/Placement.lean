import BleFwUpdate.Pointer
import BleFwUpdate.Programs

/-! What has been programmed when a window ends: the payloads of the packets, in order and
once each. -/

namespace BleFwUpdate

open Transitions LittleEndian

def Delivered (gcm : AesGcm) (mode : Mode) (log : List (Device × Event)) (number : Nat)
    (bytes : List UInt8) : Prop :=
  ∃ device packet hardware, (device, Event.receive packet hardware) ∈ log ∧
    accepts mode packet device = true ∧ device.countPck.toNat = number ∧
    payload gcm hardware mode packet device = bytes

theorem Delivered.concat {gcm : AesGcm} {mode : Mode} {log : List (Device × Event)}
    {number : Nat} {bytes : List UInt8} (delivered : Delivered gcm mode log number bytes)
    (entry : Device × Event) : Delivered gcm mode (log ++ [entry]) number bytes := by
  obtain ⟨device, packet, hardware, member, rest⟩ := delivered
  exact ⟨device, packet, hardware, List.mem_append_left _ member, rest⟩

/-- A data packet of 20 bytes, with a flash that works. A packet that is not accepted is only
allowed for in raw mode, and not in the last window if that is cut short. -/
def Advances (mode : Mode) (device : Device) (event : Event) : Prop :=
  ∃ packet hardware, event = .receive packet hardware ∧ packet.numBytes = 20 ∧
    FlashWorks hardware ∧
    ((device.nextAck && accepts mode packet device) = false → device.connectionStatus = mode.status →
      mode = .raw ∧ (closesWindow mode packet device = true →
        (device.countPck + 1).toNat % 10 = 0))

/-- The packets of the finished windows have been programmed, and those of the open window
have been taken. -/
structure Filled (gcm : AesGcm) (mode : Mode) (base : UInt32) (log : List (Device × Event))
    (payloads window : List (List UInt8)) (device : Device) : Prop where
  delivered : ∀ number bytes, (payloads ++ window)[number]? = some bytes →
    Delivered gcm mode log number bytes
  sized : ∀ bytes ∈ payloads ++ window, bytes.length = mode.stored
  programmed : programmed gcm log = programsOf base payloads.flatten
  place : device.startPageAddress = base + 8 * UInt32.ofNat (wordCount payloads.flatten)

/-- An upload on its way. The packets of a window that is going to be rejected do not count. -/
structure Uploading (gcm : AesGcm) (mode : Mode) (base : UInt32) (log : List (Device × Event))
    (payloads window : List (List UInt8)) (device : Device) : Prop
    extends Filled gcm mode base log payloads window device where
  booted : device.running = none
  receving : device.connectionStatus = mode.status
  below : device.countPck < device.totalPck
  begun : payloads.length = windowStart mode device.countPck
  pending : device.nextAck = true →
    window.length = device.countPck.toNat % mode.window.toNat ∧ Staged window.flatten device.staging
  aligned : device.staging.bytePos.toNat = window.flatten.length % 8

structure Uploaded (gcm : AesGcm) (mode : Mode) (base : UInt32) (log : List (Device × Event))
    (payloads : List (List UInt8)) (device : Device) : Prop
    extends Filled gcm mode base log payloads [] device where
  closing : device.connectionStatus = .closingConnection
  complete : device.countPck = device.totalPck
  length : payloads.length = device.totalPck.toNat

def Placed (gcm : AesGcm) (mode : Mode) (base : UInt32) (log : List (Device × Event))
    (device : Device) : Prop :=
  (∃ payloads window, Uploading gcm mode base log payloads window device) ∨
    ∃ payloads, Uploaded gcm mode base log payloads device

theorem length_flatten_sized {size : Nat} {payloads : List (List UInt8)}
    (sized : ∀ bytes ∈ payloads, bytes.length = size) :
    payloads.flatten.length = size * payloads.length := by
  induction payloads with
  | nil => simp
  | cons first rest ih =>
      have here := sized first (by simp)
      have later := ih fun bytes member => sized bytes (List.mem_cons_of_mem _ member)
      rw [List.flatten_cons, List.length_append, here, later, List.length_cons, Nat.mul_succ,
        Nat.add_comm]

theorem windowStart_words (mode : Mode) (count : UInt16) :
    ∃ words, mode.stored * windowStart mode count = 8 * words := by
  cases mode with
  | raw => exact ⟨2 * windowStart .raw count, by simp only [Mode.stored]; omega⟩
  | secure =>
      refine ⟨30 * (count.toNat / 16), ?_⟩
      simp only [Mode.stored, windowStart, Mode.window, secureNumCumulativeAck, UInt16.reduceToNat]
      omega

theorem length_payload (gcm : AesGcm) (hardware : Hardware) (mode : Mode) {packet : Packet}
    (full : packet.numBytes = 20) (device : Device) :
    (payload gcm hardware mode packet device).length = mode.stored := by
  cases mode <;> simp [payload, Packet.length_slice, Mode.stored, full]

section Advance

variable {gcm : AesGcm} {mode : Mode} {base : UInt32} {log : List (Device × Event)}
  {payloads window : List (List UInt8)} {hardware : Hardware} {packet : Packet} {device : Device}

theorem Filled.delivered_concat (filled : Filled gcm mode base log payloads window device)
    (good : accepts mode packet device = true)
    (number : device.countPck.toNat = (payloads ++ window).length) (index : Nat)
    (bytes : List UInt8)
    (taken : (payloads ++ (window ++ [payload gcm hardware mode packet device]))[index]? =
      some bytes) :
    Delivered gcm mode (log ++ [(device, .receive packet hardware)]) index bytes := by
  rw [← List.append_assoc] at taken
  rcases Nat.lt_or_ge index (payloads ++ window).length with earlier | last
  · rw [List.getElem?_append_left earlier] at taken
    exact (filled.delivered index bytes taken).concat _
  · rw [List.getElem?_append_right last, List.getElem?_singleton] at taken
    split at taken
    · rename_i first
      injection taken with same
      exact ⟨device, packet, hardware, by simp, good, by omega, same⟩
    · contradiction

theorem Filled.sized_concat (filled : Filled gcm mode base log payloads window device)
    (full : packet.numBytes = 20) :
    ∀ bytes ∈ payloads ++ (window ++ [payload gcm hardware mode packet device]),
      bytes.length = mode.stored := by
  intro bytes member
  rw [← List.append_assoc] at member
  rcases List.mem_append.mp member with member | member
  · exact filled.sized bytes member
  · rw [List.mem_singleton.mp member]
    exact length_payload gcm hardware mode full device

theorem Filled.forget (filled : Filled gcm mode base log payloads window device)
    (entry : Device × Event) {after : Device}
    (silent : programs (step gcm entry.1 entry.2).effects = [])
    (place : after.startPageAddress = device.startPageAddress) :
    Filled gcm mode base (log ++ [entry]) payloads [] after := by
  constructor
  · intro index bytes taken
    rw [List.append_nil] at taken
    have before : (payloads ++ window)[index]? = some bytes := by
      rw [List.getElem?_append_left (List.getElem?_eq_some_iff.mp taken).1, taken]
    exact (filled.delivered index bytes before).concat entry
  · intro bytes member
    rw [List.append_nil] at member
    exact filled.sized bytes (List.mem_append_left _ member)
  · rw [programmed_concat, silent, List.append_nil, filled.programmed]
  · rw [place, filled.place]

theorem Uploading.number (uploading : Uploading gcm mode base log payloads window device)
    (good : device.nextAck = true) : (payloads ++ window).length = device.countPck.toNat := by
  rw [List.length_append, uploading.begun, (uploading.pending good).1, windowStart]
  have part := Nat.mod_le device.countPck.toNat mode.window.toNat
  omega

theorem Uploading.length_window (uploading : Uploading gcm mode base log payloads window device) :
    window.flatten.length = mode.stored * window.length :=
  length_flatten_sized fun bytes member => uploading.sized bytes (List.mem_append_right _ member)

theorem Uploading.staged (uploading : Uploading gcm mode base log payloads window device)
    (hardware : Hardware) (full : packet.numBytes = 20) (nextAck : device.nextAck = true)
    (good : accepts mode packet device = true) :
    Staged (window ++ [payload gcm hardware mode packet device]).flatten
        (intake gcm hardware mode packet device).staging ∧
      (window ++ [payload gcm hardware mode packet device]).flatten.length =
        mode.stored * (device.countPck.toNat % mode.window.toNat + 1) ∧
      (window ++ [payload gcm hardware mode packet device]).flatten.length ≤ 240 := by
  obtain ⟨count, staged⟩ := uploading.pending nextAck
  have size := length_payload gcm hardware mode full device
  have length := uploading.length_window
  rw [count] at length
  have bound : device.countPck.toNat % mode.window.toNat < mode.window.toNat :=
    Nat.mod_lt _ (by cases mode <;> decide)
  have top : mode.stored * (device.countPck.toNat % mode.window.toNat + 1) ≤ 240 := by
    cases mode <;>
      simp only [Mode.stored, Mode.window, rawNumCumulativeAck, secureNumCumulativeAck,
        UInt16.reduceToNat] at bound ⊢ <;> omega
  have total : (window ++ [payload gcm hardware mode packet device]).flatten.length =
      mode.stored * (device.countPck.toNat % mode.window.toNat + 1) := by
    rw [List.flatten_append, List.length_append, length, List.flatten_singleton, size, Nat.mul_succ]
  refine ⟨?_, total, by omega⟩
  rw [List.flatten_append, List.flatten_singleton, intake_staging, storedBytes, if_pos good]
  refine stageBytes_aligned _ staged uploading.aligned ?_
  rw [Nat.mul_succ] at top
  omega

theorem Uploading.bytePos (uploading : Uploading gcm mode base log payloads window device) :
    device.staging.bytePos.toNat < 8 := by
  rw [uploading.aligned]
  exact Nat.mod_lt _ (by decide)

theorem windowEffects_staged {bytes : List UInt8} (works : FlashWorks hardware)
    (staged : Staged bytes device.staging) (short : bytes.length ≤ 240)
    (nextAck : device.nextAck = true) :
    windowEffects hardware device = programsOf device.startPageAddress bytes ∧
      windowWritten hardware device = wordCount bytes := by
  have words : (device.staging.contBuff + 1).toUInt8.toNat = wordCount bytes := by
    have count := staged.count
    simp only [wordCount] at count ⊢
    rw [UInt16.toNat_toUInt8, count]
    omega
  constructor
  · rw [windowEffects, if_pos nextAck, writeEffects, works.1, Bool.or_true, if_pos rfl, words,
      programEffects_eq, programmedCount_works works, if_neg (Nat.lt_irrefl _), List.append_nil,
      programsOf]
    apply List.map_congr_left
    intro index member
    rw [Nat.zero_add, staged.words index (List.mem_range.mp member)]
  · rw [windowWritten_works works, if_pos nextAck, words]

theorem Uploading.cleared (uploading : Uploading gcm mode base log payloads window device) :
    Uploading gcm mode base log payloads window device.cleared where
  delivered := uploading.delivered
  sized := uploading.sized
  programmed := uploading.programmed
  place := uploading.place
  booted := uploading.booted
  receving := uploading.receving
  below := uploading.below
  begun := uploading.begun
  pending nextAck := ⟨(uploading.pending nextAck).1, (uploading.pending nextAck).2.cleared⟩
  aligned := uploading.aligned

theorem Uploading.toNat_succ (uploading : Uploading gcm mode base log payloads window device) :
    (device.countPck + 1).toNat = device.countPck.toNat + 1 ∧
      device.countPck.toNat < device.totalPck.toNat ∧ device.totalPck.toNat < 65536 :=
  ⟨toNat_succ_of_lt uploading.below, UInt16.lt_iff_toNat_lt.mp uploading.below,
    device.totalPck.toNat_lt⟩

theorem Uploading.inside_good (uploading : Uploading gcm mode base log payloads window device)
    (full : packet.numBytes = 20) (nextAck : device.nextAck = true)
    (good : accepts mode packet device = true)
    (inside : closesWindow mode packet device = false) :
    Uploading gcm mode base (log ++ [(device, .receive packet hardware)]) payloads
      (window ++ [payload gcm hardware mode packet device])
      (step gcm device (.receive packet hardware)) := by
  have isCounted := counted_of_accepts good
  have after : step gcm device (.receive packet hardware) =
      intake gcm hardware mode packet device.cleared := by
    rw [step_counted gcm hardware uploading.booted uploading.receving isCounted, inside]
    rfl
  have silent : programs (step gcm device (.receive packet hardware)).effects = [] := by
    rw [after, programs_inside]
  obtain ⟨succ, below, _⟩ := uploading.toNat_succ
  have advance := window_advance isCounted inside
  rw [UInt16.toNat_mod, UInt16.toNat_mod, succ] at advance
  have going := mt (closesWindow_iff isCounted).mpr (by simpa using inside)
  rw [not_or, ← UInt16.toNat_inj, succ] at going
  obtain ⟨staged, length, _⟩ := uploading.cleared.staged hardware full nextAck
    (by simpa using good)
  rw [payload_cleared] at staged length
  rw [after]
  refine ⟨⟨uploading.delivered_concat good (uploading.number nextAck).symm,
    uploading.sized_concat full, ?_, uploading.place⟩, uploading.booted, uploading.receving, ?_, ?_,
    fun _ => ⟨?_, staged⟩, ?_⟩
  · rw [programmed_concat, silent, List.append_nil, uploading.programmed]
  · rw [UInt16.lt_iff_toNat_lt, intake_countPck, intake_totalPck, cleared_countPck,
      cleared_totalPck, succ]
    omega
  · rw [uploading.begun, intake_countPck, cleared_countPck, windowStart_succ succ advance]
  · rw [intake_countPck, cleared_countPck, succ, advance, List.length_append,
      (uploading.pending nextAck).1]
    rfl
  · apply staged.position
    intro none
    rw [none] at length
    cases mode <;> simp [Mode.stored] at length

theorem Uploading.bytePos_raw (uploading : Uploading gcm .raw base log payloads window device)
    (full : packet.numBytes = 20) :
    (intake gcm hardware .raw packet device).staging.bytePos.toNat = 0 := by
  have length := uploading.length_window
  rw [intake_staging, stageBytes_bytePos _ _ uploading.bytePos, uploading.aligned, length,
    storedBytes]
  split
  · rw [length_payload gcm hardware .raw full device]
    simp only [Mode.stored]
    omega
  · simp only [Mode.stored, List.length_nil]
    omega

theorem Uploading.inside_bad (uploading : Uploading gcm .raw base log payloads window device)
    (full : packet.numBytes = 20) (bad : (device.nextAck && accepts .raw packet device) = false)
    (inside : closesWindow .raw packet device = false) :
    Uploading gcm .raw base (log ++ [(device, .receive packet hardware)]) payloads []
      (step gcm device (.receive packet hardware)) := by
  have after : step gcm device (.receive packet hardware) =
      intake gcm hardware .raw packet device.cleared := by
    rw [step_counted gcm hardware uploading.booted uploading.receving rfl, inside]
    rfl
  have silent : programs (step gcm device (.receive packet hardware)).effects = [] := by
    rw [after, programs_inside]
  obtain ⟨succ, below, _⟩ := uploading.toNat_succ
  have advance := window_advance (show counted .raw packet = true from rfl) inside
  rw [UInt16.toNat_mod, UInt16.toNat_mod, succ] at advance
  have going := mt (closesWindow_iff (show counted .raw packet = true from rfl)).mpr
    (by simpa using inside)
  rw [not_or, ← UInt16.toNat_inj, succ] at going
  rw [after]
  refine ⟨uploading.forget (device, .receive packet hardware) silent rfl, uploading.booted,
    uploading.receving, ?_, ?_, ?_, ?_⟩
  · rw [UInt16.lt_iff_toNat_lt, intake_countPck, intake_totalPck, cleared_countPck,
      cleared_totalPck, succ]
    omega
  · rw [uploading.begun, intake_countPck, cleared_countPck, windowStart_succ succ advance]
  · intro nextAck
    rw [intake_nextAck, cleared_nextAck, accepts_cleared, bad] at nextAck
    contradiction
  · exact uploading.cleared.bytePos_raw full

theorem Uploading.closes_bad (uploading : Uploading gcm .raw base log payloads window device)
    (full : packet.numBytes = 20) (bad : (device.nextAck && accepts .raw packet device) = false)
    (closes : closesWindow .raw packet device = true)
    (whole : (device.countPck + 1).toNat % 10 = 0) :
    Uploading gcm .raw base (log ++ [(device, .receive packet hardware)]) payloads []
      (step gcm device (.receive packet hardware)) := by
  have after : step gcm device (.receive packet hardware) =
      closeWindow gcm hardware .raw (intake gcm hardware .raw packet device.cleared) := by
    rw [step_counted gcm hardware uploading.booted uploading.receving rfl, closes]
    rfl
  have silent : programs (step gcm device (.receive packet hardware)).effects = [] := by
    rw [after, programs_closes, windowEffects, intake_nextAck, bad]
    rfl
  obtain ⟨succ, below, top⟩ := uploading.toNat_succ
  have badClear : (device.cleared.nextAck && accepts .raw packet device.cleared) = false := by
    simpa using bad
  obtain ⟨stays, rewinds⟩ := rawWindow_rejected gcm hardware badClear
  rw [succ] at whole
  have counts : (device.countPck + 1 - rawNumCumulativeAck).toNat =
      windowStart .raw device.countPck := @toNat_rewound .raw _ succ whole
  have start := windowStart_le .raw device.countPck
  have begins := windowStart_mod .raw device.countPck
  have incomplete : device.countPck + 1 - rawNumCumulativeAck ≠ device.totalPck := by
    rw [← UInt16.toNat_inj.ne, counts]
    omega
  rw [cleared_countPck] at rewinds
  have aligned : (closeWindow gcm hardware .raw
      (intake gcm hardware .raw packet device.cleared)).staging.bytePos.toNat = 0 := by
    rw [closeWindow_staging]
    exact uploading.cleared.bytePos_raw full
  rw [after]
  refine ⟨uploading.forget (device, .receive packet hardware) silent stays, ?_, ?_, ?_, ?_, ?_, ?_⟩
  · simpa using uploading.booted
  · rw [closeWindow_connectionStatus, rewinds, intake_totalPck, cleared_totalPck,
      if_neg incomplete]
    exact uploading.receving
  · rw [UInt16.lt_iff_toNat_lt, rewinds, counts, closeWindow_totalPck, intake_totalPck,
      cleared_totalPck]
    omega
  · rw [uploading.begun, rewinds]
    symm
    rw [windowStart, counts, begins, Nat.sub_zero]
  · intro _
    rw [rewinds, counts, begins]
    exact ⟨rfl, staged_nil (by simp) (by rw [aligned]; decide)⟩
  · exact aligned

theorem Uploading.closes_filled (uploading : Uploading gcm mode base log payloads window device)
    (works : FlashWorks hardware) (full : packet.numBytes = 20) (nextAck : device.nextAck = true)
    (good : accepts mode packet device = true) (closes : closesWindow mode packet device = true) :
    Filled gcm mode base (log ++ [(device, .receive packet hardware)])
      (payloads ++ (window ++ [payload gcm hardware mode packet device])) []
      (step gcm device (.receive packet hardware)) := by
  obtain ⟨staged, _, short⟩ := uploading.staged hardware full nextAck good
  obtain ⟨stagedClear, _, _⟩ := uploading.cleared.staged hardware full nextAck
    (by simpa using good)
  rw [payload_cleared] at stagedClear
  have after : step gcm device (.receive packet hardware) =
      closeWindow gcm hardware mode (intake gcm hardware mode packet device.cleared) := by
    rw [step_counted gcm hardware uploading.booted uploading.receving (counted_of_accepts good),
      closes]
    rfl
  obtain ⟨effects, _⟩ := windowEffects_staged works staged short (by simp [nextAck, good])
  obtain ⟨_, written⟩ := windowEffects_staged works stagedClear short (by simp [nextAck, good])
  obtain ⟨words, whole⟩ := windowStart_words mode device.countPck
  have split : (payloads ++ (window ++ [payload gcm hardware mode packet device])).flatten =
      payloads.flatten ++ (window ++ [payload gcm hardware mode packet device]).flatten :=
    List.flatten_append ..
  have length : payloads.flatten.length = 8 * words := by
    rw [length_flatten_sized fun bytes member => uploading.sized bytes
      (List.mem_append_left _ member), uploading.begun, whole]
  constructor
  · intro index bytes taken
    rw [List.append_nil] at taken
    exact uploading.delivered_concat good (uploading.number nextAck).symm index bytes taken
  · intro bytes member
    rw [List.append_nil] at member
    exact uploading.sized_concat full bytes member
  · rw [programmed_concat, after, programs_closes, effects, uploading.programmed,
      intake_startPageAddress, uploading.place, split,
      ← programsOf_append base payloads.flatten _ words length]
  · have frontCount : wordCount payloads.flatten = words := by
      simp only [wordCount]
      omega
    rw [after, closeWindow_startPageAddress, written, intake_startPageAddress,
      cleared_startPageAddress, uploading.place, split,
      wordCount_append _ _ words length, frontCount, UInt32.ofNat_add, UInt32.mul_add,
      UInt32.add_assoc]

theorem closes_counts (gcm : AesGcm) (works : FlashWorks hardware) (nextAck : device.nextAck = true)
    (good : accepts mode packet device = true) :
    (closeWindow gcm hardware mode (intake gcm hardware mode packet device.cleared)).countPck =
        device.countPck + 1 ∧
      (closeWindow gcm hardware mode
        (intake gcm hardware mode packet device.cleared)).connectionStatus =
        if device.countPck + 1 = device.totalPck then .closingConnection
        else device.connectionStatus := by
  have counts : (closeWindow gcm hardware mode
      (intake gcm hardware mode packet device.cleared)).countPck = device.countPck + 1 := by
    simp [windowAccepted_works works, nextAck, good]
  refine ⟨counts, ?_⟩
  rw [closeWindow_connectionStatus, counts, intake_totalPck, cleared_totalPck,
    intake_connectionStatus, cleared_connectionStatus]

theorem Uploading.length_closed (uploading : Uploading gcm mode base log payloads window device)
    (nextAck : device.nextAck = true) :
    (payloads ++ (window ++ [payload gcm hardware mode packet device])).length =
      device.countPck.toNat + 1 := by
  rw [← List.append_assoc, List.length_append, uploading.number nextAck]
  rfl

theorem Uploading.closes_last (uploading : Uploading gcm mode base log payloads window device)
    (works : FlashWorks hardware) (full : packet.numBytes = 20) (nextAck : device.nextAck = true)
    (good : accepts mode packet device = true) (last : device.countPck + 1 = device.totalPck) :
    Uploaded gcm mode base (log ++ [(device, .receive packet hardware)])
      (payloads ++ (window ++ [payload gcm hardware mode packet device]))
      (step gcm device (.receive packet hardware)) := by
  have isCounted := counted_of_accepts good
  have closes := (closesWindow_iff isCounted).mpr (.inr last)
  have filled := uploading.closes_filled works full nextAck good closes
  have after : step gcm device (.receive packet hardware) =
      closeWindow gcm hardware mode (intake gcm hardware mode packet device.cleared) := by
    rw [step_counted gcm hardware uploading.booted uploading.receving isCounted, closes]
    rfl
  obtain ⟨succ, _, _⟩ := uploading.toNat_succ
  obtain ⟨counts, status⟩ := closes_counts gcm works nextAck good
  refine ⟨filled, ?_, ?_, ?_⟩
  · rw [after, status, if_pos last]
  · rw [after, counts, closeWindow_totalPck, intake_totalPck, cleared_totalPck, last]
  · rw [uploading.length_closed nextAck, after, closeWindow_totalPck, intake_totalPck,
      cleared_totalPck, ← last, succ]

theorem Uploading.closes_next (uploading : Uploading gcm mode base log payloads window device)
    (works : FlashWorks hardware) (full : packet.numBytes = 20) (nextAck : device.nextAck = true)
    (good : accepts mode packet device = true) (closes : closesWindow mode packet device = true)
    (more : device.countPck + 1 ≠ device.totalPck) :
    Uploading gcm mode base (log ++ [(device, .receive packet hardware)])
      (payloads ++ (window ++ [payload gcm hardware mode packet device])) []
      (step gcm device (.receive packet hardware)) := by
  have filled := uploading.closes_filled works full nextAck good closes
  have isCounted := counted_of_accepts good
  have after : step gcm device (.receive packet hardware) =
      closeWindow gcm hardware mode (intake gcm hardware mode packet device.cleared) := by
    rw [step_counted gcm hardware uploading.booted uploading.receving isCounted, closes]
    rfl
  obtain ⟨succ, below, _⟩ := uploading.toNat_succ
  obtain ⟨counts, status⟩ := closes_counts gcm works nextAck good
  have aligned := ((closesWindow_iff isCounted).mp closes).resolve_right more
  rw [succ] at aligned
  obtain ⟨staged, windowLength, _⟩ := uploading.cleared.staged hardware full nextAck
    (by simpa using good)
  have whole : device.countPck.toNat % mode.window.toNat + 1 = mode.window.toNat := by
    cases mode <;>
      simp only [Mode.window, rawNumCumulativeAck, secureNumCumulativeAck, UInt16.reduceToNat]
        at aligned ⊢ <;> omega
  rw [cleared_countPck, whole] at windowLength
  have bytePos : (closeWindow gcm hardware mode
      (intake gcm hardware mode packet device.cleared)).staging.bytePos.toNat = 0 := by
    rw [closeWindow_staging]
    refine (staged.position ?_).trans ?_
    · intro none
      rw [none] at windowLength
      cases mode <;> contradiction
    · rw [windowLength]
      cases mode <;> rfl
  refine ⟨filled, ?_, ?_, ?_, ?_, ?_, ?_⟩
  · rw [after]
    simpa using uploading.booted
  · rw [after, status, if_neg more]
    exact uploading.receving
  · rw [ne_eq, ← UInt16.toNat_inj, succ] at more
    rw [after, UInt16.lt_iff_toNat_lt, counts, closeWindow_totalPck, intake_totalPck,
      cleared_totalPck, succ]
    omega
  · rw [uploading.length_closed nextAck, after, counts, windowStart, succ, aligned]
    rfl
  · intro _
    rw [after, counts, succ, aligned]
    exact ⟨rfl, staged_nil (by simp) (by rw [bytePos]; decide)⟩
  · rw [after, bytePos]
    rfl

theorem Uploading.closes_good (uploading : Uploading gcm mode base log payloads window device)
    (works : FlashWorks hardware) (full : packet.numBytes = 20) (nextAck : device.nextAck = true)
    (good : accepts mode packet device = true) (closes : closesWindow mode packet device = true) :
    Placed gcm mode base (log ++ [(device, .receive packet hardware)])
      (step gcm device (.receive packet hardware)) := by
  by_cases last : device.countPck + 1 = device.totalPck
  · exact .inr ⟨_, uploading.closes_last works full nextAck good last⟩
  · exact .inl ⟨_, _, uploading.closes_next works full nextAck good closes last⟩

/-- An upload on its way in which every packet of the open window has been accepted. -/
def Taking (gcm : AesGcm) (mode : Mode) (base : UInt32) (log : List (Device × Event))
    (taken : List (List UInt8)) (device : Device) : Prop :=
  ∃ payloads window, taken = payloads ++ window ∧ device.nextAck = true ∧
    Uploading gcm mode base log payloads window device

theorem Taking.length {taken : List (List UInt8)}
    (taking : Taking gcm mode base log taken device) : taken.length = device.countPck.toNat := by
  obtain ⟨payloads, window, rfl, nextAck, uploading⟩ := taking
  exact uploading.number nextAck

theorem Taking.takes {taken : List (List UInt8)} (taking : Taking gcm mode base log taken device)
    (works : FlashWorks hardware) (full : packet.numBytes = 20)
    (good : accepts mode packet device = true) :
    if device.countPck + 1 = device.totalPck then
      Uploaded gcm mode base (log ++ [(device, .receive packet hardware)])
        (taken ++ [payload gcm hardware mode packet device])
        (step gcm device (.receive packet hardware))
    else
      Taking gcm mode base (log ++ [(device, .receive packet hardware)])
        (taken ++ [payload gcm hardware mode packet device])
        (step gcm device (.receive packet hardware)) := by
  obtain ⟨payloads, window, rfl, nextAck, uploading⟩ := taking
  have isCounted := counted_of_accepts good
  have after := step_counted gcm hardware uploading.booted uploading.receving isCounted
  rw [List.append_assoc]
  split
  · rename_i last
    exact uploading.closes_last works full nextAck good last
  · rename_i more
    cases closes : closesWindow mode packet device with
    | true =>
        rw [closes] at after
        refine ⟨_, [], (List.append_nil _).symm, by rw [after]; simp, ?_⟩
        exact uploading.closes_next works full nextAck good closes more
    | false =>
        rw [closes] at after
        refine ⟨_, _, rfl, by rw [after]; simp [nextAck, good], ?_⟩
        exact uploading.inside_good full nextAck good closes

theorem placed_step {event : Event} (placed : Placed gcm mode base log device)
    (advances : Advances mode device event) :
    Placed gcm mode base (log ++ [(device, event)]) (step gcm device event) := by
  obtain ⟨packet, hardware, rfl, full, works, allowed⟩ := advances
  rcases placed with ⟨payloads, window, uploading⟩ | ⟨payloads, uploaded⟩
  · cases good : device.nextAck && accepts mode packet device with
    | true =>
        rw [Bool.and_eq_true] at good
        cases closes : closesWindow mode packet device with
        | true => exact uploading.closes_good works full good.1 good.2 closes
        | false => exact .inl ⟨_, _, uploading.inside_good full good.1 good.2 closes⟩
    | false =>
        obtain ⟨rfl, whole⟩ := allowed good uploading.receving
        cases closes : closesWindow .raw packet device with
        | true => exact .inl ⟨_, _, uploading.closes_bad full good closes (whole closes)⟩
        | false => exact .inl ⟨_, _, uploading.inside_bad full good closes⟩
  · have after := step_ignored gcm packet hardware (.inr uploaded.closing)
    have silent : programs (step gcm device (.receive packet hardware)).effects = [] := by
      rw [after]
      rfl
    have filled := uploaded.forget (device, .receive packet hardware) silent
      (by rw [after]; rfl : (step gcm device (.receive packet hardware)).startPageAddress = _)
    rw [after] at filled ⊢
    exact .inr ⟨payloads, filled, uploaded.closing, uploaded.complete, uploaded.length⟩

end Advance

end BleFwUpdate
