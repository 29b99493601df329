import BleFwUpdate.Pointer
import BleFwUpdate.Programs

/-! The jump to a new firmware: every packet of it has been taken in an accepted window. -/

namespace BleFwUpdate

open Transitions

/-- Whether the window that is open where the history begins ends with `next_ack` true and a
successful `Write_FW_to_flash`. -/
def endsAccepted (gcm : AesGcm) (mode : Mode) : List (Device × Event) → Bool
  | (device, .receive packet hardware) :: rest =>
      if closesWindow mode packet device then
        windowAccepted hardware (intake gcm hardware mode packet device)
      else endsAccepted gcm mode rest
  | _ => false

/-- A packet was handled at the given count, passed `verify_data_type`, carried the number
that goes with the count, and belongs to an accepted window. -/
def Covered (gcm : AesGcm) (mode : Mode) (log : List (Device × Event)) (number : Nat) : Prop :=
  ∃ front device packet hardware rest,
    log = front ++ (device, .receive packet hardware) :: rest ∧
    device.connectionStatus = mode.status ∧ device.countPck.toNat = number ∧
    accepts mode packet device = true ∧
    endsAccepted gcm mode ((device, .receive packet hardware) :: rest) = true

def Inside (mode : Mode) (entry : Device × Event) : Prop :=
  ∃ packet hardware, entry.2 = .receive packet hardware ∧ closesWindow mode packet entry.1 = false

def Pending (mode : Mode) (log : List (Device × Event)) (number : Nat) : Prop :=
  ∃ front device packet hardware rest,
    log = front ++ (device, .receive packet hardware) :: rest ∧
    device.connectionStatus = mode.status ∧ device.countPck.toNat = number ∧
    accepts mode packet device = true ∧
    ∀ entry ∈ (device, Event.receive packet hardware) :: rest, Inside mode entry

section History

variable {gcm : AesGcm} {mode : Mode} {log : List (Device × Event)} {number : Nat}

theorem endsAccepted_append (more : List (Device × Event))
    (ended : endsAccepted gcm mode log = true) : endsAccepted gcm mode (log ++ more) = true := by
  induction log with
  | nil => simp [endsAccepted] at ended
  | cons entry rest ih =>
      obtain ⟨device, event⟩ := entry
      cases event with
      | receive packet hardware =>
          rw [endsAccepted] at ended
          rw [List.cons_append, endsAccepted]
          split
          · rename_i closes
            rwa [if_pos closes] at ended
          · rename_i inside
            rw [if_neg inside] at ended
            exact ih ended
      | _ => simp [endsAccepted] at ended

theorem endsAccepted_of_inside (inside : ∀ entry ∈ log, Inside mode entry)
    (more : List (Device × Event)) :
    endsAccepted gcm mode (log ++ more) = endsAccepted gcm mode more := by
  induction log with
  | nil => rfl
  | cons entry rest ih =>
      obtain ⟨packet, hardware, event, open'⟩ := inside entry (by simp)
      obtain ⟨device, _⟩ := entry
      subst event
      rw [List.cons_append, endsAccepted, if_neg (by simp [open'])]
      exact ih fun entry member => inside entry (List.mem_cons_of_mem _ member)

theorem Covered.concat (covered : Covered gcm mode log number) (entry : Device × Event) :
    Covered gcm mode (log ++ [entry]) number := by
  obtain ⟨front, device, packet, hardware, rest, rfl, status, count, good, ended⟩ := covered
  exact ⟨front, device, packet, hardware, rest ++ [entry], by simp, status, count, good,
    endsAccepted_append [entry] ended⟩

theorem Pending.concat (pending : Pending mode log number) {entry : Device × Event}
    (inside : Inside mode entry) : Pending mode (log ++ [entry]) number := by
  obtain ⟨front, device, packet, hardware, rest, rfl, status, count, good, open'⟩ := pending
  refine ⟨front, device, packet, hardware, rest ++ [entry], by simp, status, count, good, ?_⟩
  intro other member
  rw [← List.cons_append] at member
  rcases List.mem_append.mp member with member | member
  · exact open' other member
  · rw [List.mem_singleton.mp member]
    exact inside

theorem Pending.covered (pending : Pending mode log number) {device : Device} {packet : Packet}
    {hardware : Hardware} (closes : closesWindow mode packet device = true)
    (accepted : windowAccepted hardware (intake gcm hardware mode packet device) = true) :
    Covered gcm mode (log ++ [(device, .receive packet hardware)]) number := by
  obtain ⟨front, taker, taken, takerHardware, rest, rfl, status, count, good, open'⟩ := pending
  refine ⟨front, taker, taken, takerHardware, rest ++ [(device, .receive packet hardware)],
    by simp, status, count, good, ?_⟩
  rw [← List.cons_append, endsAccepted_of_inside open', endsAccepted, if_pos closes, accepted]

theorem covered_last {device : Device} {packet : Packet} {hardware : Hardware}
    (status : device.connectionStatus = mode.status)
    (closes : closesWindow mode packet device = true)
    (accepted : windowAccepted hardware (intake gcm hardware mode packet device) = true) :
    Covered gcm mode (log ++ [(device, .receive packet hardware)]) device.countPck.toNat := by
  have good := accepted
  simp only [windowAccepted, intake_nextAck, Bool.and_eq_true] at good
  refine ⟨log, device, packet, hardware, [], rfl, status, rfl, good.1.2, ?_⟩
  rw [endsAccepted, if_pos closes, accepted]

end History

/-- How far a session has come. The counter is below the announced number, and everything
below the count that the open window began with is covered; or a window rejected too near
to the start has taken the counter below zero. -/
structure Counting (gcm : AesGcm) (mode : Mode) (log : List (Device × Event)) (device : Device)
    (first : Nat) : Prop where
  below : device.countPck < device.totalPck
  begun : first ≤ device.countPck.toNat
  sameWindow : first / mode.window.toNat = device.countPck.toNat / mode.window.toNat
  covered : ∀ number < first, Covered gcm mode log number
  pending : device.nextAck = true → ∀ number, first ≤ number → number < device.countPck.toNat →
    Pending mode log number

def Progress (gcm : AesGcm) (mode : Mode) (log : List (Device × Event)) (device : Device) : Prop :=
  (∃ first, Counting gcm mode log device first) ∨ 65520 ≤ device.countPck.toNat

def Complete (gcm : AesGcm) (mode : Mode) (log : List (Device × Event)) (device : Device) : Prop :=
  ∀ number < device.totalPck.toNat, Covered gcm mode log number

section Advance

variable {gcm : AesGcm} {mode : Mode} {log : List (Device × Event)} {device : Device}
  {packet : Packet} {hardware : Hardware} {first : Nat}

theorem Counting.inside (counting : Counting gcm mode log device first)
    (status : device.connectionStatus = mode.status)
    (isCounted : counted mode packet = true) (inside : closesWindow mode packet device = false) :
    Counting gcm mode (log ++ [(device, .receive packet hardware)])
      (intake gcm hardware mode packet device.cleared) first := by
  have open' : Inside mode (device, .receive packet hardware) := ⟨packet, hardware, rfl, inside⟩
  have below := UInt16.lt_iff_toNat_lt.mp counting.below
  have succ := toNat_succ_of_lt counting.below
  have going := mt (closesWindow_iff isCounted).mpr (by simpa using inside)
  rw [not_or, ← UInt16.toNat_inj, succ] at going
  obtain ⟨unaligned, unfinished⟩ := going
  have begun := counting.begun
  have sameWindow := counting.sameWindow
  refine ⟨?_, ?_, ?_, fun number early => (counting.covered number early).concat _, ?_⟩
  · rw [UInt16.lt_iff_toNat_lt, intake_countPck, cleared_countPck, succ, intake_totalPck,
      cleared_totalPck]
    omega
  · rw [intake_countPck, cleared_countPck, succ]
    omega
  · rw [intake_countPck, cleared_countPck, succ, sameWindow]
    cases mode <;>
      simp only [Mode.window, rawNumCumulativeAck, secureNumCumulativeAck, UInt16.reduceToNat]
        at unaligned ⊢ <;> omega
  · intro nextAck number after before
    simp only [intake_nextAck, cleared_nextAck, accepts_cleared, Bool.and_eq_true] at nextAck
    rw [intake_countPck, cleared_countPck, succ] at before
    rcases Nat.lt_or_ge number device.countPck.toNat with earlier | last
    · exact (counting.pending nextAck.1 number after earlier).concat open'
    · have same : device.countPck.toNat = number := by omega
      exact ⟨log, device, packet, hardware, [], rfl, status, same, nextAck.2, by simpa using open'⟩

theorem Counting.accepted (counting : Counting gcm mode log device first)
    (status : device.connectionStatus = mode.status)
    (closes : closesWindow mode packet device = true)
    (isAccepted : windowAccepted hardware (intake gcm hardware mode packet device) = true) :
    ∀ number < device.countPck.toNat + 1,
      Covered gcm mode (log ++ [(device, .receive packet hardware)]) number := by
  intro number before
  rcases Nat.lt_or_ge number first with early | late
  · exact (counting.covered number early).concat _
  rcases Nat.lt_or_ge number device.countPck.toNat with earlier | last
  · have nextAck : device.nextAck = true := by
      simp only [windowAccepted, intake_nextAck, Bool.and_eq_true] at isAccepted
      exact isAccepted.1.1
    exact (counting.pending nextAck number late earlier).covered closes isAccepted
  · have same : number = device.countPck.toNat := by omega
    rw [same]
    exact covered_last status closes isAccepted

theorem Counting.rejected (counting : Counting gcm mode log device first) :
    device.countPck.toNat + 1 - mode.window.toNat ≤ first := by
  have begun := counting.begun
  have sameWindow := counting.sameWindow
  cases mode <;>
    simp only [Mode.window, rawNumCumulativeAck, secureNumCumulativeAck, UInt16.reduceToNat]
      at sameWindow ⊢ <;> omega

theorem counting_restart {after : Device} (below : after.countPck < after.totalPck)
    (covered : ∀ number < after.countPck.toNat, Covered gcm mode log number) :
    Progress gcm mode log after :=
  .inl ⟨after.countPck.toNat, below, Nat.le_refl _, rfl, covered,
    fun _ number late early => by omega⟩

theorem high_counts {count total window : UInt16} (isAccepted : Bool)
    (high : 65520 ≤ count.toNat) (bounded : total.toNat < 65520) (nonzero : total.toNat ≠ 0)
    (windows : window = 10 ∨ window = 16)
    (atEnd : (count + 1).toNat % window.toNat = 0 ∨ count + 1 = total) :
    (if isAccepted then count + 1 else count + 1 - window).toNat = 0 ∨
      65520 ≤ (if isAccepted then count + 1 else count + 1 - window).toNat := by
  have top := count.toNat_lt
  have unfinished : count + 1 ≠ total := by
    rw [← UInt16.toNat_inj.ne, UInt16.toNat_add, UInt16.toNat_one]
    omega
  have aligned := atEnd.resolve_right unfinished
  have next : (count + 1).toNat = 0 ∨ (count + 1).toNat = count.toNat + 1 := by
    rw [UInt16.toNat_add, UInt16.toNat_one]
    omega
  cases isAccepted with
  | true =>
      rw [if_pos rfl]
      omega
  | false =>
      rw [if_neg Bool.false_ne_true, UInt16.toNat_sub]
      rcases windows with rfl | rfl <;> rcases next with next | next <;>
        simp only [next, UInt16.reduceToNat] at aligned ⊢ <;> omega

theorem Counting.closes_accepted (counting : Counting gcm mode log device first)
    (status : device.connectionStatus = mode.status)
    (closes : closesWindow mode packet device = true)
    (isAccepted : windowAccepted hardware (intake gcm hardware mode packet device) = true)
    {after : Device} (total : after.totalPck = device.totalPck)
    (counts : after.countPck = device.countPck + 1) :
    (after.countPck = after.totalPck ∧
        Complete gcm mode (log ++ [(device, .receive packet hardware)]) after) ∨
      (after.countPck ≠ after.totalPck ∧
        Progress gcm mode (log ++ [(device, .receive packet hardware)]) after) := by
  have below := UInt16.lt_iff_toNat_lt.mp counting.below
  have succ := toNat_succ_of_lt counting.below
  have covered := counting.accepted status closes isAccepted
  by_cases last : device.countPck.toNat + 1 = device.totalPck.toNat
  · left
    refine ⟨UInt16.toNat_inj.mp (by rw [counts, total, succ, last]), ?_⟩
    rw [Complete, total, ← last]
    exact covered
  · right
    refine ⟨?_, counting_restart ?_ (by rw [counts, succ]; exact covered)⟩
    · rw [← UInt16.toNat_inj.ne, counts, total, succ]
      exact last
    · rw [UInt16.lt_iff_toNat_lt, counts, total, succ]
      omega

theorem Counting.closes_rejected (counting : Counting gcm mode log device first)
    (bounded : device.totalPck.toNat < 65520) (entry : Device × Event)
    {after : Device} (total : after.totalPck = device.totalPck)
    (counts : after.countPck = device.countPck + 1 - mode.window) :
    after.countPck ≠ after.totalPck ∧ Progress gcm mode (log ++ [entry]) after := by
  have below := UInt16.lt_iff_toNat_lt.mp counting.below
  have succ := toNat_succ_of_lt counting.below
  have room := counting.rejected
  rcases Nat.lt_or_ge (device.countPck.toNat + 1) mode.window.toNat with short | long
  -- Fewer packets than are taken off: the counter wraps around, above every admitted total.
  · have small : mode.window.toNat ≤ 16 := by cases mode <;> decide
    have wrapped : after.countPck.toNat =
        65536 + device.countPck.toNat + 1 - mode.window.toNat := by
      rw [counts, UInt16.toNat_sub, succ]
      omega
    exact ⟨by rw [← UInt16.toNat_inj.ne, total]; omega, .inr (by omega)⟩
  · have rewound : after.countPck.toNat = device.countPck.toNat + 1 - mode.window.toNat := by
      have window := mode.window.toNat_lt
      rw [counts, UInt16.toNat_sub, succ]
      omega
    have positiveWindow : 0 < mode.window.toNat := by cases mode <;> decide
    refine ⟨by rw [← UInt16.toNat_inj.ne, total]; omega, counting_restart ?_ ?_⟩
    · rw [UInt16.lt_iff_toNat_lt, total]
      omega
    · intro number early
      exact (counting.covered number (by omega)).concat _

theorem Progress.closes (progress : Progress gcm mode log device)
    (status : device.connectionStatus = mode.status) (bounded : device.totalPck.toNat < 65520)
    (positive : device.totalPck ≠ 0) (closes : closesWindow mode packet device = true)
    {after : Device} (total : after.totalPck = device.totalPck)
    (counts : after.countPck =
      if windowAccepted hardware (intake gcm hardware mode packet device) then
        device.countPck + 1
      else device.countPck + 1 - mode.window) :
    (after.countPck = after.totalPck ∧
        Complete gcm mode (log ++ [(device, .receive packet hardware)]) after) ∨
      (after.countPck ≠ after.totalPck ∧
        Progress gcm mode (log ++ [(device, .receive packet hardware)]) after) := by
  rcases progress with ⟨first, counting⟩ | high
  · cases isAccepted : windowAccepted hardware (intake gcm hardware mode packet device) with
    | true =>
        rw [isAccepted, if_pos rfl] at counts
        exact counting.closes_accepted status closes isAccepted total counts
    | false =>
        rw [isAccepted, if_neg Bool.false_ne_true] at counts
        exact .inr (counting.closes_rejected bounded _ total counts)
  · right
    have atEnd := (closesWindow_iff (counted_of_closes closes)).mp closes
    have nonzero : device.totalPck.toNat ≠ 0 := fun zero => positive (UInt16.toNat_inj.mp zero)
    have windows : mode.window = 10 ∨ mode.window = 16 := by
      cases mode <;> simp [Mode.window, rawNumCumulativeAck, secureNumCumulativeAck]
    have counted := high_counts (windowAccepted hardware (intake gcm hardware mode packet device))
      high bounded nonzero windows atEnd
    rw [← counts] at counted
    refine ⟨by rw [← UInt16.toNat_inj.ne, total]; omega, ?_⟩
    rcases counted with zero | stays
    · exact counting_restart (by rw [UInt16.lt_iff_toNat_lt, total]; omega)
        fun number early => by omega
    · exact .inr stays

end Advance

theorem bounded_of_fits {total : UInt16} {mode : Mode} {app : FlashAppType}
    (fits : checkFwSize total mode.checkedLen app = true) : total.toNat < 65520 := by
  have top := total.toNat_lt
  have length : (total.toUInt32 * mode.checkedLen.toUInt32).toNat =
      total.toNat * mode.checkedLen.toNat := by
    have small : mode.checkedLen.toNat ≤ 16 := by cases mode <;> decide
    have product : total.toNat * mode.checkedLen.toNat ≤ total.toNat * 16 :=
      Nat.mul_le_mul_left _ small
    simp only [UInt32.toNat_mul, UInt16.toNat_toUInt32, UInt8.toNat_toUInt32]
    exact Nat.mod_eq_of_lt (by omega)
  have large : 14 ≤ mode.checkedLen.toNat := by cases mode <;> decide
  have product : total.toNat * 14 ≤ total.toNat * mode.checkedLen.toNat :=
    Nat.mul_le_mul_left _ large
  cases app <;>
    simp only [checkFwSize, gt_iff_lt, UInt32.lt_iff_toNat_lt, UInt32.toNat_div, length,
      UInt32.reduceToNat, ite_eq_right_iff, reduceCtorEq, imp_false, not_lt] at fits <;> omega

/-- The events of a run end in a session, which has come so far. -/
structure InSession (gcm : AesGcm) (flash : UInt32 → UInt64) (events : List Event)
    (before : List Event) (start : Packet) (hardware : Hardware) (mode : Mode)
    (session : List Event) : Prop where
  split : events = before ++ .receive start hardware :: session
  booted : (run gcm flash before).running = none
  connected : (run gcm flash before).connectionStatus = .connected
  isStart : startMode start = some mode
  isAdmitted : admitted hardware mode start = true
  packets : ∀ event ∈ session, ∃ packet hardware, event = .receive packet hardware

theorem InSession.concat {gcm : AesGcm} {flash : UInt32 → UInt64} {events before : List Event}
    {start : Packet} {hardware : Hardware} {mode : Mode} {session : List Event}
    (inSession : InSession gcm flash events before start hardware mode session) (packet : Packet)
    (received : Hardware) :
    InSession gcm flash (events ++ [.receive packet received]) before start hardware mode
      (session ++ [.receive packet received]) := by
  refine ⟨by simp [inSession.split], inSession.booted, inSession.connected, inSession.isStart,
    inSession.isAdmitted, ?_⟩
  intro event member
  rcases List.mem_append.mp member with member | member
  · exact inSession.packets event member
  · exact ⟨packet, received, List.mem_singleton.mp member⟩

theorem exists_inSession (gcm : AesGcm) (flash : UInt32 → UInt64) (events : List Event)
    (booted : (run gcm flash events).running = none)
    (busy : (run gcm flash events).connectionStatus ≠ .idle ∧
      (run gcm flash events).connectionStatus ≠ .connected) :
    ∃ before start hardware mode session,
      InSession gcm flash events before start hardware mode session := by
  induction events using List.reverseRecOn with
  | nil => exact (busy.1 rfl).elim
  | append_singleton events event ih =>
      rw [run_concat] at booted busy
      induction event using step_cases gcm (run gcm flash events) with
      | running event running after =>
          rw [after] at booted
          exact (running booted).elim
      | connect _ after => exact (busy.2 (by rw [after])).elim
      | jump hardware _ complete after =>
          rw [after] at booted
          contradiction
      | stay hardware _ incomplete after => exact (busy.1 (by rw [after])).elim
      | ignored packet hardware earlier status after =>
          rw [after] at busy
          obtain ⟨_, _, _, _, _, inSession⟩ := ih earlier busy
          exact ⟨_, _, _, _, _, inSession.concat packet hardware⟩
      | connected packet hardware earlier status after =>
          obtain ⟨_, _, _, _, _, _, _, _, _, shape⟩ :=
            handleConnected_shape gcm hardware packet (run gcm flash events).cleared status
          rw [after, shape] at busy
          cases isStart : startMode packet with
          | none => simp [isStart] at busy
          | some mode =>
              cases isAdmitted : admitted hardware mode packet with
              | false => simp [isStart, isAdmitted] at busy
              | true =>
                  exact ⟨events, packet, hardware, mode, [], rfl, earlier, status, isStart,
                    isAdmitted, by simp⟩
      | repeats mode packet hardware earlier status notCounted after =>
          obtain ⟨_, _, _, _, _, inSession⟩ := ih earlier (by rw [status]; cases mode <;> decide)
          exact ⟨_, _, _, _, _, inSession.concat packet hardware⟩
      | inside mode packet hardware earlier status isCounted isInside after =>
          obtain ⟨_, _, _, _, _, inSession⟩ := ih earlier (by rw [status]; cases mode <;> decide)
          exact ⟨_, _, _, _, _, inSession.concat packet hardware⟩
      | closes mode packet hardware earlier status isClosing after =>
          obtain ⟨_, _, _, _, _, inSession⟩ := ih earlier (by rw [status]; cases mode <;> decide)
          exact ⟨_, _, _, _, _, inSession.concat packet hardware⟩

structure Counts (gcm : AesGcm) (mode : Mode) (total : UInt16) (app : FlashAppType)
    (log : List (Device × Event)) (device : Device) : Prop where
  announced : device.totalPck = total
  app : device.appToUpdate = app
  booted : device.running = none
  status : device.connectionStatus = mode.status ∨ device.connectionStatus = .closingConnection
  reached : total ≠ 0 →
    (device.connectionStatus = mode.status ∧ Progress gcm mode log device) ∨
      (device.connectionStatus = .closingConnection ∧ Complete gcm mode log device)

theorem Complete.concat {gcm : AesGcm} {mode : Mode} {log : List (Device × Event)}
    {device after : Device} (complete : Complete gcm mode log device) (entry : Device × Event)
    (total : after.totalPck = device.totalPck) : Complete gcm mode (log ++ [entry]) after := by
  intro number below
  rw [total] at below
  exact (complete number below).concat entry

theorem Progress.inside {gcm : AesGcm} {mode : Mode} {log : List (Device × Event)}
    {device : Device} {packet : Packet} (progress : Progress gcm mode log device)
    (status : device.connectionStatus = mode.status) (hardware : Hardware)
    (isCounted : counted mode packet = true)
    (inside : closesWindow mode packet device = false) :
    Progress gcm mode (log ++ [(device, .receive packet hardware)])
      (intake gcm hardware mode packet device.cleared) := by
  rcases progress with ⟨first, counting⟩ | high
  · exact .inl ⟨first, counting.inside status isCounted inside⟩
  · right
    have top := device.countPck.toNat_lt
    have going := mt (closesWindow_iff isCounted).mpr (by simpa using inside)
    rw [not_or, UInt16.toNat_add, UInt16.toNat_one] at going
    have unwrapped : device.countPck.toNat ≠ 65535 := by
      intro last
      rw [last] at going
      exact going.1 (Nat.zero_mod _)
    rw [intake_countPck, cleared_countPck, UInt16.toNat_add, UInt16.toNat_one]
    omega

theorem Progress.repeats {gcm : AesGcm} {mode : Mode} {log : List (Device × Event)}
    {device after : Device} {packet : Packet} (progress : Progress gcm mode log device)
    (hardware : Hardware) (notCounted : counted mode packet = false)
    (count : after.countPck = device.countPck) (total : after.totalPck = device.totalPck)
    (nextAck : after.nextAck = device.nextAck) :
    Progress gcm mode (log ++ [(device, .receive packet hardware)]) after := by
  rcases progress with ⟨first, counting⟩ | high
  · left
    have open' : Inside mode (device, .receive packet hardware) :=
      ⟨packet, hardware, rfl, by rw [closesWindow, notCounted, Bool.false_and]⟩
    refine ⟨first, ?_, ?_, ?_, fun number early => (counting.covered number early).concat _, ?_⟩
    · rw [count, total]
      exact counting.below
    · rw [count]
      exact counting.begun
    · rw [count]
      exact counting.sameWindow
    · intro good number late early
      rw [nextAck] at good
      rw [count] at early
      exact (counting.pending good number late early).concat open'
  · right
    rw [count]
    exact high

section Receive

variable {gcm : AesGcm} {mode : Mode} {total : UInt16} {app : FlashAppType}
  {log : List (Device × Event)} {device : Device} {packet : Packet} {hardware : Hardware}

theorem Counts.progress (counts : Counts gcm mode total app log device) (positive : total ≠ 0)
    (status : device.connectionStatus = mode.status) : Progress gcm mode log device := by
  rcases counts.reached positive with ⟨_, progress⟩ | ⟨closing, _⟩
  · exact progress
  · rw [status] at closing
    cases mode <;> contradiction

theorem Counts.repeats (counts : Counts gcm mode total app log device)
    (status : device.connectionStatus = mode.status) (notCounted : counted mode packet = false) :
    Counts gcm mode total app (log ++ [(device, .receive packet hardware)])
      (sendAck gcm hardware device.oldAck mode.replyType device.cleared) := by
  have frame : (sendAck gcm hardware device.oldAck mode.replyType device.cleared).countPck =
        device.countPck ∧
      (sendAck gcm hardware device.oldAck mode.replyType device.cleared).totalPck =
        device.totalPck ∧
      (sendAck gcm hardware device.oldAck mode.replyType device.cleared).nextAck =
        device.nextAck := by
    cases mode <;> exact ⟨rfl, rfl, rfl⟩
  have receving : (sendAck gcm hardware device.oldAck mode.replyType
      device.cleared).connectionStatus = mode.status := by
    rw [← status]
    cases mode <;> rfl
  refine ⟨frame.2.1.trans counts.announced, ?_, ?_, .inl receving, fun positive => ?_⟩
  · rw [← counts.app]
    cases mode <;> rfl
  · rw [← counts.booted]
    cases mode <;> rfl
  · exact .inl ⟨receving, (counts.progress positive status).repeats hardware notCounted frame.1
      frame.2.1 frame.2.2⟩

theorem Counts.inside (counts : Counts gcm mode total app log device)
    (status : device.connectionStatus = mode.status) (isCounted : counted mode packet = true)
    (inside : closesWindow mode packet device = false) :
    Counts gcm mode total app (log ++ [(device, .receive packet hardware)])
      (intake gcm hardware mode packet device.cleared) :=
  ⟨counts.announced, counts.app, counts.booted, .inl status, fun positive =>
    .inl ⟨status, (counts.progress positive status).inside status hardware isCounted inside⟩⟩

theorem Counts.closes (counts : Counts gcm mode total app log device)
    (bounded : total.toNat < 65520) (status : device.connectionStatus = mode.status)
    (closes : closesWindow mode packet device = true) :
    Counts gcm mode total app (log ++ [(device, .receive packet hardware)])
      (closeWindow gcm hardware mode (intake gcm hardware mode packet device.cleared)) := by
  have ended := closeWindow_connectionStatus gcm hardware mode
    (intake gcm hardware mode packet device.cleared)
  have sameTotal : (closeWindow gcm hardware mode
      (intake gcm hardware mode packet device.cleared)).totalPck = device.totalPck := by simp
  rw [intake_totalPck, cleared_totalPck, intake_connectionStatus, cleared_connectionStatus,
    ← sameTotal] at ended
  refine ⟨sameTotal.trans counts.announced, by simp [counts.app], by simp [counts.booted], ?_,
    fun positive => ?_⟩
  · rw [ended]
    split
    · exact .inr rfl
    · exact .inl status
  · have settled : (closeWindow gcm hardware mode
        (intake gcm hardware mode packet device.cleared)).countPck =
        if windowAccepted hardware (intake gcm hardware mode packet device) then
          device.countPck + 1
        else device.countPck + 1 - mode.window := by simp
    rcases (counts.progress positive status).closes status (counts.announced ▸ bounded)
      (counts.announced ▸ positive) closes sameTotal settled with
      ⟨done, complete⟩ | ⟨undone, progress⟩
    · exact .inr ⟨ended.trans (if_pos done), complete⟩
    · exact .inl ⟨(ended.trans (if_neg undone)).trans status, progress⟩

theorem Counts.receive (counts : Counts gcm mode total app log device)
    (bounded : total.toNat < 65520) (packet : Packet) (hardware : Hardware) :
    Counts gcm mode total app (log ++ [(device, .receive packet hardware)])
      (step gcm device (.receive packet hardware)) := by
  rcases counts.status with status | status
  · cases isCounted : counted mode packet with
    | false =>
        rw [step_uncounted gcm hardware counts.booted status isCounted]
        exact counts.repeats status isCounted
    | true =>
        rw [step_counted gcm hardware counts.booted status isCounted]
        cases closes : closesWindow mode packet device with
        | false => exact counts.inside status isCounted closes
        | true => exact counts.closes bounded status closes
  · rw [step_ignored gcm packet hardware (.inr status)]
    refine ⟨counts.announced, counts.app, counts.booted, .inr status, fun positive => ?_⟩
    rcases counts.reached positive with ⟨receving, _⟩ | ⟨_, complete⟩
    · rw [status] at receving
      cases mode <;> contradiction
    · exact .inr ⟨status, complete.concat _ rfl⟩

end Receive

theorem counts_started {gcm : AesGcm} {mode : Mode} {start : Packet} {device begun : Device}
    (begins : Started mode start device begun) (fresh : Fresh device)
    (booted : device.running = none) (connected : device.connectionStatus = .connected) :
    Counts gcm mode (start.number 2) (requestedApp start) [] begun := by
  obtain ⟨count, _⟩ := fresh.untouched booted (.inr connected)
  refine ⟨begins.totalPck, begins.appToUpdate, begins.running.trans booted,
    .inl begins.connectionStatus, fun positive => .inl ⟨begins.connectionStatus,
      counting_restart ?_ ?_⟩⟩
  · rw [begins.countPck, count, begins.totalPck]
    exact UInt16.pos_iff_ne_zero.mpr positive
  · rw [begins.countPck, count]
    exact fun number early => (Nat.not_lt_zero _ early).elim

def sessionLog (gcm : AesGcm) (flash : UInt32 → UInt64) (before : List Event) (start : Packet)
    (hardware : Hardware) (session : List Event) : List (Device × Event) :=
  history (step gcm) (step gcm (run gcm flash before) (.receive start hardware)) session

theorem InSession.counts {gcm : AesGcm} {flash : UInt32 → UInt64} {events before : List Event}
    {start : Packet} {hardware : Hardware} {mode : Mode} {session : List Event}
    (inSession : InSession gcm flash events before start hardware mode session)
    (alternating : Along (step gcm) Alternates (powerOn flash) events) :
    Counts gcm mode (start.number 2) (requestedApp start)
      (sessionLog gcm flash before start hardware session) (run gcm flash events) := by
  rw [inSession.split, along_append] at alternating
  have begins := started gcm inSession.booted inSession.connected inSession.isStart
    inSession.isAdmitted
  have initial := @counts_started gcm _ _ _ _ begins (fresh_run gcm flash before alternating.1)
    inSession.booted inSession.connected
  have result := (along_of_forall inSession.packets).invariant_history
    (fun log device event counts received => by
      obtain ⟨packet, hardware, rfl⟩ := received
      exact counts.receive (bounded_of_fits begins.fits) packet hardware) initial
  rwa [List.nil_append, ← runFrom_cons, run, ← runFrom_append, ← inSession.split] at result

theorem Counts.complete {gcm : AesGcm} {mode : Mode} {total : UInt16} {app : FlashAppType}
    {log : List (Device × Event)} {device : Device} (counts : Counts gcm mode total app log device)
    (bounded : total.toNat < 65520) (done : jumps device) : Complete gcm mode log device := by
  obtain ⟨same, positive⟩ := done
  rcases counts.reached (counts.announced ▸ positive) with ⟨_, progress⟩ | ⟨_, complete⟩
  · rcases progress with ⟨first, counting⟩ | high
    · have below := counting.below
      rw [same, UInt16.lt_iff_toNat_lt] at below
      exact (Nat.lt_irrefl _ below).elim
    · rw [same, counts.announced] at high
      omega
  · exact complete

theorem jumps_of_go2App {gcm : AesGcm} {device : Device} {hardware : Hardware}
    {app : FlashAppType}
    (jumped : .go2App app ∈ (step gcm device (.disconnect hardware)).effects) :
    device.running = none ∧ jumps device ∧ app = device.appToUpdate := by
  by_cases booted : device.running = none
  · by_cases complete : jumps device
    · rw [step_disconnect_jump gcm hardware booted complete] at jumped
      have same : app = device.appToUpdate := by simpa using jumped
      exact ⟨booted, complete, same⟩
    · rw [step_disconnect_stay gcm hardware booted complete] at jumped
      simp at jumped
  · rw [step_running gcm _ booted] at jumped
    simp at jumped

/-- A disconnection only ends in a jump if since the accepted START of this connection every
packet of the image has been taken in an accepted window, and the jump is to the slot of
that START. -/
theorem jump_complete (gcm : AesGcm) (flash : UInt32 → UInt64) (events : List Event)
    (hardware : Hardware) (app : FlashAppType)
    (alternating : Along (step gcm) Alternates (powerOn flash) events)
    (jumped : .go2App app ∈ (step gcm (run gcm flash events) (.disconnect hardware)).effects) :
    ∃ before start startHardware mode session,
      InSession gcm flash events before start startHardware mode session ∧
      (run gcm flash events).totalPck = start.number 2 ∧ app = requestedApp start ∧
      ∀ number < (run gcm flash events).totalPck.toNat,
        Covered gcm mode (sessionLog gcm flash before start startHardware session) number := by
  obtain ⟨booted, complete, rfl⟩ := jumps_of_go2App jumped
  have busy : (run gcm flash events).connectionStatus ≠ .idle ∧
      (run gcm flash events).connectionStatus ≠ .connected := by
    rw [← not_or]
    intro between
    obtain ⟨count, _⟩ := (fresh_run gcm flash events alternating).untouched booted between
    exact complete.2 (complete.1 ▸ count)
  obtain ⟨before, start, startHardware, mode, session, inSession⟩ :=
    exists_inSession gcm flash events booted busy
  have counts := inSession.counts alternating
  have begins := started gcm inSession.booted inSession.connected inSession.isStart
    inSession.isAdmitted
  exact ⟨before, start, startHardware, mode, session, inSession, counts.announced, counts.app,
    counts.complete (bounded_of_fits begins.fits) complete⟩

theorem jump_complete_single_packet :
    let gcm := AesGcm.ofTables [] []
    let start := Packet.ofBytes [0xbb, 1, 0, 1, 1] (by decide)
    let data := Packet.ofBytes
      [0xbb, 0, 0, 1, 2, 3, 4, 5, 6, 7, 8, 9, 10, 11, 12, 13, 14, 15, 16, 136] (by decide)
    let events := [.connect, .receive start (.working 0), .receive data (.working 0)]
    ∃ before start startHardware mode session,
      InSession gcm (fun _ => 0) events before start startHardware mode session ∧
      (run gcm (fun _ => 0) events).totalPck = start.number 2 ∧ .flashApp1 = requestedApp start ∧
      ∀ number < (run gcm (fun _ => 0) events).totalPck.toNat,
        Covered gcm mode (sessionLog gcm (fun _ => 0) before start startHardware session) number :=
  jump_complete _ _ _ (.working 0) _ (by decide +kernel) (by decide +kernel)

end BleFwUpdate
