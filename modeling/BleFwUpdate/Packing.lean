import BleFwUpdate.Session

/-! What the packing loops make of the payloads of one window. -/

namespace BleFwUpdate

open Transitions LittleEndian

/-- Read byte by byte, the entries of `flash_buff` that are in use hold the given bytes, and zero
bytes behind the last one. -/
structure Packs (bytes : List UInt8) (staging : Staging) : Prop where
  entries : (staging.contBuff + 1).toNat = (bytes.length + 7) / 8
  bytePos : staging.bytePos.toNat = bytes.length % 8
  reads : ∀ index < (bytes.length + 7) / 8, ∀ offset < 8,
    byteOf (staging.flashBuff index) offset = bytes.getD (8 * index + offset) 0

/-- The part of the two receiving states with the packing loop. -/
def storePacket (gcm : AesGcm) (hardware : Hardware) (mode : Mode) (packet : Packet)
    (device : Device) : Device :=
  match mode with
  | .raw => storeRawPacket packet device
  | .secure => storeSecurePacket gcm hardware packet device

def payloadOf (gcm : AesGcm) (mode : Mode) (entry : Device × Event) : List UInt8 :=
  match entry with
  | (device, .receive packet hardware) => payload gcm hardware mode packet device
  | _ => []

/-- The event is a packet that is accepted, and not the last of its window. -/
def TakenInside (mode : Mode) (device : Device) (event : Event) : Prop :=
  match event with
  | .receive packet _ =>
      device.running = none ∧ device.connectionStatus = mode.status ∧
        accepts mode packet device = true ∧ closesWindow mode packet device = false
  | _ => False

instance (mode : Mode) (device : Device) (event : Event) :
    Decidable (TakenInside mode device event) :=
  match event with
  | .receive _ _ => inferInstanceAs (Decidable (_ ∧ _))
  | .connect | .disconnect _ => .isFalse fun taken => taken

theorem Staged.packs {bytes : List UInt8} {staging : Staging} (staged : Staged bytes staging)
    (aligned : staging.bytePos.toNat = bytes.length % 8) : Packs bytes staging where
  entries := staged.count
  bytePos := aligned
  reads index inside offset small := by
    rw [staged.words index inside]
    exact byteOf_wordAt bytes index offset small

theorem staged_empty {staging : Staging} (aligned : staging.bytePos = 0)
    (empty : staging.contBuff = 0xFFFF) :
    Staged [] staging ∧ staging.bytePos.toNat = ([] : List UInt8).length % 8 := by
  have position : staging.bytePos.toNat = 0 := congrArg UInt8.toNat aligned
  exact ⟨staged_nil empty (by omega), position⟩

theorem Staged.more {bytes more : List UInt8} {staging : Staging} (staged : Staged bytes staging)
    (aligned : staging.bytePos.toNat = bytes.length % 8) (short : (bytes ++ more).length ≤ 256) :
    Staged (bytes ++ more) (more.foldl stageByte staging) ∧
      (more.foldl stageByte staging).bytePos.toNat = (bytes ++ more).length % 8 := by
  rw [List.length_append] at short
  refine ⟨stageBytes_aligned more staged aligned (by omega), ?_⟩
  rw [stageBytes_bytePos more staging staged.small, aligned, List.length_append]
  omega

theorem stageBytes_payloads (payloads : List (List UInt8)) (device : Device) :
    (payloads.foldl (fun device payload => stageBytes payload device) device).staging =
      payloads.flatten.foldl stageByte device.staging := by
  induction payloads generalizing device with
  | nil => rfl
  | cons payload rest ih => rw [List.foldl_cons, ih, List.flatten_cons, List.foldl_append]; rfl

section Window

variable {gcm : AesGcm} {hardware : Hardware} {mode : Mode} {packet : Packet} {device : Device}

theorem storePacket_staging (isAccepted : accepts mode packet device = true) :
    (storePacket gcm hardware mode packet device).staging =
      (payload gcm hardware mode packet device).foldl stageByte device.staging := by
  have stored : storedBytes gcm hardware mode packet device =
      payload gcm hardware mode packet device := if_pos isAccepted
  rw [← stored, ← intake_staging]
  cases mode with
  | raw =>
      have same := congrArg Device.staging (storeRawPacket_eq gcm hardware packet device)
      exact same
  | secure =>
      simp only [accepts, Mode.dataType, Bool.and_eq_true] at isAccepted
      have same := congrArg Device.staging
        (storeSecurePacket_eq gcm hardware packet device isAccepted.1)
      exact same

/-- What the buffer holds of the packets of the window so far, if they fit. -/
def Gathers (gcm : AesGcm) (mode : Mode) (log : List (Device × Event)) (device : Device) : Prop :=
  (log.flatMap (payloadOf gcm mode)).length ≤ 256 →
    Staged (log.flatMap (payloadOf gcm mode)) device.staging ∧
      device.staging.bytePos.toNat = (log.flatMap (payloadOf gcm mode)).length % 8

theorem Gathers.step {log : List (Device × Event)} {event : Event}
    (gathers : Gathers gcm mode log device) (taken : TakenInside mode device event) :
    Gathers gcm mode (log ++ [(device, event)]) (step gcm device event) := by
  cases event with
  | connect | disconnect => exact taken.elim
  | receive packet hardware =>
      obtain ⟨booted, status, isAccepted, isInside⟩ := taken
      intro short
      rw [List.flatMap_append, List.flatMap_singleton] at short ⊢
      obtain ⟨staged, aligned⟩ := gathers (by rw [List.length_append] at short; omega)
      have stored : storedBytes gcm hardware mode packet device =
          payloadOf gcm mode (device, .receive packet hardware) := if_pos isAccepted
      rw [step_counted gcm hardware booted status (counted_of_accepts isAccepted), isInside,
        if_neg (by decide), intake_staging, storedBytes_cleared, stored]
      exact staged.cleared.more aligned short

end Window

/-- Whatever `flash_buff` held before, the loops fill it with the payloads, one after the other:
with any payloads at all, and with those of any packets of a window that are accepted. -/
theorem packing_exact (gcm : AesGcm) (device : Device) (aligned : device.staging.bytePos = 0)
    (empty : device.staging.contBuff = 0xFFFF) :
    (∀ payloads : List (List UInt8), payloads.flatten.length ≤ 256 →
      Packs payloads.flatten
        (payloads.foldl (fun device payload => stageBytes payload device) device).staging) ∧
    ∀ (mode : Mode) (before : List Event) (packet : Packet) (hardware : Hardware),
      Along (step gcm) (TakenInside mode) device before →
      let last := runFrom (step gcm) device before
      let payloads := ((history (step gcm) device before).map (payloadOf gcm mode)) ++
        [payload gcm hardware mode packet last]
      accepts mode packet last = true → payloads.flatten.length ≤ 256 →
        Packs payloads.flatten (storePacket gcm hardware mode packet last).staging := by
  refine ⟨?_, ?_⟩
  · intro payloads short
    obtain ⟨staged, position⟩ := staged_empty aligned empty
    obtain ⟨all, after⟩ := staged.more position (by rwa [List.nil_append])
    rw [stageBytes_payloads]
    exact all.packs after
  · intro mode before packet hardware taken last payloads isAccepted short
    have gathers : Gathers gcm mode (history (step gcm) device before) last := by
      have start : Gathers gcm mode [] device := fun _ => staged_empty aligned empty
      have whole := taken.invariant_history
        (fun _ _ _ gathers taken => Gathers.step gathers taken) start
      rwa [List.nil_append] at whole
    have split : payloads.flatten =
        (history (step gcm) device before).flatMap (payloadOf gcm mode) ++
          payload gcm hardware mode packet last := by
      rw [List.flatten_append, List.flatten_singleton, List.flatMap_def]
    rw [split] at short ⊢
    obtain ⟨staged, position⟩ := gathers (by rw [List.length_append] at short; omega)
    obtain ⟨all, after⟩ := staged.more position short
    rw [storePacket_staging isAccepted]
    exact all.packs after

theorem packing_exact_short_packets :
    let gcm := AesGcm.ofTables [] []
    let begun := run gcm (fun _ => 0)
      [.connect, .receive (.ofBytes [0xbb, 1, 0, 2, 2] (by decide)) (.working 0)]
    let before := [Event.receive (.ofBytes [0xbb, 0, 0, 1, 2, 3, 6] (by decide)) (.working 0)]
    let packet := Packet.ofBytes [0xbb, 0, 1, 4, 5, 6, 7, 8, 9, 10, 49] (by decide)
    Packs [1, 2, 3, 4, 5, 6, 7, 8, 9, 10] (storePacket gcm (.working 0) .raw packet
      (runFrom (step gcm) begun before)).staging :=
  (packing_exact (.ofTables [] [])
    (run (.ofTables [] []) (fun _ => 0)
      [.connect, .receive (.ofBytes [0xbb, 1, 0, 2, 2] (by decide)) (.working 0)])
    (by decide +kernel) (by decide +kernel)).2 .raw
    [.receive (.ofBytes [0xbb, 0, 0, 1, 2, 3, 6] (by decide)) (.working 0)]
    (.ofBytes [0xbb, 0, 1, 4, 5, 6, 7, 8, 9, 10, 49] (by decide)) (.working 0)
    (by decide +kernel) (by decide +kernel) (by decide +kernel)

end BleFwUpdate
