import BleFwUpdate.Turns

/-! The two checks of the size of an image: that of the host before an upload, and that of the
device in answer to its START. -/

namespace BleFwUpdate

/-- The identifiers of the radio buttons. -/
def AppSelected.checkedId : AppSelected → UInt8
  | .appFullSpace => 0
  | .app1 => 1
  | .app2 => 2

def AppSelected.app (slot : AppSelected) : FlashAppType := .ofByte slot.checkedId

/-- The bytes of the slot, as `Prepare_Application_Memory` erases it. -/
def erasedBytes (app : FlashAppType) : Nat :=
  match eraseRequest app with
  | some request => request.nbPages.toNat * flashPageSize
  | none => 0

/-- The test in `send_new_fw` lets the upload start. -/
def HostLets (mode : Mode) (slot : AppSelected) (image : List UInt8) (host : Host) : Prop :=
  (beginUpload (mode == .secure) slot.checkedId image host).connectionStatus ≠ .closingPhase

/-- The host announces a packet count, and `checkFWSize` accepts it. -/
def DeviceLets (mode : Mode) (slot : AppSelected) (image : List UInt8) (host : Host) : Prop :=
  ∃ msg, ∃ short : msg.length ≤ 20,
    startMsg mode.startCmd (beginUpload (mode == .secure) slot.checkedId image host) = some msg ∧
      checkFwSize ((Packet.ofBytes msg short).number 2) mode.checkedLen
        (requestedApp (Packet.ofBytes msg short)) = true

def HasRoom (mode : Mode) (slot : AppSelected) (image : List UInt8) : Prop :=
  (chunksOf mode.stored image).length * mode.stored ≤ erasedBytes slot.app

def SizeChecksExact (mode : Mode) (slot : AppSelected) (image : List UInt8) (host : Host) : Prop :=
  (HostLets mode slot image host ↔ DeviceLets mode slot image host) ∧
    (HostLets mode slot image host ↔ HasRoom mode slot image) ∧
    (DeviceLets mode slot image host ↔ HasRoom mode slot image)

/-- The whole packets that the slot has room for, in bytes. -/
def largestImage (mode : Mode) (slot : AppSelected) : Nat :=
  match mode, slot with
  | .raw, .appFullSpace => 262144
  | .raw, _ => 131072
  | .secure, .appFullSpace => 262140
  | .secure, _ => 131070

section Checks

variable {mode : Mode} {slot : AppSelected} {image : List UInt8} {host : Host}

/-- The test of the host never fires. -/
theorem hostLets : HostLets mode slot image host := by
  cases mode <;> simp [HostLets, beginUpload, tooBig, equalsMember]

theorem slotAddress_app : ∃ base, slotAddress slot.app = some base := by
  cases slot <;> exact ⟨_, rfl⟩

theorem erasedBytes_app :
    erasedBytes slot.app = match slot with
      | .appFullSpace => 262144
      | _ => 131072 := by
  cases slot <;> rfl

theorem sizeLimit_app :
    sizeLimit slot.app = match slot with
      | .appFullSpace => 256000
      | _ => 128000 := by
  cases slot <;> rfl

theorem deviceLets_iff :
    DeviceLets mode slot image host ↔
      (chunksOf mode.stored image).length < 65536 ∧
        (chunksOf mode.stored image).length * mode.checkedLen.toNat < 2 * sizeLimit slot.app := by
  obtain ⟨base, place⟩ := @slotAddress_app slot
  have chunks := chunks_beginUpload mode slot.checkedId image host
  rw [DeviceLets, startMsg, chunks]
  generalize chunksOf mode.stored image = sent
  by_cases few : sent.length < 65536
  · have accepted := checkFwSize_iff place mode few
    have count := number_startPacket mode.startCmd slot.checkedId sent.length
    simp only [few, true_and]
    rw [← accepted, ← count]
    constructor
    · rintro ⟨msg, short, made, checked⟩
      obtain rfl := Option.some.inj made
      exact checked
    · exact fun checked => ⟨_, by simp, rfl, checked⟩
  · simp [few]

theorem deviceLets_of_hasRoom (room : HasRoom mode slot image) :
    DeviceLets mode slot image host := by
  rw [HasRoom, erasedBytes_app] at room
  rw [deviceLets_iff, sizeLimit_app]
  cases mode <;> cases slot <;>
    simp only [Mode.stored, Mode.checkedLen, payloadLen, securePayloadLen, UInt8.reduceToNat]
      at room ⊢ <;>
    omega

theorem sizeChecksExact_iff_hasRoom :
    SizeChecksExact mode slot image host ↔ HasRoom mode slot image := by
  constructor
  · exact fun checks => checks.2.1.mp hostLets
  · intro room
    exact ⟨iff_of_true hostLets (deviceLets_of_hasRoom room), iff_of_true hostLets room,
      iff_of_true (deviceLets_of_hasRoom room) room⟩

end Checks

/-- The checks are as they should be exactly for the images that fit: none that does not fit is
stopped by the host, and few by the device. -/
theorem sizeChecksExact_iff (mode : Mode) (slot : AppSelected) (image : List UInt8)
    (host : Host) :
    SizeChecksExact mode slot image host ↔ image.length ≤ largestImage mode slot := by
  rw [sizeChecksExact_iff_hasRoom, HasRoom, length_chunksOf, erasedBytes_app]
  cases mode <;> cases slot <;> simp only [Mode.stored, largestImage] <;> omega

/-- A byte more than APP_1 has room for passes both checks, and twice 256000 bytes for the whole
space pass that of the host. -/
theorem oversized_image_let_through :
    (HostLets .raw .app1 (List.replicate 131073 0) initialHost ∧
      DeviceLets .raw .app1 (List.replicate 131073 0) initialHost ∧
      ¬ HasRoom .raw .app1 (List.replicate 131073 0) ∧
      ¬ SizeChecksExact .raw .app1 (List.replicate 131073 0) initialHost) ∧
    (HostLets .raw .appFullSpace (List.replicate 512000 0) initialHost ∧
      ¬ DeviceLets .raw .appFullSpace (List.replicate 512000 0) initialHost) := by
  have noRoom : ¬ HasRoom .raw .app1 (List.replicate 131073 0) := by
    rw [HasRoom, length_chunksOf, List.length_replicate, erasedBytes_app]
    decide
  refine ⟨⟨hostLets, ?_, noRoom, mt sizeChecksExact_iff_hasRoom.mp noRoom⟩, hostLets, ?_⟩
  · rw [deviceLets_iff, length_chunksOf, List.length_replicate, sizeLimit_app]
    decide
  · rw [deviceLets_iff, length_chunksOf, List.length_replicate, sizeLimit_app]
    decide

end BleFwUpdate
