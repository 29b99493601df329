import BleFwUpdate.Device

/-! `flash_manager.c`, and the calls of the flash HAL it makes. -/

namespace BleFwUpdate

def flashBank1 : UInt32 := 0x4
def flashBank2 : UInt32 := 0x8000
def flashTypeErasePages : UInt32 := 0x2
def flashTypeEraseMass : UInt32 := 0x4
def flashPageSize : Nat := 0x800

def halFlashUnlock (hardware : Hardware) (device : Device) : Bool × Device :=
  -- The key sequence is only written when the lock bit is set.
  if device.flashLocked then (hardware.unlock, { device with flashLocked := !hardware.unlock })
  else (true, device)

def halFlashLock (device : Device) : Device := { device with flashLocked := true }

def halFlashProgram (ok : Bool) (address : UInt32) (data : UInt64) (device : Device) : Device :=
  let device := device.emit (.program address data ok)
  if ok then
    { device with flash := fun other => if other = address then data else device.flash other }
  else device

/-- The addresses `FLASH_PageErase` clears: every bank but `FLASH_BANK_1` selects bank 2. -/
def inPage (banks : UInt32) (page : Nat) (address : UInt32) : Prop :=
  let start := (if banks = flashBank1 then 0x08000000 else 0x08040000) + page * flashPageSize
  start ≤ address.toNat ∧ address.toNat < start + flashPageSize

instance (banks : UInt32) (page : Nat) (address : UInt32) : Decidable (inPage banks page address) :=
  inferInstanceAs (Decidable (_ ∧ _))

/-- The addresses a mass erase clears: the bits of `Banks` select the banks. -/
def inMassErase (banks address : UInt32) : Prop :=
  (banks &&& flashBank1 ≠ 0 ∧ 0x08000000 ≤ address.toNat ∧ address.toNat < 0x08040000) ∨
  (banks &&& flashBank2 ≠ 0 ∧ 0x08040000 ≤ address.toNat ∧ address.toNat < 0x08080000)

instance (banks address : UInt32) : Decidable (inMassErase banks address) :=
  inferInstanceAs (Decidable (_ ∨ _))

def erasedBy (request : EraseInit) (pages : Nat) (address : UInt32) : Prop :=
  if request.typeErase = flashTypeEraseMass then inMassErase request.banks address
  else ∃ offset < pages, inPage request.banks (request.page.toNat + offset) address

instance (request : EraseInit) (pages : Nat) (address : UInt32) :
    Decidable (erasedBy request pages address) :=
  inferInstanceAs (Decidable (if request.typeErase = flashTypeEraseMass then
    inMassErase request.banks address
  else ∃ offset < pages, inPage request.banks (request.page.toNat + offset) address))

/-- The number of turns of the page loop `Page <= index < Page + NbPages`, in 32 bits. -/
def EraseInit.pageCount (request : EraseInit) : Nat :=
  (request.page + request.nbPages).toNat - request.page.toNat

/-- The flash after a request whose page loop an error stops, if there is one. -/
def erasedFlash (hardware : Hardware) (assigned : Option EraseInit) (flash : UInt32 → UInt64) :
    UInt32 → UInt64 :=
  let request := assigned.getD hardware.eraseStack
  let pages := match hardware.eraseError with
    | none => request.pageCount
    | some faulty => min faulty request.pageCount
  fun address => if erasedBy request pages address then 0xFFFFFFFFFFFFFFFF else flash address

def halFlashExErase (hardware : Hardware) (assigned : Option EraseInit) (device : Device) :
    Bool × Device :=
  let ok := hardware.eraseError.isNone
  let device := device.emit (.erase assigned ok)
  (ok, { device with flash := erasedFlash hardware assigned device.flash })

def setStartPageAddress (appToUpload : FlashAppType) (device : Device) : Bool × Device :=
  match appToUpload with
  | .flashAppFullSpace | .flashApp1 => (true, { device with startPageAddress := flashApp1Addr })
  | .flashApp2 => (true, { device with startPageAddress := flashApp2Addr })
  | _ => (false, device)

/-- The loop of `Write_FW_to_flash`, with `left` double words to go after `sofar`. -/
def programFrom (hardware : Hardware) (dataToFlash : Nat → UInt64) :
    Nat → Nat → Device → Bool × Device
  | 0, _, device => (true, device)
  | left + 1, sofar, device =>
      let ok := hardware.program sofar
      let device := { device with staging := device.staging.touch sofar }
      let device := halFlashProgram ok device.startPageAddress (dataToFlash sofar) device
      if ok then
        programFrom hardware dataToFlash left (sofar + 1)
          { device with startPageAddress := device.startPageAddress + 8 }
      else (false, device)

def writeFwToFlash (hardware : Hardware) (dataToFlash : Nat → UInt64) (numBytes : UInt16)
    (device : Device) : Bool × Device :=
  let (unlocked, device) := halFlashUnlock hardware device
  if !unlocked then (false, device)
  else
    -- `num_bytes`, a count of double words, is cut down to 8 bits.
    let (written, device) := programFrom hardware dataToFlash numBytes.toUInt8.toNat 0 device
    if written then (true, halFlashLock device) else (false, device)

/-- The request `Prepare_Application_Memory` fills in; no field is assigned for
a value other than the three slots. -/
def eraseRequest : FlashAppType → Option EraseInit
  | .flashAppFullSpace => some ⟨flashBank2, 0, 128, flashTypeErasePages⟩
  | .flashApp1 => some ⟨flashBank2, 0, 64, flashTypeErasePages⟩
  | .flashApp2 => some ⟨flashBank2, 64, 64, flashTypeErasePages⟩
  | _ => none

def prepareApplicationMemory (hardware : Hardware) (appToUpload : FlashAppType)
    (device : Device) : Bool × Device :=
  -- A failure of the unlock is only printed.
  let (_, device) := halFlashUnlock hardware device
  let (erased, device) := halFlashExErase hardware (eraseRequest appToUpload) device
  if !erased then (false, halFlashLock device)
  else setStartPageAddress appToUpload (halFlashLock device)

def go2App (appSelected : FlashAppType) (device : Device) : Device :=
  { device.emit (.go2App appSelected) with running := some appSelected }

end BleFwUpdate
