import BleFwUpdate.Packet
import BleFwUpdate.Cipher

/-! The state of the device: the globals of `message_handler.c`, `flash_manager.c`,
`rand_generator.c` and `service.c`, the flash memory, and what the hardware and the
libraries answer while one event is handled. -/

namespace BleFwUpdate

inductive ConnectionStatus
  | idle
  | connected
  | recevingRawFw
  | recevingSecureFw
  | closingConnection
  deriving DecidableEq, Repr

/-- `FlashAppType` is one byte wide, and `AppToUpdate` takes its value from a received
byte, so that it can also hold a byte that is no enumerator. -/
inductive FlashAppType
  | flashAppFullSpace
  | flashApp1
  | flashApp2
  | none
  | unknown (code : UInt8) (above : 4 ≤ code)
  deriving DecidableEq, Repr

def FlashAppType.ofByte (byte : UInt8) : FlashAppType :=
  if above : 4 ≤ byte then .unknown byte above
  else if byte = 0 then .flashAppFullSpace
  else if byte = 1 then .flashApp1
  else if byte = 2 then .flashApp2
  else .none

structure EraseInit where
  banks : UInt32
  page : UInt32
  nbPages : UInt32
  typeErase : UInt32
  deriving DecidableEq, Repr

/-- What the device does to the outside while it handles one event, in order.
An erase request is `none` where the structure handed over was never filled in. -/
inductive Effect
  | erase (request : Option EraseInit) (ok : Bool)
  | program (address : UInt32) (data : UInt64) (ok : Bool)
  | response (bytes : List UInt8)
  | encrypt (iv : Iv) (addData plaintext : List UInt8)
  | decrypt (iv : Iv) (addData ciphertext tag : List UInt8) (ok : Bool)
  | go2App (app : FlashAppType)
  deriving DecidableEq

/-- The answers of the HAL, of cmox and of uninitialised memory while one event is
handled. No event makes more than one call of `Write_FW_to_flash`, of
`Prepare_Application_Memory`, of `send_ack` or of `decrypt_data`. -/
structure Hardware where
  -- whether the key sequence of `HAL_FLASH_Unlock` opens a locked control register
  unlock : Bool
  -- whether the call of `HAL_FLASH_Program` for this double word returns `HAL_OK`
  program : Nat → Bool
  -- the number of pages after which `HAL_FLASHEx_Erase` stops with an error, if it does
  eraseError : Option Nat
  -- what `pEraseInit` holds before it is assigned
  eraseStack : EraseInit
  -- what `msg[3]` of `send_ack` holds before it is assigned
  msgStack : UInt8
  -- `__HAL_TIM_GetCounter(&htim1)`
  timer : UInt16
  -- the `computed_size` bytes of `Computed_Plaintext` when the tag check fails
  rejected : List UInt8

def Hardware.working (timer : UInt16) : Hardware where
  unlock := true
  program _ := true
  eraseError := none
  eraseStack := { banks := 0, page := 0, nbPages := 0, typeErase := 0 }
  msgStack := 0
  timer := timer
  rejected := List.replicate 15 0

/-- `flash_buff` with the two variables that say how far it is filled. The array is
modelled with the memory behind it, so that an index past its end is an access like any other. -/
structure Staging where
  flashBuff : Nat → UInt64
  bytePos : UInt8
  contBuff : UInt16
  -- history variable: the indices at which the event handled last accessed `flash_buff`
  touched : List Nat
  -- history variable: the indices that the packets of the open window were staged at
  entries : List Nat

def Staging.touch (staging : Staging) (index : Nat) : Staging :=
  { staging with touched := staging.touched ++ [index] }

/-- `cont_buff = -1`, the only thing done to empty the buffer. -/
def Staging.discard (staging : Staging) : Staging :=
  { staging with contBuff := 0xFFFF, entries := [] }

structure Device where
  connected : Bool
  setConnectable : Bool
  connectionStatus : ConnectionStatus
  staging : Staging
  totalPck : UInt16
  countPck : UInt16
  appToUpdate : FlashAppType
  nextAck : Bool
  oldAck : Bool
  iv : Iv
  randIv : Vector UInt8 3
  reg : UInt16
  startPageAddress : UInt32
  -- the lock bit of the flash control register
  flashLocked : Bool
  -- flash contents, by the address of the double word
  flash : UInt32 → UInt64
  -- the application that runs instead of this program, once `go2App` has been called
  running : Option FlashAppType
  -- history variable: what the event handled last did, in order
  effects : List Effect

def flashApp1Addr : UInt32 := 0x08040000
def flashApp2Addr : UInt32 := 0x08060000

/-- The initial values of the globals. The flash holds what it held before the reset. -/
def powerOn (flash : UInt32 → UInt64) : Device where
  connected := false
  setConnectable := true
  connectionStatus := .idle
  staging := { flashBuff := fun _ => 0, bytePos := 0, contBuff := 0xFFFF, touched := [], entries := [] }
  totalPck := 0
  countPck := 0
  appToUpdate := .none
  nextAck := true
  oldAck := false
  iv := initialIv
  randIv := #v[0, 0, 0]
  reg := 0
  startPageAddress := flashApp1Addr
  flashLocked := true
  flash := flash
  running := none
  effects := []

def Device.emit (device : Device) (effect : Effect) : Device :=
  { device with effects := device.effects ++ [effect] }

end BleFwUpdate
