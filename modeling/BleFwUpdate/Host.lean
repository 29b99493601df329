import Mathlib.Data.UInt
import BleFwUpdate.Cipher

/-! `FW_Update_GUI.py`: the task `send_new_fw` and the callback `read_response`. -/

namespace BleFwUpdate

inductive HostStatus
  | idle
  | initPhase
  | initCryptoPhase
  | sendingData
  | sendingCryptoData
  | closingPhase
  deriving DecidableEq, Repr

/-- Where `send_new_fw` has given up control: at a `sleep` after which its loop goes on, in one
of the waits for `ack_rcv`, or at the write of its NAK. An exception ends it. -/
inductive Suspended
  | toLoop
  | startSent
  | windowSent
  | nakSent
  | raised
  deriving DecidableEq, Repr

inductive AppSelected
  | appFullSpace
  | app1
  | app2
  deriving DecidableEq, Repr

/-- The globals of the program, then the locals of `send_new_fw`. -/
structure Host where
  ackRcv : Bool
  isAck : Bool
  msgTampered : Bool
  security : Bool
  randIv : List UInt8
  iv : Iv
  connectionStatus : HostStatus
  suspended : Suspended
  chunks : List (List UInt8)
  selectedAppUpdate : UInt8
  contChunck : Int
  nackLoop : Nat

def initialHost : Host where
  ackRcv := false
  isAck := true
  msgTampered := false
  security := false
  randIv := [0, 0, 0]
  iv := initialIv
  connectionStatus := .idle
  suspended := .toLoop
  chunks := []
  selectedAppUpdate := 0
  contChunck := 0
  nackLoop := 0

/-- `[data[i:i + chunk_size] for i in range(0, len(data), chunk_size)]` -/
def chunksOf (chunkSize : Nat) (data : List UInt8) : List (List UInt8) :=
  (List.range ((data.length + chunkSize - 1) / chunkSize)).map fun index =>
    (data.drop (index * chunkSize)).take chunkSize

/-- `chunk.ljust(size, b"0")` -/
def ljust (size : Nat) (chunk : List UInt8) : List UInt8 :=
  chunk ++ List.replicate (size - chunk.length) 0x30

def pyIndex (chunks : List (List UInt8)) (index : Int) : Option (List UInt8) :=
  -- An index below zero counts from the end.
  if 0 ≤ index then chunks[index.toNat]?
  else if 0 ≤ chunks.length + index then chunks[(chunks.length + index).toNat]?
  else none

/-- `selected_app_update == AppSelected.APP_1`, and the like: an `int` is compared with a
member of an `Enum`, which is never equal to it. -/
def equalsMember (_selected : UInt8) (_member : AppSelected) : Bool := false

def tooBig (selected : UInt8) (numChunks chunkSize : Nat) : Bool :=
  if equalsMember selected .appFullSpace then decide (numChunks * chunkSize > 256000)
  else if equalsMember selected .app1 then decide (numChunks * chunkSize > 128000)
  else if equalsMember selected .app2 then decide (numChunks * chunkSize > 128000)
  else false

def beginUpload (secure : Bool) (selected : UInt8) (data : List UInt8) (host : Host) : Host :=
  let chunkSize := if secure then 15 else 16
  let chunks := chunksOf chunkSize data
  { host with
    security := secure
    connectionStatus :=
      if tooBig selected chunks.length chunkSize then .closingPhase
      else if secure then .initCryptoPhase else .initPhase
    suspended := .toLoop
    chunks := chunks
    selectedAppUpdate := selected
    contChunck := 0
    nackLoop := 0 }

def startMsg (cmd : UInt8) (host : Host) : Option (List UInt8) :=
  -- `to_bytes` raises an exception for a number that does not fit.
  if host.chunks.length < 65536 then
    let high := UInt8.ofNat (host.chunks.length / 256)
    let low := UInt8.ofNat host.chunks.length
    some [cmd, host.selectedAppUpdate, high, low, high + low]
  else none

def rawMsg (number : Nat) (chunk : List UInt8) : List UInt8 :=
  [0xbb, UInt8.ofNat (number / 256), UInt8.ofNat number] ++ ljust 16 chunk ++
    [(ljust 16 chunk).sum]

def secureMsg (gcm : AesGcm) (iv : Iv) (number : Int) (chunk : List UInt8) : List UInt8 :=
  let header := 0xc0 ||| UInt8.ofNat (number % 16).toNat
  let sealed := gcm.encrypt iv [header] (ljust 15 chunk)
  header :: (sealed.1 ++ sealed.2)

def hostNextIv (iv : Iv) (randIv : List UInt8) : Option Iv :=
  match randIv with
  | first :: second :: third :: _ => some (nextIv iv #v[first, second, third])
  | _ => none

def Host.raise (host : Host) : Host := { host with suspended := .raised }

def sendStart (cmd : UInt8) (host : Host) : Host × List (List UInt8) :=
  match startMsg cmd host with
  | some msg => ({ host with suspended := .startSent }, [msg])
  | none => (host.raise, [])

def countChunk (window : Int) (host : Host) : Host :=
  let cont := host.contChunck + 1
  { host with
    contChunck := cont
    suspended :=
      if cont % window = 0 ∨ cont = host.chunks.length then .windowSent else .toLoop }

def sendRawChunk (host : Host) : Host × List (List UInt8) :=
  match pyIndex host.chunks host.contChunck with
  | some chunk =>
      if 0 ≤ host.contChunck ∧ host.contChunck < 65536 then
        (countChunk 10 host, [rawMsg host.contChunck.toNat chunk])
      else (host.raise, [])
  | none => (host.raise, [])

def sendSecureChunk (gcm : AesGcm) (host : Host) : Host × List (List UInt8) :=
  match pyIndex host.chunks host.contChunck, hostNextIv host.iv host.randIv with
  | some chunk, some iv =>
      (countChunk 16 { host with iv := iv }, [secureMsg gcm iv host.contChunck chunk])
  | _, _ => (host.raise, [])

def readVerdict (window : Int) (goOn : Bool) (host : Host) : Host :=
  let host := { host with ackRcv := false, suspended := .toLoop }
  if host.isAck then { host with nackLoop := 0 }
  else
    let host := { host with contChunck := host.contChunck - window, nackLoop := host.nackLoop + 1 }
    -- At the fifth NAK in a row the user is asked whether to go on.
    if host.nackLoop = 5 then
      if goOn then { host with nackLoop := 0 } else { host with connectionStatus := .closingPhase }
    else host

def readAdmission (next : HostStatus) (host : Host) : Host :=
  { host with
    ackRcv := false
    suspended := .toLoop
    contChunck := 0
    connectionStatus := if host.isAck then next else .closingPhase }

/-- `send_new_fw` from one point where it gives up control to the next, with the messages it
writes in between; nothing if it cannot go on. -/
def resume (gcm : AesGcm) (goOn : Bool) (host : Host) : Option (Host × List (List UInt8)) :=
  match host.suspended, host.connectionStatus with
  | .toLoop, .initPhase => some (sendStart 0xbb host)
  | .toLoop, .initCryptoPhase => some (sendStart 0xbc { host with security := true })
  | .startSent, .initPhase =>
      if host.ackRcv then some (readAdmission .sendingData host, []) else none
  | .startSent, .initCryptoPhase =>
      if host.ackRcv then some (readAdmission .sendingCryptoData host, []) else none
  | .toLoop, .sendingData =>
      if host.contChunck < host.chunks.length then some (sendRawChunk host)
      else some ({ host with connectionStatus := .closingPhase }, [])
  | .toLoop, .sendingCryptoData =>
      if host.contChunck < host.chunks.length then some (sendSecureChunk gcm host)
      else some ({ host with connectionStatus := .closingPhase }, [])
  | .windowSent, .sendingData =>
      if host.ackRcv then some (readVerdict 10 goOn host, []) else none
  | .windowSent, .sendingCryptoData =>
      if host.msgTampered then some ({ host with suspended := .nakSent }, [[0x01]])
      else if host.ackRcv then some (readVerdict 16 goOn host, []) else none
  | .nakSent, _ =>
      some ({ host with msgTampered := false, ackRcv := false, suspended := .windowSent }, [])
  | _, _ => none

def decryptMessage (gcm : AesGcm) (host : Host) (data : List UInt8) : Option (List UInt8) :=
  -- The tag is what is left of the message, whatever its length.
  gcm.decrypt host.iv (data.take 1) ((data.drop 1).take 5) (data.drop 6)

def readResponse (gcm : AesGcm) (data : List UInt8) (host : Host) : Host :=
  if !host.security then
    -- Only the first byte is looked at.
    match data with
    | [] => host
    | flag :: _ => { host with isAck := flag == 0, ackRcv := true }
  else
    match decryptMessage gcm host data with
    | some (first :: rest) =>
        let host := { host with msgTampered := false, ackRcv := true }
        if data.headD 0 >>> 4 = 0 then
          { host with randIv := (first :: rest).drop 2, isAck := true }
        else { host with isAck := false }
    | _ => { host with msgTampered := true, ackRcv := true }

def endUpload (host : Host) : Host :=
  { host with connectionStatus := .idle, iv := initialIv }

end BleFwUpdate
