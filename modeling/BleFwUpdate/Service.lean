import BleFwUpdate.General.Transitions
import BleFwUpdate.MessageHandler

/-! The callbacks of `service.c`, and the device as a machine driven by them. -/

namespace BleFwUpdate

open Transitions

def gapConnectionCompleteCb (device : Device) : Device :=
  { device with connected := true, connectionStatus := .connected }

def gapDisconnectionCompleteCb (hardware : Hardware) (device : Device) : Device :=
  let device := { device with connected := false, connectionStatus := .idle }
  -- Nothing after the call of `go2App` is executed.
  if device.countPck = device.totalPck ∧ device.totalPck ≠ 0 then go2App device.appToUpdate device
  else
    let device := { device with countPck := 0, staging := device.staging.discard }
    let (_, device) := prepareApplicationMemory hardware device.appToUpdate device
    { device with setConnectable := true }

inductive Event
  | connect
  | disconnect (hardware : Hardware)
  | receive (packet : Packet) (hardware : Hardware)

def handleEvent (gcm : AesGcm) (device : Device) : Event → Device
  | .connect => gapConnectionCompleteCb device
  | .disconnect hardware => gapDisconnectionCompleteCb hardware device
  | .receive packet hardware => dataHandler gcm hardware packet device

def Device.cleared (device : Device) : Device :=
  { device with effects := [], staging := { device.staging with touched := [] } }

section Cleared

variable (device : Device)

@[simp] theorem cleared_connected : device.cleared.connected = device.connected := rfl
@[simp] theorem cleared_connectionStatus : device.cleared.connectionStatus = device.connectionStatus := rfl
@[simp] theorem cleared_totalPck : device.cleared.totalPck = device.totalPck := rfl
@[simp] theorem cleared_countPck : device.cleared.countPck = device.countPck := rfl
@[simp] theorem cleared_appToUpdate : device.cleared.appToUpdate = device.appToUpdate := rfl
@[simp] theorem cleared_nextAck : device.cleared.nextAck = device.nextAck := rfl
@[simp] theorem cleared_oldAck : device.cleared.oldAck = device.oldAck := rfl
@[simp] theorem cleared_iv : device.cleared.iv = device.iv := rfl
@[simp] theorem cleared_randIv : device.cleared.randIv = device.randIv := rfl
@[simp] theorem cleared_reg : device.cleared.reg = device.reg := rfl
@[simp] theorem cleared_startPageAddress : device.cleared.startPageAddress = device.startPageAddress := rfl
@[simp] theorem cleared_flashLocked : device.cleared.flashLocked = device.flashLocked := rfl
@[simp] theorem cleared_running : device.cleared.running = device.running := rfl
@[simp] theorem cleared_flashBuff : device.cleared.staging.flashBuff = device.staging.flashBuff := rfl
@[simp] theorem cleared_bytePos : device.cleared.staging.bytePos = device.staging.bytePos := rfl
@[simp] theorem cleared_contBuff : device.cleared.staging.contBuff = device.staging.contBuff := rfl
@[simp] theorem cleared_entries : device.cleared.staging.entries = device.staging.entries := rfl
@[simp] theorem cleared_touched : device.cleared.staging.touched = [] := rfl
@[simp] theorem cleared_effects : device.cleared.effects = [] := rfl

end Cleared

/-- One step of the device. An application that has been jumped to never comes back. -/
def step (gcm : AesGcm) (device : Device) (event : Event) : Device :=
  if device.running.isSome then device.cleared else handleEvent gcm device.cleared event

/-- The device is advertising, and can be connected to, only while it has no connection;
a connection can end only while there is one. -/
def Alternates (device : Device) : Event → Prop
  | .connect => device.connected = false
  | .disconnect _ => device.connected = true
  | .receive _ _ => True

instance (device : Device) (event : Event) : Decidable (Alternates device event) :=
  match event with
  | .connect => inferInstanceAs (Decidable (device.connected = false))
  | .disconnect _ => inferInstanceAs (Decidable (device.connected = true))
  | .receive _ _ => .isTrue trivial

def run (gcm : AesGcm) (flash : UInt32 → UInt64) (events : List Event) : Device :=
  runFrom (step gcm) (powerOn flash) events

theorem run_concat (gcm : AesGcm) (flash : UInt32 → UInt64) (events : List Event)
    (event : Event) : run gcm flash (events ++ [event]) = step gcm (run gcm flash events) event := by
  simp [run, runFrom_append]

end BleFwUpdate
