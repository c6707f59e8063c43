import GatewayF411.Lib.SlotScan
import GatewayF411.Env

/-!
The data of the gateway firmware: the device table, the cloud mirror, the radio
queue, the synchronisation variables and everything sent to the WiFi module.
Arrays are total functions of the index; the bounds are invariants of the table.
-/

set_option autoImplicit false

namespace GatewayF411
open CText

inductive RtErr where
  | eok | error
  deriving DecidableEq, Repr

def maxSupport : Nat := 50

def mainSupport : Nat := 3

/-- `Device_Info`. A slot with `id = 0` is free; slot 0 is never used. -/
structure DeviceInfo where
  num : Nat
  mainNum : Nat
  rssi : Nat → UInt8
  moto : Nat → UInt8
  heart : Nat → UInt8
  heartRetry : Nat → UInt8
  heartCount : Nat → UInt8
  heartRecv : Nat → UInt8
  uploadFlag : Nat → UInt8
  syncRetry : Nat → UInt8
  id : Nat → UInt32
  bindId : Nat → UInt32

def DeviceInfo.zero : DeviceInfo where
  num := 0
  mainNum := 0
  rssi _ := 0
  moto _ := 0
  heart _ := 0
  heartRetry _ := 0
  heartCount _ := 0
  heartRecv _ := 0
  uploadFlag _ := 0
  syncRetry _ := 0
  id _ := 0
  bindId _ := 0

structure RemoteInfo where
  num : Nat
  id : Nat → UInt32

structure RadioQueue where
  nowNum : Nat
  targetNum : Nat
  type : Nat → UInt8
  tagetId : Nat → UInt32
  deviceId : Nat → UInt32
  counter : Nat → UInt8
  command : Nat → UInt8
  data : Nat → UInt8

/-- One frame written to the WiFi module by `wifi_uart_write_frame`. -/
inductive CloudFrame where
  | dpBool (dpid value : UInt8) (subId : Text)
  | dpValue (dpid : UInt8) (value : UInt32) (subId : Text)
  | dpEnum (dpid value : UInt8) (subId : Text)
  | heartBeat (subId : Text) (lowpower : UInt8)
  | subdeviceAdd (mcuVer pid : Text) (pkType : UInt8) (subId : Text) (channel ota : UInt8)
  | subdevDel (subId : Text)
  | addSubdevLimit (permit timeHigh timeLow : UInt8)
  | onlineState (all : UInt8) (devId : Text) (size state : UInt8)
  | subdeviceDeleteAck
  deriving DecidableEq, Repr

/-- The three points at which the sync thread blocks. -/
inductive SyncPc where
  | take | settle | wait
  deriving DecidableEq, Repr

structure SyncState where
  counter : Nat
  recv : Bool
  start : Bool
  onceSem : Nat
  timeoutT : Bool
  pc : SyncPc
  deriving DecidableEq, Repr

structure Gateway where
  selfId : UInt32
  globalDevice : DeviceInfo
  env : EnvLog
  remoteDevice : RemoteInfo
  queue433 : RadioQueue
  stopUpdateFlag : Bool
  cloud : List CloudFrame
  sync : SyncState

def RadioQueue.zero : RadioQueue where
  nowNum := 0
  targetNum := 0
  type _ := 0
  tagetId _ := 0
  deviceId _ := 0
  counter _ := 0
  command _ := 0
  data _ := 0

def isMain (id : UInt32) : Bool := 10000000 ≤ id && id < 20000000
def isSlave (id : UInt32) : Bool := 20000000 ≤ id && id < 30000000
def isDoor (id : UInt32) : Bool := 30000000 ≤ id && id < 40000000

/-- A registered device: a non-zero id in one of the slots `1..Num`. -/
def DeviceInfo.Registered (d : DeviceInfo) (id : UInt32) : Prop :=
  id ≠ 0 ∧ ∃ n, 1 ≤ n ∧ n ≤ d.num ∧ d.id n = id

def Gateway.emit (f : CloudFrame) (g : Gateway) : Gateway :=
  { g with cloud := g.cloud ++ [f] }

def Gateway.setTable (g : Gateway) (d : DeviceInfo) : Gateway := { g with globalDevice := d }

/-- Nothing but the frames sent to the cloud differs, and earlier frames stay. -/
def OnlyEmits (g g' : Gateway) : Prop :=
  ∃ fs, g' = { g with cloud := g.cloud ++ fs }

theorem OnlyEmits.refl (g : Gateway) : OnlyEmits g g := ⟨[],by simp⟩

theorem OnlyEmits.trans {g g' g'' : Gateway} (h : OnlyEmits g g') (h' : OnlyEmits g' g'') :
    OnlyEmits g g'' := by
  obtain ⟨fs,rfl⟩ := h
  obtain ⟨fs',rfl⟩ := h'
  exact ⟨fs ++ fs',by simp⟩

theorem OnlyEmits.emit (f : CloudFrame) (g : Gateway) : OnlyEmits g (g.emit f) :=
  ⟨[f],rfl⟩

end GatewayF411
