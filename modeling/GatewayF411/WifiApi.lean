import GatewayF411.RadioQueue

set_option autoImplicit false

namespace GatewayF411
open CText SlotScan

/-- One of the three cases of `Device_Add2Flash_Wifi`: register an unknown id, and
announce an id that the cloud list does not hold. -/
def addDeviceCase (deviceId : UInt32) (addFlash : Gateway → RtErr × Gateway)
    (addWiFi : UInt32 → Gateway → Gateway) (g : Gateway) : Gateway :=
  let g := if flashGetKeyValid g.globalDevice deviceId = .error then (addFlash g).2 else g
  if remoteGetKeyValid g.remoteDevice deviceId = .error then
    addWiFi deviceId (flashSetUploadFlag deviceId 0 g).2
  else g

def deviceAdd2FlashWifi (deviceId fromId : UInt32) (g : Gateway) : Gateway :=
  let g := if isMain deviceId then
    addDeviceCase deviceId (mainAddFlash deviceId) mainAddWiFi g else g
  if isSlave deviceId then addDeviceCase deviceId (slaveAddFlash deviceId fromId) slaveAddWiFi g
  else if isDoor deviceId then addDeviceCase deviceId (doorAddFlash deviceId fromId) doorAddWiFi g
  else g

def remoteDelete (deviceId : UInt32) (g : Gateway) : Gateway :=
  let bind := getBindId g.globalDevice deviceId
  let g := gatewayDataEnqueue bind deviceId 0 6 0 g
  let g := (delDevice deviceId g).2
  if 30000000 ≤ deviceId then reportValue dpidDoorId 0 bind g else g

def slaveHeart (deviceId : UInt32) (rssi : UInt8) (g : Gateway) : Gateway :=
  reportEnum 101 rssi deviceId (flashSetRssi deviceId rssi g).2

def motoUpload (deviceId : UInt32) (state : UInt8) (g : Gateway) : Gateway :=
  let g := remoteDelayWiFi deviceId 0 g
  reportBool dpidDeviceState state deviceId (flashSetMoto deviceId state g).2

def deviceCheck (deviceId _fromId : UInt32) (g : Gateway) : Gateway :=
  (flashSetHeart deviceId 1 g).2

def heartUpload (deviceId : UInt32) (heart : UInt8) (g : Gateway) : Gateway :=
  (flashSetHeart deviceId heart (heartBeatReport (fmtLd deviceId) 0 g)).2

def motoCloseRemote (deviceId : UInt32) : Gateway → Gateway := gatewayDataEnqueue deviceId 0 0 2 0
def motoOpenRemote (deviceId : UInt32) : Gateway → Gateway := gatewayDataEnqueue deviceId 0 0 2 1
def ackReport (deviceId : UInt32) : Gateway → Gateway := gatewayDataEnqueue deviceId 0 0 5 1

def remoteDeviceAdd (deviceId : UInt32) (g : Gateway) : Gateway :=
  let n := (g.remoteDevice.num+1) % 256
  { g with remoteDevice := { num := n, id := Function.update g.remoteDevice.id n deviceId } }

def remoteDeviceClear (g : Gateway) : Gateway :=
  { g with remoteDevice := { num := 0, id := fun _ => 0 } }

def getMainValid (deviceId bindId : UInt32) : RtErr :=
  if 0 < deviceId ∧ deviceId < 20000000 ∧ bindId = 0 then .eok else .error

/-- `while(Num--)` looks at the slots strictly below `Sync_Counter`, slot 0 included. -/
def getNextMain (g : Gateway) : RtErr × Gateway :=
  let d := g.globalDevice
  match scanDown (fun n => getMainValid (d.id (n-1)) (d.bindId (n-1)) == .eok) g.sync.counter with
  | some n => (.eok,{ g with sync := { g.sync with counter := n-1 } })
  | none => (.error,g)

def releaseOnceSem (g : Gateway) : Gateway :=
  { g with sync := { g.sync with onceSem := g.sync.onceSem+1 } }

def syncTimeoutCallback (g : Gateway) : Gateway :=
  match getNextMain g with
  | (.eok,g) => releaseOnceSem g
  | (.error,g) => { g with sync := { g.sync with start := false } }

/-- Expiry of the one-shot timer `Sync_Timeout_t`. -/
def syncTimeout (g : Gateway) : Gateway :=
  if g.sync.timeoutT then
    syncTimeoutCallback { g with sync := { g.sync with timeoutT := false } }
  else g

def setSyncRetry (num : Nat) (v : UInt8) (g : Gateway) : Gateway :=
  g.setTable { g.globalDevice with syncRetry := Function.update g.globalDevice.syncRetry num v }

/-- What the sync thread does after the first delay, until it blocks again. -/
def syncSettle (g : Gateway) : Gateway :=
  let n := g.sync.counter
  let id := g.globalDevice.id n
  if id = 0 then { g with sync := { g.sync with pc := .take } }
  else
    let g := deviceAdd2FlashWifi id 0 g
    if g.globalDevice.syncRetry n < 3 then
      let g := gatewayDataEnqueue (g.globalDevice.id n) 0 0 4 0
        { g with sync := { g.sync with recv := false } }
      { g with sync := { g.sync with pc := .wait } }
    else
      let g := { g with sync := { g.sync with timeoutT := false, pc := .take } }
      match getNextMain g with
      | (.eok,g) => releaseOnceSem g
      | (.error,g) => setSyncRetry g.sync.counter 0 g

/-- What it does after the second delay. -/
def syncWait (g : Gateway) : Gateway :=
  let g := { g with sync := { g.sync with pc := .take } }
  if g.sync.recv then g
  else
    let n := g.sync.counter
    releaseOnceSem (setSyncRetry n (g.globalDevice.syncRetry n+1) g)

/-- The next step of `Sync_t_Callback`; without a semaphore unit the thread blocks. -/
def syncThread (g : Gateway) : Gateway :=
  match g.sync.pc with
  | .take =>
    if 0 < g.sync.onceSem then
      { g with sync := { g.sync with onceSem := g.sync.onceSem-1, start := true, pc := .settle } }
    else g
  | .settle => syncSettle g
  | .wait => syncWait g

def syncRequest (g : Gateway) : Gateway :=
  let g := { g with sync := { g.sync with timeoutT := false, counter := g.globalDevice.num } }
  releaseOnceSem (getNextMain g).2

def syncRefresh (g : Gateway) : Gateway :=
  if g.sync.start then
    let g := setSyncRetry g.sync.counter 0 g
    { g with sync := { g.sync with recv := true, timeoutT := true } }
  else g

end GatewayF411
