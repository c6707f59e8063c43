import GatewayF411.CloudReport

set_option autoImplicit false

namespace GatewayF411
open CText SlotScan

def findSlot (d : DeviceInfo) (deviceId : UInt32) : Option Nat :=
  scanDown (fun n => d.id n == deviceId) d.num

def flashGetKeyValid (d : DeviceInfo) (deviceId : UInt32) : RtErr :=
  if (findSlot d deviceId).isSome then .eok else .error

def slotValue {β : Type} (d : DeviceInfo) (field : Nat → β) (deviceId : UInt32) (absent : β) : β :=
  match findSlot d deviceId with
  | some num => field num
  | none => absent

def getBindId (d : DeviceInfo) (deviceId : UInt32) : UInt32 := slotValue d d.bindId deviceId 0
def flashGetHeart (d : DeviceInfo) (deviceId : UInt32) : UInt8 := slotValue d d.heart deviceId 0
def flashGetMoto (d : DeviceInfo) (deviceId : UInt32) : UInt8 := slotValue d d.moto deviceId 0
def flashGetRssi (d : DeviceInfo) (deviceId : UInt32) : UInt8 := slotValue d d.rssi deviceId 0
def flashGetUploadFlag (d : DeviceInfo) (deviceId : UInt32) : UInt8 :=
  slotValue d d.uploadFlag deviceId 0

def getDoorId (d : DeviceInfo) (mainId : UInt32) : UInt32 :=
  match scanDown (fun n => d.bindId n == mainId && decide (30000000 ≤ d.id n)) d.num with
  | some num => d.id num
  | none => 0

/-- First fit over the slots 1 to 49; a slot above `Num` raises the stored mark. -/
def getLearnNumsValid (g : Gateway) : Nat × Gateway :=
  match scanUp (fun n => g.globalDevice.id n == 0) (maxSupport-1) 1 with
  | some num =>
    if g.globalDevice.num < num then
      (num,{ g with
        globalDevice := { g.globalDevice with num := num }
        env := flashLearnNumsChange (UInt32.ofNat num) g.env })
    else (num,g)
  | none => (0,g)

def setMainNums (num : Nat) (g : Gateway) : Gateway :=
  { g with
    globalDevice := { g.globalDevice with mainNum := num }
    env := flashMainNumsChange (UInt32.ofNat num) g.env }

def addMainNums (g : Gateway) : Nat × Gateway :=
  let num := g.globalDevice.mainNum
  if num < mainSupport then (num+1,setMainNums (num+1) g) else (0,g)

def delMainNums (g : Gateway) : Nat × Gateway :=
  let num := g.globalDevice.mainNum
  if 0 < num then (num-1,setMainNums (num-1) g) else (0,g)

def getMainNums (d : DeviceInfo) : RtErr := if d.mainNum < mainSupport then .eok else .error

/-- The table and environment writes shared by the three `*Add_Flash` functions. -/
def placeDevice (num : Nat) (deviceId bindId : UInt32) (g : Gateway) : Gateway :=
  { g with
    globalDevice := { g.globalDevice with
      id := Function.update g.globalDevice.id num deviceId
      bindId := Function.update g.globalDevice.bindId num bindId
      heart := Function.update g.globalDevice.heart num 1 }
    env := flashHeartChange deviceId 1
      (flashBindChange deviceId bindId (flashIdChange (UInt32.ofNat num) deviceId g.env)) }

def addFlash (deviceId bindId : UInt32) (g : Gateway) : RtErr × Gateway :=
  let r := getLearnNumsValid g
  if r.1 = 0 then (.error,r.2) else (.eok,placeDevice r.1 deviceId bindId r.2)

def mainAddFlash (deviceId : UInt32) (g : Gateway) : RtErr × Gateway :=
  let r := addFlash deviceId 0 g
  match r.1 with
  | .eok => (.eok,(addMainNums r.2).2)
  | .error => r

def slaveAddFlash (deviceId bindId : UInt32) : Gateway → RtErr × Gateway :=
  addFlash deviceId bindId

def doorAddFlash (deviceId bindId : UInt32) : Gateway → RtErr × Gateway :=
  addFlash deviceId bindId

def remoteSlot (r : RemoteInfo) (deviceId : UInt32) : Option Nat :=
  scanDown (fun n => r.id n == deviceId) r.num

def remoteGetKeyValid (r : RemoteInfo) (deviceId : UInt32) : RtErr :=
  if (remoteSlot r deviceId).isSome then .eok else .error

def remoteDeviceDelete (deviceId : UInt32) (g : Gateway) : RtErr × Gateway :=
  match remoteSlot g.remoteDevice deviceId with
  | some num => (.eok,{ g with remoteDevice :=
      { g.remoteDevice with id := Function.update g.remoteDevice.id num 0 } })
  | none => (.error,g)

def localDelete (deviceId : UInt32) (g : Gateway) : Gateway :=
  let mainId := getBindId g.globalDevice deviceId
  let g := g.emit (.subdevDel (fmtLd deviceId))
  if 30000000 ≤ deviceId then reportValue 108 0 mainId g else g

/-- Frees a slot. The environment keys of bind and upload go by `keyId`, which is
the deleted device in `Del_Device` but the argument in `Del_MainBind`. -/
def clearSlot (num : Nat) (keyId : UInt32) (g : Gateway) : Gateway :=
  { g with
    globalDevice := { g.globalDevice with
      id := Function.update g.globalDevice.id num 0
      bindId := Function.update g.globalDevice.bindId num 0
      uploadFlag := Function.update g.globalDevice.uploadFlag num 0 }
    env := flashUploadFlagChange keyId 0
      (flashBindChange keyId 0 (flashIdChange (UInt32.ofNat num) 0 g.env)) }

def delDevice (deviceId : UInt32) (g : Gateway) : RtErr × Gateway :=
  match findSlot g.globalDevice deviceId with
  | some num =>
    let g := if isMain deviceId then (delMainNums g).2 else g
    let g := (remoteDeviceDelete deviceId g).2
    (.error,clearSlot num deviceId g)
  | none => (.error,g)

def delMainBindBody (deviceId : UInt32) (num : Nat) (g : Gateway) : Gateway :=
  if g.globalDevice.bindId num = deviceId ∨ g.globalDevice.id num = deviceId then
    let g := if isMain deviceId then (delMainNums g).2 else g
    let g := localDelete (g.globalDevice.id num) g
    clearSlot num deviceId g
  else g

def delMainBind (deviceId : UInt32) (g : Gateway) : RtErr × Gateway :=
  (.error,foldDown (delMainBindBody deviceId) g.globalDevice.num g)

def setSlaveHeartBody (deviceId : UInt32) (heart : UInt8) (num : Nat) (g : Gateway) : Gateway :=
  if g.globalDevice.bindId num = deviceId then
    if heart ≠ 0 then
      if g.globalDevice.heart num ≠ 0 then deviceUp (g.globalDevice.id num) g else g
    else deviceDown (g.globalDevice.id num) g
  else g

def setSlaveHeart (deviceId : UInt32) (heart : UInt8) (g : Gateway) : Gateway :=
  foldDown (setSlaveHeartBody deviceId heart) g.globalDevice.num g

def setHeartRecv (num : Nat) (g : Gateway) : Gateway :=
  g.setTable { g.globalDevice with heartRecv := Function.update g.globalDevice.heartRecv num 1 }

def changeHeart (num : Nat) (deviceId : UInt32) (heart : UInt8) (g : Gateway) : Gateway :=
  let g := setSlaveHeart deviceId heart g
  { g with
    env := flashHeartChange deviceId heart.toUInt32 g.env
    globalDevice := { g.globalDevice with heart := Function.update g.globalDevice.heart num heart } }

def flashSetHeart (deviceId : UInt32) (heart : UInt8) (g : Gateway) : RtErr × Gateway :=
  match findSlot g.globalDevice deviceId with
  | some num =>
    if heart ≠ 0 then
      let g := setHeartRecv num g
      (.eok,if g.globalDevice.heart num = 0 then changeHeart num deviceId 1 g else g)
    else
      (.eok,if g.globalDevice.heart num ≠ 0 then changeHeart num deviceId 0 g else g)
  | none => (.error,g)

def flashSetUploadFlag (deviceId : UInt32) (flag : UInt8) (g : Gateway) : RtErr × Gateway :=
  match findSlot g.globalDevice deviceId with
  | some num => (.eok,{ g with
      globalDevice := { g.globalDevice with
        uploadFlag := Function.update g.globalDevice.uploadFlag num flag }
      env := flashUploadFlagChange deviceId flag.toUInt32 g.env })
  | none => (.error,g)

def flashSetMoto (deviceId : UInt32) (flag : UInt8) (g : Gateway) : RtErr × Gateway :=
  match findSlot g.globalDevice deviceId with
  | some num => (.eok,g.setTable { g.globalDevice with
      moto := Function.update g.globalDevice.moto num flag })
  | none => (.error,g)

def flashSetRssi (deviceId : UInt32) (flag : UInt8) (g : Gateway) : RtErr × Gateway :=
  match findSlot g.globalDevice deviceId with
  | some num => (.eok,g.setTable { g.globalDevice with
      rssi := Function.update g.globalDevice.rssi num flag })
  | none => (.error,g)

def loadSlot (e : EnvLog) (i : Nat) (d : DeviceInfo) : DeviceInfo :=
  let id := flashGetKeyValue .id (UInt32.ofNat i) e
  let d := { d with id := Function.update d.id i id }
  if id ≠ 0 then
    { d with
      bindId := Function.update d.bindId i (flashGetKeyValue .bind id e)
      heart := Function.update d.heart i (flashGetKeyValue .heart id e).toUInt8
      uploadFlag := Function.update d.uploadFlag i (flashGetKeyValue .upload id e).toUInt8 }
  else d

def loadSlots (e : EnvLog) : Nat → DeviceInfo → DeviceInfo
  | 0, d => d
  | n+1, d => loadSlot e (n+1) (loadSlots e n d)

/-- Boot: the two counters are narrowed to a byte, then slots `1..Num` are read. -/
def loadDevice2Memory (e : EnvLog) : DeviceInfo :=
  let num := (flashGetLearnNums e).toNat % 256
  loadSlots e num { DeviceInfo.zero with
    num := num
    mainNum := (flashGetMainNums e).toNat % 256 }

theorem findSlot_sound {d : DeviceInfo} {id : UInt32} {n : Nat} (h : findSlot d id = some n) :
    1 ≤ n ∧ n ≤ d.num ∧ d.id n = id := by
  have hs := scanDown_sound h
  simpa using hs

theorem flashGetKeyValid_eok {d : DeviceInfo} {id : UInt32} :
    flashGetKeyValid d id = .eok ↔ ∃ n, 1 ≤ n ∧ n ≤ d.num ∧ d.id n = id := by
  have h := scanDown_isSome (p := fun n => d.id n == id) (n := d.num)
  simp only [beq_iff_eq] at h
  rw [← h]
  unfold flashGetKeyValid findSlot
  split <;> simp_all

theorem findSlot_eq_none {d : DeviceInfo} {id : UInt32} :
    findSlot d id = none ↔ flashGetKeyValid d id = .error := by
  unfold flashGetKeyValid
  cases findSlot d id <;> simp

end GatewayF411
