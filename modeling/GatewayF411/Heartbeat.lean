import GatewayF411.System

set_option autoImplicit false

namespace GatewayF411
open CText SlotScan

def uploadMainId (deviceId : UInt32) (g : Gateway) : Gateway :=
  let g := reportValue dpidSelfId deviceId deviceId g
  reportBool dpidDeviceState (flashGetMoto g.globalDevice deviceId) deviceId g

def resetMainWarn (deviceId : UInt32) (g : Gateway) : Gateway :=
  let g := reportBool dpidDeviceAlarm 0 deviceId g
  let g := reportBool dpidLineState 0 deviceId g
  reportBool dpidTempState 0 deviceId g

def uploadSlaveId (deviceId fromId : UInt32) (g : Gateway) : Gateway :=
  let g := reportValue 107 fromId deviceId g
  reportEnum 101 (flashGetRssi g.globalDevice deviceId) deviceId g

def resetSlaveWarn (deviceId : UInt32) (g : Gateway) : Gateway :=
  reportBool 104 0 deviceId (reportEnum 1 0 deviceId g)

def uploadDoorId (deviceId fromId : UInt32) (g : Gateway) : Gateway :=
  let g := reportValue 107 fromId deviceId g
  let g := reportValue 108 deviceId fromId g
  reportEnum 101 (flashGetRssi g.globalDevice deviceId) deviceId g

/-- The first heartbeat after a registration uploads the ids and resets the warnings. -/
def selfBindUpload (deviceId : UInt32) (g : Gateway) : Gateway :=
  if flashGetUploadFlag g.globalDevice deviceId = 0 then
    let g := (flashSetUploadFlag deviceId 1 g).2
    if isMain deviceId then
      let g := uploadMainId deviceId g
      let g := uploadDoorId (getDoorId g.globalDevice deviceId) deviceId g
      resetMainWarn deviceId g
    else if isSlave deviceId then
      let g := resetSlaveWarn deviceId g
      uploadSlaveId deviceId (getBindId g.globalDevice deviceId) g
    else if isDoor deviceId then
      uploadDoorId deviceId (getBindId g.globalDevice deviceId) g
    else g
  else g

/-- A slave or door whose main is offline gets no answer at all. -/
def heartRequest (idBuf : Text) (g : Gateway) : Gateway :=
  let id := u32 (atol idBuf)
  let g := selfBindUpload id g
  let d := g.globalDevice
  if 20000000 ≤ id ∧ id < 40000000 then
    if flashGetHeart d (getBindId d id) ≠ 0 then
      if flashGetHeart d id ≠ 0 then deviceUp id g else deviceDown id g
    else g
  else if flashGetHeart d id ≠ 0 then deviceUp id g
  else deviceDown id g

/-- The points at which the heart thread sleeps: between two rounds, between two devices,
and while it waits for the device in slot `num` to answer. -/
inductive HeartPc where
  | rest | look | asked
  deriving DecidableEq, Repr

structure HeartState where
  num : Nat
  pc : HeartPc
  deriving DecidableEq, Repr

structure Station where
  gateway : Gateway
  heart : HeartState

def setHeartCounts (n : Nat) (retry count : UInt8) (g : Gateway) : Gateway :=
  g.setTable { g.globalDevice with
    heartRetry := Function.update g.globalDevice.heartRetry n retry
    heartCount := Function.update g.globalDevice.heartCount n count }

/-- Clears the receive flag of slot `n` and queues the question. -/
def heartAsk (n : Nat) (g : Gateway) : Gateway :=
  gatewayDataEnqueue (g.globalDevice.id n) 0 0 3 0 (g.setTable { g.globalDevice with
    heartRecv := Function.update g.globalDevice.heartRecv n 0 })

def heartLook (num : Nat) (s : Station) : Station :=
  let d := s.gateway.globalDevice
  match scanUp (fun n => d.id n != 0 && d.bindId n == 0) (d.num+1-num) num with
  | some n => ⟨heartAsk n s.gateway,⟨n,.asked⟩⟩
  | none => ⟨s.gateway,⟨d.num+1,.rest⟩⟩

def heartOutcome (n : Nat) (g : Gateway) : Gateway × Nat :=
  let d := g.globalDevice
  if d.heartRecv n ≠ 0 then (heartUpload (d.id n) 1 (setHeartCounts n 0 0 g),n+1)
  else if d.heartRetry n < 6 then (setHeartCounts n (d.heartRetry n+1) (d.heartCount n) g,n)
  else if d.heartCount n < 5 then (setHeartCounts n 0 (d.heartCount n+1) g,n+1)
  else (setHeartCounts n 0 0 (flashSetHeart (d.id n) 0 g).2,n+1)

def heartThread (s : Station) : Station :=
  match s.heart.pc with
  | .rest => heartLook 1 s
  | .look => heartLook s.heart.num s
  | .asked =>
    let r := heartOutcome s.heart.num s.gateway
    ⟨r.1,⟨r.2,.look⟩⟩

inductive StationEvent where
  | event (e : Event)
  | heartRequest (idBuf : Text)
  | heartThread

def stationStep (s : Station) : StationEvent → Station
  | .event e => ⟨step s.gateway e,s.heart⟩
  | .heartRequest idBuf => ⟨heartRequest idBuf s.gateway,s.heart⟩
  | .heartThread => heartThread s

def stationOn (selfId : UInt32) : Station := ⟨powerOn selfId [],⟨1,.rest⟩⟩

end GatewayF411
