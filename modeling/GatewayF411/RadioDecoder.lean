import GatewayF411.WifiApi

/-!
`Radio_Decoder.c`: routing of a received 433 MHz buffer, the four parsers and the
sub-commands behind them. A parser fills an uninitialised local `Message`, so
every solver takes the earlier contents of that local as an argument.
-/

set_option autoImplicit false

namespace GatewayF411
open CText

structure Message where
  ack : Int
  type : Int
  targetId : Int
  fromId : Int
  deviceId : Int
  counter : Int
  command : Int
  data : Int
  rssi : Int
  deriving DecidableEq, Repr

def u32 (x : Int) : UInt32 := UInt32.ofInt x

def u8 (x : Int) : UInt8 := UInt8.ofInt x

def charAt (buffer : List UInt8) (i : Nat) : Char := Char.ofNat (buffer.getD i 0).toNat

def cString (buffer : List UInt8) (i : Nat) : Text :=
  ((buffer.drop i).takeWhile (fun b => b != 0)).map (fun b => Char.ofNat b.toNat)

def fiveFields : List Directive :=
  [.lit '{',.int,.lit ',',.int,.lit ',',.int,.lit ',',.int,.lit ',',.int,.lit '}']

def sevenFields : List Directive :=
  [.lit '{',.int,.lit ',',.int,.lit ',',.int,.lit ',',.int,.lit ',',.int,.lit ',',.int,.lit ',',
    .int,.lit '}']

def normalFields (buffer : List UInt8) : List Int := sscanf fiveFields (cString buffer 1)

def gatewayFields (buffer : List UInt8) : List Int := sscanf sevenFields (cString buffer 2)

def parseNormal (vs : List Int) (m : Message) : Message :=
  { m with
    targetId := vs.getD 0 m.targetId
    fromId := vs.getD 1 m.fromId
    counter := vs.getD 2 m.counter
    command := vs.getD 3 m.command
    data := vs.getD 4 m.data }

def parseSync (vs : List Int) (m : Message) : Message :=
  { m with
    ack := vs.getD 0 m.ack
    type := vs.getD 1 m.type
    targetId := vs.getD 2 m.targetId
    fromId := vs.getD 3 m.fromId
    deviceId := vs.getD 4 m.deviceId
    rssi := vs.getD 5 m.rssi
    data := vs.getD 6 m.data }

def parseReport (vs : List Int) (m : Message) : Message :=
  { m with
    ack := vs.getD 0 m.ack
    targetId := vs.getD 1 m.targetId
    fromId := vs.getD 2 m.fromId
    deviceId := vs.getD 3 m.deviceId
    rssi := vs.getD 4 m.rssi
    command := vs.getD 5 m.command
    data := vs.getD 6 m.data }

def checkValid (d : DeviceInfo) (fromId : UInt32) : RtErr := flashGetKeyValid d fromId

def deviceLearn (m : Message) (g : Gateway) : Gateway :=
  if flashGetKeyValid g.globalDevice (u32 m.fromId) ≠ .eok ∧ getMainNums g.globalDevice ≠ .eok then g
  else if 10000000 ≤ m.fromId ∧ m.fromId < 20000000 then
    match m.data with
    | 1 => radioEnqueue (u32 m.fromId) (u8 m.counter) 3 2 g
    | 2 => deviceAdd2FlashWifi (u32 m.fromId) 0 (delDevice (u32 m.fromId) g).2
    | _ => g
  else g

/-- The byte before the buffer, read when `rxLen` is 0, is `TxLen` and never CR. -/
def normalSolve (junk : Message) (buffer : List UInt8) (rxLen : Nat) (g : Gateway) : Gateway :=
  if charAt buffer rxLen = '\n' ∧ 1 ≤ rxLen ∧ charAt buffer (rxLen-1) = '\r' then
    let m := parseNormal (normalFields buffer) junk
    if u32 m.targetId = g.selfId then
      if m.fromId = 98989898 then g
      else
        let g := if m.command = 3 then deviceLearn m g else g
        heartUpload (u32 m.fromId) 1 g
    else g
  else g

def ackFrame (m : Message) (g : Gateway) : Gateway :=
  if m.ack ≠ 0 then gatewayDataEnqueue (u32 m.fromId) 0 0 7 0 g else g

/-- A frame about a sub-device also proves that the sub-device is alive. -/
def deviceSeen (m : Message) (g : Gateway) : Gateway :=
  slaveHeart (u32 m.deviceId) (u8 m.rssi) (deviceCheck (u32 m.deviceId) (u32 m.fromId) g)

/-- The calls that follow a sync frame of type 3 or 6: the device is online. -/
def syncOnline (m : Message) (g : Gateway) : Gateway :=
  let g := deviceAdd2FlashWifi (u32 m.deviceId) (u32 m.fromId) g
  let g := (flashSetHeart (u32 m.deviceId) 1 g).2
  let g := deviceUp (u32 m.deviceId) g
  let g := slaveHeart (u32 m.deviceId) (u8 m.rssi) g
  wariningUpload (u32 m.fromId) (u32 m.deviceId) 2 (u8 m.data) g

def syncOffline (m : Message) (g : Gateway) : Gateway :=
  let g := deviceAdd2FlashWifi (u32 m.deviceId) (u32 m.fromId) g
  let g := (flashSetHeart (u32 m.deviceId) 0 g).2
  let g := slaveHeart (u32 m.deviceId) (u8 m.rssi) g
  wariningUpload (u32 m.fromId) (u32 m.deviceId) 2 (u8 m.data) g

def syncCommand (m : Message) (g : Gateway) : Gateway :=
  match m.type with
  | 1 => deviceSeen m g
  | 2 => (delDevice (u32 m.deviceId) (localDelete (u32 m.deviceId) g)).2
  | 3 => syncOnline m (syncRefresh g)
  | 4 => (delMainBind (u32 m.fromId) g).2
  | 5 => syncOffline m (syncRefresh g)
  | 6 => syncOnline m g
  | _ => g

def gatewaySyncSolve (junk : Message) (rssi : Int) (buffer : List UInt8) (rxLen : Nat)
    (g : Gateway) : Gateway :=
  if charAt buffer rxLen = 'A' then
    let m := parseSync (gatewayFields buffer) junk
    if u32 m.targetId = g.selfId ∧ checkValid g.globalDevice (u32 m.fromId) = .eok then
      syncCommand m (heartUpload (u32 m.fromId) 1 (mainRssiReport (u32 m.fromId) rssi (ackFrame m g)))
    else g
  else g

def warningCommand (m : Message) (g : Gateway) : Gateway :=
  match m.command with
  | 1 => wariningUpload (u32 m.fromId) (u32 m.deviceId) 1 (u8 m.data) g
  | 2 => wariningUpload (u32 m.fromId) (u32 m.deviceId) 0 (u8 m.data) g
  | 3 => wariningUpload (u32 m.fromId) (u32 m.deviceId) 2 (u8 m.data) g
  | 4 => (flashSetHeart (u32 m.deviceId) 0 g).2
  | 5 => motoUpload (u32 m.fromId) 0
      (wariningUpload (u32 m.fromId) (u32 m.deviceId) 1 (u8 m.data) (deviceSeen m g))
  | 6 => wariningUpload (u32 m.fromId) (u32 m.deviceId) 2 (u8 m.data) (deviceSeen m g)
  | 7 => initWarnMain (u32 m.fromId) g
  | 8 => wariningUpload (u32 m.fromId) (u32 m.deviceId) 3 (u8 m.data) g
  | 9 => wariningUpload (u32 m.fromId) (u32 m.deviceId) 3 (u8 m.data) g
  | _ => g

def gatewayWarningSolve (junk : Message) (rssi : Int) (buffer : List UInt8) (rxLen : Nat)
    (g : Gateway) : Gateway :=
  if charAt buffer rxLen = 'B' then
    let m := parseReport (gatewayFields buffer) junk
    if u32 m.targetId = g.selfId ∧ checkValid g.globalDevice (u32 m.fromId) = .eok then
      warningCommand m (mainRssiReport (u32 m.fromId) rssi (heartUpload (u32 m.fromId) 1 (ackFrame m g)))
    else g
  else g

def controlCommand (m : Message) (g : Gateway) : Gateway :=
  match m.command with
  | 1 =>
    let g := motoUpload (u32 m.fromId) (u8 m.data) g
    if m.data = 0 then closeWarnMain (u32 m.fromId) g else g
  | 2 =>
    let g := deviceSeen m g
    if m.data = 0 ∨ m.data = 1 then
      let g := motoUpload (u32 m.fromId) (u8 m.data) g
      if m.data = 0 then closeWarnSlave (u32 m.deviceId) g else g
    else motoUpload (u32 m.fromId) 0 g
  | 3 =>
    if m.deviceId ≠ 0 then
      deviceSeen m (doorDelayWiFi (u32 m.fromId) (u32 m.deviceId) (u8 m.data) g)
    else g
  | 4 => motoUpload (u32 m.fromId) (u8 m.data) g
  | 5 =>
    let g := motoUpload (u32 m.fromId) (u8 m.data) (syncRefresh g)
    initWarnMain (u32 m.fromId) (ackReport (u32 m.fromId) g)
  | 6 =>
    let g := deviceSeen m (doorUpload (u32 m.deviceId) (u8 m.data) g)
    let g := motoUpload (u32 m.fromId) (u8 m.data) g
    if m.data = 0 then closeWarnSlave (u32 m.deviceId) g else g
  | _ => g

def gatewayControlSolve (junk : Message) (rssi : Int) (buffer : List UInt8) (rxLen : Nat)
    (g : Gateway) : Gateway :=
  if charAt buffer rxLen = 'C' then
    let m := parseReport (gatewayFields buffer) junk
    if u32 m.targetId = g.selfId ∧ checkValid g.globalDevice (u32 m.fromId) = .eok then
      controlCommand m (heartUpload (u32 m.fromId) 1 (mainRssiReport (u32 m.fromId) rssi (ackFrame m g)))
    else g
  else g

def rf433RxCallback (junk : Message) (rssi : Int) (buffer : List UInt8) (len : Nat)
    (g : Gateway) : Gateway :=
  match charAt buffer 1 with
  | '{' => normalSolve junk buffer len g
  | 'A' => gatewaySyncSolve junk rssi buffer len g
  | 'B' => gatewayWarningSolve junk rssi buffer len g
  | 'C' => gatewayControlSolve junk rssi buffer len g
  | _ => g

end GatewayF411
