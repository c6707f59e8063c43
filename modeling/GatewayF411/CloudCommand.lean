import GatewayF411.RadioDecoder

set_option autoImplicit false

namespace GatewayF411
open CText

/-- `subdevice_delete` once the JSON body gave `sub_id` and `tp`, with the reply. -/
def subdeviceDelete (subId : Text) (g : Gateway) : Gateway :=
  (remoteDelete (u32 (atol subId)) g).emit .subdeviceDeleteAck

/-- The text of node `i`: `id` starts one byte into its 33-byte record and is
read up to a NUL, at most to the end of the allocated block. -/
def nodeText (nodes : Nat → UInt8) (count i : Nat) : Text :=
  cString ((List.range (33*(count-i)-1)).map (fun j => nodes (33*i+1+j))) 0

/-- The node loop of `local_subdev_list`; `offset` is an `unsigned char`. -/
def subdevNodes (packet : List UInt8) (count : Nat) :
    (left offset : Nat) → (nodes : Nat → UInt8) → Gateway → Gateway
  | 0, _, _, g => g
  | left+1, offset, nodes, g =>
    let i := count-(left+1)
    let len := (packet.getD offset 0).toNat
    let nodes := fun a =>
      if 33*i ≤ a ∧ a ≤ 33*i+len then packet.getD (offset+(a-33*i)) 0 else nodes a
    let g := remoteDeviceAdd (u32 (atol (nodeText nodes count i))) g
    subdevNodes packet count left ((offset+len+1) % 256) nodes g

def localSubdevList (mallocOk : Bool) (packet : List UInt8) (g : Gateway) : Gateway :=
  if mallocOk then
    let count := (packet.getD 1 0).toNat
    let g := subdevNodes packet count count 2 (fun _ => 0) g
    if packet.getD 0 0 >>> 7 = 0 then syncRequest g else g
  else syncRequest g

def errorRet : UInt8 := 0

/-- `value` is the data of the record, `subId` the received bytes of the sub-device id. -/
def dpDownloadControlStateHandle (value subId : List UInt8) (g : Gateway) : UInt8 × Gateway :=
  let deviceId := u32 (atol (cString subId 0))
  let controlState := value.getD 0 0
  let g := if controlState = 0 then motoCloseRemote deviceId g else motoOpenRemote deviceId g
  let r := mcuDpBoolUpdate dpidControlState controlState
    (subId.map (fun b => Char.ofNat b.toNat)) g
  if r.1 = success then (success,r.2) else (errorRet,r.2)

end GatewayF411
