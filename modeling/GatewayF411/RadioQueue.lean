import GatewayF411.FlashWork

/-!
`Queue_433` of `Radio_Encoder.c`: slots `1..30` are filled upwards by the two
enqueue functions and handed out upwards by the `RadioDequeue` loop.
-/

set_option autoImplicit false

namespace GatewayF411

inductive RadioSent where
  | radioSend (tagetId : UInt32) (counter command data : UInt8)
  | gatewayDataSend (targetId deviceId : UInt32) (rssi control value : UInt8)
  deriving DecidableEq, Repr

def RadioQueue.gatewayDataEnqueue (targetId deviceId : UInt32) (rssi control value : UInt8)
    (q : RadioQueue) : RadioQueue :=
  if q.targetNum < 30 then
    let n := q.targetNum+1
    { q with
      type := Function.update q.type n 1
      tagetId := Function.update q.tagetId n targetId
      deviceId := Function.update q.deviceId n deviceId
      counter := Function.update q.counter n rssi
      command := Function.update q.command n control
      data := Function.update q.data n value
      targetNum := n }
  else q

/-- The slot keeps the `Device_Id` of an earlier message. -/
def RadioQueue.radioEnqueue (tagetId : UInt32) (counter command data : UInt8)
    (q : RadioQueue) : RadioQueue :=
  if q.targetNum < 30 then
    let n := q.targetNum+1
    { q with
      type := Function.update q.type n 0
      tagetId := Function.update q.tagetId n tagetId
      counter := Function.update q.counter n counter
      command := Function.update q.command n command
      data := Function.update q.data n data
      targetNum := n }
  else q

/-- One iteration of the loop in `RadioDequeue` and the call it makes. -/
def RadioQueue.radioDequeue (q : RadioQueue) : RadioQueue × Option RadioSent :=
  if q.nowNum = q.targetNum then ({ q with nowNum := 0, targetNum := 0 },none)
  else if 0 < q.targetNum ∧ q.nowNum < q.targetNum then
    let n := q.nowNum+1
    ({ q with nowNum := n },
      match q.type n with
      | 0 => some (.radioSend (q.tagetId n) (q.counter n) (q.command n) (q.data n))
      | 1 => some (.gatewayDataSend (q.tagetId n) (q.deviceId n) (q.counter n) (q.command n)
          (q.data n))
      | _ => none)
  else (q,none)

def gatewayDataEnqueue (targetId deviceId : UInt32) (rssi control value : UInt8)
    (g : Gateway) : Gateway :=
  { g with queue433 := g.queue433.gatewayDataEnqueue targetId deviceId rssi control value }

def radioEnqueue (tagetId : UInt32) (counter command data : UInt8) (g : Gateway) : Gateway :=
  { g with queue433 := g.queue433.radioEnqueue tagetId counter command data }

end GatewayF411
