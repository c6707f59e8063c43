import GatewayF411.CloudCommand

/-!
The gateway as one state machine. Every event is handled without interruption:
a received radio buffer, a command of the WiFi module, a step of the sync thread
between two blocking calls, the expiry of its timer, an iteration of the queue.
-/

set_option autoImplicit false

namespace GatewayF411
open CText

inductive Event where
  | radio (junk : Message) (rssi : Int) (buffer : List UInt8) (len : Nat)
  | subdeviceDelete (subId : Text)
  | subdevList (mallocOk : Bool) (packet : List UInt8)
  | controlState (value subId : List UInt8)
  | syncThread
  | syncTimeout
  | radioDequeue

def step (g : Gateway) : Event → Gateway
  | .radio junk rssi buffer len => rf433RxCallback junk rssi buffer len g
  | .subdeviceDelete subId => subdeviceDelete subId g
  | .subdevList mallocOk packet => localSubdevList mallocOk packet g
  | .controlState value subId => (dpDownloadControlStateHandle value subId g).2
  | .syncThread => syncThread g
  | .syncTimeout => syncTimeout g
  | .radioDequeue => { g with queue433 := g.queue433.radioDequeue.1 }

def run (g : Gateway) (es : List Event) : Gateway := es.foldl step g

/-- Boot from the persisted environment; everything else starts at zero. -/
def powerOn (selfId : UInt32) (e : EnvLog) : Gateway where
  selfId := selfId
  globalDevice := loadDevice2Memory e
  env := e
  remoteDevice := { num := 0, id := fun _ => 0 }
  queue433 := .zero
  stopUpdateFlag := false
  cloud := []
  sync := { counter := 1, recv := false, start := false, onceSem := 0, timeoutT := false, pc := .take }

def Reachable (g : Gateway) : Prop := ∃ selfId es, g = run (powerOn selfId []) es

def Message.zero : Message := ⟨0,0,0,0,0,0,0,0,0⟩

/-- The buffer of a received text: its length byte, then the characters. -/
def radioBuffer (text : Text) : List UInt8 :=
  UInt8.ofNat text.length :: text.map (fun c => UInt8.ofNat c.toNat)

def radioText (text : Text) : Event := .radio .zero (-60) (radioBuffer text) text.length

/-- The learn frame of main `1000000c`. -/
def learnMain (c : Char) : Event :=
  radioText ['{','4','0','0','0','0','0','0','0',',','1','0','0','0','0','0','0',c,',',
    '1',',','3',',','2','}','0','0','\r','\n']

end GatewayF411
