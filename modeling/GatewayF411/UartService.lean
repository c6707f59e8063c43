import GatewayF411.Ota
import GatewayF411.UartRing

set_option autoImplicit false

namespace GatewayF411
open Cells

def headFirst : Nat := 0
def headSecond : Nat := 1
def protocolVersion : Nat := 2
def frameFirst : UInt8 := 0x55
def frameSecond : UInt8 := 0xaa
def wifirUartSendBufLmt : Nat := 4096

def getCheckSum (pack : Nat → UInt8) : Nat → UInt8
  | 0 => 0
  | n+1 => getCheckSum pack n+pack n

def writeHead (frType frVer : UInt8) (len : UInt16) (txBuf : Nat → UInt8) : Nat → UInt8 :=
  let txBuf := Function.update txBuf headFirst 0x55
  let txBuf := Function.update txBuf headSecond 0xaa
  let txBuf := Function.update txBuf protocolVersion frVer
  let txBuf := Function.update txBuf frameType frType
  let txBuf := Function.update txBuf lengthHigh (len >>> 8).toUInt8
  Function.update txBuf lengthLow (len &&& 0xff).toUInt8

/-- The bytes sent and the transmit buffer afterwards. The data stand in the buffer from
`DATA_START` on before the call. -/
def wifiUartWriteFrame (frType frVer : UInt8) (len : UInt16) (txBuf : Nat → UInt8) :
    List UInt8 × (Nat → UInt8) :=
  let txBuf := writeHead frType frVer len txBuf
  let len := len+UInt16.ofNat protocolHead
  let txBuf := Function.update txBuf (len-1).toNat (getCheckSum txBuf (len-1).toNat)
  (slice txBuf 0 len.toNat,txBuf)

/-- The forward loop of `my_memcpy`. -/
def copyUp (dest src : Nat) : Nat → (Nat → UInt8) → Nat → UInt8
  | 0, mem => mem
  | n+1, mem => Function.update (copyUp dest src n mem) (dest+n) (copyUp dest src n mem (src+n))

/-- The backward loop of `my_memcpy`. -/
def copyDown (dest src : Nat) : Nat → (Nat → UInt8) → Nat → UInt8
  | 0, mem => mem
  | n+1, mem => copyDown dest src n (Function.update mem (dest+n) (mem (src+n)))

def myMemcpy (dest src count : Nat) (mem : Nat → UInt8) : Nat → UInt8 :=
  if dest ≤ src ∨ src+count < dest then copyUp dest src count mem else copyDown dest src count mem

/-- A call of `data_handle` with what the process buffer holds at that moment. -/
structure HandleCall where
  offset : Nat
  buf : Nat → UInt8

structure UartPort where
  ring : UartRing
  processBuf : Nat → UInt8
  rxIn : Nat
  handled : List HandleCall

def UartPort.init (rxBuf processBuf : Nat → UInt8) : UartPort := ⟨.init rxBuf,processBuf,0,[]⟩

/-- The first loop of `wifi_uart_service`: at most `n` bytes move to the process buffer. -/
def readLoop : Nat → UartPort → UartPort
  | 0, s => s
  | n+1, s =>
    if s.rxIn < processBufSize ∧ s.ring.hasData = true then
      readLoop n { s with
        ring := s.ring.readByte.2
        processBuf := Function.update s.processBuf s.rxIn s.ring.readByte.1
        rxIn := s.rxIn+1 }
    else s

def rxValueLen (buf : Nat → UInt8) (offset : Nat) : Nat :=
  ((buf (offset+lengthHigh)).toNat*0x100+((buf (offset+lengthLow)).toNat+protocolHead)) % 65536

/-- The second loop, from `offset` on: the calls of `data_handle` and the offset at which it
stops. Each iteration uses up fuel; `none` means that it ran out. -/
def parseLoop (buf : Nat → UInt8) (rxIn : Nat) : Nat → Nat → Option (List HandleCall × Nat)
  | 0, _ => none
  | fuel+1, offset =>
    if rxIn-offset < protocolHead then some ([],offset)
    else if buf (offset+headFirst) ≠ frameFirst then parseLoop buf rxIn fuel (offset+1)
    else if buf (offset+headSecond) ≠ frameSecond then parseLoop buf rxIn fuel (offset+1)
    else
      let len := rxValueLen buf offset
      if processBufSize < len then parseLoop buf rxIn fuel (offset+3)
      else if rxIn-offset < len then some ([],offset)
      else if getCheckSum (fun i => buf (offset+i)) ((len+65535) % 65536) ≠ buf (offset+len-1) then
        parseLoop buf rxIn fuel (offset+3)
      else (parseLoop buf rxIn fuel (offset+len)).map fun r => (⟨offset,buf⟩ :: r.1,r.2)

/-- The part of `wifi_uart_service` after its first loop. -/
def parseFrames (s : UartPort) : Option UartPort :=
  if s.rxIn < protocolHead then some s
  else (parseLoop s.processBuf s.rxIn (s.rxIn+1) 0).map fun r =>
    { s with
      handled := s.handled ++ r.1
      rxIn := s.rxIn-r.2
      processBuf := if 0 < s.rxIn-r.2 then myMemcpy 0 r.2 (s.rxIn-r.2) s.processBuf
        else s.processBuf }

def wifiUartService (s : UartPort) : Option UartPort :=
  parseFrames (readLoop (processBufSize-s.rxIn) s)

inductive UartEvent where
  | receiveInput (value : UInt8)
  | service
  deriving DecidableEq, Repr

def portStep (s : UartPort) : UartEvent → Option UartPort
  | .receiveInput value => some { s with ring := s.ring.receiveInput value }
  | .service => wifiUartService s

def portRun (s : UartPort) (es : List UartEvent) : Option UartPort := es.foldlM portStep s

end GatewayF411
